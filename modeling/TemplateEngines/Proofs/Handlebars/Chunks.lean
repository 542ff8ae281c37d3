/-
Rendering texts and names. A template that is put together from texts without opening braces and
from names of values compiles to the chunks one after the other, adjacent texts in one element
(`Compiled`), and is rendered chunk by chunk (`evaluate_template`).
-/
import TemplateEngines.Proofs.Handlebars.Plain
import TemplateEngines.Proofs.Handlebars.Reading
import TemplateEngines.Proofs.Handlebars.Writing

namespace TemplateEngines.Handlebars

/-- A text that contains neither opening braces nor backslashes, or a name that is no helper's. -/
def IsPlain : Chunk → Prop
  | .text s => ∀ c ∈ s.toList, c ≠ '{' ∧ c ≠ '\\'
  | .key k => IsName k.toList ∧ Helper.ofName? k = none

/-- What a tag stands for that names an absent parameter. -/
def ifAbsent (strict : Bool) (name : String) : Except Fault String :=
  if strict then .error (.missingValue (some name)) else .ok ""

/-! ## Compiling -/

/-- The element of a text, if there is any. -/
def textElement (text : List Char) : Template :=
  if text.isEmpty then [] else [(⟨1, 1⟩, .text (String.ofList text))]

/-- A template consists of a text, of which `pending` is the start, and the chunks after it. -/
inductive Compiled : List Char → List Chunk → Template → Prop where
  | nil (pending : List Char) : Compiled pending [] (textElement pending)
  | text {pending : List Char} {s : String} {rest : List Chunk} {t : Template} :
    Compiled (pending ++ s.toList) rest t → Compiled pending (.text s :: rest) t
  | key (pending : List Char) {k : String} (position : Position) {rest : List Chunk} {t : Template} :
    Compiled [] rest t →
      Compiled pending (.key k :: rest)
        (textElement pending ++ (position, .value (.ofName k)) :: t)

theorem textPiece_plain (text : List Char) :
    List.Forall₂ Piece.Plain (textPiece text text) (textElement text) := by
  unfold textPiece textElement
  split
  · exact .nil
  · exact .cons (.text _ _) .nil

theorem tokenAt_plain (before after : List Char) (k : String) :
    Piece.Plain (.tag (tokenAt before after (.value (.ofName k)) false false))
      (positionAfter before, .value (.ofName k)) := .value rfl rfl rfl rfl

/-- The pieces of a text and chunks after it are those of the template that they compile to. -/
theorem piecesFrom_chunks {chunks : List Chunk} (h : ∀ c ∈ chunks, IsPlain c) {fuel : Nat}
    (hfuel : (Chunk.keys chunks).length < fuel) (before : List Char) {pending : List Char}
    (hpending : ∀ c ∈ pending, c ≠ '{' ∧ c ≠ '\\') :
    ∃ ps t, piecesFrom fuel before (pending ++ chunks.flatMap (Chunk.written 2)) = some ps ∧
      List.Forall₂ Piece.Plain ps t ∧ Compiled pending chunks t := by
  induction chunks generalizing fuel before pending with
  | nil =>
    obtain _ | fuel := fuel
    · omega
    · refine ⟨_, _, ?_, textPiece_plain pending, .nil pending⟩
      rw [List.flatMap_nil, List.append_nil, piecesFrom_text hpending]
  | cons c rest ih =>
    obtain ⟨hc, hrest⟩ := List.forall_mem_cons.1 h
    cases c with
    | text s =>
      -- Adjacent texts make one piece, so this one waits with the text before it.
      have hmore : ∀ c ∈ pending ++ s.toList, c ≠ '{' ∧ c ≠ '\\' :=
        List.forall_mem_append.2 ⟨hpending, hc⟩
      obtain ⟨ps, t, hps, hplain, ht⟩ := ih hrest hfuel before hmore
      refine ⟨ps, t, ?_, hplain, .text ht⟩
      rw [← hps, List.flatMap_cons, List.append_assoc]
      rfl
    | key k =>
      obtain _ | fuel := fuel
      · omega
      · have hwritten : Chunk.written 2 (.key k) ++ rest.flatMap (Chunk.written 2) =
            '{' :: '{' :: (k.toList ++ '}' :: '}' :: rest.flatMap (Chunk.written 2)) := by
          simp [Chunk.written, List.replicate]
        have htag := readTag_name hc.1 (rest.flatMap (Chunk.written 2))
        rw [String.ofList_toList] at htag
        obtain ⟨ps, t, hps, hplain, ht⟩ := ih hrest (Nat.lt_of_succ_lt_succ hfuel)
          _ (List.forall_mem_nil _)
        rw [List.flatMap_cons, hwritten, piecesFrom_value hpending fuel before htag]
        have htoken := tokenAt_plain (pending.reverse ++ before) (rest.flatMap (Chunk.written 2)) k
        refine ⟨_, _, ?_, List.rel_append (textPiece_plain pending) (.cons htoken hplain),
          .key pending _ ht⟩
        exact congrArg (Option.map _) hps

/-- A template of plain chunks compiles. -/
theorem compile_template {chunks : List Chunk} (h : ∀ c ∈ chunks, IsPlain c) :
    ∃ t, (∀ refusedAt, compile (Chunk.template 2 chunks) refusedAt = .ok t) ∧
      Compiled [] chunks t := by
  have hfuel := Nat.lt_succ_of_le (Chunk.length_keys_le Nat.two_pos chunks)
  obtain ⟨ps, t, hps, hplain, ht⟩ := piecesFrom_chunks h hfuel [] (List.forall_mem_nil _)
  refine ⟨t, compile_of_plain ?_ hplain, ht⟩
  rw [Chunk.template, String.toList_ofList]
  exact hps

/-! ## Rendering -/

section Rendering

variable (strict : Bool) (around : Surroundings) (render : Renderer) {params : Params} {k : String}

theorem templateText_of_isScalar {v : Json} (h : v.isScalar) : v.templateText = v.valueText := by
  cases v with
  | array | object => cases h
  | _ => rfl

theorem renderElement_text (s : String) :
    (renderElement render (.start strict around params) (.text s)).Writes (.ok s) :=
  fun _ => ⟨_, rfl, rfl⟩

theorem renderElement_name (hk : Helper.ofName? k = none)
    (hscalar : (params.get? k).all Json.isScalar) :
    (renderElement render (.start strict around params) (.value (.ofName k))).Writes
      ((Chunk.key k).value (ifAbsent strict) params) := by
  have hrecord := Render.Writes.emit
    ⟨.debug, .handlebarsRenderer, "Rendering value: " ++ (Expression.ofName k).head.describe⟩
  cases hv : params.get? k with
  | some v =>
    rw [hv, Option.all_some] at hscalar
    rw [Chunk.value_key_of_some hv, ← templateText_of_isScalar hscalar]
    simp only [renderElement, Expression.isBare, Expression.ofName, renderBare, Param.headName, hk,
      Param.evaluate, Render.find, find_name, hv, pure_bind]
    exact hrecord.after (.write _)
  | none =>
    rw [Chunk.value_key_of_none hv]
    simp only [renderElement, Expression.isBare, Expression.ofName, renderBare, Param.headName, hk,
      Param.evaluate, Render.find, find_name, hv, pure_bind]
    cases strict with
    | true => exact hrecord.after (.fail _)
    | false => exact hrecord.after .done

theorem renderElements_text (text : List Char) {rest : Template} {e : Except Fault String}
    (h : (renderElements render (.start strict around params) rest).Writes e) :
    (renderElements render (.start strict around params) (textElement text ++ rest)).Writes
      (Chunk.putBefore (String.ofList text) e) := by
  unfold textElement
  split
  · next hempty =>
    rw [List.isEmpty_iff.1 hempty, List.nil_append, String.ofList_nil, Chunk.putBefore_empty]
    exact h
  · exact renderElements_cons render (renderElement_text strict around render _) h

theorem renderElements_textElement (params : Params) (text : List Char) :
    (renderElements render (.start strict around params) (textElement text)).Writes
      (.ok (String.ofList text)) := by
  have h : (renderElements render (.start strict around params) (textElement text ++ [])).Writes
      (Chunk.putBefore (String.ofList text) (.ok "")) :=
    renderElements_text strict around render text .done
  rwa [List.append_nil, Chunk.putBefore_ok, String.append_empty] at h

/-- The elements are rendered as the chunks that they have been compiled from. -/
theorem renderElements_compiled {pending : List Char} {chunks : List Chunk} {t : Template}
    (h : Compiled pending chunks t) (hchunks : ∀ c ∈ chunks, IsPlain c)
    (hscalar : ∀ k ∈ Chunk.keys chunks, (params.get? k).all Json.isScalar) :
    (renderElements render (.start strict around params) t).Writes
      (Chunk.putBefore (String.ofList pending) (Chunk.fill (ifAbsent strict) params chunks)) := by
  induction h with
  | nil pending =>
    rw [Chunk.fill, Chunk.putBefore_ok, String.append_empty]
    exact renderElements_textElement strict around render params pending
  | @text pending s rest t _ ih =>
    have hrest := ih (List.forall_mem_cons.1 hchunks).2 hscalar
    rwa [String.ofList_append, String.ofList_toList, Chunk.putBefore_append] at hrest
  | @key pending k position rest t _ ih =>
    have hrest := ih (List.forall_mem_cons.1 hchunks).2
      fun key hkey => hscalar key (List.mem_cons_of_mem k hkey)
    have hk := renderElement_name strict around render
      (hchunks _ List.mem_cons_self).2 (hscalar k List.mem_cons_self)
    rw [String.ofList_nil, Chunk.putBefore_empty] at hrest
    exact renderElements_text strict around render pending (renderElements_cons render hk hrest)

end Rendering

section Evaluate

variable (strict : Bool) (around : Surroundings) {params : Params} {chunks : List Chunk}

/-- A template of plain chunks is rendered as its chunks. -/
theorem evaluate_template (h : ∀ c ∈ chunks, IsPlain c)
    (hscalar : ∀ k ∈ Chunk.keys chunks, (params.get? k).all Json.isScalar) :
    match Chunk.fill (ifAbsent strict) params chunks with
    | .ok text =>
      (evaluate strict around (some (Chunk.template 2 chunks)) (some params)).value =
        .ok (.string text)
    | .error fault => ∃ position,
      (evaluate strict around (some (Chunk.template 2 chunks)) (some params)).value =
        .error (.render (PlacedFault.message { fault, position })) := by
  obtain ⟨t, hcompile, ht⟩ := compile_template h
  have hwrites := renderElements_compiled strict around
    (render ((Chunk.template 2 chunks).length + 65535)) ht h hscalar
  rw [String.ofList_nil, Chunk.putBefore_empty] at hwrites
  cases hfill : Chunk.fill (ifAbsent strict) params chunks with
  | ok text =>
    rw [hfill] at hwrites
    exact value_evaluate_of_writes strict around (hcompile _) hwrites
  | error fault =>
    rw [hfill] at hwrites
    exact value_evaluate_of_fails strict around (hcompile _) hwrites

theorem evaluate_template_of_present (h : ∀ c ∈ chunks, IsPlain c)
    (hscalar : ∀ k ∈ Chunk.keys chunks, (params.get? k).all Json.isScalar)
    (hpresent : Chunk.absent? params chunks = none) :
    (evaluate strict around (some (Chunk.template 2 chunks)) (some params)).value =
      .ok (.string (Chunk.filled params chunks)) := by
  have := evaluate_template strict around h hscalar
  rwa [Chunk.fill_of_present hpresent] at this

theorem evaluate_template_of_absent (h : ∀ c ∈ chunks, IsPlain c)
    (hscalar : ∀ k ∈ Chunk.keys chunks, (params.get? k).all Json.isScalar) {k : String}
    (habsent : Chunk.absent? params chunks = some k) :
    ∃ position, (evaluate true around (some (Chunk.template 2 chunks)) (some params)).value =
      .error (.render (PlacedFault.message { fault := .missingValue (some k), position })) := by
  have hrefused : ifAbsent true k = .error (.missingValue (some k)) := rfl
  have := evaluate_template true around h hscalar
  rwa [Chunk.fill_of_absent hrefused habsent] at this

end Evaluate

end TemplateEngines.Handlebars
