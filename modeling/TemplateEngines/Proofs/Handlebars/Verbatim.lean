/-
Templates without tags. Tags and their escapes start with two opening braces side by side, so a text
without such a pair is one piece, whatever backslashes, closing braces and white space are in it
(`takeText_verbatim`). It is rendered as it stands, as by the engine that leaves every template alone
(`evaluate_verbatim`).
-/
import TemplateEngines.Engine.Builtin
import TemplateEngines.Proofs.Handlebars.Chunks

namespace TemplateEngines.Handlebars

section Verbatim

variable {cs : List Char} (h : ¬ ['{', '{'] <:+: cs)

include h

theorem skipText_verbatim {rest : List Char} (hrest : rest <:+ cs) :
    (skipText ['{', '{'] rest).isSome = false := by
  rw [Option.isSome_eq_false_iff, Option.isNone_iff_eq_none, Option.eq_none_iff_forall_ne_some]
  intro after hafter
  rw [skipText_eq_some hafter] at hrest
  exact h ((List.prefix_append _ _).isInfix.trans hrest.isInfix)

/-- Neither the end of the text nor a backslash that means something is found before the end. -/
theorem takeText_verbatim : takeText ['{', '{'] cs = (cs, []) := by
  fun_induction takeText ['{', '{'] cs with
  | case1 => rfl
  | case2 rest => exact absurd ⟨['\\'], _, rfl⟩ h
  | case3 rest => exact absurd ⟨['\\'], _, rfl⟩ h
  | case4 c rest _ _ hstop =>
    rw [skipText_verbatim h List.suffix_rfl] at hstop
    cases hstop
  | case5 c rest _ _ after hescape =>
    -- A run of backslashes only means something in front of a tag.
    have hafter : after <:+ c :: rest :=
      (List.dropWhile_suffix _).trans (List.suffix_cons c rest)
    rw [skipText_verbatim h hafter, Bool.and_false] at hescape
    cases hescape
  | case6 c rest _ _ after hescape text rest' htake hstop ih =>
    have hrest : ¬ ['{', '{'] <:+: rest := fun hpair =>
      h (hpair.trans (List.suffix_cons c rest).isInfix)
    rw [if_neg hstop, if_neg hescape, ih hrest]

end Verbatim

theorem compile_verbatim {source : String} (h : ¬ ['{', '{'] <:+: source.toList)
    (refusedAt : String → Position) :
    compile source refusedAt = .ok (textElement source.toList) :=
  compile_of_plain (piecesFrom_of_takeText (takeText_verbatim h) source.toList.length [])
    (textPiece_plain source.toList) refusedAt

/-- A template without two opening braces side by side is accepted and rendered as it stands, with
any parameters or none and in both modes. So Handlebars then gives what the engine gives that leaves
every template alone. -/
theorem evaluate_verbatim {source : String} (h : ¬ ['{', '{'] <:+: source.toList) (strict : Bool)
    (around : Surroundings) (params : Option Params) :
    (evaluate strict around (some source) params).value = .ok (.string source) ∧
      validate source around.refusedAt = .ok () ∧
      (Engine.evaluate (Builtin.handlebars strict) around (some source) params).value =
        (Engine.evaluate Builtin.passthrough around (some source) params).value := by
  have hwrites : (renderElements (render (source.length + 65535))
      (.start strict around (params.getD [])) (textElement source.toList)).Writes (.ok source) := by
    have hseq := renderElements_textElement strict around (render (source.length + 65535))
      (params.getD []) source.toList
    rwa [String.ofList_toList] at hseq
  have hvalue := value_evaluate_of_writes strict around (compile_verbatim h _) hwrites
  rw [← evaluate_getD] at hvalue
  refine ⟨hvalue, validate_of_ok (compile_verbatim h _), ?_⟩
  show Outcome.ofExcept (evaluate strict around (some source) params).value = _
  rw [hvalue]
  rfl

/-- Backslashes, closing braces and single opening ones, white space at both ends and a NUL. -/
theorem evaluate_verbatim_marks :
    let source := " \t\\\\\x7b \x7b\x7d\x7d\\\x7b!é\x00\r\n \x7b"
    ¬ ['{', '{'] <:+: source.toList ∧
      (evaluate true .bare (some source) none).value = .ok (.string source) := by
  intro source
  have hsource : ¬ ['{', '{'] <:+: source.toList := by decide +kernel
  exact ⟨hsource, (evaluate_verbatim hsource true .bare none).1⟩

end TemplateEngines.Handlebars
