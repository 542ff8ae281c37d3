/-
Templates put together from texts and keys. Engines mark keys by braces, so one list of chunks is a
template for each of them (`Chunk.template`). What the list stands for (`Chunk.fill`) depends on
the engine only where a parameter is absent.
-/
import TemplateEngines.Json.Printer

namespace TemplateEngines

/-- Whether a value is neither an array nor an object. -/
def Json.isScalar : Json → Bool
  | .array _ | .object _ => false
  | _ => true

/-- A part of a template: a text, or the key of a parameter. -/
inductive Chunk where
  | text (s : String)
  | key (k : String)
deriving DecidableEq, Repr

namespace Chunk

/-! ## Writing chunks -/

/-- A chunk as it stands in a template that marks keys by so many braces on either side. -/
def written (braces : Nat) : Chunk → List Char
  | .text s => s.toList
  | .key k => List.replicate braces '{' ++ k.toList ++ List.replicate braces '}'

/-- The template that the chunks make up. -/
def template (braces : Nat) (chunks : List Chunk) : String :=
  String.ofList (chunks.flatMap (written braces))

/-! ## Keys -/

def key? : Chunk → Option String
  | .text _ => none
  | .key k => some k

/-- The keys in the order in which they are referenced. -/
def keys (chunks : List Chunk) : List String := chunks.filterMap key?

/-- Every key takes up some room, if it is marked at all. -/
theorem length_keys_le {braces : Nat} (h : 0 < braces) (chunks : List Chunk) :
    (keys chunks).length ≤ (chunks.flatMap (written braces)).length := by
  induction chunks with
  | nil => exact Nat.le_refl 0
  | cons c rest ih =>
    rw [List.flatMap_cons, List.length_append]
    cases c with
    | text s => exact Nat.le_trans ih (Nat.le_add_left _ _)
    | key k =>
      have hlen : (keys (.key k :: rest)).length = (keys rest).length + 1 := rfl
      have hwritten : 0 < (written braces (.key k)).length := by
        simp only [written, List.length_append, List.length_replicate]
        omega
      omega

/-- The first referenced key without a parameter. -/
def absent? (params : Params) (chunks : List Chunk) : Option String :=
  (keys chunks).find? fun k => !params.contains k

section Absent

variable {params : Params} {k : String} {rest : List Chunk}

theorem absent?_key_of_none (h : params.get? k = none) :
    absent? params (.key k :: rest) = some k := by
  simp [absent?, keys, key?, Dict.contains, h]

theorem absent?_key_of_some {v : Json} (h : params.get? k = some v) :
    absent? params (.key k :: rest) = absent? params rest := by
  simp [absent?, keys, key?, Dict.contains, h]

theorem absent?_eq_none_iff {chunks : List Chunk} :
    absent? params chunks = none ↔ ∀ k ∈ keys chunks, params.contains k := by
  rw [absent?, List.find?_eq_none]
  simp

theorem absent?_eq_some {chunks : List Chunk} (h : absent? params chunks = some k) :
    k ∈ keys chunks ∧ ¬ params.contains k := by
  refine ⟨List.mem_of_find?_eq_some h, ?_⟩
  simpa using List.find?_some h

end Absent

/-! ## Filling in parameters -/

/-- The text of a chunk; an absent parameter has none. -/
def shown (params : Params) : Chunk → String
  | .text s => s
  | .key k => (params.get? k).elim "" Json.valueText

/-- The texts of the chunks one after the other. -/
def filled (params : Params) (chunks : List Chunk) : String :=
  String.join (chunks.map (shown params))

section Fill

variable {ε : Type}

/-- A text in front of what is written after it, if anything is. -/
def putBefore (text : String) (e : Except ε String) : Except ε String := e.map (text ++ ·)

@[simp] theorem putBefore_ok (text s : String) :
    putBefore text (.ok s : Except ε String) = .ok (text ++ s) := rfl

@[simp] theorem putBefore_error (text : String) (e : ε) : putBefore text (.error e) = .error e := rfl

@[simp] theorem putBefore_empty (e : Except ε String) : putBefore "" e = e := by
  cases e <;> simp

theorem putBefore_append (s t : String) (e : Except ε String) :
    putBefore (s ++ t) e = putBefore s (putBefore t e) := by
  cases e <;> simp [String.append_assoc]

variable (absent : String → Except ε String) (params : Params)

/-- The text that an engine writes for a chunk. What it does where a parameter is absent is its own
affair. -/
def value : Chunk → Except ε String
  | .text s => .ok s
  | .key k =>
    match params.get? k with
    | some v => .ok v.valueText
    | none => absent k

/-- What an engine makes of the chunks one after the other. -/
def fill : List Chunk → Except ε String
  | [] => .ok ""
  | c :: rest => (c.value absent params).bind fun text => putBefore text (fill rest)

variable {absent params} {c : Chunk} {rest chunks : List Chunk}

theorem fill_cons_ok {text : String} (h : c.value absent params = .ok text) :
    fill absent params (c :: rest) = putBefore text (fill absent params rest) := by
  rw [fill, h]
  rfl

theorem fill_cons_error {e : ε} (h : c.value absent params = .error e) :
    fill absent params (c :: rest) = .error e := by
  rw [fill, h]
  rfl

theorem value_key_of_some {k : String} {v : Json} (h : params.get? k = some v) :
    (Chunk.key k).value absent params = .ok v.valueText := by
  rw [value, h]

theorem value_key_of_none {k : String} (h : params.get? k = none) :
    (Chunk.key k).value absent params = absent k := by
  rw [value, h]

theorem fill_of_present (h : absent? params chunks = none) :
    fill absent params chunks = .ok (filled params chunks) := by
  induction chunks with
  | nil => rfl
  | cons c rest ih =>
    cases c with
    | text s =>
      rw [fill_cons_ok rfl, ih h]
      simp [filled, shown]
    | key k =>
      cases hk : params.get? k with
      | none =>
        rw [absent?_key_of_none hk] at h
        cases h
      | some v =>
        rw [absent?_key_of_some hk] at h
        rw [fill_cons_ok (value_key_of_some hk), ih h]
        simp [filled, shown, hk]

/-- An engine that refuses absent parameters refuses the chunks because of the first one. -/
theorem fill_of_absent {k : String} {e : ε} (he : absent k = .error e)
    (h : absent? params chunks = some k) : fill absent params chunks = .error e := by
  induction chunks with
  | nil => cases h
  | cons c rest ih =>
    cases c with
    | text s =>
      rw [fill_cons_ok rfl, ih h]
      rfl
    | key key =>
      cases hk : params.get? key with
      | none =>
        rw [absent?_key_of_none hk] at h
        cases h
        exact fill_cons_error ((value_key_of_none hk).trans he)
      | some v =>
        rw [absent?_key_of_some hk] at h
        rw [fill_cons_ok (value_key_of_some hk), ih h]
        rfl

end Fill

end Chunk

end TemplateEngines
