/-
Missing parameters. Whether a template is malformed, and where, depends on the template alone
(`meaning_lenient`); strict and lenient rendering part only at a placeholder without a parameter
(`meaning_strict`), and a strict rendering succeeds as soon as every placeholder has one
(`meaning_ok_iff`). So the two modes agree whenever the keys of the template are bound
(`evaluate_strict_lenient`).
-/
import TemplateEngines.Proofs.Substitution.Grammar

namespace TemplateEngines.Substitution

/-! ## Tokens with a text -/

/-- The error of an opening brace whose key is not closed. -/
def unterminatedAt (offset : Nat) : EngineError :=
  .malformed ("unterminated placeholder at byte " ++ toString offset)

namespace Token

/-- The key that a token refers to. -/
def key? : Token → Option String
  | placeholder key => some key
  | _ => none

theorem key?_eq_some {token : Token} {key : String} (h : token.key? = some key) :
    token = placeholder key := by
  cases token <;> simp_all [key?]

/-- Whether a token stands for a text. -/
def HasText (strict : Bool) (params : Params) : Token → Prop
  | plain _ | doubled _ => True
  | placeholder key => strict → params.contains key
  | unterminated _ => False

variable {strict : Bool} {params : Params} {token : Token}

theorem text_placeholder_of_some {key : String} {v : Json} (h : params.get? key = some v) :
    (placeholder key).text strict params = .ok v.valueText := by
  rw [text, h]

theorem text_placeholder_of_none {key : String} (h : params.get? key = none) :
    (placeholder key).text strict params = ifAbsent strict key := by
  rw [text, h]
  rfl

theorem hasText_iff : token.HasText strict params ↔ ∃ s, token.text strict params = .ok s := by
  cases token with
  | plain c | doubled c => exact ⟨fun _ => ⟨_, rfl⟩, fun _ => trivial⟩
  | unterminated offset =>
    refine ⟨False.elim, ?_⟩
    rintro ⟨s, h⟩
    cases h
  | placeholder key =>
    simp only [HasText, Dict.contains]
    cases h : params.get? key with
    | some v =>
      rw [text_placeholder_of_some h]
      simp
    | none =>
      rw [text_placeholder_of_none h]
      cases strict <;> simp [ifAbsent]

theorem hasText_lenient_iff :
    token.HasText false params ↔ ∀ offset, token ≠ unterminated offset := by
  cases token <;> simp [HasText]

/-- In lenient mode every token has a text, whatever the parameters are, or none has. -/
theorem text_lenient (token : Token) :
    (∃ offset, token = unterminated offset) ∨ ∀ params, ∃ s, token.text false params = .ok s := by
  cases token with
  | unterminated offset => exact .inl ⟨offset, rfl⟩
  | _ =>
    right
    intro params
    exact hasText_iff.1 (by simp [HasText])

/-- Strictness matters only to a placeholder without a parameter. -/
theorem text_strict (params : Params) (token : Token) :
    token.text true params = token.text false params ∨
      ∃ key, token = placeholder key ∧ params.get? key = none ∧
        token.text true params = .error (.missingParameter key) := by
  cases token with
  | placeholder key =>
    cases h : params.get? key with
    | some v =>
      left
      rw [text_placeholder_of_some h, text_placeholder_of_some h]
    | none => exact .inr ⟨key, rfl, h, text_placeholder_of_none h⟩
  | _ => exact .inl rfl

end Token

/-! ## Meanings -/

section Meaning

variable {strict : Bool} {params : Params} {ts : List Token}

/-- A list of tokens has a text if every token has one. -/
theorem meaning_ok_iff :
    (∃ s, meaning strict params ts = .ok s) ↔ ∀ token ∈ ts, token.HasText strict params := by
  induction ts with
  | nil => simp [meaning]
  | cons token rest ih =>
    rw [List.forall_mem_cons, ← ih, Token.hasText_iff]
    cases htext : token.text strict params with
    | error e => simp [meaning_cons_error htext]
    | ok text =>
      rw [meaning_cons_ok htext]
      cases meaning strict params rest <;> simp

/-- Lenient rendering fails for all parameters, with one syntax error, or for none. -/
theorem meaning_lenient (ts : List Token) :
    (∃ offset, ∀ params, meaning false params ts = .error (unterminatedAt offset)) ∨
      ∀ params, ∃ s, meaning false params ts = .ok s := by
  induction ts with
  | nil => exact .inr fun params => ⟨"", rfl⟩
  | cons token rest ih =>
    rcases token.text_lenient with ⟨offset, rfl⟩ | htext
    · exact .inl ⟨offset, fun params => rfl⟩
    · rcases ih with ⟨offset, h⟩ | h
      · refine .inl ⟨offset, fun params => ?_⟩
        obtain ⟨text, htext⟩ := htext params
        rw [meaning_cons_ok htext, h params]
        rfl
      · refine .inr fun params => ?_
        obtain ⟨text, htext⟩ := htext params
        obtain ⟨s, h⟩ := h params
        exact ⟨text ++ s, by rw [meaning_cons_ok htext, h, Chunk.putBefore_ok]⟩

/-- A placeholder without a parameter is all that strict rendering refuses beyond lenient. -/
theorem meaning_strict (params : Params) (ts : List Token) :
    meaning true params ts = meaning false params ts ∨
      ∃ key, .placeholder key ∈ ts ∧ params.get? key = none ∧
        meaning true params ts = .error (.missingParameter key) := by
  induction ts with
  | nil => exact .inl rfl
  | cons token rest ih =>
    rcases token.text_strict params with hsame | ⟨key, rfl, hnone, htext⟩
    · cases htext : token.text false params with
      | error e =>
        left
        rw [meaning_cons_error htext, meaning_cons_error (hsame.trans htext)]
      | ok text =>
        rw [meaning_cons_ok htext, meaning_cons_ok (hsame.trans htext)]
        rcases ih with h | ⟨key, hmem, hnone, h⟩
        · exact .inl (by rw [h])
        · exact .inr ⟨key, List.mem_cons_of_mem _ hmem, hnone, by rw [h, Chunk.putBefore_error]⟩
    · exact .inr ⟨key, List.mem_cons_self, hnone, meaning_cons_error htext rest⟩

end Meaning

/-! ## Placeholders in the text -/

/-- A placeholder that is read stands in the text, and its key is one. -/
theorem Reads.placeholder_stands {offset : Nat} {cs : List Char} {ts : List Token} {key : String}
    (h : Reads offset cs ts) (hmem : .placeholder key ∈ ts) :
    IsKey key ∧ '{' :: (key.toList ++ ['}']) <:+: cs := by
  induction h with
  | nil | unterminated => simp at hmem
  | doubled _ _ ih =>
    obtain ⟨hkey, hinfix⟩ := ih (by simpa using hmem)
    exact ⟨hkey, List.infix_cons (List.infix_cons hinfix)⟩
  | plain _ _ ih =>
    obtain ⟨hkey, hinfix⟩ := ih (by simpa using hmem)
    exact ⟨hkey, List.infix_cons hinfix⟩
  | @placeholder offset key' rest ts hkey' _ ih =>
    have hsplit : '{' :: (key'.toList ++ '}' :: rest) = '{' :: (key'.toList ++ ['}']) ++ rest := by
      simp
    rw [hsplit]
    rcases List.mem_cons.1 hmem with heq | hmem
    · obtain rfl := Token.placeholder.inj heq
      exact ⟨hkey', (List.prefix_append _ _).isInfix⟩
    · obtain ⟨hkey, hinfix⟩ := ih hmem
      exact ⟨hkey, hinfix.trans (List.suffix_append _ _).isInfix⟩

/-! ## Evaluation -/

section Evaluation

variable (template : String)

theorem finish_eq_value_iff {output : String} {e : Except EngineError String} {v : Json} :
    finish output e = .value v ↔ ∃ s, e = .ok s ∧ v = .string (output ++ s) := by
  cases e with
  | ok s => simp [finish, eq_comm]
  | error e => simp [finish]

theorem evaluate_value_iff {strict : Bool} {params : Option Params} :
    (∃ v, evaluate strict (some template) params = .value v) ↔
      ∀ token ∈ tokens 0 template.toList, token.HasText strict (params.getD []) := by
  rw [evaluate_some, ← meaning_ok_iff]
  constructor
  · rintro ⟨v, h⟩
    obtain ⟨s, hs, -⟩ := finish_eq_value_iff.1 h
    exact ⟨s, hs⟩
  · rintro ⟨s, hs⟩
    exact ⟨_, finish_eq_value_iff.2 ⟨s, hs, rfl⟩⟩

theorem evaluate_lenient :
    (∃ m, ∀ params, evaluate false (some template) (some params) = .failure (.malformed m)) ∨
      ∀ params, ∃ text, evaluate false (some template) (some params) = .value (.string text) := by
  rcases meaning_lenient (tokens 0 template.toList) with ⟨offset, h⟩ | h
  · refine .inl ⟨"unterminated placeholder at byte " ++ toString offset, fun params => ?_⟩
    rw [evaluate_some, Option.getD_some, h]
    rfl
  · refine .inr fun params => ?_
    obtain ⟨s, h⟩ := h params
    exact ⟨"" ++ s, by rw [evaluate_some, Option.getD_some, h]; rfl⟩

theorem evaluate_strict (params : Params) :
    evaluate true (some template) (some params) = evaluate false (some template) (some params) ∨
      ∃ key, .placeholder key ∈ tokens 0 template.toList ∧ params.get? key = none ∧
        evaluate true (some template) (some params) = .failure (.missingParameter key) := by
  rw [evaluate_some, evaluate_some, Option.getD_some]
  rcases meaning_strict params (tokens 0 template.toList) with h | ⟨key, hmem, hnone, h⟩
  · exact .inl (by rw [h])
  · exact .inr ⟨key, hmem, hnone, by rw [h]; rfl⟩

/-- More parameters do not turn a success into a failure. -/
theorem evaluate_strict_mono {params params' : Params}
    (hsub : ∀ key, params.contains key → params'.contains key)
    (h : ∃ v, evaluate true (some template) (some params) = .value v) :
    ∃ v, evaluate true (some template) (some params') = .value v := by
  rw [evaluate_value_iff] at h ⊢
  intro token hmem
  have htext := h token hmem
  cases token with
  | placeholder key => exact fun hstrict => hsub key (htext hstrict)
  | _ => exact htext

/-- The keys that a template refers to. -/
def keysOf : Finset String := ((tokens 0 template.toList).filterMap Token.key?).toFinset

theorem mem_keysOf {template : String} {key : String} :
    key ∈ keysOf template ↔ .placeholder key ∈ tokens 0 template.toList := by
  rw [keysOf, List.mem_toFinset, List.mem_filterMap]
  constructor
  · rintro ⟨token, hmem, hkey⟩
    rwa [← Token.key?_eq_some hkey]
  · intro hmem
    exact ⟨_, hmem, rfl⟩

end Evaluation

/-- Strict and lenient substitution of a template differ only by missing keys. The lenient engine
fails for all parameters with one syntax error or succeeds for all. The strict engine does the same,
unless a key that stands in the template as a placeholder has no parameter and is what it fails
with. Where the strict engine succeeds it still does with more keys bound, and there are keys that,
once they are bound, make the two engines agree. -/
theorem evaluate_strict_lenient (template : String) :
    let lenient (params : Params) := evaluate false (some template) (some params)
    let strict (params : Params) := evaluate true (some template) (some params)
    ((∃ m, ∀ params, lenient params = .failure (.malformed m)) ∨
      ∀ params, ∃ text, lenient params = .value (.string text)) ∧
    (∀ params, strict params = lenient params ∨
      ∃ key, strict params = .failure (.missingParameter key) ∧ ¬ params.contains key ∧
        IsKey key ∧ '{' :: (key.toList ++ ['}']) <:+: template.toList) ∧
    (∀ params params' : Params, (∀ key, params.contains key → params'.contains key) →
      (∃ v, strict params = .value v) → ∃ v, strict params' = .value v) ∧
    ∃ keys : Finset String, ∀ params : Params, (∀ key ∈ keys, params.contains key) →
      strict params = lenient params := by
  intro lenient strict
  refine ⟨evaluate_lenient template, fun params => ?_,
    fun params params' => evaluate_strict_mono template, keysOf template, fun params hkeys => ?_⟩
  · rcases evaluate_strict template params with h | ⟨key, hmem, hnone, h⟩
    · exact .inl h
    · exact .inr ⟨key, h, by simp [Dict.contains, hnone],
        (reads_tokens _ _).placeholder_stands hmem⟩
  · rcases evaluate_strict template params with h | ⟨key, hmem, hnone, h⟩
    · exact h
    · -- The key that would be missing is one of those that are bound.
      have hbound := hkeys key (mem_keysOf.2 hmem)
      rw [Dict.contains, hnone] at hbound
      cases hbound

/-- Behind a brace that stands alone, `a` is bound by both maps, and the second binds `b` too. -/
theorem evaluate_strict_lenient_brace :
    (∃ v, evaluate true (some "\x7b \x7ba\x7dé") (some [("a", .null)]) = .value v) ∧
      ∃ v, evaluate true (some "\x7b \x7ba\x7dé") (some [("a", .bool true), ("b", .null)]) =
        .value v := by
  have hvalue : ∃ v, evaluate true (some "\x7b \x7ba\x7dé") (some [("a", .null)]) = .value v := by
    refine ⟨.string "\x7b é", ?_⟩
    rw [evaluate_some]
    with_unfolding_all rfl
  refine ⟨hvalue, ?_⟩
  refine (evaluate_strict_lenient "\x7b \x7ba\x7dé").2.2.1 [("a", .null)]
    [("a", .bool true), ("b", .null)] (fun key hkey => ?_) hvalue
  simp only [Dict.contains, Dict.get?] at hkey ⊢
  split <;> simp_all

end TemplateEngines.Substitution
