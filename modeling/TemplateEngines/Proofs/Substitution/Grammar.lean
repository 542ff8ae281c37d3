/-
The grammar of templates with `\x7bkey\x7d` placeholders: one rule for each kind of token, each of
which says how far it looks ahead. Every template is read by the rules in exactly one way, as its
tokens (`reads_iff`), so what holds of the tokens of all templates follows by induction on the
rules.
-/
import TemplateEngines.Proofs.Substitution.Escaping

namespace TemplateEngines.Substitution

/-! ## Rules -/

/-- A character in front of `rest` that neither is half of a doubled brace nor opens a
placeholder. -/
def StandsAlone (c : Char) (rest : List Char) : Prop :=
  (c = '{' → ∀ d ∈ rest.head?, d ≠ '{' ∧ ¬ isKeyChar d) ∧ (c = '}' → ∀ d ∈ rest.head?, d ≠ '}')

/-- A character that is no brace stands alone in front of anything. -/
theorem StandsAlone.of_ne {c : Char} (hopen : c ≠ '{') (hclose : c ≠ '}') (rest : List Char) :
    StandsAlone c rest :=
  ⟨fun heq => absurd heq hopen, fun heq => absurd heq hclose⟩

/-- How a text in front of which `offset` bytes stand is read as tokens. -/
inductive Reads : Nat → List Char → List Token → Prop where
  | nil {offset : Nat} : Reads offset [] []
  | doubled {offset : Nat} {brace : Char} {rest : List Char} {ts : List Token}
      (hbrace : brace = '{' ∨ brace = '}') (hrest : Reads (offset + 2) rest ts) :
      Reads offset (brace :: brace :: rest) (.doubled brace :: ts)
  | placeholder {offset : Nat} {key : String} {rest : List Char} {ts : List Token}
      (hkey : IsKey key) (hrest : Reads (offset + key.length + 2) rest ts) :
      Reads offset ('{' :: (key.toList ++ '}' :: rest)) (.placeholder key :: ts)
  /-- Nothing is read after a key that is not closed. -/
  | unterminated {offset : Nat} {key : String} {rest : List Char} (hkey : IsKey key)
      (hend : ∀ d ∈ rest.head?, d ≠ '}' ∧ ¬ isKeyChar d) :
      Reads offset ('{' :: (key.toList ++ rest)) [.unterminated offset]
  | plain {offset : Nat} {c : Char} {rest : List Char} {ts : List Token}
      (halone : StandsAlone c rest) (hrest : Reads (offset + c.utf8Size) rest ts) :
      Reads offset (c :: rest) (.plain c :: ts)

/-! ## Every text is read -/

theorem head?_dropWhile_isKeyChar {cs : List Char} {d : Char}
    (h : (cs.dropWhile isKeyChar).head? = some d) : ¬ isKeyChar d := by
  have := List.head?_dropWhile_not isKeyChar cs
  rw [h] at this
  simpa using this

theorem isKey_ofList_takeWhile {cs : List Char} (h : ¬ (cs.takeWhile isKeyChar).isEmpty) :
    IsKey (String.ofList (cs.takeWhile isKeyChar)) := by
  rw [IsKey, String.toList_ofList]
  exact ⟨mt List.isEmpty_iff.2 h, fun c hc => List.mem_takeWhile_imp hc⟩

theorem reads_tokens (offset : Nat) (cs : List Char) : Reads offset cs (tokens offset cs) := by
  fun_induction tokens offset cs with
  | case1 offset => exact .nil
  | case2 offset rest ih => exact .doubled (.inl rfl) ih
  | case3 offset rest ih => exact .doubled (.inr rfl) ih
  | case4 offset rest hrest key hkey =>
    rename_i ih
    refine .plain ⟨fun _ d hd => ⟨?_, fun hchar => ?_⟩, fun h => by cases h⟩ ih
    · rintro rfl
      exact head?_ne_some hrest hd
    · -- A key character at the front would be part of the key.
      obtain ⟨rest', rfl⟩ := List.head?_eq_some_iff.1 hd
      simp [key, hchar] at hkey
  | case5 offset rest hrest key hkey rest' hend hlt =>
    rename_i ih
    have hread := Reads.placeholder (isKey_ofList_takeWhile hkey) (by simpa using ih)
    rwa [String.toList_ofList, ← hend, List.takeWhile_append_dropWhile] at hread
  | case6 offset rest hrest key hkey =>
    rename_i hend
    have hbehind : ∀ d ∈ (rest.dropWhile isKeyChar).head?, d ≠ '}' ∧ ¬ isKeyChar d := by
      refine fun d hd => ⟨?_, head?_dropWhile_isKeyChar hd⟩
      rintro rfl
      exact head?_ne_some hend hd
    have hread : Reads offset _ _ := .unterminated (isKey_ofList_takeWhile hkey) hbehind
    rwa [String.toList_ofList, List.takeWhile_append_dropWhile] at hread
  | case7 offset c rest hopen hclose hne ih =>
    refine .plain ⟨fun h => (hne h).elim, ?_⟩ ih
    rintro rfl d hd rfl
    exact head?_ne_some (hclose · rfl) hd

/-! ## Only the tokens are read -/

section Tokens

variable (offset : Nat) {rest : List Char}

theorem tokens_unterminated {key : String} (hkey : IsKey key)
    (hend : ∀ d ∈ rest.head?, d ≠ '}' ∧ ¬ isKeyChar d) :
    tokens offset ('{' :: (key.toList ++ rest)) = [.unterminated offset] := by
  obtain ⟨htake, hdrop⟩ := span_key hkey.2 rest fun d hd => (hend d hd).2
  have hne : ¬ ((key.toList ++ rest).takeWhile isKeyChar).isEmpty := by
    rw [htake, List.isEmpty_iff]
    exact hkey.1
  rw [tokens.eq_4 _ _ (key_append_ne hkey.1 hkey.2 rest), if_neg hne]
  split
  · next rest' h =>
    rw [hdrop] at h
    exact absurd rfl (hend '}' (by rw [h]; rfl)).1
  · rfl

theorem tokens_alone {c : Char} (h : StandsAlone c rest) :
    tokens offset (c :: rest) = .plain c :: tokens (offset + c.utf8Size) rest := by
  by_cases hc : c = '{'
  · subst hc
    have hopen : ∀ rest', rest = '{' :: rest' → False := by
      rintro rest' rfl
      exact (h.1 rfl '{' rfl).1 rfl
    have hkey : (rest.takeWhile isKeyChar).isEmpty := by
      cases rest with
      | nil => rfl
      | cons d rest => simp [(h.1 rfl d rfl).2]
    rw [tokens.eq_4 _ _ hopen, if_pos hkey]
    rfl
  · refine tokens.eq_5 _ _ _ (fun _ hopen => (hc hopen).elim) ?_ hc
    rintro rest' hclose rfl
    exact h.2 hclose '}' rfl rfl

end Tokens

theorem Reads.tokens_eq {offset : Nat} {cs : List Char} {ts : List Token} (h : Reads offset cs ts) :
    tokens offset cs = ts := by
  induction h with
  | nil => exact tokens.eq_1 _
  | doubled hbrace _ ih =>
    rw [← ih]
    rcases hbrace with rfl | rfl
    · exact tokens.eq_2 _ _
    · exact tokens.eq_3 _ _
  | placeholder hkey _ ih =>
    rw [tokens_key _ _ hkey.1 hkey.2, String.ofList_toList, ← ih, String.length_toList]
  | unterminated hkey hend => exact tokens_unterminated _ hkey hend
  | plain halone _ ih => rw [tokens_alone _ halone, ih]

theorem reads_iff {offset : Nat} {cs : List Char} {ts : List Token} :
    Reads offset cs ts ↔ tokens offset cs = ts := by
  constructor
  · exact Reads.tokens_eq
  · rintro rfl
    exact reads_tokens offset cs

end TemplateEngines.Substitution
