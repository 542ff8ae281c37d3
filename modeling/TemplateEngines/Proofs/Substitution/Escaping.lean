/-
Escaped templates. In the texts every brace is doubled, and a key stands between single braces. A
template is read from the left, so the pairs stay aligned where doubled braces touch the braces of
placeholders, and what an escaped template means is its chunks one after the other
(`meaning_escaped`): the texts come back as they were, and values are never read again
(`evaluate_escaped`).
-/
import TemplateEngines.Proofs.Chunk
import TemplateEngines.Proofs.Substitution.Scan

namespace TemplateEngines.Substitution

open Text.Utf8 Chunk

/-- What a placeholder without a parameter stands for. -/
def ifAbsent (strict : Bool) (key : String) : Except EngineError String :=
  if strict then .error (.missingParameter key) else .ok ("\x7b" ++ key ++ "\x7d")

/-! ## Escaped chunks -/

/-- A name that a placeholder can hold: key characters, and at least one. -/
def IsKey (k : String) : Prop := k.toList ≠ [] ∧ ∀ c ∈ k.toList, isKeyChar c

instance (k : String) : Decidable (IsKey k) :=
  have : Decidable (∀ c ∈ k.toList, isKeyChar c) := List.decidableBAll _ _
  instDecidableAnd

/-- A character of a text as it stands in an escaped template. -/
def escapeChar (c : Char) : List Char := if c = '{' ∨ c = '}' then [c, c] else [c]

/-- A chunk as it stands in an escaped template. -/
def escaped : Chunk → List Char
  | .text s => s.toList.flatMap escapeChar
  | .key k => '{' :: (k.toList ++ ['}'])

/-- The escaped template that the chunks make up. -/
def escapedTemplate (chunks : List Chunk) : String := String.ofList (chunks.flatMap escaped)

/-- The token that an escaped character is read as. -/
def literal (c : Char) : Token := if c = '{' ∨ c = '}' then .doubled c else .plain c

theorem literal_text (strict : Bool) (params : Params) (c : Char) :
    (literal c).text strict params = .ok (String.singleton c) := by
  unfold literal
  split <;> rfl

/-! ## Tokens -/

section Tokens

variable (offset : Nat) (rest : List Char)

theorem tokens_plain {c : Char} (hopen : c ≠ '{') (hclose : c ≠ '}') :
    tokens offset (c :: rest) = .plain c :: tokens (offset + c.utf8Size) rest := by
  rw [tokens.eq_def]
  split <;> simp_all

/-- However many braces follow, an escaped character is read as that character. -/
theorem tokens_escapeChar (c : Char) :
    tokens offset (escapeChar c ++ rest) =
      literal c :: tokens (offset + (encode (escapeChar c)).length) rest := by
  by_cases hc : c = '{' ∨ c = '}'
  · rw [escapeChar, if_pos hc, literal, if_pos hc]
    rcases hc with rfl | rfl
    · exact tokens.eq_2 offset rest
    · exact tokens.eq_3 offset rest
  · rw [escapeChar, if_neg hc, literal, if_neg hc, List.singleton_append]
    obtain ⟨hopen, hclose⟩ := not_or.1 hc
    rw [tokens_plain _ _ hopen hclose, length_encode_cons]
    rfl

theorem tokens_escaped_text (text : List Char) :
    tokens offset (text.flatMap escapeChar ++ rest) =
      text.map literal ++ tokens (offset + (encode (text.flatMap escapeChar)).length) rest := by
  induction text generalizing offset with
  | nil => rfl
  | cons c cs ih =>
    rw [List.flatMap_cons, List.append_assoc, tokens_escapeChar, ih, encode_append,
      List.length_append, Nat.add_assoc]
    rfl

/-- A text that starts with a key does not start with a brace. -/
theorem key_append_ne {key : List Char} (hne : key ≠ []) (hchars : ∀ c ∈ key, isKeyChar c)
    (rest rest' : List Char) : key ++ rest ≠ '{' :: rest' := by
  obtain ⟨c, cs, rfl⟩ := List.exists_cons_of_ne_nil hne
  intro heq
  obtain ⟨rfl, -⟩ := List.cons.inj heq
  exact absurd (hchars '{' List.mem_cons_self) (by decide)

/-- A key goes as far as there are key characters. -/
theorem span_key {key : List Char} (hchars : ∀ c ∈ key, isKeyChar c) (rest : List Char)
    (hend : ∀ d ∈ rest.head?, ¬ isKeyChar d) :
    (key ++ rest).takeWhile isKeyChar = key ∧ (key ++ rest).dropWhile isKeyChar = rest := by
  rw [List.takeWhile_append_of_pos hchars, List.dropWhile_append_of_pos hchars]
  cases rest with
  | nil => simp
  | cons d rest => simp [hend d rfl]

/-- A key between single braces is read as a placeholder, whatever follows. -/
theorem tokens_key {key : List Char} (hne : key ≠ []) (hchars : ∀ c ∈ key, isKeyChar c) :
    tokens offset ('{' :: (key ++ '}' :: rest)) =
      .placeholder (String.ofList key) :: tokens (offset + key.length + 2) rest := by
  obtain ⟨hkey, hend⟩ := span_key hchars ('}' :: rest) (by rintro d ⟨⟩; decide)
  rw [tokens.eq_4 _ _ (key_append_ne hne hchars _), hkey, if_neg (by simpa using hne)]
  split
  · next rest' h =>
    rw [hend] at h
    cases h
    rfl
  · next h => exact absurd hend (h rest)

end Tokens

/-! ## Meanings -/

section Meaning

variable {strict : Bool} {params : Params} (offset : Nat)

theorem meaning_cons_ok {token : Token} {text : String} (h : token.text strict params = .ok text)
    (rest : List Token) :
    meaning strict params (token :: rest) = putBefore text (meaning strict params rest) := by
  rw [meaning, h]
  cases meaning strict params rest <;> rfl

theorem meaning_cons_error {token : Token} {e : EngineError}
    (h : token.text strict params = .error e) (rest : List Token) :
    meaning strict params (token :: rest) = .error e := by
  rw [meaning, h]
  rfl

theorem meaning_literals (text : List Char) (rest : List Token) :
    meaning strict params (text.map literal ++ rest) =
      putBefore (String.ofList text) (meaning strict params rest) := by
  induction text with
  | nil => rw [String.ofList_nil, putBefore_empty]; rfl
  | cons c cs ih =>
    have hcons : String.ofList (c :: cs) = String.singleton c ++ String.ofList cs := by
      rw [← List.singleton_append, String.ofList_append]
      rfl
    rw [List.map_cons, List.cons_append, meaning_cons_ok (literal_text strict params c), ih, hcons,
      putBefore_append]

/-- An escaped template means what its chunks stand for, wherever it starts. -/
theorem meaning_escaped {chunks : List Chunk} (h : ∀ k ∈ keys chunks, IsKey k) :
    meaning strict params (tokens offset (chunks.flatMap escaped)) =
      fill (ifAbsent strict) params chunks := by
  induction chunks generalizing offset with
  | nil =>
    rw [List.flatMap_nil, tokens]
    rfl
  | cons c rest ih =>
    rw [List.flatMap_cons]
    cases c with
    | text s =>
      have hrest : ∀ k ∈ keys rest, IsKey k := h
      rw [escaped, tokens_escaped_text, meaning_literals, ih _ hrest, String.ofList_toList,
        fill_cons_ok rfl]
    | key k =>
      obtain ⟨⟨hne, hchars⟩, hrest⟩ : IsKey k ∧ ∀ k ∈ keys rest, IsKey k :=
        List.forall_mem_cons.1 h
      have hescaped : escaped (.key k) ++ rest.flatMap escaped =
          '{' :: (k.toList ++ '}' :: rest.flatMap escaped) := by
        simp [escaped]
      rw [hescaped, tokens_key _ _ hne hchars, meaning, ih _ hrest, String.ofList_toList]
      rfl

end Meaning

/-! ## Rendering -/

section Rendering

variable {params : Params} {chunks : List Chunk}

/-- The engine writes the chunks of an escaped template one after the other. -/
theorem evaluate_escapedTemplate (strict : Bool) (params : Params)
    (h : ∀ k ∈ keys chunks, IsKey k) :
    evaluate strict (some (escapedTemplate chunks)) (some params) =
      finish "" (fill (ifAbsent strict) params chunks) := by
  rw [evaluate_some, escapedTemplate, String.toList_ofList, meaning_escaped 0 h]
  rfl

theorem evaluate_escapedTemplate_of_present (h : ∀ k ∈ keys chunks, IsKey k)
    (hpresent : absent? params chunks = none) (strict : Bool) :
    evaluate strict (some (escapedTemplate chunks)) (some params) =
      .value (.string (filled params chunks)) := by
  rw [evaluate_escapedTemplate strict params h, fill_of_present hpresent, finish,
    String.empty_append]

theorem evaluate_escapedTemplate_of_absent (h : ∀ k ∈ keys chunks, IsKey k) {k : String}
    (habsent : absent? params chunks = some k) :
    evaluate true (some (escapedTemplate chunks)) (some params) =
      .failure (.missingParameter k) := by
  have hrefused : ifAbsent true k = .error (.missingParameter k) := rfl
  rw [evaluate_escapedTemplate true params h, fill_of_absent hrefused habsent, finish]

/-- The text of a chunk; a placeholder without a parameter is left as it is written. -/
def kept (params : Params) : Chunk → String
  | .text s => s
  | .key k => (params.get? k).elim ("\x7b" ++ k ++ "\x7d") Json.valueText

theorem fill_lenient (params : Params) (chunks : List Chunk) :
    fill (ifAbsent false) params chunks = .ok (String.join (chunks.map (kept params))) := by
  induction chunks with
  | nil => rfl
  | cons c rest ih =>
    have hvalue : c.value (ifAbsent false) params = .ok (kept params c) := by
      cases c with
      | text s => rfl
      | key k =>
        rw [value, kept]
        cases params.get? k <;> rfl
    rw [fill_cons_ok hvalue, ih]
    simp

end Rendering

/-- Rendering undoes escaping. If every key has a parameter, the texts and the values are written as
they are, whatever braces they contain. A key without a parameter is left as its placeholder by the
lenient engine, and the first of them is what the strict engine fails with. -/
theorem evaluate_escaped (chunks : List Chunk) (params : Params)
    (hkeys : ∀ k ∈ keys chunks, IsKey k) :
    ((∀ k ∈ keys chunks, params.contains k) → ∀ strict,
      evaluate strict (some (escapedTemplate chunks)) (some params) =
        .value (.string (filled params chunks))) ∧
    evaluate false (some (escapedTemplate chunks)) (some params) =
      .value (.string (String.join (chunks.map (kept params)))) ∧
    ∀ before k after, keys chunks = before ++ k :: after →
      (∀ j ∈ before, params.contains j) → ¬ params.contains k →
      evaluate true (some (escapedTemplate chunks)) (some params) =
        .failure (.missingParameter k) := by
  refine ⟨fun hpresent strict => ?_, ?_, fun before k after hsplit hbefore hmissing => ?_⟩
  · exact evaluate_escapedTemplate_of_present hkeys (absent?_eq_none_iff.2 hpresent) strict
  · rw [evaluate_escapedTemplate false params hkeys, fill_lenient, finish, String.empty_append]
  · have habsent : absent? params chunks = some k := by
      rw [absent?, hsplit, List.find?_append, List.find?_eq_none.2 (by simpa using hbefore)]
      simp [hmissing]
    exact evaluate_escapedTemplate_of_absent hkeys habsent

/-- Doubled braces touch those of placeholders, and a value looks like a placeholder. -/
theorem evaluate_escaped_braces :
    evaluate false (some "a\x7b\x7b\x7bk\x7d\x7d\x7d\x7bx.y\x7d\x7b\x7bk\x7d\x7d")
        (some [("k", .string "\x7bx\x7d\x7d")]) =
      .value (.string "a\x7b\x7bx\x7d\x7d\x7d\x7bx.y\x7d\x7bk\x7d") ∧
    evaluate true (some "a\x7b\x7b\x7bk\x7d\x7d\x7d\x7bx.y\x7d\x7b\x7bk\x7d\x7d")
        (some [("k", .string "\x7bx\x7d\x7d")]) =
      .failure (.missingParameter "x.y") := by
  have h := evaluate_escaped [.text "a\x7b", .key "k", .text "\x7d", .key "x.y", .text "\x7bk\x7d"]
    [("k", .string "\x7bx\x7d\x7d")] (by decide)
  exact ⟨h.2.1, h.2.2 ["k"] "x.y" [] rfl (by decide) (by decide)⟩

end TemplateEngines.Substitution
