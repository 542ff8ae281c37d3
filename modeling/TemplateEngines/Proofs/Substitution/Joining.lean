/-
Templates one after the other. The rules look ahead over braces and keys only, so where nothing of
that kind touches the joint (`Parted`) the tokens of two templates are those of the first and then
those of the second, moved by the length of the first (`tokens_append`). The joined template then
comes to the one text after the other, or to the error of the first of the two that has one
(`evaluate_append`).
-/
import TemplateEngines.Proofs.Substitution.Missing

namespace TemplateEngines.Substitution

open Text.Utf8

/-! ## The joint -/

/-- No brace and no key reaches over the joint: the first text does not end in a brace, or the
second starts neither with a brace nor with a key character. -/
def Parted (cs ds : List Char) : Prop :=
  (∀ c ∈ cs.getLast?, c ≠ '{' ∧ c ≠ '}') ∨ ∀ d ∈ ds.head?, d ≠ '{' ∧ d ≠ '}' ∧ ¬ isKeyChar d

/-! ## Tokens -/

/-- A token of a template in front of which more bytes stand. -/
def Token.shift (n : Nat) : Token → Token
  | unterminated offset => unterminated (offset + n)
  | token => token

variable {offset n : Nat} {cs ds : List Char} {ts us : List Token}

/-- Offsets are counted from where the template starts. -/
theorem Reads.shift (h : Reads offset cs ts) (n : Nat) :
    Reads (offset + n) cs (ts.map (Token.shift n)) := by
  induction h with
  | nil => exact .nil
  | doubled hbrace _ ih => exact .doubled hbrace (by rwa [Nat.add_right_comm])
  | placeholder hkey _ ih =>
    exact .placeholder hkey (by rwa [Nat.add_right_comm _ n, Nat.add_right_comm _ n])
  | unterminated hkey hend => exact .unterminated hkey hend
  | plain halone _ ih => exact .plain halone (by rwa [Nat.add_right_comm])

theorem getLast?_cons_eq_some {token last : Token} :
    (token :: ts).getLast? = some last ↔ ts = [] ∧ token = last ∨ ts.getLast? = some last := by
  cases ts <;> simp

/-- A text is read over the joint if it is read to its end and a character that stands alone at its
end still does so in front of what follows. -/
theorem Reads.append (h : Reads offset cs ts) (hclosed : ∀ o, .unterminated o ∉ ts)
    (halone : ∀ c, ts.getLast? = some (.plain c) → StandsAlone c ds)
    (hrest : Reads (offset + (encode cs).length) ds us) :
    Reads offset (cs ++ ds) (ts ++ us) := by
  -- Each rule reads a piece off the front, and the joint stays where it is behind the rest.
  induction h with
  | nil => exact hrest
  | @doubled offset brace rest ts hbrace _ ih =>
    have hlen : (encode (brace :: brace :: rest)).length = 2 + (encode rest).length := by
      rw [length_encode_brace hbrace, length_encode_brace hbrace]
      omega
    rw [hlen, ← Nat.add_assoc] at hrest
    refine .doubled hbrace (ih ?_ (fun c hc => halone c (getLast?_cons_eq_some.2 (.inr hc))) hrest)
    exact fun o ho => hclosed o (List.mem_cons_of_mem _ ho)
  | @placeholder offset key rest ts hkey _ ih =>
    have hsplit : '{' :: (key.toList ++ '}' :: rest) = '{' :: (key.toList ++ ['}']) ++ rest := by
      simp
    rw [hsplit, encode_append, List.length_append, length_encode_placeholder hkey.2,
      String.length_toList, ← Nat.add_assoc, ← Nat.add_assoc] at hrest
    simp only [List.cons_append, List.append_assoc]
    refine .placeholder hkey (ih ?_ (fun c hc => halone c (getLast?_cons_eq_some.2 (.inr hc))) hrest)
    exact fun o ho => hclosed o (List.mem_cons_of_mem _ ho)
  | @unterminated offset => exact absurd List.mem_cons_self (hclosed offset)
  | @plain offset c rest ts hc hread ih =>
    rw [length_encode_cons, ← Nat.add_assoc] at hrest
    refine .plain ?_ (ih ?_ (fun c hc => halone c (getLast?_cons_eq_some.2 (.inr hc))) hrest)
    · cases rest with
      | cons d rest => exact hc
      | nil =>
        cases hread
        exact halone c rfl
    · exact fun o ho => hclosed o (List.mem_cons_of_mem _ ho)

/-- A plain token at the end is the last character. -/
theorem Reads.getLast?_eq (h : Reads offset cs ts) {c : Char}
    (hlast : ts.getLast? = some (.plain c)) : cs.getLast? = some c := by
  have hrest (first : List Char) {rest : List Char} (h : rest.getLast? = some c) :
      (first ++ rest).getLast? = some c := by
    rw [List.getLast?_append, h, Option.some_or]
  -- Only the rule for plain characters ends in a plain token of its own.
  induction h with
  | nil => cases hlast
  | unterminated => cases hlast
  | @doubled _ brace rest _ _ _ ih =>
    rcases getLast?_cons_eq_some.1 hlast with ⟨-, heq⟩ | hlast
    · cases heq
    · exact hrest [brace, brace] (ih hlast)
  | @placeholder _ key rest _ _ _ ih =>
    rcases getLast?_cons_eq_some.1 hlast with ⟨-, heq⟩ | hlast
    · cases heq
    · simpa using hrest ('{' :: (key.toList ++ ['}'])) (ih hlast)
  | @plain _ d rest _ _ hread ih =>
    rcases getLast?_cons_eq_some.1 hlast with ⟨rfl, heq⟩ | hlast
    · cases heq
      cases hread
      rfl
    · exact hrest [d] (ih hlast)

theorem Reads.standsAlone_of_parted (h : Reads offset cs ts) (hparted : Parted cs ds) {c : Char}
    (hlast : ts.getLast? = some (.plain c)) : StandsAlone c ds := by
  rcases hparted with hend | hhead
  · have hc := hend c (h.getLast?_eq hlast)
    exact .of_ne hc.1 hc.2 ds
  · exact ⟨fun _ d hd => ⟨(hhead d hd).1, (hhead d hd).2.2⟩, fun _ d hd => (hhead d hd).2.1⟩

/-- The tokens of two templates one after the other. -/
theorem tokens_append (hclosed : ∀ o, .unterminated o ∉ tokens 0 cs) (hparted : Parted cs ds) :
    tokens 0 (cs ++ ds) =
      tokens 0 cs ++ (tokens 0 ds).map (Token.shift (encode cs).length) := by
  have hread := reads_tokens 0 cs
  refine Reads.tokens_eq (hread.append hclosed (fun c => hread.standsAlone_of_parted hparted) ?_)
  exact (reads_tokens 0 ds).shift _

/-! ## Meanings -/

section Meaning

variable {strict : Bool} {params : Params}

theorem meaning_singleton (token : Token) :
    meaning strict params [token] = token.text strict params := by
  cases htext : token.text strict params with
  | error e => exact meaning_cons_error htext []
  | ok text => rw [meaning_cons_ok htext, meaning, Chunk.putBefore_ok, String.append_empty]

/-- The first text, and what the second list of tokens comes to behind it. -/
theorem meaning_append (ts us : List Token) :
    meaning strict params (ts ++ us) =
      (meaning strict params ts).bind fun s => Chunk.putBefore s (meaning strict params us) := by
  induction ts with
  | nil => exact (Chunk.putBefore_empty _).symm
  | cons token rest ih =>
    rw [List.cons_append]
    cases htext : token.text strict params with
    | error e =>
      rw [meaning_cons_error htext, meaning_cons_error htext]
      rfl
    | ok text =>
      rw [meaning_cons_ok htext, meaning_cons_ok htext, ih]
      cases meaning strict params rest with
      | error e => rfl
      | ok s => exact (Chunk.putBefore_append text s _).symm

/-- Two results of rendering that differ at most in where a syntax error is: `n` bytes further on in
the second. -/
inductive Moved (strict : Bool) (n : Nat) :
    Except EngineError String → Except EngineError String → Prop where
  | text (s : String) : Moved strict n (.ok s) (.ok s)
  | missing (key : String) (hstrict : strict) :
      Moved strict n (.error (.missingParameter key)) (.error (.missingParameter key))
  | malformed (offset : Nat) :
      Moved strict n (.error (unterminatedAt offset)) (.error (unterminatedAt (offset + n)))

theorem Moved.putBefore {e e' : Except EngineError String} (h : Moved strict n e e') (s : String) :
    Moved strict n (Chunk.putBefore s e) (Chunk.putBefore s e') := by
  cases h with
  | text t => exact .text (s ++ t)
  | missing key hstrict => exact .missing key hstrict
  | malformed offset => exact .malformed offset

theorem moved_text_shift (token : Token) :
    Moved strict n (token.text strict params) ((token.shift n).text strict params) := by
  cases token with
  | plain c | doubled c => exact .text _
  | unterminated offset => exact .malformed offset
  | placeholder key =>
    show Moved strict n ((Token.placeholder key).text strict params)
      ((Token.placeholder key).text strict params)
    cases h : params.get? key with
    | some v =>
      rw [Token.text_placeholder_of_some h]
      exact .text _
    | none =>
      rw [Token.text_placeholder_of_none h]
      cases strict with
      | true => exact .missing key rfl
      | false => exact .text _

theorem moved_meaning_shift (ts : List Token) :
    Moved strict n (meaning strict params ts) (meaning strict params (ts.map (Token.shift n))) := by
  induction ts with
  | nil => exact .text ""
  | cons token rest ih =>
    rw [List.map_cons]
    have htoken : Moved strict n (token.text strict params) ((token.shift n).text strict params) :=
      moved_text_shift token
    generalize htext : token.text strict params = e,
      htext' : (token.shift n).text strict params = e' at htoken
    cases htoken with
    | text s =>
      rw [meaning_cons_ok htext, meaning_cons_ok htext']
      exact ih.putBefore s
    | missing key hstrict =>
      rw [meaning_cons_error htext, meaning_cons_error htext']
      exact .missing key hstrict
    | malformed offset =>
      rw [meaning_cons_error htext, meaning_cons_error htext']
      exact .malformed offset

end Meaning

/-! ## Evaluation -/

/-- How the outcome of two templates one after the other, the first of which has `n` bytes, follows
from the outcomes of the two. -/
inductive Joined (strict : Bool) (n : Nat) : Outcome → Outcome → Outcome → Prop where
  /-- The first template fails. -/
  | first (key : String) (second : Outcome) (hstrict : strict) :
      Joined strict n (.failure (.missingParameter key)) second (.failure (.missingParameter key))
  | texts (s t : String) :
      Joined strict n (.value (.string s)) (.value (.string t)) (.value (.string (s ++ t)))
  | missing (s key : String) (hstrict : strict) :
      Joined strict n (.value (.string s)) (.failure (.missingParameter key))
        (.failure (.missingParameter key))
  /-- A syntax error in the second template is reported where it is in the whole. -/
  | malformed (s : String) (offset : Nat) :
      Joined strict n (.value (.string s))
        (.failure (.malformed ("unterminated placeholder at byte " ++ toString offset)))
        (.failure (.malformed ("unterminated placeholder at byte " ++ toString (offset + n))))

theorem length_encode_toList (s : String) : (encode s.toList).length = s.utf8ByteSize := by
  rw [← toUTF8_data_toList, Array.length_toList]
  rfl

/-- A template without a syntax error has a text, or a parameter is missing. -/
theorem meaning_of_closed (hclosed : ∀ o, .unterminated o ∉ ts) (strict : Bool) (params : Params) :
    (∃ s, meaning strict params ts = .ok s) ∨
      ∃ key, strict ∧ meaning strict params ts = .error (.missingParameter key) := by
  have htext : ∀ token ∈ ts, token.HasText false params := by
    intro token hmem
    rw [Token.hasText_lenient_iff]
    rintro o rfl
    exact hclosed o hmem
  obtain ⟨s, hs⟩ := meaning_ok_iff.2 htext
  cases strict with
  | false => exact .inl ⟨s, hs⟩
  | true =>
    rcases meaning_strict params ts with h | ⟨key, -, -, h⟩
    · exact .inl ⟨s, h.trans hs⟩
    · exact .inr ⟨key, rfl, h⟩

/-- Substitution is compositional. If the first template has no syntax error and nothing that is
read as one piece reaches over the joint, then the two templates one after the other are rendered as
the one text and then the other, or fail as the first that fails, the offset of a syntax error being
counted from the start of the whole. -/
theorem evaluate_append (strict : Bool) (first second : String) (params : Option Params)
    {params' : Option Params} {v : Json} (hfirst : evaluate false (some first) params' = .value v)
    (hparted : Parted first.toList second.toList) :
    Joined strict first.utf8ByteSize (evaluate strict (some first) params)
      (evaluate strict (some second) params) (evaluate strict (some (first ++ second)) params) := by
  have hclosed : ∀ o, .unterminated o ∉ tokens 0 first.toList := fun o hmem =>
    (evaluate_value_iff first).1 ⟨v, hfirst⟩ _ hmem
  rw [evaluate_some, evaluate_some, evaluate_some, String.toList_append,
    tokens_append hclosed hparted, meaning_append, length_encode_toList]
  have hmoved : Moved strict first.utf8ByteSize
      (meaning strict (params.getD []) (tokens 0 second.toList)) _ :=
    moved_meaning_shift (tokens 0 second.toList)
  generalize meaning strict (params.getD []) (tokens 0 second.toList) = e,
    meaning strict (params.getD []) ((tokens 0 second.toList).map _) = e' at hmoved
  rcases meaning_of_closed hclosed strict (params.getD []) with ⟨s, h⟩ | ⟨key, hstrict, h⟩
  · rw [h]
    cases hmoved with
    | text t => simpa [finish, Except.bind] using Joined.texts s t
    | missing key hstrict => simpa [finish, Except.bind] using Joined.missing s key hstrict
    | malformed offset =>
      simpa [finish, Except.bind, unterminatedAt] using Joined.malformed s offset
  · rw [h]
    exact .first key _ hstrict

/-- The first template ends in a brace, and behind the two bytes of its letter the second is
malformed. -/
theorem evaluate_append_brace :
    Joined true 3 (evaluate true (some "é\x7b") none) (evaluate true (some " \x7ba b") none)
      (evaluate true (some ("é\x7b" ++ " \x7ba b")) none) := by
  have hfirst : evaluate false (some "é\x7b") none = .value (.string "é\x7b") := by
    rw [evaluate_some]
    with_unfolding_all rfl
  refine evaluate_append true "é\x7b" " \x7ba b" none hfirst (.inr ?_)
  rintro d ⟨⟩
  decide

end TemplateEngines.Substitution
