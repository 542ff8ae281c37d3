/-
Rendering in stages. A first pass leaves the placeholders that it has no parameter for, and a second
pass fills them. If the template doubles no brace and the values of the first pass contain none, then
nothing that the first pass writes can meet a brace of the template and mean something new
(`Reads.filled`), so the two passes come to what one pass with all parameters does
(`evaluate_staged`).
-/
import TemplateEngines.Proofs.Substitution.Joining

namespace TemplateEngines.Substitution

/-! ## Filled tokens -/

/-- What a token has become behind a pass with some parameters: the characters of its value, or the
token as it was. -/
def Token.filled (params : Params) : Token → List Token
  | placeholder key =>
    match params.get? key with
    | some v => v.valueText.toList.map literal
    | none => [placeholder key]
  | token => [token]

section Meaning

variable {strict : Bool} {params first second both : Params}

theorem meaning_cons_eq_ok {token : Token} {rest : List Token} {s : String}
    (h : meaning strict params (token :: rest) = .ok s) :
    ∃ text texts, token.text strict params = .ok text ∧ meaning strict params rest = .ok texts ∧
      s = text ++ texts := by
  cases htext : token.text strict params with
  | error e =>
    rw [meaning_cons_error htext] at h
    cases h
  | ok text =>
    rw [meaning_cons_ok htext] at h
    cases hrest : meaning strict params rest with
    | error e =>
      rw [hrest] at h
      cases h
    | ok texts =>
      rw [hrest] at h
      cases h
      exact ⟨text, texts, rfl, rfl, rfl⟩

/-- A token that has been filled means in the second pass what it means with all parameters. -/
theorem meaning_filled_token (hboth : ∀ key, both.get? key = (first.get? key).or (second.get? key))
    (token : Token) :
    meaning strict second (token.filled first) = token.text strict both := by
  cases token with
  | placeholder key =>
    rw [Token.filled]
    cases hfirst : first.get? key with
    | some v =>
      have hv : both.get? key = some v := by rw [hboth, hfirst, Option.some_or]
      have hchars : meaning strict second (v.valueText.toList.map literal ++ []) = _ :=
        meaning_literals v.valueText.toList []
      rw [List.append_nil, meaning, Chunk.putBefore_ok, String.append_empty,
        String.ofList_toList] at hchars
      rw [Token.text_placeholder_of_some hv]
      exact hchars
    | none =>
      have hsame : both.get? key = second.get? key := by rw [hboth, hfirst, Option.none_or]
      simp only [meaning_singleton, Token.text, hsame]
  | _ => exact meaning_singleton _

theorem meaning_filled (hboth : ∀ key, both.get? key = (first.get? key).or (second.get? key))
    (ts : List Token) :
    meaning strict second (ts.flatMap (Token.filled first)) = meaning strict both ts := by
  induction ts with
  | nil => rfl
  | cons token rest ih =>
    rw [List.flatMap_cons, meaning_append, meaning_filled_token hboth, ih]
    cases htext : token.text strict both with
    | error e => exact (meaning_cons_error htext rest).symm
    | ok text => exact (meaning_cons_ok htext rest).symm

end Meaning

/-! ## Filled texts -/

/-- No brace stands next to one of its kind. -/
def NoneDoubled (cs : List Char) : Prop := ¬ ['{', '{'] <:+: cs ∧ ¬ ['}', '}'] <:+: cs

instance (cs : List Char) : Decidable (NoneDoubled cs) := instDecidableAnd

/-- The values of the parameters are written without braces. -/
def Braceless (params : Params) : Prop :=
  ∀ row ∈ params, ∀ c ∈ row.2.valueText.toList, c ≠ '{' ∧ c ≠ '}'

instance (params : Params) : Decidable (Braceless params) :=
  have (row : String × Json) : Decidable (∀ c ∈ row.2.valueText.toList, c ≠ '{' ∧ c ≠ '}') :=
    List.decidableBAll _ _
  List.decidableBAll _ _

/-- To a character in front of it the second text looks like the first: it starts with the same
character, or with anything but a closing brace where the first one opens a placeholder. -/
def StartsLike (cs ds : List Char) : Prop :=
  ds.head? = cs.head? ∨ cs.head? = some '{' ∧ ds.head? ≠ some '}'

section Filled

variable {cs ds : List Char} {c : Char} {ts : List Token}

theorem NoneDoubled.of_append (bs : List Char) (h : NoneDoubled (bs ++ cs)) : NoneDoubled cs :=
  have hsuffix := (List.suffix_append bs cs).isInfix
  ⟨fun hopen => h.1 (hopen.trans hsuffix), fun hclose => h.2 (hclose.trans hsuffix)⟩

theorem NoneDoubled.not_doubled {brace : Char} (hbrace : brace = '{' ∨ brace = '}')
    (h : NoneDoubled (brace :: cs)) : cs.head? ≠ some brace := by
  intro hhead
  obtain ⟨rest, rfl⟩ := List.head?_eq_some_iff.1 hhead
  rcases hbrace with rfl | rfl
  · exact h.1 ⟨[], rest, rfl⟩
  · exact h.2 ⟨[], rest, rfl⟩

theorem StartsLike.head?_ne_close (h : StartsLike cs ds) (hne : cs.head? ≠ some '}') :
    ds.head? ≠ some '}' := by
  rcases h with heq | ⟨-, hds⟩
  · rwa [heq]
  · exact hds

/-- A character stands alone in front of the one text if it does so in front of the other. -/
theorem StandsAlone.of_startsLike (h : StandsAlone c cs) (hlike : StartsLike cs ds) :
    StandsAlone c ds := by
  refine ⟨fun hopen d hd => ?_, fun hclose d hd heq => ?_⟩
  · rcases hlike with heq | ⟨hcs, -⟩
    · exact h.1 hopen d (heq ▸ hd)
    · exact absurd rfl (h.1 hopen '{' hcs).1
  · subst heq
    refine hlike.head?_ne_close (fun hcs => ?_) hd
    exact h.2 hclose '}' hcs rfl

/-- Characters that are no braces are read as they stand, in front of anything. -/
theorem Reads.literals (hcs : ∀ c ∈ cs, c ≠ '{' ∧ c ≠ '}') (h : ∀ offset, Reads offset ds ts) :
    ∀ offset, Reads offset (cs ++ ds) (cs.map literal ++ ts) := by
  induction cs with
  | nil => exact h
  | cons c cs ih =>
    intro offset
    obtain ⟨⟨hopen, hclose⟩, hcs⟩ := List.forall_mem_cons.1 hcs
    rw [List.map_cons, literal, if_neg (not_or.2 ⟨hopen, hclose⟩)]
    exact .plain (.of_ne hopen hclose _) (ih hcs _)

end Filled

/-- What a first pass writes is read as its tokens, filled one by one, wherever it starts. -/
theorem Reads.filled {offset : Nat} {cs : List Char} {ts : List Token} (h : Reads offset cs ts)
    {first : Params} (hfirst : Braceless first) (hcs : NoneDoubled cs) {s : String}
    (hs : meaning false first ts = .ok s) :
    StartsLike cs s.toList ∧ ∀ offset, Reads offset s.toList (ts.flatMap (Token.filled first)) := by
  -- Beside the tokens, the induction carries what a character in front of the text would meet.
  induction h generalizing s with
  | nil =>
    cases hs
    exact ⟨.inl rfl, fun _ => .nil⟩
  | doubled hbrace => exact absurd rfl (hcs.not_doubled hbrace)
  | unterminated => cases hs
  | @plain _ c rest ts halone _ ih =>
    obtain ⟨_, texts, htext, htexts, rfl⟩ := meaning_cons_eq_ok hs
    cases htext
    obtain ⟨hlike, hreads⟩ := ih (hcs.of_append [c]) htexts
    rw [String.toList_append, String.toList_singleton, List.singleton_append]
    exact ⟨.inl rfl, fun _ => .plain (halone.of_startsLike hlike) (hreads _)⟩
  | @placeholder _ key rest ts hkey _ ih =>
    obtain ⟨text, texts, htext, htexts, rfl⟩ := meaning_cons_eq_ok hs
    have hclose : NoneDoubled ('}' :: rest) := hcs.of_append ('{' :: key.toList)
    obtain ⟨hlike, hreads⟩ := ih (hclose.of_append ['}']) htexts
    rw [String.toList_append, List.flatMap_cons, Token.filled]
    cases hget : first.get? key with
    | none =>
      rw [Token.text_placeholder_of_none hget] at htext
      cases htext
      have hwritten : ("\x7b" ++ key ++ "\x7d").toList ++ texts.toList =
          '{' :: (key.toList ++ '}' :: texts.toList) := by
        simp
      rw [hwritten]
      exact ⟨.inl rfl, fun _ => .placeholder hkey (hreads _)⟩
    | some v =>
      rw [Token.text_placeholder_of_some hget] at htext
      cases htext
      have hvalue := hfirst _ (Dict.mem_of_get?_eq_some hget)
      refine ⟨.inr ⟨rfl, ?_⟩, Reads.literals hvalue hreads⟩
      cases hchars : v.valueText.toList with
      | nil =>
        -- An empty value shows what stands behind the placeholder, which is no closing brace.
        exact hlike.head?_ne_close (hclose.not_doubled (.inr rfl))
      | cons d ds =>
        rw [hchars] at hvalue
        simpa using (hvalue d List.mem_cons_self).2

/-! ## Evaluation -/

/-- Rendering can be done in stages. If the template doubles no brace, the first parameters have no
braces in their texts, and the lenient engine renders the template with them, then rendering the
result with second parameters gives in either mode what rendering the template with both does, where
the first parameters count before the second: a text, or the same missing parameter. -/
theorem evaluate_staged (strict : Bool) (template s : String) {first second both : Params}
    (htemplate : NoneDoubled template.toList) (hfirst : Braceless first)
    (hboth : ∀ key, both.get? key = (first.get? key).or (second.get? key))
    (hs : evaluate false (some template) (some first) = .value (.string s)) :
    evaluate strict (some s) (some second) = evaluate strict (some template) (some both) ∧
      ((∃ text, evaluate strict (some template) (some both) = .value (.string text)) ∨
        ∃ key, strict ∧
          evaluate strict (some template) (some both) = .failure (.missingParameter key)) := by
  have hclosed : ∀ o, .unterminated o ∉ tokens 0 template.toList := fun o hmem =>
    (evaluate_value_iff template).1 ⟨_, hs⟩ _ hmem
  rw [evaluate_some, Option.getD_some] at hs
  obtain ⟨s', hmeaning, hs'⟩ := finish_eq_value_iff.1 hs
  rw [String.empty_append] at hs'
  cases hs'
  obtain ⟨-, hreads⟩ := (reads_tokens 0 template.toList).filled hfirst htemplate hmeaning
  constructor
  · rw [evaluate_some, evaluate_some, Option.getD_some, Option.getD_some, (hreads 0).tokens_eq,
      meaning_filled hboth]
  · rw [evaluate_some, Option.getD_some]
    rcases meaning_of_closed hclosed strict both with ⟨text, h⟩ | ⟨key, hstrict, h⟩
    · exact .inl ⟨"" ++ text, by rw [h]; rfl⟩
    · exact .inr ⟨key, hstrict, by rw [h]; rfl⟩

/-- Between braces that stand alone one value is empty, one has a text, and one comes with the second
parameters, which would also bind the first key. -/
theorem evaluate_staged_empty :
    evaluate true (some "\x7b \x7d x\x7bc\x7d \x7d")
        (some [("a", .string "2"), ("c", .string "\x7ba\x7d\x7d")]) =
      evaluate true (some "\x7b \x7d\x7ba\x7d \x7bb\x7d\x7bc\x7d \x7d")
        (some (Dict.overlay [("a", .string "2"), ("c", .string "\x7ba\x7d\x7d")]
          [("a", .null), ("b", .string "x")])) := by
  have hs : evaluate false (some "\x7b \x7d\x7ba\x7d \x7bb\x7d\x7bc\x7d \x7d")
      (some [("a", .null), ("b", .string "x")]) =
      .value (.string "\x7b \x7d x\x7bc\x7d \x7d") := by
    rw [evaluate_some]
    with_unfolding_all rfl
  exact (evaluate_staged true _ _ (by decide) (by decide) (Dict.get?_overlay (by decide) _) hs).1

end TemplateEngines.Substitution
