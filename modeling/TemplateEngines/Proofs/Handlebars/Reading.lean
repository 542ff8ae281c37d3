/-
Reading texts and tags that hold nothing but a name. Every reader takes the text or the name off the
front and leaves what stands behind it (`takeText_append`, `readTag_name`).
-/
import TemplateEngines.Handlebars.Piece
import Mathlib.Data.List.TakeWhile
import Mathlib.Data.Option.Basic

namespace TemplateEngines.Handlebars

open Json (skipBlanks)

theorem consumed_append (text rest : List Char) : consumed (text ++ rest) rest = text := by
  simp [consumed]

/-- A class of characters tells what it holds from what it does not. -/
theorem ne_of_class {p : Char → Bool} {c d : Char} (hc : p c) (hd : p d = false) : c ≠ d := by
  rintro rfl
  rw [hc] at hd
  cases hd

/-! ## Texts -/

section Text

variable {stop rest : List Char} {c : Char}

theorem takeText_stop (hc : c ≠ '\\') (hstop : (skipText stop (c :: rest)).isSome) :
    takeText stop (c :: rest) = ([], c :: rest) := by
  rw [takeText.eq_def]
  split <;> simp_all

theorem takeText_cons (hc : c ≠ '\\') (hstop : skipText stop (c :: rest) = none) :
    takeText stop (c :: rest) = (c :: (takeText stop rest).1, (takeText stop rest).2) := by
  rw [takeText.eq_def]
  split <;> simp_all

/-- A text without opening braces and backslashes is taken up to the next tag. -/
theorem takeText_append {text rest : List Char} (h : ∀ c ∈ text, c ≠ '{' ∧ c ≠ '\\')
    (hrest : rest = [] ∨ ∃ more, rest = '{' :: '{' :: more) :
    takeText ['{', '{'] (text ++ rest) = (text, rest) := by
  induction text with
  | nil =>
    rcases hrest with rfl | ⟨more, rfl⟩
    · rw [List.nil_append, takeText]
    · exact takeText_stop (by decide) rfl
  | cons c cs ih =>
    obtain ⟨⟨hopen, hc⟩, hcs⟩ := List.forall_mem_cons.1 h
    have hstop : skipText ['{', '{'] (c :: (cs ++ rest)) = none := if_neg (Ne.symm hopen)
    rw [List.cons_append, takeText_cons hc hstop, ih hcs]

end Text

/-! ## Words -/

theorem readWord_append {p : Char → Bool} {word rest : List Char} {stop : Char} (hne : word ≠ [])
    (hword : ∀ c ∈ word, p c) (hstop : p stop = false) :
    readWord p (word ++ stop :: rest) = some (String.ofList word, stop :: rest) := by
  have htake : (word ++ stop :: rest).takeWhile p = word := by
    rw [List.takeWhile_append_of_pos hword, List.takeWhile_cons_of_neg (by simp [hstop]),
      List.append_nil]
  have hdrop : (word ++ stop :: rest).dropWhile p = stop :: rest := by
    rw [List.dropWhile_append_of_pos hword, List.dropWhile_cons_of_neg (by simp [hstop])]
  rw [readWord, htake, hdrop]
  obtain ⟨c, cs, rfl⟩ := List.exists_cons_of_ne_nil hne
  rfl

/-- A word that can stand as a name in a tag: it starts with a letter, goes on with characters of
names, and is no word of the template language. -/
structure IsName (word : List Char) : Prop where
  letter : ∃ c cs, word = c :: cs ∧ c.isAlpha
  symbols : ∀ c ∈ word, isSymbolChar c
  ne_this : word ≠ ['t', 'h', 'i', 's']
  ne_else : word ≠ ['e', 'l', 's', 'e']

section Letter

variable {c : Char} (hc : c.isAlpha) (cs : List Char)

include hc

theorem readRoot_letter : readRoot (c :: cs) = ([], c :: cs) := by
  unfold readRoot
  split
  · next heq => exact absurd (List.cons.inj heq).1 (ne_of_class hc (by decide))
  · rfl

theorem readVariableMark_letter : readVariableMark (c :: cs) = ([], c :: cs) := by
  unfold readVariableMark
  split
  · next heq => exact absurd (List.cons.inj heq).1 (ne_of_class hc (by decide))
  · rfl

theorem readUps_letter : readUps (c :: cs) = ([], c :: cs) := by
  unfold readUps
  split
  · next heq => exact absurd (List.cons.inj heq).1 (ne_of_class hc (by decide))
  · rfl

end Letter

section Name

variable {word : List Char} (h : IsName word) (rest : List Char)

include h

theorem readIdentifier_name :
    readIdentifier (word ++ '}' :: rest) = some (String.ofList word, '}' :: rest) := by
  obtain ⟨c, cs, rfl, -⟩ := h.letter
  exact readWord_append (List.cons_ne_nil c cs) h.symbols (by decide)

/-- A name in front of a brace is followed by nothing else that ends a name. -/
theorem eq_of_append_eq (front : List Char) {after : List Char} {c : Char}
    (hfront : front.all isSymbolChar) (hc : isSymbolChar c = false)
    (heq : word ++ '}' :: rest = front ++ c :: after) : word = front := by
  have hsymbols : ∀ c ∈ front, isSymbolChar c := List.all_eq_true.1 hfront
  have := congrArg (List.takeWhile isSymbolChar) heq
  rwa [List.takeWhile_append_of_pos h.symbols, List.takeWhile_append_of_pos hsymbols,
    List.takeWhile_cons_of_neg (by decide), List.takeWhile_cons_of_neg (by simp [hc]),
    List.append_nil, List.append_nil] at this

theorem skipCurrent_name : skipCurrent (word ++ '}' :: rest) = word ++ '}' :: rest := by
  generalize hcs : word ++ '}' :: rest = cs
  unfold skipCurrent
  split
  · next c after =>
    split
    · next hc =>
      -- The name would have to end before the separator, and would then be `this`.
      have hstop : isSymbolChar c = false := by
        rcases (by simpa [isSeparator] using hc) with rfl | rfl <;> decide
      exact absurd (eq_of_append_eq h rest ['t', 'h', 'i', 's'] rfl hstop hcs) h.ne_this
    · rfl
  · next after =>
    obtain ⟨c, cs, rfl, hc⟩ := h.letter
    obtain ⟨rfl, -⟩ := List.cons.inj hcs
    exact absurd hc (by decide)
  · rfl

theorem readItem_name : readItem (word ++ '}' :: rest) =
    some ([.name (String.ofList word)], '}' :: rest) := by
  have hident := readIdentifier_name h rest
  have hthis : String.ofList word ≠ "this" := by
    intro heq
    apply h.ne_this
    rw [← String.toList_ofList (l := word), heq]
    rfl
  obtain ⟨c, cs, rfl, hc⟩ := h.letter
  rw [List.cons_append] at hident ⊢
  unfold readItem
  split
  · next heq => exact absurd (List.cons.inj heq).1 (ne_of_class hc (by decide))
  · rw [hident]
    show some (if String.ofList (c :: cs) = "this" then [] else _, _) = _
    rw [if_neg hthis]

theorem readPath_name : readPath (word ++ '}' :: rest) =
    some (⟨String.ofList word, [.name (String.ofList word)]⟩, '}' :: rest) := by
  have hskip := skipCurrent_name h rest
  have hitem := readItem_name h rest
  have hmore : readMoreItems ('}' :: rest).length ('}' :: rest) = ([], '}' :: rest) := rfl
  have hconsumed := consumed_append word ('}' :: rest)
  obtain ⟨c, cs, rfl, hc⟩ := h.letter
  rw [List.cons_append] at hskip hitem hconsumed ⊢
  simp only [readPath, hskip, readRoot_letter hc, readVariableMark_letter hc, readUps_letter hc,
    hitem, Option.bind_eq_bind, Option.bind_some, hmore, hconsumed, List.nil_append,
    List.append_nil]

/-- No parameter follows a name in front of a brace. -/
theorem readCall_name : readCall readParam (word ++ '}' :: rest) = none := by
  have hpart : readPart readParam (skipBlanks ('}' :: rest)) = none := rfl
  have hparts : readPartsWith readParam ('}' :: rest).length ('}' :: rest) = ([], '}' :: rest) := by
    rw [List.length_cons, readPartsWith, hpart]
  simp only [readCall, readIdentifier_name h rest, Option.bind_eq_bind, Option.bind_some, hparts]
  rfl

end Name

/-! ## Tags -/

/-- The expression that a name alone stands for. -/
def Expression.ofName (name : String) : Expression where
  head := .path ⟨name, [.name name]⟩

theorem skipText_eq_some {text cs rest : List Char} (h : skipText text cs = some rest) :
    cs = text ++ rest := by
  induction text generalizing cs with
  | nil => exact Option.some.inj h
  | cons t ts ih =>
    cases cs with
    | nil => cases h
    | cons c cs =>
      rw [skipText] at h
      split at h
      · next htc => rw [htc, List.cons_append, ih h]
      · cases h

theorem skipBlanks_symbol {c : Char} (hc : isSymbolChar c) (cs : List Char) :
    skipBlanks (c :: cs) = c :: cs := by
  have hblank : Json.isBlank c = false := by
    simp only [Json.isBlank, Bool.or_eq_false_iff, beq_eq_false_iff_ne]
    exact ⟨⟨⟨ne_of_class hc (by decide), ne_of_class hc (by decide)⟩,
      ne_of_class hc (by decide)⟩, ne_of_class hc (by decide)⟩
  exact List.dropWhile_cons_of_neg (by simp [hblank])

/-- A tag does not end with a character of a name. -/
theorem readEnd_symbol {c : Char} (hc : isSymbolChar c) (cs : List Char) :
    readEnd ['}', '}'] (c :: cs) = none := by
  rw [readEnd, skipBlanks_symbol hc]
  split
  · next heq => exact absurd (List.cons.inj heq).1 (ne_of_class hc (by decide))
  · rw [skipText, if_neg (ne_of_class hc (by decide)).symm]
    rfl

section Tag

variable {word : List Char} (h : IsName word) (rest : List Char)

include h

theorem readName_name : readName (word ++ '}' :: rest) =
    some (.path ⟨String.ofList word, [.name (String.ofList word)]⟩, '}' :: rest) := by
  have hpath := readPath_name h rest
  obtain ⟨c, cs, rfl, hc⟩ := h.letter
  rw [List.cons_append] at hpath ⊢
  unfold readName
  split
  · next heq => exact absurd (List.cons.inj heq).1 (ne_of_class hc (by decide))
  · rw [hpath]
    rfl

theorem readValue_name : readValue (word ++ '}' :: rest) =
    some (.ofName (String.ofList word), '}' :: rest) := by
  rw [readValue, readCall_name h rest, readName_name h rest]
  rfl

/-- A word that goes on after `else` divides no block. -/
theorem readAlternative_name : readAlternative (word ++ '}' :: rest) = none := by
  have hcaret : skipChar '^' (word ++ '}' :: rest) = none := by
    obtain ⟨c, cs, rfl, hc⟩ := h.letter
    exact if_neg (ne_of_class hc (by decide))
  rw [readAlternative, hcaret, Option.or_none]
  cases helse : skipText ['e', 'l', 's', 'e'] (word ++ '}' :: rest) with
  | none => rfl
  | some after =>
    have heq := skipText_eq_some helse
    obtain _ | ⟨c, cs⟩ := after
    · have hmem : '}' ∈ ['e', 'l', 's', 'e'] ++ [] := heq ▸ by simp
      exact absurd hmem (by decide)
    · -- The word goes on after `else`, so the tag does not end here.
      have hc : isSymbolChar c := by
        rw [← Bool.not_eq_false]
        intro hc
        exact h.ne_else (eq_of_append_eq h rest ['e', 'l', 's', 'e'] rfl hc heq)
      simp only [Option.bind_eq_bind, Option.bind_some, readEnd_symbol hc, Option.bind_none]

theorem skipBlanks_name : skipBlanks (word ++ '}' :: rest) = word ++ '}' :: rest := by
  have hsymbols := h.symbols
  obtain ⟨c, cs, rfl, -⟩ := h.letter
  exact skipBlanks_symbol (hsymbols c List.mem_cons_self) _

theorem readStart_name : readStart ['{', '{'] ('{' :: '{' :: (word ++ '}' :: rest)) =
    some (false, word ++ '}' :: rest) := by
  have hskip : skipText ['{', '{'] ('{' :: '{' :: (word ++ '}' :: rest)) =
      some (word ++ '}' :: rest) := rfl
  simp only [readStart, hskip, Option.bind_eq_bind, Option.bind_some, skipBlanks_name h]
  obtain ⟨c, cs, rfl, hc⟩ := h.letter
  split
  · next heq => exact absurd (List.cons.inj heq).1 (ne_of_class hc (by decide))
  · rfl

theorem readInner_name : readInner (word ++ '}' :: '}' :: rest) =
    some ((.value (.ofName (String.ofList word)), false), rest) := by
  have hcontent : readContent readValue .value (word ++ '}' :: '}' :: rest) =
      some ((.value (.ofName (String.ofList word)), false), rest) := by
    simp only [readContent, skipBlanks_name h, readValue_name h, Option.bind_eq_bind,
      Option.bind_some]
    rfl
  rw [← hcontent, ← Option.none_or (o := readContent _ _ _), ← readAlternative_name h ('}' :: rest)]
  obtain ⟨c, cs, rfl, hc⟩ := h.letter
  unfold readInner
  split
  -- None of the marks that choose another kind of tag is a letter.
  all_goals try next heq => exact absurd (List.cons.inj heq).1 (ne_of_class hc (by decide))
  rfl

/-- A tag that holds nothing but a name writes a value. -/
theorem readTag_name : readTag ('{' :: '{' :: (word ++ '}' :: '}' :: rest)) =
    some ((.value (.ofName (String.ofList word)), false, false), rest) := by
  -- A letter stands where a third brace or the mark of a comment would stand.
  have hthird : ∀ mark : Char, mark.isAlpha = false →
      skipText ['{', '{', mark] ('{' :: '{' :: (word ++ '}' :: '}' :: rest)) = none := by
    intro mark hmark
    obtain ⟨c, cs, rfl, hc⟩ := h.letter
    exact if_neg (ne_of_class hc hmark).symm
  have hlegacy : readStart ['{', '{', '{'] ('{' :: '{' :: (word ++ '}' :: '}' :: rest)) = none := by
    rw [readStart, hthird '{' (by decide)]
    rfl
  have hcomment := hthird '!' (by decide)
  simp only [readTag, hlegacy, hcomment, readStart_name h, readInner_name h, Option.bind_eq_bind,
    Option.bind_some, Option.bind_none, Option.none_or, Option.some_or]

end Tag

/-! ## Pieces -/

/-- A text that is taken as it stands, up to the end, is the last piece. -/
theorem piecesFrom_of_takeText {text : List Char} (h : takeText ['{', '{'] text = (text, []))
    (fuel : Nat) (before : List Char) :
    piecesFrom (fuel + 1) before text = some (textPiece text text) := by
  have hconsumed := consumed_append text []
  rw [List.append_nil] at hconsumed
  rw [piecesFrom, h]
  simp only [hconsumed]
  rfl

section Pieces

variable {text : List Char} (htext : ∀ c ∈ text, c ≠ '{' ∧ c ≠ '\\') (fuel : Nat)
  (before : List Char)

include htext

theorem piecesFrom_text : piecesFrom (fuel + 1) before text = some (textPiece text text) := by
  have htake := takeText_append htext (.inl rfl)
  rw [List.append_nil] at htake
  exact piecesFrom_of_takeText htake fuel before

/-- A tag that writes a value is read together with the text before it. -/
theorem piecesFrom_value {more after : List Char} {e : Expression} {trimBefore trimAfter : Bool}
    (h : readTag ('{' :: '{' :: more) = some ((.value e, trimBefore, trimAfter), after)) :
    piecesFrom (fuel + 1) before (text ++ '{' :: '{' :: more) =
      (piecesFrom fuel ((consumed ('{' :: '{' :: more) after).reverse ++ (text.reverse ++ before))
        after).map fun ps =>
          textPiece text text ++
            .tag (tokenAt (text.reverse ++ before) after (.value e) trimBefore trimAfter) :: ps := by
  have htake := takeText_append htext (.inr ⟨more, rfl⟩)
  rw [piecesFrom, htake]
  simp only [consumed_append, List.isEmpty_cons, Bool.false_eq_true, if_false, h,
    Option.bind_eq_bind, Option.bind_some]
  cases piecesFrom fuel _ after <;> rfl

end Pieces

end TemplateEngines.Handlebars
