/-
Compact JSON reads back. A value whose numbers are all integers of 64 bits is read from its compact
text as it was, in front of anything that does not go on with a number (`readValue_write`), as long
as it is nested no deeper than the reader follows (`parse_compactText`).
-/
import TemplateEngines.Proofs.Decimal.Digits

namespace TemplateEngines

/-! ## Numbers -/

namespace Number

/-- No character follows that goes on with a number. -/
def Ends (rest : List Char) : Prop :=
  ∀ c ∈ rest.head?, ¬ c.isDigit ∧ c ≠ '.' ∧ c ≠ 'e' ∧ c ≠ 'E'

theorem ends_nil : Ends [] := by
  rintro c ⟨⟩

theorem ends_cons {c : Char} (hc : ¬ c.isDigit ∧ c ≠ '.' ∧ c ≠ 'e' ∧ c ≠ 'E') (rest : List Char) :
    Ends (c :: rest) := by
  rintro d ⟨⟩
  exact hc

section Ends

variable {rest : List Char} (h : Ends rest)

include h

theorem readFraction_ends : readFraction rest = some (none, rest) := by
  unfold readFraction
  split
  · exact absurd rfl (h '.' rfl).2.1
  · rfl

theorem readExponent_ends : readExponent rest = some (none, rest) := by
  unfold readExponent
  split
  -- All alternatives but the last start with the mark of an exponent.
  all_goals first
    | rfl
    | exact absurd rfl (h 'e' rfl).2.2.1
    | exact absurd rfl (h 'E' rfl).2.2.2

/-- The digits of a number are read as a literal without fraction and exponent. -/
theorem readUnsigned_toDigits (negative : Bool) (n : Nat) :
    readUnsigned negative (Nat.toDigits 10 n ++ rest) =
      (Literal.value? ⟨negative, Nat.toDigits 10 n, none, none⟩).map (·, rest) := by
  have htake : takeDigits (Nat.toDigits 10 n ++ rest) = (Nat.toDigits 10 n, rest) :=
    takeDigits_append (fun c hc => isDigit_of_mem_toDigits hc) fun c hc => (h c hc).1
  have hzero : ¬ ((Nat.toDigits 10 n).head? == some '0' && (Nat.toDigits 10 n).length > 1) := by
    by_cases hn : n = 0
    · subst hn
      decide
    · simp [head?_toDigits hn]
  simp only [readUnsigned, htake, readFraction_ends h]
  simp [hzero, Nat.toDigits_ne_nil, readExponent_ends h, Option.map_eq_bind]

/-- An integer that fits into a signed or an unsigned word of 64 bits reads back. -/
theorem read_writeInt {n : Int} (hlow : -2 ^ 63 ≤ n) (hhigh : n < 2 ^ 64) :
    read (writeInt n ++ rest) = some (.int n, rest) := by
  have hfits : n.natAbs < Nat.pow 2 64 := by
    show n.natAbs < 2 ^ 64
    omega
  by_cases hn : n < 0
  · have hsigned : n.natAbs ≠ 0 ∧ n.natAbs ≤ Nat.pow 2 63 := by
      show n.natAbs ≠ 0 ∧ n.natAbs ≤ 2 ^ 63
      omega
    have hvalue : Literal.value? ⟨true, Nat.toDigits 10 n.natAbs, none, none⟩ = some (.int n) := by
      have hnat : -(n.natAbs : Int) = n := by omega
      simp only [Literal.value?, digitsValue_toDigits, if_true, if_pos hsigned, hnat]
    rw [writeInt, if_pos hn, List.cons_append, read, readUnsigned_toDigits h, hvalue]
    rfl
  · have hvalue : Literal.value? ⟨false, Nat.toDigits 10 n.natAbs, none, none⟩ = some (.int n) := by
      have hnat : (n.natAbs : Int) = n := by omega
      simp only [Literal.value?, digitsValue_toDigits, if_pos hfits, hnat]
      rfl
    have hread : read (Nat.toDigits 10 n.natAbs ++ rest) =
        readUnsigned false (Nat.toDigits 10 n.natAbs ++ rest) := by
      unfold read
      split
      · next heq =>
        -- Digits do not start with a sign.
        obtain ⟨c, cs, hcs⟩ := List.exists_cons_of_ne_nil (Nat.toDigits_ne_nil (n := n.natAbs))
        have hc := isDigit_of_mem_toDigits (hcs ▸ List.mem_cons_self)
        rw [hcs] at heq
        obtain ⟨rfl, -⟩ := List.cons.inj heq
        exact absurd hc (by decide)
      · rfl
    rw [writeInt, if_neg hn, hread, readUnsigned_toDigits h, hvalue]
    rfl

end Ends

end Number

namespace Json

/-! ## Strings -/

theorem hexValue?_hexDigit : ∀ n < 16, hexValue? (hexDigit n) = some n := by
  decide

section Chars

variable (fuel : Nat) {c : Char} (rest : List Char)

/-- What stands behind a backslash is read as the character that it means. -/
theorem readChars_escape {escape : List Char} (h : readEscape (escape ++ rest) = some (c, rest)) :
    readChars (fuel + 1) ('\\' :: (escape ++ rest)) =
      (readChars fuel rest).map fun p => (c :: p.1, p.2) := by
  simp only [readChars, h, Option.bind_eq_bind, Option.bind_some, Option.map_eq_bind]
  rfl

theorem readChars_plain (hquote : c ≠ '"') (hbackslash : c ≠ '\\') (hcontrol : ¬ c.toNat < 0x20) :
    readChars (fuel + 1) (c :: rest) = (readChars fuel rest).map fun p => (c :: p.1, p.2) := by
  rw [readChars]
  · rw [if_neg hcontrol, Option.map_eq_bind]
    rfl
  all_goals simp_all

/-- A control character without a letter of its own is read from its number. -/
theorem readEscape_control (hcontrol : c.toNat < 0x20) :
    readEscape (['u', '0', '0', hexDigit (c.toNat / 16), hexDigit (c.toNat % 16)] ++ rest) =
      some (c, rest) := by
  have hhigh := hexValue?_hexDigit (c.toNat / 16) (by omega)
  have hlow := hexValue?_hexDigit (c.toNat % 16) (by omega)
  have hzero : hexValue? '0' = some 0 := rfl
  have hnumber : ((0 * 16 + 0) * 16 + c.toNat / 16) * 16 + c.toNat % 16 = c.toNat := by omega
  have hhex : ¬ (0xD800 ≤ c.toNat ∧ c.toNat < 0xDC00) := by omega
  have hhex' : ¬ (0xDC00 ≤ c.toNat ∧ c.toNat < 0xE000) := by omega
  simp only [List.cons_append, List.nil_append, readEscape, readUnicode, readUnit, hzero, hhigh,
    hlow, hnumber, Option.bind_eq_bind, Option.bind_some, if_neg hhex, if_neg hhex', Char.ofNat_toNat]

/-- A character of a string is read as it has been written. -/
theorem readChars_escapeChar (c : Char) :
    readChars (fuel + 1) (escapeChar c ++ rest) =
      (readChars fuel rest).map fun p => (c :: p.1, p.2) := by
  unfold escapeChar
  split
  case h_8 hquote hbackslash _ _ _ _ _ =>
    split
    · next hcontrol => exact readChars_escape fuel rest (readEscape_control rest hcontrol)
    · next hcontrol => exact readChars_plain fuel rest hquote hbackslash hcontrol
  all_goals exact readChars_escape fuel rest rfl

end Chars

theorem length_le_escaped (text : List Char) : text.length ≤ (text.flatMap escapeChar).length := by
  induction text with
  | nil => exact Nat.le_refl 0
  | cons c cs ih =>
    have hne : 0 < (escapeChar c).length := by
      unfold escapeChar
      split <;> try exact Nat.succ_pos _
      split <;> exact Nat.succ_pos _
    rw [List.flatMap_cons, List.length_append, List.length_cons]
    omega

theorem readChars_escaped (text rest : List Char) {fuel : Nat} (hfuel : text.length < fuel) :
    readChars fuel (text.flatMap escapeChar ++ '"' :: rest) = some (text, rest) := by
  induction text generalizing fuel with
  | nil =>
    obtain ⟨fuel, rfl⟩ := Nat.exists_eq_add_of_lt hfuel
    rfl
  | cons c cs ih =>
    rw [List.length_cons] at hfuel
    obtain ⟨fuel, rfl⟩ : ∃ n, fuel = n + 1 := ⟨fuel - 1, by omega⟩
    rw [List.flatMap_cons, List.append_assoc, readChars_escapeChar, ih (by omega)]
    rfl

/-- A string reads back once its opening quote has been passed. -/
theorem readString_written (s : String) (rest : List Char) :
    readString (s.toList.flatMap escapeChar ++ '"' :: rest) = some (s, rest) := by
  have hlength := length_le_escaped s.toList
  rw [readString, readChars_escaped _ _ (by rw [List.length_append]; omega)]
  simp

/-! ## Values -/

/-- A value whose numbers are all integers of 64 bits, signed or not, nested at most `depth` levels
deep. -/
inductive Integral : Nat → Json → Prop where
  | null {depth : Nat} : Integral depth .null
  | bool {depth : Nat} (b : Bool) : Integral depth (.bool b)
  | int {depth : Nat} {n : Int} (hlow : -2 ^ 63 ≤ n) (hhigh : n < 2 ^ 64) :
      Integral depth (.number (.int n))
  | string {depth : Nat} (s : String) : Integral depth (.string s)
  | array {depth : Nat} {items : List Json} (hitems : ∀ v ∈ items, Integral depth v) :
      Integral (depth + 1) (.array items)
  /-- The names of the members are in order, each name once. -/
  | object {depth : Nat} {members : Dict Json} (hsorted : members.Sorted)
      (hmembers : ∀ row ∈ members, Integral depth row.2) : Integral (depth + 1) (.object members)

theorem skipBlanks_cons {c : Char} (hc : isBlank c = false) (cs : List Char) :
    skipBlanks (c :: cs) = c :: cs :=
  List.dropWhile_cons_of_neg (by simp [hc])

theorem writeInt_head (n : Int) : ∃ c cs, writeInt n = c :: cs ∧ (c = '-' ∨ c.isDigit) := by
  by_cases hn : n < 0
  · exact ⟨'-', _, if_pos hn, .inl rfl⟩
  · obtain ⟨c, cs, hcs⟩ := List.exists_cons_of_ne_nil (Nat.toDigits_ne_nil (n := n.natAbs))
    exact ⟨c, cs, (if_neg hn).trans hcs, .inr (isDigit_of_mem_toDigits (hcs ▸ List.mem_cons_self))⟩

/-- A sign or a digit is no other character. -/
theorem ne_of_number {c d : Char} (hc : c = '-' ∨ c.isDigit) (hd : ¬ (d = '-' ∨ d.isDigit)) :
    c ≠ d := by
  rintro rfl
  exact hd hc

/-- A value starts neither with a blank nor with the end of an array. -/
theorem Integral.head {depth : Nat} {v : Json} (h : Integral depth v) :
    ∃ c cs, v.write = c :: cs ∧ isBlank c = false ∧ c ≠ ']' := by
  cases h with
  | null => exact ⟨_, _, rfl, rfl, by decide⟩
  | bool b => cases b <;> exact ⟨_, _, rfl, rfl, by decide⟩
  | string s | array _ | object _ _ => exact ⟨_, _, rfl, rfl, by decide⟩
  | @int _ n =>
    obtain ⟨c, cs, hcs, hc⟩ := writeInt_head n
    refine ⟨c, cs, hcs, ?_, ne_of_number hc (by decide)⟩
    simp only [isBlank, Bool.or_eq_false_iff, beq_eq_false_iff_ne]
    exact ⟨⟨⟨ne_of_number hc (by decide), ne_of_number hc (by decide)⟩,
      ne_of_number hc (by decide)⟩, ne_of_number hc (by decide)⟩

theorem Integral.skipBlanks_write {depth : Nat} {v : Json} (h : Integral depth v)
    (rest : List Char) : skipBlanks (v.write ++ rest) = v.write ++ rest := by
  obtain ⟨c, cs, hv, hc, -⟩ := h.head
  rw [hv, List.cons_append, skipBlanks_cons hc]

section Values

variable {depth : Nat}

/-- What opens no array and no object is read as a scalar. -/
theorem readValue_scalar {c : Char} (harray : c ≠ '[') (hobject : c ≠ '\x7b') (cs : List Char) :
    readValue depth (c :: cs) = readScalar (c :: cs) := by
  cases depth with
  | zero => rfl
  | succ depth => rw [readValue] <;> simp_all

theorem readValue_int {n : Int} (hlow : -2 ^ 63 ≤ n) (hhigh : n < 2 ^ 64) {rest : List Char}
    (hrest : Number.Ends rest) :
    readValue depth (writeInt n ++ rest) = some (.number (.int n), rest) := by
  have hread := Number.read_writeInt hrest hlow hhigh
  obtain ⟨c, cs, hcs, hc⟩ := writeInt_head n
  rw [hcs, List.cons_append] at hread ⊢
  rw [readValue_scalar (ne_of_number hc (by decide)) (ne_of_number hc (by decide))]
  unfold readScalar
  split
  -- Words and strings start neither with a sign nor with a digit.
  case h_5 => rw [hread, Option.map_some]
  all_goals next heq => exact absurd (List.cons.inj heq).1 (ne_of_number hc (by decide))

/-- Whether a reader gives back a value that has been written, if no number goes on behind it. -/
def ReadsBack (item : Reader) (v : Json) : Prop :=
  ∀ rest, Number.Ends rest → item (v.write ++ rest) = some (v, rest)

section Steps

variable {item : Reader} {v : Json} (hv : Integral depth v) (hread : ReadsBack item v) (fuel : Nat)
  (rest : List Char)

include hv hread

theorem readItems_last :
    readItems item (fuel + 1) (v.write ++ ']' :: rest) = some ([v], rest) := by
  rw [readItems, hv.skipBlanks_write, hread _ (Number.ends_cons (by decide) rest)]
  rfl

theorem readItems_more :
    readItems item (fuel + 1) (v.write ++ ',' :: rest) =
      (readItems item fuel rest).map fun p => (v :: p.1, p.2) := by
  rw [readItems, hv.skipBlanks_write, hread _ (Number.ends_cons (by decide) rest),
    Option.map_eq_bind]
  rfl

variable (name : String)

theorem readMembers_last :
    readMembers item (fuel + 1) (writeString name ++ ':' :: (v.write ++ '\x7d' :: rest)) =
      some ([(name, v)], rest) := by
  have hvalue := hread ('\x7d' :: rest) (Number.ends_cons (by decide) rest)
  rw [writeString, List.cons_append, List.append_assoc, readMembers]
  simp only [skipBlanks_cons (c := '"') rfl, skipBlanks_cons (c := ':') rfl, readString_written,
    Option.bind_eq_bind, Option.bind_some, List.cons_append, List.nil_append,
    hv.skipBlanks_write, hvalue]
  rfl

theorem readMembers_more :
    readMembers item (fuel + 1) (writeString name ++ ':' :: (v.write ++ ',' :: rest)) =
      (readMembers item fuel rest).map fun p => ((name, v) :: p.1, p.2) := by
  have hvalue := hread (',' :: rest) (Number.ends_cons (by decide) rest)
  rw [writeString, List.cons_append, List.append_assoc, readMembers, Option.map_eq_bind]
  simp only [skipBlanks_cons (c := '"') rfl, skipBlanks_cons (c := ':') rfl, readString_written,
    Option.bind_eq_bind, Option.bind_some, List.cons_append, List.nil_append,
    hv.skipBlanks_write, hvalue]
  rfl

end Steps

section Lists

variable {item : Reader} (rest : List Char) {fuel : Nat}

/-- The items of an array are read up to the closing bracket. -/
theorem readItems_written {items : List Json} (hne : items ≠ [])
    (hitems : ∀ v ∈ items, Integral depth v) (hread : ∀ v ∈ items, ReadsBack item v)
    (hfuel : items.length ≤ fuel) :
    readItems item fuel (writeItems items ++ ']' :: rest) = some (items, rest) := by
  induction items generalizing fuel with
  | nil => exact absurd rfl hne
  | cons v vs ih =>
    obtain ⟨fuel, rfl⟩ : ∃ n, fuel = n + 1 := ⟨fuel - 1, by rw [List.length_cons] at hfuel; omega⟩
    obtain ⟨hv, hvs⟩ := List.forall_mem_cons.1 hitems
    obtain ⟨hreadv, hreadvs⟩ := List.forall_mem_cons.1 hread
    cases vs with
    | nil => exact readItems_last hv hreadv fuel rest
    | cons w ws =>
      have hmore := ih (List.cons_ne_nil w ws) hvs hreadvs (Nat.le_of_succ_le_succ hfuel)
      have hwritten : writeItems (v :: w :: ws) = v.write ++ ',' :: writeItems (w :: ws) := by
        simp [writeItems]
      rw [hwritten, List.append_assoc, List.cons_append, readItems_more hv hreadv, hmore]
      rfl

/-- The members of an object are read up to the closing brace. -/
theorem readMembers_written {members : Dict Json} (hne : members ≠ [])
    (hmembers : ∀ row ∈ members, Integral depth row.2)
    (hread : ∀ row ∈ members, ReadsBack item row.2) (hfuel : members.length ≤ fuel) :
    readMembers item fuel (writeMembers members ++ '\x7d' :: rest) = some (members, rest) := by
  induction members generalizing fuel with
  | nil => exact absurd rfl hne
  | cons row rows ih =>
    obtain ⟨name, v⟩ := row
    obtain ⟨fuel, rfl⟩ : ∃ n, fuel = n + 1 := ⟨fuel - 1, by rw [List.length_cons] at hfuel; omega⟩
    obtain ⟨hv, hrows⟩ := List.forall_mem_cons.1 hmembers
    obtain ⟨hreadv, hreadrows⟩ := List.forall_mem_cons.1 hread
    cases rows with
    | nil =>
      rw [writeMembers, List.append_assoc, List.cons_append]
      exact readMembers_last hv hreadv fuel rest name
    | cons row rows =>
      have hmore := ih (List.cons_ne_nil row rows) hrows hreadrows (Nat.le_of_succ_le_succ hfuel)
      have hwritten : writeMembers ((name, v) :: row :: rows) =
          writeString name ++ ':' :: (v.write ++ ',' :: writeMembers (row :: rows)) := by
        simp [writeMembers]
      rw [hwritten, List.append_assoc, List.cons_append, List.append_assoc, List.cons_append,
        readMembers_more hv hreadv, hmore]
      rfl

end Lists

/-- Every item takes up some room behind the comma in front of it. -/
theorem length_le_writeItems (items : List Json) : items.length ≤ (writeItems items).length + 1 := by
  induction items with
  | nil => exact Nat.zero_le _
  | cons v vs ih =>
    cases vs with
    | nil => exact Nat.le_add_left 1 _
    | cons w ws =>
      simp only [writeItems, List.length_append, List.length_cons] at ih ⊢
      omega

theorem length_le_writeMembers (members : Dict Json) :
    members.length ≤ (writeMembers members).length + 1 := by
  induction members with
  | nil => exact Nat.zero_le _
  | cons row rows ih =>
    obtain ⟨name, v⟩ := row
    cases rows with
    | nil => exact Nat.le_add_left 1 _
    | cons row rows =>
      simp only [writeMembers, List.length_append, List.length_cons] at ih ⊢
      omega

/-- The items of an array start as the first of them does. -/
theorem Integral.head_writeItems {v : Json} (h : Integral depth v) (vs : List Json) :
    ∃ c cs, writeItems (v :: vs) = c :: cs ∧ isBlank c = false ∧ c ≠ ']' := by
  obtain ⟨c, cs, hv, hc⟩ := h.head
  cases vs with
  | nil => exact ⟨c, cs, hv, hc⟩
  | cons w ws => exact ⟨c, cs ++ ',' :: writeItems (w :: ws), by simp [writeItems, hv], hc⟩

theorem head_writeMembers (row : String × Json) (rows : Dict Json) :
    ∃ cs, writeMembers (row :: rows) = '"' :: cs := by
  cases rows with
  | nil => exact ⟨_, rfl⟩
  | cons row' rows => exact ⟨_, rfl⟩

/-- A value is read from its compact text, if no number goes on behind it. -/
theorem readValue_write {v : Json} (h : Integral depth v) : ReadsBack (readValue depth) v := by
  intro rest hrest
  induction h generalizing rest with
  | null => exact readValue_scalar (by decide) (by decide) _
  | bool b => cases b <;> exact readValue_scalar (by decide) (by decide) _
  | int hlow hhigh => exact readValue_int hlow hhigh hrest
  | string s =>
    rw [write, writeString, List.cons_append, List.append_assoc,
      readValue_scalar (by decide) (by decide)]
    simp only [readScalar, List.singleton_append, readString_written, Option.map_some]
  | @array depth items hitems ih =>
    have hwritten : write (.array items) ++ rest = '[' :: (writeItems items ++ ']' :: rest) := by
      simp [write]
    rw [hwritten, readValue]
    cases items with
    | nil => rfl
    | cons v vs =>
      have hfuel : (v :: vs).length ≤ (writeItems (v :: vs) ++ ']' :: rest).length := by
        have := length_le_writeItems (v :: vs)
        simp only [List.length_append, List.length_cons] at this ⊢
        omega
      have hread := readItems_written rest (List.cons_ne_nil v vs) hitems ih hfuel
      obtain ⟨c, cs, hcs, hblank, hclose⟩ := (hitems v List.mem_cons_self).head_writeItems vs
      rw [hread, hcs, List.cons_append, skipBlanks_cons hblank]
      split
      · next heq => exact absurd (List.cons.inj heq).1 hclose
      · rfl
  | @object depth members hsorted hmembers ih =>
    have hwritten : write (.object members) ++ rest =
        '\x7b' :: (writeMembers members ++ '\x7d' :: rest) := by
      simp [write]
    rw [hwritten, readValue]
    cases members with
    | nil => rfl
    | cons row rows =>
      have hfuel : (row :: rows).length ≤ (writeMembers (row :: rows) ++ '\x7d' :: rest).length := by
        have := length_le_writeMembers (row :: rows)
        simp only [List.length_append, List.length_cons] at this ⊢
        omega
      have hread := readMembers_written rest (List.cons_ne_nil row rows) hmembers ih hfuel
      obtain ⟨cs, hcs⟩ := head_writeMembers row rows
      rw [hread, hcs, List.cons_append, skipBlanks_cons rfl]
      split
      · next heq => cases heq
      · simp only [Option.map_some, hsorted.ofList]

end Values

/-- The compact text of a value is read as the value. -/
theorem parse_compactText {v : Json} (h : Integral maxDepth v) : parse v.compactText = some v := by
  have hread := readValue_write h [] Number.ends_nil
  have hblanks := h.skipBlanks_write []
  rw [List.append_nil] at hread hblanks
  rw [parse, parseWithin, compactText, String.toList_ofList, hblanks, hread]
  rfl

end Json

end TemplateEngines
