/-
Seconds since the start of 1970. A whole number as text is no RFC 3339 text and denotes the time so
many seconds after that start (`ofText?_writeInt`); written in seconds the time is the same number
again (`write_unixFormat`, `unixSeconds_ofUnixSeconds`). In the years 0 to 9999 the time is what its
own RFC 3339 text in UTC denotes (`ofText?_write`).
-/
import TemplateEngines.Proofs.Time.Rfc3339

namespace TemplateEngines.Time

namespace Moment

theorem unixSeconds_ofUnixSeconds (n : Int) : (ofUnixSeconds n).unixSeconds = n := by
  unfold unixSeconds ofUnixSeconds
  dsimp only
  omega

/-! ## Whole numbers -/

theorem readDigits_of_not_isDigit {c : Char} (h : ¬ c.isDigit) (count : Nat) (rest : List Char) :
    readDigits (count + 1) (c :: rest) = none := by
  simp [readDigits, h]

theorem readMark_of_all_isDigit {cs : List Char} (h : ∀ c ∈ cs, c.isDigit) :
    readMark '-' cs = none := by
  cases cs with
  | nil => rfl
  | cons c rest =>
    rw [readMark, if_neg]
    rintro rfl
    exact absurd (h '-' List.mem_cons_self) (by decide)

/-- A whole number lacks the hyphens of a date. -/
theorem ofRfc3339?_writeInt (n : Int) : ofRfc3339? (String.ofList (writeInt n)) = none := by
  unfold ofRfc3339?
  rw [String.toList_ofList, writeInt]
  split
  · exact bind_of_none (readDigits_of_not_isDigit (by decide) 3 _) _
  · cases hread : readDigits 4 (Nat.toDigits 10 n.natAbs) with
    | none => rfl
    | some p =>
      rw [readDigits] at hread
      split at hread
      · cases hread
        refine bind_of_some rfl (bind_of_none (readMark_of_all_isDigit ?_) _)
        exact fun c hc => isDigit_of_mem_toDigits (List.mem_of_mem_drop hc)
      · cases hread

/-- The sign is told apart from the digits. -/
theorem signed_writeInt (n : Int) : (match writeInt n with
    | '-' :: rest => (true, rest)
    | '+' :: rest => (false, rest)
    | cs => (false, cs)) = (decide (n < 0), Nat.toDigits 10 n.natAbs) := by
  by_cases h : n < 0
  · rw [writeInt, if_pos h, decide_eq_true h]
    rfl
  · have hdigits : ∀ c ∈ Nat.toDigits 10 n.natAbs, c.isDigit := fun c hc =>
      isDigit_of_mem_toDigits hc
    rw [writeInt, if_neg h, decide_eq_false h]
    split
    next hds => exact absurd (hdigits '-' (hds ▸ List.mem_cons_self)) (by decide)
    next hds => exact absurd (hdigits '+' (hds ▸ List.mem_cons_self)) (by decide)
    · rfl

theorem readInteger_writeInt {n : Int} (hlow : -2 ^ 63 ≤ n) (hhigh : n < 2 ^ 63) :
    readInteger (String.ofList (writeInt n)) = some n := by
  have hdigits : (!(Nat.toDigits 10 n.natAbs).isEmpty &&
      (Nat.toDigits 10 n.natAbs).all Char.isDigit) = true := by
    rw [List.all_eq_true.2 fun c hc => isDigit_of_mem_toDigits hc]
    simp [Nat.toDigits_ne_nil]
  have hvalue : (if decide (n < 0) = true then -(n.natAbs : Int) else n.natAbs) = n := by
    simp only [decide_eq_true_eq]
    omega
  have hrange : (decide (-(Nat.pow 2 63 : Nat) ≤ n) && decide (n < (Nat.pow 2 63 : Nat))) = true := by
    rw [Bool.and_eq_true, decide_eq_true_eq, decide_eq_true_eq]
    exact ⟨hlow, hhigh⟩
  unfold readInteger
  rw [String.toList_ofList]
  split
  next negative ds hsplit =>
  cases hsplit.symm.trans (signed_writeInt n)
  dsimp only
  rw [guard_bind, if_pos hdigits, digitsValue_toDigits, hvalue, guard_bind, if_pos hrange]

/-- A whole number consists of digits behind the sign. -/
theorem readInteger_of_mem {text : String} {c : Char} (h : c ∈ text.toList) (hdigit : ¬ c.isDigit)
    (hminus : c ≠ '-') (hplus : c ≠ '+') : readInteger text = none := by
  unfold readInteger
  split
  next negative ds hsplit =>
  have hmem : c ∈ ds := by
    split at hsplit <;> simp_all
  have hall : ds.all Char.isDigit = false := by
    rw [List.all_eq_false]
    exact ⟨c, hmem, hdigit⟩
  rw [guard_bind, if_neg]
  simp [hall]

theorem ofText?_writeInt {n : Int} (hlow : minUnixSeconds ≤ n) (hhigh : n ≤ maxUnixSeconds) :
    ofText? (String.ofList (writeInt n)) = some (ofUnixSeconds n) := by
  have hmin : -2 ^ 63 ≤ minUnixSeconds := by decide
  have hmax : maxUnixSeconds < 2 ^ 63 := by decide
  rw [ofText?, ofRfc3339?_writeInt, Option.none_or,
    readInteger_writeInt (hmin.trans hlow) (lt_of_le_of_lt hhigh hmax)]
  refine bind_of_some rfl ?_
  rw [guard_bind, if_pos]
  simp [hlow, hhigh]

/-! ## Formats -/

/-- The format of RFC 3339 for times in UTC. -/
theorem parse_isoFormat :
    Format.parse "%Y-%m-%dT%H:%M:%SZ" = some (dateTime ++ [.literal 'Z']) := by
  cbv

theorem parse_unixFormat : Format.parse "%s" = some [.quantity .timestamp .none] := by
  cbv

/-! ## Years of four digits -/

theorem fourDigit_ofUnixSeconds {n : Int} (hlow : firstDay 0 * 86400 ≤ n)
    (hhigh : n < firstDay 10000 * 86400) : (ofUnixSeconds n).FourDigit where
  low := by
    show firstDay 0 ≤ n / 86400
    omega
  high := by
    show n / 86400 < firstDay 10000
    omega
  second := by
    show (n % 86400).toNat < 86400
    omega
  whole := rfl

/-- The seconds since the start of 1970 are those of the date and of the time of the day. -/
theorem FourDigit.unixSeconds_eq {m : Moment} (h : m.FourDigit) : m.unixSeconds =
    m.date.dayNumber * 86400 + m.hour * 3600 + m.minute * 60 + m.secondOfMinute - m.offset := by
  have hday : m.date.dayNumber = m.day := Date.dayNumber_ofDayNumber m.day
  have hsecond := h.second_eq
  rw [unixSeconds, hday]
  omega

/-- The RFC 3339 text of a time in UTC denotes the time. -/
theorem ofText?_write {m : Moment} (h : m.FourDigit) (hutc : m.offset = 0) (name : String) :
    ofText? (m.write name (dateTime ++ [.literal 'Z'])) = some m := by
  have hzone : readOffset ['Z'] = some (m.offset, []) := by
    rw [hutc]
    rfl
  rw [ofText?, h.write_dateTime]
  show (ofRfc3339? (String.ofList (m.rfc3339With ['Z']))).or _ = some m
  rw [h.ofRfc3339?_rfc3339With hzone, Option.some_or]

theorem write_unixFormat (m : Moment) (name : String) :
    m.write name [.quantity .timestamp .none] = String.ofList (writeInt m.unixSeconds) := by
  have hpadded : padded 9 m.unixSeconds .none false = writeInt m.unixSeconds := by
    unfold padded writeInt
    split <;> rfl
  rw [write, List.flatMap_singleton, ← hpadded]
  rfl

end Moment

end TemplateEngines.Time
