/-
Times as RFC 3339 writes them. A text of that form is read if its date, its time of the day and its
offset exist, and refused otherwise (`ofRfc3339?_rfc3339`). The whole seconds of the years 0 to 9999
(`FourDigit`) are written in that form (`write_dateTime`) and read as they were
(`ofRfc3339?_rfc3339With`).
-/
import TemplateEngines.Proofs.Decimal.Digits
import TemplateEngines.Proofs.Time.Calendar
import TemplateEngines.Time.Printer

namespace TemplateEngines.Time

/-! ## Numbers of a fixed width -/

theorem isDigit_of_mem_zeroPadded {width n : Nat} {c : Char} (h : c ∈ zeroPadded width n) :
    c.isDigit := by
  rw [zeroPadded, List.mem_append] at h
  rcases h with h | h
  · rw [List.eq_of_mem_replicate h]
    rfl
  · exact isDigit_of_mem_toDigits h

theorem length_zeroPadded {width n : Nat} (hwidth : 0 < width) (h : n < 10 ^ width) :
    (zeroPadded width n).length = width := by
  have hlength := (Nat.length_toDigits_le_iff (by decide) hwidth).2 h
  rw [zeroPadded, List.length_append, List.length_replicate]
  omega

theorem digitsValue_zeroPadded (width n : Nat) : digitsValue (zeroPadded width n) = n := by
  rw [digitsValue_eq, zeroPadded, Nat.ofDigitChars_append, Nat.ofDigitChars_replicate_zero,
    Nat.mul_zero, ← digitsValue_eq, digitsValue_toDigits]

theorem padded_zero {width : Nat} {n : Int} (h : 0 ≤ n) :
    padded width n .zero false = zeroPadded width n.toNat := by
  have hsign : ¬ n < 0 := by omega
  have habs : n.natAbs = n.toNat := by omega
  simp [padded, zeroPadded, hsign, habs]

theorem twoPlaces_zero {n : Nat} (h : n < 100) : twoPlaces n .zero = zeroPadded 2 n := by
  have hall : ∀ k < 100, twoPlaces (k : Nat) .zero = zeroPadded 2 k := by decide +kernel
  exact hall n h

namespace Moment

theorem readDigits_append {ds : List Char} (h : ∀ c ∈ ds, c.isDigit) (rest : List Char) :
    readDigits ds.length (ds ++ rest) = some (digitsValue ds, rest) := by
  rw [readDigits, List.take_left, List.drop_left, List.all_eq_true.2 h]
  simp

/-- A number in its width is read, whatever follows. -/
theorem readDigits_zeroPadded {width n : Nat} (hwidth : 0 < width) (h : n < 10 ^ width)
    (rest : List Char) : readDigits width (zeroPadded width n ++ rest) = some (n, rest) := by
  have hdigits : ∀ c ∈ zeroPadded width n, c.isDigit := fun c hc => isDigit_of_mem_zeroPadded hc
  have hread := readDigits_append hdigits rest
  rwa [length_zeroPadded hwidth h, digitsValue_zeroPadded] at hread

theorem readMark_cons (mark : Char) (rest : List Char) : readMark mark (mark :: rest) = some rest :=
  if_pos rfl

/-! ## Reading what is written -/

/-- A local time as RFC 3339 writes it, with a text for the offset. -/
def rfc3339 (date : Date) (hour minute second : Nat) (zone : List Char) : List Char :=
  zeroPadded 4 date.year.toNat ++ '-' :: (zeroPadded 2 date.month ++
    '-' :: (zeroPadded 2 date.day ++ 'T' :: (zeroPadded 2 hour ++
      ':' :: (zeroPadded 2 minute ++ ':' :: (zeroPadded 2 second ++ zone)))))

theorem readFraction_of_readOffset {zone : List Char} {r : Int × List Char}
    (h : readOffset zone = some r) : readFraction zone = some (0, zone) := by
  unfold readFraction
  split
  · cases h
  · rfl

theorem bind_of_some {α β : Type} {o : Option α} {a : α} {f : α → Option β} {r : Option β}
    (h : o = some a) (hf : f a = r) : (o >>= f) = r := by
  rw [h]
  exact hf

theorem bind_of_none {α β : Type} {o : Option α} (h : o = none) (f : α → Option β) :
    (o >>= f) = none := by
  rw [h]
  rfl

theorem guard_bind {α : Type} (p : Prop) [Decidable p] (o : Option α) :
    (guard p >>= fun _ => o) = if p then o else none := by
  unfold guard
  split <;> rfl

/-- A time in the form of RFC 3339 is read if its date, its time of the day and its offset exist. -/
theorem ofRfc3339?_rfc3339 {date : Date} {hour minute second : Nat} {zone : List Char} {offset : Int}
    (hyear : 0 ≤ date.year ∧ date.year ≤ 9999) (hmonth : date.month < 100) (hday : date.day < 100)
    (hhour : hour < 100) (hminute : minute < 100) (hsecond : second < 100)
    (hzone : readOffset zone = some (offset, [])) :
    ofRfc3339? (String.ofList (rfc3339 date hour minute second zone)) =
      if date.isValid && hour ≤ 23 && minute ≤ 59 && second ≤ 60 then
        some {
          day := date.dayNumber
          second := hour * 3600 + minute * 60 + min second 59
          nanosecond := if second = 60 then 1000000000 else 0
          offset := offset }
      else none := by
  have htwo {n : Nat} (h : n < 100) (rest : List Char) :
      readDigits 2 (zeroPadded 2 n ++ rest) = some (n, rest) :=
    readDigits_zeroPadded (by decide) h rest
  have hfour (rest : List Char) :
      readDigits 4 (zeroPadded 4 date.year.toNat ++ rest) = some (date.year.toNat, rest) :=
    readDigits_zeroPadded (by decide) (by omega) rest
  have hdate : (⟨(date.year.toNat : Int), date.month, date.day⟩ : Date) = date := by
    rw [Int.toNat_of_nonneg hyear.1]
  rw [ofRfc3339?, rfc3339, String.toList_ofList]
  -- Each piece is read off the front; what is left to check stands behind the last one.
  refine bind_of_some (hfour _) (bind_of_some (readMark_cons _ _) ?_)
  refine bind_of_some (htwo hmonth _) (bind_of_some (readMark_cons _ _) ?_)
  refine bind_of_some (htwo hday _) (bind_of_some (congrArg (Option.or · _) (readMark_cons _ _)) ?_)
  refine bind_of_some (htwo hhour _) (bind_of_some (readMark_cons _ _) ?_)
  refine bind_of_some (htwo hminute _) (bind_of_some (readMark_cons _ _) ?_)
  refine bind_of_some (htwo hsecond _) ?_
  refine bind_of_some (readFraction_of_readOffset hzone) (bind_of_some hzone ?_)
  dsimp only
  rw [guard_bind, hdate, List.isEmpty_nil, Bool.true_and, Nat.zero_add]

/-- The time as RFC 3339 writes it, with a text for the offset. -/
def rfc3339With (m : Moment) (zone : List Char) : List Char :=
  rfc3339 m.date m.hour m.minute m.secondOfMinute zone

theorem minute_le (m : Moment) : m.minute ≤ 59 := by
  unfold minute
  omega

/-- The pieces of a format that write date and time before the offset. -/
def dateTime : Format :=
  [Format.two .year, .literal '-', Format.two .month, .literal '-', Format.two .day, .literal 'T',
    Format.two .hour, .literal ':', Format.two .minute, .literal ':', Format.two .second]

/-- A whole second of a year that has four digits and no sign. -/
structure FourDigit (m : Moment) : Prop where
  low : firstDay 0 ≤ m.day
  high : m.day < firstDay 10000
  second : m.second < 86400
  whole : m.nanosecond = 0

namespace FourDigit

variable {m : Moment} (h : m.FourDigit)

include h

theorem year_mem : 0 ≤ m.date.year ∧ m.date.year ≤ 9999 := by
  have hyear : 0 ≤ m.date.year ∧ m.date.year < 10000 := yearOfDay_mem h.low h.high
  omega

theorem hour_le : m.hour ≤ 23 := by
  have := h.second
  unfold hour
  omega

theorem secondOfMinute_eq : m.secondOfMinute = m.second % 60 := by
  rw [secondOfMinute, h.whole]
  rfl

theorem secondOfMinute_le : m.secondOfMinute ≤ 59 := by
  rw [h.secondOfMinute_eq]
  omega

/-- Hours, minutes and seconds make up the second of the day. -/
theorem second_eq : m.hour * 3600 + m.minute * 60 + m.secondOfMinute = m.second := by
  rw [h.secondOfMinute_eq, hour, minute]
  omega

/-- All numbers but the year fit into two places. -/
theorem lt_hundred : m.date.month < 100 ∧ m.date.day < 100 ∧ m.hour < 100 ∧ m.minute < 100 ∧
    m.secondOfMinute < 100 := by
  have hvalid : m.date.isValid := Date.isValid_ofDayNumber m.day
  have hmonth := Date.month_le hvalid
  have hday := Date.day_le hvalid
  have hhour := h.hour_le
  have hminute := m.minute_le
  have hsecond := h.secondOfMinute_le
  omega

/-- Such a time is written with as many digits as RFC 3339 demands. -/
theorem write_dateTime (name : String) (offset : Format) :
    m.write name (dateTime ++ offset) =
      String.ofList (m.rfc3339With (offset.flatMap (m.directiveText name))) := by
  obtain ⟨hmonth, hday, hhour, hminute, hsecond⟩ := h.lt_hundred
  have hyear : yearText m.date.year .zero = zeroPadded 4 m.date.year.toNat := by
    rw [yearText, if_pos h.year_mem, padded_zero h.year_mem.1]
  simp only [write, dateTime, Format.two, List.flatMap_append, List.flatMap_cons, List.flatMap_nil,
    directiveText, quantityText]
  rw [hyear, twoPlaces_zero hmonth, twoPlaces_zero hday, twoPlaces_zero hhour,
    twoPlaces_zero hminute, twoPlaces_zero hsecond]
  simp only [rfc3339With, rfc3339, List.cons_append, List.nil_append, List.append_assoc]

/-- Such a time is read as it was. -/
theorem ofRfc3339?_rfc3339With {zone : List Char} (hzone : readOffset zone = some (m.offset, [])) :
    ofRfc3339? (String.ofList (m.rfc3339With zone)) = some m := by
  obtain ⟨hmonth, hday, hhour, hminute, hsecond⟩ := h.lt_hundred
  have hvalid : m.date.isValid := Date.isValid_ofDayNumber m.day
  have hnumber : m.date.dayNumber = m.day := Date.dayNumber_ofDayNumber m.day
  have hhour_le := h.hour_le
  have hminute_le := m.minute_le
  have hsecond_le := h.secondOfMinute_le
  have hsum : m.hour * 3600 + m.minute * 60 + min m.secondOfMinute 59 = m.second := by
    rw [Nat.min_eq_left hsecond_le, h.second_eq]
  have hleap : m.secondOfMinute ≠ 60 := by omega
  rw [rfc3339With, ofRfc3339?_rfc3339 h.year_mem hmonth hday hhour hminute hsecond hzone, if_pos,
    hnumber, hsum, if_neg hleap, ← h.whole]
  simp only [hvalid, Bool.true_and, Bool.and_eq_true, decide_eq_true_eq]
  omega

end FourDigit

end Moment

end TemplateEngines.Time
