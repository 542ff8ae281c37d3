/-
Days and dates. Every day lies in the year that is computed for it (`yearOfDay_spec`), the months of
a year have room for exactly its days (`monthAndDay_sum`, `exists_month`), and so every day is the
day of one valid date (`dayNumber_ofDayNumber`, `ofDayNumber_dayNumber`).
-/
import TemplateEngines.Time.Calendar
import Mathlib.Tactic

namespace TemplateEngines.Time

/-! ## Years -/

/-- The number of days in a year. -/
def yearLength (year : Int) : Int := if isLeapYear year then 366 else 365

theorem isLeapYear_iff (year : Int) :
    isLeapYear year ↔ year % 4 = 0 ∧ (year % 100 ≠ 0 ∨ year % 400 = 0) := by
  simp [isLeapYear]

theorem firstDay_succ (year : Int) : firstDay (year + 1) = firstDay year + yearLength year := by
  unfold firstDay yearLength
  split
  next h =>
    rw [isLeapYear_iff] at h
    omega
  next h =>
    rw [isLeapYear_iff] at h
    omega

theorem firstDay_mono {y z : Int} (h : y ≤ z) : firstDay y ≤ firstDay z := by
  unfold firstDay
  omega

/-- The estimated year starts at most a year after the day, and the next one at least. -/
theorem estimate_spec (day : Int) : firstDay (1970 + day * 400 / 146097 - 1) ≤ day ∧
    day < firstDay (1970 + day * 400 / 146097 + 1 + 1) := by
  unfold firstDay
  omega

theorem yearOfDay_spec (day : Int) :
    firstDay (yearOfDay day) ≤ day ∧ day < firstDay (yearOfDay day + 1) := by
  obtain ⟨hlow, hhigh⟩ := estimate_spec day
  unfold yearOfDay
  dsimp only
  split
  next h => exact ⟨hlow, by rwa [Int.sub_add_cancel]⟩
  next h =>
  split
  next h' => exact ⟨by omega, h'⟩
  next h' => exact ⟨by omega, hhigh⟩

/-- A day between the first days of two years lies in a year between them. -/
theorem yearOfDay_mem {day y z : Int} (hy : firstDay y ≤ day) (hz : day < firstDay z) :
    y ≤ yearOfDay day ∧ yearOfDay day < z := by
  obtain ⟨hlow, hhigh⟩ := yearOfDay_spec day
  constructor
  · by_contra hlt
    have := firstDay_mono (show yearOfDay day + 1 ≤ y by omega)
    omega
  · by_contra hle
    have := firstDay_mono (show z ≤ yearOfDay day by omega)
    omega

/-! ## Months -/

theorem length_monthLengths (leap : Bool) : (monthLengths leap).length = 12 := rfl

theorem sum_monthLengths (year : Int) :
    ((monthLengths (isLeapYear year)).sum : Int) = yearLength year := by
  unfold yearLength
  cases isLeapYear year <;> rfl

/-- The day of a month is found in it. -/
theorem monthAndDay_sum (month : Nat) {lengths : List Nat} {i d : Nat}
    (h : d < lengths.getD i 0) :
    monthAndDay month ((lengths.take i).sum + d) lengths = (month + i, d + 1) := by
  induction lengths generalizing month i with
  | nil => simp at h
  | cons length rest ih =>
    cases i with
    | zero =>
      rw [List.getD_cons_zero] at h
      simp [monthAndDay, h]
    | succ i =>
      rw [List.getD_cons_succ] at h
      have hnot : ¬ length + (rest.take i).sum + d < length := by omega
      rw [List.take_succ_cons, List.sum_cons, monthAndDay, if_neg hnot,
        show length + (rest.take i).sum + d - length = (rest.take i).sum + d by omega, ih _ h,
        show month + 1 + i = month + (i + 1) by omega]

theorem sum_take_add_lt {lengths : List Nat} {i d : Nat} (h : d < lengths.getD i 0) :
    (lengths.take i).sum + d < lengths.sum := by
  induction lengths generalizing i with
  | nil => simp at h
  | cons length rest ih =>
    cases i with
    | zero =>
      rw [List.getD_cons_zero] at h
      simp only [List.take_zero, List.sum_nil, List.sum_cons]
      omega
    | succ i =>
      rw [List.getD_cons_succ] at h
      have := ih h
      rw [List.take_succ_cons, List.sum_cons, List.sum_cons]
      omega

/-- A day that the months have room for is a day of one of them. -/
theorem exists_month {lengths : List Nat} {day : Nat} (h : day < lengths.sum) :
    ∃ i d, i < lengths.length ∧ d < lengths.getD i 0 ∧ day = (lengths.take i).sum + d := by
  induction lengths generalizing day with
  | nil => exact absurd h (Nat.not_lt_zero _)
  | cons length rest ih =>
    by_cases hfirst : day < length
    · exact ⟨0, day, Nat.succ_pos _, by simpa using hfirst, by simp⟩
    · rw [List.sum_cons] at h
      obtain ⟨i, d, hi, hd, hsum⟩ := ih (show day - length < rest.sum by omega)
      refine ⟨i + 1, d, Nat.succ_lt_succ hi, by simpa using hd, ?_⟩
      rw [List.take_succ_cons, List.sum_cons]
      omega

/-! ## Dates -/

namespace Date

theorem isValid_iff (d : Date) : d.isValid ↔ (1 ≤ d.month ∧ d.month ≤ 12) ∧ 1 ≤ d.day ∧
    d.day ≤ (monthLengths (isLeapYear d.year)).getD (d.month - 1) 0 := by
  simp [isValid, and_assoc]

theorem month_le {d : Date} (h : d.isValid) : d.month ≤ 12 := ((isValid_iff d).1 h).1.2

theorem day_le {d : Date} (h : d.isValid) : d.day ≤ 31 := by
  obtain ⟨⟨hfirst, hlast⟩, -, hday⟩ := (isValid_iff d).1 h
  have hall : ∀ leap, ∀ i < 12, (monthLengths leap).getD i 0 ≤ 31 := by decide
  exact hday.trans (hall _ _ (by omega))

theorem daysBefore_eq (d : Date) : d.daysBefore =
    ((monthLengths (isLeapYear d.year)).take (d.month - 1)).sum + (d.day - 1) := by
  rw [daysBefore, List.sum_eq_foldl]

/-- The day of a valid date lies in its year. -/
theorem dayNumber_mem {d : Date} (h : d.isValid) :
    firstDay d.year ≤ d.dayNumber ∧ d.dayNumber < firstDay (d.year + 1) := by
  obtain ⟨⟨hfirst, hlast⟩, hday, hlength⟩ := (isValid_iff d).1 h
  have hroom : d.day - 1 < (monthLengths (isLeapYear d.year)).getD (d.month - 1) 0 := by omega
  have hlt : d.daysBefore < yearLength d.year := by
    rw [daysBefore_eq, ← sum_monthLengths]
    exact_mod_cast sum_take_add_lt hroom
  rw [dayNumber, firstDay_succ]
  omega

/-- A valid date is the date of its day. -/
theorem ofDayNumber_dayNumber {d : Date} (h : d.isValid) : ofDayNumber d.dayNumber = d := by
  obtain ⟨⟨hfirst, hlast⟩, hday, hlength⟩ := (isValid_iff d).1 h
  have hroom : d.day - 1 < (monthLengths (isLeapYear d.year)).getD (d.month - 1) 0 := by omega
  have hyear : yearOfDay d.dayNumber = d.year := by
    obtain ⟨hlow, hhigh⟩ := dayNumber_mem h
    have := yearOfDay_mem hlow hhigh
    omega
  have hbefore : (d.dayNumber - firstDay d.year).toNat = d.daysBefore := by
    rw [dayNumber]
    omega
  rw [ofDayNumber, hyear]
  dsimp only
  rw [hbefore, daysBefore_eq, monthAndDay_sum 1 hroom]
  have hmonth : 1 + (d.month - 1) = d.month := by omega
  have hd : d.day - 1 + 1 = d.day := by omega
  rw [hmonth, hd]

/-- Every day is the day of a valid date. -/
theorem exists_date (day : Int) : ∃ d : Date, d.isValid ∧ d.dayNumber = day := by
  obtain ⟨hlow, hhigh⟩ := yearOfDay_spec day
  have hroom : (day - firstDay (yearOfDay day)).toNat <
      (monthLengths (isLeapYear (yearOfDay day))).sum := by
    rw [firstDay_succ, ← sum_monthLengths] at hhigh
    omega
  obtain ⟨i, d, hi, hd, hsum⟩ := exists_month hroom
  rw [length_monthLengths] at hi
  refine ⟨⟨yearOfDay day, i + 1, d + 1⟩, (isValid_iff _).2 ?_, ?_⟩
  · exact ⟨⟨Nat.le_add_left 1 i, Nat.succ_le_of_lt hi⟩, Nat.le_add_left 1 d, hd⟩
  · rw [dayNumber, daysBefore_eq]
    simp only [Nat.add_sub_cancel]
    omega

theorem isValid_ofDayNumber (day : Int) : (ofDayNumber day).isValid := by
  obtain ⟨d, h, rfl⟩ := exists_date day
  rwa [ofDayNumber_dayNumber h]

theorem dayNumber_ofDayNumber (day : Int) : (ofDayNumber day).dayNumber = day := by
  obtain ⟨d, h, rfl⟩ := exists_date day
  rw [ofDayNumber_dayNumber h]

end Date

end TemplateEngines.Time
