/-
The Gregorian calendar, carried back before its start. Days are numbered from the first of January
1970, which is a Thursday. `dayNumber` and `Date.ofDayNumber` undo each other on valid dates.
-/

namespace TemplateEngines.Time

/-! ## Years -/

def isLeapYear (year : Int) : Bool := year % 4 == 0 && (year % 100 != 0 || year % 400 == 0)

/-- The number of the first day of a year. -/
def firstDay (year : Int) : Int :=
  365 * (year - 1970) + ((year - 1) / 4 - (year - 1) / 100 + (year - 1) / 400) - 477

/-- The year of a day: an estimate from the mean length of a year is off by one at most. -/
def yearOfDay (day : Int) : Int :=
  let estimate := 1970 + day * 400 / 146097
  if day < firstDay estimate then estimate - 1
  else if day < firstDay (estimate + 1) then estimate
  else estimate + 1

/-! ## Months -/

/-- The lengths of the months. -/
def monthLengths (leap : Bool) : List Nat :=
  [31, if leap then 29 else 28, 31, 30, 31, 30, 31, 31, 30, 31, 30, 31]

/-- Goes through the months from `month` on to the one that holds the day with the given number of
days before it, and answers month and day of the month. -/
def monthAndDay (month day : Nat) : List Nat → Nat × Nat
  | [] => (month, day + 1)
  | length :: rest =>
    if day < length then (month, day + 1) else monthAndDay (month + 1) (day - length) rest

/-- A date of the calendar. -/
structure Date where
  year : Int
  month : Nat
  day : Nat
deriving DecidableEq, Repr

namespace Date

/-- The date exists. -/
def isValid (d : Date) : Bool :=
  1 ≤ d.month && d.month ≤ 12 && 1 ≤ d.day &&
    d.day ≤ (monthLengths (isLeapYear d.year)).getD (d.month - 1) 0

/-- How many days of the year come before the date. -/
def daysBefore (d : Date) : Nat :=
  ((monthLengths (isLeapYear d.year)).take (d.month - 1)).foldl (· + ·) 0 + (d.day - 1)

/-- The number of the day. -/
def dayNumber (d : Date) : Int := firstDay d.year + d.daysBefore

/-- The date of a day. -/
def ofDayNumber (day : Int) : Date :=
  let year := yearOfDay day
  let (month, d) := monthAndDay 1 (day - firstDay year).toNat (monthLengths (isLeapYear year))
  ⟨year, month, d⟩

end Date

/-! ## Weeks -/

/-- The day of the week, from zero for Monday. -/
def weekday (day : Int) : Nat := ((day + 3) % 7).toNat

/-- The number of the day in its year, from one. -/
def ordinal (day : Int) : Nat := (day - firstDay (yearOfDay day)).toNat + 1

/-- The week of the year when weeks start with the given day of the week; the days before the first
such day are in week zero. -/
def weekFrom (start : Nat) (day : Int) : Nat :=
  (ordinal day + 6 - (weekday day + 7 - start) % 7) / 7

/-- The year that the week of a day belongs to, and the number of the week in it. Weeks start on
Monday and belong to the year that holds their Thursday. -/
def isoWeek (day : Int) : Int × Nat :=
  let thursday := day - weekday day + 3
  (yearOfDay thursday, (ordinal thursday - 1) / 7 + 1)

end TemplateEngines.Time
