/-
Local times with an offset from UTC. A local time is an instant seen from an offset, and shifting it
to UTC and back by the offset changes nothing (`atOffset_unixSeconds`). The text of a local time
denotes its instant at its offset (`ofText?_text`), and that is written as the same text
(`write_text`). A text whose date is not one of the calendar denotes no time
(`ofText?_text_of_not_inCalendar`).
-/
import TemplateEngines.Proofs.Time.Unix

namespace TemplateEngines.Time

/-! ## The calendar -/

/-- The number of days of a month, none if there is no such month. -/
def daysInMonth (year : Int) (month : Nat) : Nat :=
  match month with
  | 1 | 3 | 5 | 7 | 8 | 10 | 12 => 31
  | 4 | 6 | 9 | 11 => 30
  | 2 => if 4 ∣ year ∧ (100 ∣ year → 400 ∣ year) then 29 else 28
  | _ => 0

namespace Date

/-- The month has the day. -/
def InCalendar (d : Date) : Prop := 1 ≤ d.day ∧ d.day ≤ daysInMonth d.year d.month

instance (d : Date) : Decidable d.InCalendar :=
  inferInstanceAs (Decidable (1 ≤ d.day ∧ d.day ≤ daysInMonth d.year d.month))

theorem isLeapYear_iff_dvd (year : Int) :
    isLeapYear year ↔ 4 ∣ year ∧ (100 ∣ year → 400 ∣ year) := by
  rw [isLeapYear_iff]
  omega

theorem getD_monthLengths {month : Nat} (year : Int) (h : 1 ≤ month ∧ month ≤ 12) :
    (monthLengths (isLeapYear year)).getD (month - 1) 0 = daysInMonth year month := by
  have hfebruary : (if isLeapYear year then 29 else 28) = daysInMonth year 2 := by
    simp only [daysInMonth, isLeapYear_iff_dvd]
  obtain ⟨hfirst, hlast⟩ := h
  -- Only February depends on the year.
  interval_cases month
  case «2» => exact hfebruary
  all_goals rfl

theorem isValid_iff_inCalendar (d : Date) : d.isValid ↔ d.InCalendar := by
  rw [isValid_iff, InCalendar]
  by_cases h : 1 ≤ d.month ∧ d.month ≤ 12
  · rw [getD_monthLengths d.year h]
    simp only [h, and_self, true_and]
  · have hnone : daysInMonth d.year d.month = 0 := by
      unfold daysInMonth
      split <;> first | rfl | omega
    omega

end Date

/-! ## Instants -/

namespace Moment

/-- The instant that lies so many seconds after the start of 1970, as it is seen from an offset. -/
def atOffset (seconds offset : Int) : Moment :=
  { ofUnixSeconds (seconds + offset) with offset := offset }

/-- Shifting a local time to UTC and back gives it again, also across the borders of days. -/
theorem atOffset_unixSeconds {m : Moment} (hsecond : m.second < 86400) (hwhole : m.nanosecond = 0) :
    atOffset m.unixSeconds m.offset = m := by
  obtain ⟨day, second, nanosecond, offset⟩ := m
  simp only [atOffset, unixSeconds, ofUnixSeconds, Int.sub_add_cancel, mk.injEq, and_true] at *
  omega

theorem unixSeconds_atOffset (seconds offset : Int) :
    (atOffset seconds offset).unixSeconds = seconds := by
  simp only [atOffset, unixSeconds, ofUnixSeconds]
  omega

end Moment

/-! ## Offsets -/

/-- An offset of less than a day, in whole minutes. -/
structure Zone where
  /-- Local time is behind UTC. -/
  behind : Bool
  hours : Nat
  minutes : Nat
  hours_le : hours ≤ 23 := by decide
  minutes_le : minutes ≤ 59 := by decide
  /-- Local time cannot be behind UTC by nothing. -/
  behind_ne : behind → hours ≠ 0 ∨ minutes ≠ 0 := by decide

namespace Zone

/-- Hours and minutes after a sign. -/
def text (z : Zone) : List Char :=
  (if z.behind then '-' else '+') :: (zeroPadded 2 z.hours ++ ':' :: zeroPadded 2 z.minutes)

/-- Seconds by which local time is ahead of UTC. -/
def seconds (z : Zone) : Int :=
  let ahead : Int := z.hours * 3600 + z.minutes * 60
  if z.behind then -ahead else ahead

theorem readOffset_text (z : Zone) : Moment.readOffset z.text = some (z.seconds, []) := by
  have hhours := z.hours_le
  have hminutes := z.minutes_le
  have hread := Moment.readDigits_zeroPadded (show 0 < 2 by decide) (show z.hours < 10 ^ 2 by omega)
    (':' :: zeroPadded 2 z.minutes)
  have hlast := Moment.readDigits_zeroPadded (show 0 < 2 by decide)
    (show z.minutes < 10 ^ 2 by omega) []
  rw [List.append_nil] at hlast
  rw [Moment.readOffset.eq_def, text]
  dsimp only
  rw [if_neg (by split <;> decide), if_pos (by split <;> decide)]
  refine Moment.bind_of_some hread (Moment.bind_of_some (Moment.readMark_cons _ _) ?_)
  refine Moment.bind_of_some hlast ?_
  rw [Moment.guard_bind, if_pos (by simp [hhours, hminutes])]
  cases hbehind : z.behind <;> simp [seconds, hbehind]

theorem offsetText_seconds (z : Zone) {m : Moment} (h : m.offset = z.seconds) :
    m.offsetText .colon = z.text := by
  have hhours := z.hours_le
  have hminutes := z.minutes_le
  have hbehind := z.behind_ne
  -- An offset of nothing is written with a plus, which `behind_ne` says of the zone as well.
  have hsign : m.offset < 0 ↔ z.behind := by
    rw [h, seconds]
    split <;> simp_all <;> omega
  have habs : m.offset.natAbs = z.hours * 3600 + z.minutes * 60 := by
    rw [h, seconds]
    split <;> omega
  have hh : (z.hours * 3600 + z.minutes * 60) / 60 / 60 = z.hours := by omega
  have hm : (z.hours * 3600 + z.minutes * 60) / 60 % 60 = z.minutes := by omega
  simp only [Moment.offsetText, text, hsign, habs, hh, hm]

end Zone

/-! ## Texts -/

/-- A local time with its offset, to the second. The month need not have the day. -/
structure LocalTime where
  date : Date
  hour : Nat
  minute : Nat
  second : Nat
  zone : Zone
  year_mem : 0 ≤ date.year ∧ date.year ≤ 9999 := by decide
  month_lt : date.month < 100 := by decide
  day_lt : date.day < 100 := by decide
  hour_le : hour ≤ 23 := by decide
  minute_le : minute ≤ 59 := by decide
  second_le : second ≤ 59 := by decide

namespace LocalTime

/-- The local time as RFC 3339 writes it. -/
def text (t : LocalTime) : String :=
  String.ofList (Moment.rfc3339 t.date t.hour t.minute t.second t.zone.text)

/-- Seconds since the start of 1970: those of the local time, less the offset. -/
def unixSeconds (t : LocalTime) : Int :=
  t.date.dayNumber * 86400 + t.hour * 3600 + t.minute * 60 + t.second - t.zone.seconds

/-- The time that the text denotes if its date exists. -/
def moment (t : LocalTime) : Moment where
  day := t.date.dayNumber
  second := t.hour * 3600 + t.minute * 60 + t.second
  offset := t.zone.seconds

theorem second_lt (t : LocalTime) : t.moment.second < 86400 := by
  have hhour := t.hour_le
  have hminute := t.minute_le
  have hsecond := t.second_le
  show t.hour * 3600 + t.minute * 60 + t.second < 86400
  omega

theorem hour_moment (t : LocalTime) : t.moment.hour = t.hour := by
  have hminute := t.minute_le
  have hsecond := t.second_le
  show (t.hour * 3600 + t.minute * 60 + t.second) / 3600 = t.hour
  omega

theorem minute_moment (t : LocalTime) : t.moment.minute = t.minute := by
  have hminute := t.minute_le
  have hsecond := t.second_le
  show (t.hour * 3600 + t.minute * 60 + t.second) / 60 % 60 = t.minute
  omega

theorem secondOfMinute_moment (t : LocalTime) : t.moment.secondOfMinute = t.second := by
  have hsecond := t.second_le
  show (t.hour * 3600 + t.minute * 60 + t.second) % 60 + 0 / 1000000000 = t.second
  omega

theorem unixSeconds_moment (t : LocalTime) : t.moment.unixSeconds = t.unixSeconds := by
  simp only [unixSeconds, moment, Moment.unixSeconds]
  omega

theorem atOffset_unixSeconds (t : LocalTime) :
    Moment.atOffset t.unixSeconds t.zone.seconds = t.moment := by
  rw [← unixSeconds_moment]
  exact Moment.atOffset_unixSeconds t.second_lt rfl

theorem ofRfc3339?_text (t : LocalTime) :
    Moment.ofRfc3339? t.text = if t.date.isValid then some t.moment else none := by
  have hhour := t.hour_le
  have hminute := t.minute_le
  have hsecond := t.second_le
  rw [text, Moment.ofRfc3339?_rfc3339 t.year_mem t.month_lt t.day_lt (by omega) (by omega) (by omega)
    t.zone.readOffset_text]
  -- There is no leap second to be folded into the nanoseconds.
  have hmin : min t.second 59 = t.second := by omega
  have hleap : t.second ≠ 60 := by omega
  have hbounds : (t.date.isValid && decide (t.hour ≤ 23) && decide (t.minute ≤ 59) &&
      decide (t.second ≤ 60)) = t.date.isValid := by
    simp [hhour, hminute, show t.second ≤ 60 by omega]
  rw [hbounds, hmin, if_neg hleap]
  rfl

theorem readInteger_text (t : LocalTime) : Moment.readInteger t.text = none := by
  have hmark : 'T' ∈ t.text.toList := by
    simp [text, Moment.rfc3339]
  exact Moment.readInteger_of_mem hmark (by decide) (by decide) (by decide)

/-- The text denotes its instant, seen from its offset. -/
theorem ofText?_text {t : LocalTime} (h : t.date.InCalendar) :
    Moment.ofText? t.text = some (Moment.atOffset t.unixSeconds t.zone.seconds) := by
  rw [Moment.ofText?, ofRfc3339?_text, if_pos (t.date.isValid_iff_inCalendar.2 h), Option.some_or,
    atOffset_unixSeconds]

theorem ofText?_text_of_not_inCalendar {t : LocalTime} (h : ¬ t.date.InCalendar) :
    Moment.ofText? t.text = none := by
  rw [Moment.ofText?, ofRfc3339?_text, if_neg (mt t.date.isValid_iff_inCalendar.1 h), Option.none_or,
    readInteger_text]
  rfl

theorem fourDigit_moment {t : LocalTime} (h : t.date.isValid) : t.moment.FourDigit := by
  obtain ⟨hlow, hhigh⟩ := Date.dayNumber_mem h
  obtain ⟨hfirst, hlast⟩ := t.year_mem
  exact ⟨(firstDay_mono hfirst).trans hlow, hhigh.trans_le (firstDay_mono (by omega)), t.second_lt, rfl⟩

/-- The instant seen from the offset is written as the text. -/
theorem write_text {t : LocalTime} (h : t.date.InCalendar) (name : String) :
    (Moment.atOffset t.unixSeconds t.zone.seconds).write name
      (Moment.dateTime ++ [.offset .colon]) = t.text := by
  have hvalid : t.date.isValid := t.date.isValid_iff_inCalendar.2 h
  have hdate : t.moment.date = t.date := Date.ofDayNumber_dayNumber hvalid
  have hoffset : t.moment.offsetText .colon = t.zone.text := t.zone.offsetText_seconds rfl
  rw [atOffset_unixSeconds, (fourDigit_moment hvalid).write_dateTime, Moment.rfc3339With, hdate,
    hour_moment, minute_moment, secondOfMinute_moment, text, List.flatMap_singleton,
    Moment.directiveText, hoffset]

end LocalTime

/-- The format of RFC 3339 for times with an offset. -/
theorem Moment.parse_localFormat :
    Format.parse "%Y-%m-%dT%H:%M:%S%:z" = some (dateTime ++ [.offset .colon]) := by
  cbv

end TemplateEngines.Time
