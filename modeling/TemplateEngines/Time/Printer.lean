/-
Writing times by a format. Numbers of two places wrap around beyond 255, and a year outside 0 to
9999 has a sign.
-/
import TemplateEngines.Time.Format
import TemplateEngines.Time.Moment

namespace TemplateEngines.Time

/-! ## Numbers -/

/-- A number in two places, its low byte only. The tens are one character, also beyond 99. -/
def twoPlaces (n : Int) (pad : Pad) : List Char :=
  let byte := (n % 256).toNat
  let ones := Nat.digitChar (byte % 10)
  let tens := byte / 10
  match tens, pad with
  | 0, .none => [ones]
  | 0, .space => [' ', ones]
  | _, _ => [Char.ofNat ('0'.toNat + tens), ones]

/-- The digits of a number, filled with zeros in front up to a width. -/
def zeroPadded (width n : Nat) : List Char :=
  let ds := Nat.toDigits 10 n
  List.replicate (width - ds.length) '0' ++ ds

/-- A number in a field of a width: zeros go behind the sign, spaces before it. A positive number
has a sign only if `plus` is set. -/
def padded (width : Nat) (n : Int) (pad : Pad) (plus : Bool) : List Char :=
  let sign := if n < 0 then ['-'] else if plus then ['+'] else []
  let ds := Nat.toDigits 10 n.natAbs
  match pad with
  | .none => sign ++ ds
  | .zero => sign ++ List.replicate (width - sign.length - ds.length) '0' ++ ds
  | .space => List.replicate (width - sign.length - ds.length) ' ' ++ sign ++ ds

/-- A year; outside 0 to 9999 it has a sign. -/
def yearText (year : Int) (pad : Pad) : List Char :=
  if 0 ≤ year ∧ year ≤ 9999 then padded 4 year pad false else padded 5 year pad true

/-! ## Names -/

def weekdayNames : List String :=
  ["Monday", "Tuesday", "Wednesday", "Thursday", "Friday", "Saturday", "Sunday"]

def monthNames : List String :=
  ["January", "February", "March", "April", "May", "June", "July", "August", "September",
    "October", "November", "December"]

/-- A name, or its first three letters. -/
def nameText (names : List String) (i : Nat) (long : Bool) : List Char :=
  let name := (names.getD i "").toList
  if long then name else name.take 3

/-! ## Pieces -/

namespace Moment

def hour (m : Moment) : Nat := m.second / 3600

def minute (m : Moment) : Nat := m.second / 60 % 60

/-- The second of the minute, 60 for a leap second. -/
def secondOfMinute (m : Moment) : Nat := m.second % 60 + m.nanosecond / 1000000000

/-- The nanoseconds of the second. -/
def subsecond (m : Moment) : Nat := m.nanosecond % 1000000000

def hour12 (m : Moment) : Nat := if m.hour % 12 = 0 then 12 else m.hour % 12

def date (m : Moment) : Date := Date.ofDayNumber m.day

/-- The digits that a fraction needs, after a point. -/
def neededFraction (m : Moment) : List Char :=
  let n := m.subsecond
  if n = 0 then []
  else if n % 1000000 = 0 then '.' :: zeroPadded 3 (n / 1000000)
  else if n % 1000 = 0 then '.' :: zeroPadded 6 (n / 1000)
  else '.' :: zeroPadded 9 n

def fractionText (m : Moment) : FractionForm → List Char
  | .needed => m.neededFraction
  | .fixed digits point =>
    (if point then ['.'] else []) ++ zeroPadded digits (m.subsecond / Nat.pow 10 (9 - digits))

def offsetText (m : Moment) (form : OffsetForm) : List Char :=
  let sign := if m.offset < 0 then '-' else '+'
  let minutes := m.offset.natAbs / 60
  let hh := zeroPadded 2 (minutes / 60)
  let mm := zeroPadded 2 (minutes % 60)
  sign :: match form with
    | .plain => hh ++ mm
    | .colon => hh ++ ':' :: mm
    | .seconds => hh ++ ':' :: (mm ++ ':' :: zeroPadded 2 (m.offset.natAbs % 60))
    | .hours => hh

def quantityText (m : Moment) (pad : Pad) : Quantity → List Char
  | .year => yearText m.date.year pad
  | .century => twoPlaces (m.date.year / 100) pad
  | .yearOfCentury => twoPlaces (m.date.year % 100) pad
  | .isoYear => yearText (isoWeek m.day).1 pad
  | .isoYearOfCentury => twoPlaces ((isoWeek m.day).1 % 100) pad
  | .quarter => Nat.toDigits 10 ((m.date.month - 1) / 3 + 1)
  | .month => twoPlaces m.date.month pad
  | .day => twoPlaces m.date.day pad
  | .weekFromSunday => twoPlaces (weekFrom 6 m.day) pad
  | .weekFromMonday => twoPlaces (weekFrom 0 m.day) pad
  | .isoWeek => twoPlaces (isoWeek m.day).2 pad
  | .daysFromSunday => Nat.toDigits 10 ((weekday m.day + 1) % 7)
  | .weekdayFromMonday => Nat.toDigits 10 (weekday m.day + 1)
  | .ordinal => padded 3 (ordinal m.day) pad false
  | .hour => twoPlaces m.hour pad
  | .hour12 => twoPlaces m.hour12 pad
  | .minute => twoPlaces m.minute pad
  | .second => twoPlaces m.secondOfMinute pad
  | .nanosecond => padded 9 m.subsecond pad false
  | .timestamp => padded 9 m.unixSeconds pad false

/-- The time in the form of RFC 3339. -/
def rfc3339Text (m : Moment) : List Char :=
  yearText m.date.year .zero ++ '-' :: (twoPlaces m.date.month .zero ++
    '-' :: (twoPlaces m.date.day .zero ++ 'T' :: (twoPlaces m.hour .zero ++
      ':' :: (twoPlaces m.minute .zero ++ ':' :: (twoPlaces m.secondOfMinute .zero ++
        m.neededFraction ++ m.offsetText .colon)))))

/-- What a piece of a format writes. `zone` is the name of the time zone. -/
def directiveText (m : Moment) (zone : String) : Directive → List Char
  | .literal c => [c]
  | .quantity q pad => m.quantityText pad q
  | .weekdayName long => nameText weekdayNames (weekday m.day) long
  | .monthName long => nameText monthNames (m.date.month - 1) long
  | .halfDay upper =>
    if m.hour < 12 then (if upper then ['A', 'M'] else ['a', 'm'])
    else if upper then ['P', 'M'] else ['p', 'm']
  | .fraction form => m.fractionText form
  | .zone => zone.toList
  | .offset form => m.offsetText form
  | .rfc3339 => m.rfc3339Text

/-- The time written by a format. This cannot fail: the parser has refused the formats with unknown
directives, and all other pieces are numbers, names and offsets, for which every moment has the
date, the time of day and the offset. -/
def write (m : Moment) (zone : String) (format : Format) : String :=
  String.ofList (format.flatMap (m.directiveText zone))

/-- The name of a time zone that is known by its offset only. -/
def offsetName (m : Moment) : String := String.ofList (m.offsetText .colon)

end Moment

end TemplateEngines.Time
