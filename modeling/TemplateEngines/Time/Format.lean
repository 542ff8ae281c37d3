/-
Formats of times: text with directives such as `%Y` or `%-d`. `Format.parse` refuses a format with
an unknown or incomplete directive, and a format that it accepts writes every time.
-/

namespace TemplateEngines.Time

/-- How a number is filled up to its width. -/
inductive Pad where
  | none
  | zero
  | space
deriving DecidableEq, Repr

/-- A number that a directive writes. -/
inductive Quantity where
  | year
  | century
  | yearOfCentury
  | isoYear
  | isoYearOfCentury
  | quarter
  | month
  | day
  | weekFromSunday
  | weekFromMonday
  | isoWeek
  /-- From zero for Sunday. -/
  | daysFromSunday
  /-- From one for Monday. -/
  | weekdayFromMonday
  | ordinal
  | hour
  | hour12
  | minute
  | second
  | nanosecond
  /-- Seconds since the start of 1970. -/
  | timestamp
deriving DecidableEq, Repr

/-- How an offset from UTC is written. -/
inductive OffsetForm where
  | plain
  | colon
  | seconds
  | hours
deriving DecidableEq, Repr

/-- How many digits of the fraction of a second are written. -/
inductive FractionForm where
  /-- Three, six or nine after a point, none if the fraction is zero. -/
  | needed
  /-- So many digits, after a point if `point` is set. -/
  | fixed (digits : Nat) (point : Bool)
deriving DecidableEq, Repr

/-- A piece of a format. -/
inductive Directive where
  | literal (c : Char)
  | quantity (q : Quantity) (pad : Pad)
  | weekdayName (long : Bool)
  | monthName (long : Bool)
  | halfDay (upper : Bool)
  | fraction (form : FractionForm)
  | zone
  | offset (form : OffsetForm)
  | rfc3339
deriving DecidableEq, Repr

/-- A format, piece by piece. -/
abbrev Format := List Directive

namespace Format

open Directive Quantity

def two (q : Quantity) : Directive := .quantity q .zero

def clock : Format := [two hour, literal ':', two minute, literal ':', two second]

def shortDate : Format := [two month, literal '/', two day, literal '/', two yearOfCentury]

/-- The directives that are one letter after the percent sign, written out. -/
def simple? : Char → Option Format
  | 'A' => some [weekdayName true]
  | 'B' => some [monthName true]
  | 'C' => some [two century]
  | 'D' | 'x' => some shortDate
  | 'F' => some [two year, literal '-', two month, literal '-', two day]
  | 'G' => some [two isoYear]
  | 'H' => some [two hour]
  | 'I' => some [two hour12]
  | 'M' => some [two minute]
  | 'P' => some [halfDay false]
  | 'R' => some [two hour, literal ':', two minute]
  | 'S' => some [two second]
  | 'T' | 'X' => some clock
  | 'U' => some [two weekFromSunday]
  | 'V' => some [two .isoWeek]
  | 'W' => some [two weekFromMonday]
  | 'Y' => some [two year]
  | 'Z' => some [zone]
  | 'a' => some [weekdayName false]
  | 'b' | 'h' => some [monthName false]
  | 'c' =>
    some ([weekdayName false, literal ' ', monthName false, literal ' ', quantity day .space,
      literal ' '] ++ clock ++ [literal ' ', two year])
  | 'd' => some [two day]
  | 'e' => some [quantity day .space]
  | 'f' => some [two nanosecond]
  | 'g' => some [two isoYearOfCentury]
  | 'j' => some [two .ordinal]
  | 'k' => some [quantity hour .space]
  | 'l' => some [quantity hour12 .space]
  | 'm' => some [two month]
  | 'n' => some [literal '\n']
  | 'p' => some [halfDay true]
  | 'q' => some [quantity quarter .none]
  | 'r' =>
    some [two hour12, literal ':', two minute, literal ':', two second, literal ' ', halfDay true]
  | 's' => some [quantity timestamp .none]
  | 't' => some [literal '\t']
  | 'u' => some [quantity weekdayFromMonday .none]
  | 'v' => some [quantity day .space, literal '-', monthName false, literal '-', two year]
  | 'w' => some [quantity daysFromSunday .none]
  | 'y' => some [two yearOfCentury]
  | 'z' => some [offset .plain]
  | '+' => some [rfc3339]
  | '%' => some [literal '%']
  | _ => none

/-- The directive after a percent sign, and the rest. A padding mark may stand before a directive
that writes one number. -/
def directive? : List Char → Option (Format × List Char)
  | '-' :: c :: rest => (padded c .none).map (·, rest)
  | '0' :: c :: rest => (padded c .zero).map (·, rest)
  | '_' :: c :: rest => (padded c .space).map (·, rest)
  | ':' :: ':' :: ':' :: 'z' :: rest => some ([offset .hours], rest)
  | ':' :: ':' :: 'z' :: rest => some ([offset .seconds], rest)
  | ':' :: 'z' :: rest => some ([offset .colon], rest)
  | '.' :: 'f' :: rest => some ([fraction .needed], rest)
  | '.' :: '3' :: 'f' :: rest => some ([fraction (.fixed 3 true)], rest)
  | '.' :: '6' :: 'f' :: rest => some ([fraction (.fixed 6 true)], rest)
  | '.' :: '9' :: 'f' :: rest => some ([fraction (.fixed 9 true)], rest)
  | '3' :: 'f' :: rest => some ([fraction (.fixed 3 false)], rest)
  | '6' :: 'f' :: rest => some ([fraction (.fixed 6 false)], rest)
  | '9' :: 'f' :: rest => some ([fraction (.fixed 9 false)], rest)
  | c :: rest => (simple? c).map (·, rest)
  | [] => none
where
  padded (c : Char) (pad : Pad) : Option Format :=
    match simple? c with
    | some [.quantity q _] => some [.quantity q pad]
    | _ => none

/-- Reads a format, of which at most `fuel` pieces are left. -/
def parseWithin : Nat → List Char → Option Format
  | _, [] => some []
  | 0, _ => none
  | fuel + 1, '%' :: rest => do
    let (pieces, rest) ← directive? rest
    let more ← parseWithin fuel rest
    some (pieces ++ more)
  | fuel + 1, c :: rest => (parseWithin fuel rest).map (.literal c :: ·)

/-- Reads a format, none if a directive is unknown or incomplete. -/
def parse (text : String) : Option Format := parseWithin text.length text.toList

end Format

end TemplateEngines.Time
