/-
Points in time as they are written: a local date, a time of the day and an offset from UTC. They
are read from RFC 3339 texts, and from whole seconds since the start of 1970.
-/
import TemplateEngines.Json.Parser
import TemplateEngines.Time.Calendar

namespace TemplateEngines.Time

/-- A local time. A leap second has the second 59 of its minute and more than `10 ^ 9`
nanoseconds. -/
structure Moment where
  /-- The number of the local day. -/
  day : Int
  /-- The second of the day. -/
  second : Nat
  nanosecond : Nat := 0
  /-- Seconds by which local time is ahead of UTC. -/
  offset : Int := 0
deriving DecidableEq, Repr

namespace Moment

/-- Seconds since the start of 1970. -/
def unixSeconds (m : Moment) : Int := m.day * 86400 + m.second - m.offset

/-- The time in UTC, a number of seconds after the start of 1970. -/
def ofUnixSeconds (seconds : Int) : Moment where
  day := seconds / 86400
  second := (seconds % 86400).toNat

/-- The first second of the year -262143. -/
def minUnixSeconds : Int := firstDay (-262143) * 86400

/-- The last second of the year 262142. -/
def maxUnixSeconds : Int := firstDay 262143 * 86400 - 1

/-! ## RFC 3339 -/

/-- Exactly `count` digits. -/
def readDigits (count : Nat) (cs : List Char) : Option (Nat × List Char) :=
  let ds := cs.take count
  if ds.length = count && ds.all Char.isDigit then some (digitsValue ds, cs.drop count) else none

def readMark (mark : Char) : List Char → Option (List Char)
  | c :: rest => if c = mark then some rest else none
  | [] => none

/-- A fraction of a second in nanoseconds; digits after the ninth do not count. -/
def readFraction (cs : List Char) : Option (Nat × List Char) :=
  match cs with
  | '.' :: rest =>
    let ds := rest.takeWhile Char.isDigit
    if ds.isEmpty then none
    else
      let used := ds.take 9
      some (digitsValue used * Nat.pow 10 (9 - used.length), rest.drop ds.length)
  | _ => some (0, cs)

/-- An offset in seconds: `Z`, or hours and minutes after a sign, which may be U+2212. -/
def readOffset (cs : List Char) : Option (Int × List Char) :=
  match cs with
  | [] => none
  | c :: rest =>
    if c = 'Z' ∨ c = 'z' then some (0, rest)
    else if c = '+' ∨ c = '-' ∨ c = '−' then do
      let (hours, rest) ← readDigits 2 rest
      let rest ← readMark ':' rest
      let (minutes, rest) ← readDigits 2 rest
      guard (hours ≤ 23 && minutes ≤ 59)
      let seconds : Int := hours * 3600 + minutes * 60
      some (if c = '+' then seconds else -seconds, rest)
    else none

/-- The time that an RFC 3339 text denotes. Date and time may be separated by `T`, `t` or a space,
and the second 60 is allowed in every minute. -/
def ofRfc3339? (text : String) : Option Moment := do
  let (year, cs) ← readDigits 4 text.toList
  let cs ← readMark '-' cs
  let (month, cs) ← readDigits 2 cs
  let cs ← readMark '-' cs
  let (day, cs) ← readDigits 2 cs
  let cs ← (readMark 'T' cs).or ((readMark 't' cs).or (readMark ' ' cs))
  let (hour, cs) ← readDigits 2 cs
  let cs ← readMark ':' cs
  let (minute, cs) ← readDigits 2 cs
  let cs ← readMark ':' cs
  let (second, cs) ← readDigits 2 cs
  let (nanosecond, cs) ← readFraction cs
  let (offset, cs) ← readOffset cs
  let date : Date := ⟨year, month, day⟩
  guard (cs.isEmpty && date.isValid && hour ≤ 23 && minute ≤ 59 && second ≤ 60)
  some {
    day := date.dayNumber
    second := hour * 3600 + minute * 60 + min second 59
    nanosecond := nanosecond + (if second = 60 then 1000000000 else 0)
    offset := offset }

/-! ## Texts -/

/-- A whole number of 64 bits with an optional sign. -/
def readInteger (text : String) : Option Int := do
  let (negative, ds) := match text.toList with
    | '-' :: rest => (true, rest)
    | '+' :: rest => (false, rest)
    | cs => (false, cs)
  guard (!ds.isEmpty && ds.all Char.isDigit)
  let n : Int := digitsValue ds
  let n := if negative then -n else n
  guard (-(Nat.pow 2 63) ≤ n && n < Nat.pow 2 63)
  some n

/-- The time that a text denotes, by RFC 3339 or in seconds since the start of 1970. -/
def ofText? (text : String) : Option Moment :=
  (ofRfc3339? text).or do
    let seconds ← readInteger text
    guard (minUnixSeconds ≤ seconds && seconds ≤ maxUnixSeconds)
    some (ofUnixSeconds seconds)

end Moment

end TemplateEngines.Time
