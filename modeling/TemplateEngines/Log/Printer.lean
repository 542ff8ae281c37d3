/-
A record as a line of the log, without the time in front. Characters that could command a terminal
are written by their numbers; only the level is coloured, if colours are wanted.
-/
import TemplateEngines.Log.Record

namespace TemplateEngines.Log

namespace Level

/-- The level in five characters. -/
def label : Level → String
  | error => "ERROR"
  | warn => " WARN"
  | info => " INFO"
  | debug => "DEBUG"
  | trace => "TRACE"

/-- The number of its colour on terminals. -/
def colour : Level → Nat
  | error => 31
  | warn => 33
  | info => 32
  | debug => 34
  | trace => 35

end Level

/-- A character of a message. -/
def shownChar (c : Char) : List Char :=
  match c with
  | '\x1b' => ['\\', 'x', '1', 'b']
  | '\x07' => ['\\', 'x', '0', '7']
  | '\x08' => ['\\', 'x', '0', '8']
  | '\x0c' => ['\\', 'x', '0', 'c']
  | '\x7f' => ['\\', 'x', '7', 'f']
  | c =>
    if 0x80 ≤ c.toNat && c.toNat ≤ 0x9F then
      ['\\', 'u', '\x7b'] ++ Nat.toDigits 16 c.toNat ++ ['\x7d']
    else [c]

/-- A message without characters that could command a terminal. -/
def shownMessage (message : String) : String := String.ofList (message.toList.flatMap shownChar)

/-- What stands between the codes for a style and the end of the style. -/
def styled (code : Nat) (text : String) : String :=
  "\x1b[" ++ toString code ++ "m" ++ text ++ "\x1b[0m"

/-- The record as a line without the time. -/
def Record.line (coloured : Bool) (r : Record) : String :=
  let level := if coloured then styled r.level.colour r.level.label else r.level.label
  level ++ " " ++ shownMessage r.message

/-- The code for dim text. -/
def dim : Nat := 2

/-- A line with the time in front. -/
def stamped (coloured : Bool) (time line : String) : String :=
  (if coloured then styled dim time else time) ++ " " ++ line

end TemplateEngines.Log
