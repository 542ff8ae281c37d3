/-
The compact text of a JSON value, and the text a value has inside a rendered template. No blanks
are written, and only quotes, backslashes and control characters are escaped. A floating-point
number is written with the fewest digits that read back, and always shows a point or an exponent.
-/
import TemplateEngines.Json.Basic
import TemplateEngines.Decimal.Shortest

namespace TemplateEngines

/-! ## Numbers -/

namespace Decimal

/-- Whether JSON writes the decimal in positional notation: from `0.00001` up to below `10 ^ 16`.
Zero counts as one digit before the point. -/
def isPositional (d : Decimal) : Bool := -5 < d.point && d.point ≤ 16

/-- The JSON form of a decimal that came from a floating-point number. -/
def jsonText (d : Decimal) : List Char :=
  if d.isPositional then
    let ds := d.positional
    if ds.contains '.' then ds else ds ++ ['.', '0']
  else d.exponential

end Decimal

/-- The decimal digits of a whole number, after a sign if it is negative. -/
def writeInt (n : Int) : List Char :=
  if n < 0 then '-' :: Nat.toDigits 10 n.natAbs else Nat.toDigits 10 n.natAbs

/-- The JSON form of a number. Infinities and NaN have none and are written as null. -/
def Number.write : Number → List Char
  | .int n => writeInt n
  | .float x =>
    if x.isFinite then
      let ds := (Decimal.shortest x).jsonText
      if x.isNegative then '-' :: ds else ds
    else ['n', 'u', 'l', 'l']

namespace Json

/-! ## Strings -/

/-- A lower case hexadecimal digit. -/
def hexDigit (n : Nat) : Char := Nat.digitChar n

/-- A character inside quotes. -/
def escapeChar (c : Char) : List Char :=
  match c with
  | '"' => ['\\', '"']
  | '\\' => ['\\', '\\']
  | '\n' => ['\\', 'n']
  | '\r' => ['\\', 'r']
  | '\t' => ['\\', 't']
  | '\x08' => ['\\', 'b']
  | '\x0c' => ['\\', 'f']
  | c =>
    if c.toNat < 0x20 then
      ['\\', 'u', '0', '0', hexDigit (c.toNat / 16), hexDigit (c.toNat % 16)]
    else [c]

/-- A string in quotes. -/
def writeString (s : String) : List Char := '"' :: (s.toList.flatMap escapeChar ++ ['"'])

/-! ## Values -/

mutual

/-- The compact form of a value. -/
def write : Json → List Char
  | .null => ['n', 'u', 'l', 'l']
  | .bool true => ['t', 'r', 'u', 'e']
  | .bool false => ['f', 'a', 'l', 's', 'e']
  | .number n => n.write
  | .string s => writeString s
  | .array items => '[' :: (writeItems items ++ [']'])
  | .object members => '{' :: (writeMembers members ++ ['}'])

/-- The items of an array, separated by commas. -/
def writeItems : List Json → List Char
  | [] => []
  | [item] => write item
  | item :: rest => write item ++ ',' :: writeItems rest

/-- The members of an object, separated by commas. -/
def writeMembers : List (String × Json) → List Char
  | [] => []
  | [(name, value)] => writeString name ++ ':' :: write value
  | (name, value) :: rest => writeString name ++ ':' :: (write value ++ ',' :: writeMembers rest)

end

/-- The compact JSON text of a value. -/
def compactText (v : Json) : String := String.ofList v.write

/-- The text of a value in rendered output: a string stands for itself, null for nothing, and
anything else is written as compact JSON. -/
def valueText : Json → String
  | .string s => s
  | .null => ""
  | v => v.compactText

end Json

end TemplateEngines
