/-
What a plain YAML scalar stands for, where a message has to say so: null, a boolean, a whole number,
a floating-point number, or else a text.
-/
import TemplateEngines.Decimal.Shortest
import TemplateEngines.Json.Printer
import TemplateEngines.Text.Quoted
import TemplateEngines.Yaml.Event

namespace TemplateEngines.Yaml

namespace Plain

/-! ## Words -/

def isNull (text : String) : Bool := ["null", "Null", "NULL", "~"].contains text

def readBool (text : String) : Option Bool :=
  if ["true", "True", "TRUE"].contains text then some true
  else if ["false", "False", "FALSE"].contains text then some false
  else none

/-! ## Whole numbers -/

/-- The number that digits of a radix write. -/
def readRadix (radix : Nat) (ds : List Char) : Option Nat :=
  if ds.isEmpty then none
  else ds.foldlM (fun n d => do
    let v ← Json.hexValue? d
    guard (v < radix)
    some (n * radix + v)) 0

def isSign (c : Char) : Bool := c == '+' || c == '-'

/-- Digits after a zero in front, with or without a sign, are no number. -/
def hasLeadingZero (cs : List Char) : Bool :=
  let ds := match cs with
    | c :: rest => if isSign c then rest else cs
    | [] => []
  ds.length > 1 && ds.head? == some '0' && ds.all Char.isDigit

/-- The number written after an optional mark of the radix. -/
def readMagnitude (cs : List Char) (leadingZero : Bool) : Option Nat :=
  let marked := match cs with
    | '0' :: 'x' :: rest => readRadix 16 rest
    | '0' :: 'o' :: rest => readRadix 8 rest
    | '0' :: 'b' :: rest => readRadix 2 rest
    | _ => none
  marked.or (if leadingZero then none else readRadix 10 cs)

/-- The whole number that a text writes. -/
def readInteger (cs : List Char) : Option Int :=
  let leadingZero := hasLeadingZero cs
  match cs with
  | '-' :: rest => (readMagnitude rest leadingZero).map fun n => -(n : Int)
  | '+' :: rest => (readMagnitude rest leadingZero).map fun n => (n : Int)
  | _ => (readMagnitude cs leadingZero).map fun n => (n : Int)

/-- How messages show a whole number, none if it does not fit 128 bits. -/
def integerText (n : Int) : Option String :=
  let text := "integer `" ++ toString n ++ "`"
  if -(Nat.pow 2 63) ≤ n ∧ n < Nat.pow 2 64 then some text
  else if 0 ≤ n ∧ n < Nat.pow 2 128 then some (text ++ " as u128")
  else if n < 0 ∧ -(Nat.pow 2 127) ≤ n then some (text ++ " as i128")
  else none

/-! ## Floating-point numbers -/

/-- The nearest floating-point number to a decimal, none if it is out of range. -/
def nearest (negative : Bool) (ds : List Char) (exponent : Int) : Option Binary64 :=
  let n := digitsValue ds
  let point := (Nat.toDigits 10 n).length + exponent
  if n = 0 ∨ point < -400 then some (.zero negative)
  else if point > 400 then none
  else
    let x := Binary64.ofRatio negative (n * Nat.pow 10 exponent.toNat)
      (Nat.pow 10 (-exponent).toNat)
    if x.isFinite then some x else none

/-- The exponent at the end of a number. -/
def readExponent (cs : List Char) : Option Int :=
  match cs with
  | [] => some 0
  | c :: rest =>
    if c ≠ 'e' ∧ c ≠ 'E' then none
    else
      let (negative, ds) := match rest with
        | '-' :: ds => (true, ds)
        | '+' :: ds => (false, ds)
        | ds => (false, ds)
      if ds.isEmpty || !ds.all Char.isDigit then none
      else
        let n : Int := digitsValue ds
        some (if negative then -n else n)

/-- The floating-point number that digits with a point and an exponent write. -/
def readDecimal (cs : List Char) : Option Binary64 := do
  let (negative, cs) := match cs with
    | '-' :: rest => (true, rest)
    | '+' :: rest => (false, rest)
    | cs => (false, cs)
  let whole := cs.takeWhile Char.isDigit
  let rest := cs.dropWhile Char.isDigit
  let (fraction, rest) := match rest with
    | '.' :: rest => (rest.takeWhile Char.isDigit, rest.dropWhile Char.isDigit)
    | rest => ([], rest)
  guard !(whole ++ fraction).isEmpty
  let exponent ← readExponent rest
  nearest negative (whole ++ fraction) (exponent - fraction.length)

/-- How messages show a floating-point number: in positional notation, always with a point. -/
def floatText (x : Binary64) : String :=
  let ds := (Decimal.shortest x).positional
  let ds := if ds.contains '.' then ds else ds ++ ['.', '0']
  String.ofList (if x.isNegative then '-' :: ds else ds)

/-- The text of the floating-point number that a plain scalar writes. -/
def readFloat (text : String) : Option String :=
  if [".inf", ".Inf", ".INF", "+.inf", "+.Inf", "+.INF"].contains text then some "inf"
  else if ["-.inf", "-.Inf", "-.INF"].contains text then some "-inf"
  else if [".nan", ".NaN", ".NAN"].contains text then some "NaN"
  else
    match text.toList with
    | '+' :: c :: rest => if isSign c then none else (readDecimal (c :: rest)).map floatText
    | cs => (readDecimal cs).map floatText

/-! ## Descriptions -/

/-- How messages show a boolean. -/
def boolText (b : Bool) : String := "boolean `" ++ toString b ++ "`"

def floatDescription (text : String) : String := "floating point `" ++ text ++ "`"

def stringText (text : String) : String := "string " ++ Text.quoted text

/-- How messages show what a plain scalar stands for. -/
def describe (text : String) : String :=
  if text.isEmpty || isNull text then "unit value"
  else
    match readBool text with
    | some b => boolText b
    | none =>
      match (readInteger text.toList).bind integerText with
      | some shown => shown
      | none =>
        match (if hasLeadingZero text.toList then none else readFloat text) with
        | some shown => floatDescription shown
        | none => stringText text

end Plain

namespace Scalar

/-- The tags of the types that plain scalars have. -/
def tagPrefix : String := "tag:yaml.org,2002:"

/-- What a message says about a scalar where something else was expected. -/
def mismatch (s : Scalar) (expected : String) : String :=
  let wrongType (found : String) : String := "invalid type: " ++ found ++ ", expected " ++ expected
  let orWrongValue (found : Option String) (what : String) : String :=
    match found with
    | some found => wrongType found
    | none => "invalid value: " ++ Plain.stringText s.text ++ ", expected " ++ what
  let untagged := s.style = .plain
  match s.tag with
  | none => wrongType (if untagged then Plain.describe s.text else Plain.stringText s.text)
  | some tag =>
    if tag = tagPrefix ++ "bool" then
      orWrongValue ((Plain.readBool s.text).map Plain.boolText) "a boolean"
    else if tag = tagPrefix ++ "int" then
      orWrongValue ((Plain.readInteger s.text.toList).bind Plain.integerText) "an integer"
    else if tag = tagPrefix ++ "float" then
      orWrongValue ((Plain.readFloat s.text).map Plain.floatDescription) "a float"
    else if tag = tagPrefix ++ "null" then
      orWrongValue (if Plain.isNull s.text then some "unit value" else none) "null"
    else if tag.startsWith "!" && untagged then wrongType (Plain.describe s.text)
    else wrongType (Plain.stringText s.text)

end Scalar

end TemplateEngines.Yaml
