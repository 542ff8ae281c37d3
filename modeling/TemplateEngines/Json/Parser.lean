/-
Reading JSON. `Json.parse` accepts exactly one value with blanks around it, nested at most 127
levels deep; the last of several members of one name stays. A whole number that fits neither a
signed nor an unsigned 64-bit word, and every literal with a point or an exponent, is a
floating-point number; one that is out of range is refused.
-/
import TemplateEngines.Json.Basic

namespace TemplateEngines

/-! ## Numbers -/

/-- The value of a decimal digit. -/
def digitValue (c : Char) : Nat := c.toNat - '0'.toNat

/-- The natural number that a list of decimal digits writes. -/
def digitsValue (cs : List Char) : Nat := cs.foldl (fun n c => n * 10 + digitValue c) 0

namespace Number

/-- A decimal literal taken apart. -/
structure Literal where
  negative : Bool
  whole : List Char
  fraction : Option (List Char)
  exponent : Option Int

namespace Literal

/-- The digits before the point as a significand of 64 bits, and how many had to be dropped. -/
def wholeSignificand (digits : List Char) : Nat × Nat :=
  digits.foldl (fun (n, dropped) c =>
    if dropped > 0 then (n, dropped + 1)
    else
      let m := n * 10 + digitValue c
      if m < Nat.pow 2 64 then (m, 0) else (n, 1)) (0, 0)

/-- Appends digits after the point to a significand as long as 64 bits hold them; the number of
digits taken is the second component. -/
def extendSignificand (n : Nat) : List Char → Nat × Nat
  | [] => (n, 0)
  | c :: cs =>
    let m := n * 10 + digitValue c
    if m < Nat.pow 2 64 then
      let (r, taken) := extendSignificand m cs
      (r, taken + 1)
    else (n, 0)

/-- The literal as a floating-point number, none when it is out of range. -/
def toFloat? (l : Literal) : Option Binary64 :=
  let (n, dropped) := wholeSignificand l.whole
  let (n, taken) := extendSignificand n (l.fraction.getD [])
  Binary64.ofDecimal l.negative n ((dropped : Int) - taken + l.exponent.getD 0)

/-- The number that the literal writes. The literal `-0` is the negative floating-point zero. -/
def value? (l : Literal) : Option Number :=
  match l.fraction, l.exponent with
  | none, none =>
    let n := digitsValue l.whole
    if l.negative then
      if n ≠ 0 ∧ n ≤ Nat.pow 2 63 then some (.int (-(n : Int))) else l.toFloat?.map .float
    else if n < Nat.pow 2 64 then some (.int n) else l.toFloat?.map .float
  | _, _ => l.toFloat?.map .float

end Literal

/-- The digits in front and what follows them. -/
def takeDigits (cs : List Char) : List Char × List Char := cs.span Char.isDigit

/-- An exponent, if there is one; a mark without digits is refused. -/
def readExponent (cs : List Char) : Option (Option Int × List Char) :=
  let signed (negative : Bool) (cs : List Char) : Option (Option Int × List Char) :=
    match takeDigits cs with
    | ([], _) => none
    | (ds, rest) =>
      let n : Int := digitsValue ds
      some (some (if negative then -n else n), rest)
  match cs with
  | 'e' :: '-' :: r | 'E' :: '-' :: r => signed true r
  | 'e' :: '+' :: r | 'E' :: '+' :: r => signed false r
  | 'e' :: r | 'E' :: r => signed false r
  | _ => some (none, cs)

/-- A fraction, if there is one; a point without digits is refused. -/
def readFraction (cs : List Char) : Option (Option (List Char) × List Char) :=
  match cs with
  | '.' :: r =>
    match takeDigits r with
    | ([], _) => none
    | (ds, rest) => some (some ds, rest)
  | _ => some (none, cs)

/-- Reads an unsigned literal: no digit may follow a leading zero. -/
def readUnsigned (negative : Bool) (cs : List Char) : Option (Number × List Char) := do
  let (whole, rest) := takeDigits cs
  guard (!whole.isEmpty && !(whole.head? == some '0' && whole.length > 1))
  let (fraction, rest) ← readFraction rest
  let (exponent, rest) ← readExponent rest
  let n ← Literal.value? ⟨negative, whole, fraction, exponent⟩
  some (n, rest)

/-- Reads a number. -/
def read (cs : List Char) : Option (Number × List Char) :=
  match cs with
  | '-' :: r => readUnsigned true r
  | _ => readUnsigned false cs

end Number

namespace Json

/-! ## Blanks and strings -/

/-- The blanks of JSON: space, tab, carriage return and line feed. -/
def isBlank (c : Char) : Bool := c == ' ' || c == '\t' || c == '\r' || c == '\n'

def skipBlanks (cs : List Char) : List Char := cs.dropWhile isBlank

def hexValue? (c : Char) : Option Nat :=
  if c.isDigit then some (c.toNat - '0'.toNat)
  else if 'a' ≤ c ∧ c ≤ 'f' then some (c.toNat - 'a'.toNat + 10)
  else if 'A' ≤ c ∧ c ≤ 'F' then some (c.toNat - 'A'.toNat + 10)
  else none

/-- Four hexadecimal digits. -/
def readUnit : List Char → Option (Nat × List Char)
  | a :: b :: c :: d :: r => do
    let a ← hexValue? a
    let b ← hexValue? b
    let c ← hexValue? c
    let d ← hexValue? d
    some (((a * 16 + b) * 16 + c) * 16 + d, r)
  | _ => none

/-- A character given by its number in UTF-16, a surrogate pair for one above U+FFFF; a surrogate
without its partner is refused. -/
def readUnicode (cs : List Char) : Option (Char × List Char) := do
  let (u, r) ← readUnit cs
  if 0xD800 ≤ u ∧ u < 0xDC00 then
    match r with
    | '\\' :: 'u' :: r =>
      let (v, r) ← readUnit r
      guard (0xDC00 ≤ v && v < 0xE000)
      some (Char.ofNat (0x10000 + (u - 0xD800) * 0x400 + (v - 0xDC00)), r)
    | _ => none
  else if 0xDC00 ≤ u ∧ u < 0xE000 then none
  else some (Char.ofNat u, r)

/-- What follows a backslash. -/
def readEscape : List Char → Option (Char × List Char)
  | '"' :: r => some ('"', r)
  | '\\' :: r => some ('\\', r)
  | '/' :: r => some ('/', r)
  | 'b' :: r => some ('\x08', r)
  | 'f' :: r => some ('\x0c', r)
  | 'n' :: r => some ('\n', r)
  | 'r' :: r => some ('\r', r)
  | 't' :: r => some ('\t', r)
  | 'u' :: r => readUnicode r
  | _ => none

/-- The characters up to the closing quote, of which at most `fuel` are read. -/
def readChars : Nat → List Char → Option (List Char × List Char)
  | 0, _ => none
  | fuel + 1, cs =>
    match cs with
    | [] => none
    | '"' :: r => some ([], r)
    | '\\' :: r => do
      let (c, r) ← readEscape r
      let (text, r) ← readChars fuel r
      some (c :: text, r)
    | c :: r =>
      if c.toNat < 0x20 then none
      else do
        let (text, r) ← readChars fuel r
        some (c :: text, r)

/-- A string whose opening quote has been read. -/
def readString (cs : List Char) : Option (String × List Char) := do
  let (text, r) ← readChars (cs.length + 1) cs
  some (String.ofList text, r)

/-! ## Values -/

/-- A reader of one value: the value and the rest of the text. -/
abbrev Reader := List Char → Option (Json × List Char)

/-- A word, a number or a string. -/
def readScalar : Reader
  | 'n' :: 'u' :: 'l' :: 'l' :: r => some (.null, r)
  | 't' :: 'r' :: 'u' :: 'e' :: r => some (.bool true, r)
  | 'f' :: 'a' :: 'l' :: 's' :: 'e' :: r => some (.bool false, r)
  | '"' :: r => (readString r).map fun (s, r) => (.string s, r)
  | cs => (Number.read cs).map fun (n, r) => (.number n, r)

/-- The items of an array after the first bracket or comma, of which at most `fuel` are read. -/
def readItems (item : Reader) : Nat → List Char → Option (List Json × List Char)
  | 0, _ => none
  | fuel + 1, cs => do
    let (v, r) ← item (skipBlanks cs)
    match skipBlanks r with
    | ',' :: r =>
      let (vs, r) ← readItems item fuel r
      some (v :: vs, r)
    | ']' :: r => some ([v], r)
    | _ => none

/-- The members of an object after the first brace or comma, of which at most `fuel` are read. -/
def readMembers (item : Reader) : Nat → List Char → Option (List (String × Json) × List Char)
  | 0, _ => none
  | fuel + 1, cs =>
    match skipBlanks cs with
    | '"' :: r => do
      let (name, r) ← readString r
      match skipBlanks r with
      | ':' :: r =>
        let (v, r) ← item (skipBlanks r)
        match skipBlanks r with
        | ',' :: r =>
          let (rest, r) ← readMembers item fuel r
          some ((name, v) :: rest, r)
        | '}' :: r => some ([(name, v)], r)
        | _ => none
      | _ => none
    | _ => none

/-- A value without blanks in front, nested at most as deep as the first argument says. -/
def readValue : Nat → Reader
  | 0, cs => readScalar cs
  | depth + 1, cs =>
    match cs with
    | '[' :: r =>
      match skipBlanks r with
      | ']' :: r => some (.array [], r)
      | _ => (readItems (readValue depth) r.length r).map fun (vs, r) => (.array vs, r)
    | '{' :: r =>
      match skipBlanks r with
      | '}' :: r => some (.object [], r)
      | _ =>
        (readMembers (readValue depth) r.length r).map fun (ms, r) => (.object (Dict.ofList ms), r)
    | _ => readScalar cs

/-- The deepest nesting that is read. -/
def maxDepth : Nat := 127

/-- Reads a text that holds one value nested at most `depth` levels deep. -/
def parseWithin (depth : Nat) (text : String) : Option Json := do
  let (v, r) ← readValue depth (skipBlanks text.toList)
  guard (skipBlanks r).isEmpty
  some v

/-- Reads a text that holds one value. -/
def parse (text : String) : Option Json := parseWithin maxDepth text

end Json

end TemplateEngines
