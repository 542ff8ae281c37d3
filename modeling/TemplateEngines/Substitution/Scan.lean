/-
The engine that fills `\x7bkey\x7d` placeholders, as a scan over the UTF-8 bytes of the template.
Two positions move forward: the byte to look at, and the end of what is in the output already.
Literal text is copied only when a brace interrupts it. A slice that is not bounded by character
boundaries would break the scan down.
-/
import TemplateEngines.Engine.Basic
import TemplateEngines.Text.Utf8

namespace TemplateEngines.Substitution

/-- The name of the engine. -/
def name : String := "substitution"

/-! ## Bytes -/

def openBrace : UInt8 := 0x7B

def closeBrace : UInt8 := 0x7D

/-- The bytes of keys: ASCII letters and digits, low line, point and hyphen. -/
def isKeyByte (b : UInt8) : Bool :=
  (0x61 ≤ b && b ≤ 0x7A) || (0x41 ≤ b && b ≤ 0x5A) || (0x30 ≤ b && b ≤ 0x39) ||
  b == 0x5F || b == 0x2E || b == 0x2D

/-- The end of the bytes of a key that starts at a position. -/
def keyEnd (bytes : Array UInt8) (start : Nat) : Nat :=
  if h : start < bytes.size then
    if isKeyByte bytes[start] then keyEnd bytes (start + 1) else start
  else start
termination_by bytes.size - start

/-- A position at which a character starts, or the end. -/
def isBoundary (bytes : Array UInt8) (position : Nat) : Bool :=
  match bytes[position]? with
  | some b => !Text.Utf8.isContinuation b
  | none => position == bytes.size

/-- The text between two positions, none unless both are character boundaries in this order. -/
def slice? (bytes : Array UInt8) (start stop : Nat) : Option String :=
  if start ≤ stop && isBoundary bytes start && isBoundary bytes stop then
    (Text.Utf8.decode (bytes.extract start stop).toList).toOption
  else none

/-! ## The scan -/

/-- Where the scan is: the next byte, the end of what is copied, and the output so far. -/
structure Scan where
  position : Nat
  copied : Nat
  output : String
deriving DecidableEq, Repr

/-- What one step of the scan leads to. -/
inductive Step where
  | next (scan : Scan)
  | done (text : String)
  | refused (e : EngineError)
  /-- A slice is not bounded by character boundaries. -/
  | broken
deriving DecidableEq, Repr

/-- Copies the text up to the current position and `text` after it, and goes on at `position`. -/
def Scan.write (bytes : Array UInt8) (s : Scan) (text : String) (position : Nat) : Step :=
  match slice? bytes s.copied s.position with
  | some literal => .next ⟨position, position, s.output ++ literal ++ text⟩
  | none => .broken

/-- Writes the parameter of the placeholder whose key ends at `stop`, or, without a parameter, the
placeholder itself. -/
def Scan.fill (bytes : Array UInt8) (params : Params) (strict : Bool) (s : Scan) (stop : Nat) :
    Step :=
  match slice? bytes (s.position + 1) stop with
  | none => .broken
  | some key =>
    match params.get? key with
    | some v => s.write bytes v.valueText (stop + 1)
    | none =>
      if strict then .refused (.missingParameter key)
      else
        match slice? bytes s.position (stop + 1) with
        | some written => s.write bytes written (stop + 1)
        | none => .broken

/-- Looks at the current byte. -/
def Scan.step (bytes : Array UInt8) (params : Params) (strict : Bool) (s : Scan) : Step :=
  match bytes[s.position]? with
  | none =>
    match slice? bytes s.copied bytes.size with
    | some literal => .done (s.output ++ literal)
    | none => .broken
  | some b =>
    if b == openBrace && bytes[s.position + 1]? == some openBrace then
      s.write bytes "\x7b" (s.position + 2)
    else if b == closeBrace && bytes[s.position + 1]? == some closeBrace then
      s.write bytes "\x7d" (s.position + 2)
    else if b == openBrace then
      let stop := keyEnd bytes (s.position + 1)
      if stop == s.position + 1 then .next { s with position := s.position + 1 }
      else if bytes[stop]? == some closeBrace then s.fill bytes params strict stop
      else
        .refused (.malformed ("unterminated placeholder at byte " ++ toString s.position))
    else .next { s with position := s.position + 1 }

/-- Runs the scan for at most `fuel` steps. -/
def Scan.run (bytes : Array UInt8) (params : Params) (strict : Bool) : Nat → Scan → Outcome
  | 0, _ => .panic none
  | fuel + 1, s =>
    match s.step bytes params strict with
    | .next s => run bytes params strict fuel s
    | .done text => .value (.string text)
    | .refused e => .failure e
    | .broken => .panic none

/-- Every step but the last moves forward by at least one byte, so one step more than the template
has bytes is enough. -/
def evaluate (strict : Bool) (template : Option String) (params : Option Params) : Outcome :=
  match template with
  | none => .value .null
  | some text =>
    let bytes := text.toUTF8.data
    Scan.run bytes (params.getD []) strict (bytes.size + 1) ⟨0, 0, ""⟩

end TemplateEngines.Substitution
