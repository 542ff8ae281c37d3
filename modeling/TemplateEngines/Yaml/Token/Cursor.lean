/-
A position in a YAML source, and the small steps that move it: over characters, runs of characters
and line ends.
-/
import TemplateEngines.Yaml.Token

namespace TemplateEngines.Yaml

/-! ## Characters -/

/-- A character that ends a line. -/
def isBreak (c : Char) : Bool :=
  c == '\r' || c == '\n' || c == '\x85' || c == '\u2028' || c == '\u2029'

def isBlank (c : Char) : Bool := c == ' ' || c == '\t'

/-- The characters of anchors and handles. -/
def isWordChar (c : Char) : Bool := c.isAlphanum || c == '_' || c == '-'

/-- Whether a rest starts with a blank or a line end, or is empty. -/
def startsBlank : List Char → Bool
  | c :: _ => isBlank c || isBreak c
  | [] => true

/-- Whether a rest starts with a line end, or is empty. -/
def startsBreak : List Char → Bool
  | c :: _ => isBreak c
  | [] => true

/-- The characters that a source may contain. -/
def isAllowed (c : Char) : Bool :=
  let n := c.toNat
  n == 0x09 || n == 0x0A || n == 0x0D || (0x20 ≤ n && n ≤ 0x7E) || n == 0x85 ||
    (0xA0 ≤ n && n ≤ 0xFFFD) || 0x10000 ≤ n

/-! ## Cursors -/

/-- What is still to be read, and where it starts. -/
structure Cursor where
  rest : List Char
  mark : Mark
deriving Inhabited, Repr

namespace Cursor

/-- The first character of the rest. -/
def head? (c : Cursor) : Option Char := c.rest.head?

def startsWith (c : Cursor) (p : Char → Bool) : Bool := (c.rest.head?.map p).getD false

/-- Passes over characters on the same line. -/
def skip (c : Cursor) (count : Nat) : Cursor :=
  ⟨c.rest.drop count,
    { c.mark with index := c.mark.index + count, column := c.mark.column + count }⟩

/-- Passes over the characters of a class, none of which ends a line, and answers them. -/
def take (c : Cursor) (p : Char → Bool) : List Char × Cursor :=
  let run := c.rest.takeWhile p
  (run, c.skip run.length)

def skipWhile (c : Cursor) (p : Char → Bool) : Cursor := (c.take p).2

/-- Passes over a line end, if there is one, and answers what it counts as in a text. -/
def takeBreak (c : Cursor) : List Char × Cursor :=
  let next (width : Nat) : Mark := ⟨c.mark.index + width, c.mark.line + 1, 0⟩
  match c.rest with
  | '\r' :: '\n' :: rest => (['\n'], ⟨rest, next 2⟩)
  | x :: rest =>
    if x == '\u2028' || x == '\u2029' then ([x], ⟨rest, next 1⟩)
    else if isBreak x then (['\n'], ⟨rest, next 1⟩)
    else ([], c)
  | [] => ([], c)

def skipBreak (c : Cursor) : Cursor := c.takeBreak.2

/-- Passes over a comment up to the end of its line. -/
def skipComment (c : Cursor) : Cursor :=
  if c.head? == some '#' then c.skipWhile (!isBreak ·) else c

/-- A line that starts or ends a document: three hyphens or points before a blank or the end. -/
def atDocumentMark (c : Cursor) : Bool :=
  c.mark.column == 0 &&
    match c.rest with
    | '-' :: '-' :: '-' :: rest | '.' :: '.' :: '.' :: rest => startsBlank rest
    | _ => false

/-- The problem of a flaw at the cursor. -/
def problem (c : Cursor) (flaw : Flaw) (activity : Activity) (start : Mark) : Problem :=
  { flaw, mark := c.mark, context := some (activity, start) }

end Cursor

end TemplateEngines.Yaml
