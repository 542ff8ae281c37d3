/-
Compiled templates: a tree of elements, each with the place of its tag. `compile` refuses a source
that breaks the grammar, then, in the order of the source, a literal that cannot be read and a
block closed by another name than it was opened with. Where the grammar is broken is not found out
here: the parser of the grammar reports the place at which it gives up, and `compile` is told.
-/
import TemplateEngines.Handlebars.Layout

namespace TemplateEngines.Handlebars

/-! ## Trees -/

/-- An element of a template. -/
inductive Element where
  | text (s : String)
  | comment
  | value (e : Expression)
  /-- A helper block with its content and the content after `else`. -/
  | block (e : Expression) (body : List (Position × Element))
      (inverse : Option (List (Position × Element)))
  | decorator (e : Expression) (body : Option (List (Position × Element)))
  | inclusion (e : Expression) (body : Option (List (Position × Element))) (indent : Option String)
deriving Inhabited, Repr

/-- A compiled template. -/
abbrev Template := List (Position × Element)

/-! ## Errors -/

/-- A place in the source of a template. -/
structure Place where
  position : Position
  /-- The whole source. -/
  source : String
deriving DecidableEq, Repr

namespace Place

/-- The lines of a text, without their ends. A line ends with a line feed, or with a carriage return
and a line feed; what stands after the last line feed is a line unless it is empty. -/
def lines (cs : List Char) : List (List Char) :=
  let dropReturn (line : List Char) : List Char :=
    if line.getLast? == some '\r' then line.dropLast else line
  let parts := cs.splitOn '\n'
  parts.dropLast.map dropReturn ++ parts.getLast?.toList.filter fun line => !line.isEmpty

/-- A number in a field of four characters. -/
def paddedNumber (n : Nat) : String :=
  let ds := Nat.toDigits 10 n
  String.ofList (List.replicate (4 - ds.length) ' ' ++ ds)

/-- A line of hyphens as long as the line above it has bytes, with a caret at a column. -/
def underline (length column : Nat) : String :=
  "     |" ++
    String.ofList ((List.range length).map fun i => if i = column then '^' else '-') ++ "\n"

/-- The lines around the place, which is marked. -/
def excerpt (place : Place) : String :=
  let number (i : Nat) (line : List Char) : String :=
    if place.position.line - 3 ≤ i && i ≤ place.position.line + 3 then
      let text := String.ofList line
      paddedNumber i ++ " | " ++ text ++ "\n" ++
        (if i + 1 = place.position.line then underline text.utf8ByteSize place.position.column
          else "")
    else ""
  String.join ((lines place.source.toList).mapIdx number)

/-- The message about an error at the place. -/
def report (place : Place) (reason : String) : String :=
  "Template error: " ++ reason ++ "\n    --> Template error in \"Unnamed\":" ++
    toString place.position.line ++ ":" ++ toString place.position.column ++ "\n     |\n" ++
    place.excerpt ++ "     |\n     = reason: " ++ reason ++ "\n"

end Place

/-- A block closed by another name than it was opened with. -/
structure Mismatch where
  /-- The block is a helper's, not a decorator's or an inclusion's. -/
  isHelper : Bool
  opened : String
  closed : String
  /-- The place of the closing tag. -/
  place : Place
deriving DecidableEq, Repr

def Mismatch.reason (m : Mismatch) : String :=
  (if m.isHelper then "helper " else "decorator ") ++ Text.quoted m.opened ++
    " was opened, but " ++ Text.quoted m.closed ++ " is closing"

/-- Why a source is no template. -/
inductive CompileError where
  /-- The source breaks the grammar; at the place the parser gives up. -/
  | rejected (place : Place)
  /-- A literal that is no JSON. -/
  | unreadable (source : String)
  | mismatch (m : Mismatch)
deriving DecidableEq, Repr

def CompileError.message : CompileError → String
  | .rejected place => place.report "invalid handlebars syntax."
  | .unreadable source => "invalid parameter " ++ Text.quoted source
  | .mismatch m => m.place.report m.reason

/-! ## Building the tree -/

/-- A block that is open while the tree is built. -/
structure Frame where
  kind : BlockKind
  head : Expression
  position : Position
  /-- The content before `else`, once that has been read. -/
  body : Option Template
  /-- The elements around the block that stand before it, the last one first. -/
  outer : List (Position × Element)

/-- The element of a block whose last content is complete. -/
def Frame.close (frame : Frame) (content : Template) : Element :=
  match frame.kind with
  | .helper =>
    match frame.body with
    | some body => .block frame.head body (some content)
    | none => .block frame.head content none
  | .decorator => .decorator frame.head (some content)
  | .inclusion => .inclusion frame.head (some content) none

/-- Refuses an expression with a literal that is no JSON. -/
def checkLiterals (e : Expression) : Except CompileError Unit :=
  match e.unreadable with
  | some source => .error (.unreadable source)
  | none => .ok ()

/-- Builds the tree. `done` holds the elements of the innermost open block, the last one first.
Blocks that are not nested break the grammar, which is reported at the place `refusal`. -/
def build (refusal : Place) :
    List Frame → List (Position × Element) → List Piece → Except CompileError Template
  | [], done, [] => .ok done.reverse
  | _ :: _, _, [] => .error (.rejected refusal)
  | stack, done, .text content _ :: rest =>
    build refusal stack ((⟨1, 1⟩, .text (String.ofList content)) :: done) rest
  | stack, done, .tag token :: rest =>
    let add (element : Element) := build refusal stack ((token.position, element) :: done) rest
    match token.tag with
    | .comment => add .comment
    | .value e => do
      checkLiterals e
      add (.value e)
    | .decorator e => do
      checkLiterals e
      add (.decorator e none)
    | .inclusion e => do
      checkLiterals e
      let indent := if token.trimBefore || token.indent.isEmpty then none
        else some (String.ofList token.indent)
      add (.inclusion e none indent)
    | .opening kind e => do
      checkLiterals e
      build refusal (⟨kind, e, token.position, none, done⟩ :: stack) [] rest
    | .rawOpening e => do
      checkLiterals e
      build refusal (⟨.helper, e, token.position, none, done⟩ :: stack) [] rest
    | .alternative =>
      match stack with
      | frame :: outer => build refusal ({ frame with body := some done.reverse } :: outer) [] rest
      | [] => .error (.rejected refusal)
    | .closing name | .rawClosing name =>
      match stack with
      | frame :: outer =>
        if frame.head.head.label? = some name then
          build refusal outer ((frame.position, frame.close done.reverse) :: frame.outer) rest
        else
          .error (.mismatch
            ⟨frame.kind == .helper, frame.head.head.label?.getD frame.head.head.describe, name,
              token.position, refusal.source⟩)
      | [] => .error (.rejected refusal)

/-- Compiles a source. `refusedAt` answers where the parser of the grammar gives a source up. -/
def compile (source : String) (refusedAt : String → Position := fun _ => ⟨1, 1⟩) :
    Except CompileError Template :=
  let refusal : Place := ⟨refusedAt source, source⟩
  match pieces source.toList with
  | some ps =>
    if isNested [] ps then build refusal [] [] (layout {} ps) else .error (.rejected refusal)
  | none => .error (.rejected refusal)

end TemplateEngines.Handlebars
