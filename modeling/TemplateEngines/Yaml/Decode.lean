/-
Reading typed data from a YAML document: texts, booleans and mappings. A node of another kind is
refused with its path and place. What is not read does not matter, unless the document breaks off in
it.
-/
import TemplateEngines.Yaml.Node
import TemplateEngines.Yaml.Plain

namespace TemplateEngines.Yaml

/-! ## Errors -/

/-- The way from the root of a document to a node. -/
inductive Path where
  | root
  | member (parent : Path) (key : String)
  /-- The value of a key that is not a scalar. -/
  | unknown (parent : Path)
deriving DecidableEq, Repr

namespace Path

/-- What stands before the last step of a path. -/
def start : Path → String
  | .root => ""
  | .member parent key => parent.start ++ key ++ "."
  | .unknown parent => parent.start ++ "?."

/-- The text of a path, empty for the root. -/
def text : Path → String
  | .root => ""
  | .member parent key => parent.start ++ key
  | .unknown parent => parent.start ++ "?"

end Path

/-- Why a document does not hold the data that are asked for. -/
structure DataError where
  what : String
  /-- Where the node is that was being read. -/
  place : Option (Mark × Path) := none
deriving DecidableEq, Repr

/-- The start of the document is no place to report. -/
def DataError.message (e : DataError) : String :=
  match e.place with
  | none => e.what
  | some (mark, path) =>
    (if path.text.isEmpty then "" else path.text ++ ": ") ++ e.what ++
      (if mark.isStart then "" else " at " ++ mark.text)

/-- Why reading ends early. -/
inductive Refusal where
  /-- The document breaks off. -/
  | unread
  | data (e : DataError)
deriving DecidableEq, Repr

/-- A reader of data. -/
abbrev Decode := Except Refusal

namespace Decode

def refuse {α : Type} (what : String) : Decode α := .error (.data { what })

/-- Gives an error a place, if it has none yet. -/
def placed {α : Type} (mark : Mark) (path : Path) : Decode α → Decode α
  | .error (.data { what, place := none }) => .error (.data { what, place := some (mark, path) })
  | result => result

/-- Refuses a node of another kind than was expected. -/
def wrongKind {α : Type} (found expected : String) : Decode α :=
  refuse ("invalid type: " ++ found ++ ", expected " ++ expected)

/-! ## Nodes -/

/-- The node itself, or the one that an alias stands for. -/
def target (root : Node) : Node → Node
  | .alias _ n => (root.anchored n).getLast?.getD .unread
  | node => node

/-- The text of a scalar, however it is written. -/
def text (root : Node) (expected : String) (path : Path) (node : Node) : Decode String :=
  match target root node with
  | .scalar _ _ s => .ok s.text
  | .sequence mark .. => placed mark path (wrongKind "sequence" expected)
  | .mapping mark .. => placed mark path (wrongKind "map" expected)
  | _ => .error .unread

/-- A text or nothing: a plain scalar that is empty or null stands for nothing. -/
def optionalText (root : Node) (path : Path) (node : Node) : Decode (Option String) :=
  match target root node with
  | .scalar _ _ s =>
    if s.style ≠ .plain then .ok (some s.text)
    else
      match s.tag with
      | some tag =>
        if tag ≠ Scalar.tagPrefix ++ "null" then .ok (some s.text)
        else if Plain.isNull s.text then .ok none
        else refuse ("invalid value: " ++ Plain.stringText s.text ++ ", expected null")
      | none => .ok (if s.text.isEmpty || Plain.isNull s.text then none else some s.text)
  | node => (text root "a string" path node).map some

/-- A boolean, which is a plain scalar. -/
def bool (root : Node) (path : Path) (node : Node) : Decode Bool :=
  match target root node with
  | .scalar mark _ s =>
    let eligible := s.style = .plain ||
      (s.style = .literal && s.tag = some (Scalar.tagPrefix ++ "bool"))
    match (if eligible then Plain.readBool s.text else none) with
    | some b => .ok b
    | none => placed mark path (refuse (s.mismatch "a boolean"))
  | .sequence mark .. => placed mark path (wrongKind "sequence" "a boolean")
  | .mapping mark .. => placed mark path (wrongKind "map" "a boolean")
  | _ => .error .unread

/-- Reads the entries of a mapping one after the other. A scalar without content is an empty
mapping. -/
def entries {σ : Type} (root : Node) (expected keyExpected : String) (path : Path) (init : σ)
    (step : σ → String → Path → Node → Decode σ) (node : Node) : Decode σ :=
  let one (state : σ) (entry : Node × Node) : Decode σ := do
    let key ← text root keyExpected path entry.1
    let inner := match entry.1 with
      | .scalar _ _ s => Path.member path s.text
      | _ => .unknown path
    step state key inner entry.2
  match target root node with
  | .mapping mark _ list => placed mark path (list.foldlM one init)
  | .scalar mark _ s =>
    if s.text.isEmpty && s.style = .plain then .ok init
    else placed mark path (refuse (s.mismatch expected))
  | .sequence mark .. => placed mark path (wrongKind "sequence" expected)
  | _ => .error .unread

/-- Passes over a node. -/
def ignore (node : Node) : Decode Unit := if node.isComplete then .ok () else .error .unread

/-- Sets a field that may be given only once. -/
def once {α : Type} (field : String) (old : Option α) (value : Decode α) : Decode (Option α) :=
  match old with
  | some _ => refuse ("duplicate field `" ++ field ++ "`")
  | none => value.map some

end Decode

end TemplateEngines.Yaml
