/-
The data that a template sees while it is rendered. Every block that changes the data puts itself
on a stack, with a place in the data or a value of its own, names for parts of it, and variables.
A path is looked up in the innermost block only, unless it climbs.
-/
import TemplateEngines.Engine.Basic
import TemplateEngines.Handlebars.Template

namespace TemplateEngines.Handlebars

/-! ## Values -/

/-- What the value of a parameter is and where it comes from. -/
inductive Found where
  /-- A literal of the template. -/
  | literal (v : Json)
  /-- A computed value. -/
  | computed (v : Json)
  /-- A part of the data of the template. -/
  | inData (v : Json) (path : List String)
  | missing
deriving Inhabited, Repr

namespace Found

/-- The value, null if it is missing. -/
def value : Found → Json
  | .literal v | .computed v | .inData v _ => v
  | .missing => .null

/-- The place in the data of the template. -/
def path? : Found → Option (List String)
  | .inData _ path => some path
  | _ => none

def isMissing : Found → Bool
  | .missing => true
  | _ => false

end Found

/-- An evaluated parameter: the way it is written, if it is a path, and what was found. -/
structure Argument where
  source : Option String
  found : Found
deriving Inhabited, Repr

/-! ## Blocks -/

/-- What a name that a block introduces stands for. -/
inductive Binding where
  | value (v : Json)
  /-- The place of the block in the data. -/
  | place
deriving Inhabited, Repr

/-- A block on the stack. -/
structure Block where
  /-- Its place in the data of the template. -/
  path : List String := []
  /-- Its data, if they are not at that place. -/
  value : Option Json := none
  names : Dict Binding := []
  locals : Dict Json := []
deriving Inhabited, Repr

/-- The block for a value. -/
def Block.ofFound (found : Found) : Block :=
  match found.path? with
  | some path => { path := path }
  | none => { value := some found.value }

/-- What a template sees, from the inside. -/
structure Scope where
  /-- A missing value is an error. -/
  strict : Bool
  /-- The data of the template. -/
  data : Json
  around : Surroundings
  /-- The blocks, the innermost first. -/
  blocks : List Block := [{}]
  /-- The contents of the inclusions with a block, the innermost first. -/
  contents : List Template := []
  /-- How many of these contents are being rendered themselves. -/
  contentDepth : Nat := 0
  /-- What stands before every line but the first. -/
  indent : Option String := none

namespace Scope

def push (scope : Scope) (block : Block) : Scope := { scope with blocks := block :: scope.blocks }

/-- The innermost block. -/
def current (scope : Scope) : Block := scope.blocks.headD {}

/-! ## Looking up paths -/

/-- The index that a step of a path names. -/
def readIndex (name : String) : Option Nat :=
  let ds := match name.toList with
    | '+' :: rest => rest
    | cs => cs
  if !ds.isEmpty && ds.all Char.isDigit && digitsValue ds < Nat.pow 2 64 then some (digitsValue ds)
  else none

/-- A path into an array that is not a number. -/
structure TextIndex where

/-- The value at the end of a path that starts at a value. -/
def walk : Option Json → List String → Except TextIndex (Option Json)
  | v, [] => .ok v
  | some (.array items), name :: rest =>
    match readIndex name with
    | some i => walk items[i]? rest
    | none => .error {}
  | some (.object members), name :: rest => walk (Dict.get? members name) rest
  | _, _ :: rest => walk none rest

/-- The value at a place of the data. -/
def findInData (scope : Scope) (path : List String) : Except TextIndex Found := do
  match ← walk (some scope.data) path with
  | some v => return .inData v path
  | none => return .missing

/-- The value at a place inside another value. -/
def findInValue (v : Json) (path : List String) : Except TextIndex Found := do
  match ← walk (some v) path with
  | some v => return .computed v
  | none => return .missing

/-- The value at a place inside a block. -/
def findInBlock (scope : Scope) (block : Block) (names : List String) : Except TextIndex Found :=
  match block.value with
  | some v => findInValue v names
  | none => scope.findInData (block.path ++ names)

/-- The innermost block that introduces a name, and what the name stands for. -/
def binding? (scope : Scope) (name : String) : Option (Block × Binding) :=
  scope.blocks.findSome? fun block => (block.names.get? name).map fun b => (block, b)

/-- The value of a path. If a block introduces its first name, what follows its first step is looked
up there, even if that step is `../`. Otherwise `../` goes out by a block, or stays in the innermost
block if there are not enough. -/
def findSegments (scope : Scope) (segments : List Segment) : Except TextIndex Found :=
  let depth := (segments.takeWhile (· == .up)).length
  let rest := segments.dropWhile (· == .up)
  let bound := match rest with
    | .name n :: _ => scope.binding? n
    | _ => none
  match bound with
  | some (_, .value v) => findInValue v (Path.names segments.tail)
  | some (block, .place) => scope.findInData (block.path ++ Path.names segments.tail)
  | none =>
    if depth > 0 then
      scope.findInBlock (scope.blocks[depth]?.getD scope.current) (Path.names segments)
    else if rest.head? == some .root then scope.findInData (Path.names segments)
    else scope.findInBlock scope.current (Path.names segments)

/-- The value of a path or of a block variable. -/
def find (scope : Scope) (p : Path) : Except TextIndex Found :=
  match p.blockVariable? with
  | some (level, name) =>
    match (scope.blocks[level]?).bind (·.locals.get? name) with
    | some v => .ok (.computed v)
    | none => .ok .missing
  | none => scope.findSegments p.segments

end Scope

end TemplateEngines.Handlebars
