/-
What stands inside a tag: a name, parameters, named options and block parameters. A parameter is a
path into the data, a literal or a call in parentheses.
-/
import TemplateEngines.Json.Description

namespace TemplateEngines.Handlebars

/-! ## Paths -/

/-- A step of a path. -/
inductive Segment where
  /-- `@root`: the data of the whole template. -/
  | root
  /-- `@`: what follows is a variable of a block. -/
  | variable
  /-- `..`: the block around the current one. -/
  | up
  /-- A member of an object or the index of an item. -/
  | name (s : String)
deriving DecidableEq, Inhabited, Repr

/-- A path and the way it is written. -/
structure Path where
  source : String
  segments : List Segment
deriving DecidableEq, Inhabited, Repr

namespace Path

/-- The names of a path, without the steps that only move through the blocks. -/
def names (segments : List Segment) : List String :=
  segments.filterMap fun s => match s with
    | .name n => some n
    | _ => none

/-- The level and the name of a block variable: `@index` is at level zero, `@../index` one block
further out. -/
def blockVariable? (p : Path) : Option (Nat × String) :=
  match p.segments with
  | .variable :: rest =>
    match rest.dropWhile (· == .up) with
    | .name n :: _ => some ((rest.takeWhile (· == .up)).length, n)
    | _ => none
  | _ => none

end Path

/-! ## Parameters and expressions -/

/-- A parameter, or the name at the head of an expression. -/
inductive Param where
  /-- The bare name of a helper, decorator or partial. -/
  | name (s : String)
  | path (p : Path)
  | literal (v : Json)
  /-- A literal of the template language that is no JSON, or a call that contains one. A template
  with such a parameter does not compile. -/
  | unreadable (source : String)
  /-- A call in parentheses. -/
  | call (head : Param) (params : List Param) (options : List (String × Param))
deriving Inhabited, Repr

/-- The content of a tag. -/
structure Expression where
  head : Param
  params : List Param := []
  /-- Named parameters, each name once. -/
  options : Dict Param := []
  /-- The names after `as`, between bars. -/
  blockParams : List String := []
  /-- The first literal that is no JSON, in the order of the source. -/
  unreadable : Option String := none
deriving Inhabited, Repr

namespace Param

/-- The first literal inside a parameter that is no JSON. -/
def unreadable? : Param → Option String
  | .unreadable source => some source
  | _ => none

/-- The text by which a block's opening and closing tags are compared. -/
def label? : Param → Option String
  | .name s => some s
  | .path p => some p.source
  | _ => none

/-- How messages show a segment. -/
def describeSegment : Segment → String
  | .root => "Ruled(path_root)"
  | .variable => "Ruled(path_local)"
  | .up => "Ruled(path_up)"
  | .name s => "Named(" ++ Text.quoted s ++ ")"

/-- How messages show a path. -/
def describePath (p : Path) : String :=
  match p.blockVariable? with
  | some (level, v) =>
    "Local((" ++ toString level ++ ", " ++ Text.quoted v ++ ", " ++ Text.quoted p.source ++ "))"
  | none =>
    "Relative(([" ++ String.intercalate ", " (p.segments.map describeSegment) ++ "], " ++
      Text.quoted p.source ++ "))"

mutual

/-- How messages show a parameter or the head of an expression. -/
def describe : Param → String
  | .name s => "Name(" ++ Text.quoted s ++ ")"
  | .path p => "Path(" ++ describePath p ++ ")"
  | .literal v => "Literal(" ++ v.describe ++ ")"
  | .unreadable source => "Literal(" ++ source ++ ")"
  | .call head params options =>
    "Subexpression(Subexpression \x7b element: Expression(HelperTemplate \x7b name: " ++
      describe head ++ ", params: [" ++ describeAll params ++ "], hash: \x7b" ++
      describeOptions options ++ "\x7d, block_param: None, template: None, inverse: None, " ++
      "block: false \x7d) \x7d)"

def describeAll : List Param → String
  | [] => ""
  | [p] => describe p
  | p :: rest => describe p ++ ", " ++ describeAll rest

def describeOptions : List (String × Param) → String
  | [] => ""
  | [(key, p)] => Text.quoted key ++ ": " ++ describe p
  | (key, p) :: rest => Text.quoted key ++ ": " ++ describe p ++ ", " ++ describeOptions rest

end

end Param

end TemplateEngines.Handlebars
