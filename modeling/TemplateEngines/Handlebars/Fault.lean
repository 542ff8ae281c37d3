/-
What can go wrong while a template is rendered, the texts of these faults, and the computations
that can meet them.
-/
import TemplateEngines.Handlebars.Scope
import TemplateEngines.Text.Base64
import TemplateEngines.Text.Utf8

namespace TemplateEngines.Handlebars

/-- How messages show what was found. -/
def Found.describe : Found → String
  | .literal v => "Constant(" ++ v.describe ++ ")"
  | .computed v => "Derived(" ++ v.describe ++ ")"
  | .inData v path =>
    "Context(" ++ v.describe ++ ", [" ++ String.intercalate ", " (path.map Text.quoted) ++ "])"
  | .missing => "Missing"

/-- How messages show an evaluated parameter. -/
def Argument.describe (a : Argument) : String :=
  let source := match a.source with
    | some s => "Some(" ++ Text.quoted s ++ ")"
    | none => "None"
  "PathAndJson \x7b relative_path: " ++ source ++ ", value: " ++ a.found.describe ++ " \x7d"

/-- Why a template cannot be rendered. -/
inductive Fault where
  /-- A value is missing, in strict mode; the path is the one that is written for it. -/
  | missingValue (path : Option String)
  /-- An item of an array is named by a text. -/
  | textIndex
  /-- No helper has the name, which is given as messages show it. -/
  | unknownHelper (shown : String)
  | unknownDecorator (shown : String)
  /-- A helper lacks its first parameter. -/
  | missingParam (helper : String)
  | missingSecondParam (helper : String)
  /-- A comparison or the like lacks a parameter. -/
  | unreadParam (helper param : String)
  /-- The value of a parameter is not of the type that the helper takes. -/
  | wrongType (helper param type : String) (value : Json) (arguments : List Argument)
  /-- A parameter is missing or of the wrong type. -/
  | required (helper what : String)
  | logLevel (level : String)
  | unnamedPartial
  | partialName
  | partialContent
  | badBase64 (cause : Text.Base64.Fault)
  | badUtf8 (cause : Text.Utf8.Refusal)
  | unknownTime (text : String)
  | badTimeFormat (format : String)
  /-- Inclusions are nested without end, as when a template includes itself. The program overflows
  its stack there and gives no answer; this fault and its message stand for that end. -/
  | tooDeep
deriving Inhabited, Repr

def Fault.message : Fault → String
  | .missingValue (some path) => "Variable " ++ Text.quoted path ++ " not found in strict mode."
  | .missingValue none => "Value is missing in strict mode"
  | .textIndex => "Cannot access array/vector with string index."
  | .unknownHelper shown => "Helper not defined: " ++ shown
  | .unknownDecorator shown => "Decorator not defined: " ++ shown
  | .missingParam helper => "Param not found for helper " ++ Text.quoted helper
  | .missingSecondParam helper => "Insufficient params for helper " ++ Text.quoted helper
  | .unreadParam helper param => "`" ++ helper ++ "` helper: Couldn't read parameter " ++ param
  | .wrongType helper param type value arguments =>
    "`" ++ helper ++ "` helper: Couldn't convert parameter " ++ param ++ " to type `" ++ type ++
      "`. It's " ++ value.describe ++ " as JSON. Got these params: [" ++
      String.intercalate ", " (arguments.map (·.describe)) ++ "]"
  | .required helper what => helper ++ " helper requires " ++ what
  | .logLevel level => "Unsupported logging level " ++ level
  | .unnamedPartial => "Param required for decorator \"inline\""
  | .partialName => "inline name must be string"
  | .partialContent => "inline should have a block"
  | .badBase64 cause => "base64 decode error: " ++ cause.message
  | .badUtf8 cause => "decoded base64 is not UTF-8: " ++ cause.message
  | .unknownTime text => "unrecognized timestamp: " ++ text
  | .badTimeFormat format => "invalid time format: " ++ format
  | .tooDeep => "Template nesting is too deep"

/-- An error that has led to another one. -/
inductive Cause where
  | compile (e : CompileError)
  | render (text : String)
deriving DecidableEq, Repr

/-- A fault, the place of the innermost tag in which it arose, and the errors that have led to it,
the nearest first. -/
structure PlacedFault where
  fault : Fault
  position : Option Position := none
  causes : List Cause := []
deriving Inhabited, Repr

def PlacedFault.message (f : PlacedFault) : String :=
  match f.position with
  | some p =>
    "Error rendering \"Unnamed template\" line " ++ toString p.line ++ ", col " ++
      toString p.column ++ ": " ++ f.fault.message
  | none => f.fault.message

/-! ## Rendering computations -/

/-- What rendering has brought about so far. -/
structure Progress where
  output : String := ""
  /-- The templates that can be included by a name. -/
  partials : Dict Template := []
  /-- How often the random source has been used. -/
  draws : Nat := 0
  /-- The log so far, the oldest record first. -/
  records : Array Log.Record := #[]
deriving Inhabited

/-- A computation that writes, and that a fault ends. -/
abbrev Render := ExceptT PlacedFault (StateM Progress)

namespace Render

def fail {α : Type} (fault : Fault) : Render α := throw { fault }

/-- Writes a text as it is. -/
def write (text : String) : Render Unit :=
  modify fun p => { p with output := p.output ++ text }

/-- A text with an indentation after every line end but one that ends the text. -/
def indented (indent : List Char) : List Char → List Char
  | [] => []
  | ['\n'] => ['\n']
  | '\n' :: rest => '\n' :: (indent ++ indented indent rest)
  | c :: rest => c :: indented indent rest

/-- Writes a text with the indentation of the scope. -/
def writeIndented (scope : Scope) (text : String) : Render Unit :=
  match scope.indent with
  | some indent => write (String.ofList (indented indent.toList text.toList))
  | none => write text

def emit (record : Log.Record) : Render Unit :=
  modify fun p => { p with records := p.records.push record }

/-- The next 128 bits of the random source. -/
def draw (scope : Scope) : Render Nat := do
  let p ← get
  set { p with draws := p.draws + 1 }
  return scope.around.random p.draws

/-- Gives a fault the place of a tag, if it has none yet. -/
def placed (position : Position) (m : Render Unit) : Render Unit :=
  tryCatch m fun f => throw { f with position := f.position.or (some position) }

/-- Looks a path up. -/
def find (scope : Scope) (p : Path) : Render Found :=
  match scope.find p with
  | .ok found => pure found
  | .error _ => fail .textIndex

end Render

end TemplateEngines.Handlebars
