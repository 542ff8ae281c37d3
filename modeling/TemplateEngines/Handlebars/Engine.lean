/-
Handlebars as an engine: a source is compiled and then rendered with the parameters as data. An
error of rendering counts as an error of the template if a compile error is among its causes.
-/
import TemplateEngines.Handlebars.Render

namespace TemplateEngines.Handlebars

/-- The name of the engine. -/
def name : String := "handlebars"

/-! ## Errors with causes -/

/-- An error of rendering and its causes, the nearest first. -/
structure RenderError where
  text : String
  causes : List Cause := []
deriving DecidableEq, Repr

namespace RenderError

/-- The error of rendering a source that does not compile. -/
def ofCompileError (e : CompileError) : RenderError := ⟨"Failed to parse template.", [.compile e]⟩

/-- The error of a rendering that ends with a fault. -/
def ofFault (f : PlacedFault) : RenderError := ⟨f.message, f.causes⟩

/-- A new error that the given one has caused. -/
def wrap (e : RenderError) (text : String) : RenderError := ⟨text, .render e.text :: e.causes⟩

/-- The nearest compile error among causes. -/
def compileError? : List Cause → Option CompileError
  | [] => none
  | .compile e :: _ => some e
  | .render _ :: rest => compileError? rest

/-- The error as an engine reports it. -/
def toEngineError (e : RenderError) : EngineError :=
  match compileError? e.causes with
  | some cause => .malformed cause.message
  | none => .render e.text

end RenderError

/-- A compile error as an engine reports it. -/
def CompileError.toEngineError (e : CompileError) : EngineError := .malformed e.message

/-! ## The engine -/

/-- Checks a source without rendering it. -/
def validate (source : String) (refusedAt : String → Position := fun _ => ⟨1, 1⟩) :
    Except EngineError Unit :=
  match compile source refusedAt with
  | .ok _ => .ok ()
  | .error e => .error e.toEngineError

/-- The scope in which a template is rendered from the start. -/
def Scope.start (strict : Bool) (around : Surroundings) (params : Params) : Scope :=
  { strict, data := .object params, around }

/-- Compiles and renders a source. -/
def renderSource (strict : Bool) (around : Surroundings) (source : String) (params : Params) :
    Logged (Except RenderError String) :=
  match compile source around.refusedAt with
  | .error e => pure (.error (.ofCompileError e))
  | .ok t =>
    match t.run (depthFor source) (.start strict around params) with
    | (.error fault, progress) => ⟨.error (.ofFault fault), progress.records.toList⟩
    | (.ok (), progress) => ⟨.ok progress.output, progress.records.toList⟩

/-- Evaluates a template; without one the value is null. -/
def evaluate (strict : Bool) (around : Surroundings) (template : Option String)
    (params : Option Params) : Logged (Except EngineError Json) := do
  match template with
  | none => return .ok .null
  | some source =>
    match ← renderSource strict around source (params.getD []) with
    | .error e => return .error e.toEngineError
    | .ok text =>
      Logged.emit .debug .handlebarsEngine
        ("Handlebars rendered " ++ toString text.utf8ByteSize ++ " characters")
      return .ok (.string text)

end TemplateEngines.Handlebars
