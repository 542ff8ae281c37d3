/-
Rendering one template by a configuration: the template comes from the request or from a file, the
parameters from the configuration and the request, and the engine from the request or the
configuration. Unless a request is strict, a failing engine leaves the template as it is.
-/
import TemplateEngines.Config.Load
import TemplateEngines.Engine.Builtin
import TemplateEngines.Variables

namespace TemplateEngines

/-- A request to render a template. -/
structure RenderRequest where
  engine : Option String := none
  template : Option String := none
  /-- The file that holds the template, if the request does not. -/
  file : Option String := none
  /-- Parameters as `name=value`. -/
  assignments : List String := []
  /-- Failures are errors. -/
  strict : Bool := false
deriving DecidableEq, Inhabited, Repr

/-- Why a request fails. -/
inductive RenderFailure where
  | unreadable (path : String) (cause : ReadError)
  | noTemplate
  | variable (e : VariableError)
  | script (e : ScriptError)
deriving DecidableEq, Inhabited, Repr

namespace RenderFailure

def message : RenderFailure → String
  | .unreadable path _ => "Failed to read template file " ++ path
  | .noTemplate => "Either --template or --file must be provided"
  | .variable e => e.message
  | .script e => e.message

/-- The texts of the errors behind the failure. -/
def causes : RenderFailure → List String
  | .unreadable _ cause => [cause.message]
  | .script (.evaluation _ cause) => [cause.message]
  | _ => []

end RenderFailure

namespace Config

/-- The dispatcher that the configuration describes. -/
def dispatcher (config : Config) : Logged (Dispatcher Builtin) := do
  let registry ← Builtin.registry config.strictSubstitution config.strictHandlebars
  let d : Dispatcher Builtin := { registry }
  return match config.defaultEngine with
    | some name => d.withDefault name
    | none => d

/-- The parameters of the configuration, overridden by those that texts give. -/
def parameters (config : Config) (texts : List String) : Except VariableError Params :=
  (Variables.parse texts).map fun given =>
    Dict.overlay (config.presets.map fun (name, text) => (name, .string text)) given

/-- The names of the engines, the default engine marked. -/
def listEngines (config : Config) : Logged (List String) := do
  let d ← config.dispatcher
  return d.registry.names.map fun name =>
    if d.defaultEngine = some name then name ++ " (default)" else name

end Config

namespace RenderRequest

/-- The template of a request. -/
def readTemplate (request : RenderRequest) (files : Files) : Except RenderFailure String :=
  match request.template, request.file with
  | some text, _ => .ok text
  | none, some path =>
    match files.readText path with
    | .ok text => .ok text
    | .error e => .error (.unreadable path e)
  | none, none => .error .noTemplate

/-- The name of the engine that the log reports. -/
def reportedEngine (request : RenderRequest) (config : Config) : String :=
  (request.engine.or config.defaultEngine).getD "<none>"

/-- Renders a template with its parameters. -/
def evaluate (request : RenderRequest) (config : Config) (around : Surroundings)
    (template : String) (params : Params) : Logged (Except RenderFailure String) := do
  Logged.emit .debug .commands ("Rendering with " ++ toString params.length ++ " parameters")
  let d ← config.dispatcher
  if request.strict then
    match ← d.evaluate around request.engine (some template) (some params) with
    | .ok v => return .ok v.valueText
    | .error e => return .error (.script e)
  else
    let shown ← d.evaluateOrRaw around request.engine (some template) (some params)
    return .ok (shown.getD "")

/-- Performs a request. -/
def render (request : RenderRequest) (config : Config) (files : Files) (around : Surroundings) :
    Logged (Except RenderFailure String) := do
  match request.readTemplate files with
  | .error e => return .error e
  | .ok template =>
    match config.parameters request.assignments with
    | .error e => return .error (.variable e)
    | .ok params => request.evaluate config around template params

end RenderRequest

end TemplateEngines
