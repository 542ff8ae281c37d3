/-
The entry point of evaluation: it resolves a name to an engine and turns every way in which the
engine can fail into a `ScriptError`. A request without a name, or with the empty name, goes to the
default engine; a name that is not empty is used as it is.
-/
import TemplateEngines.Engine.Registry

namespace TemplateEngines

/-- A registry and the name of the default engine. -/
structure Dispatcher (ε : Type) where
  registry : Registry ε
  defaultEngine : Option String := none
deriving Inhabited

namespace Dispatcher

variable {ε : Type}

/-- Sets the default engine; the empty name stands for none. -/
def withDefault (d : Dispatcher ε) (name : String) : Dispatcher ε :=
  { d with defaultEngine := if name.isEmpty then none else some name }

/-- The name that a request stands for. -/
def resolve (d : Dispatcher ε) (requested : Option String) : String :=
  match requested with
  | some name => if name.isEmpty then d.defaultEngine.getD "" else name
  | none => d.defaultEngine.getD ""

/-- The answer to a request whose engine gave this outcome. -/
def answer (name : String) : Outcome → Except ScriptError Json
  | .value v => .ok v
  | .failure e => .error (.evaluation name e)
  | .panic message => .error (.evaluation name (.panicked (message.getD "unknown panic")))

variable [Engine ε]

/-- Evaluates a template with the engine that the request names. -/
def evaluate (d : Dispatcher ε) (around : Surroundings) (requested : Option String)
    (template : Option String) (params : Option Params) : Logged (Except ScriptError Json) := do
  let name := d.resolve requested
  match d.registry.lookup name with
  | none =>
    Logged.emit .debug .dispatcher ("No script engine registered as '" ++ name ++ "'")
    return .error (.unknownEngine name)
  | some engine =>
    Logged.emit .debug .dispatcher ("Evaluating template with script engine: " ++ name)
    let outcome ← Engine.evaluate engine around template params
    return answer name outcome

/-- Evaluates a template for display: none for null, the text of any other value, and after a
failure the template itself. -/
def evaluateOrRaw (d : Dispatcher ε) (around : Surroundings) (requested : Option String)
    (template : Option String) (params : Option Params) : Logged (Option String) := do
  match ← d.evaluate around requested template params with
  | .ok .null => return none
  | .ok v => return some v.valueText
  | .error e =>
    Logged.emit .warn .dispatcher ("Showing unevaluated template: " ++ e.message)
    return template

end Dispatcher

end TemplateEngines
