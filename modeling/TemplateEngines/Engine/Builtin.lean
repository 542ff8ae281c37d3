/-
The built-in engines, and a registry that holds them.
-/
import TemplateEngines.Engine.Dispatcher
import TemplateEngines.Engine.Passthrough
import TemplateEngines.Handlebars.Engine
import TemplateEngines.Substitution.Scan

namespace TemplateEngines

/-- The built-in engines. A strict engine fails where a parameter is missing. -/
inductive Builtin where
  | passthrough
  | substitution (strict : Bool)
  | handlebars (strict : Bool)
deriving DecidableEq, Inhabited, Repr

namespace Builtin

def name : Builtin → String
  | .passthrough => Passthrough.name
  | .substitution _ => Substitution.name
  | .handlebars _ => Handlebars.name

def isStrict : Builtin → Bool
  | .passthrough => false
  | .substitution strict | .handlebars strict => strict

def evaluate (engine : Builtin) (around : Surroundings) (template : Option String)
    (params : Option Params) : Logged Outcome :=
  match engine with
  | .passthrough => pure (.value (Passthrough.evaluate template))
  | .substitution strict => pure (Substitution.evaluate strict template params)
  | .handlebars strict => do
    let result ← Handlebars.evaluate strict around template params
    return Outcome.ofExcept result

instance : Engine Builtin where
  name := name
  evaluate := evaluate

/-- The built-in engines in the order in which they are registered. -/
def all (strictSubstitution strictHandlebars : Bool) : List Builtin :=
  [.passthrough, .substitution strictSubstitution, .handlebars strictHandlebars]

/-- The registry that holds the built-in engines. -/
def registry (strictSubstitution strictHandlebars : Bool) : Logged (Registry Builtin) :=
  Registry.registerAll {} (all strictSubstitution strictHandlebars)

end Builtin

end TemplateEngines
