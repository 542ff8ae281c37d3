/-
The engine that leaves every template as it is.
-/
import TemplateEngines.Engine.Basic

namespace TemplateEngines.Passthrough

/-- The name of the engine. -/
def name : String := "passthrough"

/-- The template itself, null if there is none. -/
def evaluate (template : Option String) : Json :=
  match template with
  | some text => .string text
  | none => .null

end TemplateEngines.Passthrough
