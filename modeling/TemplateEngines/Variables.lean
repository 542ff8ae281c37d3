/-
Parameters given as `name=value` texts. The name ends at the first equals sign; a value that is
JSON keeps its type, and any other value is a string. The last text for a name counts.
-/
import TemplateEngines.Json.Parser

namespace TemplateEngines

/-- Why a text gives no parameter. -/
inductive VariableError where
  /-- There is no equals sign. -/
  | noValue (text : String)
  /-- Nothing stands before the equals sign. -/
  | noName (text : String)
deriving DecidableEq, Inhabited, Repr

def VariableError.message : VariableError → String
  | .noValue text => "Invalid variable format '" ++ text ++ "'. Expected 'key=value'"
  | .noName text => "Variable name missing in '" ++ text ++ "'"

namespace Variables

/-- The value that a text gives. -/
def readValue (text : String) : Json := (Json.parse text).getD (.string text)

/-- The name and the value that a text gives. -/
def readOne (text : String) : Except VariableError (String × Json) :=
  let cs := text.toList
  match cs.dropWhile (· != '=') with
  | [] => .error (.noValue text)
  | _ :: value =>
    let name := cs.takeWhile (· != '=')
    if name.isEmpty then .error (.noName text)
    else .ok (String.ofList name, readValue (String.ofList value))

/-- Puts the parameters of texts into a map, one after the other. -/
def addTo (params : Params) : List String → Except VariableError Params
  | [] => .ok params
  | text :: rest => do
    let (name, value) ← readOne text
    addTo (params.insert name value) rest

/-- The parameters that texts give. -/
def parse (texts : List String) : Except VariableError Params := addTo [] texts

end Variables

end TemplateEngines
