/-
How messages about values show them: every value together with its kind.
-/
import TemplateEngines.Json.Printer
import TemplateEngines.Text.Quoted

namespace TemplateEngines.Json

mutual

/-- A value together with its kind. -/
def describe : Json → String
  | .null => "Null"
  | .bool b => "Bool(" ++ toString b ++ ")"
  | .number n => "Number(" ++ String.ofList n.write ++ ")"
  | .string s => "String(" ++ Text.quoted s ++ ")"
  | .array items => "Array [" ++ describeItems items ++ "]"
  | .object members => "Object \x7b" ++ describeMembers members ++ "\x7d"

def describeItems : List Json → String
  | [] => ""
  | [item] => describe item
  | item :: rest => describe item ++ ", " ++ describeItems rest

def describeMembers : List (String × Json) → String
  | [] => ""
  | [(name, value)] => Text.quoted name ++ ": " ++ describe value
  | (name, value) :: rest =>
    Text.quoted name ++ ": " ++ describe value ++ ", " ++ describeMembers rest

end

end TemplateEngines.Json
