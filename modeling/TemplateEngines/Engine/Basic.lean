/-
What an engine is: it has a name, and from a template and parameters it makes a value, a failure
or, when it breaks down, a panic. An evaluation may read the surroundings of the program, which
are plain data, so the same surroundings always give the same outcome.
-/
import TemplateEngines.Json.Printer
import TemplateEngines.Log.Record

namespace TemplateEngines

/-- A point in time: seconds since the start of 1970 in UTC, and nanoseconds. -/
structure Instant where
  seconds : Int
  nanoseconds : Nat
deriving DecidableEq, Inhabited, Repr

/-- A line and a column of a text, counted in characters from one. -/
structure Position where
  line : Nat
  column : Nat
deriving DecidableEq, Inhabited, Repr

/-- What is read besides files, arguments, templates and parameters. -/
structure Surroundings where
  /-- The environment variables. -/
  environment : Dict String
  /-- The clock. -/
  now : Instant
  /-- The random source: 128 bits for each draw. -/
  random : Nat → Nat
  /-- The home directory of the user's account, if the system reports one. -/
  accountHome : Option String := none
  /-- The place at which the parser of the Handlebars grammar gives up a source that breaks it.
  Which sources break it does not depend on this. -/
  refusedAt : String → Position := fun _ => ⟨1, 1⟩

/-- Surroundings in which nothing is set, at the start of 1970. -/
def Surroundings.bare : Surroundings where
  environment := []
  now := ⟨0, 0⟩
  random := fun _ => 0

/-- Why an engine could not evaluate a template. -/
inductive EngineError where
  /-- The template breaks the rules of its language. -/
  | malformed (message : String)
  /-- The template is well formed, but cannot be rendered with these parameters. -/
  | render (message : String)
  /-- A parameter that the template needs is not given. -/
  | missingParameter (name : String)
  /-- The engine broke down. -/
  | panicked (message : String)
  | other (message : String)
deriving DecidableEq, Inhabited, Repr

def EngineError.message : EngineError → String
  | .malformed m => "Template syntax error: " ++ m
  | .render m => "Template render error: " ++ m
  | .missingParameter name => "Missing template parameter: " ++ name
  | .panicked m => "Engine panicked: " ++ m
  | .other m => "Engine error: " ++ m

/-- How an evaluation ends. -/
inductive Outcome where
  | value (v : Json)
  | failure (e : EngineError)
  /-- The engine broke down; the message is what it left behind, if that is a text. -/
  | panic (message : Option String)
deriving Inhabited, Repr

/-- The outcome of a computation that cannot break down. -/
def Outcome.ofExcept : Except EngineError Json → Outcome
  | .ok v => .value v
  | .error e => .failure e

/-- What it takes to be an engine. -/
class Engine (ε : Type) where
  /-- The name under which the engine is registered if no other is given. -/
  name : ε → String
  /-- Evaluates a template, if there is one, with parameters, if there are any. -/
  evaluate : ε → Surroundings → Option String → Option Params → Logged Outcome

end TemplateEngines
