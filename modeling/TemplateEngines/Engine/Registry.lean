/-
Engines under names. A registry holds at most one engine for a name, in increasing order of the
names, and no name is empty or made of white space only. The type `ε` of the engines is free, so
that an engine can carry an identity of its own.
-/
import TemplateEngines.Engine.Basic
import TemplateEngines.Text.Blank
import TemplateEngines.Text.Quoted

namespace TemplateEngines

/-- Failures of the registry and the dispatcher. -/
inductive ScriptError where
  /-- The name is empty or made of white space only. -/
  | invalidName (name : String)
  /-- No engine has the name. -/
  | unknownEngine (name : String)
  /-- The engine of this name failed. -/
  | evaluation (name : String) (cause : EngineError)
deriving DecidableEq, Inhabited, Repr

namespace ScriptError

/-- The engine name that the error is about. -/
def engineName : ScriptError → String
  | .invalidName name | .unknownEngine name | .evaluation name _ => name

def message : ScriptError → String
  | .invalidName name => "Invalid engine name: " ++ Text.quoted name
  | .unknownEngine name => "Unknown script engine: " ++ Text.quoted name
  | .evaluation name cause =>
    "Engine '" ++ name ++ "' failed to evaluate template: " ++ cause.message

end ScriptError

/-- Engines by name. -/
structure Registry (ε : Type) where
  bindings : Dict ε := []
  sorted : bindings.Sorted := by exact Dict.sorted_nil

namespace Registry

variable {ε : Type}

instance : Inhabited (Registry ε) := ⟨{}⟩

/-- The engine of a name. -/
def lookup (r : Registry ε) (name : String) : Option ε := r.bindings.get? name

def contains (r : Registry ε) (name : String) : Bool := r.bindings.contains name

/-- The names, in order. -/
def names (r : Registry ε) : List String := r.bindings.keys

def size (r : Registry ε) : Nat := r.bindings.length

def isEmpty (r : Registry ε) : Bool := r.bindings.isEmpty

/-- Binds a name to an engine. The answer is the engine that was bound to it before; a blank name
is refused. -/
def register (r : Registry ε) (name : String) (engine : ε) :
    Except ScriptError (Option ε) × Registry ε :=
  if Text.isBlankText name then (.error (.invalidName name), r)
  else (.ok (r.lookup name), ⟨r.bindings.insert name engine, r.sorted.insert name engine⟩)

/-- Removes the binding of a name. The answer is the engine that was bound to it. -/
def unregister (r : Registry ε) (name : String) : Option ε × Registry ε :=
  (r.lookup name, ⟨r.bindings.erase name, r.sorted.erase name⟩)

/-- What the log says about a registration. -/
def registrationRecord (name : String) (replaced : Bool) : Log.Record :=
  if replaced then
    ⟨.warn, .registry, "Script engine '" ++ name ++ "' replaced an existing registration"⟩
  else ⟨.debug, .registry, "Registered script engine: " ++ name⟩

/-- Registers engines under their own names; a name that is refused is reported and left out. -/
def registerAll [Engine ε] (r : Registry ε) : List ε → Logged (Registry ε)
  | [] => pure r
  | engine :: rest => do
    match r.register (Engine.name engine) engine with
    | (.ok previous, r) =>
      let record := registrationRecord (Engine.name engine) previous.isSome
      Logged.emit record.level record.source record.message
      r.registerAll rest
    | (.error e, r) =>
      Logged.emit .warn .registry ("Skipping built-in engine: " ++ e.message)
      r.registerAll rest

end Registry

end TemplateEngines
