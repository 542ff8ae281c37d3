/-
Everything that can be asked of a dispatcher and its registry, one operation at a time, and runs of
such operations. An operation answers and leaves a dispatcher behind; only registrations, removals
and the choice of the default engine change it.
-/
import TemplateEngines.Engine.Dispatcher

namespace TemplateEngines

namespace Dispatcher

/-- An operation on a dispatcher and its registry. -/
inductive Operation (ε : Type) where
  | register (name : String) (engine : ε)
  /-- Registers an engine under its own name. -/
  | registerOwn (engine : ε)
  | unregister (name : String)
  | setDefault (name : String)
  | lookup (name : String)
  | contains (name : String)
  | names
  | size
  | evaluate (requested template : Option String) (params : Option Params)
  | evaluateOrRaw (requested template : Option String) (params : Option Params)
  /-- Calls an engine without the dispatcher. -/
  | direct (engine : ε) (template : Option String) (params : Option Params)

/-- What an operation answers. -/
inductive Answer (ε : Type) where
  /-- The engine that a registration has replaced, or why it was refused. -/
  | registered (previous : Except ScriptError (Option ε))
  | engine (found : Option ε)
  | default (name : Option String)
  | truth (b : Bool)
  | names (names : List String)
  | size (n : Nat)
  | evaluated (result : Except ScriptError Json)
  | shown (text : Option String)
  | outcome (o : Outcome)

variable {ε : Type} [Engine ε]

/-- Registers an engine, and answers what that name was bound to. -/
def register (d : Dispatcher ε) (name : String) (engine : ε) :
    Except ScriptError (Option ε) × Dispatcher ε :=
  let (previous, registry) := d.registry.register name engine
  (previous, { d with registry })

/-- Performs an operation. -/
def step (around : Surroundings) (d : Dispatcher ε) : Operation ε → Answer ε × Dispatcher ε
  | .register name engine => (d.register name engine).map .registered id
  | .registerOwn engine => (d.register (Engine.name engine) engine).map .registered id
  | .unregister name =>
    let (removed, registry) := d.registry.unregister name
    (.engine removed, { d with registry })
  | .setDefault name => let d := d.withDefault name; (.default d.defaultEngine, d)
  | .lookup name => (.engine (d.registry.lookup name), d)
  | .contains name => (.truth (d.registry.contains name), d)
  | .names => (.names d.registry.names, d)
  | .size => (.size d.registry.size, d)
  | .evaluate requested template params =>
    (.evaluated (d.evaluate around requested template params).value, d)
  | .evaluateOrRaw requested template params =>
    (.shown (d.evaluateOrRaw around requested template params).value, d)
  | .direct engine template params =>
    (.outcome (Engine.evaluate engine around template params).value, d)

/-- Performs operations one after the other. -/
def run (around : Surroundings) (d : Dispatcher ε) :
    List (Operation ε) → List (Answer ε) × Dispatcher ε
  | [] => ([], d)
  | operation :: rest =>
    let (answer, d) := d.step around operation
    let (answers, d) := run around d rest
    (answer :: answers, d)

end Dispatcher

end TemplateEngines
