/-
Histories of sessions. A history keeps every operation with the answer to it, and from it alone one
reads what is bound after the run: the last call that concerns a name decides its binding
(`lookup_eq_last_binding`), and engines that went in under a name have come out again or are still
bound to it (`registered_eq_returned_append_bound`). Both follow from what one operation does to
the registry (`step_effect`): it changes nothing, or it sets what one name is bound to and hands
back what the name was bound to before.
-/
import TemplateEngines.Engine.Builtin
import TemplateEngines.Engine.Session
import TemplateEngines.Proofs.Engine.Registry

namespace TemplateEngines.Dispatcher

variable {ε : Type} [Engine ε]

/-! ## Entries -/

/-- The name that a registration or a removal concerns. -/
def Operation.target? : Operation ε → Option String
  | .register name _ | .unregister name => some name
  | .registerOwn engine => some (Engine.name engine)
  | _ => none

/-- The engine that an operation is to put in; a registration under a blank name puts in none. -/
def Operation.registers? : Operation ε → Option ε
  | .register name engine => if Text.isBlankText name then none else some engine
  | .registerOwn engine => if Text.isBlankText (Engine.name engine) then none else some engine
  | _ => none

/-- An operation and the answer to it. -/
structure Entry (ε : Type) where
  operation : Operation ε
  answer : Answer ε

namespace Entry

/-- The engine that a successful registration has put in. -/
def registered? : Entry ε → Option ε
  | ⟨.register _ engine, .registered (.ok _)⟩ => some engine
  | ⟨.registerOwn engine, .registered (.ok _)⟩ => some engine
  | _ => none

/-- The engine that has been handed back, because it was replaced or removed. -/
def returned? : Entry ε → Option ε
  | ⟨.register _ _, .registered (.ok previous)⟩ => previous
  | ⟨.registerOwn _, .registered (.ok previous)⟩ => previous
  | ⟨.unregister _, .engine removed⟩ => removed
  | _ => none

/-- What the target is bound to from now on: the engine of a successful registration, and nothing
after a removal. Other entries set no binding. -/
def binding? : Entry ε → Option (Option ε)
  | ⟨.unregister _, _⟩ => some none
  | entry => entry.registered?.map some

end Entry

/-- The operations of a run, each with the answer to it. -/
def history (around : Surroundings) (d : Dispatcher ε) (operations : List (Operation ε)) :
    List (Entry ε) :=
  List.zipWith Entry.mk operations (d.run around operations).1

/-- The entries that concern a name. -/
def about (name : String) (entries : List (Entry ε)) : List (Entry ε) :=
  entries.filter fun entry => entry.operation.target? = some name

/-- What is read off an entry, if the entry concerns a name. -/
def Entry.at? {α : Type} (name : String) (read? : Entry ε → Option α) (entry : Entry ε) : Option α :=
  if entry.operation.target? = some name then read? entry else none

theorem filterMap_about {α : Type} (name : String) (read? : Entry ε → Option α)
    (entries : List (Entry ε)) :
    (about name entries).filterMap read? = entries.filterMap (Entry.at? name read?) := by
  rw [about, List.filterMap_filter]
  simp only [decide_eq_true_eq]
  rfl

/-! ## Steps -/

/-- What an entry says about the registry before and after it. -/
inductive Entry.Effect (entry : Entry ε) (r : Registry ε) : Registry ε → Prop where
  /-- Nothing is put in or handed back, and the registry stays as it is. -/
  | quiet (hbinding : entry.binding? = none) (hregistered : entry.registered? = none)
      (hreturned : entry.returned? = none) (hregisters : entry.operation.registers? = none) :
      Effect entry r r
  /-- The binding of the target is set, and what it was bound to is handed back. -/
  | sets {name : String} {binding : Option ε} (htarget : entry.operation.target? = some name)
      (hbinding : entry.binding? = some binding) (hregistered : entry.registered? = binding)
      (hreturned : entry.returned? = r.lookup name)
      (hregisters : entry.operation.registers? = binding) : Effect entry r (r.set name binding)

namespace Entry.Effect

variable {entry : Entry ε} {r r' : Registry ε}

/-- The lookups after an entry, from those before it. -/
theorem lookup_eq (h : entry.Effect r r') (name : String) :
    r'.lookup name = (entry.at? name binding?).getD (r.lookup name) := by
  cases h with
  | quiet hbinding => rw [at?, hbinding, ite_self, Option.getD_none]
  | @sets target binding htarget hbinding =>
    rw [Registry.lookup_set, at?, htarget, hbinding]
    by_cases heq : target = name
    · rw [if_pos heq, if_pos (congrArg some heq), Option.getD_some]
    · rw [if_neg heq, if_neg (mt Option.some.inj heq), Option.getD_none]

/-- The engines of a name are passed on: what is bound to it or put in under it is handed back or
bound to it afterwards. -/
theorem passes_on (h : entry.Effect r r') (name : String) :
    (r.lookup name).toList ++ (entry.at? name registered?).toList =
      (entry.at? name returned?).toList ++ (r'.lookup name).toList := by
  cases h with
  | quiet _ hregistered hreturned =>
    rw [at?, at?, hregistered, hreturned, ite_self]
    exact List.append_nil _
  | @sets target binding htarget _ hregistered hreturned =>
    rw [Registry.lookup_set, at?, at?, htarget, hregistered, hreturned]
    by_cases heq : target = name
    · rw [if_pos heq, if_pos (congrArg some heq), if_pos (congrArg some heq), heq]
    · rw [if_neg heq, if_neg (mt Option.some.inj heq), if_neg (mt Option.some.inj heq)]
      exact List.append_nil _

/-- The engines are counted: those there and put in are those handed back and there afterwards. -/
theorem size_eq (h : entry.Effect r r') :
    r.size + entry.registered?.toList.length = entry.returned?.toList.length + r'.size := by
  cases h with
  | quiet _ hregistered hreturned => rw [hregistered, hreturned, Nat.add_comm]
  | sets _ _ hregistered hreturned =>
    rw [hregistered, hreturned, ← Registry.size_set, Nat.add_comm]

/-- A registration is refused only if the name is blank. -/
theorem registered?_eq (h : entry.Effect r r') :
    entry.registered? = entry.operation.registers? := by
  cases h with
  | quiet _ hregistered _ hregisters => rw [hregistered, hregisters]
  | sets _ _ hregistered _ hregisters => rw [hregistered, hregisters]

end Entry.Effect

section Step

variable (around : Surroundings) (d : Dispatcher ε)

/-- The entry of an operation that is performed now. -/
def entry (operation : Operation ε) : Entry ε := ⟨operation, (d.step around operation).1⟩

/-- One operation sets at most one binding. -/
theorem step_effect (operation : Operation ε) :
    (d.entry around operation).Effect d.registry (d.step around operation).2.registry := by
  cases operation with
  -- A blank name is refused before the registry is touched; any other takes the engine.
  | register name engine =>
    by_cases hblank : Text.isBlankText name
    · simp only [entry, step, Dispatcher.register, d.registry.register_of_blank engine hblank]
      exact .quiet rfl rfl rfl (if_pos hblank)
    · simp only [entry, step, Dispatcher.register, d.registry.register_of_not_blank engine hblank]
      exact .sets rfl rfl rfl rfl (if_neg hblank)
  | registerOwn engine =>
    by_cases hblank : Text.isBlankText (Engine.name engine)
    · simp only [entry, step, Dispatcher.register, d.registry.register_of_blank engine hblank]
      exact .quiet rfl rfl rfl (if_pos hblank)
    · simp only [entry, step, Dispatcher.register, d.registry.register_of_not_blank engine hblank]
      exact .sets rfl rfl rfl rfl (if_neg hblank)
  | unregister name => exact .sets rfl rfl rfl rfl rfl
  | setDefault | lookup | contains | names | size | evaluate | evaluateOrRaw | direct =>
    exact .quiet rfl rfl rfl rfl

end Step

/-! ## Runs -/

section Run

variable (around : Surroundings) (d : Dispatcher ε)

theorem history_cons (operation : Operation ε) (rest : List (Operation ε)) :
    d.history around (operation :: rest) =
      d.entry around operation :: (d.step around operation).2.history around rest := rfl

theorem run_cons (operation : Operation ε) (rest : List (Operation ε)) :
    (d.run around (operation :: rest)).2 = ((d.step around operation).2.run around rest).2 := rfl

theorem run_cons_eq (operation : Operation ε) (rest : List (Operation ε)) :
    d.run around (operation :: rest) =
      ((d.step around operation).1 :: ((d.step around operation).2.run around rest).1,
        ((d.step around operation).2.run around rest).2) := rfl

/-- Every entry of a history belongs to a step. -/
theorem mem_history {e : Entry ε} {operations : List (Operation ε)}
    (h : e ∈ d.history around operations) :
    ∃ (d' : Dispatcher ε) (operation : Operation ε), e = d'.entry around operation := by
  induction operations generalizing d with
  | nil => cases h
  | cons operation rest ih =>
    rw [history_cons] at h
    rcases List.mem_cons.1 h with rfl | h
    · exact ⟨d, operation, rfl⟩
    · exact ih _ h

/-- If every operation sets a part of the state or leaves it alone, the part is in the end what the
last operation that sets it has made of it. -/
theorem view_run {α : Type} (view : Dispatcher ε → α) (effect? : Entry ε → Option α)
    (hstep : ∀ d operation, view (d.step around operation).2 =
      (effect? (d.entry around operation)).getD (view d)) (operations : List (Operation ε)) :
    view (d.run around operations).2 =
      ((d.history around operations).filterMap effect?).getLast?.getD (view d) := by
  induction operations generalizing d with
  | nil => rfl
  | cons operation rest ih =>
    rw [run_cons, ih, hstep, history_cons]
    cases heffect : effect? (d.entry around operation) with
    | none => rw [List.filterMap_cons_none heffect, Option.getD_none]
    | some a =>
      rw [List.filterMap_cons_some heffect, List.getLast?_cons, Option.getD_some, Option.getD_some]

theorem lookup_run (name : String) (operations : List (Operation ε)) :
    (d.run around operations).2.registry.lookup name =
      ((about name (d.history around operations)).filterMap Entry.binding?).getLast?.getD
        (d.registry.lookup name) := by
  rw [filterMap_about]
  exact d.view_run around (fun d => d.registry.lookup name) _
    (fun d operation => (d.step_effect around operation).lookup_eq name) operations

theorem toList_filterMap_cons {α β : Type} (f : α → Option β) (a : α) (rest : List α) :
    (a :: rest).filterMap f = (f a).toList ++ rest.filterMap f := by
  rw [List.filterMap_eq_flatMap_toList, List.flatMap_cons, ← List.filterMap_eq_flatMap_toList]

theorem passes_run (name : String) (operations : List (Operation ε)) :
    (d.registry.lookup name).toList ++
        (about name (d.history around operations)).filterMap Entry.registered? =
      (about name (d.history around operations)).filterMap Entry.returned? ++
        ((d.run around operations).2.registry.lookup name).toList := by
  rw [filterMap_about, filterMap_about]
  induction operations generalizing d with
  | nil => exact List.append_nil _
  | cons operation rest ih =>
    -- What the first operation hands back stands in front; the engine bound after it is passed on.
    rw [history_cons, run_cons, toList_filterMap_cons, toList_filterMap_cons, ← List.append_assoc,
      (d.step_effect around operation).passes_on name, List.append_assoc, ih, List.append_assoc]

theorem size_run (operations : List (Operation ε)) :
    d.registry.size + ((d.history around operations).filterMap Entry.registered?).length =
      ((d.history around operations).filterMap Entry.returned?).length +
        (d.run around operations).2.registry.size := by
  induction operations generalizing d with
  | nil => exact Nat.add_comm _ _
  | cons operation rest ih =>
    rw [history_cons, run_cons, toList_filterMap_cons, toList_filterMap_cons, List.length_append,
      List.length_append, ← Nat.add_assoc, (d.step_effect around operation).size_eq, Nat.add_assoc,
      ih, Nat.add_assoc]

end Run

/-! ## Laws of histories -/

/-- After any run from any state, a name is bound to what the last call that concerns it has bound it
to: the engine of a successful registration, and nothing after a removal. Without such a call it is
bound as before the run. Registrations succeed unless the name is blank, and the observers say the
same as the lookups. -/
theorem lookup_eq_last_binding (around : Surroundings) (d : Dispatcher ε)
    (operations : List (Operation ε)) :
    let entries := d.history around operations
    let reached := (d.run around operations).2.registry
    (∀ name, reached.lookup name =
      ((about name entries).filterMap Entry.binding?).getLast?.getD (d.registry.lookup name)) ∧
    (∀ entry ∈ entries, entry.registered? = entry.operation.registers?) ∧
    reached.Observed := by
  intro entries reached
  refine ⟨fun name => d.lookup_run around name operations, fun entry hentry => ?_, reached.observed⟩
  obtain ⟨d', operation, rfl⟩ := d.mem_history around hentry
  exact (d'.step_effect around operation).registered?_eq

/-- No engine is lost or handed back twice. In a run from an empty registry the engines handed back
for a name, and then the one that is bound to it, are the engines registered under the name, in the
order of the calls. So there are as many successful registrations as names in the end and engines
handed back. -/
theorem registered_eq_returned_append_bound (around : Surroundings) (default : Option String)
    (operations : List (Operation ε)) :
    let start : Dispatcher ε := ⟨{}, default⟩
    let entries := start.history around operations
    let reached := (start.run around operations).2.registry
    (∀ name, (about name entries).filterMap Entry.returned? ++ (reached.lookup name).toList =
      (about name entries).filterMap Entry.registered?) ∧
    (entries.filterMap Entry.registered?).length =
      reached.size + (entries.filterMap Entry.returned?).length := by
  intro start entries reached
  refine ⟨fun name => (start.passes_run around name operations).symm, ?_⟩
  have h := start.size_run around operations
  rwa [show start.registry.size = 0 from rfl, Nat.zero_add, Nat.add_comm] at h

/-- The engine that is replaced comes back first, then the one that is removed; the other names and
the refused registration play no part. -/
example :
    (about "x" (history .bare (⟨{}, none⟩ : Dispatcher Builtin)
      [.register "x" .passthrough, .registerOwn .passthrough, .register " " .passthrough,
        .register "x" (.substitution true), .unregister "x",
        .register "x" .passthrough])).filterMap Entry.returned? =
      [.passthrough, .substitution true] := by
  decide

end TemplateEngines.Dispatcher
