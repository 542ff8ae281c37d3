/-
Operations that leave no trace. Whoever looks something up, observes the registry or evaluates a
template changes nothing, however the evaluation ends; nor does a registration that is refused or a
removal that finds nothing. If all of these are deleted from a run, the other operations are answered
as before and the run ends in the same state (`run_lasting`).
-/
import TemplateEngines.Proofs.Engine.History

namespace TemplateEngines.Dispatcher

variable {ε : Type}

/-! ## Entries -/

/-- The name of a registration was refused. -/
def Answer.isRefusal : Answer ε → Bool
  | .registered (.error (.invalidName _)) => true
  | _ => false

/-- The operation only asks, or it is a registration that was refused or a removal that found
nothing. -/
def Entry.isTraceless : Entry ε → Bool
  | ⟨.register .., answer⟩ | ⟨.registerOwn _, answer⟩ => answer.isRefusal
  | ⟨.unregister _, .engine removed⟩ => removed.isNone
  | ⟨.unregister _, _⟩ | ⟨.setDefault _, _⟩ => false
  | ⟨.lookup _, _⟩ | ⟨.contains _, _⟩ | ⟨.names, _⟩ | ⟨.size, _⟩ => true
  | ⟨.evaluate .., _⟩ | ⟨.evaluateOrRaw .., _⟩ | ⟨.direct .., _⟩ => true

/-- The entries that are left when those without a trace are deleted. -/
def lasting (entries : List (Entry ε)) : List (Entry ε) :=
  entries.filter fun entry => !entry.isTraceless

theorem lasting_cons_of_traceless {entry : Entry ε} (h : entry.isTraceless)
    (rest : List (Entry ε)) : lasting (entry :: rest) = lasting rest :=
  List.filter_cons_of_neg (by simp [h])

theorem lasting_cons_of_not_traceless {entry : Entry ε} (h : ¬ entry.isTraceless)
    (rest : List (Entry ε)) : lasting (entry :: rest) = entry :: lasting rest :=
  List.filter_cons_of_pos (by simp [h])

/-! ## Steps -/

variable {d : Dispatcher ε}

/-- A registration that is refused leaves everything as it was. -/
theorem register_of_refusal {name : String} {engine : ε}
    (h : (Answer.registered (d.register name engine).1).isRefusal) :
    (d.register name engine).2 = d := by
  by_cases hblank : Text.isBlankText name
  · rw [Dispatcher.register, d.registry.register_of_blank engine hblank]
  · rw [Dispatcher.register, d.registry.register_of_not_blank engine hblank] at h
    cases h

variable [Engine ε] {around around' : Surroundings} {operation : Operation ε}

/-- An operation whose entry has no trace leaves everything as it was. -/
theorem step_of_traceless (h : (d.entry around operation).isTraceless) :
    (d.step around operation).2 = d := by
  cases operation with
  | register name engine => exact register_of_refusal h
  | registerOwn engine => exact register_of_refusal h
  | unregister name =>
    -- The removal binds the name to what it is bound to, which is nothing.
    have hnone : d.registry.lookup name = none := Option.isNone_iff_eq_none.1 h
    have hset := d.registry.set_lookup name
    rw [hnone] at hset
    exact congrArg (fun registry => { d with registry }) hset
  | setDefault => cases h
  | lookup | contains | names | size | evaluate | evaluateOrRaw | direct => rfl

/-- An operation whose entry has a trace does not look at the surroundings. -/
theorem step_of_not_traceless (h : ¬ (d.entry around operation).isTraceless) :
    d.step around' operation = d.step around operation := by
  cases operation with
  | register | registerOwn | unregister | setDefault => rfl
  | lookup | contains | names | size | evaluate | evaluateOrRaw | direct => exact absurd rfl h

/-! ## Runs -/

/-- Reading, evaluating and being refused leave no trace. If all operations that only ask, all
refused registrations and all removals of names that are not bound are deleted from a run, then the
remaining operations, even in other surroundings, have the same answers as before, and the run ends
with the same registry and the same default engine. -/
theorem run_lasting (around around' : Surroundings) (d : Dispatcher ε)
    (operations : List (Operation ε)) :
    let entries := lasting (d.history around operations)
    d.run around' (entries.map (·.operation)) =
      (entries.map (·.answer), (d.run around operations).2) := by
  intro entries
  induction operations generalizing d with
  | nil => rfl
  | cons operation rest ih =>
    have ih := ih (d.step around operation).2
    rw [run_cons]
    by_cases h : (d.entry around operation).isTraceless
    · have hentries : entries = lasting ((d.step around operation).2.history around rest) :=
        lasting_cons_of_traceless h _
      rw [hentries, step_of_traceless h]
      rwa [step_of_traceless h] at ih
    · have hentries : entries = d.entry around operation ::
          lasting ((d.step around operation).2.history around rest) :=
        lasting_cons_of_not_traceless h _
      have hoperation : (d.entry around operation).operation = operation := rfl
      rw [hentries, List.map_cons, List.map_cons, hoperation, run_cons_eq,
        step_of_not_traceless h, ih]
      rfl

end TemplateEngines.Dispatcher
