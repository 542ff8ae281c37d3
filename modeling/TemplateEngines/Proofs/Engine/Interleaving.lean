/-
Runs in which the calls for different names are interleaved in different ways. What happens to a
name depends only on the calls that concern it: performed alone they get the same answers
(`about_history`). So two runs that make the same calls for every name, in the same order, answer
every one of them alike and leave the same registry behind (`run_interleaved`).
-/
import TemplateEngines.Proofs.Engine.History

namespace TemplateEngines.Dispatcher

variable {ε : Type} [Engine ε]

/-- The registrations and removals that concern a name, in order. -/
def concerning (name : String) (operations : List (Operation ε)) : List (Operation ε) :=
  operations.filter fun operation => operation.target? = some name

/-! ## One name -/

section Name

variable {around around' : Surroundings} {d d' : Dispatcher ε} {operation : Operation ε}
  {name : String}

theorem concerning_cons_pos (h : operation.target? = some name) (rest : List (Operation ε)) :
    concerning name (operation :: rest) = operation :: concerning name rest :=
  List.filter_cons_of_pos (decide_eq_true h)

theorem concerning_cons_neg (h : operation.target? ≠ some name) (rest : List (Operation ε)) :
    concerning name (operation :: rest) = concerning name rest :=
  List.filter_cons_of_neg (mt of_decide_eq_true h)

theorem about_cons_pos (h : operation.target? = some name) (entries : List (Entry ε)) :
    about name (d.entry around operation :: entries) =
      d.entry around operation :: about name entries :=
  List.filter_cons_of_pos (decide_eq_true h)

theorem about_cons_neg (h : operation.target? ≠ some name) (entries : List (Entry ε)) :
    about name (d.entry around operation :: entries) = about name entries :=
  List.filter_cons_of_neg (mt of_decide_eq_true h)

/-- A call that concerns another name leaves the binding alone. -/
theorem lookup_step_of_ne (h : operation.target? ≠ some name) :
    (d.step around operation).2.registry.lookup name = d.registry.lookup name := by
  have hat : (d.entry around operation).at? name Entry.binding? = none := if_neg h
  rw [(d.step_effect around operation).lookup_eq name, hat, Option.getD_none]

/-- The answer to a call depends only on what its name is bound to. -/
theorem entry_congr (hlookup : d.registry.lookup name = d'.registry.lookup name)
    (htarget : operation.target? = some name) :
    d.entry around operation = d'.entry around' operation := by
  cases operation with
  | register n engine =>
    obtain rfl : n = name := Option.some.inj htarget
    exact congrArg (Entry.mk _) (congrArg Answer.registered (Registry.register_congr hlookup engine))
  | registerOwn engine =>
    obtain rfl : Engine.name engine = name := Option.some.inj htarget
    exact congrArg (Entry.mk _) (congrArg Answer.registered (Registry.register_congr hlookup engine))
  | unregister n =>
    obtain rfl : n = name := Option.some.inj htarget
    exact congrArg (Entry.mk _) (congrArg Answer.engine hlookup)
  | setDefault | lookup | contains | names | size | evaluate | evaluateOrRaw | direct =>
    cases htarget

/-- The binding after a call depends only on the binding before it. -/
theorem lookup_step_congr (hlookup : d.registry.lookup name = d'.registry.lookup name)
    (htarget : operation.target? = some name) :
    (d.step around operation).2.registry.lookup name =
      (d'.step around' operation).2.registry.lookup name := by
  rw [(d.step_effect around operation).lookup_eq name,
    (d'.step_effect around' operation).lookup_eq name, hlookup, entry_congr hlookup htarget]

/-- The entries that concern a name are those of a run that performs only the calls for this name,
from any state in which it is bound alike. -/
theorem about_history (around around' : Surroundings)
    (hlookup : d.registry.lookup name = d'.registry.lookup name) (operations : List (Operation ε)) :
    about name (d.history around operations) =
      d'.history around' (concerning name operations) := by
  induction operations generalizing d d' with
  | nil => rfl
  | cons operation rest ih =>
    rw [history_cons]
    by_cases htarget : operation.target? = some name
    · rw [about_cons_pos htarget, concerning_cons_pos htarget, history_cons,
        ih (lookup_step_congr hlookup htarget), entry_congr hlookup htarget]
    · -- The other run does not make this call, so only the first state changes.
      rw [about_cons_neg htarget, concerning_cons_neg htarget,
        ih ((lookup_step_of_ne htarget).trans hlookup)]

end Name

/-! ## All names -/

/-- Interleaving makes no difference. If two runs from the same state make the same registrations
and removals for every single name, in the same order for this name, then each of these calls has the
same answer in both runs, and the registries that they leave behind agree in all lookups, in the
names and in the size. What else is asked in between plays no part. -/
theorem run_interleaved (around around' : Surroundings) (d : Dispatcher ε)
    {operations operations' : List (Operation ε)}
    (h : ∀ name, concerning name operations = concerning name operations') :
    let reached := (d.run around operations).2.registry
    let reached' := (d.run around' operations').2.registry
    (∀ name, about name (d.history around operations) =
      about name (d.history around' operations')) ∧
    (∀ name, reached.lookup name = reached'.lookup name) ∧
    reached.names = reached'.names ∧ reached.size = reached'.size := by
  intro reached reached'
  have hentries : ∀ name, about name (d.history around operations) =
      about name (d.history around' operations') := by
    intro name
    rw [about_history around around rfl, about_history around' around rfl, h name]
  have hlookup : ∀ name, reached.lookup name = reached'.lookup name := by
    intro name
    rw [d.lookup_run around, d.lookup_run around', hentries name]
  have hreached : reached = reached' := Registry.ext_lookup hlookup
  exact ⟨hentries, hlookup, congrArg _ hreached, congrArg _ hreached⟩

/-- Two names, one of them replaced and removed, and a refused name between them. -/
theorem run_interleaved_two :
    let operations : List (Operation Builtin) :=
      [.register "x" .passthrough, .register "x" (.substitution true), .unregister "x",
        .register " " .passthrough, .register "y" .passthrough]
    let operations' : List (Operation Builtin) :=
      [.register " " .passthrough, .register "x" .passthrough, .register "y" .passthrough,
        .register "x" (.substitution true), .unregister "x"]
    let d : Dispatcher Builtin := ⟨{}, none⟩
    let around : Surroundings := .bare
    (∀ name, concerning name operations = concerning name operations') ∧
    (∀ name, about name (d.history around operations) =
      about name (d.history around operations')) ∧
    (d.run around operations').2.registry.names = ["y"] := by
  intro operations operations' d around
  have h : ∀ name, concerning name operations = concerning name operations' := by
    intro name
    by_cases hx : "x" = name
    · subst hx
      rfl
    · by_cases hy : "y" = name <;>
        simp [concerning, operations, operations', List.filter_cons, Operation.target?, hx, hy]
  obtain ⟨hentries, -, hnames, -⟩ := run_interleaved around around d h
  have hlast : (d.run around operations).2.registry.names = ["y"] := by decide
  exact ⟨h, hentries, hnames ▸ hlast⟩

end TemplateEngines.Dispatcher
