/-
Dispatching against direct calls. In every state that a session can reach, a request is answered by
the engine that the history of the session has left under its name, and the answer is that of a
direct call with every failure and panic wrapped (`evaluate_eq_direct`).
-/
import TemplateEngines.Proofs.Engine.History

namespace TemplateEngines.Dispatcher

variable {ε : Type}

/-! ## Names -/

/-- The default engine that the entry has chosen; the empty name chooses none. -/
def Entry.chosen? : Entry ε → Option (Option String)
  | ⟨.setDefault name, _⟩ => some (if name = "" then none else some name)
  | _ => none

/-- A request is for the name that it gives, unless that is empty, and otherwise for the default. -/
theorem resolve_eq (d : Dispatcher ε) (requested : Option String) :
    d.resolve requested = ((requested.filter (· ≠ "")).or d.defaultEngine).getD "" := by
  cases requested with
  | none => rfl
  | some name =>
    by_cases h : name = ""
    · subst h
      rfl
    · have hempty : name.isEmpty = false := by simpa using h
      rw [resolve, hempty, Option.filter_some_pos (by simpa using h)]
      rfl

variable [Engine ε]

theorem defaultEngine_step (around : Surroundings) (d : Dispatcher ε) (operation : Operation ε) :
    (d.step around operation).2.defaultEngine =
      (d.entry around operation).chosen?.getD d.defaultEngine := by
  cases operation with
  | setDefault name =>
    by_cases h : name = ""
    · subst h
      rfl
    · have hempty : name.isEmpty = false := by simpa using h
      simp only [step, withDefault, entry, Entry.chosen?, hempty, if_neg h]
      rfl
  | _ => rfl

theorem defaultEngine_run (around : Surroundings) (d : Dispatcher ε)
    (operations : List (Operation ε)) :
    (d.run around operations).2.defaultEngine =
      ((d.history around operations).filterMap Entry.chosen?).getLast?.getD d.defaultEngine :=
  d.view_run around defaultEngine Entry.chosen? (defaultEngine_step around) operations

/-! ## Answers -/

section Answers

variable (d : Dispatcher ε) (around : Surroundings) (requested template : Option String)
  (params : Option Params)

theorem value_evaluate :
    (d.evaluate around requested template params).value =
      match d.registry.lookup (d.resolve requested) with
      | none => .error (.unknownEngine (d.resolve requested))
      | some engine =>
        answer (d.resolve requested) (Engine.evaluate engine around template params).value := by
  simp only [evaluate]
  cases d.registry.lookup (d.resolve requested) <;> rfl

theorem value_evaluateOrRaw :
    (d.evaluateOrRaw around requested template params).value =
      match (d.evaluate around requested template params).value with
      | .ok .null => none
      | .ok v => some v.valueText
      | .error _ => template := by
  unfold evaluateOrRaw
  rw [Logged.value_bind]
  cases (d.evaluate around requested template params).value with
  | error e => rfl
  | ok v => cases v <;> rfl

end Answers

/-- In every state that a session reaches, dispatching a request is calling an engine directly. The
request stands for the name that it gives, or else for the default chosen last, and the engine is
the one that the last call concerning this name has left. The answer is the engine's value, or its
failure or panic under this name. The text for display follows from the answer. -/
theorem evaluate_eq_direct (before around : Surroundings) (d : Dispatcher ε)
    (operations : List (Operation ε)) (requested template : Option String)
    (params : Option Params) :
    let entries := d.history before operations
    let reached := (d.run before operations).2
    let default := (entries.filterMap Entry.chosen?).getLast?.getD d.defaultEngine
    let name := ((requested.filter (· ≠ "")).or default).getD ""
    let bound :=
      ((about name entries).filterMap Entry.binding?).getLast?.getD (d.registry.lookup name)
    let result := (reached.evaluate around requested template params).value
    (result =
      match bound with
      | none => .error (.unknownEngine name)
      | some engine =>
        match (Engine.evaluate engine around template params).value with
        | .value v => .ok v
        | .failure cause => .error (.evaluation name cause)
        | .panic message => .error (.evaluation name (.panicked (message.getD "unknown panic")))) ∧
    (reached.evaluateOrRaw around requested template params).value =
      match result with
      | .ok .null => none
      | .ok v => some v.valueText
      | .error _ => template := by
  intro entries reached default name bound result
  have hname : reached.resolve requested = name := by
    rw [resolve_eq, defaultEngine_run]
  have hbound : reached.registry.lookup name = bound := d.lookup_run before name operations
  refine ⟨?_, reached.value_evaluateOrRaw around requested template params⟩
  -- The dispatcher looks its own name up in its own registry; the history knows both.
  have hresult := reached.value_evaluate around requested template params
  rw [hname, hbound] at hresult
  rw [show result = _ from hresult]
  cases bound with
  | none => rfl
  | some engine => cases (Engine.evaluate engine around template params).value <;> rfl

end TemplateEngines.Dispatcher
