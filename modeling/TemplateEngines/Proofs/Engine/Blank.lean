/-
Blank names. A registration under a name that is empty or made of white space only is refused, so
in every state that a session reaches no such name is bound (`noBlank_run`). A dispatcher does not
look at white space when it resolves a request; it takes a name as it is, or else the default. A
request that resolves to a blank name therefore fails, and the error has that very name
(`evaluate_blank`).
-/
import TemplateEngines.Proofs.Engine.Builtin
import TemplateEngines.Proofs.Engine.Dispatch

namespace TemplateEngines

namespace Registry

variable {ε : Type} {r : Registry ε}

/-- No blank name is bound. -/
def NoBlank (r : Registry ε) : Prop := ∀ name, Text.isBlankText name → r.lookup name = none

theorem noBlank_empty : ({} : Registry ε).NoBlank := fun _ _ => rfl

/-- Nothing is bound to a blank name as long as no engine is put in under one. -/
theorem NoBlank.set (h : r.NoBlank) {name : String} {binding : Option ε}
    (hbinding : Text.isBlankText name → binding = none) : (r.set name binding).NoBlank := by
  intro n hn
  rw [lookup_set]
  split
  · rename_i heq
    exact hbinding (heq ▸ hn)
  · exact h n hn

theorem NoBlank.register (h : r.NoBlank) (name : String) (engine : ε) :
    (r.register name engine).2.NoBlank := by
  by_cases hblank : Text.isBlankText name
  · rw [register_of_blank r engine hblank]
    exact h
  · rw [register_of_not_blank r engine hblank]
    exact h.set (absurd · hblank)

/-- Engines with blank names of their own are left out. -/
theorem NoBlank.registerAll [Engine ε] (h : r.NoBlank) (engines : List ε) :
    (r.registerAll engines).value.NoBlank := by
  induction engines generalizing r with
  | nil => exact h
  | cons engine rest ih =>
    rw [value_registerAll_cons]
    exact ih (h.register _ engine)

end Registry

namespace Dispatcher

variable {ε : Type} [Engine ε]

/-! ## Steps and runs -/

theorem registers?_of_blank {operation : Operation ε} {name : String}
    (htarget : operation.target? = some name) (hblank : Text.isBlankText name) :
    operation.registers? = none := by
  cases operation with
  | register | registerOwn =>
    obtain rfl := Option.some.inj htarget
    exact if_pos hblank
  | _ => rfl

/-- No operation binds a blank name. -/
theorem noBlank_step (around : Surroundings) (d : Dispatcher ε) (operation : Operation ε)
    (h : d.registry.NoBlank) : (d.step around operation).2.registry.NoBlank := by
  have heffect := d.step_effect around operation
  generalize (d.step around operation).2.registry = reached at heffect ⊢
  cases heffect with
  | quiet => exact h
  | sets htarget _ _ _ hregisters =>
    refine h.set fun hblank => ?_
    rw [← hregisters]
    exact registers?_of_blank htarget hblank

theorem noBlank_run (around : Surroundings) (d : Dispatcher ε) (operations : List (Operation ε))
    (h : d.registry.NoBlank) : (d.run around operations).2.registry.NoBlank := by
  induction operations generalizing d with
  | nil => exact h
  | cons operation rest ih =>
    rw [run_cons]
    exact ih _ (d.noBlank_step around operation h)

/-! ## Requests -/

/-- A request that resolves to a blank name fails with this name. -/
theorem value_evaluate_of_blank {d : Dispatcher ε} (h : d.registry.NoBlank) (around : Surroundings)
    {requested : Option String} (hblank : Text.isBlankText (d.resolve requested))
    (template : Option String) (params : Option Params) :
    (d.evaluate around requested template params).value =
      .error (.unknownEngine (d.resolve requested)) := by
  rw [value_evaluate, h _ hblank]

/-- Blank names never resolve. Whatever is registered and removed, starting from the empty registry
or from one of any engines under their own names, such as the built-in ones, no bound name is blank.
So a request without a name fails if there is no default engine or its name is blank, and a request
for a blank name that is not empty fails whatever the default is. The error has the name that was
resolved, as it is written. -/
theorem evaluate_blank (before around : Surroundings) (engines : List ε)
    (operations : List (Operation ε)) (template : Option String) (params : Option Params) :
    let start : Dispatcher ε := ⟨(Registry.registerAll {} engines).value, none⟩
    let reached := (start.run before operations).2.registry
    (∀ name, (reached.lookup name).isSome → ¬ Text.isBlankText name) ∧
    ∀ default : Option String,
      let d : Dispatcher ε := ⟨reached, default⟩
      (∀ requested ∈ [none, some ""], (∀ name ∈ default, Text.isBlankText name) →
        (d.evaluate around requested template params).value =
          .error (.unknownEngine (default.getD ""))) ∧
      ∀ name, name ≠ "" → Text.isBlankText name →
        (d.evaluate around (some name) template params).value = .error (.unknownEngine name) := by
  intro start reached
  have hreached : reached.NoBlank :=
    start.noBlank_run before operations (Registry.noBlank_empty.registerAll engines)
  refine ⟨fun name hbound hblank => ?_, fun default => ⟨?_, fun name hne hblank => ?_⟩⟩
  · rw [hreached name hblank] at hbound
    cases hbound
  · intro requested hrequested hdefault
    -- Both ways of giving no name leave the default, and the empty name where there is none.
    have hresolve : (⟨reached, default⟩ : Dispatcher ε).resolve requested = default.getD "" := by
      rcases List.mem_pair.1 hrequested with rfl | rfl <;> rfl
    have hblank : Text.isBlankText (default.getD "") := by
      cases default with
      | none => rfl
      | some name => exact hdefault name rfl
    have h := value_evaluate_of_blank (d := ⟨reached, default⟩) hreached around
      (hresolve ▸ hblank) template params
    rwa [hresolve] at h
  · have hresolve : (⟨reached, default⟩ : Dispatcher ε).resolve (some name) = name := by
      rw [resolve_eq, Option.filter_some_pos (by simpa using hne)]
      rfl
    have h := value_evaluate_of_blank (d := ⟨reached, default⟩) hreached around
      (hresolve ▸ hblank) template params
    rwa [hresolve] at h

/-- After a registration under two blanks was refused and an engine was put in under a name that
only starts with a blank, a request for the two blanks fails although there is a default engine, and
so does a request without a name if the default is a wide space. -/
theorem evaluate_blank_spaces :
    let around : Surroundings := .bare
    let start : Dispatcher Builtin := ⟨(Builtin.registry true false).value, none⟩
    let reached := (start.run around
      [.register "  " .passthrough, .register " x" .passthrough]).2.registry
    ((reached.lookup " x").isSome → ¬ Text.isBlankText " x") ∧
    (evaluate ⟨reached, some "\u3000"⟩ around (some "") (some "text") none).value =
      .error (.unknownEngine "\u3000") ∧
    (evaluate ⟨reached, some "passthrough"⟩ around (some "  ") (some "text") none).value =
      .error (.unknownEngine "  ") := by
  intro around start reached
  obtain ⟨hbound, hrequest⟩ := evaluate_blank around around (Builtin.all true false)
    [.register "  " .passthrough, .register " x" .passthrough] (some "text") none
  refine ⟨hbound " x", ?_, ?_⟩
  · exact (hrequest (some "\u3000")).1 (some "") (by decide) (by decide)
  · exact (hrequest (some "passthrough")).2 "  " (by decide) (by decide)

end Dispatcher

end TemplateEngines
