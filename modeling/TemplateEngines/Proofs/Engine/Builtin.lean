/-
The built-in engines. Their registry binds exactly their three names, each to the engine with the
strictness that was asked for it (`lookup_registry`, `names_registry`), and none of them ever breaks
down (`evaluate_eq_ofExcept`).
-/
import TemplateEngines.Engine.Builtin
import TemplateEngines.Proofs.Engine.Registry
import TemplateEngines.Proofs.Substitution.Scan

namespace TemplateEngines

namespace Registry

variable {ε : Type} [Engine ε]

theorem value_registerAll_cons (r : Registry ε) (engine : ε) (rest : List ε) :
    (r.registerAll (engine :: rest)).value =
      ((r.register (Engine.name engine) engine).2.registerAll rest).value := by
  rw [registerAll]
  rcases r.register (Engine.name engine) engine with ⟨_ | _, _⟩ <;> rfl

/-- Of several engines with one name the last is bound to it. -/
theorem lookup_registerAll (r : Registry ε) {engines : List ε}
    (h : ∀ engine ∈ engines, ¬ Text.isBlankText (Engine.name engine)) (name : String) :
    (r.registerAll engines).value.lookup name =
      (engines.reverse.find? fun engine => Engine.name engine = name).or (r.lookup name) := by
  induction engines generalizing r with
  | nil => rfl
  | cons engine rest ih =>
    rw [value_registerAll_cons, r.register_of_not_blank engine (h engine List.mem_cons_self),
      ih _ fun e he => h e (List.mem_cons_of_mem _ he), lookup_set, List.reverse_cons,
      List.find?_append, Option.or_assoc]
    by_cases hname : Engine.name engine = name <;> simp [hname]

end Registry

namespace Builtin

/-- The built-in engine of a name, with the strictness that is asked for it. -/
def ofName? (strictSubstitution strictHandlebars : Bool) (name : String) : Option Builtin :=
  if name = "passthrough" then some .passthrough
  else if name = "substitution" then some (.substitution strictSubstitution)
  else if name = "handlebars" then some (.handlebars strictHandlebars)
  else none

theorem name_not_blank (engine : Builtin) : ¬ Text.isBlankText (Engine.name engine) := by
  have hnames : ∀ name ∈ [Passthrough.name, Substitution.name, Handlebars.name],
      ¬ Text.isBlankText name := by decide
  apply hnames
  cases engine <;> simp [Engine.name, Builtin.name]

theorem lookup_registry (strictSubstitution strictHandlebars : Bool) (name : String) :
    (registry strictSubstitution strictHandlebars).value.lookup name =
      ofName? strictSubstitution strictHandlebars name := by
  rw [registry, Registry.lookup_registerAll _ fun engine _ => name_not_blank engine,
    show ({} : Registry Builtin).lookup name = none from rfl, Option.or_none, ofName?]
  -- The names differ, so it does not matter in which order they are tried.
  by_cases hpassthrough : name = "passthrough"
  · subst hpassthrough
    rfl
  by_cases hsubstitution : name = "substitution"
  · subst hsubstitution
    rfl
  by_cases hhandlebars : name = "handlebars"
  · subst hhandlebars
    rfl
  · rw [if_neg hpassthrough, if_neg hsubstitution, if_neg hhandlebars, List.find?_eq_none]
    intro engine _ hname
    have hname : Engine.name engine = name := of_decide_eq_true hname
    cases engine with
    | passthrough => exact hpassthrough hname.symm
    | substitution => exact hsubstitution hname.symm
    | handlebars => exact hhandlebars hname.symm

theorem names_registry (strictSubstitution strictHandlebars : Bool) :
    (registry strictSubstitution strictHandlebars).value.names =
      ["handlebars", "passthrough", "substitution"] := by
  cases strictSubstitution <;> cases strictHandlebars <;> decide +kernel

/-- The engine of a name has this name. -/
theorem name_of_ofName? {strictSubstitution strictHandlebars : Bool} {name : String}
    {engine : Builtin} (h : ofName? strictSubstitution strictHandlebars name = some engine) :
    Engine.name engine = name := by
  unfold ofName? at h
  split_ifs at h with hpassthrough hsubstitution hhandlebars
  · obtain rfl := Option.some.inj h
    exact hpassthrough.symm
  · obtain rfl := Option.some.inj h
    exact hsubstitution.symm
  · obtain rfl := Option.some.inj h
    exact hhandlebars.symm

/-- Only Handlebars templates can read the surroundings. -/
theorem value_evaluate_congr {engine : Builtin} (h : Engine.name engine ≠ "handlebars")
    (around around' : Surroundings) (template : Option String) (params : Option Params) :
    (Engine.evaluate engine around template params).value =
      (Engine.evaluate engine around' template params).value := by
  cases engine with
  | passthrough | substitution => rfl
  | handlebars => exact absurd rfl h

/-- A built-in engine gives a value or a failure, whatever it is asked. -/
theorem evaluate_eq_ofExcept (engine : Builtin) (around : Surroundings) (template : Option String)
    (params : Option Params) :
    ∃ result, (Engine.evaluate engine around template params).value = Outcome.ofExcept result := by
  cases engine with
  | passthrough => exact ⟨.ok _, rfl⟩
  | handlebars strict => exact ⟨_, rfl⟩
  | substitution strict =>
    cases template with
    | none => exact ⟨.ok .null, rfl⟩
    | some text =>
      have h := Substitution.evaluate_some strict text params
      cases hmeaning : Substitution.meaning strict (params.getD [])
          (Substitution.tokens 0 text.toList) with
      | ok s => exact ⟨.ok (.string ("" ++ s)), by rw [hmeaning] at h; exact h⟩
      | error e => exact ⟨.error e, by rw [hmeaning] at h; exact h⟩

end Builtin

end TemplateEngines
