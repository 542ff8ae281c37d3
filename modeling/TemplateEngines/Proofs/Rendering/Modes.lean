/-
Strict against lenient rendering. Whether a request is strict makes no difference to what is read
and which engine is asked. It decides only what a failing engine leads to: an error that names the
engine, or the template as it is (`render_strict_lenient`).
-/
import TemplateEngines.Proofs.Engine.Builtin
import TemplateEngines.Proofs.Engine.Dispatch
import TemplateEngines.Rendering

namespace TemplateEngines

/-! ## The dispatcher of a configuration -/

namespace Config

/-- The built-in engine of a name, as strict as the configuration wants this engine to be. -/
def engineOf? (config : Config) (name : String) : Option Builtin :=
  Builtin.ofName? config.strictSubstitution config.strictHandlebars name

theorem registry_dispatcher (config : Config) : config.dispatcher.value.registry =
    (Builtin.registry config.strictSubstitution config.strictHandlebars).value := by
  simp only [dispatcher, Logged.value_bind]
  cases config.defaultEngine <;> rfl

theorem lookup_dispatcher (config : Config) (name : String) :
    config.dispatcher.value.registry.lookup name = config.engineOf? name := by
  rw [registry_dispatcher, Builtin.lookup_registry, engineOf?]

/-- An empty name of the default engine stands for none. -/
theorem defaultEngine_dispatcher (config : Config) :
    config.dispatcher.value.defaultEngine = config.defaultEngine.filter (· ≠ "") := by
  simp only [dispatcher, Logged.value_bind]
  cases config.defaultEngine with
  | none => rfl
  | some name =>
    by_cases h : name = ""
    · subst h
      rfl
    · rw [Option.filter_some_pos (by simpa using h)]
      simp [Dispatcher.withDefault, h]

end Config

namespace RenderRequest

/-- The name of the engine that a request stands for: the one that it gives, otherwise the default
engine of the configuration, where an empty name counts for nothing; or else the empty name. -/
def engineName (request : RenderRequest) (config : Config) : String :=
  ((request.engine.filter (· ≠ "")).or (config.defaultEngine.filter (· ≠ ""))).getD ""

theorem resolve_dispatcher (request : RenderRequest) (config : Config) :
    config.dispatcher.value.resolve request.engine = request.engineName config := by
  rw [Dispatcher.resolve_eq, config.defaultEngine_dispatcher, engineName]

/-! ## Both modes -/

/-- What a request comes to: the text of the value, and after a failure the failure itself or, if the
request is not strict, the template. -/
def resultText (strict : Bool) (template : String) :
    Except ScriptError Json → Except RenderFailure String
  | .ok v => .ok v.valueText
  | .error e => if strict then .error (.script e) else .ok template

section Value

variable (request : RenderRequest) (config : Config) (around : Surroundings)

theorem value_render_of_unread {files : Files} {e : RenderFailure}
    (h : request.readTemplate files = .error e) :
    (request.render config files around).value = .error e := by
  simp only [render, h, Logged.value_pure]

theorem value_render_of_invalid {files : Files} {template : String} {e : VariableError}
    (htemplate : request.readTemplate files = .ok template)
    (hparams : config.parameters request.assignments = .error e) :
    (request.render config files around).value = .error (.variable e) := by
  simp only [render, htemplate, hparams, Logged.value_pure]

theorem value_render_of_ok {files : Files} {template : String} {params : Params}
    (htemplate : request.readTemplate files = .ok template)
    (hparams : config.parameters request.assignments = .ok params) :
    (request.render config files around).value =
      (request.evaluate config around template params).value := by
  simp only [render, htemplate, hparams]

/-- The dispatcher of the configuration asks the engine that the request stands for. -/
theorem value_dispatch (template : Option String) (params : Option Params) :
    (config.dispatcher.value.evaluate around request.engine template params).value =
      match config.engineOf? (request.engineName config) with
      | none => .error (.unknownEngine (request.engineName config))
      | some engine =>
        Dispatcher.answer (request.engineName config)
          (Engine.evaluate engine around template params).value := by
  rw [Dispatcher.value_evaluate, request.resolve_dispatcher, config.lookup_dispatcher]
  cases config.engineOf? (request.engineName config) <;> rfl

theorem value_evaluate (template : String) (params : Params) :
    (request.evaluate config around template params).value =
      resultText request.strict template
        (config.dispatcher.value.evaluate around request.engine (some template)
          (some params)).value := by
  simp only [evaluate, Logged.value_bind]
  cases request.strict with
  | true =>
    simp only [if_true, Logged.value_bind]
    cases (config.dispatcher.value.evaluate around request.engine (some template)
      (some params)).value <;> rfl
  | false =>
    simp only [Bool.false_eq_true, if_false, Logged.value_bind, Logged.value_pure,
      Dispatcher.value_evaluateOrRaw]
    cases (config.dispatcher.value.evaluate around request.engine (some template)
      (some params)).value with
    | error e => rfl
    | ok v => cases v <;> rfl

/-- A request is decided by its template, its parameters, its mode and what the engine that it stands
for makes of them. -/
theorem value_render_eq (files : Files) : (request.render config files around).value =
    match request.readTemplate files with
    | .error e => .error e
    | .ok template =>
      match config.parameters request.assignments with
      | .error e => .error (.variable e)
      | .ok params => resultText request.strict template
        (match config.engineOf? (request.engineName config) with
          | none => .error (.unknownEngine (request.engineName config))
          | some engine => Dispatcher.answer (request.engineName config)
            (Engine.evaluate engine around (some template) (some params)).value) := by
  cases htemplate : request.readTemplate files with
  | error e => exact request.value_render_of_unread config around htemplate
  | ok template =>
    cases hparams : config.parameters request.assignments with
    | error e => exact request.value_render_of_invalid config around htemplate hparams
    | ok params =>
      rw [request.value_render_of_ok config around htemplate hparams, value_evaluate, value_dispatch]

end Value

/-- Strict and lenient rendering of one request. Both fail alike where there is no template or a
parameter is not well formed. Otherwise the engine of the request is asked directly: where it gives
a value both modes give its text; where it fails, or there is no such engine, strict rendering fails
with this error under the name of the engine, and lenient rendering gives the template as it is. -/
theorem render_strict_lenient (request : RenderRequest) (config : Config) (files : Files)
    (around : Surroundings) :
    let strict := ({ request with strict := true }.render config files around).value
    let lenient := ({ request with strict := false }.render config files around).value
    match request.readTemplate files with
    | .error e => strict = .error e ∧ lenient = .error e
    | .ok template =>
      match config.parameters request.assignments with
      | .error e => strict = .error (.variable e) ∧ lenient = .error (.variable e)
      | .ok params =>
        let name := request.engineName config
        match config.engineOf? name with
        | none => strict = .error (.script (.unknownEngine name)) ∧ lenient = .ok template
        | some engine =>
          match (Engine.evaluate engine around (some template) (some params)).value with
          | .value v => strict = .ok v.valueText ∧ lenient = .ok v.valueText
          | .failure cause =>
            strict = .error (.script (.evaluation name cause)) ∧ lenient = .ok template
          | .panic _ => False := by
  intro strict lenient
  let mode (strict : Bool) : RenderRequest := { request with strict }
  -- Neither the template nor the parameters depend on the mode.
  cases htemplate : request.readTemplate files with
  | error e =>
    have h (b : Bool) : ((mode b).render config files around).value = .error e :=
      (mode b).value_render_of_unread config around htemplate
    exact ⟨h true, h false⟩
  | ok template =>
    cases hparams : config.parameters request.assignments with
    | error e =>
      have h (b : Bool) : ((mode b).render config files around).value = .error (.variable e) :=
        (mode b).value_render_of_invalid config around htemplate hparams
      exact ⟨h true, h false⟩
    | ok params =>
      have hresult (b : Bool) : ((mode b).render config files around).value =
          resultText b template (config.dispatcher.value.evaluate around request.engine
            (some template) (some params)).value :=
        ((mode b).value_render_of_ok config around htemplate hparams).trans
          ((mode b).value_evaluate config around template params)
      rw [request.value_dispatch config around] at hresult
      dsimp only
      cases hengine : config.engineOf? (request.engineName config) with
      | none =>
        rw [hengine] at hresult
        exact ⟨hresult true, hresult false⟩
      | some engine =>
        rw [hengine] at hresult
        obtain ⟨direct, hdirect⟩ := engine.evaluate_eq_ofExcept around (some template) (some params)
        simp only [hdirect] at hresult ⊢
        cases direct with
        | ok v => exact ⟨hresult true, hresult false⟩
        | error cause => exact ⟨hresult true, hresult false⟩

end RenderRequest

end TemplateEngines
