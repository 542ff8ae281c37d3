/-
Templates that call a helper. A template that is one tag with a call of a helper gives what the
helper answers (`evaluate_call`) or fails for the reason that the helper gives
(`evaluate_call_of_fails`). A helper in parentheses hands its answer on as a parameter
(`evaluate_call_param`).
-/
import TemplateEngines.Proofs.Handlebars.Writing

namespace TemplateEngines.Handlebars

/-! ## Answers -/

namespace Render

variable {α β : Type}

/-- The computation that ends in a given way and does nothing else. -/
def ofExcept : Except Fault α → Render α
  | .ok a => pure a
  | .error fault => fail fault

theorem ofExcept_bind (r : Except Fault α) (f : α → β) :
    (ofExcept r >>= fun a => pure (f a)) = ofExcept (r.map f) := by
  cases r with
  | ok a => exact pure_bind a _
  | error fault => rfl

end Render

/-! ## Parameters -/

section Param

variable (strict : Bool) (around : Surroundings) {params : Params}

theorem evaluate_name_param {k : String} {v : Json} (h : params.get? k = some v) :
    Param.evaluate (.start strict around params) (.path ⟨k, [.name k]⟩) =
      pure ⟨some k, .inData v [k]⟩ := by
  simp only [Param.evaluate, Render.find, find_name, h, pure_bind]

theorem evaluateAll_cons {scope : Scope} {p : Param} {a : Argument} {rest : List Param}
    {more : List Argument} (h : p.evaluate scope = pure a)
    (hrest : Param.evaluateAll scope rest = pure more) :
    Param.evaluateAll scope (p :: rest) = pure (a :: more) := by
  rw [Param.evaluateAll, h, pure_bind, hrest, pure_bind]

theorem evaluateAll_literal (scope : Scope) (v : Json) :
    Param.evaluateAll scope [.literal v] = pure [⟨none, .literal v⟩] := rfl

/-- A helper in parentheses hands its answer on. -/
theorem evaluate_call_param {scope : Scope} {name : String} {params : List Param}
    {arguments : List Argument} {helper : Helper} {v : Json}
    (hparams : Param.evaluateAll scope params = pure arguments)
    (hname : Helper.ofName? name = some helper)
    (hanswer : helper.answer? scope ⟨name, arguments, []⟩ = some (pure v)) :
    Param.evaluate scope (.call (.name name) params []) = pure ⟨none, .computed v⟩ := by
  have hlabel : (Param.name name).label?.getD "" = name := rfl
  simp only [Param.evaluate, Param.evaluateOptions, hparams, pure_bind, hlabel, hname, Helper.value,
    hanswer]

end Param

/-! ## Templates -/

/-- The expression that calls a helper with parameters. -/
def Expression.ofCall (name : String) (params : List Param) : Expression where
  head := .name name
  params := params

section Call

variable {name : String} {exprs : List Param} {arguments : List Argument} {helper : Helper}

theorem invoke_call {scope : Scope} (hparams : Param.evaluateAll scope exprs = pure arguments) :
    (Expression.ofCall name exprs).invoke scope = pure ⟨name, arguments, []⟩ := by
  simp only [Expression.invoke, Expression.ofCall, Param.headName, Param.evaluateOptions, hparams,
    pure_bind]

/-- A tag with a call renders what the helper does. -/
theorem renderElement_call (render : Renderer) (scope : Scope) (hne : exprs ≠ []) :
    renderElement render scope (.value (.ofCall name exprs)) =
      renderHelper render scope (.ofCall name exprs) {} := by
  rw [renderElement, if_neg]
  simp [Expression.isBare, Expression.ofCall, hne]

theorem renderHelper_call (render : Renderer) {scope : Scope} {answer : Except Fault Json}
    (hparams : Param.evaluateAll scope exprs = pure arguments)
    (hname : Helper.ofName? name = some helper)
    (hanswer : helper.answer? scope ⟨name, arguments, []⟩ = some (.ofExcept answer)) :
    (renderHelper render scope (.ofCall name exprs) {}).Writes (answer.map Json.templateText) := by
  simp only [renderHelper, invoke_call hparams, pure_bind, hname, hanswer]
  apply (Render.Writes.emit _).after
  cases answer with
  | ok v => exact .write _
  | error fault => exact .fail fault

variable (strict : Bool) (around : Surroundings) {params : Params} {source : String}
  {position : Position} (hne : exprs ≠ [])
  (hparams : Param.evaluateAll (.start strict around params) exprs = pure arguments)
  (hname : Helper.ofName? name = some helper)

include hne hparams hname

theorem renderElements_call (render : Renderer) (answer : Except Fault Json)
    (hanswer : helper.answer? (.start strict around params) ⟨name, arguments, []⟩ =
      some (.ofExcept answer)) :
    (renderElements render (.start strict around params)
      [(position, .value (.ofCall name exprs))]).Writes (answer.map Json.templateText) := by
  refine renderElements_singleton render ?_
  rw [renderElement_call render _ hne]
  exact renderHelper_call render hparams hname hanswer

variable (hcompile : compile source around.refusedAt =
  .ok [(position, .value (.ofCall name exprs))])

include hcompile

/-- A template that is a call of a helper gives the answer. -/
theorem evaluate_call {v : Json}
    (hanswer : helper.answer? (.start strict around params) ⟨name, arguments, []⟩ =
      some (pure v)) :
    (evaluate strict around (some source) (some params)).value = .ok (.string v.templateText) :=
  value_evaluate_of_writes strict around hcompile
    (renderElements_call strict around hne hparams hname _ (.ok v) hanswer)

theorem evaluate_call_of_fails {fault : Fault}
    (hanswer : helper.answer? (.start strict around params) ⟨name, arguments, []⟩ =
      some (Render.fail fault)) :
    ∃ position, (evaluate strict around (some source) (some params)).value =
      .error (.render (PlacedFault.message { fault, position })) :=
  value_evaluate_of_fails strict around hcompile
    (renderElements_call strict around hne hparams hname _ (.error fault) hanswer)

end Call

end TemplateEngines.Handlebars
