/-
Runs of rendering computations, and what an evaluation makes of them: a source that does not compile
is refused, and any other is rendered from the start.
-/
import TemplateEngines.Handlebars.Engine

namespace TemplateEngines.Handlebars

namespace Render

variable {α β : Type}

/-- How a computation ends that starts from some progress. -/
def runFrom (m : Render α) (p : Progress) : Except PlacedFault α × Progress :=
  StateT.run (ExceptT.run m) p

theorem runFrom_bind (m : Render α) (f : α → Render β) (p : Progress) :
    (m >>= f).runFrom p =
      match m.runFrom p with
      | (.ok a, q) => (f a).runFrom q
      | (.error e, q) => (.error e, q) := by
  show StateT.run (ExceptT.run m >>= ExceptT.bindCont f) p = _
  rw [StateT.run_bind]
  show (ExceptT.bindCont f (m.runFrom p).1).run (m.runFrom p).2 = _
  rcases m.runFrom p with ⟨e | a, q⟩ <;> rfl

theorem runFrom_placed (position : Position) (m : Render Unit) (p : Progress) :
    (placed position m).runFrom p =
      match m.runFrom p with
      | (.ok a, q) => (.ok a, q)
      | (.error f, q) => (.error { f with position := f.position.or (some position) }, q) := by
  unfold runFrom placed
  simp only [tryCatch, tryCatchThe, MonadExceptOf.tryCatch, ExceptT.tryCatch, ExceptT.run,
    ExceptT.mk, StateT.run_bind]
  rcases StateT.run m p with ⟨e | a, q⟩ <;> rfl

end Render

/-! ## Evaluation -/

/-- What the engine makes of the end of a rendering. -/
def answerOf : Except PlacedFault Unit × Progress → Except EngineError Json
  | (.ok (), progress) => .ok (.string progress.output)
  | (.error fault, _) => .error (RenderError.ofFault fault).toEngineError

section Evaluate

variable {source : String} (strict : Bool) (around : Surroundings) (params : Option Params)

/-- No parameters are the same as none of any name. -/
theorem evaluate_getD (template : Option String) :
    evaluate strict around template params =
      evaluate strict around template (some (params.getD [])) := by
  cases params <;> rfl

theorem value_evaluate_of_ok {t : Template} (h : compile source around.refusedAt = .ok t) :
    (evaluate strict around (some source) params).value =
      answerOf ((render (depthFor source) (.start strict around (params.getD [])) t).runFrom {}) := by
  unfold evaluate renderSource
  simp only [h, Logged.value_bind]
  change _ = answerOf (t.run (depthFor source) (.start strict around (params.getD [])))
  rcases t.run (depthFor source) (.start strict around (params.getD [])) with
    ⟨fault | ⟨⟩, progress⟩ <;> rfl

theorem value_evaluate_of_error {e : CompileError}
    (h : compile source around.refusedAt = .error e) :
    (evaluate strict around (some source) params).value = .error (.malformed e.message) := by
  unfold evaluate renderSource
  simp only [h, Logged.value_bind]
  rfl

end Evaluate

section Validate

variable {source : String} {refusedAt : String → Position}

theorem validate_of_ok {t : Template} (h : compile source refusedAt = .ok t) :
    validate source refusedAt = .ok () := by
  rw [validate, h]

theorem validate_of_error {e : CompileError} (h : compile source refusedAt = .error e) :
    validate source refusedAt = .error (.malformed e.message) := by
  rw [validate, h]
  rfl

end Validate

end TemplateEngines.Handlebars
