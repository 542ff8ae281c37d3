/-
Computations that write. What such a computation writes, or why it fails, does not depend on what
has been written before (`Render.Writes`); elements are written one after the other, and an
evaluation gives what the elements of the template write (`value_evaluate_of_writes`).
-/
import TemplateEngines.Proofs.Chunk
import TemplateEngines.Proofs.Handlebars.Evaluation

namespace TemplateEngines.Handlebars

namespace Render

/-- A computation that writes the text, or fails for the reason, that is given, whatever has been
written before. -/
def Writes (m : Render Unit) (e : Except Fault String) : Prop :=
  ∀ p : Progress, match e with
    | .ok text => ∃ q, m.runFrom p = (.ok (), q) ∧ q.output = p.output ++ text
    | .error fault => ∃ f q, m.runFrom p = (.error f, q) ∧ f.fault = fault ∧ f.causes = []

namespace Writes

variable {m n : Render Unit} {e e' : Except Fault String}

theorem done : Writes (pure ()) (.ok "") := fun p => ⟨p, rfl, by rw [String.append_empty]⟩

theorem write (text : String) : (write text).Writes (.ok text) := fun _ => ⟨_, rfl, rfl⟩

theorem fail (fault : Fault) : (fail fault).Writes (.error fault) := fun p => ⟨_, p, rfl, rfl, rfl⟩

theorem emit (record : Log.Record) : (emit record).Writes (.ok "") :=
  fun _ => ⟨_, rfl, by rw [String.append_empty]⟩

theorem seq (h : m.Writes e) (h' : n.Writes e') :
    Writes (m >>= fun _ => n) (e.bind fun text => Chunk.putBefore text e') := by
  intro p
  cases e with
  | error fault =>
    obtain ⟨f, q, hm, hf⟩ := h p
    exact ⟨f, q, by rw [runFrom_bind, hm], hf⟩
  | ok text =>
    obtain ⟨q, hm, hq⟩ := h p
    cases e' with
    | error fault =>
      obtain ⟨f, q', hn, hf⟩ := h' q
      exact ⟨f, q', by rw [runFrom_bind, hm]; exact hn, hf⟩
    | ok text' =>
      obtain ⟨q', hn, hq'⟩ := h' q
      exact ⟨q', by rw [runFrom_bind, hm]; exact hn, by rw [hq', hq, String.append_assoc]⟩

/-- What has been written as nothing can be left out. -/
theorem after (h : m.Writes (.ok "")) (h' : n.Writes e) : Writes (m >>= fun _ => n) e := by
  have := h.seq h'
  rwa [Except.bind, Chunk.putBefore_empty] at this

theorem placed (position : Position) (h : m.Writes e) : Writes (placed position m) e := by
  intro p
  cases e with
  | error fault =>
    obtain ⟨f, q, hm, hf⟩ := h p
    refine ⟨{ f with position := f.position.or (some position) }, q, ?_, hf⟩
    rw [runFrom_placed, hm]
  | ok text =>
    obtain ⟨q, hm, hq⟩ := h p
    exact ⟨q, by rw [runFrom_placed, hm], hq⟩

end Writes

end Render

/-! ## Templates -/

section Templates

variable (strict : Bool) (around : Surroundings) {params : Params}

/-- A name alone is looked up among the parameters. -/
theorem find_name (k : String) :
    (Scope.start strict around params).find ⟨k, [.name k]⟩ =
      .ok (match params.get? k with
        | some v => .inData v [k]
        | none => .missing) := by
  show Scope.findInData _ [k] = _
  simp only [Scope.findInData, Scope.start, Scope.walk]
  cases params.get? k <;> rfl

theorem renderElements_cons (render : Renderer) {position : Position} {element : Element}
    {rest : Template} {scope : Scope} {e e' : Except Fault String}
    (h : (renderElement render scope element).Writes e)
    (h' : (renderElements render scope rest).Writes e') :
    (renderElements render scope ((position, element) :: rest)).Writes
      (e.bind fun text => Chunk.putBefore text e') := by
  rw [renderElements]
  exact (h.placed position).seq h'

theorem renderElements_singleton (render : Renderer) {position : Position} {element : Element}
    {scope : Scope} {e : Except Fault String} (h : (renderElement render scope element).Writes e) :
    (renderElements render scope [(position, element)]).Writes e := by
  have hall : (renderElements render scope [(position, element)]).Writes
      (e.bind fun text => Chunk.putBefore text (.ok "")) :=
    renderElements_cons render h .done
  cases e with
  | ok text =>
    rwa [Except.bind, Chunk.putBefore, Except.map, String.append_empty] at hall
  | error fault => exact hall

section Evaluate

variable {source : String} {t : Template}
  (hcompile : compile source around.refusedAt = .ok t)

include hcompile

/-- An evaluation gives what the template writes. -/
theorem value_evaluate_of_writes {text : String}
    (h : (renderElements (render (source.length + 65535)) (.start strict around params) t).Writes
      (.ok text)) :
    (evaluate strict around (some source) (some params)).value = .ok (.string text) := by
  obtain ⟨q, hq, hout⟩ := h {}
  have hrender : (render (depthFor source) (.start strict around params) t).runFrom {} =
      (.ok (), q) := hq
  have htext : q.output = text := hout.trans String.empty_append
  rw [value_evaluate_of_ok strict around (some params) hcompile, Option.getD_some, hrender,
    answerOf, htext]

/-- An evaluation fails for the reason for which the template cannot be written. -/
theorem value_evaluate_of_fails {fault : Fault}
    (h : (renderElements (render (source.length + 65535)) (.start strict around params) t).Writes
      (.error fault)) :
    ∃ position, (evaluate strict around (some source) (some params)).value =
      .error (.render (PlacedFault.message { fault, position })) := by
  obtain ⟨f, q, hq, rfl, hcauses⟩ := h {}
  have hrender : (render (depthFor source) (.start strict around params) t).runFrom {} =
      (.error f, q) := hq
  refine ⟨f.position, ?_⟩
  rw [value_evaluate_of_ok strict around (some params) hcompile, Option.getD_some, hrender,
    answerOf, RenderError.ofFault, hcauses]
  rfl

end Evaluate

end Templates

end TemplateEngines.Handlebars
