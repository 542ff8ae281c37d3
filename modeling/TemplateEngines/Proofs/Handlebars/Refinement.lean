/-
Comparing rendering computations. `m.Refines n` says that `n` does what `m` does wherever `m`
succeeds, and that no fault of `m` has been caused by another error. The laws say how computations
that are put together refine each other when their parts do.
-/
import TemplateEngines.Proofs.Handlebars.Evaluation

namespace TemplateEngines.Handlebars

namespace Render

variable {α β : Type}

/-- Where `m` succeeds, `n` does the same, and no fault of `m` has been caused by another error. -/
structure Refines (m n : Render α) : Prop where
  ok : ∀ {p q a}, m.runFrom p = (.ok a, q) → n.runFrom p = (.ok a, q)
  uncaused : ∀ {p q f}, m.runFrom p = (.error f, q) → f.causes = []

/-! ## Laws -/

theorem Refines.pure (a : α) : (pure a : Render α).Refines (pure a) where
  ok h := h
  uncaused h := by cases h

/-- A computation that fails for a reason of its own is refined by any other. -/
theorem Refines.fail (fault : Fault) (n : Render α) : (fail fault : Render α).Refines n where
  ok h := by cases h
  uncaused h := by cases h; rfl

theorem Refines.modify (f : Progress → Progress) :
    (modify f : Render Unit).Refines (modify f) where
  ok h := h
  uncaused h := by cases h

theorem Refines.get : (get : Render Progress).Refines get where
  ok h := h
  uncaused h := by cases h

theorem Refines.bind {m n : Render α} {f g : α → Render β} (h : m.Refines n)
    (hf : ∀ a, (f a).Refines (g a)) : (m >>= f).Refines (n >>= g) where
  ok {p q b} hb := by
    rw [runFrom_bind] at hb ⊢
    cases hm : m.runFrom p with
    | mk r q' =>
      rw [hm] at hb
      cases r with
      | error e => cases hb
      | ok a =>
        rw [h.ok hm]
        exact (hf a).ok hb
  uncaused {p q e} he := by
    rw [runFrom_bind] at he
    cases hm : m.runFrom p with
    | mk r q' =>
      rw [hm] at he
      cases r with
      | error e' =>
        cases he
        exact h.uncaused hm
      | ok a => exact (hf a).uncaused he

/-- A fault that only the first computation can meet. -/
theorem Refines.unless {m n : Render α} {c d : Prop} [Decidable c] [Decidable d]
    {fault fault' : Fault} (hd : ¬ d) (h : m.Refines n) :
    Refines (if c then Render.fail fault else m) (if d then Render.fail fault' else n) := by
  rw [if_neg hd]
  split
  · exact .fail fault n
  · exact h

theorem Refines.placed {m n : Render Unit} (h : m.Refines n) (position : Position) :
    (placed position m).Refines (placed position n) where
  ok {p q b} hb := by
    rw [runFrom_placed] at hb ⊢
    cases hm : m.runFrom p with
    | mk r q' =>
      rw [hm] at hb
      cases r with
      | error e => cases hb
      | ok a =>
        rw [h.ok hm]
        exact hb
  uncaused {p q e} he := by
    rw [runFrom_placed] at he
    cases hm : m.runFrom p with
    | mk r q' =>
      rw [hm] at he
      cases r with
      | error e' =>
        have hcauses : e'.causes = [] := h.uncaused hm
        cases he
        exact hcauses
      | ok a => cases he

end Render

/-! ## Answers -/

/-- A fault that no other error has caused is a failure of rendering. -/
theorem answerOf_error {m n : Render Unit} (h : m.Refines n) {p : Progress} {e : EngineError}
    (he : answerOf (m.runFrom p) = .error e) : ∃ text, e = .render text := by
  cases hm : m.runFrom p with
  | mk r q =>
    rw [hm] at he
    cases r with
    | ok a => cases he
    | error f =>
      refine ⟨f.message, ?_⟩
      rw [answerOf, RenderError.ofFault, RenderError.toEngineError, h.uncaused hm] at he
      exact (Except.error.inj he).symm

theorem answerOf_ok {m n : Render Unit} (h : m.Refines n) {p : Progress} {v : Json}
    (hv : answerOf (m.runFrom p) = .ok v) : answerOf (n.runFrom p) = .ok v := by
  cases hm : m.runFrom p with
  | mk r q =>
    rw [hm] at hv
    cases r with
    | ok a => rwa [h.ok hm]
    | error f => cases hv

end TemplateEngines.Handlebars
