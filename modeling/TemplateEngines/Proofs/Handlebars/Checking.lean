/-
Checking a template and rendering it agree on what is an error of the template: rendering finds no
such error that checking has not found, whatever the parameters are, and every other error is one of
rendering (`evaluate_malformed_iff_validate`). Of a source that breaks the grammar both report the
place at which the parser has given it up (`report_of_rejected`).
-/
import TemplateEngines.Proofs.Handlebars.Strictness

namespace TemplateEngines.Handlebars

/-! ## The place of an error -/

theorem bind_checkLiterals_rejected {e : Expression} {next : Unit → Except CompileError Template}
    {place : Place} (h : (checkLiterals e >>= next) = .error (.rejected place)) :
    next () = .error (.rejected place) := by
  unfold checkLiterals at h
  cases hsource : e.unreadable with
  | some source =>
    rw [hsource] at h
    cases h
  | none =>
    rw [hsource] at h
    exact h

theorem place_of_build {refusal place : Place} {stack : List Frame} {done : Template}
    {ps : List Piece} (h : build refusal stack done ps = .error (.rejected place)) :
    place = refusal := by
  fun_induction build refusal stack done ps
  case case1 | case13 | case16 => cases h
  case case2 | case11 | case14 | case17 =>
    cases h
    rfl
  case case3 ih | case10 ih | case12 ih | case15 ih => exact ih h
  case case4 ih => exact ih _ h
  -- A literal that cannot be read is an error of its own kind.
  case case5 ih | case6 ih | case7 ih => exact ih _ (bind_checkLiterals_rejected h)
  case case8 ih | case9 ih => exact ih (bind_checkLiterals_rejected h)

theorem place_of_compile {source : String} {refusedAt : String → Position} {place : Place}
    (h : compile source refusedAt = .error (.rejected place)) :
    place = ⟨refusedAt source, source⟩ := by
  unfold compile at h
  split at h
  · split at h
    · exact place_of_build h
    · cases h
      rfl
  · cases h
    rfl

/-- Of a source that breaks the grammar, checking and rendering report the place at which the parser
has given it up, whatever the parameters are. -/
theorem report_of_rejected {source : String} {around : Surroundings} {place : Place}
    (h : compile source around.refusedAt = .error (.rejected place)) :
    let refused := EngineError.malformed
      (Place.report ⟨around.refusedAt source, source⟩ "invalid handlebars syntax.")
    validate source around.refusedAt = .error refused ∧
      ∀ strict params, (evaluate strict around (some source) params).value = .error refused := by
  obtain rfl := place_of_compile h
  exact ⟨validate_of_error h, fun strict params => value_evaluate_of_error strict around params h⟩

/-- A tag that lacks a closing brace, given up behind its name. -/
example : validate "Hello\n\x7b\x7bname\x7d" (fun _ => ⟨2, 7⟩) = .error (.malformed
    ("Template error: invalid handlebars syntax.\n" ++
      "    --> Template error in \"Unnamed\":2:7\n" ++
      "     |\n" ++
      "   0 | Hello\n" ++
      "   1 | \x7b\x7bname\x7d\n" ++
      "     |-------\n" ++
      "     |\n" ++
      "     = reason: invalid handlebars syntax.\n")) := by
  with_unfolding_all rfl

/-! ## Checking and rendering -/

/-- A template that compiles never gives an error of the template when it is rendered. -/
theorem value_evaluate_error_of_ok {source : String} {t : Template} {strict : Bool}
    {around : Surroundings} (h : compile source around.refusedAt = .ok t)
    {params : Option Params} {e : EngineError}
    (he : (evaluate strict around (some source) params).value = .error e) :
    ∃ m, e = .render m := by
  rw [value_evaluate_of_ok strict around params h] at he
  exact answerOf_error (render_tolerant _ _ t) he

/-- Evaluation refuses a template as malformed exactly when checking does, with the same message,
and all its other errors are errors of rendering. -/
theorem evaluate_malformed_iff_validate (strict : Bool) (around : Surroundings) (source : String)
    (params : Option Params) :
    (∀ m, (evaluate strict around (some source) params).value = .error (.malformed m) ↔
      validate source around.refusedAt = .error (.malformed m)) ∧
    (∀ e, (evaluate strict around (some source) params).value = .error e →
      (∃ m, e = .malformed m) ∨ ∃ m, e = .render m) ∧
    (∀ e, validate source around.refusedAt = .error e → ∃ m, e = .malformed m) := by
  cases hc : compile source around.refusedAt with
  | error e =>
    rw [value_evaluate_of_error strict around params hc, validate_of_error hc]
    refine ⟨fun m => ⟨fun h => ?_, fun h => ?_⟩, fun e' he' => .inl ?_, fun e' he' => ?_⟩
    · rw [Except.error.inj h]
    · rw [Except.error.inj h]
    · exact ⟨e.message, (Except.error.inj he').symm⟩
    · exact ⟨e.message, (Except.error.inj he').symm⟩
  | ok t =>
    -- Checking finds no error, so there must be none of the template in what rendering says.
    rw [validate_of_ok hc]
    refine ⟨fun m => ⟨fun h => ?_, fun h => by cases h⟩,
      fun e he => .inr (value_evaluate_error_of_ok hc he), fun _ h => by cases h⟩
    obtain ⟨_, hm⟩ := value_evaluate_error_of_ok hc h
    cases hm

end TemplateEngines.Handlebars
