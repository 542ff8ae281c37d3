/-
Errors of rendering with causes. What an error is reported as depends on the nearest compile error
among its causes, at whatever depth it lies, and on the text of the error itself if there is none
(`toEngineError_causes`). Another error around it adds a cause that is no compile error in front, so
it changes the report of an error without compile error only.
-/
import TemplateEngines.Handlebars.Engine

namespace TemplateEngines.Handlebars

/-- A cause that is no compile error. -/
def Cause.IsRender (cause : Cause) : Prop := ∃ text, cause = .render text

namespace RenderError

/-! ## The nearest compile error -/

theorem compileError?_append {before : List Cause} (h : ∀ cause ∈ before, cause.IsRender)
    (rest : List Cause) : compileError? (before ++ rest) = compileError? rest := by
  induction before with
  | nil => rfl
  | cons cause before ih =>
    obtain ⟨⟨text, rfl⟩, hbefore⟩ := List.forall_mem_cons.1 h
    rw [List.cons_append, compileError?, ih hbefore]

/-- Causes are errors of rendering only, or there is a nearest compile error. -/
theorem isRender_or_nearest (causes : List Cause) :
    (∀ cause ∈ causes, cause.IsRender) ∨
      ∃ before c after, causes = before ++ .compile c :: after ∧
        ∀ cause ∈ before, cause.IsRender := by
  induction causes with
  | nil => exact .inl fun cause h => absurd h List.not_mem_nil
  | cons cause rest ih =>
    cases cause with
    | compile c => exact .inr ⟨[], c, rest, rfl, fun cause h => absurd h List.not_mem_nil⟩
    | render text =>
      rcases ih with hall | ⟨before, c, after, rfl, hbefore⟩
      · exact .inl (List.forall_mem_cons.2 ⟨⟨text, rfl⟩, hall⟩)
      · exact .inr ⟨.render text :: before, c, after, rfl,
          List.forall_mem_cons.2 ⟨⟨text, rfl⟩, hbefore⟩⟩

theorem toEngineError_of_isRender {e : RenderError} (h : ∀ cause ∈ e.causes, cause.IsRender) :
    e.toEngineError = .render e.text := by
  have hnone : compileError? e.causes = none := by
    rw [← List.append_nil e.causes, compileError?_append h, compileError?]
  rw [toEngineError, hnone]

theorem toEngineError_of_nearest {e : RenderError} {before after : List Cause} {c : CompileError}
    (hcauses : e.causes = before ++ .compile c :: after)
    (hbefore : ∀ cause ∈ before, cause.IsRender) :
    e.toEngineError = .malformed c.message := by
  have hsome : compileError? e.causes = some c := by
    rw [hcauses, compileError?_append hbefore, compileError?]
  rw [toEngineError, hsome]

/-! ## Wrapping -/

/-- The error inside further errors, the text of the outermost one last. -/
def wrapAll (e : RenderError) (texts : List String) : RenderError := texts.foldl wrap e

theorem wrapAll_concat (e : RenderError) (texts : List String) (last : String) :
    e.wrapAll (texts ++ [last]) = (e.wrapAll texts).wrap last := by
  rw [wrapAll, List.foldl_append]
  rfl

/-- Wrapping keeps the causes and puts errors of rendering in front of them. -/
theorem causes_wrapAll (e : RenderError) (texts : List String) :
    ∃ before, (e.wrapAll texts).causes = before ++ e.causes ∧
      ∀ cause ∈ before, cause.IsRender := by
  induction texts generalizing e with
  | nil => exact ⟨[], rfl, fun cause h => absurd h List.not_mem_nil⟩
  | cons text texts ih =>
    obtain ⟨before, hcauses, hbefore⟩ := ih (e.wrap text)
    refine ⟨before ++ [.render e.text], ?_, ?_⟩
    · rw [List.append_assoc]
      exact hcauses
    · intro cause hmem
      rcases List.mem_append.1 hmem with hmem | hmem
      · exact hbefore cause hmem
      · exact ⟨e.text, List.mem_singleton.1 hmem⟩

/-- Errors around an error without compile error have none either. -/
theorem isRender_causes_wrapAll {e : RenderError} (h : ∀ cause ∈ e.causes, cause.IsRender)
    (texts : List String) : ∀ cause ∈ (e.wrapAll texts).causes, cause.IsRender := by
  obtain ⟨before, hcauses, hbefore⟩ := e.causes_wrapAll texts
  rw [hcauses]
  exact List.forall_mem_append.2 ⟨hbefore, h⟩

/-- An error is one of the template if a compile error is among its causes, with the message of the
nearest one, and one of rendering with its own text otherwise. However many errors are put around
it, in the first case the report stays, and in the second it is the text of the last one. -/
theorem toEngineError_causes (e : RenderError) :
    (∀ m, e.toEngineError = .malformed m ↔ ∃ before c after,
      e.causes = before ++ .compile c :: after ∧ (∀ cause ∈ before, cause.IsRender) ∧
        c.message = m) ∧
    (∀ m, e.toEngineError = .render m ↔ (∀ cause ∈ e.causes, cause.IsRender) ∧ e.text = m) ∧
    (∀ c texts, .compile c ∈ e.causes → (e.wrapAll texts).toEngineError = e.toEngineError) ∧
    (∀ texts last, (∀ cause ∈ e.causes, cause.IsRender) →
      (e.wrapAll (texts ++ [last])).toEngineError = .render last) := by
  have hclass := isRender_or_nearest e.causes
  refine ⟨fun m => ?malformed, fun m => ?render, fun c texts hmem => ?kept, fun texts last h => ?last⟩
  case malformed =>
    constructor
    · intro he
      rcases hclass with hall | ⟨before, c, after, hcauses, hbefore⟩
      · cases (toEngineError_of_isRender hall).symm.trans he
      · cases (toEngineError_of_nearest hcauses hbefore).symm.trans he
        exact ⟨before, c, after, hcauses, hbefore, rfl⟩
    · rintro ⟨before, c, after, hcauses, hbefore, rfl⟩
      exact toEngineError_of_nearest hcauses hbefore
  case render =>
    constructor
    · intro he
      rcases hclass with hall | ⟨before, c, after, hcauses, hbefore⟩
      · cases (toEngineError_of_isRender hall).symm.trans he
        exact ⟨hall, rfl⟩
      · cases (toEngineError_of_nearest hcauses hbefore).symm.trans he
    · rintro ⟨hall, rfl⟩
      exact toEngineError_of_isRender hall
  case kept =>
    rcases hclass with hall | ⟨before, c', after, hcauses, hbefore⟩
    · obtain ⟨text, htext⟩ := hall _ hmem
      cases htext
    · -- The causes that wrapping has put in front are passed as well.
      obtain ⟨front, hfront, hrender⟩ := e.causes_wrapAll texts
      rw [hcauses, ← List.append_assoc] at hfront
      rw [toEngineError_of_nearest hcauses hbefore,
        toEngineError_of_nearest hfront (List.forall_mem_append.2 ⟨hrender, hbefore⟩)]
  case last =>
    rw [toEngineError_of_isRender (isRender_causes_wrapAll h _), wrapAll_concat]
    rfl

/-- A compile error at the end of three causes, in front of which wrapping puts two more, and an
error with the same causes but for the compile error. -/
theorem toEngineError_causes_deep :
    let rejected : CompileError := .rejected ⟨⟨1, 4⟩, "Hi \x7b\x7b"⟩
    (RenderError.wrapAll ⟨"a", [.render "b", .render "c", .compile rejected]⟩
        ["d", "e"]).toEngineError =
      .malformed ("Template error: invalid handlebars syntax.\n" ++
        "    --> Template error in \"Unnamed\":1:4\n" ++
        "     |\n" ++
        "   0 | Hi \x7b\x7b\n" ++
        "     |----^\n" ++
        "     |\n" ++
        "     = reason: invalid handlebars syntax.\n") ∧
      (RenderError.wrapAll ⟨"a", [.render "b", .render "c"]⟩ ["d", "e"]).toEngineError =
        .render "e" := by
  intro rejected
  have hcauses := toEngineError_causes ⟨"a", [.render "b", .render "c", .compile rejected]⟩
  have hrender := toEngineError_causes ⟨"a", [.render "b", .render "c"]⟩
  constructor
  · rw [hcauses.2.2.1 rejected ["d", "e"] (by simp), hcauses.1]
    exact ⟨[.render "b", .render "c"], rejected, [], rfl, by simp [Cause.IsRender],
      by decide +kernel⟩
  · exact hrender.2.2.2 ["d"] "e" (by simp [Cause.IsRender])

end RenderError

end TemplateEngines.Handlebars
