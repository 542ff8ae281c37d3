/-
A strict rendering refines the lenient one. Every function that renders in a scope is compared with
itself in the scope without strictness (`Scope.lenient`): strictness only decides whether a missing
value is a fault.
-/
import TemplateEngines.Proofs.Handlebars.Refinement
import Mathlib.Data.Option.Defs

namespace TemplateEngines.Handlebars

open Render

/-- The same scope, with missing values allowed. -/
def Scope.lenient (scope : Scope) : Scope := { scope with strict := false }

theorem Scope.find_lenient (scope : Scope) (p : Path) : scope.lenient.find p = scope.find p := rfl

/-! ## Writing and reading -/

namespace Render

theorem Refines.write (text : String) : (write text).Refines (write text) := Refines.modify _

theorem Refines.emit (record : Log.Record) : (emit record).Refines (emit record) :=
  Refines.modify _

theorem writeIndented_refines (scope : Scope) (text : String) :
    (writeIndented scope text).Refines (writeIndented scope.lenient text) := by
  have hindent : scope.lenient.indent = scope.indent := rfl
  unfold writeIndented
  rw [hindent]
  cases scope.indent with
  | some indent => exact .write _
  | none => exact .write _

theorem draw_refines (scope : Scope) : (draw scope).Refines (draw scope.lenient) where
  ok h := h
  uncaused h := by cases h

theorem find_refines (scope : Scope) (p : Path) :
    (find scope p).Refines (find scope.lenient p) := by
  unfold find
  rw [Scope.find_lenient]
  cases scope.find p with
  | ok found => exact .pure found
  | error _ => exact .fail _ _

end Render

/-! ## Helpers with a value -/

namespace Invocation

theorem requireText_refines (call : Invocation) (i : Nat) (what : String) :
    (call.requireText i what).Refines (call.requireText i what) := by
  unfold requireText
  cases call.text? i with
  | some text => exact .pure text
  | none => exact .fail _ _

theorem operand_refines (scope : Scope) (call : Invocation) (i : Nat) (param : String) :
    (call.operand scope i param).Refines (call.operand scope.lenient i param) := by
  unfold operand
  cases call.arguments[i]? with
  | none => exact .fail _ _
  | some a => exact .unless (by simp [Scope.lenient]) (.pure _)

theorem integer_refines (scope : Scope) (call : Invocation) (i : Nat) (param : String) :
    (call.integer scope i param).Refines (call.integer scope.lenient i param) := by
  unfold integer
  refine .bind (call.operand_refines scope i param) fun v => ?_
  cases v with
  | number n =>
    dsimp only
    cases n.toInt64? with
    | some n => exact .pure n
    | none => exact .fail _ _
  | _ => exact .fail _ _

theorem compareIntegers_refines (scope : Scope) (call : Invocation) (holds : Int → Int → Bool) :
    (call.compareIntegers scope holds).Refines (call.compareIntegers scope.lenient holds) :=
  .bind (call.integer_refines scope 0 "x") fun _ =>
    .bind (call.integer_refines scope 1 "y") fun _ => .pure _

theorem combine_refines (scope : Scope) (call : Invocation) (holds : Json → Json → Bool) :
    (call.combine scope holds).Refines (call.combine scope.lenient holds) :=
  .bind (call.operand_refines scope 0 "x") fun _ =>
    .bind (call.operand_refines scope 1 "y") fun _ => .pure _

end Invocation

namespace Helper

theorem lookupValue_refines (scope : Scope) (call : Invocation) :
    (lookupValue scope call).Refines (lookupValue scope.lenient call) := by
  unfold lookupValue
  split
  · exact .fail _ _
  · exact .fail _ _
  · exact .unless (by simp [Scope.lenient]) (.pure _)

theorem logArguments_refines (call : Invocation) :
    (logArguments call).Refines (logArguments call) := by
  unfold logArguments
  simp only []
  split
  · exact .emit _
  · exact .fail _ _

theorem writeTime_refines (m : Time.Moment) (zone format : String) :
    (writeTime m zone format).Refines (writeTime m zone format) := by
  unfold writeTime
  cases Time.Format.parse format with
  | some f => exact .pure _
  | none => exact .fail _ _

theorem writeMoment_refines (m? : Option Time.Moment) (format text : String) :
    Refines (match m? with
        | some m => writeTime m m.offsetName format
        | none => Render.fail (.unknownTime text))
      (match m? with
        | some m => writeTime m m.offsetName format
        | none => Render.fail (.unknownTime text)) := by
  cases m? with
  | some m => exact writeTime_refines m _ _
  | none => exact .fail _ _

theorem decodeText_refines (text : String) : (decodeText text).Refines (decodeText text) := by
  unfold decodeText
  split
  · exact .fail _ _
  · split
    · exact .fail _ _
    · exact .pure _

/-- Strictness decides neither which helpers have a value nor what it is. -/
theorem answer?_refines (helper : Helper) (scope : Scope) (call : Invocation) :
    Option.Rel Refines (helper.answer? scope call) (helper.answer? scope.lenient call) := by
  cases helper <;> simp only [answer?]
  case ifTrue | unlessTrue | each | within | raw => exact .none
  case lookup => exact .some (lookupValue_refines scope call)
  case log => exact .some (.bind (logArguments_refines call) fun _ => .pure _)
  case eq | ne | and | or => exact .some (call.combine_refines scope _)
  case gt | gte | lt | lte => exact .some (call.compareIntegers_refines scope _)
  case not | len => exact .some (.bind (call.operand_refines scope 0 "x") fun _ => .pure _)
  case timestamp => exact .some (writeTime_refines _ _ _)
  case uuid => exact .some (.bind (draw_refines scope) fun _ => .pure _)
  case env | upper | lower | default | base64Encode =>
    exact .some (.bind (call.requireText_refines _ _) fun _ => .pure _)
  case join =>
    refine .some ?_
    split
    · exact .pure _
    · exact .fail _ _
  case base64Decode =>
    exact .some (.bind (call.requireText_refines _ _) fun _ =>
      .bind (decodeText_refines _) fun _ => .pure _)
  case formatTime =>
    refine .some ?_
    split
    · exact .bind (.fail _ _) fun _ => writeMoment_refines _ _ _
    · exact writeMoment_refines _ _ _

end Helper

/-! ## Helpers that render a block -/

/-- A renderer that does not fail in a lenient scope where it succeeds in a strict one. -/
def Renderer.Tolerant (render : Renderer) : Prop :=
  ∀ scope t, (render scope t).Refines (render scope.lenient t)

namespace Helper

variable {render : Renderer} (hr : Renderer.Tolerant render)

include hr

theorem renderSome_refines (scope : Scope) (t? : Option Template) :
    (renderSome render scope t?).Refines (renderSome render scope.lenient t?) := by
  cases t? with
  | some t => exact hr scope t
  | none => exact .pure ()

theorem renderInverse_refines (scope : Scope) (content : Content) (value : Argument) :
    (renderInverse render scope content value).Refines
      (renderInverse render scope.lenient content value) := by
  unfold renderInverse
  cases content.inverse with
  | some t => exact hr scope t
  | none => exact .unless (by simp [Scope.lenient]) (.pure ())

theorem renderItems_refines (scope : Scope) (body : Template) (names : List String)
    (place : Option (List String)) (keyName : String) (count i : Nat)
    (items : List (String × Json × Json)) :
    (renderItems render scope body names place keyName count i items).Refines
      (renderItems render scope.lenient body names place keyName count i items) := by
  induction items generalizing i with
  | nil => exact .pure ()
  | cons item rest ih =>
    obtain ⟨step, key, item⟩ := item
    exact .bind (hr (scope.push _) body) fun _ => ih (i + 1)

theorem renderEach_refines (scope : Scope) (content : Content) (value : Argument) :
    (renderEach render scope content value).Refines
      (renderEach render scope.lenient content value) := by
  have hall (body : Template) (keyName : String) (items : List (String × Json × Json)) :
      Refines
        (if items.isEmpty && content.inverse.isSome then renderInverse render scope content value
        else renderItems render scope body content.names value.found.path? keyName items.length 0
          items)
        (if items.isEmpty && content.inverse.isSome then
          renderInverse render scope.lenient content value
        else renderItems render scope.lenient body content.names value.found.path? keyName
          items.length 0 items) := by
    split
    · exact renderInverse_refines hr scope content value
    · exact renderItems_refines hr scope body _ _ _ _ _ _
  unfold renderEach
  cases content.body with
  | none => exact .pure ()
  | some body =>
    cases value.found.value with
    | array items => exact hall body _ _
    | object members => exact hall body _ _
    | _ => exact renderInverse_refines hr scope content value

theorem renderWithin_refines (scope : Scope) (content : Content) (value : Argument) :
    (renderWithin render scope content value).Refines
      (renderWithin render scope.lenient content value) := by
  unfold renderWithin
  dsimp only
  split
  · exact renderSome_refines hr (scope.push _) content.body
  · exact renderInverse_refines hr scope content value

theorem renderCondition_refines (scope : Scope) (content : Content) (call : Invocation)
    (positive : Bool) :
    (renderCondition render scope content call positive).Refines
      (renderCondition render scope.lenient content call positive) := by
  unfold renderCondition
  cases call.arguments with
  | nil => exact .fail _ _
  | cons value _ => exact renderSome_refines hr scope _

theorem renderBlock_refines (helper : Helper) (scope : Scope) (content : Content)
    (call : Invocation) :
    (renderBlock render helper scope content call).Refines
      (renderBlock render helper scope.lenient content call) := by
  unfold renderBlock
  split
  · exact renderCondition_refines hr scope content call true
  · exact renderCondition_refines hr scope content call false
  · exact .fail _ _
  · exact renderEach_refines hr scope content _
  · exact .fail _ _
  · exact renderWithin_refines hr scope content _
  · exact renderSome_refines hr scope content.body

end Helper

theorem Helper.value_refines (helper : Helper) (scope : Scope) (call : Invocation) :
    (helper.value scope call).Refines (helper.value scope.lenient call) := by
  have h := Helper.answer?_refines helper scope call
  unfold Helper.value
  generalize helper.answer? scope call = strict, helper.answer? scope.lenient call = lenient at h
  cases h with
  | some h => exact h
  | none => exact .bind (Helper.renderBlock_refines (fun _ _ => .pure ()) _ _ _ _) fun _ => .pure _

/-! ## Parameters -/

namespace Param

mutual

theorem evaluate_refines (scope : Scope) :
    ∀ p : Param, (p.evaluate scope).Refines (p.evaluate scope.lenient)
  | .name _ => by
    simp only [evaluate]
    exact .pure _
  | .path p => by
    simp only [evaluate]
    exact .bind (find_refines scope p) fun _ => .pure _
  | .literal _ => by
    simp only [evaluate]
    exact .pure _
  | .unreadable _ => by
    simp only [evaluate]
    exact .pure _
  | .call head params options => by
    simp only [evaluate]
    refine .bind (evaluateAll_refines scope params) fun arguments =>
      .bind (evaluateOptions_refines scope options) fun options => ?_
    cases Helper.ofName? (head.label?.getD "") with
    | some helper => exact .bind (helper.value_refines scope _) fun _ => .pure _
    | none => exact .fail _ _

theorem evaluateAll_refines (scope : Scope) :
    ∀ ps : List Param, (evaluateAll scope ps).Refines (evaluateAll scope.lenient ps)
  | [] => by
    simp only [evaluateAll]
    exact .pure _
  | p :: rest => by
    simp only [evaluateAll]
    exact .bind (evaluate_refines scope p) fun _ =>
      .bind (evaluateAll_refines scope rest) fun _ => .pure _

theorem evaluateOptions_refines (scope : Scope) :
    ∀ options : List (String × Param),
      (evaluateOptions scope options).Refines (evaluateOptions scope.lenient options)
  | [] => by
    simp only [evaluateOptions]
    exact .pure _
  | (_, p) :: rest => by
    simp only [evaluateOptions]
    exact .bind (evaluate_refines scope p) fun _ =>
      .bind (evaluateOptions_refines scope rest) fun _ => .pure _

end

theorem headName_refines (scope : Scope) (head : Param) :
    (headName scope head).Refines (headName scope.lenient head) := by
  unfold headName
  split
  · exact .pure _
  · exact .pure _
  · exact .pure _
  · exact .bind (evaluate_refines scope head) fun _ => .pure _

end Param

theorem Expression.invoke_refines (e : Expression) (scope : Scope) :
    (e.invoke scope).Refines (e.invoke scope.lenient) :=
  .bind (Param.headName_refines scope e.head) fun _ =>
    .bind (Param.evaluateAll_refines scope e.params) fun _ =>
      .bind (Param.evaluateOptions_refines scope e.options) fun _ => .pure _

/-! ## Elements -/

theorem runDecorator_refines (scope : Scope) (e : Expression) (body : Option Template) :
    (runDecorator scope e body).Refines (runDecorator scope.lenient e body) := by
  refine .bind (e.invoke_refines scope) fun call => ?_
  split
  · exact .fail _ _
  · split
    · exact .fail _ _
    · split
      · exact .modify _
      · exact .fail _ _
      · exact .fail _ _

theorem runDecorators_refines (scope : Scope) (t : Template) :
    (runDecorators scope t).Refines (runDecorators scope.lenient t) := by
  induction t with
  | nil => exact .pure ()
  | cons element rest ih =>
    obtain ⟨position, element⟩ := element
    cases element with
    | decorator e body =>
      exact .bind (.placed (runDecorator_refines scope e body) position) fun _ => ih
    | _ => exact ih

theorem inclusionScope_lenient (scope : Scope) (call : Invocation) :
    inclusionScope scope.lenient call = (inclusionScope scope call).lenient := by
  unfold inclusionScope
  split <;> rfl

/-- The scope of an included template keeps the strictness of the scope around it. -/
theorem withOptions_lenient (scope : Scope) (call : Invocation) :
    withOptions scope.lenient call = Scope.lenient <$> withOptions scope call := by
  unfold withOptions
  split
  · rfl
  · simp only [map_bind]
    rfl

theorem withOptions_refines (scope : Scope) (call : Invocation) :
    (withOptions scope call).Refines (withOptions scope call) := by
  unfold withOptions
  split
  · exact .pure _
  · exact .bind (find_refines scope _) fun _ => .pure _

section Elements

variable {render : Renderer} (hr : Renderer.Tolerant render)

include hr

theorem renderHelper_refines (scope : Scope) (e : Expression) (content : Content) :
    (renderHelper render scope e content).Refines
      (renderHelper render scope.lenient e content) := by
  refine .bind (e.invoke_refines scope) fun call => .bind (.emit _) fun _ => ?_
  cases Helper.ofName? call.name with
  | none => exact .fail _ _
  | some helper =>
    have h := Helper.answer?_refines helper scope call
    dsimp only
    generalize helper.answer? scope call = strict, helper.answer? scope.lenient call = lenient at h
    cases h with
    | some h => exact .bind h fun _ => .write _
    | none => exact Helper.renderBlock_refines hr helper scope content call

theorem renderBare_refines (scope : Scope) (e : Expression) :
    (renderBare render scope e).Refines (renderBare render scope.lenient e) := by
  refine .bind (Param.headName_refines scope e.head) fun name => ?_
  split
  · exact renderHelper_refines hr scope e {}
  · refine .bind (.emit _) fun _ => .bind (Param.evaluate_refines scope e.head) fun a => ?_
    split
    · exact .unless (by simp [Scope.lenient]) (.pure ())
    · exact writeIndented_refines scope _

theorem renderPartial_refines (scope : Scope) (call : Invocation) (body : Option Template)
    (indent : Option String) :
    (renderPartial render scope call body indent).Refines
      (renderPartial render scope.lenient call body indent) := by
  refine .bind .get fun before => ?_
  have hfind : findPartial scope.lenient before.partials call.name body =
      findPartial scope before.partials call.name body := rfl
  rw [hfind]
  cases findPartial scope before.partials call.name body with
  | none => exact .pure ()
  | some t =>
    -- The scope of the included template is made of the scope around it, strictness apart.
    let inner : Scope := { scope with
      contentDepth :=
        if call.name = contentName then scope.contentDepth + 1 else scope.contentDepth - 1 }
    show Refines (withOptions (inclusionScope inner call) call >>= _)
      (withOptions (inclusionScope inner.lenient call) call >>= _)
    rw [inclusionScope_lenient, withOptions_lenient, bind_map_left]
    exact .bind (withOptions_refines _ call) fun _ => .bind (hr _ t) fun _ => .modify _

theorem renderInclusion_refines (scope : Scope) (e : Expression) (body : Option Template)
    (indent : Option String) :
    (renderInclusion render scope e body indent).Refines
      (renderInclusion render scope.lenient e body indent) := by
  exact .bind (e.invoke_refines scope) fun call =>
    .bind (runDecorators_refines scope _) fun _ => renderPartial_refines hr scope call body indent

theorem renderElement_refines (scope : Scope) (element : Element) :
    (renderElement render scope element).Refines (renderElement render scope.lenient element) := by
  cases element with
  | text s => exact writeIndented_refines scope s
  | comment => exact .pure ()
  | value e =>
    simp only [renderElement]
    split
    · exact renderBare_refines hr scope e
    · exact renderHelper_refines hr scope e {}
  | block e body inverse => exact renderHelper_refines hr scope e _
  | decorator e body => exact runDecorator_refines scope e body
  | inclusion e body indent => exact renderInclusion_refines hr scope e body indent

theorem renderElements_refines : Renderer.Tolerant (renderElements render) := by
  intro scope t
  induction t with
  | nil => exact .pure ()
  | cons element rest ih =>
    obtain ⟨position, element⟩ := element
    exact .bind (.placed (renderElement_refines hr scope element) position) fun _ => ih

end Elements

/-- However deep templates may be nested, a strict rendering refines the lenient one. -/
theorem render_tolerant (depth : Nat) : Renderer.Tolerant (render depth) := by
  induction depth with
  | zero => exact fun _ _ => .fail _ _
  | succ depth ih => exact renderElements_refines ih

/-- Strictness only ever turns an answer into an error of rendering: a strict evaluation that
succeeds gives the lenient answer. -/
theorem evaluate_strict_refines (around : Surroundings) (template : Option String)
    (params : Option Params) :
    (∀ v, (evaluate true around template params).value = .ok v →
      (evaluate false around template params).value = .ok v) ∧
    ((evaluate true around template params).value =
        (evaluate false around template params).value ∨
      ∃ m, (evaluate true around template params).value = .error (.render m)) := by
  cases template with
  | none => exact ⟨fun _ h => h, .inl rfl⟩
  | some source =>
    cases hc : compile source around.refusedAt with
    | error e =>
      rw [value_evaluate_of_error true around params hc,
        value_evaluate_of_error false around params hc]
      exact ⟨fun _ h => h, .inl rfl⟩
    | ok t =>
      rw [value_evaluate_of_ok true around params hc, value_evaluate_of_ok false around params hc]
      have h := render_tolerant (depthFor source) (.start true around (params.getD [])) t
      refine ⟨fun v hv => answerOf_ok h hv, ?_⟩
      cases hs : answerOf ((render (depthFor source) (.start true around (params.getD [])) t).runFrom
          {}) with
      | ok v => exact .inl (answerOf_ok h hs).symm
      | error e =>
        obtain ⟨text, rfl⟩ := answerOf_error h hs
        exact .inr ⟨text, rfl⟩

end TemplateEngines.Handlebars
