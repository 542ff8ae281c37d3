/-
Formats of times in templates. Whether `format_time` refuses a format depends on the format alone:
if it is refused for one time it is refused for every time, with the same message, and otherwise
every time is written (`evaluate_format_time_refusal`).
-/
import TemplateEngines.Proofs.Handlebars.Times
import TemplateEngines.Proofs.Time.Formats
import Mathlib.Tactic

namespace TemplateEngines.Handlebars

/-! ## Faults with their place -/

namespace Render

/-- A computation that ends with a fault, whatever has been written before. -/
def Fails {α : Type} (m : Render α) (f : PlacedFault) : Prop :=
  ∀ p : Progress, ∃ q, m.runFrom p = (.error f, q)

namespace Fails

variable {α β : Type} {m : Render α} {f : PlacedFault}

theorem fail (fault : Fault) : (fail fault : Render α).Fails { fault } := fun p => ⟨p, rfl⟩

theorem bind (h : m.Fails f) (next : α → Render β) : (m >>= next).Fails f := by
  intro p
  obtain ⟨q, hm⟩ := h p
  exact ⟨q, by rw [runFrom_bind, hm]⟩

theorem after {first : Render Unit} {text : String} (hfirst : first.Writes (.ok text))
    (h : m.Fails f) : (first >>= fun _ => m).Fails f := by
  intro p
  obtain ⟨q, hq, -⟩ := hfirst p
  obtain ⟨q', hm⟩ := h q
  exact ⟨q', by rw [runFrom_bind, hq]; exact hm⟩

/-- A tag gives its place to a fault that has none. -/
theorem placed {m : Render Unit} {fault : Fault} (h : m.Fails { fault }) (position : Position) :
    (placed position m).Fails { fault, position := some position } := by
  intro p
  obtain ⟨q, hm⟩ := h p
  exact ⟨q, by rw [runFrom_placed, hm]; rfl⟩

end Fails

end Render

section Call

variable {name source : String} {exprs : List Param} {arguments : List Argument} {helper : Helper}
  {position : Position} {fault : Fault} (strict : Bool) (around : Surroundings) {params : Params}

/-- A template that is a call of a helper fails at its tag if the helper fails. -/
theorem evaluate_call_refused (hne : exprs ≠ [])
    (hparams : Param.evaluateAll (.start strict around params) exprs = pure arguments)
    (hname : Helper.ofName? name = some helper)
    (hcompile : compile source around.refusedAt =
      .ok [(position, .value (.ofCall name exprs))])
    (hanswer : helper.answer? (.start strict around params) ⟨name, arguments, []⟩ =
      some (Render.fail fault)) :
    (evaluate strict around (some source) (some params)).value =
      .error (.render (PlacedFault.message { fault, position := some position })) := by
  have hhelper (render : Renderer) :
      (renderHelper render (.start strict around params) (.ofCall name exprs) {}).Fails { fault } := by
    simp only [renderHelper, invoke_call hparams, pure_bind, hname, hanswer]
    exact .after (.emit _) ((Render.Fails.fail fault).bind _)
  have helements (render : Renderer) : (renderElements render (.start strict around params)
      [(position, .value (.ofCall name exprs))]).Fails { fault, position := some position } := by
    rw [renderElements, renderElement_call render _ hne]
    exact ((hhelper render).placed position).bind _
  obtain ⟨q, hq⟩ := helements (render (source.length + 65535)) {}
  have hrender : (render (depthFor source) (.start strict around params)
      [(position, .value (.ofCall name exprs))]).runFrom {} =
        (.error { fault, position := some position }, q) := hq
  rw [value_evaluate_of_ok strict around (some params) hcompile, Option.getD_some, hrender]
  rfl

end Call

/-! ## Times -/

/-- A value that denotes a time: an RFC 3339 text or a whole number of seconds. -/
def DenotesTime (v : Json) : Prop := ∃ m, Time.Moment.ofText? v.valueText = some m

/-- Whole numbers denote times from the first second of the year -262143 to the last of 262142. -/
theorem denotesTime_int {n : Int} (hlow : Time.Moment.minUnixSeconds ≤ n)
    (hhigh : n ≤ Time.Moment.maxUnixSeconds) : DenotesTime (.number (.int n)) :=
  ⟨_, Time.Moment.ofText?_writeInt hlow hhigh⟩

/-- Local times denote times at every offset. -/
theorem denotesTime_text {t : Time.LocalTime} (h : t.date.InCalendar) :
    DenotesTime (.string t.text) :=
  ⟨_, Time.LocalTime.ofText?_text h⟩

/-! ## Formats -/

theorem compile_format_time_params (refusedAt : String → Position) :
    compile "\x7b\x7bformat_time ts format\x7d\x7d" refusedAt =
      .ok [(⟨1, 1⟩, .value (.ofCall "format_time"
        [.path ⟨"ts", [.name "ts"]⟩, .path ⟨"format", [.name "format"]⟩]))] := by
  with_unfolding_all rfl

/-- What `format_time` answers for a text that denotes a time and a text that is no format. -/
theorem Helper.answer?_formatTime_of_no_format (scope : Scope) {name text format : String}
    {a : Argument} {rest : List Argument} {m : Time.Moment} (htext : a.found.value.valueText = text)
    (hformat : Invocation.text? ⟨name, a :: rest, []⟩ 1 = some format)
    (hm : Time.Moment.ofText? text = some m) (hf : Time.Format.parse format = none) :
    formatTime.answer? scope ⟨name, a :: rest, []⟩ = some (Render.fail (.badTimeFormat format)) := by
  simp [answer?, firstText, htext, hm, hformat, writeTime, hf]

/-- The message of a refused format at the start of the template. -/
theorem message_badTimeFormat (format : String) :
    PlacedFault.message { fault := .badTimeFormat format, position := some ⟨1, 1⟩ } =
      "Error rendering \"Unnamed template\" line 1, col 1: invalid time format: " ++ format := by
  have hfront : "Error rendering \"Unnamed template\" line " ++ toString 1 ++ ", col " ++
      toString 1 ++ ": " ++ "invalid time format: " =
        "Error rendering \"Unnamed template\" line 1, col 1: invalid time format: " := by
    with_unfolding_all rfl
  exact String.append_assoc.symm.trans (congrArg (· ++ format) hfront)

section Refusal

variable (strict : Bool) (around : Surroundings) {params : Params} {v : Json} {format : String}
  (hts : params.get? "ts" = some v) (hformat : params.get? "format" = some (.string format))
  (htime : DenotesTime v)

include hts hformat

theorem evaluateAll_ts_format :
    Param.evaluateAll (.start strict around params)
      [.path ⟨"ts", [.name "ts"]⟩, .path ⟨"format", [.name "format"]⟩] =
        pure [⟨some "ts", .inData v ["ts"]⟩, ⟨some "format", .inData (.string format) ["format"]⟩] :=
  evaluateAll_cons (evaluate_name_param strict around hts)
    (evaluateAll_cons (evaluate_name_param strict around hformat) rfl)

include htime

/-- A time is written by any format. -/
theorem evaluate_format_time_of_isFormat (h : Time.IsFormat format.toList) :
    ∃ text, (evaluate strict around (some "\x7b\x7bformat_time ts format\x7d\x7d")
      (some params)).value = .ok (.string text) := by
  obtain ⟨m, hm⟩ := htime
  obtain ⟨f, hf⟩ := Option.isSome_iff_exists.1 ((Time.Format.parse_isSome_iff format).2 h)
  exact ⟨_, evaluate_call strict around (List.cons_ne_nil _ _)
    (evaluateAll_ts_format strict around hts hformat) rfl (compile_format_time_params _)
    (Helper.answer?_formatTime _ rfl rfl hm hf)⟩

/-- A text that is no format is refused for any time. -/
theorem evaluate_format_time_of_not_isFormat (h : ¬ Time.IsFormat format.toList) :
    (evaluate strict around (some "\x7b\x7bformat_time ts format\x7d\x7d") (some params)).value =
      .error (.render
        ("Error rendering \"Unnamed template\" line 1, col 1: invalid time format: " ++ format)) := by
  obtain ⟨m, hm⟩ := htime
  have hf : Time.Format.parse format = none := by
    rwa [← Time.Format.parse_isSome_iff, Option.not_isSome_iff_eq_none] at h
  rw [← message_badTimeFormat]
  exact evaluate_call_refused strict around (List.cons_ne_nil _ _)
    (evaluateAll_ts_format strict around hts hformat) rfl (compile_format_time_params _)
    (Helper.answer?_formatTime_of_no_format _ rfl rfl hm hf)

end Refusal

/-- Two times and one format, in any two evaluations: the format is refused for the one time if and
only if it is refused for the other, namely if it is none, and a time for which it is not refused is
written. -/
theorem evaluate_format_time_refusal (strict strict' : Bool) (around around' : Surroundings)
    {params params' : Params} {a b : Json} {format : String}
    (ha : params.get? "ts" = some a) (hformat : params.get? "format" = some (.string format))
    (hb : params'.get? "ts" = some b) (hformat' : params'.get? "format" = some (.string format))
    (htime : DenotesTime a) (htime' : DenotesTime b) :
    let first := (evaluate strict around (some "\x7b\x7bformat_time ts format\x7d\x7d")
      (some params)).value
    let second := (evaluate strict' around' (some "\x7b\x7bformat_time ts format\x7d\x7d")
      (some params')).value
    let refused : Except EngineError Json := .error (.render
      ("Error rendering \"Unnamed template\" line 1, col 1: invalid time format: " ++ format))
    (first = refused ↔ second = refused) ∧
    (first = refused ∨ ∃ text, first = .ok (.string text)) ∧
    (second = refused ∨ ∃ text, second = .ok (.string text)) ∧
    (first = refused ↔ ¬ Time.IsFormat format.toList) := by
  intro first second refused
  by_cases h : Time.IsFormat format.toList
  · obtain ⟨text, hfirst⟩ := evaluate_format_time_of_isFormat strict around ha hformat htime h
    obtain ⟨text', hsecond⟩ :=
      evaluate_format_time_of_isFormat strict' around' hb hformat' htime' h
    have hne : first ≠ refused := by
      rw [show first = .ok (.string text) from hfirst]
      simp [refused]
    have hne' : second ≠ refused := by
      rw [show second = .ok (.string text') from hsecond]
      simp [refused]
    exact ⟨iff_of_false hne hne', .inr ⟨text, hfirst⟩, .inr ⟨text', hsecond⟩,
      iff_of_false hne (not_not_intro h)⟩
  · have hfirst : first = refused :=
      evaluate_format_time_of_not_isFormat strict around ha hformat htime h
    have hsecond : second = refused :=
      evaluate_format_time_of_not_isFormat strict' around' hb hformat' htime' h
    exact ⟨iff_of_true hfirst hsecond, .inl hfirst, .inl hsecond, iff_of_true hfirst h⟩

/-- The first second that is a time and the last minute of the year 9999 far to the west, which in
UTC lies in the year 10000, with a format that breaks off inside an offset. -/
theorem evaluate_format_time_refusal_extremes :
    ∃ a b : Json, a = .number (.int (-8334601228800)) ∧ b = .string "9999-12-31T23:59:59-23:59" ∧
      DenotesTime a ∧ DenotesTime b ∧
      ((evaluate true .bare (some "\x7b\x7bformat_time ts format\x7d\x7d")
          (some [("format", .string "%Y %::"), ("ts", a)])).value = .error (.render
            ("Error rendering \"Unnamed template\" line 1, col 1: invalid time format: " ++ "%Y %::")) ↔
        (evaluate false .bare (some "\x7b\x7bformat_time ts format\x7d\x7d")
          (some [("format", .string "%Y %::"), ("ts", b)])).value = .error (.render
            ("Error rendering \"Unnamed template\" line 1, col 1: invalid time format: " ++
              "%Y %::"))) := by
  let west : Time.LocalTime :=
    { date := ⟨9999, 12, 31⟩, hour := 23, minute := 59, second := 59
      zone := { behind := true, hours := 23, minutes := 59 } }
  have hwest : west.text = "9999-12-31T23:59:59-23:59" := by decide +kernel
  have hlow : Time.Moment.minUnixSeconds = -8334601228800 := by decide
  have hhigh : -8334601228800 ≤ Time.Moment.maxUnixSeconds := by decide
  have htime : DenotesTime (.number (.int (-8334601228800))) :=
    denotesTime_int (le_of_eq hlow) hhigh
  have htime' : DenotesTime (.string west.text) :=
    denotesTime_text (show west.date.InCalendar by decide)
  rw [hwest] at htime'
  refine ⟨_, _, rfl, rfl, htime, htime', ?_⟩
  exact (evaluate_format_time_refusal true false .bare .bare rfl rfl rfl rfl htime htime').1

end TemplateEngines.Handlebars
