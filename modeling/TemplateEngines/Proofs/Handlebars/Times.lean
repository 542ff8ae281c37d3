/-
Times in templates. A time in UTC that `format_time` writes as RFC 3339 does is read by
`format_time` again, and seconds since the start of 1970 survive the way there and back
(`evaluate_format_time_seconds`). A local time with an offset is written as it was read, provided
that its date exists (`evaluate_format_time_local`).
-/
import TemplateEngines.Proofs.Handlebars.Calls
import TemplateEngines.Proofs.Time.Local
import Mathlib.Tactic

namespace TemplateEngines.Handlebars

/-- The answer of `format_time` for a text that denotes a time and a format that is one. -/
theorem Helper.answer?_formatTime (scope : Scope) {name text format : String} {a : Argument}
    {rest : List Argument} {m : Time.Moment} {f : Time.Format}
    (htext : a.found.value.valueText = text)
    (hformat : Invocation.text? ⟨name, a :: rest, []⟩ 1 = some format)
    (hm : Time.Moment.ofText? text = some m) (hf : Time.Format.parse format = some f) :
    formatTime.answer? scope ⟨name, a :: rest, []⟩ =
      some (pure (.string (m.write m.offsetName f))) := by
  simp [answer?, firstText, htext, hm, hformat, writeTime, hf]

/-- A text that denotes no time is refused. -/
theorem Helper.answer?_formatTime_of_none (scope : Scope) {name text : String} {a : Argument}
    {rest : List Argument} (htext : a.found.value.valueText = text)
    (hnone : Time.Moment.ofText? text = none) :
    formatTime.answer? scope ⟨name, a :: rest, []⟩ = some (Render.fail (.unknownTime text)) := by
  simp [answer?, firstText, htext, hnone]

/-! ## Templates -/

theorem compile_format_time_iso (refusedAt : String → Position) :
    compile "\x7b\x7bformat_time n \"%Y-%m-%dT%H:%M:%SZ\"\x7d\x7d" refusedAt =
      .ok [(⟨1, 1⟩, .value (.ofCall "format_time"
        [.path ⟨"n", [.name "n"]⟩, .literal (.string "%Y-%m-%dT%H:%M:%SZ")]))] := by
  with_unfolding_all rfl

theorem compile_format_time_seconds (refusedAt : String → Position) :
    compile "\x7b\x7bformat_time (format_time n \"%Y-%m-%dT%H:%M:%SZ\") \"%s\"\x7d\x7d" refusedAt =
      .ok [(⟨1, 1⟩, .value (.ofCall "format_time"
        [.call (.name "format_time")
          [.path ⟨"n", [.name "n"]⟩, .literal (.string "%Y-%m-%dT%H:%M:%SZ")] [],
        .literal (.string "%s")]))] := by
  with_unfolding_all rfl

theorem compile_format_time_local (refusedAt : String → Position) :
    compile "\x7b\x7bformat_time ts \"%Y-%m-%dT%H:%M:%S%:z\"\x7d\x7d" refusedAt =
      .ok [(⟨1, 1⟩, .value (.ofCall "format_time"
        [.path ⟨"ts", [.name "ts"]⟩, .literal (.string "%Y-%m-%dT%H:%M:%S%:z")]))] := by
  with_unfolding_all rfl

theorem compile_format_time_unix (refusedAt : String → Position) :
    compile "\x7b\x7bformat_time ts \"%s\"\x7d\x7d" refusedAt =
      .ok [(⟨1, 1⟩, .value (.ofCall "format_time"
        [.path ⟨"ts", [.name "ts"]⟩, .literal (.string "%s")]))] := by
  with_unfolding_all rfl

theorem evaluateAll_named (strict : Bool) (around : Surroundings) {params : Params} {k : String}
    {v : Json} (h : params.get? k = some v) (format : String) :
    Param.evaluateAll (.start strict around params)
      [.path ⟨k, [.name k]⟩, .literal (.string format)] =
        pure [⟨some k, .inData v [k]⟩, ⟨none, .literal (.string format)⟩] :=
  evaluateAll_cons (evaluate_name_param strict around h) (evaluateAll_literal _ _)

section Seconds

variable (strict : Bool) (around : Surroundings) {params : Params} {n : Int}
  (hn : params.get? "n" = some (.number (.int n)))

include hn

/-- Seconds since the start of 1970, in the years 0 to 9999, are written as the RFC 3339 text of
the date and the time that lie so many seconds after that start. This text is read again and written
as the same number. -/
theorem evaluate_format_time_seconds (hlow : -62167219200 ≤ n) (hhigh : n ≤ 253402300799) :
    (∃ (date : Time.Date) (hour minute second : Nat),
      date.isValid ∧ (0 ≤ date.year ∧ date.year ≤ 9999) ∧ hour ≤ 23 ∧ minute ≤ 59 ∧
      second ≤ 59 ∧ n = date.dayNumber * 86400 + hour * 3600 + minute * 60 + second ∧
      (evaluate strict around (some "\x7b\x7bformat_time n \"%Y-%m-%dT%H:%M:%SZ\"\x7d\x7d")
        (some params)).value =
          .ok (.string (String.ofList (Time.Moment.rfc3339 date hour minute second ['Z'])))) ∧
      (evaluate strict around
        (some "\x7b\x7bformat_time (format_time n \"%Y-%m-%dT%H:%M:%SZ\") \"%s\"\x7d\x7d")
        (some params)).value = .ok (.string (toString n)) := by
  have hfour : (Time.Moment.ofUnixSeconds n).FourDigit :=
    Time.Moment.fourDigit_ofUnixSeconds hlow (Int.lt_of_le_sub_one hhigh)
  have hmin : Time.Moment.minUnixSeconds ≤ n := le_trans (by decide) hlow
  have hmax : n ≤ Time.Moment.maxUnixSeconds := hhigh.trans (by decide)
  generalize hm : Time.Moment.ofUnixSeconds n = m at hfour
  have hread : Time.Moment.ofText? (String.ofList (writeInt n)) = some m :=
    hm ▸ Time.Moment.ofText?_writeInt hmin hmax
  have hutc : m.offset = 0 := hm ▸ rfl
  have hseconds : m.unixSeconds = n := hm ▸ Time.Moment.unixSeconds_ofUnixSeconds n
  have hinner : Helper.formatTime.answer? (.start strict around params)
      ⟨"format_time", [⟨some "n", .inData (.number (.int n)) ["n"]⟩,
        ⟨none, .literal (.string "%Y-%m-%dT%H:%M:%SZ")⟩], []⟩ =
      some (pure (.string (m.write m.offsetName (Time.Moment.dateTime ++ [.literal 'Z'])))) :=
    Helper.answer?_formatTime _ rfl rfl hread Time.Moment.parse_isoFormat
  have hparams := evaluateAll_named strict around hn "%Y-%m-%dT%H:%M:%SZ"
  constructor
  · refine ⟨m.date, m.hour, m.minute, m.secondOfMinute, Time.Date.isValid_ofDayNumber m.day,
      hfour.year_mem, hfour.hour_le, m.minute_le, hfour.secondOfMinute_le, ?_, ?_⟩
    · rw [← hseconds, hfour.unixSeconds_eq, hutc, Int.sub_zero]
    · rw [evaluate_call strict around (List.cons_ne_nil _ _) hparams rfl (compile_format_time_iso _)
        hinner, hfour.write_dateTime]
      rfl
  · have houter : Helper.formatTime.answer? (.start strict around params)
        ⟨"format_time", [⟨none, .computed
            (.string (m.write m.offsetName (Time.Moment.dateTime ++ [.literal 'Z'])))⟩,
          ⟨none, .literal (.string "%s")⟩], []⟩ =
        some (pure (.string (m.write m.offsetName [.quantity .timestamp .none]))) :=
      Helper.answer?_formatTime _ rfl rfl (Time.Moment.ofText?_write hfour hutc _)
        Time.Moment.parse_unixFormat
    rw [Time.Moment.write_unixFormat, hseconds, ofList_writeInt] at houter
    have hargs := evaluateAll_cons (evaluate_call_param hparams rfl hinner)
      (evaluateAll_literal _ (.string "%s"))
    exact evaluate_call strict around (List.cons_ne_nil _ _) hargs rfl
      (compile_format_time_seconds _) houter

end Seconds

/-- The last second of the 29th of February in the year 0, long before 1970. -/
theorem evaluate_format_time_seconds_leap :
    (∃ (date : Time.Date) (hour minute second : Nat),
      date.isValid ∧ (0 ≤ date.year ∧ date.year ≤ 9999) ∧ hour ≤ 23 ∧ minute ≤ 59 ∧
      second ≤ 59 ∧ -62162035201 = date.dayNumber * 86400 + hour * 3600 + minute * 60 + second ∧
      (evaluate true .bare (some "\x7b\x7bformat_time n \"%Y-%m-%dT%H:%M:%SZ\"\x7d\x7d")
        (some [("n", .number (.int (-62162035201)))])).value =
          .ok (.string (String.ofList (Time.Moment.rfc3339 date hour minute second ['Z'])))) ∧
      (evaluate true .bare
        (some "\x7b\x7bformat_time (format_time n \"%Y-%m-%dT%H:%M:%SZ\") \"%s\"\x7d\x7d")
        (some [("n", .number (.int (-62162035201)))])).value = .ok (.string "-62162035201") := by
  have hn : Dict.get? [("n", Json.number (.int (-62162035201)))] "n" =
      some (.number (.int (-62162035201))) := rfl
  exact evaluate_format_time_seconds true .bare hn (by decide) (by decide)

section Local

variable (strict : Bool) (around : Surroundings) {params : Params} {t : Time.LocalTime}
  (hts : params.get? "ts" = some (.string t.text))

include hts

/-- A local time with an offset of less than a day is written as it was read if the month has the
day. In between it is the instant that lies before the local time by the offset. If the month does
not have the day, or there is no such month, the text is refused. -/
theorem evaluate_format_time_local :
    (t.date.InCalendar →
      (evaluate strict around (some "\x7b\x7bformat_time ts \"%Y-%m-%dT%H:%M:%S%:z\"\x7d\x7d")
        (some params)).value = .ok (.string t.text) ∧
      (evaluate strict around (some "\x7b\x7bformat_time ts \"%s\"\x7d\x7d")
        (some params)).value = .ok (.string (toString t.unixSeconds))) ∧
    (¬ t.date.InCalendar → ∃ position,
      (evaluate strict around (some "\x7b\x7bformat_time ts \"%Y-%m-%dT%H:%M:%S%:z\"\x7d\x7d")
        (some params)).value =
          .error (.render (PlacedFault.message { fault := .unknownTime t.text, position }))) := by
  have hparams := evaluateAll_named strict around hts
  have hanswer {format : String} {f : Time.Format} (h : t.date.InCalendar)
      (hf : Time.Format.parse format = some f) :
      Helper.formatTime.answer? (.start strict around params)
        ⟨"format_time", [⟨some "ts", .inData (.string t.text) ["ts"]⟩,
          ⟨none, .literal (.string format)⟩], []⟩ =
        some (pure (.string ((Time.Moment.atOffset t.unixSeconds t.zone.seconds).write
          (Time.Moment.atOffset t.unixSeconds t.zone.seconds).offsetName f))) :=
    Helper.answer?_formatTime _ rfl rfl (Time.LocalTime.ofText?_text h) hf
  refine ⟨fun h => ⟨?_, ?_⟩, fun h => ?_⟩
  · have hwritten := hanswer h Time.Moment.parse_localFormat
    rw [Time.LocalTime.write_text h] at hwritten
    exact evaluate_call strict around (List.cons_ne_nil _ _) (hparams _) rfl
      (compile_format_time_local _) hwritten
  · have hwritten := hanswer h Time.Moment.parse_unixFormat
    rw [Time.Moment.write_unixFormat, Time.Moment.unixSeconds_atOffset, ofList_writeInt] at hwritten
    exact evaluate_call strict around (List.cons_ne_nil _ _) (hparams _) rfl
      (compile_format_time_unix _) hwritten
  · have hrefused : Helper.formatTime.answer? (.start strict around params)
        ⟨"format_time", [⟨some "ts", .inData (.string t.text) ["ts"]⟩,
          ⟨none, .literal (.string "%Y-%m-%dT%H:%M:%S%:z")⟩], []⟩ =
        some (Render.fail (.unknownTime t.text)) :=
      Helper.answer?_formatTime_of_none _ rfl (Time.LocalTime.ofText?_text_of_not_inCalendar h)
    exact evaluate_call_of_fails strict around (List.cons_ne_nil _ _) (hparams _) rfl
      (compile_format_time_local _) hrefused

end Local

/-- The first second of the year 0 far to the east, which in UTC lies in the year before, and a 29th
of February that the year 1900 lacks. -/
theorem evaluate_format_time_local_borders :
    (∃ t : Time.LocalTime, t.text = "0000-01-01T00:00:00+23:59" ∧ t.date.InCalendar ∧
      (evaluate true .bare (some "\x7b\x7bformat_time ts \"%Y-%m-%dT%H:%M:%S%:z\"\x7d\x7d")
        (some [("ts", .string "0000-01-01T00:00:00+23:59")])).value =
          .ok (.string "0000-01-01T00:00:00+23:59") ∧
      (evaluate true .bare (some "\x7b\x7bformat_time ts \"%s\"\x7d\x7d")
        (some [("ts", .string "0000-01-01T00:00:00+23:59")])).value =
          .ok (.string "-62167305540")) ∧
    (∃ t : Time.LocalTime, t.text = "1900-02-29T12:30:00-00:01" ∧ ¬ t.date.InCalendar ∧
      ∃ position, (evaluate true .bare
        (some "\x7b\x7bformat_time ts \"%Y-%m-%dT%H:%M:%S%:z\"\x7d\x7d")
        (some [("ts", .string "1900-02-29T12:30:00-00:01")])).value =
          .error (.render (PlacedFault.message
            { fault := .unknownTime "1900-02-29T12:30:00-00:01", position }))) := by
  let east : Time.LocalTime :=
    { date := ⟨0, 1, 1⟩, hour := 0, minute := 0, second := 0
      zone := { behind := false, hours := 23, minutes := 59 } }
  let lacking : Time.LocalTime :=
    { date := ⟨1900, 2, 29⟩, hour := 12, minute := 30, second := 0
      zone := { behind := true, hours := 0, minutes := 1 } }
  have heast : east.text = "0000-01-01T00:00:00+23:59" := by decide +kernel
  have hlacking : lacking.text = "1900-02-29T12:30:00-00:01" := by decide +kernel
  have hseconds : toString east.unixSeconds = "-62167305540" := by decide +kernel
  have hvalid : east.date.InCalendar := by decide
  have hinvalid : ¬ lacking.date.InCalendar := by decide
  have hts (t : Time.LocalTime) :
      Dict.get? [("ts", Json.string t.text)] "ts" = some (.string t.text) := rfl
  have hwritten :=
    (evaluate_format_time_local true .bare (hts east)).1 hvalid
  have hrefused :=
    (evaluate_format_time_local true .bare (hts lacking)).2 hinvalid
  rw [heast, hseconds] at hwritten
  rw [hlacking] at hrefused
  exact ⟨⟨east, heast, hvalid, hwritten⟩, lacking, hlacking, hinvalid, hrefused⟩

end TemplateEngines.Handlebars
