/-
The source of a template, from the arguments to the report. Arguments ask only for requests with
exactly one source, and a file that is given is read. So a run never ends for want of a template
(`run_one_source`). Reports may hold any text that the arguments and files hold, so they are told
apart by how they start (`Report.Apart`).
-/
import TemplateEngines.Program
import TemplateEngines.Proofs.CommandLine.Reading
import TemplateEngines.Proofs.Rendering.Modes
import TemplateEngines.Proofs.Rendering.TemplateFile

namespace TemplateEngines

open CommandLine (Arguments Command UsageError)

/-! ## Requests -/

namespace RenderRequest

variable {request : RenderRequest}

theorem readTemplate_ne_noTemplate (h : request.HasOneSource) (files : Files) :
    request.readTemplate files ≠ .error .noTemplate := by
  cases h with
  | inline text htemplate _ =>
    unfold readTemplate
    rw [htemplate]
    exact nofun
  | file path htemplate hfile _ =>
    rw [readTemplate_of_file htemplate hfile]
    cases files.readText path <;> exact nofun

theorem resultText_ne_noTemplate (strict : Bool) (template : String)
    (answer : Except ScriptError Json) : resultText strict template answer ≠ .error .noTemplate := by
  cases answer with
  | ok v => exact nofun
  | error e => cases strict <;> exact nofun

theorem value_render_ne_noTemplate (h : request.HasOneSource) (config : Config) (files : Files)
    (around : Surroundings) : (request.render config files around).value ≠ .error .noTemplate := by
  have hread := readTemplate_ne_noTemplate h files
  rw [value_render_eq]
  cases htemplate : request.readTemplate files with
  | error e =>
    rw [htemplate] at hread
    exact hread
  | ok template =>
    cases config.parameters request.assignments with
    | error e => exact nofun
    | ok params => exact resultText_ne_noTemplate request.strict template _

end RenderRequest

theorem Config.value_perform_ne_noTemplate (config : Config) (files : Files) (around : Surroundings)
    {command : Command} (h : ∀ request, command = .render request → request.HasOneSource) :
    (config.perform files around command).value ≠ .error .noTemplate := by
  cases command with
  | engines => exact nofun
  | render request =>
    have hrender := RenderRequest.value_render_ne_noTemplate (h request rfl) config files around
    simp only [perform, Logged.value_bind, Logged.value_pure]
    generalize (request.render config files around).value = result at hrender
    cases result with
    | error e => exact hrender
    | ok text => exact nofun

/-! ## Reports -/

namespace Report

/-- The report is a text that starts so. -/
def StartsWith (front : String) : Report → Prop
  | text s => front.toList <+: s.toList
  | record .. => False

/-- How the program says that there is no template. -/
def wantOfTemplate : String := "Error: " ++ RenderFailure.noTemplate.message

/-- Neither text starts with the other. -/
def Apart (s t : String) : Prop := ¬ s.toList <+: t.toList ∧ ¬ t.toList <+: s.toList

instance (s t : String) : Decidable (Apart s t) := inferInstanceAs (Decidable (_ ∧ _))

namespace Apart

variable {s t : String}

/-- What follows does not bring texts together. -/
theorem append {rest : String} (h : Apart s t) : Apart s (t ++ rest) := by
  rw [Apart, String.toList_append]
  refine ⟨fun hs => ?_, fun ht => h.2 ((List.prefix_append ..).trans ht)⟩
  rcases List.prefix_or_prefix_of_prefix hs (List.prefix_append ..) with hst | hts
  · exact h.1 hst
  · exact h.2 hts

theorem prepend (front : String) (h : Apart s t) : Apart (front ++ s) (front ++ t) := by
  simpa only [Apart, String.toList_append, List.prefix_append_right_inj] using h

theorem not_startsWith (h : Apart s t) : ¬ (text t).StartsWith s := h.1

/-- Lines whose first one is apart. -/
theorem lines {rest : List String} (h : Apart s t) :
    Apart s (String.join ((t :: rest).map (· ++ "\n"))) := by
  rw [List.map_cons, String.join_cons]
  exact h.append.append

/-- A failure is told from another by its message. -/
theorem ofFailure (h : Apart s t) (causes : List String) :
    ¬ (Report.ofFailure t causes).StartsWith ("Error: " ++ s) :=
  (h.prepend "Error: ").lines.not_startsWith

end Apart

end Report

open Report (wantOfTemplate Apart)

theorem CommandLine.UsageError.not_startsWith (e : UsageError) :
    ¬ (Report.text e.text).StartsWith wantOfTemplate := by
  refine Apart.not_startsWith ?_
  cases e with
  | noArguments => exact .lines (by decide +kernel)
  | unexpectedValue | conflict =>
    exact .append (.append (.append (.append (.append (by decide +kernel)))))
  | missingOption =>
    refine .append (.append (.append ?_))
    show Apart wantOfTemplate "error: the following required arguments were not provided:"
    decide +kernel
  | _ => exact .append (.append (.append (by decide +kernel)))

theorem ConfigError.not_startsWith (e : ConfigError) :
    ¬ (Report.ofFailure e.message e.causes).StartsWith wantOfTemplate := by
  refine Apart.ofFailure ?_ _
  cases e <;> exact .append (by decide +kernel)

theorem RenderFailure.not_startsWith {e : RenderFailure} (h : e ≠ .noTemplate) :
    ¬ (Report.ofFailure e.message e.causes).StartsWith wantOfTemplate := by
  refine Apart.ofFailure ?_ _
  cases e with
  | noTemplate => exact absurd rfl h
  | unreadable => exact .append (by decide +kernel)
  | «variable» e => cases e <;> exact .append (.append (by decide +kernel))
  | script e =>
    cases e with
    | invalidName | unknownEngine => exact .append (by decide +kernel)
    | evaluation => exact .append (.append (.append (by decide +kernel)))

/-! ## Running -/

namespace Program

open Log (Filter)

/-- Complaints about a filter are about what is left out of it. -/
theorem not_startsWith_complaint {environment : Dict String} {text complaint : String}
    (h : complaint ∈ (Filter.select environment text).2) :
    ¬ (Report.text (complaint ++ "\n")).StartsWith wantOfTemplate := by
  unfold Filter.select at h
  split at h
  · cases h
  · obtain ⟨⟨piece, reading⟩, -, hcomplaint⟩ := List.mem_filterMap.1 h
    cases reading with
    | ok directive => cases hcomplaint
    | error fault =>
      obtain rfl := Option.some.inj hcomplaint
      refine Apart.not_startsWith ?_
      exact .append (.append (.append (.append (by decide +kernel))))

/-- What is reported about the log, and the log itself. -/
theorem not_startsWith_log (environment : Dict String) (text : String) (coloured : Bool)
    (records : List Log.Record) :
    ∀ report ∈ (Filter.select environment text).2.map (fun complaint =>
        Report.text (complaint ++ "\n")) ++
      records.map (fun r => Report.record coloured (r.line coloured)),
      ¬ report.StartsWith wantOfTemplate := by
  rw [List.forall_mem_append, List.forall_mem_map, List.forall_mem_map]
  exact ⟨fun _ => not_startsWith_complaint, fun _ _ => id⟩

variable (files : Files) (around : Surroundings)

theorem not_startsWith_runArguments {arguments : Arguments}
    (h : ∀ request, arguments.command = .render request → request.HasOneSource) :
    ∀ report ∈ (runArguments files around arguments).reports,
      ¬ report.StartsWith wantOfTemplate := by
  unfold runArguments
  cases loadConfig files around arguments with
  | error e => exact List.forall_mem_singleton.2 e.not_startsWith
  | ok config =>
    have hvalue : (config.runCommand files around arguments).value ≠ .error .noTemplate :=
      config.value_perform_ne_noTemplate files around h
    have hlog := not_startsWith_log around.environment (config.effectiveLevel arguments)
      (!arguments.noColor)
    simp only
    split
    · exact hlog _
    next e he =>
      have hfailure := RenderFailure.not_startsWith fun hnone => hvalue (hnone ▸ he)
      exact List.forall_mem_append.2 ⟨hlog _, List.forall_mem_singleton.2 hfailure⟩

theorem not_startsWith_run (args : List String) :
    ∀ report ∈ (run files around args).reports, ¬ report.StartsWith wantOfTemplate := by
  unfold run
  cases hparse : Arguments.parse args with
  | error stop =>
    cases stop with
    | help | version => exact List.forall_mem_nil _
    | misuse e => exact List.forall_mem_singleton.2 e.not_startsWith
  | ok arguments =>
    exact not_startsWith_runArguments files around fun _ => CommandLine.hasOneSource_of_parse hparse

end Program

/-- Whatever the arguments are, there is one source of the template. The requests that arguments can
ask for are those with exactly one source. If a file is given there is no other template, and the
file is read. So no run reports that there is no template. -/
theorem Program.run_one_source :
    (∀ request : RenderRequest,
      (∃ args arguments, Arguments.parse args = .ok arguments ∧
        arguments.command = .render request) ↔ request.HasOneSource) ∧
    (∀ args arguments request path, Arguments.parse args = .ok arguments →
      arguments.command = .render request → request.file = some path →
      request.template = none ∧
        ∀ files, request.readTemplate files = (files.readText path).mapError (.unreadable path)) ∧
    ∀ files around args, ∀ report ∈ (run files around args).reports,
      ¬ report.StartsWith wantOfTemplate := by
  refine ⟨fun request => CommandLine.exists_parse_iff, ?_, not_startsWith_run⟩
  intro args arguments request path hparse hcommand hpath
  have hsource := CommandLine.hasOneSource_of_parse hparse hcommand
  cases hsource with
  | inline text htemplate hfile =>
    rw [hfile] at hpath
    cases hpath
  | file _ htemplate =>
    exact ⟨htemplate, RenderRequest.readTemplate_of_file htemplate hpath⟩

/-- Options in several spellings, on both sides of the command. -/
theorem Program.run_one_source_file :
    let args := ["-v", "render", "-fnote.txt", "-V", "a=1", "--no-color", "--var=a=2"]
    let request : RenderRequest := { file := some "note.txt", assignments := ["a=1", "a=2"] }
    let arguments : Arguments := { command := .render request, verbose := true, noColor := true }
    Arguments.parse args = .ok arguments ∧ request.HasOneSource ∧
      ∀ files, request.readTemplate files =
        (files.readText "note.txt").mapError (.unreadable "note.txt") := by
  intro args request arguments
  have hparse : Arguments.parse args = .ok arguments := by decide +kernel
  obtain ⟨hiff, hfile, -⟩ := run_one_source
  have hsource : request.HasOneSource := (hiff request).1 ⟨args, arguments, hparse, rfl⟩
  exact ⟨hparse, hsource, (hfile args arguments request "note.txt" hparse rfl rfl).2⟩

end TemplateEngines
