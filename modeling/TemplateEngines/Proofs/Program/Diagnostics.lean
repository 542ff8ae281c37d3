/-
What concerns the log never reaches the output. A run is decided by what it loads, apart from the
level and format of the log, and by what its command puts out (`result?_eq`). The arguments, the
configuration and the environment variables for the log change neither, with one exception: a
Handlebars template can read environment variables (`run_sameResult`).
-/
import TemplateEngines.Program
import TemplateEngines.Proofs.Config.Loading
import TemplateEngines.Proofs.Rendering.Modes

namespace TemplateEngines

open CommandLine (Arguments Command)

/-! ## What concerns the log -/

/-- The environment variables for the log. -/
def Log.variableNames : List String :=
  ["RUST_LOG", "SCRIPTGATE_LOG_LEVEL", "SCRIPTGATE_LOG_FORMAT"]

/-- Surroundings that differ at most in the variables for the log. -/
structure Surroundings.AgreeButLog (around around' : Surroundings) : Prop where
  environment : ∀ name, name ∉ Log.variableNames →
    around.environment.get? name = around'.environment.get? name
  now : around.now = around'.now
  random : around.random = around'.random
  accountHome : around.accountHome = around'.accountHome
  refusedAt : around.refusedAt = around'.refusedAt

/-- Runs with the same output and the same exit code; their reports may differ. -/
structure Run.SameResult (run run' : Run) : Prop where
  output : run.output = run'.output
  exitCode : run.exitCode = run'.exitCode

namespace Config

/-- The configuration without the level and format of the log. -/
def withoutLog (config : Config) : Config := { config with logLevel := "", logFormat := "" }

/-! ## Loading -/

section Load

variable {around around' : Surroundings} (h : around.AgreeButLog around')

include h

theorem homeDirectory?_congr_around :
    homeDirectory? around.environment around.accountHome =
      homeDirectory? around'.environment around'.accountHome := by
  rw [homeDirectory?_congr (h.environment "HOME" (by decide)), h.accountHome]

theorem withoutLog_override_congr (config : Config) :
    (config.override around.environment).withoutLog =
      (config.override around'.environment).withoutLog := by
  rw [override, override, h.environment "SCRIPTGATE_DEFAULT_ENGINE" (by decide)]
  rfl

end Load

end Config

/-! ## Performing -/

namespace RenderRequest

variable (request : RenderRequest) (config : Config)

/-- A request sees of the files only the template that it reads. -/
theorem value_render_congr_files {files files' : Files} (around : Surroundings)
    (h : request.readTemplate files = request.readTemplate files') :
    (request.render config files around).value = (request.render config files' around).value := by
  unfold render
  rw [h]

/-- An engine other than Handlebars does not see the surroundings. -/
theorem value_render_congr_around (files : Files) (around around' : Surroundings)
    (h : request.engineName config ≠ "handlebars") :
    (request.render config files around).value = (request.render config files around').value := by
  rw [value_render_eq, value_render_eq]
  cases hengine : config.engineOf? (request.engineName config) with
  | none => rfl
  | some engine =>
    have hname : Engine.name engine ≠ "handlebars" := by
      rwa [Builtin.name_of_ofName? hengine]
    simp only [Builtin.value_evaluate_congr hname around around']

end RenderRequest

namespace CommandLine.Command

/-- The name of the engine that a command asks, if it renders. -/
def engineName? (command : Command) (config : Config) : Option String :=
  match command with
  | .render request => some (request.engineName config)
  | .engines => none

/-- The template that a command reads, if it renders. -/
def readTemplate? (command : Command) (files : Files) : Option (Except RenderFailure String) :=
  match command with
  | .render request => some (request.readTemplate files)
  | .engines => none

end CommandLine.Command

namespace Config

variable (config : Config) (command : Command)

/-- The level and format of the log are not looked at. -/
theorem value_perform_withoutLog (files : Files) (around : Surroundings) :
    (config.withoutLog.perform files around command).value =
      (config.perform files around command).value := by
  cases command <;> rfl

theorem value_perform_congr_files {files files' : Files} (around : Surroundings)
    (h : command.readTemplate? files = command.readTemplate? files') :
    (config.perform files around command).value = (config.perform files' around command).value := by
  cases command with
  | engines => rfl
  | render request =>
    have hrender := request.value_render_congr_files config around (Option.some.inj h)
    simp only [perform, Logged.value_bind, hrender]

theorem value_perform_congr_around (files : Files) (around around' : Surroundings)
    (h : command.engineName? config ≠ some "handlebars") :
    (config.perform files around command).value = (config.perform files around' command).value := by
  cases command with
  | engines => rfl
  | render request =>
    have hrender := request.value_render_congr_around config files around around'
      fun hname => h (congrArg some hname)
    simp only [perform, Logged.value_bind, hrender]

end Config

/-! ## Running -/

namespace Program

/-- The variables for the log change nothing else that is loaded. -/
theorem loadConfig_congr {around around' : Surroundings} (h : around.AgreeButLog around')
    (files : Files) (arguments : Arguments) :
    (loadConfig files around arguments).map Config.withoutLog =
      (loadConfig files around' arguments).map Config.withoutLog := by
  rw [loadConfig, loadConfig, Config.load, Config.load, Config.homeDirectory?_congr_around h]
  cases Config.locate files (Config.homeDirectory? around'.environment around'.accountHome)
      arguments.config with
  | error e => rfl
  | ok config => exact congrArg Except.ok (Config.withoutLog_override_congr h config)

/-- The text that a run puts out, unless it fails. -/
def result? (files : Files) (around : Surroundings) (arguments : Arguments) : Option String :=
  (loadConfig files around arguments).toOption.bind fun config =>
    (config.perform files around arguments.command).value.toOption

/-- The name of the engine that a run asks, if it renders. -/
def engineName? (files : Files) (around : Surroundings) (arguments : Arguments) : Option String :=
  (loadConfig files around arguments).toOption.bind arguments.command.engineName?

section Result

variable {files files' : Files} {around around' : Surroundings} {arguments arguments' : Arguments}

theorem run_of_parse {args : List String} (h : Arguments.parse args = .ok arguments) :
    run files around args = runArguments files around arguments := by
  rw [run, h]

theorem runArguments_eq (files : Files) (around : Surroundings) (arguments : Arguments) :
    (runArguments files around arguments).output = (result? files around arguments).getD "" ∧
      (runArguments files around arguments).exitCode =
        (result? files around arguments).elim 1 fun _ => 0 := by
  unfold runArguments result?
  cases loadConfig files around arguments with
  | error e => exact ⟨rfl, rfl⟩
  | ok config =>
    have hvalue : (config.runCommand files around arguments).value =
      (config.perform files around arguments.command).value := rfl
    simp only [hvalue, Except.toOption, Option.bind_some]
    cases (config.perform files around arguments.command).value <;> exact ⟨rfl, rfl⟩

/-- The result decides what a run puts out and how it ends. -/
theorem runArguments_sameResult
    (h : result? files around arguments = result? files' around' arguments') :
    (runArguments files around arguments).SameResult (runArguments files' around' arguments') := by
  obtain ⟨houtput, hexit⟩ := runArguments_eq files around arguments
  obtain ⟨houtput', hexit'⟩ := runArguments_eq files' around' arguments'
  exact ⟨by rw [houtput, houtput', h], by rw [hexit, hexit', h]⟩

/-- Of what is loaded only the part without the log counts. -/
theorem result?_eq (files : Files) (around : Surroundings) (arguments : Arguments) :
    result? files around arguments =
      ((loadConfig files around arguments).map Config.withoutLog).toOption.bind
        fun config => (config.perform files around arguments.command).value.toOption := by
  unfold result?
  cases loadConfig files around arguments with
  | error e => rfl
  | ok config =>
    exact congrArg Except.toOption (config.value_perform_withoutLog arguments.command files around).symm

/-- Trees that hold the same template and the same configuration, up to the log, give the same
result. -/
theorem result?_congr_files
    (htemplate : arguments.command.readTemplate? files = arguments.command.readTemplate? files')
    (hload : (loadConfig files around arguments).map Config.withoutLog =
      (loadConfig files' around arguments).map Config.withoutLog) :
    result? files around arguments = result? files' around arguments := by
  rw [result?_eq files, result?_eq files', hload]
  congr 1
  funext config
  rw [config.value_perform_congr_files arguments.command around htemplate]

/-- Only a run that asks Handlebars sees the variables for the log. -/
theorem result?_congr_around (h : around.AgreeButLog around')
    (hengine : engineName? files around arguments ≠ some "handlebars") :
    result? files around arguments = result? files around' arguments := by
  rw [result?, result?_eq files around', ← loadConfig_congr h]
  unfold engineName? at hengine
  cases hload : loadConfig files around arguments with
  | error e => simp only [Except.map, Except.toOption, Option.bind_none]
  | ok config =>
    rw [hload] at hengine
    simp only [Except.map, Except.toOption, Option.bind_some] at hengine ⊢
    rw [config.value_perform_withoutLog,
      config.value_perform_congr_around arguments.command files around around' hengine]

end Result

/-- What concerns the log never reaches the output. Take two command lines that ask for the same, up
to the verbosity and the colours, and two trees of files that hold the same template and the same
configuration, up to the level and format of the log, whatever texts these are. In the same
surroundings the runs put out the same and end with the same exit code. So they do in surroundings
that also differ in the variables for the log, unless the engine that is asked is Handlebars. -/
theorem run_sameResult {args args' : List String} {arguments arguments' : Arguments}
    {files files' : Files} {around : Surroundings}
    (hargs : Arguments.parse args = .ok arguments)
    (hargs' : Arguments.parse args' = .ok arguments')
    (hcommand : arguments.command = arguments'.command)
    (hpath : arguments.config = arguments'.config)
    (htemplate : arguments.command.readTemplate? files = arguments.command.readTemplate? files')
    (hload : (loadConfig files around arguments).map Config.withoutLog =
      (loadConfig files' around arguments).map Config.withoutLog) :
    (run files around args).SameResult (run files' around args') ∧
    ∀ around', around.AgreeButLog around' →
      engineName? files around arguments ≠ some "handlebars" →
      (run files around args).SameResult (run files' around' args') := by
  have hresult (around' : Surroundings) :
      result? files' around' arguments = result? files' around' arguments' := by
    rw [result?, result?, loadConfig, loadConfig, hcommand, hpath]
  rw [run_of_parse hargs, run_of_parse hargs']
  refine ⟨runArguments_sameResult ?_, fun around' haround hengine => ?_⟩
  · exact (result?_congr_files htemplate hload).trans (hresult around)
  · rw [run_of_parse hargs']
    -- The files are loaded alike in the other surroundings, too.
    have hload' := hload
    rw [loadConfig_congr haround, loadConfig_congr haround] at hload'
    exact runArguments_sameResult ((result?_congr_around haround hengine).trans
      ((result?_congr_files htemplate hload').trans (hresult around')))

/-- The second run asks for more records without colours, has a filter that is none in its
configuration, and is told in the environment what to show. -/
theorem run_sameResult_substitution :
    let args := ["render", "-t", "Hi \x7bname\x7d", "-V", "name=you"]
    let args' := ["-v", "render", "--no-color", "--template=Hi \x7bname\x7d", "--var=name=you"]
    let request : RenderRequest :=
      { template := some "Hi \x7bname\x7d", assignments := ["name=you"] }
    let arguments : Arguments := { command := .render request }
    let arguments' : Arguments := { command := .render request, verbose := true, noColor := true }
    let files (source : String) : Files := fun path =>
      if path = "scriptgate.yaml" then .file source.toUTF8.data.toList else .absent
    let plain := files "default_engine: substitution\n"
    let logged := files "logging:\n  level: 'a=b,['\ndefault_engine: substitution\n"
    let around (environment : Dict String) : Surroundings := { Surroundings.bare with environment }
    let around' := around [("RUST_LOG", "trace"), ("SCRIPTGATE_LOG_LEVEL", "off")]
    Arguments.parse args = .ok arguments ∧ Arguments.parse args' = .ok arguments' ∧
      (loadConfig plain (around []) arguments).map Config.withoutLog =
        (loadConfig logged (around []) arguments).map Config.withoutLog ∧
      (around []).AgreeButLog around' ∧
      engineName? plain (around []) arguments ≠ some "handlebars" ∧
      (run plain (around []) args).SameResult (run logged around' args') := by
  intro args args' request arguments arguments' files plain logged around around'
  have hargs : Arguments.parse args = .ok arguments := by decide +kernel
  have hargs' : Arguments.parse args' = .ok arguments' := by decide +kernel
  have hload : (loadConfig plain (around []) arguments).map Config.withoutLog =
      (loadConfig logged (around []) arguments).map Config.withoutLog := by decide +kernel
  have haround : (around []).AgreeButLog around' := by
    refine ⟨fun name hname => ?_, rfl, rfl, rfl, rfl⟩
    simp only [Log.variableNames, List.mem_cons, not_or] at hname
    obtain ⟨hrust, hlevel, -⟩ := hname
    simp [around, around', Dict.get?, Ne.symm hrust, Ne.symm hlevel]
  have hengine : engineName? plain (around []) arguments ≠ some "handlebars" := by decide +kernel
  have hsame := @run_sameResult _ _ _ _ plain logged (around []) hargs hargs' rfl rfl rfl hload
  exact ⟨hargs, hargs', hload, haround, hengine, hsame.2 around' haround hengine⟩

end Program

end TemplateEngines
