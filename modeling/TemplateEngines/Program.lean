/-
The program as a function: from files, surroundings and arguments to an exit code, a text on the
standard output and what is reported beside it. Only rendered texts, lists, pages of help and the
version go to the output; the log and errors are reports. The log never changes the output.
-/
import TemplateEngines.CommandLine.Arguments
import TemplateEngines.Log.Filter
import TemplateEngines.Log.Printer
import TemplateEngines.Text.Quoted

namespace TemplateEngines

open CommandLine (Arguments Command Stop)

/-! ## Reports -/

/-- What is written beside the output. -/
inductive Report where
  /-- A line of the log, in front of which the time is written. -/
  | record (coloured : Bool) (line : String)
  | text (s : String)
deriving DecidableEq, Inhabited, Repr

/-- How the program ends. -/
structure Run where
  exitCode : Nat := 0
  output : String := ""
  reports : List Report := []
deriving DecidableEq, Inhabited, Repr

namespace Report

/-- The time as lines of the log show it: in UTC, to the microsecond. -/
def timeText (now : Instant) : String :=
  let m := { Time.Moment.ofUnixSeconds now.seconds with nanosecond := now.nanoseconds }
  match Time.Format.parse "%Y-%m-%dT%H:%M:%S%.6fZ" with
  | some format => m.write "UTC" format
  | none => ""

/-- The report as text, with a line end after it. -/
def write (time : String) : Report → String
  | record coloured line => Log.stamped coloured time line ++ "\n"
  | text s => s

/-- The lines of a cause. Each line is indented; where causes are numbered the number stands before
the first. -/
def causeLines (number : Option Nat) (cause : String) : List String :=
  match cause.splitOn "\n" with
  | [] => []
  | first :: rest =>
    match number with
    | none => (first :: rest).map ("    " ++ ·)
    | some n =>
      let digits := toString n
      (String.ofList (List.replicate (5 - digits.length) ' ') ++ digits ++ ": " ++ first) ::
        rest.map ("       " ++ ·)

/-- The lines about all causes, numbered if there are several. -/
def causesLines : List String → List String
  | [] => []
  | [cause] => ["", "Caused by:"] ++ causeLines none cause
  | causes =>
    ["", "Caused by:"] ++ (causes.zipIdx.flatMap fun (cause, n) => causeLines (some n) cause)

/-- The report on a failure. -/
def ofFailure (message : String) (causes : List String) : Report :=
  text (String.join ((("Error: " ++ message) :: causesLines causes).map (· ++ "\n")))

end Report

namespace Run

/-- A failure with its causes. -/
def failed (reports : List Report) (message : String) (causes : List String) : Run where
  exitCode := 1
  reports := reports ++ [.ofFailure message causes]

/-- The answer to arguments that run no command. -/
def ofStop : Stop → Run
  | .help page => { output := page.text }
  | .version => { output := CommandLine.versionText }
  | .misuse e => { exitCode := 2, reports := [.text e.text] }

end Run

/-! ## Commands -/

namespace Config

/-- The level of the log that the arguments and the configuration ask for. -/
def effectiveLevel (config : Config) (arguments : Arguments) : String :=
  if arguments.verbose then "debug" else config.logLevel

/-- A path as the log shows it. -/
def shownPath : Option String → String
  | some path => "Some(" ++ Text.quoted path ++ ")"
  | none => "None"

/-- The text that a command puts out. -/
def perform (config : Config) (files : Files) (around : Surroundings) :
    Command → Logged (Except RenderFailure String)
  | .render request => do
    Logged.emit .info .commands
      ("Rendering template with engine: " ++ request.reportedEngine config)
    let result ← request.render config files around
    return result.map (· ++ "\n")
  | .engines => do
    let names ← config.listEngines
    return .ok (String.join (names.map (· ++ "\n")))

/-- Performs the command of the arguments, with the log around it. -/
def runCommand (config : Config) (files : Files) (around : Surroundings) (arguments : Arguments) :
    Logged (Except RenderFailure String) := do
  Logged.emit .debug .application
    ("Logging initialized with level: " ++ config.effectiveLevel arguments)
  Logged.emit .info .application ("Starting scriptgate v" ++ CommandLine.programVersion)
  Logged.emit .debug .application ("Configuration loaded from: " ++ shownPath arguments.config)
  config.perform files around arguments.command

end Config

/-! ## The program -/

namespace Program

/-- Loads the configuration of a run. -/
def loadConfig (files : Files) (around : Surroundings) (arguments : Arguments) :
    Except ConfigError Config :=
  Config.load files around.environment arguments.config around.accountHome

/-- Runs what the arguments ask for. -/
def runArguments (files : Files) (around : Surroundings) (arguments : Arguments) : Run :=
  match loadConfig files around arguments with
  | .error e => Run.failed [] e.message e.causes
  | .ok config =>
    let (filter, complaints) :=
      Log.Filter.select around.environment (config.effectiveLevel arguments)
    let done := config.runCommand files around arguments
    let coloured := !arguments.noColor
    let reports := complaints.map (fun complaint => Report.text (complaint ++ "\n")) ++
      (done.records.filter filter.admits).map fun r => .record coloured (r.line coloured)
    match done.value with
    | .ok output => { output, reports }
    | .error e => Run.failed reports e.message e.causes

/-- The paths that a run may read. -/
def readPaths (around : Surroundings) (arguments : Arguments) : List String :=
  let configs := match arguments.config with
    | some path => [path]
    | none => Config.candidates (Config.homeDirectory? around.environment around.accountHome)
  match arguments.command with
  | .render request => configs ++ request.file.toList
  | .engines => configs

/-- Runs the program. -/
def run (files : Files) (around : Surroundings) (args : List String) : Run :=
  match Arguments.parse args with
  | .error stop => .ofStop stop
  | .ok arguments => runArguments files around arguments

end Program

end TemplateEngines
