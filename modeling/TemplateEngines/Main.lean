/-
The program at a terminal: it collects what a run depends on, runs the program as a function, and
writes what that answers.
-/
import TemplateEngines.Program
import Std.Time.DateTime.Timestamp

namespace TemplateEngines.Main

/-- What stands at a path. -/
def fileState (path : String) : IO FileState := do
  try
    let bytes ← IO.FS.readBinFile path
    return .file bytes.toList
  catch e =>
    match e with
    | .inappropriateType _ 21 _ => return .directory
    | .inappropriateType _ _ _ => return .throughFile
    | .permissionDenied _ _ _ => return .denied
    | .invalidArgument _ _ _ => return .nameTooLong
    | _ => return .absent

/-- The files at some paths; nothing is said to stand at other paths. -/
def readFiles (paths : List String) : IO Files := do
  let states ← paths.mapM fun path => return (path, ← fileState path)
  return fun path => (states.lookup path).getD .absent

/-- An environment variable from its bytes. One that is no text is passed over. -/
def readVariable (bytes : List UInt8) : Option (String × String) :=
  match Text.Utf8.decode bytes with
  | .ok s =>
    match s.splitOn "=" with
    | name :: first :: rest => some (name, String.intercalate "=" (first :: rest))
    | _ => none
  | .error _ => none

/-- The environment variables. -/
def readEnvironment : IO (Dict String) := do
  let bytes ← IO.FS.readBinFile "/proc/self/environ"
  return Dict.ofList ((bytes.toList.splitOn 0).filterMap readVariable)

/-- The clock. -/
def readClock : IO Instant := do
  let now ← Std.Time.Timestamp.now
  let nanoseconds := now.toNanosecondsSinceUnixEpoch.val
  return ⟨nanoseconds / 1000000000, (nanoseconds % 1000000000).toNat⟩

/-- How many numbers are drawn from the random source of the system. -/
def drawCount : Nat := 4096

/-- A random source; after as many draws as the system was asked for, the numbers are shifted. -/
def readRandom : IO (Nat → Nat) := do
  let bytes ← IO.getRandomBytes (16 * drawCount).toUSize
  return fun n =>
    let start := n % drawCount * 16
    (bytes.extract start (start + 16)).toList.foldl (fun x b => x * 256 + b.toNat) (n / drawCount)

/-- A file as text, the empty text if it cannot be read. -/
def readTextFile (path : String) : IO String := do
  try IO.FS.readFile path
  catch _ => return ""

/-- The number of the user who runs the program. -/
def userNumber? (status : String) : Option String :=
  (status.splitOn "\n").findSome? fun line =>
    match line.splitOn "\t" with
    | "Uid:" :: user :: _ => some user
    | _ => none

/-- The home directory in the line of a table of users that belongs to a user. -/
def userHome? (users user : String) : Option String :=
  (users.splitOn "\n").findSome? fun line =>
    match line.splitOn ":" with
    | [_, _, number, _, _, home, _] => if number = user then some home else none
    | _ => none

/-- The home directory of the user who runs the program. -/
def readAccountHome : IO (Option String) := do
  let status ← readTextFile "/proc/self/status"
  let users ← readTextFile "/etc/passwd"
  return (userNumber? status).bind (userHome? users)

/-- The surroundings of the program. Where a source breaks the grammar of Handlebars is not known here,
so its start is named. -/
def readSurroundings : IO Surroundings := do
  return {
    environment := ← readEnvironment
    now := ← readClock
    random := ← readRandom
    accountHome := ← readAccountHome }

end TemplateEngines.Main

open TemplateEngines in
def main (args : List String) : IO UInt32 := do
  let around ← Main.readSurroundings
  let paths := match CommandLine.Arguments.parse args with
    | .ok arguments => Program.readPaths around arguments
    | .error _ => []
  let files ← Main.readFiles paths
  let run := Program.run files around args
  let time := Report.timeText around.now
  for report in run.reports do
    IO.eprint (report.write time)
  IO.print run.output
  return run.exitCode.toUInt32
