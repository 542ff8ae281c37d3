/-
What the command line answers instead of running a command: a page of help, the version, or an
error of usage.
-/
import TemplateEngines.CommandLine.Options

namespace TemplateEngines.CommandLine

/-- What a page of help explains. -/
inductive HelpPage where
  | program
  | command (name : CommandName)
  /-- The command `help` itself. -/
  | help
deriving DecidableEq, Inhabited, Repr

/-- Why arguments cannot be used. -/
inductive UsageError where
  /-- There are no arguments at all. -/
  | noArguments
  | unknownCommand (text : String)
  | missingCommand
  | unknownArgument (text : String)
  | missingValue (o : OptionName)
  /-- An option that takes no value has got one. -/
  | unexpectedValue (o : OptionName) (value : String)
  /-- An option that may be given once is given again. -/
  | repeated (o : OptionName)
  /-- Two options exclude each other; the first is the one that was given first. -/
  | conflict (o other : OptionName)
  /-- One of several options is needed, and none is given; the first of them stands for all. -/
  | missingOption (o : OptionName)
deriving DecidableEq, Inhabited, Repr

/-- Why no command runs. -/
inductive Stop where
  | help (page : HelpPage)
  | version
  | misuse (e : UsageError)
deriving DecidableEq, Inhabited, Repr

/-! ## Pages of help -/

/-- A term and its explanation. -/
abbrev HelpRow := String × String

namespace HelpPage

def helpAbout : String := "Print this message or the help of the given subcommand(s)"

/-- The explanations stand below each other, two blanks after the longest term. -/
def table (rows : List HelpRow) : List String :=
  let width := rows.foldl (fun width row => max width row.1.length) 0
  rows.map fun (term, explanation) =>
    "  " ++ term ++ String.ofList (List.replicate (width + 2 - term.length) ' ') ++ explanation

def optionRow (o : OptionName) : HelpRow :=
  let short := match o.short? with
    | some letter => "-" ++ letter.toString ++ ", "
    | none => "    "
  (short ++ o.shown, o.about)

def commandRows : List HelpRow :=
  CommandName.all.map (fun name => (name.text, name.about)) ++ [("help", helpAbout)]

def optionLines (level : Level) : List String := "Options:" :: table (level.options.map optionRow)

/-- The lines of a page. -/
def lines : HelpPage → List String
  | program =>
    [programAbout, "", "Usage: " ++ programName ++ " [OPTIONS] <COMMAND>", "", "Commands:"] ++
      table commandRows ++ [""] ++ optionLines .top
  | command name =>
    [name.about, "", "Usage: " ++ programName ++ " " ++ name.text ++ " [OPTIONS]", ""] ++
      optionLines (.command name)
  | help =>
    [helpAbout, "", "Usage: " ++ programName ++ " help [COMMAND]...", "", "Arguments:"] ++
      table [("[COMMAND]...", "Print help for the subcommand(s)")]

/-- The page, every line ended. -/
def text (page : HelpPage) : String := String.join (page.lines.map (· ++ "\n"))

end HelpPage

/-! ## Errors of usage -/

namespace UsageError

/-- What is wrong, in one line. Without any arguments that is what the program is for. -/
def message : UsageError → String
  | noArguments => programAbout
  | unknownCommand text => "error: unrecognized subcommand '" ++ text ++ "'"
  | missingCommand =>
    "error: '" ++ programName ++ "' requires a subcommand but one was not provided"
  | unknownArgument text => "error: unexpected argument '" ++ text ++ "' found"
  | missingValue o => "error: a value is required for '" ++ o.shown ++ "' but none was supplied"
  | unexpectedValue o value =>
    "error: unexpected value '" ++ value ++ "' for '" ++ o.shown ++
      "' found; no more were expected"
  | repeated o => "error: the argument '" ++ o.shown ++ "' cannot be used multiple times"
  | conflict o other =>
    "error: the argument '" ++ o.shown ++ "' cannot be used with '" ++ other.shown ++ "'"
  | missingOption _ => "error: the following required arguments were not provided:"

/-- The whole explanation. -/
def text (e : UsageError) : String :=
  match e with
  | noArguments => HelpPage.program.text
  | missingOption o =>
    e.message ++ "\n  " ++ o.shown ++ "\n\nFor more information, try '--help'.\n"
  | _ => e.message ++ "\n\nFor more information, try '--help'.\n"

end UsageError

/-- The text that tells the version. -/
def versionText : String := programName ++ " " ++ programVersion ++ "\n"

end TemplateEngines.CommandLine
