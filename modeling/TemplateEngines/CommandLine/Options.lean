/-
The commands and options of the command line. An option is switched on, or takes a value; some
stand before and after the name of the command alike, the others belong to one command.
-/

namespace TemplateEngines.CommandLine

/-- The name of the program. -/
def programName : String := "scriptgate"

def programVersion : String := "0.1.0"

/-- What the program is for. -/
def programAbout : String := "Render templates through a pluggable, name-selected script engine"

/-! ## Commands -/

inductive CommandName where
  | render
  | engines
deriving DecidableEq, Inhabited, Repr

namespace CommandName

def all : List CommandName := [render, engines]

def text : CommandName → String
  | render => "render"
  | engines => "engines"

def about : CommandName → String
  | render => "Evaluate a template with a registered engine"
  | engines => "List registered engine names"

/-- The command that a text names. -/
def ofText? (s : String) : Option CommandName := all.find? fun name => name.text == s

end CommandName

/-! ## Options -/

inductive OptionName where
  | verbose
  | config
  | noColor
  | engine
  | template
  | file
  | parameter
  | strict
  | help
  | version
deriving DecidableEq, Inhabited, Repr

namespace OptionName

/-- The name after two hyphens. -/
def long : OptionName → String
  | verbose => "verbose"
  | config => "config"
  | noColor => "no-color"
  | engine => "engine"
  | template => "template"
  | file => "file"
  | parameter => "var"
  | strict => "strict"
  | help => "help"
  | version => "version"

/-- The letter after one hyphen. -/
def short? : OptionName → Option Char
  | verbose => some 'v'
  | config => some 'c'
  | engine => some 'e'
  | template => some 't'
  | file => some 'f'
  | parameter | version => some 'V'
  | help => some 'h'
  | noColor | strict => none

/-- What the value stands for, if the option takes one. -/
def valueName? : OptionName → Option String
  | config => some "CONFIG"
  | engine => some "ENGINE"
  | template => some "TEMPLATE"
  | file => some "FILE"
  | parameter => some "VARS"
  | verbose | noColor | strict | help | version => none

def takesValue (o : OptionName) : Bool := o.valueName?.isSome

/-- The option may be given more than once. -/
def repeats : OptionName → Bool
  | parameter => true
  | _ => false

/-- The value is the path of a file, which is never empty. -/
def isPath : OptionName → Bool
  | config | file => true
  | _ => false

def about : OptionName → String
  | verbose => "Enable verbose output"
  | config => "Path to configuration file"
  | noColor => "Disable colored output"
  | engine => "Engine name (defaults to the configured default engine)"
  | template => "Inline template text"
  | file => "Read the template from a file"
  | parameter => "Template parameter (key=value, value parsed as JSON when possible)"
  | strict => "Fail instead of printing the raw template on errors"
  | help => "Print help"
  | version => "Print version"

/-- The option as messages show it. -/
def shown (o : OptionName) : String :=
  match o.valueName? with
  | some value => "--" ++ o.long ++ " <" ++ value ++ ">"
  | none => "--" ++ o.long

end OptionName

/-! ## Where options stand -/

/-- The part of the command line before the command, or after it. -/
inductive Level where
  | top
  | command (name : CommandName)
deriving DecidableEq, Inhabited, Repr

namespace Level

/-- The options that may stand there, in the order in which they are explained. -/
def options : Level → List OptionName
  | top => [.verbose, .config, .noColor, .help, .version]
  | command .render =>
    [.engine, .template, .file, .verbose, .config, .parameter, .noColor, .strict, .help]
  | command .engines => [.verbose, .config, .noColor, .help]

def findLong? (level : Level) (name : String) : Option OptionName :=
  level.options.find? fun o => o.long == name

def findShort? (level : Level) (letter : Char) : Option OptionName :=
  level.options.find? fun o => o.short? == some letter

end Level

end TemplateEngines.CommandLine
