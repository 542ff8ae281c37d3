/-
Reading the arguments of the program. Options may come in any order; the value of an option is
attached to it or is the next argument. An option is settled only when the next one comes or the
arguments end: then its value has to be there and to fit. Options before the command are settled
after those behind it, so an error behind the command is reported first.

A command to render has exactly one source of its template.
-/
import TemplateEngines.CommandLine.Usage
import TemplateEngines.Rendering

namespace TemplateEngines.CommandLine

/-- A command with what it needs. -/
inductive Command where
  | render (request : RenderRequest)
  | engines
deriving DecidableEq, Inhabited, Repr

/-- What the arguments ask for. -/
structure Arguments where
  command : Command
  verbose : Bool := false
  /-- The path of the configuration. -/
  config : Option String := none
  noColor : Bool := false
deriving DecidableEq, Inhabited, Repr

/-! ## Options that are given -/

/-- An option that is given; the value is empty for one that takes none. -/
structure Given where
  option : OptionName
  value : String := ""
deriving DecidableEq, Inhabited, Repr

/-- The options of one level, in the order in which they are given. -/
abbrev Givens := List Given

namespace Givens

def has (givens : Givens) (o : OptionName) : Bool := givens.any (·.option == o)

def values (givens : Givens) (o : OptionName) : List String :=
  (givens.filter (·.option == o)).map (·.value)

def value? (givens : Givens) (o : OptionName) : Option String := (givens.values o).head?

end Givens

/-- What has been read of one level. -/
structure Reading where
  givens : Givens := []
  /-- The last option, if it is not settled yet, and its value, if that has come. -/
  pending : Option (OptionName × Option String) := none
deriving DecidableEq, Inhabited, Repr

namespace Reading

/-- Adds an option. -/
def add (r : Reading) (o : OptionName) (value : Option String) : Except Stop Reading :=
  if o.takesValue && value.isNone then .error (.misuse (.missingValue o))
  else if !o.repeats && r.givens.has o then .error (.misuse (.repeated o))
  else if o.isPath && value == some "" then .error (.misuse (.missingValue o))
  else .ok { r with givens := r.givens ++ [⟨o, value.getD ""⟩] }

/-- Settles the pending option. -/
def settle (r : Reading) : Except Stop Reading :=
  match r.pending with
  | none => .ok r
  | some (o, value) => { r with pending := none }.add o value

/-- The option that waits for its value. -/
def awaiting? (r : Reading) : Option OptionName :=
  match r.pending with
  | some (o, none) => some o
  | _ => none

end Reading

/-! ## Single arguments -/

namespace Level

/-- The page of help on a level. -/
def page : Level → HelpPage
  | top => .program
  | command name => .command name

/-- An option without a value. -/
def readSwitch (level : Level) (r : Reading) (o : OptionName) : Except Stop Reading := do
  let r ← r.settle
  match o with
  | .help => .error (.help level.page)
  | .version => .error .version
  | o => r.add o none

/-- An option that takes a value, which is attached or has still to come. -/
def readValued (r : Reading) (o : OptionName) (attached : Option String) :
    Except Stop Reading := do
  let r ← r.settle
  match attached with
  | some value => r.add o (some value)
  | none => return { r with pending := some (o, none) }

/-- What follows two hyphens: a name, and after an equals sign its value. -/
def readLong (level : Level) (r : Reading) (body : List Char) : Except Stop Reading :=
  let name := String.ofList (body.takeWhile (· != '='))
  let attached := match body.dropWhile (· != '=') with
    | _ :: value => some (String.ofList value)
    | [] => none
  match level.findLong? name with
  | none => .error (.misuse (.unknownArgument ("--" ++ name)))
  | some o =>
    if o.takesValue then readValued r o attached
    else
      match attached with
      | some value => .error (.misuse (.unexpectedValue o value))
      | none => level.readSwitch r o

/-- What follows one hyphen: letters of options. After an option that takes a value the rest is
that value, with or without an equals sign in between. -/
def readShort (level : Level) (r : Reading) : List Char → Except Stop Reading
  | [] => .ok r
  | letter :: rest =>
    match level.findShort? letter with
    | none => .error (.misuse (.unknownArgument ("-" ++ letter.toString)))
    | some o =>
      if o.takesValue then
        readValued r o <|
          match rest with
          | [] => none
          | '=' :: value => some (String.ofList value)
          | value => some (String.ofList value)
      else do level.readShort (← level.readSwitch r o) rest

/-- An argument that is neither an option nor a value nor a command. -/
def stray (level : Level) (arg : String) : UsageError :=
  match level with
  | top => .unknownCommand arg
  | command _ => .unknownArgument arg

/-- The same after two hyphens, which keep a command from being one. -/
def strayAfterSeparator (level : Level) (arg : String) : UsageError :=
  if (CommandName.ofText? arg).isSome || arg == "help" then .unknownArgument arg
  else level.stray arg

end Level

/-- How an argument starts. -/
inductive Shape where
  /-- Two hyphens alone: no options follow. -/
  | separator
  | long (body : List Char)
  | short (body : List Char)
  | plain
deriving DecidableEq, Inhabited, Repr

def Shape.of (arg : String) : Shape :=
  match arg.toList with
  | ['-', '-'] => .separator
  | '-' :: '-' :: body => .long body
  | '-' :: c :: body => .short (c :: body)
  | _ => .plain

/-! ## Levels -/

/-- The answer to the command `help` with these arguments. -/
def helpAnswer : List String → Stop
  | [] => .help .program
  | name :: rest =>
    match CommandName.ofText? name, rest with
    | some command, [] => .help (.command command)
    | some _, arg :: _ => .misuse (.unknownCommand arg)
    | none, rest =>
      if name == "help" then
        match rest with
        | [] => .help .help
        | arg :: _ => .misuse (.unknownCommand arg)
      else .misuse (.unknownCommand name)

/-- Reads the arguments of a level, up to a command and what follows it. -/
def readLevel (level : Level) (r : Reading) :
    List String → Except Stop (Reading × Option (CommandName × List String))
  | [] => .ok (r, none)
  | arg :: rest =>
    let command := if level = .top && r.awaiting?.isNone then some arg else none
    match command.bind CommandName.ofText? with
    | some name => .ok (r, some (name, rest))
    | none =>
      if command == some "help" then .error (helpAnswer rest)
      else
        match Shape.of arg with
        | .separator =>
          match rest with
          | [] => .ok (r, none)
          | arg :: _ => .error (.misuse (level.strayAfterSeparator arg))
        | .long body => do readLevel level (← level.readLong r body) rest
        | .short body => do readLevel level (← level.readShort r body) rest
        | .plain =>
          match r.awaiting? with
          | some o => readLevel level { r with pending := some (o, some arg) } rest
          | none => .error (.misuse (level.stray arg))

/-! ## Commands -/

/-- The sources of a template exclude each other, and one of them has to be given. -/
def checkSources (givens : Givens) : Except Stop Unit :=
  match givens.find? fun g => g.option == .template || g.option == .file with
  | none => .error (.misuse (.missingOption .template))
  | some first =>
    let other : OptionName := if first.option == .template then .file else .template
    if givens.has other then .error (.misuse (.conflict first.option other)) else .ok ()

/-- The request that the options of the command describe. -/
def requestOf (givens : Givens) : RenderRequest where
  engine := givens.value? .engine
  template := givens.value? .template
  file := givens.value? .file
  assignments := givens.values .parameter
  strict := givens.has .strict

/-- Reads the arguments of a command. -/
def readCommand (name : CommandName) (args : List String) : Except Stop (Givens × Command) := do
  let (r, _) ← readLevel (.command name) {} args
  let r ← r.settle
  match name with
  | .engines => return (r.givens, .engines)
  | .render =>
    checkSources r.givens
    return (r.givens, .render (requestOf r.givens))

/-- Reads the arguments of the program. An option that both levels know counts from either; a path
behind the command counts more than one before it. -/
def Arguments.parse (args : List String) : Except Stop Arguments := do
  let (top, next) ← readLevel .top {} args
  match next with
  | some (name, rest) =>
    let (behind, command) ← readCommand name rest
    let top ← top.settle
    return {
      command
      verbose := behind.has .verbose || top.givens.has .verbose
      config := (behind.value? .config).or (top.givens.value? .config)
      noColor := behind.has .noColor || top.givens.has .noColor }
  | none =>
    let top ← top.settle
    .error (.misuse (if top.givens.isEmpty then .noArguments else .missingCommand))

end TemplateEngines.CommandLine
