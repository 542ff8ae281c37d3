/-
Which records are shown. A filter is a list of directives, each with a level and, mostly, the start
of the path of a source, or a field that records need to have. Of the directives that concern a
record the most special one decides, and among those that ask for the same the last.

A directive may also ask for spans, in brackets; this program opens none, so a directive for a
named span shows nothing.
-/
import TemplateEngines.Log.Pattern
import TemplateEngines.Log.Record
import TemplateEngines.Dict

namespace TemplateEngines.Log

/-! ## Levels -/

namespace Level

/-- A level shows the records of its own rank and of lower ranks. -/
def rank : Level → Nat
  | error => 1
  | warn => 2
  | info => 3
  | debug => 4
  | trace => 5

def text : Level → String
  | error => "error"
  | warn => "warn"
  | info => "info"
  | debug => "debug"
  | trace => "trace"

def all : List Level := [error, warn, info, debug, trace]

end Level

/-- The records that are shown: none, or those up to a level. -/
abbrev Limit := Option Level

namespace Limit

def admits (limit : Limit) (level : Level) : Bool :=
  match limit with
  | none => false
  | some most => level.rank ≤ most.rank

/-- A number in decimal digits, with or without a plus sign. -/
def number? (cs : List Char) : Option Nat :=
  let digits := match cs with
    | '+' :: rest => rest
    | cs => cs
  if digits.isEmpty || !digits.all Char.isDigit then none
  else some (digits.foldl (fun n c => n * 10 + (c.toNat - '0'.toNat)) 0)

/-- The limit that a text names, in letters of either case or as a number; the empty text stands
for errors. -/
def ofText? (cs : List Char) : Option Limit :=
  match number? cs with
  | some 0 => some none
  | some n => (Level.all.find? fun level => level.rank == n).map some
  | none =>
    let name := String.ofList (cs.map Char.toLower)
    if name == "off" then some none
    else if name.isEmpty then some (some .error)
    else (Level.all.find? fun level => level.text == name).map some

end Limit

/-! ## Directives -/

/-- What some records need to be shown. -/
structure Directive where
  limit : Limit
  /-- The start of the path of the sources that the directive is for. -/
  target : String := ""
  /-- The directive holds only inside of a span. -/
  needsSpan : Bool := false
  /-- The fields that a record has to have. -/
  fields : List String := []
deriving DecidableEq, Inhabited, Repr

/-- Why a text is no directive. -/
inductive DirectiveFault where
  | shape
  | level
  /-- The value of a field is no pattern. -/
  | field (fault : PatternFault)
deriving DecidableEq, Inhabited, Repr

def DirectiveFault.message : DirectiveFault → String
  | shape => "invalid filter directive"
  | level =>
    "error parsing level filter: expected one of \"off\", \"error\", \"warn\", \"info\", " ++
      "\"debug\", \"trace\", or a number 0-5"
  | field fault => "invalid field filter: " ++ fault.message

namespace Directive

def concerns (d : Directive) (source : Source) : Bool :=
  !d.needsSpan && source.path.startsWith d.target && d.fields.all source.fields.contains

/-- The first directive is at least as special as the second: it has a longer path or, for the same
path, more fields or fields that come later in the order of their names. -/
def atLeastAsSpecial (d e : Directive) : Bool :=
  if e.target.length != d.target.length then e.target.length < d.target.length
  else if e.fields.length != d.fields.length then e.fields.length < d.fields.length
  else !(d.fields < e.fields)

/-- The level after an equals sign; nothing stands for everything. -/
def readLimit (cs : List Char) : Except DirectiveFault Limit :=
  if cs.isEmpty then .ok (some .trace)
  else
    match Limit.ofText? cs with
    | some limit => .ok limit
    | none => .error .level

/-- What follows the part in brackets. -/
def readRest (d : Directive) : List Char → Except DirectiveFault Directive
  | [] => .ok d
  | '=' :: level => (readLimit level).map fun limit => { d with limit }
  | _ => .error .shape

/-- Whether a text is a number: a sign, digits with a point among them and an exponent, or one of
the words for what is no finite number. -/
def isNumber (cs : List Char) : Bool :=
  let skipSign (cs : List Char) : List Char := match cs with
    | '+' :: rest | '-' :: rest => rest
    | cs => cs
  let isExponent (cs : List Char) : Bool := match cs with
    | [] => true
    | e :: rest =>
      let digits := skipSign rest
      e.toLower == 'e' && !digits.isEmpty && digits.all Char.isDigit
  let body := skipSign cs
  let whole := body.takeWhile Char.isDigit
  let (places, rest) := match body.dropWhile Char.isDigit with
    | '.' :: rest => (rest.takeWhile Char.isDigit, rest.dropWhile Char.isDigit)
    | rest => ([], rest)
  ["inf", "infinity", "nan"].contains (String.ofList (body.map Char.toLower)) ||
    (!(whole ++ places).isEmpty && isExponent rest)

/-- Why a field cannot be asked for: its value, which stands between the first and the second equals
sign, is neither a number nor a pattern. -/
def fieldFault? (field : List Char) : Option DirectiveFault :=
  match field.splitOn '=' with
  | _ :: value :: _ => if isNumber value then none else (Pattern.fault? value).map .field
  | _ => none

/-- The part in brackets, from behind the opening bracket: the name of a span, and in braces a
field. A field with a value is only found in spans. -/
def readSpan (d : Directive) (cs : List Char) : Except DirectiveFault Directive :=
  match cs.span fun c => c != ']' && c != '\x7b' with
  | (_, ']' :: rest) => readRest { d with needsSpan := true } rest
  | (name, _ :: rest) =>
    match rest.span (· != '\x7d') with
    | ([], _) | (_, []) => .error .shape
    | (field, _ :: rest) =>
      match fieldFault? field, rest with
      | some fault, _ => .error fault
      | none, ']' :: rest =>
        let needsSpan := !name.isEmpty || field.contains '='
        readRest { d with needsSpan, fields := [String.ofList field] } rest
      | none, _ => .error .shape
  | _ => .error .shape

/-- The first character of the name of a target or level. -/
def startsName (c : Char) : Bool :=
  c == '-' || c == ':' || c == '_' || Text.isLetterOrDigit c

/-- Reads a directive. Where its parts end is found without the white space around the text, and
then counted from the start of the text. A name alone is a level or, if there is no such level, a
target of which everything is shown. -/
def parse (text : List Char) : Except DirectiveFault Directive :=
  let everything : Directive := { limit := some .trace }
  match Text.trimEnd (Text.trimStart text) with
  | [] => .error .shape
  | '[' :: _ => readSpan everything (text.drop 1)
  | c :: body =>
    if !startsName c then .error .shape
    else
      match (c :: body).span fun c => c != '=' && c != '[' with
      | (_, []) =>
        match Limit.ofText? text with
        | some limit => .ok { limit }
        | none => .ok { everything with target := String.ofList text }
      | (name, mark :: _) =>
        let target := String.ofList (text.take name.length)
        let rest := text.drop (name.length + 1)
        if mark == '=' then (readLimit rest).map fun limit => { limit, target }
        else readSpan { everything with target } rest

end Directive

/-! ## Filters -/

/-- The directives in the order in which they are given. -/
abbrev Filter := List Directive

namespace Filter

/-- The directive that decides about the records of a source. -/
def deciding? (filter : Filter) (source : Source) : Option Directive :=
  (filter.filter (·.concerns source)).foldl (fun best d =>
    match best with
    | some e => if d.atLeastAsSpecial e then some d else some e
    | none => some d) none

def admits (filter : Filter) (record : Record) : Bool :=
  match filter.deciding? record.source with
  | some d => d.limit.admits record.level
  | none => false

/-- The parts of a text between commas that are not empty. -/
def pieces (text : String) : List (List Char) :=
  (text.splitOn ",").filterMap fun piece => if piece.isEmpty then none else some piece.toList

/-- Reads a filter in which every directive has to be right. -/
def parse (text : String) : Except DirectiveFault Filter := (pieces text).mapM Directive.parse

/-- Reads a filter and leaves out what is no directive, which the second part reports. Without any
directive, errors are shown. -/
def parseLenient (text : String) : Filter × List String :=
  let readings := (pieces text).map fun piece => (String.ofList piece, Directive.parse piece)
  let directives := readings.filterMap fun (_, reading) => reading.toOption
  let complaints := readings.filterMap fun (piece, reading) =>
    match reading with
    | .ok _ => none
    | .error fault => some ("ignoring `" ++ piece ++ "`: " ++ fault.message)
  (if directives.isEmpty then [{ limit := some .error }] else directives, complaints)

/-- The environment variable that holds a filter. -/
def variableName : String := "RUST_LOG"

/-- The filter of the environment, if that holds a right one, otherwise the filter of the text. -/
def select (environment : Dict String) (text : String) : Filter × List String :=
  match (environment.get? variableName).map parse with
  | some (.ok filter) => (filter, [])
  | _ => parseLenient text

end Filter

end TemplateEngines.Log
