/-
The helpers that templates can call. Most of them compute a value from their arguments; five render
the content of a block and have no value of their own.
-/
import TemplateEngines.Handlebars.Fault
import TemplateEngines.Text.Case
import TemplateEngines.Time.Printer

namespace TemplateEngines

namespace Json

/-! ## Values in templates -/

mutual

/-- The text of a value in a template: a string stands for itself, null for nothing, an object for
a placeholder, and every item of an array is followed by a comma. -/
def templateText : Json → String
  | .string s => s
  | .null => ""
  | .array items => "[" ++ itemsText items ++ "]"
  | .object _ => "[object]"
  | v => v.compactText

def itemsText : List Json → String
  | [] => ""
  | item :: rest => templateText item ++ ", " ++ itemsText rest

end

/-- Whether a condition holds: false, null, whatever is empty, and numbers that are zero or
subnormal do not. With `includeZero` every number holds. -/
def isTruthy (includeZero : Bool) : Json → Bool
  | .null => false
  | .bool b => b
  | .number n => includeZero || n.toBinary64.isNormal
  | .string s => !s.isEmpty
  | .array items => !items.isEmpty
  | .object members => !members.isEmpty

end Json

namespace Handlebars

/-- The helpers. -/
inductive Helper where
  | ifTrue
  | unlessTrue
  | each
  | within
  | raw
  | lookup
  | log
  | eq
  | ne
  | gt
  | gte
  | lt
  | lte
  | and
  | or
  | not
  | len
  | timestamp
  | uuid
  | env
  | upper
  | lower
  | default
  | join
  | base64Encode
  | base64Decode
  | formatTime
deriving DecidableEq, Inhabited, Repr

namespace Helper

/-- The helpers by their names. -/
def table : List (String × Helper) :=
  [("if", .ifTrue), ("unless", .unlessTrue), ("each", .each), ("with", .within), ("raw", .raw),
   ("lookup", .lookup), ("log", .log), ("eq", .eq), ("ne", .ne), ("gt", .gt), ("gte", .gte),
   ("lt", .lt), ("lte", .lte), ("and", .and), ("or", .or), ("not", .not), ("len", .len),
   ("timestamp", .timestamp), ("uuid", .uuid), ("env", .env), ("upper", .upper),
   ("lower", .lower), ("default", .default), ("join", .join), ("base64_encode", .base64Encode),
   ("base64_decode", .base64Decode), ("format_time", .formatTime)]

def ofName? (name : String) : Option Helper := table.lookup name

end Helper

/-- A call of a helper with evaluated parameters. -/
structure Invocation where
  /-- The name by which the helper is called. -/
  name : String
  arguments : List Argument
  options : Dict Argument
deriving Inhabited, Repr

namespace Invocation

/-- The text of a parameter that is a string. -/
def text? (call : Invocation) (i : Nat) : Option String :=
  (call.arguments[i]?).bind (·.found.value.asString?)

/-- The text of a parameter that has to be a string. -/
def requireText (call : Invocation) (i : Nat) (what : String) : Render String :=
  match call.text? i with
  | some text => pure text
  | none => Render.fail (.required call.name what)

/-- A parameter of a comparison or the like. In strict mode a missing value is no parameter. -/
def operand (scope : Scope) (call : Invocation) (i : Nat) (param : String) : Render Json :=
  match call.arguments[i]? with
  | some a =>
    if scope.strict && a.found.isMissing then Render.fail (.unreadParam call.name param)
    else pure a.found.value
  | none => Render.fail (.unreadParam call.name param)

/-- A parameter that has to be a whole number of 64 bits. -/
def integer (scope : Scope) (call : Invocation) (i : Nat) (param : String) : Render Int := do
  let v ← call.operand scope i param
  let n? := match v with
    | .number n => n.toInt64?
    | _ => none
  match n? with
  | some n => return n
  | none => Render.fail (.wrongType call.name param "i64" v call.arguments)

/-- The answer of a comparison of two whole numbers. -/
def compareIntegers (scope : Scope) (call : Invocation) (holds : Int → Int → Bool) :
    Render Json := do
  let x ← call.integer scope 0 "x"
  let y ← call.integer scope 1 "y"
  return .bool (holds x y)

/-- The answer of a condition on two values. -/
def combine (scope : Scope) (call : Invocation) (holds : Json → Json → Bool) : Render Json := do
  let x ← call.operand scope 0 "x"
  let y ← call.operand scope 1 "y"
  return .bool (holds x y)

end Invocation

/-! ## Helpers with a value -/

namespace Helper

/-- The part of a collection that an index or a name selects, null if there is none. -/
def select (collection index : Json) : Json :=
  match collection, index with
  | .array items, .number n => ((n.toWord?).bind (items[·]?)).getD .null
  | .object members, .string name => (Dict.get? members name).getD .null
  | _, _ => .null

def lookupValue (scope : Scope) (call : Invocation) : Render Json :=
  match call.arguments with
  | [] => Render.fail (.missingParam "lookup")
  | [_] => Render.fail (.missingSecondParam "lookup")
  | collection :: index :: _ =>
    let v := select collection.found.value index.found.value
    if scope.strict && v.isNull then Render.fail (.missingValue none) else pure v

/-- The level that a text names, in any case of its letters. -/
def logLevel? (text : String) : Option Log.Level :=
  [("error", Log.Level.error), ("warn", .warn), ("info", .info), ("debug", .debug),
    ("trace", .trace)].lookup (String.ofList (text.toList.map Char.toLower))

/-- Writes the arguments to the log. -/
def logArguments (call : Invocation) : Render Unit := do
  let text (a : Argument) : String :=
    match a.source with
    | some source => source ++ ": " ++ a.found.value.templateText
    | none => a.found.value.templateText
  let level := ((call.options.get? "level").bind (·.found.value.asString?)).getD "info"
  match logLevel? level with
  | some l =>
    Render.emit ⟨l, .handlebarsLogHelper, String.intercalate ", " (call.arguments.map text)⟩
  | none => Render.fail (.logLevel level)

/-- The number of items, members or bytes of a value. -/
def size : Json → Nat
  | .array items => items.length
  | .object members => members.length
  | .string s => s.utf8ByteSize
  | _ => 0

/-- The format of times if none is given. -/
def defaultTimeFormat : String := "%Y-%m-%d %H:%M:%S"

/-- A time written by a format. -/
def writeTime (m : Time.Moment) (zone format : String) : Render Json :=
  match Time.Format.parse format with
  | some f => pure (.string (m.write zone f))
  | none => Render.fail (.badTimeFormat format)

/-- The clock in UTC. -/
def clock (scope : Scope) : Time.Moment :=
  { Time.Moment.ofUnixSeconds scope.around.now.seconds with
    nanosecond := scope.around.now.nanoseconds }

/-- Hexadecimal digits of a number, filled with zeros in front up to a width. -/
def hexPadded (width n : Nat) : List Char :=
  let ds := Nat.toDigits 16 n
  List.replicate (width - ds.length) '0' ++ ds

/-- A random identifier of version four, from 128 random bits. -/
def uuidText (bits : Nat) : String :=
  let bits := bits % Nat.pow 2 128
  let field (low width : Nat) : Nat := bits / Nat.pow 2 low % Nat.pow 2 width
  String.ofList (
    hexPadded 8 (field 96 32) ++ '-' :: (hexPadded 4 (field 80 16) ++
      '-' :: (hexPadded 4 (0x4000 + field 64 12) ++
        '-' :: (hexPadded 4 (0x8000 + field 48 14) ++ '-' :: hexPadded 12 (field 0 48)))))

/-- Text as Base64. -/
def encodeText (text : String) : String :=
  String.ofList ((Text.Base64.encode text.toUTF8.toList).map fun b => Char.ofNat b.toNat)

/-- The text that a Base64 text stands for. -/
def decodeText (text : String) : Render String :=
  match Text.Base64.decode text.toUTF8.toList with
  | .error e => Render.fail (.badBase64 e)
  | .ok bytes =>
    match Text.Utf8.decode bytes with
    | .error e => Render.fail (.badUtf8 e)
    | .ok decoded => pure decoded

/-- The text of the first argument, empty if there is none. -/
def firstText (call : Invocation) : String :=
  match call.arguments with
  | a :: _ => a.found.value.valueText
  | [] => ""

/-- What a helper answers that renders no block, none for the others. -/
def answer? (helper : Helper) (scope : Scope) (call : Invocation) : Option (Render Json) :=
  match helper with
  | .ifTrue | .unlessTrue | .each | .within | .raw => none
  | .lookup => some (lookupValue scope call)
  | .log => some do
    logArguments call
    return .string ""
  | .eq => some (call.combine scope fun x y => x.same y)
  | .ne => some (call.combine scope fun x y => !x.same y)
  | .gt => some (call.compareIntegers scope fun x y => x > y)
  | .gte => some (call.compareIntegers scope fun x y => x ≥ y)
  | .lt => some (call.compareIntegers scope fun x y => x < y)
  | .lte => some (call.compareIntegers scope fun x y => x ≤ y)
  | .and => some (call.combine scope fun x y => x.isTruthy false && y.isTruthy false)
  | .or => some (call.combine scope fun x y => x.isTruthy false || y.isTruthy false)
  | .not => some do
    let x ← call.operand scope 0 "x"
    return .bool (!x.isTruthy false)
  | .len => some do
    let x ← call.operand scope 0 "x"
    return .number (.int (size x))
  | .timestamp => some (writeTime (clock scope) "UTC" ((call.text? 0).getD defaultTimeFormat))
  | .uuid => some do
    let bits ← Render.draw scope
    return .string (uuidText bits)
  | .env => some do
    let name ← call.requireText 0 "a variable name"
    let fallback := (call.text? 1).getD ""
    return .string ((scope.around.environment.get? name).getD fallback)
  | .upper => some do
    let text ← call.requireText 0 "a string"
    return .string (Text.toUpper text)
  | .lower => some do
    let text ← call.requireText 0 "a string"
    return .string (Text.toLower text)
  | .default => some do
    let fallback ← call.requireText 1 "a fallback value"
    let text := firstText call
    return .string (if text.isEmpty then fallback else text)
  | .join => some do
    match (call.arguments[0]?).bind (·.found.value.asArray?) with
    | some items =>
      let separator := (call.text? 1).getD ","
      return .string (String.intercalate separator (items.map Json.valueText))
    | none => Render.fail (.required "join" "an array")
  | .base64Encode => some do
    let text ← call.requireText 0 "a string"
    return .string (encodeText text)
  | .base64Decode => some do
    let text ← call.requireText 0 "a string"
    return .string (← decodeText text)
  | .formatTime => some do
    if call.arguments.isEmpty then Render.fail (.required "format_time" "a timestamp")
    let text := firstText call
    match Time.Moment.ofText? text with
    | some m => writeTime m m.offsetName ((call.text? 1).getD defaultTimeFormat)
    | none => Render.fail (.unknownTime text)

end Helper

/-! ## Helpers that render a block -/

/-- How a template is rendered in a scope. -/
abbrev Renderer := Scope → Template → Render Unit

/-- The content of a block: what is rendered, what is rendered instead, and the names that the
block introduces. -/
structure Content where
  body : Option Template := none
  inverse : Option Template := none
  names : List String := []

namespace Helper

/-- Renders a template, if there is one. -/
def renderSome (render : Renderer) (scope : Scope) : Option Template → Render Unit
  | some t => render scope t
  | none => pure ()

/-- Renders what stands after `else`. Without it, a value that does not suit the block is an error
in strict mode. -/
def renderInverse (render : Renderer) (scope : Scope) (content : Content) (value : Argument) :
    Render Unit :=
  match content.inverse with
  | some t => render scope t
  | none => if scope.strict then Render.fail (.missingValue value.source) else pure ()

/-- The names of a block over an item: the first stands for the item, the second for its key. -/
def itemNames (names : List String) (inData : Bool) (key item : Json) : Dict Binding :=
  let binding := if inData then Binding.place else .value item
  match names with
  | [] => []
  | [name] => Dict.ofList [(name, binding)]
  | name :: keyName :: _ => Dict.ofList [(name, binding), (keyName, .value key)]

/-- The block over an item of a collection that was found at a place. -/
def itemBlock (names : List String) (place : Option (List String)) (step : String) (key item : Json)
    (locals : Dict Json) : Block where
  path := match place with
    | some path => path ++ [step]
    | none => []
  value := match place with
    | some _ => none
    | none => some item
  names := itemNames names place.isSome key item
  locals := locals

/-- The local variables for an item: whether it is the first or the last one, and its key. -/
def itemVariables (keyName : String) (key : Json) (i count : Nat) : Dict Json :=
  Dict.ofList [("first", .bool (i == 0)), ("last", .bool (i + 1 == count)), (keyName, key)]

/-- Renders a template for every item of a collection; every item comes with its key and the step
that leads to it. -/
def renderItems (render : Renderer) (scope : Scope) (body : Template) (names : List String)
    (place : Option (List String)) (keyName : String) (count : Nat) :
    Nat → List (String × Json × Json) → Render Unit
  | _, [] => pure ()
  | i, (step, key, item) :: rest => do
    let locals := itemVariables keyName key i count
    render (scope.push (itemBlock names place step key item locals)) body
    renderItems render scope body names place keyName count (i + 1) rest

/-- The items of an array with their indices. -/
def indexed (items : List Json) : List (String × Json × Json) :=
  items.mapIdx fun i item => (toString i, .number (.int i), item)

def renderEach (render : Renderer) (scope : Scope) (content : Content) (value : Argument) :
    Render Unit :=
  match content.body with
  | none => pure ()
  | some body =>
    let renderAll (keyName : String) (items : List (String × Json × Json)) : Render Unit :=
      if items.isEmpty && content.inverse.isSome then renderInverse render scope content value
      else
        renderItems render scope body content.names value.found.path? keyName items.length 0 items
    match value.found.value with
    | .array items => renderAll "index" (indexed items)
    | .object members => renderAll "key" (members.map fun (k, v) => (k, .string k, v))
    | _ => renderInverse render scope content value

def renderWithin (render : Renderer) (scope : Scope) (content : Content) (value : Argument) :
    Render Unit :=
  let v := value.found.value
  if v.isTruthy false then
    let names := match content.names with
      | [name] => itemNames [name] value.found.path?.isSome .null v
      | _ => []
    let block := { Block.ofFound value.found with names := names }
    renderSome render (scope.push block) content.body
  else renderInverse render scope content value

def renderCondition (render : Renderer) (scope : Scope) (content : Content) (call : Invocation)
    (positive : Bool) : Render Unit :=
  match call.arguments with
  | [] => Render.fail (.missingParam "if")
  | value :: _ =>
    let includeZero :=
      ((call.options.get? "includeZero").bind (·.found.value.asBool?)).getD false
    let holds := value.found.value.isTruthy includeZero == positive
    renderSome render scope (if holds then content.body else content.inverse)

/-- What a helper renders that has no value. -/
def renderBlock (render : Renderer) (helper : Helper) (scope : Scope) (content : Content)
    (call : Invocation) : Render Unit :=
  match helper, call.arguments with
  | .ifTrue, _ => renderCondition render scope content call true
  | .unlessTrue, _ => renderCondition render scope content call false
  | .each, [] => Render.fail (.missingParam "each")
  | .each, value :: _ => renderEach render scope content value
  | .within, [] => Render.fail (.missingParam "with")
  | .within, value :: _ => renderWithin render scope content value
  | _, _ => renderSome render scope content.body

/-- The value of a helper inside an expression. A helper that renders a block has no content there
and leaves an empty text. -/
def value (helper : Helper) (scope : Scope) (call : Invocation) : Render Json :=
  match helper.answer? scope call with
  | some answer => answer
  | none => do
    renderBlock (fun _ _ => pure ()) helper scope {} call
    return .string ""

end Helper

end Handlebars

end TemplateEngines
