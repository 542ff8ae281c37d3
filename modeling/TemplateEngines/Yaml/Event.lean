/-
The structure of a YAML document as a list of events: scalars, aliases, and the starts and ends of
collections. The events before a flaw are kept, so that a reader meets the flaw only where it has to
read on.
-/
import TemplateEngines.Yaml.Token.Scanner

namespace TemplateEngines.Yaml

/-- A scalar as it is written. -/
structure Scalar where
  text : String
  style : ScalarStyle
  tag : Option String
deriving DecidableEq, Inhabited, Repr

/-- The kinds of events. A node may have an anchor. -/
inductive EventKind where
  | scalar (anchor : Option String) (scalar : Scalar)
  | alias (name : String)
  | sequenceStart (anchor : Option String)
  | sequenceEnd
  | mappingStart (anchor : Option String)
  | mappingEnd
deriving DecidableEq, Inhabited, Repr

/-- An event and its place. -/
structure Event where
  kind : EventKind
  mark : Mark
deriving DecidableEq, Inhabited, Repr

namespace Event

/-! ## State -/

/-- The tokens still to be read, the flaw behind them, and the events so far, the last one first. -/
structure Feed where
  tokens : List Token
  problem : Option Problem
  tagHandles : List (String × String) := []
  events : List Event := []

/-- A computation that reads tokens and adds events; a flaw ends it. -/
abbrev Parse := ExceptT Problem (StateM Feed)

/-- The next token. -/
def peek : Parse Token := do
  let feed ← get
  match feed.tokens with
  | token :: _ => return token
  | [] => throw (feed.problem.getD { flaw := .endOfStream })

/-- The kind of the next token. -/
def peekLexeme : Parse Lexeme := do return (← peek).lexeme

/-- Passes over the next token. -/
def advance : Parse Unit := modify fun feed => { feed with tokens := feed.tokens.drop 1 }

/-- Adds an event. -/
def emit (kind : EventKind) (mark : Mark) : Parse Unit :=
  modify fun feed => { feed with events := ⟨kind, mark⟩ :: feed.events }

/-- Adds the scalar that stands for a node without content. -/
def emitEmpty (mark : Mark) : Parse Unit := emit (.scalar none ⟨"", .plain, none⟩) mark

def fail {α : Type} (flaw : Flaw) (mark : Mark) (activity : Activity) (start : Mark) : Parse α :=
  throw { flaw, mark, context := some (activity, start) }

/-! ## Nodes -/

/-- What stands before the content of a node. -/
structure Properties where
  anchor : Option String := none
  /-- The handle and the rest of the tag, and its place. -/
  tag : Option (String × String × Mark) := none
  start : Mark

def readAnchor (p : Properties) : Parse Properties := do
  match ← peekLexeme with
  | .anchor name => advance; return { p with anchor := some name }
  | _ => return p

def readTag (p : Properties) : Parse Properties := do
  let token ← peek
  match token.lexeme with
  | .tag handle rest => advance; return { p with tag := some (handle, rest, token.start) }
  | _ => return p

/-- Anchor and tag in any order. -/
def readProperties : Parse Properties := do
  let token ← peek
  let p : Properties := { start := token.start }
  match token.lexeme with
  | .tag .. =>
    let p ← readTag p
    readAnchor p
  | _ =>
    let p ← readAnchor p
    if p.anchor.isSome then readTag p else return p

/-- The tag of a node, its handle replaced by what it stands for. -/
def resolveTag (p : Properties) : Parse (Option String) := do
  match p.tag with
  | none => return none
  | some ("", rest, _) => return some rest
  | some (handle, rest, mark) =>
    match (← get).tagHandles.lookup handle with
    | some meaning => return some (meaning ++ rest)
    | none => fail .undefinedTagHandle mark .node p.start

/-- Whether the next token is one of those after which a node is empty. -/
def endsWith (p : Lexeme → Bool) : Parse Bool := do return p (← peekLexeme)

def endsBlockEntry : Lexeme → Bool
  | .blockEntry | .blockEnd => true
  | _ => false

def endsIndentlessEntry : Lexeme → Bool
  | .blockEntry | .key | .value | .blockEnd => true
  | _ => false

def endsBlockPart : Lexeme → Bool
  | .key | .value | .blockEnd => true
  | _ => false

mutual

/-- Reads a node. In flow collections there are no block collections; a sequence without
indentation of its own can only be the key or the value of a block mapping. -/
def readNode (block indentless : Bool) : Nat → Parse Unit
  | 0 => throw { flaw := .noNodeContent }
  | fuel + 1 => do
    match ← peekLexeme with
    | .alias name =>
      let token ← peek
      emit (.alias name) token.start
      advance
    | _ =>
      let p ← readProperties
      let token ← peek
      let tag ← resolveTag p
      match token.lexeme, indentless, block with
      | .blockEntry, true, _ =>
        emit (.sequenceStart p.anchor) p.start
        readIndentless fuel
      | .scalar text style, _, _ =>
        emit (.scalar p.anchor ⟨text, style, if tag = some "!" then none else tag⟩) p.start
        advance
      | .flowSequenceStart, _, _ =>
        emit (.sequenceStart p.anchor) p.start
        advance
        readFlowSequence token.start true fuel
      | .flowMappingStart, _, _ =>
        emit (.mappingStart p.anchor) p.start
        advance
        readFlowMapping token.start true fuel
      | .blockSequenceStart, _, true =>
        emit (.sequenceStart p.anchor) p.start
        advance
        readBlockSequence token.start fuel
      | .blockMappingStart, _, true =>
        emit (.mappingStart p.anchor) p.start
        advance
        readBlockMapping token.start fuel
      | _, _, _ =>
        if p.anchor.isSome || tag.isSome then
          emit (.scalar p.anchor ⟨"", .plain, tag⟩) p.start
        else
          fail .noNodeContent token.start (if block then .blockNode else .flowNode) p.start

/-- Reads the entries of a block sequence. -/
def readBlockSequence (start : Mark) : Nat → Parse Unit
  | 0 => throw { flaw := .noDash }
  | fuel + 1 => do
    let token ← peek
    match token.lexeme with
    | .blockEntry =>
      advance
      if ← endsWith endsBlockEntry then emitEmpty token.stop else readNode true false fuel
      readBlockSequence start fuel
    | .blockEnd =>
      emit .sequenceEnd token.start
      advance
    | _ => fail .noDash token.start .blockCollection start

/-- Reads the entries of a sequence without indentation of its own. -/
def readIndentless : Nat → Parse Unit
  | 0 => throw { flaw := .noDash }
  | fuel + 1 => do
    let token ← peek
    match token.lexeme with
    | .blockEntry =>
      advance
      if ← endsWith endsIndentlessEntry then emitEmpty token.stop else readNode true false fuel
      readIndentless fuel
    | _ => emit .sequenceEnd token.start

/-- Reads the entries of a block mapping. -/
def readBlockMapping (start : Mark) : Nat → Parse Unit
  | 0 => throw { flaw := .noKey }
  | fuel + 1 => do
    let token ← peek
    match token.lexeme with
    | .key =>
      advance
      if ← endsWith endsBlockPart then emitEmpty token.stop else readNode true true fuel
      readBlockValue fuel
      readBlockMapping start fuel
    | .blockEnd =>
      emit .mappingEnd token.start
      advance
    | _ => fail .noKey token.start .blockMapping start

/-- Reads the value of a key in a block mapping. -/
def readBlockValue : Nat → Parse Unit
  | 0 => throw { flaw := .noKey }
  | fuel + 1 => do
    let token ← peek
    match token.lexeme with
    | .value =>
      advance
      if ← endsWith endsBlockPart then emitEmpty token.stop else readNode true true fuel
    | _ => emitEmpty token.start

/-- Reads the entries of a flow sequence. A pair in it is a mapping of its own. -/
def readFlowSequence (start : Mark) (first : Bool) : Nat → Parse Unit
  | 0 => throw { flaw := .noCommaOrBracket }
  | fuel + 1 => do
    if !first && !(← endsWith (· = .flowSequenceEnd)) then
      let token ← peek
      match token.lexeme with
      | .flowEntry => advance
      | _ => fail .noCommaOrBracket token.start .flowSequence start
    let token ← peek
    match token.lexeme with
    | .flowSequenceEnd =>
      emit .sequenceEnd token.start
      advance
    | .key =>
      emit (.mappingStart none) token.start
      advance
      readPair fuel
      readFlowSequence start false fuel
    | _ =>
      readNode false false fuel
      readFlowSequence start false fuel

/-- Reads key and value of a pair in a flow sequence. -/
def readPair : Nat → Parse Unit
  | 0 => throw { flaw := .noNodeContent }
  | fuel + 1 => do
    let token ← peek
    match token.lexeme with
    | .value | .flowEntry | .flowSequenceEnd =>
      advance
      emitEmpty token.stop
    | _ => readNode false false fuel
    let token ← peek
    match token.lexeme with
    | .value =>
      advance
      let token ← peek
      match token.lexeme with
      | .flowEntry | .flowSequenceEnd => emitEmpty token.start
      | _ => readNode false false fuel
    | _ => emitEmpty token.start
    let token ← peek
    emit .mappingEnd token.start

/-- Reads the entries of a flow mapping. -/
def readFlowMapping (start : Mark) (first : Bool) : Nat → Parse Unit
  | 0 => throw { flaw := .noCommaOrBrace }
  | fuel + 1 => do
    if !first && !(← endsWith (· = .flowMappingEnd)) then
      let token ← peek
      match token.lexeme with
      | .flowEntry => advance
      | _ => fail .noCommaOrBrace token.start .flowMapping start
    let token ← peek
    match token.lexeme with
    | .flowMappingEnd =>
      emit .mappingEnd token.start
      advance
    | .key =>
      advance
      let token ← peek
      match token.lexeme with
      | .value | .flowEntry | .flowMappingEnd => emitEmpty token.start
      | _ => readNode false false fuel
      readFlowValue fuel
      readFlowMapping start false fuel
    | _ =>
      readNode false false fuel
      let token ← peek
      emitEmpty token.start
      readFlowMapping start false fuel

/-- Reads the value of a key in a flow mapping. -/
def readFlowValue : Nat → Parse Unit
  | 0 => throw { flaw := .noNodeContent }
  | fuel + 1 => do
    let token ← peek
    match token.lexeme with
    | .value =>
      advance
      let token ← peek
      match token.lexeme with
      | .flowEntry | .flowMappingEnd => emitEmpty token.start
      | _ => readNode false false fuel
    | _ => emitEmpty token.start

end

/-! ## Documents -/

/-- Adds a handle for tags; it may be given only once. -/
def addHandle (handle meaning : String) (mark : Mark) : Parse Unit := do
  let feed ← get
  if (feed.tagHandles.lookup handle).isSome then throw { flaw := .duplicateTagHandle, mark }
  set { feed with tagHandles := feed.tagHandles ++ [(handle, meaning)] }

/-- The handles that every document has. -/
def defaultHandles : List (String × String) := [("!", "!"), ("!!", "tag:yaml.org,2002:")]

/-- Reads the directives before a document, at most `fuel`. -/
def readDirectives (version : Bool) : Nat → Parse Unit
  | 0 => pure ()
  | fuel + 1 => do
    let token ← peek
    match token.lexeme with
    | .version major minor =>
      if version then throw { flaw := .duplicateVersion, mark := token.start }
      if major ≠ 1 || (minor ≠ 1 && minor ≠ 2) then
        throw { flaw := .incompatibleVersion, mark := token.start }
      advance
      readDirectives true fuel
    | .tagHandle handle meaning =>
      addHandle handle meaning token.start
      advance
      readDirectives version fuel
    | _ => modify fun feed => { feed with tagHandles := feed.tagHandles ++ defaultHandles }

def isDocumentStart : Lexeme → Bool
  | .version .. | .tagHandle .. | .documentStart => true
  | _ => false

/-- Reads the node of a document. The answer is whether there is a document at all. -/
def readRoot (fuel : Nat) : Parse Bool := do
  let lexeme ← peekLexeme
  if lexeme = .streamEnd then return false
  else if isDocumentStart lexeme then
    readDirectives false fuel
    let token ← peek
    if token.lexeme ≠ .documentStart then throw { flaw := .noDocumentStart, mark := token.start }
    advance
    let token ← peek
    if isDocumentStart token.lexeme || token.lexeme = .documentEnd || token.lexeme = .streamEnd then
      emitEmpty token.start
    else readNode true false fuel
    return true
  else
    readDirectives false fuel
    readNode true false fuel
    return true

/-- Reads the first document of a source up to its end. The answer is whether there is one. -/
def readDocument (fuel : Nat) : Parse Bool := do
  advance
  if ← readRoot fuel then
    if ← endsWith (· = .documentEnd) then advance
    return true
  else return false

/-- Whether nothing but the ends of documents follows. -/
def isLast (feed : Feed) : Bool :=
  match feed.tokens.dropWhile fun token => token.lexeme = .documentEnd with
  | token :: _ => token.lexeme = .streamEnd
  | [] => false

end Event

/-- The first document of a source. -/
structure EventList where
  events : List Event
  /-- The flaw after the events. -/
  problem : Option Problem
  /-- There is a document. -/
  present : Bool
  /-- No other document follows. -/
  last : Bool

/-- The events of the first document of a source. -/
def EventList.ofSource (source : String) : EventList :=
  let (tokens, problem) := Token.scan source
  let (result, feed) := (Event.readDocument (4 * tokens.length + 8)).run.run { tokens, problem }
  match result with
  | .error problem => ⟨feed.events.reverse, some problem, true, true⟩
  | .ok present => ⟨feed.events.reverse, none, present, !present || Event.isLast feed⟩

end TemplateEngines.Yaml
