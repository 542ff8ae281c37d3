/-
Cutting a YAML source into tokens. A scalar or the start of a collection may turn out to be a key
when a colon follows; until that is decided the tokens from there on are held back. Indentation
opens and closes block collections. `Token.scan` answers the tokens up to the first flaw.
-/
import TemplateEngines.Text.Utf8
import TemplateEngines.Yaml.Token.Scalar

namespace TemplateEngines.Yaml

/-! ## State -/

/-- A token that may turn out to be a key. -/
structure KeyCandidate where
  /-- Nothing else can stand there. -/
  required : Bool
  /-- The number of the token. -/
  number : Nat
  mark : Mark

/-- The state of the scan. -/
structure Scanner where
  cursor : Cursor
  /-- The tokens that have been read and not delivered. -/
  queue : List Token := []
  /-- The number of tokens that have been delivered. -/
  delivered : Nat := 0
  /-- The column of the innermost block collection, -1 outside of all. -/
  indent : Int := -1
  /-- The columns around it. -/
  indents : List Int := []
  /-- A key may start here. -/
  keyAllowed : Bool := true
  /-- The candidate in the innermost flow collection, or outside of all. -/
  candidate : Option KeyCandidate := none
  /-- The candidates around it, one for each flow collection. -/
  outer : List (Option KeyCandidate) := []

namespace Scanner

/-- The scan is inside a flow collection. -/
def inFlow (s : Scanner) : Bool := !s.outer.isEmpty

def mark (s : Scanner) : Mark := s.cursor.mark

/-- Adds a token. -/
def add (s : Scanner) (lexeme : Lexeme) (start stop : Mark) : Scanner :=
  { s with queue := s.queue ++ [⟨lexeme, start, stop⟩] }

/-- Adds a token at the cursor that takes some characters. -/
def addHere (s : Scanner) (lexeme : Lexeme) (count : Nat) : Scanner :=
  let cursor := s.cursor.skip count
  { s.add lexeme s.mark cursor.mark with cursor }

/-- Puts a token before the one with a number. -/
def insert (s : Scanner) (number : Nat) (lexeme : Lexeme) (mark : Mark) : Scanner :=
  let i := number - s.delivered
  { s with queue := s.queue.take i ++ ⟨lexeme, mark, mark⟩ :: s.queue.drop i }

/-! ## Keys -/

/-- A candidate has to be followed by its colon on the same line and within 1024 characters. -/
def KeyCandidate.isStale (k : KeyCandidate) (mark : Mark) : Bool :=
  k.mark.line < mark.line || k.mark.index + 1024 < mark.index

/-- Gives a candidate up; one that is required is a flaw. -/
def giveUp (s : Scanner) (k : KeyCandidate) : Except Problem Unit :=
  if k.required then .error (s.cursor.problem .keyWithoutValue .simpleKey k.mark) else .ok ()

/-- Gives up a candidate if it is stale. -/
def dropStaleOne (s : Scanner) (k? : Option KeyCandidate) :
    Except Problem (Option KeyCandidate) :=
  match k? with
  | some k => if KeyCandidate.isStale k s.mark then (s.giveUp k).map fun _ => none else .ok (some k)
  | none => .ok none

/-- Gives up all candidates that are stale, the outermost first. -/
def dropStale (s : Scanner) : Except Problem Scanner := do
  let outer ← s.outer.reverse.mapM s.dropStaleOne
  let candidate ← s.dropStaleOne s.candidate
  return { s with outer := outer.reverse, candidate }

/-- Gives up the innermost candidate. -/
def dropCandidate (s : Scanner) : Except Problem Scanner := do
  match s.candidate with
  | some k => s.giveUp k
  | none => pure ()
  return { s with candidate := none }

/-- Makes the next token a candidate, if a key may start here. -/
def saveCandidate (s : Scanner) : Except Problem Scanner :=
  if s.keyAllowed then do
    let k : KeyCandidate :=
      ⟨!s.inFlow && s.indent == s.mark.column, s.delivered + s.queue.length, s.mark⟩
    let s ← s.dropCandidate
    return { s with candidate := some k }
  else .ok s

/-! ## Indentation -/

/-- Opens a block collection if the column lies deeper than the innermost one. Its token comes last,
or before the token with a number. -/
def openBlock (s : Scanner) (column : Nat) (number : Option Nat) (lexeme : Lexeme) (mark : Mark) :
    Scanner :=
  if s.inFlow || (column : Int) ≤ s.indent then s
  else
    let s := { s with indents := s.indent :: s.indents, indent := column }
    match number with
    | some n => s.insert n lexeme mark
    | none => s.add lexeme mark mark

/-- Closes the collections among `outer` that lie deeper than a column. -/
def closeTo (s : Scanner) (column : Int) : List Int → Scanner
  | [] => s
  | around :: rest =>
    if s.indent > column then
      closeTo { s.add .blockEnd s.mark s.mark with indent := around, indents := rest } column rest
    else s

/-- Closes the block collections that lie deeper than a column. -/
def closeBlocks (s : Scanner) (column : Int) : Scanner :=
  if s.inFlow then s else s.closeTo column s.indents

/-! ## Between tokens -/

/-- Passes over blanks, comments and line ends, of which at most `fuel` are met. Tabs do not count
as blanks where a key may start outside of flow collections. -/
def skipToToken : Nat → Scanner → Scanner
  | 0, s => s
  | fuel + 1, s =>
    let c := if s.mark.column = 0 && s.cursor.head? == some '\ufeff' then s.cursor.skip 1
      else s.cursor
    let tabs := s.inFlow || !s.keyAllowed
    let c := (c.skipWhile fun x => x == ' ' || (tabs && x == '\t')).skipComment
    if c.startsWith isBreak then
      skipToToken fuel
        { s with cursor := c.skipBreak, keyAllowed := s.keyAllowed || !s.inFlow }
    else { s with cursor := c }

/-! ## Directives -/

/-- Reads a version number. -/
def readVersionNumber (start : Mark) (c : Cursor) : Except Problem (Nat × Cursor) :=
  let (ds, after) := c.take Char.isDigit
  if ds.length > 9 then .error ((c.skip 9).problem .longVersion .versionDirective start)
  else if ds.isEmpty then .error (c.problem .noVersion .versionDirective start)
  else .ok (digitsValue ds, after)

/-- Reads a handle of tags, which starts with an exclamation mark. -/
def readHandle (directive : Bool) (start : Mark) (c : Cursor) :
    Except Problem (List Char × Cursor) :=
  if c.head? != some '!' then
    .error (c.problem .noExclamationMark (if directive then .tagDirectiveHandle else .tag) start)
  else
    let (word, after) := (c.skip 1).take isWordChar
    if after.head? == some '!' then .ok ('!' :: (word ++ ['!']), after.skip 1)
    else if directive && !word.isEmpty then
      .error (after.problem .noExclamationMark .tagDirectiveMark start)
    else .ok ('!' :: word, after)

/-- The characters of tags. -/
def isUriChar (verbatim : Bool) (c : Char) : Bool :=
  isWordChar c ||
    [';', '/', '?', ':', '@', '&', '=', '+', '$', '.', '%', '!', '~', '*', '\'', '(',
      ')'].contains c ||
    (verbatim && [',', '[', ']'].contains c)

/-- Reads one octet written as a percent sign and two digits. -/
def readOctet (activity : Activity) (start : Mark) (c : Cursor) : Except Problem (UInt8 × Cursor) :=
  match c.rest with
  | '%' :: a :: b :: _ =>
    match hexNumber [a, b] with
    | some n => .ok (n.toUInt8, c.skip 3)
    | none => .error (c.problem .noUriOctet activity start)
  | _ => .error (c.problem .noUriOctet activity start)

/-- Reads so many octets that continue a character. -/
def readTrailingOctets (activity : Activity) (start : Mark) :
    Nat → Cursor → Except Problem (List UInt8 × Cursor)
  | 0, c => .ok ([], c)
  | count + 1, c => do
    let (b, after) ← readOctet activity start c
    if !Text.Utf8.isContinuation b then throw (c.problem .trailingOctet activity start)
    let (more, after) ← readTrailingOctets activity start count after
    return (b :: more, after)

/-- Reads a character written as octets. -/
def readEscapedUri (activity : Activity) (start : Mark) (c : Cursor) :
    Except Problem (List Char × Cursor) := do
  let (b, after) ← readOctet activity start c
  let width? : Option Nat :=
    if b < 0x80 then some 0
    else if b &&& 0xE0 == 0xC0 then some 1
    else if b &&& 0xF0 == 0xE0 then some 2
    else if b &&& 0xF8 == 0xF0 then some 3
    else none
  match width? with
  | none => throw (c.problem .leadingOctet activity start)
  | some width =>
    let (more, after) ← readTrailingOctets activity start width after
    let text := match Text.Utf8.decode (b :: more) with
      | .ok text => text.toList
      | .error _ => ['\ufffd']
    return (text, after)

/-- Reads the characters of a tag, at most `fuel`. -/
def readUriChars (verbatim : Bool) (activity : Activity) (start : Mark) :
    Nat → Cursor → Except Problem (List Char × Cursor)
  | 0, c => .ok ([], c)
  | fuel + 1, c =>
    match c.rest with
    | [] => .ok ([], c)
    | x :: _ =>
      if !isUriChar verbatim x then .ok ([], c)
      else do
        let (text, c) ← if x == '%' then readEscapedUri activity start c else pure ([x], c.skip 1)
        let (more, c) ← readUriChars verbatim activity start fuel c
        return (text ++ more, c)

/-- Reads a tag without its handle. What has been taken for a handle belongs to it without its
exclamation mark. -/
def readUri (verbatim directive : Bool) (head : List Char) (start : Mark) (c : Cursor) :
    Except Problem (List Char × Cursor) := do
  let activity := if directive then Activity.tagDirectiveUri else .tagUri
  let (text, after) ← readUriChars verbatim activity start c.rest.length c
  if head.isEmpty && text.isEmpty then throw (after.problem .noTagUri activity start)
  return (head.drop 1 ++ text, after)

/-- Reads the rest of a directive after its name. -/
def readDirectiveValue (name : List Char) (start : Mark) (c : Cursor) :
    Except Problem (Lexeme × Cursor) := do
  if name = ['Y', 'A', 'M', 'L'] then
    let (major, c) ← readVersionNumber start (c.skipWhile isBlank)
    if c.head? != some '.' then throw (c.problem .versionCharacter .versionDirective start)
    let (minor, c) ← readVersionNumber start (c.skip 1)
    return (.version major minor, c)
  else if name = ['T', 'A', 'G'] then
    let (handle, c) ← readHandle true start (c.skipWhile isBlank)
    if !(c.startsWith isBlank) then throw (c.problem .whitespace .tagDirectiveValue start)
    let (meaning, c) ← readUri true true [] start (c.skipWhile isBlank)
    if !startsBlank c.rest then throw (c.problem .whitespaceOrLineBreak .tagDirectiveValue start)
    return (.tagHandle (String.ofList handle) (String.ofList meaning), c)
  else throw (c.problem .unknownDirective .directive start)

/-- Reads a directive, which is on a line of its own. -/
def readDirective (c : Cursor) : Except Problem (Lexeme × Mark × Cursor) := do
  let start := c.mark
  let (name, c) := (c.skip 1).take isWordChar
  if name.isEmpty then throw (c.problem .directiveName .directive start)
  if !startsBlank c.rest then throw (c.problem .directiveCharacter .directive start)
  let (lexeme, c) ← readDirectiveValue name start c
  let stop := c.mark
  let c := (c.skipWhile isBlank).skipComment
  if !startsBreak c.rest then throw (c.problem .commentOrLineBreak .directive start)
  return (lexeme, stop, c.skipBreak)

/-! ## Anchors and tags -/

/-- Reads the name of an anchor or an alias. -/
def readAnchor (activity : Activity) (c : Cursor) : Except Problem (String × Cursor) :=
  let (name, after) := (c.skip 1).take isWordChar
  let ends := startsBlank after.rest ||
    after.startsWith fun x => ['?', ':', ',', ']', '}', '%', '@', '`'].contains x
  if name.isEmpty || !ends then .error (after.problem .anchorCharacter activity c.mark)
  else .ok (String.ofList name, after)

/-- Reads a tag: verbatim in angles, with a handle, or after a single exclamation mark. -/
def readTag (inFlow : Bool) (c : Cursor) : Except Problem (Lexeme × Cursor) := do
  let start := c.mark
  let ((handle, rest), c) ←
    if c.rest[1]? == some '<' then do
      let (uri, c) ← readUri true false [] start (c.skip 2)
      if c.head? != some '>' then throw (c.problem .noClosingAngle .tag start)
      pure (([], uri), c.skip 1)
    else do
      let (handle, c) ← readHandle false start c
      if handle.length > 1 && handle.getLast? == some '!' then
        let (uri, c) ← readUri false false [] start c
        pure ((handle, uri), c)
      else
        let (uri, c) ← readUri false false handle start c
        pure (if uri.isEmpty then (([], ['!']), c) else ((['!'], uri), c))
  if !(inFlow && c.head? == some ',') && !startsBlank c.rest then
    throw (c.problem .whitespaceOrLineBreak .tag start)
  return (.tag (String.ofList handle) (String.ofList rest), c)

/-! ## Tokens -/

/-- Ends the source: all block collections are closed on a line of their own. -/
def fetchEnd (s : Scanner) : Except Problem Scanner := do
  let mark := if s.mark.column = 0 then s.mark
    else { s.mark with line := s.mark.line + 1, column := 0 }
  let s := { s with cursor := { s.cursor with mark } }
  let s ← (s.closeBlocks (-1)).dropCandidate
  return { s.add .streamEnd s.mark s.mark with keyAllowed := false }

def fetchDirective (s : Scanner) : Except Problem Scanner := do
  let s ← (s.closeBlocks (-1)).dropCandidate
  let (lexeme, stop, cursor) ← readDirective s.cursor
  return { s.add lexeme s.mark stop with cursor, keyAllowed := false }

def fetchDocumentMark (s : Scanner) (lexeme : Lexeme) : Except Problem Scanner := do
  let s ← (s.closeBlocks (-1)).dropCandidate
  return { s.addHere lexeme 3 with keyAllowed := false }

def fetchFlowStart (s : Scanner) (lexeme : Lexeme) : Except Problem Scanner := do
  let s ← s.saveCandidate
  return { s.addHere lexeme 1 with
    outer := s.candidate :: s.outer, candidate := none, keyAllowed := true }

def fetchFlowEnd (s : Scanner) (lexeme : Lexeme) : Except Problem Scanner := do
  let s ← s.dropCandidate
  let (candidate, outer) := match s.outer with
    | k :: rest => (k, rest)
    | [] => (s.candidate, [])
  return { s.addHere lexeme 1 with candidate, outer, keyAllowed := false }

def fetchFlowEntry (s : Scanner) : Except Problem Scanner := do
  let s ← s.dropCandidate
  return { s.addHere .flowEntry 1 with keyAllowed := true }

def fetchBlockEntry (s : Scanner) : Except Problem Scanner := do
  if !s.inFlow && !s.keyAllowed then throw { flaw := .blockEntryHere, mark := s.mark }
  let s := s.openBlock s.mark.column none .blockSequenceStart s.mark
  let s ← s.dropCandidate
  return { s.addHere .blockEntry 1 with keyAllowed := true }

def fetchKey (s : Scanner) : Except Problem Scanner := do
  if !s.inFlow && !s.keyAllowed then throw { flaw := .keyHere, mark := s.mark }
  let s := s.openBlock s.mark.column none .blockMappingStart s.mark
  let s ← s.dropCandidate
  return { s.addHere .key 1 with keyAllowed := !s.inFlow }

/-- A colon makes the candidate a key, if there is one. -/
def fetchValue (s : Scanner) : Except Problem Scanner := do
  match s.candidate with
  | some k =>
    let s := s.insert k.number .key k.mark
    let s := s.openBlock k.mark.column (some k.number) .blockMappingStart k.mark
    return { s.addHere .value 1 with candidate := none, keyAllowed := false }
  | none =>
    if !s.inFlow && !s.keyAllowed then throw { flaw := .valueHere, mark := s.mark }
    let s := s.openBlock s.mark.column none .blockMappingStart s.mark
    return { s.addHere .value 1 with keyAllowed := !s.inFlow }

def fetchAnchor (s : Scanner) : Except Problem Scanner := do
  let s ← s.saveCandidate
  let isAlias := s.cursor.head? == some '*'
  let (name, cursor) ← readAnchor (if isAlias then .alias else .anchor) s.cursor
  let lexeme := if isAlias then Lexeme.alias name else .anchor name
  return { s.add lexeme s.mark cursor.mark with cursor, keyAllowed := false }

def fetchTag (s : Scanner) : Except Problem Scanner := do
  let s ← s.saveCandidate
  let (lexeme, cursor) ← readTag s.inFlow s.cursor
  return { s.add lexeme s.mark cursor.mark with cursor, keyAllowed := false }

def fetchBlockScalar (s : Scanner) (literal : Bool) : Except Problem Scanner := do
  let s ← s.dropCandidate
  let (text, stop, cursor) ← readBlock literal s.indent s.mark (s.cursor.skip 1)
  let lexeme := Lexeme.scalar (String.ofList text) (if literal then .literal else .folded)
  return { s.add lexeme s.mark stop with cursor, keyAllowed := true }

def fetchQuoted (s : Scanner) (single : Bool) : Except Problem Scanner := do
  let s ← s.saveCandidate
  let (text, cursor) ← readQuoted single s.mark (s.cursor.rest.length + 1) (s.cursor.skip 1)
  let lexeme :=
    Lexeme.scalar (String.ofList text) (if single then .singleQuoted else .doubleQuoted)
  return { s.add lexeme s.mark cursor.mark with cursor, keyAllowed := false }

def fetchPlain (s : Scanner) : Except Problem Scanner := do
  let s ← s.saveCandidate
  let scalar ← readPlain s.inFlow (s.indent + 1) s.mark (s.cursor.rest.length + 1)
    ⟨[], s.mark, {}, s.cursor⟩
  return { s.add (.scalar (String.ofList scalar.text) .plain) s.mark scalar.stop with
    cursor := scalar.cursor, keyAllowed := scalar.gap.folded }

/-- The characters that start something else than a plain scalar. -/
def indicators : List Char :=
  ['-', '?', ':', ',', '[', ']', '{', '}', '#', '&', '*', '!', '|', '>', '\'', '"', '%', '@', '`']

/-- Whether a plain scalar starts here. -/
def startsPlain (inFlow : Bool) : List Char → Bool
  | [] => false
  | c :: rest =>
    !(isBlank c || isBreak c || indicators.contains c) ||
      (c == '-' && !(rest.head?.map isBlank).getD false) ||
      (!inFlow && (c == '?' || c == ':') && !startsBlank rest)

/-- Reads the next token, together with the ends of block collections before it. -/
def fetch (s : Scanner) : Except Problem Scanner := do
  let s := skipToToken (s.cursor.rest.length + 1) s
  let s ← s.dropStale
  let s := s.closeBlocks s.mark.column
  match s.cursor.rest with
  | [] => s.fetchEnd
  | c :: rest =>
    if s.mark.column = 0 && c == '%' then s.fetchDirective
    else if s.cursor.atDocumentMark then
      s.fetchDocumentMark (if c == '-' then .documentStart else .documentEnd)
    else if c == '[' then s.fetchFlowStart .flowSequenceStart
    else if c == '{' then s.fetchFlowStart .flowMappingStart
    else if c == ']' then s.fetchFlowEnd .flowSequenceEnd
    else if c == '}' then s.fetchFlowEnd .flowMappingEnd
    else if c == ',' then s.fetchFlowEntry
    else if c == '-' && startsBlank rest then s.fetchBlockEntry
    else if c == '?' && (s.inFlow || startsBlank rest) then s.fetchKey
    else if c == ':' && (s.inFlow || startsBlank rest) then s.fetchValue
    else if c == '*' || c == '&' then s.fetchAnchor
    else if c == '!' then s.fetchTag
    else if c == '|' && !s.inFlow then s.fetchBlockScalar true
    else if c == '>' && !s.inFlow then s.fetchBlockScalar false
    else if c == '\'' then s.fetchQuoted true
    else if c == '"' then s.fetchQuoted false
    else if startsPlain s.inFlow s.cursor.rest then s.fetchPlain
    else throw (s.cursor.problem .noToken .nextToken s.mark)

/-! ## Delivery -/

/-- Whether the first token of the queue may still turn out to be a key. -/
def isHeld (s : Scanner) : Bool :=
  (s.candidate :: s.outer).any fun k? => (k?.map (·.number == s.delivered)).getD false

/-- Reads on, at most `fuel` tokens, until the next token can be delivered. -/
def prepare : Nat → Scanner → Except Problem Scanner
  | 0, s => .ok s
  | fuel + 1, s =>
    if s.queue.isEmpty then do
      let s ← s.fetch
      prepare fuel s
    else do
      let s ← s.dropStale
      if s.isHeld then
        let s ← s.fetch
        prepare fuel s
      else return s

/-- Delivers the tokens up to the end of the source or the first flaw, at most `fuel`. -/
def deliver : Nat → Scanner → List Token × Option Problem
  | 0, _ => ([], none)
  | fuel + 1, s =>
    match s.prepare (s.cursor.rest.length + 2) with
    | .error problem => ([], some problem)
    | .ok s =>
      match s.queue with
      | [] => ([], none)
      | token :: queue =>
        if token.lexeme = .streamEnd then ([token], none)
        else
          let (tokens, problem) := deliver fuel { s with queue, delivered := s.delivered + 1 }
          (token :: tokens, problem)

end Scanner

/-! ## Sources -/

/-- The number of bytes before the first character that no source may contain. -/
def forbidden? (offset : Nat) : List Char → Option Nat
  | [] => none
  | c :: rest => if isAllowed c then forbidden? (offset + c.utf8Size) rest else some offset

/-- The tokens of a source up to the first flaw. A mark of the byte order in front does not
count. -/
def Token.scan (source : String) : List Token × Option Problem :=
  let (offset, cs) := match source.toList with
    | '\ufeff' :: rest => (3, rest)
    | cs => (0, cs)
  let start : Token := ⟨.streamStart, {}, {}⟩
  match forbidden? offset cs with
  | some n => ([start], some { flaw := .controlCharacter, byteOffset := n })
  | none =>
    let (tokens, problem) :=
      Scanner.deliver (4 * cs.length + 8) { cursor := ⟨cs, {}⟩, delivered := 1 }
    (start :: tokens, problem)

end TemplateEngines.Yaml
