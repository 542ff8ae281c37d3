/-
Words of a YAML source: tokens with their places, and the flaws that a source can have.
-/

namespace TemplateEngines.Yaml

/-- A place in a source: characters before it, and line and column, all counted from zero. -/
structure Mark where
  index : Nat := 0
  line : Nat := 0
  column : Nat := 0
deriving DecidableEq, Inhabited, Repr

/-- The start of a source. -/
def Mark.isStart (m : Mark) : Bool := m.line == 0 && m.column == 0

def Mark.text (m : Mark) : String :=
  "line " ++ toString (m.line + 1) ++ " column " ++ toString (m.column + 1)

/-- How a scalar is written. -/
inductive ScalarStyle where
  | plain
  | singleQuoted
  | doubleQuoted
  | literal
  | folded
deriving DecidableEq, Inhabited, Repr

/-- The kinds of tokens. -/
inductive Lexeme where
  | streamStart
  | streamEnd
  | version (major minor : Nat)
  /-- A handle for tags and what it stands for. -/
  | tagHandle (handle meaning : String)
  | documentStart
  | documentEnd
  | blockSequenceStart
  | blockMappingStart
  | blockEnd
  | flowSequenceStart
  | flowSequenceEnd
  | flowMappingStart
  | flowMappingEnd
  | blockEntry
  | flowEntry
  | key
  | value
  | alias (name : String)
  | anchor (name : String)
  | tag (handle rest : String)
  | scalar (text : String) (style : ScalarStyle)
deriving DecidableEq, Inhabited, Repr

/-- A token between two places. -/
structure Token where
  lexeme : Lexeme
  start : Mark
  stop : Mark
deriving DecidableEq, Inhabited, Repr

/-! ## Flaws -/

/-- What is wrong with a source. -/
inductive Flaw where
  | controlCharacter
  | noToken
  | keyWithoutValue
  | blockEntryHere
  | keyHere
  | valueHere
  | unexpectedColon
  | tabInIndentation
  | tabForSpace
  | zeroIndentation
  | commentOrLineBreak
  | documentIndicator
  | endOfStream
  | unknownEscape
  | noHexNumber
  | escapedCharacter
  | anchorCharacter
  | directiveName
  | directiveCharacter
  | unknownDirective
  | longVersion
  | noVersion
  | versionCharacter
  | whitespace
  | whitespaceOrLineBreak
  | noExclamationMark
  | noClosingAngle
  | noTagUri
  | noUriOctet
  | leadingOctet
  | trailingOctet
  | noDocumentStart
  | duplicateVersion
  | incompatibleVersion
  | duplicateTagHandle
  | undefinedTagHandle
  | noNodeContent
  | noDash
  | noKey
  | noCommaOrBracket
  | noCommaOrBrace
deriving DecidableEq, Inhabited, Repr

def Flaw.text : Flaw → String
  | .controlCharacter => "control characters are not allowed"
  | .noToken => "found character that cannot start any token"
  | .keyWithoutValue => "could not find expected ':'"
  | .blockEntryHere => "block sequence entries are not allowed in this context"
  | .keyHere => "mapping keys are not allowed in this context"
  | .valueHere => "mapping values are not allowed in this context"
  | .unexpectedColon => "found unexpected ':'"
  | .tabInIndentation => "found a tab character that violates indentation"
  | .tabForSpace => "found a tab character where an indentation space is expected"
  | .zeroIndentation => "found an indentation indicator equal to 0"
  | .commentOrLineBreak => "did not find expected comment or line break"
  | .documentIndicator => "found unexpected document indicator"
  | .endOfStream => "found unexpected end of stream"
  | .unknownEscape => "found unknown escape character"
  | .noHexNumber => "did not find expected hexadecimal number"
  | .escapedCharacter => "found invalid Unicode character escape code"
  | .anchorCharacter => "did not find expected alphabetic or numeric character"
  | .directiveName => "could not find expected directive name"
  | .directiveCharacter => "found unexpected non-alphabetical character"
  | .unknownDirective => "found unknown directive name"
  | .longVersion => "found extremely long version number"
  | .noVersion => "did not find expected version number"
  | .versionCharacter => "did not find expected digit or '.' character"
  | .whitespace => "did not find expected whitespace"
  | .whitespaceOrLineBreak => "did not find expected whitespace or line break"
  | .noExclamationMark => "did not find expected '!'"
  | .noClosingAngle => "did not find the expected '>'"
  | .noTagUri => "did not find expected tag URI"
  | .noUriOctet => "did not find URI escaped octet"
  | .leadingOctet => "found an incorrect leading UTF-8 octet"
  | .trailingOctet => "found an incorrect trailing UTF-8 octet"
  | .noDocumentStart => "did not find expected <document start>"
  | .duplicateVersion => "found duplicate %YAML directive"
  | .incompatibleVersion => "found incompatible YAML document"
  | .duplicateTagHandle => "found duplicate %TAG directive"
  | .undefinedTagHandle => "found undefined tag handle"
  | .noNodeContent => "did not find expected node content"
  | .noDash => "did not find expected '-' indicator"
  | .noKey => "did not find expected key"
  | .noCommaOrBracket => "did not find expected ',' or ']'"
  | .noCommaOrBrace => "did not find expected ',' or '\x7d'"

/-- What was being read when a flaw was met. -/
inductive Activity where
  | nextToken
  | simpleKey
  | plainScalar
  | blockScalar
  | quotedScalar
  | escape
  | anchor
  | alias
  | directive
  | versionDirective
  | tagDirectiveHandle
  | tagDirectiveMark
  | tagDirectiveValue
  | tagDirectiveUri
  | tag
  | tagUri
  | node
  | blockNode
  | flowNode
  | blockCollection
  | blockMapping
  | flowSequence
  | flowMapping
deriving DecidableEq, Inhabited, Repr

def Activity.text : Activity → String
  | .nextToken => "while scanning for the next token"
  | .simpleKey => "while scanning a simple key"
  | .plainScalar => "while scanning a plain scalar"
  | .blockScalar => "while scanning a block scalar"
  | .quotedScalar => "while scanning a quoted scalar"
  | .escape => "while parsing a quoted scalar"
  | .anchor => "while scanning an anchor"
  | .alias => "while scanning an alias"
  | .directive => "while scanning a directive"
  | .versionDirective => "while scanning a %YAML directive"
  | .tagDirectiveHandle => "while scanning a tag directive"
  | .tagDirectiveMark => "while parsing a tag directive"
  | .tagDirectiveValue => "while scanning a %TAG directive"
  | .tagDirectiveUri => "while parsing a %TAG directive"
  | .tag => "while scanning a tag"
  | .tagUri => "while parsing a tag"
  | .node => "while parsing a node"
  | .blockNode => "while parsing a block node"
  | .flowNode => "while parsing a flow node"
  | .blockCollection => "while parsing a block collection"
  | .blockMapping => "while parsing a block mapping"
  | .flowSequence => "while parsing a flow sequence"
  | .flowMapping => "while parsing a flow mapping"

/-- A flaw and its place. A character that no source may contain is counted in bytes. -/
structure Problem where
  flaw : Flaw
  mark : Mark := {}
  byteOffset : Nat := 0
  context : Option (Activity × Mark) := none
deriving DecidableEq, Inhabited, Repr

/-- The text of a problem. The start of a source is no place to report, nor is a context that
begins where the flaw is. -/
def Problem.message (p : Problem) : String :=
  let place := if !p.mark.isStart then " at " ++ p.mark.text
    else if p.byteOffset ≠ 0 then " at position " ++ toString p.byteOffset
    else ""
  let context := match p.context with
    | none => ""
    | some (activity, mark) =>
      ", " ++ activity.text ++
        (if !mark.isStart && (mark.line ≠ p.mark.line || mark.column ≠ p.mark.column) then
          " at " ++ mark.text else "")
  p.flaw.text ++ place ++ context

end TemplateEngines.Yaml
