/-
A template as a list of pieces: texts and tags. A backslash before double braces makes them text;
of several backslashes before a tag one is dropped. A tag carries what the layout rules need to
know about its place in the source.
-/
import TemplateEngines.Engine.Basic
import TemplateEngines.Handlebars.Expression.Reader

namespace TemplateEngines.Handlebars

open Json (skipBlanks)

/-- What a block that has an end of its own is for. -/
inductive BlockKind where
  | helper
  | decorator
  | inclusion
deriving DecidableEq, Inhabited, Repr

/-- The kinds of tags. -/
inductive Tag where
  /-- `\x7b\x7bx\x7d\x7d` and its variants without escaping. -/
  | value (e : Expression)
  | decorator (e : Expression)
  | inclusion (e : Expression)
  | comment
  | opening (kind : BlockKind) (e : Expression)
  /-- `else`, which divides a helper block. -/
  | alternative
  | closing (name : String)
  /-- The start of a block whose content is text up to its end. -/
  | rawOpening (e : Expression)
  | rawClosing (name : String)
deriving Inhabited, Repr

/-- A tag and its place in the source. -/
structure Token where
  tag : Tag
  /-- The tag drops all white space before it. -/
  trimBefore : Bool
  /-- The tag drops all white space after it. -/
  trimAfter : Bool
  position : Position
  /-- Only spaces and tabs stand before it on its line. -/
  opensLine : Bool
  /-- Only spaces and tabs stand after it on its line, and the line has an end. -/
  closesLine : Bool
  /-- The spaces and tabs right before it. -/
  indent : List Char
deriving Inhabited, Repr

/-- A piece of a template. A text is blank if it holds only the white space that may also stand
between tags. -/
inductive Piece where
  | text (content : List Char) (blank : Bool)
  | tag (token : Token)
deriving Inhabited, Repr

/-! ## Text -/

/-- The text up to an unescaped `stop`, as it is meant, and the rest. -/
def takeText (stop : List Char) (cs : List Char) : List Char × List Char :=
  match cs with
  | [] => ([], [])
  | '\\' :: '{' :: '{' :: '{' :: '{' :: rest =>
    let (text, rest) := takeText stop rest
    ('{' :: '{' :: '{' :: '{' :: text, rest)
  | '\\' :: '{' :: '{' :: rest =>
    let (text, rest) := takeText stop rest
    ('{' :: '{' :: text, rest)
  | c :: rest =>
    if (skipText stop cs).isSome then ([], cs)
    else
      let after := rest.dropWhile (· == '\\')
      if c == '\\' && rest.head? == some '\\' && (skipText ['{', '{'] after).isSome then
        have : (rest.dropWhile (· == '\\')).length ≤ rest.length :=
          (List.dropWhile_sublist _).length_le
        let (text, rest') := takeText stop after
        (rest.takeWhile (· == '\\') ++ text, rest')
      else
        let (text, rest) := takeText stop rest
        (c :: text, rest)
termination_by cs.length

/-! ## Tags -/

/-- The end of a tag; the answer says whether it drops the white space after it. -/
def readEnd (close : List Char) : Reader Bool := fun cs =>
  match skipBlanks cs with
  | '~' :: rest => (skipText close (skipBlanks rest)).map fun rest => (true, rest)
  | cs => (skipText close cs).map fun rest => (false, rest)

/-- The rest after the next place where a text stands. -/
def skipPast (text : List Char) : List Char → Option (List Char)
  | [] => skipText text []
  | c :: rest => (skipText text (c :: rest)).or (skipPast text rest)

/-- The rest after a comment whose exclamation mark has been read. A comment that starts with two
hyphens goes on to the next `--\x7d\x7d`, if there is one; any other ends with the next braces. -/
def skipComment (cs : List Char) : Option (List Char) :=
  ((skipText ['-', '-'] (skipBlanks cs)).bind (skipPast ['-', '-', '}', '}'])).or
    (skipPast ['}', '}'] cs)

/-- A kind of tag with the content that a reader finds after blanks, and its end. -/
def readContent {α : Type} (content : Reader α) (toTag : α → Tag) : Reader (Tag × Bool) :=
  fun cs => do
    let (a, rest) ← content (skipBlanks cs)
    let (trimAfter, rest) ← readEnd ['}', '}'] rest
    some ((toTag a, trimAfter), rest)

/-- The tag that divides a helper block. -/
def readAlternative : Reader (Tag × Bool) := fun cs => do
  let rest ← (skipText ['e', 'l', 's', 'e'] cs).or (skipChar '^' cs)
  let (trimAfter, rest) ← readEnd ['}', '}'] rest
  some ((.alternative, trimAfter), rest)

/-- A tag with a third pair of braces inside. -/
def readTriple : Reader (Tag × Bool) := fun cs => do
  let (e, rest) ← readValue (skipBlanks cs)
  let rest ← skipChar '}' (skipBlanks rest)
  let (trimAfter, rest) ← readEnd ['}', '}'] rest
  some ((.value e, trimAfter), rest)

/-- What stands between the opening braces, with the tilde, and the end of a tag. -/
def readInner : Reader (Tag × Bool) := fun cs =>
  match cs with
  | '&' :: rest => readContent readName (fun p => .value (Part.toExpression p [] [])) rest
  | '{' :: rest => readTriple rest
  | '#' :: rest =>
    match skipBlanks rest with
    | '*' :: rest => readContent readOpening (.opening .decorator) rest
    | '>' :: rest => readContent readInclusion (.opening .inclusion) rest
    | rest => readContent readOpening (.opening .helper) rest
  | '*' :: rest => readContent readOpening .decorator rest
  | '>' :: rest => readContent readInclusion .inclusion rest
  | '/' :: rest => readContent readClosingName .closing rest
  | _ => (readAlternative cs).or (readContent readValue .value cs)

/-- The start of a tag; the answer says whether it drops the white space before it. -/
def readStart (opening : List Char) : Reader Bool := fun cs => do
  let rest ← skipText opening cs
  match skipBlanks rest with
  | '~' :: rest => some (true, skipBlanks rest)
  | rest => some (false, rest)

/-- A tag that starts with double braces: what it is, and whether it drops the white space before
and after it. The mark of a comment follows the braces at once. -/
def readTag : Reader (Tag × Bool × Bool) := fun cs => do
  let legacy : Option ((Tag × Bool × Bool) × List Char) := do
    let (trimBefore, rest) ← readStart ['{', '{', '{'] cs
    let (e, rest) ← readValue rest
    let (trimAfter, rest) ← readEnd ['}', '}', '}'] rest
    some ((.value e, trimBefore, trimAfter), rest)
  let comment : Option ((Tag × Bool × Bool) × List Char) := do
    let rest ← skipText ['{', '{', '!'] cs
    let rest ← skipComment rest
    some ((.comment, false, false), rest)
  let plain : Option ((Tag × Bool × Bool) × List Char) := do
    let (trimBefore, rest) ← readStart ['{', '{'] cs
    let ((tag, trimAfter), rest) ← readInner rest
    some ((tag, trimBefore, trimAfter), rest)
  let raw : Option ((Tag × Bool × Bool) × List Char) := do
    let (trimBefore, rest) ← readStart ['{', '{', '{', '{'] cs
    let (e, rest) ← readOpening rest
    let (trimAfter, rest) ← readEnd ['}', '}', '}', '}'] rest
    some ((.rawOpening e, trimBefore, trimAfter), rest)
  legacy.or (comment.or (plain.or raw))

/-- The end of a raw block. -/
def readRawClosing : Reader (Tag × Bool × Bool) := fun cs => do
  let (trimBefore, rest) ← readStart ['{', '{', '{', '{'] cs
  let rest ← skipChar '/' rest
  let (name, rest) ← readIdentifier (skipBlanks rest)
  let (trimAfter, rest) ← readEnd ['}', '}', '}', '}'] rest
  some ((.rawClosing name, trimBefore, trimAfter), rest)

/-! ## Places -/

/-- Spaces and tabs, which may stand beside a tag that has its line for itself. -/
def isLineBlank (c : Char) : Bool := c == ' ' || c == '\t'

def isLineEnd (c : Char) : Bool := c == '\n' || c == '\r'

/-- The place after a source, whose characters are given in reverse order. -/
def positionAfter (before : List Char) : Position :=
  ⟨before.count '\n' + 1, (before.takeWhile (· != '\n')).length + 1⟩

/-- A tag between what stands before it, in reverse order, and what stands after it. -/
def tokenAt (before after : List Char) (tag : Tag) (trimBefore trimAfter : Bool) : Token where
  tag := tag
  trimBefore := trimBefore
  trimAfter := trimAfter
  position := positionAfter before
  opensLine := ((before.dropWhile isLineBlank).head?.map isLineEnd).getD true
  closesLine := ((after.dropWhile isLineBlank).head?.map isLineEnd).getD false
  indent := (before.takeWhile isLineBlank).reverse

/-! ## Pieces -/

/-- The text of a piece, if there is any. -/
def textPiece (source content : List Char) : List Piece :=
  if source.isEmpty then [] else [.text content (source.all Json.isBlank)]

/-- The pieces of the rest of a source, of which at most `fuel` tags are read. What stands before is
given in reverse order. None if a tag is not well formed. -/
def piecesFrom : Nat → List Char → List Char → Option (List Piece)
  | 0, _, _ => none
  | fuel + 1, before, cs =>
    let (content, rest) := takeText ['{', '{'] cs
    let source := consumed cs rest
    let before := source.reverse ++ before
    if rest.isEmpty then some (textPiece source content)
    else do
      let ((tag, trimBefore, trimAfter), after) ← readTag rest
      let token := tokenAt before after tag trimBefore trimAfter
      let before := (consumed rest after).reverse ++ before
      match tag with
      | .rawOpening _ =>
        let start := skipBlanks after
        let (inner, rest) := takeText ['{', '{', '{', '{'] start
        let before := (consumed after rest).reverse ++ before
        let ((closing, trimBefore, trimAfter), after) ← readRawClosing rest
        let last := tokenAt before after closing trimBefore trimAfter
        let more ← piecesFrom fuel ((consumed rest after).reverse ++ before) after
        some (textPiece source content ++ .tag token :: .text inner false :: .tag last :: more)
      | _ =>
        let more ← piecesFrom fuel before after
        some (textPiece source content ++ .tag token :: more)

/-- The pieces of a template, none if a tag is not well formed. -/
def pieces (source : List Char) : Option (List Piece) := piecesFrom (source.length + 1) [] source

/-! ## Nesting -/

/-- A block that is open while the pieces are read. -/
structure Open where
  kind : BlockKind
  /-- The block has been divided. -/
  divided : Bool

/-- Whether a name may close a block of a kind. -/
def isClosingName (kind : BlockKind) (name : String) : Bool :=
  match kind with
  | .inclusion => name.startsWith "'" || name.all isPartialChar
  | .helper | .decorator => name.all isSymbolChar

/-- Whether blocks are closed in the order in which they are opened, and only helper blocks are
divided, once at most. The names are not compared. -/
def isNested : List Open → List Piece → Bool
  | stack, [] => stack.isEmpty
  | stack, .text .. :: rest => isNested stack rest
  | stack, .tag token :: rest =>
    match token.tag, stack with
    | .opening kind _, _ => isNested (⟨kind, false⟩ :: stack) rest
    | .alternative, ⟨.helper, false⟩ :: outer => isNested (⟨.helper, true⟩ :: outer) rest
    | .alternative, _ => false
    | .closing name, top :: outer => isClosingName top.kind name && isNested outer rest
    | .closing _, [] => false
    | _, _ => isNested stack rest

end TemplateEngines.Handlebars
