/-
White space around tags. A tilde drops all white space on its side. A tag other than a value that
has its line for itself takes the blanks before it and the line end after it away; the line end
goes from the next text, also where another tag stands between. An inclusion keeps the blanks
before it, for they indent what it includes.
-/
import TemplateEngines.Handlebars.Piece
import TemplateEngines.Text.Blank

namespace TemplateEngines.Handlebars

namespace Tag

def isValue : Tag → Bool
  | .value _ => true
  | _ => false

def isComment : Tag → Bool
  | .comment => true
  | _ => false

def isInclusion : Tag → Bool
  | .inclusion _ => true
  | _ => false

end Tag

/-- What a text has to lose at its start. -/
structure Trim where
  /-- All white space. -/
  all : Bool := false
  /-- Blanks and one line end. -/
  line : Bool := false
deriving DecidableEq, Repr

/-- A text without one line end at its start. -/
def dropLineEnd : List Char → List Char
  | '\r' :: '\n' :: rest => rest
  | '\n' :: rest => rest
  | cs => cs

/-- What the text after a tag has to lose. A comment leaves the order of an earlier tilde in
force, a value that of an earlier line. -/
def Token.trimAfterwards (token : Token) (before : Trim) : Trim where
  all := if token.tag.isComment then before.all else token.trimAfter
  line := if token.tag.isValue then before.line else token.opensLine && token.closesLine

/-- The text before a tag without what the tag drops. -/
def Token.trimText (token : Token) (text : List Char) : List Char :=
  let text := if token.trimBefore then Text.trimEnd text else text
  if !token.tag.isValue && !token.tag.isInclusion && token.opensLine && token.closesLine then
    (text.reverse.dropWhile isLineBlank).reverse
  else text

/-- A text without what stands at its start and is to be dropped. -/
def Trim.apply (trim : Trim) (text : List Char) (blank : Bool) : List Char :=
  if trim.all && !blank then Text.trimStart text
  else if trim.line then dropLineEnd (text.dropWhile isLineBlank)
  else text

/-- The pieces with the white space that is meant. A blank text after a tilde is dropped, and what
else was ordered then holds for the next text. -/
def layout : Trim → List Piece → List Piece
  | _, [] => []
  | trim, .text content blank :: rest =>
    if trim.all && blank then layout trim rest
    else
      let content := trim.apply content blank
      let content := match rest with
        | .tag token :: _ => token.trimText content
        | _ => content
      .text content blank :: layout { trim with line := false } rest
  | trim, .tag token :: rest => .tag token :: layout (token.trimAfterwards trim) rest

end TemplateEngines.Handlebars
