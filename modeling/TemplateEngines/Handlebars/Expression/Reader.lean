/-
Reading what stands inside a tag. Every reader takes the characters that it recognises off the
front and answers what they mean together with the rest; none means that they are not there. Of
several alternatives the first that fits is taken for good. Blanks may stand between any two
words, except inside paths and literals.
-/
import TemplateEngines.Handlebars.Expression
import TemplateEngines.Json.Parser

namespace TemplateEngines.Handlebars

/-- A reader of one thing: what it means, and the rest of the text. -/
abbrev Reader (α : Type) := List Char → Option (α × List Char)

open Json (skipBlanks)

/-- The rest after a fixed text. -/
def skipText : List Char → List Char → Option (List Char)
  | [], cs => some cs
  | _ :: _, [] => none
  | t :: ts, c :: cs => if t = c then skipText ts cs else none

/-- The rest after one character. -/
def skipChar (t : Char) : List Char → Option (List Char)
  | c :: cs => if c = t then some cs else none
  | [] => none

/-- The characters in front of a rest that a reader has left. -/
def consumed (cs rest : List Char) : List Char := cs.take (cs.length - rest.length)

/-! ## Names -/

/-- The characters of words: ASCII letters and digits, `-`, `_`, and everything beyond ASCII. -/
def isWordChar (c : Char) : Bool := c.isAlphanum || c == '-' || c == '_' || c.toNat ≥ 0x80

/-- The characters of names. -/
def isSymbolChar (c : Char) : Bool := isWordChar c || c == '$'

/-- The characters of the names of partials. -/
def isPartialChar (c : Char) : Bool := isWordChar c || c == '/' || c == '.'

/-- At least one character of a class. -/
def readWord (p : Char → Bool) : Reader String := fun cs =>
  match cs.takeWhile p with
  | [] => none
  | word => some (String.ofList word, cs.dropWhile p)

def readIdentifier : Reader String := readWord isSymbolChar

/-- The characters up to a closing single quote; a backslash before a quote hides it. -/
def takeSingleQuoted : List Char → List Char × List Char
  | '\\' :: '\'' :: rest =>
    let (text, rest) := takeSingleQuoted rest
    ('\\' :: '\'' :: text, rest)
  | '\'' :: rest => ([], '\'' :: rest)
  | c :: rest =>
    let (text, rest) := takeSingleQuoted rest
    (c :: text, rest)
  | [] => ([], [])

/-- A text in single quotes, which are kept. -/
def readSingleQuoted : Reader String := fun cs => do
  let inner ← skipChar '\'' cs
  let (text, rest) := takeSingleQuoted inner
  guard !text.isEmpty
  let rest ← skipChar '\'' rest
  some (String.ofList ('\'' :: (text ++ ['\''])), rest)

/-- The name of a partial: a word, or anything in single quotes. -/
def readPartialIdentifier : Reader String := fun cs =>
  (readWord isPartialChar cs).or (readSingleQuoted cs)

/-- The name in a tag that closes a block of any kind. -/
def readClosingName : Reader String := fun cs =>
  (readWord (fun c => isSymbolChar c || isPartialChar c) cs).or (readSingleQuoted cs)

/-! ## Literals -/

/-- The rest after a string literal whose opening quote has been read. -/
def skipQuoted (quote : Char) : List Char → Option (List Char)
  | [] => none
  | '\\' :: 'u' :: a :: b :: c :: d :: rest =>
    if [a, b, c, d].all fun x => (Json.hexValue? x).isSome then skipQuoted quote rest else none
  | '\\' :: c :: rest =>
    if c == quote || ['\\', '/', 'b', 'f', 'n', 'r', 't'].contains c then skipQuoted quote rest
    else none
  | c :: rest => if c == quote then some rest else if c == '\\' then none else skipQuoted quote rest

/-- The rest after a string literal. -/
def skipString : List Char → Option (List Char)
  | '"' :: rest => skipQuoted '"' rest
  | '\'' :: rest => skipQuoted '\'' rest
  | _ => none

/-- The rest after a number: digits, a point, more digits and an exponent with a capital E. What
goes on with a character of a name is no number. -/
def skipNumber (cs : List Char) : Option (List Char) := do
  let cs := (skipChar '-' cs).getD cs
  guard (cs.headD ' ').isDigit
  let cs := cs.dropWhile Char.isDigit
  let cs := (skipChar '.' cs).getD cs
  let cs := cs.dropWhile Char.isDigit
  let withExponent := do
    let r ← skipChar 'E' cs
    let r := (skipChar '-' r).getD r
    guard (r.headD ' ').isDigit
    some (r.dropWhile Char.isDigit)
  let rest := withExponent.getD cs
  guard !(rest.headD ' ' |> isSymbolChar)
  some rest

/-- The rest after a word that no character of a name follows. -/
def skipKeyword (word : String) (cs : List Char) : Option (List Char) := do
  let rest ← skipText word.toList cs
  guard !(rest.headD ' ' |> isSymbolChar)
  some rest

/-- Items each after a comma, of which at most `fuel` are skipped, and the closing bracket. -/
def skipItems (item : List Char → Option (List Char)) (close : Char) :
    Nat → List Char → Option (List Char)
  | 0, _ => none
  | fuel + 1, cs =>
    match (skipChar ',' (skipBlanks cs)).bind fun r => item (skipBlanks r) with
    | some rest => skipItems item close fuel rest
    | none => skipChar close (skipBlanks cs)

/-- The rest after a literal; arrays and objects are nested at most as deep as `fuel` says. -/
def skipLiteral : Nat → List Char → Option (List Char)
  | 0, _ => none
  | fuel + 1, cs =>
    match cs with
    | '[' :: rest =>
      let rest := ((skipLiteral fuel (skipBlanks rest))).getD rest
      skipItems (skipLiteral fuel) ']' (rest.length + 1) rest
    | '{' :: rest =>
      let member (cs : List Char) : Option (List Char) := do
        let r ← skipString cs
        let r ← skipChar ':' (skipBlanks r)
        skipLiteral fuel (skipBlanks r)
      let rest := ((member (skipBlanks rest))).getD rest
      skipItems member '}' (rest.length + 1) rest
    | _ =>
      (skipString cs).or ((skipNumber cs).or ((skipKeyword "null" cs).or
        ((skipKeyword "true" cs).or (skipKeyword "false" cs))))

/-- A string literal in single quotes as one in double quotes. -/
def doubleQuoted : List Char → List Char
  | '\\' :: '\'' :: rest => '\'' :: doubleQuoted rest
  | '"' :: rest => '\\' :: '"' :: doubleQuoted rest
  | c :: rest => c :: doubleQuoted rest
  | [] => []

/-- What a literal means. -/
def literalParam (source : List Char) : Param :=
  let text := match source with
    | '\'' :: inner => '"' :: (doubleQuoted inner.dropLast ++ ['"'])
    | _ => source
  match Json.parse (String.ofList text) with
  | some v => .literal v
  | none => .unreadable (String.ofList source)

def readLiteral : Reader Param := fun cs => do
  let rest ← skipLiteral (cs.length + 1) cs
  some (literalParam (consumed cs rest), rest)

/-! ## Paths -/

def isSeparator (c : Char) : Bool := c == '/' || c == '.'

/-- One item of a path: a name, or any text in brackets. The name `this` is no step. -/
def readItem : Reader (List Segment) := fun cs =>
  let segment (s : String) : List Segment := if s = "this" then [] else [.name s]
  match cs with
  | '[' :: rest =>
    match rest.dropWhile (· != ']') with
    | _ :: after => some (segment (String.ofList (rest.takeWhile (· != ']'))), after)
    | [] => none
  | _ => (readIdentifier cs).map fun (s, rest) => (segment s, rest)

/-- More items, each after a separator, of which at most `fuel` are read. -/
def readMoreItems : Nat → List Char → List Segment × List Char
  | 0, cs => ([], cs)
  | fuel + 1, cs =>
    match cs with
    | c :: rest =>
      match (if isSeparator c then readItem rest else none) with
      | some (s, rest) =>
        let (more, rest) := readMoreItems fuel rest
        (s ++ more, rest)
      | none => ([], cs)
    | [] => ([], cs)

/-- Steps `../`. -/
def readUps : List Char → List Segment × List Char
  | '.' :: '.' :: c :: rest =>
    if isSeparator c then
      let (more, rest) := readUps rest
      (.up :: more, rest)
    else ([], '.' :: '.' :: c :: rest)
  | cs => ([], cs)

/-- The start `this.` or `./`, which is no step. -/
def skipCurrent (cs : List Char) : List Char :=
  match cs with
  | 't' :: 'h' :: 'i' :: 's' :: c :: rest => if isSeparator c then rest else cs
  | '.' :: '/' :: rest => rest
  | _ => cs

/-- The start `@root.`. -/
def readRoot (cs : List Char) : List Segment × List Char :=
  match cs with
  | '@' :: 'r' :: 'o' :: 'o' :: 't' :: c :: rest =>
    if isSeparator c then ([.root], rest) else ([], cs)
  | _ => ([], cs)

def readVariableMark (cs : List Char) : List Segment × List Char :=
  match cs with
  | '@' :: rest => ([.variable], rest)
  | _ => ([], cs)

def readPath : Reader Path := fun cs => do
  let (root, rest) := readRoot (skipCurrent cs)
  let (mark, rest) := readVariableMark rest
  let (ups, rest) := readUps rest
  let (first, rest) ← readItem rest
  let (more, rest) := readMoreItems rest.length rest
  some (⟨String.ofList (consumed cs rest), root ++ mark ++ ups ++ first ++ more⟩, rest)

/-! ## Parameters -/

/-- Whether a word of the template language stands here that is no parameter. The words are `as`
and `else`; blanks after them are passed over before looking for another character of a name. -/
def isReserved (cs : List Char) : Bool :=
  match (skipText ['a', 's'] cs).or (skipText ['e', 'l', 's', 'e'] cs) with
  | some rest => !isSymbolChar ((skipBlanks rest).headD ' ')
  | none => false

/-- What stands after the head of an expression: a parameter, or one with a name in front. -/
inductive Part where
  | positional (p : Param)
  | named (key : String) (p : Param)

namespace Part

def params (parts : List Part) : List Param :=
  parts.filterMap fun a => match a with
    | .positional p => some p
    | .named .. => none

/-- The named parameters; the last one of a name counts. -/
def options (parts : List Part) : Dict Param :=
  Dict.ofList (parts.filterMap fun a => match a with
    | .named key p => some (key, p)
    | .positional _ => none)

/-- The first literal that is no JSON, in the order of the source. -/
def unreadable? (parts : List Part) : Option String :=
  parts.findSome? fun a => match a with
    | .positional p | .named _ p => p.unreadable?

/-- A call in parentheses with these parts. An unreadable literal among them makes the whole call
unreadable. -/
def toCall (head : Param) (parts : List Part) : Param :=
  match unreadable? parts with
  | some source => .unreadable source
  | none => .call head (params parts) (options parts)

/-- The content of a tag with these parts. -/
def toExpression (head : Param) (parts : List Part) (blockParams : List String) : Expression where
  head := head
  params := params parts
  options := options parts
  blockParams := blockParams
  unreadable := head.unreadable?.or (unreadable? parts)

end Part

/-- A part, its parameter read by `param`. -/
def readPart (param : Reader Param) : Reader Part := fun cs =>
  let named := do
    let (key, rest) ← readIdentifier cs
    let rest ← skipChar '=' (skipBlanks rest)
    let (p, rest) ← param (skipBlanks rest)
    some (Part.named key p, rest)
  named.or ((param cs).map fun (p, rest) => (.positional p, rest))

/-- As many parts as there are, but at most `fuel`. -/
def readPartsWith (param : Reader Param) : Nat → List Char → List Part × List Char
  | 0, cs => ([], cs)
  | fuel + 1, cs =>
    match readPart param (skipBlanks cs) with
    | some (a, rest) =>
      let (more, rest) := readPartsWith param fuel rest
      (a :: more, rest)
    | none => ([], cs)

/-- A name with at least one argument. -/
def readCall (param : Reader Param) : Reader (String × List Part) := fun cs => do
  let (name, rest) ← readIdentifier cs
  let (parts, rest) := readPartsWith param rest.length rest
  guard !parts.isEmpty
  some ((name, parts), rest)

/-- A parameter; calls are nested at most as deep as `fuel` says. -/
def readParamWithin : Nat → Reader Param
  | 0, _ => none
  | fuel + 1, cs =>
    if isReserved cs then none
    else
      (readLiteral cs).or <|
        ((readPath cs).map fun (p, rest) => (.path p, rest)).or do
          let inner ← skipChar '(' cs
          let inner := skipBlanks inner
          let (p, rest) ←
            match readCall (readParamWithin fuel) inner with
            | some ((name, parts), rest) => some (Part.toCall (.name name) parts, rest)
            | none => (readPath inner).map fun (p, rest) => (Part.toCall (.path p) [], rest)
          let rest ← skipChar ')' (skipBlanks rest)
          some (p, rest)

def readParam : Reader Param := fun cs => readParamWithin (cs.length + 1) cs

/-- A name of a value: a path, or a call in parentheses. -/
def readName : Reader Param := fun cs =>
  match cs with
  | '(' :: _ => readParam cs
  | _ => (readPath cs).map fun (p, rest) => (.path p, rest)

def readParts (cs : List Char) : List Part × List Char :=
  readPartsWith readParam cs.length cs

/-! ## Expressions -/

/-- The content of a tag that writes a value. -/
def readValue : Reader Expression := fun cs =>
  match readCall readParam cs with
  | some ((name, parts), rest) => some (Part.toExpression (.name name) parts [], rest)
  | none => (readName cs).map fun (p, rest) => (Part.toExpression p [] [], rest)

/-- One or two names between bars after `as`. -/
def readBlockParams : Reader (List String) := fun cs => do
  let rest ← skipText ['a', 's'] cs
  let rest ← skipChar '|' (skipBlanks rest)
  let (first, rest) ← readIdentifier (skipBlanks rest)
  let (names, rest) := match readIdentifier (skipBlanks rest) with
    | some (second, rest) => ([first, second], rest)
    | none => ([first], rest)
  let rest ← skipChar '|' (skipBlanks rest)
  some (names, rest)

/-- The content of a tag that opens a block. -/
def readOpening : Reader Expression := fun cs => do
  let (name, rest) ← readIdentifier cs
  let (parts, rest) := readParts rest
  let (names, rest) := (readBlockParams (skipBlanks rest)).getD ([], rest)
  some (Part.toExpression (.name name) parts names, rest)

/-- The content of a tag that includes a partial. -/
def readInclusion : Reader Expression := fun cs => do
  let (head, rest) ← ((readPartialIdentifier cs).map fun (s, rest) => (Param.name s, rest)).or
    (readName cs)
  let (parts, rest) := readParts rest
  some (Part.toExpression head parts [], rest)

end TemplateEngines.Handlebars
