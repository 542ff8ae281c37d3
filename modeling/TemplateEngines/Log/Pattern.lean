/-
Patterns for the values of fields. They are regular expressions, and all that matters about one here
is whether it is well formed: values belong to spans, of which this program opens none.

A pattern is read from left to right, in modes that its groups may change. The tables that classes
such as `\d` and the comparison of letters without their case need are left out, so these are
refused unless the pattern is about bytes. A pattern has no closing brace, hence no repetition with
bounds.
-/
import TemplateEngines.Json.Parser
import TemplateEngines.Text.Blank
import TemplateEngines.Text.Letter

namespace TemplateEngines.Log

/-- Why a text is no pattern. -/
inductive PatternFault where
  | malformed
  /-- The pattern is right but asks for the boundaries of words of all scripts. -/
  | wordBoundary
deriving DecidableEq, Inhabited, Repr

def PatternFault.message : PatternFault → String
  | malformed => "error building NFA"
  | wordBoundary =>
    "unsupported regex feature for DFAs: cannot build DFAs for regexes with Unicode word " ++
      "boundaries; switch to ASCII word boundaries, or heuristically enable Unicode word " ++
      "boundaries or use a different regex engine"

namespace Pattern

/-! ## Modes -/

/-- The modes in which a part of a pattern is read. -/
structure Modes where
  /-- `x`: white space and comments are passed over. -/
  spaced : Bool := false
  /-- `i`: a letter stands for both cases. -/
  caseless : Bool := false
  /-- `u`: the pattern is about characters, otherwise about bytes. -/
  unicode : Bool := true
deriving DecidableEq, Inhabited, Repr

namespace Modes

/-- The modes after a flag has been switched on or off. -/
def switch (modes : Modes) (flag : Char × Bool) : Modes :=
  match flag with
  | ('x', on) => { modes with spaced := on }
  | ('i', on) => { modes with caseless := on }
  | ('u', on) => { modes with unicode := on }
  | _ => modes

end Modes

/-- The flags. -/
def flags : List Char := ['i', 'm', 's', 'U', 'u', 'R', 'x']

/-- The rest after white space and comments; the first argument says whether a comment goes on. -/
def dropSpace : Bool → List Char → List Char
  | _, [] => []
  | true, c :: rest => dropSpace (c != '\n') rest
  | false, c :: rest =>
    if Text.isBlank c then dropSpace false rest
    else if c == '#' then dropSpace true rest
    else c :: rest

/-- The rest after what the modes pass over. -/
def skipSpace (modes : Modes) (cs : List Char) : List Char :=
  if modes.spaced then dropSpace false cs else cs

/-! ## Escapes -/

/-- What a backslash and the characters after it mean. -/
inductive Escape where
  | char (c : Char)
  /-- A number with two hexadecimal digits, which is a byte if the pattern is about bytes. -/
  | byte (c : Char)
  /-- A class such as `\d`, or its complement. -/
  | letters (complement : Bool)
  /-- A class of characters with a property. -/
  | property
  /-- The start or the end of the text. -/
  | edge
  | boundary
deriving Inhabited

/-- The number that `count` hexadecimal digits make up. -/
def readHex (modes : Modes) : Nat → Nat → List Char → Option (Nat × List Char)
  | 0, n, cs => some (n, cs)
  | _ + 1, _, [] => none
  | count + 1, n, c :: rest =>
    (Json.hexValue? c).bind fun d => readHex modes count (n * 16 + d) (skipSpace modes rest)

/-- The characters that some letters stand for. -/
def control? (c : Char) : Option Char :=
  [('a', '\x07'), ('f', '\x0c'), ('t', '\t'), ('n', '\n'), ('r', '\r'), ('v', '\x0b')].lookup c

/-- An escape whose backslash has been read. -/
def readEscape (modes : Modes) (cs : List Char) : Option (Escape × List Char) :=
  match cs with
  | [] => none
  | c :: rest =>
    match [('x', 2), ('u', 4), ('U', 8)].lookup c with
    | some count => do
      let (n, rest) ← readHex modes count 0 (skipSpace modes rest)
      guard (n < 0x110000 && !(0xD800 ≤ n && n < 0xE000))
      some (if c == 'x' then .byte (Char.ofNat n) else .char (Char.ofNat n), rest)
    | none =>
      if c == 'p' || c == 'P' then
        match skipSpace modes rest with
        | p :: rest => if p == '{' || p == '\\' then none else some (.property, rest)
        | [] => none
      else if ['d', 's', 'w'].contains c then some (.letters false, rest)
      else if ['D', 'S', 'W'].contains c then some (.letters true, rest)
      else if ['b', 'B', '<', '>'].contains c then some (.boundary, rest)
      else if c == 'A' || c == 'z' then some (.edge, rest)
      else if c.toNat < 0x80 && !c.isAlphanum then some (.char c, rest)
      else (control? c).map fun c => (.char c, rest)

namespace Escape

/-- Whether the modes admit an escape or a character outside of brackets. -/
def isAdmitted (modes : Modes) : Escape → Bool
  | char _ => !(modes.unicode && modes.caseless)
  | byte c => if modes.unicode then !modes.caseless else c.toNat < 0x80
  | letters complement => !modes.unicode && !complement
  | property => false
  | edge | boundary => true

/-- The character that an escape stands for as an end of a range in brackets. -/
def bound? (modes : Modes) : Escape → Option Char
  | char c | byte c => if modes.unicode || c.toNat < 0x80 then some c else none
  | _ => none

/-- What an escape adds to the contents of brackets: whether it contains bytes that are not
ASCII. -/
def inBrackets? (modes : Modes) (e : Escape) : Option Bool :=
  match e with
  | letters complement => if modes.unicode then none else some complement
  | e => (e.bound? modes).map fun _ => false

end Escape

/-! ## Brackets -/

/-- The operators between sets in brackets. -/
inductive SetOperator where
  | intersection
  | difference
  | symmetricDifference

/-- An open bracket. Of the sets in it all that is known is whether they contain bytes that are not
ASCII; they contain all of these or none. -/
structure Brackets where
  complement : Bool
  /-- What stands before the last operator, and the operator. -/
  left : Option (Bool × SetOperator) := none
  /-- What has been read since. -/
  union : Bool := false

namespace Brackets

/-- What has been read. -/
def content (b : Brackets) : Bool :=
  match b.left with
  | none => b.union
  | some (l, .intersection) => l && b.union
  | some (l, .difference) => l && !b.union
  | some (l, .symmetricDifference) => l != b.union

def add (b : Brackets) (bytes : Bool) : Brackets := { b with union := b.union || bytes }

def operate (b : Brackets) (operator : SetOperator) : Brackets :=
  { b with left := some (b.content, operator), union := false }

/-- What the closed bracket contains. -/
def close (b : Brackets) : Bool := b.content != b.complement

end Brackets

/-- The names of classes in brackets. -/
def classNames : List String :=
  ["alnum", "alpha", "ascii", "blank", "cntrl", "digit", "graph", "lower", "print", "punct",
    "space", "upper", "word", "xdigit"]

/-- The rest of a class such as `[:alpha:]` whose opening bracket has been read, and whether it is
a complement. -/
def readNamedClass (cs : List Char) : Option (Bool × List Char) :=
  match cs with
  | ':' :: rest =>
    let (complement, rest) := match rest with
      | '^' :: rest => (true, rest)
      | rest => (false, rest)
    match rest.span (· != ':') with
    | (name, ':' :: ']' :: rest) =>
      if classNames.contains (String.ofList name) then some (complement, rest) else none
    | _ => none
  | _ => none

/-- Hyphens at the start of brackets stand for themselves. -/
def skipHyphens (modes : Modes) : Nat → List Char → List Char
  | 0, cs => cs
  | fuel + 1, cs =>
    match cs with
    | '-' :: rest => skipHyphens modes fuel (skipSpace modes rest)
    | cs => cs

/-- The start of brackets whose opening bracket has been read. A closing bracket at once stands for
itself. -/
def openBrackets (modes : Modes) (cs : List Char) : Brackets × List Char :=
  let (complement, cs) := match skipSpace modes cs with
    | '^' :: rest => (true, skipSpace modes rest)
    | cs => (false, cs)
  match skipHyphens modes cs.length cs with
  | ']' :: rest => (⟨complement, none, false⟩, if cs.head? == some '-' then ']' :: rest else rest)
  | rest => (⟨complement, none, false⟩, rest)

/-- A character or an escape in brackets. -/
def readItem (modes : Modes) : List Char → Option (Escape × List Char)
  | '\\' :: rest => readEscape modes rest
  | c :: rest => some (.char c, rest)
  | [] => none

/-- An item in brackets or a range of characters; the answer says whether it contains bytes that are
not ASCII. -/
def readRange (modes : Modes) (cs : List Char) : Option (Bool × List Char) := do
  let (first, rest) ← readItem modes cs
  let rest := skipSpace modes rest
  match rest with
  | '-' :: after =>
    let after := skipSpace modes after
    if after.head? == some ']' || after.head? == some '-' then
      (first.inBrackets? modes).map fun bytes => (bytes, rest)
    else do
      let (last, rest) ← readItem modes after
      let a ← first.bound? modes
      let b ← last.bound? modes
      guard (a ≤ b)
      some (false, rest)
  | _ => (first.inBrackets? modes).map fun bytes => (bytes, rest)

/-- The rest of brackets, the innermost open ones first, and what they contain. -/
def readBrackets (modes : Modes) : Nat → List Brackets → List Char → Option (Bool × List Char)
  | 0, _, _ => none
  | _ + 1, [], _ => none
  | fuel + 1, b :: outer, cs =>
    match skipSpace modes cs with
    | '[' :: rest =>
      match readNamedClass rest with
      | some (complement, rest) => readBrackets modes fuel (b.add complement :: outer) rest
      | none =>
        let (inner, rest) := openBrackets modes rest
        readBrackets modes fuel (inner :: b :: outer) rest
    | ']' :: rest =>
      match outer with
      | [] => some (b.close, rest)
      | parent :: outer => readBrackets modes fuel (parent.add b.close :: outer) rest
    | '&' :: '&' :: rest => readBrackets modes fuel (b.operate .intersection :: outer) rest
    | '-' :: '-' :: rest => readBrackets modes fuel (b.operate .difference :: outer) rest
    | '~' :: '~' :: rest => readBrackets modes fuel (b.operate .symmetricDifference :: outer) rest
    | cs => do
      let (bytes, rest) ← readRange modes cs
      readBrackets modes fuel (b.add bytes :: outer) rest

/-- The rest after a set whose opening bracket has been read. A set of bytes holds ASCII only. -/
def skipSet (modes : Modes) (cs : List Char) : Option (List Char) := do
  let (b, rest) := openBrackets modes cs
  let (bytes, rest) ← readBrackets modes (cs.length + 1) [b] rest
  guard (if modes.unicode then !modes.caseless else !bytes)
  some rest

/-! ## Groups -/

/-- The flags after a question mark, with whether they are switched on, and the character that ends
them. The arguments are whether a hyphen has been met, whether it was the last character, and the
flags so far. -/
def readFlags (off dangling : Bool) (seen : List (Char × Bool)) :
    List Char → Option (List (Char × Bool) × Char × List Char)
  | [] => none
  | c :: rest =>
    if c == ':' || c == ')' then if dangling then none else some (seen.reverse, c, rest)
    else if c == '-' then if off then none else readFlags true true seen rest
    else if flags.contains c && (seen.lookup c).isNone then
      readFlags off false ((c, !off) :: seen) rest
    else none

/-- The name of a group, up to the angle bracket. -/
def readName (cs : List Char) : Option (String × List Char) :=
  match cs.span (· != '>') with
  | (c :: name, _ :: rest) =>
    if (c == '_' || (Text.isLetterOrDigit c && !c.isDigit)) &&
        name.all fun d => ['_', '.', '[', ']'].contains d || Text.isLetterOrDigit d then
      some (String.ofList (c :: name), rest)
    else none
  | _ => none

/-! ## Reading a pattern -/

/-- How far a pattern has been read. -/
structure Progress where
  modes : Modes := {}
  /-- The modes around the open groups, the innermost group first. -/
  outer : List Modes := []
  /-- Something that can be repeated stands right before. -/
  repeatable : Bool := false
  /-- The names of groups. -/
  names : List String := []
  /-- The boundaries of words of all scripts are asked for. -/
  boundary : Bool := false
deriving Inhabited

namespace Progress

/-- A group has been opened, in which other modes may hold. -/
def enter (p : Progress) (modes : Modes) : Progress :=
  { p with modes := modes, outer := p.modes :: p.outer, repeatable := false }

/-- The start of a group whose parenthesis has been read, or flags for the rest of the group around
it. -/
def openGroup (p : Progress) (cs : List Char) : Option (Progress × List Char) :=
  let named (rest : List Char) : Option (Progress × List Char) := do
    let (name, rest) ← readName rest
    guard !(p.names.contains name)
    some ({ p.enter p.modes with names := name :: p.names }, rest)
  match skipSpace p.modes cs with
  | '?' :: '=' :: _ | '?' :: '!' :: _ | '?' :: '<' :: '=' :: _ | '?' :: '<' :: '!' :: _ => none
  | '?' :: 'P' :: '<' :: rest | '?' :: '<' :: rest => named rest
  | '?' :: rest => do
    let (changes, last, rest) ← readFlags false false [] rest
    let modes := changes.foldl Modes.switch p.modes
    if last == ':' then some (p.enter modes, rest)
    else
      guard !changes.isEmpty
      some ({ p with modes := modes, repeatable := false }, rest)
  | rest => some (p.enter p.modes, rest)

/-- A character or an escape has been read. -/
def item (p : Progress) (e : Escape) : Option Progress := do
  guard (e.isAdmitted p.modes)
  let boundary := match e with
    | .boundary => p.modes.unicode
    | _ => false
  some { p with repeatable := true, boundary := p.boundary || boundary }

/-- Reads what starts with a character. -/
def step (p : Progress) (c : Char) (rest : List Char) : Option (Progress × List Char) :=
  match c with
  | '(' => p.openGroup rest
  | ')' =>
    match p.outer with
    | modes :: outer => some ({ p with modes, outer, repeatable := true }, rest)
    | [] => none
  | '|' => some ({ p with repeatable := false }, rest)
  | '[' => (skipSet p.modes rest).map fun rest => ({ p with repeatable := true }, rest)
  | '?' | '*' | '+' =>
    if p.repeatable then
      some (p, match rest with
        | '?' :: rest => rest
        | rest => rest)
    else none
  | '{' => none
  | '\\' => do
    let (e, rest) ← readEscape p.modes rest
    let p ← p.item e
    some (p, rest)
  | '.' => if p.modes.unicode then some ({ p with repeatable := true }, rest) else none
  | '^' | '$' => some ({ p with repeatable := true }, rest)
  | c => (p.item (.char c)).map fun p => (p, rest)

end Progress

/-- Reads the rest of a pattern in at most `fuel` steps. -/
def read : Nat → Progress → List Char → Option Progress
  | 0, _, _ => none
  | fuel + 1, p, cs =>
    match skipSpace p.modes cs with
    | [] => if p.outer.isEmpty then some p else none
    | c :: rest => (p.step c rest).bind fun (p, rest) => read fuel p rest

/-- Why a text is no pattern, if it is none. -/
def fault? (cs : List Char) : Option PatternFault :=
  match read (cs.length + 1) {} cs with
  | none => some .malformed
  | some p => if p.boundary then some .wordBoundary else none

end Pattern

end TemplateEngines.Log
