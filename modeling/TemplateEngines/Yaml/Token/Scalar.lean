/-
Reading YAML scalars: plain, quoted and block scalars. Line ends inside a scalar are folded, except
in literal blocks: a single one becomes a space, and of several the first is dropped.
-/
import TemplateEngines.Json.Parser
import TemplateEngines.Yaml.Token.Cursor

namespace TemplateEngines.Yaml

/-! ## Gaps -/

/-- White space inside a scalar. -/
structure Gap where
  /-- Blanks on the line, if there is no line end. -/
  blanks : List Char := []
  /-- A line end has been read. -/
  folded : Bool := false
  /-- The first line end. -/
  first : List Char := []
  /-- The line ends after it. -/
  more : List Char := []

/-- What a gap counts as in a text. -/
def Gap.text (g : Gap) : List Char :=
  if g.folded then
    if g.first.head? == some '\n' then (if g.more.isEmpty then [' '] else g.more)
    else g.first ++ g.more
  else g.blanks

/-- Passes over white space. Where `indent` is given, a tab at the start of a line before that
column is a flaw, and the second component says so. At most `fuel` characters are read. -/
def takeGap (indent : Option Int) : Nat → Cursor → Gap → Gap × Bool × Cursor
  | 0, c, g => (g, false, c)
  | fuel + 1, c, g =>
    match c.rest with
    | x :: _ =>
      if isBlank x then
        let misplaced := match indent with
          | some n => g.folded && decide ((c.mark.column : Int) < n) && x == '\t'
          | none => false
        if misplaced then (g, true, c)
        else
          takeGap indent fuel (c.skip 1)
            (if g.folded then g else { g with blanks := g.blanks ++ [x] })
      else if isBreak x then
        let (text, c) := c.takeBreak
        takeGap indent fuel c
          (if g.folded then { g with more := g.more ++ text }
           else { blanks := [], folded := true, first := text })
      else (g, false, c)
    | [] => (g, false, c)

/-! ## Plain scalars -/

def isFlowIndicator (c : Char) : Bool :=
  c == ',' || c == '[' || c == ']' || c == '{' || c == '}'

/-- The characters of a plain scalar up to white space or an indicator that ends it. The second
component says whether a colon ends them that is out of place. -/
def plainRun (flow : Bool) : List Char → List Char × Bool
  | [] => ([], false)
  | c :: rest =>
    if isBlank c || isBreak c then ([], false)
    else if flow && c == ':' &&
        (rest.head?.map fun d => isFlowIndicator d || d == '?').getD false then
      ([], true)
    else if (c == ':' && startsBlank rest) || (flow && isFlowIndicator c) then ([], false)
    else
      let (run, misplaced) := plainRun flow rest
      (c :: run, misplaced)

/-- What has been read of a plain scalar. -/
structure PlainScalar where
  text : List Char
  /-- The end of the text. -/
  stop : Mark
  /-- The white space after it. -/
  gap : Gap
  cursor : Cursor

/-- Reads on in a plain scalar that started at `start`, at most `fuel` runs of characters. -/
def readPlain (flow : Bool) (indent : Int) (start : Mark) :
    Nat → PlainScalar → Except Problem PlainScalar
  | 0, s => .ok s
  | fuel + 1, s =>
    if s.cursor.atDocumentMark || s.cursor.head? == some '#' then .ok s
    else
      let (run, misplaced) := plainRun flow s.cursor.rest
      let cursor := s.cursor.skip run.length
      if misplaced then .error (cursor.problem .unexpectedColon .plainScalar start)
      else
        let s := if run.isEmpty then s
          else { text := s.text ++ s.gap.text ++ run, stop := cursor.mark, gap := {}, cursor }
        if !(s.cursor.startsWith fun c => isBlank c || isBreak c) then .ok s
        else
          let (gap, misplaced, cursor) := takeGap (some indent) s.cursor.rest.length s.cursor {}
          if misplaced then .error (cursor.problem .tabInIndentation .plainScalar start)
          else
            let s := { s with gap, cursor }
            if !flow && (cursor.mark.column : Int) < indent then .ok s
            else readPlain flow indent start fuel s

/-! ## Quoted scalars -/

/-- What a character after a backslash stands for: a character, or a number of hexadecimal digits
that follow. -/
def escapeMeaning? : Char → Option (Char ⊕ Nat)
  | '0' => some (.inl '\x00')
  | 'a' => some (.inl '\x07')
  | 'b' => some (.inl '\x08')
  | 't' | '\t' => some (.inl '\t')
  | 'n' => some (.inl '\n')
  | 'v' => some (.inl '\x0b')
  | 'f' => some (.inl '\x0c')
  | 'r' => some (.inl '\r')
  | 'e' => some (.inl '\x1b')
  | ' ' => some (.inl ' ')
  | '"' => some (.inl '"')
  | '/' => some (.inl '/')
  | '\\' => some (.inl '\\')
  | 'N' => some (.inl '\x85')
  | '_' => some (.inl '\xa0')
  | 'L' => some (.inl '\u2028')
  | 'P' => some (.inl '\u2029')
  | 'x' => some (.inr 2)
  | 'u' => some (.inr 4)
  | 'U' => some (.inr 8)
  | _ => none

/-- The number that hexadecimal digits write. -/
def hexNumber (ds : List Char) : Option Nat :=
  ds.foldlM (fun n d => (Json.hexValue? d).map fun v => n * 16 + v) 0

/-- Reads the character that an escape stands for. -/
def readEscape (start : Mark) (c : Cursor) : Except Problem (Char × Cursor) :=
  match (c.rest[1]?).bind escapeMeaning? with
  | none => .error (c.problem .unknownEscape .escape start)
  | some (.inl x) => .ok (x, c.skip 2)
  | some (.inr width) =>
    let c := c.skip 2
    let ds := c.rest.take width
    match (if ds.length = width then hexNumber ds else none) with
    | none => .error (c.problem .noHexNumber .escape start)
    | some n =>
      if (0xD800 ≤ n ∧ n ≤ 0xDFFF) ∨ n > 0x10FFFF then
        .error (c.problem .escapedCharacter .escape start)
      else .ok (Char.ofNat n, c.skip width)

/-- Reads characters up to white space or the closing quote, at most `fuel`. The answer says whether
an escaped line end stopped it. -/
def readQuotedRun (single : Bool) (start : Mark) :
    Nat → Cursor → Except Problem (List Char × Bool × Cursor)
  | 0, c => .ok ([], false, c)
  | fuel + 1, c =>
    let go (x : Char) (c : Cursor) : Except Problem (List Char × Bool × Cursor) := do
      let (text, escaped, c) ← readQuotedRun single start fuel c
      return (x :: text, escaped, c)
    match c.rest with
    | [] => .ok ([], false, c)
    | x :: rest =>
      if isBlank x || isBreak x then .ok ([], false, c)
      else if single then
        if x == '\'' then
          if rest.head? == some '\'' then go '\'' (c.skip 2) else .ok ([], false, c)
        else go x (c.skip 1)
      else if x == '"' then .ok ([], false, c)
      else if x == '\\' then
        if (rest.head?.map isBreak).getD false then .ok ([], true, (c.skip 1).skipBreak)
        else do
          let (x, c) ← readEscape start c
          go x c
      else go x (c.skip 1)

/-- Reads on in a quoted scalar up to its closing quote, at most `fuel` runs of characters. -/
def readQuoted (single : Bool) (start : Mark) :
    Nat → Cursor → Except Problem (List Char × Cursor)
  | 0, c => .error (c.problem .endOfStream .quotedScalar start)
  | fuel + 1, c =>
    if c.atDocumentMark then .error (c.problem .documentIndicator .quotedScalar start)
    else if c.rest.isEmpty then .error (c.problem .endOfStream .quotedScalar start)
    else do
      let (text, escaped, c) ← readQuotedRun single start c.rest.length c
      if c.head? == some (if single then '\'' else '"') then return (text, c.skip 1)
      else
        let (gap, _, c) := takeGap none c.rest.length c { folded := escaped }
        let (more, c) ← readQuoted single start fuel c
        return (text ++ gap.text ++ more, c)

/-! ## Block scalars -/

/-- What becomes of the line ends at the end of a block. -/
inductive Chomping where
  | strip
  | clip
  | keep
deriving DecidableEq

/-- The indicators after the mark of a block scalar. -/
def readBlockHeader (start : Mark) (c : Cursor) :
    Except Problem (Chomping × Option Nat × Cursor) :=
  let chomping? (c : Cursor) : Chomping × Cursor :=
    match c.head? with
    | some '+' => (.keep, c.skip 1)
    | some '-' => (.strip, c.skip 1)
    | _ => (.clip, c)
  let digit? (c : Cursor) : Except Problem (Option Nat × Cursor) :=
    match c.head? with
    | some d =>
      if d == '0' then .error (c.problem .zeroIndentation .blockScalar start)
      else if d.isDigit then .ok (some (digitValue d), c.skip 1)
      else .ok (none, c)
    | none => .ok (none, c)
  match c.head? with
  | some '+' | some '-' => do
    let (chomping, c) := chomping? c
    let (increment, c) ← digit? c
    return (chomping, increment, c)
  | _ => do
    let (increment, c) ← digit? c
    match increment with
    | some _ =>
      let (chomping, c) := chomping? c
      return (chomping, increment, c)
    | none => return (.clip, none, c)

/-- The empty lines before a line of a block. -/
structure BlockBreaks where
  text : List Char := []
  /-- The largest column that an empty line reaches. -/
  width : Nat := 0
  /-- The end of the last empty line. -/
  stop : Mark
  cursor : Cursor

/-- Reads empty lines, at most `fuel`. The indentation, zero if it is not known yet, is passed
over on each. -/
def readBlockBreaks (start : Mark) (indent : Nat) :
    Nat → BlockBreaks → Except Problem BlockBreaks
  | 0, b => .ok b
  | fuel + 1, b =>
    let spaces := (b.cursor.rest.takeWhile (· == ' ')).length
    let count := if indent = 0 then spaces else min spaces (indent - b.cursor.mark.column)
    let c := b.cursor.skip count
    let width := max b.width c.mark.column
    if (indent = 0 || c.mark.column < indent) && c.head? == some '\t' then
      .error (c.problem .tabForSpace .blockScalar start)
    else if c.startsWith isBreak then
      let (text, c) := c.takeBreak
      readBlockBreaks start indent fuel ⟨b.text ++ text, width, c.mark, c⟩
    else .ok { b with width, cursor := c }

/-- What has been read of a block scalar. -/
structure BlockScalar where
  text : List Char := []
  /-- The end of the last line. -/
  leading : List Char := []
  /-- The empty lines after it. -/
  trailing : List Char
  /-- The last line started with a blank. -/
  afterBlank : Bool := false
  stop : Mark
  cursor : Cursor

/-- Reads the lines of a block, at most `fuel`. -/
def readBlockLines (literal : Bool) (start : Mark) (indent : Nat) :
    Nat → BlockScalar → Except Problem BlockScalar
  | 0, s => .ok s
  | fuel + 1, s =>
    if s.cursor.mark.column ≠ indent || s.cursor.rest.isEmpty then .ok s
    else do
      let blank := s.cursor.startsWith isBlank
      let joint :=
        if !literal && s.leading.head? == some '\n' && !s.afterBlank && !blank then
          if s.trailing.isEmpty then [' '] else []
        else s.leading
      let (line, c) := s.cursor.take (!isBreak ·)
      let (leading, c) := c.takeBreak
      let breaks ← readBlockBreaks start indent (c.rest.length + 1) { stop := c.mark, cursor := c }
      readBlockLines literal start indent fuel
        { text := s.text ++ joint ++ s.trailing ++ line, leading, trailing := breaks.text,
          afterBlank := blank, stop := breaks.stop, cursor := breaks.cursor }

/-- Reads a block scalar whose mark has been passed. `parent` is the indentation around it. -/
def readBlock (literal : Bool) (parent : Int) (start : Mark) (c : Cursor) :
    Except Problem (List Char × Mark × Cursor) := do
  let (chomping, increment, c) ← readBlockHeader start c
  let c := (c.skipWhile isBlank).skipComment
  if !startsBreak c.rest then throw (c.problem .commentOrLineBreak .blockScalar start)
  let c := c.skipBreak
  let given := match increment with
    | some n => if parent ≥ 0 then (parent + n).toNat else n
    | none => 0
  let breaks ← readBlockBreaks start given (c.rest.length + 1) { stop := c.mark, cursor := c }
  let indent := if given ≠ 0 then given else max (max breaks.width (parent + 1).toNat) 1
  let s ← readBlockLines literal start indent (c.rest.length + 1)
    { trailing := breaks.text, stop := breaks.stop, cursor := breaks.cursor }
  let ending := match chomping with
    | .strip => []
    | .clip => s.leading
    | .keep => s.leading ++ s.trailing
  return (s.text ++ ending, s.stop, s.cursor)

end TemplateEngines.Yaml
