/-
Upper and lower case of a text. A character can map to several, and a capital sigma at the end of
a word becomes a final sigma.
-/
import TemplateEngines.Text.CaseTable

namespace TemplateEngines.Text

/-- The image of a character under ranges and, where it has several characters, expansions. -/
def mapCase (ranges : List CaseRange) (expansions : List (Nat × List Nat)) (c : Char) : List Char :=
  match expansions.lookup c.toNat with
  | some cs => cs.map Char.ofNat
  | none =>
    match ranges.findSome? (·.image? c.toNat) with
    | some n => [Char.ofNat n]
    | none => [c]

def upperChar (c : Char) : List Char :=
  if c.toNat < 0x80 then [c.toUpper] else mapCase upperRanges upperExpansions c

def lowerChar (c : Char) : List Char :=
  if c.toNat < 0x80 then [c.toLower] else mapCase lowerRanges lowerExpansions c

/-- The text in upper case. -/
def toUpper (s : String) : String := String.ofList (s.toList.flatMap upperChar)

/-- Whether the next character that counts for case is one with case. -/
def meetsCased (cs : List Char) : Bool :=
  match cs.dropWhile fun c => inRanges c.toNat caseIgnorableRanges with
  | c :: _ => inRanges c.toNat casedRanges
  | [] => false

/-- The characters in lower case; those before them are given in reverse order. -/
def lowerFrom (before : List Char) : List Char → List Char
  | [] => []
  | c :: rest =>
    let form := if c == 'Σ' then [if meetsCased before && !meetsCased rest then 'ς' else 'σ']
      else lowerChar c
    form ++ lowerFrom (c :: before) rest

/-- The text in lower case. -/
def toLower (s : String) : String := String.ofList (lowerFrom [] s.toList)

end TemplateEngines.Text
