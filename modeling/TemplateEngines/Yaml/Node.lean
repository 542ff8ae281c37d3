/-
YAML documents as trees. A document that breaks off keeps what stands before the flaw; the missing
rest is an `unread` node. Aliases refer to anchors by number, and a number belongs to the last node
that got it.
-/
import TemplateEngines.Yaml.Event

namespace TemplateEngines.Yaml

/-- Why a document cannot be used. -/
inductive LoadError where
  | problem (p : Problem)
  /-- An alias whose anchor has not been given before. -/
  | unknownAnchor (mark : Mark)
  /-- More than one document in a source. -/
  | severalDocuments
deriving DecidableEq, Repr

def LoadError.message : LoadError → String
  | .problem p => p.message
  | .unknownAnchor mark =>
    "unknown anchor" ++ (if mark.isStart then "" else " at " ++ mark.text)
  | .severalDocuments =>
    "deserializing from YAML containing more than one document is not supported"

/-- A node of a document, with its place and the number of its anchor. -/
inductive Node where
  | scalar (mark : Mark) (anchor : Option Nat) (s : Scalar)
  | sequence (mark : Mark) (anchor : Option Nat) (items : List Node)
  | mapping (mark : Mark) (anchor : Option Nat) (entries : List (Node × Node))
  | alias (mark : Mark) (anchor : Nat)
  /-- The document breaks off here. -/
  | unread
deriving Inhabited, Repr

namespace Node

/-! ## Anchors -/

mutual

/-- The nodes with an anchor, in the order in which they start. -/
def anchored (n : Nat) : Node → List Node
  | .scalar mark a s => if a = some n then [.scalar mark a s] else []
  | .sequence mark a items =>
    (if a = some n then [.sequence mark a items] else []) ++ anchoredItems n items
  | .mapping mark a entries =>
    (if a = some n then [.mapping mark a entries] else []) ++ anchoredEntries n entries
  | .alias .. | .unread => []

def anchoredItems (n : Nat) : List Node → List Node
  | [] => []
  | item :: rest => anchored n item ++ anchoredItems n rest

def anchoredEntries (n : Nat) : List (Node × Node) → List Node
  | [] => []
  | (key, value) :: rest => anchored n key ++ anchored n value ++ anchoredEntries n rest

end

mutual

/-- Nothing of the node is missing. -/
def isComplete : Node → Bool
  | .scalar .. | .alias .. => true
  | .sequence _ _ items => areComplete items
  | .mapping _ _ entries => haveComplete entries
  | .unread => false

def areComplete : List Node → Bool
  | [] => true
  | item :: rest => isComplete item && areComplete rest

def haveComplete : List (Node × Node) → Bool
  | [] => true
  | (key, value) :: rest => isComplete key && isComplete value && haveComplete rest

end

/-! ## Building trees -/

/-- The anchors seen so far, with their numbers. -/
abbrev Anchors := List (String × Nat)

/-- Gives an anchor the next number. -/
def Anchors.number (names : Anchors) : Option String → Option Nat × Anchors
  | none => (none, names)
  | some name =>
    let n := (names.map (·.1)).eraseDups.length
    (some n, (name, n) :: names)

/-- What is left while a tree is built: events, anchors, and the alias that broke it off. -/
structure Remainder where
  events : List Event
  names : Anchors := []
  unknown : Option Mark := none

/-- The remainder after an alias without an anchor: nothing more is read. -/
def Remainder.breakOff (r : Remainder) (mark : Mark) : Remainder :=
  { r with events := [], unknown := some mark }

mutual

/-- Builds the node that starts with the next event. -/
def ofEvents : Nat → Remainder → Node × Remainder
  | 0, r => (.unread, r)
  | fuel + 1, r =>
    match r.events with
    | [] => (.unread, r)
    | e :: events =>
      match e.kind with
      | .scalar anchor s =>
        let (n, names) := r.names.number anchor
        (.scalar e.mark n s, { r with events, names })
      | .alias name =>
        match r.names.lookup name with
        | some n => (.alias e.mark n, { r with events })
        | none => (.unread, r.breakOff e.mark)
      | .sequenceStart anchor =>
        let (n, names) := r.names.number anchor
        let (items, r) := itemsOfEvents fuel { r with events, names }
        (.sequence e.mark n items, r)
      | .mappingStart anchor =>
        let (n, names) := r.names.number anchor
        let (entries, r) := entriesOfEvents fuel { r with events, names }
        (.mapping e.mark n entries, r)
      | .sequenceEnd | .mappingEnd => (.unread, { r with events := [] })

/-- Builds the items up to the end of a sequence. -/
def itemsOfEvents : Nat → Remainder → List Node × Remainder
  | 0, r => ([.unread], r)
  | fuel + 1, r =>
    match r.events with
    | [] => ([.unread], r)
    | ⟨.sequenceEnd, _⟩ :: events => ([], { r with events })
    | _ =>
      let (item, r) := ofEvents fuel r
      let (rest, r) := itemsOfEvents fuel r
      (item :: rest, r)

/-- Builds the entries up to the end of a mapping. -/
def entriesOfEvents : Nat → Remainder → List (Node × Node) × Remainder
  | 0, r => ([(.unread, .unread)], r)
  | fuel + 1, r =>
    match r.events with
    | [] => ([(.unread, .unread)], r)
    | ⟨.mappingEnd, _⟩ :: events => ([], { r with events })
    | _ =>
      let (key, r) := ofEvents fuel r
      let (value, r) := ofEvents fuel r
      let (rest, r) := entriesOfEvents fuel r
      ((key, value) :: rest, r)

end

end Node

/-! ## Documents -/

/-- A document, as far as it can be read. -/
structure Document where
  /-- The node of the document, none if the source has no document. -/
  root : Option Node
  /-- Why the document breaks off, or why the source has to be refused after it. -/
  error : Option LoadError

/-- The document that a source holds. -/
def Document.ofSource (source : String) : Document :=
  let list := EventList.ofSource source
  if !list.present then ⟨none, none⟩
  else
    let (root, r) := Node.ofEvents (2 * list.events.length + 4) { events := list.events }
    let error := match r.unknown, list.problem with
      | some mark, _ => some (.unknownAnchor mark)
      | none, some p => some (.problem p)
      | none, none => if list.last then none else some .severalDocuments
    ⟨some root, error⟩

end TemplateEngines.Yaml
