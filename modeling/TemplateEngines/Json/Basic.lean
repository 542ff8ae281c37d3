/-
JSON values. An object keeps its members in increasing order of the names, each name once; a
number is an integer or a binary floating-point number, and the two kinds are never equal.
-/
import TemplateEngines.Decimal.Binary64
import TemplateEngines.Dict

namespace TemplateEngines

/-- A number: a whole number, or a floating-point number even where its value is whole. -/
inductive Number where
  | int (n : Int)
  | float (x : Binary64)
deriving DecidableEq, Inhabited, Repr

/-- A JSON value. The members of an object are in increasing order of their names. -/
inductive Json where
  | null
  | bool (b : Bool)
  | number (n : Number)
  | string (s : String)
  | array (items : List Json)
  | object (members : List (String × Json))
deriving Inhabited, Repr

namespace Number

/-- The number as a floating-point number. -/
def toBinary64 : Number → Binary64
  | .int n => let x := Binary64.ofNat n.natAbs; if n < 0 then x.neg else x
  | .float x => x

/-- Whole numbers compare by value, floating-point numbers numerically, and a number of one kind
never equals one of the other. -/
def same : Number → Number → Bool
  | .int a, .int b => a == b
  | .float a, .float b => a.same b
  | _, _ => false

/-- The number as a natural number of 64 bits. -/
def toWord? : Number → Option Nat
  | .int n => if 0 ≤ n then some n.toNat else none
  | .float _ => none

/-- The number as a signed integer of 64 bits. -/
def toInt64? : Number → Option Int
  | .int n => if n < Nat.pow 2 63 then some n else none
  | .float _ => none

end Number

namespace Json

/-! ## Equality -/

mutual

/-- Equality of values, numbers compared by `Number.same`. -/
def same : Json → Json → Bool
  | .null, .null => true
  | .bool a, .bool b => a == b
  | .number a, .number b => a.same b
  | .string a, .string b => a == b
  | .array a, .array b => sameItems a b
  | .object a, .object b => sameMembers a b
  | _, _ => false

def sameItems : List Json → List Json → Bool
  | [], [] => true
  | a :: as, b :: bs => a.same b && sameItems as bs
  | _, _ => false

def sameMembers : List (String × Json) → List (String × Json) → Bool
  | [], [] => true
  | (j, a) :: as, (k, b) :: bs => j == k && a.same b && sameMembers as bs
  | _, _ => false

end

/-! ## Views -/

def asString? : Json → Option String
  | .string s => some s
  | _ => none

def asArray? : Json → Option (List Json)
  | .array items => some items
  | _ => none

def asBool? : Json → Option Bool
  | .bool b => some b
  | _ => none

def isNull : Json → Bool
  | .null => true
  | _ => false

/-- The members of an object; any other value has none. -/
def members : Json → Dict Json
  | .object members => members
  | _ => []

end Json

/-- The parameters of an evaluation, by name. -/
abbrev Params := Dict Json

end TemplateEngines
