/-
The shortest decimal that reads back as a given binary floating-point number, and among those the
nearest. A decimal reads back when it lies in the number's rounding interval; the search goes
through grids of one to seventeen digits and tests the number's two neighbours on each grid in
exact arithmetic.
-/
import TemplateEngines.Decimal.Binary64

namespace TemplateEngines

/-- The decimal `coefficient · 10 ^ exponent`. -/
structure Decimal where
  coefficient : Nat
  exponent : Int
deriving DecidableEq, Inhabited, Repr

namespace Decimal

/-- The number of decimal digits of a natural number, one for zero. -/
def digitCount (n : Nat) : Nat := (Nat.toDigits 10 n).length

/-- The place of the point of `num / den > 0`: the `k` with `10 ^ (k - 1) ≤ num / den < 10 ^ k`. -/
def pointPlace (num den : Nat) : Int :=
  if num ≥ den then digitCount (num / den)
  else
    let j := digitCount den - digitCount num
    if num * Nat.pow 10 j ≥ den then 1 - (j : Int) else - (j : Int)

/-- The order of `c · 10 ^ p` and `x · 2 ^ e`. -/
def compareWithBinary (c : Nat) (p : Int) (x : Nat) (e : Int) : Ordering :=
  compare (c * Nat.pow 10 p.toNat * Nat.pow 2 (-e).toNat)
    (x * Nat.pow 2 e.toNat * Nat.pow 10 (-p).toNat)

/-- The reals that round to `x`: those between `low · 2 ^ exponent` and `high · 2 ^ exponent`,
the ends included when the significand of `x` is even. -/
structure RoundingInterval where
  low : Nat
  high : Nat
  exponent : Int
  closed : Bool

/-- In quarters of the last place of `x`. The lower neighbour of a power of two is only half as
far away as the upper one. -/
def RoundingInterval.of (x : Binary64) : RoundingInterval where
  low := 4 * x.significand - (if x.fraction = 0 ∧ x.exponentField > 1 then 1 else 2)
  high := 4 * x.significand + 2
  exponent := x.exponent - 2
  closed := x.significand % 2 == 0

def RoundingInterval.contains (i : RoundingInterval) (c : Nat) (p : Int) : Bool :=
  (match compareWithBinary c p i.low i.exponent with
    | .gt => true | .eq => i.closed | .lt => false) &&
  (match compareWithBinary c p i.high i.exponent with
    | .lt => true | .eq => i.closed | .gt => false)

/-- The neighbour of `x` on the grid `10 ^ p` that reads back, the nearer one if both do, the even
one of two equally near. -/
def onGrid? (x : Binary64) (p : Int) : Option Decimal :=
  let interval := RoundingInterval.of x
  let num := x.significand * Nat.pow 2 x.exponent.toNat * Nat.pow 10 (-p).toNat
  let den := Nat.pow 2 (-x.exponent).toNat * Nat.pow 10 p.toNat
  let c := num / den
  match interval.contains c p, interval.contains (c + 1) p with
  | false, false => none
  | true, false => some ⟨c, p⟩
  | false, true => some ⟨c + 1, p⟩
  | true, true => some ⟨Binary64.roundedQuotient num den, p⟩

/-- The first hit on the grids of `digits`, `digits + 1`, … digits, the last of them with
seventeen. -/
def searchFrom (x : Binary64) (point : Int) : Nat → Nat → Decimal
  | 0, digits => ⟨0, point - digits⟩
  | tries + 1, digits =>
    match onGrid? x (point - digits) with
    | some d => d
    | none => searchFrom x point tries (digits + 1)

/-- Drops zeros from the end of the coefficient. -/
def trim (d : Decimal) : Nat → Decimal
  | 0 => d
  | fuel + 1 =>
    if d.coefficient ≠ 0 ∧ d.coefficient % 10 = 0 then
      trim ⟨d.coefficient / 10, d.exponent + 1⟩ fuel
    else d

/-- The shortest decimal that reads back as the magnitude of a finite number. -/
def shortest (x : Binary64) : Decimal :=
  if x.isZero then ⟨0, 0⟩
  else
    let point := pointPlace (x.significand * Nat.pow 2 x.exponent.toNat)
      (Nat.pow 2 (-x.exponent).toNat)
    (searchFrom x point 17 1).trim 17

/-! ## Written forms -/

/-- The digits of the coefficient. -/
def digits (d : Decimal) : List Char := Nat.toDigits 10 d.coefficient

/-- How many digits stand before the point; zero or less when the decimal is below one. -/
def point (d : Decimal) : Int := d.digits.length + d.exponent

/-- Positional notation; a whole number has no point. -/
def positional (d : Decimal) : List Char :=
  let ds := d.digits
  let k := d.point
  if k ≤ 0 then '0' :: '.' :: (List.replicate (-k).toNat '0' ++ ds)
  else if k < ds.length then ds.take k.toNat ++ '.' :: ds.drop k.toNat
  else ds ++ List.replicate (k - ds.length).toNat '0'

/-- One digit before the point and a signed exponent: `1.5e+16`, `5e-324`. -/
def exponential (d : Decimal) : List Char :=
  let e := d.point - 1
  let mantissa := match d.digits with
    | [] => []
    | [c] => [c]
    | c :: cs => c :: '.' :: cs
  mantissa ++ 'e' :: (if e < 0 then '-' else '+') :: Nat.toDigits 10 e.natAbs

end Decimal

end TemplateEngines
