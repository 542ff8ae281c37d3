/-
Binary floating-point numbers of 64 bits, held as their bit patterns, with exact arithmetic on
natural numbers behind every operation: a product, a quotient and a decimal literal are rounded
once, to the nearest number, a half going to the even neighbour (`ofRatio`).
-/

namespace TemplateEngines

/-- A binary floating-point number of 64 bits: sign, eleven exponent bits, 52 fraction bits. -/
structure Binary64 where
  /-- The bit pattern, the sign in front. -/
  bits : UInt64
deriving DecidableEq, Inhabited, Repr

namespace Binary64

/-! ## Fields -/

/-- The sign bit. -/
def isNegative (x : Binary64) : Bool := x.bits >>> 63 == 1

/-- The eleven exponent bits. -/
def exponentField (x : Binary64) : Nat := ((x.bits >>> 52) &&& 0x7FF).toNat

/-- The 52 fraction bits. -/
def fraction (x : Binary64) : Nat := (x.bits &&& 0xFFFFFFFFFFFFF).toNat

/-- The number with the given fields. -/
def ofFields (negative : Bool) (exponentField fraction : Nat) : Binary64 :=
  ⟨((if negative then (1 : UInt64) else 0) <<< 63) ||| (exponentField.toUInt64 <<< 52) |||
    fraction.toUInt64⟩

/-- The magnitude of a finite number is `significand · 2 ^ exponent`. -/
def significand (x : Binary64) : Nat :=
  if x.exponentField = 0 then x.fraction else x.fraction + Nat.pow 2 52

/-- The magnitude of a finite number is `significand · 2 ^ exponent`. -/
def exponent (x : Binary64) : Int := max (x.exponentField : Int) 1 - 1075

def isFinite (x : Binary64) : Bool := x.exponentField != 2047

def isNaN (x : Binary64) : Bool := x.exponentField == 2047 && x.fraction != 0

/-- Neither zero nor subnormal, neither infinite nor NaN. -/
def isNormal (x : Binary64) : Bool := x.exponentField != 0 && x.exponentField != 2047

def isZero (x : Binary64) : Bool := x.exponentField == 0 && x.fraction == 0

/-- Numerical equality: the two zeros are equal, and a NaN equals nothing. -/
def same (x y : Binary64) : Bool :=
  !x.isNaN && !y.isNaN && (x == y || (x.isZero && y.isZero))

def zero (negative : Bool) : Binary64 := ofFields negative 0 0

def infinity (negative : Bool) : Binary64 := ofFields negative 2047 0

/-- The number of opposite sign. -/
def neg (x : Binary64) : Binary64 := ⟨x.bits ^^^ 0x8000000000000000⟩

/-! ## Rounding -/

/-- `num / den` to the nearest natural number, a half to the even neighbour. -/
def roundedQuotient (num den : Nat) : Nat :=
  let q := num / den
  let r := num % den
  if 2 * r > den || (2 * r == den && q % 2 == 1) then q + 1 else q

/-- The exponent of the last place of `num / den`: with it the significand has 53 bits, or fewer
when the number is subnormal. -/
def lastPlace (num den : Nat) : Int :=
  let a := num.log2
  let b := den.log2
  let binade : Int := if num * Nat.pow 2 b ≥ den * Nat.pow 2 a then a - b else a - b - 1
  max (binade - 52) (-1074)

/-- The number nearest to `num / den`, infinite when that is out of range. -/
def ofRatio (negative : Bool) (num den : Nat) : Binary64 :=
  if num = 0 then zero negative
  else
    let e := lastPlace num den
    let m := roundedQuotient (num * Nat.pow 2 (-e).toNat) (den * Nat.pow 2 e.toNat)
    let (m, e) := if m = Nat.pow 2 53 then (Nat.pow 2 52, e + 1) else (m, e)
    if m < Nat.pow 2 52 then ofFields negative 0 m
    else
      let field := (e + 1075).toNat
      if field ≥ 2047 then infinity negative else ofFields negative field (m - Nat.pow 2 52)

def ofNat (n : Nat) : Binary64 := ofRatio false n 1

/-- The product of two finite numbers. -/
def mul (x y : Binary64) : Binary64 :=
  let e := x.exponent + y.exponent
  ofRatio (x.isNegative != y.isNegative)
    (x.significand * y.significand * Nat.pow 2 e.toNat) (Nat.pow 2 (-e).toNat)

/-- The quotient of two finite numbers, the second not zero. -/
def div (x y : Binary64) : Binary64 :=
  let e := x.exponent - y.exponent
  ofRatio (x.isNegative != y.isNegative)
    (x.significand * Nat.pow 2 e.toNat) (y.significand * Nat.pow 2 (-e).toNat)

/-! ## Decimal literals -/

/-- The largest power of ten that is a finite number. -/
def maxPowerOfTen : Nat := 308

def powerOfTen (n : Nat) : Binary64 := ofNat (Nat.pow 10 n)

/-- `x · 10 ^ e` in floating-point steps of at most `10 ^ 308` each, none when it is out of range.
Every step rounds, so the last bit can differ from that of the nearest number. -/
def scaleByTen (x : Binary64) (e : Int) : Option Binary64 :=
  if e.natAbs ≤ maxPowerOfTen then
    if e ≥ 0 then
      let y := x.mul (powerOfTen e.natAbs)
      if y.isFinite then some y else none
    else some (x.div (powerOfTen e.natAbs))
  else if x.isZero then some x
  else if e ≥ 0 then none
  else scaleByTen (x.div (powerOfTen maxPowerOfTen)) (e + maxPowerOfTen)
termination_by e.natAbs
decreasing_by
  simp only [maxPowerOfTen] at *
  omega

/-- The number written as `significand · 10 ^ exponent`, none when it is out of range. -/
def ofDecimal (negative : Bool) (significand : Nat) (exponent : Int) : Option Binary64 :=
  (scaleByTen (ofNat significand) exponent).map fun x => if negative then x.neg else x

end Binary64

end TemplateEngines
