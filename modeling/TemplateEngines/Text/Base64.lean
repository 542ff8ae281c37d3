/-
Base64 with the standard alphabet. `decode` accepts only what `encode` writes: the padding has to be
complete, and the bits that the last symbol has left over have to be zero.
-/

namespace TemplateEngines.Text.Base64

/-- Why bytes are no Base64. -/
inductive Fault where
  /-- A byte that is no symbol, or padding where none can be. -/
  | invalidByte (byte : UInt8) (offset : Nat)
  /-- One symbol more than a multiple of four. -/
  | incompleteByte
  /-- The last symbol has bits that no byte takes. -/
  | invalidLastSymbol (byte : UInt8) (offset : Nat)
  | invalidPadding
deriving DecidableEq, Repr

def Fault.message : Fault → String
  | .invalidByte byte offset => s!"Invalid byte {byte.toNat}, offset {offset}."
  | .incompleteByte => "Encoded text cannot have a 6-bit remainder."
  | .invalidLastSymbol byte offset => s!"Invalid last symbol {byte.toNat}, offset {offset}."
  | .invalidPadding => "Invalid padding"

/-! ## Symbols -/

/-- The symbol of a number below 64. -/
def symbol (n : Nat) : UInt8 :=
  if n < 26 then 0x41 + n.toUInt8
  else if n < 52 then 0x61 + (n - 26).toUInt8
  else if n < 62 then 0x30 + (n - 52).toUInt8
  else if n = 62 then 0x2B
  else 0x2F

/-- The number of a symbol. -/
def value? (b : UInt8) : Option Nat :=
  if 0x41 ≤ b && b ≤ 0x5A then some (b.toNat - 0x41)
  else if 0x61 ≤ b && b ≤ 0x7A then some (b.toNat - 0x61 + 26)
  else if 0x30 ≤ b && b ≤ 0x39 then some (b.toNat - 0x30 + 52)
  else if b == 0x2B then some 62
  else if b == 0x2F then some 63
  else none

/-- The equals sign, which fills the last group. -/
def padding : UInt8 := 0x3D

/-! ## Encoding -/

/-- Three bytes become four symbols; a shorter last group is filled with padding. -/
def encode : List UInt8 → List UInt8
  | a :: b :: c :: rest =>
    symbol (a.toNat / 4) :: symbol (a.toNat % 4 * 16 + b.toNat / 16) ::
      symbol (b.toNat % 16 * 4 + c.toNat / 64) :: symbol (c.toNat % 64) :: encode rest
  | [a, b] =>
    [symbol (a.toNat / 4), symbol (a.toNat % 4 * 16 + b.toNat / 16), symbol (b.toNat % 16 * 4),
      padding]
  | [a] => [symbol (a.toNat / 4), symbol (a.toNat % 4 * 16), padding, padding]
  | [] => []

/-! ## Decoding -/

/-- The numbers of the symbols before the padding. `offset` bytes stand before the rest, and
`firstPadding` is the offset of the first padding that has been met. -/
def readSymbols (offset : Nat) (firstPadding : Option Nat) : List UInt8 → Except Fault (List Nat)
  | [] => .ok []
  | b :: rest =>
    if b == padding then
      if offset % 4 < 2 then .error (.invalidByte b (firstPadding.getD offset))
      else readSymbols (offset + 1) (firstPadding.or (some offset)) rest
    else
      match firstPadding, value? b with
      | some first, _ => .error (.invalidByte padding first)
      | none, none => .error (.invalidByte b offset)
      | none, some n => (readSymbols (offset + 1) none rest).map (n :: ·)

/-- The bytes that symbols stand for, and the bits left over. -/
def assemble : List Nat → List UInt8 × Nat
  | a :: b :: c :: d :: rest =>
    let (bytes, left) := assemble rest
    ((a * 4 + b / 16).toUInt8 :: (b % 16 * 16 + c / 4).toUInt8 :: (c % 4 * 64 + d).toUInt8 :: bytes,
      left)
  | [a, b, c] => ([(a * 4 + b / 16).toUInt8, (b % 16 * 16 + c / 4).toUInt8], c % 4)
  | [a, b] => ([(a * 4 + b / 16).toUInt8], b % 16)
  | _ => ([], 0)

/-- The bytes that an encoded text stands for. -/
def decode (bytes : List UInt8) : Except Fault (List UInt8) :=
  let last := bytes.getLastD padding
  if bytes.length % 4 = 1 then
    if last != padding && (value? last).isNone then
      .error (.invalidByte last (bytes.length - 1))
    else .error .incompleteByte
  else do
    let symbols ← readSymbols 0 none bytes
    if bytes.length % 4 ≠ 0 then .error .invalidPadding
    else
      let (decoded, left) := assemble symbols
      if left ≠ 0 then
        .error (.invalidLastSymbol (bytes.getD (symbols.length - 1) 0) (symbols.length - 1))
      else .ok decoded

end TemplateEngines.Text.Base64
