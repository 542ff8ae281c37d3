/-
Reading UTF-8. `decode` accepts exactly the byte sequences that encode a text: no overlong form,
no surrogate, nothing above U+10FFFF, nothing cut short. A refusal says where the first bad
sequence starts and how long it is, or that the bytes end inside a character.
-/

namespace TemplateEngines.Text.Utf8

/-- Why bytes are no UTF-8. -/
inductive Fault where
  /-- A sequence of `length` bytes that starts no character. -/
  | invalid (length : Nat)
  /-- The end of the bytes inside a character. -/
  | incomplete
deriving DecidableEq, Repr

/-- A fault and the number of bytes before it. -/
structure Refusal where
  fault : Fault
  index : Nat
deriving DecidableEq, Repr

def Refusal.message : Refusal → String
  | ⟨.invalid length, index⟩ => s!"invalid utf-8 sequence of {length} bytes from index {index}"
  | ⟨.incomplete, index⟩ => s!"incomplete utf-8 byte sequence from index {index}"

/-- A byte that stands second or later in a character. -/
def isContinuation (b : UInt8) : Bool := 0x80 ≤ b && b ≤ 0xBF

/-- The six low bits of a continuation byte. -/
def payload (b : UInt8) : Nat := b.toNat % 64

/-- The second bytes that may follow the first byte of a character of three bytes. -/
def mayFollowOfThree (first second : UInt8) : Bool :=
  if first == 0xE0 then 0xA0 ≤ second && second ≤ 0xBF
  else if first == 0xED then 0x80 ≤ second && second ≤ 0x9F
  else isContinuation second

/-- The second bytes that may follow the first byte of a character of four bytes. -/
def mayFollowOfFour (first second : UInt8) : Bool :=
  if first == 0xF0 then 0x90 ≤ second && second ≤ 0xBF
  else if first == 0xF4 then 0x80 ≤ second && second ≤ 0x8F
  else isContinuation second

/-- The first character and how many bytes it takes. -/
def readChar : List UInt8 → Except Fault (Char × Nat)
  | [] => .error .incomplete
  | b0 :: rest =>
    if b0 < 0x80 then .ok (Char.ofNat b0.toNat, 1)
    else if 0xC2 ≤ b0 && b0 ≤ 0xDF then
      match rest with
      | [] => .error .incomplete
      | b1 :: _ =>
        if isContinuation b1 then .ok (Char.ofNat (b0.toNat % 32 * 64 + payload b1), 2)
        else .error (.invalid 1)
    else if 0xE0 ≤ b0 && b0 ≤ 0xEF then
      match rest with
      | [] => .error .incomplete
      | b1 :: rest =>
        if !mayFollowOfThree b0 b1 then .error (.invalid 1)
        else
          match rest with
          | [] => .error .incomplete
          | b2 :: _ =>
            if isContinuation b2 then
              .ok (Char.ofNat ((b0.toNat % 16 * 64 + payload b1) * 64 + payload b2), 3)
            else .error (.invalid 2)
    else if 0xF0 ≤ b0 && b0 ≤ 0xF4 then
      match rest with
      | [] => .error .incomplete
      | b1 :: rest =>
        if !mayFollowOfFour b0 b1 then .error (.invalid 1)
        else
          match rest with
          | [] => .error .incomplete
          | b2 :: rest =>
            if !isContinuation b2 then .error (.invalid 2)
            else
              match rest with
              | [] => .error .incomplete
              | b3 :: _ =>
                if isContinuation b3 then
                  .ok (Char.ofNat
                    (((b0.toNat % 8 * 64 + payload b1) * 64 + payload b2) * 64 + payload b3), 4)
                else .error (.invalid 3)
    else .error (.invalid 1)

/-- The text that the bytes encode; `index` bytes stand before them, and at most `fuel` characters
are read. -/
def decodeFrom : Nat → Nat → List UInt8 → Except Refusal (List Char)
  | _, _, [] => .ok []
  | 0, index, _ => .error ⟨.incomplete, index⟩
  | fuel + 1, index, bytes =>
    match readChar bytes with
    | .error fault => .error ⟨fault, index⟩
    | .ok (c, width) => (decodeFrom fuel (index + width) (bytes.drop width)).map (c :: ·)

/-- The text that the bytes encode. -/
def decode (bytes : List UInt8) : Except Refusal String :=
  (decodeFrom bytes.length 0 bytes).map String.ofList

end TemplateEngines.Text.Utf8
