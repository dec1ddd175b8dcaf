import PaymentChannel.Bytes
import PaymentChannel.Text.Quoted

/-!
# Hexadecimal text

Bytes are written with two lower-case digits each, after `0x`. They are read with digits of either
case and, depending on what is read, after `0x` or `0X` or nothing.

* `Hex.encode`, `Hex.decode`: the digits alone;
* `FixedBytes.toHex`, `FixedBytes.parse`: byte strings of a fixed length;
* `Hex.render`, `Hex.parse`: byte strings of any length.
-/

namespace PaymentChannel

namespace Hex

/-- Why a text is not the hexadecimal text that was expected. -/
inductive Error where
  /-- The text has an odd number of bytes. -/
  | oddLength
  /-- A byte is no digit. It is quoted as the character of its code. -/
  | invalidCharacter (byte : UInt8) (position : Nat)
  /-- The digits spell a wrong number of bytes. -/
  | wrongLength (expected actual : Nat)
  deriving DecidableEq, Repr

/-- The error as text. -/
def Error.message : Error → String
  | oddLength => "invalid hex: Odd number of digits"
  | invalidCharacter byte position =>
    s!"invalid hex: Invalid character {Quoted.character (Char.ofNat byte.toNat)} " ++
      s!"at position {position}"
  | wrongLength expected actual => s!"expected {expected} bytes, got {actual}"

/-- The digit of a number below 16. -/
def digit (n : Nat) : Char := if n < 10 then Char.ofNat (48 + n) else Char.ofNat (87 + n)

/-- The two digits of a byte. -/
def byteDigits (b : UInt8) : List Char := [digit (b.toNat / 16), digit (b.toNat % 16)]

/-- The digits of a byte string. -/
def encode (bs : Bytes) : List Char := bs.flatMap byteDigits

/-- The number that a digit of either case stands for, given by its code. -/
def digitValue (b : UInt8) : Option Nat :=
  if 48 ≤ b ∧ b ≤ 57 then some (b.toNat - 48)
  else if 97 ≤ b ∧ b ≤ 102 then some (b.toNat - 87)
  else if 65 ≤ b ∧ b ≤ 70 then some (b.toNat - 55)
  else none

/-- Reads digits, given by their codes, the first of them at the given position. -/
def decodePairs : (position : Nat) → Bytes → Except Error Bytes
  | _, [] => pure []
  | _, [_] => throw .oddLength
  | position, x :: y :: rest =>
    match digitValue x, digitValue y with
    | some high, some low => do
      pure (UInt8.ofNat (16 * high + low) :: (← decodePairs (position + 2) rest))
    | none, _ => throw (.invalidCharacter x position)
    | _, none => throw (.invalidCharacter y (position + 1))

/-- Reads digits, given by their codes. That their number is odd is noticed first. -/
def decode (digits : Bytes) : Except Error Bytes :=
  if digits.length % 2 = 1 then throw .oddLength else decodePairs 0 digits

/-- The text without a leading `0x`. -/
def stripLower : List Char → List Char
  | '0' :: 'x' :: rest => rest
  | text => text

/-- The text without a leading `0x` or `0X`. -/
def stripEither : List Char → List Char
  | '0' :: 'x' :: rest => rest
  | '0' :: 'X' :: rest => rest
  | text => text

/-- A byte string as text. -/
def render (bs : Bytes) : String := String.ofList ('0' :: 'x' :: encode bs)

/-- Reads a byte string of any length. -/
def parse (text : String) : Except Error Bytes := decode (Bytes.ofChars (stripLower text.toList))

end Hex

namespace FixedBytes

variable {n : Nat}

/-- The bytes as text. -/
def toHex (x : FixedBytes n) : String := Hex.render x.toBytes

instance : ToString (FixedBytes n) := ⟨toHex⟩

/-- Reads a byte string of `n` bytes. -/
def parse (text : String) : Except Hex.Error (FixedBytes n) := do
  let bs ← Hex.decode (Bytes.ofChars (Hex.stripEither text.toList))
  if bs.length = n then pure (ofBytes bs) else throw (.wrongLength n bs.length)

end FixedBytes

end PaymentChannel
