import PaymentChannel.Bytes

/-!
# Numbers of 256 bits

Amounts are unsigned (`UInt256`). Flows between the parties are signed (`Int256`), kept as two's
complement, and only built, compared, shown and encoded.
-/

namespace PaymentChannel

/-- Unsigned numbers of 256 bits. -/
abbrev UInt256 := BitVec 256

namespace UInt256

/-- The number, if it has no more than 256 bits. -/
def ofNat? (n : Nat) : Option UInt256 :=
  let x := BitVec.ofNat 256 n
  if x.toNat = n then some x else none

/-- The number in decimal. -/
def toText (x : UInt256) : String := toString x.toNat

end UInt256

/-- Signed numbers of 256 bits. -/
structure Int256 where
  /-- The two's complement. -/
  raw : BitVec 256
  deriving DecidableEq, Inhabited

namespace Int256

/-- The number zero. -/
def zero : Int256 := ⟨0⟩

/-- The opposite of a magnitude of at most 2²⁵⁵. -/
def ofNegative (magnitude : UInt256) : Int256 := ⟨~~~magnitude + 1⟩

/-- A magnitude below 2²⁵⁵; a larger one would read back as negative. -/
def ofPositive (magnitude : UInt256) : Int256 := ⟨magnitude⟩

/-- A machine integer. -/
def ofInt (x : Int) : Int256 :=
  let magnitude := BitVec.ofNat 256 x.natAbs
  if x < 0 then ofNegative magnitude else ofPositive magnitude

/-- Whether the sign bit is set. -/
def isNegative (x : Int256) : Bool := x.raw.msb

/-- The number that is represented. -/
def toInt (x : Int256) : Int := x.raw.toInt

/-- The two's complement as 32 bytes. -/
def toBytes (x : Int256) : Bytes := Slot.toBytes x.raw

/-- The number in decimal, with its sign. -/
def toText (x : Int256) : String :=
  if x.isNegative then "-" ++ UInt256.toText (~~~x.raw + 1) else UInt256.toText x.raw

end Int256

end PaymentChannel
