/-!
# Bytes and slots

Byte strings are lists of bytes. A number is written big-endian in a given count of bytes
(`Bytes.ofNat`) and read back by `Bytes.toNat`; a *slot*, the unit of the contract encoding, is
256 bits wide and stands for 32 bytes.

* `FixedBytes n`: byte strings of the fixed length `n`, as bit vectors, so that addresses, hashes
  and slots compare and order like the numbers they spell;
* `Bytes.slots`: a byte string cut into slots, the last one filled up with zeros on the right.
-/

namespace PaymentChannel

/-- A byte string. -/
abbrev Bytes := List UInt8

namespace Bytes

/-- The big-endian number a byte string spells. -/
def toNat (bs : Bytes) : Nat := bs.foldl (fun n b => n * 256 + b.toNat) 0

/-- The last `n` bytes of a number, big-endian. -/
def ofNat : (n : Nat) → Nat → Bytes
  | 0, _ => []
  | n + 1, x => ofNat n (x / 256) ++ [UInt8.ofNat x]

/-- The bytes of characters in UTF-8. -/
def ofChars (cs : List Char) : Bytes := cs.flatMap String.utf8EncodeChar

/-- The bytes of a text in UTF-8. -/
def ofText (s : String) : Bytes := ofChars s.toList

@[simp] theorem toNat_nil : toNat [] = 0 := rfl

@[simp] theorem length_ofNat (n x : Nat) : (ofNat n x).length = n := by
  induction n generalizing x with
  | zero => rfl
  | succ n ih => simp [ofNat, ih]

end Bytes

/-- Byte strings of length `n`, as the bits they are made of. -/
structure FixedBytes (n : Nat) where
  bits : BitVec (8 * n)
  deriving DecidableEq, Inhabited

namespace FixedBytes

variable {n : Nat}

/-- The bytes, first to last. -/
def toBytes (x : FixedBytes n) : Bytes := Bytes.ofNat n x.bits.toNat

/-- The last `n` bytes of a byte string (all of it, if it has `n` of them). -/
def ofBytes (bs : Bytes) : FixedBytes n := ⟨BitVec.ofNat (8 * n) (Bytes.toNat bs)⟩

/-- All bytes zero. -/
def zero : FixedBytes n := ⟨0⟩

/-- Whether all bytes are zero. -/
def isZero (x : FixedBytes n) : Bool := x.bits == 0

@[simp] theorem length_toBytes (x : FixedBytes n) : x.toBytes.length = n := by simp [toBytes]

end FixedBytes

/-- Account and contract addresses. The zero address stands for the chain's native asset. -/
abbrev Address := FixedBytes 20

/-- Hashes, among them channel ids and transaction hashes. -/
abbrev Hash := FixedBytes 32

/-- Uninterpreted 32 bytes, such as metadata. -/
abbrev Bytes32 := FixedBytes 32

namespace FixedBytes

/-- The last eight bytes of an address as a number. -/
def lowWord (a : Address) : BitVec 64 := a.bits.setWidth 64

end FixedBytes

/-- One slot of the contract encoding. -/
abbrev Slot := BitVec 256

namespace Slot

/-- The number of bytes in a slot. -/
def size : Nat := 32

/-- The bytes of a slot, first to last. -/
def toBytes (s : Slot) : Bytes := Bytes.ofNat size s.toNat

/-- A count, such as a length or an offset, as a slot. -/
def ofCount (n : Nat) : Slot := BitVec.ofNat 256 n

/-- The slot that starts with the given bytes: at most 32 of them, then zeros. -/
def startingWith (bs : Bytes) : Slot :=
  BitVec.ofNat 256 (Bytes.toNat ((bs ++ List.replicate size 0).take size))

/-- The slot that ends with the given bytes: at most 32 of them, behind as many fillers as it
    takes. -/
def endingWith (filler : UInt8) (bs : Bytes) : Slot :=
  BitVec.ofNat 256 (Bytes.toNat (List.replicate (size - bs.length) filler ++ bs))

/-- The bytes of a list of slots. -/
def flatten (ss : List Slot) : Bytes := ss.flatMap toBytes

@[simp] theorem length_toBytes (s : Slot) : (toBytes s).length = size := by simp [toBytes]

@[simp] theorem length_flatten (ss : List Slot) : (flatten ss).length = ss.length * size := by
  induction ss with
  | nil => rfl
  | cons s ss ih => simp_all [flatten, Nat.add_mul, Nat.add_comm]

end Slot

namespace Bytes

/-- The number of slots that `n` bytes fill. -/
def slotCount (n : Nat) : Nat := (n + (Slot.size - 1)) / Slot.size

/-- The number of bytes that `n` bytes occupy in whole slots. -/
def paddedLength (n : Nat) : Nat := slotCount n * Slot.size

/-- The first `n` slots of a byte string. -/
def firstSlots : (n : Nat) → Bytes → List Slot
  | 0, _ => []
  | n + 1, bs => Slot.startingWith bs :: firstSlots n (bs.drop Slot.size)

/-- A byte string in whole slots, padded with zeros on the right. -/
def slots (bs : Bytes) : List Slot := firstSlots (slotCount bs.length) bs

@[simp] theorem length_firstSlots (n : Nat) (bs : Bytes) : (firstSlots n bs).length = n := by
  induction n generalizing bs with
  | zero => rfl
  | succ n ih => simp [firstSlots, ih]

@[simp] theorem length_slots (bs : Bytes) : bs.slots.length = slotCount bs.length := by
  simp [slots]

end Bytes

end PaymentChannel
