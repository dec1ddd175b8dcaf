import Mathlib
import PaymentChannel.Bytes.Lemmas

/-!
# Words and padding

The contract encoding is made of *words*: numbers in 32 bytes, big-endian, negative ones in two's
complement. Data of any length are padded with zeros on the right to a whole number of words.

* `Bytes.word_inj`: words tell numbers of 256 bits apart;
* `Slot.flatten_slots`: cutting data into slots pads them;
* `Slot.flatten_inj`: the bytes of slots tell the slots apart.
-/

namespace PaymentChannel

namespace Bytes

/-- A number in 32 bytes, as far as it fits. -/
def word (n : Nat) : Bytes := ofNat Slot.size n

/-- A signed number in 32 bytes, in two's complement. -/
def signedWord (i : Int) : Bytes := word (i % 2 ^ 256).toNat

/-- Data with zeros on the right, up to a whole number of words. -/
def padded (bs : Bytes) : Bytes :=
  bs ++ List.replicate (paddedLength bs.length - bs.length) 0

/-! ## Words -/

@[simp] theorem length_word (n : Nat) : (word n).length = Slot.size := length_ofNat _ _

@[simp] theorem length_signedWord (i : Int) : (signedWord i).length = Slot.size :=
  length_word _

/-- A word holds a number, as far as that fits. -/
theorem toNat_word (n : Nat) : toNat (word n) = n % 2 ^ 256 := toNat_ofNat Slot.size n

/-- Words are told apart by their numbers, as far as those fit. -/
theorem word_eq_word_iff {m n : Nat} : word m = word n ↔ m % 2 ^ 256 = n % 2 ^ 256 := by
  rw [← toNat_word, ← toNat_word]
  exact ⟨congrArg toNat, eq_of_toNat_eq (by simp)⟩

/-- Words tell numbers of 256 bits apart. -/
theorem word_inj {m n : Nat} (hm : m < 2 ^ 256) (hn : n < 2 ^ 256) :
    word m = word n ↔ m = n := by
  rw [word_eq_word_iff, Nat.mod_eq_of_lt hm, Nat.mod_eq_of_lt hn]

/-- Zeros in front do not change the number that bytes spell. -/
theorem toNat_replicate_append (n : Nat) (bs : Bytes) :
    toNat (List.replicate n 0 ++ bs) = toNat bs := by
  induction n with
  | zero => rfl
  | succ n ih =>
    rw [List.replicate_succ, List.cons_append, toNat_cons, ih]
    simp

/-! ## Padding -/

/-- Nothing is cut off. -/
theorem le_paddedLength (n : Nat) : n ≤ paddedLength n := by
  rw [paddedLength, slotCount, Slot.size]
  omega

/-- Less than a slot is added. -/
theorem paddedLength_lt (n : Nat) : paddedLength n < n + Slot.size := by
  rw [paddedLength, slotCount, Slot.size]
  omega

/-- Whole slots are filled. -/
theorem size_dvd_paddedLength (n : Nat) : Slot.size ∣ paddedLength n := Nat.dvd_mul_left _ _

@[simp] theorem padded_nil : padded [] = [] := rfl

@[simp] theorem length_padded (bs : Bytes) : (padded bs).length = paddedLength bs.length := by
  rw [padded, List.length_append, List.length_replicate,
    Nat.add_sub_cancel' (le_paddedLength _)]

/-- Data that fill a word need no padding. -/
theorem padded_of_length {bs : Bytes} (h : bs.length = Slot.size) : padded bs = bs := by
  rw [padded, h]
  exact List.append_nil bs

/-- Data of a known length are what their padding starts with. -/
theorem eq_of_padded_eq {bs cs : Bytes} (hl : bs.length = cs.length)
    (h : padded bs = padded cs) : bs = cs :=
  (List.append_inj h hl).1

end Bytes

/-! ## Slots -/

namespace Slot

open Bytes

/-- The bytes of a slot are the word of its number. -/
theorem toBytes_eq_word (s : Slot) : toBytes s = word s.toNat := rfl

/-- A count is written as its word. -/
@[simp] theorem toBytes_ofCount (n : Nat) : toBytes (ofCount n) = word n := by
  rw [toBytes_eq_word, word_eq_word_iff, ofCount, BitVec.toNat_ofNat, Nat.mod_mod]

/-- Slots tell numbers of 256 bits apart. -/
theorem ofCount_inj {m n : Nat} (hm : m < 2 ^ 256) (hn : n < 2 ^ 256) :
    ofCount m = ofCount n ↔ m = n := by
  rw [← toBytes_inj, toBytes_ofCount, toBytes_ofCount, word_inj hm hn]

/-- A narrower number is written as the word of the same number. -/
@[simp] theorem toBytes_setWidth {w : Nat} (x : BitVec w) :
    toBytes (x.setWidth 256) = word x.toNat := by
  rw [toBytes_eq_word, word_eq_word_iff, BitVec.toNat_setWidth, Nat.mod_mod]

/-- An integer is written as its signed word. -/
@[simp] theorem toBytes_ofInt (i : Int) : toBytes (BitVec.ofInt 256 i) = signedWord i := by
  rw [toBytes_eq_word, BitVec.toNat_ofInt]
  rfl

/-- A narrower integer is written as the signed word of the same integer. -/
@[simp] theorem toBytes_signExtend {w : Nat} (x : BitVec w) :
    toBytes (x.signExtend 256) = signedWord x.toInt := toBytes_ofInt _

/-- A slot that starts with bytes is filled up with zeros, and holds no more than its size. -/
theorem toBytes_startingWith (bs : Bytes) :
    toBytes (startingWith bs) = (bs ++ List.replicate size 0).take size := by
  have hl : ((bs ++ List.replicate size 0).take size).length = size := by simp
  refine eq_of_toNat_eq (by simp) ?_
  have := toNat_lt ((bs ++ List.replicate size 0).take size)
  rw [hl, show 256 ^ size = 2 ^ 256 from rfl] at this
  rw [toNat_toBytes, startingWith, BitVec.toNat_ofNat, Nat.mod_eq_of_lt this]

/-- A slot that ends with bytes is made of these and of the fillers in front of them. -/
theorem toBytes_endingWith (filler : UInt8) {bs : Bytes} (h : bs.length ≤ size) :
    toBytes (endingWith filler bs) = List.replicate (size - bs.length) filler ++ bs := by
  have hl : (List.replicate (size - bs.length) filler ++ bs).length = size := by
    rw [List.length_append, List.length_replicate, Nat.sub_add_cancel h]
  refine eq_of_toNat_eq (by rw [length_toBytes, hl]) ?_
  have := toNat_lt (List.replicate (size - bs.length) filler ++ bs)
  rw [hl, show 256 ^ size = 2 ^ 256 from rfl] at this
  rw [toNat_toBytes, endingWith, BitVec.toNat_ofNat, Nat.mod_eq_of_lt this]

@[simp] theorem flatten_nil : flatten [] = [] := rfl

@[simp] theorem flatten_cons (s : Slot) (ss : List Slot) :
    flatten (s :: ss) = toBytes s ++ flatten ss := rfl

/-- Slots one after the other are bytes one after the other. -/
@[simp] theorem flatten_append (ss ts : List Slot) :
    flatten (ss ++ ts) = flatten ss ++ flatten ts := List.flatMap_append

/-- Slots have all the same size. -/
theorem size_dvd_length_flatten (ss : List Slot) : size ∣ (flatten ss).length := by
  rw [length_flatten]
  exact Nat.dvd_mul_left _ _

/-- The bytes of slots tell the slots apart. -/
theorem flatten_inj {ss ts : List Slot} : flatten ss = flatten ts ↔ ss = ts := by
  refine ⟨fun h => ?_, congrArg _⟩
  induction ss generalizing ts with
  | nil =>
    cases ts with
    | nil => rfl
    | cons t ts =>
      have := congrArg List.length h
      rw [length_flatten, length_flatten, List.length_cons, List.length_nil, size] at this
      omega
  | cons s ss ih =>
    cases ts with
    | nil =>
      have := congrArg List.length h
      rw [length_flatten, length_flatten, List.length_cons, List.length_nil, size] at this
      omega
    | cons t ts =>
      obtain ⟨hs, hss⟩ := List.append_inj h (by simp)
      rw [toBytes_inj.1 hs, ih hss]

/-- The first slots of data that do not fill them are padded with zeros. -/
theorem flatten_firstSlots {n : Nat} {bs : Bytes} (h : bs.length ≤ n * size) :
    flatten (firstSlots n bs) = bs ++ List.replicate (n * size - bs.length) 0 := by
  induction n generalizing bs with
  | zero =>
    rw [Nat.zero_mul, Nat.le_zero, List.length_eq_zero_iff] at h
    rw [h]
    rfl
  | succ n ih =>
    rw [Nat.add_one_mul] at h
    rw [firstSlots, flatten_cons, toBytes_startingWith, ih (by rw [List.length_drop]; omega),
      List.length_drop, Nat.add_one_mul]
    rcases Nat.lt_or_ge bs.length size with hlt | hge
    · -- The data end in this slot, and all the others are zeros.
      rw [List.take_append, List.take_of_length_le hlt.le, List.drop_of_length_le hlt.le,
        List.take_replicate, List.append_assoc, List.nil_append, List.replicate_append_replicate]
      congr 2
      omega
    · rw [List.take_append_of_le_length hge, ← List.append_assoc, List.take_append_drop]
      congr 2
      omega

/-- Cutting data into slots pads them. -/
@[simp] theorem flatten_slots (bs : Bytes) : flatten bs.slots = padded bs :=
  flatten_firstSlots (le_paddedLength _)

end Slot

end PaymentChannel
