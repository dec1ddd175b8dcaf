import PaymentChannel.Abi.Writer
import PaymentChannel.Proofs.Bytes.Padding

/-!
# Slots that are filled up

Machine integers and counts have fewer bytes than a slot, which is filled up in front of them: with
zeros, or, if the integer is negative, with bytes of all ones. Either way the slot has the value of
the integer, in two's complement:

* `unsignedSlot_eq`: filling up with zeros is widening;
* `signedSlot_eq`: filling up with the sign is extending the sign;
* `countSlot_eq`: a count is the same however many bytes it was given.
-/

namespace PaymentChannel

namespace Bytes

/-- Bytes of all ones are one less than the next power. -/
theorem toNat_replicate_ones (n : Nat) : toNat (List.replicate n 0xff) + 1 = 256 ^ n := by
  induction n with
  | zero => rfl
  | succ n ih =>
    rw [List.replicate_succ, toNat_cons, List.length_replicate, Nat.add_assoc, ih, Nat.pow_succ',
      show (0xff : UInt8).toNat = 255 from rfl]
    omega

end Bytes

namespace Slot

open Bytes

variable {bs : Bytes}

/-- Zeros in front leave the value of the bytes as it is. -/
theorem toNat_endingWith_zeros (h : bs.length ≤ size) : (endingWith 0 bs).toNat = toNat bs := by
  rw [← toNat_toBytes, toBytes_endingWith 0 h, toNat_replicate_append]

/-- Ones in front take the value of the bytes to the end of the range. -/
theorem toNat_endingWith_ones (h : bs.length ≤ size) :
    (endingWith 0xff bs).toNat = 2 ^ 256 - 256 ^ bs.length + toNat bs := by
  have fill := toNat_replicate_ones (size - bs.length)
  have whole : 256 ^ (size - bs.length) * 256 ^ bs.length = 2 ^ 256 := by
    rw [← Nat.pow_add, Nat.sub_add_cancel h]
    rfl
  rw [← fill, Nat.add_mul, Nat.one_mul] at whole
  rw [← toNat_toBytes, toBytes_endingWith 0xff h, toNat_append, ← whole, Nat.add_sub_cancel]

end Slot

namespace Abi

open Bytes

namespace Width

theorem bits_eq (w : Width) : 2 ^ w.bits = 256 ^ w.bytes := by
  cases w <;> rfl

theorem bytes_le (w : Width) : w.bytes ≤ Slot.size := by
  cases w <;> decide

theorem bits_le (w : Width) : w.bits ≤ 256 := by
  cases w <;> decide

end Width

variable (w : Width) (x : BitVec w.bits)

theorem toNat_bytes_of_width : toNat (ofNat w.bytes x.toNat) = x.toNat := by
  rw [toNat_ofNat, ← w.bits_eq, Nat.mod_eq_of_lt x.isLt]

theorem length_bytes_of_width_le : (ofNat w.bytes x.toNat).length ≤ Slot.size := by
  rw [length_ofNat]
  exact w.bytes_le

/-- Filling up with zeros is widening. -/
theorem unsignedSlot_eq : unsignedSlot w x = x.setWidth 256 := by
  refine BitVec.eq_of_toNat_eq ?_
  rw [unsignedSlot, Slot.toNat_endingWith_zeros (length_bytes_of_width_le w x),
    toNat_bytes_of_width, BitVec.toNat_setWidth_of_le w.bits_le]

/-- Filling up with the sign is extending the sign. -/
theorem signedSlot_eq : signedSlot w x = x.signExtend 256 := by
  refine BitVec.eq_of_toNat_eq ?_
  have short := length_bytes_of_width_le w x
  rw [signedSlot, BitVec.toNat_signExtend, BitVec.toNat_setWidth_of_le w.bits_le, x.msb_eq_toInt]
  by_cases negative : x.toInt < 0
  · rw [if_pos negative, if_pos (decide_eq_true negative), Slot.toNat_endingWith_ones short,
      toNat_bytes_of_width, length_ofNat, ← w.bits_eq, Nat.add_comm]
  · rw [if_neg negative, if_neg (mt of_decide_eq_true negative), Slot.toNat_endingWith_zeros short,
      toNat_bytes_of_width, Nat.add_zero]

/-- A count is the same however many bytes it was given. -/
theorem countSlot_eq (n : Nat) : countSlot n = .ofCount n := by
  refine BitVec.eq_of_toNat_eq ?_
  rw [countSlot, Slot.ofCount, BitVec.toNat_ofNat]
  by_cases counted : n < UInt64.size
  · have fits : n < 256 ^ Width.w64.bytes := counted
    rw [if_pos counted, Slot.toNat_endingWith_zeros (by rw [length_ofNat]; decide), toNat_ofNat,
      Nat.mod_eq_of_lt fits, Nat.mod_eq_of_lt (fits.trans (by decide))]
  · rw [if_neg counted, Slot.toNat_endingWith_zeros (length_ofNat _ _).le, toNat_ofNat]
    rfl

@[simp] theorem toBytes_unsignedSlot : (unsignedSlot w x).toBytes = word x.toNat := by
  rw [unsignedSlot_eq, Slot.toBytes_setWidth]

@[simp] theorem toBytes_signedSlot : (signedSlot w x).toBytes = signedWord x.toInt := by
  rw [signedSlot_eq, Slot.toBytes_signExtend]

@[simp] theorem toBytes_countSlot (n : Nat) : (countSlot n).toBytes = word n := by
  rw [countSlot_eq, Slot.toBytes_ofCount]

end Abi

end PaymentChannel
