import Mathlib
import PaymentChannel.Bytes

/-!
# Byte strings as numbers

A byte string of a given length and the number that it spells determine each other:

* `Bytes.toNat_ofNat`, `Bytes.ofNat_toNat`: writing and reading undo each other;
* `FixedBytes.toBytes_inj`, `Slot.toBytes_inj`: so addresses, hashes and slots are told apart by
  their bytes.
-/

namespace PaymentChannel

namespace Bytes

theorem foldl_eq_toNat (bs : Bytes) (n : Nat) :
    bs.foldl (fun n b => n * 256 + b.toNat) n = n * 256 ^ bs.length + toNat bs := by
  induction bs generalizing n with
  | nil => simp
  | cons b bs ih =>
    rw [toNat, List.foldl_cons, List.foldl_cons, ih, ih (0 * 256 + b.toNat), List.length_cons,
      Nat.pow_succ', Nat.add_mul, Nat.mul_assoc]
    simp [Nat.add_assoc]

theorem toNat_append (bs cs : Bytes) :
    toNat (bs ++ cs) = toNat bs * 256 ^ cs.length + toNat cs := by
  rw [toNat, List.foldl_append, foldl_eq_toNat]
  rfl

theorem toNat_cons (b : UInt8) (bs : Bytes) :
    toNat (b :: bs) = b.toNat * 256 ^ bs.length + toNat bs := by
  simpa [toNat] using toNat_append [b] bs

theorem toNat_lt (bs : Bytes) : toNat bs < 256 ^ bs.length := by
  induction bs with
  | nil => simp
  | cons b bs ih =>
    have : (b.toNat + 1) * 256 ^ bs.length ≤ 256 * 256 ^ bs.length :=
      Nat.mul_le_mul_right _ b.toNat_lt
    rw [Nat.add_mul, Nat.one_mul] at this
    rw [toNat_cons, List.length_cons, Nat.pow_succ']
    omega

/-- Byte strings of one length are told apart by the numbers they spell. -/
theorem eq_of_toNat_eq :
    ∀ {bs cs : Bytes}, bs.length = cs.length → toNat bs = toNat cs → bs = cs
  | [], [], _, _ => rfl
  | b :: bs, c :: cs, hl, h => by
    have hl : bs.length = cs.length := by simpa using hl
    have hb := toNat_lt bs
    have hc := toNat_lt cs
    rw [toNat_cons, toNat_cons, hl] at h
    rw [hl] at hb
    have first : b.toNat = c.toNat := by
      have := congrArg (· / 256 ^ cs.length) h
      simpa [Nat.mul_comm _ (256 ^ cs.length), Nat.mul_add_div, Nat.pow_pos, Nat.div_eq_of_lt,
        hb, hc] using this
    have rest : toNat bs = toNat cs := by
      rw [first] at h
      omega
    rw [UInt8.toNat_inj.1 first, eq_of_toNat_eq hl rest]

/-- A number is read back up to the bytes that were left out. -/
@[simp] theorem toNat_ofNat (n x : Nat) : toNat (ofNat n x) = x % 256 ^ n := by
  induction n generalizing x with
  | zero => simp [ofNat, Nat.mod_one]
  | succ n ih =>
    have : toNat [UInt8.ofNat x] = x % 256 := by simp [toNat]
    rw [ofNat, toNat_append, ih, this, Nat.pow_succ', Nat.mod_mul, Nat.mul_comm]
    simp [Nat.add_comm]

@[simp] theorem ofNat_toNat (bs : Bytes) : ofNat bs.length (toNat bs) = bs :=
  eq_of_toNat_eq (by simp) (by simp [Nat.mod_eq_of_lt (toNat_lt bs)])

end Bytes

namespace FixedBytes

variable {n : Nat}

@[simp] theorem ofBytes_toBytes (x : FixedBytes n) : ofBytes x.toBytes = x := by
  simp [ofBytes, toBytes, show 256 ^ n = 2 ^ (8 * n) from (Nat.pow_mul 2 8 n).symm]

theorem toBytes_ofBytes {bs : Bytes} (h : bs.length = n) :
    (ofBytes bs : FixedBytes n).toBytes = bs := by
  subst h
  have := Bytes.toNat_lt bs
  rw [show 256 ^ bs.length = 2 ^ (8 * bs.length) from (Nat.pow_mul 2 8 _).symm] at this
  simp [ofBytes, toBytes, Nat.mod_eq_of_lt this]

theorem toBytes_inj {x y : FixedBytes n} : x.toBytes = y.toBytes ↔ x = y :=
  ⟨fun h => by rw [← ofBytes_toBytes x, h, ofBytes_toBytes], congrArg _⟩

end FixedBytes

namespace Slot

@[simp] theorem toNat_toBytes (s : Slot) : Bytes.toNat (toBytes s) = s.toNat := by
  rw [toBytes, Bytes.toNat_ofNat, show 256 ^ size = 2 ^ 256 from rfl, Nat.mod_eq_of_lt s.isLt]

theorem toBytes_inj {s t : Slot} : toBytes s = toBytes t ↔ s = t :=
  ⟨fun h => BitVec.eq_of_toNat_eq (by rw [← toNat_toBytes, h, toNat_toBytes]), congrArg _⟩

end Slot

end PaymentChannel
