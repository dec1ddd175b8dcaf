import Mathlib
import PaymentChannel.Bytes.Lemmas
import PaymentChannel.Channel.Nonce

/-!
# What nonces are made of

A nonce has two parts, mixed bit by bit: what was drawn for it, which is the time and the random
bits side by side (`drawnPart`), and the end of the address of who opens the channel (`openerPart`).
Both fit into 63 bits, so nothing is carried and nothing else is lost than the high bits of the time
and of the address.

* `toNat_channelNonce`: a nonce is its two parts, mixed;
* `channelNonce_mixed`: hence, which draws collide, and when it matters who opens the channel.
-/

namespace PaymentChannel

/-- The part of a nonce that is drawn: as many bits of the time, in seconds, as there is room for,
    and the random bits after them. -/
def drawnPart (now : UInt64) (random : UInt32) : Nat := 2 ^ 32 * (now.toNat % 2 ^ 31) + random.toNat

/-- The part of a nonce that stems from who opens the channel: the last eight bytes of the address,
    but for the top bit. -/
def openerPart : Option Address → Nat
  | some a => Bytes.toNat (a.toBytes.drop 12) % 2 ^ 63
  | none => 0

/-- The last bytes of a number are those of a smaller number of bytes. -/
theorem Bytes.drop_ofNat (m n x : Nat) : (ofNat (m + n) x).drop m = ofNat n x := by
  induction n generalizing x with
  | zero => exact List.drop_of_length_le (length_ofNat m x).le
  | succ n ih =>
    have short : m ≤ (ofNat (m + n) (x / 256)).length := by simp
    rw [← Nat.add_assoc, ofNat, ofNat, List.drop_append_of_le_length short, ih]

theorem toNat_lowWord (a : Address) : a.lowWord.toNat = Bytes.toNat (a.toBytes.drop 12) := by
  rw [FixedBytes.toBytes, Bytes.drop_ofNat 12 8, Bytes.toNat_ofNat, FixedBytes.lowWord,
    BitVec.toNat_setWidth]
  rfl

theorem toNat_and_nonceMask (x : UInt64) : (x &&& nonceMask).toNat = x.toNat % 2 ^ 63 := by
  rw [UInt64.toNat_and]
  exact Nat.and_two_pow_sub_one_eq_mod x.toNat 63

/-- The time and the random bits stand side by side. -/
theorem toNat_drawn_mod (now : UInt64) (random : UInt32) :
    (now <<< 32 ||| random.toUInt64).toNat % 2 ^ 63 = drawnPart now random := by
  have shifted : (now <<< 32).toNat = (now.toNat % 2 ^ 32) <<< 32 := by
    rw [UInt64.toNat_shiftLeft, Nat.shiftLeft_eq, Nat.shiftLeft_eq]
    change now.toNat * 2 ^ 32 % 2 ^ 64 = _
    omega
  have side_by_side := Nat.shiftLeft_add_eq_or_of_lt random.toNat_lt (now.toNat % 2 ^ 32)
  rw [UInt64.toNat_or, shifted, UInt32.toNat_toUInt64, ← side_by_side, Nat.shiftLeft_eq, drawnPart]
  have := random.toNat_lt
  omega

theorem drawnPart_lt (now : UInt64) (random : UInt32) : drawnPart now random < 2 ^ 63 := by
  have := random.toNat_lt
  unfold drawnPart
  omega

theorem openerPart_lt (address : Option Address) : openerPart address < 2 ^ 63 := by
  cases address with
  | none => exact Nat.two_pow_pos 63
  | some a => exact Nat.mod_lt _ (Nat.two_pow_pos 63)

/-- The opener's part is made of the last 63 bits of the address. -/
theorem openerPart_ne_zero_iff {a : Address} :
    openerPart (some a) ≠ 0 ↔ ∃ i < 63, (Bytes.toNat (a.toBytes.drop 12)).testBit i := by
  constructor
  · intro nonzero
    obtain ⟨i, set⟩ := Nat.exists_testBit_of_ne_zero nonzero
    rw [openerPart, Nat.testBit_mod_two_pow, Bool.and_eq_true, decide_eq_true_eq] at set
    exact ⟨i, set⟩
  · rintro ⟨i, low, set⟩ zero
    have cleared : (openerPart (some a)).testBit i = false := by rw [zero, Nat.zero_testBit]
    rw [openerPart, Nat.testBit_mod_two_pow, set, decide_eq_true low] at cleared
    exact nomatch cleared

/-- The drawn part tells apart what was drawn, but for the high bits of the time. -/
theorem drawnPart_eq_iff {now now' : UInt64} {random random' : UInt32} :
    drawnPart now random = drawnPart now' random' ↔
      random = random' ∧ now.toNat % 2 ^ 31 = now'.toNat % 2 ^ 31 := by
  have := random.toNat_lt
  have := random'.toNat_lt
  rw [← UInt32.toNat_inj]
  unfold drawnPart
  omega

/-- A nonce is what was drawn, mixed with who opens the channel. -/
theorem toNat_channelNonce (now : UInt64) (random : UInt32) (address : Option Address) :
    (channelNonce now random address).toNat = drawnPart now random ^^^ openerPart address := by
  cases address with
  | none =>
    rw [openerPart, Nat.xor_zero, ← toNat_drawn_mod]
    exact toNat_and_nonceMask _
  | some a =>
    -- Mixing goes bit by bit, so that the top bit may as well be cut off of both parts before.
    have mixed : ((now <<< 32 ||| random.toUInt64) ^^^ ⟨a.lowWord⟩).toNat % 2 ^ 63 =
        drawnPart now random ^^^ openerPart (some a) := by
      rw [UInt64.toNat_xor, Nat.xor_mod_two_pow, toNat_drawn_mod, openerPart, ← toNat_lowWord]
      rfl
    rw [← mixed]
    exact toNat_and_nonceMask _

/-- What a nonce is made of: exactly the drawn part and the opener's part, as numbers without bound,
    mixed, so that nothing overflows and the top bit is left free. Therefore two draws for one
    opener collide just if they have the same random bits, at times that agree in their low 31 bits;
    and with the same time and random bits, the opener makes a difference just if one of the last
    63 bits of the address is set. -/
theorem channelNonce_mixed :
    (∀ now random address,
      (channelNonce now random address).toNat < 2 ^ 63 ∧
      (channelNonce now random address).toNat =
        (2 ^ 32 * (now.toNat % 2 ^ 31) + random.toNat) ^^^ openerPart address) ∧
    (∀ address now now' random random',
      channelNonce now random address = channelNonce now' random' address ↔
        random = random' ∧ now.toNat % 2 ^ 31 = now'.toNat % 2 ^ 31) ∧
    (∀ now random (a : Address),
      channelNonce now random (some a) ≠ channelNonce now random none ↔
        ∃ i < 63, (Bytes.toNat (a.toBytes.drop 12)).testBit i) := by
  refine ⟨fun now random address => ⟨?_, toNat_channelNonce now random address⟩,
    fun address now now' random random' => ?_, fun now random a => ?_⟩
  · rw [toNat_channelNonce]
    exact Nat.xor_lt_two_pow (drawnPart_lt now random) (openerPart_lt address)
  · rw [← UInt64.toNat_inj, toNat_channelNonce, toNat_channelNonce, Nat.xor_left_inj,
      drawnPart_eq_iff]
  · rw [Ne, ← UInt64.toNat_inj, toNat_channelNonce, toNat_channelNonce, Nat.xor_right_inj]
    exact openerPart_ne_zero_iff

end PaymentChannel
