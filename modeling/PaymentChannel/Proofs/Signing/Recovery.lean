import PaymentChannel.Bytes.Lemmas
import PaymentChannel.Signing.Signer

/-!
# Signatures lead back to their signers

A signer puts a signature into 65 bytes, and whoever checks it takes it apart again and recovers an
address. That the one undoes the other depends on the curve in two ways, which are assumptions here:

* `Scheme.Strict`: no key is recovered from a signature with `s` in the upper half of its range;
* `SecretKey.Signs`: signing gives a signature with a low `s`, from which the public key of the
  signer is recovered.

Of the scheme of the accounts the first is shown (`Ecdsa.strict_secp256k1`), and so are the ranges
that the second asks for (`Ecdsa.inRange_of_sign`).
-/

namespace PaymentChannel

open Secp256k1 (groupOrder)

/-! ## Bytes of scalars -/

namespace Bytes

theorem toNat_ofNat_of_lt {n x : Nat} (h : x < 256 ^ n) : toNat (ofNat n x) = x := by
  rw [toNat_ofNat, Nat.mod_eq_of_lt h]

/-- The first byte of a number, and those behind it. -/
theorem ofNat_succ (n x : Nat) : ofNat (n + 1) x = UInt8.ofNat (x / 256 ^ n) :: ofNat n x := by
  induction n generalizing x with
  | zero => simp [ofNat]
  | succ n ih =>
    rw [ofNat, ih, ofNat, Nat.div_div_eq_div_mul, ← Nat.pow_succ', List.cons_append]

/-- The top bit of a number that does without it. -/
theorem top_bit_eq_zero {n x : Nat} (h : x < 128 * 256 ^ n) :
    (ofNat (n + 1) x).getD 0 0 &&& 0x80 = 0 := by
  have hlt : x / 256 ^ n < 2 ^ 7 := Nat.div_lt_of_lt_mul (by rwa [Nat.mul_comm])
  have hbyte : (UInt8.ofNat (x / 256 ^ n)).toNat = x / 256 ^ n := by
    rw [UInt8.toNat_ofNat', Nat.mod_eq_of_lt (by omega)]
  rw [ofNat_succ, List.getD_cons_zero, ← UInt8.toNat_inj, UInt8.toNat_and, hbyte]
  exact (Nat.and_two_pow _ 7).trans (by rw [Nat.testBit_lt_two_pow hlt]; rfl)

end Bytes

/-! ## Framing -/

namespace RecoverableSignature

/-- The two scalars, 32 bytes each, and a last byte. -/
def framed (parts : RecoverableSignature) (last : UInt8) : Signature :=
  ⟨Bytes.ofNat 32 parts.r ++ Bytes.ofNat 32 parts.s ++ [last]⟩

/-- The same with the opposite of `s`, which the same key could have made of the same hash. -/
def opposite (order : Nat) (parts : RecoverableSignature) : RecoverableSignature :=
  { parts with s := order - parts.s }

/-- The scalars are between zero and the order, and there are four recovery ids. -/
structure InRange (order : Nat) (parts : RecoverableSignature) : Prop where
  r_pos : 0 < parts.r
  r_lt : parts.r < order
  s_pos : 0 < parts.s
  s_lt : parts.s < order
  recoveryId_lt : parts.recoveryId < 4

end RecoverableSignature

/-- The signature with its last byte lowered by what recovery ids are raised by. -/
def Signature.lowered (signature : Signature) : Signature :=
  ⟨signature.bytes.modify 64 (· - recoveryOffset)⟩

namespace RecoverableSignature

variable {parts : RecoverableSignature}

@[simp] theorem length_framed (parts : RecoverableSignature) (last : UInt8) :
    (parts.framed last).bytes.length = 65 := by
  simp [framed]

theorem lowered_toSignature (parts : RecoverableSignature) :
    parts.toSignature.lowered = parts.framed (UInt8.ofNat parts.recoveryId) := by
  have length : (Bytes.ofNat 32 parts.r ++ Bytes.ofNat 32 parts.s).length = 64 := by simp
  rw [Signature.lowered, toSignature, framed, ← length,
    List.modify_eq_take_cons_drop (by simp), List.take_left, List.drop_eq_nil_of_le (by simp)]
  simp [length]

/-- What is framed is taken apart into the same scalars, with a recovery id from the last byte. -/
theorem toRecoverable_framed (h : parts.InRange groupOrder) (last : UInt8) :
    (parts.framed last).toRecoverable groupOrder =
      match recoveryIdOf last with
      | some recoveryId => .ok { parts with recoveryId }
      | none => .error (.malformedSignature "invalid v") := by
  obtain ⟨r_pos, r_lt, s_pos, s_lt, -⟩ := h
  have last_eq : (parts.framed last).bytes.getD 64 0 = last := by simp [framed]
  have r_eq : Bytes.toNat ((parts.framed last).bytes.take 32) = parts.r := by
    rw [framed, List.append_assoc, List.take_left' (Bytes.length_ofNat 32 _),
      Bytes.toNat_ofNat_of_lt (r_lt.trans (by decide))]
  have s_eq : Bytes.toNat (((parts.framed last).bytes.drop 32).take 32) = parts.s := by
    rw [framed, List.append_assoc, List.drop_left' (Bytes.length_ofNat 32 _),
      List.take_left' (Bytes.length_ofNat 32 _), Bytes.toNat_ofNat_of_lt (s_lt.trans (by decide))]
  -- The scalars are in range, so that only the last byte can be refused.
  have inRange : ¬(parts.r = 0 ∨ groupOrder ≤ parts.r ∨ parts.s = 0 ∨ groupOrder ≤ parts.s) := by
    omega
  rw [Signature.toRecoverable, if_neg (not_not.mpr (length_framed parts last)), last_eq, r_eq, s_eq]
  cases recoveryIdOf last with
  | none => rfl
  | some recoveryId =>
    simp only [if_neg inRange]
    rfl

/-- The first byte of `s` follows the 32 bytes of `r`. -/
theorem top_bit_of_s (parts : RecoverableSignature) (h : parts.s < 2 ^ 255) (last : UInt8) :
    (parts.framed last).bytes.getD 32 0 &&& 0x80 = 0 := by
  have first : (parts.framed last).bytes.getD 32 0 = (Bytes.ofNat 32 parts.s).getD 0 0 := by
    rw [framed, List.append_assoc, List.getD_append_right _ _ _ _ (by simp), Bytes.length_ofNat,
      List.getD_append _ _ _ _ (by simp)]
  rw [first]
  exact Bytes.top_bit_eq_zero (n := 31) (by omega)

end RecoverableSignature

/-! ## Last bytes -/

/-- Recovery ids are taken as they are, and two of them also when raised. -/
theorem recoveryIdOf_eq_none_iff (last : UInt8) :
    recoveryIdOf last = none ↔ ¬(last ≤ 3 ∨ last = 27 ∨ last = 28) := by
  by_cases raised : last = 27 ∨ last = 28
  · obtain rfl | rfl := raised <;> decide
  · have le_three : last < 4 ↔ last ≤ 3 := by
      rw [UInt8.lt_iff_toNat_lt, UInt8.le_iff_toNat_le]
      exact Nat.lt_succ_iff
    simp [recoveryIdOf, raised, le_three]

theorem recoveryIdOf_raised {n : Nat} (h : n ≤ 1) :
    recoveryIdOf (recoveryOffset + UInt8.ofNat n) = some n := by
  obtain rfl | rfl := Nat.le_one_iff_eq_zero_or_eq_one.mp h <;> rfl

theorem recoveryIdOf_plain {n : Nat} (h : n < 4) : recoveryIdOf (UInt8.ofNat n) = some n := by
  interval_cases n <;> rfl

/-! ## Checking -/

/-- Nobody has made the signature over the hash. -/
def Rejected (scheme : Scheme) (hash : Hash) (signature : Signature) : Prop :=
  (∃ reason, recoverSigner scheme hash signature = .error (.malformedSignature reason)) ∧
    ∀ expected, verifySignature scheme hash signature expected = false

/-- The account has made the signature over the hash, and no other account has. -/
def SignedBy (scheme : Scheme) (hash : Hash) (signature : Signature) (signer : Address) : Prop :=
  recoverSigner scheme hash signature = .ok signer ∧
    ∀ expected, verifySignature scheme hash signature expected = true ↔ expected = signer

section Checking

variable {scheme : Scheme} {hash : Hash} {signature : Signature} {reason : String}

theorem rejected_of_recoverSigner
    (h : recoverSigner scheme hash signature = .error (.malformedSignature reason)) :
    Rejected scheme hash signature :=
  ⟨⟨reason, h⟩, fun expected => by rw [verifySignature, h]⟩

theorem rejected_of_toRecoverable
    (h : signature.toRecoverable scheme.order = .error (.malformedSignature reason)) :
    Rejected scheme hash signature :=
  rejected_of_recoverSigner (by rw [recoverSigner, h]; rfl)

theorem signedBy_of_recoverSigner {signer : Address}
    (h : recoverSigner scheme hash signature = .ok signer) :
    SignedBy scheme hash signature signer :=
  ⟨h, fun expected => by rw [verifySignature, h, beq_iff_eq, eq_comm]⟩

theorem rejected_of_length (h : signature.bytes.length ≠ 65) : Rejected scheme hash signature :=
  rejected_of_toRecoverable (by rw [Signature.toRecoverable, if_pos h]; rfl)

/-- No signature ends in a byte that no recovery id is read from. -/
theorem rejected_of_last {bs : Bytes} {last : UInt8} (h : ¬(last ≤ 3 ∨ last = 27 ∨ last = 28)) :
    Rejected scheme hash ⟨bs ++ [last]⟩ := by
  by_cases length : (bs ++ [last]).length = 65
  · have last_eq : (bs ++ [last]).getD 64 0 = last := by
      have : bs.length = 64 := by simpa using length
      simp [← this]
    have invalid : Signature.toRecoverable scheme.order ⟨bs ++ [last]⟩ =
        .error (.malformedSignature "invalid v") := by
      rw [Signature.toRecoverable, if_neg (not_not.mpr length), last_eq,
        (recoveryIdOf_eq_none_iff last).mpr h]
      rfl
    exact rejected_of_toRecoverable invalid
  · exact rejected_of_length length

end Checking

/-! ## What is assumed of a curve -/

/-- The order is the one of the accounts, and a high `s` gives no key. -/
structure Scheme.Strict (scheme : Scheme) : Prop where
  order_eq : scheme.order = groupOrder
  recover_high : ∀ hash parts, scheme.order / 2 < parts.s → scheme.recover hash parts = none

/-- The key signs the hash with a low `s`, and its public key is recovered from the signature. -/
structure SecretKey.Signs {scheme : Scheme} (key : SecretKey scheme) (hash : Hash)
    (parts : RecoverableSignature) : Prop where
  sign_eq : scheme.sign key.value hash = some parts
  inRange : parts.InRange scheme.order
  s_low : parts.s ≤ scheme.order / 2
  recover_eq : ∃ owner, scheme.publicKey key.value = some owner ∧
    scheme.recover hash parts = some owner

section Curve

variable {scheme : Scheme} {hash : Hash} {parts : RecoverableSignature}

/-- A framed signature is rejected if no key is recovered from its scalars, whatever byte it ends
    in. -/
theorem rejected_framed (order_eq : scheme.order = groupOrder) (range : parts.InRange groupOrder)
    (last : UInt8) (h : ∀ recoveryId, scheme.recover hash { parts with recoveryId } = none) :
    Rejected scheme hash (parts.framed last) := by
  have framed_eq := parts.toRecoverable_framed range last
  rw [← order_eq] at framed_eq
  rcases hid : recoveryIdOf last with _ | recoveryId
  · rw [hid] at framed_eq
    exact rejected_of_toRecoverable framed_eq
  · have unrecoverable : recoverSigner scheme hash (parts.framed last) =
        .error (.malformedSignature "no key recoverable") := by
      rw [recoverSigner, framed_eq, hid]
      simp only [bind, Except.bind, h recoveryId]
      rfl
    exact rejected_of_recoverSigner unrecoverable

/-- The opposite of a low `s` is high, so no key is recovered from it. -/
theorem rejected_opposite (strict : scheme.Strict) (range : parts.InRange scheme.order)
    (s_low : parts.s ≤ scheme.order / 2) (last : UInt8) :
    Rejected scheme hash ((parts.opposite scheme.order).framed last) := by
  have order_eq := strict.order_eq
  -- The order is odd, so the two halves of the range do not meet.
  have high : scheme.order / 2 < scheme.order - parts.s := by
    rw [order_eq, groupOrder] at s_low ⊢
    omega
  obtain ⟨r_pos, r_lt, s_pos, s_lt, recoveryId_lt⟩ := range
  have opposite_range : (parts.opposite scheme.order).InRange scheme.order :=
    ⟨r_pos, r_lt, Nat.sub_pos_of_lt s_lt, Nat.sub_lt (by omega) s_pos, recoveryId_lt⟩
  exact rejected_framed order_eq (order_eq ▸ opposite_range) last fun recoveryId =>
    strict.recover_high hash _ high

/-- The key is recovered from its signature, with any last byte that stands for the recovery id. -/
theorem SecretKey.Signs.signedBy {key : SecretKey scheme} (h : key.Signs hash parts)
    (order_eq : scheme.order = groupOrder) {last : UInt8}
    (hlast : recoveryIdOf last = some parts.recoveryId) :
    SignedBy scheme hash (parts.framed last) key.address := by
  obtain ⟨owner, publicKey_eq, recover_eq⟩ := h.recover_eq
  refine signedBy_of_recoverSigner ?_
  rw [recoverSigner, order_eq, parts.toRecoverable_framed (order_eq ▸ h.inRange), hlast,
    SecretKey.address, publicKey_eq]
  simp only [bind, Except.bind, recover_eq]
  rfl

end Curve

/-! ## The scheme of the accounts -/

namespace Ecdsa

open Secp256k1

theorem strict_secp256k1 : secp256k1.Strict where
  order_eq := rfl
  recover_high hash parts high := by
    have isHigh : isHigh parts.s = true := decide_eq_true high
    change recover hash parts = none
    simp [recover, isHigh]

/-- Of a scalar and its opposite, the one that is kept is low. -/
theorem low_of_isHigh {s : Scalar} (h : s.val ≠ 0) :
    0 < (if isHigh s.val then (-s).val else s.val) ∧
      (if isHigh s.val then (-s).val else s.val) ≤ groupOrder / 2 := by
  by_cases high : groupOrder / 2 < s.val
  · have opposite : (-s).val = groupOrder - s.val := by
      rw [Fin.val_neg', Nat.mod_eq_of_lt (Nat.sub_lt (by decide) (Nat.pos_of_ne_zero h))]
    rw [isHigh, if_pos (decide_eq_true high), opposite]
    have lt := s.isLt
    unfold groupOrder at high lt ⊢
    omega
  · rw [isHigh, if_neg (by simpa using high)]
    exact ⟨Nat.pos_of_ne_zero h, not_lt.mp high⟩

theorem inRange_of_signWith {k secret : Nat} {hash : Hash} {parts : RecoverableSignature}
    (h : signWith k secret hash = some parts) :
    parts.InRange groupOrder ∧ parts.s ≤ groupOrder / 2 := by
  simp only [signWith, Option.bind_eq_bind, Option.bind_eq_some_iff] at h
  obtain ⟨point, -, h⟩ := h
  -- How the scalars come about does not matter.
  generalize Scalar.inverse (.ofNat k) * _ = s at h
  generalize Scalar.ofNat point.x.val = r at h
  split at h
  · exact nomatch h
  next nonzero =>
    rw [not_or] at nonzero
    obtain rfl := Option.some.inj h
    obtain ⟨s_pos, s_low⟩ := low_of_isHigh nonzero.2
    refine ⟨⟨Nat.pos_of_ne_zero nonzero.1, r.isLt, s_pos, s_low.trans_lt (by decide), ?_⟩, s_low⟩
    -- One bit for the second coordinate, one for the first.
    refine Nat.add_lt_add_of_le_of_lt (Bool.toNat_le _) (show _ < 3 from ?_)
    split <;> decide

/-- What the scheme signs is in range, with a low `s`. -/
theorem inRange_of_sign {secret : Nat} {hash : Hash} {parts : RecoverableSignature}
    (h : sign secret hash = some parts) :
    parts.InRange groupOrder ∧ parts.s ≤ groupOrder / 2 := by
  obtain ⟨k, -, h⟩ := Option.bind_eq_some_iff.mp h
  exact inRange_of_signWith h

/-- For the scheme it is enough that the public key is recovered from what is signed. -/
theorem signs_of_recover {key : SecretKey secp256k1} {hash : Hash} {parts : RecoverableSignature}
    {owner : PublicKey} (sign_eq : sign key.value hash = some parts)
    (publicKey_eq : publicKey key.value = some owner)
    (recover_eq : recover hash parts = some owner) : key.Signs hash parts where
  sign_eq := sign_eq
  inRange := (inRange_of_sign sign_eq).1
  s_low := (inRange_of_sign sign_eq).2
  recover_eq := ⟨owner, publicKey_eq, recover_eq⟩

end Ecdsa

/-! ## From the signer to the check -/

/-- What a key signs is `r`, `s` and the raised recovery id in 65 bytes, with the top bit of `s`
    unset. The account of the key is recovered from it, as long as the recovery id is 0 or 1, and no
    other is accepted; likewise from the recovery id as it is. The opposite signature is accepted
    for no account, and neither is anything of another length or with another last byte. -/
theorem signHash_recoverable {scheme : Scheme} {hash : Hash} {parts : RecoverableSignature}
    (strict : scheme.Strict) {key : SecretKey scheme} (signs : key.Signs hash parts) :
    (∃ signature, signHash key hash = .ok signature ∧
      signature.bytes =
        Bytes.ofNat 32 parts.r ++ Bytes.ofNat 32 parts.s ++ [27 + UInt8.ofNat parts.recoveryId] ∧
      signature.bytes.length = 65 ∧ signature.bytes.getD 32 0 &&& 0x80 = 0 ∧
      (parts.recoveryId ≤ 1 → SignedBy scheme hash signature key.address) ∧
      SignedBy scheme hash signature.lowered key.address) ∧
    (∀ last, Rejected scheme hash ((parts.opposite scheme.order).framed last)) ∧
    (∀ (any : Hash) (signature : Signature), signature.bytes.length ≠ 65 →
      Rejected scheme any signature) ∧
    ∀ (any : Hash) (bs : Bytes) (last : UInt8), ¬(last ≤ 3 ∨ last = 27 ∨ last = 28) →
      Rejected scheme any ⟨bs ++ [last]⟩ := by
  have order_eq := strict.order_eq
  refine ⟨⟨parts.toSignature, ?_, rfl, parts.length_framed _, ?_, ?_, ?_⟩,
    rejected_opposite strict signs.inRange signs.s_low, fun _ _ => rejected_of_length,
    fun _ _ _ => rejected_of_last⟩
  · rw [signHash, signs.sign_eq]
    rfl
  · exact parts.top_bit_of_s (signs.s_low.trans_lt (by rw [order_eq]; decide)) _
  · intro recoveryId_le
    exact signs.signedBy order_eq (recoveryIdOf_raised recoveryId_le)
  · rw [parts.lowered_toSignature]
    exact signs.signedBy order_eq (recoveryIdOf_plain signs.inRange.recoveryId_lt)

/-- A hash signed with one and the same key, in either form. -/
theorem signHash_recoverable_five :
    ∃ (key : SecretKey Ecdsa.secp256k1) (parts : RecoverableSignature),
      key.value = 5 ∧ parts.recoveryId = 1 ∧ key.Signs ⟨7⟩ parts ∧
      (∀ form, ∃ signature, (Signer.keyed form key).sign ⟨7⟩ = .ok signature ∧
        SignedBy Ecdsa.secp256k1 ⟨7⟩ signature (Signer.keyed form key).address ∧
        SignedBy Ecdsa.secp256k1 ⟨7⟩ signature.lowered (Signer.keyed form key).address) ∧
      ∀ last, Rejected Ecdsa.secp256k1 ⟨7⟩ ((parts.opposite groupOrder).framed last) := by
  let key : SecretKey Ecdsa.secp256k1 := ⟨5, by decide, by decide⟩
  let parts : RecoverableSignature :=
    { r := 72077738992597470302699873537059855026159807700523983386648489104296261478069
      s := 24601321983086497256720140698905001945308640546417009763549506872627259986137
      recoveryId := 1 }
  let owner : PublicKey :=
    { x := 21505829891763648114329055987619236494102133314575206970830385799158076338148
      y := 98003708678762621233683240503080860129026887322874138805529884920309963580118 }
  have publicKey_eq : Ecdsa.publicKey 5 = some owner := by decide +kernel
  have signs : key.Signs ⟨7⟩ parts :=
    Ecdsa.signs_of_recover (by decide +kernel) publicKey_eq (by decide +kernel)
  obtain ⟨⟨signature, sign_eq, -, -, -, signedBy, lowered⟩, opposite, -⟩ :=
    signHash_recoverable Ecdsa.strict_secp256k1 signs
  exact ⟨key, parts, rfl, rfl, signs,
    fun _ => ⟨signature, sign_eq, signedBy (by decide), lowered⟩, opposite⟩

end PaymentChannel
