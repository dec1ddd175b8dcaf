import PaymentChannel.Channel.State
import PaymentChannel.Proofs.Abi.Record

/-!
# Integers in slots

An integer reaches a slot in many ways: as a machine integer of any width, with or without a sign,
as a number of 256 bits, in the data of a legacy state, or as the length of what follows. Some of
them fill the slot up with zeros, some with the sign, some hand over bytes that are there already.
In all of them the slot is the two's complement of the integer, so it does not matter which one is
taken.

* `Int256.toInt_of_raw`, `Int256.ofNegative_raw`: a complement with one added is the opposite, down
  to the least number;
* `Int256.toText_eq`: what is shown is the number that is represented;
* `Carrier.writeHead_eq`: what is written for an integer, wherever it stands;
* `integers_agree`: both together, along with the lengths.
-/

namespace PaymentChannel

open Bytes

/-! ## Signed numbers of 256 bits -/

theorem toString_neg {n : Nat} (h : n ≠ 0) : toString (-(n : Int)) = "-" ++ toString n := by
  obtain ⟨k, rfl⟩ := Nat.exists_eq_succ_of_ne_zero h
  rfl

namespace Int256

/-- Numbers are told apart by what they represent. -/
theorem toInt_inj {x y : Int256} : x.toInt = y.toInt ↔ x = y := by
  rw [toInt, toInt, BitVec.toInt_inj]
  exact ⟨fun h => congrArg mk h, congrArg raw⟩

theorem isNegative_iff (x : Int256) : x.isNegative = true ↔ x.toInt < 0 := by
  rw [isNegative, toInt, BitVec.msb_eq_toInt, decide_eq_true_iff]

/-- The complement with one added is the opposite. -/
theorem complement_add_one (x : BitVec 256) : ~~~x + 1 = -x := (BitVec.neg_eq_not_add x).symm

theorem ofPositive_raw (magnitude : UInt256) :
    (ofPositive magnitude).raw = BitVec.ofInt 256 magnitude.toNat := by
  rw [ofPositive, BitVec.ofInt_natCast, BitVec.ofNat_toNat, BitVec.setWidth_eq]

theorem ofNegative_raw (magnitude : UInt256) :
    (ofNegative magnitude).raw = BitVec.ofInt 256 (-magnitude.toNat) := by
  rw [ofNegative, complement_add_one, BitVec.ofInt_neg, BitVec.ofInt_natCast, BitVec.ofNat_toNat,
    BitVec.setWidth_eq]

theorem ofInt_raw (x : Int) : (ofInt x).raw = BitVec.ofInt 256 x := by
  unfold ofInt
  by_cases negative : x < 0
  · simp only [if_pos negative]
    rw [ofNegative, complement_add_one, ← BitVec.ofInt_natCast, ← BitVec.ofInt_neg,
      Int.ofNat_natAbs_of_nonpos negative.le, neg_neg]
  · simp only [if_neg negative]
    rw [ofPositive, ← BitVec.ofInt_natCast, Int.natAbs_of_nonneg (not_lt.1 negative)]

/-- A two's complement represents the integer that it was made of, if that is in range. -/
theorem toInt_of_raw {x : Int256} {i : Int} (h : x.raw = BitVec.ofInt 256 i) (lower : -2 ^ 255 ≤ i)
    (upper : i < 2 ^ 255) : x.toInt = i := by
  rw [toInt, h]
  exact BitVec.toInt_ofInt_eq_self (by decide) lower upper

theorem toBytes_eq (x : Int256) : x.toBytes = signedWord x.toInt := by
  rw [toBytes, ← Slot.toBytes_ofInt, toInt, BitVec.ofInt_toInt]

/-- What is shown is the number that is represented. The magnitude of the least number is shown
    too, although it is no number itself. -/
theorem toText_eq (x : Int256) : x.toText = toString x.toInt := by
  unfold toText
  by_cases negative : x.isNegative = true
  · have opposite : x.toInt = -((~~~x.raw + 1).toNat : Int) := by
      rw [complement_add_one]
      exact BitVec.toInt_eq_neg_toNat_neg_of_msb_true negative
    have nonzero : (~~~x.raw + 1).toNat ≠ 0 := by
      have := (isNegative_iff x).1 negative
      omega
    rw [if_pos negative, opposite, toString_neg nonzero]
    rfl
  · have same : x.toInt = (x.raw.toNat : Int) :=
      BitVec.toInt_eq_toNat_of_msb (Bool.eq_false_iff.2 negative)
    rw [if_neg negative, same]
    rfl

end Int256

/-! ## Slots of integers -/

/-- The data that mark a state are a number in a slot. -/
theorem markerData_eq (marker : UInt64) : markerData marker = word marker.toNat := by
  refine eq_of_toNat_eq (by simp [markerData, Slot.size]) ?_
  have := marker.toNat_lt
  rw [markerData, toNat_replicate_append, toNat_ofNat, toNat_word,
    Nat.mod_eq_of_lt (by omega), Nat.mod_eq_of_lt (by omega)]

theorem slots_word (n : Nat) : (word n).slots = [BitVec.ofNat 256 n] := by
  refine Slot.flatten_inj.1 ?_
  rw [Slot.flatten_slots, padded_of_length (length_word n), Slot.flatten_cons, Slot.flatten_nil,
    List.append_nil]
  exact (Slot.toBytes_ofCount n).symm

namespace Abi

/-- What an integer can be handed over as, in a slot of its own. -/
inductive Carrier where
  /-- A machine integer without a sign. -/
  | unsigned (w : Width) (x : BitVec w.bits)
  /-- A machine integer with a sign. -/
  | signed (w : Width) (x : BitVec w.bits)
  | amount (x : UInt256)
  | flow (x : Int256)
  /-- The data of a legacy state that no application is attached to. -/
  | marker (x : UInt64)

namespace Carrier

/-- The integer. -/
def value : Carrier → Int
  | unsigned _ x => x.toNat
  | signed _ x => x.toInt
  | amount x => x.toNat
  | flow x => x.toInt
  | marker x => x.toNat

/-- What is handed to the encoding. -/
def toValue : Carrier → Value
  | unsigned w x => .uint w x
  | signed w x => .int w x
  | amount x => .word x
  | flow x => .word x.raw
  | marker x => .raw (markerData x)

theorem emitAll_singleton (s : Slot) : emitAll [s] = emit s := by
  rw [emitAll, emitAll]
  exact bind_pure_unit

theorem slots_toBytes (s : Slot) : (Slot.toBytes s).slots = [s] := by
  rw [Slot.toBytes_eq_word, slots_word, BitVec.ofNat_toNat, BitVec.setWidth_eq]

/-- Wherever an integer stands, its two's complement is written. -/
theorem writeHead_eq (k : Carrier) (offset : Nat) :
    writeHead offset k.toValue = emit (BitVec.ofInt 256 k.value) := by
  cases k with
  | unsigned w x =>
    rw [toValue, writeHead, unsignedSlot_eq, value, BitVec.ofInt_natCast, BitVec.ofNat_toNat]
  | signed w x =>
    rw [toValue, writeHead, signedSlot_eq]
    rfl
  | amount x =>
    rw [toValue, Value.word, writeHead, slots_toBytes, emitAll_singleton, value,
      BitVec.ofInt_natCast, BitVec.ofNat_toNat, BitVec.setWidth_eq]
  | flow x =>
    rw [toValue, Value.word, writeHead, slots_toBytes, emitAll_singleton, value, Int256.toInt,
      BitVec.ofInt_toInt]
  | marker x =>
    rw [toValue, writeHead, markerData_eq, slots_word, emitAll_singleton, value,
      BitVec.ofInt_natCast]

theorem layout_eq (k : Carrier) : layout k.toValue = .ok .slot := by
  cases k with
  | unsigned | signed => rfl
  | amount x =>
    rw [toValue, Value.word, layout, Slot.length_toBytes]
    rfl
  | flow x =>
    rw [toValue, Value.word, layout, Slot.length_toBytes]
    rfl
  | marker x =>
    rw [toValue, layout, markerData_eq, length_word]
    rfl

/-- An integer on its own is one slot, whether as an argument or not. -/
theorem slots_write (k : Carrier) (withOffset : Bool) :
    Emit.slots (write withOffset k.toValue) = .ok [BitVec.ofInt 256 k.value] := by
  rw [write, bind_measure k.layout_eq, k.writeHead_eq]
  rfl

theorem encoding_eq (k : Carrier) : encoding k.toValue = .ok [BitVec.ofInt 256 k.value] :=
  k.slots_write true

/-- Two integers are in the same slot just if they differ by a multiple of 2²⁵⁶. -/
theorem ofInt_eq_ofInt_iff {i j : Int} :
    BitVec.ofInt 256 i = BitVec.ofInt 256 j ↔ i % 2 ^ 256 = j % 2 ^ 256 := by
  rw [← BitVec.toNat_inj, BitVec.toNat_ofInt, BitVec.toNat_ofInt]
  have hi := Int.emod_nonneg i (show (2 ^ 256 : Int) ≠ 0 by decide)
  have hj := Int.emod_nonneg j (show (2 ^ 256 : Int) ≠ 0 by decide)
  push_cast
  omega

end Carrier

/-! ## Slots of lengths -/

/-- The length that a sequence announces. -/
theorem writeHead_seq (offset announced : Nat) (elements : List Value) :
    writeHead offset (.seq (some announced) elements) = (do
      emit (BitVec.ofInt 256 announced)
      writeHeads true offset elements) := by
  rw [writeHead, countSlot_eq, BitVec.ofInt_natCast]
  rfl

/-- The length of a text. -/
theorem writeTail_text (s : String) :
    writeTail (.text s) = (do
      emit (BitVec.ofInt 256 (ofText s).length)
      emitAll (ofText s).slots) := by
  rw [writeTail, countSlot_eq, BitVec.ofInt_natCast]
  rfl

/-- The length of a byte string. It passes through a number of 64 bits. -/
theorem writeHead_bytes (offset : Nat) {bs : Bytes} (h : bs.length < 2 ^ 64) :
    writeHead offset (.bytes bs) = (do
      emit (BitVec.ofInt 256 bs.length)
      emitAll bs.slots) := by
  have marker : layout .marker = .ok ⟨0, false, true⟩ := rfl
  have count : layout (.uint .w64 (BitVec.ofNat 64 bs.length)) = .ok .slot := rfl
  have data : layout (.raw bs) = .ok ⟨paddedLength bs.length, false, false⟩ := rfl
  have widened : (BitVec.ofNat 64 bs.length).setWidth 256 = BitVec.ofInt 256 bs.length := by
    rw [BitVec.ofInt_natCast]
    refine BitVec.eq_of_toNat_eq ?_
    rw [BitVec.toNat_setWidth, BitVec.toNat_ofNat, BitVec.toNat_ofNat, Nat.mod_eq_of_lt h]
  have length : unsignedSlot .w64 (BitVec.ofNat 64 bs.length) = BitVec.ofInt 256 bs.length :=
    (unsignedSlot_eq .w64 _).trans widened
  rw [Value.bytes, writeHead, writeHeads, bind_measure marker, writeHeads, bind_measure count,
    writeHeads, bind_measure data, writeHeads, ← length]
  -- None of the three parts is indirect, and nothing is written for the marker.
  change (do
    pure ()
    emit (unsignedSlot .w64 (BitVec.ofNat 64 bs.length))
    emitAll bs.slots
    pure ()) = _
  simp

/-- All integers are written as their two's complement, big-endian, whatever they are handed over
    as, and so are the lengths of sequences, texts and byte strings. Two integers give the same slot
    just if they differ by a multiple of 2²⁵⁶, so the same one always does. Signed numbers of 256
    bits represent what they are made of: any integer in their range, a positive magnitude, or the
    opposite of a magnitude, down to -2²⁵⁵. They are negative, shown and told apart accordingly. -/
theorem integers_agree :
    (∀ (k : Carrier) offset, writeHead offset k.toValue = emit (BitVec.ofInt 256 k.value)) ∧
    (∀ k : Carrier, encoding k.toValue = .ok [BitVec.ofInt 256 k.value] ∧
      argumentEncoding k.toValue = .ok [BitVec.ofInt 256 k.value]) ∧
    (∀ k k' : Carrier, encoding k.toValue = encoding k'.toValue ↔
      k.value % 2 ^ 256 = k'.value % 2 ^ 256) ∧
    (∀ offset (announced : Nat) elements, writeHead offset (.seq (some announced) elements) = (do
      emit (BitVec.ofInt 256 announced)
      writeHeads true offset elements)) ∧
    (∀ s, writeTail (.text s) = (do
      emit (BitVec.ofInt 256 (ofText s).length)
      emitAll (ofText s).slots)) ∧
    (∀ offset (bs : Bytes), bs.length < 2 ^ 64 → writeHead offset (.bytes bs) = (do
      emit (BitVec.ofInt 256 bs.length)
      emitAll bs.slots)) ∧
    (∀ i : Int, Slot.toBytes (BitVec.ofInt 256 i) = ofNat 32 (i % 2 ^ 256).toNat) ∧
    (∀ i : Int, -2 ^ 255 ≤ i → i < 2 ^ 255 → (Int256.ofInt i).toInt = i) ∧
    (∀ m : UInt256, m.toNat < 2 ^ 255 → (Int256.ofPositive m).toInt = m.toNat) ∧
    (∀ m : UInt256, m.toNat ≤ 2 ^ 255 → (Int256.ofNegative m).toInt = -m.toNat) ∧
    (∀ x : Int256, (x.isNegative = true ↔ x.toInt < 0) ∧ x.toText = toString x.toInt ∧
      x.toBytes = ofNat 32 (x.toInt % 2 ^ 256).toNat) ∧
    ∀ x y : Int256, x.toInt = y.toInt ↔ x = y := by
  refine ⟨Carrier.writeHead_eq, fun k => ⟨k.encoding_eq, k.slots_write false⟩,
    fun k k' => ?_, writeHead_seq, writeTail_text, fun offset bs h => writeHead_bytes offset h,
    Slot.toBytes_ofInt, fun i => Int256.toInt_of_raw (Int256.ofInt_raw i), fun m h => ?_,
    fun m h => ?_, fun x => ⟨x.isNegative_iff, x.toText_eq, x.toBytes_eq⟩,
    fun x y => Int256.toInt_inj⟩
  · -- Either side is about one slot, and slots are integers up to multiples of 2²⁵⁶.
    rw [k.encoding_eq, k'.encoding_eq, Except.ok.injEq, List.singleton_inj,
      Carrier.ofInt_eq_ofInt_iff]
  · exact Int256.toInt_of_raw (Int256.ofPositive_raw m) (by omega) (by omega)
  · exact Int256.toInt_of_raw (Int256.ofNegative_raw m) (by omega) (by omega)

/-- The numbers at the ends of the range, the least machine integer, and a byte string. -/
theorem integers_agree_extremes :
    let least := Int256.ofNegative (1 <<< 255)
    let greatest := Int256.ofPositive ((1 <<< 255) - 1)
    ((1 <<< 255 : UInt256).toNat ≤ 2 ^ 255 ∧ least.toInt = -2 ^ 255 ∧ least.isNegative = true) ∧
    (((1 <<< 255) - 1 : UInt256).toNat < 2 ^ 255 ∧ greatest.toInt = 2 ^ 255 - 1 ∧
      greatest.toText = toString (2 ^ 255 - 1 : Int)) ∧
    (((-2 ^ 255 : Int) ≤ -2 ^ 127 ∧ (-2 ^ 127 : Int) < 2 ^ 255) ∧
      (Int256.ofInt (-2 ^ 127)).toInt = -2 ^ 127) ∧
    List.length [(7 : UInt8)] < 2 ^ 64 ∧ writeHead 0 (.bytes [7]) = (do
      emit (BitVec.ofInt 256 1)
      emitAll (Bytes.slots [7])) := by
  intro least greatest
  obtain ⟨-, -, -, -, -, bytes, -, ofInt, ofPositive, ofNegative, represents, -⟩ := integers_agree
  have hleast : (1 <<< 255 : UInt256).toNat ≤ 2 ^ 255 := by decide
  have hgreatest : ((1 <<< 255) - 1 : UInt256).toNat < 2 ^ 255 := by decide
  have hrange : (-2 ^ 255 : Int) ≤ -2 ^ 127 ∧ (-2 ^ 127 : Int) < 2 ^ 255 := by decide
  have least_eq : least.toInt = -2 ^ 255 := ofNegative _ hleast
  have greatest_eq : greatest.toInt = 2 ^ 255 - 1 := ofPositive _ hgreatest
  refine ⟨⟨hleast, least_eq, (represents least).1.2 (by rw [least_eq]; decide)⟩,
    ⟨hgreatest, greatest_eq, ?_⟩, ⟨hrange, ofInt _ hrange.1 hrange.2⟩, by decide,
    bytes 0 [7] (by decide)⟩
  rw [(represents greatest).2.1, greatest_eq]

end Abi

end PaymentChannel
