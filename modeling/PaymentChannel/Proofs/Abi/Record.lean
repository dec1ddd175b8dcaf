import PaymentChannel.Proofs.Abi.Passes

/-!
# Records of fixed size

A record all of whose fields fill whole slots is written as these slots, one after the other. There
is a rule for each kind of field: numbers and addresses stand on the right of their slot, 32 bytes
fill it.

* `Fields vs ss`: the values `vs`, one after the other, fill the slots `ss`;
* `Encodes.record`, `Encodes.array`: what the tuple and the array of these values make up.
-/

namespace PaymentChannel

/-- Up to 32 bytes, on the right of a slot. -/
def FixedBytes.slot {n : Nat} (x : FixedBytes n) : Slot := .ofCount x.bits.toNat

/-- Slots tell byte strings of a length that fits apart. -/
theorem FixedBytes.slot_inj {n : Nat} (h : n ≤ Slot.size) {x y : FixedBytes n} :
    x.slot = y.slot ↔ x = y := by
  refine ⟨fun e => ?_, congrArg _⟩
  rw [Slot.size] at h
  have hn : 2 ^ (8 * n) ≤ 2 ^ 256 := Nat.pow_le_pow_right (by omega) (by omega)
  have hx := x.bits.isLt.trans_le hn
  have hy := y.bits.isLt.trans_le hn
  exact congrArg mk (BitVec.toNat_inj.1 ((Slot.ofCount_inj hx hy).1 e))

namespace Abi

open Bytes

open Component

/-- A static component, as slots. -/
def Component.ofSlots (ss : List Slot) : Component := ⟨false, Slot.flatten ss⟩

theorem Component.ofSlots_singleton (s : Slot) : ofSlots [s] = ⟨false, s.toBytes⟩ := by
  rw [ofSlots, Slot.flatten_cons, Slot.flatten_nil, List.append_nil]

/-- Static values that fill the given slots, one after the other. -/
inductive Fields : List Value → List Slot → Prop
  | nil : Fields [] []
  | cons {v : Value} {vs : List Value} {ss ts : List Slot} :
    Encodes v (ofSlots ss) → Fields vs ts → Fields (v :: vs) (ss ++ ts)

/-- Fields are components that are all heads. -/
theorem Fields.exists_components {vs : List Value} {ss : List Slot} (h : Fields vs ss) :
    ∃ cs, List.Forall₂ Encodes vs cs ∧ cs.any Component.isDynamic = false ∧
      ∀ distance, heads distance cs = Slot.flatten ss := by
  induction h with
  | nil => exact ⟨[], .nil, rfl, fun _ => rfl⟩
  | cons hv _ ih =>
    obtain ⟨cs, hvs, static, written⟩ := ih
    refine ⟨_ :: cs, .cons hv hvs, static, fun distance => ?_⟩
    rw [heads, written, Slot.flatten_append]
    rfl

namespace Encodes

theorem fixed (x : Bytes32) : Encodes (.fixed x) (ofSlots [x.slot]) := by
  have h := raw x.toBytes
  rw [padded_of_length x.length_toBytes] at h
  rw [ofSlots_singleton, FixedBytes.slot, Slot.toBytes_ofCount]
  exact h

theorem address (a : Address) : Encodes (.address a) (ofSlots [a.slot]) := by
  have hl : (List.replicate 12 0 ++ a.toBytes).length = Slot.size := by
    rw [List.length_append, List.length_replicate, FixedBytes.length_toBytes]
    rfl
  have spelled : List.replicate 12 0 ++ a.toBytes = Bytes.word a.bits.toNat := by
    refine eq_of_toNat_eq (by rw [hl, length_word]) ?_
    have := a.bits.isLt
    rw [toNat_replicate_append, FixedBytes.toBytes, toNat_ofNat, toNat_word,
      Nat.mod_eq_of_lt (by omega), Nat.mod_eq_of_lt (by omega)]
  have h := raw (List.replicate 12 0 ++ a.toBytes)
  rw [padded_of_length hl] at h
  rw [ofSlots_singleton, FixedBytes.slot, Slot.toBytes_ofCount, ← spelled]
  exact h

theorem word (x : BitVec 256) : Encodes (.word x) (ofSlots [x]) := by
  have h := raw (Slot.toBytes x)
  rw [padded_of_length (Slot.length_toBytes x)] at h
  rw [ofSlots_singleton]
  exact h

theorem byte (x : UInt8) : Encodes (.byte x) (ofSlots [.ofCount x.toNat]) := by
  rw [ofSlots_singleton, Slot.toBytes_ofCount]
  exact uint .w8 x.toBitVec

theorem word32 (x : UInt32) : Encodes (.word32 x) (ofSlots [.ofCount x.toNat]) := by
  rw [ofSlots_singleton, Slot.toBytes_ofCount]
  exact uint .w32 x.toBitVec

theorem word64 (x : UInt64) : Encodes (.word64 x) (ofSlots [.ofCount x.toNat]) := by
  rw [ofSlots_singleton, Slot.toBytes_ofCount]
  exact uint .w64 x.toBitVec

variable {vs : List Value} {ss : List Slot}

theorem record (h : Fields vs ss) : Encodes (.tuple vs) (ofSlots ss) := by
  obtain ⟨cs, hvs, static, written⟩ := h.exists_components
  have := tuple hvs
  rwa [static, join, written, tails_of_static static, List.append_nil] at this

theorem array (h : Fields vs ss) :
    Encodes (.array vs) ⟨true, Slot.flatten (.ofCount vs.length :: ss)⟩ := by
  obtain ⟨cs, hvs, static, written⟩ := h.exists_components
  have := seq hvs vs.length
  rwa [join, written, tails_of_static static, List.append_nil, ← Slot.toBytes_ofCount] at this

end Encodes

end Abi

end PaymentChannel
