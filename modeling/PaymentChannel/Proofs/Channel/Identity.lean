import PaymentChannel.Proofs.Channel.Preimage

/-!
# What a channel id identifies

The bytes that a channel id is the hash of determine the definition of the channel, and the chain
unless the channel is a legacy one:

* `LedgerChannel.slots_inj`, `LegacyChannel.slots_inj`: within a protocol, the slots tell the fields
  apart;
* `Definition.slots_legacy_ne_v1`: the protocols fill different numbers of slots;
* `idPreimage_eq_iff`: so two ids are the same only for the same channel, or by a collision of the
  hash.
-/

namespace PaymentChannel

open Abi Bytes

namespace Slot

/-- A slot tells numbers of 32 bits apart. -/
theorem ofCount_word32_inj {x y : UInt32} : ofCount x.toNat = ofCount y.toNat ↔ x = y := by
  rw [ofCount_inj (x.toNat_lt.trans (by decide)) (y.toNat_lt.trans (by decide)), UInt32.toNat_inj]

end Slot

namespace Definition

/-- Whether definitions on chains name the same channel: they are the same, and so is the chain
    unless they are legacy ones. -/
def SameChannel (d : Definition) (j : UInt64) (e : Definition) (k : UInt64) : Prop :=
  d = e ∧ (d.protocol = .v1 → j = k)

/-- The definition with its parties in each other's place. -/
def swapped : Definition → Definition
  | legacy c => legacy { c with participants := c.participants.swap }
  | v1 c => v1 { c with user := c.node, node := c.user }

theorem protocol_swapped (d : Definition) : d.swapped.protocol = d.protocol := by
  cases d <;> rfl

/-- A swap goes unnoticed only if the parties are one and the same. -/
theorem swapped_eq_iff (d : Definition) : d.swapped = d ↔ d.user = d.swapped.user := by
  cases d with
  | legacy c =>
    obtain ⟨⟨first, second⟩, _, _, _⟩ := c
    simp [swapped, user, eq_comm]
  | v1 c =>
    obtain ⟨_, user, node, _, _⟩ := c
    simp [swapped, Definition.user, eq_comm]

end Definition

theorem LedgerChannel.slots_inj {c d : LedgerChannel} {j k : UInt64} :
    (Definition.v1 c).slots j = (Definition.v1 d).slots k ↔ c = d ∧ j = k := by
  refine ⟨fun h => ?_, fun ⟨hc, hj⟩ => by rw [hc, hj]⟩
  simp only [Definition.slots, List.cons.injEq, and_true, Slot.ofCount_word32_inj,
    Slot.ofCount_word64_inj, Address.slot_inj, Bytes32.slot_inj] at h
  obtain ⟨challengeDuration, user, node, nonce, metadata, chain⟩ := h
  refine ⟨?_, chain⟩
  cases c
  cases d
  congr

theorem LegacyChannel.slots_inj {c d : LegacyChannel} {j k : UInt64} :
    (Definition.legacy c).slots j = (Definition.legacy d).slots k ↔ c = d := by
  refine ⟨fun h => ?_, fun hc => by rw [hc]; rfl⟩
  simp only [Definition.slots, List.cons.injEq, and_true, true_and, Slot.ofCount_word64_inj,
    Address.slot_inj] at h
  obtain ⟨adjudicator, challenge, nonce, first, second⟩ := h
  obtain ⟨⟨_, _⟩, _, _, _⟩ := c
  obtain ⟨⟨_, _⟩, _, _, _⟩ := d
  congr

namespace Definition

variable {d e : Definition} {j k : UInt64}

/-- A legacy definition fills seven slots, the other kind six. -/
theorem slots_legacy_ne_v1 (c : LegacyChannel) (d : LedgerChannel) (j k : UInt64) :
    (legacy c).slots j ≠ (v1 d).slots k := by
  intro h
  have lengths : 7 = 6 := congrArg List.length h
  exact absurd lengths (by decide)

theorem slots_inj : d.slots j = e.slots k ↔ d.SameChannel j e k := by
  rw [SameChannel]
  cases d with
  | legacy c =>
    cases e with
    | legacy d => simp [LegacyChannel.slots_inj, protocol]
    | v1 d => simp [slots_legacy_ne_v1]
  | v1 c =>
    cases e with
    | legacy d => simp [(slots_legacy_ne_v1 _ _ _ _).symm]
    | v1 d => simp [LedgerChannel.slots_inj, protocol]

end Definition

theorem idPreimage_inj {d e : Definition} {j k : UInt64} :
    d.idPreimage j = e.idPreimage k ↔ d.SameChannel j e k := by
  rw [idPreimage_eq, idPreimage_eq, Except.ok.injEq, Slot.flatten_inj, Definition.slots_inj]

/-- The bytes behind channel ids are the same just if the ids name the same channel. So they differ
    for channels of different protocols, and after a swap of the parties unless these are one and
    the same; and ids that are the same name the same channel, or the hash collides. -/
theorem idPreimage_eq_iff :
    (∀ (d e : Definition) (j k : UInt64),
      d.idPreimage j = e.idPreimage k ↔ d.SameChannel j e k) ∧
    (∀ (c : LegacyChannel) (d : LedgerChannel) (j k : UInt64),
      (Definition.legacy c).idPreimage j ≠ (Definition.v1 d).idPreimage k) ∧
    (∀ (d : Definition) (j k : UInt64),
      d.swapped.idPreimage j = d.idPreimage k ↔
        d.user = d.swapped.user ∧ (d.protocol = .v1 → j = k)) ∧
    ∀ (d e : Definition) (j k : UInt64), ∃ ds es : Bytes,
      d.idPreimage j = .ok ds ∧ d.channelId j = .ok (keccak256 ds) ∧
      e.idPreimage k = .ok es ∧ e.channelId k = .ok (keccak256 es) ∧
      (d.channelId j = e.channelId k ↔ d.SameChannel j e k ∨ Collision ds es) := by
  refine ⟨fun d e j k => idPreimage_inj, fun c d j k h => ?_, fun d j k => ?_, fun d e j k => ?_⟩
  · exact Definition.noConfusion (idPreimage_inj.1 h).1
  · rw [idPreimage_inj, Definition.SameChannel, d.swapped_eq_iff, d.protocol_swapped]
  · refine ⟨_, _, idPreimage_eq d j, channelId_eq d j, idPreimage_eq e k, channelId_eq e k, ?_⟩
    rw [channelId_eq, channelId_eq, Except.ok.injEq, ← idPreimage_inj, idPreimage_eq,
      idPreimage_eq, Except.ok.injEq, Collision]
    by_cases h : Slot.flatten (d.slots j) = Slot.flatten (e.slots k) <;> simp [h]

end PaymentChannel
