import PaymentChannel.Channel.Packing
import PaymentChannel.Proofs.Abi.Record

/-!
# The bytes of packed states and channel ids

Slot by slot, what is hashed for a state of a channel (`State.packing`) and for a channel id
(`Definition.slots`):

* a state with ledgers fills 18 slots, with the net flows in two's complement;
* a legacy state fills 11 slots and those of its application data;
* a definition fills six slots, or seven if it is a legacy one.

Packing never fails, and gives these bytes (`packedState_and_channelId_eq`).
-/

namespace PaymentChannel

open Abi Bytes

namespace Ledger

/-- The slots of a ledger. Net flows are in two's complement. -/
def slots (l : Ledger) : List Slot :=
  [.ofCount l.chainId.toNat, l.token.slot, .ofCount l.decimals.toNat,
    l.userAllocation, BitVec.ofInt 256 l.userNetFlow.toInt,
    l.nodeAllocation, BitVec.ofInt 256 l.nodeNetFlow.toInt]

theorem encodes (l : Ledger) : Encodes l.toValue (.ofSlots l.slots) := by
  have h := Encodes.record (.cons (.word64 l.chainId) (.cons (.address l.token)
    (.cons (.byte l.decimals) (.cons (.word l.userAllocation) (.cons (.word l.userNetFlow.raw)
      (.cons (.word l.nodeAllocation) (.cons (.word l.nodeNetFlow.raw) .nil)))))))
  rw [slots, Int256.toInt, Int256.toInt, BitVec.ofInt_toInt, BitVec.ofInt_toInt]
  exact h

end Ledger

namespace Allocation

/-- The slots of an allocation. -/
def slots (a : Allocation) : List Slot := [a.destination.slot, a.token.slot, a.amount]

theorem encodes (a : Allocation) : Encodes a.toValue (.ofSlots a.slots) :=
  .record (.cons (.address a.destination) (.cons (.address a.token) (.cons (.word a.amount) .nil)))

end Allocation

/-! ## States -/

namespace LedgerState

/-- The slots of a state with ledgers. -/
def slots (id : ChannelId) (s : LedgerState) : List Slot :=
  [id.slot, .ofCount s.version.toNat, .ofCount s.intent.index.toNat, s.metadata.slot] ++
    s.home.slots ++ s.nonHome.slots

theorem encodes (id : ChannelId) (s : LedgerState) :
    Encodes ((State.v1 s).toValue id) (.ofSlots (s.slots id)) := by
  have h := Encodes.record (.cons (.fixed id) (.cons (.word64 s.version)
    (.cons (.byte s.intent.index) (.cons (.fixed s.metadata)
      (.cons s.home.encodes (.cons s.nonHome.encodes .nil))))))
  simpa [slots, State.toValue, Intent.toValue] using h

end LedgerState

namespace LegacyState

/-- The slots in front of the application data: the channel id, the distances of the data and of
    the allocations, and the length of the data, as a number of 64 bits. (No memory holds more.) -/
def slots (id : ChannelId) (s : LegacyState) : List Slot :=
  [id.slot, .ofCount 0x60, .ofCount (0x80 + paddedLength s.data.length),
    .ofCount (s.data.length % 2 ^ 64)]

/-- The slots behind the application data: the number of allocations, and the allocations. -/
def allocationSlots (s : LegacyState) : List Slot :=
  [.ofCount 2] ++ s.allocations.1.slots ++ s.allocations.2.slots

/-- The bytes of a legacy state, in the midst of them the application data. -/
def packing (id : ChannelId) (s : LegacyState) : Bytes :=
  Slot.flatten (s.slots id) ++ padded s.data ++ Slot.flatten s.allocationSlots

theorem encodes (id : ChannelId) (s : LegacyState) :
    Encodes ((State.legacy s).toValue id) ⟨true, s.packing id⟩ := by
  have allocations : Encodes (.array [s.allocations.1.toValue, s.allocations.2.toValue])
      ⟨true, Slot.flatten s.allocationSlots⟩ := by
    simpa [allocationSlots] using
      Encodes.array (.cons s.allocations.1.encodes (.cons s.allocations.2.encodes .nil))
  have h := Encodes.tuple
    (.cons (.fixed id) (.cons (.bytes s.data) (.cons allocations .nil)))
  -- The heads are three slots, so the data are at distance 96, and the allocations behind them.
  have content : Component.join [.ofSlots [FixedBytes.slot id],
      ⟨true, word (s.data.length % 2 ^ 64) ++ padded s.data⟩,
      ⟨true, Slot.flatten s.allocationSlots⟩] = s.packing id := by
    simp [packing, slots, Component.ofSlots, Component.join, Component.heads, Component.head,
      Component.tail, Component.headSize, Slot.size, ← Nat.add_assoc]
  rw [content] at h
  exact h

end LegacyState

/-- The bytes of a state of either protocol. -/
def State.packing (id : ChannelId) : State → Bytes
  | .v1 s => Slot.flatten (s.slots id)
  | .legacy s => s.packing id

theorem packedState_eq (id : ChannelId) (s : State) : packedState id s = .ok (s.packing id) := by
  cases s with
  | v1 s => rw [packedState, (s.encodes id).argumentBytes_eq, Component.ofSlots, State.packing]
  | legacy s => rw [packedState, (s.encodes id).argumentBytes_eq, State.packing]

/-! ## Definitions -/

/-- The slots of a definition. The chain does not matter to a legacy channel. -/
def Definition.slots (chainId : UInt64) : Definition → List Slot
  | .v1 c =>
    [.ofCount c.challengeDuration.toNat, c.user.slot, c.node.slot, .ofCount c.nonce.toNat,
      c.metadata.slot, .ofCount chainId.toNat]
  | .legacy c =>
    [.ofCount 0x80, c.adjudicator.slot, .ofCount c.challenge.toNat, .ofCount c.nonce.toNat,
      .ofCount 2, c.participants.1.slot, c.participants.2.slot]

theorem LedgerChannel.encodes (chainId : UInt64) (c : LedgerChannel) :
    Encodes (c.toValue chainId) (.ofSlots ((Definition.v1 c).slots chainId)) :=
  .record (.cons (.word32 c.challengeDuration) (.cons (.address c.user) (.cons (.address c.node)
    (.cons (.word64 c.nonce) (.cons (.fixed c.metadata) (.cons (.word64 chainId) .nil))))))

theorem LegacyChannel.encodes (chainId : UInt64) (c : LegacyChannel) :
    Encodes c.toValue ⟨true, Slot.flatten ((Definition.legacy c).slots chainId)⟩ := by
  have participants :=
    Encodes.array (.cons (.address c.participants.1) (.cons (.address c.participants.2) .nil))
  have h := Encodes.tuple (.cons participants (.cons (.address c.adjudicator)
    (.cons (.word64 c.challenge) (.cons (.word64 c.nonce) .nil))))
  -- The heads are four slots, so the participants are at distance 128.
  have content : Component.join [⟨true, Slot.flatten
        [.ofCount 2, c.participants.1.slot, c.participants.2.slot]⟩,
      .ofSlots [c.adjudicator.slot], .ofSlots [.ofCount c.challenge.toNat],
      .ofSlots [.ofCount c.nonce.toNat]] =
      Slot.flatten ((Definition.legacy c).slots chainId) := by
    simp [Definition.slots, Component.ofSlots, Component.join, Component.heads, Component.head,
      Component.tail, Component.headSize, Slot.size]
  rw [← content]
  exact h

theorem idPreimage_eq (d : Definition) (chainId : UInt64) :
    d.idPreimage chainId = .ok (Slot.flatten (d.slots chainId)) := by
  cases d with
  | v1 c =>
    rw [Definition.idPreimage, Definition.toValue, (c.encodes chainId).argumentBytes_eq,
      Component.ofSlots]
  | legacy c =>
    rw [Definition.idPreimage, Definition.toValue, (c.encodes chainId).argumentBytes_eq]

theorem channelId_eq (d : Definition) (chainId : UInt64) :
    d.channelId chainId = .ok (keccak256 (Slot.flatten (d.slots chainId))) := by
  rw [Definition.channelId, idPreimage_eq]
  rfl

/-- Packing a state never fails and gives the slots of the state, with the application data among
    them if it is a legacy one. Nor does hashing a definition fail, and it hashes its slots. -/
theorem packedState_and_channelId_eq :
    (∀ (id : ChannelId) (s : State), packedState id s = .ok (s.packing id)) ∧
      ∀ (d : Definition) (chainId : UInt64),
        d.channelId chainId = .ok (keccak256 (Slot.flatten (d.slots chainId))) :=
  ⟨packedState_eq, channelId_eq⟩

end PaymentChannel
