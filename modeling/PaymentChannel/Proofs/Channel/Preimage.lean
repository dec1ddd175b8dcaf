import PaymentChannel.Proofs.Channel.Packing

/-!
# What is hashed, told apart

The bytes that are hashed for a state, for the dispute of a state and for a channel id can be told
apart, and those of a state determine everything about it but its signatures:

* `LegacyState.packing_ne_flatten_slots`: the two protocols never pack to the same bytes, although
  they may pack to equally many;
* `State.packing_inj`, `packedState_eq_iff`: packed bytes are the same just if the channel id and
  the state without its signatures are;
* `preimages_separated`: the bytes behind a challenge, an agreement and a channel id all differ. The
  suffix of a challenge is no whole slot, and a state fills more slots than a definition.
-/

namespace PaymentChannel

open Abi Bytes

/-! ## Fields -/

namespace Slot

/-- A slot tells numbers of 8 bits apart. -/
theorem ofCount_byte_inj {x y : UInt8} : ofCount x.toNat = ofCount y.toNat ↔ x = y := by
  rw [ofCount_inj (x.toNat_lt.trans (by decide)) (y.toNat_lt.trans (by decide)), UInt8.toNat_inj]

/-- A slot tells numbers of 64 bits apart. -/
theorem ofCount_word64_inj {x y : UInt64} : ofCount x.toNat = ofCount y.toNat ↔ x = y := by
  rw [ofCount_inj (x.toNat_lt.trans (by decide)) (y.toNat_lt.trans (by decide)), UInt64.toNat_inj]

end Slot

namespace Intent

/-- Intents are told apart by their index. -/
theorem index_inj {i j : Intent} : i.index = j.index ↔ i = j := by
  cases i <;> cases j <;> decide

theorem index_lt (i : Intent) : i.index.toNat < 4 := by
  cases i <;> decide

end Intent

/-- Addresses are told apart by their slots. -/
theorem Address.slot_inj {a b : Address} : a.slot = b.slot ↔ a = b :=
  FixedBytes.slot_inj (by decide)

theorem Bytes32.slot_inj {x y : Bytes32} : x.slot = y.slot ↔ x = y :=
  FixedBytes.slot_inj (by decide)

theorem Ledger.slots_inj {l m : Ledger} : l.slots = m.slots ↔ l = m := by
  refine ⟨fun h => ?_, congrArg _⟩
  rw [slots, slots] at h
  simp only [List.cons.injEq, and_true, Slot.ofCount_word64_inj, Address.slot_inj,
    Slot.ofCount_byte_inj, Int256.toInt, BitVec.ofInt_toInt] at h
  obtain ⟨chainId, token, decimals, userAllocation, userNetFlow, nodeAllocation, nodeNetFlow⟩ := h
  obtain ⟨_, _, _, _, ⟨_⟩, _, ⟨_⟩⟩ := l
  obtain ⟨_, _, _, _, ⟨_⟩, _, ⟨_⟩⟩ := m
  congr

theorem Allocation.slots_inj {a b : Allocation} : a.slots = b.slots ↔ a = b := by
  refine ⟨fun h => ?_, congrArg _⟩
  rw [slots, slots] at h
  simp only [List.cons.injEq, and_true, Address.slot_inj] at h
  obtain ⟨destination, token, amount⟩ := h
  cases a
  cases b
  congr

/-! ## States -/

namespace LedgerState

variable {i j : ChannelId} {s t : LedgerState}

@[simp] theorem length_slots (i : ChannelId) (s : LedgerState) : (s.slots i).length = 18 := rfl

/-- A state is told apart, but for its signatures, by its slots, and so is its channel. -/
theorem slots_inj (h : s.slots i = t.slots j) :
    i = j ∧ (State.v1 s).withoutSignatures = (State.v1 t).withoutSignatures := by
  obtain ⟨fields, nonHome⟩ := List.append_inj h rfl
  obtain ⟨front, home⟩ := List.append_inj fields rfl
  simp only [List.cons.injEq, and_true, Bytes32.slot_inj, Slot.ofCount_word64_inj,
    Slot.ofCount_byte_inj, Intent.index_inj] at front
  obtain ⟨id, version, intent, metadata⟩ := front
  rw [Ledger.slots_inj] at home nonHome
  refine ⟨id, congrArg State.v1 ?_⟩
  congr

end LedgerState

namespace LegacyState

variable {i j : ChannelId} {s t : LegacyState}

@[simp] theorem length_slots (i : ChannelId) (s : LegacyState) : (s.slots i).length = 4 := rfl

@[simp] theorem length_allocationSlots (s : LegacyState) : s.allocationSlots.length = 7 := rfl

/-- Legacy data is padded to whole slots. -/
theorem length_packing (i : ChannelId) (s : LegacyState) :
    (s.packing i).length = 11 * Slot.size + paddedLength s.data.length := by
  simp only [packing, List.length_append, Slot.length_flatten, length_slots, length_padded,
    length_allocationSlots]
  omega

/-- What is packed of a legacy state tells it apart, but for its signatures, and its channel. -/
theorem packing_inj (h : s.packing i = t.packing j) :
    i = j ∧ (State.legacy s).withoutSignatures = (State.legacy t).withoutSignatures := by
  -- The length of the whole gives the length of the padded data, and so the parts are the same.
  have lengths : paddedLength s.data.length = paddedLength t.data.length := by
    have := congrArg List.length h
    rw [length_packing, length_packing] at this
    omega
  obtain ⟨front, allocations⟩ := List.append_inj h (by simp [lengths])
  obtain ⟨front, data⟩ := List.append_inj front (by simp)
  rw [Slot.flatten_inj] at front allocations
  obtain ⟨allocations, second⟩ := List.append_inj allocations rfl
  obtain ⟨-, first⟩ := List.append_inj allocations rfl
  rw [Allocation.slots_inj] at first second
  simp only [slots, List.cons.injEq, and_true, true_and, Bytes32.slot_inj] at front
  obtain ⟨id, -, counts⟩ := front
  -- Padding adds less than a slot, so it leaves no two lengths that count alike.
  have count : s.data.length = t.data.length := by
    rw [Slot.ofCount_inj (by omega) (by omega)] at counts
    have hs := le_paddedLength s.data.length
    have ht := le_paddedLength t.data.length
    have hs' := paddedLength_lt s.data.length
    have ht' := paddedLength_lt t.data.length
    rw [Slot.size] at hs' ht'
    omega
  refine ⟨id, ?_⟩
  rw [State.withoutSignatures, State.withoutSignatures, eq_of_padded_eq count data,
    Prod.ext first second]

/-- Where a state with ledgers has its intent, a legacy state of the same length has the distance
    of the allocations, which is far larger. -/
theorem packing_ne_flatten_slots (i j : ChannelId) (s : LegacyState) (t : LedgerState) :
    s.packing i ≠ Slot.flatten (t.slots j) := by
  intro h
  have lengths := congrArg List.length h
  rw [length_packing, Slot.length_flatten, LedgerState.length_slots, Slot.size] at lengths
  rw [packing, LedgerState.slots, List.append_assoc, List.append_assoc, Slot.flatten_append] at h
  obtain ⟨front, -⟩ := List.append_inj h (by rw [Slot.length_flatten, Slot.length_flatten]; rfl)
  rw [Slot.flatten_inj] at front
  simp only [slots, List.cons.injEq, and_true] at front
  obtain ⟨-, -, third, -⟩ := front
  have := t.intent.index_lt
  rw [Slot.ofCount_inj (by omega) (by omega)] at third
  omega

end LegacyState

namespace State

variable {i j : ChannelId} {s t : State}

/-- Signatures are not packed. -/
@[simp] theorem packing_withoutSignatures (i : ChannelId) (s : State) :
    s.withoutSignatures.packing i = s.packing i := by
  cases s <;> rfl

/-- To sign a state does not change what is packed. -/
@[simp] theorem packing_withSignatures (i : ChannelId) (own : Signature) (others : List Signature)
    (s : State) : (s.withSignatures own others).packing i = s.packing i := by
  cases s <;> rfl

/-- The bytes of a state determine the channel and everything in the state that is signed. -/
theorem packing_inj :
    s.packing i = t.packing j ↔ i = j ∧ s.withoutSignatures = t.withoutSignatures := by
  refine ⟨fun h => ?_, fun ⟨hi, hs⟩ => ?_⟩
  · cases s with
    | legacy s =>
      cases t with
      | legacy t => exact LegacyState.packing_inj h
      | v1 t => exact absurd h (s.packing_ne_flatten_slots i j t)
    | v1 s =>
      cases t with
      | legacy t => exact absurd h.symm (t.packing_ne_flatten_slots j i s)
      | v1 t =>
        rw [packing, packing, Slot.flatten_inj] at h
        exact LedgerState.slots_inj h
  · rw [← packing_withoutSignatures, hs, packing_withoutSignatures, hi]

/-- A state fills whole slots. -/
theorem size_dvd_length_packing (i : ChannelId) (s : State) :
    Slot.size ∣ (s.packing i).length := by
  cases s with
  | v1 s =>
    rw [packing]
    exact Slot.size_dvd_length_flatten _
  | legacy s =>
    rw [packing, LegacyState.length_packing]
    exact (dvd_mul_left _ _).add (size_dvd_paddedLength _)

/-- A state fills eleven slots or more. -/
theorem le_length_packing (i : ChannelId) (s : State) :
    11 * Slot.size ≤ (s.packing i).length := by
  cases s with
  | v1 s =>
    rw [packing, Slot.length_flatten, LedgerState.length_slots]
    exact Nat.mul_le_mul_right _ (by decide)
  | legacy s =>
    rw [packing, LegacyState.length_packing]
    exact Nat.le_add_right _ _

end State

/-- A definition fills seven slots at most. -/
theorem Definition.length_slots_le (chainId : UInt64) (d : Definition) :
    (d.slots chainId).length ≤ 7 := by
  cases d
  · exact le_rfl
  · exact Nat.le_succ 6

/-- A state fills more slots than a definition. -/
theorem State.packing_ne_flatten_slots (i : ChannelId) (s : State) (d : Definition)
    (chainId : UInt64) : s.packing i ≠ Slot.flatten (d.slots chainId) := by
  intro h
  have hs := s.le_length_packing i
  have hd := d.length_slots_le chainId
  rw [h, Slot.length_flatten, Slot.size] at hs
  omega

/-! ## Hashes -/

/-- A state always has a hash, which is that of what is packed. -/
theorem stateHash_eq (i : ChannelId) (s : State) :
    stateHash i s = .ok (keccak256 (s.packing i)) := by
  rw [stateHash, packedState_eq]
  rfl

/-- The preimage of a challenge is the packed state with a suffix. -/
theorem challengePreimage_eq (i : ChannelId) (s : State) :
    challengePreimage i s = .ok (s.packing i ++ challengeSuffix) := by
  rw [challengePreimage, packedState_eq]
  rfl

/-- A challenge always has a hash. -/
theorem challengeHash_eq (i : ChannelId) (s : State) :
    challengeHash i s = .ok (keccak256 (s.packing i ++ challengeSuffix)) := by
  rw [challengeHash, challengePreimage_eq]
  rfl

/-- States pack to the same bytes just if the channels are the same, and the states but for their
    signatures. So no legacy state packs to the bytes of a state with ledgers, and no signature that
    is added, replaced or removed changes what is signed, be it to agree on the state or to dispute
    it. -/
theorem packedState_eq_iff :
    (∀ (i j : ChannelId) (s t : State),
      packedState i s = packedState j t ↔ i = j ∧ s.withoutSignatures = t.withoutSignatures) ∧
    (∀ (i j : ChannelId) (s : LegacyState) (t : LedgerState),
      packedState i (.legacy s) ≠ packedState j (.v1 t)) ∧
    ∀ (i : ChannelId) (s : State) (own : Signature) (others : List Signature),
      stateHash i s.withoutSignatures = stateHash i s ∧
      challengeHash i s.withoutSignatures = challengeHash i s ∧
      stateHash i (s.withSignatures own others) = stateHash i s ∧
      challengeHash i (s.withSignatures own others) = challengeHash i s := by
  refine ⟨fun i j s t => ?_, fun i j s t h => ?_, fun i s own others => ?_⟩
  · rw [packedState_eq, packedState_eq, Except.ok.injEq, State.packing_inj]
  · rw [packedState_eq, packedState_eq, Except.ok.injEq] at h
    exact s.packing_ne_flatten_slots i j t h
  · simp [stateHash_eq, challengeHash_eq]

/-- What the suffix of a challenge is appended to no longer fills whole slots. -/
theorem append_challengeSuffix_ne (i : ChannelId) (s : State) {bs : Bytes}
    (h : Slot.size ∣ bs.length) : s.packing i ++ challengeSuffix ≠ bs := by
  rintro rfl
  have suffix : challengeSuffix.length = 9 := rfl
  rw [List.length_append, ← Nat.dvd_add_iff_right (s.size_dvd_length_packing i), suffix] at h
  exact absurd h (by decide)

/-- Different bytes of the same hash. -/
def Collision (bs cs : Bytes) : Prop := bs ≠ cs ∧ keccak256 bs = keccak256 cs

/-- The bytes behind a challenge, an agreement and a channel id are never the same, and those behind
    two challenges only if the challenges dispute the same state of the same channel. So to replay
    the signature of a challenge as one of an agreement takes a collision of the hash. -/
theorem preimages_separated (i j : ChannelId) (s t : State) (d : Definition) (chainId : UInt64) :
    ∃ disputed agreed named : Bytes,
      challengePreimage i s = .ok disputed ∧ challengeHash i s = .ok (keccak256 disputed) ∧
      packedState j t = .ok agreed ∧ stateHash j t = .ok (keccak256 agreed) ∧
      d.idPreimage chainId = .ok named ∧ d.channelId chainId = .ok (keccak256 named) ∧
      disputed ≠ agreed ∧ disputed ≠ named ∧ agreed ≠ named ∧
      (challengePreimage i s = challengePreimage j t ↔
        i = j ∧ s.withoutSignatures = t.withoutSignatures) ∧
      (challengeHash i s = stateHash j t ↔ Collision disputed agreed) := by
  have separated := append_challengeSuffix_ne i s (t.size_dvd_length_packing j)
  refine ⟨_, _, _, challengePreimage_eq i s, challengeHash_eq i s, packedState_eq j t,
    stateHash_eq j t, idPreimage_eq d chainId, channelId_eq d chainId, separated,
    append_challengeSuffix_ne i s (Slot.size_dvd_length_flatten _),
    t.packing_ne_flatten_slots j d chainId, ?_, ?_⟩
  · rw [challengePreimage_eq, challengePreimage_eq, Except.ok.injEq, List.append_left_inj,
      State.packing_inj]
  · rw [challengeHash_eq, stateHash_eq, Except.ok.injEq]
    exact ⟨fun h => ⟨separated, h⟩, And.right⟩

end PaymentChannel
