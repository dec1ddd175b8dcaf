import PaymentChannel.Abi.Value
import PaymentChannel.Int256
import PaymentChannel.Text.Hex
import PaymentChannel.Text.Record

/-!
# Channel states

What the parties of a channel agree on, in two protocols that exist side by side: the legacy one
splits the funds into two allocations, the other keeps a ledger for the chain of the channel and one
for another chain. A `State` is a state of either, along with the signatures collected so far; these
are no part of what is signed.
-/

namespace PaymentChannel

/-- Which contracts, and so which format, a value belongs to. -/
inductive Protocol where
  /-- Two parties with an allocation each, and an adjudicator. -/
  | legacy
  /-- Ledgers with net flows, one for each chain. -/
  | v1
  deriving DecidableEq, Repr

namespace Protocol

/-- The protocol as messages spell it. -/
def describe : Protocol → String
  | legacy => "Legacy"
  | v1 => "V1"

/-- The protocol as configurations spell it. -/
def key : Protocol → String
  | legacy => "legacy"
  | v1 => "v1"

end Protocol

/-- A signature: bytes of any length, as accounts that are contracts sign in ways of their own. -/
structure Signature where
  bytes : Bytes
  deriving DecidableEq, Inhabited

namespace Signature

/-- The signature as text. -/
def toHex (s : Signature) : String := Hex.render s.bytes

instance : ToString Signature := ⟨toHex⟩

/-- Reads a signature of any length. -/
def parse (text : String) : Except Hex.Error Signature := Signature.mk <$> Hex.parse text

end Signature

/-- What a state with ledgers is for. -/
inductive Intent where
  | operate
  /-- The state a channel is opened with. It has version 0. -/
  | initial
  | resize
  /-- The state a channel is closed with. -/
  | terminal
  deriving DecidableEq, Repr

namespace Intent

/-- The number of the intent in the contract. -/
def index : Intent → UInt8
  | operate => 0
  | initial => 1
  | resize => 2
  | terminal => 3

/-- The intent as messages spell it. -/
def describe : Intent → String
  | operate => "Operate"
  | initial => "Initialize"
  | resize => "Resize"
  | terminal => "Finalize"

/-- The intent as the contract encodes it. -/
def toValue (i : Intent) : Abi.Value := .byte i.index

end Intent

/-- The accounts of a channel on one chain: what each party holds, and what flowed in from it. -/
structure Ledger where
  chainId : UInt64
  token : Address
  decimals : UInt8
  userAllocation : UInt256
  userNetFlow : Int256
  nodeAllocation : UInt256
  nodeNetFlow : Int256
  deriving DecidableEq, Inhabited

namespace Ledger

/-- The whole amount belongs to the user, who has just paid it in. -/
def fundedByUser (chainId : UInt64) (token : Address) (decimals : UInt8) (amount : UInt256) :
    Ledger :=
  ⟨chainId, token, decimals, amount, .ofPositive amount, 0, .zero⟩

/-- Stands for the other chain of a channel that has none. -/
def empty : Ledger := ⟨0, .zero, 0, 0, .zero, 0, .zero⟩

/-- The ledger as the contract encodes it. -/
def toValue (l : Ledger) : Abi.Value :=
  .tuple [
    .word64 l.chainId,
    .address l.token,
    .byte l.decimals,
    .word l.userAllocation,
    .word l.userNetFlow.raw,
    .word l.nodeAllocation,
    .word l.nodeNetFlow.raw]

/-- The ledger as messages spell it. -/
def describe (l : Ledger) : String :=
  Record.record "Ledger" [
    ("chain_id", toString l.chainId),
    ("token", l.token.toHex),
    ("decimals", toString l.decimals),
    ("user_allocation", UInt256.toText l.userAllocation),
    ("user_net_flow", l.userNetFlow.toText),
    ("node_allocation", UInt256.toText l.nodeAllocation),
    ("node_net_flow", l.nodeNetFlow.toText)]

end Ledger

/-- A state of a channel with ledgers. -/
structure LedgerState where
  version : UInt64
  intent : Intent
  metadata : Bytes32
  home : Ledger
  nonHome : Ledger
  userSignature : Option Signature
  nodeSignature : Option Signature
  deriving DecidableEq

namespace LedgerState

/-- A state that nobody has signed. -/
def unsigned (version : UInt64) (intent : Intent) (metadata : Bytes32) (home nonHome : Ledger) :
    LedgerState :=
  ⟨version, intent, metadata, home, nonHome, none, none⟩

/-- The state as messages spell it. -/
def describe (s : LedgerState) : String :=
  Record.record "StateV1" [
    ("version", toString s.version),
    ("intent", s.intent.describe),
    ("metadata", s.metadata.toHex),
    ("home_state", s.home.describe),
    ("non_home_state", s.nonHome.describe),
    ("user_sig", Record.optional (s.userSignature.map Signature.toHex)),
    ("node_sig", Record.optional (s.nodeSignature.map Signature.toHex))]

end LedgerState

/-- What one party of a legacy channel is paid. -/
structure Allocation where
  destination : Address
  token : Address
  amount : UInt256
  deriving DecidableEq, Inhabited

namespace Allocation

/-- The allocation as the contract encodes it. -/
def toValue (a : Allocation) : Abi.Value :=
  .tuple [.address a.destination, .address a.token, .word a.amount]

end Allocation

/-- A state of a legacy channel. The allocations are in the order of the participants. -/
structure LegacyState where
  data : Bytes
  allocations : Allocation × Allocation
  signatures : List Signature
  deriving DecidableEq

/-- A state of either protocol. -/
inductive State where
  | legacy (s : LegacyState)
  | v1 (s : LedgerState)
  deriving DecidableEq

namespace State

/-- The protocol of a state. -/
def protocol : State → Protocol
  | legacy _ => .legacy
  | v1 _ => .v1

/-- The version; legacy states carry none. -/
def version : State → Option UInt64
  | legacy _ => none
  | v1 s => some s.version

/-- The intent; legacy states carry none. -/
def intent : State → Option Intent
  | legacy _ => none
  | v1 s => some s.intent

/-- The number of signatures. -/
def signatureCount : State → Nat
  | legacy s => s.signatures.length
  | v1 s => s.userSignature.isSome.toNat + s.nodeSignature.isSome.toNat

/-- The signatures, the user's first. -/
def signatures : State → List Signature
  | legacy s => s.signatures
  | v1 s => s.userSignature.toList ++ s.nodeSignature.toList

/-- The state without its signatures. -/
def withoutSignatures : State → State
  | legacy s => legacy { s with signatures := [] }
  | v1 s => v1 { s with userSignature := none, nodeSignature := none }

/-- The state with a signature of the local account and those of others in place of its own. A state
    with ledgers has room for one other signature, the node's; callers have to refuse more. -/
def withSignatures (own : Signature) (others : List Signature) : State → State
  | legacy s => legacy { s with signatures := own :: others }
  | v1 s => v1 { s with userSignature := some own, nodeSignature := others.head? }

theorem signatureCount_eq_length (s : State) : s.signatureCount = s.signatures.length := by
  cases s with
  | legacy s => rfl
  | v1 s =>
    simp only [signatureCount, signatures, List.length_append]
    cases s.userSignature <;> cases s.nodeSignature <;> rfl

@[simp] theorem signatures_withoutSignatures (s : State) :
    s.withoutSignatures.signatures = [] := by
  cases s <;> rfl

/-- Signatures are kept as far as there is room for them. -/
theorem signatures_withSignatures (own : Signature) (others : List Signature) (s : State)
    (h : s.protocol = .v1 → others.length ≤ 1) :
    (s.withSignatures own others).signatures = own :: others := by
  cases s with
  | legacy s => rfl
  | v1 s =>
    match others, h rfl with
    | [], _ => rfl
    | [_], _ => rfl

@[simp] theorem withoutSignatures_withSignatures (own : Signature) (others : List Signature)
    (s : State) : (s.withSignatures own others).withoutSignatures = s.withoutSignatures := by
  cases s <;> rfl

@[simp] theorem withoutSignatures_withoutSignatures (s : State) :
    s.withoutSignatures.withoutSignatures = s.withoutSignatures := by
  cases s <;> rfl

@[simp] theorem protocol_withSignatures (own : Signature) (others : List Signature) (s : State) :
    (s.withSignatures own others).protocol = s.protocol := by
  cases s <;> rfl

@[simp] theorem protocol_withoutSignatures (s : State) :
    s.withoutSignatures.protocol = s.protocol := by
  cases s <;> rfl

end State

/-- The data of a legacy state that no application is attached to: a number in a slot of its own. -/
def markerData (marker : UInt64) : Bytes := List.replicate 24 0 ++ Bytes.ofNat 8 marker.toNat

/-- Marks a legacy channel that has just been opened. -/
def openMarker : UInt64 := 7877

end PaymentChannel
