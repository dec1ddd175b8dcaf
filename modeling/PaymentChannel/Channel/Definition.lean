import PaymentChannel.Abi.Digest
import PaymentChannel.Channel.State

/-!
# Channel definitions

What is fixed for the life of a channel. The *channel id* is the hash of the definition, and of the
chain id unless the channel is a legacy one; `Definition.idPreimage` is what is hashed.
-/

namespace PaymentChannel

/-- Channel ids are hashes of definitions. -/
abbrev ChannelId := Hash

/-- A channel with ledgers, between a user and a node. -/
structure LedgerChannel where
  /-- For how many seconds a disputed state can be contested. -/
  challengeDuration : UInt32
  user : Address
  node : Address
  nonce : UInt64
  metadata : Bytes32
  deriving DecidableEq, Inhabited

namespace LedgerChannel

/-- What the channel id is the hash of, as the contract encodes it. -/
def toValue (c : LedgerChannel) (chainId : UInt64) : Abi.Value :=
  .tuple [
    .word32 c.challengeDuration,
    .address c.user,
    .address c.node,
    .word64 c.nonce,
    .fixed c.metadata,
    .word64 chainId]

/-- The definition as messages spell it. -/
def describe (c : LedgerChannel) : String :=
  Record.record "ChannelDefinition" [
    ("challenge_duration", toString c.challengeDuration),
    ("user", c.user.toHex),
    ("node", c.node.toHex),
    ("nonce", toString c.nonce),
    ("metadata", c.metadata.toHex)]

end LedgerChannel

/-- A channel of the legacy contracts. The first participant is the one that opens it. -/
structure LegacyChannel where
  participants : Address × Address
  adjudicator : Address
  challenge : UInt64
  nonce : UInt64
  deriving DecidableEq, Inhabited

namespace LegacyChannel

/-- What the channel id is the hash of, as the contract encodes it. -/
def toValue (c : LegacyChannel) : Abi.Value :=
  .tuple [
    .array [.address c.participants.1, .address c.participants.2],
    .address c.adjudicator,
    .word64 c.challenge,
    .word64 c.nonce]

end LegacyChannel

/-- A channel of either protocol. -/
inductive Definition where
  | legacy (c : LegacyChannel)
  | v1 (c : LedgerChannel)
  deriving DecidableEq

namespace Definition

/-- The protocol of a channel. -/
def protocol : Definition → Protocol
  | legacy _ => .legacy
  | v1 _ => .v1

/-- The party that opened the channel. -/
def user : Definition → Address
  | legacy c => c.participants.1
  | v1 c => c.user

/-- What the channel id is the hash of, as the contract encodes it. The chain does not matter to a
    legacy channel. -/
def toValue (chainId : UInt64) : Definition → Abi.Value
  | legacy c => c.toValue
  | v1 c => c.toValue chainId

/-- The bytes that the channel id is the hash of. -/
def idPreimage (d : Definition) (chainId : UInt64) : Except Abi.Error Bytes :=
  Abi.argumentBytes (d.toValue chainId)

/-- The channel id on the given chain. -/
def channelId (d : Definition) (chainId : UInt64) : Except Abi.Error ChannelId :=
  keccak256 <$> d.idPreimage chainId

end Definition

end PaymentChannel
