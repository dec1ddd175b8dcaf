import PaymentChannel.Channel.Definition

/-!
# What is signed

The contract builds the same bytes from a channel id and a state, without the signatures, and checks
signatures over their hash. `packedState` are these bytes, `stateHash` is what the parties sign.
Whoever disputes a state signs `challengeHash`, with a suffix to the packed state, so that neither
signature can stand for the other.
-/

namespace PaymentChannel

/-- What is appended to a packed state that is disputed. -/
def challengeSuffix : Bytes := Bytes.ofText "challenge"

namespace State

/-- The channel id and the state, without signatures, as the contract encodes them. -/
def toValue (id : ChannelId) : State → Abi.Value
  | .v1 s => .tuple [
      .fixed id,
      .word64 s.version,
      s.intent.toValue,
      .fixed s.metadata,
      s.home.toValue,
      s.nonHome.toValue]
  | .legacy s => .tuple [
      .fixed id,
      .bytes s.data,
      .array [s.allocations.1.toValue, s.allocations.2.toValue]]

@[simp] theorem toValue_withoutSignatures (id : ChannelId) (s : State) :
    s.withoutSignatures.toValue id = s.toValue id := by
  cases s <;> rfl

@[simp] theorem toValue_withSignatures (id : ChannelId) (own : Signature)
    (others : List Signature) (s : State) :
    (s.withSignatures own others).toValue id = s.toValue id := by
  cases s <;> rfl

end State

/-- The bytes that stand for a state of a channel. -/
def packedState (id : ChannelId) (s : State) : Except Abi.Error Bytes :=
  Abi.argumentBytes (s.toValue id)

/-- The bytes that stand for a disputed state of a channel. -/
def challengePreimage (id : ChannelId) (s : State) : Except Abi.Error Bytes :=
  (· ++ challengeSuffix) <$> packedState id s

/-- What the parties sign to agree on a state. -/
def stateHash (id : ChannelId) (s : State) : Except Abi.Error Hash :=
  keccak256 <$> packedState id s

/-- What a challenger signs to dispute a state. -/
def challengeHash (id : ChannelId) (s : State) : Except Abi.Error Hash :=
  keccak256 <$> challengePreimage id s

end PaymentChannel
