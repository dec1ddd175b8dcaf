import PaymentChannel.Client.Sending

/-!
# Disputes

Whoever disputes the last state of a channel signs for it on behalf of the channel's user: with the
account's own signer if the account is the user, else with the alternate one.
-/

namespace PaymentChannel.Client

/-- The signer that signs on behalf of a user. -/
def challenger (c : Client) (user : Address) : Except Error Party :=
  if c.account = user then pure .own
  else if c.alternate.isSome then pure .alternate
  else throw (.missingParameter "challenger signer")

/-- The signature of a dispute: the one that is given, or that of the signer for the channel. -/
def challengeSignature (c : Client) (id : ChannelId) (candidate : State)
    (given : Option Signature) : Operation Signature := do
  if let some signature := given then return signature
  -- Only the contract knows whose channel it is.
  let channel ← channelRecord id
  let party ← Operation.ofExcept (c.challenger channel.definition.user)
  let hash ← Operation.ofEncoding (challengeHash id candidate)
  Operation.sign (.perform (.signHash party hash))

/-- The call that starts a dispute. -/
def challengeCall (c : Client) (id : ChannelId) (candidate : State) (proofs : List State)
    (given : Option Signature) : Operation Call := do
  let signature ← c.challengeSignature id candidate given
  (Operation.prepare (.challenge id candidate proofs signature)).asCall "challenge"
    (channelContext id)

/-- Starts a dispute. -/
def challenge (c : Client) (id : ChannelId) (candidate : State) (proofs : List State)
    (given : Option Signature) : Operation Hash := do
  sendOne (← c.challengeCall id candidate proofs given)

end PaymentChannel.Client
