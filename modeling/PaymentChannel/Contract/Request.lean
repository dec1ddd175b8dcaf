import PaymentChannel.Channel.Status
import PaymentChannel.Contract.Call
import PaymentChannel.Error

/-!
# Requests

Everything an operation needs from outside it asks for by a `Request`, and each request has a type
of answers: contracts are read (`View`), calls are prepared by the contract they are for (`Plan`)
and sent, hashes are signed, and nonces are drawn.
-/

namespace PaymentChannel

/-- What is read from a contract. -/
inductive View where
  | allowance (token owner spender : Address)
  | balanceOf (token owner : Address)
  | symbol (token : Address)
  | decimals (token : Address)
  /-- The channels of a user that are still open. -/
  | openChannels (user : Address)
  /-- All channels of a user. -/
  | channelIds (user : Address)
  /-- What an account has in the vault and not in channels. -/
  | accountBalance (account token : Address)
  | channelRecord (id : ChannelId)

namespace View

/-- What is read. -/
def Answer : View → Type
  | allowance .. | balanceOf .. | accountBalance .. => UInt256
  | symbol _ => String
  | decimals _ => UInt8
  | openChannels _ | channelIds _ => List ChannelId
  | channelRecord _ => ChannelRecord

/-- The name of the function in the contract. -/
def operation : View → String
  | allowance .. => "allowance"
  | balanceOf .. => "balanceOf"
  | symbol _ => "symbol"
  | decimals _ => "decimals"
  | openChannels _ => "getOpenChannels"
  | channelIds _ => "getChannelIds"
  | accountBalance .. => "getAccountBalance"
  | channelRecord _ => "getChannelData"

end View

/-- A call that is to be prepared, with all that goes into it. -/
inductive Plan where
  | approve (token spender : Address) (amount : UInt256)
  | deposit (node token : Address) (amount : UInt256)
  | withdraw (recipient token : Address) (amount : UInt256)
  | createChannel (definition : Definition) (initial : State)
  | checkpoint (id : ChannelId) (candidate : State) (proofs : List State)
  | challenge (id : ChannelId) (candidate : State) (proofs : List State) (signature : Signature)
  | close (id : ChannelId) (candidate : State) (proofs : List State)
  | depositToChannel (id : ChannelId) (candidate : State)
  | withdrawFromChannel (id : ChannelId) (candidate : State)

namespace Plan

/-- The name of the function in the contract. -/
def operation : Plan → String
  | approve .. => "approve"
  | deposit .. => "depositToVault"
  | withdraw .. => "withdrawFromVault"
  | createChannel .. => "createChannel"
  | checkpoint .. => "checkpointChannel"
  | challenge .. => "challengeChannel"
  | close .. => "closeChannel"
  | depositToChannel .. => "depositToChannel"
  | withdrawFromChannel .. => "withdrawFromChannel"

/-- The state that the contract is handed, along with the states that prove it. -/
def submission? : Plan → Option (State × List State)
  | approve .. | deposit .. | withdraw .. => none
  | createChannel _ initial => some (initial, [])
  | checkpoint _ candidate proofs => some (candidate, proofs)
  | challenge _ candidate proofs _ => some (candidate, proofs)
  | close _ candidate proofs => some (candidate, proofs)
  | depositToChannel _ candidate => some (candidate, [])
  | withdrawFromChannel _ candidate => some (candidate, [])

end Plan

/-- What the signature of a state is for. -/
inductive SigningPurpose where
  /-- The parties agree on the state. -/
  | state
  /-- The state is put forward in a dispute. -/
  | challenge
  deriving DecidableEq, Repr

/-- The purpose as a signer is shown it. -/
def SigningPurpose.describe : SigningPurpose → String
  | state => "State"
  | challenge => "Challenge"

/-- What a signer is told of a state that it is to sign. -/
structure SigningContext where
  id : ChannelId
  protocol : Protocol
  /-- The version, which legacy states do not have. -/
  version : Option UInt64
  intent : Option Intent
  purpose : SigningPurpose
  deriving DecidableEq

/-- The signers of an account. -/
inductive Party where
  /-- The signer of the account itself. -/
  | own
  /-- The signer for channels that another user opened. -/
  | alternate
  deriving DecidableEq, Repr

/-- What is asked of the world outside. -/
inductive Request where
  | view (v : View)
  | prepare (p : Plan)
  | send (c : Call)
  /-- The account's own signature over the hash of a state. -/
  | signState (hash : Hash) (context : SigningContext)
  /-- A signature over a hash. -/
  | signHash (signer : Party) (hash : Hash)
  /-- A nonce for a new channel that the address opens. -/
  | nonce (opener : Address)

/-- What a request is answered with. -/
def Request.Answer : Request → Type
  | view v => Except Error v.Answer
  | prepare _ => Except Error Call
  | send _ => Except Error Hash
  | signState .. | signHash .. => Except SignError Signature
  | nonce _ => UInt64

end PaymentChannel
