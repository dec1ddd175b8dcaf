import PaymentChannel.Channel.Definition

/-!
# Channels as the contract has them

The contract keeps a record of every channel: its definition, its status, the last state it accepted
and, while a challenge is running, when that ends.
-/

namespace PaymentChannel

/-- Where a channel is in its life. -/
inductive Status where
  | void
  | initial
  | active
  | dispute
  | terminal
  /-- Only in the legacy contracts. -/
  | challenged
  /-- Only in the legacy contracts. -/
  | closed
  deriving DecidableEq, Repr

namespace Status

/-- The status from its number in the contract. -/
def ofIndex? : (index : Nat) → Option Status
  | 0 => some void
  | 1 => some initial
  | 2 => some active
  | 3 => some dispute
  | 4 => some terminal
  | 5 => some challenged
  | 6 => some closed
  | _ => none

/-- Whether the channel still accepts states. -/
def isOpen : Status → Bool
  | initial | active | dispute | challenged => true
  | void | terminal | closed => false

/-- The status as it is shown. -/
def describe : Status → String
  | void => "Void"
  | initial => "Initial"
  | active => "Active"
  | dispute => "Dispute"
  | terminal => "Final"
  | challenged => "Challenged"
  | closed => "Closed"

end Status

/-- A channel as the contract has it. -/
structure ChannelRecord where
  definition : Definition
  status : Status
  lastState : State
  /-- In seconds since the epoch, or 0 if no challenge is running. -/
  challengeExpiry : UInt64
  deriving DecidableEq

namespace ChannelRecord

/-- Whether a challenge is running at the given time. -/
def isChallengeRunning (r : ChannelRecord) (now : UInt64) : Bool :=
  r.challengeExpiry != 0 && now < r.challengeExpiry

end ChannelRecord

end PaymentChannel
