import PaymentChannel.Channel.Definition

/-!
# Contract calls

A call that has been prepared is ready to be signed and sent. Next to the data that the contract
gets, it says what it does (`Action`), for whoever wants to show it first.
-/

namespace PaymentChannel

/-- What a call does. -/
inductive Action where
  | approve (token spender : Address) (amount : UInt256)
  | deposit (node token : Address) (amount : UInt256)
  | withdraw (recipient token : Address) (amount : UInt256)
  | createChannel (id : ChannelId)
  | checkpoint (id : ChannelId)
  | challenge (id : ChannelId)
  | close (id : ChannelId)
  | depositToChannel (id : ChannelId)
  | withdrawFromChannel (id : ChannelId)
  deriving DecidableEq

namespace Action

/-- The name of the function in the contract. -/
def operation : Action → String
  | approve .. => "approve"
  | deposit .. => "depositToVault"
  | withdraw .. => "withdrawFromVault"
  | createChannel _ => "createChannel"
  | checkpoint _ => "checkpointChannel"
  | challenge _ => "challengeChannel"
  | close _ => "closeChannel"
  | depositToChannel _ => "depositToChannel"
  | withdrawFromChannel _ => "withdrawFromChannel"

/-- The action as messages spell it. -/
def describe : Action → String
  | approve token spender amount =>
    transfer "Approve" [("token", token), ("spender", spender)] amount
  | deposit node token amount => transfer "Deposit" [("node", node), ("token", token)] amount
  | withdraw recipient token amount =>
    transfer "Withdraw" [("to", recipient), ("token", token)] amount
  | createChannel id => onChannel "CreateChannel" id
  | checkpoint id => onChannel "Checkpoint" id
  | challenge id => onChannel "Challenge" id
  | close id => onChannel "Close" id
  | depositToChannel id => onChannel "DepositToChannel" id
  | withdrawFromChannel id => onChannel "WithdrawFromChannel" id
where
  /-- An action on an amount. -/
  transfer (name : String) (addresses : List (String × Address)) (amount : UInt256) : String :=
    Record.record name
      (addresses.map (fun p => (p.1, p.2.toHex)) ++ [("amount", UInt256.toText amount)])
  /-- An action on a channel. -/
  onChannel (name : String) (id : ChannelId) : String :=
    Record.record name [("channel_id", id.toHex)]

end Action

/-- A call that is ready to be sent. -/
structure Call where
  action : Action
  /-- The contract that is called. -/
  target : Address
  data : Bytes
  /-- The amount of the native asset that goes with the call. -/
  value : UInt256
  deriving DecidableEq

namespace Call

/-- The name of the function in the contract. -/
def operation (c : Call) : String := c.action.operation

end Call

end PaymentChannel
