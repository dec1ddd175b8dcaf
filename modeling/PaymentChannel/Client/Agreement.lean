import PaymentChannel.Client.Sending

/-!
# States that the parties agreed on

The contract takes a state as agreed on if it carries the signatures of both parties. Nothing else
is handed to it: each of these operations refuses a state with fewer signatures before asking
anybody.
-/

namespace PaymentChannel.Client

/-- Has the contract prepare a call with a state that the parties agreed on. -/
def agreedCall (operation : String) (id : ChannelId) (candidate : State) (plan : Plan) :
    Operation Call := do
  Operation.ofExcept (requireAgreed candidate)
  (Operation.prepare plan).asCall operation (channelContext id)

/-- The call that makes a state the last one of an open channel. -/
def checkpointCall (id : ChannelId) (candidate : State) (proofs : List State) : Operation Call :=
  agreedCall "checkpoint" id candidate (.checkpoint id candidate proofs)

/-- The call that closes a channel with a state that carries all signatures. -/
def closeCall (id : ChannelId) (candidate : State) (proofs : List State) : Operation Call :=
  agreedCall "close" id candidate (.close id candidate proofs)

/-- The call that moves funds from the vault into a channel. -/
def channelDepositCall (id : ChannelId) (candidate : State) : Operation Call :=
  agreedCall "depositToChannel" id candidate (.depositToChannel id candidate)

/-- The call that moves funds from a channel into the vault. -/
def channelWithdrawalCall (id : ChannelId) (candidate : State) : Operation Call :=
  agreedCall "withdrawFromChannel" id candidate (.withdrawFromChannel id candidate)

/-- Makes a state the last one of an open channel. -/
def checkpoint (id : ChannelId) (candidate : State) (proofs : List State) : Operation Hash := do
  sendOne (← checkpointCall id candidate proofs)

end PaymentChannel.Client
