import PaymentChannel.Client.Sending

/-!
# Funds in the vault

Funds are deposited in the vault of the custody contract before they go into a channel, and
withdrawn from there. A token has to be approved first, unless it has been approved for as much
already; the native asset needs no approval.
-/

namespace PaymentChannel.Client

/-- How messages spell a deposit. -/
def depositContext (node token : Address) (amount : UInt256) : String :=
  s!"node={node} token={token} amount={UInt256.toText amount}"

/-- The approval that a deposit needs, if it needs one. -/
def approvalCalls (c : Client) (token : Address) (amount : UInt256) (context : String) :
    Operation (List Call) := do
  -- The native asset is sent along with the call, so no one has to take it.
  if token.isZero then return []
  let allowed : UInt256 ←
    (Operation.view (.allowance token c.account c.custody)).asRead "allowance" context
  if allowed < amount then
    let call ← (Operation.prepare (.approve token c.custody amount)).asCall "approve" context
    return [call]
  else return []

/-- The calls of a deposit on behalf of a node. -/
def depositCalls (c : Client) (node token : Address) (amount : UInt256) :
    Operation (List Call) := do
  let context := depositContext node token amount
  let approval ← c.approvalCalls token amount context
  let call ← (Operation.prepare (.deposit node token amount)).asCall "deposit" context
  pure (approval ++ [call])

/-- The call of a withdrawal to the account. -/
def withdrawalCall (c : Client) (token : Address) (amount : UInt256) : Operation Call := do
  if amount = 0 then throw (.zeroParameter "amount")
  (Operation.prepare (.withdraw c.account token amount)).asCall "withdraw"
    s!"to={c.account} token={token} amount={UInt256.toText amount}"

/-- Deposits funds on behalf of a node. -/
def deposit (c : Client) (node token : Address) (amount : UInt256) : Operation (List Hash) := do
  sendAll (← c.depositCalls node token amount)

/-- Withdraws funds that are not in a channel. -/
def withdraw (c : Client) (token : Address) (amount : UInt256) : Operation Hash := do
  sendOne (← c.withdrawalCall token amount)

end PaymentChannel.Client
