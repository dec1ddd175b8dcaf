import PaymentChannel.Client.Agreement

/-!
# Closing channels

The parties agree on what a channel ends with, and the other one signs first. The account checks
what it is given, signs in turn, and closes the channel with both signatures.
-/

namespace PaymentChannel

/-- What a channel is to end with. -/
inductive FinalContent where
  | legacy (data : Option Bytes) (allocations : List Allocation)
  | v1 (version : UInt64) (metadata : Bytes32) (home nonHome : Ledger)

namespace FinalContent

/-- The protocol of a channel to be closed. -/
def protocol : FinalContent → Protocol
  | legacy .. => .legacy
  | v1 .. => .v1

/-- The state with this content, without signatures. -/
def toState : FinalContent → Except Error State
  | v1 version metadata home nonHome =>
    pure (.v1 (.unsigned version .terminal metadata home nonHome))
  | legacy data allocations => do
    let some data := data | throw (.missingParameter "state data")
    match allocations with
    | [first, second] => pure (.legacy ⟨data, (first, second), []⟩)
    | allocations => throw (.wrongCount "allocations" 2 allocations.length)

end FinalContent

/-- A channel to be closed, with the signatures that there are already. -/
structure Closing where
  id : ChannelId
  content : Option FinalContent
  signatures : List Signature

namespace Client

/-- Checks a channel that is to be closed. A state with ledgers has room for one signature besides
    the account's. -/
def checkClosing (c : Client) (closing : Closing) : Except Error State := do
  let some content := closing.content | throw (.missingParameter "final state")
  c.requireProtocol content.protocol
  if closing.signatures.isEmpty then throw (.missingParameter "remote signatures")
  if content.protocol = .v1 ∧ closing.signatures.length ≠ 1 then
    throw (.invalidParameter "remote_signatures"
      s!"v1 takes exactly one, got {closing.signatures.length}")
  -- The content itself is looked at last.
  content.toState

/-- The final state with all signatures, the account's first. -/
def finalState (c : Client) (closing : Closing) : Operation State := do
  let unsigned ← Operation.ofExcept (c.checkClosing closing)
  let signature ← signState closing.id unsigned
  pure (unsigned.withSignatures signature closing.signatures)

/-- The final state with all signatures, and the call that closes the channel with it. -/
def cooperativeCloseCall (c : Client) (closing : Closing) : Operation (State × Call) := do
  let state ← c.finalState closing
  let call ← closeCall closing.id state []
  pure (state, call)

/-- Signs the final state and closes the channel. -/
def closeChannel (c : Client) (closing : Closing) : Operation (State × Hash) := do
  let (state, call) ← c.cooperativeCloseCall closing
  let hash ← sendOne call
  pure (state, hash)

end Client

end PaymentChannel
