import PaymentChannel.Client.Basic

/-!
# Sending calls

Calls that have been prepared are sent strictly one after the other, as later ones rely on what the
earlier ones did. Nothing is taken back: if one cannot be sent, those before it stay.
-/

namespace PaymentChannel.Client

/-- Sends a single call. -/
def sendOne (call : Call) : Operation Hash :=
  (Operation.send call).asTransaction call.operation call.action.describe

/-- Sends calls as the steps from `step` on of a sequence of `total`. -/
def sendFrom (total : Nat) : (step : Nat) → List Call → Operation (List Hash)
  | _, [] => pure []
  | step, call :: calls => do
    let context := s!"step {step} of {total}: {call.action.describe}"
    let hash ← (Operation.send call).asTransaction call.operation context
    let hashes ← sendFrom total (step + 1) calls
    pure (hash :: hashes)

/-- Sends calls one after the other, up to the first that cannot be sent. -/
def sendAll (calls : List Call) : Operation (List Hash) := sendFrom calls.length 1 calls

end PaymentChannel.Client
