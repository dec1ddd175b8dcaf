import PaymentChannel.Proofs.Channel.Preimage
import PaymentChannel.Proofs.Client.Requests

/-!
# Checks and signatures

Before the account signs a state, it checks what it was given. A check is a chain of smaller ones,
which passes just if all of them do (`bind_eq_ok_iff`). What passes can always be hashed, so that
from there on only the signer can fail (`transcript_signState`).
-/

namespace PaymentChannel

/-- A condition that is refused does not hold if the check goes on. -/
theorem ite_throw_eq_ok_iff {ε α : Type} {p : Prop} [Decidable p] {e : ε} {x : Except ε α} {a : α} :
    (if p then throw e else x) = .ok a ↔ ¬p ∧ x = .ok a := by
  by_cases h : p
  · rw [if_pos h]
    exact ⟨nofun, fun ⟨h', _⟩ => absurd h h'⟩
  · rw [if_neg h]
    exact ⟨fun h' => ⟨h, h'⟩, And.right⟩

theorem Configuration.need_eq_ok_iff {name : String} {address : Option Address} {a : Address} :
    need name address = .ok a ↔ address = some a ∧ a.isZero = false := by
  cases address with
  | none => exact ⟨nofun, fun h => nomatch h.1⟩
  | some b =>
    refine ite_throw_eq_ok_iff.trans ?_
    rw [Bool.not_eq_true]
    constructor
    · rintro ⟨nonzero, ⟨⟩⟩
      exact ⟨rfl, nonzero⟩
    · rintro ⟨⟨⟩, nonzero⟩
      exact ⟨nonzero, rfl⟩

namespace Client

variable (c : Client)

theorem requireProtocol_eq_ok_iff {p : Protocol} :
    c.requireProtocol p = .ok () ↔ p = c.configuration.protocol := by
  unfold requireProtocol
  by_cases h : p = c.configuration.protocol
  · rw [if_pos h]
    exact ⟨fun _ => h, fun _ => rfl⟩
  · rw [if_neg h]
    exact ⟨nofun, fun h' => absurd h' h⟩

/-- A state is hashed and signed, and only the signer can fail. -/
theorem transcript_signState {id : ChannelId} {s : State} {es : List Exchange}
    {result : Except Error Signature} :
    (signState id s).Transcript es result ↔ ∃ hash answer, stateHash id s = .ok hash ∧
      es = [⟨.signState hash ⟨id, s.protocol, s.version, s.intent, .state⟩, answer⟩] ∧
      result = answer.mapError .signing := by
  have hashed : signState id s = Operation.sign (.perform (.signState (keccak256 (s.packing id))
      ⟨id, s.protocol, s.version, s.intent, .state⟩)) := by
    rw [signState, stateHash_eq]
    rfl
  rw [hashed, stateHash_eq]
  refine Operation.transcript_sign.trans ?_
  constructor
  · rintro ⟨answer, asked, result_eq⟩
    exact ⟨_, answer, rfl, Flow.transcript_perform.1 asked, result_eq⟩
  · rintro ⟨_, answer, ⟨⟩, rfl, result_eq⟩
    exact ⟨answer, Flow.transcript_perform.2 rfl, result_eq⟩

end Client

end PaymentChannel
