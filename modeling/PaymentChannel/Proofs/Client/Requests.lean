import PaymentChannel.Client.Agreement
import PaymentChannel.Client.Closing
import PaymentChannel.Client.Dispute
import PaymentChannel.Client.Opening
import PaymentChannel.Client.Reading
import PaymentChannel.Proofs.Contract.Ensures

/-!
# What the operations of a client ask for

For each operation, the requests that it may make: whatever condition these satisfy, the operation
ensures of all its requests. What an operation returns is stated where a later step relies on it: a
channel is created as `Opens` has it, and a state is handed to the contract as agreed on only if it
carries enough signatures (`agreedCall`).
-/

namespace PaymentChannel.Client

open Operation

variable {P : Request → Prop} (c : Client)

/-! ## Reading and sending -/

/-- A read asks its one question. -/
theorem ensures_read (v : View) {operation context : String} (read : P (.view v)) :
    Ensures P (fun _ => True) ((view v).asRead operation context) :=
  (Ensures.view read).adapt _

/-- One call is sent at once. -/
theorem ensures_sendOne {call : Call} (send : P (.send call)) :
    Ensures P (fun _ => True) (sendOne call) :=
  (Ensures.send send).adapt _

/-- Whatever step they start with, no other calls are sent than the given ones. -/
theorem ensures_sendFrom {total : Nat} {calls : List Call} (step : Nat)
    (send : ∀ call ∈ calls, P (.send call)) :
    Ensures P (fun _ => True) (sendFrom total step calls) := by
  induction calls generalizing step with
  | nil => exact .pure trivial
  | cons call calls ih =>
    refine ((Ensures.send (send call List.mem_cons_self)).adapt _).bind fun hash _ => ?_
    have rest := ih (step + 1) fun call' h => send call' (List.mem_cons_of_mem _ h)
    exact rest.bind fun hashes _ => .pure trivial

/-- No other calls are sent than the given ones. -/
theorem ensures_sendAll {calls : List Call} (send : ∀ call ∈ calls, P (.send call)) :
    Ensures P (fun _ => True) (sendAll calls) :=
  ensures_sendFrom 1 send

/-! ## States that the parties agreed on -/

/-- A state is agreed on if there are enough signatures. -/
theorem requireAgreed_eq_ok_iff (s : State) :
    requireAgreed s = .ok () ↔ agreedSignatures ≤ s.signatures.length := by
  rw [requireAgreed, State.signatureCount_eq_length]
  by_cases h : s.signatures.length < agreedSignatures
  · rw [if_pos h]
    exact ⟨nofun, fun h' => absurd h' (Nat.not_le.2 h)⟩
  · rw [if_neg h]
    exact ⟨fun _ => Nat.le_of_not_lt h, fun _ => rfl⟩

/-- Nothing is prepared for a state that is not agreed on. -/
theorem ensures_agreedCall {operation : String} {id : ChannelId} {candidate : State} {plan : Plan}
    (prepare : agreedSignatures ≤ candidate.signatures.length → P (.prepare plan)) :
    Ensures P (fun _ => True) (agreedCall operation id candidate plan) := by
  refine (Ensures.ofExcept fun _ h => (requireAgreed_eq_ok_iff candidate).1 h).bind fun _ h => ?_
  exact (Ensures.prepare (prepare h)).adapt _

/-! ## Disputes -/

/-- A challenge looks at the record of the channel before anything is signed, if it is signed at
    all. -/
theorem ensures_challengeSignature {id : ChannelId} {candidate : State} {given : Option Signature}
    (read : P (.view (.channelRecord id))) (sign : ∀ party hash, P (.signHash party hash)) :
    Ensures P (fun _ => True) (c.challengeSignature id candidate given) := by
  cases given with
  | some signature => exact .pure trivial
  | none =>
    refine (ensures_read _ read).bind fun channel _ => ?_
    refine (Ensures.ofExcept fun _ _ => trivial).bind fun party _ => ?_
    refine (Ensures.ofExcept fun _ _ => trivial).bind fun hash _ => ?_
    exact .signHash (sign party hash)

/-- A challenge is prepared with whatever signature it has. -/
theorem ensures_challengeCall {id : ChannelId} {candidate : State} {proofs : List State}
    {given : Option Signature} (read : P (.view (.channelRecord id)))
    (sign : ∀ party hash, P (.signHash party hash))
    (prepare : ∀ signature, P (.prepare (.challenge id candidate proofs signature))) :
    Ensures P (fun _ => True) (c.challengeCall id candidate proofs given) := by
  refine (c.ensures_challengeSignature read sign).bind fun signature _ => ?_
  exact (Ensures.prepare (prepare signature)).adapt _

/-! ## Closing channels -/

/-- A state is signed by asking the signer once. -/
theorem ensures_signState {id : ChannelId} {s : State}
    (sign : ∀ hash context, P (.signState hash context)) :
    Ensures P (fun _ => True) (signState id s) := by
  refine (Ensures.ofExcept fun _ _ => trivial).bind fun hash _ => ?_
  exact .signState (sign hash _)

/-- A final state asks for nothing but its signature. -/
theorem ensures_finalState {closing : Closing}
    (sign : ∀ hash context, P (.signState hash context)) :
    Ensures P (fun _ => True) (c.finalState closing) := by
  refine (Ensures.ofExcept fun _ _ => trivial).bind fun unsigned _ => ?_
  exact (ensures_signState sign).bind fun signature _ => .pure trivial

/-- A close is prepared for a state with enough signatures, and without proofs. -/
theorem ensures_cooperativeCloseCall {closing : Closing}
    (sign : ∀ hash context, P (.signState hash context))
    (prepare : ∀ s : State, agreedSignatures ≤ s.signatures.length →
      P (.prepare (.close closing.id s []))) :
    Ensures P (fun _ => True) (c.cooperativeCloseCall closing) := by
  refine (c.ensures_finalState sign).bind fun s _ => ?_
  exact (ensures_agreedCall (prepare s)).bind fun call _ => .pure trivial

/-! ## Funds in the vault -/

/-- An approval reads the allowance, and asks for nothing but the amount. -/
theorem ensures_approvalCalls {token : Address} {amount : UInt256} {context : String}
    (read : P (.view (.allowance token c.account c.custody)))
    (approve : P (.prepare (.approve token c.custody amount))) :
    Ensures P (fun _ => True) (c.approvalCalls token amount context) := by
  unfold approvalCalls
  by_cases native : token.isZero
  · rw [if_pos native]
    exact .pure trivial
  · rw [if_neg native]
    refine (ensures_read _ read).bind fun (allowed : UInt256) _ => ?_
    by_cases low : allowed < amount
    · rw [if_pos low]
      exact ((Ensures.prepare approve).adapt _).bind fun call _ => .pure trivial
    · rw [if_neg low]
      exact .pure trivial

/-- A deposit may have an approval before it. -/
theorem ensures_depositCalls {node token : Address} {amount : UInt256}
    (read : P (.view (.allowance token c.account c.custody)))
    (approve : P (.prepare (.approve token c.custody amount)))
    (deposit : P (.prepare (.deposit node token amount))) :
    Ensures P (fun _ => True) (c.depositCalls node token amount) := by
  refine (c.ensures_approvalCalls read approve).bind fun approval _ => ?_
  exact ((Ensures.prepare deposit).adapt _).bind fun call _ => .pure trivial

/-- A withdrawal goes to the account. -/
theorem ensures_withdrawalCall {token : Address} {amount : UInt256}
    (withdraw : P (.prepare (.withdraw c.account token amount))) :
    Ensures P (fun _ => True) (c.withdrawalCall token amount) := by
  unfold withdrawalCall
  by_cases zero : amount = 0
  · rw [if_pos zero]
    -- The error is all there is: the preparation after it is never reached.
    exact .throw (.zeroParameter "amount")
  · rw [if_neg zero]
    exact (Ensures.prepare withdraw).adapt _

/-! ## Opening channels -/

/-- A channel is opened by the account, and if it has ledgers, with the initial state. -/
structure Opens (d : Definition) (s : State) : Prop where
  protocol_eq : d.protocol = s.protocol
  user_eq : d.user = c.account
  initial : s.protocol = .v1 → s.version = some 0 ∧ s.intent = some .initial

variable {c} in
/-- Signatures do not matter to how a channel is opened. -/
theorem Opens.withSignatures {d : Definition} {s : State} (h : c.Opens d s) (own : Signature)
    (others : List Signature) : c.Opens d (s.withSignatures own others) := by
  cases s with
  | legacy s => exact ⟨h.protocol_eq, h.user_eq, nofun⟩
  | v1 s => exact ⟨h.protocol_eq, h.user_eq, h.initial⟩

/-- What passes the check can be opened. -/
theorem opens_of_checkOpening {definition : Option LedgerChannel} {initial : Option LedgerState}
    {opened : Definition × State} (h : c.checkOpening definition initial = .ok opened) :
    c.Opens opened.1 opened.2 := by
  rcases definition with _ | definition
  · exact nomatch h
  rcases initial with _ | state
  · exact nomatch h
  unfold checkOpening at h
  by_cases other : state.intent ≠ .initial ∨ state.version ≠ 0
  · simp only [if_pos other] at h
    exact nomatch h
  by_cases foreign : definition.user ≠ c.account
  · simp only [if_neg other, if_pos foreign] at h
    exact nomatch h
  simp only [if_neg other, if_neg foreign] at h
  cases h
  simp only [not_or, Decidable.not_not] at other foreign
  exact ⟨rfl, foreign, fun _ => ⟨congrArg some other.2, congrArg some other.1⟩⟩

/-- A legacy opening asks for a nonce at most, and what it makes can be opened. -/
theorem ensures_legacyOpening {o : LegacyOpening} (draw : P (.nonce c.account)) :
    Ensures P (fun opened => c.Opens opened.1 opened.2) (c.legacyOpening o) := by
  refine (Ensures.ofExcept fun _ _ => trivial).bind fun ⟨adjudicator, guest, own, other⟩ _ => ?_
  rcases o with ⟨token, amounts, data, nonce | nonce⟩
  · exact (Ensures.nonce draw).bind fun nonce _ => .pure ⟨rfl, rfl, nofun⟩
  · exact .pure ⟨rfl, rfl, nofun⟩

/-- The definition and the state with which a channel is opened, before the account signs it. -/
def opened : Opening → Operation (Definition × State)
  | .v1 definition initial => Operation.ofExcept (c.checkOpening definition initial)
  | .legacy o => c.legacyOpening o

/-- Has the account sign the state with which a channel is opened. -/
def signOpened (d : Definition) (s : State) : Operation PreparedChannel := do
  let id ← Operation.ofEncoding (d.channelId c.configuration.chainId)
  let signature ← signState id s
  pure ⟨id, d, s.withSignatures signature []⟩

/-- Both protocols go on in the same way once it is known what is opened. -/
theorem initialState_eq (o : Opening) :
    c.initialState o = (do
      Operation.ofExcept (c.requireProtocol o.protocol)
      let (d, s) ← c.opened o
      c.signOpened d s) := by
  cases o <;> rfl

/-- Whatever is made of an opening can be opened. -/
theorem ensures_opened {o : Opening} (draw : P (.nonce c.account)) :
    Ensures P (fun opened => c.Opens opened.1 opened.2) (c.opened o) := by
  cases o with
  | legacy o => exact c.ensures_legacyOpening draw
  | v1 definition initial => exact .ofExcept fun _ h => c.opens_of_checkOpening h

/-- The account is the only one that has signed the state of a prepared channel. -/
theorem ensures_initialState {o : Opening} (draw : P (.nonce c.account))
    (sign : ∀ hash context, P (.signState hash context)) :
    Ensures P (fun prepared => c.Opens prepared.definition prepared.initial ∧
      prepared.initial.signatures.length = 1) (c.initialState o) := by
  rw [initialState_eq]
  refine (Ensures.ofExcept fun _ _ => trivial).bind fun _ _ => ?_
  refine (c.ensures_opened draw).bind fun ⟨d, s⟩ opens => ?_
  refine (Ensures.ofExcept fun _ _ => trivial).bind fun id _ => ?_
  refine (ensures_signState sign).bind fun signature _ => .pure ⟨opens.withSignatures _ _, ?_⟩
  exact congrArg List.length
    (State.signatures_withSignatures signature [] s fun _ => Nat.zero_le 1)

/-- A channel is created with the account's signature only. -/
theorem ensures_creationCall {o : Opening} (draw : P (.nonce c.account))
    (sign : ∀ hash context, P (.signState hash context))
    (create : ∀ d s, c.Opens d s → s.signatures.length = 1 → P (.prepare (.createChannel d s))) :
    Ensures P (fun _ => True) (c.creationCall o) := by
  refine ((c.ensures_initialState draw sign).adapt _).bind fun prepared ⟨opens, single⟩ => ?_
  refine ((Ensures.prepare (create _ _ opens single)).adapt _).bind fun call _ => ?_
  exact .pure trivial

/-- A deposit with a creation asks for what the two of them do. -/
theorem ensures_depositAndCreationCalls {node token : Address} {amount : UInt256} {o : Opening}
    (read : P (.view (.allowance token c.account c.custody)))
    (approve : P (.prepare (.approve token c.custody amount)))
    (deposit : P (.prepare (.deposit node token amount))) (draw : P (.nonce c.account))
    (sign : ∀ hash context, P (.signState hash context))
    (create : ∀ d s, c.Opens d s → s.signatures.length = 1 → P (.prepare (.createChannel d s))) :
    Ensures P (fun _ => True) (c.depositAndCreationCalls node token amount o) := by
  refine ((c.ensures_depositCalls read approve deposit).adapt _).bind fun deposits _ => ?_
  exact (c.ensures_creationCall draw sign create).bind fun _ _ => .pure trivial

end PaymentChannel.Client
