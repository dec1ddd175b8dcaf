import PaymentChannel.Proofs.Contract.Preparation
import PaymentChannel.Proofs.Contract.Failure
import PaymentChannel.Proofs.Net.Answers

/-!
# What a net goes by

A net answers from what it has been set to, and that stays the same while it is asked. So what it
answers in a run is known from the start: the signers, the nonces, the allowance and the channels
are those of the net before (`LocalNet.sign_run` and the like). Its logs list every operation that
was asked of a contract, failed or not (`LocalNet.log_run`), and if nothing fails, its submissions
are those of all the calls that were prepared (`LocalNet.submissions_run_of_unfailed`).
-/

namespace PaymentChannel

/-- The operation that is asked of an endpoint, if it is one of its own. -/
def Request.operation? (endpoint : Endpoint) : Request → Option String
  | view v => if v.endpoint = endpoint then some v.operation else none
  | prepare p => if p.endpoint = endpoint then some p.operation else none
  | _ => none

/-- The operations that were asked of an endpoint, in order. -/
def asked (endpoint : Endpoint) (es : List Exchange) : List String :=
  es.filterMap fun x => x.request.operation? endpoint

/-- What an endpoint is asked one after the other. -/
theorem asked_append (endpoint : Endpoint) (es fs : List Exchange) :
    asked endpoint (es ++ fs) = asked endpoint es ++ asked endpoint fs := List.filterMap_append

/-- The submissions of the calls that were prepared, in order. -/
def submitted (es : List Exchange) : List Submission :=
  (preparations es).filterMap fun prepared => prepared.1.toSubmission?

/-- What is submitted one after the other. -/
theorem submitted_append (es fs : List Exchange) :
    submitted (es ++ fs) = submitted es ++ submitted fs := by
  rw [submitted, preparations_append, List.filterMap_append]
  rfl

namespace LocalNet

variable (net : LocalNet)

/-! ## Logs -/

/-- What an endpoint has recorded; the sender records no operations. -/
def log : Endpoint → List String
  | .custody => net.custodyLog
  | .token => net.tokenLog
  | .sender => []

/-- A record is added to the log of its endpoint only. -/
theorem log_record {endpoint : Endpoint} (h : endpoint ≠ .sender) (operation : String)
    (other : Endpoint) : (net.record endpoint operation).log other =
      net.log other ++ (if endpoint = other then some operation else none).toList := by
  cases endpoint with
  | sender => exact absurd rfl h
  | custody =>
    cases other with
    | custody => rfl
    | token | sender => exact (List.append_nil _).symm
  | token =>
    cases other with
    | token => rfl
    | custody | sender => exact (List.append_nil _).symm

@[simp] theorem log_submit (p : Plan) : (net.submit p).log = net.log := by
  unfold submit
  cases p.submission? <;> rfl

/-- The sender is not read. -/
theorem endpoint_view_ne (v : View) : v.endpoint ≠ .sender := by
  cases v <;> exact nofun

/-- The sender does not prepare calls. -/
theorem endpoint_plan_ne (p : Plan) : p.endpoint ≠ .sender := by
  cases p <;> exact nofun

/-- An endpoint logs just what it is asked. -/
theorem Leaves.log_eq {net after : LocalNet} {x : Exchange} (h : net.Leaves x after)
    (endpoint : Endpoint) :
    after.log endpoint = net.log endpoint ++ (x.request.operation? endpoint).toList := by
  cases h with
  | read v result => exact net.log_record (endpoint_view_ne v) v.operation endpoint
  | refused p e => exact net.log_record (endpoint_plan_ne p) p.operation endpoint
  | handed p result =>
    rw [log_record _ (endpoint_plan_ne p), log_submit]
    rfl
  | unsent | sent | signedState | signedHash | drawn =>
    cases endpoint <;> exact (List.append_nil _).symm

variable {α : Type} (op : Operation α)

/-- A run is transcribed by its exchanges. -/
theorem transcript_run : op.Transcript (op.run.exchanges answer net) (net.run op).1 :=
  Flow.transcript_exchanges answer op.run net

/-- What an endpoint records in the course of a run is all that it was asked. -/
theorem log_run (endpoint : Endpoint) : (net.run op).2.log endpoint =
    net.log endpoint ++ asked endpoint (op.run.exchanges answer net) := by
  refine op.run.run_invariant answer
    (I := fun es net' => net'.log endpoint = net.log endpoint ++ asked endpoint es)
    (List.append_nil _).symm ?_
  intro es net' r log_eq
  rw [(net'.leaves_answer r).log_eq, log_eq, List.append_assoc, asked_append]
  rfl

/-! ## Submissions -/

/-- What is asked without a failure is submitted once. -/
theorem Leaves.submissions_eq {net after : LocalNet} {x : Exchange} (h : net.Leaves x after)
    (unfailed : x.failure? = none) : after.submissions = net.submissions ++ submitted [x] := by
  cases h with
  | read v result => exact (submissions_record ..).trans (List.append_nil _).symm
  | refused p e => exact nomatch unfailed
  | handed p result =>
    cases result with
    | error e => exact nomatch unfailed
    | ok call =>
      rw [submissions_record, submissions_submit]
      simp only [submitted, preparations, List.filterMap_cons, Exchange.preparation?,
        List.filterMap_nil]
      cases p.toSubmission? <;> rfl
  | unsent | sent | signedState | signedHash | drawn => exact (List.append_nil _).symm

/-- If nothing fails in the course of a run, all states of the calls that it had prepared have been
    handed over. -/
theorem submissions_run_of_unfailed
    (unfailed : ∀ x ∈ op.run.exchanges answer net, x.failure? = none) :
    (net.run op).2.submissions =
      net.submissions ++ submitted (op.run.exchanges answer net) := by
  refine op.run.run_invariant answer
    (I := fun es net' => (∀ x ∈ es, x.failure? = none) →
      net'.submissions = net.submissions ++ submitted es)
    (fun _ => (List.append_nil _).symm) ?_ unfailed
  intro es net' r submissions_eq unfailed
  have last := unfailed _ (List.mem_append_right _ (List.mem_singleton_self _))
  have before := submissions_eq fun x hx => unfailed x (List.mem_append_left _ hx)
  rw [(net'.leaves_answer r).submissions_eq last, before, List.append_assoc, submitted_append]

/-! ## What stays the same -/

/-- What a net goes by when it signs, draws a nonce or reads the allowance. -/
def settings : Signer × NonceSource × UInt256 := (net.own, net.nonces, net.allowance)

/-- Answers do not change how a net is set. -/
theorem settings_answer (r : Request) : (answer r net).2.settings = net.settings :=
  (net.leaves_answer r).unchanged (fun _ endpoint _ => by cases endpoint <;> rfl)
    (fun _ p => by unfold submit; cases p.submission? <;> rfl) (fun _ _ => rfl) fun _ _ => rfl

/-- What is true of the answers of all nets that agree with this one in something that no answer
    changes is true of a whole run. -/
theorem answered_run_of_unchanged {β : Type} {f : LocalNet → β}
    (unchanged : ∀ net r, f (answer r net).2 = f net) {P : Exchange → Prop}
    (answered : ∀ net' r, f net' = f net → P ⟨r, (answer r net').1⟩) :
    ∀ x ∈ op.run.exchanges answer net, P x := by
  suffices h : f (net.run op).2 = f net ∧ ∀ x ∈ op.run.exchanges answer net, P x from h.2
  refine op.run.run_invariant answer (I := fun es net' => f net' = f net ∧ ∀ x ∈ es, P x)
    ⟨rfl, List.forall_mem_nil _⟩ ?_
  rintro es net' r ⟨same, satisfied⟩
  refine ⟨(unchanged net' r).trans same, fun x hx => ?_⟩
  rcases List.mem_append.1 hx with hx | hx
  · exact satisfied x hx
  · rw [List.mem_singleton.1 hx]
    exact answered net' r same

/-- What is true of the answers of all nets with these settings is true of a whole run. -/
theorem answered_run {P : Exchange → Prop}
    (answered : ∀ net' r, settings net' = net.settings → P ⟨r, (answer r net').1⟩) :
    ∀ x ∈ op.run.exchanges answer net, P x :=
  net.answered_run_of_unchanged op settings_answer answered

/-- Whatever the account signs in the course of a run is signed by the signer of the net. -/
theorem sign_run {hash : Hash} {context : SigningContext} {result : Except SignError Signature}
    (h : ⟨.signState hash context, result⟩ ∈ op.run.exchanges answer net) :
    result = net.own.sign hash := by
  refine net.answered_run op (P := fun x => ∀ result,
    x = ⟨.signState hash context, result⟩ → result = net.own.sign hash) ?_ _ h _ rfl
  rintro net' _ same _ ⟨⟩
  exact congrArg (fun settings => settings.1.sign hash) same

/-- The nonces that are drawn in the course of a run are those of the net. -/
theorem nonce_run {opener : Address} {n : UInt64}
    (h : ⟨.nonce opener, n⟩ ∈ op.run.exchanges answer net) : n = net.nonces.next opener := by
  refine net.answered_run op (P := fun x => ∀ n,
    x = ⟨.nonce opener, n⟩ → n = net.nonces.next opener) ?_ _ h _ rfl
  rintro net' _ same _ ⟨⟩
  exact congrArg (fun settings => settings.2.1.next opener) same

/-- A contract that answers says what is there. -/
theorem value_of_readContract {v : View} {a : v.Answer} (h : (net.readContract v).1 = .ok a) :
    net.value v = .ok a := by
  unfold readContract at h
  by_cases failing : net.isFailing v.endpoint v.operation
  · simp only [if_pos failing] at h
    exact nomatch h
  · simp only [if_neg failing] at h
    exact h

/-- What is read is the value that the net has for the view. -/
theorem value_of_answerView {v : View} {a : v.Answer} (h : (net.answerView v).1 = .ok a) :
    net.value v = .ok a := by
  unfold answerView at h
  cases refusal_eq : net.refusal? v.endpoint v.operation with
  | some e =>
    rw [refusal_eq] at h
    exact nomatch h
  | none =>
    rw [refusal_eq] at h
    exact net.value_of_readContract h

/-- The allowance that is read in the course of a run is that of the net. -/
theorem allowance_run {token owner spender : Address} {allowed : UInt256}
    (h : ⟨.view (.allowance token owner spender), .ok allowed⟩ ∈ op.run.exchanges answer net) :
    allowed = net.allowance := by
  refine net.answered_run op (P := fun x => ∀ a : UInt256,
    x = ⟨.view (.allowance token owner spender), .ok a⟩ → a = net.allowance) ?_ _ h _ rfl
  rintro net' r same a read
  obtain ⟨rfl, read⟩ := Exchange.mk.inj read
  cases net'.value_of_answerView (eq_of_heq read)
  exact congrArg (fun settings => settings.2.2) same

/-! ## Signers and channels -/

/-- Answers do not change the signers. -/
theorem signerOf_answer (r : Request) : (answer r net).2.signerOf = net.signerOf :=
  (net.leaves_answer r).unchanged (fun _ endpoint _ => by cases endpoint <;> rfl)
    (fun _ p => by unfold submit; cases p.submission? <;> rfl) (fun _ _ => rfl) fun _ _ => rfl

/-- Answers do not change what is known of channels. -/
theorem channels_answer (r : Request) : (answer r net).2.channels = net.channels :=
  (net.leaves_answer r).unchanged (fun _ endpoint _ => by cases endpoint <;> rfl)
    (fun _ p => by unfold submit; cases p.submission? <;> rfl) (fun _ _ => rfl) fun _ _ => rfl

/-- What is signed in the course of a run is signed by the signer that the net has for the party. -/
theorem signHash_run {party : Party} {hash : Hash} {signature : Signature}
    (h : ⟨.signHash party hash, .ok signature⟩ ∈ op.run.exchanges answer net) :
    ∃ signer, net.signerOf party = some signer ∧ signer.sign hash = .ok signature := by
  refine net.answered_run_of_unchanged op signerOf_answer
    (P := fun x => ∀ signature : Signature, x = ⟨.signHash party hash, .ok signature⟩ →
      ∃ signer, net.signerOf party = some signer ∧ signer.sign hash = .ok signature) ?_ _ h _ rfl
  intro net' r same signature signed
  obtain ⟨rfl, signed⟩ := Exchange.mk.inj signed
  have answered : (net'.answerSign party hash none).1 = .ok signature := eq_of_heq signed
  unfold answerSign at answered
  rw [same] at answered
  cases signer_eq : net.signerOf party with
  | none =>
    rw [signer_eq] at answered
    exact nomatch answered
  | some signer =>
    rw [signer_eq] at answered
    exact ⟨signer, rfl, answered⟩

/-- A channel that is read in the course of a run is the one that the net has. -/
theorem channelRecord_run {id : ChannelId} {channel : ChannelRecord}
    (h : ⟨.view (.channelRecord id), .ok channel⟩ ∈ op.run.exchanges answer net) :
    net.channels.lookup id = some channel := by
  refine net.answered_run_of_unchanged op channels_answer
    (P := fun x => ∀ channel : ChannelRecord, x = ⟨.view (.channelRecord id), .ok channel⟩ →
      net.channels.lookup id = some channel) ?_ _ h _ rfl
  intro net' r same channel read
  obtain ⟨rfl, read⟩ := Exchange.mk.inj read
  have value_eq := net'.value_of_answerView (eq_of_heq read)
  rw [value, same] at value_eq
  cases found : net.channels.lookup id with
  | none =>
    rw [found] at value_eq
    exact nomatch value_eq
  | some other =>
    rw [found] at value_eq
    cases value_eq
    rfl

end LocalNet

end PaymentChannel
