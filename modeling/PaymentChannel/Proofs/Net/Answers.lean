import PaymentChannel.LocalNet
import PaymentChannel.Proofs.Channel.Packing
import PaymentChannel.Proofs.Contract.Transcript

/-!
# What a net records

Each answer of a net in memory changes only its records, and these only grow. What can be left of a
net is listed once, for each kind of request (`LocalNet.Leaves`); of a whole run, it says what has
been sent, what was handed to the custody contract and what was to be signed:

* `LocalNet.sent_run`: the calls that are recorded as sent are those whose sending was answered with
  a hash (`included`), in this order;
* `LocalNet.submissions_run`: what is recorded as a submission is that of a plan that was asked for;
* `LocalNet.signingLog_run`: what is recorded of the signers is what they were asked (`signings`);
* `LocalNet.prepared_run`: a call that was prepared is the one that the net has for the plan.
-/

namespace PaymentChannel

/-- The submission of a plan, as it is recorded. -/
def Plan.toSubmission? (p : Plan) : Option Submission :=
  p.submission?.map fun handed => ⟨p.operation, handed.1, handed.2⟩

/-- The call that an exchange included: one that was sent, and answered with a hash. -/
def Exchange.included? : Exchange → Option Call
  | ⟨.send call, .ok _⟩ => some call
  | _ => none

/-- The calls that were included, in order. -/
def included (es : List Exchange) : List Call := es.filterMap Exchange.included?

/-- The calls that are included one after the other. -/
theorem included_append (es fs : List Exchange) :
    included (es ++ fs) = included es ++ included fs := List.filterMap_append

/-- What a signer was asked in an exchange, and what it answered. -/
def Exchange.signing? : Exchange → Option (SigningRequest × Except SignError Signature)
  | ⟨.signState hash context, answer⟩ => some (⟨.own, hash, some context⟩, answer)
  | ⟨.signHash party hash, answer⟩ => some (⟨party, hash, none⟩, answer)
  | _ => none

/-- What the signers were asked, in order. -/
def signings (es : List Exchange) : List SigningRequest :=
  es.filterMap fun x => x.signing?.map Prod.fst

/-- What signers are asked for one after the other. -/
theorem signings_append (es fs : List Exchange) :
    signings (es ++ fs) = signings es ++ signings fs := List.filterMap_append

namespace LocalNet

variable (net : LocalNet)

@[simp] theorem sent_record (endpoint : Endpoint) (operation : String) :
    (net.record endpoint operation).sent = net.sent := by
  cases endpoint <;> rfl

@[simp] theorem submissions_record (endpoint : Endpoint) (operation : String) :
    (net.record endpoint operation).submissions = net.submissions := by
  cases endpoint <;> rfl

@[simp] theorem signingLog_record (endpoint : Endpoint) (operation : String) :
    (net.record endpoint operation).signingLog = net.signingLog := by
  cases endpoint <;> rfl

@[simp] theorem callOf_record (endpoint : Endpoint) (operation : String) :
    (net.record endpoint operation).callOf = net.callOf := by
  cases endpoint <;> rfl

@[simp] theorem sent_submit (p : Plan) : (net.submit p).sent = net.sent := by
  unfold submit
  cases p.submission? <;> rfl

/-- A net submits a plan once, if there is anything to submit. -/
@[simp] theorem submissions_submit (p : Plan) :
    (net.submit p).submissions = net.submissions ++ p.toSubmission?.toList := by
  unfold submit Plan.toSubmission?
  cases p.submission? with
  | none => exact (List.append_nil _).symm
  | some handed => rfl

@[simp] theorem signingLog_submit (p : Plan) : (net.submit p).signingLog = net.signingLog := by
  unfold submit
  cases p.submission? <;> rfl

@[simp] theorem callOf_submit (p : Plan) : (net.submit p).callOf = net.callOf := by
  unfold submit
  cases p.submission? <;> rfl

/-- The net has a call for every plan. -/
theorem exists_callOf (p : Plan) : ∃ call, net.callOf p = .ok call := by
  cases p with
  | createChannel d s =>
    rw [callOf, channelId_eq]
    exact ⟨_, rfl⟩
  | _ => exact ⟨_, rfl⟩

/-- Reading a contract leaves a record of it, and changes nothing else. -/
theorem readContract_cases (v : View) :
    ∃ result, net.readContract v = (result, net.record v.endpoint v.operation) := by
  unfold readContract
  by_cases failing : net.isFailing v.endpoint v.operation
  · exact ⟨_, if_pos failing⟩
  · exact ⟨_, if_neg failing⟩

/-- A reading is recorded, whether anything is in front of the contract or not. -/
theorem answerView_cases (v : View) :
    ∃ result, net.answerView v = (result, net.record v.endpoint v.operation) := by
  unfold answerView
  cases net.refusal? v.endpoint v.operation with
  | some e => exact ⟨_, rfl⟩
  | none => exact net.readContract_cases v

/-- A contract that is asked for a call has the state handed over, whether it fails or not. -/
theorem prepareCall_cases (p : Plan) :
    ∃ result, net.prepareCall p = (result, (net.submit p).record p.endpoint p.operation) := by
  obtain ⟨call, call_eq⟩ := net.exists_callOf p
  unfold prepareCall
  rw [call_eq]
  by_cases failing : net.isFailing p.endpoint p.operation
  · exact ⟨_, if_pos failing⟩
  · exact ⟨_, if_neg failing⟩

/-- Every preparation is recorded, but what is in front of the contract gets no state. -/
theorem answerPlan_cases (p : Plan) :
    (∃ e, net.answerPlan p = (.error e, net.record p.endpoint p.operation)) ∨
      ∃ result, net.answerPlan p = (result, (net.submit p).record p.endpoint p.operation) := by
  unfold answerPlan
  cases net.refusal? p.endpoint p.operation with
  | some e => exact .inl ⟨e, rfl⟩
  | none => exact .inr (net.prepareCall_cases p)

/-- A call fails without a trace, or it is sent behind the others. -/
theorem sendCall_cases (call : Call) :
    (∃ e, net.sendCall call = (.error e, net)) ∨
      ∃ hash, net.sendCall call = (.ok hash, { net with sent := net.sent ++ [call] }) := by
  unfold sendCall
  by_cases failing : net.failsAfter = some net.sent.length
  · exact .inl ⟨_, if_pos failing⟩
  · exact .inr ⟨_, if_neg failing⟩

/-- Only a call that can be sent is recorded. -/
theorem answerSend_cases (call : Call) :
    (∃ e, net.answerSend call = (.error e, net)) ∨
      ∃ hash, net.answerSend call = (.ok hash, { net with sent := net.sent ++ [call] }) := by
  unfold answerSend
  cases net.refusal? .sender call.operation with
  | some e => exact .inl ⟨e, rfl⟩
  | none => exact net.sendCall_cases call

/-- What a signer is asked is recorded. -/
theorem answerSign_cases (party : Party) (hash : Hash) (context : Option SigningContext) :
    ∃ result, net.answerSign party hash context =
      (result, { net with signingLog := net.signingLog ++ [⟨party, hash, context⟩] }) := by
  unfold answerSign
  cases net.signerOf party with
  | some signer => exact ⟨_, rfl⟩
  | none => exact ⟨_, rfl⟩

/-- What an exchange can leave of a net: the same net with one more record, or with none. -/
inductive Leaves (net : LocalNet) : Exchange → LocalNet → Prop where
  | read (v : View) (result : Except Error v.Answer) :
      Leaves net ⟨.view v, result⟩ (net.record v.endpoint v.operation)
  /-- There is an error in front of the contract. -/
  | refused (p : Plan) (e : Error) :
      Leaves net ⟨.prepare p, .error e⟩ (net.record p.endpoint p.operation)
  /-- The contract has been asked, and may have failed. -/
  | handed (p : Plan) (result : Except Error Call) :
      Leaves net ⟨.prepare p, result⟩ ((net.submit p).record p.endpoint p.operation)
  | unsent (call : Call) (e : Error) : Leaves net ⟨.send call, .error e⟩ net
  | sent (call : Call) (hash : Hash) :
      Leaves net ⟨.send call, .ok hash⟩ { net with sent := net.sent ++ [call] }
  | signedState (hash : Hash) (context : SigningContext)
      (result : Except SignError Signature) :
      Leaves net ⟨.signState hash context, result⟩
        { net with signingLog := net.signingLog ++ [⟨.own, hash, some context⟩] }
  | signedHash (party : Party) (hash : Hash) (result : Except SignError Signature) :
      Leaves net ⟨.signHash party hash, result⟩
        { net with signingLog := net.signingLog ++ [⟨party, hash, none⟩] }
  | drawn (opener : Address) (n : UInt64) : Leaves net ⟨.nonce opener, n⟩ net

/-- Whatever is asked, this is all that can happen. -/
theorem leaves_answer (r : Request) : net.Leaves ⟨r, (answer r net).1⟩ (answer r net).2 := by
  cases r with
  | view v =>
    obtain ⟨result, h⟩ := net.answerView_cases v
    rw [answer, h]
    exact .read v result
  | prepare p =>
    rcases net.answerPlan_cases p with ⟨e, h⟩ | ⟨result, h⟩ <;> rw [answer, h]
    · exact .refused p e
    · exact .handed p result
  | send call =>
    rcases net.answerSend_cases call with ⟨e, h⟩ | ⟨hash, h⟩ <;> rw [answer, h]
    · exact .unsent call e
    · exact .sent call hash
  | signState hash context =>
    obtain ⟨result, h⟩ := net.answerSign_cases .own hash (some context)
    rw [answer, h]
    exact .signedState hash context result
  | signHash party hash =>
    obtain ⟨result, h⟩ := net.answerSign_cases party hash none
    rw [answer, h]
    exact .signedHash party hash result
  | nonce opener => exact .drawn opener _

namespace Leaves

variable {net} {after : LocalNet} {x : Exchange} (h : net.Leaves x after)

include h

/-- A net sends just the calls that it says are included. -/
theorem sent_eq : after.sent = net.sent ++ included [x] := by
  cases h with
  | read v result => exact (sent_record ..).trans (List.append_nil _).symm
  | refused p e => exact (sent_record ..).trans (List.append_nil _).symm
  | handed p result =>
    rw [sent_record, sent_submit]
    exact (List.append_nil _).symm
  | sent call hash => rfl
  | unsent | signedState | signedHash | drawn => exact (List.append_nil _).symm

/-- A net's signers are asked for just what is requested of them. -/
theorem signingLog_eq : after.signingLog = net.signingLog ++ signings [x] := by
  cases h with
  | read v result => exact (signingLog_record ..).trans (List.append_nil _).symm
  | refused p e => exact (signingLog_record ..).trans (List.append_nil _).symm
  | handed p result =>
    rw [signingLog_record, signingLog_submit]
    exact (List.append_nil _).symm
  | signedState | signedHash => rfl
  | sent | unsent | drawn => exact (List.append_nil _).symm

/-- What is recorded as a submission along with an answer is that of a plan that was asked for. -/
theorem exists_submissions_eq : ∃ added, after.submissions = net.submissions ++ added ∧
    ∀ s ∈ added, ∃ p, x.request = .prepare p ∧ p.toSubmission? = some s := by
  -- Only a contract that is asked for a call has a state handed over.
  have unchanged (same : after.submissions = net.submissions) : ∃ added,
      after.submissions = net.submissions ++ added ∧
        ∀ s ∈ added, ∃ p, x.request = .prepare p ∧ p.toSubmission? = some s :=
    ⟨[], by rw [same, List.append_nil], fun _ hs => absurd hs List.not_mem_nil⟩
  cases h with
  | handed p result =>
    refine ⟨p.toSubmission?.toList, ?_, fun s hs => ⟨p, rfl, Option.mem_toList.1 hs⟩⟩
    rw [submissions_record, submissions_submit]
  | read v result => exact unchanged (submissions_record ..)
  | refused p e => exact unchanged (submissions_record ..)
  | unsent | sent | signedState | signedHash | drawn => exact unchanged rfl

/-- What depends on nothing that is recorded stays the same, whatever is asked. -/
theorem unchanged {β : Type} {f : LocalNet → β}
    (record : ∀ net endpoint operation, f (record endpoint operation net) = f net)
    (submit : ∀ net p, f (submit p net) = f net)
    (send : ∀ (net : LocalNet) calls, f { net with sent := calls } = f net)
    (sign : ∀ (net : LocalNet) requests, f { net with signingLog := requests } = f net) :
    f after = f net := by
  cases h with
  | read v result => exact record _ _ _
  | refused p e => exact record _ _ _
  | handed p result => exact (record _ _ _).trans (submit _ p)
  | sent call hash => exact send _ _
  | signedState | signedHash => exact sign _ _
  | unsent | drawn => rfl

end Leaves

/-- The call of a plan stays the same, whatever is asked. -/
theorem callOf_answer (r : Request) : (answer r net).2.callOf = net.callOf :=
  (net.leaves_answer r).unchanged callOf_record callOf_submit (fun _ _ => rfl) fun _ _ => rfl

/-- What the contracts prepare for a plan is the call of the plan. -/
theorem callOf_of_prepareCall {p : Plan} {call : Call} (h : (net.prepareCall p).1 = .ok call) :
    net.callOf p = .ok call := by
  unfold prepareCall at h
  cases call_eq : net.callOf p with
  | error e =>
    rw [call_eq] at h
    exact nomatch h
  | ok prepared =>
    rw [call_eq] at h
    by_cases failing : net.isFailing p.endpoint p.operation
    · simp only [if_pos failing] at h
      exact nomatch h
    · simp only [if_neg failing] at h
      exact h

/-- What is put in front of the contracts keeps calls from being prepared, and makes up none. -/
theorem callOf_of_answerPlan {p : Plan} {call : Call} (h : (net.answerPlan p).1 = .ok call) :
    net.callOf p = .ok call := by
  unfold answerPlan at h
  cases refusal_eq : net.refusal? p.endpoint p.operation with
  | some e =>
    rw [refusal_eq] at h
    exact nomatch h
  | none =>
    rw [refusal_eq] at h
    exact net.callOf_of_prepareCall h

/-! ## Runs -/

variable {α : Type} (op : Operation α)

/-- What is recorded as sent in the course of a run are the calls that it had included. -/
theorem sent_run : (net.run op).2.sent = net.sent ++ included (op.run.exchanges answer net) := by
  refine op.run.run_invariant answer
    (I := fun es net' => net'.sent = net.sent ++ included es) (List.append_nil _).symm ?_
  intro es net' r sent_eq
  rw [(net'.leaves_answer r).sent_eq, sent_eq, List.append_assoc, included_append]

/-- What is recorded as submissions in the course of a run are those of plans that it asked for. -/
theorem submissions_run :
    ∃ added, (net.run op).2.submissions = net.submissions ++ added ∧
      ∀ s ∈ added, ∃ x ∈ op.run.exchanges answer net, ∃ p,
        x.request = .prepare p ∧ p.toSubmission? = some s := by
  refine op.run.run_invariant answer
    (I := fun es net' => ∃ added, net'.submissions = net.submissions ++ added ∧
      ∀ s ∈ added, ∃ x ∈ es, ∃ p, x.request = .prepare p ∧ p.toSubmission? = some s)
    ⟨[], (List.append_nil _).symm, fun _ hs => absurd hs List.not_mem_nil⟩ ?_
  rintro es net' r ⟨before, submissions_eq, stems⟩
  obtain ⟨added, added_eq, stem⟩ := (net'.leaves_answer r).exists_submissions_eq
  refine ⟨before ++ added, by rw [added_eq, submissions_eq, List.append_assoc], fun s hs => ?_⟩
  rcases List.mem_append.1 hs with hs | hs
  · obtain ⟨x, hx, h⟩ := stems s hs
    exact ⟨x, List.mem_append_left _ hx, h⟩
  · exact ⟨_, List.mem_append_right _ (List.mem_singleton_self _), stem s hs⟩

/-- What is recorded of the signers in the course of a run is what they were asked. -/
theorem signingLog_run : (net.run op).2.signingLog =
    net.signingLog ++ signings (op.run.exchanges answer net) := by
  refine op.run.run_invariant answer
    (I := fun es net' => net'.signingLog = net.signingLog ++ signings es)
    (List.append_nil _).symm ?_
  intro es net' r log_eq
  rw [(net'.leaves_answer r).signingLog_eq, log_eq, List.append_assoc, signings_append]

/-- The calls that are prepared in the course of a run are those that the net has for the plans. -/
theorem prepared_run {p : Plan} {call : Call}
    (h : ⟨.prepare p, .ok call⟩ ∈ op.run.exchanges answer net) : net.callOf p = .ok call := by
  -- That the net goes on to have the same calls for plans carries the invariant.
  suffices invariant : (net.run op).2.callOf = net.callOf ∧
      ∀ p call, ⟨.prepare p, .ok call⟩ ∈ op.run.exchanges answer net → net.callOf p = .ok call from
    invariant.2 p call h
  refine op.run.run_invariant answer
    (I := fun es net' => net'.callOf = net.callOf ∧
      ∀ p call, ⟨.prepare p, .ok call⟩ ∈ es → net.callOf p = .ok call)
    ⟨rfl, fun _ _ h => absurd h List.not_mem_nil⟩ ?_
  rintro es net' r ⟨callOf_eq, prepared⟩
  refine ⟨(net'.callOf_answer r).trans callOf_eq, fun p call h => ?_⟩
  rcases List.mem_append.1 h with h | h
  · exact prepared p call h
  · have h := List.mem_singleton.1 h
    obtain ⟨rfl, answer_eq⟩ := Exchange.mk.inj h
    rw [← callOf_eq]
    exact net'.callOf_of_answerPlan (eq_of_heq answer_eq).symm

end LocalNet

end PaymentChannel
