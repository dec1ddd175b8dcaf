import PaymentChannel.Proofs.Client.Sequencing
import PaymentChannel.Proofs.Contract.Independence

/-!
# Sending and everything else

A net only looks at what has been sent when it sends, and it sends by nothing that another request
changes. So the order of sending a call and of anything else does not matter
(`LocalNet.independent_send`).
-/

namespace PaymentChannel.LocalNet

variable (net : LocalNet)

/-- The net with another record of what was sent. -/
def setSent (calls : List Call) : LocalNet := { net with sent := calls }

/-- Records do not depend on what has been sent. -/
theorem record_setSent (endpoint : Endpoint) (operation : String) (calls : List Call) :
    (net.setSent calls).record endpoint operation =
      (net.record endpoint operation).setSent calls := by
  cases endpoint <;> rfl

theorem submit_setSent (p : Plan) (calls : List Call) :
    (net.setSent calls).submit p = (net.submit p).setSent calls := by
  unfold submit
  cases p.submission? <;> rfl

/-- What contracts say does not depend on what has been sent. -/
theorem value_setSent (v : View) (calls : List Call) :
    (net.setSent calls).value v = net.value v := by
  cases v <;> rfl

theorem callOf_setSent (p : Plan) (calls : List Call) :
    (net.setSent calls).callOf p = net.callOf p := by
  cases p <;> rfl

theorem readContract_setSent (v : View) (calls : List Call) :
    (net.setSent calls).readContract v =
      ((net.readContract v).1, (net.readContract v).2.setSent calls) := by
  have failing_eq : (net.setSent calls).isFailing = net.isFailing := rfl
  unfold readContract
  rw [record_setSent, value_setSent, failing_eq]
  by_cases failing : net.isFailing v.endpoint v.operation <;> simp [failing]

/-- Reads do not depend on what has been sent. -/
theorem answerView_setSent (v : View) (calls : List Call) : (net.setSent calls).answerView v =
    ((net.answerView v).1, (net.answerView v).2.setSent calls) := by
  have refusal_eq : (net.setSent calls).refusal? = net.refusal? := rfl
  unfold answerView
  rw [record_setSent, readContract_setSent, refusal_eq]
  cases net.refusal? v.endpoint v.operation <;> rfl

theorem prepareCall_setSent (p : Plan) (calls : List Call) : (net.setSent calls).prepareCall p =
    ((net.prepareCall p).1, (net.prepareCall p).2.setSent calls) := by
  have failing_eq : (net.setSent calls).isFailing = net.isFailing := rfl
  unfold prepareCall
  rw [submit_setSent, record_setSent, callOf_setSent, failing_eq]
  cases net.callOf p with
  | error e => rfl
  | ok call => by_cases failing : net.isFailing p.endpoint p.operation <;> simp [failing]

theorem answerPlan_setSent (p : Plan) (calls : List Call) : (net.setSent calls).answerPlan p =
    ((net.answerPlan p).1, (net.answerPlan p).2.setSent calls) := by
  have refusal_eq : (net.setSent calls).refusal? = net.refusal? := rfl
  unfold answerPlan
  rw [record_setSent, prepareCall_setSent, refusal_eq]
  cases net.refusal? p.endpoint p.operation <;> rfl

theorem answerSign_setSent (party : Party) (hash : Hash) (context : Option SigningContext)
    (calls : List Call) : (net.setSent calls).answerSign party hash context =
      ((net.answerSign party hash context).1,
        (net.answerSign party hash context).2.setSent calls) := by
  have signer_eq : (net.setSent calls).signerOf party = net.signerOf party := by
    cases party <;> rfl
  unfold answerSign
  rw [signer_eq]
  cases net.signerOf party <;> rfl

/-- Nothing but sending looks at what has been sent. -/
theorem answer_setSent {r : Request} (h : r.isSend = false) (calls : List Call) :
    answer r (net.setSent calls) = ((answer r net).1, (answer r net).2.setSent calls) := by
  cases r with
  | view v => exact net.answerView_setSent v calls
  | prepare p => exact net.answerPlan_setSent p calls
  | send call => exact nomatch h
  | signState hash context => exact net.answerSign_setSent .own hash (some context) calls
  | signHash party hash => exact net.answerSign_setSent party hash none calls
  | nonce opener => rfl

/-- What a net goes by when it sends. -/
structure SendsAlike (net net' : LocalNet) : Prop where
  refusing : net'.refusing = net.refusing
  failsAfter : net'.failsAfter = net.failsAfter
  sent : net'.sent = net.sent

/-- Nothing but sending changes how a net sends. -/
theorem sendsAlike_answer {r : Request} (h : r.isSend = false) :
    net.SendsAlike (answer r net).2 := by
  have unchanged := (net.leaves_answer r).unchanged
    (f := fun net => (net.refusing, net.failsAfter))
    (fun _ endpoint _ => by cases endpoint <;> rfl)
    (fun _ p => by unfold submit; cases p.submission? <;> rfl) (fun _ _ => rfl) fun _ _ => rfl
  obtain ⟨refusing, failsAfter⟩ := Prod.mk.inj unchanged
  have unsent : included [⟨r, (answer r net).1⟩] = [] :=
    included_of_unsent (List.forall_mem_singleton.2 h)
  refine ⟨refusing, failsAfter, ?_⟩
  rw [(net.leaves_answer r).sent_eq, unsent, List.append_nil]

namespace SendsAlike

variable {net} {net' : LocalNet} (h : net.SendsAlike net') (call : Call)

include h

/-- Nets that send alike differ in what does not matter to sending. -/
theorem setSent_sent : net'.setSent net.sent = net' := by
  rw [← h.sent]
  rfl

/-- Nets that send alike send the same calls with the same hashes. -/
theorem sendCall_eq : net'.sendCall call =
    ((net.sendCall call).1, net'.setSent (net.sendCall call).2.sent) := by
  change (if net'.failsAfter = some net'.sent.length then
      (Except.error (failure call.operation), net')
    else (.ok (transactionHash net'.sent.length), net'.setSent (net'.sent ++ [call]))) = _
  unfold sendCall
  rw [h.failsAfter, h.sent]
  by_cases failing : net.failsAfter = some net.sent.length
  · simp only [if_pos failing, h.setSent_sent]
  · simp only [if_neg failing]

/-- Nets that send alike send the same. -/
theorem answerSend_eq : net'.answerSend call =
    ((net.answerSend call).1, net'.setSent (net.answerSend call).2.sent) := by
  have refusal_eq : net'.refusal? = net.refusal? := by
    unfold refusal?
    rw [h.refusing]
  unfold answerSend
  rw [refusal_eq]
  cases net.refusal? .sender call.operation with
  | some e => rw [h.setSent_sent]
  | none => exact h.sendCall_eq call

end SendsAlike

/-- The order of sending a call and of anything else does not matter. -/
theorem independent_send (call : Call) {r : Request} (h : r.isSend = false) :
    Independent (answer (.send call)) (answer r) := by
  have sends (net : LocalNet) := (net.sendsAlike_answer h).answerSend_eq call
  have asks (net : LocalNet) : answer r (net.answerSend call).2 =
      ((answer r net).1, (answer r net).2.setSent (net.answerSend call).2.sent) := by
    have sent_only : (net.answerSend call).2 = net.setSent (net.answerSend call).2.sent := by
      rcases net.answerSend_cases call with ⟨e, h⟩ | ⟨hash, h⟩ <;> rw [h] <;> rfl
    rw [← net.answer_setSent h, ← sent_only]
  refine ⟨fun net => ?_, fun net => ?_, fun net => ?_⟩
  · exact (congrArg Prod.fst (sends net) :)
  · exact (congrArg Prod.fst (asks net) :)
  · change (answer r (net.answerSend call).2).2 = (answerSend call (answer r net).2).2
    rw [asks, sends]

variable {α β : Type}

/-- Nor does the order of operations of which one only sends calls and the other sends none. -/
theorem independent_run {x : Operation α} {y : Operation β} {Q : α → Prop} {R : β → Prop}
    (sends : x.Ensures (fun r => r.isSend = true) Q)
    (quiet : y.Ensures (fun r => r.isSend = false) R) :
    Independent (x.run.run answer) (y.run.run answer) := by
  refine Flow.run_comm fun es a fs b t u e he f hf => ?_
  have send := sends.asks es a t e he
  have other := quiet.asks fs b u f hf
  generalize e.request = r at send
  cases r with
  | send call => exact independent_send call other
  | _ => exact nomatch send

/-! ## Runs -/

/-- What sends no calls leaves no trace in what has been sent. -/
theorem sent_run_of_ensures {op : Operation α} {Q : α → Prop}
    (quiet : op.Ensures (fun r => r.isSend = false) Q) : (net.run op).2.sent = net.sent := by
  have t := Flow.transcript_exchanges answer op.run net
  rw [sent_run, included_of_unsent (quiet.asks _ _ t), List.append_nil]

variable {net} {net' : LocalNet}

/-- An operation is run in the net that the one before it leaves, unless that ends with an error. -/
theorem run_bind (op : Operation α) (f : α → Operation β) :
    net.run (op >>= f) = match net.run op with
      | (.ok a, between) => between.run (f a)
      | (.error e, between) => (.error e, between) := by
  refine (Operation.run_bind answer op f net).trans ?_
  unfold run
  simp only [StateT.run]
  rcases op.run.run answer net with ⟨e | a, between⟩ <;> rfl

/-- An operation goes on in the net that the one before it has left. -/
theorem run_bind_of_ok {op : Operation α} {f : α → Operation β} {a : α}
    (h : net.run op = (.ok a, net')) : net.run (op >>= f) = net'.run (f a) := by
  rw [run_bind, h]

/-- An operation ends with the first failure, and leaves the net as it is then. -/
theorem run_bind_of_error {op : Operation α} {f : α → Operation β} {e : Error}
    (h : net.run op = (.error e, net')) : net.run (op >>= f) = (.error e, net') := by
  rw [run_bind, h]

/-- Operations one after the other go through just if each of them does. -/
theorem run_bind_eq_ok_iff {op : Operation α} {f : α → Operation β} {b : β} :
    net.run (op >>= f) = (.ok b, net') ↔
      ∃ a between, net.run op = (.ok a, between) ∧ between.run (f a) = (.ok b, net') := by
  constructor
  · intro h
    rcases run_eq : net.run op with ⟨e | a, between⟩
    · rw [run_bind_of_error run_eq] at h
      exact nomatch h
    · rw [run_bind_of_ok run_eq] at h
      exact ⟨a, between, rfl, h⟩
  · rintro ⟨a, between, run_eq, h⟩
    rw [run_bind_of_ok run_eq, h]

/-- What is made of the result does not change the net. -/
theorem run_bind_pure_eq_ok_iff {op : Operation α} {f : α → β} {b : β} :
    net.run (op >>= fun a => pure (f a)) = (.ok b, net') ↔
      ∃ a, net.run op = (.ok a, net') ∧ b = f a := by
  rw [run_bind_eq_ok_iff]
  constructor
  · rintro ⟨a, between, run_eq, made⟩
    cases made
    exact ⟨a, run_eq, rfl⟩
  · rintro ⟨a, run_eq, rfl⟩
    exact ⟨a, net', run_eq, rfl⟩

/-- How errors are classified does not matter to what succeeds. -/
theorem run_adapt_eq_ok_iff {op : Operation α} {f : Error → Error} {a : α} :
    net.run (op.adapt f) = (.ok a, net') ↔ net.run op = (.ok a, net') := by
  have run_eq : net.run (op.adapt f) = ((net.run op).1.mapError f, (net.run op).2) :=
    Operation.run_adapt answer op f net
  rw [run_eq]
  rcases net.run op with ⟨e | b, between⟩
  · exact ⟨nofun, nofun⟩
  · exact Iff.rfl

/-! ## Sending one call after the other -/

/-- The calls are sent and included one after the other, with these hashes. -/
inductive Sends : LocalNet → List Call → List Hash → LocalNet → Prop where
  | nil (net : LocalNet) : Sends net [] [] net
  | cons {net between net' : LocalNet} {call : Call} {hash : Hash} {calls : List Call}
      {hashes : List Hash} (first : net.answerSend call = (.ok hash, between))
      (rest : Sends between calls hashes net') : Sends net (call :: calls) (hash :: hashes) net'

/-- The last call is sent after the others. -/
theorem sends_append_singleton_iff {calls : List Call} {call : Call} {hashes : List Hash} :
    Sends net (calls ++ [call]) hashes net' ↔ ∃ before hash between,
      hashes = before ++ [hash] ∧ Sends net calls before between ∧
      between.answerSend call = (.ok hash, net') := by
  constructor
  · intro h
    induction calls generalizing net hashes with
    | nil =>
      cases h with
      | cons first rest =>
        cases rest
        exact ⟨[], _, net, rfl, .nil net, first⟩
    | cons other calls ih =>
      cases h with
      | cons first rest =>
        obtain ⟨before, hash, between, rfl, sends, last⟩ := ih rest
        exact ⟨_ :: before, hash, between, rfl, .cons first sends, last⟩
  · rintro ⟨before, hash, between, rfl, sends, last⟩
    induction sends with
    | nil net => exact .cons last (.nil _)
    | cons first rest ih => exact .cons first (ih last)

/-- All that changes is what has been sent. -/
theorem Sends.setSent_eq {calls : List Call} {hashes : List Hash}
    (h : Sends net calls hashes net') :
    net' = net.setSent (net.sent ++ calls) := by
  induction h with
  | nil net =>
    rw [List.append_nil]
    rfl
  | @cons net between net' call hash calls hashes first rest ih =>
    have between_eq : between = net.setSent (net.sent ++ [call]) := by
      rcases net.answerSend_cases call with ⟨e, h⟩ | ⟨hash', h⟩
      · exact nomatch h.symm.trans first
      · exact congrArg Prod.snd (first.symm.trans h)
    rw [List.append_cons, ih, between_eq]
    rfl

/-- As which steps calls are sent does not matter to what succeeds. -/
theorem run_sendFrom_eq_ok_iff {total step : Nat} {calls : List Call} {hashes : List Hash} :
    net.run (Client.sendFrom total step calls) = (.ok hashes, net') ↔
      Sends net calls hashes net' := by
  induction calls generalizing net step hashes with
  | nil =>
    constructor
    · rintro ⟨⟩
      exact .nil _
    · rintro ⟨⟩
      rfl
  | cons call calls ih =>
    rw [Client.sendFrom, run_bind_eq_ok_iff]
    constructor
    · rintro ⟨hash, between, first, rest⟩
      obtain ⟨later, sends, rfl⟩ := run_bind_pure_eq_ok_iff.1 rest
      exact .cons (run_adapt_eq_ok_iff.1 first) (ih.1 sends)
    · rintro (_ | ⟨first, rest⟩)
      refine ⟨_, _, run_adapt_eq_ok_iff.2 first, ?_⟩
      exact run_bind_pure_eq_ok_iff.2 ⟨_, ih.2 rest, rfl⟩

/-- One call goes through just if it is included. -/
theorem run_sendOne_eq_ok_iff {call : Call} {hash : Hash} :
    net.run (Client.sendOne call) = (.ok hash, net') ↔ net.answerSend call = (.ok hash, net') :=
  run_adapt_eq_ok_iff

end PaymentChannel.LocalNet
