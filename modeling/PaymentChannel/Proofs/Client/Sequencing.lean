import PaymentChannel.Proofs.Client.Command
import PaymentChannel.Proofs.Net.Answers

/-!
# Sequencing

Preparing calls and sending them are kept strictly apart: nothing is sent before all calls of a
write are there, and then nothing is done but sending them. They are sent in order and once each, up
to the first that cannot be sent. What was included before that stays.

* `Delivery`: how the sending of a list of calls can go;
* `Course`: how a write can go, which is one of three ways.
-/

namespace PaymentChannel

/-- Whether a call is to be sent. -/
def Request.isSend : Request → Bool
  | send _ => true
  | _ => false

/-- The exchange in which a call is sent and included, with its hash. -/
def Exchange.inclusion (done : Call × Hash) : Exchange := ⟨.send done.1, .ok done.2⟩

theorem included_map_inclusion (done : List (Call × Hash)) :
    included (done.map .inclusion) = done.map Prod.fst := by
  induction done with
  | nil => rfl
  | cons first done ih => exact congrArg (first.1 :: ·) ih

theorem included_of_unsent {es : List Exchange} (unsent : ∀ x ∈ es, x.request.isSend = false) :
    included es = [] := by
  refine List.filterMap_eq_nil_iff.2 fun x hx => ?_
  obtain ⟨r, answer⟩ := x
  cases r with
  | send call => exact nomatch unsent _ hx
  | _ => rfl

/-- How the sending of calls can go, with the exchanges and the result. -/
inductive Delivery (calls : List Call) : List Exchange → Except Error (List Hash) → Prop where
  /-- All calls are included. -/
  | complete (done : List (Call × Hash)) (calls_eq : calls = done.map Prod.fst) :
      Delivery calls (done.map .inclusion) (.ok (done.map Prod.snd))
  /-- A call cannot be sent, and those that are left are not sent either. -/
  | interrupted (done : List (Call × Hash)) (failed : Call) (left : List Call) (reason e : Error)
      (calls_eq : calls = done.map Prod.fst ++ failed :: left) :
      Delivery calls (done.map .inclusion ++ [⟨.send failed, .error reason⟩]) (.error e)

/-- A call that is included first adds its hash. -/
theorem Delivery.cons {calls : List Call} {es : List Exchange} {result : Except Error (List Hash)}
    (h : Delivery calls es result) (call : Call) (hash : Hash) :
    Delivery (call :: calls) (.inclusion (call, hash) :: es) (result.map (hash :: ·)) := by
  cases h with
  | complete done calls_eq => exact .complete ((call, hash) :: done) (congrArg _ calls_eq)
  | interrupted done failed left reason e calls_eq =>
    exact .interrupted ((call, hash) :: done) failed left reason e (congrArg _ calls_eq)

namespace Client

open Operation

theorem transcript_send_asTransaction {call : Call} {operation context : String}
    {es : List Exchange} {result : Except Error Hash}
    (t : ((send call).asTransaction operation context).Transcript es result) :
    (∃ hash, es = [.inclusion (call, hash)] ∧ result = .ok hash) ∨
      ∃ reason e, es = [⟨.send call, .error reason⟩] ∧ result = .error e := by
  obtain ⟨answer, sent, rfl⟩ := transcript_adapt.1 t
  cases answer with
  | ok hash => exact .inl ⟨hash, transcript_send.1 sent, rfl⟩
  | error reason => exact .inr ⟨reason, _, transcript_send.1 sent, rfl⟩

/-- A single call is delivered as a list of one. -/
theorem delivery_sendOne {α : Type} {call : Call} {es : List Exchange} {result : Except Error Hash}
    (t : (sendOne call).Transcript es result) (extra : α) :
    ∃ outcome, Delivery [call] es outcome ∧
      result.map (fun hash => (extra, [hash])) = outcome.map fun hashes => (extra, hashes) := by
  rcases transcript_send_asTransaction t with ⟨hash, rfl, rfl⟩ | ⟨reason, e, rfl, rfl⟩
  · exact ⟨.ok [hash], .complete [(call, hash)] rfl, rfl⟩
  · exact ⟨.error e, .interrupted [] call [] reason e rfl, rfl⟩

theorem delivery_sendFrom {total : Nat} {calls : List Call} (step : Nat) {es : List Exchange}
    {result : Except Error (List Hash)} (t : (sendFrom total step calls).Transcript es result) :
    Delivery calls es result := by
  induction calls generalizing step es result with
  | nil =>
    obtain ⟨rfl, rfl⟩ := transcript_pure.1 t
    exact .complete [] rfl
  | cons call calls ih =>
    rcases transcript_bind.1 t with ⟨e, first, rfl⟩ | ⟨before, after, hash, rfl, first, rest⟩
    · -- The first call fails, and all others are left.
      rcases transcript_send_asTransaction first with ⟨hash, -, h⟩ | ⟨reason, e', rfl, -⟩
      · exact nomatch h
      · exact .interrupted [] call calls reason e rfl
    · -- The first call is included, and the others are delivered after it.
      rcases transcript_send_asTransaction first with ⟨hash', rfl, h⟩ | ⟨reason, e', -, h⟩
      · cases h
        obtain ⟨hashes, later, rfl⟩ := transcript_bind_pure.1 rest
        exact (ih (step + 1) later).cons call hash
      · exact nomatch h

variable (c : Client) (w : Write)

/-- How a write can go, with the exchanges, the calls that are included, and the result. -/
inductive Course : List Exchange → List Call → Except Error w.Result → Prop where
  /-- The preparation fails, and nothing is sent. -/
  | unprepared (es : List Exchange) (e : Error)
      (prepared : (c.preparation w).Transcript es (.error e))
      (unsent : ∀ x ∈ es, x.request.isSend = false) : Course es [] (.error e)
  /-- The preparation succeeds, and then all calls are included. -/
  | complete (before : List Exchange) (done : List (Call × Hash)) (extra : w.Prepared)
      (r : w.Result)
      (prepared : (c.preparation w).Transcript before (.ok (extra, done.map Prod.fst)))
      (unsent : ∀ x ∈ before, x.request.isSend = false)
      (parts_eq : w.parts r = (extra, done.map Prod.snd)) :
      Course (before ++ done.map .inclusion) (done.map Prod.fst) (.ok r)
  /-- The preparation succeeds, but then a call cannot be sent, and those that are left are not sent
      either. -/
  | interrupted (before : List Exchange) (done : List (Call × Hash)) (extra : w.Prepared)
      (failed : Call) (left : List Call) (reason e : Error)
      (prepared : (c.preparation w).Transcript before
        (.ok (extra, done.map Prod.fst ++ failed :: left)))
      (unsent : ∀ x ∈ before, x.request.isSend = false) :
      Course (before ++ done.map .inclusion ++ [⟨.send failed, .error reason⟩]) (done.map Prod.fst)
        (.error e)

/-- Nothing is sent while calls are prepared. -/
theorem ensures_preparation :
    Ensures (fun r => r.isSend = false) (fun _ => True) (c.preparation w) := by
  cases w with
  | deposit node token amount => refine (c.ensures_depositCalls ?_ ?_ ?_).map _ <;> rfl
  | createChannel o =>
    refine (c.ensures_creationCall ?_ (fun hash context => ?_) fun d s opens single => ?_).map _ <;>
      rfl
  | depositAndCreateChannel node token amount o =>
    refine c.ensures_depositAndCreationCalls ?_ ?_ ?_ ?_ (fun hash context => ?_)
      (fun d s opens single => ?_) <;> rfl
  | checkpoint id candidate proofs =>
    refine (ensures_agreedCall fun agreed => ?_).map _
    rfl
  | challenge id candidate proofs given =>
    refine (c.ensures_challengeCall ?_ (fun party hash => ?_) fun signature => ?_).map _ <;> rfl
  | closeChannel closing =>
    refine (c.ensures_cooperativeCloseCall (fun hash context => ?_) fun s agreed => ?_).map _ <;>
      rfl
  | withdraw token amount =>
    refine (c.ensures_withdrawalCall ?_).map _
    rfl

variable {c w}

/-- A write that has its calls prepared and then has them delivered goes its course. -/
theorem course_of_bind {α : Type} {op : Operation α} {f : α → w.Prepared × List Call}
    (preparation_eq : c.preparation w = f <$> op) {deliver : α → Operation w.Result}
    (delivery : ∀ a es result, (deliver a).Transcript es result →
      ∃ outcome, Delivery (f a).2 es outcome ∧
        result.map w.parts = outcome.map fun hashes => ((f a).1, hashes))
    {es : List Exchange} {result : Except Error w.Result}
    (t : (op >>= deliver).Transcript es result) : c.Course w es (included es) result := by
  -- `op` is the preparation but for how its result is arranged.
  have prepared {before : List Exchange} {r : Except Error α} (first : op.Transcript before r) :
      (c.preparation w).Transcript before (r.map f) := by
    rw [preparation_eq]
    exact transcript_map.2 ⟨r, first, rfl⟩
  have unsent {before : List Exchange} {r : Except Error α} (first : op.Transcript before r) :
      ∀ x ∈ before, x.request.isSend = false :=
    (c.ensures_preparation w).asks before _ (prepared first)
  rcases transcript_bind.1 t with ⟨e, first, rfl⟩ | ⟨before, after, a, rfl, first, second⟩
  · rw [included_of_unsent (unsent first)]
    exact .unprepared es e (prepared first) (unsent first)
  · rw [included_append, included_of_unsent (unsent first), List.nil_append]
    obtain ⟨outcome, delivered, result_eq⟩ := delivery a after result second
    cases delivered with
    | complete done calls_eq =>
      rw [included_map_inclusion]
      cases result with
      | error e => exact nomatch result_eq
      | ok r =>
        refine .complete before done (f a).1 r ?_ (unsent first) (Except.ok.inj result_eq)
        rw [← calls_eq]
        exact prepared first
    | interrupted done failed left reason e calls_eq =>
      rw [included_append, included_map_inclusion, ← List.append_assoc]
      cases result with
      | ok r => exact nomatch result_eq
      | error e' =>
        change c.Course w _ (done.map Prod.fst ++ []) _
        rw [List.append_nil]
        refine .interrupted before done (f a).1 failed left reason e' ?_ (unsent first)
        rw [← calls_eq]
        exact prepared first

variable (c w)

/-- Whatever is answered, a write goes one of the ways that it can go. -/
theorem course_carryOut {es : List Exchange} {result : Except Error w.Result}
    (t : (c.carryOut w).Transcript es result) : c.Course w es (included es) result := by
  -- All writes prepare calls and then send them; they differ in what they make of the outcome.
  cases w with
  | deposit node token amount =>
    refine course_of_bind (w := .deposit node token amount) rfl (fun calls es result sent => ?_) t
    exact ⟨result, delivery_sendFrom 1 sent, rfl⟩
  | createChannel o =>
    refine course_of_bind (w := .createChannel o) rfl (fun (prepared, call) es result sent => ?_) t
    obtain ⟨r, first, rfl⟩ := transcript_bind_pure.1 sent
    obtain ⟨outcome, delivered, outcome_eq⟩ := delivery_sendOne first prepared
    exact ⟨outcome, delivered, outcome_eq ▸ by cases r <;> rfl⟩
  | depositAndCreateChannel node token amount o =>
    refine course_of_bind (w := .depositAndCreateChannel node token amount o) (id_map _).symm
      (fun (prepared, calls) es result sent => ?_) t
    obtain ⟨r, first, rfl⟩ := transcript_bind_pure.1 sent
    exact ⟨r, delivery_sendFrom 1 first, by cases r <;> rfl⟩
  | checkpoint id candidate proofs =>
    exact course_of_bind (w := .checkpoint id candidate proofs) rfl
      (fun call es result sent => delivery_sendOne sent ()) t
  | challenge id candidate proofs given =>
    exact course_of_bind (w := .challenge id candidate proofs given) rfl
      (fun call es result sent => delivery_sendOne sent ()) t
  | closeChannel closing =>
    refine course_of_bind (w := .closeChannel closing) rfl
      (fun (state, call) es result sent => ?_) t
    obtain ⟨r, first, rfl⟩ := transcript_bind_pure.1 sent
    obtain ⟨outcome, delivered, outcome_eq⟩ := delivery_sendOne first state
    exact ⟨outcome, delivered, outcome_eq ▸ by cases r <;> rfl⟩
  | withdraw token amount =>
    exact course_of_bind (w := .withdraw token amount) rfl
      (fun call es result sent => delivery_sendOne sent ()) t

/-! ## Sessions -/

/-- What has been sent stays recorded, in its place. -/
theorem sent_step (net : LocalNet) (event : Event) : net.sent <+: (c.step net event).sent := by
  cases event with
  | command command => exact ⟨_, (net.sent_run (c.perform command)).symm⟩
  | change change => exact ⟨[], by rw [List.append_nil, step, LocalNet.sent_change]⟩

theorem sent_session (events : List Event) (net : LocalNet) :
    net.sent <+: (c.session events net).sent := by
  induction events generalizing net with
  | nil => exact List.prefix_rfl
  | cons event events ih => exact (c.sent_step net event).trans (ih (c.step net event))

/-- The discipline of sending. Whatever is answered, a write goes one of the ways that it can go. In
    a net, the record of what was sent grows by just the calls that were included in its run, and in
    a session it never changes otherwise. -/
theorem carryOut_sequential :
    (∀ es result, (c.carryOut w).Transcript es result → c.Course w es (included es) result) ∧
    (∀ net, ∃ es, es = (c.carryOut w).run.exchanges LocalNet.answer net ∧
      c.Course w es (included es) (LocalNet.run (c.carryOut w) net).1 ∧
      (LocalNet.run (c.carryOut w) net).2.sent = net.sent ++ included es) ∧
    (∀ events net, net.sent <+: (c.session events net).sent) := by
  refine ⟨fun es result => c.course_carryOut w, fun net => ⟨_, rfl, ?_, ?_⟩, c.sent_session⟩
  · exact c.course_carryOut w (Flow.transcript_exchanges LocalNet.answer (c.carryOut w).run net)
  · exact net.sent_run (c.carryOut w)

/-- A deposit whose approval is included, but then the sender gives up. -/
theorem carryOut_sequential_deposit :
    Sample.client.Course (.deposit ⟨4⟩ ⟨3⟩ 5)
      ((Sample.client.carryOut (.deposit ⟨4⟩ ⟨3⟩ 5)).run.exchanges LocalNet.answer Sample.net)
      [⟨.approve ⟨3⟩ ⟨1⟩ 5, ⟨3⟩, [], 0⟩]
      (LocalNet.run (Sample.client.carryOut (.deposit ⟨4⟩ ⟨3⟩ 5)) Sample.net).1 ∧
    (LocalNet.run (Sample.client.carryOut (.deposit ⟨4⟩ ⟨3⟩ 5)) Sample.net).1.isOk = false ∧
    (LocalNet.run (Sample.client.carryOut (.deposit ⟨4⟩ ⟨3⟩ 5)) Sample.net).2.sent =
      [⟨.approve ⟨3⟩ ⟨1⟩ 5, ⟨3⟩, [], 0⟩] := by
  have sent : (LocalNet.run (Sample.client.carryOut (.deposit ⟨4⟩ ⟨3⟩ 5)) Sample.net).2.sent =
      [⟨.approve ⟨3⟩ ⟨1⟩ 5, ⟨3⟩, [], 0⟩] := by decide +kernel
  obtain ⟨-, in_net, -⟩ := carryOut_sequential Sample.client (.deposit ⟨4⟩ ⟨3⟩ 5)
  obtain ⟨es, es_eq, course, sent_eq⟩ := in_net Sample.net
  have included_eq : included es = [⟨.approve ⟨3⟩ ⟨1⟩ 5, ⟨3⟩, [], 0⟩] := sent_eq.symm.trans sent
  rw [included_eq, es_eq] at course
  exact ⟨course, by decide +kernel, sent⟩

end Client

end PaymentChannel
