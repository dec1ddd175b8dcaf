import PaymentChannel.Proofs.Client.Delivery
import PaymentChannel.Proofs.Client.Opening
import PaymentChannel.Proofs.Client.Reporting
import PaymentChannel.Proofs.Client.Retry
import PaymentChannel.Proofs.Contract.Attempt

/-!
# What a deposit takes

The native asset is deposited with a single call. For a token, the allowance is read first, and if
it does not cover the amount, the amount is approved before it is deposited
(`Client.depositRequests`, `Client.depositActions`). This is attempted up to the first request that
fails (`CallsPrepared`), and only a deposit that has been prepared goes on to the creation of a
channel.

Approvals that are included replace what was approved before (`allowanceAfter`). So by the time that
a deposit is sent, the allowance covers it.
-/

namespace PaymentChannel

theorem Faithful.mono {es fs : List Exchange} (h : Faithful fs) (subset : es ⊆ fs) : Faithful es :=
  fun p call prepared => h p call (subset prepared)

/-- The allowance after an action: an approval sets it, whatever it was. -/
def Action.allowance (token spender : Address) (allowed : UInt256) : Action → UInt256
  | approve token' spender' amount =>
    if token' = token ∧ spender' = spender then amount else allowed
  | _ => allowed

/-- The allowance after calls that have been included. -/
def allowanceAfter (token spender : Address) (allowed : UInt256) (calls : List Call) : UInt256 :=
  calls.foldl (fun allowed call => call.action.allowance token spender allowed) allowed

/-- The requests are attempted, and if none of them fails, what is returned are the calls that were
    prepared. These do what is said, if all calls do what their plans say. -/
structure CallsPrepared (requests : List Request) (actions : List Action) (es : List Exchange)
    (result : Except Error (List Call)) : Prop where
  attempt : Attempt requests es (failureOf result)
  calls_eq : ∀ calls, result = .ok calls → calls = (preparations es).map Prod.snd
  actions_eq : ∀ calls, result = .ok calls → Faithful es → calls.map Call.action = actions

/-- All channels are created on the given chain. -/
def CreatedOn (chainId : UInt64) (es : List Exchange) : Prop :=
  ∀ d s call, ⟨.prepare (.createChannel d s), .ok call⟩ ∈ es →
    ∃ id, d.channelId chainId = .ok id ∧ call.action = .createChannel id

/-- A net creates channels on its own chain. -/
theorem LocalNet.createdOn_run {α : Type} (net : LocalNet) (op : Operation α) :
    CreatedOn net.chainId (op.run.exchanges answer net) := by
  intro d s call prepared
  have call_eq := net.prepared_run op prepared
  rw [callOf, channelId_eq] at call_eq
  cases call_eq
  exact ⟨_, channelId_eq .., rfl⟩

namespace CallsPrepared

variable {requests : List Request} {actions : List Action} {es fs : List Exchange}

/-- Nothing more is prepared after a failure. -/
theorem stop {e : Error} (h : CallsPrepared requests actions es (.error e)) (more : List Request)
    (others : List Action) :
    CallsPrepared (requests ++ more) (actions ++ others) es (.error e) where
  attempt := h.attempt.stop more
  calls_eq _ h := nomatch h
  actions_eq _ h := nomatch h

/-- One more call is prepared. -/
theorem prepare {calls : List Call} (h : CallsPrepared requests actions es (.ok calls)) {p : Plan}
    {context : String} {result : Except Error Call}
    (t : ((Operation.prepare p).asCall p.step context).Transcript fs result) {action : Action}
    (determined : ∀ other, p.Allows other → other = action) :
    CallsPrepared (requests ++ [.prepare p]) (actions ++ [action]) (es ++ fs)
      (result.map fun call => calls ++ [call]) := by
  have attempt := Operation.attempt_prepare t
  obtain ⟨answer, asked, rfl⟩ := Operation.transcript_adapt.1 t
  obtain rfl := Operation.transcript_prepare.1 asked
  cases answer with
  | error e => exact ⟨h.attempt.append attempt, nofun, nofun⟩
  | ok call =>
    refine ⟨h.attempt.append attempt, ?_, ?_⟩
    · rintro _ ⟨⟩
      rw [h.calls_eq calls rfl, preparations_append, List.map_append]
      rfl
    · rintro _ ⟨⟩ faithful
      have before := h.actions_eq calls rfl (faithful.mono (List.subset_append_left _ _))
      have last := determined _ (faithful p call (by simp))
      rw [List.map_append, before, List.map_singleton, last]

end CallsPrepared

namespace Client

open Operation

variable (c : Client) (node token : Address) (amount : UInt256) (o : Opening)

/-! ## Requests and actions -/

/-- What is asked before a deposit, if `allowed` is what has been approved so far. -/
def approvalRequests (allowed : UInt256) : List Request :=
  if token.isZero then []
  else .view (.allowance token c.account c.custody) ::
    if amount ≤ allowed then [] else [.prepare (.approve token c.custody amount)]

/-- What is done before a deposit, if `allowed` is what has been approved so far. -/
def approvalActions (allowed : UInt256) : List Action :=
  if token.isZero ∨ amount ≤ allowed then [] else [.approve token c.custody amount]

/-- What is asked for a deposit. -/
def depositRequests (allowed : UInt256) : List Request :=
  c.approvalRequests token amount allowed ++ [.prepare (.deposit node token amount)]

/-- What is done for a deposit. -/
def depositActions (allowed : UInt256) : List Action :=
  c.approvalActions token amount allowed ++ [.deposit node token amount]

/-- The allowance is as it has been read, if it has been. -/
def AllowanceRead (es : List Exchange) (allowed : UInt256) : Prop :=
  ∀ a : UInt256, ⟨.view (.allowance token c.account c.custody), .ok a⟩ ∈ es → a = allowed

/-! ## Transcripts -/

variable {c token} in
theorem AllowanceRead.append {es fs : List Exchange} {allowed : UInt256}
    (first : c.AllowanceRead token es allowed) (second : c.AllowanceRead token fs allowed) :
    c.AllowanceRead token (es ++ fs) allowed :=
  fun a h => (List.mem_append.1 h).elim (first a) (second a)

/-- A reading that fails reads nothing. -/
theorem allowanceRead_of_failed {operation context : String} {es : List Exchange} {e : Error}
    (t : ((view (.allowance token c.account c.custody)).asRead operation context).Transcript es
      (.error e)) (allowed : UInt256) : c.AllowanceRead token es allowed := by
  obtain ⟨answer, asked, failed⟩ := transcript_adapt.1 t
  obtain rfl := transcript_view.1 asked
  rintro a h
  cases List.mem_singleton.1 h
  exact nomatch failed

/-- What reads nothing leaves the allowance open. -/
theorem allowanceRead_of_ensures {α : Type} {op : Operation α} {Q : α → Prop}
    (unread : op.Ensures (fun r => ∀ v, r ≠ .view v) Q) {es : List Exchange}
    {result : Except Error α} (t : op.Transcript es result) (allowed : UInt256) :
    c.AllowanceRead token es allowed :=
  fun _ h => absurd rfl (unread.asks es result t _ h _)

theorem allowanceRead_of_prepare {p : Plan} {operation context : String} {es : List Exchange}
    {result : Except Error Call}
    (t : ((prepare p).asCall operation context).Transcript es result) (allowed : UInt256) :
    c.AllowanceRead token es allowed :=
  c.allowanceRead_of_ensures token ((Ensures.prepare fun _ => nofun).adapt _) t allowed

theorem transcript_read {v : View} {operation context : String} {es : List Exchange} {a : v.Answer}
    (t : ((view v).asRead operation context).Transcript es (.ok a)) : es = [⟨.view v, .ok a⟩] := by
  obtain ⟨answer, asked, answered⟩ := transcript_adapt.1 t
  cases answer with
  | error e => exact nomatch answered
  | ok b =>
    cases answered
    exact transcript_view.1 asked

/-- A reading prepares nothing. -/
theorem callsPrepared_view {v : View} {context : String} {es : List Exchange}
    {result : Except Error v.Answer}
    (t : ((view v).asRead v.operation context).Transcript es result) :
    CallsPrepared [.view v] [] es (result.map fun _ => []) := by
  have attempt := attempt_view t
  obtain ⟨answer, asked, rfl⟩ := transcript_adapt.1 t
  obtain rfl := transcript_view.1 asked
  cases answer with
  | error e => exact ⟨attempt, nofun, nofun⟩
  | ok a => exact ⟨attempt, fun _ h => by cases h; rfl, fun _ h _ => by cases h; rfl⟩

theorem prepared_approvalCalls {context : String} {es : List Exchange}
    {result : Except Error (List Call)}
    (t : (c.approvalCalls token amount context).Transcript es result) :
    (∃ allowed, c.AllowanceRead token es allowed) ∧
      ∀ allowed, c.AllowanceRead token es allowed →
        CallsPrepared (c.approvalRequests token amount allowed)
          (c.approvalActions token amount allowed) es result := by
  unfold approvalRequests approvalActions
  unfold approvalCalls at t
  -- For the native asset nothing is asked, so that any allowance would be consistent with it.
  by_cases native : token.isZero
  · rw [if_pos native] at t
    obtain ⟨rfl, rfl⟩ := transcript_pure.1 t
    refine ⟨⟨0, fun _ h => absurd h List.not_mem_nil⟩, fun allowed _ => ?_⟩
    rw [if_pos native, if_pos (.inl native)]
    exact ⟨.complete, fun _ h => by cases h; rfl, fun _ h _ => by cases h; rfl⟩
  simp only [if_neg native] at t ⊢
  rcases transcript_bind.1 t with ⟨e, first, rfl⟩ |
    ⟨before, after, (a : UInt256), rfl, first, rest⟩
  · refine ⟨⟨0, c.allowanceRead_of_failed token first 0⟩, fun allowed _ => ?_⟩
    exact (callsPrepared_view first).stop _ _
  · have read := callsPrepared_view first
    obtain rfl := transcript_read first
    have reading :
        c.AllowanceRead token [⟨.view (.allowance token c.account c.custody), .ok a⟩] a :=
      fun _ h => by cases List.mem_singleton.1 h; rfl
    -- What has been read decides, and any allowance that is consistent with it is the same.
    by_cases low : a < amount
    · have uncovered := BitVec.not_le.2 low
      rw [if_pos low] at rest
      obtain ⟨r, called, rfl⟩ := transcript_bind_pure.1 rest
      refine ⟨⟨a, reading.append (c.allowanceRead_of_prepare token called a)⟩,
        fun allowed consistent => ?_⟩
      cases consistent a List.mem_cons_self
      rw [if_neg uncovered, if_neg (not_or_intro native uncovered)]
      exact read.prepare called fun _ h => h
    · have covered := BitVec.not_lt.1 low
      rw [if_neg low] at rest
      obtain ⟨rfl, rfl⟩ := transcript_pure.1 rest
      refine ⟨⟨a, reading⟩, fun allowed consistent => ?_⟩
      cases consistent a List.mem_cons_self
      rw [if_pos covered, if_pos (.inr covered), List.append_nil]
      exact read

/-- A deposit is prepared as the allowance that is read demands. -/
theorem prepared_depositCalls {es : List Exchange} {result : Except Error (List Call)}
    (t : (c.depositCalls node token amount).Transcript es result) :
    (∃ allowed, c.AllowanceRead token es allowed) ∧
      ∀ allowed, c.AllowanceRead token es allowed →
        CallsPrepared (c.depositRequests node token amount allowed)
          (c.depositActions node token amount allowed) es result := by
  rcases transcript_bind.1 t with ⟨e, first, rfl⟩ | ⟨before, after, approval, rfl, first, rest⟩
  · obtain ⟨exists_read, prepared⟩ := c.prepared_approvalCalls token amount first
    exact ⟨exists_read, fun allowed read => (prepared allowed read).stop _ _⟩
  · obtain ⟨⟨a, read⟩, prepared⟩ := c.prepared_approvalCalls token amount first
    obtain ⟨r, called, rfl⟩ := transcript_bind_pure.1 rest
    refine ⟨⟨a, read.append (c.allowanceRead_of_prepare token called a)⟩,
      fun allowed consistent => ?_⟩
    have consistent : c.AllowanceRead token before allowed :=
      fun a h => consistent a (List.mem_append_left _ h)
    exact (prepared allowed consistent).prepare called fun _ h => h

/-! ## Deposits that go on to a channel -/

/-- How the calls of a deposit and of the creation of a channel can be prepared. -/
inductive CombinedCourse : List Exchange → Except Error (PreparedChannel × List Call) → Prop where
  /-- The deposit cannot be prepared, and nothing else is tried. -/
  | undeposited {es : List Exchange} {e : Error}
      (deposit : (c.depositCalls node token amount).Transcript es (.error e)) :
      CombinedCourse es (.error e)
  /-- The deposit has been prepared, but the initial state cannot be. -/
  | unopened {before after : List Exchange} {deposits : List Call} {e : Error}
      (deposit : (c.depositCalls node token amount).Transcript before (.ok deposits))
      (opening : (c.initialState o).Transcript after (.error e)) :
      CombinedCourse (before ++ after) (.error e)
  /-- The deposit and the initial state have been prepared, and the creation is added. -/
  | asked {before after : List Exchange} {deposits : List Call} {prepared : PreparedChannel}
      (deposit : (c.depositCalls node token amount).Transcript before (.ok deposits))
      (opening : (c.initialState o).Transcript after (.ok prepared))
      (answer : Except Error Call) :
      CombinedCourse (before ++ after ++
          [⟨.prepare (.createChannel prepared.definition prepared.initial), answer⟩])
        ((answer.mapError (Error.asCall "createChannel"
          s!"{channelContext prepared.id} {o.describe}")).map fun creation =>
            (prepared, deposits ++ [creation]))

theorem transcript_creationCall {es : List Exchange}
    {result : Except Error (PreparedChannel × Call)}
    (t : (c.creationCall o).Transcript es result) :
    (∃ e, (c.initialState o).Transcript es (.error e) ∧ result = .error e) ∨
      ∃ before prepared answer, (c.initialState o).Transcript before (.ok prepared) ∧
        es = before ++ [⟨.prepare (.createChannel prepared.definition prepared.initial), answer⟩] ∧
        result = (answer.mapError (Error.asCall "createChannel"
          s!"{channelContext prepared.id} {o.describe}")).map fun call => (prepared, call) := by
  have reports := c.reports_initialState o
  rcases transcript_bind.1 t with ⟨e, first, rfl⟩ | ⟨before, after, prepared, rfl, first, rest⟩
  · exact .inl ⟨e, reports.transcript_asCall.1 first, rfl⟩
  · obtain ⟨_, called, rfl⟩ := transcript_bind_pure.1 rest
    obtain ⟨answer, asked, rfl⟩ := transcript_adapt.1 called
    obtain rfl := transcript_prepare.1 asked
    exact .inr ⟨before, prepared, answer, reports.transcript_asCall.1 first, rfl, rfl⟩

theorem course_depositAndCreationCalls {es : List Exchange}
    {result : Except Error (PreparedChannel × List Call)}
    (t : (c.depositAndCreationCalls node token amount o).Transcript es result) :
    c.CombinedCourse node token amount o es result := by
  have reports := c.reports_depositCalls node token amount
  rcases transcript_bind.1 t with ⟨e, first, rfl⟩ | ⟨before, after, deposits, rfl, first, rest⟩
  · exact .undeposited (reports.transcript_asCall.1 first)
  · have deposit := reports.transcript_asCall.1 first
    obtain ⟨_, creation, rfl⟩ := transcript_bind_pure.1 rest
    rcases c.transcript_creationCall o creation with ⟨e, opening, rfl⟩ |
      ⟨between, prepared, answer, opening, rfl, rfl⟩
    · exact .unopened deposit opening
    · have course := CombinedCourse.asked deposit opening answer
      rw [← List.append_assoc]
      cases answer <;> exact course

/-- If all calls have been prepared, they are those of the deposit, and one more. -/
theorem exists_of_depositAndCreationCalls_ok {es : List Exchange} {prepared : PreparedChannel}
    {calls : List Call}
    (t : (c.depositAndCreationCalls node token amount o).Transcript es (.ok (prepared, calls))) :
    ∃ before after deposits creation,
      es = before ++ after ++
        [⟨.prepare (.createChannel prepared.definition prepared.initial), .ok creation⟩] ∧
      (c.depositCalls node token amount).Transcript before (.ok deposits) ∧
      (c.initialState o).Transcript after (.ok prepared) ∧ calls = deposits ++ [creation] := by
  generalize made : Except.ok (prepared, calls) = result at t
  cases c.course_depositAndCreationCalls node token amount o t with
  | undeposited deposit => exact nomatch made
  | unopened deposit opening => exact nomatch made
  | asked deposit opening answer =>
    cases answer with
    | error e => exact nomatch made
    | ok creation =>
      cases made
      exact ⟨_, _, _, creation, rfl, deposit, opening, rfl⟩

/-! ## Sending -/

/-- By the time that a deposit of a token is sent, the allowance covers it: it has been read before,
    and the approvals since then have been included. -/
def Covered (es : List Exchange) : Prop :=
  ∀ before call answer after, es = before ++ ⟨.send call, answer⟩ :: after →
    ∀ node token amount, call.action = .deposit node token amount → token.isZero = false →
      ∃ allowed : UInt256, ⟨.view (.allowance token c.account c.custody), .ok allowed⟩ ∈ before ∧
        amount ≤ allowanceAfter token c.custody allowed (included before)

/-- Of the actions for a deposit, the deposit itself comes when the allowance covers it. -/
theorem covers_depositActions {allowed : UInt256} {done left : List Call} {call : Call}
    {more : List Action} (others : ∀ node token amount, .deposit node token amount ∉ more)
    (actions_eq : (done ++ call :: left).map Call.action =
      c.depositActions node token amount allowed ++ more)
    {node' token' : Address} {amount' : UInt256}
    (deposit_eq : call.action = .deposit node' token' amount') :
    token' = token ∧ amount' = amount ∧
      (token.isZero = false → amount ≤ allowanceAfter token c.custody allowed done) := by
  have late {done : List Call} (h : (done ++ call :: left).map Call.action = more) : False := by
    refine others node' token' amount' ?_
    rw [← h, ← deposit_eq]
    exact List.mem_map_of_mem (by simp)
  unfold depositActions approvalActions at actions_eq
  by_cases covered : token.isZero ∨ amount ≤ allowed
  · rw [if_pos covered] at actions_eq
    -- The deposit is the first action.
    rcases done with _ | ⟨first, done⟩
    · obtain ⟨action_eq, -⟩ := List.cons.inj actions_eq
      cases deposit_eq.symm.trans action_eq
      exact ⟨rfl, rfl, fun foreign => covered.resolve_left (by simp [foreign])⟩
    · exact (late (List.cons.inj actions_eq).2).elim
  · rw [if_neg covered] at actions_eq
    -- The approval is the first action, and the deposit the second one.
    rcases done with _ | ⟨first, _ | ⟨second, done⟩⟩
    · obtain ⟨action_eq, -⟩ := List.cons.inj actions_eq
      exact nomatch deposit_eq.symm.trans action_eq
    · obtain ⟨approval_eq, rest_eq⟩ := List.cons.inj actions_eq
      obtain ⟨action_eq, -⟩ := List.cons.inj rest_eq
      cases deposit_eq.symm.trans action_eq
      refine ⟨rfl, rfl, fun _ => ?_⟩
      have approved : first.action = .approve token c.custody amount := approval_eq
      simp [allowanceAfter, approved, Action.allowance]
    · exact (late (List.cons.inj (List.cons.inj actions_eq).2).2).elim

/-- If the deposit of a token has been prepared, the allowance has been read. -/
theorem exists_reading {es : List Exchange} {calls : List Call} {allowed : UInt256}
    (prepared : CallsPrepared (c.depositRequests node token amount allowed)
      (c.depositActions node token amount allowed) es (.ok calls))
    (read : c.AllowanceRead token es allowed) (foreign : token.isZero = false) :
    ⟨.view (.allowance token c.account c.custody), .ok allowed⟩ ∈ es := by
  obtain ⟨⟨r, answer⟩, mem, rfl, answered⟩ := prepared.attempt.exists_answered rfl
    (r := .view (.allowance token c.account c.custody)) (by
      simp [depositRequests, approvalRequests, foreign])
  cases answer with
  | error e => exact nomatch answered
  | ok a =>
    cases read a mem
    exact mem

/-- Whatever is sent along with a deposit, the allowance covers it. -/
theorem covered_of_prepared {before sent : List Exchange} {deposits more left : List Call}
    {call : Call} (t : (c.depositCalls node token amount).Transcript before (.ok deposits))
    (faithful : Faithful before)
    (others : ∀ node token amount, .deposit node token amount ∉ more.map Call.action)
    (calls_eq : included sent ++ call :: left = deposits ++ more) {node' token' : Address}
    {amount' : UInt256} (deposit_eq : call.action = .deposit node' token' amount')
    (foreign : token'.isZero = false) :
    ∃ allowed : UInt256, ⟨.view (.allowance token' c.account c.custody), .ok allowed⟩ ∈ before ∧
      amount' ≤ allowanceAfter token' c.custody allowed (included sent) := by
  obtain ⟨⟨allowed, read⟩, prepares⟩ := c.prepared_depositCalls node token amount t
  have prepared := prepares allowed read
  have actions_eq := prepared.actions_eq deposits rfl faithful
  obtain ⟨rfl, rfl, covers⟩ := c.covers_depositActions node token amount others
    (by rw [calls_eq, List.map_append, actions_eq]) deposit_eq
  exact ⟨allowed, c.exists_reading node _ _ prepared read foreign, covers foreign⟩

theorem covered_deposit {es : List Exchange} {result : Except Error (List Hash)}
    (t : (c.deposit node token amount).Transcript es result) (faithful : Faithful es) :
    c.Covered es := by
  rintro before call answer after rfl node' token' amount' deposit_eq foreign
  have course := c.course_carryOut (.deposit node token amount) t
  obtain ⟨first, extra, left, ⟨rest, rfl⟩, prepared⟩ := course.prepared_of_send rfl
  obtain ⟨_ | calls, deposit, calls_eq⟩ := transcript_map.1 prepared
  · exact nomatch calls_eq
  cases calls_eq
  have faithful : Faithful first := faithful.mono fun x hx => by simp [hx]
  obtain ⟨allowed, read, covers⟩ := c.covered_of_prepared node token amount deposit faithful
    (fun _ _ _ => List.not_mem_nil) (List.append_nil _).symm deposit_eq foreign
  exact ⟨allowed, List.mem_append_left _ read, covers⟩

theorem covered_depositAndCreateChannel {es : List Exchange}
    {result : Except Error (PreparedChannel × List Hash)}
    (t : (c.depositAndCreateChannel node token amount o).Transcript es result)
    (faithful : Faithful es) : c.Covered es := by
  rintro before call answer after rfl node' token' amount' deposit_eq foreign
  have course := c.course_carryOut (.depositAndCreateChannel node token amount o) t
  obtain ⟨first, extra, left, ⟨rest, rfl⟩, prepared⟩ := course.prepared_of_send rfl
  obtain ⟨deposits, opens, calls, creation, rfl, deposit, -, calls_eq⟩ :=
    c.exists_of_depositAndCreationCalls_ok node token amount o prepared
  have creates := faithful (.createChannel extra.definition extra.initial) creation (by simp)
  have others (n t : Address) (a : UInt256) : .deposit n t a ∉ [creation].map Call.action := by
    obtain ⟨id, action_eq⟩ := creates
    simp [action_eq]
  have faithful : Faithful deposits := faithful.mono fun x hx => by simp [hx]
  obtain ⟨allowed, read, covers⟩ := c.covered_of_prepared node token amount deposit faithful others
    calls_eq deposit_eq foreign
  exact ⟨allowed, by simp [read], covers⟩

/-! ## Nets -/

/-- If the contract is on the configured chain, the last call creates the prepared channel. -/
theorem actions_depositAndCreationCalls {es : List Exchange} {prepared : PreparedChannel}
    {calls : List Call}
    (t : (c.depositAndCreationCalls node token amount o).Transcript es (.ok (prepared, calls)))
    (faithful : Faithful es) (created : CreatedOn c.configuration.chainId es) :
    (∃ allowed, c.AllowanceRead token es allowed) ∧
      ∀ allowed, c.AllowanceRead token es allowed → calls.map Call.action =
        c.depositActions node token amount allowed ++ [.createChannel prepared.id] := by
  obtain ⟨before, after, deposits, creation, rfl, deposit, opening, rfl⟩ :=
    c.exists_of_depositAndCreationCalls_ok node token amount o t
  obtain ⟨⟨a, read⟩, prepares⟩ := c.prepared_depositCalls node token amount deposit
  constructor
  · have unread : c.AllowanceRead token after a := c.allowanceRead_of_ensures token
      (c.ensures_initialState (fun _ => nofun) fun _ _ _ => nofun) opening a
    refine ⟨a, (read.append unread).append fun _ h => ?_⟩
    cases List.mem_singleton.1 h
  · intro allowed read
    have read : c.AllowanceRead token before allowed := fun a h => read a (by simp [h])
    have faithful : Faithful before := faithful.mono fun x hx => by simp [hx]
    obtain ⟨id, id_eq, action_eq⟩ := created prepared.definition prepared.initial creation (by simp)
    cases id_eq.symm.trans (c.channelId_of_initialState opening)
    rw [List.map_append, (prepares allowed read).actions_eq deposits rfl faithful,
      List.map_singleton, action_eq]

/-- The native asset is deposited without any token. -/
theorem asked_token_of_native {allowed : UInt256} {es : List Exchange} {outcome : Option Error}
    (attempt : Attempt (c.depositRequests node token amount allowed) es outcome)
    (native : token.isZero) : asked .token es = [] := by
  refine List.filterMap_eq_nil_iff.2 fun x hx => ?_
  have mem := attempt.isPrefix.subset (List.mem_map_of_mem hx)
  rw [depositRequests, approvalRequests, if_pos native] at mem
  rw [List.mem_singleton.1 mem]
  rfl

/-- What a deposit takes. As the allowance that is read demands, and up to the first request that
    fails, the allowance is read, the amount approved and the deposit prepared; for the native
    asset, only the last. The creation of a channel follows if all of this goes well, for the
    channel that has been prepared. By the time that the deposit is sent, the allowance covers it.
    In a net, all this goes by the allowance that is set, and the logs show it. -/
theorem depositCalls_attempted :
    (∀ es result, (c.depositCalls node token amount).Transcript es result →
      (∃ allowed, c.AllowanceRead token es allowed) ∧
      ∀ allowed, c.AllowanceRead token es allowed →
        CallsPrepared (c.depositRequests node token amount allowed)
          (c.depositActions node token amount allowed) es result) ∧
    (∀ es result, (c.depositAndCreationCalls node token amount o).Transcript es result →
      c.CombinedCourse node token amount o es result) ∧
    (∀ es prepared calls,
      (c.depositAndCreationCalls node token amount o).Transcript es (.ok (prepared, calls)) →
      Faithful es → CreatedOn c.configuration.chainId es →
      (∃ allowed, c.AllowanceRead token es allowed) ∧
      ∀ allowed, c.AllowanceRead token es allowed → calls.map Call.action =
        c.depositActions node token amount allowed ++ [.createChannel prepared.id]) ∧
    (∀ es result, (c.deposit node token amount).Transcript es result → Faithful es →
      c.Covered es) ∧
    (∀ es result, (c.depositAndCreateChannel node token amount o).Transcript es result →
      Faithful es → c.Covered es) ∧
    ∀ net : LocalNet, ∃ es,
      es = (c.depositCalls node token amount).run.exchanges LocalNet.answer net ∧
      CallsPrepared (c.depositRequests node token amount net.allowance)
        (c.depositActions node token amount net.allowance) es
        (net.run (c.depositCalls node token amount)).1 ∧
      (∀ endpoint, (net.run (c.depositCalls node token amount)).2.log endpoint =
        net.log endpoint ++ asked endpoint es) ∧
      (token.isZero → (net.run (c.depositCalls node token amount)).2.tokenLog = net.tokenLog) ∧
      (∀ calls, (net.run (c.depositCalls node token amount)).1 = .ok calls →
        calls.map Call.action = c.depositActions node token amount net.allowance) ∧
      ∀ prepared calls,
        (net.run (c.depositAndCreationCalls node token amount o)).1 = .ok (prepared, calls) →
        net.chainId = c.configuration.chainId → calls.map Call.action =
          c.depositActions node token amount net.allowance ++ [.createChannel prepared.id] := by
  refine ⟨fun es result => c.prepared_depositCalls node token amount,
    fun es result => c.course_depositAndCreationCalls node token amount o,
    fun es prepared calls => c.actions_depositAndCreationCalls node token amount o,
    fun es result => c.covered_deposit node token amount,
    fun es result => c.covered_depositAndCreateChannel node token amount o, fun net => ?_⟩
  have t := net.transcript_run (c.depositCalls node token amount)
  -- In a net, the allowance that is read is the one that is set.
  have prepared := (c.prepared_depositCalls node token amount t).2 net.allowance
    fun a h => net.allowance_run _ h
  have log := net.log_run (c.depositCalls node token amount)
  refine ⟨_, rfl, prepared, log, fun native => ?_, fun calls made => ?_,
    fun p calls made chain => ?_⟩
  · refine (log .token).trans ?_
    rw [c.asked_token_of_native node token amount prepared.attempt native]
    exact List.append_nil _
  · exact prepared.actions_eq calls made (net.faithful_run _)
  · have t := net.transcript_run (c.depositAndCreationCalls node token amount o)
    rw [made] at t
    exact (c.actions_depositAndCreationCalls node token amount o t (net.faithful_run _)
      (chain ▸ net.createdOn_run _)).2 net.allowance fun a h => net.allowance_run _ h

/-- The allowance falls short by one, and the sender gives up after the approval; and a deposit of
    the native asset, which takes no allowance. -/
theorem depositCalls_attempted_short :
    let net : LocalNet := { Sample.net with allowance := 4 }
    let deposits := net.run (Sample.client.depositCalls ⟨4⟩ ⟨3⟩ 5)
    let creations := net.run (Sample.client.depositAndCreationCalls ⟨4⟩ ⟨3⟩ 5 Sample.opening)
    let deposit := Sample.client.deposit ⟨4⟩ ⟨3⟩ 5
    let combined := Sample.client.depositAndCreateChannel ⟨4⟩ ⟨3⟩ 5 Sample.opening
    (∃ calls, deposits.1 = .ok calls ∧
      calls.map Call.action = [.approve ⟨3⟩ ⟨1⟩ 5, .deposit ⟨4⟩ ⟨3⟩ 5]) ∧
    (∃ prepared calls, creations.1 = .ok (prepared, calls) ∧ calls.map Call.action =
      [.approve ⟨3⟩ ⟨1⟩ 5, .deposit ⟨4⟩ ⟨3⟩ 5, .createChannel prepared.id]) ∧
    Sample.client.Covered (deposit.run.exchanges LocalNet.answer net) ∧
    Sample.client.Covered (combined.run.exchanges LocalNet.answer net) ∧
    (net.run (Sample.client.depositCalls ⟨4⟩ ⟨0⟩ 5)).2.tokenLog = [] := by
  intro net deposits creations deposit combined
  obtain ⟨of_deposit, -, of_creation, covered, covered', -⟩ :=
    depositCalls_attempted Sample.client ⟨4⟩ ⟨3⟩ 5 Sample.opening
  obtain ⟨-, -, -, -, -, native⟩ := depositCalls_attempted Sample.client ⟨4⟩ ⟨0⟩ 5 Sample.opening
  have actions_eq : Sample.client.depositActions ⟨4⟩ ⟨3⟩ 5 4 =
      [.approve ⟨3⟩ ⟨1⟩ 5, .deposit ⟨4⟩ ⟨3⟩ 5] := by decide
  have deposited : deposits.1.isOk = true := by decide +kernel
  have created : creations.1.isOk = true := by decide +kernel
  have t := net.transcript_run (Sample.client.depositCalls ⟨4⟩ ⟨3⟩ 5)
  obtain ⟨-, prepares⟩ := of_deposit _ _ t
  have prepared := prepares 4 fun a h => net.allowance_run _ h
  have u := net.transcript_run (Sample.client.depositAndCreationCalls ⟨4⟩ ⟨3⟩ 5 Sample.opening)
  refine ⟨?_, ?_, ?_, ?_, ?_⟩
  · cases made : deposits.1 with
    | error e => exact nomatch made ▸ deposited
    | ok calls =>
      refine ⟨calls, rfl, ?_⟩
      rw [prepared.actions_eq calls made (net.faithful_run _), actions_eq]
  · cases made : creations.1 with
    | error e => exact nomatch made ▸ created
    | ok r =>
      rw [made] at u
      obtain ⟨-, creates⟩ := of_creation _ _ _ u (net.faithful_run _) (net.createdOn_run _)
      refine ⟨r.1, r.2, rfl, ?_⟩
      rw [creates 4 fun a h => net.allowance_run _ h, actions_eq]
      rfl
  · exact covered _ _ (net.transcript_run deposit) (net.faithful_run deposit)
  · exact covered' _ _ (net.transcript_run combined) (net.faithful_run combined)
  · obtain ⟨es, -, -, -, unchanged, -⟩ := native net
    exact unchanged rfl

end Client

end PaymentChannel
