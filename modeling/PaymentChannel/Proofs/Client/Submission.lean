import PaymentChannel.Proofs.Client.Command
import PaymentChannel.Proofs.Net.Answers

/-!
# Submissions

The custody contract pays out what the parties agreed on, so what a client hands to it matters more
than anything else that the client does. Whatever the contract and the signers answer:

* a state that is handed over as agreed on carries the signatures of both parties, and a channel is
  created with a state that only the account has signed (`Client.Admissible`);
* a state that the caller gives is handed over as it is, and so are its proofs (`Command.given?`);
* if the caller gives a state with too few signatures to be agreed on, nobody is asked anything
  (`Client.perform_of_lt`).

These are conditions on every plan that is prepared for the client, and from there on every
submission that a net records in a session.
-/

namespace PaymentChannel

namespace Command

/-- What the caller gives to be handed over: a state, and the states that prove it. -/
def given? : Command → Option (State × List State)
  | checkpointCall _ candidate proofs | challengeCall _ candidate proofs _
  | closeCall _ candidate proofs | write (.checkpoint _ candidate proofs)
  | write (.challenge _ candidate proofs _) => some (candidate, proofs)
  | _ => none

/-- What the caller gives as a state that the parties agreed on. -/
def agreed? : Command → Option State
  | checkpointCall _ candidate _ | closeCall _ candidate _ | channelDepositCall _ candidate
  | channelWithdrawalCall _ candidate | write (.checkpoint _ candidate _) => some candidate
  | _ => none

end Command

namespace Client

open Operation

variable (c : Client)

/-- What the contract may be asked to prepare. -/
def Admissible : Plan → Prop
  | .checkpoint _ candidate _ | .close _ candidate _ | .depositToChannel _ candidate
  | .withdrawFromChannel _ candidate => agreedSignatures ≤ candidate.signatures.length
  | .createChannel d s => c.Opens d s ∧ s.signatures.length = 1
  | .approve .. | .deposit .. | .withdraw .. | .challenge .. => True

/-- The contract is asked for a plan that is admissible, with what the caller gives, if anything. -/
structure Accounts (given : Option (State × List State)) (p : Plan) : Prop where
  admissible : c.Admissible p
  verbatim : ∀ handed, given = some handed → p.submission? = some handed

/-- Where the caller gives nothing, there is nothing to be handed over as it is. -/
theorem verbatim_of_none {submission : Option (State × List State)} :
    ∀ handed, none = some handed → submission = some handed := nofun

/-- Only plans need to be accounted for. -/
def Accounted (given : Option (State × List State)) : Request → Prop
  | .prepare p => c.Accounts given p
  | _ => True

theorem ensures_carryOut (w : Write) :
    Ensures (c.Accounted (Command.write w).given?) (fun _ => True) (c.carryOut w) := by
  cases w with
  | deposit node token amount =>
    refine (c.ensures_depositCalls trivial ⟨trivial, verbatim_of_none⟩
      ⟨trivial, verbatim_of_none⟩).bind fun calls _ => ?_
    exact ensures_sendAll fun _ _ => trivial
  | createChannel o =>
    -- The client makes up what is opened, so that there is no given state to be handed on.
    refine (c.ensures_creationCall trivial (fun _ _ => trivial) fun d s opens single =>
      ⟨⟨opens, single⟩, verbatim_of_none⟩).bind fun _ _ => ?_
    exact (ensures_sendOne trivial).bind fun hash _ => .pure trivial
  | depositAndCreateChannel node token amount o =>
    refine (c.ensures_depositAndCreationCalls trivial ⟨trivial, verbatim_of_none⟩
      ⟨trivial, verbatim_of_none⟩ trivial (fun _ _ => trivial) fun d s opens single =>
        ⟨⟨opens, single⟩, verbatim_of_none⟩).bind fun _ _ => ?_
    exact (ensures_sendAll fun _ _ => trivial).bind fun hashes _ => .pure trivial
  | checkpoint id candidate proofs =>
    -- The given state itself is in the plan, with the given proofs.
    refine (ensures_agreedCall fun agreed => ⟨agreed, fun _ h => h⟩).bind fun call _ => ?_
    exact ensures_sendOne trivial
  | challenge id candidate proofs given =>
    refine (c.ensures_challengeCall trivial (fun _ _ => trivial)
      fun signature => ⟨trivial, fun _ h => h⟩).bind fun call _ => ?_
    exact ensures_sendOne trivial
  | closeChannel closing =>
    refine (c.ensures_cooperativeCloseCall (fun _ _ => trivial)
      fun s agreed => ⟨agreed, verbatim_of_none⟩).bind fun _ _ => ?_
    exact (ensures_sendOne trivial).bind fun hash _ => .pure trivial
  | withdraw token amount =>
    refine (c.ensures_withdrawalCall ⟨trivial, verbatim_of_none⟩).bind fun call _ => ?_
    exact ensures_sendOne trivial

theorem ensures_perform (command : Command) :
    Ensures (c.Accounted command.given?) (fun _ => True) (c.perform command) := by
  cases command with
  | channelRecord id => exact ensures_read (.channelRecord id) trivial
  | openChannels => exact ensures_read (.openChannels c.account) trivial
  | channelIds => exact ensures_read (.channelIds c.account) trivial
  | accountBalance token => exact ensures_read (.accountBalance c.account token) trivial
  | tokenBalance token => exact ensures_read (.balanceOf token c.account) trivial
  | tokenAllowance token => exact ensures_read (.allowance token c.account c.custody) trivial
  | newDefinition node metadata => exact (Ensures.nonce trivial).bind fun nonce _ => .pure trivial
  | initialState o =>
    exact (c.ensures_initialState trivial fun _ _ => trivial).mono fun _ _ => trivial
  | finalState closing => exact c.ensures_finalState fun _ _ => trivial
  | challengeSignature id candidate given =>
    exact c.ensures_challengeSignature trivial fun _ _ => trivial
  | depositCalls node token amount =>
    exact c.ensures_depositCalls trivial ⟨trivial, verbatim_of_none⟩ ⟨trivial, verbatim_of_none⟩
  | creationCall o =>
    exact c.ensures_creationCall trivial (fun _ _ => trivial)
      fun d s opens single => ⟨⟨opens, single⟩, verbatim_of_none⟩
  | depositAndCreationCalls node token amount o =>
    exact c.ensures_depositAndCreationCalls trivial ⟨trivial, verbatim_of_none⟩
      ⟨trivial, verbatim_of_none⟩ trivial (fun _ _ => trivial)
      fun d s opens single => ⟨⟨opens, single⟩, verbatim_of_none⟩
  | checkpointCall id candidate proofs | closeCall id candidate proofs =>
    exact ensures_agreedCall fun agreed => ⟨agreed, fun _ h => h⟩
  | challengeCall id candidate proofs given =>
    exact c.ensures_challengeCall trivial (fun _ _ => trivial)
      fun signature => ⟨trivial, fun _ h => h⟩
  | cooperativeCloseCall closing =>
    exact c.ensures_cooperativeCloseCall (fun _ _ => trivial)
      fun s agreed => ⟨agreed, verbatim_of_none⟩
  | withdrawalCall token amount => exact c.ensures_withdrawalCall ⟨trivial, verbatim_of_none⟩
  | channelDepositCall id candidate | channelWithdrawalCall id candidate =>
    exact ensures_agreedCall fun agreed => ⟨agreed, verbatim_of_none⟩
  | sendAll calls => exact ensures_sendAll fun _ _ => trivial
  | write w => exact c.ensures_carryOut w

/-- What is wrong with a state that carries too few signatures to be agreed on. -/
def refusal (s : State) : Error :=
  .invalidParameter "state signatures"
    s!"need at least {agreedSignatures}, got {s.signatures.length}"

theorem agreedCall_of_lt {s : State} (few : s.signatures.length < agreedSignatures)
    (operation : String) (id : ChannelId) (plan : Plan) :
    agreedCall operation id s plan = throw (refusal s) := by
  rw [agreedCall, requireAgreed, State.signatureCount_eq_length, if_pos few]
  rfl

/-- With too few signatures, an operation that needs a state to be agreed on fails at once. -/
theorem perform_of_lt {command : Command} {s : State} (h : command.agreed? = some s)
    (few : s.signatures.length < agreedSignatures) : c.perform command = throw (refusal s) := by
  cases command with
  | checkpointCall id candidate proofs =>
    cases h
    exact agreedCall_of_lt few _ _ _
  | closeCall id candidate proofs =>
    cases h
    exact agreedCall_of_lt few _ _ _
  | channelDepositCall id candidate =>
    cases h
    exact agreedCall_of_lt few _ _ _
  | channelWithdrawalCall id candidate =>
    cases h
    exact agreedCall_of_lt few _ _ _
  | write w =>
    cases w with
    | checkpoint id candidate proofs =>
      cases h
      change checkpoint id s proofs = _
      rw [checkpoint, checkpointCall, agreedCall_of_lt few]
      rfl
    | _ => exact nomatch h
  | _ => exact nomatch h

end Client

/-! ## Sessions -/

/-- A submission as the contract may get it. -/
structure Submission.Proper (s : Submission) : Prop where
  agreed : s.operation ∈ ["checkpointChannel", "closeChannel", "depositToChannel",
    "withdrawFromChannel"] → Client.agreedSignatures ≤ s.candidate.signatures.length
  opening : s.operation = "createChannel" → s.candidate.signatures.length = 1 ∧ s.proofs = [] ∧
    (s.candidate.protocol = .v1 →
      s.candidate.version = some 0 ∧ s.candidate.intent = some .initial)

/-- What an event may have recorded as a submission: a command only what the caller gave, where the
    caller gave anything, and a change from outside nothing at all. -/
def Event.MayRecord : Event → Submission → Prop
  | .command performed, s =>
    s.Proper ∧ ∀ handed, performed.given? = some handed → (s.candidate, s.proofs) = handed
  | .change _, _ => False

namespace Client

variable {c : Client}

theorem Admissible.proper {p : Plan} (h : c.Admissible p) {s : Submission}
    (hs : p.toSubmission? = some s) : s.Proper := by
  cases p with
  | approve | deposit | withdraw => exact nomatch hs
  | checkpoint id candidate proofs | close id candidate proofs | depositToChannel id candidate
  | withdrawFromChannel id candidate =>
    cases hs
    exact ⟨fun _ => h, fun other => absurd other (by simp [Plan.operation])⟩
  | createChannel d s =>
    cases hs
    exact ⟨fun other => absurd other (by simp [Plan.operation]), fun _ => ⟨h.2, rfl, h.1.initial⟩⟩
  | challenge id candidate proofs signature =>
    cases hs
    exact ⟨fun other => absurd other (by simp [Plan.operation]),
      fun other => absurd other (by simp [Plan.operation])⟩

variable (c : Client)

/-- What is recorded along with an event is what it may have recorded. -/
theorem submissions_step (net : LocalNet) (event : Event) :
    ∃ added, (∀ s ∈ added, event.MayRecord s) ∧
      (c.step net event).submissions = net.submissions ++ added := by
  cases event with
  | change change =>
    refine ⟨[], fun _ hs => absurd hs List.not_mem_nil, ?_⟩
    rw [step, LocalNet.submissions_change, List.append_nil]
  | command command =>
    obtain ⟨added, submissions_eq, stems⟩ := net.submissions_run (c.perform command)
    refine ⟨added, fun s hs => ?_, submissions_eq⟩
    -- The submission stems from a plan that the command asked for, and so is accounted for.
    obtain ⟨x, hx, p, request_eq, submission_eq⟩ := stems s hs
    have accounted := (c.ensures_perform command).asks _ _
      (Flow.transcript_exchanges LocalNet.answer (c.perform command).run net) x hx
    rw [request_eq] at accounted
    refine ⟨accounted.admissible.proper submission_eq, fun handed given => ?_⟩
    rw [Plan.toSubmission?, accounted.verbatim handed given] at submission_eq
    cases submission_eq
    rfl

theorem submissions_session (events : List Event) (net : LocalNet) :
    ∃ added, List.Forall₂ (fun event submissions => ∀ s ∈ submissions, event.MayRecord s)
        events added ∧
      (c.session events net).submissions = net.submissions ++ added.flatten :=
  c.session_log (I := fun _ => True)
    (fun net event _ => ⟨trivial, c.submissions_step net event⟩) events trivial

/-- The discipline of submissions. Whatever a client is told to do and whatever it is answered, all
    that the contract is asked to prepare is admissible and, where the caller gave the state and its
    proofs, hands over just these. So is every submission that a net records, event by event, in a
    session. A state with too few signatures to be agreed on is refused without a trace in any
    record. -/
theorem submissions_admissible :
    (∀ command es result, (c.perform command).Transcript es result →
      ∀ x ∈ es, ∀ p, x.request = .prepare p →
        c.Admissible p ∧ ∀ handed, command.given? = some handed → p.submission? = some handed) ∧
    (∀ events net, ∃ added,
      List.Forall₂ (fun event submissions => ∀ s ∈ submissions, event.MayRecord s) events added ∧
      (c.session events net).submissions = net.submissions ++ added.flatten) ∧
    (∀ command s, command.agreed? = some s → s.signatures.length < agreedSignatures →
      (∀ es result, (c.perform command).Transcript es result →
        es = [] ∧ result = .error (refusal s)) ∧
      ∀ net, LocalNet.run (c.perform command) net = (.error (refusal s), net)) := by
  refine ⟨fun command es result t x hx p request_eq => ?_, c.submissions_session,
    fun command s h few => ⟨fun es result t => ?_, fun net => ?_⟩⟩
  · have accounted := (c.ensures_perform command).asks es result t x hx
    rw [request_eq] at accounted
    exact ⟨accounted.admissible, accounted.verbatim⟩
  · rw [c.perform_of_lt h few] at t
    exact Operation.transcript_throw.1 t
  · rw [c.perform_of_lt h few]
    rfl

/-- Closing with two signatures is admissible, and with one it is refused. -/
theorem submissions_admissible_close :
    let agreed := Sample.state [⟨[1]⟩, ⟨[2]⟩]
    let signed := Sample.state [⟨[1]⟩]
    let plan := Plan.close ⟨9⟩ agreed [signed]
    let call : Call := ⟨.close ⟨9⟩, ⟨1⟩, [], 0⟩
    (Sample.client.perform (.closeCall ⟨9⟩ agreed [signed])).Transcript
      [⟨.prepare plan, .ok call⟩] (.ok call) ∧
    Sample.client.Admissible plan ∧ plan.submission? = some (agreed, [signed]) ∧
    signed.signatures.length < agreedSignatures ∧
    LocalNet.run (Sample.client.perform (.closeCall ⟨9⟩ signed [])) Sample.net =
      (.error (refusal signed), Sample.net) := by
  intro agreed signed plan call
  have t : (Sample.client.perform (.closeCall ⟨9⟩ agreed [signed])).Transcript
      [⟨.prepare plan, .ok call⟩] (.ok call) := .ask (.done _)
  obtain ⟨admissible, -, refused⟩ := submissions_admissible Sample.client
  obtain ⟨plan_admissible, verbatim⟩ :=
    admissible _ _ _ t _ (List.mem_singleton_self _) plan rfl
  have few : signed.signatures.length < agreedSignatures := by decide
  exact ⟨t, plan_admissible, verbatim _ rfl, few, (refused _ signed rfl few).2 Sample.net⟩

end Client

end PaymentChannel
