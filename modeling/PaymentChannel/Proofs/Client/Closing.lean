import PaymentChannel.Proofs.Client.Checks
import PaymentChannel.Proofs.Client.Signing
import PaymentChannel.Proofs.Net.Records

/-!
# What is closed

A channel is closed with the content that the parties agreed on and the signatures of the other
side, if these are what the protocol takes (`Client.Closes`). The account's own signature goes in
front of theirs, and all of them are kept: a state with ledgers has room for only one, but then no
more than one is let pass. So the final state always carries enough signatures for the contract to
be asked, and the contract is asked with just this state (`CloseCourse`).
-/

namespace PaymentChannel.Client

open Operation

variable (c : Client)

/-- What a closing comes to: the state before the account signs it. -/
inductive Closes : Closing → State → Prop where
  /-- A state with ledgers is the last one, and takes one signature besides the account's. -/
  | v1 {id : ChannelId} {version : UInt64} {metadata : Bytes32} {home nonHome : Ledger}
      {signature : Signature} (protocol_eq : c.configuration.protocol = .v1) :
      Closes ⟨id, some (.v1 version metadata home nonHome), [signature]⟩
        (.v1 ⟨version, .terminal, metadata, home, nonHome, none, none⟩)
  /-- A legacy state has data and two allocations, and takes any signatures, but not none. -/
  | legacy {id : ChannelId} {data : Bytes} {first second : Allocation} {signatures : List Signature}
      (protocol_eq : c.configuration.protocol = .legacy) (signed : signatures ≠ []) :
      Closes ⟨id, some (.legacy (some data) [first, second]), signatures⟩
        (.legacy ⟨data, (first, second), []⟩)

variable {c} {closing : Closing}

theorem Closes.withoutSignatures_eq {s : State} (h : c.Closes closing s) :
    s.withoutSignatures = s := by
  cases h <;> rfl

/-- What passes the check is what the closing comes to. -/
theorem checkClosing_eq_ok_iff {s : State} :
    c.checkClosing closing = .ok s ↔ c.Closes closing s := by
  rcases closing with ⟨id, _ | content, signatures⟩
  · exact ⟨nofun, nofun⟩
  -- The check comes in four steps: the protocol, some signature, room for it, and the content.
  refine (bind_eq_ok_iff.trans (exists_congr fun _ => and_congr_right' (ite_throw_eq_ok_iff.trans
    (and_congr_right' ite_throw_eq_ok_iff)))).trans ?_
  constructor
  · rintro ⟨_, allowed, signed, room, made⟩
    have protocol_eq := (c.requireProtocol_eq_ok_iff.1 allowed).symm
    cases content with
    | v1 version metadata home nonHome =>
      have single : signatures.length = 1 := by simpa [FinalContent.protocol] using room
      obtain ⟨signature, rfl⟩ := List.length_eq_one_iff.1 single
      cases made
      exact .v1 protocol_eq
    | legacy data allocations =>
      have present : signatures ≠ [] := by simpa using signed
      rcases data with _ | data
      · exact nomatch made
      rcases allocations with _ | ⟨first, _ | ⟨second, _ | ⟨third, rest⟩⟩⟩ <;> cases made
      exact .legacy protocol_eq present
  · rintro (protocol_eq | @⟨id, data, first, second, signatures, protocol_eq, signed⟩)
    · exact ⟨(), c.requireProtocol_eq_ok_iff.2 protocol_eq.symm, nofun, fun h => h.2 rfl, rfl⟩
    · have present : signatures.isEmpty = false := by simpa using signed
      exact ⟨(), c.requireProtocol_eq_ok_iff.2 protocol_eq.symm, ne_true_of_eq_false present,
        (fun h => nomatch h.1), rfl⟩

/-! ## Transcripts -/

variable (c closing) in
/-- A final state with its signatures: the account's own, over the hash of the state, in front of
    all that were given. These are enough for the contract. -/
structure Closed (hash : Hash) (own : Signature) (signed : State) : Prop where
  closes : c.Closes closing signed.withoutSignatures
  hash_eq : stateHash closing.id signed = .ok hash
  signatures_eq : signed.signatures = own :: closing.signatures
  count_eq : signed.signatureCount = (own :: closing.signatures).length
  agreed : requireAgreed signed = .ok ()

/-- There is room for all signatures. -/
theorem Closes.closed {s : State} {hash : Hash} (h : c.Closes closing s)
    (hash_eq : stateHash closing.id s = .ok hash) (own : Signature) :
    c.Closed closing hash own (s.withSignatures own closing.signatures) := by
  have signatures_eq : (s.withSignatures own closing.signatures).signatures =
      own :: closing.signatures := by
    cases h <;> rfl
  have checked := checkClosing_eq_ok_iff.2 h
  refine ⟨?_, ?_, signatures_eq, ?_, ?_⟩
  · rw [State.withoutSignatures_withSignatures, h.withoutSignatures_eq]
    exact h
  · rw [stateHash, packedState, State.toValue_withSignatures]
    exact hash_eq
  · rw [State.signatureCount_eq_length, signatures_eq]
  · exact (requireAgreed_eq_ok_iff _).2 (c.agreed_withSignatures checked own)

variable (c closing)

/-- How the preparation of the final state can go. -/
inductive FinalCourse : List Exchange → Except Error State → Prop where
  /-- It is refused before anything is asked. -/
  | refused (e : Error) (unfounded : ∀ s, ¬ c.Closes closing s) : FinalCourse [] (.error e)
  /-- The account is asked to sign the state, and does not. -/
  | unsigned {s : State} {hash : Hash} (reason : SignError) (closes : c.Closes closing s)
      (hash_eq : stateHash closing.id s = .ok hash) :
      FinalCourse
        [⟨.signState hash ⟨closing.id, s.protocol, s.version, s.intent, .state⟩, .error reason⟩]
        (.error (.signing reason))
  /-- The account signs the state. -/
  | signed {hash : Hash} {own : Signature} {signed : State}
      (closed : c.Closed closing hash own signed) :
      FinalCourse
        [⟨.signState hash
          ⟨closing.id, signed.protocol, signed.version, signed.intent, .state⟩, .ok own⟩]
        (.ok signed)

/-- How the preparation of the call that closes a channel can go. -/
inductive CloseCourse : List Exchange → Except Error (State × Call) → Prop where
  /-- There is no final state. -/
  | unprepared {es : List Exchange} {e : Error} (final : c.FinalCourse closing es (.error e)) :
      CloseCourse es (.error e)
  /-- The contract is asked with the final state, and no proofs. -/
  | submitted {es : List Exchange} {signed : State} (final : c.FinalCourse closing es (.ok signed))
      (answer : Except Error Call) :
      CloseCourse (es ++ [⟨.prepare (.close closing.id signed []), answer⟩])
        ((answer.mapError (Error.asCall "close" (channelContext closing.id))).map fun call =>
          (signed, call))

variable {c closing}

theorem course_finalState {es : List Exchange} {result : Except Error State}
    (t : (c.finalState closing).Transcript es result) : c.FinalCourse closing es result := by
  rcases transcript_bind.1 t with ⟨e, first, rfl⟩ | ⟨_, signs, unsigned, rfl, first, rest⟩
  · obtain ⟨rfl, failed⟩ := transcript_ofExcept.1 first
    exact .refused e fun s closes => nomatch failed.trans (checkClosing_eq_ok_iff.2 closes)
  · obtain ⟨rfl, passed⟩ := transcript_ofExcept.1 first
    have closes := checkClosing_eq_ok_iff.1 passed.symm
    obtain ⟨_, signed, rfl⟩ := transcript_bind_pure.1 rest
    obtain ⟨hash, answer, hash_eq, rfl, rfl⟩ := transcript_signState.1 signed
    cases answer with
    | error reason => exact .unsigned reason closes hash_eq
    | ok own =>
      have course := FinalCourse.signed (closes.closed hash_eq own)
      -- Signatures do not matter to what the signer is told of the state.
      cases unsigned <;> exact course

theorem FinalCourse.closed {es : List Exchange} {signed : State}
    (h : c.FinalCourse closing es (.ok signed)) :
    ∃ hash context own, es = [⟨.signState hash context, .ok own⟩] ∧
      c.Closed closing hash own signed := by
  cases h with
  | signed closed => exact ⟨_, _, _, rfl, closed⟩

/-- Once the account has signed, the contract is asked. -/
theorem course_cooperativeCloseCall {es : List Exchange} {result : Except Error (State × Call)}
    (t : (c.cooperativeCloseCall closing).Transcript es result) :
    c.CloseCourse closing es result := by
  rcases transcript_bind.1 t with ⟨e, first, rfl⟩ | ⟨signs, submits, signed, rfl, first, rest⟩
  · exact .unprepared (course_finalState first)
  · have final := course_finalState first
    obtain ⟨_, _, _, -, closed⟩ := final.closed
    obtain ⟨_, called, rfl⟩ := transcript_bind_pure.1 rest
    rw [closeCall, agreedCall_of_le ((requireAgreed_eq_ok_iff signed).1 closed.agreed)] at called
    obtain ⟨answer, prepared, rfl⟩ := transcript_adapt.1 called
    rw [transcript_prepare.1 prepared]
    exact .submitted final answer

/-- If nobody fails, there is a final state just if the closing comes to one. -/
theorem FinalCourse.exists_ok_iff {es : List Exchange} {result : Except Error State}
    (h : c.FinalCourse closing es result) (unfailed : ∀ x ∈ es, x.failure? = none) :
    (∃ signed, result = .ok signed) ↔ ∃ s, c.Closes closing s := by
  cases h with
  | refused e unfounded => exact ⟨nofun, fun ⟨s, closes⟩ => absurd closes (unfounded s)⟩
  | unsigned reason closes hash_eq => exact nomatch unfailed _ (List.mem_singleton_self _)
  | signed closed => exact ⟨fun _ => ⟨_, closed.closes⟩, fun _ => ⟨_, rfl⟩⟩

theorem CloseCourse.exists_ok_iff {es : List Exchange} {result : Except Error (State × Call)}
    (h : c.CloseCourse closing es result) (unfailed : ∀ x ∈ es, x.failure? = none) :
    (∃ r, result = .ok r) ↔ ∃ s, c.Closes closing s := by
  cases h with
  | unprepared final =>
    rw [← final.exists_ok_iff unfailed]
    exact ⟨nofun, nofun⟩
  | submitted final answer =>
    have exists_iff := final.exists_ok_iff fun x hx => unfailed x (List.mem_append_left _ hx)
    refine ⟨fun _ => exists_iff.1 ⟨_, rfl⟩, fun _ => ?_⟩
    have answered := unfailed _ (List.mem_append_right _ (List.mem_singleton_self _))
    cases answer with
    | ok call => exact ⟨_, rfl⟩
    | error e => exact nomatch answered

/-! ## Nets -/

variable (net : LocalNet)

/-- If a final state is there in the end, the account's own signer has signed it. -/
theorem closed_run {es : List Exchange} {signed : State}
    (final : c.FinalCourse closing es (.ok signed)) {α : Type} (op : Operation α)
    (asked : es ⊆ op.run.exchanges LocalNet.answer net) :
    ∃ hash own, net.own.sign hash = .ok own ∧ c.Closed closing hash own signed := by
  obtain ⟨hash, context, own, rfl, closed⟩ := final.closed
  exact ⟨hash, own, (net.sign_run op (asked (List.mem_singleton_self _))).symm, closed⟩

/-- With a signer that works, there is a final state just if the closing comes to one. -/
theorem run_finalState_exists_ok_iff (working : ∀ hash, ∃ own, net.own.sign hash = .ok own) :
    (∃ signed, (net.run (c.finalState closing)).1 = .ok signed) ↔ ∃ s, c.Closes closing s := by
  have t := net.transcript_run (c.finalState closing)
  have signs := @LocalNet.sign_run net _ (c.finalState closing)
  have course := course_finalState t
  refine course.exists_ok_iff ?_
  generalize (net.run (c.finalState closing)).1 = result at course
  generalize (c.finalState closing).run.exchanges LocalNet.answer net = es at course signs ⊢
  cases course with
  | refused e unfounded => exact List.forall_mem_nil _
  | @unsigned s hash reason closes hash_eq =>
    obtain ⟨own, own_eq⟩ := working hash
    exact nomatch (signs (List.mem_singleton_self _)).trans own_eq
  | signed closed => exact List.forall_mem_singleton.2 rfl

/-- A closing that comes to nothing leaves the net as it is. -/
theorem run_cooperativeCloseCall_of_unfounded (unfounded : ∀ s, ¬ c.Closes closing s) :
    ∃ e, net.run (c.cooperativeCloseCall closing) = (.error e, net) := by
  cases checked : c.checkClosing closing with
  | ok s => exact absurd (checkClosing_eq_ok_iff.1 checked) (unfounded s)
  | error e =>
    refine ⟨e, ?_⟩
    rw [cooperativeCloseCall, finalState, checked]
    rfl

/-- If the call is there in the end, the custody contract has been handed its state. -/
theorem run_cooperativeCloseCall {signed : State} {call : Call}
    (made : (net.run (c.cooperativeCloseCall closing)).1 = .ok (signed, call)) :
    (∃ hash own, net.own.sign hash = .ok own ∧ c.Closed closing hash own signed) ∧
      (net.run (c.cooperativeCloseCall closing)).2.submissions =
        net.submissions ++ [⟨"closeChannel", signed, []⟩] ∧
      (net.run (c.cooperativeCloseCall closing)).2.custodyLog =
        net.custodyLog ++ ["closeChannel"] ∧
      (net.run (c.cooperativeCloseCall closing)).2.tokenLog = net.tokenLog := by
  have t := net.transcript_run (c.cooperativeCloseCall closing)
  have log := net.log_run (c.cooperativeCloseCall closing)
  have submissions := net.submissions_run_of_unfailed (c.cooperativeCloseCall closing)
  have signs {es} (final : c.FinalCourse closing es (.ok signed)) :=
    closed_run net final (c.cooperativeCloseCall closing)
  rw [made] at t
  -- What the net records is known by the exchanges of the run, whatever these are.
  generalize (c.cooperativeCloseCall closing).run.exchanges LocalNet.answer net = es at *
  generalize result_eq : Except.ok (signed, call) = result at t
  cases course_cooperativeCloseCall t with
  | unprepared final => exact nomatch result_eq
  | submitted final answer =>
    cases answer with
    | error e => exact nomatch result_eq
    | ok call =>
      cases result_eq
      obtain ⟨hash, context, own, rfl, -⟩ := final.closed
      refine ⟨signs final (List.subset_append_left _ _), submissions ?_, log .custody, ?_⟩
      · exact List.forall_mem_cons.2 ⟨rfl, List.forall_mem_singleton.2 rfl⟩
      · exact (log .token).trans (List.append_nil _)

variable (c closing)

/-- What is closed, and with which signatures. With a signer that works, there is a final state just
    if the closing comes to one. It has the content that was asked for, and the account's own
    signature in front of all that were given. So the custody contract is always asked once the
    account has signed: with this state, the one that is returned, and without proofs. Whatever does
    not pass the checks leaves the net as it is. -/
theorem finalState_closes :
    (∀ es result, (c.finalState closing).Transcript es result →
      c.FinalCourse closing es result ∧ ((∀ x ∈ es, x.failure? = none) →
        ((∃ signed, result = .ok signed) ↔ ∃ s, c.Closes closing s))) ∧
    (∀ es result, (c.cooperativeCloseCall closing).Transcript es result →
      c.CloseCourse closing es result ∧ ((∀ x ∈ es, x.failure? = none) →
        ((∃ r, result = .ok r) ↔ ∃ s, c.Closes closing s))) ∧
    (∀ es signed, c.FinalCourse closing es (.ok signed) → ∃ hash context own,
      es = [⟨.signState hash context, .ok own⟩] ∧ c.Closed closing hash own signed) ∧
    ∀ net : LocalNet,
      ((∀ hash, ∃ own, net.own.sign hash = .ok own) →
        ((∃ signed, (net.run (c.finalState closing)).1 = .ok signed) ↔
          ∃ s, c.Closes closing s)) ∧
      (∀ signed, (net.run (c.finalState closing)).1 = .ok signed →
        ∃ hash own, net.own.sign hash = .ok own ∧ c.Closed closing hash own signed) ∧
      ((∀ s, ¬ c.Closes closing s) →
        ∃ e, net.run (c.cooperativeCloseCall closing) = (.error e, net)) ∧
      ∀ signed call, (net.run (c.cooperativeCloseCall closing)).1 = .ok (signed, call) →
        (∃ hash own, net.own.sign hash = .ok own ∧ c.Closed closing hash own signed) ∧
        (net.run (c.cooperativeCloseCall closing)).2.submissions =
          net.submissions ++ [⟨"closeChannel", signed, []⟩] ∧
        (net.run (c.cooperativeCloseCall closing)).2.custodyLog =
          net.custodyLog ++ ["closeChannel"] ∧
        (net.run (c.cooperativeCloseCall closing)).2.tokenLog = net.tokenLog := by
  refine ⟨fun es result t => ?_, fun es result t => ?_, fun es signed => FinalCourse.closed,
    fun net => ⟨run_finalState_exists_ok_iff net, fun signed made => ?_,
      run_cooperativeCloseCall_of_unfounded net, fun signed call => run_cooperativeCloseCall net⟩⟩
  · have course := course_finalState t
    exact ⟨course, course.exists_ok_iff⟩
  · have course := course_cooperativeCloseCall t
    exact ⟨course, course.exists_ok_iff⟩
  · have t := net.transcript_run (c.finalState closing)
    rw [made] at t
    exact closed_run net (course_finalState t) (c.finalState closing) (List.Subset.refl _)

/-- A channel with ledgers is closed with the node's signature. Without it, nothing is asked. -/
theorem finalState_closes_countersigned :
    let closing : Closing := ⟨⟨7⟩, some (.v1 3 ⟨0⟩ .empty .empty), [⟨[1]⟩]⟩
    let final := Sample.net.run (Sample.client.finalState closing)
    let closed := Sample.net.run (Sample.client.cooperativeCloseCall closing)
    (∃ signed, final.1 = .ok signed ∧ signed.signatures = [⟨[]⟩, ⟨[1]⟩]) ∧
    (∃ signed call, closed.1 = .ok (signed, call) ∧ signed.signatures = [⟨[]⟩, ⟨[1]⟩] ∧
      closed.2.submissions = [⟨"closeChannel", signed, []⟩]) ∧
    ∃ e, Sample.net.run (Sample.client.cooperativeCloseCall { closing with signatures := [] }) =
      (.error e, Sample.net) := by
  intro closing final closed
  obtain ⟨-, in_transcripts, -, in_nets⟩ := finalState_closes Sample.client closing
  obtain ⟨-, -, -, unsigned⟩ := finalState_closes Sample.client { closing with signatures := [] }
  have closes : ∃ s, Sample.client.Closes closing s := ⟨_, .v1 rfl⟩
  obtain ⟨exists_iff, signs, -, submits⟩ := in_nets Sample.net
  refine ⟨?_, ?_, (unsigned Sample.net).2.2.1 nofun⟩
  · obtain ⟨signed, made⟩ := (exists_iff fun _ => ⟨⟨[]⟩, rfl⟩).2 closes
    obtain ⟨hash, own, own_eq, signed_closed⟩ := signs signed made
    cases own_eq
    exact ⟨signed, made, signed_closed.signatures_eq⟩
  · have t := Sample.net.transcript_run (Sample.client.cooperativeCloseCall closing)
    obtain ⟨-, exists_iff⟩ := in_transcripts _ _ t
    obtain ⟨⟨signed, call⟩, made⟩ := (exists_iff (by decide +kernel)).2 closes
    obtain ⟨⟨hash, own, own_eq, signed_closed⟩, submissions_eq, -⟩ := submits signed call made
    cases own_eq
    exact ⟨signed, call, made, signed_closed.signatures_eq, submissions_eq⟩

end PaymentChannel.Client
