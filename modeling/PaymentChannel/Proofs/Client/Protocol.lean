import PaymentChannel.Proofs.Client.Sequencing
import PaymentChannel.Proofs.Client.Signing

/-!
# Protocols

An account is configured for one protocol. Parameters of another one are refused when a channel is
opened or closed with them, before anything is signed, handed to the contract or sent; only a
deposit that comes first is prepared (`Client.perform_of_mismatch`). A state that the caller gives
is another matter: whether it is submitted or disputed, nothing looks at its protocol, and so it
makes no difference which one is configured (`Client.perform_withProtocol`).
-/

namespace PaymentChannel

/-- The protocol of what a signature is needed for, if it is told by parameters. -/
def Purpose.protocol? : Purpose → Option Protocol
  | opening o => some o.protocol
  | closing request => request.content.map FinalContent.protocol
  | dispute .. => none

namespace Command

/-- The protocol of the parameters that a channel is opened or closed with. -/
def parameters? (command : Command) : Option Protocol := command.purpose?.bind Purpose.protocol?

/-- The state that is given to be submitted or disputed. -/
def candidate? : Command → Option State
  | challengeSignature _ candidate _ | checkpointCall _ candidate _ | challengeCall _ candidate _ _
  | closeCall _ candidate _ | channelDepositCall _ candidate | channelWithdrawalCall _ candidate
  | write (.checkpoint _ candidate _) | write (.challenge _ candidate _ _) => some candidate
  | _ => none

end Command

theorem Request.IsQuiet.isSend_eq {r : Request} (h : r.IsQuiet) : r.isSend = false := by
  cases r with
  | view | prepare | nonce => rfl
  | send | signState | signHash => exact h.elim

/-- What is quiet leaves the records of a net as they are. -/
theorem LocalNet.run_of_quiet {α : Type} {op : Operation α} (net : LocalNet)
    (quiet : ∀ x ∈ op.run.exchanges answer net, x.request.IsQuiet) :
    (net.run op).2.sent = net.sent ∧ (net.run op).2.submissions = net.submissions ∧
      (net.run op).2.signingLog = net.signingLog := by
  refine ⟨?_, ?_, ?_⟩
  · rw [sent_run, included_of_unsent fun x hx => ?_, List.append_nil]
    exact (quiet x hx).isSend_eq
  · obtain ⟨added, submissions_eq, stems⟩ := net.submissions_run op
    cases added with
    | nil => rw [submissions_eq, List.append_nil]
    | cons s added =>
      -- A plan that was asked for hands nothing over.
      obtain ⟨x, hx, p, request_eq, submission_eq⟩ := stems s List.mem_cons_self
      have nothing := quiet x hx
      rw [request_eq] at nothing
      rw [Plan.toSubmission?, show p.submission? = none from nothing] at submission_eq
      exact nomatch submission_eq
  · rw [signingLog_run, signings_of_unsigned fun x hx => (quiet x hx).isSigning_eq,
      List.append_nil]

namespace Client

open Operation

variable (c : Client)

/-! ## Parameters -/

/-- What is prepared before the parameters are looked at. -/
def deposits : Command → Operation (List Call)
  | .depositAndCreationCalls node token amount _
  | .write (.depositAndCreateChannel node token amount _) =>
    (c.depositCalls node token amount).asCall "deposit" (depositContext node token amount)
  | _ => pure []

theorem quiet_deposits (command : Command) :
    (c.deposits command).Ensures Request.IsQuiet fun _ => True := by
  cases command with
  | depositAndCreationCalls node token amount o =>
    exact (c.quiet_depositCalls node token amount).adapt _
  | write w =>
    cases w with
    | depositAndCreateChannel node token amount o =>
      exact (c.quiet_depositCalls node token amount).adapt _
    | _ => exact .pure trivial
  | _ => exact .pure trivial

/-- Parameters of another protocol than the configured one. -/
def mismatch (p : Protocol) : Error := .protocolMismatch p c.configuration.protocol

theorem requireProtocol_of_ne {p : Protocol} (h : p ≠ c.configuration.protocol) :
    c.requireProtocol p = .error (c.mismatch p) := if_neg h

theorem creationCall_of_ne {o : Opening} (h : o.protocol ≠ c.configuration.protocol) :
    c.creationCall o = throw (c.mismatch o.protocol) := by
  rw [creationCall, initialState_eq, c.requireProtocol_of_ne h]
  rfl

theorem depositAndCreationCalls_of_ne {o : Opening} (h : o.protocol ≠ c.configuration.protocol)
    (node token : Address) (amount : UInt256) :
    c.depositAndCreationCalls node token amount o = (do
      let _ ← (c.depositCalls node token amount).asCall "deposit" (depositContext node token amount)
      throw (c.mismatch o.protocol)) := by
  rw [depositAndCreationCalls, c.creationCall_of_ne h]
  rfl

theorem finalState_of_ne {closing : Closing} {content : FinalContent}
    (content_eq : closing.content = some content)
    (h : content.protocol ≠ c.configuration.protocol) :
    c.finalState closing = throw (c.mismatch content.protocol) := by
  have checked : c.checkClosing closing = .error (c.mismatch content.protocol) := by
    rw [checkClosing, content_eq]
    change (c.requireProtocol content.protocol >>= _) = _
    rw [c.requireProtocol_of_ne h]
    rfl
  rw [finalState, checked]
  rfl

/-- With parameters of another protocol, no more is done than to prepare the deposit, if any. -/
theorem perform_of_mismatch {command : Command} {p : Protocol} (h : command.parameters? = some p)
    (ne : p ≠ c.configuration.protocol) :
    c.perform command = (do
      let _ ← c.deposits command
      throw (c.mismatch p)) := by
  obtain ⟨purpose, purpose_eq, protocol_eq⟩ := Option.bind_eq_some_iff.1 h
  -- Disputes have no parameters; whatever opens or closes a channel starts with the same refusal.
  cases command with
  | initialState o =>
    cases purpose_eq
    cases protocol_eq
    change c.initialState o = _
    rw [initialState_eq, c.requireProtocol_of_ne ne]
    rfl
  | creationCall o =>
    cases purpose_eq
    cases protocol_eq
    exact c.creationCall_of_ne ne
  | depositAndCreationCalls node token amount o =>
    cases purpose_eq
    cases protocol_eq
    exact c.depositAndCreationCalls_of_ne ne node token amount
  | finalState closing =>
    cases purpose_eq
    obtain ⟨content, content_eq, rfl⟩ := Option.map_eq_some_iff.1 protocol_eq
    exact c.finalState_of_ne content_eq ne
  | cooperativeCloseCall closing =>
    cases purpose_eq
    obtain ⟨content, content_eq, rfl⟩ := Option.map_eq_some_iff.1 protocol_eq
    change c.cooperativeCloseCall closing = _
    rw [cooperativeCloseCall, c.finalState_of_ne content_eq ne]
    rfl
  | challengeSignature id candidate given | challengeCall id candidate proofs given =>
    cases given with
    | none =>
      cases purpose_eq
      exact nomatch protocol_eq
    | some signature => exact nomatch purpose_eq
  | write w =>
    cases w with
    | createChannel o =>
      cases purpose_eq
      cases protocol_eq
      change c.createChannel o = _
      rw [createChannel, c.creationCall_of_ne ne]
      rfl
    | depositAndCreateChannel node token amount o =>
      cases purpose_eq
      cases protocol_eq
      change c.depositAndCreateChannel node token amount o = _
      rw [depositAndCreateChannel, c.depositAndCreationCalls_of_ne ne, bind_assoc]
      rfl
    | closeChannel closing =>
      cases purpose_eq
      obtain ⟨content, content_eq, rfl⟩ := Option.map_eq_some_iff.1 protocol_eq
      change c.closeChannel closing = _
      rw [closeChannel, cooperativeCloseCall, c.finalState_of_ne content_eq ne]
      rfl
    | challenge id candidate proofs given =>
      cases given with
      | none =>
        cases purpose_eq
        exact nomatch protocol_eq
      | some signature => exact nomatch purpose_eq
    | _ => exact nomatch purpose_eq
  | _ => exact nomatch purpose_eq

/-! ## States -/

/-- The account, configured for another protocol. -/
def withProtocol (p : Protocol) : Client :=
  { c with
    configuration := { c.configuration with protocol := p }
    valid := c.valid }

/-- What becomes of a given state does not depend on the configured protocol. -/
theorem perform_withProtocol {command : Command} {s : State} (h : command.candidate? = some s)
    (p : Protocol) : (c.withProtocol p).perform command = c.perform command := by
  cases command with
  | challengeSignature | checkpointCall | challengeCall | closeCall | channelDepositCall
  | channelWithdrawalCall => rfl
  | write w =>
    cases w with
    | checkpoint | challenge => rfl
    | _ => exact nomatch h
  | _ => exact nomatch h

/-- How the configured protocol matters. With parameters of another one, the operation ends with
    the complaint about them, unless it fails before in a deposit that it has to prepare first; no
    signer is asked, no state is handed over, nothing is sent, and in a net no record of these
    changes. To what is done with a given state, the configured protocol does not matter at all. -/
theorem protocol_of_parameters :
    (∀ command p, command.parameters? = some p → p ≠ c.configuration.protocol →
      (∀ es result, (c.perform command).Transcript es result →
        (∀ x ∈ es, x.request.IsQuiet) ∧
        ((∃ e, (c.deposits command).Transcript es (.error e) ∧ result = .error e) ∨
          (∃ calls, (c.deposits command).Transcript es (.ok calls)) ∧
            result = .error (.protocolMismatch p c.configuration.protocol))) ∧
      ∀ net : LocalNet, (net.run (c.perform command)).2.sent = net.sent ∧
        (net.run (c.perform command)).2.submissions = net.submissions ∧
        (net.run (c.perform command)).2.signingLog = net.signingLog) ∧
    (∀ command s, command.candidate? = some s → ∀ p,
      (c.withProtocol p).perform command = c.perform command) := by
  refine ⟨fun command p h ne => ?_, fun command s h => c.perform_withProtocol h⟩
  -- All that is left of the command is the deposit that it has to prepare before the check.
  have quiet : (c.perform command).Ensures Request.IsQuiet fun _ => True := by
    rw [c.perform_of_mismatch h ne]
    exact (c.quiet_deposits command).bind fun _ _ => .throw _
  refine ⟨fun es result t => ⟨quiet.asks es result t, ?_⟩, fun net => ?_⟩
  · rw [c.perform_of_mismatch h ne] at t
    rcases transcript_bind.1 t with ⟨e, first, rfl⟩ | ⟨before, after, calls, rfl, first, second⟩
    · exact .inl ⟨e, first, rfl⟩
    · obtain ⟨rfl, rfl⟩ := transcript_throw.1 second
      rw [List.append_nil]
      exact .inr ⟨⟨calls, first⟩, rfl⟩
  · have t := Flow.transcript_exchanges LocalNet.answer (c.perform command).run net
    exact net.run_of_quiet (quiet.asks _ _ t)

/-- A legacy channel is refused by an account that is configured for ledgers, and a legacy state is
    submitted by it as by one that is configured for the legacy protocol. -/
theorem protocol_of_parameters_legacy :
    let opening : Opening := .legacy ⟨⟨3⟩, [5, 0], none, none⟩
    let checkpoint := Command.checkpointCall ⟨9⟩ (Sample.state [⟨[1]⟩, ⟨[2]⟩]) []
    (∀ es result,
      (Sample.client.perform (.initialState opening)).Transcript es result →
        (∀ x ∈ es, x.request.IsQuiet) ∧
        ((∃ e, (Sample.client.deposits (.initialState opening)).Transcript es (.error e) ∧
            result = .error e) ∨
          (∃ calls, (Sample.client.deposits (.initialState opening)).Transcript es (.ok calls)) ∧
            result = .error (.protocolMismatch .legacy .v1))) ∧
    (Sample.client.withProtocol .legacy).perform checkpoint = Sample.client.perform checkpoint := by
  intro opening checkpoint
  obtain ⟨of_parameters, of_candidates⟩ := protocol_of_parameters Sample.client
  exact ⟨(of_parameters (.initialState opening) .legacy rfl (by decide)).1,
    of_candidates checkpoint _ rfl .legacy⟩

/-- An account that is configured for ledgers submits a legacy state. -/
theorem protocol_of_parameters_checkpoint :
    let candidate := Sample.state [⟨[1]⟩, ⟨[2]⟩]
    let checkpoint := Sample.client.perform (.write (.checkpoint ⟨9⟩ candidate []))
    let run := Sample.net.run checkpoint
    candidate.protocol ≠ Sample.client.configuration.protocol ∧ run.1.isOk = true ∧
    run.2.submissions = [⟨"checkpointChannel", candidate, []⟩] ∧
    run.2.sent.map Call.operation = ["checkpointChannel"] := by
  decide +kernel

end Client

end PaymentChannel
