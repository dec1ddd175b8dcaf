import PaymentChannel.Proofs.Assets.Transcript
import PaymentChannel.Proofs.Client.Command

/-!
# Reporting failures

Whatever a client is told to do with its contracts, its sender and its assets, the first request
that is answered with an error is the last one that is made, and the error is reported once and for
all: as it is if it has been classified, and else as the failure of what was asked for, with the
text from outside as its source. So no error from outside is ever returned as such, and none is
wrapped twice, however many operations are put around the one that asked.

All other errors are those of checks, which are classified from the start (`Classified`).
-/

namespace PaymentChannel

/-- A check that fails only with classified errors. -/
def Classified {α : Type} (x : Except Error α) : Prop := ∀ e, x = .error e → e.isTyped

namespace Classified

variable {α β : Type}

theorem ok (a : α) : Classified (.ok a) := nofun

theorem error {e : Error} (h : e.isTyped) : Classified (.error e : Except Error α) := by
  intro e' h'
  cases h'
  exact h

/-- What is done one after the other is classified if each of the steps is. -/
theorem bind {x : Except Error α} {f : α → Except Error β} (hx : Classified x)
    (hf : ∀ a, Classified (f a)) : Classified (x >>= f) := by
  cases x with
  | error e => exact error (hx e rfl)
  | ok a => exact hf a

theorem ite {p : Prop} [Decidable p] {x y : Except Error α} (hx : Classified x)
    (hy : Classified y) : Classified (if p then x else y) := by
  by_cases h : p
  · rwa [if_pos h]
  · rwa [if_neg h]

end Classified

namespace Client

open Operation

variable (c : Client)

/-! ## Checks -/

/-- Another protocol than the configured one is an invalid parameter. -/
theorem classified_requireProtocol (requested : Protocol) :
    Classified (c.requireProtocol requested) :=
  .ite (.ok ()) (.error rfl)

/-- Too few signatures are a typed error. -/
theorem classified_requireAgreed (s : State) : Classified (requireAgreed s) :=
  .ite (.error rfl) (.ok ())

/-- An address that is missing, or zero, is an error of the configuration. -/
theorem classified_need (name : String) (address : Option Address) :
    Classified (Configuration.need name address) := by
  cases address with
  | none => exact .error rfl
  | some a => exact .ite (.error rfl) (.ok a)

/-- A legacy channel is opened with two amounts and two contracts, or else an error names what is
    missing. -/
theorem classified_checkLegacyOpening (o : LegacyOpening) :
    Classified (c.checkLegacyOpening o) := by
  refine (classified_need _ _).bind fun adjudicator => ?_
  refine (classified_need _ _).bind fun guest => ?_
  rcases o.amounts with _ | ⟨own, _ | ⟨other, _ | ⟨more, rest⟩⟩⟩
  · exact .error rfl
  · exact .error rfl
  · exact .ok _
  · exact .error rfl

/-- A definition and a state have to be there, and to fit together. -/
theorem classified_checkOpening (definition : Option LedgerChannel)
    (initial : Option LedgerState) : Classified (c.checkOpening definition initial) := by
  rcases definition with _ | definition
  · exact .error rfl
  rcases initial with _ | state
  · exact .error rfl
  exact .ite (.error rfl) (.ite (.error rfl) (.ok _))

/-- Legacy content has data and two allocations, or else it is an invalid parameter. -/
theorem classified_toState (content : FinalContent) : Classified content.toState := by
  cases content with
  | v1 version metadata home nonHome => exact .ok _
  | legacy data allocations =>
    rcases data with _ | data
    · exact .error rfl
    rcases allocations with _ | ⟨first, _ | ⟨second, _ | ⟨third, rest⟩⟩⟩
    · exact .error rfl
    · exact .error rfl
    · exact .ok _
    · exact .error rfl

/-- Whatever is wrong with a close is found before the channel is closed. -/
theorem classified_checkClosing (closing : Closing) : Classified (c.checkClosing closing) := by
  rcases closing with ⟨id, _ | content, signatures⟩
  · exact .error rfl
  refine (c.classified_requireProtocol _).bind fun _ => ?_
  exact .ite (.error rfl) (.ite (.error rfl) (classified_toState content))

/-- Nobody but the account and the alternate signer challenges. -/
theorem classified_challenger (user : Address) : Classified (c.challenger user) :=
  .ite (.ok _) (.ite (.ok _) (.error rfl))

/-! ## Operations -/

/-- A signer that fails is reported as a failure to sign. -/
theorem reports_signState (id : ChannelId) (s : State) : (signState id s).ReportsFailures :=
  (ReportsFailures.ofEncoding _).bind fun hash => .signState hash _

/-- A record that cannot be read is reported as a failure to read it. -/
theorem reports_channelRecord (id : ChannelId) : (channelRecord id).ReportsFailures :=
  .view (.channelRecord id) _

/-- Only the nonce is asked for, and only if none is given. -/
theorem reports_legacyOpening (o : LegacyOpening) : (c.legacyOpening o).ReportsFailures := by
  refine (ReportsFailures.ofExcept (c.classified_checkLegacyOpening o)).bind fun _ => ?_
  rcases o with ⟨token, amounts, data, nonce | nonce⟩
  · exact (ReportsFailures.nonce c.account).bind fun nonce => .pure _
  · exact .pure _

/-- The initial state is made up of checks, hashes and one signature, which report their own
    failures. -/
theorem reports_initialState (o : Opening) : (c.initialState o).ReportsFailures := by
  rw [initialState_eq]
  refine (ReportsFailures.ofExcept (c.classified_requireProtocol _)).bind fun _ => ?_
  refine ReportsFailures.bind ?_ fun (d, s) => ?_
  · cases o with
    | legacy o => exact c.reports_legacyOpening o
    | v1 definition initial => exact .ofExcept (c.classified_checkOpening definition initial)
  · refine (ReportsFailures.ofEncoding _).bind fun id => ?_
    exact (reports_signState id s).bind fun signature => .pure _

/-- The final state reports what its checks and the signer say. -/
theorem reports_finalState (closing : Closing) : (c.finalState closing).ReportsFailures := by
  refine (ReportsFailures.ofExcept (c.classified_checkClosing closing)).bind fun unsigned => ?_
  exact (reports_signState closing.id unsigned).bind fun signature => .pure _

/-- A challenge is not signed again if a signature is given. -/
theorem reports_challengeSignature (id : ChannelId) (candidate : State)
    (given : Option Signature) : (c.challengeSignature id candidate given).ReportsFailures := by
  cases given with
  | some signature => exact .pure signature
  | none =>
    refine (reports_channelRecord id).bind fun channel => ?_
    refine (ReportsFailures.ofExcept (c.classified_challenger _)).bind fun party => ?_
    exact (ReportsFailures.ofEncoding _).bind fun hash => .signHash party hash

/-- An approval fails because the allowance cannot be read, or because it cannot be prepared. -/
theorem reports_approvalCalls (token : Address) (amount : UInt256) (context : String) :
    (c.approvalCalls token amount context).ReportsFailures := by
  unfold approvalCalls
  by_cases native : token.isZero
  · rw [if_pos native]
    exact .pure []
  · rw [if_neg native]
    refine (ReportsFailures.view (.allowance token c.account c.custody) context).bind
      fun (allowed : UInt256) => ?_
    by_cases low : allowed < amount
    · rw [if_pos low]
      exact (ReportsFailures.prepare (.approve token c.custody amount) context).bind
        fun call => .pure [call]
    · rw [if_neg low]
      exact .pure []

/-- A deposit fails like its approval does, or because it cannot be prepared itself. -/
theorem reports_depositCalls (node token : Address) (amount : UInt256) :
    (c.depositCalls node token amount).ReportsFailures := by
  refine (c.reports_approvalCalls token amount _).bind fun approval => ?_
  exact (ReportsFailures.prepare (.deposit node token amount) _).bind fun call => .pure _

/-- A withdrawal fails only because it cannot be prepared. -/
theorem reports_withdrawalCall (token : Address) (amount : UInt256) :
    (c.withdrawalCall token amount).ReportsFailures := by
  unfold withdrawalCall
  by_cases zero : amount = 0
  · rw [if_pos zero]
    exact .ofExcept (Classified.error rfl)
  · rw [if_neg zero]
    exact .prepare (.withdraw c.account token amount) _

/-- A creation fails like its initial state does, or because it cannot be prepared itself. -/
theorem reports_creationCall (o : Opening) : (c.creationCall o).ReportsFailures := by
  refine ((c.reports_initialState o).asCall _ _).bind fun prepared => ?_
  exact (ReportsFailures.prepare (.createChannel prepared.definition prepared.initial) _).bind
    fun call => .pure _

/-- A deposit with a creation reports what either of them does. -/
theorem reports_depositAndCreationCalls (node token : Address) (amount : UInt256) (o : Opening) :
    (c.depositAndCreationCalls node token amount o).ReportsFailures := by
  refine ((c.reports_depositCalls node token amount).asCall _ _).bind fun deposits => ?_
  exact (c.reports_creationCall o).bind fun _ => .pure _

/-- A call about an agreed state fails for want of signatures, or because it cannot be prepared. -/
theorem reports_agreedCall (id : ChannelId) (candidate : State) (plan : Plan) :
    (agreedCall plan.step id candidate plan).ReportsFailures :=
  (ReportsFailures.ofExcept (classified_requireAgreed candidate)).bind fun _ => .prepare plan _

/-- A challenge reports what its signature does. -/
theorem reports_challengeCall (id : ChannelId) (candidate : State) (proofs : List State)
    (given : Option Signature) : (c.challengeCall id candidate proofs given).ReportsFailures :=
  (c.reports_challengeSignature id candidate given).bind fun signature =>
    .prepare (.challenge id candidate proofs signature) _

/-- A close reports what the final state does. -/
theorem reports_cooperativeCloseCall (closing : Closing) :
    (c.cooperativeCloseCall closing).ReportsFailures := by
  refine (c.reports_finalState closing).bind fun s => ?_
  exact (reports_agreedCall closing.id s (.close closing.id s [])).bind fun call => .pure _

/-- A call that is sent on its own is reported with its name. -/
theorem reports_sendOne (call : Call) : (sendOne call).ReportsFailures := .send call _

/-- A call that fails among others is reported with its name and its place. -/
theorem reports_sendFrom (total step : Nat) (calls : List Call) :
    (sendFrom total step calls).ReportsFailures := by
  induction calls generalizing step with
  | nil => exact .pure []
  | cons call calls ih =>
    exact (ReportsFailures.send call _).bind fun hash => (ih (step + 1)).bind fun hashes => .pure _

/-- Whatever a write prepares and sends, the first failure is what it reports. -/
theorem reports_carryOut (w : Write) : (c.carryOut w).ReportsFailures := by
  cases w with
  | deposit node token amount =>
    exact (c.reports_depositCalls node token amount).bind fun calls => reports_sendFrom _ 1 calls
  | createChannel o =>
    refine (c.reports_creationCall o).bind fun created => ?_
    exact (reports_sendOne created.2).bind fun hash => .pure _
  | depositAndCreateChannel node token amount o =>
    refine (c.reports_depositAndCreationCalls node token amount o).bind fun created => ?_
    exact (reports_sendFrom _ 1 created.2).bind fun hashes => .pure _
  | checkpoint id candidate proofs =>
    exact (reports_agreedCall id candidate (.checkpoint id candidate proofs)).bind reports_sendOne
  | challenge id candidate proofs given =>
    exact (c.reports_challengeCall id candidate proofs given).bind reports_sendOne
  | closeChannel closing =>
    refine (c.reports_cooperativeCloseCall closing).bind fun closed => ?_
    exact (reports_sendOne closed.2).bind fun hash => .pure _
  | withdraw token amount => exact (c.reports_withdrawalCall token amount).bind reports_sendOne

/-- A command reports the first of its requests that fails, and nothing else goes wrong unnamed. -/
theorem reports_perform (command : Command) : (c.perform command).ReportsFailures := by
  cases command with
  | channelRecord id => exact reports_channelRecord id
  | openChannels => exact .view (.openChannels c.account) _
  | channelIds => exact .view (.channelIds c.account) _
  | accountBalance token => exact .view (.accountBalance c.account token) _
  | tokenBalance token => exact .view (.balanceOf token c.account) _
  | tokenAllowance token => exact .view (.allowance token c.account c.custody) _
  | newDefinition node metadata => exact (ReportsFailures.nonce c.account).bind fun _ => .pure _
  | initialState o => exact c.reports_initialState o
  | finalState closing => exact c.reports_finalState closing
  | challengeSignature id candidate given => exact c.reports_challengeSignature id candidate given
  | depositCalls node token amount => exact c.reports_depositCalls node token amount
  | creationCall o => exact c.reports_creationCall o
  | depositAndCreationCalls node token amount o =>
    exact c.reports_depositAndCreationCalls node token amount o
  | checkpointCall id candidate proofs =>
    exact reports_agreedCall id candidate (.checkpoint id candidate proofs)
  | challengeCall id candidate proofs given =>
    exact c.reports_challengeCall id candidate proofs given
  | closeCall id candidate proofs =>
    exact reports_agreedCall id candidate (.close id candidate proofs)
  | cooperativeCloseCall closing => exact c.reports_cooperativeCloseCall closing
  | withdrawalCall token amount => exact c.reports_withdrawalCall token amount
  | channelDepositCall id candidate =>
    exact reports_agreedCall id candidate (.depositToChannel id candidate)
  | channelWithdrawalCall id candidate =>
    exact reports_agreedCall id candidate (.withdrawFromChannel id candidate)
  | sendAll calls => exact reports_sendFrom _ 1 calls
  | write w => exact c.reports_carryOut w

/-- The discipline of errors. Whatever a client is told to do and whatever it is answered, the first
    request that fails is the last one, and its error is what is returned: as it is if it has been
    classified, and else as the failure of what was asked for, with the error from outside as its
    source. The same is true of assets. So in no net does either return an error from outside as
    such. -/
theorem failures_reported :
    (∀ command es result, (c.perform command).Transcript es result →
      FailuresReported es (failureOf result)) ∧
    (∀ (command : AssetCommand) cache es result after,
      command.perform.Transcript cache es result after →
        FailuresReported es (failureOf result)) ∧
    (∀ command net e, (LocalNet.run (c.perform command) net).1 = .error e → e.isTyped) ∧
    (∀ (command : AssetCommand) cache net e,
      (LocalNet.runAssets command.perform cache net).1.1 = .error e → e.isTyped) := by
  -- Operations on assets ask for nothing but views, and fail on their own only because of a text.
  have of_assets (command : AssetCommand) : command.perform.Obeys FailuresReported :=
    command.obeys_perform FailuresReported.sequential ReportsFailures.view fun text e =>
      .nil fun _ h => by
        cases h
        rfl
  refine ⟨fun command => c.reports_perform command, of_assets, fun command net e failed => ?_,
    fun command cache net e failed => ?_⟩
  · have t := Flow.transcript_exchanges LocalNet.answer (c.perform command).run net
    have reported := c.reports_perform command _ _ t
    refine reported.typed e ?_
    change failureOf (LocalNet.run (c.perform command) net).1 = some e
    rw [failed]
    rfl
  · have t := Flow.transcript_exchanges LocalNet.answer (command.perform.run.run cache) net
    have reported := of_assets command cache _ _ _ t
    refine reported.typed e ?_
    change failureOf (LocalNet.runAssets command.perform cache net).1.1 = some e
    rw [failed]
    rfl

/-- On the way to creating a channel, the approval of the deposit cannot be prepared, for a reason
    that is known from outside only; and a token cannot be read, first for a reason that has been
    classified, and then in a net for one that has not, as happens to a balance there, too. -/
theorem failures_reported_approval :
    let command := Command.write (.depositAndCreateChannel ⟨4⟩ ⟨3⟩ 5 (.v1 none none))
    let approval : List Exchange := [
      ⟨.view (.allowance ⟨3⟩ ⟨2⟩ ⟨1⟩), .ok (0 : UInt256)⟩,
      ⟨.prepare (.approve ⟨3⟩ ⟨1⟩ 5), .error (.external "unreachable")⟩]
    let unapproved := Error.contractCall "approve" (depositContext ⟨4⟩ ⟨3⟩ 5) "unreachable"
    let reading : List Exchange := [⟨.view (.symbol ⟨3⟩), .error (.missingParameter "token")⟩]
    let cache : AssetCache := .new Sample.client.configuration
    let unread := Error.contractRead "symbol" s!"token={(⟨3⟩ : Address)}" "mock failure in metadata"
    let unknown := Error.contractRead "getAccountBalance"
      s!"account={Sample.client.account} token={(⟨3⟩ : Address)}"
      "mock failure in getAccountBalance"
    (Sample.client.perform command).Transcript approval (.error unapproved) ∧
    FailuresReported approval (some unapproved) ∧
    (AssetCommand.decimals ⟨3⟩).perform.Transcript cache reading
      (.error (.missingParameter "token")) cache ∧
    FailuresReported reading (some (.missingParameter "token")) ∧
    (LocalNet.runAssets (AssetCommand.decimals ⟨3⟩).perform cache Sample.net).1.1 =
      .error unread ∧ unread.isTyped ∧
    (LocalNet.run (Sample.client.perform (.accountBalance ⟨3⟩))
      (Sample.net.fail .custody "getAccountBalance")).1 = .error unknown ∧ unknown.isTyped := by
  intro command approval unapproved reading cache unread unknown
  obtain ⟨of_client, of_assets, in_net, assets_in_net⟩ := failures_reported Sample.client
  have t : (Sample.client.perform command).Transcript approval (.error unapproved) :=
    .ask (.ask (.done _))
  have u : (AssetCommand.decimals ⟨3⟩).perform.Transcript cache reading
      (.error (.missingParameter "token")) cache := .ask (.done _)
  have failed : (LocalNet.runAssets (AssetCommand.decimals ⟨3⟩).perform cache Sample.net).1.1 =
      .error unread := rfl
  have failed' : (LocalNet.run (Sample.client.perform (.accountBalance ⟨3⟩))
      (Sample.net.fail .custody "getAccountBalance")).1 = .error unknown := rfl
  exact ⟨t, of_client _ _ _ t, u, of_assets _ _ _ _ _ u, failed, assets_in_net _ _ _ _ failed,
    failed', in_net _ _ _ failed'⟩

end Client

end PaymentChannel
