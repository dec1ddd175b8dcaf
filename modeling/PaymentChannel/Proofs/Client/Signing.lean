import Mathlib.Data.List.Forall2
import PaymentChannel.Proofs.Assets.Transcript
import PaymentChannel.Proofs.Client.Command
import PaymentChannel.Proofs.Client.Order

/-!
# Signing

The operations that have something signed are those that open or close a channel, and those that
dispute a state without a given signature (`Command.purpose?`). Each of them has a single order
signed, which it places only after all its checks and readings (`Client.Places`). What is returned,
and what the contract is handed, is made from this order and the signature, and no error that comes
later is one of a check (`SigningCourse`). All other operations ask no signer.
-/

namespace PaymentChannel

/-- What a signature is needed for. -/
inductive Purpose where
  | opening (o : Opening)
  | closing (closing : Closing)
  | dispute (id : ChannelId) (candidate : State) (proofs : List State)

namespace Command

/-- What a command needs a signature for, if it has anything signed. -/
def purpose? : Command → Option Purpose
  | initialState o | creationCall o | depositAndCreationCalls _ _ _ o | write (.createChannel o)
  | write (.depositAndCreateChannel _ _ _ o) => some (.opening o)
  | finalState closing | cooperativeCloseCall closing | write (.closeChannel closing) =>
    some (.closing closing)
  | challengeSignature id candidate none => some (.dispute id candidate [])
  | challengeCall id candidate proofs none | write (.challenge id candidate proofs none) =>
    some (.dispute id candidate proofs)
  | _ => none

/-- What a command returns that has been made of a signature. -/
def artifact? : (command : Command) → command.Result → Option Artifact
  | initialState _, prepared => some (.channel prepared)
  | creationCall _, (prepared, _) => some (.channel prepared)
  | depositAndCreationCalls .., (prepared, _) => some (.channel prepared)
  | write (.createChannel _), (prepared, _) => some (.channel prepared)
  | write (.depositAndCreateChannel ..), (prepared, _) => some (.channel prepared)
  | finalState _, s => some (.state s)
  | cooperativeCloseCall _, (s, _) => some (.state s)
  | write (.closeChannel _), (s, _) => some (.state s)
  | challengeSignature .., signature => some (.signature signature)
  | _, _ => none

/-- What a command returns for an order that has been signed. -/
def Yields (command : Command) (order : Order) (signature : Signature) (r : command.Result) :
    Prop :=
  ∀ artifact, command.artifact? r = some artifact → order.artifact signature = artifact

namespace Yields

variable {command : Command} {order : Order} {signature : Signature} {r : command.Result}

/-- A command yields what has been made with the signature. -/
theorem of_artifact {artifact : Artifact} (h : command.artifact? r = some artifact)
    (made : order.artifact signature = artifact) : command.Yields order signature r := by
  intro other h'
  cases h.symm.trans h'
  exact made

/-- A command without an artifact has nothing to yield. -/
theorem of_none (h : command.artifact? r = none) : command.Yields order signature r := by
  intro artifact h'
  exact nomatch h.symm.trans h'

end Yields

end Command

namespace Client

open Operation

variable (c : Client)

/-- The orders that are placed for a purpose, and after which exchanges. -/
inductive Places : Purpose → List Exchange → Order → Prop where
  /-- What is opened has passed all checks, and has its channel id on the configured chain. -/
  | creation {o : Opening} {before made : List Exchange} {d : Definition} {s : State}
      {id : ChannelId} (allowed : c.requireProtocol o.protocol = .ok ())
      (made_suffix : made <:+ before) (opened : (c.opened o).Transcript made (.ok (d, s)))
      (id_eq : d.channelId c.configuration.chainId = .ok id) :
      Places (.opening o) before (.creation id d s)
  /-- The final state has passed all checks. -/
  | closing {closing : Closing} {s : State} (checked : c.checkClosing closing = .ok s) :
      Places (.closing closing) [] (.closing closing.id s closing.signatures)
  /-- The account is the user of the channel, as the contract has it. -/
  | own {id : ChannelId} {candidate : State} {proofs : List State} {channel : ChannelRecord}
      (user_eq : channel.definition.user = c.account) :
      Places (.dispute id candidate proofs) [⟨.view (.channelRecord id), .ok channel⟩]
        (.dispute .own id candidate proofs)
  /-- Another address is the user of the channel, as the contract has it. -/
  | alternate {id : ChannelId} {candidate : State} {proofs : List State} {channel : ChannelRecord}
      (user_ne : channel.definition.user ≠ c.account) (present : c.alternate.isSome) :
      Places (.dispute id candidate proofs) [⟨.view (.channelRecord id), .ok channel⟩]
        (.dispute .alternate id candidate proofs)

/-! ## Opening channels -/

/-- A state is signed for its own order. -/
theorem signs_signState {Places : List Exchange → Order → Prop} {order : Order} {id : ChannelId}
    {s : State} (placed : Places [] order) (request_eq : order.request = Order.stateRequest id s) :
    (signState id s).Signs Places fun o signature a => o = order ∧ a = signature := by
  refine .after_ofEncoding fun hash hash_eq => ?_
  have asks : order.request =
      .ok ⟨.own, hash, some ⟨id, s.protocol, s.version, s.intent, .state⟩⟩ := by
    rw [request_eq, Order.stateRequest, hash_eq]
    rfl
  exact .sign placed asks fun es answer t => ⟨_, Flow.transcript_perform.1 t, rfl⟩

/-- The state of a channel is signed once its id is known. -/
theorem signs_signOpened {Places : List Exchange → Order → Prop} {d : Definition} {s : State}
    (placed : ∀ id, d.channelId c.configuration.chainId = .ok id → Places [] (.creation id d s)) :
    (c.signOpened d s).Signs Places fun order signature prepared =>
      order.artifact signature = .channel prepared := by
  refine .after_ofEncoding fun id id_eq => ?_
  refine (signs_signState (placed id id_eq) rfl).bind fun order signature a ⟨order_eq, a_eq⟩ => ?_
  rw [order_eq, a_eq]
  exact .pure rfl

/-- The initial state is signed after all checks. -/
theorem signs_initialState (o : Opening) :
    (c.initialState o).Signs (c.Places (.opening o)) fun order signature prepared =>
      order.artifact signature = .channel prepared := by
  rw [initialState_eq]
  refine .after_ofExcept fun _ allowed => ?_
  refine .after (c.ensures_opened trivial) fun made (d, s) opened _ => ?_
  refine c.signs_signOpened fun id id_eq => ?_
  -- The account signs right after the opening has been made.
  rw [List.append_nil]
  exact .creation allowed List.suffix_rfl opened id_eq

/-- A creation signs the initial state, and nothing else. -/
theorem signs_creationCall (o : Opening) :
    (c.creationCall o).Signs (c.Places (.opening o)) fun order signature r =>
      order.artifact signature = .channel r.1 := by
  refine ((c.signs_initialState o).asCall _ _).bind fun order signature prepared made => ?_
  refine (Completes.prepare (Order.plan_of_artifact_channel made).symm _).bind fun call => ?_
  exact .pure made

/-- What is asked before does not matter to what is opened. -/
theorem Places.after {o : Opening} {before : List Exchange} {order : Order}
    (h : c.Places (.opening o) before order) (first : List Exchange) :
    c.Places (.opening o) (first ++ before) order := by
  cases h with
  | creation allowed made_suffix opened id_eq =>
    exact .creation allowed (made_suffix.trans (List.suffix_append _ _)) opened id_eq

/-- Deposits are prepared without a signature. -/
theorem quiet_depositCalls (node token : Address) (amount : UInt256) :
    (c.depositCalls node token amount).Ensures Request.IsQuiet fun _ => True :=
  c.ensures_depositCalls trivial rfl rfl

/-- A deposit with a creation signs what the creation does. -/
theorem signs_depositAndCreationCalls (node token : Address) (amount : UInt256) (o : Opening) :
    (c.depositAndCreationCalls node token amount o).Signs (c.Places (.opening o))
      fun order signature r => order.artifact signature = .channel r.1 := by
  refine .after ((c.quiet_depositCalls node token amount).adapt _) fun first deposits _ _ => ?_
  have signs := (c.signs_creationCall o).of_places fun before order placed => placed.after c first
  exact signs.bind fun order signature r made => .pure made

/-- Nothing is signed while calls are sent. -/
theorem completes_sendFrom {order : Order} {signature : Signature} (total step : Nat)
    (calls : List Call) :
    Completes order signature (fun _ => True) (sendFrom total step calls) := by
  induction calls generalizing step with
  | nil => exact .pure trivial
  | cons call calls ih =>
    refine (Completes.send call _).bind fun hash => ?_
    exact (ih (step + 1)).bind fun hashes => .pure trivial

/-! ## Closing channels -/

/-- With the account's signature, there are enough to close a channel. -/
theorem agreed_withSignatures {closing : Closing} {s : State}
    (checked : c.checkClosing closing = .ok s) (signature : Signature) :
    agreedSignatures ≤ (s.withSignatures signature closing.signatures).signatures.length := by
  rcases closing with ⟨id, _ | content, signatures⟩
  · exact nomatch checked
  rcases signatures with _ | ⟨first, others⟩
  · -- Without a signature of the other party, the check fails.
    unfold checkClosing at checked
    cases allowed : c.requireProtocol content.protocol with
    | ok _ => simp [allowed, bind, Except.bind] at checked
    | error e => simp [allowed, bind, Except.bind] at checked
  · cases s with
    | legacy s => exact Nat.le_add_left 2 others.length
    | v1 s => exact Nat.le_refl 2

/-- With enough signatures, all that is left is to prepare the call. -/
theorem agreedCall_of_le {s : State} (agreed : agreedSignatures ≤ s.signatures.length)
    (operation : String) (id : ChannelId) (plan : Plan) :
    agreedCall operation id s plan =
      (Operation.prepare plan).asCall operation (channelContext id) := by
  rw [agreedCall, (requireAgreed_eq_ok_iff s).2 agreed]
  rfl

/-- The final state is signed once, and holds enough signatures afterwards. -/
theorem signs_finalState (closing : Closing) :
    (c.finalState closing).Signs (c.Places (.closing closing)) fun order signature s =>
      order.artifact signature = .state s ∧ order.plan signature = .close closing.id s [] ∧
        agreedSignatures ≤ s.signatures.length := by
  refine .after_ofExcept fun unsigned checked => ?_
  refine (signs_signState (.closing checked) rfl).bind fun order signature a ⟨order_eq, a_eq⟩ => ?_
  rw [order_eq, a_eq]
  exact .pure ⟨rfl, rfl, c.agreed_withSignatures checked signature⟩

/-- A close signs the final state, and nothing else. -/
theorem signs_cooperativeCloseCall (closing : Closing) :
    (c.cooperativeCloseCall closing).Signs (c.Places (.closing closing)) fun order signature r =>
      order.artifact signature = .state r.1 := by
  refine (c.signs_finalState closing).bind fun order signature s ⟨made, plan_eq, agreed⟩ => ?_
  rw [closeCall, agreedCall_of_le agreed]
  exact (Completes.prepare plan_eq.symm _).bind fun call => .pure made

/-! ## Disputes -/

/-- The record of a channel comes of a single read. -/
theorem transcript_channelRecord {id : ChannelId} {es : List Exchange} {channel : ChannelRecord}
    (t : (channelRecord id).Transcript es (.ok channel)) :
    es = [⟨.view (.channelRecord id), .ok channel⟩] := by
  obtain ⟨answer, read, h⟩ := transcript_adapt.1 t
  cases answer with
  | error e => exact nomatch h
  | ok read_channel =>
    cases h
    exact transcript_view.1 read

/-- The channel that was read decides who is asked. -/
theorem Places.of_challenger {id : ChannelId} {candidate : State} {proofs : List State}
    {channel : ChannelRecord} {party : Party}
    (h : c.challenger channel.definition.user = .ok party) :
    c.Places (.dispute id candidate proofs) [⟨.view (.channelRecord id), .ok channel⟩]
      (.dispute party id candidate proofs) := by
  unfold challenger at h
  by_cases user : c.account = channel.definition.user
  · rw [if_pos user] at h
    cases h
    exact .own user.symm
  · rw [if_neg user] at h
    by_cases present : c.alternate.isSome
    · rw [if_pos present] at h
      cases h
      exact .alternate (Ne.symm user) present
    · rw [if_neg present] at h
      exact nomatch h

/-- A challenge is signed for the candidate, once the record is known. -/
theorem signs_challengeSignature (id : ChannelId) (candidate : State) (proofs : List State) :
    (c.challengeSignature id candidate none).Signs (c.Places (.dispute id candidate proofs))
      fun order signature a => order.plan signature = .challenge id candidate proofs a ∧
        order.artifact signature = .signature a := by
  refine .after (ensures_read (.channelRecord id) trivial) fun first channel read _ => ?_
  refine .after_ofExcept fun party challenger_eq => .after_ofEncoding fun hash hash_eq => ?_
  have placed : c.Places (.dispute id candidate proofs) (first ++ [])
      (.dispute party id candidate proofs) := by
    rw [List.append_nil, transcript_channelRecord read]
    exact .of_challenger c challenger_eq
  have asks : (Order.dispute party id candidate proofs).request = .ok ⟨party, hash, none⟩ := by
    rw [Order.request, hash_eq]
    rfl
  refine Signs.mono (.sign placed asks fun es answer t => ⟨_, Flow.transcript_perform.1 t, rfl⟩) ?_
  rintro _ signature _ ⟨rfl, rfl⟩
  exact ⟨rfl, rfl⟩

/-- A challenge that comes without a signature is signed, and prepared with what the signer says. -/
theorem signs_challengeCall (id : ChannelId) (candidate : State) (proofs : List State) :
    (c.challengeCall id candidate proofs none).Signs (c.Places (.dispute id candidate proofs))
      fun _ _ _ => True := by
  refine (c.signs_challengeSignature id candidate proofs).bind fun order signature a made => ?_
  exact Completes.prepare made.1.symm _

/-- Nobody can sign on behalf of another user without an alternate signer. -/
theorem transcript_missing {β : Type} {f : Signature → Operation β} {id : ChannelId}
    {candidate : State} {channel : ChannelRecord} {rest : List Exchange} {result : Except Error β}
    (user_ne : channel.definition.user ≠ c.account) (absent : c.alternate = none)
    (t : (c.challengeSignature id candidate none >>= f).Transcript
      (⟨.view (.channelRecord id), .ok channel⟩ :: rest) result) :
    rest = [] ∧ result = .error (.missingParameter "challenger signer") := by
  have refused : c.challenger channel.definition.user =
      .error (.missingParameter "challenger signer") := by
    rw [challenger, if_neg (Ne.symm user_ne), absent]
    rfl
  change ((channelRecord id >>= fun channel =>
    Operation.ofExcept (c.challenger channel.definition.user) >>= fun party =>
    ofEncoding (challengeHash id candidate) >>= fun hash =>
    sign (.perform (.signHash party hash))) >>= f).Transcript _ _ at t
  rw [bind_assoc] at t
  rcases transcript_bind.1 t with ⟨e, first, rfl⟩ | ⟨before, after, channel', es_eq, first, second⟩
  · -- The reading was answered, so it has not failed.
    obtain ⟨answer, read, h⟩ := transcript_adapt.1 first
    cases transcript_view.1 read
    exact nomatch h
  · rw [transcript_channelRecord first] at es_eq
    cases es_eq
    rw [refused] at second
    exact transcript_throw.1 second

/-- A given signature is all that is handed to the contract with the state. -/
theorem transcript_challengeCall_given {id : ChannelId} {candidate : State} {proofs : List State}
    {signature : Signature} {es : List Exchange} {result : Except Error Call}
    (t : (c.challengeCall id candidate proofs (some signature)).Transcript es result) :
    ∃ answer, es = [⟨.prepare (.challenge id candidate proofs signature), answer⟩] := by
  change (pure signature >>= fun a => (prepare (.challenge id candidate proofs a)).asCall
    "challenge" (channelContext id)).Transcript es result at t
  rw [pure_bind] at t
  obtain ⟨answer, asked, -⟩ := transcript_adapt.1 t
  exact ⟨answer, transcript_prepare.1 asked⟩

/-! ## Commands -/

/-- A write signs what its preparation does. -/
theorem signs_carryOut {w : Write} {purpose : Purpose}
    (h : (Command.write w).purpose? = some purpose) :
    (c.carryOut w).Signs (c.Places purpose) (Command.write w).Yields := by
  cases w with
  | deposit | checkpoint | withdraw => exact nomatch h
  | createChannel o =>
    cases h
    refine (c.signs_creationCall o).bind fun order signature r made => ?_
    exact (Completes.send r.2 _).bind fun hash => .pure (.of_artifact rfl made)
  | depositAndCreateChannel node token amount o =>
    cases h
    refine (c.signs_depositAndCreationCalls node token amount o).bind
      fun order signature r made => ?_
    exact (completes_sendFrom _ 1 r.2).bind fun hashes => .pure (.of_artifact rfl made)
  | challenge id candidate proofs given =>
    cases given with
    | some signature => exact nomatch h
    | none =>
      cases h
      refine (c.signs_challengeCall id candidate proofs).bind fun order signature call _ => ?_
      exact (Completes.send call _).mono fun hash _ => .of_none rfl
  | closeChannel closing =>
    cases h
    refine (c.signs_cooperativeCloseCall closing).bind fun order signature r made => ?_
    exact (Completes.send r.2 _).bind fun hash => .pure (.of_artifact rfl made)

/-- A command that signs anything signs one order for its purpose. -/
theorem signs_perform {command : Command} {purpose : Purpose}
    (h : command.purpose? = some purpose) :
    (c.perform command).Signs (c.Places purpose) command.Yields := by
  cases command with
  | initialState o =>
    cases h
    exact (c.signs_initialState o).mono fun _ _ _ made => .of_artifact rfl made
  | finalState closing =>
    cases h
    exact (c.signs_finalState closing).mono fun _ _ _ made => .of_artifact rfl made.1
  | challengeSignature id candidate given =>
    cases given with
    | some signature => exact nomatch h
    | none =>
      cases h
      exact (c.signs_challengeSignature id candidate []).mono fun _ _ _ made =>
        .of_artifact rfl made.2
  | creationCall o =>
    cases h
    exact (c.signs_creationCall o).mono fun _ _ _ made => .of_artifact rfl made
  | depositAndCreationCalls node token amount o =>
    cases h
    exact (c.signs_depositAndCreationCalls node token amount o).mono fun _ _ _ made =>
      .of_artifact rfl made
  | challengeCall id candidate proofs given =>
    cases given with
    | some signature => exact nomatch h
    | none =>
      cases h
      exact (c.signs_challengeCall id candidate proofs).mono fun _ _ _ _ => .of_none rfl
  | cooperativeCloseCall closing =>
    cases h
    exact (c.signs_cooperativeCloseCall closing).mono fun _ _ _ made => .of_artifact rfl made
  | write w => exact c.signs_carryOut h
  -- No other command has a purpose.
  | _ => exact nomatch h

/-- A challenge that comes with a signature is not signed. -/
theorem unsigned_challengeCall_given (id : ChannelId) (candidate : State) (proofs : List State)
    (signature : Signature) :
    (c.challengeCall id candidate proofs (some signature)).Ensures
      (fun r => r.isSigning = false) fun _ => True :=
  .of_singleton (.prepare (.challenge id candidate proofs signature)) rfl fun _ _ =>
    c.transcript_challengeCall_given

/-- Nothing is signed for a write that needs no signature. -/
theorem unsigned_carryOut {w : Write} (h : (Command.write w).purpose? = none) :
    (c.carryOut w).Ensures (fun r => r.isSigning = false) fun _ => True := by
  cases w with
  | deposit node token amount =>
    refine (c.ensures_depositCalls ?_ ?_ ?_).bind fun calls _ => ?_
    · rfl
    · rfl
    · rfl
    · exact ensures_sendAll fun call _ => rfl
  | checkpoint id candidate proofs =>
    refine (ensures_agreedCall fun agreed => ?_).bind fun call _ => ensures_sendOne ?_ <;> rfl
  | challenge id candidate proofs given =>
    cases given with
    | none => exact nomatch h
    | some signature =>
      exact (c.unsigned_challengeCall_given _ _ _ _).bind fun call _ => ensures_sendOne rfl
  | withdraw token amount =>
    refine (c.ensures_withdrawalCall ?_).bind fun call _ => ensures_sendOne ?_ <;> rfl
  | createChannel | depositAndCreateChannel | closeChannel => exact nomatch h

/-- A command without a purpose signs nothing. -/
theorem unsigned_perform {command : Command} (h : command.purpose? = none) :
    (c.perform command).Ensures (fun r => r.isSigning = false) fun _ => True := by
  cases command with
  | channelRecord id => exact ensures_read (.channelRecord id) rfl
  | openChannels => exact ensures_read (.openChannels c.account) rfl
  | channelIds => exact ensures_read (.channelIds c.account) rfl
  | accountBalance token => exact ensures_read (.accountBalance c.account token) rfl
  | tokenBalance token => exact ensures_read (.balanceOf token c.account) rfl
  | tokenAllowance token => exact ensures_read (.allowance token c.account c.custody) rfl
  | newDefinition node metadata =>
    refine (Ensures.nonce ?_).bind fun nonce _ => .pure trivial
    rfl
  | challengeSignature id candidate given =>
    cases given with
    | none => exact nomatch h
    | some signature => exact .pure trivial
  | depositCalls node token amount => exact c.ensures_depositCalls rfl rfl rfl
  | checkpointCall id candidate proofs | closeCall id candidate proofs
  | channelDepositCall id candidate | channelWithdrawalCall id candidate =>
    exact ensures_agreedCall fun agreed => rfl
  | challengeCall id candidate proofs given =>
    cases given with
    | none => exact nomatch h
    | some signature =>
      exact c.unsigned_challengeCall_given id candidate proofs signature
  | withdrawalCall token amount => exact c.ensures_withdrawalCall rfl
  | sendAll calls => exact ensures_sendAll fun call _ => rfl
  | write w => exact c.unsigned_carryOut h
  | initialState | finalState | creationCall | depositAndCreationCalls | cooperativeCloseCall =>
    exact nomatch h

end Client

/-- Nothing that is done with assets is signed. -/
theorem AssetCommand.unsigned_perform (command : AssetCommand) :
    command.perform.Obeys fun es _ => signings es = [] := by
  have sequential : Operation.Sequential fun es _ => signings es = [] := by
    refine ⟨rfl, fun {before after _} first second => ?_⟩
    rw [signings_append, first, second, List.append_nil]
  exact command.obeys_perform sequential (fun v context => .view fun answer => rfl) fun _ _ => rfl

/-! ## Nets -/

/-- The channel that an action is on. -/
def Action.channelId? : Action → Option ChannelId
  | approve .. | deposit .. | withdraw .. => none
  | createChannel id | checkpoint id | challenge id | close id | depositToChannel id
  | withdrawFromChannel id => some id

namespace Client

open Operation

variable (c : Client)

/-- On the configured chain, the contract takes what is made of an order to be on its channel. -/
theorem Places.channelId?_eq {purpose : Purpose} {before : List Exchange} {order : Order}
    (placed : c.Places purpose before order) {net : LocalNet}
    (chain_eq : net.chainId = c.configuration.chainId) {signature : Signature} {call : Call}
    (h : net.callOf (order.plan signature) = .ok call) :
    call.action.channelId? = some order.id := by
  cases placed with
  | creation allowed made_suffix opened id_eq =>
    -- The contract hashes the definition for itself, on the same chain.
    rw [Order.plan, LocalNet.callOf, chain_eq, id_eq] at h
    cases h
    rfl
  | closing | own | alternate =>
    cases h
    rfl

/-- What signers may be asked in an event: nothing, or once for an order that is placed. -/
def MayAsk : Event → List SigningRequest → Prop
  | .command command, asked => asked = [] ∨ ∃ purpose before order request,
      command.purpose? = some purpose ∧ c.Places purpose before order ∧
        order.request = .ok request ∧ asked = [request]
  | .change _, asked => asked = []

/-- What an event asks for is put behind what has been signed before. -/
theorem signingLog_step (net : LocalNet) (event : Event) :
    ∃ asked, c.MayAsk event asked ∧
      (c.step net event).signingLog = net.signingLog ++ asked := by
  cases event with
  | change change =>
    refine ⟨[], rfl, ?_⟩
    rw [step, LocalNet.signingLog_change, List.append_nil]
  | command command =>
    refine ⟨_, ?_, net.signingLog_run (c.perform command)⟩
    have t := Flow.transcript_exchanges LocalNet.answer (c.perform command).run net
    cases purpose_eq : command.purpose? with
    | none => exact .inl (signings_of_unsigned ((c.unsigned_perform purpose_eq).asks _ _ t))
    | some purpose =>
      rcases (c.signs_perform purpose_eq _ _ t).signings_eq with none_eq |
        ⟨before, order, request, -, placed, request_eq, once⟩
      · exact .inl none_eq
      · exact .inr ⟨purpose, before, order, request, purpose_eq, placed, request_eq, once⟩

/-- What is signed in a session can be told apart event by event. -/
theorem signingLog_session (events : List Event) (net : LocalNet) :
    ∃ asked, List.Forall₂ c.MayAsk events asked ∧
      (c.session events net).signingLog = net.signingLog ++ asked.flatten :=
  c.session_log (I := fun _ => True)
    (fun net event _ => ⟨trivial, c.signingLog_step net event⟩) events trivial

/-- On behalf of another user and without an alternate signer, a dispute ends with the reading. -/
theorem perform_missing {command : Command} {id : ChannelId} {candidate : State}
    {proofs : List State} {channel : ChannelRecord} {rest : List Exchange}
    {result : Except Error command.Result}
    (h : command.purpose? = some (.dispute id candidate proofs))
    (user_ne : channel.definition.user ≠ c.account) (absent : c.alternate = none)
    (t : (c.perform command).Transcript (⟨.view (.channelRecord id), .ok channel⟩ :: rest) result) :
    rest = [] ∧ result = .error (.missingParameter "challenger signer") := by
  cases command with
  | challengeSignature id candidate given =>
    cases given with
    | some signature => exact nomatch h
    | none =>
      cases h
      -- The signature is all that is returned, so nothing comes after it.
      change (c.challengeSignature id candidate none).Transcript _ _ at t
      rw [← bind_pure (c.challengeSignature id candidate none)] at t
      exact c.transcript_missing user_ne absent t
  | challengeCall id candidate proofs given =>
    cases given with
    | some signature => exact nomatch h
    | none =>
      cases h
      exact c.transcript_missing user_ne absent t
  | write w =>
    cases w with
    | challenge id candidate proofs given =>
      cases given with
      | some signature => exact nomatch h
      | none =>
        cases h
        change (c.challengeCall id candidate proofs none >>= sendOne).Transcript _ _ at t
        rw [challengeCall, bind_assoc] at t
        exact c.transcript_missing user_ne absent t
    | _ => exact nomatch h
  | _ => exact nomatch h

/-- A given signature is handed to the contract before anything else is asked. -/
theorem perform_given {command : Command} {id : ChannelId} {candidate : State}
    {proofs : List State} {signature : Signature} {es : List Exchange}
    {result : Except Error command.Result}
    (h : command = .challengeCall id candidate proofs (some signature) ∨
      command = .write (.challenge id candidate proofs (some signature)))
    (t : (c.perform command).Transcript es result) :
    ∃ answer rest, es = ⟨.prepare (.challenge id candidate proofs signature), answer⟩ :: rest ∧
      ∀ x ∈ rest, ∃ call, x.request = .send call := by
  rcases h with rfl | rfl
  · obtain ⟨answer, rfl⟩ := c.transcript_challengeCall_given t
    exact ⟨answer, [], rfl, List.forall_mem_nil _⟩
  · rcases transcript_bind.1 t with ⟨e, first, -⟩ | ⟨before, after, call, rfl, first, second⟩
    · obtain ⟨answer, rfl⟩ := c.transcript_challengeCall_given first
      exact ⟨answer, [], rfl, List.forall_mem_nil _⟩
    · obtain ⟨answer, rfl⟩ := c.transcript_challengeCall_given first
      have sends : (sendOne call).Ensures (fun r => ∃ call, r = .send call) fun _ => True :=
        ensures_sendOne ⟨call, rfl⟩
      exact ⟨answer, after, rfl, sends.asks after result second⟩

/-- The discipline of signing. Whatever is answered, a command that opens or closes a channel, or
    that disputes a state without a given signature, has a single order signed, and what it returns
    and hands to the contract is made of this order. Nobody signs on behalf of another user but the
    alternate signer. A given signature is handed on as it is, without a reading. Nothing else is
    ever signed, with or without assets. In a session in a net, signers are asked accordingly, and
    on the configured chain, what is made of an order is on the channel of the order. -/
theorem signing_disciplined :
    (∀ command purpose, command.purpose? = some purpose → ∀ es result,
      (c.perform command).Transcript es result →
        SigningCourse (c.Places purpose) command.Yields es result) ∧
    (∀ command id candidate proofs, command.purpose? = some (.dispute id candidate proofs) →
      ∀ channel, channel.definition.user ≠ c.account → c.alternate = none → ∀ rest result,
        (c.perform command).Transcript (⟨.view (.channelRecord id), .ok channel⟩ :: rest) result →
          rest = [] ∧ result = .error (.missingParameter "challenger signer")) ∧
    (∀ id candidate signature es result,
      (c.perform (.challengeSignature id candidate (some signature))).Transcript es result →
        es = [] ∧ result = .ok signature) ∧
    (∀ command id candidate proofs signature,
      command = .challengeCall id candidate proofs (some signature) ∨
        command = .write (.challenge id candidate proofs (some signature)) →
      ∀ es result, (c.perform command).Transcript es result → ∃ answer rest,
        es = ⟨.prepare (.challenge id candidate proofs signature), answer⟩ :: rest ∧
          ∀ x ∈ rest, ∃ call, x.request = .send call) ∧
    (∀ command, command.purpose? = none → ∀ es result,
      (c.perform command).Transcript es result → signings es = []) ∧
    (∀ (command : AssetCommand) cache es result after,
      command.perform.Transcript cache es result after → signings es = []) ∧
    (∀ events net, ∃ asked, List.Forall₂ c.MayAsk events asked ∧
      (c.session events net).signingLog = net.signingLog ++ asked.flatten) ∧
    (∀ command purpose, command.purpose? = some purpose → ∀ before order,
      c.Places purpose before order → ∀ net : LocalNet, net.chainId = c.configuration.chainId →
      ∀ signature call, ⟨.prepare (order.plan signature), .ok call⟩ ∈
          (c.perform command).run.exchanges LocalNet.answer net →
        call.action.channelId? = some order.id) := by
  refine ⟨fun command purpose h => c.signs_perform h,
    fun command id candidate proofs h channel user_ne absent rest result t =>
      c.perform_missing h user_ne absent t,
    fun id candidate signature es result t => transcript_pure.1 t,
    fun command id candidate proofs signature h es result t => c.perform_given h t,
    fun command h es result t => signings_of_unsigned ((c.unsigned_perform h).asks es result t),
    AssetCommand.unsigned_perform, c.signingLog_session,
    fun command purpose _ before order placed net chain_eq signature call prepared => ?_⟩
  exact placed.channelId?_eq c chain_eq (net.prepared_run (c.perform command) prepared)

/-- A channel is created, and a state is disputed: in the account's own channel, in one of another
    user, and with a given signature. Neither a withdrawal of nothing nor a token that cannot be
    read is signed for. -/
theorem signing_disciplined_dispute :
    let channel (user : Address) : ChannelRecord :=
      ⟨.v1 ⟨3600, user, ⟨4⟩, 0, ⟨0⟩⟩, .active, Sample.state [], 0⟩
    let net := Sample.net.setChannel ⟨9⟩ (channel ⟨2⟩)
    let command := Command.challengeCall ⟨9⟩ (Sample.state []) [] none
    let given := Command.challengeCall ⟨9⟩ (Sample.state []) [] (some ⟨[1]⟩)
    let order := Order.dispute .own ⟨9⟩ (Sample.state []) []
    let call : Call := ⟨.challenge ⟨9⟩, ⟨1⟩, [], 0⟩
    let reading : List Exchange := [⟨.view (.symbol ⟨3⟩), .error (.external "unreachable")⟩]
    let creation := Command.write (.createChannel Sample.opening)
    let created := (Sample.client.perform creation).run.exchanges LocalNet.answer net
    let es := (Sample.client.perform command).run.exchanges LocalNet.answer net
    SigningCourse (Sample.client.Places (.opening Sample.opening)) creation.Yields created
      (LocalNet.run (Sample.client.perform creation) net).1 ∧
    (signings created).length = 1 ∧
    SigningCourse (Sample.client.Places (.dispute ⟨9⟩ (Sample.state []) [])) command.Yields es
      (LocalNet.run (Sample.client.perform command) net).1 ∧
    (signings es).length = 1 ∧
    (∀ rest result, (Sample.client.perform command).Transcript
        (⟨.view (.channelRecord ⟨9⟩), .ok (channel ⟨4⟩)⟩ :: rest) result →
      rest = [] ∧ result = .error (.missingParameter "challenger signer")) ∧
    (∀ es result, (Sample.client.perform given).Transcript es result → ∃ answer rest,
      es = ⟨.prepare (.challenge ⟨9⟩ (Sample.state []) [] ⟨[1]⟩), answer⟩ :: rest ∧
        ∀ x ∈ rest, ∃ call, x.request = .send call) ∧
    (∀ es result, (Sample.client.perform (.withdrawalCall ⟨3⟩ 0)).Transcript es result →
      signings es = []) ∧
    signings reading = [] ∧
    ⟨.prepare (order.plan ⟨[]⟩), .ok call⟩ ∈ es ∧ call.action.channelId? = some order.id := by
  intro channel net command given order call reading creation created es
  obtain ⟨signs, missing, -, forwards, unsigned, of_assets, -, on_channel⟩ :=
    signing_disciplined Sample.client
  have read : (AssetCommand.decimals ⟨3⟩).perform.Transcript (.new Sample.client.configuration)
      reading (.error (.contractRead "symbol" s!"token={(⟨3⟩ : Address)}" "unreachable"))
      (.new Sample.client.configuration) := .ask (.done _)
  have placed : Sample.client.Places (.dispute ⟨9⟩ (Sample.state []) [])
      [⟨.view (.channelRecord ⟨9⟩), .ok (channel ⟨2⟩)⟩] order := .own rfl
  have prepared : ⟨.prepare (order.plan ⟨[]⟩), .ok call⟩ ∈ es := .tail _ (.tail _ (.head _))
  refine ⟨signs creation _ rfl created _ (Flow.transcript_exchanges _ _ net), by decide +kernel,
    signs command _ rfl es _ (Flow.transcript_exchanges _ _ net), rfl,
    missing command ⟨9⟩ _ [] rfl (channel ⟨4⟩) (by decide) rfl,
    forwards given ⟨9⟩ _ [] ⟨[1]⟩ (.inl rfl), unsigned (.withdrawalCall ⟨3⟩ 0) rfl,
    of_assets _ _ _ _ _ read, prepared, ?_⟩
  exact on_channel command _ rfl _ order placed net rfl _ _ prepared

end Client

end PaymentChannel
