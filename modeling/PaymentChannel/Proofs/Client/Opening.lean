import PaymentChannel.Proofs.Client.Checks
import PaymentChannel.Proofs.Client.Command
import PaymentChannel.Proofs.Net.Records

/-!
# What is opened

An opening says what a channel is to start with, and the configuration adds to it. What they come to
is the definition and the unsigned state of `Client.Content`, if they come to anything. In all the
ways that the preparation of the initial state can go (`OpeningCourse`), it is refused just if they
do not, before anybody is asked; else the account's own signer is asked once, for this state.
-/

namespace PaymentChannel

/-- The marker is encoded as a number in a slot of its own. -/
theorem argumentBytes_markerData (marker : UInt64) :
    Abi.argumentBytes (.word (Slot.ofCount marker.toNat)) = .ok (markerData marker) := by
  have small := marker.toNat_lt
  have spelled : Slot.toBytes (Slot.ofCount marker.toNat) = markerData marker := by
    refine Bytes.eq_of_toNat_eq (by simp [markerData]; rfl) ?_
    rw [Slot.toNat_toBytes, markerData, Bytes.toNat_replicate_append, Bytes.toNat_ofNat,
      Slot.ofCount, BitVec.toNat_ofNat, Nat.mod_eq_of_lt (by omega), Nat.mod_eq_of_lt (by omega)]
  rw [(Abi.Encodes.word _).argumentBytes_eq, Abi.Component.ofSlots_singleton, spelled]

/-- The exchange in which the nonce is drawn, for an opening that gives none. -/
def Opening.drawing (account : Address) (drawn : UInt64) : Opening → List Exchange
  | legacy o => if o.nonce.isNone then [⟨.nonce account, drawn⟩] else []
  | v1 .. => []

namespace Client

open Operation

variable (c : Client)

/-- What an opening comes to: the definition, and the state before it is signed. The nonce that is
    drawn is for an opening that gives none. -/
inductive Content (drawn : UInt64) : Opening → Definition → State → Prop where
  /-- The channel and its initial state are given, and the account is the user. Whatever signatures
      the state carries are left out. -/
  | v1 {channel : LedgerChannel} {state : LedgerState}
      (protocol_eq : c.configuration.protocol = .v1) (version_eq : state.version = 0)
      (intent_eq : state.intent = .initial) (user_eq : channel.user = c.account) :
      Content drawn (.v1 (some channel) (some state)) (.v1 channel)
        (.v1 { state with userSignature := none, nodeSignature := none })
  /-- The channel is between the account and the guest, and each gets back one of two amounts. The
      data are those given, or else the number that marks open channels. -/
  | legacy {o : LegacyOpening} {adjudicator guest : Address} {own other : UInt256} {data : Bytes}
      (protocol_eq : c.configuration.protocol = .legacy)
      (adjudicator_eq : c.configuration.adjudicator = some adjudicator)
      (adjudicator_ne : adjudicator.isZero = false)
      (guest_eq : c.configuration.guest = some guest) (guest_ne : guest.isZero = false)
      (amounts_eq : o.amounts = [own, other])
      (data_eq : o.data = some data ∨
        o.data = none ∧ Abi.argumentBytes (.word 7877) = .ok data) :
      Content drawn (.legacy o)
        (.legacy ⟨(c.account, guest), adjudicator, c.configuration.challengeDuration.toUInt64,
          o.nonce.getD drawn⟩)
        (.legacy ⟨data, (⟨c.account, o.token, own⟩, ⟨guest, o.token, other⟩), []⟩)

variable {c} in
theorem Content.withoutSignatures_eq {drawn : UInt64} {o : Opening} {d : Definition} {s : State}
    (h : c.Content drawn o d s) : s.withoutSignatures = s := by
  cases h <;> rfl

variable {c} in
theorem Content.protocol_eq {drawn : UInt64} {o : Opening} {d : Definition} {s : State}
    (h : c.Content drawn o d s) : o.protocol = c.configuration.protocol := by
  cases h with
  | v1 protocol_eq | legacy protocol_eq => exact protocol_eq.symm

/-! ## Checks -/

theorem checkOpening_eq_ok_iff {definition : Option LedgerChannel} {initial : Option LedgerState}
    {d : Definition} {s : State} :
    c.checkOpening definition initial = .ok (d, s) ↔ ∃ channel state, definition = some channel ∧
      initial = some state ∧ state.version = 0 ∧ state.intent = .initial ∧
      channel.user = c.account ∧ d = .v1 channel ∧
      s = .v1 { state with userSignature := none, nodeSignature := none } := by
  rcases definition with _ | channel
  · exact ⟨nofun, nofun⟩
  rcases initial with _ | state
  · exact ⟨nofun, nofun⟩
  refine (ite_throw_eq_ok_iff.trans (and_congr_right' ite_throw_eq_ok_iff)).trans ?_
  rw [not_or, Decidable.not_not, Decidable.not_not, Decidable.not_not]
  constructor
  · rintro ⟨⟨intent_eq, version_eq⟩, user_eq, ⟨⟩⟩
    exact ⟨channel, state, rfl, rfl, version_eq, intent_eq, user_eq, rfl, rfl⟩
  · rintro ⟨_, _, ⟨⟩, ⟨⟩, version_eq, intent_eq, user_eq, rfl, rfl⟩
    exact ⟨⟨intent_eq, version_eq⟩, user_eq, rfl⟩

theorem checkLegacyOpening_eq_ok_iff {o : LegacyOpening} {adjudicator guest : Address}
    {own other : UInt256} :
    c.checkLegacyOpening o = .ok (adjudicator, guest, own, other) ↔
      (c.configuration.adjudicator = some adjudicator ∧ adjudicator.isZero = false) ∧
      (c.configuration.guest = some guest ∧ guest.isZero = false) ∧ o.amounts = [own, other] := by
  simp only [checkLegacyOpening, Configuration.needAdjudicator, Configuration.needGuest,
    bind_eq_ok_iff, Configuration.need_eq_ok_iff]
  constructor
  · rintro ⟨_, adjudicator_eq, _, guest_eq, h⟩
    rcases o with ⟨token, _ | ⟨first, _ | ⟨second, _ | ⟨third, rest⟩⟩⟩, data, nonce⟩ <;> cases h
    exact ⟨adjudicator_eq, guest_eq, rfl⟩
  · rintro ⟨adjudicator_eq, guest_eq, amounts_eq⟩
    exact ⟨adjudicator, adjudicator_eq, guest, guest_eq, by rw [amounts_eq]; rfl⟩

/-! ## Transcripts -/

theorem transcript_legacyOpening {o : LegacyOpening}
    (allowed : Protocol.legacy = c.configuration.protocol) {es : List Exchange}
    {result : Except Error (Definition × State)} (t : (c.legacyOpening o).Transcript es result) :
    (es = [] ∧ (∃ e, result = .error e) ∧ ∀ drawn d s, ¬ c.Content drawn (.legacy o) d s) ∨
      ∃ drawn d s, c.Content drawn (.legacy o) d s ∧
        es = (Opening.legacy o).drawing c.account drawn ∧ result = .ok (d, s) := by
  rcases transcript_bind.1 t with ⟨e, first, rfl⟩ |
    ⟨before, after, ⟨adjudicator, guest, own, other⟩, rfl, first, second⟩
  · obtain ⟨rfl, failed⟩ := transcript_ofExcept.1 first
    refine .inl ⟨rfl, ⟨e, rfl⟩, fun drawn d s content => ?_⟩
    cases content with
    | legacy protocol_eq adjudicator_eq adjudicator_ne guest_eq guest_ne amounts_eq data_eq =>
      have passed := c.checkLegacyOpening_eq_ok_iff.2
        ⟨⟨adjudicator_eq, adjudicator_ne⟩, ⟨guest_eq, guest_ne⟩, amounts_eq⟩
      exact nomatch failed.trans passed
  · obtain ⟨rfl, passed⟩ := transcript_ofExcept.1 first
    obtain ⟨⟨adjudicator_eq, adjudicator_ne⟩, ⟨guest_eq, guest_ne⟩, amounts_eq⟩ :=
      c.checkLegacyOpening_eq_ok_iff.1 passed.symm
    -- If no data is given, it is the marker for opening channels.
    have data_eq : o.data = some (o.data.getD (markerData openMarker)) ∨ o.data = none ∧
        Abi.argumentBytes (.word 7877) = .ok (o.data.getD (markerData openMarker)) := by
      cases o.data with
      | some data => exact .inl rfl
      | none => exact .inr ⟨rfl, argumentBytes_markerData openMarker⟩
    have content (drawn : UInt64) := @Content.legacy c drawn o _ _ _ _ _ allowed.symm
      adjudicator_eq adjudicator_ne guest_eq guest_ne amounts_eq data_eq
    -- A nonce is drawn only if none is given, and this cannot fail.
    rcases o with ⟨token, amounts, data, _ | nonce⟩
    · rcases transcript_bind.1 second with ⟨e, drawing, -⟩ |
        ⟨draws, made, nonce, rfl, drawing, rest⟩
      · obtain ⟨drawn, -, failed⟩ := transcript_nonce.1 drawing
        exact nomatch failed
      · obtain ⟨drawn, rfl, drawn_eq⟩ := transcript_nonce.1 drawing
        cases drawn_eq
        obtain ⟨rfl, rfl⟩ := transcript_pure.1 rest
        exact .inr ⟨nonce, _, _, content nonce, rfl, rfl⟩
    · obtain ⟨rfl, rfl⟩ := transcript_pure.1 second
      exact .inr ⟨nonce, _, _, content nonce, rfl, rfl⟩

/-- The definition and the state are made up without fail if they are what the opening comes to, and
    at most the nonce is asked for. -/
theorem transcript_opened {o : Opening} (allowed : o.protocol = c.configuration.protocol)
    {es : List Exchange} {result : Except Error (Definition × State)}
    (t : (c.opened o).Transcript es result) :
    (es = [] ∧ (∃ e, result = .error e) ∧ ∀ drawn d s, ¬ c.Content drawn o d s) ∨
      ∃ drawn d s, c.Content drawn o d s ∧ es = o.drawing c.account drawn ∧
        result = .ok (d, s) := by
  cases o with
  | legacy o => exact c.transcript_legacyOpening allowed t
  | v1 definition initial =>
    obtain ⟨rfl, rfl⟩ := transcript_ofExcept.1 t
    cases passed : c.checkOpening definition initial with
    | error e =>
      refine .inl ⟨rfl, ⟨e, rfl⟩, fun drawn d s content => ?_⟩
      cases content with
      | v1 protocol_eq version_eq intent_eq user_eq =>
        have passed' := c.checkOpening_eq_ok_iff.2
          ⟨_, _, rfl, rfl, version_eq, intent_eq, user_eq, rfl, rfl⟩
        exact nomatch passed.symm.trans passed'
    | ok opened =>
      obtain ⟨d, s⟩ := opened
      obtain ⟨channel, state, rfl, rfl, version_eq, intent_eq, user_eq, rfl, rfl⟩ :=
        c.checkOpening_eq_ok_iff.1 passed
      exact .inr ⟨0, _, _, .v1 allowed.symm version_eq intent_eq user_eq, rfl, rfl⟩

/-- How the preparation of the initial state can go. -/
inductive OpeningCourse (o : Opening) : List Exchange → Except Error PreparedChannel → Prop where
  /-- It is refused before anything is asked. -/
  | refused (e : Error) (unfounded : ∀ drawn d s, ¬ c.Content drawn o d s) :
      OpeningCourse o [] (.error e)
  /-- The account is asked to sign the state, under the channel id on the configured chain. -/
  | asked {drawn : UInt64} {d : Definition} {s : State} {id : ChannelId} {hash : Hash}
      (answer : Except SignError Signature) (content : c.Content drawn o d s)
      (id_eq : d.channelId c.configuration.chainId = .ok id) (hash_eq : stateHash id s = .ok hash) :
      OpeningCourse o
        (o.drawing c.account drawn ++
          [⟨.signState hash ⟨id, s.protocol, s.version, s.intent, .state⟩, answer⟩])
        ((answer.mapError .signing).map fun signature =>
          ⟨id, d, s.withSignatures signature []⟩)

theorem transcript_signOpened {d : Definition} {s : State} {es : List Exchange}
    {result : Except Error PreparedChannel} (t : (c.signOpened d s).Transcript es result) :
    ∃ id hash answer, d.channelId c.configuration.chainId = .ok id ∧ stateHash id s = .ok hash ∧
      es = [⟨.signState hash ⟨id, s.protocol, s.version, s.intent, .state⟩, answer⟩] ∧
      result = (answer.mapError .signing).map fun signature =>
        ⟨id, d, s.withSignatures signature []⟩ := by
  obtain ⟨id, id_eq⟩ : ∃ id, d.channelId c.configuration.chainId = .ok id := ⟨_, channelId_eq _ _⟩
  have identified : c.signOpened d s = (do
      let signature ← signState id s
      pure ⟨id, d, s.withSignatures signature []⟩) := by
    rw [signOpened, id_eq]
    rfl
  rw [identified] at t
  obtain ⟨_, signed, rfl⟩ := transcript_bind_pure.1 t
  obtain ⟨hash, answer, hash_eq, rfl, rfl⟩ := transcript_signState.1 signed
  exact ⟨id, hash, answer, id_eq, hash_eq, rfl, rfl⟩

/-- Whatever is answered, the preparation of the initial state goes one of the ways that it can
    go. -/
theorem course_initialState {o : Opening} {es : List Exchange}
    {result : Except Error PreparedChannel} (t : (c.initialState o).Transcript es result) :
    c.OpeningCourse o es result := by
  rw [initialState_eq] at t
  rcases transcript_bind.1 t with ⟨e, first, rfl⟩ | ⟨_, es, _, rfl, first, rest⟩
  · obtain ⟨rfl, failed⟩ := transcript_ofExcept.1 first
    refine .refused e fun drawn d s content => ?_
    exact nomatch failed.trans (c.requireProtocol_eq_ok_iff.2 content.protocol_eq)
  obtain ⟨rfl, allowed⟩ := transcript_ofExcept.1 first
  have allowed := c.requireProtocol_eq_ok_iff.1 allowed.symm
  rcases transcript_bind.1 rest with ⟨e, opened, rfl⟩ | ⟨draws, signs, _, rfl, opened, signed⟩
  · rcases c.transcript_opened allowed opened with ⟨rfl, -, unfounded⟩ | ⟨_, _, _, -, -, passed⟩
    · exact .refused e unfounded
    · exact nomatch passed
  · rcases c.transcript_opened allowed opened with
      ⟨-, ⟨_, failed⟩, -⟩ | ⟨drawn, d, s, content, rfl, passed⟩
    · exact nomatch failed
    · cases passed
      obtain ⟨id, hash, answer, id_eq, hash_eq, rfl, rfl⟩ := c.transcript_signOpened signed
      exact .asked answer content id_eq hash_eq

/-- A channel is prepared under its id on the configured chain. -/
theorem channelId_of_initialState {o : Opening} {es : List Exchange} {prepared : PreparedChannel}
    (t : (c.initialState o).Transcript es (.ok prepared)) :
    prepared.definition.channelId c.configuration.chainId = .ok prepared.id := by
  generalize prepared_eq : Except.ok prepared = result at t
  cases c.course_initialState t with
  | refused e unfounded => exact nomatch prepared_eq
  | asked answer content id_eq hash_eq =>
    cases answer with
    | error e => exact nomatch prepared_eq
    | ok signature =>
      cases prepared_eq
      exact id_eq

variable {c} in
/-- The nonce that is drawn only matters to an opening that draws one. -/
theorem Content.of_drawing {drawn next : UInt64} {o : Opening} {d : Definition} {s : State}
    (h : c.Content drawn o d s)
    (same : ∀ x ∈ o.drawing c.account drawn, x = ⟨.nonce c.account, next⟩) :
    c.Content next o d s := by
  cases h with
  | v1 protocol_eq version_eq intent_eq user_eq =>
    exact .v1 protocol_eq version_eq intent_eq user_eq
  | @legacy o _ _ _ _ _ protocol_eq adjudicator_eq adjudicator_ne guest_eq guest_ne amounts_eq
      data_eq =>
    have nonce_eq : o.nonce.getD drawn = o.nonce.getD next := by
      rcases o with ⟨token, amounts, data, _ | nonce⟩
      · cases same ⟨.nonce c.account, drawn⟩ (List.mem_singleton_self _)
        rfl
      · rfl
    rw [nonce_eq]
    exact .legacy protocol_eq adjudicator_eq adjudicator_ne guest_eq guest_ne amounts_eq data_eq

/-- All that is drawn is a nonce for the account. -/
theorem eq_of_mem_drawing {o : Opening} {drawn : UInt64} {x : Exchange}
    (h : x ∈ o.drawing c.account drawn) : x = ⟨.nonce c.account, drawn⟩ := by
  cases o with
  | legacy o =>
    rcases o with ⟨token, amounts, data, _ | nonce⟩
    · exact List.mem_singleton.1 h
    · exact absurd h List.not_mem_nil
  | v1 definition initial => exact absurd h List.not_mem_nil

/-- In a net whose own signer works, an opening either comes to nothing, or to a channel that is
    prepared. -/
theorem run_initialState (o : Opening) {net : LocalNet}
    (working : ∀ hash, ∃ signature, net.own.sign hash = .ok signature) :
    ((∃ e, (net.run (c.initialState o)).1 = .error e) ∧ ∀ drawn d s, ¬ c.Content drawn o d s) ∨
      ∃ d s id hash signature, c.Content (net.nonces.next c.account) o d s ∧
        d.channelId c.configuration.chainId = .ok id ∧ stateHash id s = .ok hash ∧
        net.own.sign hash = .ok signature ∧
        (net.run (c.initialState o)).1 = .ok ⟨id, d, s.withSignatures signature []⟩ := by
  have t := net.transcript_run (c.initialState o)
  have draws := @LocalNet.nonce_run net _ (c.initialState o)
  have signs := @LocalNet.sign_run net _ (c.initialState o)
  generalize (net.run (c.initialState o)).1 = result at t ⊢
  generalize (c.initialState o).run.exchanges LocalNet.answer net = es at t draws signs
  cases c.course_initialState t with
  | refused e unfounded => exact .inl ⟨⟨e, rfl⟩, unfounded⟩
  | @asked drawn d s id hash answer content id_eq hash_eq =>
    obtain ⟨signature, signature_eq⟩ := working hash
    have answer_eq := signs (List.mem_append_right _ (List.mem_singleton_self _))
    rw [answer_eq, signature_eq]
    refine .inr ⟨d, s, id, hash, signature, content.of_drawing fun x hx => ?_, id_eq, hash_eq,
      signature_eq, rfl⟩
    cases c.eq_of_mem_drawing hx
    rw [draws (List.mem_append_left _ hx)]

/-- What is opened, and when. The preparation of the initial state is refused before anything is
    asked if the opening comes to nothing, and else the account is asked to sign what it comes to.
    So with a signer that works, a channel is prepared just if there is one to open; and it is the
    one that the opening and the nonces of the net come to, under its id on the configured chain,
    with the signature of the account over this id and the state, and no other. -/
theorem initialState_opens (o : Opening) :
    (∀ es result, (c.initialState o).Transcript es result → c.OpeningCourse o es result) ∧
    (∀ es result, (c.initialState o).Transcript es result → (∀ x ∈ es, x.failure? = none) →
      ((∃ prepared, result = .ok prepared) ↔ ∃ drawn d s, c.Content drawn o d s)) ∧
    ∀ net : LocalNet, (∀ hash, ∃ signature, net.own.sign hash = .ok signature) →
      ((∃ prepared, (net.run (c.initialState o)).1 = .ok prepared) ↔
        ∃ d s, c.Content (net.nonces.next c.account) o d s) ∧
      ∀ prepared, (net.run (c.initialState o)).1 = .ok prepared →
        c.Content (net.nonces.next c.account) o prepared.definition
          prepared.initial.withoutSignatures ∧
        prepared.definition.channelId c.configuration.chainId = .ok prepared.id ∧
        ∃ hash signature, stateHash prepared.id prepared.initial = .ok hash ∧
          net.own.sign hash = .ok signature ∧ prepared.initial.signatures = [signature] := by
  refine ⟨fun es result => c.course_initialState, fun es result t unfailed => ?_,
    fun net working => ?_⟩
  · -- Once the opening comes to something, only the signer can fail.
    cases c.course_initialState t with
    | refused e unfounded =>
      exact ⟨nofun, fun ⟨drawn, d, s, h⟩ => absurd h (unfounded drawn d s)⟩
    | asked answer content id_eq hash_eq =>
      refine ⟨fun _ => ⟨_, _, _, content⟩, fun _ => ?_⟩
      have answered := unfailed _ (List.mem_append_right _ (List.mem_singleton_self _))
      cases answer with
      | ok signature => exact ⟨_, rfl⟩
      | error e => exact nomatch answered
  · rcases c.run_initialState o working with ⟨⟨e, failed⟩, unfounded⟩ |
      ⟨d, s, id, hash, signature, content, id_eq, hash_eq, signature_eq, made⟩
    · rw [failed]
      exact ⟨⟨nofun, fun ⟨d, s, h⟩ => absurd h (unfounded _ d s)⟩, nofun⟩
    · rw [made]
      refine ⟨⟨fun _ => ⟨d, s, content⟩, fun _ => ⟨_, rfl⟩⟩, ?_⟩
      rintro _ ⟨⟩
      refine ⟨?_, id_eq, hash, signature, ?_, signature_eq, ?_⟩
      · rw [State.withoutSignatures_withSignatures, content.withoutSignatures_eq]
        exact content
      · -- The signature that is put in does not change what has been hashed.
        rw [← hash_eq, stateHash, packedState, State.toValue_withSignatures]
        rfl
      · exact State.signatures_withSignatures signature [] s fun _ => Nat.zero_le 1

/-- A state that carries signatures already is signed anew. -/
theorem initialState_opens_signed :
    let o : Opening := .v1 (some ⟨3600, ⟨2⟩, ⟨4⟩, 0, ⟨0⟩⟩)
      (some ⟨0, .initial, ⟨0⟩, .empty, .empty, some ⟨[1]⟩, some ⟨[2]⟩⟩)
    let es := (Sample.client.initialState o).run.exchanges LocalNet.answer Sample.net
    let result := (Sample.net.run (Sample.client.initialState o)).1
    Sample.client.OpeningCourse o es result ∧ (∀ x ∈ es, x.failure? = none) ∧
    (∃ drawn d s, Sample.client.Content drawn o d s) ∧
    ∃ prepared, result = .ok prepared ∧ Sample.client.Content 0 o prepared.definition
      prepared.initial.withoutSignatures ∧ prepared.initial.signatures = [⟨[]⟩] := by
  intro o es result
  obtain ⟨course, in_transcripts, in_nets⟩ := initialState_opens Sample.client o
  have t : (Sample.client.initialState o).Transcript es result :=
    Sample.net.transcript_run (Sample.client.initialState o)
  have unfailed : ∀ x ∈ es, x.failure? = none := by decide +kernel
  obtain ⟨prepares, made⟩ := in_nets Sample.net fun _ => ⟨⟨[]⟩, rfl⟩
  obtain ⟨prepared, prepared_eq⟩ := prepares.2 ⟨_, _, .v1 rfl rfl rfl rfl⟩
  obtain ⟨content, -, hash, signature, -, signature_eq, signatures_eq⟩ := made prepared prepared_eq
  cases signature_eq
  have founded := (in_transcripts es result t unfailed).1 ⟨prepared, prepared_eq⟩
  exact ⟨course es result t, unfailed, founded, prepared, prepared_eq, content, signatures_eq⟩

end Client

end PaymentChannel
