import PaymentChannel.Proofs.Channel.Preimage
import PaymentChannel.Proofs.Client.Signing
import PaymentChannel.Proofs.Net.Records
import PaymentChannel.Proofs.Net.Sending
import PaymentChannel.Proofs.Signing.Recovery

/-!
# Who signs a dispute

A dispute without a given signature is to be signed by the user of the channel. `Client.Disputed`
says how one goes that succeeds: the channel is read, one signer signs the hash of the disputed
state, and the contract is handed the signature. The signer is that of the account if the account is
the user, and the alternate one else.

Nothing compares the address of the alternate signer with the user. So the user has signed just if
it is one of the two addresses (`Client.IsUser`), and of a channel of somebody else, the contract is
handed a signature that it cannot accept (`Client.disputed_by_user_other`).
-/

namespace PaymentChannel

theorem Exchange.eq_signHash {x : Exchange} {party : Party} {hash : Hash}
    {answer : Except SignError Signature} (h : x.signing? = some (⟨party, hash, none⟩, answer)) :
    x = ⟨.signHash party hash, answer⟩ := by
  obtain ⟨r, a⟩ := x
  cases r with
  | signHash =>
    cases h
    rfl
  | view | prepare | send | signState | nonce => exact nomatch h

theorem Order.dispute_request {party : Party} {id : ChannelId} {candidate : State}
    {proofs : List State} {request : SigningRequest}
    (h : (Order.dispute party id candidate proofs).request = .ok request) :
    ∃ hash, challengeHash id candidate = .ok hash ∧ request = ⟨party, hash, none⟩ := by
  cases hash_eq : challengeHash id candidate with
  | error e =>
    rw [Order.request, hash_eq] at h
    cases show Except.error _ = .ok request from h
  | ok hash =>
    rw [Order.request, hash_eq] at h
    cases h
    exact ⟨hash, rfl, rfl⟩

namespace Client

open Operation

variable (c : Client)

/-- The address of the signer of a party. -/
def addressOf : Party → Option Address
  | .own => some c.account
  | .alternate => c.alternate

/-- One of the two signers is that of the user. -/
def IsUser (user : Address) : Prop := c.account = user ∨ c.alternate = some user

theorem challenger_eq_ok_iff {user : Address} {party : Party} :
    c.challenger user = .ok party ↔ (party = .own ∧ c.account = user) ∨
      (party = .alternate ∧ c.account ≠ user ∧ c.alternate.isSome) := by
  unfold challenger
  by_cases own : c.account = user
  · rw [if_pos own]
    constructor
    · rintro ⟨⟩
      exact .inl ⟨rfl, own⟩
    · rintro (⟨rfl, -⟩ | ⟨-, other, -⟩)
      · rfl
      · exact absurd own other
  · rw [if_neg own]
    by_cases present : c.alternate.isSome
    · rw [if_pos present]
      constructor
      · rintro ⟨⟩
        exact .inr ⟨rfl, own, present⟩
      · rintro (⟨-, same⟩ | ⟨rfl, -⟩)
        · exact absurd same own
        · rfl
    · rw [if_neg present]
      constructor
      · exact nofun
      · rintro (⟨-, same⟩ | ⟨-, -, some⟩)
        · exact absurd same own
        · exact absurd some present

/-- The signer that is chosen has the address of the user only if one of the two signers has. -/
theorem addressOf_challenger_iff {user : Address} {party : Party}
    (h : c.challenger user = .ok party) : c.addressOf party = some user ↔ c.IsUser user := by
  rcases c.challenger_eq_ok_iff.1 h with ⟨rfl, own⟩ | ⟨rfl, other, -⟩
  · exact ⟨fun _ => .inl own, fun _ => congrArg some own⟩
  · exact ⟨.inr, fun user_eq => user_eq.resolve_left other⟩

/-- How a dispute goes that succeeds. -/
structure Disputed (id : ChannelId) (candidate : State) (proofs : List State)
    (channel : ChannelRecord) (party : Party) (hash : Hash) (signature : Signature)
    (es : List Exchange) : Prop where
  hash_eq : challengeHash id candidate = .ok hash
  challenger_eq : c.challenger channel.definition.user = .ok party
  /-- What comes after the signature is to have it handed to the contract. -/
  exchanges_eq : ∃ after, es = ⟨.view (.channelRecord id), .ok channel⟩ ::
      ⟨.signHash party hash, .ok signature⟩ :: after ∧
    ∀ y ∈ after, (Order.dispute party id candidate proofs).Follows signature y.request

theorem Places.of_dispute {id : ChannelId} {candidate : State} {proofs : List State}
    {before : List Exchange} {order : Order}
    (h : c.Places (.dispute id candidate proofs) before order) :
    ∃ channel party, before = [⟨.view (.channelRecord id), .ok channel⟩] ∧
      order = .dispute party id candidate proofs ∧
      c.challenger channel.definition.user = .ok party := by
  cases h with
  | own user_eq => exact ⟨_, _, rfl, rfl, c.challenger_eq_ok_iff.2 (.inl ⟨rfl, user_eq.symm⟩)⟩
  | alternate user_ne present =>
    exact ⟨_, _, rfl, rfl, c.challenger_eq_ok_iff.2 (.inr ⟨rfl, user_ne.symm, present⟩)⟩

theorem disputed_perform {command : Command} {id : ChannelId} {candidate : State}
    {proofs : List State} (h : command.purpose? = some (.dispute id candidate proofs))
    {es : List Exchange} {r : command.Result} (t : (c.perform command).Transcript es (.ok r)) :
    ∃ channel party hash signature,
      c.Disputed id candidate proofs channel party hash signature es ∧
      command.Yields (.dispute party id candidate proofs) signature r := by
  cases c.signs_perform h es (.ok r) t with
  | signed before order request x signature after _ placed quiet request_eq asked follows yields =>
    obtain ⟨channel, party, rfl, rfl, challenger_eq⟩ := placed.of_dispute
    obtain ⟨hash, hash_eq, rfl⟩ := Order.dispute_request request_eq
    cases Exchange.eq_signHash asked
    exact ⟨channel, party, hash, signature,
      ⟨hash_eq, challenger_eq, after, rfl, follows⟩, yields r rfl⟩

/-! ## Nets -/

variable {c}

/-- The addresses of a client are those of the signers of its net. -/
theorem addressOf_eq {net : LocalNet} {configuration : Configuration}
    (h : net.client configuration = .ok c) (party : Party) :
    c.addressOf party = (net.signerOf party).map Signer.address := by
  unfold LocalNet.client new at h
  split at h
  · cases h
    cases party <;> rfl
  · exact nomatch h

/-- The state is signed by a signer of the net, for the channel as the net has it. -/
structure SignedIn (net : LocalNet) (id : ChannelId) (candidate : State) (channel : ChannelRecord)
    (party : Party) (signer : Signer) (hash : Hash) (signature : Signature) : Prop where
  channel_eq : net.channels.lookup id = some channel
  challenger_eq : c.challenger channel.definition.user = .ok party
  signer_eq : net.signerOf party = some signer
  hash_eq : challengeHash id candidate = .ok hash
  signature_eq : signer.sign hash = .ok signature

theorem Disputed.signedIn {net : LocalNet} {α : Type} {op : Operation α} {id : ChannelId}
    {candidate : State} {proofs : List State} {channel : ChannelRecord} {party : Party}
    {hash : Hash} {signature : Signature}
    (h : c.Disputed id candidate proofs channel party hash signature
      (op.run.exchanges LocalNet.answer net)) :
    ∃ signer, c.SignedIn net id candidate channel party signer hash signature := by
  obtain ⟨after, exchanges_eq, -⟩ := h.exchanges_eq
  have read : ⟨.view (.channelRecord id), .ok channel⟩ ∈ op.run.exchanges LocalNet.answer net := by
    rw [exchanges_eq]
    exact .head _
  have signed : ⟨.signHash party hash, .ok signature⟩ ∈
      op.run.exchanges LocalNet.answer net := by
    rw [exchanges_eq]
    exact .tail _ (.head _)
  obtain ⟨signer, signer_eq, signature_eq⟩ := net.signHash_run op signed
  exact ⟨signer, net.channelRecord_run op read, h.challenger_eq, signer_eq, h.hash_eq, signature_eq⟩

/-- A dispute needs the channel, a signer for its user, and the signature of that. -/
theorem run_challengeSignature (c : Client) {net : LocalNet} {id : ChannelId} {candidate : State}
    {channel : ChannelRecord} {party : Party} {signer : Signer} {hash : Hash}
    (read : (net.answerView (.channelRecord id)).1 = .ok channel)
    (challenger_eq : c.challenger channel.definition.user = .ok party)
    (signer_eq : net.signerOf party = some signer)
    (hash_eq : challengeHash id candidate = .ok hash) :
    (net.run (c.challengeSignature id candidate none)).1 =
      (signer.sign hash).mapError .signing := by
  have found : net.run (channelRecord id) =
      (.ok channel, net.record .custody "getChannelData") := by
    obtain ⟨result, answer_eq⟩ := net.answerView_cases (.channelRecord id)
    rw [answer_eq] at read
    refine (run_adapt LocalNet.answer _ _ net).trans ?_
    change ((net.answerView _).1.mapError _, (net.answerView _).2) = _
    rw [answer_eq, show result = .ok channel from read]
    rfl
  change (net.run (channelRecord id >>= fun channel =>
    Operation.ofExcept (c.challenger channel.definition.user) >>= fun party =>
    ofEncoding (challengeHash id candidate) >>= fun hash =>
    sign (.perform (.signHash party hash)))).1 = _
  rw [LocalNet.run_bind_of_ok found, challenger_eq, hash_eq]
  change ((net.record .custody "getChannelData").answerSign party hash none).1.mapError _ = _
  have same : (net.record .custody "getChannelData").signerOf party = some signer := signer_eq
  rw [LocalNet.answerSign, same]

/-- What a key has signed is accepted for its own address, and for no other. -/
theorem signedBy_of_sign {form : KeyForm} {key : SecretKey Ecdsa.secp256k1} {hash : Hash}
    {parts : RecoverableSignature} {signature : Signature}
    (h : (Signer.keyed form key).sign hash = .ok signature) (signs : key.Signs hash parts)
    (recoveryId_le : parts.recoveryId ≤ 1) :
    SignedBy Ecdsa.secp256k1 hash signature (Signer.keyed form key).address := by
  have signature_eq : signature = parts.toSignature := by
    rw [Signer.sign, signHash, signs.sign_eq] at h
    exact (Except.ok.inj h).symm
  rw [signature_eq]
  exact signs.signedBy Ecdsa.strict_secp256k1.order_eq (recoveryIdOf_raised recoveryId_le)

variable (c)

/-- Who signs a dispute. Whatever is answered, a dispute that succeeds without a given signature is
    signed by one of the two signers, over the hash of the disputed state, and the address of this
    signer is the user that was read just if the user is one of the two addresses. In a net, it is
    the net's channel and the net's signer, and if that has a key, the signature is accepted for
    the user of the channel on the same condition. All that it takes is that the channel can be
    read, and that there is such a signer, which signs. -/
theorem disputed_by_user :
    (∀ command id candidate proofs, command.purpose? = some (.dispute id candidate proofs) →
      ∀ es (r : command.Result), (c.perform command).Transcript es (.ok r) →
        ∃ channel party hash signature,
          c.Disputed id candidate proofs channel party hash signature es ∧
          command.Yields (.dispute party id candidate proofs) signature r ∧
          (c.addressOf party = some channel.definition.user ↔
            c.IsUser channel.definition.user)) ∧
    (∀ (net : LocalNet) configuration, net.client configuration = .ok c →
      ∀ command id candidate proofs, command.purpose? = some (.dispute id candidate proofs) →
      ∀ r : command.Result, (net.run (c.perform command)).1 = .ok r →
        ∃ channel party signer hash signature,
          c.SignedIn net id candidate channel party signer hash signature ∧
          command.Yields (.dispute party id candidate proofs) signature r ∧
          (signer.address = channel.definition.user ↔ c.IsUser channel.definition.user) ∧
          ∀ form key parts, signer = .keyed form key → key.Signs hash parts →
            parts.recoveryId ≤ 1 →
            (verifySignature Ecdsa.secp256k1 hash signature channel.definition.user = true ↔
              c.IsUser channel.definition.user)) ∧
    (∀ (net : LocalNet) id candidate channel party signer hash,
      (net.answerView (.channelRecord id)).1 = .ok channel →
      c.challenger channel.definition.user = .ok party → net.signerOf party = some signer →
      challengeHash id candidate = .ok hash →
        (net.run (c.perform (.challengeSignature id candidate none))).1 =
          (signer.sign hash).mapError .signing) := by
  refine ⟨fun command id candidate proofs h es r t => ?_,
    fun net configuration client_eq command id candidate proofs h r ran => ?_,
    fun net id candidate channel party signer hash => c.run_challengeSignature⟩
  · obtain ⟨channel, party, hash, signature, disputed, yields⟩ := c.disputed_perform h t
    exact ⟨channel, party, hash, signature, disputed, yields,
      c.addressOf_challenger_iff disputed.challenger_eq⟩
  · obtain ⟨channel, party, hash, signature, disputed, yields⟩ :=
      c.disputed_perform h (ran ▸ net.transcript_run (c.perform command))
    obtain ⟨signer, signedIn⟩ := disputed.signedIn
    -- The net's signer has the address that the client knows of.
    have by_user : signer.address = channel.definition.user ↔
        c.IsUser channel.definition.user := by
      rw [← c.addressOf_challenger_iff disputed.challenger_eq, addressOf_eq client_eq,
        signedIn.signer_eq]
      exact Option.some_inj.symm
    refine ⟨channel, party, signer, hash, signature, signedIn, yields, by_user, ?_⟩
    rintro form key parts rfl signs recoveryId_le
    rw [(signedBy_of_sign signedIn.signature_eq signs recoveryId_le).2, ← by_user]
    exact eq_comm

/-- The account is the user and has a key. -/
theorem disputed_by_user_own :
    let key : SecretKey Ecdsa.secp256k1 := ⟨1, by decide, by decide⟩
    let channel : ChannelRecord :=
      ⟨.v1 ⟨3600, key.address, ⟨4⟩, 0, ⟨0⟩⟩, .active, Sample.state [], 0⟩
    let net : LocalNet := { Sample.net.setChannel ⟨9⟩ channel with own := .keyed .exact key }
    let c : Client := { Sample.client with account := key.address }
    let command := Command.challengeSignature ⟨9⟩ (Sample.state []) none
    ∃ hash signature, challengeHash ⟨9⟩ (Sample.state []) = .ok hash ∧
      (net.run (c.perform command)).1 = .ok signature ∧
      (∃ es party, (c.perform command).Transcript es (.ok signature) ∧
        c.addressOf party = some channel.definition.user) ∧
      verifySignature Ecdsa.secp256k1 hash signature channel.definition.user = true := by
  intro key channel net c command
  let hash : Hash := ⟨0x47ff7f17b3221abe8213d1b0406a1aa7eb8ee5e6632183e886106428fde18df7⟩
  let parts : RecoverableSignature :=
    { r := 109150315031985682945102140532691438322004976157231372930401793466579085001781
      s := 17794122934879142930267733864518172701988514632982467698424700822956765599072
      recoveryId := 1 }
  let owner : PublicKey :=
    { x := 55066263022277343669578718895168534326250603453777594175500187360389116729240
      y := 32670510020758816978083085130507043184471273380659243275938904335757337482424 }
  have hash_eq : challengeHash ⟨9⟩ (Sample.state []) = .ok hash := by decide +kernel
  have publicKey_eq : Ecdsa.publicKey 1 = some owner := by decide +kernel
  have signs : key.Signs hash parts :=
    Ecdsa.signs_of_recover (by decide +kernel) publicKey_eq (by decide +kernel)
  have challenger_eq : c.challenger key.address = .ok .own :=
    c.challenger_eq_ok_iff.2 (.inl ⟨rfl, rfl⟩)
  obtain ⟨transcribed, in_nets, succeeds⟩ := disputed_by_user c
  have signed : (net.run (c.perform command)).1 = .ok parts.toSignature := by
    rw [succeeds net ⟨9⟩ _ channel .own _ hash rfl challenger_eq rfl hash_eq]
    change (signHash key hash).mapError _ = _
    rw [signHash, signs.sign_eq]
    rfl
  refine ⟨hash, parts.toSignature, hash_eq, signed, ?_, ?_⟩
  · have t := net.transcript_run (c.perform command)
    rw [signed] at t
    obtain ⟨read, party, _, _, disputed, -, by_user⟩ := transcribed command ⟨9⟩ _ [] rfl _ _ t
    obtain ⟨signer, signedIn⟩ := disputed.signedIn
    obtain rfl : channel = read := Option.some.inj signedIn.channel_eq
    exact ⟨_, party, t, by_user.2 (.inl rfl)⟩
  · obtain ⟨read, party, signer, other, signature, signedIn, yields, -, verified⟩ :=
      in_nets net c.configuration rfl command ⟨9⟩ _ [] rfl _ signed
    obtain rfl : channel = read := Option.some.inj signedIn.channel_eq
    obtain rfl : .own = party := Except.ok.inj (challenger_eq.symm.trans signedIn.challenger_eq)
    obtain rfl : .keyed .exact key = signer := Option.some.inj signedIn.signer_eq
    obtain rfl : hash = other := Except.ok.inj (hash_eq.symm.trans signedIn.hash_eq)
    obtain rfl : signature = parts.toSignature := Artifact.signature.inj (yields _ rfl)
    exact (verified .exact key parts rfl signs (by decide)).2 (.inl rfl)

/-- An alternate signer that is not the user disputes all the same. -/
theorem disputed_by_user_other :
    let channel : ChannelRecord := ⟨.v1 ⟨3600, ⟨4⟩, ⟨5⟩, 0, ⟨0⟩⟩, .active, Sample.state [], 0⟩
    let net : LocalNet := { Sample.net.setChannel ⟨9⟩ channel with
      alternate := some (.scripted ⟨6⟩ (.ok ⟨[7]⟩)) }
    let c : Client := { Sample.client with alternate := some ⟨6⟩ }
    let run := net.run (c.perform (.challengeSignature ⟨9⟩ (Sample.state []) none))
    net.client c.configuration = .ok c ∧ net.channels.lookup ⟨9⟩ = some channel ∧
    run.1 = .ok ⟨[7]⟩ ∧ run.2.signingLog.map SigningRequest.signer = [.alternate] ∧
    c.addressOf .alternate ≠ some channel.definition.user := by
  exact ⟨rfl, rfl, rfl, rfl, by decide⟩

end Client

end PaymentChannel
