import PaymentChannel.Proofs.Client.Deposits
import PaymentChannel.Proofs.Net.Sending

/-!
# A deposit and a channel, at once or one after the other

Depositing funds and creating a channel can be done at once or in two steps, and the two ways ask
for the same in another order: at once, everything is prepared before anything is sent. That makes
no difference to what succeeds, as nothing but sending depends on what has been sent. If the channel
cannot be prepared, it is the difference: at once, nothing has been sent by then.
-/

namespace PaymentChannel

/-- The exchanges in which no call is sent. -/
def preparing (es : List Exchange) : List Exchange := es.filter fun x => !x.request.isSend

/-- The exchanges in which calls are sent. -/
def sending (es : List Exchange) : List Exchange := es.filter fun x => x.request.isSend

section Parts

variable {before sends : List Exchange}

/-- What is prepared comes before what is sent. -/
theorem preparing_append (unsent : ∀ x ∈ before, x.request.isSend = false)
    (sent : ∀ x ∈ sends, x.request.isSend = true) : preparing (before ++ sends) = before := by
  have first : before.filter (fun x => !x.request.isSend) = before :=
    List.filter_eq_self.2 fun x hx => by simp [unsent x hx]
  have second : sends.filter (fun x => !x.request.isSend) = [] :=
    List.filter_eq_nil_iff.2 fun x hx => by simp [sent x hx]
  rw [preparing, List.filter_append, first, second, List.append_nil]

/-- What is sent comes behind what is prepared. -/
theorem sending_append (unsent : ∀ x ∈ before, x.request.isSend = false)
    (sent : ∀ x ∈ sends, x.request.isSend = true) : sending (before ++ sends) = sends := by
  have first : before.filter (fun x => x.request.isSend) = [] :=
    List.filter_eq_nil_iff.2 fun x hx => by simp [unsent x hx]
  have second : sends.filter (fun x => x.request.isSend) = sends :=
    List.filter_eq_self.2 fun x hx => sent x hx
  rw [sending, List.filter_append, first, second, List.nil_append]

end Parts

namespace Client

open Operation

variable (c : Client) (node token : Address) (amount : UInt256) (o : Opening)

/-- Nothing is sent while deposits are prepared. -/
theorem unsent_depositCalls :
    (c.depositCalls node token amount).Ensures (fun r => r.isSend = false) fun _ => True :=
  c.ensures_depositCalls rfl rfl rfl

/-- Nothing is sent while a creation is prepared. -/
theorem unsent_creationCall :
    (c.creationCall o).Ensures (fun r => r.isSend = false) fun _ => True :=
  c.ensures_creationCall rfl (fun _ _ => rfl) fun _ _ _ _ => rfl

/-- To send calls asks for nothing else. -/
theorem sent_sendAll (calls : List Call) :
    (sendAll calls).Ensures (fun r => r.isSend = true) fun _ => True :=
  ensures_sendAll fun _ _ => rfl

/-! ## Transcripts -/

variable {es : List Exchange} {prepared : PreparedChannel}

/-- A deposit prepares its calls, and then sends all of them. -/
theorem transcript_deposit_ok {hashes : List Hash} :
    (c.deposit node token amount).Transcript es (.ok hashes) ↔
      ∃ before, ∃ done : List (Call × Hash), es = before ++ done.map .inclusion ∧
        (c.depositCalls node token amount).Transcript before (.ok (done.map Prod.fst)) ∧
        hashes = done.map Prod.snd := by
  rw [deposit, transcript_bind_ok]
  constructor
  · rintro ⟨before, after, calls, rfl, deposit, sent⟩
    obtain ⟨done, rfl, rfl, rfl⟩ := transcript_sendFrom_ok.1 sent
    exact ⟨before, done, rfl, deposit, rfl⟩
  · rintro ⟨before, done, rfl, deposit, rfl⟩
    exact ⟨before, _, _, rfl, deposit, transcript_sendFrom_ok.2 ⟨done, rfl, rfl, rfl⟩⟩

/-- A creation prepares its call, and then sends it. -/
theorem transcript_createChannel_ok {hash : Hash} :
    (c.createChannel o).Transcript es (.ok (prepared, hash)) ↔
      ∃ before call, es = before ++ [.inclusion (call, hash)] ∧
        (c.creationCall o).Transcript before (.ok (prepared, call)) := by
  rw [createChannel, transcript_bind_ok]
  constructor
  · rintro ⟨before, after, ⟨p, call⟩, rfl, creation, rest⟩
    obtain ⟨hash', sent, made⟩ := transcript_bind_pure_ok.1 rest
    cases made
    rw [transcript_sendOne_ok.1 sent]
    exact ⟨before, call, rfl, creation⟩
  · rintro ⟨before, call, rfl, creation⟩
    refine ⟨before, _, _, rfl, creation, ?_⟩
    exact transcript_bind_pure_ok.2 ⟨hash, transcript_sendOne_ok.2 rfl, rfl⟩

/-- The calls of the deposit are prepared before that of the creation. -/
theorem transcript_depositAndCreationCalls_ok {calls : List Call} :
    (c.depositAndCreationCalls node token amount o).Transcript es (.ok (prepared, calls)) ↔
      ∃ before after deposits creation, es = before ++ after ∧
        (c.depositCalls node token amount).Transcript before (.ok deposits) ∧
        (c.creationCall o).Transcript after (.ok (prepared, creation)) ∧
        calls = deposits ++ [creation] := by
  rw [depositAndCreationCalls, transcript_bind_ok]
  constructor
  · rintro ⟨before, after, deposits, rfl, deposit, rest⟩
    obtain ⟨⟨p, creation⟩, creates, made⟩ := transcript_bind_pure_ok.1 rest
    cases made
    exact ⟨before, after, deposits, creation, rfl, transcript_adapt_ok.1 deposit, creates, rfl⟩
  · rintro ⟨before, after, deposits, creation, rfl, deposit, creates, rfl⟩
    refine ⟨before, after, deposits, rfl, transcript_adapt_ok.2 deposit, ?_⟩
    exact transcript_bind_pure_ok.2 ⟨_, creates, rfl⟩

/-- The combination prepares all calls before it sends any. -/
theorem transcript_depositAndCreateChannel_ok {hashes : List Hash} :
    (c.depositAndCreateChannel node token amount o).Transcript es (.ok (prepared, hashes)) ↔
      ∃ before, ∃ done : List (Call × Hash), es = before ++ done.map .inclusion ∧
        (c.depositAndCreationCalls node token amount o).Transcript before
          (.ok (prepared, done.map Prod.fst)) ∧ hashes = done.map Prod.snd := by
  rw [depositAndCreateChannel, transcript_bind_ok]
  constructor
  · rintro ⟨before, after, ⟨p, calls⟩, rfl, prepares, rest⟩
    obtain ⟨hashes', sent, made⟩ := transcript_bind_pure_ok.1 rest
    cases made
    obtain ⟨done, rfl, rfl, rfl⟩ := transcript_sendFrom_ok.1 sent
    exact ⟨before, done, rfl, prepares, rfl⟩
  · rintro ⟨before, done, rfl, prepares, rfl⟩
    refine ⟨before, _, _, rfl, prepares, ?_⟩
    exact transcript_bind_pure_ok.2 ⟨_, transcript_sendFrom_ok.2 ⟨done, rfl, rfl, rfl⟩, rfl⟩

/-- What an operation asks that sends nothing, and what is sent after it, can be told apart. -/
theorem parts_of_ensures {α : Type} {op : Operation α} {Q : α → Prop}
    (quiet : op.Ensures (fun r => r.isSend = false) Q) {result : Except Error α}
    (t : op.Transcript es result) (done : List (Call × Hash)) :
    preparing (es ++ done.map .inclusion) = es ∧
      sending (es ++ done.map .inclusion) = done.map .inclusion := by
  have unsent := quiet.asks es result t
  have sent : ∀ x ∈ done.map Exchange.inclusion, x.request.isSend = true := by
    intro x hx
    obtain ⟨_, _, rfl⟩ := List.mem_map.1 hx
    rfl
  exact ⟨preparing_append unsent sent, sending_append unsent sent⟩

/-- The parts of the two steps, put together again. -/
theorem parts_of_steps {first second : List Exchange} {before : List (Call × Hash)}
    {creation : Call} (deposit : (c.depositCalls node token amount).Transcript first
      (.ok (before.map Prod.fst)))
    (creates : (c.creationCall o).Transcript second (.ok (prepared, creation))) (hash : Hash) :
    preparing (first ++ before.map .inclusion) ++
        preparing (second ++ [.inclusion (creation, hash)]) ++
        sending (first ++ before.map .inclusion) ++
        sending (second ++ [.inclusion (creation, hash)]) =
      first ++ second ++ (before ++ [(creation, hash)]).map .inclusion := by
  obtain ⟨preparing₁, sending₁⟩ :=
    parts_of_ensures (c.unsent_depositCalls node token amount) deposit before
  obtain ⟨preparing₂, sending₂⟩ :=
    parts_of_ensures (c.unsent_creationCall o) creates [(creation, hash)]
  rw [List.map_singleton] at preparing₂ sending₂
  rw [preparing₁, sending₁, preparing₂, sending₂, List.map_append, List.map_singleton,
    List.append_assoc]

/-- At once and in two steps, the same is asked, but at once everything is prepared first. -/
theorem transcript_combined_ok {hashes : List Hash} :
    (c.depositAndCreateChannel node token amount o).Transcript es (.ok (prepared, hashes)) ↔
      ∃ es₁ es₂ before hash, (c.deposit node token amount).Transcript es₁ (.ok before) ∧
        (c.createChannel o).Transcript es₂ (.ok (prepared, hash)) ∧
        es = preparing es₁ ++ preparing es₂ ++ sending es₁ ++ sending es₂ ∧
        hashes = before ++ [hash] := by
  rw [transcript_depositAndCreateChannel_ok]
  constructor
  · rintro ⟨_, done, rfl, prepares, rfl⟩
    obtain ⟨first, second, deposits, creation, rfl, deposit, creates, calls_eq⟩ :=
      (c.transcript_depositAndCreationCalls_ok node token amount o).1 prepares
    obtain ⟨before, last, rfl, rfl, last_eq⟩ := List.map_eq_append_iff.1 calls_eq
    obtain ⟨⟨creation, hash⟩, rfl, rfl⟩ := List.map_eq_singleton_iff.1 last_eq
    exact ⟨_, _, _, hash,
      (c.transcript_deposit_ok node token amount).2 ⟨first, before, rfl, deposit, rfl⟩,
      (c.transcript_createChannel_ok o).2 ⟨second, creation, rfl, creates⟩,
      (c.parts_of_steps node token amount o deposit creates hash).symm, List.map_append⟩
  · rintro ⟨_, _, _, hash, deposit, create, rfl, rfl⟩
    obtain ⟨first, before, rfl, prepares, rfl⟩ :=
      (c.transcript_deposit_ok node token amount).1 deposit
    obtain ⟨second, creation, rfl, creates⟩ := (c.transcript_createChannel_ok o).1 create
    refine ⟨first ++ second, before ++ [(creation, hash)],
      c.parts_of_steps node token amount o prepares creates hash, ?_, by rw [List.map_append]; rfl⟩
    exact (c.transcript_depositAndCreationCalls_ok node token amount o).2
      ⟨first, second, _, creation, rfl, prepares, creates, List.map_append⟩

/-- If the channel cannot be prepared after the deposit, it cannot be along with it either. -/
theorem transcript_combined_of_failed {es₁ es₂ : List Exchange} {hashes : List Hash} {e : Error}
    (deposit : (c.deposit node token amount).Transcript es₁ (.ok hashes))
    (failed : (c.creationCall o).Transcript es₂ (.error e)) :
    (c.createChannel o).Transcript es₂ (.error e) ∧
      (c.depositAndCreateChannel node token amount o).Transcript (preparing es₁ ++ es₂)
        (.error e) ∧ included (preparing es₁ ++ es₂) = [] ∧
      (c.depositCalls node token amount).Transcript (preparing es₁)
        (.ok (included (es₁ ++ es₂))) := by
  obtain ⟨first, done, rfl, prepares, rfl⟩ := (c.transcript_deposit_ok node token amount).1 deposit
  obtain ⟨preparing_eq, -⟩ :=
    parts_of_ensures (c.unsent_depositCalls node token amount) prepares done
  have included₁ := included_of_unsent ((c.unsent_depositCalls node token amount).asks _ _ prepares)
  have included₂ := included_of_unsent ((c.unsent_creationCall o).asks _ _ failed)
  rw [preparing_eq]
  refine ⟨transcript_bind.2 (.inl ⟨e, failed, rfl⟩), ?_, ?_, ?_⟩
  · refine transcript_bind.2 (.inl ⟨e, transcript_bind.2 (.inr
      ⟨first, es₂, _, rfl, transcript_adapt_ok.2 prepares, ?_⟩), rfl⟩)
    exact transcript_bind.2 (.inl ⟨e, failed, rfl⟩)
  · rw [included_append, included₁, included₂, List.nil_append]
  · rw [included_append, included_append, included₁, included₂, included_map_inclusion,
      List.nil_append, List.append_nil]
    exact prepares

/-! ## Nets -/

variable {net net' : LocalNet}

/-- In a net, a deposit prepares its calls, and then sends all of them. -/
theorem run_deposit_eq_ok_iff {hashes : List Hash} :
    net.run (c.deposit node token amount) = (.ok hashes, net') ↔ ∃ calls between,
      net.run (c.depositCalls node token amount) = (.ok calls, between) ∧
      between.Sends calls hashes net' :=
  LocalNet.run_bind_eq_ok_iff.trans <|
    exists_congr fun _ => exists_congr fun _ => and_congr_right' LocalNet.run_sendFrom_eq_ok_iff

/-- In a net, a creation prepares its call, and then sends it. -/
theorem run_createChannel_eq_ok_iff {prepared : PreparedChannel} {hash : Hash} :
    net.run (c.createChannel o) = (.ok (prepared, hash), net') ↔ ∃ call between,
      net.run (c.creationCall o) = (.ok (prepared, call), between) ∧
      between.answerSend call = (.ok hash, net') := by
  rw [createChannel, LocalNet.run_bind_eq_ok_iff]
  constructor
  · rintro ⟨⟨p, call⟩, between, creation, rest⟩
    obtain ⟨hash', sent, made⟩ := LocalNet.run_bind_pure_eq_ok_iff.1 rest
    cases made
    exact ⟨call, between, creation, LocalNet.run_sendOne_eq_ok_iff.1 sent⟩
  · rintro ⟨call, between, creation, sent⟩
    refine ⟨_, between, creation, ?_⟩
    exact LocalNet.run_bind_pure_eq_ok_iff.2 ⟨_, LocalNet.run_sendOne_eq_ok_iff.2 sent, rfl⟩

/-- In a net, the calls of the deposit are prepared before that of the creation. -/
theorem run_depositAndCreationCalls_eq_ok_iff {prepared : PreparedChannel} {calls : List Call} :
    net.run (c.depositAndCreationCalls node token amount o) = (.ok (prepared, calls), net') ↔
      ∃ deposits between creation, net.run (c.depositCalls node token amount) =
        (.ok deposits, between) ∧
        between.run (c.creationCall o) = (.ok (prepared, creation), net') ∧
        calls = deposits ++ [creation] := by
  rw [depositAndCreationCalls, LocalNet.run_bind_eq_ok_iff]
  constructor
  · rintro ⟨deposits, between, deposit, rest⟩
    obtain ⟨⟨p, creation⟩, creates, made⟩ := LocalNet.run_bind_pure_eq_ok_iff.1 rest
    cases made
    exact ⟨deposits, between, creation, LocalNet.run_adapt_eq_ok_iff.1 deposit, creates, rfl⟩
  · rintro ⟨deposits, between, creation, deposit, creates, rfl⟩
    refine ⟨deposits, between, LocalNet.run_adapt_eq_ok_iff.2 deposit, ?_⟩
    exact LocalNet.run_bind_pure_eq_ok_iff.2 ⟨_, creates, rfl⟩

/-- In a net, the combination prepares all calls before it sends any. -/
theorem run_depositAndCreateChannel_eq_ok_iff {prepared : PreparedChannel} {hashes : List Hash} :
    net.run (c.depositAndCreateChannel node token amount o) = (.ok (prepared, hashes), net') ↔
      ∃ calls between,
        net.run (c.depositAndCreationCalls node token amount o) = (.ok (prepared, calls), between) ∧
        between.Sends calls hashes net' := by
  rw [depositAndCreateChannel, LocalNet.run_bind_eq_ok_iff]
  constructor
  · rintro ⟨⟨p, calls⟩, between, prepares, rest⟩
    obtain ⟨hashes', sent, made⟩ := LocalNet.run_bind_pure_eq_ok_iff.1 rest
    cases made
    exact ⟨calls, between, prepares, LocalNet.run_sendFrom_eq_ok_iff.1 sent⟩
  · rintro ⟨calls, between, prepares, sent⟩
    refine ⟨_, between, prepares, ?_⟩
    exact LocalNet.run_bind_pure_eq_ok_iff.2 ⟨_, LocalNet.run_sendFrom_eq_ok_iff.2 sent, rfl⟩

/-- A channel is prepared in the same way before and after calls are sent. -/
theorem sends_comm_creationCall {calls : List Call} {hashes : List Hash}
    {result : Except Error (PreparedChannel × Call)} :
    (∃ between, net.Sends calls hashes between ∧
      between.run (c.creationCall o) = (result, net')) ↔
    ∃ between, net.run (c.creationCall o) = (result, between) ∧
      between.Sends calls hashes net' := by
  have independent := LocalNet.independent_run (sent_sendAll calls) (c.unsent_creationCall o)
  have sends_iff {net net' : LocalNet} :
      net.Sends calls hashes net' ↔ net.run (sendAll calls) = (.ok hashes, net') :=
    LocalNet.run_sendFrom_eq_ok_iff.symm
  simp only [sends_iff]
  exact independent.swap

/-- In a net, the combination goes through just if the two go through one after the other. -/
theorem run_combined_eq_ok_iff {prepared : PreparedChannel} {hashes : List Hash} :
    net.run (c.depositAndCreateChannel node token amount o) = (.ok (prepared, hashes), net') ↔
      ∃ before hash between, hashes = before ++ [hash] ∧
        net.run (c.deposit node token amount) = (.ok before, between) ∧
        between.run (c.createChannel o) = (.ok (prepared, hash), net') := by
  constructor
  · intro h
    obtain ⟨calls, after, prepares, sends⟩ :=
      (c.run_depositAndCreateChannel_eq_ok_iff node token amount o).1 h
    obtain ⟨deposits, start, creation, deposit, creates, rfl⟩ :=
      (c.run_depositAndCreationCalls_eq_ok_iff node token amount o).1 prepares
    obtain ⟨before, hash, last, rfl, sends, sent⟩ := LocalNet.sends_append_singleton_iff.1 sends
    -- Preparing the creation and sending the deposit can be swapped, since neither depends on the
    -- other.
    obtain ⟨between, sends, creates⟩ := (c.sends_comm_creationCall o).2 ⟨after, creates, sends⟩
    exact ⟨before, hash, between, rfl,
      (c.run_deposit_eq_ok_iff node token amount).2 ⟨deposits, start, deposit, sends⟩,
      (c.run_createChannel_eq_ok_iff o).2 ⟨creation, last, creates, sent⟩⟩
  · rintro ⟨before, hash, between, rfl, deposit, create⟩
    obtain ⟨deposits, start, deposit, sends⟩ :=
      (c.run_deposit_eq_ok_iff node token amount).1 deposit
    obtain ⟨creation, last, creates, sent⟩ := (c.run_createChannel_eq_ok_iff o).1 create
    obtain ⟨after, creates, sends⟩ := (c.sends_comm_creationCall o).1 ⟨between, sends, creates⟩
    refine (c.run_depositAndCreateChannel_eq_ok_iff node token amount o).2
      ⟨deposits ++ [creation], after, ?_, ?_⟩
    · exact (c.run_depositAndCreationCalls_eq_ok_iff node token amount o).2
        ⟨deposits, start, creation, deposit, creates, rfl⟩
    · exact LocalNet.sends_append_singleton_iff.2 ⟨before, hash, last, rfl, sends, sent⟩

/-- If the channel cannot be prepared after the deposit, it cannot be along with it either, for the
    same reason; but then, nothing is sent. -/
theorem run_combined_of_failed {before : List Hash} {between : LocalNet} {e : Error}
    (deposit : net.run (c.deposit node token amount) = (.ok before, between))
    (failed : between.run (c.creationCall o) = (.error e, net')) :
    ∃ deposits after, (net.run (c.depositCalls node token amount)).1 = .ok deposits ∧
      net.run (c.depositAndCreateChannel node token amount o) = (.error e, after) ∧
      after.sent = net.sent ∧
      between.run (c.createChannel o) = (.error e, after.setSent (net.sent ++ deposits)) := by
  obtain ⟨deposits, start, deposit, sends⟩ := (c.run_deposit_eq_ok_iff node token amount).1 deposit
  obtain ⟨after, creates, sends⟩ := (c.sends_comm_creationCall o).1 ⟨between, sends, failed⟩
  -- Up to the failure, everything has been prepared and nothing sent.
  have unsent : after.sent = net.sent := by
    have first := net.sent_run_of_ensures (c.unsent_depositCalls node token amount)
    have second := start.sent_run_of_ensures (c.unsent_creationCall o)
    rw [deposit] at first
    rw [creates] at second
    exact second.trans first
  refine ⟨deposits, after, by rw [deposit], ?_, unsent, ?_⟩
  · have deposit : net.run ((c.depositCalls node token amount).asCall "deposit"
        (depositContext node token amount)) = (.ok deposits, start) :=
      LocalNet.run_adapt_eq_ok_iff.2 deposit
    have prepares : net.run (c.depositAndCreationCalls node token amount o) = (.error e, after) :=
      (LocalNet.run_bind_of_ok deposit).trans (LocalNet.run_bind_of_error creates)
    exact LocalNet.run_bind_of_error prepares
  · rw [← unsent, ← sends.setSent_eq]
    exact LocalNet.run_bind_of_error failed

/-- Both ways agree. If everything can be prepared and sent, then depositing and creating a channel
    at once gives the same channel and the same hashes as one after the other, by the same
    exchanges, of which those that send come last; a net is the same afterwards, with all its logs.
    If the deposit is made and the channel cannot be prepared, both ways fail for the same reason;
    but at once, nothing has been sent by then, and otherwise the calls of the deposit have. -/
theorem depositAndCreateChannel_agrees :
    (∀ es prepared hashes,
      (c.depositAndCreateChannel node token amount o).Transcript es (.ok (prepared, hashes)) ↔
      ∃ es₁ es₂ before hash, (c.deposit node token amount).Transcript es₁ (.ok before) ∧
        (c.createChannel o).Transcript es₂ (.ok (prepared, hash)) ∧
        es = preparing es₁ ++ preparing es₂ ++ sending es₁ ++ sending es₂ ∧
        hashes = before ++ [hash]) ∧
    (∀ es₁ es₂ before e, (c.deposit node token amount).Transcript es₁ (.ok before) →
      (c.creationCall o).Transcript es₂ (.error e) →
      (c.createChannel o).Transcript es₂ (.error e) ∧
      (c.depositAndCreateChannel node token amount o).Transcript (preparing es₁ ++ es₂)
        (.error e) ∧ included (preparing es₁ ++ es₂) = [] ∧
      (c.depositCalls node token amount).Transcript (preparing es₁)
        (.ok (included (es₁ ++ es₂)))) ∧
    (∀ net net' : LocalNet, ∀ prepared hashes,
      net.run (c.depositAndCreateChannel node token amount o) = (.ok (prepared, hashes), net') ↔
      ∃ before hash between, hashes = before ++ [hash] ∧
        net.run (c.deposit node token amount) = (.ok before, between) ∧
        between.run (c.createChannel o) = (.ok (prepared, hash), net')) ∧
    ∀ net between net' : LocalNet, ∀ before e,
      net.run (c.deposit node token amount) = (.ok before, between) →
      between.run (c.creationCall o) = (.error e, net') →
      ∃ deposits after, (net.run (c.depositCalls node token amount)).1 = .ok deposits ∧
        net.run (c.depositAndCreateChannel node token amount o) = (.error e, after) ∧
        after.sent = net.sent ∧
        between.run (c.createChannel o) = (.error e, after.setSent (net.sent ++ deposits)) :=
  ⟨fun _ _ _ => c.transcript_combined_ok node token amount o,
    fun _ _ _ _ => c.transcript_combined_of_failed node token amount o,
    fun _ _ _ _ => c.run_combined_eq_ok_iff node token amount o,
    fun _ _ _ _ _ => c.run_combined_of_failed node token amount o⟩

/-- Everything is prepared and sent; and, once the deposit is, the channel cannot be prepared. -/
theorem depositAndCreateChannel_agrees_sample :
    let net : LocalNet := { Sample.net with failsAfter := none }
    let broken := net.fail .custody "createChannel"
    let deposit := Sample.client.deposit ⟨4⟩ ⟨3⟩ 5
    let create := Sample.client.createChannel Sample.opening
    let combined := Sample.client.depositAndCreateChannel ⟨4⟩ ⟨3⟩ 5 Sample.opening
    let between := (broken.run deposit).2
    (∃ es₁ es₂ before hash prepared, deposit.Transcript es₁ (.ok before) ∧
      create.Transcript es₂ (.ok (prepared, hash)) ∧
      combined.run.exchanges LocalNet.answer net =
        preparing es₁ ++ preparing es₂ ++ sending es₁ ++ sending es₂) ∧
    (∃ prepared before hash after net', net.run deposit = (.ok before, after) ∧
      LocalNet.run create after = (.ok (prepared, hash), net') ∧
      net.run combined = (.ok (prepared, before ++ [hash]), net')) ∧
    (∃ es e, combined.Transcript es (.error e) ∧ included es = []) ∧
    between.sent.map Call.operation = ["approve", "depositToVault"] ∧
    ∃ e after deposits, broken.run combined = (.error e, after) ∧ after.sent = [] ∧
      between.run create = (.error e, after.setSent deposits) := by
  intro net broken deposit create combined between
  obtain ⟨at_once, unsent, in_nets, in_broken⟩ :=
    depositAndCreateChannel_agrees Sample.client ⟨4⟩ ⟨3⟩ 5 Sample.opening
  have combined_ok : (net.run combined).1.isOk = true := by decide +kernel
  have deposit_ok : (broken.run deposit).1.isOk = true := by decide +kernel
  have sent_eq :
    between.sent.map Call.operation = ["approve", "depositToVault"] := by decide +kernel
  have creation_failed :
    (between.run (Sample.client.creationCall Sample.opening)).1.isOk = false := by decide +kernel
  have t := net.transcript_run combined
  have u := broken.transcript_run deposit
  have v := between.transcript_run (Sample.client.creationCall Sample.opening)
  rcases made : net.run combined with ⟨e | ⟨prepared, hashes⟩, net'⟩
  · rw [made] at combined_ok
    exact nomatch combined_ok
  rcases deposit_eq : broken.run deposit with ⟨e | before, after⟩
  · rw [deposit_eq] at deposit_ok
    exact nomatch deposit_ok
  rcases failed : between.run (Sample.client.creationCall Sample.opening) with ⟨e | r, net''⟩
  · rw [made] at t
    rw [deposit_eq] at u
    rw [failed] at v
    have between_eq : between = after := congrArg Prod.snd deposit_eq
    obtain ⟨es₁, es₂, first, hash, deposit_t, create_t, es_eq, -⟩ := (at_once _ _ _).1 t
    obtain ⟨first', hash', between', rfl, deposit_run, create_run⟩ := (in_nets _ _ _ _).1 made
    obtain ⟨-, combined_t, included_eq, -⟩ := unsent _ _ _ _ u v
    obtain ⟨deposits, last, -, combined_run, unsent_eq, create_failed⟩ :=
      in_broken _ _ _ _ _ deposit_eq (between_eq ▸ failed)
    refine ⟨⟨es₁, es₂, first, hash, prepared, deposit_t, create_t, es_eq⟩,
      ⟨prepared, first', hash', between', net', deposit_run, create_run, rfl⟩,
      ⟨_, e, combined_t, included_eq⟩, sent_eq, e, last, deposits, combined_run, unsent_eq, ?_⟩
    exact between_eq ▸ create_failed
  · rw [failed] at creation_failed
    exact nomatch creation_failed

end Client

end PaymentChannel
