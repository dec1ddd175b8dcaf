import PaymentChannel.Proofs.Client.Sequencing

/-!
# Starting over

Depositing funds and creating a channel takes several calls, and if one of them cannot be sent,
those before it stay (`DepositAndCreation.deposited_before`). Whoever starts over reads the
allowance again, and nothing else (`Client.reads_depositAndCreateChannel`). So a deposit that has
been included is made once more if what could not be sent is the creation of the channel, and only
then.

That calls deposit anything at all is up to the contracts that prepare them. All that is assumed of
these is that a call does what its plan says (`Faithful`), as it does in a net
(`LocalNet.faithful_run`).
-/

namespace PaymentChannel

/-- What a plan can be made into. The id of a new channel is known to the contract only. -/
def Plan.Allows : Plan → Action → Prop
  | approve token spender amount, action => action = .approve token spender amount
  | deposit node token amount, action => action = .deposit node token amount
  | withdraw recipient token amount, action => action = .withdraw recipient token amount
  | createChannel .., action => ∃ id, action = .createChannel id
  | checkpoint id .., action => action = .checkpoint id
  | challenge id .., action => action = .challenge id
  | close id .., action => action = .close id
  | depositToChannel id _, action => action = .depositToChannel id
  | withdrawFromChannel id _, action => action = .withdrawFromChannel id

/-- All calls that were prepared do what their plans say. -/
def Faithful (es : List Exchange) : Prop :=
  ∀ p call, ⟨.prepare p, .ok call⟩ ∈ es → p.Allows call.action

/-- The call of a plan does what the plan allows. -/
theorem LocalNet.allows_of_callOf {net : LocalNet} {p : Plan} {call : Call}
    (h : net.callOf p = .ok call) : p.Allows call.action := by
  cases p with
  | createChannel d s =>
    rw [callOf, channelId_eq] at h
    cases h
    exact ⟨_, rfl⟩
  | _ =>
    cases h
    rfl

/-- A net prepares what plans allow. -/
theorem LocalNet.faithful_run {α : Type} (net : LocalNet) (op : Operation α) :
    Faithful (op.run.exchanges answer net) :=
  fun _ _ h => allows_of_callOf (net.prepared_run op h)

/-! ## What is deposited -/

/-- What an action deposits. -/
def Action.deposited : Action → Nat
  | deposit _ _ amount => amount.toNat
  | _ => 0

/-- What calls deposit together. -/
def deposited : List Call → Nat
  | [] => 0
  | call :: calls => call.action.deposited + deposited calls

/-- Deposits add up. -/
theorem deposited_append (calls more : List Call) :
    deposited (calls ++ more) = deposited calls + deposited more := by
  induction calls with
  | nil => exact (Nat.zero_add _).symm
  | cons call calls ih => rw [List.cons_append, deposited, deposited, ih, Nat.add_assoc]

/-- The call that could not be sent. -/
def Exchange.unsent? : Exchange → Option Call
  | ⟨.send call, .error _⟩ => some call
  | _ => none

/-- The call that could not be sent, if that was the end. -/
def interruptedBy? (es : List Exchange) : Option Call := es.getLast?.bind Exchange.unsent?

/-- The call that interrupts a sequence is the last one that is sent. -/
theorem exists_of_interruptedBy?_eq {es : List Exchange} {failed : Call}
    (h : interruptedBy? es = some failed) :
    ∃ before reason, es = before ++ [⟨.send failed, .error reason⟩] := by
  obtain ⟨⟨r, answer⟩, last, unsent⟩ := Option.bind_eq_some_iff.1 h
  obtain ⟨before, rfl⟩ := List.getLast?_eq_some_iff.1 last
  cases r with
  | send call =>
    cases answer with
    | ok hash => exact nomatch unsent
    | error reason =>
      cases unsent
      exact ⟨before, reason, rfl⟩
  | _ => exact nomatch unsent

/-- A call approves an amount. -/
def Call.IsApproval (call : Call) : Prop :=
  ∃ token spender amount, call.action = .approve token spender amount

/-- Approvals deposit nothing. -/
theorem deposited_of_approvals {calls : List Call} (h : ∀ call ∈ calls, call.IsApproval) :
    deposited calls = 0 := by
  induction calls with
  | nil => rfl
  | cons call calls ih =>
    obtain ⟨token, spender, amount, action_eq⟩ := h call List.mem_cons_self
    rw [deposited, action_eq, ih fun other hother => h other (List.mem_cons_of_mem _ hother)]
    rfl

/-- The calls deposit an amount and create a channel, in this order, after they approve the amount
    if it has to be. -/
inductive DepositAndCreation (node token : Address) (amount : UInt256) (calls : List Call) :
    Prop where
  | mk (approval : List Call) (deposit creation : Call) (id : ChannelId)
      (calls_eq : calls = approval ++ [deposit, creation])
      (approvals : ∀ call ∈ approval, call.IsApproval)
      (deposit_eq : deposit.action = .deposit node token amount)
      (creation_eq : creation.action = .createChannel id)

namespace DepositAndCreation

variable {node token : Address} {amount : UInt256}

/-- A deposit with a creation deposits the amount once. -/
theorem deposited_eq {calls : List Call} (h : DepositAndCreation node token amount calls) :
    deposited calls = amount.toNat := by
  obtain ⟨approval, deposit, creation, id, rfl, approvals, deposit_eq, creation_eq⟩ := h
  rw [deposited_append, deposited_of_approvals approvals]
  simp [deposited, deposit_eq, creation_eq, Action.deposited]

/-- Only before the creation of the channel has the amount been deposited. -/
theorem deposited_before {done left : List Call} {failed : Call}
    (h : DepositAndCreation node token amount (done ++ failed :: left)) :
    deposited done = if failed.operation = "createChannel" then amount.toNat else 0 := by
  obtain ⟨approval, deposit, creation, id, calls_eq, approvals, deposit_eq, creation_eq⟩ := h
  have not_creation {call : Call} (h : call.IsApproval) : call.operation ≠ "createChannel" := by
    obtain ⟨token, spender, amount, action_eq⟩ := h
    simp [Call.operation, action_eq, Action.operation]
  have deposit_operation : deposit.operation ≠ "createChannel" := by
    simp [Call.operation, deposit_eq, Action.operation]
  have creation_operation : creation.operation = "createChannel" := by
    simp [Call.operation, creation_eq, Action.operation]
  -- The call that fails is an approval, the deposit or the creation.
  rcases List.append_eq_append_iff.1 calls_eq with ⟨rest, approval_eq, tail_eq⟩ |
    ⟨rest, rfl, tail_eq⟩
  · subst approval_eq
    have approved : deposited done = 0 :=
      deposited_of_approvals fun call hcall => approvals call (List.mem_append_left _ hcall)
    cases rest with
    | nil =>
      cases tail_eq
      rw [if_neg deposit_operation, approved]
    | cons first rest =>
      cases tail_eq
      rw [if_neg (not_creation (approvals failed (by simp))), approved]
  · rcases rest with _ | ⟨first, _ | ⟨second, rest⟩⟩
    · cases tail_eq
      rw [if_neg deposit_operation, List.append_nil, deposited_of_approvals approvals]
    · cases tail_eq
      rw [if_pos creation_operation, deposited_append, deposited_of_approvals approvals]
      simp [deposited, deposit_eq, Action.deposited]
    · simp at tail_eq

end DepositAndCreation

namespace Operation

variable {α β : Type} {Q : α → Prop} {R : β → Prop}

/-- If all calls do what their plans say, what is returned satisfies `Q`. -/
def Makes (Q : α → Prop) (op : Operation α) : Prop :=
  ∀ es a, op.Transcript es (.ok a) → Faithful es → Q a

namespace Makes

/-- What asks for nothing makes its result. -/
protected theorem pure {a : α} (h : Q a) : Makes Q (pure a) := by
  intro es b t _
  obtain ⟨-, hb⟩ := transcript_pure.1 t
  cases hb
  exact h

/-- Any operation makes something. -/
protected theorem trivial {op : Operation α} : Makes (fun _ => True) op := fun _ _ _ _ => trivial

/-- Operations one after the other make what is asked of the last one. -/
protected theorem bind {op : Operation α} {f : α → Operation β} (hop : Makes Q op)
    (hf : ∀ a, Q a → Makes R (f a)) : Makes R (op >>= f) := by
  intro es b t faithful
  rcases transcript_bind.1 t with ⟨e, -, h⟩ | ⟨before, after, a, rfl, first, second⟩
  · exact nomatch h
  · have q := hop before a first fun p call h => faithful p call (List.mem_append_left _ h)
    exact hf a q after b second fun p call h => faithful p call (List.mem_append_right _ h)

/-- Errors that are put in other words do not change what is made. -/
protected theorem adapt {op : Operation α} (hop : Makes Q op) (f : Error → Error) :
    Makes Q (op.adapt f) := by
  intro es a t faithful
  obtain ⟨r | b, first, h⟩ := transcript_adapt.1 t
  · exact nomatch h
  · cases h
    exact hop es a first faithful

/-- A prepared call does what its plan allows. -/
protected theorem prepare (p : Plan) : Makes (fun call => p.Allows call.action) (prepare p) := by
  intro es call t faithful
  obtain rfl := transcript_prepare.1 t
  exact faithful p call (List.mem_singleton_self _)

end Makes

end Operation

namespace Client

open Operation

variable (c : Client) (node token : Address) (amount : UInt256) (o : Opening)

/-- Approvals are all that is prepared before a deposit. -/
theorem makes_approvalCalls (context : String) :
    (c.approvalCalls token amount context).Makes fun calls => ∀ call ∈ calls, call.IsApproval := by
  unfold approvalCalls
  by_cases native : token.isZero
  · rw [if_pos native]
    exact .pure (List.forall_mem_nil _)
  · rw [if_neg native]
    refine Makes.trivial.bind fun (allowed : UInt256) _ => ?_
    by_cases low : allowed < amount
    · rw [if_pos low]
      refine ((Makes.prepare _).adapt _).bind fun call action_eq => .pure ?_
      exact List.forall_mem_singleton.2 ⟨token, c.custody, amount, action_eq⟩
    · rw [if_neg low]
      exact .pure (List.forall_mem_nil _)

/-- A deposit with a creation is made up of approvals, one deposit and one creation. -/
theorem makes_depositAndCreationCalls :
    (c.depositAndCreationCalls node token amount o).Makes fun r =>
      DepositAndCreation node token amount r.2 := by
  have deposits : (c.depositCalls node token amount).Makes fun calls =>
      ∃ approval deposit, calls = approval ++ [deposit] ∧ (∀ call ∈ approval, call.IsApproval) ∧
        deposit.action = .deposit node token amount := by
    refine (c.makes_approvalCalls token amount _).bind fun approval approvals => ?_
    refine ((Makes.prepare _).adapt _).bind fun call action_eq => .pure ?_
    exact ⟨approval, call, rfl, approvals, action_eq⟩
  have creates : (c.creationCall o).Makes fun r => ∃ id, r.2.action = .createChannel id := by
    refine Makes.trivial.bind fun prepared _ => ?_
    exact ((Makes.prepare _).adapt _).bind fun call action_eq => .pure action_eq
  refine (deposits.adapt _).bind fun calls made => ?_
  refine creates.bind fun (prepared, creation) ⟨id, creation_eq⟩ => .pure ?_
  obtain ⟨approval, deposit, rfl, approvals, deposit_eq⟩ := made
  exact ⟨approval, deposit, creation, id, List.append_assoc _ _ _, approvals, deposit_eq,
    creation_eq⟩

/-- All that is read on the way is what the custody contract may take. -/
theorem reads_depositAndCreateChannel :
    (c.depositAndCreateChannel node token amount o).Ensures
      (fun r => ∀ v, r = .view v → v = .allowance token c.account c.custody) fun _ => True := by
  have prepares : (c.depositAndCreationCalls node token amount o).Ensures
      (fun r => ∀ v, r = .view v → v = .allowance token c.account c.custody) fun _ => True :=
    c.ensures_depositAndCreationCalls (fun v h => (Request.view.inj h).symm) nofun nofun nofun
      (fun _ _ => nofun) fun _ _ _ _ => nofun
  refine prepares.bind fun (prepared, calls) _ => ?_
  exact (ensures_sendAll fun _ _ => nofun).bind fun hashes _ => .pure trivial

/-- Of an attempt that ends because a call cannot be sent, the deposit is included if that is the
    creation of the channel. -/
theorem deposited_interrupted {es : List Exchange} {failed : Call} {e : Error}
    (t : (c.depositAndCreateChannel node token amount o).Transcript es (.error e))
    (interrupted : interruptedBy? es = some failed) (faithful : Faithful es) :
    deposited (included es) =
      if failed.operation = "createChannel" then amount.toNat else 0 := by
  obtain ⟨sent, reason, es_eq⟩ := exists_of_interruptedBy?_eq interrupted
  have course : c.Course (.depositAndCreateChannel node token amount o) es (included es)
      (.error e) := c.course_carryOut _ t
  generalize included es = calls at course ⊢
  -- The calls had been prepared, as the last exchange is the sending that failed.
  cases course with
  | unprepared _ _ prepared unsent =>
    have last : (⟨.send failed, .error reason⟩ : Exchange) ∈ es := by simp [es_eq]
    exact nomatch unsent _ last
  | interrupted before done extra failed' left reason' _ prepared unsent =>
    obtain ⟨-, last_eq⟩ := List.append_inj' es_eq rfl
    cases last_eq
    have made := c.makes_depositAndCreationCalls node token amount o before _ prepared ?_
    · exact made.deposited_before
    · rw [List.append_assoc] at faithful
      exact fun p call h => faithful p call (List.mem_append_left _ h)

/-- In an attempt that succeeds, the amount is deposited. -/
theorem deposited_complete {es : List Exchange} {r : PreparedChannel × List Hash}
    (t : (c.depositAndCreateChannel node token amount o).Transcript es (.ok r))
    (faithful : Faithful es) : deposited (included es) = amount.toNat := by
  have course : c.Course (.depositAndCreateChannel node token amount o) es (included es) (.ok r) :=
    c.course_carryOut _ t
  generalize included es = calls at course ⊢
  cases course with
  | complete before done extra _ prepared unsent parts_eq =>
    -- All calls that were prepared are included, the deposit among them.
    refine (c.makes_depositAndCreationCalls node token amount o before _ prepared ?_).deposited_eq
    exact fun p call h => faithful p call (List.mem_append_left _ h)

/-- What starting over amounts to. If a call cannot be sent, and a second attempt succeeds, the
    amount has been deposited twice if it was the creation of the channel that could not be sent,
    and else once, whatever the allowance is by then. All that either attempt reads is the
    allowance. -/
theorem deposited_retry :
    (∀ es result, (c.depositAndCreateChannel node token amount o).Transcript es result →
      ∀ x ∈ es, ∀ v, x.request = .view v → v = .allowance token c.account c.custody) ∧
    (∀ es₁ es₂ failed e r, Faithful es₁ → Faithful es₂ →
      (c.depositAndCreateChannel node token amount o).Transcript es₁ (.error e) →
      interruptedBy? es₁ = some failed →
      (c.depositAndCreateChannel node token amount o).Transcript es₂ (.ok r) →
      deposited (included es₁) + deposited (included es₂) =
        if failed.operation = "createChannel" then 2 * amount.toNat else amount.toNat) ∧
    ∀ (net₁ net₂ : LocalNet) failed e r,
      (LocalNet.run (c.depositAndCreateChannel node token amount o) net₁).1 = .error e →
      interruptedBy? ((c.depositAndCreateChannel node token amount o).run.exchanges
        LocalNet.answer net₁) = some failed →
      (LocalNet.run (c.depositAndCreateChannel node token amount o) net₂).1 = .ok r →
      ∃ sent₁ sent₂,
        (LocalNet.run (c.depositAndCreateChannel node token amount o) net₁).2.sent =
          net₁.sent ++ sent₁ ∧
        (LocalNet.run (c.depositAndCreateChannel node token amount o) net₂).2.sent =
          net₂.sent ++ sent₂ ∧
        deposited sent₁ + deposited sent₂ =
          if failed.operation = "createChannel" then 2 * amount.toNat else amount.toNat := by
  let attempt := c.depositAndCreateChannel node token amount o
  have both {es₁ es₂ : List Exchange} {failed : Call} {e : Error}
      {r : PreparedChannel × List Hash} (faithful₁ : Faithful es₁) (faithful₂ : Faithful es₂)
      (first : attempt.Transcript es₁ (.error e)) (interrupted : interruptedBy? es₁ = some failed)
      (second : attempt.Transcript es₂ (.ok r)) :
      deposited (included es₁) + deposited (included es₂) =
        if failed.operation = "createChannel" then 2 * amount.toNat else amount.toNat := by
    rw [c.deposited_interrupted node token amount o first interrupted faithful₁,
      c.deposited_complete node token amount o second faithful₂]
    by_cases creation : failed.operation = "createChannel"
    · rw [if_pos creation, if_pos creation, Nat.two_mul]
    · rw [if_neg creation, if_neg creation, Nat.zero_add]
  refine ⟨(c.reads_depositAndCreateChannel node token amount o).asks,
    fun es₁ es₂ failed e r faithful₁ faithful₂ => both faithful₁ faithful₂,
    fun net₁ net₂ failed e r failed_eq interrupted ok_eq => ?_⟩
  have first : attempt.Transcript _ (LocalNet.run attempt net₁).1 :=
    Flow.transcript_exchanges LocalNet.answer attempt.run net₁
  have second : attempt.Transcript _ (LocalNet.run attempt net₂).1 :=
    Flow.transcript_exchanges LocalNet.answer attempt.run net₂
  rw [failed_eq] at first
  rw [ok_eq] at second
  -- In a net, all calls do what their plans say.
  exact ⟨_, _, net₁.sent_run attempt, net₂.sent_run attempt,
    both (net₁.faithful_run attempt) (net₂.faithful_run attempt) first interrupted second⟩

end Client

/-! ## An attempt and another one -/

namespace Sample

/-- Deposits 5 and opens the channel. -/
def attempt : Operation (PreparedChannel × List Hash) :=
  client.depositAndCreateChannel ⟨4⟩ ⟨3⟩ 5 opening

end Sample

namespace Client

/-- The deposit cannot be sent, and so is made only in the second attempt. -/
theorem deposited_retry_deposit :
    let net : LocalNet := { (LocalNet.run Sample.attempt Sample.net).2 with failsAfter := none }
    (LocalNet.run Sample.attempt Sample.net).1.isOk = false ∧
    (LocalNet.run Sample.attempt net).1.isOk = true ∧
    ∃ sent₁ sent₂, (LocalNet.run Sample.attempt Sample.net).2.sent = Sample.net.sent ++ sent₁ ∧
      (LocalNet.run Sample.attempt net).2.sent = net.sent ++ sent₂ ∧
      deposited sent₁ + deposited sent₂ = 5 := by
  intro net
  have failed : (LocalNet.run Sample.attempt Sample.net).1.isOk = false := by decide +kernel
  have ok : (LocalNet.run Sample.attempt net).1.isOk = true := by decide +kernel
  have interrupted : interruptedBy? (Sample.attempt.run.exchanges LocalNet.answer Sample.net) =
      some ⟨.deposit ⟨4⟩ ⟨3⟩ 5, ⟨1⟩, [], 0⟩ := by decide +kernel
  obtain ⟨-, -, in_nets⟩ := deposited_retry Sample.client ⟨4⟩ ⟨3⟩ 5 Sample.opening
  rw [← Sample.attempt] at in_nets
  refine ⟨failed, ok, ?_⟩
  cases failed_eq : (LocalNet.run Sample.attempt Sample.net).1 with
  | ok r => exact nomatch failed_eq ▸ failed
  | error e =>
    cases ok_eq : (LocalNet.run Sample.attempt net).1 with
    | error e => exact nomatch ok_eq ▸ ok
    | ok r => exact in_nets Sample.net net _ e r failed_eq interrupted ok_eq

/-- The creation of the channel cannot be sent. By the second attempt, the deposit has used up the
    allowance and is in the vault, and still it is made again. -/
theorem deposited_retry_creation :
    let interrupted := LocalNet.run Sample.attempt { Sample.net with failsAfter := some 2 }
    let net : LocalNet := { interrupted.2 with failsAfter := none }
    let later := LocalNet.run Sample.attempt ((net.setAllowance 0).setVaultBalance ⟨2⟩ ⟨3⟩ 5)
    interrupted.1.isOk = false ∧
    interrupted.2.sent.map Call.operation = ["approve", "depositToVault"] ∧
    later.1.isOk = true ∧ deposited later.2.sent = 10 := by
  decide +kernel

end Client

end PaymentChannel
