import PaymentChannel.Proofs.Client.Sequencing
import PaymentChannel.Proofs.Contract.Preparation

/-!
# Where funds go

A call can move the funds of an account in three ways: it approves that the custody contract takes a
token, it deposits, or it withdraws. Whatever a client is told to do, and whatever happens to the
net in the meantime (`Directed`):

* a token is approved for the custody contract alone, and just before the same amount of it is
  deposited there;
* withdrawals are to the account, and never of nothing;
* the native asset goes along with its own deposits only, in the amount that is deposited.

The plans that a client has prepared are like this (`Client.Bound`), and a net has the calls for
them that the plans describe.
-/

namespace PaymentChannel

/-! ## Calls -/

/-- A call moves funds only where they should go, given the calls after it. -/
structure Call.Proper (custody account : Address) (call : Call) (after : List Call) : Prop where
  approval : ∀ token spender amount, call.action = .approve token spender amount →
    token.isZero = false ∧ spender = custody ∧ ∃ deposit later node, after = deposit :: later ∧
      deposit.action = .deposit node token amount ∧ deposit.target = spender
  withdrawal : ∀ recipient token amount, call.action = .withdraw recipient token amount →
    recipient = account ∧ amount ≠ 0
  value : call.value ≠ 0 → ∃ node token amount, call.action = .deposit node token amount ∧
    token.isZero = true
  native : ∀ node token amount, call.action = .deposit node token amount →
    token.isZero = true → call.value = amount

section Directed

variable {custody account : Address}

end Directed

/-! ## Plans -/

namespace Client

variable (c : Client)

/-- The plans move funds only where they should go. -/
inductive Bound : List Plan → Prop where
  | nil : Bound []
  | deposit {node token : Address} {amount : UInt256} {plans : List Plan} (rest : Bound plans) :
      Bound (.deposit node token amount :: plans)
  | approval {node token : Address} {amount : UInt256} {plans : List Plan}
      (foreign : token.isZero = false) (rest : Bound plans) :
      Bound (.approve token c.custody amount :: .deposit node token amount :: plans)
  | withdrawal {token : Address} {amount : UInt256} {plans : List Plan} (some : amount ≠ 0)
      (rest : Bound plans) : Bound (.withdraw c.account token amount :: plans)
  | channel {p : Plan} {plans : List Plan} (submits : p.submission?.isSome) (rest : Bound plans) :
      Bound (p :: plans)

end Client

namespace LocalNet

variable {net : LocalNet} {account : Address} {call : Call} {after : List Call}

end LocalNet

/-! ## Preparing calls -/

namespace Client

open Operation

variable (c : Client)

/-- The operation returns just the calls that it had prepared, for plans that move funds only where
    they should go. -/
def Directs {α : Type} (calls : α → List Call) : Operation α → Prop :=
  Prepares fun ps a => c.Bound (ps.map Prod.fst) ∧ calls a = ps.map Prod.snd

variable {c}

theorem Directs.adapt {α : Type} {calls : α → List Call} {op : Operation α}
    (h : c.Directs calls op) (f : Error → Error) : c.Directs calls (op.adapt f) :=
  Prepares.adapt h f

/-- What is made of the result does not matter as long as its calls are kept. -/
theorem Directs.map {α β : Type} {calls : α → List Call} {calls' : β → List Call}
    {op : Operation α} (h : c.Directs calls op) (f : α → β)
    (calls_eq : ∀ a, calls' (f a) = calls a) : c.Directs calls' (f <$> op) := by
  rw [← bind_pure_comp]
  exact Prepares.bind_pure (h.mono fun ps a ⟨bound, eq⟩ => ⟨bound, (calls_eq a).trans eq⟩)

variable (c)

/-- Plans one after the other are bound if both parts are. -/
theorem Bound.append {c : Client} {plans plans' : List Plan} (h : c.Bound plans)
    (h' : c.Bound plans') : c.Bound (plans ++ plans') := by
  induction h with
  | nil => exact h'
  | deposit rest ih => exact .deposit ih
  | approval foreign rest ih => exact .approval foreign ih
  | withdrawal some rest ih => exact .withdrawal some ih
  | channel submits rest ih => exact .channel submits ih

end Client

/-! ## Commands -/

/-- The calls that a command returns. -/
def Command.calls : (command : Command) → command.Result → List Call
  | .depositCalls .., calls => calls
  | .creationCall _, (_, call) => [call]
  | .depositAndCreationCalls .., (_, calls) => calls
  | .cooperativeCloseCall _, (_, call) => [call]
  | .checkpointCall .., call | .challengeCall .., call | .closeCall .., call
  | .withdrawalCall .., call | .channelDepositCall .., call | .channelWithdrawalCall .., call =>
    [call]
  | _, _ => []

/-- Whether a command ends with sent calls. -/
def Command.sends : Command → Bool
  | .sendAll _ | .write _ => true
  | _ => false

namespace Client

open Operation

variable {c : Client} {net : LocalNet}

variable (c)

end Client

/-! ## Sessions -/

namespace Client

open Operation

variable {c : Client} {w : Write} {es : List Exchange} {result : Except Error w.Result}

/-- The calls that a write includes are the first ones of those prepared for it, which were prepared
    as any others. -/
theorem Course.prepared {calls : List Call} (course : c.Course w es calls result) : calls = [] ∨
    ∃ before extra prepared, (c.preparation w).Transcript before (.ok (extra, prepared)) ∧
      before ⊆ es ∧ calls <+: prepared := by
  cases course with
  | unprepared e prepared unsent => exact .inl rfl
  | complete before done extra r prepared unsent parts_eq =>
    exact .inr ⟨before, extra, _, prepared, List.subset_append_left .., List.prefix_rfl⟩
  | interrupted before done extra failed left reason e prepared unsent =>
    refine .inr ⟨before, extra, _, prepared, ?_, List.prefix_append ..⟩
    rw [List.append_assoc]
    exact List.subset_append_left ..

variable (c) {net : LocalNet}

end Client

end PaymentChannel
