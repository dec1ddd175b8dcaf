import PaymentChannel.Client.Sending
import PaymentChannel.Proofs.Contract.Transcript

/-!
# Sending step by step

Whoever sends calls may answer each of them in the light of all that it was given to send before. A
`Sender` is just that: a function from those calls and the next one to an answer. Given several
calls, it gets them in order and once each, up to the first that it does not include, and how that
failed is reported as a step of the whole (`Call.reported`).

* `Sender.Outcome`: how sending several calls ends, and what the sender was given by then;
* `sendAll_eq_iff_outcome`: that is exactly how it ends, and sending a single call is no different
  but for the context in an error.
-/

namespace PaymentChannel

/-- How the failure of a call is reported that is one step of a sequence: an error from outside as
    that of a transaction, and everything else as it is. -/
def Call.reported (call : Call) (step total : Nat) : Error → Error
  | .external text =>
    .transaction call.operation (s!"step {step} of {total}: " ++ call.action.describe) text
  | e => e

theorem Call.asTransaction_eq_reported (call : Call) (step total : Nat) (e : Error) :
    e.asTransaction call.operation s!"step {step} of {total}: {call.action.describe}" =
      call.reported step total e := by
  cases e <;> rfl

/-- Errors that are the same, but for the context in which a transaction failed. -/
inductive Error.SameButContext : Error → Error → Prop where
  | same (e : Error) : SameButContext e e
  | transaction (operation context context' source : String) :
      SameButContext (.transaction operation context source)
        (.transaction operation context' source)

/-- A single call went as a list of one, but for the context in an error. -/
inductive SameDelivery : Except Error Hash → Except Error (List Hash) → Prop where
  | included (hash : Hash) : SameDelivery (.ok hash) (.ok [hash])
  | failed {e e' : Error} (h : e.SameButContext e') : SameDelivery (.error e) (.error e')

/-- Who sends calls. The answer to a call depends on it, and on all that was to be sent before. -/
abbrev Sender := List Call → Call → Except Error Hash

namespace Sender

variable (sender : Sender) (other : (r : Request) → r.Answer)

/-- Has calls sent by a sender, which keeps what it was given. All else is answered by `other`. -/
def answer : (r : Request) → StateM (List Call) r.Answer
  | .send call => fun given => (sender given call, given ++ [call])
  | r => fun given => (other r, given)

/-- Runs an operation, the calls of which are sent by a sender that was given others before. -/
def run {α : Type} (op : Operation α) (given : List Call) : Except Error α × List Call :=
  op.run.run (sender.answer other) given

/-- Calls are included one after the other, with these hashes. -/
inductive Includes : (given calls : List Call) → List Hash → Prop where
  | nil (given : List Call) : Includes given [] []
  | cons {given calls : List Call} {call : Call} {hash : Hash} {hashes : List Hash}
      (first : sender given call = .ok hash) (rest : Includes (given ++ [call]) calls hashes) :
      Includes given (call :: calls) (hash :: hashes)

/-- How sending calls ends that are the steps from `step` on of a sequence of `total`, and what the
    sender was given by then. -/
inductive Outcome (total step : Nat) (given calls : List Call) :
    Except Error (List Hash) → List Call → Prop where
  /-- All calls are included. -/
  | complete (hashes : List Hash) (includes : sender.Includes given calls hashes) :
      Outcome total step given calls (.ok hashes) (given ++ calls)
  /-- A call fails, and those that are left are not sent. -/
  | interrupted (done : List Call) (failed : Call) (left : List Call) (hashes : List Hash)
      (reason : Error) (calls_eq : calls = done ++ failed :: left)
      (includes : sender.Includes given done hashes)
      (failure : sender (given ++ done) failed = .error reason) :
      Outcome total step given calls (.error (failed.reported (step + done.length) total reason))
        (given ++ done ++ [failed])

variable {sender other} {given calls : List Call} {total step : Nat}

/-- A call that is included first adds its hash. -/
theorem Outcome.cons {call : Call} {hash : Hash} {result : Except Error (List Hash)}
    {after : List Call} (first : sender given call = .ok hash)
    (h : sender.Outcome total (step + 1) (given ++ [call]) calls result after) :
    sender.Outcome total step given (call :: calls) (result.map (hash :: ·)) after := by
  cases h with
  | complete hashes includes =>
    rw [← List.append_cons]
    exact .complete (hash :: hashes) (.cons first includes)
  | interrupted done failed left hashes reason calls_eq includes failure =>
    have last : sender.Outcome total step given (call :: calls)
        (.error (failed.reported (step + (call :: done).length) total reason))
        (given ++ call :: done ++ [failed]) :=
      .interrupted (call :: done) failed left (hash :: hashes) reason
        (congrArg (call :: ·) calls_eq) (.cons first includes) (by rwa [List.append_cons])
    rw [← List.append_cons]
    rwa [List.length_cons, Nat.add_comm done.length, ← Nat.add_assoc] at last

/-! ## Runs -/

theorem run_bind {α β : Type} (op : Operation α) (f : α → Operation β) :
    sender.run other (op >>= f) given = match sender.run other op given with
      | (.ok a, between) => sender.run other (f a) between
      | (.error e, between) => (.error e, between) := by
  refine (Operation.run_bind (sender.answer other) op f given).trans ?_
  unfold run
  rcases op.run.run (sender.answer other) given with ⟨e | a, between⟩ <;> rfl

theorem run_send_asTransaction {call : Call} {operation context : String} :
    sender.run other ((Operation.send call).asTransaction operation context) given =
      ((sender given call).mapError (Error.asTransaction operation context), given ++ [call]) :=
  Operation.run_adapt (sender.answer other) (.send call) _ given

/-- The first of several calls is sent. If it is included, the others are sent after it, and else
    they are left. -/
theorem run_sendFrom_cons (call : Call) :
    sender.run other (Client.sendFrom total step (call :: calls)) given =
      match sender given call with
      | .ok hash =>
        let later := sender.run other (Client.sendFrom total (step + 1) calls) (given ++ [call])
        (later.1.map (hash :: ·), later.2)
      | .error reason => (.error (call.reported step total reason), given ++ [call]) := by
  rw [Client.sendFrom, run_bind, run_send_asTransaction]
  cases sender given call with
  | error reason =>
    exact congrArg (fun e => (Except.error e, given ++ [call]))
      (call.asTransaction_eq_reported step total reason)
  | ok hash =>
    refine (run_bind (Client.sendFrom total (step + 1) calls) _).trans ?_
    rcases sender.run other (Client.sendFrom total (step + 1) calls) (given ++ [call]) with
      ⟨e | hashes, after⟩ <;> rfl

/-- However a sender answers, sending calls ends in one of these ways. -/
theorem outcome_sendFrom (total step : Nat) (given calls : List Call) :
    sender.Outcome total step given calls
      (sender.run other (Client.sendFrom total step calls) given).1
      (sender.run other (Client.sendFrom total step calls) given).2 := by
  -- What was given to the sender before is arbitrary, as each step adds to it.
  induction calls generalizing step given with
  | nil =>
    have last : sender.Outcome total step given [] (.ok []) (given ++ []) :=
      .complete [] (.nil given)
    rwa [List.append_nil] at last
  | cons call calls ih =>
    rw [run_sendFrom_cons]
    cases answer_eq : sender given call with
    | ok hash => exact (ih (step + 1) (given ++ [call])).cons answer_eq
    | error reason =>
      have failure : sender (given ++ []) call = .error reason := by
        rw [List.append_nil, answer_eq]
      have last : sender.Outcome total step given (call :: calls)
          (.error (call.reported step total reason)) (given ++ [] ++ [call]) :=
        .interrupted [] call calls [] reason rfl (.nil given) failure
      rwa [List.append_nil] at last

/-- What is sent after calls that are included. -/
theorem Includes.run_sendFrom_append {done : List Call} {hashes : List Hash}
    (h : sender.Includes given done hashes) (calls : List Call) :
    sender.run other (Client.sendFrom total step (done ++ calls)) given =
      let later := sender.run other (Client.sendFrom total (step + done.length) calls)
        (given ++ done)
      (later.1.map (hashes ++ ·), later.2) := by
  induction h generalizing step with
  | nil given =>
    rw [List.append_nil]
    change _ = (Except.map id _, _)
    rw [Except.map_id]
    rfl
  | @cons given done call hash hashes first rest ih =>
    rw [List.cons_append, run_sendFrom_cons, first, ih, List.append_cons given call done,
      List.length_cons, Nat.add_comm done.length, ← Nat.add_assoc]
    rcases sender.run other (Client.sendFrom total (step + 1 + done.length) calls)
      (given ++ [call] ++ done) with ⟨e | later, after⟩ <;> rfl

/-- The ways in which it can end exclude each other. -/
theorem Outcome.run_eq {result : Except Error (List Hash)} {after : List Call}
    (h : sender.Outcome total step given calls result after) :
    sender.run other (Client.sendFrom total step calls) given = (result, after) := by
  cases h with
  | complete hashes includes =>
    have run_eq : sender.run other (Client.sendFrom total step (calls ++ [])) given =
        (.ok (hashes ++ []), given ++ calls) := includes.run_sendFrom_append []
    rwa [List.append_nil, List.append_nil] at run_eq
  | interrupted done failed left hashes reason calls_eq includes failure =>
    rw [calls_eq, includes.run_sendFrom_append, run_sendFrom_cons, failure]
    rfl

end Sender

/-- How sending calls ends, whoever sends them: there is exactly one way, and it is the one that
    comes about. A single call is sent no differently, but that an error has another context. -/
theorem sendAll_eq_iff_outcome (sender : Sender) (other : (r : Request) → r.Answer)
    (given : List Call) :
    (∀ calls result after,
      sender.run other (Client.sendAll calls) given = (result, after) ↔
        sender.Outcome calls.length 1 given calls result after) ∧
    (∀ call,
      (sender.run other (Client.sendOne call) given).2 =
        (sender.run other (Client.sendAll [call]) given).2 ∧
      SameDelivery (sender.run other (Client.sendOne call) given).1
        (sender.run other (Client.sendAll [call]) given).1) := by
  refine ⟨fun calls result after => ⟨?_, Sender.Outcome.run_eq⟩, fun call => ?_⟩
  · intro run_eq
    have outcome : sender.Outcome calls.length 1 given calls
        (sender.run other (Client.sendAll calls) given).1
        (sender.run other (Client.sendAll calls) given).2 :=
      Sender.outcome_sendFrom calls.length 1 given calls
    rwa [run_eq] at outcome
  · rw [Client.sendOne, Sender.run_send_asTransaction, Client.sendAll, Sender.run_sendFrom_cons]
    cases sender given call with
    | ok hash => exact ⟨rfl, .included hash⟩
    | error reason =>
      refine ⟨rfl, .failed ?_⟩
      cases reason with
      | external text => exact .transaction _ _ _ _
      | _ => exact .same _

end PaymentChannel
