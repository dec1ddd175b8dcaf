import PaymentChannel.Contract.Request

/-!
# Flows

What an operation does is a tree: it is done, or it asks and goes on with the answer. Such a `Flow`
makes no assumption about who answers; `Flow.run` has it answered by anything that keeps a state.
An `Operation` is a flow that may end in an error.
-/

namespace PaymentChannel

/-- A computation that asks for things and goes on with the answers. -/
inductive Flow (α : Type) where
  | done (a : α)
  | ask (r : Request) (next : r.Answer → Flow α)

namespace Flow

variable {α β σ : Type}

/-- Goes on with the result of a flow. -/
def bind : Flow α → (α → Flow β) → Flow β
  | done a, f => f a
  | ask r next, f => ask r fun answer => (next answer).bind f

instance : Monad Flow where
  pure := done
  bind := bind

/-- Asks, and is done with the answer. -/
def perform (r : Request) : Flow r.Answer := ask r done

/-- Has a flow answered, by something that keeps a state. -/
def run (answer : (r : Request) → StateM σ r.Answer) : Flow α → StateM σ α
  | done a => pure a
  | ask r next => fun s =>
    let (a, s) := answer r s
    run answer (next a) s

theorem bind_done (x : Flow α) : x.bind done = x := by
  induction x with
  | done a => rfl
  | ask r next ih => simp only [bind, ih]

theorem bind_bind {γ : Type} (x : Flow α) (f : α → Flow β) (g : β → Flow γ) :
    (x.bind f).bind g = x.bind fun a => (f a).bind g := by
  induction x with
  | done a => rfl
  | ask r next ih => simp only [bind, ih]

instance : LawfulMonad Flow := LawfulMonad.mk' Flow bind_done (fun _ _ => rfl) bind_bind

@[simp] theorem run_pure (answer : (r : Request) → StateM σ r.Answer) (a : α) :
    (pure a : Flow α).run answer = pure a := rfl

@[simp] theorem run_perform (answer : (r : Request) → StateM σ r.Answer) (r : Request) :
    (perform r).run answer = answer r := rfl

/-- Flows that follow each other are answered one after the other. -/
@[simp] theorem run_bind (answer : (r : Request) → StateM σ r.Answer) (x : Flow α)
    (f : α → Flow β) : (x >>= f).run answer = x.run answer >>= fun a => (f a).run answer := by
  change (x.bind f).run answer = _
  induction x with
  | done a => rfl
  | ask r next ih =>
    funext s
    exact congrFun (ih (answer r s).1) (answer r s).2

end Flow

/-- A flow that may end in an error. -/
abbrev Operation := ExceptT Error Flow

namespace Operation

variable {α : Type}

/-- Reads from a contract. -/
def view (v : View) : Operation v.Answer := ExceptT.mk (Flow.perform (.view v))

/-- Has a call prepared. -/
def prepare (p : Plan) : Operation Call := ExceptT.mk (Flow.perform (.prepare p))

/-- Sends a call. -/
def send (c : Call) : Operation Hash := ExceptT.mk (Flow.perform (.send c))

/-- Draws a nonce. -/
def nonce (opener : Address) : Operation UInt64 := ExceptT.lift (Flow.perform (.nonce opener))

/-- Has a signer sign. -/
def sign (flow : Flow (Except SignError Signature)) : Operation Signature :=
  ExceptT.adapt Error.signing (ExceptT.mk flow)

/-- Goes on with a result that is there already. -/
def ofExcept (result : Except Error α) : Operation α := ExceptT.mk (Flow.done result)

/-- Goes on with an encoding. -/
def ofEncoding (result : Except Abi.Error α) : Operation α :=
  ofExcept (result.mapError Error.encoding)

/-- Classifies errors from outside as failed readings. -/
def asRead (operation context : String) (op : Operation α) : Operation α :=
  op.adapt (Error.asRead operation context)

/-- Classifies errors from outside as failed preparations. -/
def asCall (operation context : String) (op : Operation α) : Operation α :=
  op.adapt (Error.asCall operation context)

/-- Classifies errors from outside as failed transactions. -/
def asTransaction (operation context : String) (op : Operation α) : Operation α :=
  op.adapt (Error.asTransaction operation context)

end Operation

end PaymentChannel
