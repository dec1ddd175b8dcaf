import PaymentChannel.Proofs.Contract.Transcript

/-!
# Failures

An exchange *fails* if its request is answered with an error. The operation is to end there, and to
report what happened: an error that has been classified as it is, and one from outside as the
failure of what was asked for, under the name that the operation has for it (`Request.Reports`).

* `FailuresReported`: of exchanges and the error that they end with, if any;
* `Operation.Obeys`: whatever the answers, all transcripts of an operation satisfy a condition that
  carries over from the steps of an operation to the whole (`Sequential`). Reporting failures is one
  such condition (`Operation.ReportsFailures`).
-/

namespace PaymentChannel

/-- The name under which an error from outside is reported if a call cannot be prepared. -/
def Plan.step : Plan → String
  | approve .. => "approve"
  | deposit .. => "deposit"
  | withdraw .. => "withdraw"
  | createChannel .. => "createChannel"
  | checkpoint .. => "checkpoint"
  | challenge .. => "challenge"
  | close .. => "close"
  | depositToChannel .. => "depositToChannel"
  | withdrawFromChannel .. => "withdrawFromChannel"

/-- The error with which an exchange fails, if it does. That of a signer is classified already. -/
def Exchange.failure? : Exchange → Option Error
  | ⟨.view _, .error e⟩ | ⟨.prepare _, .error e⟩ | ⟨.send _, .error e⟩ => some e
  | ⟨.signState .., .error e⟩ | ⟨.signHash .., .error e⟩ => some (.signing e)
  | _ => none

/-- The error with which a request is answered, and the one that is reported. -/
inductive Request.Reports : Request → Error → Error → Prop where
  /-- Whatever has been classified is reported as it is. -/
  | typed (r : Request) {e : Error} (h : e.isTyped) : Reports r e e
  | view (v : View) (context text : String) :
      Reports (.view v) (.external text) (.contractRead v.operation context text)
  | prepare (p : Plan) (context text : String) :
      Reports (.prepare p) (.external text) (.contractCall p.step context text)
  | send (c : Call) (context text : String) :
      Reports (.send c) (.external text) (.transaction c.operation context text)

/-- What is reported of a request is never a foreign error. -/
theorem Request.Reports.isTyped {r : Request} {reason e : Error} (h : r.Reports reason e) :
    e.isTyped := by
  cases h with
  | typed h => assumption
  | view | prepare | send => rfl

/-- Whatever classifies errors from outside reports errors. -/
theorem Request.reports_of_external {r : Request} {classify : Error → Error}
    (typed : ∀ e, e.isTyped → classify e = e)
    (external : ∀ text, r.Reports (.external text) (classify (.external text))) (e : Error) :
    r.Reports e (classify e) := by
  by_cases h : e.isTyped
  · rw [typed e h]
    exact .typed r h
  · cases e with
    | external text => exact external text
    | _ => exact absurd rfl h

/-- The error of a result, if it is one. -/
def failureOf {α : Type} : Except Error α → Option Error
  | .ok _ => none
  | .error e => some e

/-- The first exchange that fails is the last one, and is reported. All errors are classified. -/
structure FailuresReported (es : List Exchange) (outcome : Option Error) : Prop where
  stops : ∀ before x after reason, es = before ++ x :: after → x.failure? = some reason →
    after = [] ∧ ∃ e, outcome = some e ∧ x.request.Reports reason e
  typed : ∀ e, outcome = some e → e.isTyped

namespace Operation

variable {α β : Type} {I : List Exchange → Option Error → Prop}

/-- A condition on exchanges, and the error that they end with if any, that carries over to what is
    done one after the other. -/
structure Sequential (I : List Exchange → Option Error → Prop) : Prop where
  nil : I [] none
  append : ∀ {before after outcome}, I before none → I after outcome → I (before ++ after) outcome

/-- Whatever is answered, the exchanges of an operation satisfy `I`. -/
def Obeys (I : List Exchange → Option Error → Prop) (op : Operation α) : Prop :=
  ∀ es result, op.Transcript es result → I es (failureOf result)

namespace Obeys

/-- An operation without requests obeys, since nothing happens. -/
protected theorem pure (hI : Sequential I) (a : α) : Obeys I (pure a) := by
  intro es result t
  obtain ⟨rfl, rfl⟩ := transcript_pure.1 t
  exact hI.nil

/-- A check obeys if its own failure does. -/
protected theorem ofExcept (hI : Sequential I) {x : Except Error α}
    (h : ∀ e, x = .error e → I [] (some e)) : Obeys I (ofExcept x) := by
  intro es result t
  obtain ⟨rfl, rfl⟩ := transcript_ofExcept.1 t
  cases result with
  | ok a => exact hI.nil
  | error e => exact h e rfl

/-- Operations one after the other obey if each of them does. -/
protected theorem bind (hI : Sequential I) {op : Operation α} {f : α → Operation β}
    (hop : Obeys I op) (hf : ∀ a, Obeys I (f a)) : Obeys I (op >>= f) := by
  intro es result t
  rcases transcript_bind.1 t with ⟨e, first, rfl⟩ | ⟨before, after, a, rfl, first, second⟩
  · exact hop es (.error e) first
  · exact hI.append (hop before (.ok a) first) (hf a after result second)

/-! ## Requests -/

/-- Reading a contract obeys if whatever comes of one read does. -/
protected theorem view {v : View} {f : Error → Error}
    (h : ∀ answer : Except Error v.Answer, I [⟨.view v, answer⟩] (failureOf (answer.mapError f))) :
    Obeys I ((view v).adapt f) := by
  intro es result t
  obtain ⟨answer, asked, rfl⟩ := transcript_adapt.1 t
  rw [transcript_view.1 asked]
  exact h answer

/-- Preparing a call obeys if whatever comes of one preparation does. -/
protected theorem prepare {p : Plan} {f : Error → Error}
    (h : ∀ answer : Except Error Call,
      I [⟨.prepare p, answer⟩] (failureOf (answer.mapError f))) :
    Obeys I ((prepare p).adapt f) := by
  intro es result t
  obtain ⟨answer, asked, rfl⟩ := transcript_adapt.1 t
  rw [transcript_prepare.1 asked]
  exact h answer

/-- Sending a call obeys if whatever comes of one call does. -/
protected theorem send {c : Call} {f : Error → Error}
    (h : ∀ answer : Except Error Hash, I [⟨.send c, answer⟩] (failureOf (answer.mapError f))) :
    Obeys I ((send c).adapt f) := by
  intro es result t
  obtain ⟨answer, asked, rfl⟩ := transcript_adapt.1 t
  rw [transcript_send.1 asked]
  exact h answer

end Obeys

end Operation

/-! ## Reporting -/

namespace FailuresReported

variable {es before after : List Exchange} {outcome : Option Error}

/-- If nothing fails, there is nothing to report. -/
theorem nil (typed : ∀ e, outcome = some e → e.isTyped) : FailuresReported [] outcome where
  stops before x after reason es_eq := by simp at es_eq
  typed := typed

/-- A single exchange, whose error is classified. -/
theorem single {x : Exchange} (classify : Error → Error)
    (reported : ∀ e, x.failure? = some e → x.request.Reports e (classify e)) :
    FailuresReported [x] (x.failure?.map classify) where
  stops before y after reason es_eq failed := by
    -- There is no room for any other exchange, before it or after.
    obtain ⟨rfl, es_eq⟩ | ⟨rest, rfl, es_eq⟩ := List.cons_eq_append_iff.1 es_eq
    · cases es_eq
      exact ⟨rfl, classify reason, by rw [failed]; rfl, reported reason failed⟩
    · simp at es_eq
  typed e outcome_eq := by
    obtain ⟨reason, failed, rfl⟩ := Option.map_eq_some_iff.1 outcome_eq
    exact (reported reason failed).isTyped

/-- Nothing fails that does not end with an error. -/
theorem failure?_eq_none (h : FailuresReported es none) {x : Exchange} (hx : x ∈ es) :
    x.failure? = none := by
  obtain ⟨before, after, rfl⟩ := List.append_of_mem hx
  cases failed : x.failure? with
  | none => rfl
  | some reason =>
    obtain ⟨-, e, outcome_eq, -⟩ := h.stops before x after reason rfl failed
    exact nomatch outcome_eq

/-- Nothing is asked behind a failure, so the first one is what is reported. -/
theorem sequential : Operation.Sequential FailuresReported where
  nil := nil nofun
  append {before after outcome} first second := by
    refine ⟨fun front x back reason es_eq failed => ?_, second.typed⟩
    -- The exchange that fails is not among the first ones.
    rcases List.append_eq_append_iff.1 es_eq with ⟨rest, rfl, after_eq⟩ | ⟨rest, before_eq, _⟩
    · exact second.stops rest x back reason after_eq failed
    · cases rest with
      | nil =>
        rw [List.append_nil] at before_eq
        subst before_eq
        exact second.stops [] x back reason (List.append_cancel_left es_eq) failed
      | cons y rest =>
        have hy : y = x := by simp_all
        have none_eq := first.failure?_eq_none (x := x) (by rw [before_eq, hy]; simp)
        exact nomatch none_eq.symm.trans failed

end FailuresReported

namespace Operation

variable {α β : Type}

/-- Whatever is answered, the operation stops at the first failure and reports it. -/
abbrev ReportsFailures (op : Operation α) : Prop := Obeys FailuresReported op

namespace ReportsFailures

/-- An operation without requests has no failure to report. -/
protected theorem pure (a : α) : ReportsFailures (pure a : Operation α) :=
  Obeys.pure FailuresReported.sequential a

/-- A check reports its own failure, which is a typed one. -/
protected theorem ofExcept {x : Except Error α} (typed : ∀ e, x = .error e → e.isTyped) :
    ReportsFailures (ofExcept x) :=
  Obeys.ofExcept FailuresReported.sequential fun e h => .nil fun _ h' => by
    cases h'
    exact typed e h

/-- An encoding that fails is reported as such. -/
protected theorem ofEncoding (x : Except Abi.Error α) : ReportsFailures (ofEncoding x) :=
  .ofExcept fun e h => by
    cases x with
    | ok a => exact nomatch h
    | error e' =>
      cases h
      rfl

/-- Operations one after the other report failures if each of them does. -/
protected theorem bind {op : Operation α} {f : α → Operation β} (hop : ReportsFailures op)
    (hf : ∀ a, ReportsFailures (f a)) : ReportsFailures (op >>= f) :=
  Obeys.bind FailuresReported.sequential hop hf

/-- What has been reported is not classified again. -/
theorem asCall {op : Operation α} (hop : ReportsFailures op) (operation context : String) :
    ReportsFailures (op.asCall operation context) := by
  intro es result t
  obtain ⟨r, first, rfl⟩ := transcript_adapt.1 t
  have reported := hop es r first
  cases r with
  | ok a => exact reported
  | error e =>
    change FailuresReported es (some (e.asCall operation context))
    rw [Error.asCall_of_isTyped (reported.typed e rfl)]
    exact reported

/-- A read that fails is reported with the operation of its contract. -/
protected theorem view (v : View) (context : String) :
    ReportsFailures ((view v).asRead v.operation context) :=
  Obeys.view fun answer => by
    have reported := FailuresReported.single (x := ⟨.view v, answer⟩) _ <|
      fun e _ => Request.reports_of_external (fun e h => Error.asRead_of_isTyped h _ _)
        (fun text => .view v context text) e
    cases answer <;> exact reported

/-- A call that cannot be prepared is reported with its step. -/
protected theorem prepare (p : Plan) (context : String) :
    ReportsFailures ((prepare p).asCall p.step context) :=
  Obeys.prepare fun answer => by
    have reported := FailuresReported.single (x := ⟨.prepare p, answer⟩) _ <|
      fun e _ => Request.reports_of_external (fun e h => Error.asCall_of_isTyped h _ _)
        (fun text => .prepare p context text) e
    cases answer <;> exact reported

/-- A call that fails is reported with its operation. -/
protected theorem send (c : Call) (context : String) :
    ReportsFailures ((send c).asTransaction c.operation context) :=
  Obeys.send fun answer => by
    have reported := FailuresReported.single (x := ⟨.send c, answer⟩) _ <|
      fun e _ => Request.reports_of_external (fun e h => Error.asTransaction_of_isTyped h _ _)
        (fun text => .send c context text) e
    cases answer <;> exact reported

/-- To draw a nonce cannot fail. -/
protected theorem nonce (opener : Address) : ReportsFailures (nonce opener) := by
  intro es result t
  obtain ⟨n, rfl, rfl⟩ := transcript_nonce.1 t
  exact FailuresReported.single (x := ⟨.nonce opener, n⟩) id nofun

/-- What a signer answers with is classified as such. -/
theorem sign {flow : Flow (Except SignError Signature)}
    (asked : ∀ es answer, flow.Transcript es answer →
      ∃ x : Exchange, es = [x] ∧ x.failure? = failureOf (answer.mapError .signing)) :
    ReportsFailures (Operation.sign flow) := by
  intro es result t
  obtain ⟨answer, first, rfl⟩ := transcript_sign.1 t
  obtain ⟨x, rfl, failure_eq⟩ := asked es answer first
  have reported := FailuresReported.single (x := x) id fun e failed => by
    cases answer with
    | ok signature => exact nomatch failure_eq.symm.trans failed
    | error e' =>
      cases failure_eq.symm.trans failed
      exact .typed _ rfl
  rw [Option.map_id, id_eq, failure_eq] at reported
  exact reported

/-- A signer that does not sign a state is reported as one that fails. -/
theorem signState (hash : Hash) (context : SigningContext) :
    ReportsFailures (Operation.sign (.perform (.signState hash context))) :=
  .sign fun es answer t => ⟨⟨.signState hash context, answer⟩, Flow.transcript_perform.1 t, by
    cases answer <;> rfl⟩

/-- A signer that does not sign a hash is reported as one that fails. -/
theorem signHash (party : Party) (hash : Hash) :
    ReportsFailures (Operation.sign (.perform (.signHash party hash))) :=
  .sign fun es answer t => ⟨⟨.signHash party hash, answer⟩, Flow.transcript_perform.1 t, by
    cases answer <;> rfl⟩

end ReportsFailures

end Operation

end PaymentChannel
