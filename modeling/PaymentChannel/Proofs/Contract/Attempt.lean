import PaymentChannel.Proofs.Contract.Failure

/-!
# Attempts

Where several things have to be asked one after the other, they are asked in order, and the first
that fails is the last one. An `Attempt` at a list of requests says so of the exchanges that were
made for it, and of the error that they ended with, if any: of the requests, those up to the first
that failed were made, once each, and its error is what is reported.
-/

namespace PaymentChannel

/-- The requests are made in order, up to the first that fails, whose error is the outcome. -/
inductive Attempt : List Request → List Exchange → Option Error → Prop where
  /-- There is nothing left to ask. -/
  | complete : Attempt [] [] none
  | answered {x : Exchange} {requests : List Request} {es : List Exchange} {outcome : Option Error}
      (ok : x.failure? = none) (rest : Attempt requests es outcome) :
      Attempt (x.request :: requests) (x :: es) outcome
  | failed {x : Exchange} {reason e : Error} (left : List Request)
      (failure_eq : x.failure? = some reason) (reports : x.request.Reports reason e) :
      Attempt (x.request :: left) [x] (some e)

namespace Attempt

variable {requests more : List Request} {es fs : List Exchange} {outcome : Option Error}

/-- A single request, whose error is reported. -/
theorem single {x : Exchange} (reported : FailuresReported [x] outcome)
    (ok : x.failure? = none → outcome = none) : Attempt [x.request] [x] outcome := by
  cases failure_eq : x.failure? with
  | none =>
    rw [ok failure_eq]
    exact .answered failure_eq .complete
  | some reason =>
    obtain ⟨-, e, rfl, reports⟩ := reported.stops [] x [] reason rfl failure_eq
    exact .failed [] failure_eq reports

/-- More can be attempted once everything has been answered. -/
theorem append (first : Attempt requests es none) (second : Attempt more fs outcome) :
    Attempt (requests ++ more) (es ++ fs) outcome := by
  generalize none_eq : (none : Option Error) = none' at first
  induction first with
  | complete => exact second
  | answered ok rest ih => exact .answered ok (ih none_eq)
  | failed left failure_eq reports => exact nomatch none_eq

/-- Nothing more is attempted after a failure. -/
theorem stop {e : Error} (h : Attempt requests es (some e)) (more : List Request) :
    Attempt (requests ++ more) es (some e) := by
  generalize some_eq : some e = outcome at h
  induction h with
  | complete => exact nomatch some_eq
  | answered ok rest ih => exact .answered ok (ih some_eq)
  | failed left failure_eq reports => exact .failed (left ++ more) failure_eq reports

/-- What is asked are the first ones of the requests. -/
theorem isPrefix (h : Attempt requests es outcome) : es.map Exchange.request <+: requests := by
  induction h with
  | complete => exact List.prefix_rfl
  | answered ok rest ih => exact List.cons_prefix_cons.2 ⟨rfl, ih⟩
  | failed left failure_eq reports => exact ⟨left, rfl⟩

/-- Without an error, everything is answered. -/
theorem exists_answered (h : Attempt requests es outcome) (succeeded : outcome = none)
    {r : Request} (hr : r ∈ requests) : ∃ x ∈ es, x.request = r ∧ x.failure? = none := by
  induction h with
  | complete => exact absurd hr List.not_mem_nil
  | @answered x requests es outcome ok rest ih =>
    rcases List.mem_cons.1 hr with rfl | hr
    · exact ⟨x, List.mem_cons_self, rfl, ok⟩
    · obtain ⟨y, hy, h⟩ := ih succeeded hr
      exact ⟨y, List.mem_cons_of_mem _ hy, h⟩
  | failed left failure_eq reports => exact nomatch succeeded

end Attempt

namespace Operation

/-- How errors from outside would be classified does not matter where there are none. -/
theorem ReportsFailures.transcript_asCall {α : Type} {op : Operation α} (hop : ReportsFailures op)
    {operation context : String} {es : List Exchange} {result : Except Error α} :
    (op.asCall operation context).Transcript es result ↔ op.Transcript es result := by
  have unchanged {r : Except Error α} (t : op.Transcript es r) :
      r.mapError (Error.asCall operation context) = r := by
    cases r with
    | ok a => rfl
    | error e => exact congrArg _ (Error.asCall_of_isTyped ((hop es _ t).typed e rfl) _ _)
  constructor
  · intro h
    obtain ⟨r, t, rfl⟩ := transcript_adapt.1 h
    rwa [unchanged t]
  · exact fun t => transcript_adapt.2 ⟨result, t, (unchanged t).symm⟩

/-- A reading is attempted. -/
theorem attempt_view {v : View} {context : String} {es : List Exchange}
    {result : Except Error v.Answer}
    (t : ((view v).asRead v.operation context).Transcript es result) :
    Attempt [.view v] es (failureOf result) := by
  have reported := ReportsFailures.view v context es result t
  obtain ⟨answer, asked, rfl⟩ := transcript_adapt.1 t
  obtain rfl := transcript_view.1 asked
  refine .single reported fun answered => ?_
  cases answer with
  | ok a => rfl
  | error e => exact nomatch answered

/-- A preparation is attempted. -/
theorem attempt_prepare {p : Plan} {context : String} {es : List Exchange}
    {result : Except Error Call} (t : ((prepare p).asCall p.step context).Transcript es result) :
    Attempt [.prepare p] es (failureOf result) := by
  have reported := ReportsFailures.prepare p context es result t
  obtain ⟨answer, asked, rfl⟩ := transcript_adapt.1 t
  obtain rfl := transcript_prepare.1 asked
  refine .single reported fun answered => ?_
  cases answer with
  | ok call => rfl
  | error e => exact nomatch answered

end Operation

end PaymentChannel
