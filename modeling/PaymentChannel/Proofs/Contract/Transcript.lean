import PaymentChannel.Contract.Flow

/-!
# Transcripts

What an operation does shows in what it asks for and what it is answered. An `Exchange` is a request
with its answer, and a *transcript* of a flow lists its exchanges, from the start until the flow is
done with a result. Nothing is assumed of the answers: what holds of all transcripts holds whatever
the contracts, the sender and the signers do.

* `Flow.transcript_bind`, `Operation.transcript_bind`: what follows each other is transcribed one
  after the other, and an operation ends with its first error;
* `Flow.transcript_exchanges`: whoever answers, a run is transcribed by its exchanges;
* `Flow.run_invariant`: what every answer preserves, a run preserves;
* `Operation.run_bind`: what follows each other is run one after the other, up to the first error.
-/

namespace PaymentChannel

/-- A request with the answer to it. -/
structure Exchange where
  request : Request
  answer : request.Answer

namespace Flow

variable {α β σ : Type}

/-- From the start of a flow to a result, the exchanges can be these. -/
inductive Transcript : Flow α → List Exchange → α → Prop where
  | done (a : α) : Transcript (done a) [] a
  | ask {r : Request} {next : r.Answer → Flow α} {answer : r.Answer} {es : List Exchange} {a : α}
      (rest : Transcript (next answer) es a) : Transcript (ask r next) (⟨r, answer⟩ :: es) a

/-- What asks for nothing leaves no transcript. -/
theorem transcript_pure {a b : α} {es : List Exchange} :
    Transcript (pure a) es b ↔ es = [] ∧ b = a := by
  constructor
  · intro h
    cases h
    exact ⟨rfl, rfl⟩
  · rintro ⟨rfl, rfl⟩
    exact .done b

/-- A request is one exchange, whatever is answered. -/
theorem transcript_perform {r : Request} {es : List Exchange} {answer : r.Answer} :
    Transcript (perform r) es answer ↔ es = [⟨r, answer⟩] := by
  constructor
  · rintro (_ | ⟨⟨⟩⟩)
    rfl
  · rintro rfl
    exact .ask (.done answer)

/-- Flows that follow each other are transcribed one after the other. -/
theorem transcript_bind {x : Flow α} {f : α → Flow β} {es : List Exchange} {b : β} :
    Transcript (x >>= f) es b ↔
      ∃ before after a,
        es = before ++ after ∧ Transcript x before a ∧ Transcript (f a) after b := by
  change Transcript (x.bind f) es b ↔ _
  constructor
  · -- The first flow determines where its own exchanges end.
    intro h
    induction x generalizing es with
    | done a => exact ⟨[], es, a, rfl, .done a, h⟩
    | ask r next ih =>
      obtain _ | ⟨rest⟩ := h
      obtain ⟨before, after, a, rfl, first, second⟩ := ih _ rest
      exact ⟨_ :: before, after, a, rfl, .ask first, second⟩
  · rintro ⟨before, after, a, rfl, first, second⟩
    induction first with
    | done a => exact second
    | ask _ ih => exact .ask (ih second)

/-- What is made of the result is not seen in the transcript. -/
theorem transcript_map {x : Flow α} {f : α → β} {es : List Exchange} {b : β} :
    Transcript (f <$> x) es b ↔ ∃ a, Transcript x es a ∧ b = f a := by
  rw [← bind_pure_comp, transcript_bind]
  constructor
  · rintro ⟨before, after, a, rfl, first, second⟩
    obtain ⟨rfl, rfl⟩ := transcript_pure.1 second
    exact ⟨a, by rwa [List.append_nil], rfl⟩
  · rintro ⟨a, first, rfl⟩
    exact ⟨es, [], a, (List.append_nil es).symm, first, .done _⟩

/-! ## Runs -/

variable (answer : (r : Request) → StateM σ r.Answer)

/-- The exchanges of a run. -/
def exchanges : Flow α → σ → List Exchange
  | done _, _ => []
  | ask r next, s => ⟨r, (answer r s).1⟩ :: exchanges (next (answer r s).1) (answer r s).2

/-- Whoever answers, the exchanges of a run are a transcript, with the result of the run. -/
theorem transcript_exchanges (x : Flow α) (s : σ) :
    x.Transcript (x.exchanges answer s) (x.run answer s).1 := by
  induction x generalizing s with
  | done a => exact .done a
  | ask r next ih => exact .ask (ih _ _)

/-- What holds at first, and along with every answer still holds of the exchanges so far, holds at
    the end of a run. -/
theorem run_invariant {I : List Exchange → σ → Prop} {s : σ} (first : I [] s)
    (step : ∀ es s r, I es s → I (es ++ [⟨r, (answer r s).1⟩]) (answer r s).2) (x : Flow α) :
    I (x.exchanges answer s) (x.run answer s).2 := by
  -- In the middle of a run, the exchanges before count as well.
  suffices h : ∀ es s, I es s → I (es ++ x.exchanges answer s) (x.run answer s).2 from h [] s first
  intro es s h
  induction x generalizing es s with
  | done a =>
    rw [exchanges, List.append_nil]
    exact h
  | ask r next ih =>
    rw [exchanges, List.append_cons]
    exact ih _ _ _ (step es s r h)

end Flow

namespace Operation

variable {α β : Type}

/-- From the start of an operation to a result or an error, the exchanges can be these. -/
def Transcript (op : Operation α) (es : List Exchange) (result : Except Error α) : Prop :=
  Flow.Transcript op.run es result

theorem transcript_pure {a : α} {es : List Exchange} {result : Except Error α} :
    Transcript (pure a) es result ↔ es = [] ∧ result = .ok a := Flow.transcript_pure

/-- To fail asks for nothing. -/
theorem transcript_throw {e : Error} {es : List Exchange} {result : Except Error α} :
    Transcript (throw e) es result ↔ es = [] ∧ result = .error e := Flow.transcript_pure

/-- A check asks for nothing. -/
theorem transcript_ofExcept {x : Except Error α} {es : List Exchange} {result : Except Error α} :
    Transcript (ofExcept x) es result ↔ es = [] ∧ result = x := Flow.transcript_pure

/-- Of two operations, the second one is transcribed after the first, unless that ends with an
    error. -/
theorem transcript_bind {op : Operation α} {f : α → Operation β} {es : List Exchange}
    {result : Except Error β} :
    Transcript (op >>= f) es result ↔
      (∃ e, op.Transcript es (.error e) ∧ result = .error e) ∨
      ∃ before after a, es = before ++ after ∧ op.Transcript before (.ok a) ∧
        (f a).Transcript after result := by
  rw [Transcript, ExceptT.run_bind, Flow.transcript_bind]
  constructor
  · rintro ⟨before, after, e | a, rfl, first, second⟩
    · obtain ⟨rfl, rfl⟩ := Flow.transcript_pure.1 second
      exact .inl ⟨e, by rwa [List.append_nil], rfl⟩
    · exact .inr ⟨before, after, a, rfl, first, second⟩
  · rintro (⟨e, first, rfl⟩ | ⟨before, after, a, rfl, first, second⟩)
    · exact ⟨es, [], .error e, (List.append_nil es).symm, first, .done _⟩
    · exact ⟨before, after, .ok a, rfl, first, second⟩

/-- Operations that follow each other succeed if each of them does. -/
theorem transcript_bind_ok {op : Operation α} {f : α → Operation β} {es : List Exchange} {b : β} :
    Transcript (op >>= f) es (.ok b) ↔ ∃ before after a,
      es = before ++ after ∧ op.Transcript before (.ok a) ∧ (f a).Transcript after (.ok b) := by
  rw [transcript_bind]
  exact or_iff_right fun ⟨_, _, failed⟩ => nomatch failed

theorem transcript_map {op : Operation α} {f : α → β} {es : List Exchange}
    {result : Except Error β} :
    Transcript (f <$> op) es result ↔ ∃ r, op.Transcript es r ∧ result = r.map f := by
  rw [Transcript, ExceptT.run_map]
  exact Flow.transcript_map

/-- What is made of the result at the end asks for nothing more. -/
theorem transcript_bind_pure {op : Operation α} {f : α → β} {es : List Exchange}
    {result : Except Error β} :
    Transcript (op >>= fun a => pure (f a)) es result ↔
      ∃ r, op.Transcript es r ∧ result = r.map f := by
  rw [bind_pure_comp]
  exact transcript_map

theorem transcript_bind_pure_ok {op : Operation α} {f : α → β} {es : List Exchange} {b : β} :
    Transcript (op >>= fun a => pure (f a)) es (.ok b) ↔
      ∃ a, op.Transcript es (.ok a) ∧ b = f a := by
  rw [transcript_bind_pure]
  constructor
  · rintro ⟨e | a, t, made⟩ <;> cases made
    exact ⟨a, t, rfl⟩
  · rintro ⟨a, t, rfl⟩
    exact ⟨.ok a, t, rfl⟩

/-- Errors that are put in other words leave the transcript as it is. -/
theorem transcript_adapt {op : Operation α} {f : Error → Error} {es : List Exchange}
    {result : Except Error α} :
    Transcript (op.adapt f) es result ↔ ∃ r, op.Transcript es r ∧ result = r.mapError f :=
  Flow.transcript_map

/-- How errors are classified does not matter to what succeeds. -/
theorem transcript_adapt_ok {op : Operation α} {f : Error → Error} {es : List Exchange} {a : α} :
    Transcript (op.adapt f) es (.ok a) ↔ op.Transcript es (.ok a) := by
  rw [transcript_adapt]
  constructor
  · rintro ⟨e | b, t, h⟩
    · exact nomatch h
    · cases h
      exact t
  · exact fun t => ⟨.ok a, t, rfl⟩

/-- A signer that fails is an error of signing. -/
theorem transcript_sign {flow : Flow (Except SignError Signature)} {es : List Exchange}
    {result : Except Error Signature} :
    (sign flow).Transcript es result ↔ ∃ r, flow.Transcript es r ∧ result = r.mapError .signing :=
  Flow.transcript_map

/-- A nonce is drawn in one exchange, which cannot fail. -/
theorem transcript_nonce {opener : Address} {es : List Exchange} {result : Except Error UInt64} :
    (nonce opener).Transcript es result ↔ ∃ n, es = [⟨.nonce opener, n⟩] ∧ result = .ok n :=
  Flow.transcript_map.trans (exists_congr fun _ => and_congr_left' Flow.transcript_perform)

/-- A contract is read in one exchange. -/
theorem transcript_view {v : View} {es : List Exchange} {result : Except Error v.Answer} :
    (view v).Transcript es result ↔ es = [⟨.view v, result⟩] := Flow.transcript_perform

/-- A call is prepared in one exchange. -/
theorem transcript_prepare {p : Plan} {es : List Exchange} {result : Except Error Call} :
    (prepare p).Transcript es result ↔ es = [⟨.prepare p, result⟩] := Flow.transcript_perform

/-- A call is sent in one exchange. -/
theorem transcript_send {c : Call} {es : List Exchange} {result : Except Error Hash} :
    (send c).Transcript es result ↔ es = [⟨.send c, result⟩] := Flow.transcript_perform

/-! ## Runs -/

variable {σ : Type} (answer : (r : Request) → StateM σ r.Answer)

/-- Whoever answers, an operation goes on from the state that the one before it leaves, unless that
    ends with an error. -/
theorem run_bind (op : Operation α) (f : α → Operation β) (s : σ) :
    (op >>= f).run.run answer s = match op.run.run answer s with
      | (.ok a, between) => (f a).run.run answer between
      | (.error e, between) => (.error e, between) := by
  rw [ExceptT.run_bind, Flow.run_bind]
  change StateT.bind _ _ s = _
  unfold StateT.bind
  rcases op.run.run answer s with ⟨e | a, between⟩ <;> rfl

/-- Errors that are put in other words leave the same state behind. -/
theorem run_adapt (op : Operation α) (f : Error → Error) (s : σ) :
    (op.adapt f).run.run answer s =
      ((op.run.run answer s).1.mapError f, (op.run.run answer s).2) := by
  change (Flow.run answer (Except.mapError f <$> op.run)) s = _
  rw [← bind_pure_comp, Flow.run_bind]
  rfl

end Operation

end PaymentChannel
