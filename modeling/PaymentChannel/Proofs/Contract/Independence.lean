import PaymentChannel.Proofs.Contract.Transcript

/-!
# Independence

Two computations on a state are *independent* if it does not matter which of them comes first: both
have the same results either way, and leave the same state. If the answers to all requests of a flow
are independent of those to all requests of another, so are the runs of the two (`Flow.run_comm`).
-/

namespace PaymentChannel

variable {σ α β γ : Type}

/-- The order of two computations does not matter. -/
structure Independent (f : StateM σ α) (g : StateM σ β) : Prop where
  left : ∀ s, (f (g s).2).1 = (f s).1
  right : ∀ s, (g (f s).2).1 = (g s).1
  state : ∀ s, (g (f s).2).2 = (f (g s).2).2

namespace Independent

theorem symm {f : StateM σ α} {g : StateM σ β} (h : Independent f g) : Independent g f :=
  ⟨h.right, h.left, fun s => (h.state s).symm⟩

theorem pure (f : StateM σ α) (b : β) : Independent f (pure b) :=
  ⟨fun _ => rfl, fun _ => rfl, fun _ => rfl⟩

/-- What comes before any computation and after its first step comes before both. -/
theorem bind {f : StateM σ α} {g : StateM σ β} {k : β → StateM σ γ} (first : Independent f g)
    (rest : ∀ b, Independent f (k b)) : Independent f (g >>= k) where
  left s := ((rest _).left _).trans (first.left s)
  right s := by
    change (k (g (f s).2).1 (g (f s).2).2).1 = (k (g s).1 (g s).2).1
    rw [first.right, first.state, (rest _).right]
  state s := by
    change (k (g (f s).2).1 (g (f s).2).2).2 = (f (k (g s).1 (g s).2).2).2
    rw [first.right, first.state, (rest _).state]

/-- So they can change places. -/
theorem swap {f : StateM σ α} {g : StateM σ β} (h : Independent f g) {s s' : σ} {a : α} {b : β} :
    (∃ t, f s = (a, t) ∧ g t = (b, s')) ↔ ∃ t, g s = (b, t) ∧ f t = (a, s') := by
  constructor
  · rintro ⟨t, first, second⟩
    refine ⟨(g s).2, Prod.ext ?_ rfl, Prod.ext ?_ ?_⟩
    · rw [← h.right, first, second]
    · rw [h.left, first]
    · rw [← h.state, first, second]
  · rintro ⟨t, first, second⟩
    refine ⟨(f s).2, Prod.ext ?_ rfl, Prod.ext ?_ ?_⟩
    · rw [← h.left, first, second]
    · rw [h.right, first]
    · rw [h.state, first, second]

end Independent

namespace Flow

variable {answer : (r : Request) → StateM σ r.Answer}

/-- What is independent of all that a flow may ask is independent of its run. -/
theorem independent_run {f : StateM σ α} {x : Flow β}
    (h : ∀ es b, x.Transcript es b → ∀ e ∈ es, Independent f (answer e.request)) :
    Independent f (x.run answer) := by
  induction x with
  | done b => exact .pure f b
  | ask r next ih =>
    -- There is a transcript that starts with the request: that of a run.
    have first (s : σ) : Independent f (answer r) :=
      h _ _ (transcript_exchanges answer (ask r next) s) _ List.mem_cons_self
    have rest (a : r.Answer) : Independent f ((next a).run answer) :=
      ih a fun es b t e he => h _ b (.ask t) e (List.mem_cons_of_mem _ he)
    have both (s : σ) : Independent f ((ask r next).run answer) := (first s).bind rest
    exact ⟨fun s => (both s).left s, fun s => (both s).right s, fun s => (both s).state s⟩

/-- The order of two flows does not matter if that of their requests does not. -/
theorem run_comm {x : Flow α} {y : Flow β}
    (h : ∀ es a fs b, x.Transcript es a → y.Transcript fs b → ∀ e ∈ es, ∀ f ∈ fs,
      Independent (answer e.request) (answer f.request)) :
    Independent (x.run answer) (y.run answer) :=
  independent_run fun fs b u f hf => .symm <|
    independent_run fun es a t e he => (h es a fs b t u e he f hf).symm

end Flow

end PaymentChannel
