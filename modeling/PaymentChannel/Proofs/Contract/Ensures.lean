import PaymentChannel.Proofs.Contract.Transcript

/-!
# What operations ensure

An operation *ensures* two things, whatever it is answered: that all its requests satisfy a
condition, and that what it returns does. Both are shown along its steps, with a rule for each way
in which operations are put together: a step may rely on what the steps before it return, and an
error from outside may be classified on the way.
-/

namespace PaymentChannel.Operation

variable {α β : Type} {P : Request → Prop} {Q : α → Prop} {R : β → Prop}

/-- Whatever is answered, the operation only asks what satisfies `P`, and only returns what
    satisfies `Q`. -/
structure Ensures (P : Request → Prop) (Q : α → Prop) (op : Operation α) : Prop where
  asks : ∀ es result, op.Transcript es result → ∀ x ∈ es, P x.request
  returns : ∀ es a, op.Transcript es (.ok a) → Q a

namespace Ensures

protected theorem pure {a : α} (h : Q a) : Ensures P Q (pure a) where
  asks es result t := by
    obtain ⟨rfl, -⟩ := transcript_pure.1 t
    exact fun _ hx => absurd hx List.not_mem_nil
  returns es b t := by
    obtain ⟨-, hb⟩ := transcript_pure.1 t
    cases hb
    exact h

protected theorem ofExcept {x : Except Error α} (h : ∀ a, x = .ok a → Q a) :
    Ensures P Q (ofExcept x) where
  asks es result t := by
    obtain ⟨rfl, -⟩ := transcript_ofExcept.1 t
    exact fun _ hx => absurd hx List.not_mem_nil
  returns es a t := h a (transcript_ofExcept.1 t).2.symm

protected theorem throw (e : Error) : Ensures P Q (throw e : Operation α) :=
  .ofExcept (x := .error e) fun _ h => nomatch h

/-- An operation relies on what the one before it returns. -/
protected theorem bind {op : Operation α} {f : α → Operation β} (hop : Ensures P Q op)
    (hf : ∀ a, Q a → Ensures P R (f a)) : Ensures P R (op >>= f) where
  asks es result t := by
    rcases transcript_bind.1 t with ⟨e, first, -⟩ | ⟨before, after, a, rfl, first, second⟩
    · exact hop.asks _ _ first
    · intro x hx
      rcases List.mem_append.1 hx with hx | hx
      · exact hop.asks _ _ first x hx
      · exact (hf a (hop.returns _ _ first)).asks _ _ second x hx
  returns es b t := by
    rcases transcript_bind.1 t with ⟨e, -, h⟩ | ⟨before, after, a, rfl, first, second⟩
    · exact nomatch h
    · exact (hf a (hop.returns _ _ first)).returns _ _ second

protected theorem map {op : Operation α} (hop : Ensures P Q op) (f : α → β) :
    Ensures P (fun _ => True) (f <$> op) := by
  rw [← bind_pure_comp]
  exact hop.bind fun a _ => .pure trivial

/-- How an error is classified changes neither what is asked nor what is returned. -/
protected theorem adapt {op : Operation α} (hop : Ensures P Q op) (f : Error → Error) :
    Ensures P Q (op.adapt f) where
  asks es result t := by
    obtain ⟨r, t, -⟩ := transcript_adapt.1 t
    exact hop.asks es r t
  returns es a t := by
    obtain ⟨r | b, t, h⟩ := transcript_adapt.1 t
    · exact nomatch h
    · cases h
      exact hop.returns es a t

theorem mono {Q' : α → Prop} {op : Operation α} (hop : Ensures P Q op) (h : ∀ a, Q a → Q' a) :
    Ensures P Q' op where
  asks := hop.asks
  returns es a t := h a (hop.returns es a t)

/-! ## Requests -/

/-- A single request is all that is asked. -/
theorem of_singleton {op : Operation α} (r : Request) (hr : P r)
    (h : ∀ es result, op.Transcript es result → ∃ answer, es = [⟨r, answer⟩]) :
    Ensures P (fun _ => True) op where
  asks es result t := by
    obtain ⟨answer, rfl⟩ := h es result t
    intro x hx
    rw [List.mem_singleton.1 hx]
    exact hr
  returns _ _ _ := trivial

protected theorem view {v : View} (h : P (.view v)) : Ensures P (fun _ => True) (view v) :=
  of_singleton (.view v) h fun _ result t => ⟨result, transcript_view.1 t⟩

protected theorem prepare {p : Plan} (h : P (.prepare p)) :
    Ensures P (fun _ => True) (prepare p) :=
  of_singleton (.prepare p) h fun _ result t => ⟨result, transcript_prepare.1 t⟩

protected theorem send {c : Call} (h : P (.send c)) : Ensures P (fun _ => True) (send c) :=
  of_singleton (.send c) h fun _ result t => ⟨result, transcript_send.1 t⟩

protected theorem nonce {opener : Address} (h : P (.nonce opener)) :
    Ensures P (fun _ => True) (nonce opener) :=
  of_singleton (.nonce opener) h fun _ _ t => (transcript_nonce.1 t).imp fun _ h => h.1

theorem signState {hash : Hash} {context : SigningContext} (h : P (.signState hash context)) :
    Ensures P (fun _ => True) (sign (.perform (.signState hash context))) :=
  of_singleton (.signState hash context) h fun _ _ t => by
    obtain ⟨answer, t, -⟩ := transcript_sign.1 t
    exact ⟨answer, Flow.transcript_perform.1 t⟩

theorem signHash {party : Party} {hash : Hash} (h : P (.signHash party hash)) :
    Ensures P (fun _ => True) (sign (.perform (.signHash party hash))) :=
  of_singleton (.signHash party hash) h fun _ _ t => by
    obtain ⟨answer, t, -⟩ := transcript_sign.1 t
    exact ⟨answer, Flow.transcript_perform.1 t⟩

end Ensures

end PaymentChannel.Operation
