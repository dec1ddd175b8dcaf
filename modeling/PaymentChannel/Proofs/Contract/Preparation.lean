import PaymentChannel.Proofs.Contract.Ensures

/-!
# What operations have prepared

The calls that are prepared in the course of an operation, along with the plans that they were asked
for, are read off its transcript (`preparations`). An operation *prepares* as a relation has it if,
whatever is answered, its preparations and its result are related whenever it does not fail. The
relation is built up along the steps: each step adds its own preparations to those before it.
-/

namespace PaymentChannel

/-- The call that was prepared in an exchange, with its plan. -/
def Exchange.preparation? : Exchange → Option (Plan × Call)
  | ⟨.prepare p, .ok call⟩ => some (p, call)
  | _ => none

/-- The calls that were prepared, with their plans, in order. -/
def preparations (es : List Exchange) : List (Plan × Call) :=
  es.filterMap Exchange.preparation?

theorem preparations_append (es fs : List Exchange) :
    preparations (es ++ fs) = preparations es ++ preparations fs := List.filterMap_append

namespace Operation

variable {α β : Type} {R : List (Plan × Call) → α → Prop} {S : List (Plan × Call) → β → Prop}

/-- Whatever is answered, what has been prepared when the operation returns is related to what it
    returns. -/
def Prepares (R : List (Plan × Call) → α → Prop) (op : Operation α) : Prop :=
  ∀ es a, op.Transcript es (.ok a) → R (preparations es) a

namespace Prepares

protected theorem pure {a : α} (h : R [] a) : Prepares R (pure a) := by
  intro es b t
  obtain ⟨rfl, hb⟩ := transcript_pure.1 t
  cases hb
  exact h

/-- What is prepared on the way adds to what was prepared before. -/
protected theorem bind {op : Operation α} {f : α → Operation β} (hop : Prepares R op)
    (hf : ∀ ps a, R ps a → Prepares (fun qs => S (ps ++ qs)) (f a)) : Prepares S (op >>= f) := by
  intro es b t
  rcases transcript_bind.1 t with ⟨e, -, h⟩ | ⟨before, after, a, rfl, first, second⟩
  · exact nomatch h
  · rw [preparations_append]
    exact hf _ a (hop before a first) after b second

protected theorem adapt {op : Operation α} (hop : Prepares R op) (f : Error → Error) :
    Prepares R (op.adapt f) := by
  intro es a t
  obtain ⟨r | b, t, h⟩ := transcript_adapt.1 t
  · exact nomatch h
  · cases h
    exact hop es a t

theorem mono {R' : List (Plan × Call) → α → Prop} {op : Operation α} (hop : Prepares R op)
    (h : ∀ ps a, R ps a → R' ps a) : Prepares R' op :=
  fun es a t => h _ a (hop es a t)

protected theorem prepare {p : Plan} :
    Prepares (fun ps call => ps = [(p, call)]) (prepare p) := by
  intro es call t
  obtain rfl := transcript_prepare.1 t
  rfl

/-- What is returned at last is made up of what was returned before. -/
theorem bind_pure {op : Operation α} {f : α → β} (hop : Prepares (fun ps a => S ps (f a)) op) :
    Prepares S (op >>= fun a => pure (f a)) :=
  hop.bind fun ps a h => .pure (by rwa [List.append_nil])

end Prepares

end Operation

end PaymentChannel
