import PaymentChannel.Assets
import PaymentChannel.Proofs.Contract.Failure

/-!
# Transcripts of operations on assets

What an operation on assets does shows in its exchanges and in the cache that it leaves behind, also
if it fails. An `AssetCommand` is anything that can be done with assets. All that one of them asks
is to read a token, so a condition on exchanges that carries over from step to step holds of all of
them as soon as it holds of a reading (`AssetCommand.obeys_perform`).
-/

namespace PaymentChannel

namespace AssetOperation

variable {α β : Type} {cache after : AssetCache} {es : List Exchange} {result : Except Error α}

/-- From a cache to a result or an error and to another cache, the exchanges can be these. -/
def Transcript (op : AssetOperation α) (cache : AssetCache) (es : List Exchange)
    (result : Except Error α) (after : AssetCache) : Prop :=
  (op.run.run cache).Transcript es (result, after)

/-- What asks for nothing leaves the cache as it is. -/
theorem transcript_pure {a : α} :
    Transcript (pure a) cache es result after ↔ es = [] ∧ result = .ok a ∧ after = cache := by
  refine Flow.transcript_pure.trans (and_congr_right' ?_)
  exact Prod.mk.injEq .. ▸ Iff.rfl

/-- Of two operations, the second one finds the cache that the first one leaves behind, unless that
    ends with an error. -/
theorem transcript_bind {op : AssetOperation α} {f : α → AssetOperation β}
    {result : Except Error β} :
    Transcript (op >>= f) cache es result after ↔
      (∃ e, op.Transcript cache es (.error e) after ∧ result = .error e) ∨
      ∃ before later a middle, es = before ++ later ∧ op.Transcript cache before (.ok a) middle ∧
        (f a).Transcript middle later result after := by
  change Flow.Transcript (op.run.run cache >>= fun (r, middle) => (ExceptT.bindCont f r).run middle)
    es (result, after) ↔ _
  rw [Flow.transcript_bind]
  constructor
  · rintro ⟨before, later, ⟨e | a, middle⟩, rfl, first, second⟩
    · obtain ⟨rfl, h⟩ := Flow.transcript_pure.1 second
      cases h
      exact .inl ⟨e, by rwa [List.append_nil], rfl⟩
    · exact .inr ⟨before, later, a, middle, rfl, first, second⟩
  · rintro (⟨e, first, rfl⟩ | ⟨before, later, a, middle, rfl, first, second⟩)
    · exact ⟨es, [], (.error e, after), (List.append_nil es).symm, first, .done _⟩
    · exact ⟨before, later, (.ok a, middle), rfl, first, second⟩

/-- An operation that remembers nothing leaves the cache as it is. -/
theorem transcript_lift {op : Operation α} :
    (lift op).Transcript cache es result after ↔ op.Transcript es result ∧ after = cache := by
  change Flow.Transcript (op.run >>= fun r => pure (r, cache)) es (result, after) ↔ _
  rw [Flow.transcript_bind]
  constructor
  · rintro ⟨before, later, r, rfl, first, second⟩
    obtain ⟨rfl, h⟩ := Flow.transcript_pure.1 second
    cases h
    exact ⟨by rwa [List.append_nil], rfl⟩
  · rintro ⟨first, rfl⟩
    exact ⟨es, [], result, (List.append_nil es).symm, first, .done _⟩

/-- To look at the cache leaves it as it is. -/
theorem transcript_get {result : Except Error AssetCache} :
    Transcript get cache es result after ↔ es = [] ∧ result = .ok cache ∧ after = cache := by
  refine Flow.transcript_pure.trans (and_congr_right' ?_)
  exact Prod.mk.injEq .. ▸ Iff.rfl

/-- To look at the cache and change it asks for nothing. -/
theorem transcript_modifyGet {f : AssetCache → α × AssetCache} :
    Transcript (modifyGet f) cache es result after ↔
      es = [] ∧ result = .ok (f cache).1 ∧ after = (f cache).2 := by
  refine Flow.transcript_pure.trans (and_congr_right' ?_)
  exact Prod.mk.injEq .. ▸ Iff.rfl

/-- To change the cache asks for nothing. -/
theorem transcript_modify {f : AssetCache → AssetCache} {result : Except Error PUnit} :
    Transcript (modify f) cache es result after ↔
      es = [] ∧ result = .ok ⟨⟩ ∧ after = f cache :=
  transcript_modifyGet

/-! ## Conditions on exchanges -/

variable {I : List Exchange → Option Error → Prop}

/-- Whatever is answered and remembered, the exchanges of an operation satisfy `I`. -/
def Obeys (I : List Exchange → Option Error → Prop) (op : AssetOperation α) : Prop :=
  ∀ cache es result after, op.Transcript cache es result after → I es (failureOf result)

namespace Obeys

variable (hI : Operation.Sequential I)

include hI

/-- An operation without requests obeys. -/
protected theorem pure (a : α) : Obeys I (pure a) := by
  intro cache es result after t
  obtain ⟨rfl, rfl, -⟩ := transcript_pure.1 t
  exact hI.nil

protected theorem get : Obeys I get := by
  intro cache es result after t
  obtain ⟨rfl, rfl, -⟩ := transcript_get.1 t
  exact hI.nil

/-- What is done to the cache obeys, since nothing is asked. -/
protected theorem modifyGet (f : AssetCache → α × AssetCache) : Obeys I (modifyGet f) := by
  intro cache es result after t
  obtain ⟨rfl, rfl, -⟩ := transcript_modifyGet.1 t
  exact hI.nil

protected theorem modify (f : AssetCache → AssetCache) : Obeys I (modify f) :=
  Obeys.modifyGet hI _

/-- Operations one after the other obey if each of them does. -/
protected theorem bind {op : AssetOperation α} {f : α → AssetOperation β} (hop : Obeys I op)
    (hf : ∀ a, Obeys I (f a)) : Obeys I (op >>= f) := by
  intro cache es result after t
  rcases transcript_bind.1 t with ⟨e, first, rfl⟩ | ⟨before, later, a, middle, rfl, first, second⟩
  · exact hop cache es (.error e) after first
  · exact hI.append (hop cache before (.ok a) middle first) (hf a middle later result after second)

omit hI

/-- What remembers nothing obeys as it did. -/
protected theorem lift {op : Operation α} (hop : op.Obeys I) : Obeys I (lift op) := by
  intro cache es result after t
  exact hop es result (transcript_lift.1 t).1

end Obeys

end AssetOperation

/-! ## Commands -/

/-- What can be done with assets. -/
inductive AssetCommand where
  | asset (token : Address)
  | decimals (token : Address)
  | refresh (tokens : List Address)
  | invalidateToken (token : Address)
  | invalidate
  | parseAmount (token : Address) (text : String)
  | formatAmount (token : Address) (units : UInt256)

namespace AssetCommand

/-- What a command returns. -/
def Result : AssetCommand → Type
  | asset _ => Asset
  | decimals _ => UInt8
  | refresh _ | invalidateToken _ | invalidate => Unit
  | parseAmount .. => UInt256
  | formatAmount .. => String

/-- Performs a command. -/
def perform : (command : AssetCommand) → AssetOperation command.Result
  | asset token => AssetOperation.asset token
  | decimals token => AssetOperation.decimals token
  | refresh tokens => AssetOperation.refresh tokens
  | invalidateToken token => AssetOperation.invalidateToken token
  | invalidate => AssetOperation.invalidate
  | parseAmount token text => AssetOperation.parseAmount token text
  | formatAmount token units => AssetOperation.formatAmount token units

end AssetCommand

namespace AssetOperation

variable {I : List Exchange → Option Error → Prop} (hI : Operation.Sequential I)
  (read : ∀ (v : View) context, ((Operation.view v).asRead v.operation context).Obeys I)

include hI read

/-- A token is read by two requests, one after the other. -/
theorem obeys_fetch (token : Address) : Obeys I (fetch token) := by
  refine (Obeys.lift (read (.symbol token) _)).bind hI fun symbol => ?_
  refine (Obeys.lift (read (.decimals token) _)).bind hI fun decimals => ?_
  exact (Obeys.modify hI _).bind hI fun _ => .pure hI _

/-- A token is looked up or read. -/
theorem obeys_asset (token : Address) : Obeys I (asset token) := by
  refine (Obeys.get hI).bind hI fun cache => ?_
  by_cases native : token.isZero
  · rw [if_pos native]
    exact .pure hI cache.native
  · rw [if_neg native]
    refine (Obeys.modifyGet hI _).bind hI fun cached => ?_
    cases cached with
    | some asset => exact .pure hI asset
    | none => exact obeys_fetch hI read token

theorem obeys_decimals (token : Address) : Obeys I (decimals token) :=
  (obeys_asset hI read token).bind hI fun asset => .pure hI asset.decimals

/-- Tokens are read one after the other. -/
theorem obeys_refresh (tokens : List Address) : Obeys I (refresh tokens) := by
  induction tokens with
  | nil => exact .pure hI ()
  | cons token tokens ih =>
    rw [refresh]
    cases token.isZero with
    | true => exact ih
    | false => exact (obeys_fetch hI read token).bind hI fun _ => ih

end AssetOperation

namespace AssetCommand

variable {I : List Exchange → Option Error → Prop}

/-- What holds of a reading, and of a text that is no amount, holds of all commands. -/
theorem obeys_perform (hI : Operation.Sequential I)
    (read : ∀ (v : View) context, ((Operation.view v).asRead v.operation context).Obeys I)
    (malformed : ∀ text e, I [] (some (Error.ofAmount text e))) (command : AssetCommand) :
    command.perform.Obeys I := by
  cases command with
  | asset token => exact AssetOperation.obeys_asset hI read token
  | decimals token => exact AssetOperation.obeys_decimals hI read token
  | refresh tokens => exact AssetOperation.obeys_refresh hI read tokens
  | invalidateToken token => exact .modify hI _
  | invalidate => exact .modify hI _
  | parseAmount token text =>
    refine (AssetOperation.obeys_decimals hI read token).bind hI fun places => .lift ?_
    refine Operation.Obeys.ofExcept hI fun e h => ?_
    rw [toBaseUnits] at h
    cases parsed : Amount.parse text places with
    | ok units => rw [parsed] at h; exact nomatch h
    | error reason =>
      rw [parsed] at h
      cases h
      exact malformed text reason
  | formatAmount token units =>
    exact (AssetOperation.obeys_decimals hI read token).bind hI fun places => .pure hI _

end AssetCommand

end PaymentChannel
