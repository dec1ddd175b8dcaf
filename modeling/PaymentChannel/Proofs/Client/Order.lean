import PaymentChannel.Client.Opening
import PaymentChannel.Proofs.Contract.Ensures
import PaymentChannel.Proofs.Contract.Failure
import PaymentChannel.Proofs.Net.Answers

/-!
# Orders

A signature cannot be taken back, so an operation is to have one made only when nothing is left that
it could find fault with. An `Order` is what a signer may be asked to sign for: the state that a
channel is created or closed with, or one that is disputed. It fixes what is signed
(`Order.request`), what the contract is handed with the signature (`Order.plan`), and what is made
of it (`Order.artifact`).

* `SigningCourse`: how an operation that has a single order signed can go;
* `Operation.Signs`: that it always goes so, with a rule for each way in which operations are put
  together. Before the order, all steps are *quiet*, and after it, they *complete* it.
-/

namespace PaymentChannel

/-- Whether a signer is asked. -/
def Request.isSigning : Request → Bool
  | signState .. | signHash .. => true
  | _ => false

/-- Without requests to sign, there are no signatures. -/
theorem signings_of_unsigned {es : List Exchange}
    (unsigned : ∀ x ∈ es, x.request.isSigning = false) : signings es = [] := by
  refine List.filterMap_eq_nil_iff.2 fun x hx => ?_
  obtain ⟨r, answer⟩ := x
  cases r with
  | signState | signHash => exact nomatch unsigned _ hx
  | view | prepare | send | nonce => rfl

/-- What a signature is for. -/
inductive Artifact where
  | channel (prepared : PreparedChannel)
  | state (s : State)
  | signature (signature : Signature)

/-- What a signer is asked to sign for. -/
inductive Order where
  | creation (id : ChannelId) (definition : Definition) (initial : State)
  /-- The other signatures are there already. -/
  | closing (id : ChannelId) (final : State) (others : List Signature)
  | dispute (party : Party) (id : ChannelId) (candidate : State) (proofs : List State)

namespace Order

/-- The channel in question. -/
def id : Order → ChannelId
  | creation id .. | closing id .. | dispute _ id .. => id

/-- What the signer is asked for a state. -/
def stateRequest (id : ChannelId) (s : State) : Except Abi.Error SigningRequest :=
  (fun hash => ⟨.own, hash, some ⟨id, s.protocol, s.version, s.intent, .state⟩⟩) <$> stateHash id s

/-- What the signer is asked. -/
def request : Order → Except Abi.Error SigningRequest
  | creation id _ s | closing id s _ => stateRequest id s
  | dispute party id candidate _ => (⟨party, ·, none⟩) <$> challengeHash id candidate

/-- What the contract is then asked to prepare. -/
def plan (signature : Signature) : Order → Plan
  | creation _ d s => .createChannel d (s.withSignatures signature [])
  | closing id s others => .close id (s.withSignatures signature others) []
  | dispute _ id candidate proofs => .challenge id candidate proofs signature

/-- What is made of the signature. -/
def artifact (signature : Signature) : Order → Artifact
  | creation id d s => .channel ⟨id, d, s.withSignatures signature []⟩
  | closing _ s others => .state (s.withSignatures signature others)
  | dispute .. => .signature signature

/-- What may still be asked once the signature is there: the plan, and to send calls. -/
def Follows (order : Order) (signature : Signature) : Request → Prop
  | .prepare p => p = order.plan signature
  | .send _ => True
  | _ => False

/-- The order of a prepared channel is for its creation. -/
theorem plan_of_artifact_channel {order : Order} {signature : Signature}
    {prepared : PreparedChannel} (h : order.artifact signature = .channel prepared) :
    order.plan signature = .createChannel prepared.definition prepared.initial := by
  cases order with
  | creation id d s =>
    cases h
    rfl
  | closing | dispute => exact nomatch h

/-- Nothing that follows an order is signed. -/
theorem Follows.isSigning_eq {order : Order} {signature : Signature} {r : Request}
    (h : order.Follows signature r) : r.isSigning = false := by
  cases r with
  | view | prepare | send | nonce => rfl
  | signState | signHash => exact h.elim

end Order

/-- Nothing is signed, handed to the contract or sent. -/
def Request.IsQuiet : Request → Prop
  | view _ | nonce _ => True
  | prepare p => p.submission? = none
  | send _ | signState .. | signHash .. => False

/-- Quiet requests are not for signatures. -/
theorem Request.IsQuiet.isSigning_eq {r : Request} (h : r.IsQuiet) : r.isSigning = false := by
  cases r with
  | view | prepare | send | nonce => rfl
  | signState | signHash => exact h.elim

/-- How an operation can go that has a single order signed, with the exchanges and the result. After
    which exchanges the order is placed, and what is returned for it, is up to the operation. -/
inductive SigningCourse {α : Type} (Places : List Exchange → Order → Prop)
    (Yields : Order → Signature → α → Prop) : List Exchange → Except Error α → Prop where
  /-- The operation fails before, in a check or because of an answer. No signer is asked. -/
  | refused (es : List Exchange) (e : Error) (quiet : ∀ x ∈ es, x.request.IsQuiet) :
      SigningCourse Places Yields es (.error e)
  /-- The signer is asked for the order and fails, and this is the end. -/
  | declined (before : List Exchange) (order : Order) (request : SigningRequest) (x : Exchange)
      (reason : SignError) (placed : Places before order)
      (quiet : ∀ y ∈ before, y.request.IsQuiet) (request_eq : order.request = .ok request)
      (asked : x.signing? = some (request, .error reason)) :
      SigningCourse Places Yields (before ++ [x]) (.error (.signing reason))
  /-- The signer signs the order. After that only answers can make the operation fail. -/
  | signed (before : List Exchange) (order : Order) (request : SigningRequest) (x : Exchange)
      (signature : Signature) (after : List Exchange) (result : Except Error α)
      (placed : Places before order) (quiet : ∀ y ∈ before, y.request.IsQuiet)
      (request_eq : order.request = .ok request)
      (asked : x.signing? = some (request, .ok signature))
      (follows : ∀ y ∈ after, order.Follows signature y.request)
      (yields : ∀ a, result = .ok a → Yields order signature a)
      (fails : ∀ e, result = .error e → ∃ y ∈ after, y.failure?.isSome) :
      SigningCourse Places Yields (before ++ x :: after) result

namespace SigningCourse

variable {α β : Type} {Places : List Exchange → Order → Prop}
  {Yields : Order → Signature → α → Prop} {es : List Exchange}

/-- A signer is asked at most once, and for an order that is placed. -/
theorem signings_eq {result : Except Error α} (h : SigningCourse Places Yields es result) :
    signings es = [] ∨ ∃ before order request, before <+: es ∧ Places before order ∧
      order.request = .ok request ∧ signings es = [request] := by
  have signings_before {before : List Exchange} (quiet : ∀ y ∈ before, y.request.IsQuiet) :
      signings before = [] := signings_of_unsigned fun y hy => (quiet y hy).isSigning_eq
  have signings_single {x : Exchange} {request : SigningRequest}
      {answer : Except SignError Signature} (asked : x.signing? = some (request, answer)) :
      signings [x] = [request] := by simp [signings, asked]
  -- Only the exchange with the signer counts: before it all is quiet, and after it none is asked.
  cases h with
  | refused es e quiet => exact .inl (signings_before quiet)
  | declined before order request x reason placed quiet request_eq asked =>
    refine .inr ⟨before, order, request, List.prefix_append _ _, placed, request_eq, ?_⟩
    rw [signings_append, signings_before quiet, signings_single asked, List.nil_append]
  | signed before order request x signature after _ placed quiet request_eq asked follows =>
    refine .inr ⟨before, order, request, List.prefix_append _ _, placed, request_eq, ?_⟩
    rw [List.append_cons, signings_append, signings_append, signings_before quiet,
      signings_single asked, signings_of_unsigned fun y hy => (follows y hy).isSigning_eq]
    rfl

/-- If the operation fails, so does whatever relies on what it returns. An error that a signer
    reported stays the same, however others are classified. -/
theorem error {e : Error} (h : SigningCourse Places Yields es (.error e)) {f : Error → Error}
    (signing : ∀ reason, f (.signing reason) = .signing reason)
    {Yields' : Order → Signature → β → Prop} : SigningCourse Places Yields' es (.error (f e)) := by
  cases h with
  | refused _ _ quiet => exact .refused es (f e) quiet
  | declined before order request x reason placed quiet request_eq asked =>
    rw [signing reason]
    exact .declined before order request x reason placed quiet request_eq asked
  | signed before order request x signature after _ placed quiet request_eq asked follows _ fails =>
    exact .signed before order request x signature after _ placed quiet request_eq asked follows
      nofun fun _ _ => fails e rfl

/-- Quiet exchanges before change only where the order is placed. -/
theorem after {first : List Exchange} {result : Except Error α}
    (quiet : ∀ x ∈ first, x.request.IsQuiet)
    (h : SigningCourse (fun before => Places (first ++ before)) Yields es result) :
    SigningCourse Places Yields (first ++ es) result := by
  have both {before : List Exchange} (later : ∀ x ∈ before, x.request.IsQuiet) :
      ∀ x ∈ first ++ before, x.request.IsQuiet := fun x hx =>
    (List.mem_append.1 hx).elim (quiet x) (later x)
  cases h with
  | refused _ e later => exact .refused _ e (both later)
  | declined before order request x reason placed later request_eq asked =>
    rw [← List.append_assoc]
    exact .declined _ order request x reason placed (both later) request_eq asked
  | signed before order request x signature rest _ placed later request_eq asked follows yields
      fails =>
    rw [← List.append_assoc]
    exact .signed _ order request x signature rest _ placed (both later) request_eq asked follows
      yields fails

end SigningCourse

/-- An operation that fails does so because of an answer. -/
def FailuresAnswered (es : List Exchange) (outcome : Option Error) : Prop :=
  ∀ e, outcome = some e → ∃ x ∈ es, x.failure?.isSome

/-- Failures are answered one after the other. -/
theorem FailuresAnswered.sequential : Operation.Sequential FailuresAnswered where
  nil := nofun
  append {before after outcome} _ second e h := by
    obtain ⟨x, hx, failed⟩ := second e h
    exact ⟨x, List.mem_append_right _ hx, failed⟩

namespace Operation

variable {α β : Type} {Places : List Exchange → Order → Prop}
  {Yields : Order → Signature → α → Prop}

/-! ## Completing an order -/

/-- With the signature at hand, an operation does no more than complete the order, and only answers
    make it fail. -/
structure Completes (order : Order) (signature : Signature) (Q : α → Prop) (op : Operation α) :
    Prop where
  ensures : op.Ensures (order.Follows signature) Q
  fails : op.Obeys FailuresAnswered

namespace Completes

variable {order : Order} {signature : Signature} {Q : α → Prop} {R : β → Prop}

/-- What asks for nothing completes any order. -/
protected theorem pure {a : α} (h : Q a) : Completes order signature Q (pure a) where
  ensures := .pure h
  fails := .pure FailuresAnswered.sequential a

/-- A weaker result is completed as well. -/
theorem mono {Q' : α → Prop} {op : Operation α} (hop : Completes order signature Q op)
    (h : ∀ a, Q a → Q' a) : Completes order signature Q' op where
  ensures := hop.ensures.mono h
  fails := hop.fails

/-- Operations one after the other complete an order if each of them does. -/
protected theorem bind {op : Operation α} {f : α → Operation β}
    (hop : Completes order signature Q op) (hf : ∀ a, Completes order signature R (f a)) :
    Completes order signature R (op >>= f) where
  ensures := hop.ensures.bind fun a _ => (hf a).ensures
  fails := hop.fails.bind FailuresAnswered.sequential fun a => (hf a).fails

/-- To prepare the plan of an order completes it. -/
protected theorem prepare {p : Plan} (h : p = order.plan signature) (f : Error → Error) :
    Completes order signature (fun _ => True) ((prepare p).adapt f) where
  ensures := (Ensures.prepare h).adapt f
  fails := .prepare fun answer => by
    cases answer with
    | ok call => nofun
    | error e => exact fun _ _ => ⟨_, List.mem_singleton_self _, rfl⟩

/-- To send a call completes any order. -/
protected theorem send (c : Call) (f : Error → Error) :
    Completes order signature (fun _ => True) ((send c).adapt f) where
  ensures := (Ensures.send trivial).adapt f
  fails := .send fun answer => by
    cases answer with
    | ok hash => nofun
    | error e => exact fun _ _ => ⟨_, List.mem_singleton_self _, rfl⟩

end Completes

/-! ## Having an order signed -/

/-- Whatever is answered, the operation has a single order signed. -/
def Signs (Places : List Exchange → Order → Prop) (Yields : Order → Signature → α → Prop)
    (op : Operation α) : Prop :=
  ∀ es result, op.Transcript es result → SigningCourse Places Yields es result

namespace Signs

/-- A signer is asked for an order. -/
protected theorem sign {flow : Flow (Except SignError Signature)} {order : Order}
    {request : SigningRequest} (placed : Places [] order) (request_eq : order.request = .ok request)
    (asked : ∀ es answer, flow.Transcript es answer →
      ∃ x : Exchange, es = [x] ∧ x.signing? = some (request, answer)) :
    (Operation.sign flow).Signs Places fun o signature a => o = order ∧ a = signature := by
  intro es result t
  obtain ⟨answer, first, rfl⟩ := transcript_sign.1 t
  obtain ⟨x, rfl, signing_eq⟩ := asked es answer first
  cases answer with
  | ok signature =>
    exact .signed [] order request x signature [] (.ok signature) placed (List.forall_mem_nil _)
      request_eq signing_eq (List.forall_mem_nil _) (fun a h => ⟨rfl, (Except.ok.inj h).symm⟩)
      fun e h => nomatch h
  | error reason =>
    exact .declined [] order request x reason placed (List.forall_mem_nil _) request_eq signing_eq

/-- What follows completes the order. -/
protected theorem bind {Yields' : Order → Signature → β → Prop} {op : Operation α}
    {f : α → Operation β} (hop : op.Signs Places Yields)
    (hf : ∀ order signature a, Yields order signature a →
      Completes order signature (Yields' order signature) (f a)) :
    (op >>= f).Signs Places Yields' := by
  intro es result t
  rcases transcript_bind.1 t with ⟨e, first, rfl⟩ | ⟨es, later, a, rfl, first, second⟩
  · exact (hop es _ first).error (f := id) fun _ => rfl
  · -- As the operation has not failed, the order has been signed.
    cases hop es _ first with
    | signed before order request x signature after _ placed quiet request_eq asked follows
        yields =>
      have completes := hf order signature a (yields a rfl)
      rw [List.append_assoc]
      refine .signed before order request x signature (after ++ later) result placed quiet
        request_eq asked (fun y hy => ?_) (fun b h => ?_) fun e h => ?_
      · rcases List.mem_append.1 hy with hy | hy
        · exact follows y hy
        · exact completes.ensures.asks later result second y hy
      · subst h
        exact completes.ensures.returns later b second
      · subst h
        obtain ⟨y, hy, failed⟩ := completes.fails later _ second e rfl
        exact ⟨y, List.mem_append_right _ hy, failed⟩

/-- What comes before is quiet. -/
theorem after {Yields' : Order → Signature → β → Prop} {Q : α → Prop} {op : Operation α}
    {f : α → Operation β} (quiet : op.Ensures Request.IsQuiet Q)
    (hf : ∀ first a, op.Transcript first (.ok a) → Q a →
      (f a).Signs (fun before => Places (first ++ before)) Yields') :
    (op >>= f).Signs Places Yields' := by
  intro es result t
  rcases transcript_bind.1 t with ⟨e, first, rfl⟩ | ⟨first, later, a, rfl, before, second⟩
  · -- The order is not even placed.
    exact .refused es e (quiet.asks es _ first)
  · exact .after (quiet.asks first _ before)
      (hf first a before (quiet.returns first a before) later result second)

/-- What is checked before asks nothing. -/
theorem after_ofExcept {Yields' : Order → Signature → β → Prop} {x : Except Error α}
    {f : α → Operation β} (hf : ∀ a, x = .ok a → (f a).Signs Places Yields') :
    (ofExcept x >>= f).Signs Places Yields' := by
  refine after (Q := fun a => x = .ok a) (.ofExcept fun a h => h) fun first a t h => ?_
  obtain ⟨rfl, -⟩ := transcript_ofExcept.1 t
  exact hf a h

/-- An encoding comes before a signature without a request. -/
theorem after_ofEncoding {Yields' : Order → Signature → β → Prop} {x : Except Abi.Error α}
    {f : α → Operation β} (hf : ∀ a, x = .ok a → (f a).Signs Places Yields') :
    (ofEncoding x >>= f).Signs Places Yields' := by
  refine after_ofExcept fun a h => ?_
  cases x with
  | ok b =>
    cases h
    exact hf a rfl
  | error e => exact nomatch h

/-- How errors are classified does not matter to that of a signer. -/
theorem asCall {op : Operation α} (hop : op.Signs Places Yields) (operation context : String) :
    (op.asCall operation context).Signs Places Yields := by
  intro es result t
  obtain ⟨r, first, rfl⟩ := transcript_adapt.1 t
  have course := hop es r first
  cases r with
  | ok a => exact course
  | error e => exact course.error (f := Error.asCall operation context) fun _ => rfl

/-- A weaker result is signed for as well. -/
theorem mono {Yields' : Order → Signature → α → Prop} {op : Operation α}
    (hop : op.Signs Places Yields)
    (h : ∀ order signature a, Yields order signature a → Yields' order signature a) :
    op.Signs Places Yields' := by
  rw [← bind_pure op]
  exact hop.bind fun order signature a yields => .pure (h order signature a yields)

/-- What is signed in some places is signed in any that hold them. -/
theorem of_places {Places' : List Exchange → Order → Prop} {op : Operation α}
    (hop : op.Signs Places Yields)
    (h : ∀ before order, Places before order → Places' before order) :
    op.Signs Places' Yields := by
  intro es result t
  cases hop es result t with
  | refused _ e quiet => exact .refused es e quiet
  | declined before order request x reason placed quiet request_eq asked =>
    exact .declined before order request x reason (h _ _ placed) quiet request_eq asked
  | signed before order request x signature after _ placed quiet request_eq asked follows yields
      fails =>
    exact .signed before order request x signature after _ (h _ _ placed) quiet request_eq asked
      follows yields fails

end Signs

end Operation

end PaymentChannel
