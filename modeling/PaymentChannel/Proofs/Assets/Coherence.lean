import Mathlib.Data.List.Induction
import PaymentChannel.Proofs.Assets.Reading
import PaymentChannel.Proofs.Client.Command

/-!
# What is remembered of tokens

A wrong number of decimals makes amounts wrong by powers of ten, so it matters what of a token is
remembered, and since when. Entries stay for as long as nobody has them forgotten; one whose
lifetime has run out is passed over when the token is looked up, and stays until the token is read
again. Whatever is done with a cache, whatever the contracts answer and whatever the clock shows:

* a token is remembered just if it has been read after it was last to be forgotten, and then as it
  was last read (`CacheEvent`, `Latest`);
* the native asset is always that of the configuration, and its address is never read;
* what is done about one token leaves the others as they are.

A `History` is what has been done with a cache, with all exchanges. What has been read shows in the
exchanges alone (`learnings`), and so do all events of a history.
-/

namespace PaymentChannel

/-! ## Events -/

/-- What can happen to what is remembered. -/
inductive CacheEvent where
  /-- The token has been read, both its symbol and its decimals. -/
  | learned (token : Address) (asset : Asset)
  | forgotten (token : Address)
  | allForgotten

namespace CacheEvent

variable (token other : Address) (asset : Asset)

/-- Whether the event ends what is remembered of the token. -/
def Invalidates : CacheEvent → Prop
  | learned _ _ => False
  | forgotten other => token = other
  | allForgotten => True

/-- Whether the event has to do with the token. -/
def Concerns : CacheEvent → Prop
  | learned other _ => token = other
  | forgotten other => token = other
  | allForgotten => True

@[simp] theorem not_invalidates_learned : ¬(learned other asset).Invalidates token := id

@[simp] theorem invalidates_forgotten : (forgotten other).Invalidates token ↔ token = other :=
  Iff.rfl

@[simp] theorem invalidates_allForgotten : allForgotten.Invalidates token := trivial

@[simp] theorem concerns_learned : (learned other asset).Concerns token ↔ token = other := Iff.rfl

@[simp] theorem concerns_forgotten : (forgotten other).Concerns token ↔ token = other := Iff.rfl

@[simp] theorem concerns_allForgotten : allForgotten.Concerns token := trivial

end CacheEvent

namespace AssetCache

/-- Has an event happen. -/
def apply (cache : AssetCache) : CacheEvent → AssetCache
  | .learned token asset => cache.insert token asset
  | .forgotten token => cache.erase token
  | .allForgotten => cache.clear

@[simp] theorem native_apply (cache : AssetCache) (event : CacheEvent) :
    (cache.apply event).native = cache.native := by
  cases event <;> rfl

@[simp] theorem lifetime_apply (cache : AssetCache) (event : CacheEvent) :
    (cache.apply event).lifetime = cache.lifetime := by
  cases event <;> rfl

/-- A token that is learned is known from then on, and no other one changes. -/
@[simp] theorem find?_apply_learned (cache : AssetCache) (token other : Address) (asset : Asset) :
    (cache.apply (.learned other asset)).find? token =
      if token = other then some asset else cache.find? token :=
  cache.find?_insert other token asset

/-- A token that is forgotten is unknown from then on, and no other one changes. -/
@[simp] theorem find?_apply_forgotten (cache : AssetCache) (token other : Address) :
    (cache.apply (.forgotten other)).find? token =
      if token = other then none else cache.find? token :=
  cache.find?_erase other token

/-- No token is known once all are forgotten. -/
@[simp] theorem find?_apply_allForgotten (cache : AssetCache) (token : Address) :
    (cache.apply .allForgotten).find? token = none := rfl

/-- The caches remember the same, if not since the same time. -/
structure Alike (cache cache' : AssetCache) : Prop where
  native_eq : cache.native = cache'.native
  lifetime_eq : cache.lifetime = cache'.lifetime
  find?_eq : ∀ token, cache.find? token = cache'.find? token

namespace Alike

variable {cache cache' cache'' : AssetCache}

protected theorem refl (cache : AssetCache) : Alike cache cache := ⟨rfl, rfl, fun _ => rfl⟩

protected theorem trans (h : Alike cache cache') (h' : Alike cache' cache'') :
    Alike cache cache'' :=
  ⟨h.native_eq.trans h'.native_eq, h.lifetime_eq.trans h'.lifetime_eq,
    fun token => (h.find?_eq token).trans (h'.find?_eq token)⟩

/-- What happens to them changes caches alike. -/
theorem apply (h : Alike cache cache') (event : CacheEvent) :
    Alike (cache.apply event) (cache'.apply event) where
  native_eq := by rw [native_apply, native_apply, h.native_eq]
  lifetime_eq := by rw [lifetime_apply, lifetime_apply, h.lifetime_eq]
  find?_eq token := by cases event <;> simp [h.find?_eq]

/-- Caches that are alike stay so if the same happens to them. -/
theorem foldl (h : Alike cache cache') (events : List CacheEvent) :
    Alike (events.foldl AssetCache.apply cache) (events.foldl AssetCache.apply cache') := by
  induction events generalizing cache cache' with
  | nil => exact h
  | cons event events ih => exact ih (h.apply event)

end Alike

/-- To look a token up changes nothing but the clock. -/
theorem alike_of_cached {cache after : AssetCache} {token : Address} {found : Option Asset}
    (h : cache.cached token = (found, after)) : Alike after cache := by
  unfold cached at h
  cases entry_eq : cache.entries.lookup token with
  | none =>
    rw [entry_eq] at h
    cases h
    exact .refl cache
  | some entry =>
    cases lifetime_eq : cache.lifetime with
    | none =>
      rw [entry_eq, lifetime_eq] at h
      cases h
      exact .refl cache
    | some lifetime =>
      rw [entry_eq, lifetime_eq] at h
      cases h
      exact ⟨rfl, rfl, fun _ => rfl⟩

/-- Learning tokens one after the other puts all of them into the cache. -/
theorem foldl_apply_learned (cache : AssetCache) (learned : List (Address × Asset)) :
    (learned.map fun l => CacheEvent.learned l.1 l.2).foldl apply cache =
      cache.insertAll learned := by
  rw [List.foldl_map]
  rfl

end AssetCache

/-- The event is among the events, and none after it satisfies `P`. -/
def Latest (P : CacheEvent → Prop) (event : CacheEvent) (events : List CacheEvent) : Prop :=
  ∃ before after, events = before ++ event :: after ∧ ∀ later ∈ after, ¬P later

/-- Nothing is the latest of no events. -/
theorem not_latest_nil {P : CacheEvent → Prop} {event : CacheEvent} : ¬Latest P event [] := by
  rintro ⟨before, after, h, -⟩
  exact absurd h.symm (by simp)

/-- The last event is latest, or else one before it is and the last one does not count. -/
theorem latest_append_singleton {P : CacheEvent → Prop} {event last : CacheEvent}
    {events : List CacheEvent} :
    Latest P event (events ++ [last]) ↔ event = last ∨ Latest P event events ∧ ¬P last := by
  constructor
  · rintro ⟨before, after, h, none⟩
    rcases List.eq_nil_or_concat after with rfl | ⟨after, last', rfl⟩
    · exact .inl (List.singleton_inj.1 (List.append_inj' h rfl).2).symm
    · rw [List.concat_eq_append, ← List.cons_append, ← List.append_assoc] at h
      obtain ⟨rfl, last_eq⟩ := List.append_inj' h rfl
      obtain rfl : last = last' := List.singleton_inj.1 last_eq
      rw [List.concat_eq_append] at none
      exact .inr ⟨⟨before, after, rfl, fun later hl => none later (List.mem_append_left _ hl)⟩,
        none last (List.mem_append_right _ (List.mem_singleton_self _))⟩
  · rintro (rfl | ⟨⟨before, after, rfl, none⟩, hlast⟩)
    · exact ⟨events, [], rfl, fun _ h => absurd h List.not_mem_nil⟩
    · refine ⟨before, after ++ [last], by simp, fun later hl => ?_⟩
      rcases List.mem_append.1 hl with hl | hl
      · exact none later hl
      · exact List.mem_singleton.1 hl ▸ hlast

/-! ## What is remembered after events -/

section Events

variable {cache : AssetCache} {token : Address} (events : List CacheEvent)

/-- The native asset is given with the cache, and nothing that happens changes it. -/
theorem native_foldl : (events.foldl AssetCache.apply cache).native = cache.native := by
  induction events generalizing cache with
  | nil => rfl
  | cons event events ih => exact ih.trans (cache.native_apply event)

/-- Nothing that happens changes how long tokens are kept. -/
theorem lifetime_foldl : (events.foldl AssetCache.apply cache).lifetime = cache.lifetime := by
  induction events generalizing cache with
  | nil => rfl
  | cons event events ih => exact ih.trans (cache.lifetime_apply event)

variable (unknown : cache.find? token = none)

include unknown

/-- A token is remembered as it was last read, if nothing has happened to it since. -/
theorem find?_foldl_eq_some_iff {asset : Asset} :
    (events.foldl AssetCache.apply cache).find? token = some asset ↔
      Latest (CacheEvent.Concerns token) (.learned token asset) events := by
  induction events using List.reverseRecOn with
  | nil =>
    rw [List.foldl_nil, unknown]
    exact ⟨nofun, fun h => (not_latest_nil h).elim⟩
  | append_singleton events event ih =>
    -- If the last event has to do with the token, what happened before it does not matter.
    rw [List.foldl_append, List.foldl_cons, List.foldl_nil, latest_append_singleton, ← ih]
    cases event with
    | learned other asset' => by_cases same : token = other <;> simp [same, eq_comm]
    | forgotten other => by_cases same : token = other <;> simp [same]
    | allForgotten => simp

/-- A token is remembered at all, if it was read after it was last to be forgotten. -/
theorem isSome_find?_foldl_iff :
    ((events.foldl AssetCache.apply cache).find? token).isSome ↔
      ∃ asset, Latest (CacheEvent.Invalidates token) (.learned token asset) events := by
  induction events using List.reverseRecOn with
  | nil =>
    rw [List.foldl_nil, unknown]
    exact ⟨nofun, fun ⟨_, h⟩ => (not_latest_nil h).elim⟩
  | append_singleton events event ih =>
    rw [List.foldl_append, List.foldl_cons, List.foldl_nil]
    simp only [latest_append_singleton]
    cases event with
    | learned other asset => by_cases same : token = other <;> simp [same, ← ih]
    | forgotten other => by_cases same : token = other <;> simp [same, ← ih]
    | allForgotten => simp

end Events

/-! ## Events of exchanges -/

namespace Exchange

/-- The symbol that was read in an exchange. -/
def symbol? : Exchange → Option (Address × String)
  | ⟨.view (.symbol token), .ok symbol⟩ => some (token, symbol)
  | _ => none

/-- The decimals that were read in an exchange. -/
def decimals? : Exchange → Option (Address × UInt8)
  | ⟨.view (.decimals token), .ok decimals⟩ => some (token, decimals)
  | _ => none

/-- The token whose symbol was read in one exchange and whose decimals in the next. -/
def learned? (first second : Exchange) : Option (Address × Asset) := do
  let (token, symbol) ← first.symbol?
  let (other, decimals) ← second.decimals?
  if token = other then some (token, ⟨symbol, decimals⟩) else none

end Exchange

/-- The tokens that were read, in order: first the symbol, and in the next exchange the decimals. -/
def learnings : List Exchange → List (Address × Asset)
  | first :: second :: es => (first.learned? second).toList ++ learnings (second :: es)
  | _ => []

theorem learnings_learning_append (learned : Address × Asset) (es : List Exchange) :
    learnings (Exchange.learning learned ++ es) = learned :: learnings es := by
  have first : (Exchange.symbol learned.1 (.ok learned.2.symbol)).learned?
      (.decimals learned.1 (.ok learned.2.decimals)) = some learned := if_pos rfl
  cases es with
  | nil =>
    rw [List.append_nil, Exchange.learning, learnings, first]
    rfl
  | cons x es =>
    change (Exchange.learned? _ _).toList ++ learnings (x :: es) = _
    rw [first]
    rfl

/-- What has been learned can be told from the exchanges, in order. -/
theorem learnings_flatMap_append (learned : List (Address × Asset)) (es : List Exchange) :
    learnings (learned.flatMap Exchange.learning ++ es) = learned ++ learnings es := by
  induction learned with
  | nil => rfl
  | cons first learned ih =>
    rw [List.flatMap_cons, List.append_assoc, learnings_learning_append, ih, List.cons_append]

/-- A token is learned just if both of its reads succeed. -/
theorem Reading.learnings_eq {token : Address} {es : List Exchange} {result : Except Error Asset}
    (h : Reading token es result) :
    learnings es = (result.toOption.map fun asset => (token, asset)).toList := by
  cases h with
  | nameless reason => rfl
  | placeless symbol reason => rfl
  | complete asset => exact learnings_learning_append (token, asset) []

namespace AssetCommand

/-- What a command has forgotten, whatever is answered. -/
def forgets : AssetCommand → List CacheEvent
  | invalidateToken token => [.forgotten token]
  | invalidate => [.allForgotten]
  | _ => []

/-- What happens to what is remembered in the course of a command with the given exchanges. -/
def events (command : AssetCommand) (es : List Exchange) : List CacheEvent :=
  (learnings es).map (fun l => .learned l.1 l.2) ++ command.forgets

end AssetCommand

open AssetCache (Alike alike_of_cached)

/-- A lookup leaves behind what was there, with what it has learned. -/
theorem Lookup.after_alike {cache after : AssetCache} {token : Address} {es : List Exchange}
    {result : Except Error Asset} (h : Lookup cache token es result after) :
    Alike after (cache.insertAll (learnings es)) := by
  cases h with
  | native zero => exact .refl cache
  | remembered nonzero asset found => exact alike_of_cached found
  | @learned nonzero _ missing _ asset reading =>
    rw [reading.learnings_eq]
    exact (alike_of_cached missing).apply (.learned token asset)
  | failed nonzero missing reading =>
    rw [reading.learnings_eq]
    exact alike_of_cached missing

/-- A refresh puts what it learns into the cache, also if it fails in the middle. -/
theorem Refresh.after_eq {cache after : AssetCache} {tokens : List Address} {es : List Exchange}
    {result : Except Error Unit} (h : Refresh cache tokens es result after) :
    after = cache.insertAll (learnings es) := by
  cases h with
  | complete learned tokens_eq =>
    have learnings_eq := learnings_flatMap_append learned []
    rw [List.append_nil] at learnings_eq
    rw [learnings_eq]
    exact congrArg cache.insertAll (List.append_nil learned).symm
  | interrupted learned failed left tokens_eq reading =>
    rw [learnings_flatMap_append, reading.learnings_eq]
    exact congrArg cache.insertAll (List.append_nil learned).symm

namespace AssetCommand

variable {command : AssetCommand} {cache after : AssetCache} {es : List Exchange}
  {result : Except Error command.Result}

/-- What a command leaves in the cache comes of its events. -/
theorem Does.after_alike (h : command.Does cache es result after) :
    Alike after ((command.events es).foldl AssetCache.apply cache) := by
  rw [events, List.foldl_append, AssetCache.foldl_apply_learned]
  cases command with
  | asset token => exact Lookup.after_alike h
  | decimals token | parseAmount token text | formatAmount token units =>
    obtain ⟨found, lookup, -⟩ := h
    exact lookup.after_alike
  | refresh tokens =>
    rw [Refresh.after_eq h]
    exact .refl _
  | invalidateToken token | invalidate =>
    obtain ⟨rfl, -, rfl⟩ := h
    exact .refl _

/-- What a command that has nothing forgotten reads last of a token is remembered from then on, and
    what it does not read stays as it was. -/
theorem Does.find?_of_forgets_eq (h : command.Does cache es result after)
    (forgets_eq : command.forgets = []) (token : Address) :
    after.find? token = ((learnings es).reverse.lookup token).or (cache.find? token) := by
  rw [h.after_alike.find?_eq, events, forgets_eq, List.append_nil,
    AssetCache.foldl_apply_learned, AssetCache.find?_insertAll]

/-- The token that a command is about, if it is about a single one. -/
def token? : AssetCommand → Option Address
  | asset token | decimals token | parseAmount token _ | formatAmount token _
  | invalidateToken token => some token
  | refresh _ | invalidate => none

end AssetCommand

/-- A lookup of one token does not change another one. -/
theorem Lookup.find?_eq {cache after : AssetCache} {token other : Address} {es : List Exchange}
    {result : Except Error Asset} (h : Lookup cache token es result after) (hne : other ≠ token) :
    after.find? other = cache.find? other := by
  cases h with
  | native zero => rfl
  | remembered nonzero asset found => exact (alike_of_cached found).find?_eq other
  | learned nonzero missing reading =>
    rw [AssetCache.find?_insert, if_neg hne]
    exact (alike_of_cached missing).find?_eq other
  | failed nonzero missing reading => exact (alike_of_cached missing).find?_eq other

/-- What is done about one token leaves the others as they are. -/
theorem AssetCommand.Does.find?_eq {command : AssetCommand} {cache after : AssetCache}
    {es : List Exchange} {result : Except Error command.Result}
    (h : command.Does cache es result after) {token other : Address}
    (token?_eq : command.token? = some token) (hne : other ≠ token) :
    after.find? other = cache.find? other := by
  cases command with
  | asset token' =>
    cases token?_eq
    exact Lookup.find?_eq h hne
  | decimals token' | parseAmount token' text | formatAmount token' units =>
    cases token?_eq
    obtain ⟨found, lookup, -⟩ := h
    exact lookup.find?_eq hne
  | invalidateToken token' =>
    cases token?_eq
    obtain ⟨-, -, rfl⟩ := h
    exact (cache.find?_erase ..).trans (if_neg hne)
  | refresh tokens | invalidate => exact nomatch token?_eq

/-! ## The native asset -/

/-- The request reads the token. -/
def Request.Reads (token : Address) (r : Request) : Prop :=
  r = .view (.symbol token) ∨ r = .view (.decimals token)

/-- All that is asked is to read tokens, and the native asset is neither read nor learned. -/
structure Foreign (es : List Exchange) : Prop where
  reads : ∀ x ∈ es, ∃ token, token.isZero = false ∧ x.request.Reads token
  learned : ∀ l ∈ learnings es, l.1.isZero = false

theorem foreign_nil : Foreign [] :=
  ⟨fun _ h => absurd h List.not_mem_nil, fun _ h => absurd h List.not_mem_nil⟩

/-- The contract is asked about the token that is read. -/
theorem Reading.foreign {token : Address} {es : List Exchange} {result : Except Error Asset}
    (h : Reading token es result) (nonzero : token.isZero = false) : Foreign es where
  reads x hx := by
    refine ⟨token, nonzero, ?_⟩
    cases h with
    | nameless reason =>
      obtain rfl := List.mem_singleton.1 hx
      exact .inl rfl
    | placeless symbol reason | complete asset =>
      rcases List.mem_cons.1 hx with rfl | hx
      · exact .inl rfl
      · obtain rfl := List.mem_singleton.1 hx
        exact .inr rfl
  learned l hl := by
    rw [h.learnings_eq] at hl
    rcases result with e | asset
    · exact absurd hl List.not_mem_nil
    · exact List.mem_singleton.1 hl ▸ nonzero

/-- The native asset is never asked about, since it is known without the contract. -/
theorem Lookup.foreign {cache after : AssetCache} {token : Address} {es : List Exchange}
    {result : Except Error Asset} (h : Lookup cache token es result after) : Foreign es := by
  cases h with
  | native zero => exact foreign_nil
  | remembered nonzero asset found => exact foreign_nil
  | learned nonzero missing reading => exact reading.foreign nonzero
  | failed nonzero missing reading => exact reading.foreign nonzero

/-- Tokens that are learned one after the other, and then what else is asked. -/
theorem Foreign.flatMap_append {learned : List (Address × Asset)} {es : List Exchange}
    (nonzero : ∀ l ∈ learned, l.1.isZero = false) (h : Foreign es) :
    Foreign (learned.flatMap Exchange.learning ++ es) where
  reads x hx := by
    rcases List.mem_append.1 hx with hx | hx
    · obtain ⟨⟨token, asset⟩, hl, hx⟩ := List.mem_flatMap.1 hx
      exact ((Reading.complete asset).foreign (nonzero _ hl)).reads x hx
    · exact h.reads x hx
  learned l hl := by
    rw [learnings_flatMap_append] at hl
    rcases List.mem_append.1 hl with hl | hl
    · exact nonzero l hl
    · exact h.learned l hl

/-- A refresh passes over the native asset. -/
theorem Refresh.foreign {cache after : AssetCache} {tokens : List Address} {es : List Exchange}
    {result : Except Error Unit} (h : Refresh cache tokens es result after) : Foreign es := by
  have nonzero {token : Address} (h : token ∈ tokens.filter (!·.isZero)) :
      token.isZero = false := by
    simpa using (List.mem_filter.1 h).2
  cases h with
  | complete learned tokens_eq =>
    rw [← List.append_nil (learned.flatMap _)]
    refine .flatMap_append (fun l hl => nonzero ?_) foreign_nil
    exact tokens_eq ▸ List.mem_map_of_mem hl
  | interrupted learned failed left tokens_eq reading =>
    refine .flatMap_append (fun l hl => nonzero ?_) (reading.foreign (nonzero ?_))
    · exact tokens_eq ▸ List.mem_append_left _ (List.mem_map_of_mem hl)
    · exact tokens_eq ▸ List.mem_append_right _ List.mem_cons_self

/-- No command asks about the native asset. -/
theorem AssetCommand.Does.foreign {command : AssetCommand} {cache after : AssetCache}
    {es : List Exchange} {result : Except Error command.Result}
    (h : command.Does cache es result after) : Foreign es := by
  cases command with
  | asset token => exact Lookup.foreign h
  | decimals token | parseAmount token text | formatAmount token units =>
    obtain ⟨found, lookup, -⟩ := h
    exact lookup.foreign
  | refresh tokens => exact Refresh.foreign h
  | invalidateToken token | invalidate =>
    obtain ⟨rfl, -, -⟩ := h
    exact foreign_nil

/-! ## Histories -/

/-- Commands with their exchanges, as they have been performed with a cache that was empty at first.
    What the contracts answer may change at any time, and so may what the clock shows. -/
inductive History (configuration : Configuration) :
    List (AssetCommand × List Exchange) → AssetCache → Prop where
  | start (clock : Nat → Nat) : History configuration [] (.new configuration clock)
  | step {history : List (AssetCommand × List Exchange)} {cache after : AssetCache}
      (h : History configuration history cache) {command : AssetCommand} {es : List Exchange}
      {result : Except Error command.Result}
      (t : command.perform.Transcript cache es result after) :
      History configuration (history ++ [(command, es)]) after

/-- What has happened to what is remembered. -/
def eventsOf (history : List (AssetCommand × List Exchange)) : List CacheEvent :=
  history.flatMap fun (command, es) => command.events es

namespace History

variable {configuration : Configuration} {history : List (AssetCommand × List Exchange)}
  {cache : AssetCache}

/-- What is remembered comes of the events. -/
theorem alike (h : History configuration history cache) :
    Alike cache ((eventsOf history).foldl AssetCache.apply (.new configuration)) := by
  induction h with
  | start clock => exact ⟨rfl, rfl, fun _ => rfl⟩
  | step _ t ih =>
    rw [eventsOf, List.flatMap_append, List.flatMap_singleton, List.foldl_append]
    exact (AssetCommand.does_of_transcript t).after_alike.trans (ih.foldl _)

/-- Nothing in a history asks about the native asset. -/
theorem foreign (h : History configuration history cache) : ∀ step ∈ history, Foreign step.2 := by
  induction h with
  | start clock => exact fun _ h => absurd h List.not_mem_nil
  | step _ t ih =>
    intro step hstep
    rcases List.mem_append.1 hstep with hstep | hstep
    · exact ih step hstep
    · exact List.mem_singleton.1 hstep ▸ (AssetCommand.does_of_transcript t).foreign

/-- The native asset is never learned. -/
theorem isZero_of_learned (h : History configuration history cache) {token : Address}
    {asset : Asset} (hmem : CacheEvent.learned token asset ∈ eventsOf history) :
    token.isZero = false := by
  obtain ⟨⟨command, es⟩, hstep, hmem⟩ := List.mem_flatMap.1 hmem
  rcases List.mem_append.1 hmem with hmem | hmem
  · obtain ⟨l, hl, event_eq⟩ := List.mem_map.1 hmem
    cases event_eq
    exact (h.foreign _ hstep).learned l hl
  · cases command with
    | invalidateToken other | invalidate => exact nomatch List.mem_singleton.1 hmem
    | _ => exact absurd hmem List.not_mem_nil

end History

/-! ## Sessions -/

/-- What can happen in a session with a cache. -/
inductive AssetEvent where
  | command (command : AssetCommand)
  | change (change : Change)

namespace AssetCache

/-- Has events happen one after the other, with a cache in a net. -/
def session : List AssetEvent → AssetCache → LocalNet → AssetCache
  | [], cache, _ => cache
  | .command command :: events, cache, net =>
    let run := net.runAssets command.perform cache
    session events run.1.2 run.2
  | .change change :: events, cache, net => session events cache (net.change change)

/-- The commands of a session, with their exchanges. -/
def record : List AssetEvent → AssetCache → LocalNet → List (AssetCommand × List Exchange)
  | [], _, _ => []
  | .command command :: events, cache, net =>
    let run := net.runAssets command.perform cache
    (command, (command.perform.run.run cache).exchanges LocalNet.answer net) ::
      record events run.1.2 run.2
  | .change change :: events, cache, net => record events cache (net.change change)

end AssetCache

/-- What is done with a cache in a session adds to its history. -/
theorem History.session {configuration : Configuration}
    {history : List (AssetCommand × List Exchange)} {cache : AssetCache}
    (h : History configuration history cache) (events : List AssetEvent) (net : LocalNet) :
    History configuration (history ++ cache.record events net) (cache.session events net) := by
  induction events generalizing history cache net with
  | nil =>
    rw [AssetCache.record, List.append_nil]
    exact h
  | cons event events ih =>
    cases event with
    | command command =>
      have t : command.perform.Transcript cache _ _ _ :=
        Flow.transcript_exchanges LocalNet.answer (command.perform.run.run cache) net
      rw [AssetCache.record, List.append_cons]
      exact ih (h.step t) _
    | change change => exact ih h (net.change change)

/-! ## Coherence -/

/-- Coherence. After any history, a token is remembered just if it has been read after it was last
    to be forgotten, and then as it was last read. The native asset is that of the configuration,
    and was never read nor remembered. Whatever is done next is done as described: what it reads is
    remembered, and tokens that it does not read, or is not about, stay as they are. If there is no
    lifetime, all that is remembered is good whenever it is looked up. -/
theorem cache_coherent {configuration : Configuration}
    {history : List (AssetCommand × List Exchange)} {cache : AssetCache}
    (h : History configuration history cache) :
    (∀ token, (cache.find? token).isSome ↔
      ∃ asset, Latest (CacheEvent.Invalidates token) (.learned token asset) (eventsOf history)) ∧
    (∀ token asset, cache.find? token = some asset ↔
      Latest (CacheEvent.Concerns token) (.learned token asset) (eventsOf history)) ∧
    cache.native = ⟨configuration.nativeSymbol, configuration.nativeDecimals⟩ ∧
    (∀ token, token.isZero = true → cache.find? token = none) ∧
    (∀ step ∈ history, ∀ x ∈ step.2, ∃ token, token.isZero = false ∧ x.request.Reads token) ∧
    (∀ (command : AssetCommand) es result after,
      command.perform.Transcript cache es result after → command.Does cache es result after ∧
      (command.forgets = [] → ∀ token,
        after.find? token = ((learnings es).reverse.lookup token).or (cache.find? token)) ∧
      ∀ token, command.token? = some token → ∀ other, other ≠ token →
        after.find? other = cache.find? other) ∧
    (configuration.assetLifetime = 0 → ∀ token, cache.cached token = (cache.find? token, cache))
    := by
  have alike := h.alike
  have unknown (token : Address) : (AssetCache.new configuration).find? token = none := rfl
  -- The cache is known up to its clock, by the events; what it remembers of a token is up to the
  -- last of them that concerns it.
  have latest (token : Address) (asset : Asset) : cache.find? token = some asset ↔
      Latest (CacheEvent.Concerns token) (.learned token asset) (eventsOf history) := by
    rw [alike.find?_eq]
    exact find?_foldl_eq_some_iff _ (unknown token)
  refine ⟨fun token => ?_, latest, ?_, fun token zero => ?_, fun step hstep =>
    (h.foreign step hstep).reads, fun command es result after t => ?_, fun forever => ?_⟩
  · rw [alike.find?_eq]
    exact isSome_find?_foldl_iff _ (unknown token)
  · rw [alike.native_eq]
    exact native_foldl _
  · -- What is remembered has been learned, and the native asset never was.
    refine Option.eq_none_iff_forall_ne_some.2 fun asset found => ?_
    obtain ⟨before, later, events_eq, -⟩ := (latest token asset).1 found
    have learned : .learned token asset ∈ eventsOf history := by
      rw [events_eq]
      exact List.mem_append_right _ List.mem_cons_self
    exact absurd (zero.symm.trans (h.isZero_of_learned learned)) nofun
  · have does := AssetCommand.does_of_transcript t
    exact ⟨does, does.find?_of_forgets_eq,
      fun token token?_eq other hne => does.find?_eq token?_eq hne⟩
  · refine AssetCache.cached_of_forever ?_
    rw [alike.lifetime_eq, lifetime_foldl]
    exact if_pos forever

/-- A token is not read again while it is remembered, and stays remembered as it was when it cannot
    be read again. -/
theorem cache_coherent_stale :
    let events : List AssetEvent :=
      [.change (.asset ⟨3⟩ ⟨"ABC", 6⟩), .command (.asset ⟨3⟩), .change (.asset ⟨3⟩ ⟨"ABC", 8⟩),
        .command (.decimals ⟨3⟩), .change (.fail .token "decimals"), .command (.refresh [⟨3⟩])]
    let configuration := { Configuration.standard 1 ⟨1⟩ 3600 with assetLifetime := 0 }
    let cache := AssetCache.new configuration
    let later := cache.session events Sample.net
    configuration.assetLifetime = 0 ∧ later.find? ⟨3⟩ = some ⟨"ABC", 6⟩ ∧
      (later.cached ⟨3⟩).1 = some ⟨"ABC", 6⟩ ∧
      Latest (CacheEvent.Concerns ⟨3⟩) (.learned ⟨3⟩ ⟨"ABC", 6⟩)
        (eventsOf (cache.record events Sample.net)) := by
  intro events configuration cache later
  have history : History configuration (cache.record events Sample.net) later :=
    (History.start _).session events Sample.net
  have found : later.find? ⟨3⟩ = some ⟨"ABC", 6⟩ := by decide +kernel
  obtain ⟨-, latest, -, -, -, -, good⟩ := cache_coherent history
  refine ⟨rfl, found, ?_, (latest ⟨3⟩ ⟨"ABC", 6⟩).1 found⟩
  rw [good rfl, found]

end PaymentChannel
