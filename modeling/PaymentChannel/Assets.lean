import PaymentChannel.Amount
import PaymentChannel.Configuration.Basic
import PaymentChannel.Contract.Flow

/-!
# Assets

The symbol and the decimals of a token are read from its contract once and then remembered, until
they are forgotten or read again, or their lifetime has run out, if they have one. The native asset
is known from the configuration and never read. What has been remembered stays, also if an operation
fails later on.

The clock is looked at when a token is remembered, and, if there is a lifetime, when it is looked
up. How much time passes in between is not up to the cache.
-/

namespace PaymentChannel

/-- What is to know of a token. -/
structure Asset where
  symbol : String
  decimals : UInt8
  deriving DecidableEq, Repr

/-- What is remembered of a token, and since when. -/
structure AssetCache.Entry where
  asset : Asset
  /-- What the clock showed, in nanoseconds. -/
  since : Nat
  deriving DecidableEq, Repr

/-- The assets that are remembered. -/
structure AssetCache where
  native : Asset
  /-- For how many seconds what was read is good, unless that is forever. -/
  lifetime : Option UInt64
  entries : List (Address × AssetCache.Entry)
  /-- What the clock shows, in nanoseconds, whenever it is looked at from now on. -/
  clock : Nat → Nat

namespace AssetCache

/-- Whether the lifetime, in seconds, has run out. -/
def Entry.isExpired (entry : Entry) (lifetime : UInt64) (now : Nat) : Bool :=
  lifetime.toNat * 1000000000 ≤ now - entry.since

/-- Nothing but the native asset, with a clock that stands still unless another one is given. -/
def new (c : Configuration) (clock : Nat → Nat := fun _ => 0) : AssetCache :=
  ⟨⟨c.nativeSymbol, c.nativeDecimals⟩, c.lifetime?, [], clock⟩

/-- What is remembered of a token, however long ago it was read. -/
def find? (cache : AssetCache) (token : Address) : Option Asset :=
  (cache.entries.lookup token).map Entry.asset

/-- The clock has been looked at. -/
def advance (cache : AssetCache) : AssetCache :=
  { cache with clock := fun n => cache.clock (n + 1) }

/-- What is remembered of a token and still good. The clock is looked at only if that matters. -/
def cached (cache : AssetCache) (token : Address) : Option Asset × AssetCache :=
  match cache.entries.lookup token, cache.lifetime with
  | none, _ => (none, cache)
  | some entry, none => (some entry.asset, cache)
  | some entry, some lifetime =>
    (if entry.isExpired lifetime (cache.clock 0) then none else some entry.asset, cache.advance)

/-- Forgets a token. -/
def erase (cache : AssetCache) (token : Address) : AssetCache :=
  { cache with entries := cache.entries.filter fun e => e.1 != token }

/-- Remembers a token from now on, in place of what was remembered of it. -/
def insert (cache : AssetCache) (token : Address) (asset : Asset) : AssetCache :=
  { cache.advance with entries := (token, ⟨asset, cache.clock 0⟩) :: (cache.erase token).entries }

/-- Forgets everything. -/
def clear (cache : AssetCache) : AssetCache := { cache with entries := [] }

theorem lookup_erase (cache : AssetCache) (token other : Address) :
    (cache.erase token).entries.lookup other =
      if other = token then none else cache.entries.lookup other := by
  simp only [erase]
  induction cache.entries with
  | nil => simp
  | cons e es ih => grind

theorem find?_erase (cache : AssetCache) (token other : Address) :
    (cache.erase token).find? other = if other = token then none else cache.find? other := by
  simp only [find?, lookup_erase]
  grind

theorem find?_insert (cache : AssetCache) (token other : Address) (asset : Asset) :
    (cache.insert token asset).find? other =
      if other = token then some asset else cache.find? other := by
  simp only [find?, insert, List.lookup_cons, lookup_erase]
  grind

@[simp] theorem find?_clear (cache : AssetCache) (token : Address) :
    cache.clear.find? token = none := rfl

/-- Without a lifetime, all that is remembered is good, and the clock does not matter. -/
theorem cached_of_forever {cache : AssetCache} (h : cache.lifetime = none) (token : Address) :
    cache.cached token = (cache.find? token, cache) := by
  unfold cached find?
  rw [h]
  cases cache.entries.lookup token <;> rfl

/-- With a lifetime, what is remembered is good until that has run out. -/
theorem cached_of_lifetime {cache : AssetCache} {lifetime : UInt64}
    (h : cache.lifetime = some lifetime) {token : Address} {entry : Entry}
    (found : cache.entries.lookup token = some entry) :
    (cache.cached token).1 =
      if entry.isExpired lifetime (cache.clock 0) then none else some entry.asset := by
  rw [cached, found, h]

/-- What was read 300 seconds ago is not good any more if that is the lifetime. -/
example :
    let clock (n : Nat) : Nat := n * 300000000000
    let cache := (new (.standard 1 ⟨1⟩ 3600) clock).insert ⟨3⟩ ⟨"ABC", 6⟩
    (cache.cached ⟨3⟩).1 = none ∧ cache.find? ⟨3⟩ = some ⟨"ABC", 6⟩ := by
  decide

end AssetCache

/-- An operation that remembers assets. -/
abbrev AssetOperation := ExceptT Error (StateT AssetCache Flow)

namespace AssetOperation

/-- An operation that remembers nothing. -/
def lift {α : Type} (op : Operation α) : AssetOperation α :=
  ExceptT.mk (StateT.lift op.run)

/-- Reads a token, and remembers it if both readings succeed. -/
def fetch (token : Address) : AssetOperation Asset := do
  let context := s!"token={token}"
  let symbol ← lift ((Operation.view (.symbol token)).asRead "symbol" context)
  let decimals ← lift ((Operation.view (.decimals token)).asRead "decimals" context)
  let asset : Asset := ⟨symbol, decimals⟩
  modify (·.insert token asset)
  pure asset

/-- A token, read only if nothing is remembered of it that is still good. -/
def asset (token : Address) : AssetOperation Asset := do
  let cache ← get
  if token.isZero then return cache.native
  match ← modifyGet fun cache : AssetCache => cache.cached token with
  | some asset => return asset
  | none => fetch token

/-- The decimals of a token. -/
def decimals (token : Address) : AssetOperation UInt8 := return (← asset token).decimals

/-- Reads tokens again, up to the first that cannot be read. -/
def refresh : List Address → AssetOperation Unit
  | [] => pure ()
  | token :: tokens => do
    if !token.isZero then
      let _ ← fetch token
    refresh tokens

/-- Forgets a token. -/
def invalidateToken (token : Address) : AssetOperation Unit := modify (·.erase token)

/-- Forgets all tokens. -/
def invalidate : AssetOperation Unit := modify AssetCache.clear

end AssetOperation

/-- The error of a text that is not an amount. -/
def Error.ofAmount (text : String) (e : Amount.Error) : Error :=
  .invalidParameter "amount" s!"{Quoted.text text}: {e.message}"

/-- The base units that a decimal amounts to. -/
def toBaseUnits (text : String) (decimals : UInt8) : Except Error UInt256 :=
  (Amount.parse text decimals).mapError (Error.ofAmount text)

namespace AssetOperation

/-- The base units of a token that a decimal amounts to. -/
def parseAmount (token : Address) (text : String) : AssetOperation UInt256 := do
  let places ← decimals token
  lift (Operation.ofExcept (toBaseUnits text places))

/-- Base units of a token as a decimal. -/
def formatAmount (token : Address) (units : UInt256) : AssetOperation String :=
  return Amount.format units (← decimals token)

end AssetOperation

end PaymentChannel
