import PaymentChannel.Error

/-!
# Configurations

What all operations of an account share: the chain and its contracts, the protocol, and how assets
are shown. A configuration is *valid* if no operation can do with it what it must never do, such as
paying to the zero address.
-/

namespace PaymentChannel

/-- The configuration of an account. -/
structure Configuration where
  chainId : UInt64
  /-- The contract that holds deposits and channels. -/
  custody : Address
  /-- The adjudicator of legacy channels. -/
  adjudicator : Option Address
  /-- The other participant of legacy channels. -/
  guest : Option Address
  /-- For how many seconds a disputed state of a new channel can be contested. -/
  challengeDuration : UInt32
  protocol : Protocol
  /-- For how many seconds the metadata of an asset stays known; 0 is forever. -/
  assetLifetime : UInt64
  nativeSymbol : String
  nativeDecimals : UInt8
  deriving DecidableEq

namespace Configuration

/-- A configuration with the usual asset settings. -/
def standard (chainId : UInt64) (custody : Address) (challengeDuration : UInt32) :
    Configuration where
  chainId := chainId
  custody := custody
  adjudicator := none
  guest := none
  challengeDuration := challengeDuration
  protocol := .v1
  assetLifetime := 300
  nativeSymbol := "ETH"
  nativeDecimals := 18

/-- A configuration for legacy channels with the given guest. -/
def legacy (chainId : UInt64) (custody : Address) (challengeDuration : UInt32)
    (adjudicator guest : Address) : Configuration :=
  { standard chainId custody challengeDuration with
    adjudicator := some adjudicator
    guest := some guest
    protocol := .legacy }

/-- Checks what every operation relies on. -/
def validate (c : Configuration) : Except Error Unit := do
  if c.custody.isZero then throw (.missingParameter "custody")
  if c.chainId = 0 then throw (.zeroParameter "chain_id")
  if c.challengeDuration = 0 then throw (.zeroParameter "challenge_duration")

theorem validate_eq_ok_iff (c : Configuration) : c.validate = .ok () ↔
    c.custody.isZero = false ∧ c.chainId ≠ 0 ∧ c.challengeDuration ≠ 0 := by
  by_cases h₁ : c.custody.isZero <;> by_cases h₂ : c.chainId = 0 <;>
    by_cases h₃ : c.challengeDuration = 0 <;>
    simp [validate, h₁, h₂, h₃, bind, Except.bind, pure, Except.pure, throw, throwThe,
      MonadExceptOf.throw]

/-- How long the metadata of an asset stays known, unless that is forever. -/
def lifetime? (c : Configuration) : Option UInt64 :=
  if c.assetLifetime = 0 then none else some c.assetLifetime

/-- An address that an operation needs, under the name that errors give it. -/
def need (name : String) (address : Option Address) : Except Error Address :=
  match address with
  | some a => if a.isZero then throw (.missingParameter name) else pure a
  | none => throw (.missingParameter name)

/-- The adjudicator, for an operation that needs one. -/
def needAdjudicator (c : Configuration) : Except Error Address := need "adjudicator" c.adjudicator

/-- The guest, for an operation that needs one. -/
def needGuest (c : Configuration) : Except Error Address := need "guest_address" c.guest

end Configuration

end PaymentChannel
