import PaymentChannel.Configuration.Basic

/-!
# Settings

A configuration is put together from single settings. Their order does not matter, and those that
have a usual value may be left out (`Configuration.ofSettings`).
-/

namespace PaymentChannel

/-- What can be set. -/
inductive Field where
  | chainId
  | custody
  | adjudicator
  | guest
  | challengeDuration
  | protocol
  | assetLifetime
  | nativeSymbol
  | nativeDecimals
  deriving DecidableEq, Repr

namespace Field

/-- The name of a field in documents. -/
def key : Field → String
  | chainId => "chain_id"
  | custody => "custody"
  | adjudicator => "adjudicator"
  | guest => "guest_address"
  | challengeDuration => "challenge_duration"
  | protocol => "protocol"
  | assetLifetime => "asset_cache_ttl_secs"
  | nativeSymbol => "native_symbol"
  | nativeDecimals => "native_decimals"

/-- All fields, in the order in which a document without names lists them. -/
def all : List Field := [
  chainId, custody, adjudicator, guest, challengeDuration, protocol, assetLifetime, nativeSymbol,
  nativeDecimals]

/-- The field of a name. -/
def ofKey? (name : String) : Option Field := all.find? fun f => f.key == name

@[simp] theorem ofKey?_key (f : Field) : ofKey? f.key = some f := by
  cases f <;> decide

/-- Whether the field has no usual value. -/
def isRequired : Field → Bool
  | chainId | custody | challengeDuration => true
  | _ => false

end Field

/-- A field with its value. -/
inductive Setting where
  | chainId (x : UInt64)
  | custody (x : Address)
  | adjudicator (x : Option Address)
  | guest (x : Option Address)
  | challengeDuration (x : UInt32)
  | protocol (x : Protocol)
  | assetLifetime (x : UInt64)
  | nativeSymbol (x : String)
  | nativeDecimals (x : UInt8)
  deriving DecidableEq

namespace Setting

/-- The field that is set. -/
def field : Setting → Field
  | chainId _ => .chainId
  | custody _ => .custody
  | adjudicator _ => .adjudicator
  | guest _ => .guest
  | challengeDuration _ => .challengeDuration
  | protocol _ => .protocol
  | assetLifetime _ => .assetLifetime
  | nativeSymbol _ => .nativeSymbol
  | nativeDecimals _ => .nativeDecimals

/-- The value of a chain id. -/
def chainId? : Setting → Option UInt64
  | chainId x => some x
  | _ => none

/-- The value of a custody contract. -/
def custody? : Setting → Option Address
  | custody x => some x
  | _ => none

/-- The value of an adjudicator. -/
def adjudicator? : Setting → Option (Option Address)
  | adjudicator x => some x
  | _ => none

/-- The value of a guest. -/
def guest? : Setting → Option (Option Address)
  | guest x => some x
  | _ => none

/-- The value of a challenge duration. -/
def challengeDuration? : Setting → Option UInt32
  | challengeDuration x => some x
  | _ => none

/-- The value of a protocol. -/
def protocol? : Setting → Option Protocol
  | protocol x => some x
  | _ => none

/-- The value of an asset lifetime. -/
def assetLifetime? : Setting → Option UInt64
  | assetLifetime x => some x
  | _ => none

/-- The value of a native symbol. -/
def nativeSymbol? : Setting → Option String
  | nativeSymbol x => some x
  | _ => none

/-- The value of native decimals. -/
def nativeDecimals? : Setting → Option UInt8
  | nativeDecimals x => some x
  | _ => none

end Setting

namespace Configuration

/-- The value of a field that has to be set. -/
def required {α : Type} (settings : List Setting) (field : Field) (value? : Setting → Option α) :
    Except Json.Fault α :=
  match settings.findSome? value? with
  | some x => pure x
  | none => throw (.data s!"missing field `{field.key}`")

/-- The configuration that is made up of the given settings. -/
def ofSettings (settings : List Setting) : Except Json.Fault Configuration := do
  let chainId ← required settings .chainId Setting.chainId?
  let custody ← required settings .custody Setting.custody?
  let challengeDuration ← required settings .challengeDuration Setting.challengeDuration?
  let usual := standard chainId custody challengeDuration
  pure {
    usual with
    adjudicator := (settings.findSome? Setting.adjudicator?).getD usual.adjudicator
    guest := (settings.findSome? Setting.guest?).getD usual.guest
    protocol := (settings.findSome? Setting.protocol?).getD usual.protocol
    assetLifetime := (settings.findSome? Setting.assetLifetime?).getD usual.assetLifetime
    nativeSymbol := (settings.findSome? Setting.nativeSymbol?).getD usual.nativeSymbol
    nativeDecimals := (settings.findSome? Setting.nativeDecimals?).getD usual.nativeDecimals
  }

end Configuration

end PaymentChannel
