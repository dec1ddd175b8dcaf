import PaymentChannel.Configuration.Setting

/-!
# Configuration documents

A configuration is written as an object whose members are its settings, in any order and among
others that are passed over, or as an array of its values in the order of `Field.all`, the last of
which may be left out if they have a usual value. Either is read as a list of settings.
-/

namespace PaymentChannel.Configuration

open Json

/-- Reads an address. -/
def readAddress : Reader Address := do
  match FixedBytes.parse (← readString "a string") with
  | .ok a => pure a
  | .error e => throw (.data e.message)

/-- Reads an address that may be null. -/
def readOptionalAddress : Reader (Option Address) := do
  if (← skipSpaces) = some 'n' then
    expect "null".toList
    pure none
  else some <$> readAddress

/-- The protocol of a name. -/
def protocolOfName (name : String) : Except Fault Protocol :=
  if name = Protocol.legacy.key then pure .legacy
  else if name = Protocol.v1.key then pure .v1
  else
    throw (.data
      s!"unknown variant `{name}`, expected `{Protocol.legacy.key}` or `{Protocol.v1.key}`")

/-- Reads a protocol: its name, or an object with the name and null as its only member. That the
    name of the member is a text is a matter of the document, as for all members. -/
def readProtocol : Reader Protocol := do
  match ← skipSpaces with
  | some '"' =>
    advance
    protocolOfName (← readText)
  | some '{' =>
    advance
    let some name ← readName true | throw .malformed
    -- The name is looked up before the colon is looked for.
    let protocol ← protocolOfName name
    readColon
    match ← skipSpaces with
    | some 'n' => expect "null".toList
    | some _ => mismatch "unit"
    | none => throw .unfinished
    match ← skipSpaces with
    | some '}' => advance
    | some _ => throw .malformed
    | none => throw .unfinished
    pure protocol
  | some _ => throw .malformed
  | none => throw .unfinished

/-- Reads the value of a field. -/
def readSetting : Field → Reader Setting
  | .chainId => do pure (.chainId (UInt64.ofNat (← readNatural UInt64.size "u64")))
  | .custody => .custody <$> readAddress
  | .adjudicator => .adjudicator <$> readOptionalAddress
  | .guest => .guest <$> readOptionalAddress
  | .challengeDuration => do
    pure (.challengeDuration (UInt32.ofNat (← readNatural UInt32.size "u32")))
  | .protocol => .protocol <$> readProtocol
  | .assetLifetime => do pure (.assetLifetime (UInt64.ofNat (← readNatural UInt64.size "u64")))
  | .nativeSymbol => .nativeSymbol <$> readString "a string"
  | .nativeDecimals => do pure (.nativeDecimals (UInt8.ofNat (← readNatural UInt8.size "u8")))

/-- How a message names the document that was expected. -/
def documentName : String := "struct ClientConfig"

/-- Reads members up to the closing brace, after the settings that have been read already. No field
    may be set twice. -/
def readMembersIn : (steps : Nat) → (first : Bool) → (before : List Setting) →
    Reader (List Setting)
  | 0, _, _ => throw .malformed
  | steps + 1, first, before => do
    let some name ← readName first | pure before
    match Field.ofKey? name with
    | none =>
      readColon
      skipValue
      readMembersIn steps false before
    | some field =>
      if before.any fun s => s.field == field then
        throw (.data s!"duplicate field `{name}`")
      readColon
      let setting ← readSetting field
      readMembersIn steps false (before ++ [setting])

/-- Reads the members of an object. It has fewer of them than characters. -/
def readMembers : Reader (List Setting) := do
  readMembersIn ((← get).length + 1) true []

/-- Reads the values of fields, as far as there are any. Those that are left out must not be
    required. -/
def readElements : (index : Nat) → List Field → Reader (List Setting)
  | _, [] => pure []
  | index, field :: fields => do
    match ← readSeparator (index == 0) with
    | .next =>
      let setting ← readSetting field
      return setting :: (← readElements (index + 1) fields)
    | .close =>
      if field.isRequired then
        throw (.data s!"invalid length {index}, expected {documentName} with 9 elements")
      readElements (index + 1) fields

/-- Reads the settings of a document. -/
def readSettings : Reader (List Setting) := do
  match ← skipSpaces with
  | none => throw .unfinished
  | some '[' =>
    advance
    let settings ← readElements 0 Field.all
    readClosing
    pure settings
  | some '{' =>
    advance
    readMembers
  | some _ => mismatch documentName

/-- Reads a configuration, whether valid or not. Fields that are not set are noticed before anything
    that is wrong behind the settings. -/
def read : Reader Configuration := do
  match ofSettings (← readSettings) with
  | .ok c => pure c
  | .error fault => throw fault

/-- The configuration that a text describes, whether valid or not. -/
def ofText (text : String) : Except Error Configuration :=
  match Json.run read text with
  | .ok c => pure c
  | .error fault => throw (.configuration fault)

/-- The valid configuration that a text describes. -/
def parse (text : String) : Except Error Configuration := do
  let c ← ofText text
  c.validate
  pure c

end PaymentChannel.Configuration
