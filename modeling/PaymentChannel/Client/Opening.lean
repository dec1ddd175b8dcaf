import PaymentChannel.Client.Funding

/-!
# Opening channels

A channel is opened with a state that only the account has signed. What is asked for is checked
before anything is hashed or signed: in a channel with ledgers the account has to be the user, and
the state the initial one; a legacy channel is made up from the configuration.
-/

namespace PaymentChannel

/-- What a legacy channel is to be opened with. -/
structure LegacyOpening where
  token : Address
  /-- What the account and the guest get back. -/
  amounts : List UInt256
  /-- The data of the state, or else the marker of open channels. -/
  data : Option Bytes
  /-- The nonce, if it is not to be drawn. -/
  nonce : Option UInt64

/-- What is to be opened. -/
inductive Opening where
  | legacy (o : LegacyOpening)
  | v1 (definition : Option LedgerChannel) (initial : Option LedgerState)

namespace Opening

/-- The protocol of a channel to be opened. -/
def protocol : Opening → Protocol
  | legacy _ => .legacy
  | v1 .. => .v1

/-- What is to be opened, as messages spell it. -/
def describe : Opening → String
  | legacy o =>
    Record.record "Legacy" [
      ("token", o.token.toHex),
      ("allocation_amounts", Record.list (o.amounts.map UInt256.toText)),
      ("state_data", Record.optional (o.data.map fun bs => Record.list (bs.map toString))),
      ("nonce", Record.optional (o.nonce.map toString))]
  | v1 definition initial =>
    Record.record "V1" [
      ("definition", Record.optional (definition.map LedgerChannel.describe)),
      ("initial_state", Record.optional (initial.map LedgerState.describe))]

end Opening

/-- A channel that is ready to be created. The account has signed the initial state. -/
structure PreparedChannel where
  id : ChannelId
  definition : Definition
  initial : State
  deriving DecidableEq

namespace Client

/-- The definition of a new channel with a node. -/
def newDefinition (c : Client) (node : Address) (metadata : Bytes32) : Operation LedgerChannel := do
  let nonce ← Operation.nonce c.account
  pure ⟨c.configuration.challengeDuration, c.account, node, nonce, metadata⟩

/-- Checks a channel with ledgers that is to be opened. -/
def checkOpening (c : Client) (definition : Option LedgerChannel) (initial : Option LedgerState) :
    Except Error (Definition × State) := do
  let some definition := definition | throw (.missingParameter "channel definition")
  let some state := initial | throw (.missingParameter "initial state")
  if state.intent ≠ .initial ∨ state.version ≠ 0 then
    throw (.invalidParameter "initial state" (
      s!"expected version 0 with intent {Intent.initial.describe}, " ++
        s!"got version {state.version} with {state.intent.describe}"))
  if definition.user ≠ c.account then
    throw (.invalidParameter "definition.user" s!"{definition.user} is not the local account")
  pure (.v1 definition, (State.v1 state).withoutSignatures)

/-- What a legacy channel needs of the configuration, and the two amounts. -/
def checkLegacyOpening (c : Client) (o : LegacyOpening) :
    Except Error (Address × Address × UInt256 × UInt256) := do
  let adjudicator ← c.configuration.needAdjudicator
  let guest ← c.configuration.needGuest
  match o.amounts with
  | [own, other] => pure (adjudicator, guest, own, other)
  | amounts => throw (.wrongCount "allocation_amounts" 2 amounts.length)

/-- Makes up a legacy channel. A nonce is drawn only if none is given. -/
def legacyOpening (c : Client) (o : LegacyOpening) : Operation (Definition × State) := do
  let (adjudicator, guest, own, other) ← Operation.ofExcept (c.checkLegacyOpening o)
  let nonce ← match o.nonce with
    | some n => pure n
    | none => Operation.nonce c.account
  let channel : LegacyChannel := {
    participants := (c.account, guest)
    adjudicator := adjudicator
    challenge := c.configuration.challengeDuration.toUInt64
    nonce := nonce
  }
  let state : LegacyState := {
    data := o.data.getD (markerData openMarker)
    allocations := (⟨c.account, o.token, own⟩, ⟨guest, o.token, other⟩)
    signatures := []
  }
  pure (.legacy channel, .legacy state)

/-- Checks what is to be opened, and has the account sign the initial state. -/
def initialState (c : Client) (o : Opening) : Operation PreparedChannel := do
  Operation.ofExcept (c.requireProtocol o.protocol)
  let (definition, unsigned) ← match o with
    | .v1 definition initial => Operation.ofExcept (c.checkOpening definition initial)
    | .legacy o => c.legacyOpening o
  -- The account signs the state for this id, whether the contract comes to the same one or not.
  let id ← Operation.ofEncoding (definition.channelId c.configuration.chainId)
  let signature ← signState id unsigned
  pure ⟨id, definition, unsigned.withSignatures signature []⟩

/-- The prepared channel, and the call that creates it. -/
def creationCall (c : Client) (o : Opening) : Operation (PreparedChannel × Call) := do
  let prepared ← (c.initialState o).asCall "prepareInitialState" o.describe
  let call ← (Operation.prepare (.createChannel prepared.definition prepared.initial)).asCall
    "createChannel" s!"{channelContext prepared.id} {o.describe}"
  pure (prepared, call)

/-- The calls of a deposit, and after them the one that creates a channel. -/
def depositAndCreationCalls (c : Client) (node token : Address) (amount : UInt256) (o : Opening) :
    Operation (PreparedChannel × List Call) := do
  let deposits ← (c.depositCalls node token amount).asCall "deposit"
    (depositContext node token amount)
  -- What is opened is checked only when the deposit has been prepared.
  let (prepared, creation) ← c.creationCall o
  pure (prepared, deposits ++ [creation])

/-- Creates a channel. -/
def createChannel (c : Client) (o : Opening) : Operation (PreparedChannel × Hash) := do
  let (prepared, call) ← c.creationCall o
  let hash ← sendOne call
  pure (prepared, hash)

/-- Deposits funds and creates a channel. If that cannot be created, the deposit stays. -/
def depositAndCreateChannel (c : Client) (node token : Address) (amount : UInt256) (o : Opening) :
    Operation (PreparedChannel × List Hash) := do
  let (prepared, calls) ← c.depositAndCreationCalls node token amount o
  let hashes ← sendAll calls
  pure (prepared, hashes)

end Client

end PaymentChannel
