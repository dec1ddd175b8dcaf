import PaymentChannel.Assets
import PaymentChannel.Channel.Nonce
import PaymentChannel.Client.Basic

/-!
# A net in memory

A `LocalNet` answers every request from memory and keeps a record of what it was asked. It stands
for the custody contract, the token contracts, the sender of transactions and the signers at once.
It does not execute the calls that are sent: what it answers only changes from outside.

The endpoints fail in ways of their own: a contract for the operations that it has been set to fail
for, and the sender once a number of transactions have been sent. Apart from that, an error can be
put in front of any of them, for one of its operations. Reading a contract and preparing a call are
recorded before they fail, sending is not.
-/

namespace PaymentChannel

/-- The parts of a net that can fail. -/
inductive Endpoint where
  | custody
  | token
  | sender
  deriving DecidableEq, Repr

/-- The endpoint that answers for a view. -/
def View.endpoint : View → Endpoint
  | allowance .. | balanceOf .. | symbol _ | decimals _ => .token
  | openChannels _ | channelIds _ | accountBalance .. | channelRecord _ => .custody

/-- The endpoint that prepares a plan. -/
def Plan.endpoint : Plan → Endpoint
  | approve .. => .token
  | _ => .custody

/-- A state that the custody contract was handed. -/
structure Submission where
  operation : String
  candidate : State
  proofs : List State
  deriving DecidableEq

/-- A signature that was asked for: over a state, or over a hash. -/
structure SigningRequest where
  signer : Party
  hash : Hash
  context : Option SigningContext
  deriving DecidableEq

/-- Where nonces come from. -/
inductive NonceSource where
  /-- Always the same one. -/
  | fixed (nonce : UInt64)
  /-- From a clock that stands still and random bits that repeat. -/
  | drawn (now : UInt64) (random : UInt32)

/-- The nonce of a channel that an address opens. -/
def NonceSource.next (opener : Address) : NonceSource → UInt64
  | fixed nonce => nonce
  | drawn now random => channelNonce now random (some opener)

/-- A net in memory, with a record of what it was asked. -/
structure LocalNet where
  /-- The address of the custody contract. -/
  custody : Address
  /-- The chain id of the custody contract. -/
  chainId : UInt64
  own : Signer
  alternate : Option Signer
  nonces : NonceSource
  /-- How many transactions the sender sends, if it is to fail from then on. -/
  failsAfter : Option Nat
  channels : List (ChannelId × ChannelRecord) := []
  /-- What accounts have in the vault, by account and token. -/
  vault : List ((Address × Address) × UInt256) := []
  allowance : UInt256 := 0
  /-- What accounts have in their wallets, by account and token. -/
  wallets : List ((Address × Address) × UInt256) := []
  assets : List (Address × Asset) := []
  /-- The operations of contracts that fail. -/
  failing : List (Endpoint × String) := []
  /-- The errors in front of endpoints, by operation. -/
  refusing : List ((Endpoint × String) × Error) := []
  custodyLog : List String := []
  tokenLog : List String := []
  submissions : List Submission := []
  sent : List Call := []
  signingLog : List SigningRequest := []

namespace LocalNet

/-- The entries of all other keys. -/
def eraseKey {κ α : Type} [DecidableEq κ] (key : κ) (entries : List (κ × α)) : List (κ × α) :=
  entries.filter fun e => e.1 ≠ key

/-- Entries with a new value for a key. -/
def setKey {κ α : Type} [DecidableEq κ] (key : κ) (value : α) (entries : List (κ × α)) :
    List (κ × α) :=
  (key, value) :: eraseKey key entries

/-! ## Changes from outside -/

/-- Sets what the custody contract may take. -/
def setAllowance (amount : UInt256) (net : LocalNet) : LocalNet := { net with allowance := amount }

/-- Sets what an account has in the vault. -/
def setVaultBalance (account token : Address) (amount : UInt256) (net : LocalNet) : LocalNet :=
  { net with vault := setKey (account, token) amount net.vault }

/-- Sets what an account has in its wallet. -/
def setTokenBalance (account token : Address) (amount : UInt256) (net : LocalNet) : LocalNet :=
  { net with wallets := setKey (account, token) amount net.wallets }

/-- Sets the symbol and the decimals of a token. -/
def setAsset (token : Address) (asset : Asset) (net : LocalNet) : LocalNet :=
  { net with assets := setKey token asset net.assets }

/-- Sets a channel. -/
def setChannel (id : ChannelId) (channel : ChannelRecord) (net : LocalNet) : LocalNet :=
  { net with channels := setKey id channel net.channels }

/-- Makes an operation of a contract fail. The sender has none that could be named. -/
def fail (endpoint : Endpoint) (operation : String) (net : LocalNet) : LocalNet :=
  match endpoint with
  | .custody | .token => { net with failing := (endpoint, operation) :: net.failing }
  | .sender => net

/-- Puts an error in front of an endpoint, for one of its operations. -/
def refuse (endpoint : Endpoint) (operation : String) (e : Error) (net : LocalNet) : LocalNet :=
  { net with refusing := setKey (endpoint, operation) e net.refusing }

/-- No contract fails any more, and nothing is in front of the endpoints. The sender is not healed:
    it goes on to fail where it does. -/
def heal (net : LocalNet) : LocalNet := { net with failing := [], refusing := [] }

/-! ## Endpoints -/

/-- The error from outside with which an endpoint fails. -/
def failure (operation : String) : Error := .external s!"mock failure in {operation}"

/-- Records that an operation was asked for. -/
def record (endpoint : Endpoint) (operation : String) (net : LocalNet) : LocalNet :=
  match endpoint with
  | .custody => { net with custodyLog := net.custodyLog ++ [operation] }
  | .token => { net with tokenLog := net.tokenLog ++ [operation] }
  | .sender => net

/-- Whether an operation of a contract fails. -/
def isFailing (net : LocalNet) (endpoint : Endpoint) (operation : String) : Bool :=
  net.failing.contains (endpoint, operation)

/-- The ids of the channels of which the test is true, in ascending order. -/
def idsOf (net : LocalNet) (test : ChannelRecord → Bool) : List ChannelId :=
  ((net.channels.filter fun e => test e.2).map Prod.fst).mergeSort fun a b =>
    a.bits.toNat ≤ b.bits.toNat

/-- What is read, if the reading does not fail. -/
def value (net : LocalNet) : (v : View) → Except Error v.Answer
  | .allowance .. => pure net.allowance
  | .balanceOf token owner => pure ((net.wallets.lookup (owner, token)).getD 0 : UInt256)
  | .symbol token => match net.assets.lookup token with
    | some asset => pure asset.symbol
    | none => throw (failure "metadata")
  | .decimals token => match net.assets.lookup token with
    | some asset => pure asset.decimals
    | none => throw (failure "metadata")
  | .openChannels user =>
    pure (net.idsOf fun r => r.definition.user == user && r.status.isOpen)
  | .channelIds user => pure (net.idsOf fun r => r.definition.user == user)
  | .accountBalance account token =>
    pure ((net.vault.lookup (account, token)).getD 0 : UInt256)
  | .channelRecord id => match net.channels.lookup id with
    | some channel => pure channel
    | none => throw (failure "getChannelData")

/-- A contract is read. -/
def readContract (v : View) (net : LocalNet) : Except Error v.Answer × LocalNet :=
  let recorded := net.record v.endpoint v.operation
  if net.isFailing v.endpoint v.operation then (.error (failure v.operation), recorded)
  else (net.value v, recorded)

/-- The call of a plan, if its preparation does not fail. -/
def callOf (net : LocalNet) : Plan → Except Error Call
  | .approve token spender amount => pure ⟨.approve token spender amount, token, [], 0⟩
  | .deposit node token amount =>
    pure ⟨.deposit node token amount, net.custody, [], if token.isZero then amount else 0⟩
  | .withdraw recipient token amount =>
    pure ⟨.withdraw recipient token amount, net.custody, [], 0⟩
  | .createChannel definition _ => do
    let id ← (definition.channelId net.chainId).mapError Error.encoding
    pure ⟨.createChannel id, net.custody, [], 0⟩
  | .checkpoint id _ _ => pure ⟨.checkpoint id, net.custody, id.toBytes, 0⟩
  | .challenge id _ _ signature => pure ⟨.challenge id, net.custody, signature.bytes, 0⟩
  | .close id _ _ => pure ⟨.close id, net.custody, id.toBytes, 0⟩
  | .depositToChannel id _ => pure ⟨.depositToChannel id, net.custody, id.toBytes, 0⟩
  | .withdrawFromChannel id _ => pure ⟨.withdrawFromChannel id, net.custody, id.toBytes, 0⟩

/-- Records the state that a plan hands to the custody contract. -/
def submit (p : Plan) (net : LocalNet) : LocalNet :=
  match p.submission? with
  | some (candidate, proofs) =>
    { net with submissions := net.submissions ++ [⟨p.operation, candidate, proofs⟩] }
  | none => net

/-- A contract prepares a call. The state is handed over before the preparation is recorded, and so
    even if it then fails. -/
def prepareCall (p : Plan) (net : LocalNet) : Except Error Call × LocalNet :=
  match net.callOf p with
  | .error e => (.error e, net)
  | .ok call =>
    let recorded := (net.submit p).record p.endpoint p.operation
    if net.isFailing p.endpoint p.operation then (.error (failure p.operation), recorded)
    else (.ok call, recorded)

/-- The hash of the transaction that is sent after `n` others. -/
def transactionHash (n : Nat) : Hash := .ofBytes (List.replicate 32 (UInt8.ofNat (n + 1)))

/-- The sender sends a call, unless it has sent as many as it is to. -/
def sendCall (call : Call) (net : LocalNet) : Except Error Hash × LocalNet :=
  if net.failsAfter = some net.sent.length then (.error (failure call.operation), net)
  else (.ok (transactionHash net.sent.length), { net with sent := net.sent ++ [call] })

/-! ## Errors in front of endpoints

Where there is one for an operation, the endpoint is not asked at all. For a contract, that the
operation was asked for is still recorded. -/

/-- The error in front of an endpoint for an operation. -/
def refusal? (net : LocalNet) (endpoint : Endpoint) (operation : String) : Option Error :=
  net.refusing.lookup (endpoint, operation)

/-- Reads a contract. -/
def answerView (v : View) (net : LocalNet) : Except Error v.Answer × LocalNet :=
  match net.refusal? v.endpoint v.operation with
  | some e => (.error e, net.record v.endpoint v.operation)
  | none => net.readContract v

/-- Prepares a call. -/
def answerPlan (p : Plan) (net : LocalNet) : Except Error Call × LocalNet :=
  match net.refusal? p.endpoint p.operation with
  | some e => (.error e, net.record p.endpoint p.operation)
  | none => net.prepareCall p

/-- Sends a call. -/
def answerSend (call : Call) (net : LocalNet) : Except Error Hash × LocalNet :=
  match net.refusal? .sender call.operation with
  | some e => (.error e, net)
  | none => net.sendCall call

/-! ## Answers -/

/-- The signer of a party. -/
def signerOf (net : LocalNet) : Party → Option Signer
  | .own => some net.own
  | .alternate => net.alternate

/-- Signs a hash. Nobody asks for a signer that is not there. -/
def answerSign (party : Party) (hash : Hash) (context : Option SigningContext) (net : LocalNet) :
    Except SignError Signature × LocalNet :=
  let recorded := { net with signingLog := net.signingLog ++ [⟨party, hash, context⟩] }
  match net.signerOf party with
  | some signer => (signer.sign hash, recorded)
  | none => (.error (.backend "no signer"), recorded)

/-- Answers a request. -/
def answer : (r : Request) → StateM LocalNet r.Answer
  | .view v => answerView v
  | .prepare p => answerPlan p
  | .send call => answerSend call
  | .signState hash context => answerSign .own hash (some context)
  | .signHash party hash => answerSign party hash none
  | .nonce opener => fun net => (net.nonces.next opener, net)

/-- Runs an operation in a net. -/
def run {α : Type} (op : Operation α) (net : LocalNet) : Except Error α × LocalNet :=
  (op.run.run answer).run net

/-- Runs an operation on assets in a net. -/
def runAssets {α : Type} (op : AssetOperation α) (cache : AssetCache) (net : LocalNet) :
    (Except Error α × AssetCache) × LocalNet :=
  ((op.run.run cache).run answer).run net

/-- The client of the net's signers, if the configuration is valid. -/
def client (net : LocalNet) (configuration : Configuration) : Except Error Client :=
  Client.new configuration net.own.address (net.alternate.map Signer.address) net.custody

end LocalNet

end PaymentChannel
