import PaymentChannel.Channel.Packing
import PaymentChannel.Configuration.Basic
import PaymentChannel.Contract.Flow

/-!
# Clients

A client acts for one account: it knows the configuration, the addresses of the signers, and where
the custody contract is. Its operations are in the modules beside this one; here is what several of
them do.
-/

namespace PaymentChannel

/-- An account with its configuration, which is valid. -/
structure Client where
  configuration : Configuration
  valid : configuration.validate = .ok ()
  /-- The address of the account's own signer. -/
  account : Address
  /-- The address of the signer for channels that another user opened. -/
  alternate : Option Address
  /-- The address of the custody contract. -/
  custody : Address

namespace Client

/-- The client of an account, if the configuration is valid. -/
def new (configuration : Configuration) (account : Address) (alternate : Option Address)
    (custody : Address) : Except Error Client :=
  match valid : configuration.validate with
  | .ok () => .ok ⟨configuration, valid, account, alternate, custody⟩
  | .error e => .error e

/-- The client as it is shown. -/
def describe (c : Client) : String :=
  Record.record "StatePreparer" [
    ("account", c.account.toHex),
    ("chain_id", toString c.configuration.chainId),
    ("protocol", c.configuration.protocol.describe)]

/-- Refuses parameters of another protocol than the configured one. -/
def requireProtocol (c : Client) (requested : Protocol) : Except Error Unit :=
  if requested = c.configuration.protocol then pure ()
  else throw (.protocolMismatch requested c.configuration.protocol)

/-- How many signatures make a state one that the parties agreed on. -/
def agreedSignatures : Nat := 2

/-- Refuses a state that the parties have not agreed on. -/
def requireAgreed (s : State) : Except Error Unit :=
  if s.signatureCount < agreedSignatures then
    throw (.invalidParameter "state signatures"
      s!"need at least {agreedSignatures}, got {s.signatureCount}")
  else pure ()

/-- How messages spell a channel id. -/
def channelContext (id : ChannelId) : String := s!"channel_id={id}"

/-- Has the account's own signer sign a state. -/
def signState (id : ChannelId) (s : State) : Operation Signature := do
  let hash ← Operation.ofEncoding (stateHash id s)
  Operation.sign (.perform (.signState hash ⟨id, s.protocol, s.version, s.intent, .state⟩))

/-- Reads a channel from the contract. -/
def channelRecord (id : ChannelId) : Operation ChannelRecord :=
  (Operation.view (.channelRecord id)).asRead "getChannelData" (channelContext id)

end Client

end PaymentChannel
