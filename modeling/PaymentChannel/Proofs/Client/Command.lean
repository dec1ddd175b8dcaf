import Mathlib.Data.List.Forall2
import PaymentChannel.LocalNet
import PaymentChannel.Proofs.Client.Requests

/-!
# Commands

A `Command` is anything that a client can be told to do, and `Client.perform` does it. The commands
that end with sent calls are the `Write`s: these first have their calls prepared
(`Client.preparation`), and what they return is made up of what was prepared and of the hashes of
the calls (`Write.parts`).

In a *session*, a client performs commands in a net, which may change from outside in between, so
that contracts can start to fail, or stop to, and errors can be put in front of any endpoint.
-/

namespace PaymentChannel

/-- What a client can be told to write. -/
inductive Write where
  | deposit (node token : Address) (amount : UInt256)
  | createChannel (o : Opening)
  | depositAndCreateChannel (node token : Address) (amount : UInt256) (o : Opening)
  | checkpoint (id : ChannelId) (candidate : State) (proofs : List State)
  | challenge (id : ChannelId) (candidate : State) (proofs : List State) (given : Option Signature)
  | closeChannel (closing : Closing)
  | withdraw (token : Address) (amount : UInt256)

namespace Write

/-- What is returned. -/
def Result : Write → Type
  | deposit .. => List Hash
  | createChannel _ => PreparedChannel × Hash
  | depositAndCreateChannel .. => PreparedChannel × List Hash
  | checkpoint .. | challenge .. | withdraw .. => Hash
  | closeChannel _ => State × Hash

/-- What is prepared, apart from calls. -/
def Prepared : Write → Type
  | deposit .. | checkpoint .. | challenge .. | withdraw .. => Unit
  | createChannel _ | depositAndCreateChannel .. => PreparedChannel
  | closeChannel _ => State

/-- What is returned, as what was prepared and the hashes of the calls. -/
def parts : (w : Write) → w.Result → w.Prepared × List Hash
  | deposit .., hashes => ((), hashes)
  | createChannel _, (prepared, hash) => (prepared, [hash])
  | depositAndCreateChannel .., result => result
  | checkpoint .., hash | challenge .., hash | withdraw .., hash => ((), [hash])
  | closeChannel _, (state, hash) => (state, [hash])

end Write

/-- What a client can be told to do. -/
inductive Command where
  -- Reading
  | channelRecord (id : ChannelId)
  | openChannels
  | channelIds
  | accountBalance (token : Address)
  | tokenBalance (token : Address)
  | tokenAllowance (token : Address)
  -- Making up and signing states
  | newDefinition (node : Address) (metadata : Bytes32)
  | initialState (o : Opening)
  | finalState (closing : Closing)
  | challengeSignature (id : ChannelId) (candidate : State) (given : Option Signature)
  -- Preparing calls
  | depositCalls (node token : Address) (amount : UInt256)
  | creationCall (o : Opening)
  | depositAndCreationCalls (node token : Address) (amount : UInt256) (o : Opening)
  | checkpointCall (id : ChannelId) (candidate : State) (proofs : List State)
  | challengeCall (id : ChannelId) (candidate : State) (proofs : List State)
      (given : Option Signature)
  | closeCall (id : ChannelId) (candidate : State) (proofs : List State)
  | cooperativeCloseCall (closing : Closing)
  | withdrawalCall (token : Address) (amount : UInt256)
  | channelDepositCall (id : ChannelId) (candidate : State)
  | channelWithdrawalCall (id : ChannelId) (candidate : State)
  -- Sending calls
  | sendAll (calls : List Call)
  | write (w : Write)

/-- What a command returns. -/
def Command.Result : Command → Type
  | channelRecord _ => ChannelRecord
  | openChannels | channelIds => List ChannelId
  | accountBalance _ | tokenBalance _ | tokenAllowance _ => UInt256
  | newDefinition .. => LedgerChannel
  | initialState _ => PreparedChannel
  | finalState _ => State
  | challengeSignature .. => Signature
  | depositCalls .. => List Call
  | creationCall _ => PreparedChannel × Call
  | depositAndCreationCalls .. => PreparedChannel × List Call
  | checkpointCall .. | challengeCall .. | closeCall .. | withdrawalCall .. | channelDepositCall ..
  | channelWithdrawalCall .. => Call
  | cooperativeCloseCall _ => State × Call
  | sendAll _ => List Hash
  | write w => w.Result

namespace Client

variable (c : Client)

/-- Has the calls of a write prepared. -/
def preparation : (w : Write) → Operation (w.Prepared × List Call)
  | .deposit node token amount => (fun calls => ((), calls)) <$> c.depositCalls node token amount
  | .createChannel o => (fun (prepared, call) => (prepared, [call])) <$> c.creationCall o
  | .depositAndCreateChannel node token amount o => c.depositAndCreationCalls node token amount o
  | .checkpoint id candidate proofs =>
    (fun call => ((), [call])) <$> checkpointCall id candidate proofs
  | .challenge id candidate proofs given =>
    (fun call => ((), [call])) <$> c.challengeCall id candidate proofs given
  | .closeChannel closing =>
    (fun (state, call) => (state, [call])) <$> c.cooperativeCloseCall closing
  | .withdraw token amount => (fun call => ((), [call])) <$> c.withdrawalCall token amount

/-- Carries out a write. -/
def carryOut : (w : Write) → Operation w.Result
  | .deposit node token amount => c.deposit node token amount
  | .createChannel o => c.createChannel o
  | .depositAndCreateChannel node token amount o => c.depositAndCreateChannel node token amount o
  | .checkpoint id candidate proofs => checkpoint id candidate proofs
  | .challenge id candidate proofs given => c.challenge id candidate proofs given
  | .closeChannel closing => c.closeChannel closing
  | .withdraw token amount => c.withdraw token amount

/-- Performs a command. -/
def perform : (command : Command) → Operation command.Result
  | .channelRecord id => channelRecord id
  | .openChannels => c.openChannels
  | .channelIds => c.channelIds
  | .accountBalance token => c.accountBalance token
  | .tokenBalance token => c.tokenBalance token
  | .tokenAllowance token => c.tokenAllowance token
  | .newDefinition node metadata => c.newDefinition node metadata
  | .initialState o => c.initialState o
  | .finalState closing => c.finalState closing
  | .challengeSignature id candidate given => c.challengeSignature id candidate given
  | .depositCalls node token amount => c.depositCalls node token amount
  | .creationCall o => c.creationCall o
  | .depositAndCreationCalls node token amount o => c.depositAndCreationCalls node token amount o
  | .checkpointCall id candidate proofs => checkpointCall id candidate proofs
  | .challengeCall id candidate proofs given => c.challengeCall id candidate proofs given
  | .closeCall id candidate proofs => closeCall id candidate proofs
  | .cooperativeCloseCall closing => c.cooperativeCloseCall closing
  | .withdrawalCall token amount => c.withdrawalCall token amount
  | .channelDepositCall id candidate => channelDepositCall id candidate
  | .channelWithdrawalCall id candidate => channelWithdrawalCall id candidate
  | .sendAll calls => sendAll calls
  | .write w => c.carryOut w

end Client

/-! ## Sessions -/

/-- A change of a net from outside. -/
inductive Change where
  | allowance (amount : UInt256)
  | vaultBalance (account token : Address) (amount : UInt256)
  | tokenBalance (account token : Address) (amount : UInt256)
  | asset (token : Address) (asset : Asset)
  | channel (id : ChannelId) (channel : ChannelRecord)
  | fail (endpoint : Endpoint) (operation : String)
  | refuse (endpoint : Endpoint) (operation : String) (e : Error)
  | heal

namespace LocalNet

/-- Makes a change. -/
def change (net : LocalNet) : Change → LocalNet
  | .allowance amount => net.setAllowance amount
  | .vaultBalance account token amount => net.setVaultBalance account token amount
  | .tokenBalance account token amount => net.setTokenBalance account token amount
  | .asset token asset => net.setAsset token asset
  | .channel id channel => net.setChannel id channel
  | .fail endpoint operation => net.fail endpoint operation
  | .refuse endpoint operation e => net.refuse endpoint operation e
  | .heal => net.heal

@[simp] theorem sent_change (net : LocalNet) (change : Change) :
    (net.change change).sent = net.sent := by
  cases change with
  | fail endpoint operation => cases endpoint <;> rfl
  | _ => rfl

@[simp] theorem submissions_change (net : LocalNet) (change : Change) :
    (net.change change).submissions = net.submissions := by
  cases change with
  | fail endpoint operation => cases endpoint <;> rfl
  | _ => rfl

@[simp] theorem signingLog_change (net : LocalNet) (change : Change) :
    (net.change change).signingLog = net.signingLog := by
  cases change with
  | fail endpoint operation => cases endpoint <;> rfl
  | _ => rfl

end LocalNet

/-- What can happen in a session. -/
inductive Event where
  | command (command : Command)
  | change (change : Change)

namespace Client

variable (c : Client)

/-- Has an event happen. -/
def step (net : LocalNet) : Event → LocalNet
  | .command command => (net.run (c.perform command)).2
  | .change change => net.change change

/-- Has events happen one after the other. -/
def session : List Event → LocalNet → LocalNet
  | [], net => net
  | event :: events, net => session events (c.step net event)

end Client

namespace Client

variable (c : Client) {β : Type} {log : LocalNet → List β} {I : LocalNet → Prop}
  {R : Event → List β → Prop}

/-- A log that each event only adds to, as `R` has it, is added to in this way, event by event, in a
    whole session. The step may rely on an invariant. -/
theorem session_log (step : ∀ net event, I net → I (c.step net event) ∧
      ∃ added, R event added ∧ log (c.step net event) = log net ++ added)
    (events : List Event) {net : LocalNet} (h : I net) :
    ∃ added, List.Forall₂ R events added ∧
      log (c.session events net) = log net ++ added.flatten := by
  induction events generalizing net with
  | nil => exact ⟨[], .nil, (List.append_nil _).symm⟩
  | cons event events ih =>
    obtain ⟨next, first, hfirst, first_eq⟩ := step net event h
    obtain ⟨later, rest, later_eq⟩ := ih next
    refine ⟨first :: later, .cons hfirst rest, ?_⟩
    rw [session, later_eq, first_eq, List.append_assoc, List.flatten_cons]

end Client

/-! ## A small setting -/

namespace Sample

/-- A net whose sender gives up after one transaction. -/
def net : LocalNet where
  custody := ⟨1⟩
  chainId := 1
  own := .scripted ⟨2⟩ (.ok ⟨[]⟩)
  alternate := none
  nonces := .fixed 0
  failsAfter := some 1

/-- The client of the net's own signer. -/
def client : Client where
  configuration := .standard 1 ⟨1⟩ 3600
  valid := rfl
  account := ⟨2⟩
  alternate := none
  custody := ⟨1⟩

/-- The channel that the account is to open. -/
def opening : Opening :=
  .v1 (some ⟨3600, ⟨2⟩, ⟨4⟩, 0, ⟨0⟩⟩) (some (.unsigned 0 .initial ⟨0⟩ .empty .empty))

/-- A legacy state that the account would be paid in, with the given signatures. -/
def state (signatures : List Signature) : State :=
  .legacy ⟨[], (⟨⟨2⟩, ⟨3⟩, 5⟩, ⟨⟨4⟩, ⟨3⟩, 0⟩), signatures⟩

end Sample

end PaymentChannel
