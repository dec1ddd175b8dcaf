import PaymentChannel.Client.Basic

/-!
# Reading for the account

What the account has in channels, in the vault and in its wallet, as the contracts have it now.
-/

namespace PaymentChannel.Client

/-- The channels of the account that are still open. -/
def openChannels (c : Client) : Operation (List ChannelId) :=
  (Operation.view (.openChannels c.account)).asRead "getOpenChannels" s!"user={c.account}"

/-- All channels that the account ever opened. -/
def channelIds (c : Client) : Operation (List ChannelId) :=
  (Operation.view (.channelIds c.account)).asRead "getChannelIds" s!"user={c.account}"

/-- What the account has in the vault and not in channels. -/
def accountBalance (c : Client) (token : Address) : Operation UInt256 :=
  (Operation.view (.accountBalance c.account token)).asRead "getAccountBalance"
    s!"account={c.account} token={token}"

/-- What the account has in its wallet. -/
def tokenBalance (c : Client) (token : Address) : Operation UInt256 :=
  (Operation.view (.balanceOf token c.account)).asRead "balanceOf"
    s!"token={token} owner={c.account}"

/-- What the custody contract may take from the account's wallet. -/
def tokenAllowance (c : Client) (token : Address) : Operation UInt256 :=
  (Operation.view (.allowance token c.account c.custody)).asRead "allowance"
    s!"token={token} owner={c.account}"

end PaymentChannel.Client
