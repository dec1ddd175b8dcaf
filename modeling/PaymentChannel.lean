import PaymentChannel.Abi.Digest
import PaymentChannel.Bytes.Lemmas
import PaymentChannel.Client.Agreement
import PaymentChannel.Client.Closing
import PaymentChannel.Client.Dispute
import PaymentChannel.Client.Opening
import PaymentChannel.Client.Reading
import PaymentChannel.Configuration.Document
import PaymentChannel.LocalNet
import PaymentChannel.Proofs.Abi.Component
import PaymentChannel.Proofs.Abi.ContractType
import PaymentChannel.Proofs.Abi.Datum
import PaymentChannel.Proofs.Abi.Fault
import PaymentChannel.Proofs.Abi.Passes
import PaymentChannel.Proofs.Abi.Reading
import PaymentChannel.Proofs.Abi.Record
import PaymentChannel.Proofs.Assets.Coherence
import PaymentChannel.Proofs.Assets.Reading
import PaymentChannel.Proofs.Assets.Transcript
import PaymentChannel.Proofs.Channel.Identity
import PaymentChannel.Proofs.Channel.Packing
import PaymentChannel.Proofs.Channel.Preimage
import PaymentChannel.Proofs.Client.Checks
import PaymentChannel.Proofs.Client.Closing
import PaymentChannel.Proofs.Client.Combination
import PaymentChannel.Proofs.Client.Command
import PaymentChannel.Proofs.Client.Delivery
import PaymentChannel.Proofs.Client.Deposits
import PaymentChannel.Proofs.Client.Funds
import PaymentChannel.Proofs.Client.Opening
import PaymentChannel.Proofs.Client.Order
import PaymentChannel.Proofs.Client.Protocol
import PaymentChannel.Proofs.Client.Reporting
import PaymentChannel.Proofs.Client.Requests
import PaymentChannel.Proofs.Client.Retry
import PaymentChannel.Proofs.Client.Sequencing
import PaymentChannel.Proofs.Client.Signing
import PaymentChannel.Proofs.Client.Submission
import PaymentChannel.Proofs.Contract.Attempt
import PaymentChannel.Proofs.Contract.Ensures
import PaymentChannel.Proofs.Contract.Failure
import PaymentChannel.Proofs.Contract.Independence
import PaymentChannel.Proofs.Contract.Preparation
import PaymentChannel.Proofs.Net.Answers
import PaymentChannel.Proofs.Net.Records
import PaymentChannel.Proofs.Net.Sending
import PaymentChannel.Proofs.Signing.Recovery
import PaymentChannel.Proofs.Channel.Nonce
import PaymentChannel.Proofs.Client.Steps
import PaymentChannel.Proofs.Amount.Numeral
import PaymentChannel.Proofs.Amount.Reading
import PaymentChannel.Proofs.Amount.Writing
import PaymentChannel.Proofs.Abi.Integer
import PaymentChannel.Proofs.Text.Hex
import PaymentChannel.Proofs.Client.Dispute
import PaymentChannel.Proofs.Json.Reads
import PaymentChannel.Proofs.Json.Text
import PaymentChannel.Proofs.Json.Numeral
import PaymentChannel.Proofs.Json.Value
import PaymentChannel.Proofs.Json.Entries
import PaymentChannel.Proofs.Configuration.Setting
import PaymentChannel.Proofs.Configuration.Document
import PaymentChannel.Proofs.Configuration.Layout
import PaymentChannel.Proofs.Abi.Acceptance
import PaymentChannel.Proofs.Abi.Serializer
import PaymentChannel.Proofs.Abi.Sizing
