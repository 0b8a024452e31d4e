import Flyover.Acceptance
import Flyover.Address
import Flyover.Address.Checked
import Flyover.Binary64
import Flyover.Binary64.Shortest
import Flyover.Binary64.Text
import Flyover.Bitcoin.Address
import Flyover.Bitcoin.Base58
import Flyover.Bitcoin.Bech32
import Flyover.Bytes
import Flyover.Call
import Flyover.CallData
import Flyover.Collateral
import Flyover.CommandLine
import Flyover.ConfirmationTable
import Flyover.Crypto.Ecdsa
import Flyover.Crypto.Keccak256
import Flyover.Crypto.Secp256k1
import Flyover.Crypto.Sha256
import Flyover.Deposit
import Flyover.Error
import Flyover.Event
import Flyover.Expiry
import Flyover.Federation
import Flyover.FixedBytes
import Flyover.FixedBytes.Json
import Flyover.Hex
import Flyover.Instant
import Flyover.Json.Basic
import Flyover.Json.Parser
import Flyover.Json.Printer
import Flyover.Json.Record
import Flyover.Liquidity
import Flyover.Main
import Flyover.Payout
import Flyover.Provider
import Flyover.Quote
import Flyover.Quote.Pricing
import Flyover.Quoting
import Flyover.Receipt
import Flyover.Recommendation
import Flyover.Registration
import Flyover.Report
import Flyover.Run
import Flyover.Run.Lemmas
import Flyover.Settings
import Flyover.Settings.Fault
import Flyover.Settings.Load
import Flyover.Settings.Path
import Flyover.Settings.Reading
import Flyover.Settings.Source
import Flyover.Settings.Value
import Flyover.Settlement
import Flyover.Settlement.State
import Flyover.Signature
import Flyover.Signed
import Flyover.Status
import Flyover.Store
import Flyover.Text.Blank
import Flyover.Text.Digits
import Flyover.Text.Printable
import Flyover.Text.Quoted
import Flyover.Toml.Basic
import Flyover.Toml.Parser
import Flyover.Toml.Scalar
import Flyover.Txid
import Flyover.Wei
import Flyover.Wei.Checked
import Flyover.Wei.Json
import Flyover.Proofs.Run.Frame
import Flyover.Proofs.Run.Reply
import Flyover.Proofs.WeiSum
import Flyover.Proofs.StoredLiquidity
import Flyover.Proofs.Endings.Payout
import Flyover.Proofs.Endings.Acceptance
import Flyover.Proofs.Endings.Expiry
import Flyover.Proofs.Endings.Observation
import Flyover.Proofs.Endings.Quoting
import Flyover.Proofs.Endings.Registration
import Flyover.Proofs.History.Deed
import Flyover.Proofs.History.Locked
import Flyover.Proofs.Lifecycle
import Flyover.Proofs.LockedLiquidity
import Flyover.Proofs.LockingCap
import Flyover.Proofs.Payments
import Flyover.Proofs.FundedPayouts
import Flyover.Proofs.ErrorTree
import Flyover.Proofs.PayoutOutcomes
import Flyover.Proofs.RegistrationOutcomes
import Flyover.Proofs.AtomicAcceptance
import Flyover.Proofs.Endings.Recommendation
import Flyover.Proofs.History.Quotes
import Flyover.Proofs.History.Events
import Flyover.Proofs.Commitments
import Flyover.Proofs.Release
import Flyover.Proofs.Recommendations
import Flyover.Proofs.LargestValue
import Flyover.Proofs.HexText
import Flyover.Proofs.SignerRecovery
import Flyover.Proofs.Pricing
import Flyover.Proofs.Endings.Local
import Flyover.Proofs.Isolation
import Flyover.Proofs.Run.Failure
import Flyover.Proofs.Run.Progress
import Flyover.Proofs.History.Inquiry
import Flyover.Proofs.History.Reached
import Flyover.Proofs.Coherence
import Flyover.Proofs.Progress
import Flyover.Proofs.Queries
import Flyover.Proofs.Sweeps
import Flyover.Proofs.Figures
import Flyover.Proofs.Reports
import Flyover.Proofs.LastWrites
import Flyover.Proofs.Pegin
import Flyover.Proofs.Run.Locks
import Flyover.Proofs.Endings.Locks
import Flyover.Proofs.HeldLocks
import Flyover.Proofs.Run.Errors
import Flyover.Proofs.Endings.Errors
import Flyover.Proofs.ErrorTags
import Flyover.Proofs.DecimalText
import Flyover.Proofs.JsonText
import Flyover.Proofs.RoundTrips
import Flyover.Proofs.Thresholds
import Flyover.Proofs.AmountText
import Flyover.Proofs.TamperedAccounts
import Flyover.Proofs.SoundArithmetic
import Flyover.Proofs.ErrorWalk
import Flyover.Proofs.QuoteHashes
import Flyover.Proofs.AddressText
import Flyover.Proofs.RealWords
import Flyover.Proofs.AcceptedSettings
import Flyover.Proofs.Satoshis
import Flyover.Proofs.ExactSums
