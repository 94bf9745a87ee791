import ClusterDesk.Alerts.Channel
import ClusterDesk.Alerts.Config
import ClusterDesk.Alerts.Desk
import ClusterDesk.Alerts.Draft
import ClusterDesk.Alerts.Operations
import ClusterDesk.Alerts.Report
import ClusterDesk.Alerts.Threshold
import ClusterDesk.Amount
import ClusterDesk.Bytes.Hex
import ClusterDesk.Bytes.Word
import ClusterDesk.Chain.Account
import ClusterDesk.Chain.Calldata
import ClusterDesk.Claim.Desk
import ClusterDesk.Claim.Operations
import ClusterDesk.Curve.Secp256k1
import ClusterDesk.Dialogue
import ClusterDesk.Explorer.Page
import ClusterDesk.Explorer.Rows
import ClusterDesk.Network
import ClusterDesk.Failure
import ClusterDesk.Hash.Keccak
import ClusterDesk.Hash.Sha256
import ClusterDesk.Json.Basic
import ClusterDesk.Json.Decoder
import ClusterDesk.Json.Numeral
import ClusterDesk.Json.Parser
import ClusterDesk.Json.Printer
import ClusterDesk.Json.Token
import ClusterDesk.Number.Shortest
import ClusterDesk.Ownership
import ClusterDesk.Rehearsal.AlertStage
import ClusterDesk.Rehearsal.ClaimStage
import ClusterDesk.Rewards.Entitlement
import ClusterDesk.Settings
import ClusterDesk.Text.Basic
import ClusterDesk.Text.Quoted
import ClusterDesk.Web.Query
import ClusterDesk.Web.Reply
import ClusterDesk.Carriers
import ClusterDesk.Backend.Client
import ClusterDesk.Command.Arguments
import ClusterDesk.Command.Outcome
import ClusterDesk.Command.Run
import ClusterDesk.Main
import ClusterDesk.Proofs.Dialogue.History
import ClusterDesk.Proofs.Claim.Courses
import ClusterDesk.Proofs.Claim.Submission
import ClusterDesk.Proofs.Claim.Binding
import ClusterDesk.Proofs.Alerts.Coherence
import ClusterDesk.Proofs.Alerts.Signatures
import ClusterDesk.Proofs.Alerts.Channels
import ClusterDesk.Proofs.Alerts.Messages
import ClusterDesk.Proofs.Claim.Errors
import ClusterDesk.Proofs.Json.RoundTrip
import ClusterDesk.Proofs.Alerts.Persisted
import ClusterDesk.Proofs.Alerts.Removal
import ClusterDesk.Proofs.Backend.Secrecy
import ClusterDesk.Proofs.Claim.Lookup
import ClusterDesk.Proofs.Claim.Consistency
import ClusterDesk.Proofs.Alerts.Authority
import ClusterDesk.Proofs.Command.Clearance
import ClusterDesk.Proofs.Alerts.Postings
import ClusterDesk.Proofs.Alerts.Resaving
import ClusterDesk.Proofs.Config.Rules
import ClusterDesk.Proofs.Command.Clients
import ClusterDesk.Proofs.Command.Overlay
import ClusterDesk.Proofs.Web.Addresses
import ClusterDesk.Proofs.Alerts.Thresholds
import ClusterDesk.Proofs.Backend.Uniform
import ClusterDesk.Proofs.Rewards.Shown
import ClusterDesk.Proofs.Alerts.Normalising
import ClusterDesk.Proofs.Rewards.Published
import ClusterDesk.Proofs.Explorer.Pages
import ClusterDesk.Proofs.Backend.Parameters
import ClusterDesk.Proofs.Chain.Calldata
import ClusterDesk.Proofs.Wallet.Confirming
import ClusterDesk.Proofs.Claim.Retrying
import ClusterDesk.Proofs.Rewards.Written
import ClusterDesk.Proofs.Command.Saving
import ClusterDesk.Proofs.Displayed
