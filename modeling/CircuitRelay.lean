import CircuitRelay.Access.Control
import CircuitRelay.Access.List
import CircuitRelay.Address.Basic
import CircuitRelay.Address.Listen
import CircuitRelay.Address.Reach
import CircuitRelay.Address.Text
import CircuitRelay.Codec.Base58
import CircuitRelay.Codec.Fields
import CircuitRelay.Codec.Hex
import CircuitRelay.Codec.Positional
import CircuitRelay.Codec.Varint
import CircuitRelay.CommandLine
import CircuitRelay.Config.Basic
import CircuitRelay.Config.Load
import CircuitRelay.Config.Printer
import CircuitRelay.Config.Resolve
import CircuitRelay.Config.Schema
import CircuitRelay.Connection.Basic
import CircuitRelay.Connection.Closing
import CircuitRelay.Connection.Manager
import CircuitRelay.Connection.Watermarks
import CircuitRelay.Crypto.Edwards
import CircuitRelay.Crypto.Salsa
import CircuitRelay.Crypto.Sha2
import CircuitRelay.Crypto.Shake
import CircuitRelay.Disclosure
import CircuitRelay.Distinct
import CircuitRelay.Document.Basic
import CircuitRelay.Document.Json
import CircuitRelay.Document.Numeral
import CircuitRelay.Document.Printer
import CircuitRelay.Document.Reader
import CircuitRelay.Document.Section
import CircuitRelay.Document.Toml
import CircuitRelay.Duration.Basic
import CircuitRelay.Duration.Document
import CircuitRelay.Duration.Text
import CircuitRelay.File
import CircuitRelay.Host.Basic
import CircuitRelay.Host.Event
import CircuitRelay.Identity.Key
import CircuitRelay.Identity.Load
import CircuitRelay.Ip.Basic
import CircuitRelay.Ip.Scope
import CircuitRelay.Ip.Subnet
import CircuitRelay.Ip.Text
import CircuitRelay.Log
import CircuitRelay.Log.Filter
import CircuitRelay.Log.Pattern
import CircuitRelay.Log.Settings
import CircuitRelay.Log.Value
import CircuitRelay.Main
import CircuitRelay.Metrics
import CircuitRelay.Peer.Id
import CircuitRelay.Relay.Event
import CircuitRelay.Relay.Gate
import CircuitRelay.Relay.Settings
import CircuitRelay.Resource.Admission
import CircuitRelay.Resource.Amounts
import CircuitRelay.Resource.Ceilings
import CircuitRelay.Resource.Holdings
import CircuitRelay.Resource.Manager
import CircuitRelay.Routing.Bootstrap
import CircuitRelay.Routing.Overlay
import CircuitRelay.Routing.Seeds
import CircuitRelay.Routing.Session
import CircuitRelay.Secret.Key
import CircuitRelay.Secret.Policy
import CircuitRelay.Security.Upgrade
import CircuitRelay.Startup
import CircuitRelay.Table
import CircuitRelay.Tally
import CircuitRelay.Tasks
import CircuitRelay.Text.Blank
import CircuitRelay.Text.Floating
import CircuitRelay.Text.Integer
import CircuitRelay.Text.Letters
import CircuitRelay.Text.Percent
import CircuitRelay.Text.Quoted
import CircuitRelay.Text.Shown
import CircuitRelay.Text.Utf8
import CircuitRelay.Proofs.Resource.Charge
import CircuitRelay.Proofs.Resource.Chain
import CircuitRelay.Proofs.Resource.Request
import CircuitRelay.Proofs.Resource.Balance
import CircuitRelay.Proofs.Resource.Accounting
import CircuitRelay.Proofs.Connection.Counts
import CircuitRelay.Proofs.Connection.Protection
import CircuitRelay.Proofs.Connection.Pass
import CircuitRelay.Proofs.Connection.Closing
import CircuitRelay.Proofs.Relay.Queues
import CircuitRelay.Proofs.Relay.Operation
import CircuitRelay.Proofs.Relay.Permits
import CircuitRelay.Proofs.Relay.Usage
import CircuitRelay.Proofs.Relay.Counters
import CircuitRelay.Proofs.Relay.Access
import CircuitRelay.Proofs.Relay.AddressLimit
import CircuitRelay.Proofs.Relay.Protection
import CircuitRelay.Proofs.Relay.Isolation
import CircuitRelay.Proofs.Relay.Renewal
import CircuitRelay.Proofs.Connection.HighMark
import CircuitRelay.Proofs.Connection.Selection
import CircuitRelay.Proofs.Connection.Lifecycle
import CircuitRelay.Proofs.Connection.Archive
import CircuitRelay.Proofs.Resource.Admission
import CircuitRelay.Proofs.Resource.Decision
import CircuitRelay.Proofs.Relay.Decision
import CircuitRelay.Proofs.Resource.Collection
import CircuitRelay.Proofs.Disclosure.Candidates
import CircuitRelay.Proofs.Host.Disclosure
import CircuitRelay.Proofs.Runs
import CircuitRelay.Proofs.Routing.Stages
import CircuitRelay.Proofs.Routing.Rounds
import CircuitRelay.Proofs.Host.Refusal
import CircuitRelay.Proofs.Host.Operation
import CircuitRelay.Proofs.Host.Shutdown
import CircuitRelay.Proofs.Document.Section
import CircuitRelay.Proofs.Config.Layout
import CircuitRelay.Proofs.Config.Format
import CircuitRelay.Proofs.Config.Matching
import CircuitRelay.Proofs.Config.Sections
import CircuitRelay.Proofs.Config.Edits
import CircuitRelay.Proofs.Config.Unknown
import CircuitRelay.Proofs.Connection.Repeats
import CircuitRelay.Proofs.Connection.Worth
import CircuitRelay.Proofs.Connection.Favour
import CircuitRelay.Proofs.Relay.Tightening
import CircuitRelay.Proofs.Ip.Blocks
import CircuitRelay.Proofs.Resource.Growth
import CircuitRelay.Proofs.Routing.Outcomes
import CircuitRelay.Proofs.Duration.Written
