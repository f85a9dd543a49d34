import PacketRelay.Bytes
import PacketRelay.Channel
import PacketRelay.CommandLine
import PacketRelay.Decimal.Binary64
import PacketRelay.Decimal.Shortest
import PacketRelay.Document.Assembly
import PacketRelay.Document.Layout
import PacketRelay.Document.Moment
import PacketRelay.Document.Number
import PacketRelay.Document.Reader
import PacketRelay.Document.Text
import PacketRelay.Document.Value
import PacketRelay.Errno
import PacketRelay.Errno.Names
import PacketRelay.Failure
import PacketRelay.Frame.Basic
import PacketRelay.Frame.Decoder
import PacketRelay.Frame.Storage
import PacketRelay.Kernel.Basic
import PacketRelay.Kernel.Call
import PacketRelay.Kernel.Endpoint
import PacketRelay.Kernel.FileTree
import PacketRelay.Kernel.Handle
import PacketRelay.Kernel.Table
import PacketRelay.Log.Directive
import PacketRelay.Log.Filter
import PacketRelay.Log.Nesting
import PacketRelay.Log.Notice
import PacketRelay.Log.Pattern
import PacketRelay.Main
import PacketRelay.Packet.Address
import PacketRelay.Packet.Summary
import PacketRelay.Program
import PacketRelay.Proofs.Accepting
import PacketRelay.Proofs.Account
import PacketRelay.Proofs.Admission
import PacketRelay.Proofs.Arrivals
import PacketRelay.Proofs.Backpressure
import PacketRelay.Proofs.Besides
import PacketRelay.Proofs.Binding
import PacketRelay.Proofs.Bounds
import PacketRelay.Proofs.Broadcasting
import PacketRelay.Proofs.Buffering
import PacketRelay.Proofs.Checks
import PacketRelay.Proofs.Chunking
import PacketRelay.Proofs.Composure
import PacketRelay.Proofs.Configuring
import PacketRelay.Proofs.Counting
import PacketRelay.Proofs.Custody
import PacketRelay.Proofs.Delivery
import PacketRelay.Proofs.Dispatch
import PacketRelay.Proofs.Dispositions
import PacketRelay.Proofs.Emission
import PacketRelay.Proofs.Ending
import PacketRelay.Proofs.Evolving
import PacketRelay.Proofs.Failing
import PacketRelay.Proofs.Fields
import PacketRelay.Proofs.Footprints
import PacketRelay.Proofs.Forwarding
import PacketRelay.Proofs.Glances
import PacketRelay.Proofs.History
import PacketRelay.Proofs.Holding
import PacketRelay.Proofs.Independence
import PacketRelay.Proofs.Intake
import PacketRelay.Proofs.Interruptions
import PacketRelay.Proofs.Isolation
import PacketRelay.Proofs.Labels
import PacketRelay.Proofs.Ledger
import PacketRelay.Proofs.Leftovers
import PacketRelay.Proofs.Lines
import PacketRelay.Proofs.Lockstep
import PacketRelay.Proofs.Moves
import PacketRelay.Proofs.Numerals
import PacketRelay.Proofs.Offering
import PacketRelay.Proofs.Order
import PacketRelay.Proofs.Owning
import PacketRelay.Proofs.Parsing
import PacketRelay.Proofs.Paths
import PacketRelay.Proofs.Portions
import PacketRelay.Proofs.Precedence
import PacketRelay.Proofs.Reaching
import PacketRelay.Proofs.Removing
import PacketRelay.Proofs.Retrying
import PacketRelay.Proofs.Rounds
import PacketRelay.Proofs.Scalars
import PacketRelay.Proofs.Service
import PacketRelay.Proofs.Serving
import PacketRelay.Proofs.Singly
import PacketRelay.Proofs.Sound
import PacketRelay.Proofs.Stages
import PacketRelay.Proofs.Staging
import PacketRelay.Proofs.Standstill
import PacketRelay.Proofs.Starting
import PacketRelay.Proofs.Statistics
import PacketRelay.Proofs.Steadiness
import PacketRelay.Proofs.Storing
import PacketRelay.Proofs.Submission
import PacketRelay.Proofs.Summaries
import PacketRelay.Proofs.Tallies
import PacketRelay.Proofs.Transparency
import PacketRelay.Proofs.Upkeep
import PacketRelay.Proofs.Visits
import PacketRelay.Proofs.Waning
import PacketRelay.Record
import PacketRelay.Relay.Basic
import PacketRelay.Relay.Pass
import PacketRelay.Roster
import PacketRelay.Session.Basic
import PacketRelay.Session.Service
import PacketRelay.Settings.Basic
import PacketRelay.Settings.Load
import PacketRelay.Settings.Misread
import PacketRelay.Settings.Reading
import PacketRelay.Text.Blank
import PacketRelay.Text.Hidden
import PacketRelay.Text.Letter
import PacketRelay.Text.Quoted
import PacketRelay.Text.Ranges
import PacketRelay.Text.Terminal
import PacketRelay.Totals
import PacketRelay.Tunnel.Basic
import PacketRelay.Tunnel.Interface
