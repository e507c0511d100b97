import Tandem.Address
import Tandem.CommandLine.Help
import Tandem.CommandLine.Invocation
import Tandem.CommandLine.Run
import Tandem.ContentHash
import Tandem.Decimal.Shortest
import Tandem.Document.Basic
import Tandem.Document.Codec
import Tandem.Document.Validity
import Tandem.Files
import Tandem.Host.Basic
import Tandem.Host.Coloring
import Tandem.Host.Error
import Tandem.Host.Image
import Tandem.Http
import Tandem.Json.Basic
import Tandem.Json.Decode
import Tandem.Json.Number
import Tandem.Json.Reading
import Tandem.Json.Text
import Tandem.Main
import Tandem.MainLoop.Basic
import Tandem.MainLoop.Call
import Tandem.MainLoop.Rehearsal
import Tandem.Network.Basic
import Tandem.Network.Client
import Tandem.Network.Discovery
import Tandem.Network.Launch
import Tandem.Path
import Tandem.Proofs.Address
import Tandem.Proofs.ContentHash
import Tandem.Proofs.Directories
import Tandem.Proofs.FileTree
import Tandem.Proofs.Files
import Tandem.Proofs.Host.Arithmetic
import Tandem.Proofs.Host.Changes
import Tandem.Proofs.Host.Faultless
import Tandem.Proofs.Host.Nodes
import Tandem.Proofs.Json.Atoms
import Tandem.Proofs.Json.Decode
import Tandem.Proofs.Json.Values
import Tandem.Proofs.MainLoop.Lanes
import Tandem.Proofs.MainLoop.Order
import Tandem.Proofs.MainLoop.Outcomes
import Tandem.Proofs.MainLoop.Run
import Tandem.Proofs.Network.Agreement
import Tandem.Proofs.Network.Calls
import Tandem.Proofs.Network.Delivery
import Tandem.Proofs.Network.Discovery
import Tandem.Proofs.Network.Launch
import Tandem.Proofs.Network.Navigation
import Tandem.Proofs.Path
import Tandem.Proofs.RoundTrip
import Tandem.Proofs.Session.Answers
import Tandem.Proofs.Session.Arithmetic
import Tandem.Proofs.Session.Batches
import Tandem.Proofs.Session.Directory
import Tandem.Proofs.Session.Display
import Tandem.Proofs.Session.Envelope
import Tandem.Proofs.Session.Failure
import Tandem.Proofs.Session.Lookup
import Tandem.Proofs.Session.Panics
import Tandem.Proofs.Session.Publication
import Tandem.Proofs.Session.Run
import Tandem.Proofs.Session.Service
import Tandem.Proofs.Session.Tasks
import Tandem.Proofs.Sync.Independence
import Tandem.Proofs.Sync.Links
import Tandem.Proofs.Sync.Worker
import Tandem.Proofs.Task
import Tandem.Proofs.View.Activation
import Tandem.Proofs.View.Arithmetic
import Tandem.Proofs.View.Registry
import Tandem.Rpc.Call
import Tandem.Rpc.Message
import Tandem.Rpc.Params
import Tandem.Session.Directory
import Tandem.Session.Identity
import Tandem.Session.Service
import Tandem.Sync.Broker
import Tandem.Sync.Command
import Tandem.Sync.Delivery
import Tandem.Sync.Outbox
import Tandem.Sync.Rehearsal
import Tandem.Task
import Tandem.Text.Blank
import Tandem.Text.IpAddress
import Tandem.Text.Numeral
import Tandem.Text.Quoted
import Tandem.Text.Split
import Tandem.Text.Symbol
import Tandem.Text.Visible
import Tandem.View.Basic
import Tandem.View.Row
import Tandem.Proofs.Host.Walks
import Tandem.Proofs.View.Colors
import Tandem.Proofs.Host.Reachable
import Tandem.Proofs.View.Sorting
import Tandem.Proofs.View.Recoloring
import Tandem.Proofs.Session.Opening
import Tandem.Proofs.Document.Faults
import Tandem.Proofs.Json.Records
import Tandem.Proofs.Network.Startup
import Tandem.Proofs.Rpc.Params
import Tandem.Proofs.View.Work
import Tandem.Proofs.Host.Splits
import Tandem.Proofs.TaskOrder
import Tandem.Proofs.View.Cells
