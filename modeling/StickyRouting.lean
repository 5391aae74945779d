import StickyRouting.Balancer
import StickyRouting.Balancer.Report
import StickyRouting.Balancer.Setup
import StickyRouting.Config
import StickyRouting.Config.Printer
import StickyRouting.Config.Reader
import StickyRouting.Decimal.Shortest
import StickyRouting.Directory
import StickyRouting.Directory.Path
import StickyRouting.Duration
import StickyRouting.Duration.Parser
import StickyRouting.Duration.Text
import StickyRouting.Json.Quoted
import StickyRouting.Json.Token
import StickyRouting.Json.Tree
import StickyRouting.KeyMap
import StickyRouting.KeyMap.Lemmas
import StickyRouting.Main
import StickyRouting.Metadata
import StickyRouting.Node
import StickyRouting.PartitionFilter
import StickyRouting.Picker
import StickyRouting.Registry
import StickyRouting.Role
import StickyRouting.RouteError
import StickyRouting.RouteKey
import StickyRouting.Server.Address
import StickyRouting.Server.Authority
import StickyRouting.Server.Client
import StickyRouting.Server.Command
import StickyRouting.Server.Glob
import StickyRouting.Server.Keyspace
import StickyRouting.Session
import StickyRouting.Session.Step
import StickyRouting.Store.Backend
import StickyRouting.Store.Call
import StickyRouting.Store.Embedded
import StickyRouting.Store.File
import StickyRouting.Store.FileFormat
import StickyRouting.Store.Medium
import StickyRouting.Store.Record
import StickyRouting.Store.Rehearsal
import StickyRouting.Text.Blank
import StickyRouting.Text.Extending
import StickyRouting.Text.Numeral
import StickyRouting.Text.Percent
import StickyRouting.Text.Quoted
import StickyRouting.Text.Unprintable
import StickyRouting.Text.Utf8
import StickyRouting.Toml.Document
import StickyRouting.Toml.Printer
import StickyRouting.Toml.Scalar
import StickyRouting.Toml.Statement
import StickyRouting.Toml.Table
import StickyRouting.Toml.Text
import StickyRouting.Tool
import StickyRouting.Tool.Arguments
import StickyRouting.Tool.Failure
import StickyRouting.Tool.Invocation
import StickyRouting.Tool.Listing
import StickyRouting.Tool.Log
import StickyRouting.Tool.World
import StickyRouting.View
import StickyRouting.Proofs.Json.Quoted
import StickyRouting.Proofs.Store.Record
import StickyRouting.Proofs.Store.Frame
import StickyRouting.Proofs.Store.Change
import StickyRouting.Proofs.Store.History
import StickyRouting.Proofs.Store.Ideal
import StickyRouting.Proofs.Store.Readable
import StickyRouting.Proofs.Text.ByteOrder
import StickyRouting.Proofs.Store.Refinement
import StickyRouting.Proofs.Store.Claims
import StickyRouting.Proofs.Store.Holding
import StickyRouting.Proofs.Store.Consumption
import StickyRouting.Proofs.Store.Failure
import StickyRouting.Proofs.Store.Lapse
import StickyRouting.Proofs.Balancer.Agreement
import StickyRouting.Proofs.Picker.Round
import StickyRouting.Proofs.Picker.Selections
import StickyRouting.Proofs.Picker.Proportion
import StickyRouting.Proofs.Picker.Cycle
import StickyRouting.Proofs.Picker.Turns
import StickyRouting.Proofs.Picker.Weightless
import StickyRouting.Proofs.Picker.Twins
import StickyRouting.Proofs.Picker.Memory
import StickyRouting.Proofs.RouteKey
import StickyRouting.Proofs.View
import StickyRouting.Proofs.Metadata
import StickyRouting.Proofs.Store.Clocked
import StickyRouting.Proofs.Balancer.FirstPicks
import StickyRouting.Proofs.Balancer.Isolation
import StickyRouting.Proofs.Balancer.Staleness
import StickyRouting.Proofs.Balancer.Following
import StickyRouting.Proofs.Balancer.Course
import StickyRouting.Proofs.Balancer.Partition
import StickyRouting.Proofs.Balancer.Settlement
import StickyRouting.Proofs.Server.Glob
import StickyRouting.Proofs.Server.Mirror
import StickyRouting.Proofs.Server.Scan
import StickyRouting.Proofs.Server.Agreement
import StickyRouting.Proofs.Server.Listing
import StickyRouting.Proofs.Server.Slot
import StickyRouting.Proofs.Tool.Listing
import StickyRouting.Proofs.Tool.Addressing
import StickyRouting.Proofs.Store.Renewal
import StickyRouting.Proofs.Balancer.Lapse
import StickyRouting.Proofs.Text.Numeral
import StickyRouting.Proofs.Text.Blank
import StickyRouting.Proofs.Duration
import StickyRouting.Proofs.Toml.Text
import StickyRouting.Proofs.Toml.Number
import StickyRouting.Proofs.Toml.Document
import StickyRouting.Proofs.Config.Check
import StickyRouting.Proofs.Config.RoundTrip
import StickyRouting.Proofs.Balancer.Setup
import StickyRouting.Proofs.Registry
import StickyRouting.Proofs.Directory
import StickyRouting.Proofs.Tool.Scaffolding
