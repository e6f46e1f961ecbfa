import ServiceMesh.Balance.Balancer
import ServiceMesh.Balance.HashRing
import ServiceMesh.Balance.RoundRobin
import ServiceMesh.Balance.Strategy
import ServiceMesh.Balance.Weighted
import ServiceMesh.Broker
import ServiceMesh.Certificate
import ServiceMesh.Concurrency.Fiber
import ServiceMesh.Concurrency.Machine
import ServiceMesh.Control.Bus
import ServiceMesh.Control.Consumers
import ServiceMesh.Data.Dict
import ServiceMesh.Data.TextMap
import ServiceMesh.Directory
import ServiceMesh.Event
import ServiceMesh.Fault
import ServiceMesh.Gossip.Detector
import ServiceMesh.Gossip.Membership
import ServiceMesh.Gossip.Message
import ServiceMesh.Gossip.Peers
import ServiceMesh.Gossip.Protocol
import ServiceMesh.Hash.Murmur3
import ServiceMesh.Hash.Sha256
import ServiceMesh.Identity
import ServiceMesh.Locator
import ServiceMesh.Metadata.Composite
import ServiceMesh.Metadata.Error
import ServiceMesh.Metadata.Routing
import ServiceMesh.MsgPack.Decode
import ServiceMesh.MsgPack.Record
import ServiceMesh.MsgPack.Value
import ServiceMesh.Pool.Calls
import ServiceMesh.Pool.Fleet
import ServiceMesh.Pool.State
import ServiceMesh.Proofs.Balance.Burst
import ServiceMesh.Proofs.Balance.Choice
import ServiceMesh.Proofs.Balance.Keeping
import ServiceMesh.Proofs.Balance.Nearest
import ServiceMesh.Proofs.Balance.Owners
import ServiceMesh.Proofs.Balance.Signatures
import ServiceMesh.Proofs.Balance.Statistics
import ServiceMesh.Proofs.Balance.Turns
import ServiceMesh.Proofs.Broker.Deeds
import ServiceMesh.Proofs.Broker.Home
import ServiceMesh.Proofs.Broker.LatestLink
import ServiceMesh.Proofs.Broker.Life
import ServiceMesh.Proofs.Broker.Mirror
import ServiceMesh.Proofs.Broker.Pair
import ServiceMesh.Proofs.Broker.Pruning
import ServiceMesh.Proofs.Broker.Relocation
import ServiceMesh.Proofs.Broker.Replay
import ServiceMesh.Proofs.Broker.Upkeep
import ServiceMesh.Proofs.Concurrency.Cooperation
import ServiceMesh.Proofs.Concurrency.Courses
import ServiceMesh.Proofs.Concurrency.Discipline
import ServiceMesh.Proofs.Concurrency.Leftovers
import ServiceMesh.Proofs.Concurrency.Parts
import ServiceMesh.Proofs.Concurrency.Promptness
import ServiceMesh.Proofs.Concurrency.Runs
import ServiceMesh.Proofs.Control.Desk
import ServiceMesh.Proofs.Control.Formats
import ServiceMesh.Proofs.Control.Reordering
import ServiceMesh.Proofs.Control.Repetition
import ServiceMesh.Proofs.Dict
import ServiceMesh.Proofs.Gossip.Arrivals
import ServiceMesh.Proofs.Gossip.Checks
import ServiceMesh.Proofs.Gossip.Cluster
import ServiceMesh.Proofs.Gossip.Completion
import ServiceMesh.Proofs.Gossip.Departures
import ServiceMesh.Proofs.Gossip.Detection
import ServiceMesh.Proofs.Gossip.Following
import ServiceMesh.Proofs.Gossip.Hearsay
import ServiceMesh.Proofs.Gossip.Heartbeats
import ServiceMesh.Proofs.Gossip.Intervals
import ServiceMesh.Proofs.Gossip.Leaving
import ServiceMesh.Proofs.Gossip.Meetings
import ServiceMesh.Proofs.Gossip.Messages
import ServiceMesh.Proofs.Gossip.Neighbours
import ServiceMesh.Proofs.Gossip.Node
import ServiceMesh.Proofs.Gossip.Regimes
import ServiceMesh.Proofs.Gossip.Soundness
import ServiceMesh.Proofs.Gossip.Spread
import ServiceMesh.Proofs.Gossip.Tracking
import ServiceMesh.Proofs.Hash.Separation
import ServiceMesh.Proofs.Locator.Grammar
import ServiceMesh.Proofs.Locator.LetterCase
import ServiceMesh.Proofs.Metadata.Codec
import ServiceMesh.Proofs.Metadata.RoutingEntry
import ServiceMesh.Proofs.Metadata.Truncation
import ServiceMesh.Proofs.MsgPack.Applications
import ServiceMesh.Proofs.MsgPack.Records
import ServiceMesh.Proofs.MsgPack.RoundTrip
import ServiceMesh.Proofs.Pool.Accounts
import ServiceMesh.Proofs.Pool.Acts
import ServiceMesh.Proofs.Pool.Adoption
import ServiceMesh.Proofs.Pool.Failover
import ServiceMesh.Proofs.Pool.Operations
import ServiceMesh.Proofs.Pool.Ownership
import ServiceMesh.Proofs.Pool.Refreshing
import ServiceMesh.Proofs.Pool.Replacements
import ServiceMesh.Proofs.Pool.Reports
import ServiceMesh.Proofs.Pool.Sections
import ServiceMesh.Proofs.Pool.Site
import ServiceMesh.Proofs.Pool.Turnover
import ServiceMesh.Proofs.Routes.Aim
import ServiceMesh.Proofs.Routes.Availability
import ServiceMesh.Proofs.Routes.Discovery
import ServiceMesh.Proofs.Routes.Forwards
import ServiceMesh.Proofs.Routes.Indices
import ServiceMesh.Proofs.Routes.Junction
import ServiceMesh.Proofs.Routes.Keys
import ServiceMesh.Proofs.Routes.Lifecycle
import ServiceMesh.Proofs.Routes.Log
import ServiceMesh.Proofs.Routes.Lookup
import ServiceMesh.Proofs.Routes.Measuring
import ServiceMesh.Proofs.Routes.Relay
import ServiceMesh.Proofs.Routes.Reports
import ServiceMesh.Proofs.Routes.Requests
import ServiceMesh.Proofs.Routes.Responder
import ServiceMesh.Proofs.Routes.Scan
import ServiceMesh.Proofs.Routes.Spelling
import ServiceMesh.Proofs.Routes.Stickiness
import ServiceMesh.Proofs.Text.LetterCase
import ServiceMesh.Proofs.Transport.Bindings
import ServiceMesh.Proofs.Transport.Calls
import ServiceMesh.Proofs.Transport.Lifecycle
import ServiceMesh.Proofs.Transport.Links
import ServiceMesh.Proofs.Uuid
import ServiceMesh.Proofs.Worker.Protocol
import ServiceMesh.Proofs.Worker.Shift
import ServiceMesh.Report.Document
import ServiceMesh.Report.Failure
import ServiceMesh.Report.Values
import ServiceMesh.Routes.Change
import ServiceMesh.Routes.Responder
import ServiceMesh.Routes.Router
import ServiceMesh.Routes.Table
import ServiceMesh.Settings
import ServiceMesh.Settings.CommandLine
import ServiceMesh.Simulation.Action.Brokers
import ServiceMesh.Simulation.Action.Events
import ServiceMesh.Simulation.Action.Members
import ServiceMesh.Simulation.Action.Network
import ServiceMesh.Simulation.Action.Pools
import ServiceMesh.Simulation.Action.Routes
import ServiceMesh.Simulation.Action.Workers
import ServiceMesh.Simulation.Arena
import ServiceMesh.Simulation.Calls
import ServiceMesh.Simulation.Jobs
import ServiceMesh.Simulation.Scenario
import ServiceMesh.Simulation.Views
import ServiceMesh.Simulation.Wiring
import ServiceMesh.Simulation.World
import ServiceMesh.Text.Bytes
import ServiceMesh.Text.Class
import ServiceMesh.Text.Form
import ServiceMesh.Text.Numeral
import ServiceMesh.Text.Split
import ServiceMesh.Text.Table.Cased
import ServiceMesh.Text.Table.LowerRun
import ServiceMesh.Text.Table.Unprintable
import ServiceMesh.Transport.Link
import ServiceMesh.Transport.Network
import ServiceMesh.Transport.Registry
import ServiceMesh.Transport.Wire
import ServiceMesh.Uri
import ServiceMesh.Uri.Host
import ServiceMesh.Uri.Ipv4
import ServiceMesh.Uri.Ipv6
import ServiceMesh.Uri.Percent
import ServiceMesh.Uuid
import ServiceMesh.Worker
