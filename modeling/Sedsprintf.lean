import Sedsprintf.Lib.ByteNumerals
import Sedsprintf.Lib.BitSet
import Sedsprintf.Lib.OrdMap
import Sedsprintf.Lib.Mixing
import Sedsprintf.Lib.Runs
import Sedsprintf.Lib.Program
import Sedsprintf.Lib.Loops
import Sedsprintf.Lib.SharedBudget
import Sedsprintf.Lib.Ledger
import Sedsprintf.Lib.SortDedup
import Sedsprintf.Lib.Window
import Sedsprintf.Lib.Weighted
import Sedsprintf.Lib.Least
import Sedsprintf.Lib.Calendar
import Sedsprintf.Lib.Keyed
import Sedsprintf.Lib.Traced
import Sedsprintf.Lib.BoundedCache
import Sedsprintf.Lib.Backoff
import Sedsprintf.Lib.PrefixCode
import Sedsprintf.Schema
import Sedsprintf.Build
import Sedsprintf.Codegen.Config
import Sedsprintf.Codegen.Macro
import Sedsprintf.Codegen.BuildScript
import Sedsprintf.Packet
import Sedsprintf.Wire.Reader
import Sedsprintf.Wire.Frame
import Sedsprintf.Wire.RoundTrip
import Sedsprintf.Wire.Agreement
import Sedsprintf.Wire.Header
import Sedsprintf.Wire.Identity
import Sedsprintf.Wire.Numbers
import Sedsprintf.Wire.Panics
import Sedsprintf.Wire.Refusals
import Sedsprintf.Reliable.Stream
import Sedsprintf.Reliable.History
import Sedsprintf.Reliable.Reorder
import Sedsprintf.Reliable.Link
import Sedsprintf.Reliable.Delivery
import Sedsprintf.Reliable.Progress
import Sedsprintf.Reliable.PartialAck
import Sedsprintf.Reliable.Wrap
import Sedsprintf.Queue
import Sedsprintf.Queue.Calls
import Sedsprintf.Queue.Priority
import Sedsprintf.Node
import Sedsprintf.Reliable.Streams
import Sedsprintf.Reliable.SideSend
import Sedsprintf.Discovery
import Sedsprintf.Discovery.Learned
import Sedsprintf.Discovery.Boards
import Sedsprintf.Discovery.Codec
import Sedsprintf.Discovery.Capacities
import Sedsprintf.Codegen.StackPayload
import Sedsprintf.Stores
import Sedsprintf.Stores.Push
import Sedsprintf.Stores.Moves
import Sedsprintf.Stores.Recent
import Sedsprintf.Stores.Eviction
import Sedsprintf.Stores.Routes
import Sedsprintf.Hop
import Sedsprintf.Receive
import Sedsprintf.Routing
import Sedsprintf.System
import Sedsprintf.Replays
import Sedsprintf.Router.State
import Sedsprintf.Router.Ops
import Sedsprintf.Router.System
import Sedsprintf.Router.Replays
import Sedsprintf.Router.Moves
import Sedsprintf.Router.Receive
import Sedsprintf.Router.Routing
import Sedsprintf.Router.Machine
import Sedsprintf.Router.Dispatch
import Sedsprintf.Router.Effects
import Sedsprintf.Router.Arrivals
import Sedsprintf.Router.Drain
import Sedsprintf.Router.Settled
import Sedsprintf.Router.Calls
import Sedsprintf.Router.EndToEnd
import Sedsprintf.Router.Workload
import Sedsprintf.Router.Steps
import Sedsprintf.Relay.State
import Sedsprintf.Relay.Ops
import Sedsprintf.Relay.System
import Sedsprintf.Relay.Replays
import Sedsprintf.Relay.Moves
import Sedsprintf.Relay.Receive
import Sedsprintf.Relay.Routing
import Sedsprintf.Relay.Drain
import Sedsprintf.TimeSync.NetworkTime
import Sedsprintf.Discovery.Cadence
import Sedsprintf.Discovery.Advertise
import Sedsprintf.Discovery.Messages
import Sedsprintf.Discovery.Knowledge
import Sedsprintf.Discovery.Announce
import Sedsprintf.Discovery.Announcing
import Sedsprintf.Discovery.Network
import Sedsprintf.TimeSync.Tracker
import Sedsprintf.TimeSync.Runtime
import Sedsprintf.TimeSync.Election
import Sedsprintf.TimeSync.Network
import Sedsprintf.TimeSync.Steering
import Sedsprintf.TimeSync.Slewing
import Sedsprintf.TimeSync.Negation
import Sedsprintf.TimeSync.Calendar
import Sedsprintf.Router.TimeSync
import Sedsprintf.Router.Announce
import Sedsprintf.Relay.Announce
import Sedsprintf.TimeSync.Refreshing
import Sedsprintf.TimeSync.Exchange
import Sedsprintf.Router.Exchange
import Sedsprintf.TimeSync.Requests
import Sedsprintf.Guarantees.BoundedQueue
import Sedsprintf.Guarantees.History
import Sedsprintf.Guarantees.FailedSend
import Sedsprintf.Guarantees.ReplayFlag
import Sedsprintf.Guarantees.Numbering
import Sedsprintf.Guarantees.Budget
import Sedsprintf.Guarantees.Window
import Sedsprintf.Guarantees.Eviction
import Sedsprintf.Guarantees.Corruption
import Sedsprintf.Guarantees.Frames
import Sedsprintf.Guarantees.HostileInput
import Sedsprintf.Guarantees.Control
import Sedsprintf.Guarantees.Release
import Sedsprintf.Guarantees.RelayDedupe
import Sedsprintf.Guarantees.Drains
import Sedsprintf.Guarantees.BusySides
import Sedsprintf.Guarantees.Routing
import Sedsprintf.Guarantees.Fanout
import Sedsprintf.Guarantees.RouteCache
import Sedsprintf.Guarantees.Retransmission
import Sedsprintf.Guarantees.NestedDrains
import Sedsprintf.Guarantees.AckPath
import Sedsprintf.Guarantees.Representation
import Sedsprintf.Guarantees.Fairness
import Sedsprintf.Guarantees.Silence
import Sedsprintf.Guarantees.Completion
import Sedsprintf.Guarantees.AckDelivery
import Sedsprintf.Guarantees.SplitBrain
import Sedsprintf.Guarantees.Following
import Sedsprintf.Guarantees.Reading
import Sedsprintf.Guarantees.Reconfiguration
import Sedsprintf.Guarantees.Calendar
import Sedsprintf.Guarantees.MergedTime
import Sedsprintf.Guarantees.Slewing
import Sedsprintf.Guarantees.Topology
import Sedsprintf.Guarantees.DiscoveryCodec
import Sedsprintf.Discovery.Rounds
import Sedsprintf.Guarantees.DiscoveryCapacities
import Sedsprintf.Guarantees.SatisfiedSides
import Sedsprintf.Guarantees.BoundedCaches
import Sedsprintf.Guarantees.LostResponse
import Sedsprintf.Guarantees.Convergence
import Sedsprintf.Guarantees.DayNumbers
import Sedsprintf.Guarantees.WeightedTurns
import Sedsprintf.Guarantees.PayloadStorage
import Sedsprintf.Guarantees.Reachability
import Sedsprintf.Guarantees.Announcements
import Sedsprintf.Guarantees.Accuracy
import Sedsprintf.Guarantees.Relaying
