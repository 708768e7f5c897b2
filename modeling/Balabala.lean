import Balabala.Foundation.Machine
import Balabala.Foundation.Ticket
import Balabala.Foundation.StreamDecoder
import Balabala.Foundation.Transfer
import Balabala.Foundation.Format
import Balabala.Foundation.BatchQueue
import Balabala.Foundation.Guarded
import Balabala.Foundation.Party
import Balabala.Util.SpinLockQueue
import Balabala.Util.LockedQueue
import Balabala.Util.Buffer
import Balabala.Util.RawBuffer
import Balabala.Actor.Message
import Balabala.Actor.Scheduler.Basic
import Balabala.Actor.Scheduler.Step
import Balabala.Actor.Scheduler.Serial
import Balabala.Actor.Scheduler.Wakeup
import Balabala.Actor.Scheduler.Order
import Balabala.Actor.Scheduler.Effect
import Balabala.Actor.Scheduler.Fairness
import Balabala.Actor.Scheduler.Turns
import Balabala.Actor.Scheduler.Drain
import Balabala.Actor.Names
import Balabala.Actor.Links
import Balabala.Actor.Registry.Basic
import Balabala.Actor.Registry.Naming
import Balabala.Actor.Registry.Linking
import Balabala.Actor.Session.Basic
import Balabala.Actor.Session.Matching
import Balabala.Actor.Session.Numbering
import Balabala.Actor.Session.Responses
import Balabala.Actor.Session.Reuse
import Balabala.Actor.Session.Throwing
import Balabala.Actor.Lua.Basic
import Balabala.Actor.Lua.Frames
import Balabala.Actor.Lua.Release
import Balabala.Actor.Lua.Leaks
import Balabala.Actor.Lua.RunCo
import Balabala.Timer.Basic
import Balabala.Timer.Step
import Balabala.Timer.Deadline
import Balabala.Timer.Store
import Balabala.Timer.History
import Balabala.Timer.Runs
import Balabala.Timer.Cancel
import Balabala.Timer.Pass
import Balabala.Timer.Arrival
import Balabala.Timer.Shutdown
import Balabala.Actor.Session.Timed
import Balabala.Actor.Session.Timeouts
import Balabala.Cluster.Codec
import Balabala.Cluster.Grammar
import Balabala.Cluster.Gateway
import Balabala.Cluster.Pointers
import Balabala.Cluster.SendPaths
import Balabala.Cluster.NodeTable
import Balabala.Cluster.KnownNodes
import Balabala.Cluster.Sending
import Balabala.Cluster.Receive
import Balabala.Cluster.Calls
import Balabala.Cluster.Answers
import Balabala.Cluster.ReturnAddress
import Balabala.Net.Basic
import Balabala.Net.Step
import Balabala.Net.Tables
import Balabala.Net.Ownership
import Balabala.Net.Serving
import Balabala.Net.Handover
import Balabala.Net.Turn
import Balabala.Net.Removal
import Balabala.Net.Delivery
import Balabala.Net.Interest
import Balabala.Net.Tasks
import Balabala.Net.Shutdown
import Balabala.Net.Output
import Balabala.Net.ByteStream
import Balabala.Net.Lifecycle
import Balabala.Net.Connect
import Balabala.Cluster.Peers
import Balabala.Cluster.PeerOrder
import Balabala.Cluster.PeerStreams
import Balabala.Cluster.PeerRoutes
import Balabala.Callback.Connection
import Balabala.Callback.SendQueue
import Balabala.Callback.EchoServer
import Balabala.Callback.Echo
import Balabala.Server.Basic
import Balabala.Server.Step
import Balabala.Server.Tables
import Balabala.Server.Stages
import Balabala.Server.Coherence
import Balabala.Server.Routing
import Balabala.Server.Letters
import Balabala.Server.Notices
import Balabala.Server.Returns
import Balabala.Server.Endings
import Balabala.Server.Bytes
