import Libvalkey.Reader.Chunking
import Libvalkey.Reader.Acceptance
import Libvalkey.Reader.ChildIndex
import Libvalkey.Reader.Ownership
import Libvalkey.Transport.Replies
import Libvalkey.Cluster.Pairing
import Libvalkey.Cluster.Table
import Libvalkey.Cluster.Agreement
import Libvalkey.Command.Routing
import Libvalkey.Cluster.Admission
import Libvalkey.Cluster.PipelineRuns
import Libvalkey.Cluster.Quiescence
import Libvalkey.Cluster.Retries
import Libvalkey.Cluster.NodeAddresses
import Libvalkey.Async.Records
import Libvalkey.Async.Ledger
import Libvalkey.Async.DeferredFree
import Libvalkey.Async.Teardown
import Libvalkey.Async.Timers
import Libvalkey.Async.Monitor
import Libvalkey.ClusterAsync.SlotWrites
import Libvalkey.ClusterAsync.Selection
import Libvalkey.ClusterAsync.Queues
import Libvalkey.ClusterAsync.Disconnecting
import Libvalkey.Cluster.Appending
import Libvalkey.Command.Counts
import Libvalkey.Command.Streams
import Libvalkey.Format.Injection
import Libvalkey.Format.Lengths
import Libvalkey.Format.RoundTrip
import Libvalkey.Cluster.NodeIterator
import Libvalkey.Cluster.HashTag
import Libvalkey.Cluster.Numbers
import Libvalkey.ClusterAsync.Choice
import Libvalkey.Reader.Integers
import Libvalkey.Cluster.SlotRanges
import Libvalkey.Cluster.Redirects
import Libvalkey.Transport.WriteEvents
import Libvalkey.Rdma.Receive
import Libvalkey.Transport.Progress
import Libvalkey.Containers.DictIterator
import Libvalkey.Containers.ListIterator
import Libvalkey.Transport.Pipelining
import Libvalkey.Net.Life
