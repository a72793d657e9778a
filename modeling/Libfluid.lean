import Libfluid.Library.OrderedMap
import Libfluid.Library.Pattern
import Libfluid.Library.Prefix
import Libfluid.Library.Masked
import Libfluid.Library.Run
import Libfluid.Library.Bytes
import Libfluid.Library.Except
import Libfluid.Switch.Reads
import Libfluid.Switch.Fields
import Libfluid.Switch.Encapsulation
import Libfluid.Switch.Comparison
import Libfluid.Switch.Replacement
import Libfluid.Switch.MissingBuffer
import Libfluid.Switch.Announce
import Libfluid.Switch.Leaks
import Libfluid.Controller.Reply
import Libfluid.Controller.History
import Libfluid.Controller.EndToEnd
import Libfluid.Controller.Agreement
import Libfluid.Controller.Benchmark
import Libfluid.Controller.Python13
import Libfluid.Controller.Sending
import Libfluid.Multicast.App
import Libfluid.Multicast.Step
import Libfluid.Multicast.Bookkeeping
import Libfluid.Multicast.Buckets
import Libfluid.Multicast.Membership
import Libfluid.Multicast.NetworkClient
import Libfluid.Multicast.ReferenceSwitch
import Libfluid.Multicast.Refinement
import Libfluid.Controller.Sharing
import Libfluid.Multicast.Wire
import Libfluid.Multicast.Process
import Libfluid.Multicast.ClassD
import Libfluid.Multicast.Payload
import Libfluid.Multicast.Connections
import Libfluid.Client.Negotiation
import Libfluid.Client.Liveness
import Libfluid.Client.Conversation
