import Netfast.Icmp
import Netfast.Tcp.CubicWords
import Netfast.Tcp.Metrics
import Netfast.Tcp.OptionsCodec
import Netfast.Tcp.Resend
import Netfast.Tcp.SynSent
import Netfast.Tcp.RouteLoss
import Netfast.Tcp.Paws
import Netfast.Tcp.Segmentation
import Netfast.Tcp.OwnFin
import Netfast.Tcp.Handshake
import Netfast.Tcp.Reset
import Netfast.Tcp.Multiplex
import Netfast.Tcp.Episodes
import Netfast.Tcp.Accounting
import Netfast.Tcp.Backoff
import Netfast.Tcp.Persist
import Netfast.Tcp.Progress
import Netfast.Checksum
import Netfast.Ip.Refs
import Netfast.Ip6.RoundTrip
import Netfast.Ip6.Deliver
import Netfast.Xdp.Tx
import Netfast.Xdp.Rx
import Netfast.Xdp.Fill
import Netfast.Socket.Accept
import Netfast.TrieUpdate
import Netfast.Udp.Poll
import Netfast.Udp.Routed
import Netfast.Req.KeptRun
import Netfast.Req.Close
import Netfast.Queue.Notify
import Netfast.Async.Submit
import Netfast.Thread.Deadlines
import Netfast.Thread.Reassembly
