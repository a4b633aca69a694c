import Netfast.Skbuff

/-! The state of one TCP socket: `struct tcp_pcb`, the fields of `struct Socket` that TCP uses, and what
the worker around it supplies (clock, allocator, route table). -/

namespace Netfast.Tcp

open Serial Skbuff

abbrev Seq := Word

inductive TcpState
  | closed | listen | synSent | synReceived | established | finWait1 | finWait2 | closeWait | closing
  | lastAck | timeWait
deriving DecidableEq

inductive Errno
  | econnrefused | econnreset | etimedout | ehostunreach | enomem | epipe | efault | enotconn | eagain
  | enetunreach | einval | eio | ebadf | ecanceled | ealready | eisconn | einprogress | eaddrinuse
  | eaddrnotavail | emfile | eopnotsupp | edestaddrreq | eprotonosupport | eacces | emsgsize | eproto
  | eafnosupport | enobufs | enetdown
deriving DecidableEq

inductive Deadline
  | retransmit | keepalive | persist | timewait | finwait2 | ack | nagle
deriving DecidableEq

structure Timers where
  deadline : Deadline → ℕ := fun _ => 0
  registered : Bool := false
  timeout : ℕ := 0

structure Metrics where
  ifindex : ℕ
  rtt : ℕ := 0
  rttvar : ℕ := 0
deriving DecidableEq

structure Route where
  ifindex : ℕ
  mtu : ℕ
  l2Len : ℕ
  isBroadcast : Bool := false
  isMulticast : Bool := false
deriving DecidableEq

structure RouteAnswer where
  cached : Option Route
  found : Option Route

structure SendState where
  retransmitQueue : List SkBuff := []
  sendQueue : List SkBuff := []
  sndUna : Seq
  sndNxt : Seq
  sndEnd : Seq
  sendBufferLen : ℕ := 0
  sendBufferLenMax : ℕ

structure RecvState where
  recvQueue : List SkBuff := []
  unorderedSkbList : List SkBuff := []
  rcvNxt : Seq := 0
  rcvWnd : ℕ
  recvBufferLen : ℕ := 0
  recvBufferLenMax : ℕ

inductive CaState
  | open | recovery | loss
deriving DecidableEq

structure Cubic where
  epochStartMs : ℕ := 0
  lastMaxCwnd : ℕ := 0
  originPoint : ℕ := 0
  kMs : ℕ := 0
  ackCnt : ℕ := 0
  tcpCwnd : ℕ := 0
  cnt : ℕ := 0
  cwndCnt : ℕ := 0
  ackedBytes : ℕ := 0

structure CongState where
  sndCwnd : ℕ
  sndSsthresh : ℕ
  caRecoverySeq : Seq := 0
  caPriorCwnd : ℕ := 0
  caState : CaState := .open
  cubic : Cubic := {}

structure Nego where
  peerMss : ℕ
  sndMss : ℕ
  rcvMss : ℕ
  sndWndScale : ℕ := 0
  rcvWndScale : ℕ := 0
  peerMssOk : Bool := false
  wndScaleSent : Bool := false
  peerWndScaleOk : Bool := false
  peerTsOk : Bool := false
  tsRecent : ℕ := 0
  tsRecentAgeMs : ℕ := 0
  tsLastTsecr : ℕ := 0

structure SndWin where
  sndWnd : ℕ
  sndWl1 : Seq := 0
  sndWl2 : Seq := 0
  lastAck : Seq
  lastAckRepeat : ℕ := 0

structure Retry where
  retransmitTimeout : ℕ
  persistBackoff : ℕ := 2000
  retriesOut : ℕ := 0
  retriesMax : ℕ := 10
  connectTimeout : ℕ := 1000
  connectRetryTimes : ℕ := 0
  rttMeasTime : ℕ := 0
  rttMeasSeq : Seq := 0
  metrics : Option Metrics := none
  keepaliveTimeout : ℕ := 75000
  keepaliveRetryTimeout : ℕ := 1000
  keepaliveRepeatCount : ℕ := 0
  keepaliveRepeatMax : ℕ := 9
  timewaitTimeout : ℕ := 60000
  finwait2Timeout : ℕ := 60000
  ackTimeout : ℕ := 40
  nagleInterval : ℕ := 10
  ackPendingSegments : ℕ := 0

structure SockCore where
  state : TcpState := .closed
  isV6 : Bool := false
  fdEntry : Bool := true
  parentSock : Bool := false
  closeRecv : Bool := false
  closeSend : Bool := false
  isBound : Bool := false
  isConnected : Bool := false
  recvFin : Bool := false
  nonblock : Bool := false
  keepalive : Bool := false
  linger : Option ℕ := none
  sendTimeout : Option ℕ := none
  recvTimeout : Option ℕ := none
  cork : Bool := false
  freed : Bool := false

inductive Notify
  | dataRead | dataWrite | err | recvFin | newConnection | lingerDone
deriving DecidableEq

structure WireSeg where
  seq : Seq
  ack : Seq
  flags : Flags
  window : ℕ
  options : List UInt8
  payload : List UInt8
deriving DecidableEq

inductive Fault
  | nullRoute | nullSkb | nullSlot | useAfterFree | endlessLoop | heapOverflow
deriving DecidableEq

structure Env where
  now : ℕ := 0
  fates : Fates := []
  routes : List RouteAnswer := []
  wire : List WireSeg := []
  notified : List Notify := []
  faults : List Fault := []

structure TcpSock where
  core : SockCore
  route : Option Route := none
  error : Option Errno := none
  snd : SendState
  rcv : RecvState
  win : SndWin
  nego : Nego
  cong : CongState
  retry : Retry
  tm : Timers
  env : Env

structure TcpHdr where
  seq : Seq
  ackSeq : Seq
  flags : Flags
  window : ℕ
  windowLt : window < 2 ^ 16
  options : List UInt8
  optionsLe : options.length ≤ 40

structure Segment where
  hdr : TcpHdr
  infos : List DataInfo
  lenLt : (flatten infos).length < 2 ^ 16

def Segment.dataLen (g : Segment) : ℕ := (flatten g.infos).length

def Segment.segLen (g : Segment) : ℕ := g.dataLen + g.hdr.flags.syn.toNat + g.hdr.flags.fin.toNat

def u32Max : ℕ := 2 ^ 32 - 1

def subU32 (a b : ℕ) : ℕ := (a + (2 ^ 32 - b % 2 ^ 32)) % 2 ^ 32

lemma subU32_of_le {a b : ℕ} (h : b ≤ a) (ha : a < 2 ^ 32) : subU32 a b = a - b := by
  unfold subU32
  omega

end Netfast.Tcp
