import Netfast.Tcp.User

/-! A connection: how it is opened, its timer callback, and the events that drive it. -/

namespace Netfast.Tcp

open Skbuff

-- tcp_deadline_due: the test, and what a due deadline does to the timer
def TcpSock.due (s : TcpSock) (which : Deadline) : Bool :=
  s.tm.deadline which != timerStop && decide (s.tm.deadline which ≤ s.env.now)

def TcpSock.clearDeadline (s : TcpSock) (which : Deadline) : TcpSock :=
  { s with tm := tcpResetTimer (s.tm.set which timerStop) }

def abortTimeout (s : TcpSock) : TcpSock := destroyTcpSocket { s with error := some .etimedout }

def retransmitTimeout (s : TcpSock) : TcpSock :=
  if s.snd.retransmitQueue = [] then s
  else if s.core.state = .synSent ∨ s.core.state = .synReceived then
    let tries := s.retry.connectRetryTimes
    let s : TcpSock := { s with retry.connectRetryTimes := tries + 1 }
    if 8 ≤ tries then abortTimeout s
    else
      let s : TcpSock := { s with retry.connectTimeout := s.retry.connectTimeout * 2 }
      let s := s.updateTimer .retransmit (s.env.now + s.retry.connectTimeout) true
      (tcpRetransmitSkb s s.snd.retransmitQueue.head? false).1
  else
    let out := s.retry.retriesOut
    let s : TcpSock := { s with retry.retriesOut := out + 1 }
    if s.retry.retriesMax ≤ out then abortTimeout s
    else
      let s := tcpCongestionOnTimeout s
      let s : TcpSock := { s with retry.retransmitTimeout := tcpMetricsBackoff s.retry.retransmitTimeout }
      let s := s.updateTimer .retransmit (s.env.now + s.retry.retransmitTimeout) false
      (tcpRetransmitSkb s s.snd.retransmitQueue.head? false).1

def persistTimeout (s : TcpSock) : TcpSock :=
  if s.win.sndWnd = 0 ∧ (s.snd.retransmitQueue ≠ [] ∨ s.snd.sendQueue ≠ []) then
    let out := s.retry.retriesOut
    let s : TcpSock := { s with retry.retriesOut := out + 1 }
    if s.retry.retriesMax ≤ out then abortTimeout s
    else
      let s : TcpSock := { s with retry.persistBackoff := min (s.retry.persistBackoff * 2) 60000 }
      (tcpSendProbe (s.updateTimer .persist (s.env.now + s.retry.persistBackoff) true)).1
  else s

def keepaliveTimeout (s : TcpSock) : TcpSock :=
  if !s.core.keepalive || s.core.state ≠ .established then { s with retry.keepaliveRepeatCount := 0 }
  else
    let count := s.retry.keepaliveRepeatCount
    let s : TcpSock := { s with retry.keepaliveRepeatCount := count + 1 }
    if s.retry.keepaliveRepeatMax ≤ count then abortTimeout s
    else
      let s := s.updateTimer .keepalive (s.env.now + s.retry.keepaliveRetryTimeout) false
      (tcpSendFlag s (s.snd.sndUna - 1) s.rcv.rcvNxt .ackOnly).1

def tcpTimerCb (s : TcpSock) : TcpSock :=
  if s.due .nagle then
    let s := s.clearDeadline .nagle
    if s.snd.sendQueue = [] then s else (tcpWriteXmit s true).1
  else if s.due .retransmit then retransmitTimeout (s.clearDeadline .retransmit)
  else if s.due .ack then
    let s := s.clearDeadline .ack
    (tcpSendFlag s s.snd.sndNxt s.rcv.rcvNxt .ackOnly).1
  else if s.due .persist then persistTimeout (s.clearDeadline .persist)
  else if s.due .timewait then destroyTcpSocket (s.clearDeadline .timewait)
  else if s.due .finwait2 then
    let s := s.clearDeadline .finwait2
    if s.core.state = .finWait2 then destroyTcpSocket s else s
  else if s.due .keepalive then keepaliveTimeout (s.clearDeadline .keepalive)
  else s

def tcpPcbInit (isV6 : Bool) (env : Env) : TcpSock :=
  let mss := if isV6 then 1220 else 536
  let iss : Seq := BitVec.ofNat 32 (env.now % 65535)
  let nego : Nego := { peerMss := mss, sndMss := mss, rcvMss := mss }
  { core := { isV6 }
    snd := { sndUna := iss, sndNxt := iss, sndEnd := iss, sendBufferLenMax := 262144 }
    rcv := { rcvWnd := 262144, recvBufferLenMax := 262144 }
    win := { sndWnd := 262144, lastAck := iss }
    nego
    cong := tcpCongestionInit nego
    retry := { retransmitTimeout := tcpMetricsDefaultRto }
    tm := {}
    env }

def connectSyn (s : TcpSock) : TcpSock × Ret :=
  match tcpSendFlag { s with core.state := .synSent } s.snd.sndNxt 0 { syn := true } with
  | (s, none) => ({ s with core.isConnected := true }, none)
  | (s, some e) => ({ s with core.state := .closed }, some e)

def childSyn (s : TcpSock) (h : TcpHdr) : TcpSock :=
  let s : TcpSock := { s with
    core.state := .synReceived
    core.parentSock := true
    core.fdEntry := false
    core.isConnected := true }
  match parseTcpOptions s h with
  | (s, false) => s
  | (s, true) =>
    let s : TcpSock := { s with rcv.rcvNxt := h.seq + 1 }
    let s := tcpSndWinChange s (tcpDecodeWindow s.nego h.window h.flags)
    (tcpSendFlag s s.snd.sndUna s.rcv.rcvNxt { syn := true, ack := true }).1

structure Inputs where
  now : ℕ := 0
  fates : Fates := []
  routes : List RouteAnswer := []

abbrev TcpSock.withInputs (s : TcpSock) (i : Inputs) : TcpSock :=
  { s with env.now := i.now, env.fates := i.fates, env.routes := i.routes }

inductive Action
  | input (g : Segment)
  | timer
  | accept
  | write (buf : List UInt8) (expired : Bool)
  | read (len : ℕ) (expired : Bool)
  | shutdown (how : How)
  | setsockopt (o : SockOpt)
  | close
  | icmp (quoted : Option Seq) (err : Errno)

structure Event where
  action : Action
  inputs : Inputs := {}

def Action.enabled (s : TcpSock) : Action → Bool
  | .input _ | .timer | .icmp _ _ => !s.core.freed
  | .accept => !s.core.freed && s.core.parentSock && !s.core.fdEntry && s.core.state != .synReceived
  | _ => !s.core.freed && s.core.fdEntry

def act (s : TcpSock) : Action → TcpSock
  | .input g => tcpInput s g
  | .timer => tcpTimerCb { s with tm.registered := false }
  | .accept => { s with core.fdEntry := true, core.parentSock := false }
  | .write buf expired => (tcpWrite s buf expired).1
  | .read len expired => (tcpRead s len expired).1
  | .shutdown how => (tcpShutdown s how).1
  | .setsockopt o => tcpSetsockopt s o
  | .close => (closeFd s).1
  | .icmp quoted err => tcpIcmpProcess s quoted err

def step (s : TcpSock) (e : Event) : TcpSock :=
  if e.action.enabled s then act (s.withInputs e.inputs) e.action else s

def plainRoute : Route := { ifindex := 1, mtu := 1500, l2Len := 14 }

def boundSock : TcpSock :=
  { tcpPcbInit false {} with
    core := { isBound := true }
    route := some plainRoute }

def openSock : TcpSock := (connectSyn boundSock).1

def establishedSock (sndNxt rcvNxt : Seq) : TcpSock :=
  let s := tcpPcbInit false {}
  { s with
    core := { s.core with state := .established, isBound := true, isConnected := true }
    route := some plainRoute
    snd := { s.snd with sndUna := sndNxt, sndNxt, sndEnd := sndNxt }
    rcv := { s.rcv with rcvNxt }
    win := { s.win with sndWl1 := rcvNxt, sndWl2 := sndNxt, lastAck := sndNxt } }

def plainHdr (seq ackSeq : Seq) (flags : Flags) : TcpHdr :=
  { seq, ackSeq, flags, window := 65535, windowLt := by decide, options := [], optionsLe := Nat.zero_le _ }

def bareSegment (hdr : TcpHdr) : Segment := { hdr, infos := [], lenLt := by decide }

def textSegment (hdr : TcpHdr) (text : List UInt8) (h : text.length < 2 ^ 16) : Segment :=
  { hdr, infos := [{ headroom := 54, data := text, size := 54 + text.length }], lenLt := by simpa using h }

end Netfast.Tcp
