import Netfast.Tcp.Output
import Netfast.Tcp.Receive

/-! `tcp_input`: the segment-arrival processing of RFC 9293 section 3.10.7. -/

namespace Netfast.Tcp

open Serial Skbuff

abbrev TcpSock.notify (s : TcpSock) (n : Notify) : TcpSock := { s with env.notified := s.env.notified ++ [n] }

def destroyTcpSocket (s : TcpSock) : TcpSock :=
  if s.core.fdEntry then { s with core.state := .closed }.notify .err
  else { s with core.state := .closed, core.freed := true }.notify .lingerDone

def trimHead (ack : Seq) (b : SkBuff) : SkBuff × ℕ :=
  let consumed := (ack - b.seq).toNat - b.flag.syn.toNat
  ({ skbConsume b consumed with flag.syn := false, seq := ack }, consumed)

def ackQueue (ack : Seq) : List SkBuff → List SkBuff × ℕ × Bool
  | [] => ([], 0, false)
  | b :: bs =>
    if gt ack b.seq then
      if geq ack (b.seq + BitVec.ofNat 32 (tcpSkbSeqLen b)) then
        let (q, n, _) := ackQueue ack bs
        (q, skbDataLen b + n, true)
      else ((trimHead ack b).1 :: bs, (trimHead ack b).2, true)
    else (b :: bs, 0, false)

def ackedTimers (s : TcpSock) : TcpSock :=
  let s : TcpSock := { s with
    retry.retriesOut := 0
    retry.retransmitTimeout := tcpMetricsRto s.retry.metrics
    env.notified := s.env.notified ++ [.dataWrite] }
  if s.sendable s.winMin then s.updateTimer .nagle s.env.now false else s

def tcpUpdateRetransmitQueue (s : TcpSock) : TcpSock :=
  let (q, n, acked) := ackQueue s.snd.sndUna s.snd.retransmitQueue
  let s : TcpSock := { s with
    snd.retransmitQueue := q
    snd.sendBufferLen := subU32 s.snd.sendBufferLen n }
  let s := if acked then ackedTimers s else s
  if q = [] then
    { s with win.lastAckRepeat := 0, tm := tcpUpdateTimer s.tm .retransmit timerStop true }
  else if acked then s.updateTimer .retransmit (s.env.now + s.retry.retransmitTimeout) true
  else s

def restartKeepalive (s : TcpSock) : TcpSock :=
  if s.core.keepalive then
    { s with
      retry.keepaliveRepeatCount := 0
      tm := tcpUpdateTimer s.tm .keepalive (s.env.now + s.retry.keepaliveTimeout) true }
  else s

def synSentEstablish (s : TcpSock) (ack : Seq) : TcpSock :=
  let s := tcpUpdateRetransmitQueue { s with
    snd.sndUna := ack
    win.lastAck := ack
    win.lastAckRepeat := 0
    core.state := .established }
  ((restartKeepalive s).notify .dataWrite).ackNow

def synSentSimultaneous (s : TcpSock) : TcpSock :=
  match s.snd.retransmitQueue with
  | [] => { s with core.state := .synReceived }.fault .nullSkb
  | b :: bs =>
    { s with
      core.state := .synReceived
      snd.retransmitQueue := { b with flag.ack := true } :: bs
      tm := tcpUpdateTimer s.tm .retransmit s.env.now true }

def synSentSyn (s : TcpSock) (h : TcpHdr) : TcpSock :=
  let s : TcpSock := { s with rcv.rcvNxt := h.seq + 1 }
  let s := if h.flags.ack then synSentEstablish s h.ackSeq else synSentSimultaneous s
  let s := tcpSndWinChange s (tcpDecodeWindow s.nego h.window h.flags)
  { s with win.sndWl1 := h.seq, win.sndWl2 := h.ackSeq }

def tcpProcessSynSent (s : TcpSock) (h : TcpHdr) : TcpSock :=
  if h.flags.ack && (leq h.ackSeq s.snd.sndUna || gt h.ackSeq s.snd.sndNxt) then
    if h.flags.rst then s else (tcpSendFlag s h.ackSeq 0 { rst := true }).1
  else
    -- a reset destroys the socket and falls through
    let s := if h.flags.rst then destroyTcpSocket { s with error := some .econnrefused } else s
    if s.core.freed then s.fault .useAfterFree
    else
      match parseTcpOptions s h with
      | (s, false) => s
      | (s, true) => if h.flags.syn then synSentSyn s h else s

def inputRst (s : TcpSock) : TcpSock :=
  match s.core.state with
  | .synReceived =>
    if s.core.parentSock then destroyTcpSocket s else destroyTcpSocket { s with error := some .econnrefused }
  | .established | .finWait1 | .finWait2 | .closeWait => destroyTcpSocket { s with error := some .econnreset }
  | .closing | .lastAck | .timeWait => destroyTcpSocket s
  | _ => s

def inputSyn (s : TcpSock) : TcpSock :=
  if s.core.state = .synReceived ∧ s.core.parentSock then destroyTcpSocket s else s.ackNow

def windowIsNewer (s : TcpSock) (h : TcpHdr) : Bool :=
  lt s.win.sndWl1 h.seq || (s.win.sndWl1 == h.seq && leq s.win.sndWl2 h.ackSeq)

def takeWindow (s : TcpSock) (h : TcpHdr) : TcpSock :=
  let s := tcpSndWinChange s (tcpDecodeWindow s.nego h.window h.flags)
  { s with win.sndWl1 := h.seq, win.sndWl2 := h.ackSeq }

def ackSynReceived (s : TcpSock) (h : TcpHdr) : TcpSock × Bool :=
  if lt s.snd.sndUna h.ackSeq && leq h.ackSeq s.snd.sndNxt then
    let s := tcpUpdateRetransmitQueue { s with
      core.state := .established
      snd.sndUna := h.ackSeq
      win.lastAck := h.ackSeq
      win.lastAckRepeat := 0 }
    let s := restartKeepalive (takeWindow s h)
    (s.notify (if s.core.parentSock then .newConnection else .dataWrite), false)
  else if leq h.ackSeq s.snd.sndUna then ((tcpSendFlag s h.ackSeq 0 { rst := true }).1, true)
  else (s, false)

def noteWindow (s : TcpSock) (h : TcpHdr) : TcpSock := if windowIsNewer s h then takeWindow s h else s

def tsEcho (n : Nego) : Bool := n.peerTsOk && n.tsLastTsecr != 0

def measuredRtt (s : TcpSock) : ℕ :=
  if tsEcho s.nego then
    if s.nego.tsLastTsecr < s.env.now then (s.env.now - s.nego.tsLastTsecr) % 2 ^ 32 else 0
  else if s.retry.rttMeasTime != 0 && leq s.retry.rttMeasSeq s.snd.sndUna then
    (s.env.now - s.retry.rttMeasTime) % 2 ^ 32
  else 0

def sampleRtt (re : Retry) (sample : ℕ) : Retry :=
  match re.metrics with
  | none => { re with rttMeasTime := 0 }
  | some m =>
    if sample = 0 then { re with rttMeasTime := 0 }
    else
      { re with
        metrics := some (tcpMetricsSample m sample)
        retransmitTimeout := tcpMetricsRto (some (tcpMetricsSample m sample))
        rttMeasTime := 0 }

-- a timestamp echo is used once
def rttSample (s : TcpSock) : TcpSock :=
  { s with
    nego.tsLastTsecr := if tsEcho s.nego then 0 else s.nego.tsLastTsecr
    retry := sampleRtt s.retry (measuredRtt s) }

def acknowledge (s : TcpSock) (h : TcpHdr) : TcpSock :=
  let s := tcpUpdateRetransmitQueue { s with snd.sndUna := h.ackSeq }
  noteWindow (rttSample { s with win.lastAck := h.ackSeq, win.lastAckRepeat := 0 }) h

def ackNewData (s : TcpSock) (h : TcpHdr) : TcpSock :=
  let ackedBytes := (h.ackSeq - s.snd.sndUna).toNat
  let limited := decide (s.cong.sndCwnd ≤ (s.snd.sndNxt - s.snd.sndUna).toNat + s.nego.sndMss)
  match tcpCongestionOnAck (acknowledge s h) ackedBytes limited with
  | (s, true) => tcpRetransmitNow s
  | (s, false) => s

def isDuplicateAck (s : TcpSock) (g : Segment) (windowChanged : Bool) : Bool :=
  !windowChanged && g.hdr.ackSeq == s.win.lastAck && g.segLen == 0 && gt s.snd.sndNxt s.snd.sndUna

def ackDuplicate (s : TcpSock) (g : Segment) : TcpSock :=
  let windowChanged := windowIsNewer s g.hdr && s.win.sndWnd != tcpDecodeWindow s.nego g.hdr.window g.hdr.flags
  let s := noteWindow s g.hdr
  if isDuplicateAck s g windowChanged then
    let repeats := (s.win.lastAckRepeat + 1) % 2 ^ 32
    match tcpCongestionOnDuplicateAck { s with win.lastAckRepeat := repeats } repeats with
    | (s, true) => tcpRetransmitNow s
    | (s, false) => s
  else if g.hdr.ackSeq ≠ s.win.lastAck then
    { s with win.lastAck := g.hdr.ackSeq, win.lastAckRepeat := 0 }
  else s

def ackOwnFin (s : TcpSock) : TcpSock × Bool :=
  if s.snd.sndUna = s.snd.sndEnd then
    match s.core.state with
    | .finWait1 =>
      let s := { s with core.state := .finWait2 }.notify .lingerDone
      (if s.core.fdEntry then s
        else s.updateTimer .finwait2 (s.env.now + s.retry.finwait2Timeout) true, false)
    | .closing =>
      let s := { s with core.state := .timeWait }.notify .lingerDone
      (s.updateTimer .timewait (s.env.now + s.retry.timewaitTimeout) true, false)
    | .lastAck => (destroyTcpSocket (s.notify .lingerDone), true)
    | _ => (s, false)
  else (s, false)

def inputAck (s : TcpSock) (g : Segment) : TcpSock × Bool :=
  match s.core.state with
  | .synReceived => ackSynReceived s g.hdr
  | .established | .finWait1 | .finWait2 | .closeWait | .closing | .lastAck =>
    if lt s.snd.sndUna g.hdr.ackSeq then ackOwnFin (ackNewData s g.hdr) else (ackDuplicate s g, false)
  | _ => (s, false)

def Segment.skb (g : Segment) : SkBuff := { seq := g.hdr.seq, flag := g.hdr.flags, infos := g.infos }

def inputText (s : TcpSock) (g : Segment) : TcpSock :=
  if s.core.state = .established ∨ s.core.state = .finWait1 ∨ s.core.state = .finWait2 then
    match tcpRecvData s.rcv g.skb with
    | (r, false) => { s with rcv := r }
    | (r, true) =>
      let pending := (s.retry.ackPendingSegments + 1) % 256
      let s := { s with rcv := r, retry.ackPendingSegments := pending }.notify .dataRead
      if 3 ≤ pending then s.updateTimer .ack s.env.now true
      else s.updateTimer .ack (s.env.now + s.retry.ackTimeout) false
  else s

def finState (s : TcpSock) : TcpSock :=
  match s.core.state with
  | .synReceived | .established => { s with core.state := .closeWait }
  | .finWait1 =>
    if s.snd.sndUna = s.snd.sndEnd then
      ({ s with core.state := .timeWait }.notify .lingerDone).updateTimer
        .timewait (s.env.now + s.retry.timewaitTimeout) false
    else { s with core.state := .closing }
  | .finWait2 =>
    ({ s with core.state := .timeWait }.updateTimer .finwait2 timerStop true).updateTimer
      .timewait (s.env.now + s.retry.timewaitTimeout) false
  | .timeWait => s.updateTimer .timewait (s.env.now + s.retry.timewaitTimeout) true
  | _ => s

def takeFin (s : TcpSock) : TcpSock :=
  let s := { s with
    rcv.rcvNxt := s.rcv.rcvNxt + 1
    core.recvFin := true
    retry.keepaliveRepeatCount := 0
    tm := tcpUpdateTimer s.tm .keepalive timerStop true }.notify .recvFin
  finState s.ackNow

def inputFin (s : TcpSock) (g : Segment) : TcpSock :=
  let finEnd := g.hdr.seq + BitVec.ofNat 32 g.dataLen
  if s.core.state = .closed ∨ s.core.state = .synSent then s
  else if g.hdr.flags.fin ∧ s.core.state = .timeWait ∧ finEnd + 1 = s.rcv.rcvNxt then
    (s.updateTimer .ack s.env.now true).updateTimer .timewait (s.env.now + s.retry.timewaitTimeout) true
  else
    let s := if g.hdr.flags.fin ∧ finEnd = s.rcv.rcvNxt then takeFin s else s
    if s.core.state = .established then restartKeepalive s else s

def timeWaitFin (s : TcpSock) (g : Segment) : Bool :=
  s.core.state = .timeWait && g.hdr.flags.ack && g.hdr.flags.fin && !g.hdr.flags.rst && !g.hdr.flags.syn &&
    g.hdr.seq + BitVec.ofNat 32 g.dataLen + 1 == s.rcv.rcvNxt

def ackInRange (s : TcpSock) (ack : Seq) : Bool :=
  !lt ack (s.snd.sndUna - BitVec.ofNat 32 s.win.sndWnd) && !gt ack s.snd.sndNxt

def inputSynchronized (s : TcpSock) (g : Segment) : TcpSock :=
  if !(segAllow s.rcv g.hdr.seq g.segLen || timeWaitFin s g) && !g.hdr.flags.rst then s.ackNow
  else if g.hdr.flags.rst then (if g.hdr.seq = s.rcv.rcvNxt then inputRst s else s.ackNow)
  else if g.hdr.flags.syn then inputSyn s
  else if !g.hdr.flags.ack then s
  else if !ackInRange s g.hdr.ackSeq then s.ackNow
  else
    match inputAck s g with
    | (s, true) => s
    | (s, false) => inputFin (inputText s g) g

def inputClosed (s : TcpSock) (g : Segment) : TcpSock :=
  if g.hdr.flags.rst then s
  else if g.hdr.flags.ack then (tcpSendFlag s g.hdr.ackSeq 0 { rst := true }).1
  else (tcpSendFlag s 0 (g.hdr.seq + BitVec.ofNat 32 g.segLen) { rst := true, ack := true }).1

def inputListen (s : TcpSock) (g : Segment) : TcpSock :=
  if g.hdr.flags.rst then s
  else if g.hdr.flags.ack then (tcpSendFlag s g.hdr.ackSeq 0 { rst := true }).1
  else s

def tcpInput (s : TcpSock) (g : Segment) : TcpSock :=
  match s.core.state with
  | .closed => inputClosed s g
  | .listen => inputListen s g
  | .synSent => tcpProcessSynSent s g.hdr
  | _ =>
    match parseTcpOptions s g.hdr with
    | (s, false) => s
    | (s, true) => inputSynchronized s g

end Netfast.Tcp
