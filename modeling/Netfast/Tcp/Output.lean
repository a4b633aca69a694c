import Netfast.SkbHeader
import Netfast.Tcp.Options

/-! Building and submitting segments: control segments, new data, retransmissions and probes. -/

namespace Netfast.Tcp

open Serial Skbuff

abbrev Ret := Option Errno

abbrev TcpSock.fault (s : TcpSock) (f : Fault) : TcpSock := { s with env.faults := s.env.faults ++ [f] }

def maxIpHdrLen (s : TcpSock) : ℕ := if s.core.isV6 then 64 else 60

def headerRoom (s : TcpSock) (r : Route) : ℕ := 60 + maxIpHdrLen s + r.l2Len

lemma headerRoom_ge (s : TcpSock) (r : Route) : 120 ≤ headerRoom s r := by
  rw [headerRoom, maxIpHdrLen]
  split <;> omega

/-! `set_socket_route` and `set_tcp_socket_route`. -/

def nextAnswer (s : TcpSock) : RouteAnswer × List RouteAnswer :=
  match s.env.routes with
  | [] => ({ cached := s.route, found := none }, [])
  | a :: as => (a, as)

def setSocketRoute (s : TcpSock) : TcpSock × Bool :=
  let (a, as) := nextAnswer s
  let r := match s.route, a.cached with
    | some _, some r => some r
    | _, _ => a.found
  ({ s with route := r, env.routes := as }, r.isSome)

def routeMss (s : TcpSock) (r : Route) : ℕ :=
  min (subU32 r.mtu (20 + if s.core.isV6 then 40 else 20)) (subU32 frameSlotMaxSize (headerRoom s r))

def takeMetrics (s : TcpSock) (r : Route) : TcpSock :=
  if s.retry.metrics.any (fun m => m.ifindex = r.ifindex) then s
  else
    let (ok, f) := draw s.env.fates
    let m := if ok then some { ifindex := r.ifindex } else none
    { s with retry.metrics := m, retry.retransmitTimeout := tcpMetricsRto m, env.fates := f }

def setTcpSocketRoute (s : TcpSock) : TcpSock × Bool :=
  match setSocketRoute s with
  | (s, false) => (s, false)
  | (s, true) =>
    match s.route with
    | none => (s, false)
    | some r =>
      if !s.core.isV6 && (r.isBroadcast || r.isMulticast) then ({ s with route := none }, false)
      else
        let s := takeMetrics s r
        let mss := min s.nego.peerMss (routeMss s r)
        let s₁ : TcpSock := { s with nego.rcvMss := routeMss s r, nego.sndMss := mss }
        (if mss = s.nego.sndMss then s₁ else tcpCongestionMssChanged s₁, true)

def ipOutput (s : TcpSock) (w : WireSeg) : TcpSock × Bool :=
  match draw s.env.fates with
  | (false, f) => ({ s with env.fates := f }, false)
  | (true, f) => ({ s with env.fates := f, env.wire := s.env.wire ++ [w] }, true)

def submit (s : TcpSock) (seq ack : Seq) (flags : Flags) (payload : List UInt8) (override : Bool) :
    TcpSock × Ret :=
  let (options, n) := makeTcpOptions s.nego s.env.now flags
  let window := tcpEncodeWindow n s.rcv.rcvWnd flags
  match ipOutput { s with nego := n } { seq, ack, flags, window, options, payload } with
  | (s, false) => (s, some .enetunreach)
  | (s, true) =>
    if flags.ack then
      ({ s with retry.ackPendingSegments := 0, tm := tcpUpdateTimer s.tm .ack timerStop override }, none)
    else (s, none)

def tcpSendFlag (s : TcpSock) (seq ack : Seq) (flag : Flags) : TcpSock × Ret :=
  match s.route with
  | none => (s.fault .nullRoute, some .eio)
  | some r =>
    match draw s.env.fates with
    | (false, f) => ({ s with env.fates := f }, some .enomem)
    | (true, f) =>
      if flag.syn then
        -- the queued SYN is popped again when its clone fails
        match draw f with
        | (false, f) => ({ s with env.fates := f }, some .enomem)
        | (true, f) =>
          submit { s with
            env.fates := f
            snd.retransmitQueue :=
              s.snd.retransmitQueue ++ [skbAlloc seq flag (headerRoom s r) (headerRoom s r)]
            snd.sndNxt := s.snd.sndNxt + 1
            snd.sndEnd := s.snd.sndEnd + 1
            tm := tcpUpdateTimer s.tm .retransmit (s.env.now + s.retry.retransmitTimeout) false }
            seq ack flag [] true
      else submit { s with env.fates := f } seq ack flag [] true

def sendClone (skb : SkBuff) (seqBudget : ℕ) (push : Bool) : SkBuff :=
  let budget := min seqBudget (tcpSkbSeqLen skb)
  let synLen := skb.flag.syn.toNat
  let sendDataLen := min (skbDataLen skb) (budget - synLen)
  let sendFin := skb.flag.fin && decide (synLen + skbDataLen skb < budget)
  { (if sendDataLen < skbDataLen skb then skbTruncate skb sendDataLen else skb) with
    flag := { skb.flag with fin := sendFin, psh := skb.flag.psh || (push && sendDataLen != 0) } }

def tcpXmitSegment (s : TcpSock) (skb : SkBuff) (seqBudget : ℕ) (push : Bool) : TcpSock × Ret :=
  match draw s.env.fates with
  | (false, f) => ({ s with env.fates := f }, some .enomem)
  | (true, f) =>
    if skb.infos = [] then ({ s with env.fates := f }.fault .nullSlot, some .eio)
    else
      match setTcpSocketRoute { s with env.fates := f } with
      | (s, false) =>
        ({ s with error := some .ehostunreach, env.notified := s.env.notified ++ [.err] }, some .ehostunreach)
      | (s, true) =>
        let c := sendClone skb seqBudget push
        if c.infos = [] then (s.fault .nullSlot, some .eio)
        else submit s c.seq s.rcv.rcvNxt c.flag c.payload false

def tcpRetransmitEnqueue (rtx : List SkBuff) (sndMss : ℕ) (skb : SkBuff) : List SkBuff :=
  if tcpSkbSeqLen skb = 0 then rtx
  else
    match rtx.getLast? with
    | none => rtx ++ [skb]
    | some last =>
      if skb.flag = .ackOnly ∧ last.flag = .ackOnly ∧ skbDataLen skb ≤ sndMss / 3 ∧
          skbDataLen last + skbDataLen skb ≤ sndMss then
        match skbAppendSkb last skb with
        | some merged => rtx.dropLast ++ [merged]
        | none => rtx ++ [skb]
      else rtx ++ [skb]

def tcpCommitFinSend (s : TcpSock) : TcpSock :=
  match s.core.state with
  | .synReceived => { s with core.state := .finWait1 }
  | .established => { s with core.state := .finWait1 }
  | .closeWait => { s with core.state := .lastAck }
  | _ => s

def unsentTail (s : TcpSock) (skb : SkBuff) (sendDataLen sendSeqLen : ℕ) :
    TcpSock × Option (SkBuff × SkBuff) :=
  if sendDataLen < skbDataLen skb then
    match skbSplit skb sendDataLen s.env.fates with
    | (none, f) => ({ s with env.fates := f }, none)
    | (some (head, tail), f) =>
      ({ s with env.fates := f },
        some (head, { tail with flag := skb.flag, seq := skb.seq + BitVec.ofNat 32 sendSeqLen }))
  else
    match s.route with
    | none => (s.fault .nullRoute, none)
    | some r =>
      match draw s.env.fates with
      | (false, f) => ({ s with env.fates := f }, none)
      | (true, f) =>
        ({ s with env.fates := f },
          some (skb, skbAlloc (skb.seq + BitVec.ofNat 32 sendSeqLen) skb.flag (headerRoom s r) (headerRoom s r)))

def nagleRetry (s : TcpSock) : TcpSock := s.updateTimer .nagle (s.env.now + 10) false

def submitHead (s : TcpSock) (skb : SkBuff) (rest : List SkBuff) (sendSeqLen : ℕ) (sendFin push : Bool) :
    TcpSock × Ret :=
  match tcpXmitSegment s skb sendSeqLen push with
  | (s, some e) => (nagleRetry s, some e)
  | (s, none) =>
    let s := s.updateTimer .retransmit (s.env.now + s.retry.retransmitTimeout) false
    let s := if sendFin then tcpCommitFinSend s else s
    let s : TcpSock :=
      if s.retry.rttMeasTime = 0 then
        { s with retry.rttMeasTime := s.env.now, retry.rttMeasSeq := skb.seq }
      else s
    ({ s with
      snd.sndNxt := s.snd.sndNxt + BitVec.ofNat 32 sendSeqLen
      snd.sendQueue := rest
      snd.retransmitQueue := tcpRetransmitEnqueue s.snd.retransmitQueue s.nego.sndMss skb }, none)

def tcpXmitNewSkb (s : TcpSock) (seqBudget : ℕ) (push : Bool) : TcpSock × Ret :=
  match s.snd.sendQueue with
  | [] => (s.fault .nullSkb, some .eio)
  | skb :: rest =>
    let budget := min seqBudget (tcpSkbSeqLen skb)
    let sendDataLen := min (skbDataLen skb) budget
    let sendFin := skb.flag.fin && decide (skbDataLen skb < budget)
    let sendSeqLen := sendDataLen + sendFin.toNat
    if sendSeqLen < tcpSkbSeqLen skb then
      match unsentTail s skb sendDataLen sendSeqLen with
      | (s, none) => (nagleRetry s, some .enomem)
      | (s, some (head, tail)) =>
        let head := if sendFin then head else { head with flag.fin := false }
        submitHead { s with snd.sendQueue := head :: tail :: rest } head (tail :: rest) sendSeqLen sendFin push
    else submitHead s skb rest sendSeqLen sendFin push

def windowEnd (s : TcpSock) : Seq := s.snd.sndUna + BitVec.ofNat 32 s.winMin

def writeXmitLoop (flushPartial : Bool) : ℕ → TcpSock → Ret → TcpSock × Ret
  | 0, s, ret => (if s.snd.sendQueue = [] then s else s.updateTimer .nagle s.env.now false, ret)
  | k + 1, s, ret =>
    match s.snd.sendQueue with
    | [] => (s, ret)
    | skb :: rest =>
      if s.winMin = 0 ∨ geq skb.seq (windowEnd s) then (tcpArmPersist s, ret)
      else if s.core.cork && !flushPartial && !skb.flag.fin && rest.isEmpty &&
          decide (skbDataLen skb < tcpDataMss s.nego) then
        (s.updateTimer .nagle (s.env.now + 200) false, ret)
      else
        let seqLen := tcpSkbSeqLen skb
        let budget := min seqLen (windowEnd s - skb.seq).toNat
        let push := decide (budget = seqLen) && skbDataLen skb != 0 && rest.isEmpty
        match tcpXmitNewSkb s budget push with
        | (s, some e) => (s, some e)
        | (s, none) => writeXmitLoop flushPartial k s none

def tcpOutputBurstMax : ℕ := 64

def tcpWriteXmit (s : TcpSock) (flushPartial : Bool) : TcpSock × Ret :=
  writeXmitLoop flushPartial tcpOutputBurstMax s none

/-! Retransmissions and probes: `none` stands for the NULL head of an empty queue. -/

def tcpRetransmitSkb (s : TcpSock) (skb : Option SkBuff) (probe : Bool) : TcpSock × Ret :=
  match skb with
  | none => (s.fault .nullSkb, some .eio)
  | some skb =>
    let s₁ : TcpSock := { s with retry.rttMeasTime := 0 }
    if probe then tcpXmitSegment s₁ skb (min (tcpSkbSeqLen skb) 1) false
    else if skb.flag.syn then tcpXmitSegment s₁ skb (tcpSkbSeqLen skb) false
    else if s.winMin = 0 ∨ geq skb.seq (windowEnd s) then (s, none)
    else tcpXmitSegment s₁ skb (min (tcpSkbSeqLen skb) (windowEnd s - skb.seq).toNat) false

def tcpRetransmitNow (s : TcpSock) : TcpSock :=
  let (s, _) := tcpRetransmitSkb s s.snd.retransmitQueue.head? false
  s.updateTimer .retransmit (s.env.now + s.retry.retransmitTimeout) true

def tcpSendProbe (s : TcpSock) : TcpSock × Ret :=
  match s.snd.retransmitQueue with
  | skb :: _ => tcpRetransmitSkb s (some skb) true
  | [] => tcpXmitNewSkb s ((s.snd.sendQueue.head?.map fun skb => min (tcpSkbSeqLen skb) 1).getD 0) false

def queueFin (s : TcpSock) (q : List SkBuff) : TcpSock :=
  { s with
    snd.sendQueue := q
    snd.sndEnd := s.snd.sndEnd + 1
    tm := tcpUpdateTimer s.tm .nagle s.env.now false }

def tcpSendFin (s : TcpSock) : TcpSock :=
  match s.snd.sendQueue.getLast? with
  | some last => queueFin s (s.snd.sendQueue.dropLast ++ [{ last with flag.fin := true }])
  | none =>
    match s.route with
    | none => s.fault .nullRoute
    | some r =>
      match draw s.env.fates with
      | (false, f) => { s with env.fates := f }
      | (true, f) =>
        queueFin { s with env.fates := f }
          [skbAlloc s.snd.sndEnd { fin := true, ack := true } (headerRoom s r) (headerRoom s r)]

end Netfast.Tcp
