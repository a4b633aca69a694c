import Netfast.Tcp.Input

/-! The calls of the application on a TCP socket, its timer callback, and how a connection is opened. -/

namespace Netfast.Tcp

open Serial Skbuff

inductive Outcome (α : Type)
  | done (a : α)
  | fail (e : Errno)
  | wait (expires : Option ℕ)

/-! `tcp_write`. -/

def appendTail (q : SendState) (init : List SkBuff) (skb : SkBuff) (chunk : List UInt8) (segLimit : ℕ)
    (f : Fates) : SendState × Bool × Fates :=
  match skbDataAppend skb chunk 0 segLimit f with
  | (none, f) => ({ q with sendQueue := init ++ [skb] }, false, f)
  | (some skb', f) =>
    ({ q with
      sendQueue := init ++ [skb']
      sndEnd := q.sndEnd + BitVec.ofNat 32 chunk.length
      sendBufferLen := (q.sendBufferLen + chunk.length) % 2 ^ 32 }, true, f)

def appendNewSkb (q : SendState) (chunk : List UInt8) (segLimit room : ℕ) (f : Fates) :
    SendState × Bool × Fates :=
  match draw f with
  | (false, f) => (q, false, f)
  | (true, f) => appendTail q q.sendQueue (skbAlloc q.sndEnd .ackOnly room (room + segLimit)) chunk segLimit f

def writeChunk (q : SendState) (chunk : List UInt8) (segLimit room : ℕ) (f : Fates) :
    SendState × Bool × Fates :=
  match q.sendQueue.getLast? with
  | none => appendNewSkb q chunk segLimit room f
  | some last =>
    if skbDataLen last + chunk.length ≤ segLimit then appendTail q q.sendQueue.dropLast last chunk segLimit f
    else appendNewSkb q chunk segLimit room f

def writeLoop (segLimit room : ℕ) : ℕ → List UInt8 → SendState → ℕ → Fates → SendState × ℕ × Fates
  | 0, _, q, n, f => (q, n, f)
  | _ + 1, [], q, n, f => (q, n, f)
  | k + 1, b :: bs, q, n, f =>
    match writeChunk q ((b :: bs).take segLimit) segLimit room f with
    | (q, false, f) => (q, n, f)
    | (q, true, f) => writeLoop segLimit room k ((b :: bs).drop segLimit) q (n + min segLimit (bs.length + 1)) f

def writeQueued (s : TcpSock) (segLimit n : ℕ) : TcpSock × Outcome ℕ :=
  if n = 0 then (s, .fail .enomem)
  else if (s.snd.sendQueue.head?.any fun b => segLimit ≤ skbDataLen b) || decide (1 < s.snd.sendQueue.length) then
    ((tcpWriteXmit s false).1, .done n)
  else
    let delay := if s.core.cork then 200 else s.retry.nagleInterval
    (s.updateTimer .nagle (s.env.now + delay) false, .done n)

def writeBytes (s : TcpSock) (r : Route) (buf : List UInt8) : TcpSock × Outcome ℕ :=
  let buf := buf.take (s.snd.sendBufferLenMax - s.snd.sendBufferLen)
  let segLimit := tcpDataMss s.nego
  let room := headerRoom s r
  if segLimit = 0 then (s.fault .endlessLoop, .fail .eio)
  else if 2 ^ 32 ≤ room + segLimit then (s.fault .heapOverflow, .fail .eio)
  else
    let (q, n, f) := writeLoop segLimit room buf.length buf s.snd 0 s.env.fates
    writeQueued { s with snd := q, env.fates := f } segLimit n

def writeOnRoute (s : TcpSock) (buf : List UInt8) : TcpSock × Outcome ℕ :=
  match setTcpSocketRoute s with
  | (s, false) => (s, .fail .ehostunreach)
  | (s, true) =>
    match s.route with
    | none => (s.fault .nullRoute, .fail .eio)
    | some r => writeBytes s r buf

def tcpWrite (s : TcpSock) (buf : List UInt8) (expired : Bool) : TcpSock × Outcome ℕ :=
  match s.error with
  | some e => ({ s with error := none }, .fail e)
  | none =>
    if buf = [] then (s, .done 0)
    else if s.core.closeSend then (s, .fail .epipe)
    else if !s.core.isConnected || !s.core.isBound then (s, .fail .enotconn)
    else
      match s.core.state with
      | .established | .closeWait | .synSent | .synReceived =>
        if s.snd.sendBufferLenMax ≤ s.snd.sendBufferLen then
          if s.core.nonblock || expired then (s, .fail .eagain)
          else (s, .wait (s.core.sendTimeout.map (s.env.now + ·)))
        else writeOnRoute s buf
      | .listen | .closed => (s, .fail .enotconn)
      | _ => (s, .fail .epipe)

/-! `tcp_read`. -/

def tcpRead (s : TcpSock) (len : ℕ) (expired : Bool) : TcpSock × Outcome (List UInt8) :=
  match s.error with
  | some e => ({ s with error := none }, .fail e)
  | none =>
    if s.core.closeRecv then (s, .done [])
    else if s.rcv.recvQueue = [] ∧ s.core.recvFin then (s, .done [])
    else if s.core.state = .listen ∨ (s.core.state = .closed ∧ ¬s.core.recvFin) then (s, .fail .enotconn)
    else if s.rcv.recvQueue = [] then
      if s.core.nonblock || expired then (s, .fail .eagain)
      else (s, .wait (s.core.recvTimeout.map (s.env.now + ·)))
    else
      let (bs, r) := readQueue s.rcv len
      let s₁ : TcpSock := { s with rcv := r }
      (if s.rcv.rcvWnd < r.rcvWnd then s₁.ackNow else s₁, .done bs)

/-! `tcp_shutdown` and `tcp_release`. -/

inductive How
  | rd | wr | rdwr
deriving DecidableEq

def shutdownRecv (s : TcpSock) : TcpSock :=
  if s.core.closeRecv then s else { s with core.closeRecv := true }.notify .dataRead

def shutdownSend (s : TcpSock) : TcpSock :=
  if s.core.closeSend then s else tcpSendFin { s with core.closeSend := true }

def tcpShutdown (s : TcpSock) (how : How) : TcpSock × Outcome Unit :=
  if !s.core.isConnected || (s.core.state ≠ .established ∧ s.core.state ≠ .closeWait ∧
      s.core.state ≠ .finWait1 ∧ s.core.state ≠ .finWait2) then (s, .fail .enotconn)
  else
    let s := if how = .rd ∨ how = .rdwr then shutdownRecv s else s
    (if how = .wr ∨ how = .rdwr then shutdownSend s else s, .done ())

def orphan (s : TcpSock) : TcpSock := { s with retry.retriesMax := 6 }

def releaseState (s : TcpSock) : TcpSock :=
  match s.core.state with
  | .closed | .synSent | .synReceived | .listen => destroyTcpSocket s
  | .established | .closeWait => shutdownSend s
  | .finWait1 | .closing | .lastAck => orphan s
  | .finWait2 => (orphan s).updateTimer .finwait2 (s.env.now + s.retry.finwait2Timeout) true
  | .timeWait => s

def lingers (s : TcpSock) : Bool :=
  s.core.state = .established || s.core.state = .closeWait || s.core.state = .finWait1 ||
    s.core.state = .closing || s.core.state = .lastAck

def tcpRelease (s : TcpSock) : TcpSock × Outcome Unit :=
  if s.core.linger = some 0 ∧ s.core.state ≠ .closed ∧ s.core.state ≠ .listen ∧ s.core.state ≠ .timeWait then
    let s := if s.route.isSome then
      (tcpSendFlag s s.snd.sndNxt s.rcv.rcvNxt { rst := true, ack := true }).1 else s
    (destroyTcpSocket s, .done ())
  else
    let s₁ := releaseState s
    match s.core.linger with
    | some n => if 0 < n && lingers s₁ then (s₁, .wait (some (s.env.now + n * 1000))) else (s₁, .done ())
    | none => (s₁, .done ())

def closeFd (s : TcpSock) : TcpSock × Outcome Unit := tcpRelease { s with core.fdEntry := false }

inductive SockOpt
  | rcvbuf (v : ℕ) (h : v < 2 ^ 31)
  | sndbuf (v : ℕ) (h : v < 2 ^ 31)
  | keepalive (on : Bool)
  | linger (v : Option ℕ)
  | rcvtimeo (v : Option ℕ)
  | sndtimeo (v : Option ℕ)
  | nodelay (on : Bool)
  | cork (on : Bool)

def setRcvbuf (s : TcpSock) (v : ℕ) : TcpSock :=
  let r := { s.rcv with recvBufferLenMax := v }
  let s₁ : TcpSock := { s with rcv := { r with rcvWnd := useableRecvBuff r } }
  if s.rcv.rcvWnd ≠ s₁.rcv.rcvWnd ∧ s.core.state ≠ .closed ∧ s.core.state ≠ .listen ∧
      s.core.state ≠ .synSent ∧ s.core.state ≠ .timeWait then s₁.updateTimer .ack s.env.now true
  else s₁

def tcpSetsockopt (s : TcpSock) : SockOpt → TcpSock
  | .rcvbuf v _ => setRcvbuf s v
  | .sndbuf v _ => { s with snd.sendBufferLenMax := v }
  | .keepalive on =>
    let ms := if on && s.core.state = .established then s.env.now + s.retry.keepaliveTimeout else timerStop
    { s with
      core.keepalive := on
      retry.keepaliveRepeatCount := 0
      tm := tcpUpdateTimer s.tm .keepalive ms true }
  | .linger v => { s with core.linger := v }
  | .rcvtimeo v => { s with core.recvTimeout := v }
  | .sndtimeo v => { s with core.sendTimeout := v }
  | .nodelay on => { s with retry.nagleInterval := if on then 0 else 10 }
  | .cork on => { s with core.cork := on }

/-! `tcp_icmp_process`: `quoted` is the sequence number the error quotes, if it quotes one. -/

def tcpIcmpProcess (s : TcpSock) (quoted : Option Seq) (err : Errno) : TcpSock :=
  if !s.core.isBound || !s.core.isConnected then s
  else if quoted.any fun q => !(leq s.snd.sndUna q && lt q s.snd.sndNxt) then s
  else
    let s : TcpSock := { s with error := some err }
    match s.core.state with
    | .synSent | .synReceived => destroyTcpSocket s
    | .established | .closeWait | .finWait1 | .finWait2 => s.notify .err
    | .closing | .lastAck | .timeWait => destroyTcpSocket s
    | _ => s

end Netfast.Tcp
