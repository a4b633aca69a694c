import Netfast.Req.Types

/-! What the protocol operations answer to a request, and `process_request` around them. -/

namespace Netfast.Tcp

def tcpAbortConnect (s : TcpSock) : TcpSock :=
  { s with
    snd := { s.snd with retransmitQueue := [], sndNxt := s.snd.sndUna, sndEnd := s.snd.sndUna }
    core.isConnected := false }

end Netfast.Tcp

namespace Netfast.Req

open Tcp Udp

variable {n : ℕ}

structure Answers (n : ℕ) where
  io : Inputs := {}
  alloc : Bool := true
  slot : SockId := 0
  target : Fin n
  bindErr : Option Errno := none
  installs : Bool := true
  looped : Option TcpState := none
  result : Result := .ok 0

inductive Reply (n : ℕ)
  | notify (ret : Result)
  | wait (status : Status)
  | waitUntil (status : Status) (expire : ℕ)
  | move (dst : Fin n)
  | pending

def reply {α : Type} (status : Status) (f : α → Result) : Outcome α → Reply n
  | .done a => .notify (f a)
  | .fail e => .notify (.err e)
  | .wait none => .wait status
  | .wait (some t) => .waitUntil status t

/-! `tcp_connect`. -/

def connectFail (t : TcpSock) (e : Errno) : TcpSock × Reply n :=
  (tcpAbortConnect { t with core.state := .closed }, .notify (.err e))

def connectRetry (t : TcpSock) (expired : Bool) : TcpSock × Reply n :=
  match t.error with
  | some e => connectFail { t with error := none } e
  | none =>
    match t.core.state with
    | .established | .closeWait => (t, .notify (.ok 0))
    | .synSent | .synReceived => if expired then connectFail t .etimedout else (t, .pending)
    | _ => connectFail t .econnrefused

def connectSend (t : TcpSock) (expired : Bool) (a : Answers n) : TcpSock × Reply n :=
  match connectSyn t with
  | (t, some e) => connectFail t (if e = .enomem then .enomem else .enetunreach)
  | (t, none) =>
    let t : TcpSock := { t with core.state := a.looped.getD t.core.state }
    if t.core.state ≠ .synSent then connectRetry t expired
    else if t.core.nonblock then (t, .notify (.err .einprogress))
    else
      match t.core.sendTimeout with
      | some d => (t, .waitUntil .waitingConnect (t.env.now + d))
      | none => (t, .wait .waitingConnect)

def tcpConnect (t : TcpSock) (badAddr : Option Errno) (waiting expired : Bool) (w : Fin n) (a : Answers n) :
    TcpSock × Reply n :=
  if waiting then connectRetry t expired
  else
    match badAddr with
    | some e => (t, .notify (.err e))
    | none =>
      if t.core.state = .synSent ∨ t.core.state = .synReceived then (t, .notify (.err .ealready))
      else if t.core.isConnected then (t, .notify (.err .eisconn))
      else if t.core.state ≠ .closed then (t, .notify (.err .einval))
      else
        match setTcpSocketRoute t with
        | (t, false) => connectFail t .ehostunreach
        | (t, true) =>
          match a.bindErr with
          | some e => connectFail t e
          | none =>
            let t : TcpSock := { t with core.isBound := true }
            if a.target ≠ w then (t, .move a.target)
            else if !a.installs then connectFail t .eaddrinuse
            else connectSend t expired a

/-! `tcp_accept`, `tcp_listen`. -/

def tcpAccept (t : TcpSock) (l : List TcpSock) (expired free : Bool) (a : Answers n) :
    List TcpSock × Reply n × Option TcpSock :=
  if t.core.state ≠ .listen then (l, .notify (.err .einval), none)
  else
    match l with
    | [] =>
      if t.core.nonblock || expired then ([], .notify (.err .eagain), none)
      else
        match t.core.recvTimeout with
        | some d => ([], .waitUntil .waitingAccept (t.env.now + d), none)
        | none => ([], .wait .waitingAccept, none)
    | child :: rest =>
      if !free then (child :: rest, .notify (.err .emfile), none)
      else (rest, .notify (.ok a.slot), some { child with core.fdEntry := true, core.parentSock := false })

def tcpListen (t : TcpSock) (installs : Bool) : TcpSock × Result :=
  if !t.core.isBound || t.core.state ≠ .closed then (t, .err .einval)
  else if !installs then (t, .err .eaddrinuse)
  else ({ t with core.state := .listen }, .ok 0)

def tcpServe (q : Req n) (w : Fin n) (expired free : Bool) (a : Answers n) (t : TcpSock) (l : List TcpSock) :
    (TcpSock × List TcpSock) × Reply n × Option TcpSock :=
  match q.op with
  | .connect badAddr =>
    let (t, ans) := tcpConnect t badAddr (q.status = .waitingConnect) expired w a
    ((t, l), ans, none)
  | .accept =>
    let (l, ans, child) := tcpAccept t l (q.status = .waitingAccept && expired) free a
    ((t, l), ans, child)
  | .write buf =>
    if buf = [] then ((t, l), .notify (.ok 0), none)
    else if t.core.closeSend then ((t, l), .notify (.err .epipe), none)
    else
      let (t, out) := tcpWrite t buf (q.status = .waitingWrite && expired)
      ((t, l), reply .waitingWrite .ok out, none)
  | .read len =>
    if len = 0 then ((t, l), .notify (.ok 0), none)
    else
      let (t, out) := tcpRead t len (q.status = .waitingRead && expired)
      ((t, l), reply .waitingRead (fun bs => .data bs bs.length) out, none)
  | .shutdown how =>
    let (t, out) := tcpShutdown t how
    ((t, l), reply .waitingWrite (fun _ => .ok 0) out, none)
  | .setsockopt o => ((tcpSetsockopt t o, l), .notify (.ok 0), none)
  | .listen =>
    let (t, ret) := tcpListen t a.installs
    ((t, l), .notify ret, none)
  | .bind => (({ t with core.isBound := t.core.isBound || a.result = .ok 0 }, l), .notify a.result, none)
  | .setfl nonblock => (({ t with core.nonblock := nonblock }, l), .notify (.ok 0), none)
  | .sendto _ | .recvfrom _ _ => ((t, l), .notify (.err .eopnotsupp), none)
  | .close =>
    let (t, out) := closeFd t
    ((t, l), reply .waitingClose (fun _ => .ok 0) out, none)
  | .query | .socket _ => ((t, l), .notify a.result, none)

def udpSettled (w : Fin n) (a : Answers n) : Reply n :=
  match a.bindErr with
  | some e => .notify (.err e)
  | none => if a.target ≠ w then .move a.target else .notify a.result

def udpServe (q : Req n) (w : Fin n) (expired : Bool) (a : Answers n) (u : UdpSock) : UdpSock × Reply n :=
  match q.op with
  | .connect (some e) => (u, .notify (.err e))
  | .connect none =>
    let ok := a.bindErr = none ∧ a.target = w ∧ a.result = .ok 0
    ({ u with isConnected := u.isConnected || ok }, udpSettled w a)
  | .sendto dest =>
    if u.closeSend then (u, .notify (.err .epipe))
    else if !dest && !u.isConnected then (u, .notify (.err .edestaddrreq))
    else (u, udpSettled w a)
  | .write buf =>
    if buf = [] then (u, .notify (.ok 0))
    else if u.closeSend then (u, .notify (.err .epipe))
    else (u, udpSettled w a)
  | .read len =>
    if len = 0 then (u, .notify (.ok 0))
    else
      let (u, out) := udpRecvfrom u len {} (q.status = .waitingRead && expired) a.io.now
      (u, reply .waitingRead (fun d => .data d.1 d.2) out)
  | .recvfrom len flags =>
    if u.closeRecv then (u, .notify (.ok 0))
    else
      let (u, out) := udpRecvfrom u len flags (q.status = .waitingRead && expired) a.io.now
      (u, reply .waitingRead (fun d => .data d.1 d.2) out)
  | .shutdown how =>
    ({ u with
      closeRecv := u.closeRecv || how = .rd || how = .rdwr
      closeSend := u.closeSend || how = .wr || how = .rdwr }, .notify (.ok 0))
  | .setsockopt (.rcvtimeo v) => ({ u with recvTimeout := v }, .notify (.ok 0))
  | .setsockopt (.rcvbuf v _) => ({ u with recvBufferLenMax := v }, .notify (.ok 0))
  | .bind =>
    let ok := a.result = .ok 0
    ({ u with isBound := u.isBound || ok, isHash := u.isHash || ok }, .notify a.result)
  | .setfl nonblock => ({ u with nonblock }, .notify (.ok 0))
  | .listen | .accept => (u, .notify (.err .eopnotsupp))
  | .close => ({ u with recvQueue := [], isBound := false, isHash := false, freed := true }, .notify (.ok 0))
  | .query | .socket _ | .setsockopt _ => (u, .notify a.result)

def tell (i : SockId) (alloc : Bool) (s : Sys n) : Notify → Sys n
  | .lingerDone => completeLinger s i
  | e => s.setSock i fun k => socketNotifyEvent k (Events.of e) alloc

def settle (s : Sys n) (i : SockId) (p : Proto) (notes : List Notify) (freed alloc : Bool) : Sys n :=
  let s := notes.foldl (tell i alloc) (s.setSock i fun k => { k with proto := p })
  if freed then s.setSock i fun k => { k with pendingTask := none } else s

def settleTcp (s : Sys n) (i : SockId) (t : TcpSock) (l : List TcpSock) (alloc : Bool) : Sys n :=
  settle s i (.tcp { t with env.notified := [] } l) t.env.notified t.core.freed alloc

def place (s : Sys n) (i : SockId) (p : Proto) (w : Fin n) : Sys n :=
  s.setSock i fun _ => { owner := some w, fdEntry := true, entryWorker := some w, proto := p }

def answer (s : Sys n) (w : Fin n) (r : ReqId) (i : SockId) (alloc : Bool) : Reply n → Sys n
  | .notify ret => reqNotify s r ret
  | .wait status => wait s i r status
  | .waitUntil status expire => waitUntil s i r status expire alloc
  | .move dst => beginMove (s.setSock i (setSocketWorker · dst)) w r dst
  | .pending => s

def expired (q : Req n) (now : ℕ) : Bool := q.timeoutTask.any fun t => t.timeout ≤ now

def freeSlot (s : Sys n) (a : Answers n) : Bool := a.alloc && (s.socks a.slot).entryWorker.isNone

def serve (s : Sys n) (w : Fin n) (r : ReqId) (i : SockId) (a : Answers n) : Sys n :=
  let q := s.reqs r
  match (s.socks i).proto with
  | .tcp t l =>
    let out := tcpServe q w (expired q a.io.now) (freeSlot s a) a (t.withInputs a.io) l
    let s := settleTcp s i out.1.1 out.1.2 a.alloc
    -- the accepted connection goes to the worker its addresses select
    let s := match out.2.2 with
      | some child => place s a.slot (.tcp child []) a.target
      | none => s
    answer s w r i a.alloc out.2.1
  | .udp u =>
    let out := udpServe q w (expired q a.io.now) a u
    answer (settle s i (.udp out.1) [] out.1.freed a.alloc) w r i a.alloc out.2

def closeReq (s : Sys n) (w : Fin n) (r : ReqId) (i : SockId) (a : Answers n) : Sys n :=
  let q := s.reqs r
  if q.status = .waitingClose then
    if expired q a.io.now then reqNotify s r (.ok 0) else s
  else if !(s.socks i).fdEntry then reqNotify s r (.err .ebadf)
  else serve (detachFdEntry s i) w r i a

def handle (s : Sys n) (w : Fin n) (r : ReqId) (i : SockId) (a : Answers n) : Sys n :=
  match (s.reqs r).op with
  | .close => closeReq s w r i a
  | _ => if !(s.socks i).fdEntry then reqNotify s r (.err .ebadf) else serve s w r i a

def processRequest (s : Sys n) (w : Fin n) (r : ReqId) (a : Answers n) : Sys n :=
  if (s.reqs r).asyncCancel then reqNotify s r (.err .ecanceled)
  else
    match (s.reqs r).entry with
    | none =>
      match (s.reqs r).op with
      | .socket p =>
        if freeSlot s a then reqNotify (place s a.slot p w) r (.ok a.slot) else reqNotify s r (.err .emfile)
      | _ => reqNotify s r (.err .einval)
    | some i =>
      match (s.socks i).entryWorker with
      | none => reqNotify s r (.err .ebadf)
      | some dst => if dst ≠ w then beginMove s w r dst else handle s w r i a

end Netfast.Req
