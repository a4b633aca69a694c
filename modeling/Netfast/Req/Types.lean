import Netfast.Socket.Tuple
import Netfast.Tcp.Conn
import Netfast.Udp.Sock

/-! Requests, the places that hold them, and the state of the workers around them. -/

namespace Netfast.Req

open Tcp Udp

abbrev ReqId := ℕ
abbrev CqId := ℕ

inductive Status
  | inProgress | waitingRead | waitingWrite | waitingConnect | waitingAccept | waitingClose | completed
deriving DecidableEq

structure Events where
  dataRead : Bool := false
  dataWrite : Bool := false
  newConnection : Bool := false
  err : Bool := false
  recvFin : Bool := false
deriving DecidableEq

def Events.of : Notify → Events
  | .dataRead => { dataRead := true }
  | .dataWrite => { dataWrite := true }
  | .newConnection => { newConnection := true }
  | .err => { err := true }
  | .recvFin => { recvFin := true }
  | .lingerDone => {}

def Events.join (e f : Events) : Events :=
  { dataRead := e.dataRead || f.dataRead
    dataWrite := e.dataWrite || f.dataWrite
    newConnection := e.newConnection || f.newConnection
    err := e.err || f.err
    recvFin := e.recvFin || f.recvFin }

def notifyEventToStatus (e : Events) : Option (List Status) :=
  if e.err then none
  else
    match (if e.dataRead || e.recvFin then [Status.waitingRead] else []) ++
      (if e.dataWrite then [.waitingWrite, .waitingConnect] else []) ++
      (if e.newConnection then [.waitingAccept] else []) with
    | [] => none
    | l => some l

inductive Result
  | ok (k : ℕ)
  | data (bs : List UInt8) (len : ℕ)
  | err (e : Errno)
deriving DecidableEq

inductive Proto
  | tcp (t : TcpSock) (acceptList : List TcpSock)
  | udp (u : UdpSock)

inductive Op
  | socket (p : Proto)
  | bind
  | connect (badAddr : Option Errno)
  | listen
  | accept
  | write (buf : List UInt8)
  | read (len : ℕ)
  | sendto (dest : Bool)
  | recvfrom (len : ℕ) (flags : MsgFlags)
  | close
  | shutdown (how : How)
  | setsockopt (o : SockOpt)
  | setfl (nonblock : Bool)
  | query

variable (n : ℕ)

structure Task where
  timeout : ℕ
  thread : Fin n
  registered : Bool

inductive Life
  | unborn | live | freed
deriving DecidableEq

structure Req where
  life : Life := .unborn
  async : Bool := false
  op : Op := .query
  entry : Option SockId := none
  worker : Option (Fin n) := none
  status : Status := .inProgress
  timeoutTask : Option (Task n) := none
  cq : Option CqId := none
  asyncCancel : Bool := false
  done : Bool := false
  ret : Result := .ok 0

structure Sock where
  owner : Option (Fin n) := none
  fdEntry : Bool := false
  entryWorker : Option (Fin n) := none
  pending : List ReqId := []
  notified : Events := {}
  pendingTask : Option (Fin n × Bool) := none
  proto : Proto := .udp {}

inductive Msg
  | req (r : ReqId)
  | cancel (q : CqId)
deriving DecidableEq

inductive Job
  | wake (i : SockId) (r : ReqId) (e : Events)
  | cancel (r : ReqId)
  | ack (q : CqId)
deriving DecidableEq

structure Moving where
  r : ReqId
  dst : Fin n
  published : Bool

inductive Phase
  | open
  | visiting (i : ℕ)
  | waiting (w : Fin n)
  | freeing
  | closed
deriving DecidableEq

structure Cq where
  submitReqs : List ReqId := []
  completions : List ReqId := []
  phase : Phase n := .open

structure Sys where
  reqs : ReqId → Req n := fun _ => {}
  socks : SockId → Sock n := fun _ => {}
  queue : Fin n → List Msg := fun _ => []
  jobs : Fin n → List Job := fun _ => []
  moving : Fin n → Option (Moving n) := fun _ => none
  cqs : CqId → Cq n := fun _ => {}

variable {n}

namespace Sys

abbrev setReq (s : Sys n) (r : ReqId) (f : Req n → Req n) : Sys n :=
  { s with reqs := Function.update s.reqs r (f (s.reqs r)) }

abbrev setSock (s : Sys n) (i : SockId) (f : Sock n → Sock n) : Sys n :=
  { s with socks := Function.update s.socks i (f (s.socks i)) }

abbrev setCq (s : Sys n) (q : CqId) (f : Cq n → Cq n) : Sys n :=
  { s with cqs := Function.update s.cqs q (f (s.cqs q)) }

abbrev setQueue (s : Sys n) (w : Fin n) (l : List Msg) : Sys n :=
  { s with queue := Function.update s.queue w l }

abbrev setJobs (s : Sys n) (w : Fin n) (l : List Job) : Sys n :=
  { s with jobs := Function.update s.jobs w l }

abbrev setMoving (s : Sys n) (w : Fin n) (m : Option (Moving n)) : Sys n :=
  { s with moving := Function.update s.moving w m }

end Sys

/-! `wait`, `wait_until`, `req_notify`. -/

def detach (s : Sys n) (r : ReqId) : Sys n :=
  match (s.reqs r).entry with
  | none => s
  | some i => s.setSock i fun k => { k with pending := k.pending.filter (· ≠ r) }

def attach (s : Sys n) (i : SockId) (r : ReqId) : Sys n :=
  s.setSock i fun k => if r ∈ k.pending then k else { k with pending := r :: k.pending }

def complete (s : Sys n) (r : ReqId) : Sys n :=
  match (s.reqs r).cq with
  | none => s
  | some q => s.setCq q fun c => { c with completions := c.completions ++ [r] }

def Req.finish (q : Req n) (ret : Result) : Req n :=
  { q with ret, timeoutTask := none, status := .completed, done := true }

def reqNotify (s : Sys n) (r : ReqId) (ret : Result) : Sys n :=
  if (s.reqs r).done then s else complete ((detach s r).setReq r (·.finish ret)) r

def wait (s : Sys n) (i : SockId) (r : ReqId) (status : Status) : Sys n :=
  attach (s.setReq r fun q => { q with status }) i r

lemma setReq_status (s : Sys n) (r : ReqId) (st : Status) : (s.setReq r fun q => { q with status := st }) =
    s.setReq r fun q => { q with status := st, timeoutTask := (s.reqs r).timeoutTask } := by
  simp [Sys.setReq]

def waitUntil (s : Sys n) (i : SockId) (r : ReqId) (status : Status) (expire : ℕ) (alloc : Bool) : Sys n :=
  let s := s.setReq r fun q => { q with status }
  if (s.reqs r).timeoutTask.isNone && !alloc then reqNotify s r (.err .enomem)
  else
    match (s.reqs r).worker with
    | none => reqNotify (s.setReq r fun q => { q with timeoutTask := none }) r (.err .eio)
    | some w =>
      attach (s.setReq r fun q => { q with timeoutTask := some ⟨expire, w, true⟩ }) i r

/-! `change_req_worker`, in three parts: the worker is decided on, the request names it, the request is
queued there. -/

def beginMove (s : Sys n) (w : Fin n) (r : ReqId) (dst : Fin n) : Sys n :=
  s.setMoving w (some ⟨r, dst, false⟩)

def publish (s : Sys n) (w : Fin n) (m : Moving n) : Sys n :=
  (s.setReq m.r fun q => { q with worker := some m.dst }).setMoving w (some { m with published := true })

def push (s : Sys n) (w : Fin n) (m : Moving n) : Sys n :=
  let s := (detach s m.r).setReq m.r fun q => { q with timeoutTask := none }
  (s.setQueue m.dst (s.queue m.dst ++ [.req m.r])).setMoving w none

def setSocketWorker (k : Sock n) (w : Fin n) : Sock n :=
  { k with
    entryWorker := if k.fdEntry then some w else k.entryWorker
    owner := some w
    pendingTask := k.pendingTask.map fun t => if t.1 = w then t else (w, true) }

def socketNotifyEvent (k : Sock n) (e : Events) (alloc : Bool) : Sock n :=
  let k₁ : Sock n := { k with notified := k.notified.join e }
  match k.pending, k.owner with
  | [], _ => k₁
  | _, none => k₁
  | _, some w =>
    match k.pendingTask with
    | none => if alloc then { k₁ with pendingTask := some (w, true) } else k₁
    | some (t, registered) => { k₁ with pendingTask := some (if registered then t else w, true) }

def lingers (s : Sys n) (r : ReqId) : Bool :=
  (match (s.reqs r).op with | .close => true | _ => false) && (s.reqs r).status = .waitingClose

def notifyAll (s : Sys n) (rs : List ReqId) (ret : Result) : Sys n := rs.foldl (fun s r => reqNotify s r ret) s

def completeLinger (s : Sys n) (i : SockId) : Sys n :=
  notifyAll s ((s.socks i).pending.filter (lingers s)) (.ok 0)

def detachFdEntry (s : Sys n) (i : SockId) : Sys n :=
  notifyAll (s.setSock i fun k => { k with fdEntry := false }) (s.socks i).pending (.err .ebadf)

end Netfast.Req
