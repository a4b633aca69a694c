import Netfast.Req.Ops
import Netfast.Lib.Run

/-! The steps of the application's threads, of the workers, and of a completion queue that is being closed. -/

namespace Netfast.Req

open Tcp Udp

variable {n : ℕ}

inductive NetEvent
  | segment (g : Segment) (io : Inputs)
  | timer (io : Inputs)
  | icmp (quoted : Option Seq) (err : Errno) (io : Inputs)
  | children (l : List TcpSock)
  | datagram (payload : List UInt8)
  | unreachable (err : Errno)

inductive Act (n : ℕ)
  | call (r : ReqId) (op : Op) (entry : Option SockId) (w : Fin n)
  | ret (r : ReqId)
  | create (r : ReqId) (op : Op) (entry : Option SockId)
  | submit (q : CqId) (r : ReqId) (w : Fin n)
  | reap (q : CqId)
  | destroy (r : ReqId)
  | close (q : CqId)
  | send (q : CqId)
  | check (q : CqId)
  | free (q : CqId)
  | pop (w : Fin n) (a : Answers n)
  | fire (w : Fin n) (r : ReqId) (a : Answers n)
  | pendingTask (w : Fin n) (i : SockId)
  | input (w : Fin n) (i : SockId) (e : NetEvent) (alloc : Bool)
  | resume (w : Fin n) (a : Answers n)

/-! Submission. A request for a new socket goes to any worker `w`, every other to its descriptor's. -/

def aimWorker (s : Sys n) (entry : Option SockId) (w : Fin n) : Option (Fin n) :=
  match entry with
  | none => some w
  | some i => (s.socks i).entryWorker

def enqueue (s : Sys n) (w : Fin n) (m : Msg) : Sys n := s.setQueue w (s.queue w ++ [m])

def call (s : Sys n) (r : ReqId) (op : Op) (entry : Option SockId) (w : Fin n) : Sys n :=
  enqueue (s.setReq r fun _ => { life := .live, op, entry, worker := some w }) w (.req r)

def submit (s : Sys n) (q : CqId) (r : ReqId) (w : Fin n) : Sys n :=
  let s := s.setCq q fun c => { c with submitReqs := r :: c.submitReqs }
  enqueue (s.setReq r fun x => { x with cq := some q, worker := some w }) w (.req r)

def cqPop (s : Sys n) (q : CqId) (r : ReqId) (rest : List ReqId) : Sys n :=
  (s.setCq q fun c => { c with submitReqs := c.submitReqs.filter (· ≠ r), completions := rest }).setReq r
    fun x => { x with cq := none }

def freeReq (s : Sys n) (r : ReqId) : Sys n := s.setReq r fun x => { x with life := .freed }

/-! `async_close`. -/

def sendCancel (s : Sys n) (q : CqId) (w : Fin n) : Sys n :=
  enqueue (s.setCq q fun c => { c with phase := .waiting w }) w (.cancel q)

def checkDone (s : Sys n) (q : CqId) : Sys n :=
  s.setCq q fun c =>
    { c with phase := if c.submitReqs.all fun r => (s.reqs r).done then .freeing else .visiting 0 }

def idle (s : Sys n) (w : Fin n) : Bool := (s.moving w).isNone && (s.jobs w).isEmpty

def popMsg (s : Sys n) (w : Fin n) (a : Answers n) : Msg → Sys n
  | .req r => processRequest s w r a
  | .cancel q => s.setJobs w ((s.cqs q).submitReqs.map .cancel ++ [.ack q])

def unregister (s : Sys n) (r : ReqId) : Sys n :=
  s.setReq r fun x => { x with timeoutTask := x.timeoutTask.map fun t => { t with registered := false } }

def due (q : Req n) (w : Fin n) (now : ℕ) : Bool :=
  q.timeoutTask.any fun t => t.registered && t.thread = w && decide (t.timeout ≤ now)

def takeEvents (s : Sys n) (w : Fin n) (i : SockId) : Sys n :=
  let k := s.socks i
  (s.setSock i fun k => { k with pendingTask := some (w, false), notified := {} }).setJobs w
    (k.pending.map fun r => .wake i r k.notified)

def wakes (q : Req n) (e : Events) : Bool :=
  q.status ≠ .waitingClose && (notifyEventToStatus e).all (·.contains q.status)

def runJob (s : Sys n) (w : Fin n) (a : Answers n) : Job → Sys n
  | .wake i r e =>
    if r ∈ (s.socks i).pending ∧ wakes (s.reqs r) e then processRequest (detach s r) w r a else s
  | .cancel r =>
    if (s.reqs r).worker = some w ∧ !(s.reqs r).done then
      processRequest (s.setReq r fun x => { x with asyncCancel := true }) w r a
    else s
  | .ack q => s.setCq q fun c => { c with phase := .visiting (w + 1) }

def resume (s : Sys n) (w : Fin n) (a : Answers n) : Sys n :=
  match s.moving w with
  | some m => if m.published then push s w m else publish s w m
  | none =>
    match s.jobs w with
    | [] => s
    | j :: js => runJob (s.setJobs w js) w a j

def tcpEvent (s : Sys n) (i : SockId) (l : List TcpSock) (alloc : Bool) (t : TcpSock) : Sys n :=
  settleTcp s i t l alloc

def input (s : Sys n) (i : SockId) (alloc : Bool) : NetEvent → Proto → Sys n
  | .segment g io, .tcp t l => tcpEvent s i l alloc (Tcp.step t ⟨.input g, io⟩)
  | .timer io, .tcp t l => tcpEvent s i l alloc (Tcp.step t ⟨.timer, io⟩)
  | .icmp quoted err io, .tcp t l => tcpEvent s i l alloc (Tcp.step t ⟨.icmp quoted err, io⟩)
  | .children l, .tcp t _ => settle s i (.tcp t l) [.newConnection] t.core.freed alloc
  | .datagram payload, .udp u =>
    if u.freed then s
    else
      let out := socketRecvSkb u payload
      settle s i (.udp out.1) out.2 false alloc
  | .unreachable err, .udp u =>
    if u.freed then s
    else
      let out := udpIcmpProcess u err
      settle s i (.udp out.1) out.2 false alloc
  | _, _ => s

def step (s : Sys n) : Act n → Sys n
  | .call r op entry w =>
    match aimWorker s entry w with
    | some w => if (s.reqs r).life = .unborn then call s r op entry w else s
    | none => s
  | .ret r =>
    if (s.reqs r).life = .live ∧ !(s.reqs r).async ∧ (s.reqs r).done then freeReq s r else s
  | .create r op entry =>
    if (s.reqs r).life = .unborn then s.setReq r fun _ => { life := .live, async := true, op, entry } else s
  | .submit q r w =>
    match aimWorker s (s.reqs r).entry w with
    | some w =>
      if (s.cqs q).phase = .open ∧ (s.reqs r).life = .live ∧ (s.reqs r).async ∧ !(s.reqs r).done ∧
        (s.reqs r).cq = none then submit s q r w else s
    | none => s
  | .reap q =>
    match (s.cqs q).completions with
    | r :: rest => if (s.cqs q).phase = .open then cqPop s q r rest else s
    | [] => s
  | .destroy r =>
    if (s.reqs r).life = .live ∧ (s.reqs r).async ∧ (s.reqs r).cq = none then freeReq s r else s
  | .close q => if (s.cqs q).phase = .open then s.setCq q fun c => { c with phase := .visiting 0 } else s
  | .send q =>
    match (s.cqs q).phase with
    | .visiting i => if h : i < n then sendCancel s q ⟨i, h⟩ else s
    | _ => s
  | .check q =>
    match (s.cqs q).phase with
    | .visiting i => if i < n then s else checkDone s q
    | _ => s
  | .free q =>
    match (s.cqs q).phase, (s.cqs q).completions with
    | .freeing, r :: rest => freeReq (cqPop s q r rest) r
    | .freeing, [] => s.setCq q fun c => { c with phase := .closed }
    | _, _ => s
  | .pop w a =>
    match s.queue w with
    | m :: rest => if idle s w then popMsg (s.setQueue w rest) w a m else s
    | [] => s
  | .fire w r a =>
    if idle s w ∧ due (s.reqs r) w a.io.now then processRequest (unregister s r) w r a else s
  | .pendingTask w i => if idle s w ∧ (s.socks i).pendingTask = some (w, true) then takeEvents s w i else s
  | .input w i e alloc => if idle s w then input s i alloc e (s.socks i).proto else s
  | .resume w a => resume s w a

def worker0 : Fin 2 := 0

def worker1 : Fin 2 := 1

end Netfast.Req
