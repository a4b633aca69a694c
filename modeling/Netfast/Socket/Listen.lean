import Netfast.Socket.Tuple
import Netfast.Tcp.Conn

/-! From a received packet to the worker and the socket that process it: `tcp_recv` and `udp_recv_`. -/

namespace Netfast.Socket

open Tcp

structure Packet (A B : Type) where
  saddr : A
  sport : Port
  daddr : A
  dport : Port
  body : B

abbrev TcpPacket (A : Type) := Packet A Segment
abbrev Datagram (A : Type) := Packet A (List UInt8)

def Packet.key {A B : Type} (p : Packet A B) : TupleKey A := ⟨p.daddr, p.dport, p.saddr, p.sport⟩

def isSyn (g : Segment) : Bool := g.hdr.flags.syn && !g.hdr.flags.ack

variable {A B P : Type} [DecidableEq A] [InetAddr A]

def Packet.hash (p : Packet A B) : BitVec 32 := InetAddr.spread p.sport p.saddr

def lookupUnconnected (st : Stack A P) (p : Packet A B) : Option TupleEntry :=
  match searchSocketByTuple st p.daddr p.dport InetAddr.any 0 with
  | some e => some e
  | none => searchSocketByTuple st InetAddr.any p.dport InetAddr.any 0

def tcpLookupSocket (st : Stack A P) (p : TcpPacket A) : Option TupleEntry :=
  match searchSocketByTuple st p.daddr p.dport p.saddr p.sport with
  | some e => some e
  | none => if isSyn p.body then lookupUnconnected st p else none

def udpLookupRecvSocket (st : Stack A P) (p : Datagram A) : Option TupleEntry :=
  match searchSocketByTuple st p.daddr p.dport p.saddr p.sport with
  | some e => some e
  | none => lookupUnconnected st p

inductive Verdict
  | unmatched
  | handOff (w : Worker)
  | process (i : SockId)
deriving DecidableEq

def dispatch (st : Stack A P) (hash : BitVec 32) (w : Worker) : Option TupleEntry → Verdict
  | none => .unmatched
  | some e =>
    if st.owner e.sockets ≠ w then .handOff (st.owner e.sockets)
    else if e.next = [] then .process e.sockets
    else .process (socketSelect e hash)

def tcpRecv (st : Stack A P) (p : TcpPacket A) (w : Worker) : Verdict :=
  dispatch st p.hash w (tcpLookupSocket st p)

def udpRecv (st : Stack A P) (p : Datagram A) (w : Worker) : Verdict :=
  dispatch st p.hash w (udpLookupRecvSocket st p)

def deliver (recv : Worker → Verdict) (w : Worker) : Option (Worker × SockId) :=
  match recv w with
  | .unmatched => none
  | .process i => some (w, i)
  | .handOff v =>
    match recv v with
    | .process i => some (v, i)
    | _ => none

def TupleEntry.pick (e : TupleEntry) (hash : BitVec 32) : SockId := e.members.get (e.index hash)

omit [DecidableEq A] [InetAddr A] in
lemma dispatch_owner (st : Stack A P) (hash : BitVec 32) (e : TupleEntry) :
    dispatch st hash (st.owner e.sockets) (some e) = .process (e.pick hash) := by
  have hs : e.next = [] → e.sockets = e.pick hash := by
    intro hn
    simp [TupleEntry.pick, TupleEntry.index, TupleEntry.members, hn, Nat.mod_one]
  simp only [dispatch, ne_eq, not_true_eq_false, if_false]
  split
  · rw [hs ‹_›]
  · rw [socketSelect_eq, TupleEntry.pick]

omit [DecidableEq A] [InetAddr A] in
lemma deliver_none (st : Stack A P) (hash : BitVec 32) (w : Worker) :
    deliver (fun v => dispatch st hash v none) w = none := rfl

-- whoever sees the packet first, it ends on the worker of the group's first socket
omit [DecidableEq A] [InetAddr A] in
lemma deliver_some (st : Stack A P) (hash : BitVec 32) (e : TupleEntry) (w : Worker) :
    deliver (fun v => dispatch st hash v (some e)) w = some (st.owner e.sockets, e.pick hash) := by
  rcases eq_or_ne w (st.owner e.sockets) with rfl | hw
  · rw [deliver, dispatch_owner]
  · have h : dispatch st hash w (some e) = .handOff (st.owner e.sockets) := if_pos hw.symm
    rw [deliver, h]
    simp only [dispatch_owner]

def OnOwner (st : Stack A P) (r : Option (Worker × SockId)) : Prop :=
  ∃ v i, r = some (v, i) ∧ st.owner i = v

omit [DecidableEq A] [InetAddr A] in
lemma onOwner_deliver (st : Stack A P) (hash : BitVec 32) (e : TupleEntry) (w : Worker) :
    OnOwner st (deliver (fun v => dispatch st hash v (some e)) w) ↔
      st.owner (e.pick hash) = st.owner e.sockets := by
  rw [deliver_some]
  constructor
  · rintro ⟨v, i, h, ho⟩
    obtain ⟨rfl, rfl⟩ := Prod.mk.inj (Option.some.inj h)
    exact ho
  · intro h
    exact ⟨_, _, rfl, h⟩

theorem processed_on_owner_iff {Q : Type} (tcp : Stack A P) (udp : Stack A Q) (p : TcpPacket A)
    (q : Datagram A) (w : Worker) :
    (∀ e, tcpLookupSocket tcp p = some e →
      (OnOwner tcp (deliver (tcpRecv tcp p) w) ↔ tcp.owner (e.pick p.hash) = tcp.owner e.sockets)) ∧
    (∀ e, udpLookupRecvSocket udp q = some e →
      (OnOwner udp (deliver (udpRecv udp q) w) ↔ udp.owner (e.pick q.hash) = udp.owner e.sockets)) := by
  constructor
  · intro e he
    have hr : tcpRecv tcp p = fun v => dispatch tcp p.hash v (some e) := by
      funext v
      rw [tcpRecv, he]
    rw [hr]
    exact onOwner_deliver tcp p.hash e w
  · intro e he
    have hr : udpRecv udp q = fun v => dispatch udp q.hash v (some e) := by
      funext v
      rw [udpRecv, he]
    rw [hr]
    exact onOwner_deliver udp q.hash e w

/-! Addresses and ports are the words the packet has, in network byte order. Two sockets share port 80 of 10.0.0.1;
worker 0 owns the first, `second` owns the other. -/

def htons (p : Port) : Port := p.rotateLeft 8

def inet (a b c d : BitVec 8) : Ipv4 := d ++ c ++ b ++ a

def sharedPort (second : Worker) : Stack Ipv4 Unit :=
  let sock (w : Worker) : Sock Ipv4 Unit :=
    { sip := inet 10 0 0 1, sport := htons 80, dip := 0, dport := 0, reuseport := true, owner := w, pcb := () }
  let st : Stack Ipv4 Unit :=
    { socks := fun i => if i = 0 then sock 0 else sock second, tuples := ∅, fresh := 2 }
  (installTuple (installTuple st 0 true).1 1 true).1

def fromPeer {B : Type} (sport : Port) (body : B) : Packet Ipv4 B :=
  { saddr := inet 10 0 0 2, sport := htons sport, daddr := inet 10 0 0 1, dport := htons 80, body }

def peerSyn : TcpPacket Ipv4 := fromPeer 1280 (bareSegment (plainHdr 7 0 { syn := true }))

theorem wrong_worker_processes :
    deliver (tcpRecv (sharedPort 1) peerSyn) 0 = some (0, 1) ∧ (sharedPort 1).owner 1 = 1 ∧
      deliver (udpRecv (sharedPort 1) (fromPeer 1280 [1, 2, 3])) 0 = some (0, 1) := by
  decide

theorem processed_on_owner_iff_shared :
    OnOwner (sharedPort 0) (deliver (tcpRecv (sharedPort 0) peerSyn) 3) ∧
      OnOwner (sharedPort 0) (deliver (udpRecv (sharedPort 0) (fromPeer 1280 [1, 2, 3])) 3) := by
  have h := processed_on_owner_iff (sharedPort 0) (sharedPort 0) peerSyn (fromPeer 1280 [1, 2, 3]) 3
  exact ⟨(h.1 ⟨0, [1]⟩ (by decide)).mpr (by decide), (h.2 ⟨0, [1]⟩ (by decide)).mpr (by decide)⟩

/-! A listener and the children it opens: `tcp_process_listen`. -/

structure TcpPcb where
  conn : TcpSock
  backlog : ℕ := 0
  synList : List SockId := []
  synListNum : ℕ := 0
  acceptListNum : ℕ := 0
  parentSock : Option SockId := none

structure Supply where
  sock : Bool := true
  slot : Bool := true
  entry : Bool := true
  inputs : Inputs := {}

def Stack.listening (st : Stack A TcpPcb) (i : SockId) : Prop := (st.socks i).pcb.conn.core.state = .listen

instance (st : Stack A TcpPcb) (i : SockId) : Decidable (st.listening i) :=
  inferInstanceAs (Decidable (_ = _))

def childConn (c : TcpSock) (i : Inputs) : TcpSock :=
  let n := tcpPcbInit c.core.isV6 { now := i.now, fates := i.fates, routes := i.routes }
  { n with
    core := { n.core with
      keepalive := c.core.keepalive
      linger := c.core.linger
      sendTimeout := c.core.sendTimeout
      recvTimeout := c.core.recvTimeout
      cork := c.core.cork
      isBound := true
      isConnected := true
      fdEntry := false }
    snd.sendBufferLenMax := c.snd.sendBufferLenMax
    rcv := { n.rcv with recvBufferLenMax := c.rcv.recvBufferLenMax, rcvWnd := c.rcv.recvBufferLenMax }
    retry := { n.retry with
      nagleInterval := c.retry.nagleInterval
      keepaliveTimeout := c.retry.keepaliveTimeout
      keepaliveRetryTimeout := c.retry.keepaliveRetryTimeout
      keepaliveRepeatMax := c.retry.keepaliveRepeatMax } }

def childSock (p : TcpPacket A) (w : Worker) (conn : TcpSock) : Sock A TcpPcb :=
  { sip := p.daddr
    sport := p.dport
    dip := p.saddr
    dport := p.sport
    reuseport := true
    owner := w
    pcb := { conn } }

def Stack.create (st : Stack A TcpPcb) (s : Sock A TcpPcb) : Stack A TcpPcb :=
  { st.set st.fresh s with fresh := st.fresh + 1 }

def Stack.setPcb (st : Stack A TcpPcb) (i : SockId) (pcb : TcpPcb) : Stack A TcpPcb :=
  st.set i { st.socks i with pcb }

-- the child is in the table: the listener counts it, and it answers the SYN
def adoptChild (st : Stack A TcpPcb) (i c : SockId) (h : TcpHdr) : Stack A TcpPcb :=
  let l := (st.socks i).pcb
  let st := st.setPcb i { l with synList := c :: l.synList, synListNum := l.synListNum + 1 }
  let child := (st.socks c).pcb
  st.setPcb c { child with parentSock := some i, conn := childSyn child.conn h }

def openChild (st : Stack A TcpPcb) (i : SockId) (p : TcpPacket A) (w : Worker) (f : Supply) :
    Stack A TcpPcb :=
  if !f.sock then st
  else if !f.slot then st
  else
    match setTcpSocketRoute (childConn (st.socks i).pcb.conn f.inputs) with
    | (_, false) => st
    | (conn, true) =>
      match installTuple (st.create (childSock p w conn)) st.fresh f.entry with
      | (_, false) => st
      | (st₁, true) => adoptChild st₁ i st.fresh p.body.hdr

def inSynList (st : Stack A TcpPcb) (i : SockId) (p : TcpPacket A) : Bool :=
  (st.socks i).pcb.synList.any fun c => tupleKeyFromSocket (st.socks c) = p.key

def backlogFull (l : TcpPcb) : Bool := 0 < l.backlog && l.backlog ≤ l.synListNum + l.acceptListNum

def tcpProcessListen (st : Stack A TcpPcb) (i : SockId) (p : TcpPacket A) (w : Worker) (f : Supply) :
    Stack A TcpPcb :=
  let l := (st.socks i).pcb
  if p.body.hdr.flags.rst then st
  else if p.body.hdr.flags.ack then
    st.setPcb i { l with conn := (tcpSendFlag l.conn p.body.hdr.ackSeq 0 { rst := true }).1 }
  else if !p.body.hdr.flags.syn then st
  else if inSynList st i p then st
  else if backlogFull l then st
  else openChild st i p w f

/-- A child comes as far as `install_tuple`. -/
def Opens (st : Stack A TcpPcb) (i : SockId) (p : TcpPacket A) (f : Supply) : Prop :=
  p.body.hdr.flags.rst = false ∧ inSynList st i p = false ∧ backlogFull (st.socks i).pcb = false ∧
    f.sock ∧ f.slot ∧ (setTcpSocketRoute (childConn (st.socks i).pcb.conn f.inputs)).2

/-- All sockets under a key have opted into sharing it. -/
def Shared (st : Stack A TcpPcb) (k : TupleKey A) : Prop := ∀ j ∈ st.group k, (st.socks j).reuseport

omit [DecidableEq A] [InetAddr A] in
lemma create_fresh (st : Stack A TcpPcb) (s : Sock A TcpPcb) : (st.create s).socks st.fresh = s :=
  Function.update_self ..

omit [DecidableEq A] [InetAddr A] in
lemma create_other (st : Stack A TcpPcb) (s : Sock A TcpPcb) {j : SockId} (h : j ≠ st.fresh) :
    (st.create s).socks j = st.socks j :=
  Function.update_of_ne h ..

variable {st : Stack A TcpPcb} {i : SockId} {p : TcpPacket A} {f : Supply}

lemma openChild_eq (w : Worker) (h : Opens st i p f) (hs : isSyn p.body) : ∃ conn, tcpProcessListen st i p w f =
      match installTuple (st.create (childSock p w conn)) st.fresh f.entry with
      | (_, false) => st
      | (st₁, true) => adoptChild st₁ i st.fresh p.body.hdr := by
  obtain ⟨hr, hd, hb, ha, hl, ht⟩ := h
  obtain ⟨hs, hk⟩ : p.body.hdr.flags.syn ∧ p.body.hdr.flags.ack = false := by
    simpa [isSyn] using hs
  cases hc : setTcpSocketRoute (childConn (st.socks i).pcb.conn f.inputs) with
  | mk conn b =>
    obtain rfl : b = true := by simpa [hc] using ht
    refine ⟨conn, ?_⟩
    simp [tcpProcessListen, openChild, hr, hk, hs, hd, hb, ha, hl, hc]

lemma not_opens (w : Worker) (h : ¬Opens st i p f) : (tcpProcessListen st i p w f).group = st.group := by
  simp only [tcpProcessListen, openChild]
  -- every way out before `install_tuple` leaves the table as it is
  iterate 8
    split
    · rfl
  rename_i hr _ _ hd hb ha hl conn b hc
  refine absurd ?_ h
  rw [Opens, hc]
  simp_all

omit [DecidableEq A] [InetAddr A] in
lemma child_entry (st : Stack A TcpPcb) (p : TcpPacket A) (w : Worker) (conn : TcpSock) :
    ((st.create (childSock p w conn)).socks st.fresh).tupleEntry = none ∧
      tupleKeyFromSocket ((st.create (childSock p w conn)).socks st.fresh) = p.key := by
  rw [create_fresh]
  exact ⟨rfl, rfl⟩

lemma processListen_vacant (hl : st.tuples.lookup p.key = none)
    (i : SockId) (w : Worker) (f : Supply) (hs : isSyn p.body) :
    (tcpProcessListen st i p w f).group = st.group ∨
      (tcpProcessListen st i p w f).group = Function.update st.group p.key [st.fresh] := by
  by_cases ho : Opens st i p f
  · obtain ⟨conn, he⟩ := openChild_eq w ho hs
    obtain ⟨hn, hk⟩ := child_entry st p w conn
    rw [he, installTuple_vacant hn f.entry (hk ▸ hl), hk]
    cases f.entry with
    | false => exact Or.inl rfl
    | true => exact Or.inr (founded_group ..)
  · exact Or.inl (not_opens w ho)

section Occupied

variable {e : TupleEntry}

lemma child_joinable (hv : Valid st) (hl : st.tuples.lookup p.key = some e) (w : Worker) (conn : TcpSock) :
    joinable (st.create (childSock p w conn)) st.fresh e ↔ p.saddr = InetAddr.any ∧ Shared st p.key := by
  have hg := group_of_lookup hl
  have hj : ∀ j ∈ e.members, (st.create (childSock p w conn)).socks j = st.socks j := by
    intro j hj
    rw [← hg] at hj
    exact create_other st _ (hv.fresh hj).ne
  rw [joinable, create_fresh, Shared, hg]
  constructor
  · rintro ⟨hd, -, hr⟩
    exact ⟨hd, fun j hm => hj j hm ▸ hr j hm⟩
  · rintro ⟨hd, hr⟩
    exact ⟨hd, rfl, fun j hm => (hj j hm).symm ▸ hr j hm⟩

omit [InetAddr A] in
lemma child_not_member (hv : Valid st) (hl : st.tuples.lookup p.key = some e) : st.fresh ∉ e.members :=
  group_of_lookup hl ▸ hv.not_fresh p.key

lemma processListen_joins (hv : Valid st) (hl : st.tuples.lookup p.key = some e) (i : SockId) (w : Worker)
    (f : Supply) (hs : isSyn p.body) (ho : Opens st i p f) (ha : p.saddr = InetAddr.any)
    (hr : Shared st p.key) :
    (tcpProcessListen st i p w f).group = Function.update st.group p.key (e.sockets :: st.fresh :: e.next) := by
  obtain ⟨conn, he⟩ := openChild_eq w ho hs
  obtain ⟨hn, hk⟩ := child_entry st p w conn
  rw [he, installTuple_occupied hn f.entry (hk ▸ hl),
    joinGroup_pos (child_not_member hv hl) ((child_joinable hv hl w conn).mpr ⟨ha, hr⟩), hk]
  exact joined_group ..

lemma processListen_apart (hv : Valid st) (hl : st.tuples.lookup p.key = some e) (i : SockId) (w : Worker)
    (f : Supply) (hs : isSyn p.body) (h : ¬(Opens st i p f ∧ p.saddr = InetAddr.any ∧ Shared st p.key)) :
    (tcpProcessListen st i p w f).group = st.group := by
  by_cases ho : Opens st i p f
  · obtain ⟨conn, he⟩ := openChild_eq w ho hs
    obtain ⟨hn, hk⟩ := child_entry st p w conn
    have hj := mt (child_joinable hv hl w conn).mp fun hj => h ⟨ho, hj⟩
    rw [he, installTuple_occupied hn f.entry (hk ▸ hl), joinGroup_neg (child_not_member hv hl) hj]
  · exact not_opens w ho

end Occupied

def SharesGroup (st : Stack A TcpPcb) (i c : SockId) : Prop := ∃ k, i ∈ st.group k ∧ c ∈ st.group k

/-- A listener is given opening segments only, and no child of one enters its group. -/
def Isolated (st : Stack A TcpPcb) (p : TcpPacket A) (w : Worker) (f : Supply) : Prop :=
  ∀ v i, deliver (tcpRecv st p) w = some (v, i) → st.listening i →
    isSyn p.body ∧ ¬SharesGroup (tcpProcessListen st i p v f) i st.fresh

omit [InetAddr A] in
lemma not_sharesGroup {st st' : Stack A TcpPcb} (hv : Valid st) (i : SockId) (h : st'.group = st.group) :
    ¬SharesGroup st' i st.fresh := by
  rintro ⟨k, -, hc⟩
  rw [h] at hc
  exact hv.not_fresh k hc

lemma tcpRecv_exact {e : TupleEntry} (hl : st.tuples.lookup p.key = some e) (w : Worker) :
    deliver (tcpRecv st p) w = some (st.owner e.sockets, e.pick p.hash) := by
  have hr : tcpRecv st p = fun v => dispatch st p.hash v (some e) := by
    funext v
    have hl' : searchSocketByTuple st p.daddr p.dport p.saddr p.sport = some e := hl
    rw [tcpRecv, tcpLookupSocket, hl']
  rw [hr]
  exact deliver_some st p.hash e w

-- without an exact match only an opening segment finds a socket
lemma tcpRecv_fallback (hl : st.tuples.lookup p.key = none)
    {w v : Worker} {i : SockId} (h : deliver (tcpRecv st p) w = some (v, i)) :
    isSyn p.body ∧ ∃ k, i ∈ st.group k := by
  have hl' : searchSocketByTuple st p.daddr p.dport p.saddr p.sport = none := hl
  have hr : tcpRecv st p = fun v => dispatch st p.hash v (if isSyn p.body then lookupUnconnected st p else none) := by
    funext v
    rw [tcpRecv, tcpLookupSocket, hl']
  rw [hr] at h
  cases hs : isSyn p.body with
  | false => simp [hs, deliver_none] at h
  | true =>
    refine ⟨rfl, ?_⟩
    rw [hs, if_pos rfl] at h
    cases he : lookupUnconnected st p with
    | none => simp [he, deliver_none] at h
    | some e =>
      rw [he, deliver_some] at h
      obtain ⟨-, rfl⟩ := Prod.mk.inj (Option.some.inj h)
      have hm : e.pick p.hash ∈ e.members := List.get_mem ..
      rw [lookupUnconnected] at he
      split at he
      · rename_i e' he'
        obtain rfl := Option.some.inj he
        exact ⟨_, group_of_lookup he' ▸ hm⟩
      · exact ⟨_, group_of_lookup he ▸ hm⟩

lemma isolated_of_exact (hv : Valid st) (p : TcpPacket A) (w : Worker) (f : Supply)
    (h : ∀ e, st.tuples.lookup p.key = some e → st.listening (e.pick p.hash) →
      isSyn p.body ∧ ¬(Opens st (e.pick p.hash) p f ∧ p.saddr = InetAddr.any ∧ Shared st p.key)) :
    Isolated st p w f := by
  intro v i hd hi
  cases hl : st.tuples.lookup p.key with
  | some e =>
    rw [tcpRecv_exact hl] at hd
    obtain ⟨-, rfl⟩ := Prod.mk.inj (Option.some.inj hd)
    obtain ⟨hs, ho⟩ := h e hl hi
    exact ⟨hs, not_sharesGroup hv _ (processListen_apart hv hl _ _ f hs ho)⟩
  | none =>
    obtain ⟨hs, k, hk⟩ := tcpRecv_fallback hl hd
    refine ⟨hs, ?_⟩
    rcases processListen_vacant hl i v f hs with hg | hg
    · exact not_sharesGroup hv i hg
    -- the child founds a group of its own
    · rintro ⟨k', hi', hc⟩
      rw [hg] at hi' hc
      rcases eq_or_ne k' p.key with rfl | hne
      · rw [Function.update_self, List.mem_singleton] at hi'
        exact hv.not_fresh k (hi' ▸ hk)
      · rw [Function.update_of_ne hne] at hc
        exact hv.not_fresh k' hc

theorem listener_isolated_iff {st : Stack A TcpPcb} (hv : Valid st) (p : TcpPacket A) (w : Worker) (f : Supply) :
    Isolated st p w f ↔ ∀ e, st.tuples.lookup p.key = some e → st.listening (e.pick p.hash) →
      isSyn p.body ∧ ¬(Opens st (e.pick p.hash) p f ∧ p.saddr = InetAddr.any ∧ Shared st p.key) := by
  refine ⟨?_, isolated_of_exact hv p w f⟩
  intro h e hl hi
  obtain ⟨hs, hg⟩ := h _ _ (tcpRecv_exact hl w) hi
  refine ⟨hs, ?_⟩
  rintro ⟨ho, ha, hr⟩
  -- the child is put behind the first socket of the group its listener is in
  have hm : e.pick p.hash ∈ e.sockets :: e.next := List.get_mem ..
  refine hg ⟨p.key, ?_⟩
  rw [processListen_joins hv hl _ _ f hs ho ha hr, Function.update_self]
  rcases List.mem_cons.mp hm with hm | hm <;> simp [hm]

def listenerSock : Sock Ipv4 TcpPcb :=
  { sip := inet 10 0 0 1
    sport := htons 80
    dip := 0
    dport := 0
    reuseport := true
    pcb := { conn := { tcpPcbInit false {} with core := { state := .listen, isBound := true } }, backlog := 5 } }

def listenerStack : Stack Ipv4 TcpPcb :=
  (installTuple { socks := fun _ => listenerSock, tuples := ∅, fresh := 1 } 0 true).1

def fromNowhere (flags : Skbuff.Flags) : TcpPacket Ipv4 :=
  { saddr := 0, sport := 0, daddr := inet 10 0 0 1, dport := htons 80, body := bareSegment (plainHdr 7 9 flags) }

def routed : Supply := { inputs := { now := 1, routes := [{ cached := none, found := some plainRoute }] } }

theorem zero_source_reaches_listener :
    deliver (tcpRecv listenerStack (fromNowhere .ackOnly)) 0 = some (0, 0) ∧ listenerStack.listening 0 ∧
      ((tcpProcessListen listenerStack 0 (fromNowhere .ackOnly) 0 routed).socks 0).pcb.conn.env.faults =
        [.nullRoute] ∧
      (tcpProcessListen listenerStack 0 (fromNowhere { syn := true }) 0 routed).group
        (tupleKeyFromSocket listenerSock) = [0, 1] := by
  decide

/-- A listener and, under the tuple of the peer, the child it has opened. -/
def servingStack : Stack Ipv4 TcpPcb :=
  let socks (i : SockId) := if i = 0 then listenerSock else childSock peerSyn 0 (establishedSock 1 8)
  (installTuple (installTuple { socks, tuples := ∅, fresh := 2 } 0 true).1 1 true).1

lemma servingStack_valid : Valid servingStack := by
  refine installTuple_valid (installTuple_valid (valid_empty _ (fun i => ?_) 2) (by decide) true) (by decide) true
  split <;> rfl

theorem listener_isolated_iff_peer_syn :
    deliver (tcpRecv servingStack peerSyn) 0 = some (0, 1) ∧ Isolated servingStack peerSyn 0 routed := by
  refine ⟨by decide, (listener_isolated_iff servingStack_valid peerSyn 0 routed).mpr fun e h hl => ?_⟩
  have he : servingStack.tuples.lookup peerSyn.key = some ⟨1, []⟩ := by decide
  obtain rfl := Option.some.inj (he.symm.trans h)
  exact absurd hl (by decide)

end Netfast.Socket
