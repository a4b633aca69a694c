import Netfast.Socket.Listen
import Netfast.Udp.Calls

/-! Bound sockets and the tuple table over runs of calls, and what a failed `udp_connect` leaves behind. -/

namespace Netfast.Udp

open Tcp Socket If Run

variable {A : Type} [Family A] [DecidableEq A]

inductive UdpCall (A : Type)
  | bind (a : Option (AddrArgs A))
  | connect (a : AddrArgs A)
  | sendto (a : SendArgs A)
  | recvfrom (len : ℕ) (flags : MsgFlags) (expired : Bool) (now : ℕ)

structure UdpEvent (A : Type) [Family A] where
  sock : SockId
  host : Host A
  call : UdpCall A

/-- The `is_hash` bit that `udp_recvfrom` tests is the entry of the socket in the table. -/
def recvSock (len : ℕ) (flags : MsgFlags) (expired : Bool) (now : ℕ) (s : Sock A UdpPcb) : Sock A UdpPcb :=
  { s with pcb := { s.pcb with sock := (udpRecvfrom { s.pcb.sock with isHash := isHash s } len flags expired now).1 } }

def udpStep (u : UdpStack A) (e : UdpEvent A) : UdpStack A :=
  match e.call with
  | .bind a => (udpBind u e.host e.sock a).1
  | .connect a => (udpConnect u e.host e.sock a).1
  | .sendto a => (udpSendto u e.host e.sock a).1
  | .recvfrom len flags expired now => u.update e.sock (recvSock len flags expired now)

structure Shape (s : Sock A UdpPcb) : Prop where
  fresh : s.pcb.sock.isBound = false → s.sip = InetAddr.any ∧ s.tupleEntry = none
  port : ∀ k, s.tupleEntry = some k → k.sport = s.sport

def UdpInv (u : UdpStack A) : Prop := TableInv u.st ∧ ∀ i, Shape (u.sock i)

variable {t : BindTable}

section Step

variable {u u' : UdpStack A} {i : SockId} {s s' : Sock A UdpPcb}

lemma UdpInv.becomes (hu : UdpInv u) (hb : Becomes u u' i s) (hs : Shape s) : UdpInv u' := by
  refine ⟨hb.table, fun j => ?_⟩
  by_cases hj : j = i
  · rw [hj, hb.self]
    exact hs
  · rw [hb.others j hj]
    exact hu.2 j

omit [DecidableEq A] in
lemma Shape.congr (hs : Shape s) (hb : s'.pcb.sock.isBound = s.pcb.sock.isBound) (hsip : s'.sip = s.sip)
    (hport : s'.sport = s.sport) (hlink : s'.tupleEntry = s.tupleEntry) : Shape s' where
  fresh h := by
    rw [hsip, hlink]
    exact hs.fresh (hb ▸ h)
  port k hk := by
    rw [hport]
    exact hs.port k (hlink ▸ hk)

omit [DecidableEq A] in
lemma shape_bound (hb : s.pcb.sock.isBound = true) (hport : ∀ k, s.tupleEntry = some k → k.sport = s.sport) : Shape s :=
  ⟨fun h => absurd (hb.symm.trans h) (by decide), hport⟩

omit [DecidableEq A] in
lemma shape_linked (hb : s.pcb.sock.isBound = true) (hlink : s.tupleEntry = none ∨ s.tupleEntry = some (tupleKeyFromSocket s)) :
    Shape s := by
  refine shape_bound hb fun k hk => ?_
  rcases hlink with hlink | hlink
  · rw [hlink] at hk
    cases hk
  · rw [hlink] at hk
    rw [← Option.some.inj hk]
    rfl

lemma Sends.shape {h : Host A} {a : SendArgs A} (hsend : Sends t h a s s') (hs : Shape s) : Shape s' := by
  cases hsend with
  | bound hb hb' hport hlink =>
    refine shape_bound hb' fun k hk => ?_
    rw [hport]
    exact hs.port k (hlink ▸ hk)
  | unbound hb _ hb' hsip hport hlink => exact hs.congr (hb'.trans hb.symm) hsip hport hlink
  | binds hb _ hb' hlink =>
    refine shape_bound hb' fun k hk => ?_
    rw [hlink, (hs.fresh hb).2] at hk
    cases hk

omit [DecidableEq A] in
lemma Binds.shape (hbind : Binds s s') (hs : Shape s) : Shape s' := by
  cases hbind with
  | same h => rwa [h]
  | bound hb hlink => exact shape_linked hb (.inr hlink)
  | undone hb hsip hlink => exact ⟨fun _ => ⟨hsip, hlink⟩, fun k hk => by rw [hlink] at hk; cases hk⟩

lemma Connects.inv {h : Host A} {a : AddrArgs A} {reply : Reply} (hc : Connects u h i a u' reply) (hu : UdpInv u) :
    UdpInv u' := by
  cases hc with
  | refused _ hb => exact hu.becomes hb ((hu.2 i).congr rfl rfl rfl rfl)
  | moved hs _ hb => exact hu.becomes hb (shape_linked hs.local.bound (.inl rfl))
  | done hs _ _ hb => exact hu.becomes hb (shape_linked hs.local.bound (.inr rfl))
  | clash hs _ _ hk hb =>
    refine hu.becomes hb (shape_linked hs.local.bound ?_)
    rcases hk with ⟨rfl, -⟩ | ⟨rfl, -⟩
    · exact .inr rfl
    · exact .inl rfl

lemma udpRecvfrom_isBound (v : UdpSock) (len : ℕ) (flags : MsgFlags) (expired : Bool) (now : ℕ) :
    (udpRecvfrom v len flags expired now).1.isBound = v.isBound := by
  rw [udpRecvfrom]
  split
  · rfl
  split
  · rfl
  · split
    · rfl
    split
    · rfl
    · split <;> rfl
  · rw [takeDatagram]
    split <;> rfl

lemma recvfrom_becomes (ht : TableInv u.st) (i : SockId) (len : ℕ) (flags : MsgFlags) (expired : Bool) (now : ℕ) :
    Becomes u (u.update i (recvSock len flags expired now)) i (recvSock len flags expired now (u.sock i)) :=
  becomes_put (s := recvSock len flags expired now (u.sock i)) ht rfl u.binds u.wire

lemma udpStep_inv (u : UdpStack A) (e : UdpEvent A) (hu : UdpInv u) : UdpInv (udpStep u e) := by
  obtain ⟨i, h, call⟩ := e
  cases call with
  | bind a =>
    obtain ⟨s', hb, hs'⟩ := udpBind_becomes hu.1 h i a
    exact hu.becomes hb (hs'.shape (hu.2 i))
  | connect a => exact (udpConnect_connects hu.1 h i a).inv hu
  | sendto a =>
    obtain ⟨s', hb, hs'⟩ := udpSendto_becomes hu.1 h i a
    exact hu.becomes hb (hs'.shape (hu.2 i))
  | recvfrom len flags expired now =>
    refine hu.becomes (recvfrom_becomes hu.1 i len flags expired now) ?_
    exact (hu.2 i).congr (udpRecvfrom_isBound ..) rfl rfl rfl

end Step

structure UdpOptions extends BindOptions where
  broadcast : Bool := false

def newUdp (o : UdpOptions) : Sock A UdpPcb where
  sip := InetAddr.any
  sport := 0
  dip := InetAddr.any
  dport := 0
  reuseport := o.reuseport
  pcb := { reuseaddr := o.reuseaddr, broadcast := o.broadcast }

def openStack (options : SockId → UdpOptions) (t : BindTable) (n : SockId) : UdpStack A where
  st := unlinkedStack (fun i => newUdp (options i)) n
  binds := t

lemma openStack_inv (options : SockId → UdpOptions) (t : BindTable) (n : SockId) :
    UdpInv (openStack options t n : UdpStack A) :=
  ⟨tableInv_unlinked _ n, fun _ => ⟨fun _ => ⟨rfl, rfl⟩, fun k hk => absurd hk (by simp [openStack, UdpStack.sock, unlinkedStack, Sock.linkTo])⟩⟩

lemma udp_calls_keep_shape (options : SockId → UdpOptions) (t : BindTable) (n : SockId) (es : List (UdpEvent A)) :
    UdpInv (run udpStep (openStack options t n) es) :=
  run_always (I := UdpInv) udpStep_inv (openStack_inv options t n) es

/-- Whatever the calls fail at, a lookup leads to the sockets installed. -/
theorem udp_calls_keep_table (options : SockId → UdpOptions) (t : BindTable) (n : SockId) (es : List (UdpEvent A)) :
    TableRefines (run udpStep (openStack options t n) es).st :=
  (udp_calls_keep_shape options t n es).1.refines

/-- Every bound socket is in the table under its port, and the lookup of its tuple leads to it. -/
def Installed (u : UdpStack A) : Prop :=
  ∀ i, (u.sock i).pcb.sock.isBound = true → ∃ k e, (u.sock i).tupleEntry = some k ∧ k.sport = (u.sock i).sport ∧
    searchSocketByTuple u.st k.saddr k.sport k.daddr k.dport = some e ∧ i ∈ e.members

lemma installed_iff {u : UdpStack A} (hu : UdpInv u) :
    Installed u ↔ ∀ i, (u.sock i).pcb.sock.isBound = true → isHash (u.sock i) = true := by
  constructor
  · intro h i hb
    obtain ⟨k, -, hk, -⟩ := h i hb
    rw [isHash, hk, Option.isSome_some]
  · intro h i hb
    obtain ⟨k, hk⟩ := Option.isSome_iff_exists.mp (h i hb)
    have hmem := (hu.1.1.linked k i).mpr hk
    obtain ⟨e, he, hg⟩ := lookup_of_group hmem
    exact ⟨k, e, hk, (hu.2 i).port k hk, he, hg ▸ hmem⟩

/-- The executions that leave a bound socket in the table: a send does not bind, a connect installs its tuple, or the old
one again. -/
def KeepsInstalled (u : UdpStack A) (e : UdpEvent A) : Prop :=
  match e.call with
  | .bind _ | .recvfrom .. => True
  | .sendto a => (u.sock e.sock).pcb.sock.isBound = true ∨ StaysUnbound u.binds e.host (u.sock e.sock) a
  | .connect a => ∀ t s', BindsTo u e.host e.sock a t s' → tupleWorker e.host s' a.addr = e.host.cur ∧
      (Admits (u.st.set e.sock (pointAt s' a.addr)) e.sock e.host.entryAlloc ∨
        isHash (u.sock e.sock) = true ∧ Admits (u.st.set e.sock s') e.sock e.host.entryAgain)

section Installed

variable {u u' : UdpStack A} {i : SockId} {s : Sock A UdpPcb}

lemma installed_becomes (hu' : UdpInv u') (hp : ∀ j, (u.sock j).pcb.sock.isBound = true → isHash (u.sock j) = true)
    (hb : Becomes u u' i s) : Installed u' ↔ (s.pcb.sock.isBound = true → isHash s = true) := by
  rw [installed_iff hu']
  constructor
  · intro h
    have hi := h i
    rwa [hb.self] at hi
  · intro h j
    by_cases hj : j = i
    · rw [hj, hb.self]
      exact h
    · rw [hb.others j hj]
      exact hp j

lemma Sends.installed {h : Host A} {a : SendArgs A} {s' : Sock A UdpPcb} (hsend : Sends t h a s s')
    (hs : Shape s) (hp : s.pcb.sock.isBound = true → isHash s = true) :
    (s'.pcb.sock.isBound = true → isHash s' = true) ↔ (s.pcb.sock.isBound = true ∨ StaysUnbound t h s a) := by
  cases hsend with
  | bound hb _ _ hlink =>
    refine ⟨fun _ => .inl hb, fun _ _ => ?_⟩
    rw [isHash, hlink]
    exact hp hb
  | unbound hb hno hb' =>
    exact ⟨fun _ => .inr hno, fun _ h => absurd (hb'.symm.trans h) (by decide)⟩
  | binds hb hyes hb' hlink =>
    have hnone : isHash s' = false := by rw [isHash, hlink, (hs.fresh hb).2, Option.isSome_none]
    refine ⟨fun h => absurd ((h hb').symm.trans hnone) (by decide), ?_⟩
    rintro (h | h)
    · exact absurd (hb.symm.trans h) (by decide)
    · exact absurd h hyes

lemma Connects.installed {h : Host A} {a : AddrArgs A} {reply : Reply} (hc : Connects u h i a u' reply) (hu : UdpInv u)
    (hp : ∀ j, (u.sock j).pcb.sock.isBound = true → isHash (u.sock j) = true) :
    Installed u' ↔ KeepsInstalled u ⟨i, h, .connect a⟩ := by
  have hu' := hc.inv hu
  -- once the socket is bound, everything is about the tuple it is left with
  have hkeeps : ∀ {t s'}, BindsTo u h i a t s' → (KeepsInstalled u ⟨i, h, .connect a⟩ ↔ tupleWorker h s' a.addr = h.cur ∧
      (Admits (u.st.set i (pointAt s' a.addr)) i h.entryAlloc ∨
        isHash (u.sock i) = true ∧ Admits (u.st.set i s') i h.entryAgain)) := by
    intro t s' hb
    refine ⟨fun hk => hk t s' hb, fun hk t' s'' hb' => ?_⟩
    obtain rfl := hb.unique hb'
    exact hk
  cases hc with
  | refused hno hb =>
    rw [installed_becomes hu' hp hb]
    exact ⟨fun _ t s' hs => absurd hs (hno t s'), fun _ => hp i⟩
  | moved hs hw hb =>
    rw [installed_becomes hu' hp hb, hkeeps hs]
    refine ⟨fun h => ?_, fun h => absurd h.1 hw⟩
    have hhash := h hs.local.bound
    simp [isHash, Sock.linkTo] at hhash
  | done hs hw hadm hb =>
    rw [installed_becomes hu' hp hb, hkeeps hs]
    exact ⟨fun _ => ⟨hw, .inl hadm⟩, fun _ _ => rfl⟩
  | clash hs hw hadm hk hb =>
    rw [installed_becomes hu' hp hb, hkeeps hs]
    rcases hk with ⟨rfl, hagain⟩ | ⟨rfl, hagain⟩
    · exact ⟨fun _ => ⟨hw, .inr hagain⟩, fun _ _ => rfl⟩
    · refine ⟨fun h => ?_, fun h => absurd h.2 (not_or.mpr ⟨hadm, hagain⟩)⟩
      have hhash := h hs.local.bound
      simp [isHash, Sock.linkTo] at hhash

end Installed

/-- Peer, connected flag and tuple are the same. -/
structure SameRegistration (s s' : Sock A UdpPcb) : Prop where
  peer : peerOf s' = peerOf s
  connected : s'.pcb.sock.isConnected = s.pcb.sock.isConnected
  link : s'.tupleEntry = s.tupleEntry

def reconnect (i : SockId) (a : AddrArgs A) : UdpStack A × Reply → List (Host A) → UdpStack A × Reply
  | (u, .moved _), h :: hs => reconnect i a (udpConnect u h i a) hs
  | r, _ => r

def connectRequest (u : UdpStack A) (i : SockId) (a : AddrArgs A) (h : Host A) (hs : List (Host A)) : UdpStack A × Reply :=
  reconnect i a (udpConnect u h i a) hs

/-- The first execution, if it gets to a bound socket, either stays on its worker and can put back a tuple that is the
socket's present one, or moves with nothing to lose. -/
def FailsClean (u : UdpStack A) (h : Host A) (i : SockId) (a : AddrArgs A) : Prop :=
  ∀ t s', BindsTo u h i a t s' →
    if tupleWorker h s' a.addr = h.cur then
      isHash (u.sock i) = true → (u.sock i).tupleEntry = some (tupleKeyFromSocket (u.sock i)) ∧
        Admits (u.st.set i s') i h.entryAgain
    else isHash (u.sock i) = false ∧ peerOf (pointAt (u.sock i) a.addr) = peerOf (u.sock i)

section Atomic

variable {u u' : UdpStack A} {h : Host A} {i : SockId} {a : AddrArgs A} {reply : Reply} {s s' : Sock A UdpPcb}

omit [Family A] [DecidableEq A] in
lemma SameRegistration.trans {s'' : Sock A UdpPcb} (h : SameRegistration s s') (h' : SameRegistration s' s'') :
    SameRegistration s s'' :=
  ⟨h'.peer.trans h.peer, h'.connected.trans h.connected, h'.link.trans h.link⟩

omit [DecidableEq A] in
lemma peerOf_pointAt_congr (hp : peerOf s' = peerOf s) (d : Peer A) : peerOf (pointAt s' d) = peerOf (pointAt s d) := by
  have hscope : s'.pcb.dipScope = s.pcb.dipScope := congrArg Peer.scope hp
  simp only [peerOf, pointAt, hscope]

structure Moved (s : Sock A UdpPcb) (d : Peer A) : Prop where
  link : s.tupleEntry = none
  peer : peerOf (pointAt s d) = peerOf s

lemma Connects.of_moved (hc : Connects u h i a u' reply) (hm : Moved (u.sock i) a.addr) (hdone : reply ≠ .done 0) :
    SameRegistration (u.sock i) (u'.sock i) ∧ Moved (u'.sock i) a.addr := by
  have hagain : ∀ s'', SameRegistration (u.sock i) s'' → Moved s'' a.addr := by
    intro s'' hs
    refine ⟨hs.link.trans hm.link, ?_⟩
    rw [peerOf_pointAt_congr hs.peer, hm.peer, hs.peer]
  have hboth : SameRegistration (u.sock i) (u'.sock i) := by
    cases hc with
    | refused _ hb =>
      rw [hb.self]
      exact ⟨rfl, rfl, rfl⟩
    | moved hs _ hb =>
      rw [hb.self]
      exact ⟨(peerOf_pointAt_congr hs.local.peer a.addr).trans hm.peer, hs.local.connected, hm.link.symm⟩
    | done => exact absurd rfl hdone
    | clash hs _ _ hk hb =>
      rw [hb.self]
      have hnone : isHash (u.sock i) = false := by rw [isHash, hm.link, Option.isSome_none]
      rcases hk with ⟨-, hhash, -⟩ | ⟨rfl, -⟩
      · exact absurd (hhash.symm.trans hnone) (by decide)
      · exact ⟨hs.local.peer, hs.local.connected, hm.link.symm⟩
  exact ⟨hboth, hagain _ hboth⟩

lemma reconnect_same {e : Errno} {w : Worker} (hu : UdpInv u) (hm : Moved (u.sock i) a.addr) (hosts : List (Host A))
    (hfail : (reconnect i a (u, .moved w) hosts).2 = .fail e) :
    SameRegistration (u.sock i) ((reconnect i a (u, .moved w) hosts).1.sock i) := by
  induction hosts generalizing u w with
  | nil => cases hfail
  | cons h hosts ih =>
    have hc := udpConnect_connects hu.1 h i a
    rw [reconnect] at hfail ⊢
    cases hr : udpConnect u h i a with
    | mk u' reply =>
      rw [hr] at hc hfail
      cases reply with
      | done n =>
        rw [reconnect.eq_def] at hfail
        cases hfail
      | fail e' =>
        rw [reconnect.eq_def]
        exact (hc.of_moved hm (by simp)).1
      | moved w' =>
        obtain ⟨hsame, hm'⟩ := hc.of_moved hm (by simp)
        exact hsame.trans (ih (hc.inv hu) hm' hfail)

omit [Family A] [DecidableEq A] in
lemma SameRegistration.cancel {s'' : Sock A UdpPcb} (h : SameRegistration s' s'') : SameRegistration s s'' ↔ SameRegistration s s' :=
  ⟨fun hs => ⟨h.peer.symm.trans hs.peer, h.connected.symm.trans hs.connected, h.link.symm.trans hs.link⟩,
    fun hs => hs.trans h⟩

omit [DecidableEq A] in
lemma failsClean_iff (hb : BindsTo u h i a t s') : FailsClean u h i a ↔
      if tupleWorker h s' a.addr = h.cur then
        isHash (u.sock i) = true → (u.sock i).tupleEntry = some (tupleKeyFromSocket (u.sock i)) ∧
          Admits (u.st.set i s') i h.entryAgain
      else isHash (u.sock i) = false ∧ peerOf (pointAt (u.sock i) a.addr) = peerOf (u.sock i) := by
  refine ⟨fun hf => hf t s' hb, fun hf t' s'' hb' => ?_⟩
  obtain rfl := hb.unique hb'
  exact hf

omit [Family A] [DecidableEq A] in
lemma isHash_eq_false : isHash s = false ↔ s.tupleEntry = none := by
  rw [isHash, Option.isSome_eq_false_iff, Option.isNone_iff_eq_none]

lemma Connects.fail_iff {e : Errno} (hc : Connects u h i a u' (.fail e)) (hs : Shape (u.sock i)) :
    SameRegistration (u.sock i) (u'.sock i) ↔ FailsClean u h i a := by
  cases hc with
  | refused hno hb =>
    rw [hb.self]
    exact iff_of_true ⟨rfl, rfl, rfl⟩ fun t s' hb' => absurd hb' (hno t s')
  | @clash t s' k hb hw hadm hk hbec =>
    rw [hbec.self, failsClean_iff hb, if_pos hw]
    have hlink : SameRegistration (u.sock i) (s'.linkTo k) ↔ k = (u.sock i).tupleEntry :=
      ⟨fun h => h.link, fun h => ⟨hb.local.peer, hb.local.connected, h⟩⟩
    rw [hlink]
    rcases hk with ⟨rfl, hhash, hagain⟩ | ⟨rfl, hagain⟩
    · have hbound : (u.sock i).pcb.sock.isBound = true := by
        by_contra hb'
        have hnone := (hs.fresh (by simpa using hb')).2
        rw [isHash, hnone] at hhash
        cases hhash
      rw [hb.local.key hbound]
      exact ⟨fun h _ => ⟨h.symm, hagain⟩, fun h => (h hhash).1.symm⟩
    · rw [eq_comm, ← isHash_eq_false]
      constructor
      · intro h hhash
        exact absurd (hhash.symm.trans h) (by decide)
      · intro h
        by_contra hhash
        rw [Bool.not_eq_false] at hhash
        exact hagain ⟨hhash, (h hhash).2⟩

lemma Connects.moved_iff {w : Worker} (hc : Connects u h i a u' (.moved w)) :
    Moved (u'.sock i) a.addr ∧ (SameRegistration (u.sock i) (u'.sock i) ↔ FailsClean u h i a) := by
  cases hc with
  | moved hb hw hbec =>
    rw [hbec.self, failsClean_iff hb, if_neg hw, isHash_eq_false]
    refine ⟨⟨rfl, peerOf_pointAt rfl⟩, fun h => ⟨h.link.symm, ?_⟩, fun h => ⟨?_, hb.local.connected, h.1.symm⟩⟩
    · exact (peerOf_pointAt_congr hb.local.peer a.addr).symm.trans h.peer
    · exact (peerOf_pointAt_congr hb.local.peer a.addr).trans h.2

end Atomic

/-- A connect that fails in the end leaves peer, connected flag and tuple as they were exactly when its first execution
can put the old tuple back, or moves with none. -/
theorem failed_connect_atomic_iff (options : SockId → UdpOptions) (t : BindTable) (n : SockId) (es : List (UdpEvent A))
    (i : SockId) (a : AddrArgs A) (h : Host A) (hosts : List (Host A)) (e : Errno)
    (hfail : (connectRequest (run udpStep (openStack options t n) es) i a h hosts).2 = .fail e) :
    SameRegistration ((run udpStep (openStack options t n) es).sock i)
        ((connectRequest (run udpStep (openStack options t n) es) i a h hosts).1.sock i) ↔
      FailsClean (run udpStep (openStack options t n) es) h i a := by
  have hu := udp_calls_keep_shape options t n es
  have hc := udpConnect_connects hu.1 h i a
  rw [connectRequest] at hfail ⊢
  cases hr : udpConnect (run udpStep (openStack options t n) es) h i a with
  | mk u' reply =>
    rw [hr] at hc hfail
    cases reply with
    | done n =>
      rw [reconnect.eq_def] at hfail
      cases hfail
    | fail e' =>
      rw [reconnect.eq_def]
      exact hc.fail_iff (hu.2 i)
    | moved w =>
      obtain ⟨hm, hiff⟩ := hc.moved_iff
      rw [(reconnect_same (hc.inv hu) hm hosts hfail).cancel]
      exact hiff

def bindLocal : UdpEvent Ipv4 where
  sock := 0
  host := twoWorkers 0 (by decide)
  call := .bind (some { addr := { addr := 0x0A000001, port := 1024 } })

def peerArgs : AddrArgs Ipv4 := { addr := { addr := 0x0A000002, port := 80 } }

def unroutedHost : Host Ipv4 := { twoWorkers 1 (by decide) with tables := {}, usable := fun _ => false }

def afterBind : UdpStack Ipv4 := run udpStep (openStack (fun _ => {}) emptyBinds.table 1) [bindLocal]

def afterConnect : UdpStack Ipv4 × Reply := connectRequest afterBind 0 peerArgs (twoWorkers 0 (by decide)) [unroutedHost]

/-- Without a route the call fails clean; moved before it finds none, it does not. -/
theorem failed_connect_atomic_iff_unrouted :
    FailsClean afterBind unroutedHost 0 peerArgs ∧ ¬FailsClean afterBind (twoWorkers 0 (by decide)) 0 peerArgs := by
  refine ⟨(failed_connect_atomic_iff (fun _ => {}) emptyBinds.table 1 [bindLocal] 0 peerArgs unroutedHost []
    .ehostunreach (by decide)).mp ⟨by decide, by decide, by decide⟩, fun h => ?_⟩
  have hsame := (failed_connect_atomic_iff (fun _ => {}) emptyBinds.table 1 [bindLocal] 0 peerArgs
    (twoWorkers 0 (by decide)) [unroutedHost] .ehostunreach (by decide)).mpr h
  exact absurd hsame.peer (by decide)

/-- The bound socket was in the table, and is not after a connect that moved and then found no route. -/
theorem failed_connect_unregisters :
    isHash (afterBind.sock 0) = true ∧ peerOf (afterBind.sock 0) = ⟨0, 0, 0⟩ ∧ afterConnect.2 = .fail .ehostunreach ∧
      isHash (afterConnect.1.sock 0) = false ∧ peerOf (afterConnect.1.sock 0) = ⟨0x0A000002, 80, 0⟩ := by
  decide

end Netfast.Udp
