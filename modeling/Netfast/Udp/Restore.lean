import Netfast.Udp.User

/-! What `udp_sendto` leaves of the addresses of an unconnected socket. -/

namespace Netfast.Udp

open Tcp Socket Route If Rss

variable {A : Type} [Family A]

omit [Family A] in
@[simp] lemma sock_put (u : UdpStack A) (i : SockId) (s : Sock A UdpPcb) : (u.put i s).sock i = s := by
  simp [UdpStack.put, UdpStack.sock, Stack.set]

def addrs (s : Sock A UdpPcb) : (A × BitVec 32) × Peer A := ((s.sip, s.pcb.sipScope), peerOf s)

structure Sourced (s s' : Sock A UdpPcb) : Prop where
  bound : s'.pcb.sock.isBound = true
  sip : s'.sip ≠ InetAddr.any
  peer : peerOf s' = peerOf s
  unconnected : s'.pcb.sock.isConnected = s.pcb.sock.isConnected
  link : s'.tupleEntry = s.tupleEntry
  sport : s.pcb.sock.isBound = true → s'.sport = s.sport

lemma autoBindPorts_mem {t t' : BindTable} {key : Port → AddrKey} {here alloc : Port → Bool} {reuse : Bool}
    {k slot : AddrKey} {ps : List Port} (hs : autoBindPorts t key here reuse alloc ps = (t', some (k, slot))) :
    ∃ p ∈ ps, here p = true ∧ k = key p := by
  induction ps generalizing t with
  | nil => cases hs
  | cons p ps ih =>
    rw [autoBindPorts] at hs
    split at hs
    · exact (ih hs).imp fun q hq => ⟨List.mem_cons_of_mem _ hq.1, hq.2⟩
    next hhere =>
    split at hs
    · exact (ih hs).imp fun q hq => ⟨List.mem_cons_of_mem _ hq.1, hq.2⟩
    · obtain ⟨rfl, -⟩ := Prod.mk.inj (Option.some.inj (Prod.mk.inj hs).2)
      exact ⟨p, List.mem_cons_self, by simpa using hhere, rfl⟩

lemma find?_unique {α : Type} {p : α → Bool} {l : List α} {a : α} (ha : a ∈ l) (hp : p a = true)
    (hu : ∀ b, p b = true → b = a) : l.find? p = some a := by
  obtain ⟨b, hb⟩ := Option.isSome_iff_exists.mp (List.find?_isSome.mpr ⟨a, ha, hp⟩)
  rw [hb, hu b (List.find?_some hb)]

lemma mem_ephemeralPorts {first : ℕ} {p : Port} (hp : p ∈ ephemeralPorts first) :
    p.toNat ∈ (List.range ephemeralPortCount).map fun i => ephemeralPortFirst + (first + i) % ephemeralPortCount := by
  obtain ⟨i, hi, rfl⟩ := List.mem_map.mp hp
  refine List.mem_map.mpr ⟨i, List.mem_range.mpr (List.mem_range.mp hi), ?_⟩
  rw [BitVec.toNat_ofNat, ephemeralPortCount, ephemeralPortFirst]
  omega

section AutoBind

variable {t t' : BindTable} {h : Host A} {s s' : Sock A UdpPcb} {d : Peer A}

lemma autoBindPeer_some (hs : autoBindPeer t h s d = (t', some s')) : ∃ r addr p slot scope,
    setSocketRoute h s.pcb.route d = some r ∧ h.saddr r d.addr = some addr ∧ p ∈ ephemeralPorts h.first ∧
      h.worker addr p d = h.cur ∧ s' = { setBindReservation s addr (addrKey addr p d.scope) slot with
        pcb := { (setBindReservation s addr (addrKey addr p d.scope) slot).pcb with
          route := some r, sipScope := scope, sipChosen := true } } := by
  rw [autoBindPeer] at hs
  split at hs
  · cases hs
  split at hs
  · cases hs
  next r hr =>
  split at hs
  · cases hs
  next addr haddr =>
  split at hs
  · cases hs
  next hports =>
  obtain ⟨p, hp, hhere, rfl⟩ := autoBindPorts_mem hports
  exact ⟨r, addr, p, _, _, hr, haddr, hp, of_decide_eq_true hhere, (Option.some.inj (Prod.mk.inj hs).2).symm⟩

lemma autoBindPeer_sourced (hunbound : s.pcb.sock.isBound = false) (hs : autoBindPeer t h s d = (t', some s')) :
    Sourced s s' := by
  obtain ⟨r, addr, p, slot, scope, -, haddr, -, -, rfl⟩ := autoBindPeer_some hs
  exact ⟨rfl, bestSaddr_ne_any haddr, rfl, rfl, rfl, fun hb => absurd (hunbound.symm.trans hb) (by decide)⟩

/-- The port that a socket takes for a peer is one the worker selection gives to its own worker. -/
lemma autoBindPeer_chosen (hs : autoBindPeer t h s d = (t', some s')) : Chosen h.rssKey h.workers
    ⟨Family.bytes d.addr, portBytes d.port.toNat⟩ ⟨Family.bytes s'.sip, portBytes s'.sport.toNat⟩ h.cur := by
  obtain ⟨r, addr, p, slot, scope, -, -, hp, hw, rfl⟩ := autoBindPeer_some hs
  have hpos : h.workers ≠ 0 := Nat.ne_of_gt (Nat.zero_lt_of_lt h.curLt)
  have hsel : selectWorkerByTuple h.rssKey h.workers ⟨Family.bytes addr, portBytes p.toNat⟩
      ⟨Family.bytes d.addr, portBytes d.port.toNat⟩ = some h.cur := by
    rw [Host.worker, selectWorkerByTuple, if_neg hpos, Option.getD_some] at hw
    rw [selectWorkerByTuple, if_neg hpos, hw]
  -- the reservations that failed are the ports before this one
  have hauto : Rss.socketAutoBind h.rssKey h.workers h.cur (Family.bytes addr) ⟨Family.bytes d.addr, portBytes d.port.toNat⟩
      (· = p.toNat) h.first = some p.toNat := by
    refine find?_unique (mem_ephemeralPorts hp) ?_ fun q hq => ?_
    · simp [hsel]
    · exact of_decide_eq_true (Bool.and_eq_true_iff.mp hq).2
  exact .autoBind hauto

end AutoBind

variable [DecidableEq A]

lemma sendSource_sourced {t t' : BindTable} {h : Host A} {s s' : Sock A UdpPcb} {r : RouteInfo}
    (hs : sendSource t h s r = (t', .ok s')) : Sourced s s' := by
  rw [sendSource] at hs
  split at hs
  · next hb =>
    split at hs
    · cases hs
    · next hauto =>
      obtain rfl := Except.ok.inj (Prod.mk.inj hs).2
      exact autoBindPeer_sourced (by simpa using hb) hauto
  next hbound =>
  replace hbound : s.pcb.sock.isBound = true := by simpa using hbound
  split at hs
  · split at hs
    · cases hs
    next haddr =>
    split at hs
    · cases hs
    · obtain rfl := Except.ok.inj (Prod.mk.inj hs).2
      exact ⟨hbound, bestSaddr_ne_any haddr, rfl, rfl, rfl, fun _ => rfl⟩
  · next hsip =>
    obtain rfl := Except.ok.inj (Prod.mk.inj hs).2
    exact ⟨hbound, hsip, rfl, rfl, rfl, fun _ => rfl⟩

omit [Family A] [DecidableEq A] in
lemma addrs_sendExit (s s' : Sock A UdpPcb) :
    addrs (sendExit s s') = addrs s ↔
      s.pcb.sock.isBound = true ∨ (s'.sip = s.sip ∧ s'.pcb.sipScope = s.pcb.sipScope) := by
  by_cases hb : s.pcb.sock.isBound = true
  · simp [addrs, sendExit, peerOf, hb]
  · simp [addrs, sendExit, peerOf, hb]

lemma sendTarget_ok {s s₁ : Sock A UdpPcb} {a : SendArgs A} (hs : s.pcb.sock.isConnected = false)
    (h : sendTarget s a = .ok s₁) : ∃ d, a.dest = some d ∧ s₁ = pointAt s d := by
  rw [sendTarget] at h
  split at h
  · cases h
  split at h
  · cases h
  split at h
  · cases h
  rw [hs, if_neg (by decide)] at h
  split at h
  · cases h
  · next d hd => exact ⟨d, hd, (Except.ok.inj h).symm⟩

/-- The calls that give an unconnected socket its addresses back: those that end before a local address is chosen, and
those of a bound socket that stay on their worker or have nothing to give back. -/
def Restores (t : BindTable) (h : Host A) (s : Sock A UdpPcb) (a : SendArgs A) : Prop :=
  ∀ s₁ r, sendTarget s a = .ok s₁ → s₁.pcb.sock.error = none →
    setSocketRoute h s₁.pcb.route (peerOf s₁) = some r →
    if s.pcb.sock.isBound then
      if s.sip = InetAddr.any then
        ∀ addr, h.saddr r s₁.dip = some addr → bindExist t (addrKey addr s.sport s.pcb.sipScope) = true ∨
          h.worker addr s.sport (peerOf s₁) = h.cur
      else h.worker s.sip s.sport (peerOf s₁) = h.cur ∨ peerOf s₁ = peerOf s
    else (autoBindPeer t h (withRoute s₁ (some r)) (peerOf s₁)).2 = none

def Stage.sock (s₀ : Sock A UdpPcb) : Stage A → Sock A UdpPcb
  | .early _ => s₀
  | .exit s _ => sendExit s₀ s
  | .move s _ => s
  | .send s _ => sendExit s₀ s

lemma udpSendto_sock (u : UdpStack A) (h : Host A) (i : SockId) (a : SendArgs A) :
    (udpSendto u h i a).1.sock i = (sendStage u.binds h (u.sock i) a).2.sock (u.sock i) := by
  rw [udpSendto]
  split
  · next he => rw [he]; rfl
  · next he => rw [he, sock_put]; rfl
  · next he => rw [he, sock_put]; rfl
  · next he => rw [he, sock_put]; rfl

def OnRoute (h : Host A) (s : Sock A UdpPcb) (a : SendArgs A) (P : Sock A UdpPcb → RouteInfo → Prop) : Prop :=
  ∀ s₁ r, sendTarget s a = .ok s₁ → s₁.pcb.sock.error = none → setSocketRoute h s₁.pcb.route (peerOf s₁) = some r → P s₁ r

section Stage

variable {t : BindTable} {h : Host A} {s s₁ : Sock A UdpPcb} {a : SendArgs A} {r : RouteInfo}

omit [DecidableEq A] in
lemma tupleStage_bound (hb : s.pcb.sock.isBound = true) (x : Except Errno (Sock A UdpPcb)) :
    addrs ((tupleStage h s₁ r x).sock s) = addrs s ↔
      ∀ s', x = .ok s' → h.worker s'.sip s'.sport (peerOf s') = h.cur ∨ addrs s' = addrs s := by
  cases x with
  | error e =>
    refine ⟨fun _ s' hx => (by cases hx), fun _ => ?_⟩
    exact (addrs_sendExit s s₁).mpr (.inl hb)
  | ok s' =>
    have hall : (∀ s'' : Sock A UdpPcb, (.ok s' : Except Errno _) = .ok s'' →
        h.worker s''.sip s''.sport (peerOf s'') = h.cur ∨ addrs s'' = addrs s) ↔
          (h.worker s'.sip s'.sport (peerOf s') = h.cur ∨ addrs s' = addrs s) := by
      constructor
      · intro hx
        exact hx s' rfl
      · intro hx s'' heq
        obtain rfl := Except.ok.inj heq
        exact hx
    rw [hall, tupleStage]
    by_cases hw : h.worker s'.sip s'.sport (peerOf s') = h.cur
    · simp only [hw, ne_eq, not_true, if_false, true_or, iff_true]
      exact (addrs_sendExit s s').mpr (.inl hb)
    · simp only [ne_eq, hw, not_false_eq_true, if_true, false_or]
      exact Iff.rfl

omit [DecidableEq A] in
lemma tupleStage_unbound (hb : s.pcb.sock.isBound = false) (hsip : s.sip = InetAddr.any)
    (h₁ : s₁.sip = s.sip ∧ s₁.pcb.sipScope = s.pcb.sipScope) {x : Except Errno (Sock A UdpPcb)}
    (hx : ∀ s', x = .ok s' → s'.sip ≠ InetAddr.any) :
    addrs ((tupleStage h s₁ r x).sock s) = addrs s ↔ ∀ s', x ≠ .ok s' := by
  cases x with
  | error e =>
    refine ⟨fun _ s' hx => (by cases hx), fun _ => ?_⟩
    exact (addrs_sendExit s s₁).mpr (.inr h₁)
  | ok s' =>
    refine ⟨fun heq => ?_, fun hall => absurd rfl (hall s')⟩
    have hne : s'.sip ≠ s.sip := hsip ▸ hx s' rfl
    exfalso
    rw [tupleStage] at heq
    split at heq
    · exact hne (congrArg (·.1.1) heq)
    · rcases (addrs_sendExit s s').mp heq with hb' | ⟨hs, -⟩
      · rw [hb] at hb'
        cases hb'
      · exact hne hs

lemma sendSource_unbound (hb : s.pcb.sock.isBound = false) (t : BindTable) :
    (∀ s', (sendSource t h s r).2 ≠ .ok s') ↔ (autoBindPeer t h s (peerOf s)).2 = none := by
  rw [sendSource, if_pos (by rw [hb]; rfl)]
  cases hauto : autoBindPeer t h s (peerOf s) with
  | mk t' x =>
    cases x with
    | none => simp
    | some s' => simp

lemma sendSource_wildcard (hb : s.pcb.sock.isBound = true) (hsip : s.sip = InetAddr.any) (t : BindTable) (s' : Sock A UdpPcb) :
    (sendSource t h s r).2 = .ok s' ↔
      ∃ addr, h.saddr r s.dip = some addr ∧ bindExist t (addrKey addr s.sport s.pcb.sipScope) = false ∧
        s' = { s with sip := addr, pcb := { s.pcb with sipChosen := true } } := by
  rw [sendSource, if_neg (by rw [hb]; decide), if_pos hsip]
  cases hs : h.saddr r s.dip with
  | none => simp
  | some addr =>
    cases he : bindExist t (addrKey addr s.sport s.pcb.sipScope) with
    | true =>
      refine ⟨fun hx => ?_, ?_⟩
      · simp [he] at hx
      · rintro ⟨addr', ha, he', -⟩
        rw [← Option.some.inj ha, he] at he'
        cases he'
    | false =>
      simp only [he, Bool.false_eq_true, if_false]
      constructor
      · intro hx
        obtain rfl := Except.ok.inj hx
        exact ⟨addr, rfl, he, rfl⟩
      · rintro ⟨addr', ha, -, rfl⟩
        obtain rfl := Option.some.inj ha
        rfl

lemma sendSource_specific (hb : s.pcb.sock.isBound = true) (hsip : s.sip ≠ InetAddr.any) (t : BindTable) :
    (sendSource t h s r).2 = .ok s := by
  rw [sendSource, if_neg (by rw [hb]; decide), if_neg hsip]

lemma sendTarget_pointAt (hT : sendTarget s a = .ok s₁) : ∃ d, s₁ = pointAt s d := by
  by_cases hconn : s.pcb.sock.isConnected = true
  · refine ⟨peerOf s, ?_⟩
    rw [sendTarget] at hT
    simp only [hconn, if_true] at hT
    have hs : s = s₁ := by
      split at hT
      · cases hT
      split at hT
      · cases hT
      split at hT
      · cases hT
      split at hT
      · cases hT
      · exact Except.ok.inj hT
    simp only [pointAt, peerOf, ite_self, ← hs]
  · obtain ⟨d, -, hd⟩ := sendTarget_ok (by simpa using hconn) hT
    exact ⟨d, hd⟩

/-- A send stops with the addresses it had, or it goes to the one peer and over the one route that it found. -/
lemma sendStage_cases (t : BindTable) (h : Host A) (s : Sock A UdpPcb) (a : SendArgs A) :
    ((∀ P, OnRoute h s a P) ∧ addrs ((sendStage t h s a).2.sock s) = addrs s ∧
        ((sendStage t h s a).2.sock s).pcb.sock.isBound = s.pcb.sock.isBound ∧
        ((sendStage t h s a).2.sock s).sport = s.sport ∧ ((sendStage t h s a).2.sock s).tupleEntry = s.tupleEntry) ∨
      ∃ d r, sendTarget s a = .ok (pointAt s d) ∧ (sendStage t h s a).2 = tupleStage h (withRoute (pointAt s d) (some r)) r
        (sendSource t h (withRoute (pointAt s d) (some r)) r).2 ∧ ∀ P, OnRoute h s a P ↔ P (pointAt s d) r := by
  cases hT : sendTarget s a with
  | error e =>
    rw [sendStage, hT]
    exact .inl ⟨fun P s₁ r hT' => (by rw [hT] at hT'; cases hT'), rfl, rfl, rfl, rfl⟩
  | ok s₁ =>
  obtain ⟨d, rfl⟩ := sendTarget_pointAt hT
  have hone {s₁} (hT' : sendTarget s a = .ok s₁) : pointAt s d = s₁ := Except.ok.inj (hT.symm.trans hT')
  rw [sendStage, hT]
  cases he : (pointAt s d).pcb.sock.error with
  | some e =>
    simp only [he]
    refine .inl ⟨fun P s₁ r hT' he' => ?_, (addrs_sendExit s _).mpr (.inr ⟨rfl, rfl⟩), rfl, rfl, rfl⟩
    rw [← hone hT', he] at he'
    cases he'
  | none =>
  cases hr : setSocketRoute h (pointAt s d).pcb.route (peerOf (pointAt s d)) with
  | none =>
    simp only [he, hr]
    refine .inl ⟨fun P s₁ r hT' _ hr' => ?_, (addrs_sendExit s _).mpr (.inr ⟨rfl, rfl⟩), rfl, rfl, rfl⟩
    rw [← hone hT', hr] at hr'
    cases hr'
  | some r =>
    simp only [he, hr]
    refine .inr ⟨d, r, rfl, rfl, fun P => ⟨fun hP => hP _ r hT he hr, fun hP s₁ r' hT' _ hr' => ?_⟩⟩
    obtain rfl := hone hT'
    rwa [← Option.some.inj (hr.symm.trans hr')]

lemma sendStage_restores (hfresh : s.pcb.sock.isBound = false → s.sip = InetAddr.any) (t : BindTable) :
    addrs ((sendStage t h s a).2.sock s) = addrs s ↔ Restores t h s a := by
  rcases sendStage_cases t h s a with ⟨hno, haddrs, -⟩ | ⟨d, r, hT, hstage, hP⟩
  · exact iff_of_true haddrs (hno _)
  have hcond : Restores t h s a ↔
      if s.pcb.sock.isBound then
        if s.sip = InetAddr.any then
          ∀ addr, h.saddr r d.addr = some addr → bindExist t (addrKey addr s.sport s.pcb.sipScope) = true ∨
            h.worker addr s.sport (peerOf (pointAt s d)) = h.cur
        else h.worker s.sip s.sport (peerOf (pointAt s d)) = h.cur ∨ peerOf (pointAt s d) = peerOf s
      else (autoBindPeer t h (withRoute (pointAt s d) (some r)) (peerOf (pointAt s d))).2 = none := hP _
  rw [hstage, hcond]
  have hpeer : peerOf (withRoute (pointAt s d) (some r)) = peerOf (pointAt s d) := rfl
  cases hb : s.pcb.sock.isBound with
  | false =>
    have hlocal : (withRoute (pointAt s d) (some r)).sip = s.sip ∧
        (withRoute (pointAt s d) (some r)).pcb.sipScope = s.pcb.sipScope := ⟨rfl, rfl⟩
    have hsourced : ∀ s', (sendSource t h (withRoute (pointAt s d) (some r)) r).2 = .ok s' → s'.sip ≠ InetAddr.any :=
      fun s' hs' => (sendSource_sourced (Prod.ext rfl hs')).sip
    rw [if_neg (by decide), tupleStage_unbound hb (hfresh hb) hlocal hsourced]
    exact sendSource_unbound (s := withRoute (pointAt s d) (some r)) hb t
  | true =>
    rw [if_pos rfl, tupleStage_bound hb]
    by_cases hsip : s.sip = InetAddr.any
    · rw [if_pos hsip]
      have hsource := sendSource_wildcard (h := h) (s := withRoute (pointAt s d) (some r)) (r := r) hb hsip t
      constructor
      · intro hall addr haddr
        refine or_iff_not_imp_left.mpr fun hno => ?_
        rcases hall _ ((hsource _).mpr ⟨addr, haddr, (Bool.not_eq_true _).mp hno, rfl⟩) with hw | hsame
        · exact hw
        · have heq : addr = s.sip := congrArg (fun x => x.1.1) hsame
          exact absurd (heq.trans hsip) (bestSaddr_ne_any haddr)
      · intro hall s' hs'
        obtain ⟨addr, haddr, hno, rfl⟩ := (hsource s').mp hs'
        rcases hall addr haddr with hyes | hw
        · exact absurd (hyes.symm.trans hno) (by decide)
        · exact .inl hw
    · rw [if_neg hsip, sendSource_specific (s := withRoute (pointAt s d) (some r)) hb hsip]
      have hlocal : addrs (withRoute (pointAt s d) (some r)) = addrs s ↔ peerOf (pointAt s d) = peerOf s := by
        rw [addrs, addrs, Prod.mk.injEq, hpeer]
        exact and_iff_right rfl
      constructor
      · intro hall
        rcases hall _ rfl with hw | hsame
        · exact .inl hw
        · exact .inr (hlocal.mp hsame)
      · intro hor s' hs'
        obtain rfl := Except.ok.inj hs'
        rcases hor with hw | hp
        · exact .inl hw
        · exact .inr (hlocal.mpr hp)

end Stage

structure Settled (s : Sock A UdpPcb) (a : SendArgs A) : Prop where
  bound : s.pcb.sock.isBound = true
  sip : s.sip ≠ InetAddr.any
  unconnected : s.pcb.sock.isConnected = false
  peer : ∀ d, a.dest = some d → peerOf (pointAt s d) = peerOf s

omit [DecidableEq A] in
lemma peerOf_pointAt {s s' : Sock A UdpPcb} {d : Peer A} (h : peerOf s' = peerOf (pointAt s d)) :
    peerOf (pointAt s' d) = peerOf s' := by
  rw [h]
  simp only [peerOf, pointAt, Peer.mk.injEq, true_and] at h ⊢
  split
  · rfl
  · next hv =>
    rw [h.2.2, if_neg hv]

section Request

variable {t : BindTable} {h : Host A} {s s' : Sock A UdpPcb} {a : SendArgs A} {w : Worker}

lemma sendStage_move (hconn : s.pcb.sock.isConnected = false) (hm : (sendStage t h s a).2 = .move s' w) :
    Settled s' a := by
  rw [sendStage] at hm
  split at hm
  · cases hm
  next s₁ hT =>
  obtain ⟨d, hd, rfl⟩ := sendTarget_ok hconn hT
  split at hm
  · cases hm
  split at hm
  · cases hm
  next r hr =>
  cases hsource : (sendSource t h (withRoute (pointAt s d) (some r)) r).2 with
  | error e =>
    simp only [hsource] at hm
    cases hm
  | ok s₃ =>
    have hs₃ := sendSource_sourced (Prod.ext rfl hsource)
    simp only [hsource, tupleStage] at hm
    split at hm
    · obtain rfl := (Stage.move.inj hm).1
      refine ⟨hs₃.bound, hs₃.sip, hs₃.unconnected.trans hconn, fun d' hd' => ?_⟩
      obtain rfl := Option.some.inj (hd.symm.trans hd')
      exact peerOf_pointAt (s := s) hs₃.peer
    · cases hm

lemma Settled.restores (hs : Settled s a) (t : BindTable) (h : Host A) : Restores t h s a := by
  intro s₁ r hT _ _
  obtain ⟨d, hd, rfl⟩ := sendTarget_ok hs.unconnected hT
  rw [if_pos hs.bound, if_neg hs.sip]
  exact .inr (hs.peer d hd)

lemma Settled.addrs_eq (hs : Settled s a) (t : BindTable) (h : Host A) :
    addrs ((sendStage t h s a).2.sock s) = addrs s :=
  (sendStage_restores (fun hb => absurd (hs.bound.symm.trans hb) (by decide)) t).mpr (hs.restores t h)

end Request

def resend (i : SockId) (a : SendArgs A) : UdpStack A × Reply → List (Host A) → UdpStack A × Reply
  | (u, .moved _), h :: hs => resend i a (udpSendto u h i a) hs
  | r, _ => r

def sendRequest (u : UdpStack A) (i : SockId) (a : SendArgs A) (h : Host A) (hs : List (Host A)) : UdpStack A × Reply :=
  resend i a (udpSendto u h i a) hs

section Request

variable {u : UdpStack A} {h : Host A} {i : SockId} {a : SendArgs A} {w : Worker}

lemma outputReply_ne (n : ℕ) (e : Option Errno) (w : Worker) : outputReply n e ≠ .moved w := by
  rw [outputReply.eq_def]
  split
  all_goals simp

omit [DecidableEq A] in
lemma sendDatagram_reply (h : Host A) (s : Sock A UdpPcb) (r : RouteInfo) (buf : List UInt8) (w : Worker) :
    (sendDatagram h s r buf).2 ≠ .moved w := by
  rw [sendDatagram]
  split
  · simp
  split
  · simp
  split
  · simp
  · exact outputReply_ne _ _ w

lemma udpSendto_moved (hm : (udpSendto u h i a).2 = .moved w) :
    ∃ s', (sendStage u.binds h (u.sock i) a).2 = .move s' w ∧ (udpSendto u h i a).1.sock i = s' := by
  rw [udpSendto_sock]
  rw [udpSendto] at hm
  split at hm
  · cases hm
  · cases hm
  · next he =>
    obtain rfl := Reply.moved.inj hm
    rw [he]
    exact ⟨_, rfl, rfl⟩
  · exact absurd hm (sendDatagram_reply _ _ _ _ w)

lemma resend_done (u : UdpStack A) (n : ℕ) (hosts : List (Host A)) : resend i a (u, .done n) hosts = (u, .done n) := by
  rw [resend.eq_def]

lemma resend_fail (u : UdpStack A) (e : Errno) (hosts : List (Host A)) : resend i a (u, .fail e) hosts = (u, .fail e) := by
  rw [resend.eq_def]

lemma resend_addrs (hs : Settled (u.sock i) a) (hosts : List (Host A)) :
    addrs ((resend i a (u, .moved w) hosts).1.sock i) = addrs (u.sock i) := by
  induction hosts generalizing u w with
  | nil => rfl
  | cons h hosts ih =>
    have hone : addrs ((udpSendto u h i a).1.sock i) = addrs (u.sock i) := by
      rw [udpSendto_sock]
      exact hs.addrs_eq u.binds h
    rw [resend]
    cases hr : udpSendto u h i a with
    | mk u' reply =>
      rw [hr] at hone
      cases reply with
      | done n => rwa [resend_done]
      | fail e => rwa [resend_fail]
      | moved w' =>
        obtain ⟨s', hstage, hsock⟩ := udpSendto_moved (w := w') (congrArg Prod.snd hr)
        have hsettled := sendStage_move hs.unconnected hstage
        rw [← hsock, hr] at hsettled
        exact (ih hsettled).trans hone

lemma sendRequest_addrs (hconn : (u.sock i).pcb.sock.isConnected = false) (hosts : List (Host A)) :
    addrs ((sendRequest u i a h hosts).1.sock i) = addrs ((udpSendto u h i a).1.sock i) := by
  rw [sendRequest]
  cases hr : udpSendto u h i a with
  | mk u' reply =>
    cases reply with
    | done n => rw [resend_done]
    | fail e => rw [resend_fail]
    | moved w =>
      obtain ⟨s', hstage, hsock⟩ := udpSendto_moved (w := w) (congrArg Prod.snd hr)
      have hsettled := sendStage_move hconn hstage
      rw [← hsock, hr] at hsettled
      exact resend_addrs hsettled hosts

end Request

/-- A request gives an unconnected socket its addresses back, however often it moves, exactly when its first execution
ends before a local address is chosen, or starts bound and stays on its worker or has nothing to give back. -/
theorem sendto_restores_iff (u : UdpStack A) (i : SockId) (a : SendArgs A) (h : Host A) (hosts : List (Host A))
    (hconn : (u.sock i).pcb.sock.isConnected = false)
    (hfresh : (u.sock i).pcb.sock.isBound = false → (u.sock i).sip = InetAddr.any) :
    addrs ((sendRequest u i a h hosts).1.sock i) = addrs (u.sock i) ↔ Restores u.binds h (u.sock i) a := by
  rw [sendRequest_addrs hconn, udpSendto_sock]
  exact sendStage_restores hfresh u.binds

def twoWorkers (cur : Worker) (h : cur < 2) : Host Ipv4 where
  tables := (routeAddEntry {} defaultRoute 1 true true).1
  usable _ := true
  ifs _ := { addrs := [{ addr := 0x0A000001, prefixLen := 24 }], mtu := 1500, l2Len := 14, specified := by decide }
  isLocal a _ := a = 0x0A000001
  rssKey := Rss.defaultKey
  workers := 2
  cur := cur
  curLt := h
  first := 0
  slotAlloc _ := true
  entryAlloc := true
  entryAgain := true
  fates := []
  check := 0
  output := none

def boundUdp : Sock Ipv4 UdpPcb where
  sip := 0x0A000001
  sport := 1024
  dip := 0
  dport := 0
  pcb := { sock := { isBound := true }, reservation := some { addr := .v4 0x0A000001, port := 1024 } }

def boundStack : UdpStack Ipv4 where
  st := { socks := fun _ => boundUdp, tuples := ∅, fresh := 1 }
  binds := emptyBinds.table

def toServer : SendArgs Ipv4 := { buf := [1, 2, 3], dest := some { addr := 0x0A000002, port := 80 } }

theorem sendto_restores_iff_bound :
    Restores boundStack.binds (twoWorkers 1 (by decide)) (boundStack.sock 0) toServer ∧
      ¬Restores boundStack.binds (twoWorkers 0 (by decide)) (boundStack.sock 0) toServer := by
  refine ⟨(sendto_restores_iff boundStack 0 toServer (twoWorkers 1 (by decide)) [] (by decide) (by decide)).mp (by decide),
    fun h => ?_⟩
  have hsame := (sendto_restores_iff boundStack 0 toServer (twoWorkers 0 (by decide)) [] (by decide) (by decide)).mpr h
  exact absurd hsame (by decide)

/-- The tuple belongs to the other worker, and the socket is left with the destination as its peer. -/
theorem sendto_moved_keeps_destination :
    (sendRequest boundStack 0 toServer (twoWorkers 0 (by decide)) [twoWorkers 1 (by decide)]).2 = .done 3 ∧
      peerOf (boundStack.sock 0) = ⟨0, 0, 0⟩ ∧
      peerOf ((sendRequest boundStack 0 toServer (twoWorkers 0 (by decide)) [twoWorkers 1 (by decide)]).1.sock 0) =
        ⟨0x0A000002, 80, 0⟩ := by
  decide

end Netfast.Udp
