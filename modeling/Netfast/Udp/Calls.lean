import Netfast.Udp.Restore

/-! What each call on a UDP socket does to the socket and to the tuple table. -/

namespace Netfast.Udp

open Tcp Socket Route If

variable {A : Type} [Family A] [DecidableEq A]

structure Becomes (u u' : UdpStack A) (i : SockId) (s : Sock A UdpPcb) : Prop where
  table : TableInv u'.st
  self : u'.sock i = s
  others : ∀ j, j ≠ i → u'.sock j = u.sock j

variable {alloc : Bool}

section Becomes

variable {u u₁ u₂ : UdpStack A} {i : SockId} {s s₁ s₂ : Sock A UdpPcb}

lemma Becomes.trans (h₁ : Becomes u u₁ i s₁) (h₂ : Becomes u₁ u₂ i s₂) : Becomes u u₂ i s₂ where
  table := h₂.table
  self := h₂.self
  others j hj := (h₂.others j hj).trans (h₁.others j hj)

lemma Becomes.refl (ht : TableInv u.st) (t : BindTable) : Becomes u { u with binds := t } i (u.sock i) :=
  ⟨ht, rfl, fun _ _ => rfl⟩

lemma becomes_put (ht : TableInv u.st) (hl : s.tupleEntry = (u.sock i).tupleEntry) (t : BindTable) (wire : List (Sent A)) :
    Becomes u ({ u with binds := t, wire := wire }.put i s) i s where
  table := by
    have hs : s.linkTo (u.st.installed i) = s := by rw [Stack.installed, ← UdpStack.sock, ← hl, Sock.linkTo]
    have h := tableStep_inv u.st (.change i s) ht
    rwa [tableStep, hs] at h
  self := sock_put _ i s
  others j hj := by
    simp only [UdpStack.put, UdpStack.sock, Stack.set, Function.update_of_ne hj]

lemma becomes_update (h : Becomes u u₁ i s₁) {f : Sock A UdpPcb → Sock A UdpPcb} (hl : (f s₁).tupleEntry = s₁.tupleEntry) :
    Becomes u (u₁.update i f) i (f s₁) := by
  have hput := becomes_put (i := i) (s := f s₁) h.table (by rw [hl, h.self]) u₁.binds u₁.wire
  rw [UdpStack.update, h.self]
  exact h.trans hput

lemma becomes_linked {st' : Stack A UdpPcb} {k : Option (TupleKey A)} (ht : TableInv st') (hs : st'.socks = (u.st.link i k).socks) :
    Becomes u { u with st := st' } i ((u.sock i).linkTo k) where
  table := ht
  self := by
    rw [UdpStack.sock, hs]
    simp only [Stack.link, Stack.set, Function.update_self, UdpStack.sock]
  others j hj := by
    rw [UdpStack.sock, hs]
    simp only [Stack.link, Stack.set, Function.update_of_ne hj, UdpStack.sock]

lemma install_admitted (ht : TableInv u.st) (h : Admits u.st i alloc) :
    ∃ u', u.install i alloc = (u', true) ∧ Becomes u u' i ((u.sock i).linkTo (some (tupleKeyFromSocket (u.sock i)))) := by
  obtain ⟨hok, -, hmap⟩ := (installTuple_admits ht.1 i alloc).1 h
  have hsocks := installTuple_socks ht.1 i alloc
  rw [hmap, Function.update_self] at hsocks
  refine ⟨_, Prod.ext rfl hok, becomes_linked (tableStep_inv u.st (.install i alloc) ht) hsocks⟩

lemma install_refused (ht : TableInv u.st) (h : ¬ Admits u.st i alloc) :
    ∃ u', u.install i alloc = (u', false) ∧ Becomes u u' i ((u.sock i).linkTo none) := by
  obtain ⟨hno, -, hmap⟩ := (installTuple_admits ht.1 i alloc).2 h
  have hsocks := installTuple_socks ht.1 i alloc
  rw [hmap, Function.update_self] at hsocks
  exact ⟨_, Prod.ext rfl hno, becomes_linked (tableStep_inv u.st (.install i alloc) ht) hsocks⟩

lemma uninstall_becomes (ht : TableInv u.st) :
    ∃ u', u.uninstall i = (u', true) ∧ Becomes u u' i ((u.sock i).linkTo none) := by
  obtain ⟨st', hst, -, hs, -, -⟩ := uninstallTuple_tied ht.1 i
  have htable := tableStep_inv u.st (.uninstall i) ht
  rw [tableStep, hst] at htable
  refine ⟨{ u with st := st' }, ?_, becomes_linked htable hs⟩
  rw [UdpStack.uninstall, hst]

omit [DecidableEq A] in
lemma admits_congr {st st' : Stack A UdpPcb} (hkey : tupleKeyFromSocket (st'.socks i) = tupleKeyFromSocket (st.socks i))
    (hreuse : (st'.socks i).reuseport = (st.socks i).reuseport) (hothers : ∀ j, j ≠ i → st'.socks j = st.socks j) :
    Admits st' i alloc ↔ Admits st i alloc := by
  have hdip : (st'.socks i).dip = (st.socks i).dip := congrArg TupleKey.daddr hkey
  have hmem : ∀ j, (j ≠ i ∧ st'.installed j = some (tupleKeyFromSocket (st'.socks i))) ↔
      (j ≠ i ∧ st.installed j = some (tupleKeyFromSocket (st.socks i))) := by
    intro j
    refine and_congr_right fun hj => ?_
    rw [Stack.installed, Stack.installed, hothers j hj, hkey]
  have hport : ∀ j, j ≠ i → (st'.socks j).reuseport = (st.socks j).reuseport := fun j hj => by rw [hothers j hj]
  simp only [Admits, hmem, hdip, hreuse]
  refine and_congr (imp_congr_right fun _ => and_congr_right fun _ => and_congr_right fun _ => ?_) Iff.rfl
  refine forall_congr' fun j => imp_congr_right fun hj => ?_
  rw [hport j hj.1]

end Becomes

/-! `udp_connect`. -/

structure BindsTo (u : UdpStack A) (h : Host A) (i : SockId) (a : AddrArgs A) (t : BindTable) (s' : Sock A UdpPcb) : Prop where
  lenOk : a.lenOk = true
  familyOk : a.familyOk = true
  bound : ∃ r, setSocketRoute h (u.sock i).pcb.route a.addr = some r ∧
    connectBound u.binds h (withRoute (u.sock i) (some r)) a.addr = (t, some s')

structure Local (s s' : Sock A UdpPcb) : Prop where
  bound : s'.pcb.sock.isBound = true
  peer : peerOf s' = peerOf s
  connected : s'.pcb.sock.isConnected = s.pcb.sock.isConnected
  link : s'.tupleEntry = s.tupleEntry
  key : s.pcb.sock.isBound = true → tupleKeyFromSocket s' = tupleKeyFromSocket s

section Connect

variable {u u₁ : UdpStack A} {h : Host A} {i : SockId} {a : AddrArgs A} {t t' : BindTable} {s s' : Sock A UdpPcb}

omit [DecidableEq A] in
lemma connectBound_local {d : Peer A} {r : Option RouteInfo} (hs : connectBound t h (withRoute s r) d = (t', some s')) : Local s s' := by
  rw [connectBound] at hs
  split at hs
  · next hb =>
    obtain rfl := Option.some.inj (Prod.mk.inj hs).2
    exact ⟨hb, rfl, rfl, rfl, fun _ => rfl⟩
  · next hb =>
    replace hb : (withRoute s r).pcb.sock.isBound = false := by simpa using hb
    have hsrc := autoBindPeer_sourced hb hs
    exact ⟨hsrc.bound, hsrc.peer, hsrc.unconnected, hsrc.link, fun hb' => absurd (hb.symm.trans hb') (by decide)⟩

omit [DecidableEq A] in
lemma BindsTo.local (hb : BindsTo u h i a t s') : Local (u.sock i) s' := by
  obtain ⟨r, -, hs⟩ := hb.bound
  exact connectBound_local hs

omit [DecidableEq A] in
lemma BindsTo.unique (hb : BindsTo u h i a t s) (hb' : BindsTo u h i a t' s') : s' = s := by
  obtain ⟨r, hr, hs⟩ := hb.bound
  obtain ⟨r', hr', hs'⟩ := hb'.bound
  obtain rfl := Option.some.inj (hr.symm.trans hr')
  exact Option.some.inj (Prod.mk.inj (hs'.symm.trans hs)).2

def tupleWorker (h : Host A) (s' : Sock A UdpPcb) (d : Peer A) : Worker := h.worker s'.sip s'.sport (peerOf (pointAt s' d))

inductive Connects (u : UdpStack A) (h : Host A) (i : SockId) (a : AddrArgs A) (u' : UdpStack A) : Reply → Prop
  | refused {e : Errno} {r : Option RouteInfo} (hno : ∀ t s', ¬ BindsTo u h i a t s')
      (hu : Becomes u u' i (withRoute (u.sock i) r)) : Connects u h i a u' (.fail e)
  | moved {t : BindTable} {s' : Sock A UdpPcb} (hb : BindsTo u h i a t s') (hw : tupleWorker h s' a.addr ≠ h.cur)
      (hu : Becomes u u' i { (pointAt s' a.addr).linkTo none with owner := tupleWorker h s' a.addr }) :
      Connects u h i a u' (.moved (tupleWorker h s' a.addr))
  | done {t : BindTable} {s' : Sock A UdpPcb} (hb : BindsTo u h i a t s') (hw : tupleWorker h s' a.addr = h.cur)
      (hadm : Admits (u.st.set i (pointAt s' a.addr)) i h.entryAlloc)
      (hu : Becomes u u' i (setConnected ((pointAt s' a.addr).linkTo (some (tupleKeyFromSocket (pointAt s' a.addr)))))) :
      Connects u h i a u' (.done 0)
  | clash {t : BindTable} {s' : Sock A UdpPcb} {k : Option (TupleKey A)} (hb : BindsTo u h i a t s')
      (hw : tupleWorker h s' a.addr = h.cur) (hadm : ¬ Admits (u.st.set i (pointAt s' a.addr)) i h.entryAlloc)
      (hk : k = some (tupleKeyFromSocket s') ∧ isHash (u.sock i) = true ∧ Admits (u.st.set i s') i h.entryAgain ∨
        k = none ∧ ¬ (isHash (u.sock i) = true ∧ Admits (u.st.set i s') i h.entryAgain))
      (hu : Becomes u u' i (s'.linkTo k)) : Connects u h i a u' (.fail .eaddrinuse)

omit [DecidableEq A] in
lemma restorePeer_pointAt (hs : Local s s') (d : Peer A) (k : Option (TupleKey A)) :
    restorePeer s ((pointAt s' d).linkTo k) = s'.linkTo k := by
  have hdip : s.dip = s'.dip := congrArg Peer.addr hs.peer.symm
  have hdport : s.dport = s'.dport := congrArg Peer.port hs.peer.symm
  have hscope : s.pcb.dipScope = s'.pcb.dipScope := congrArg Peer.scope hs.peer.symm
  simp only [restorePeer, pointAt, Sock.linkTo, hdip, hdport, hscope, ← hs.connected]

lemma admits_becomes {k : Option (TupleKey A)} (h₁ : Becomes u u₁ i (s.linkTo k)) :
    Admits u₁.st i alloc ↔ Admits (u.st.set i s) i alloc := by
  have hself : (u.st.set i s).socks i = s := by simp [Stack.set]
  have h₁i : u₁.st.socks i = s.linkTo k := h₁.self
  refine admits_congr ?_ ?_ fun j hj => ?_
  · rw [h₁i, hself]
    rfl
  · rw [h₁i, hself]
    rfl
  · have hj₁ : u₁.st.socks j = u.st.socks j := h₁.others j hj
    rw [hj₁]
    simp only [Stack.set, Function.update_of_ne hj]

lemma connectInstall_connects (hb : BindsTo u h i a t s') (hw : tupleWorker h s' a.addr = h.cur)
    (h₁ : Becomes u u₁ i ((pointAt s' a.addr).linkTo none)) :
    Connects u h i a (connectInstall u₁ h i (u.sock i)).1 (connectInstall u₁ h i (u.sock i)).2 := by
  by_cases hyes : Admits u₁.st i h.entryAlloc
  · obtain ⟨u₂, hin, h₂⟩ := install_admitted h₁.table hyes
    rw [h₁.self] at h₂
    rw [connectInstall, hin]
    exact .done hb hw ((admits_becomes h₁).mp hyes) (becomes_update (h₁.trans h₂) rfl)
  · obtain ⟨u₂, hin, h₂⟩ := install_refused h₁.table hyes
    rw [h₁.self] at h₂
    -- the peer is the old one again
    have h₃ := becomes_update (f := restorePeer (u.sock i)) (h₁.trans h₂) rfl
    have hback : restorePeer (u.sock i) (((pointAt s' a.addr).linkTo none).linkTo none) = s'.linkTo none :=
      restorePeer_pointAt hb.local a.addr none
    rw [hback] at h₃
    have hno : ¬ Admits (u.st.set i (pointAt s' a.addr)) i h.entryAlloc := fun hadm => hyes ((admits_becomes h₁).mpr hadm)
    rw [connectInstall, hin]
    dsimp only
    by_cases hhash : isHash (u.sock i) = true
    · rw [if_pos hhash]
      by_cases hagain : Admits (u₂.update i (restorePeer (u.sock i))).st i h.entryAgain
      · obtain ⟨u₄, hin', h₄⟩ := install_admitted h₃.table hagain
        rw [h₃.self] at h₄
        rw [hin']
        exact .clash hb hw hno (.inl ⟨rfl, hhash, (admits_becomes h₃).mp hagain⟩) (h₃.trans h₄)
      · obtain ⟨u₄, hin', h₄⟩ := install_refused h₃.table hagain
        rw [h₃.self] at h₄
        rw [hin']
        exact .clash hb hw hno (.inr ⟨rfl, fun hh => hagain ((admits_becomes h₃).mpr hh.2)⟩) (h₃.trans h₄)
    · rw [if_neg hhash]
      exact .clash hb hw hno (.inr ⟨rfl, fun hh => hhash hh.1⟩) h₃

lemma connect_unlinks (h₁ : Becomes u u₁ i s') (hlink : s'.tupleEntry = (u.sock i).tupleEntry) :
    ∃ u₂, (if isHash (u.sock i) then u₁.uninstall i else (u₁, true)) = (u₂, true) ∧ Becomes u u₂ i (s'.linkTo none) := by
  by_cases hhash : isHash (u.sock i) = true
  · obtain ⟨u₂, hun, h₂⟩ := uninstall_becomes h₁.table (i := i)
    rw [h₁.self] at h₂
    exact ⟨u₂, by rw [if_pos hhash, hun], h₁.trans h₂⟩
  · have hnone : s'.tupleEntry = none := by
      rw [hlink]
      simpa [isHash] using hhash
    have hs' : s'.linkTo none = s' := by rw [← hnone, Sock.linkTo]
    exact ⟨u₁, by rw [if_neg hhash], by rwa [hs']⟩

lemma udpConnect_connects (ht : TableInv u.st) (h : Host A) (i : SockId) (a : AddrArgs A) :
    Connects u h i a (udpConnect u h i a).1 (udpConnect u h i a).2 := by
  have hself : Becomes u u i (withRoute (u.sock i) (u.sock i).pcb.route) := Becomes.refl ht u.binds
  rw [udpConnect]
  split
  · next hlen => exact .refused (fun t s' hb => by simp [hb.lenOk] at hlen) hself
  split
  · next hfam => exact .refused (fun t s' hb => by simp [hb.familyOk] at hfam) hself
  next hlen hfam =>
  dsimp only
  split
  · next hr =>
    refine .refused (fun t s' hb => ?_) (becomes_put (s := withRoute (u.sock i) none) ht rfl u.binds u.wire)
    obtain ⟨r, hr', -⟩ := hb.bound
    rw [hr] at hr'
    cases hr'
  next r hr =>
  split
  · next t hbound =>
    refine .refused (fun t' s' hb => ?_) (becomes_put (s := withRoute (u.sock i) (some r)) ht rfl t u.wire)
    obtain ⟨r', hr', hs'⟩ := hb.bound
    obtain rfl := Option.some.inj (hr.symm.trans hr')
    rw [hbound] at hs'
    cases hs'
  next t s' hbound =>
  have hb : BindsTo u h i a t s' := ⟨by simpa using hlen, by simpa using hfam, r, hr, hbound⟩
  obtain ⟨u₂, hun, h₂⟩ := connect_unlinks (becomes_put ht hb.local.link t u.wire) hb.local.link
  have h₃ : Becomes u (u₂.update i (pointAt · a.addr)) i ((pointAt s' a.addr).linkTo none) := becomes_update h₂ rfl
  have hworker : h.worker ((u₂.update i (pointAt · a.addr)).sock i).sip ((u₂.update i (pointAt · a.addr)).sock i).sport
      (peerOf ((u₂.update i (pointAt · a.addr)).sock i)) = tupleWorker h s' a.addr := by
    rw [h₃.self]
    rfl
  rw [hun]
  simp only [hworker]
  split
  · next hw => exact .moved hb hw (becomes_update (f := ({ · with owner := tupleWorker h s' a.addr })) h₃ rfl)
  · next hw => exact connectInstall_connects hb (not_not.mp hw) h₃

end Connect

/-! `udp_sendto`. -/

section Send

variable {t : BindTable} {h : Host A} {s s₁ : Sock A UdpPcb} {a : SendArgs A}

def StaysUnbound (t : BindTable) (h : Host A) (s : Sock A UdpPcb) (a : SendArgs A) : Prop :=
  ∀ s₁ r, sendTarget s a = .ok s₁ → s₁.pcb.sock.error = none →
    setSocketRoute h s₁.pcb.route (peerOf s₁) = some r →
    (autoBindPeer t h (withRoute s₁ (some r)) (peerOf s₁)).2 = none

inductive Sends (t : BindTable) (h : Host A) (a : SendArgs A) (s s' : Sock A UdpPcb) : Prop
  | bound (hb : s.pcb.sock.isBound = true) (hb' : s'.pcb.sock.isBound = true) (hport : s'.sport = s.sport)
      (hlink : s'.tupleEntry = s.tupleEntry)
  | unbound (hb : s.pcb.sock.isBound = false) (hno : StaysUnbound t h s a) (hb' : s'.pcb.sock.isBound = false)
      (hsip : s'.sip = s.sip) (hport : s'.sport = s.sport) (hlink : s'.tupleEntry = s.tupleEntry)
  | binds (hb : s.pcb.sock.isBound = false) (hyes : ¬ StaysUnbound t h s a) (hb' : s'.pcb.sock.isBound = true)
      (hlink : s'.tupleEntry = s.tupleEntry)

lemma Sends.same {s' : Sock A UdpPcb} (hb' : s'.pcb.sock.isBound = s.pcb.sock.isBound) (hsip : s'.sip = s.sip)
    (hport : s'.sport = s.sport) (hlink : s'.tupleEntry = s.tupleEntry)
    (hno : s.pcb.sock.isBound = false → StaysUnbound t h s a) : Sends t h a s s' := by
  cases hb : s.pcb.sock.isBound with
  | true => exact .bound hb (hb'.trans hb) hport hlink
  | false => exact .unbound hb (hno hb) (hb'.trans hb) hsip hport hlink

lemma sendStage_sends (t : BindTable) (h : Host A) (s : Sock A UdpPcb) (a : SendArgs A) :
    Sends t h a s ((sendStage t h s a).2.sock s) := by
  rcases sendStage_cases t h s a with ⟨hno, haddrs, hb, hport, hlink⟩ | ⟨d, r, -, hstage, hP⟩
  · exact .same hb (congrArg (·.1.1) haddrs) hport hlink fun _ => hno _
  have hstays : StaysUnbound t h s a ↔
      (autoBindPeer t h (withRoute (pointAt s d) (some r)) (peerOf (pointAt s d))).2 = none := hP _
  rw [hstage]
  cases hsource : (sendSource t h (withRoute (pointAt s d) (some r)) r).2 with
  | error e =>
    refine .same rfl (ite_self _) rfl rfl fun hb => hstays.mpr ?_
    refine (sendSource_unbound (s := withRoute (pointAt s d) (some r)) (r := r) hb t).mp fun s' hs' => ?_
    rw [hsource] at hs'
    cases hs'
  | ok s₃ =>
    have hs₃ := sendSource_sourced (Prod.ext rfl hsource)
    have hself : ∃ s', (tupleStage h (withRoute (pointAt s d) (some r)) r (.ok s₃)).sock s = s' ∧
        s'.pcb.sock.isBound = true ∧ s'.sport = s₃.sport ∧ s'.tupleEntry = s.tupleEntry := by
      rw [tupleStage]
      split
      · exact ⟨_, rfl, hs₃.bound, rfl, hs₃.link⟩
      · exact ⟨_, rfl, hs₃.bound, rfl, hs₃.link⟩
    obtain ⟨s', heq, hb', hport, hlink⟩ := hself
    rw [heq]
    cases hb : s.pcb.sock.isBound with
    | true => exact .bound hb hb' (hport.trans (hs₃.sport hb)) hlink
    | false =>
      refine .binds hb (fun hno => ?_) hb' hlink
      exact (sendSource_unbound (s := withRoute (pointAt s d) (some r)) hb t).mpr (hstays.mp hno) s₃ hsource

lemma udpSendto_becomes {u : UdpStack A} (ht : TableInv u.st) (h : Host A) (i : SockId) (a : SendArgs A) :
    ∃ s', Becomes u (udpSendto u h i a).1 i s' ∧ Sends u.binds h a (u.sock i) s' := by
  have hsends := sendStage_sends u.binds h (u.sock i) a
  refine ⟨_, ?_, hsends⟩
  have hlink : ((sendStage u.binds h (u.sock i) a).2.sock (u.sock i)).tupleEntry = (u.sock i).tupleEntry := by
    cases hsends with
    | bound _ _ _ hlink => exact hlink
    | unbound _ _ _ _ _ hlink => exact hlink
    | binds _ _ _ hlink => exact hlink
  rw [udpSendto]
  split
  · next he =>
    rw [he]
    exact Becomes.refl ht u.binds
  · next t s e he =>
    rw [he] at hlink ⊢
    exact becomes_put ht hlink t u.wire
  · next t s w he =>
    rw [he] at hlink ⊢
    exact becomes_put ht hlink t u.wire
  · next t s r he =>
    rw [he] at hlink ⊢
    exact becomes_put ht hlink t _

end Send

/-! `udp_bind`. -/

section Bind

variable {t t' : BindTable} {h : Host A} {s s' : Sock A UdpPcb}

structure Reserved (s s' : Sock A UdpPcb) : Prop where
  unbound : s.pcb.sock.isBound = false
  bound : s'.pcb.sock.isBound = true
  link : s'.tupleEntry = s.tupleEntry
  slot : s'.pcb.reservation.isSome = true

omit [DecidableEq A] in
lemma autoBindLocal_reserved {loc : Peer A} (hb : s.pcb.sock.isBound = false) (hs : autoBindLocal t h s loc = (t', some s')) :
    Reserved s s' := by
  rw [autoBindLocal] at hs
  split at hs
  · cases hs
  split at hs
  · cases hs
  · obtain rfl := Option.some.inj (Prod.mk.inj hs).2
    exact ⟨hb, rfl, rfl, rfl⟩

omit [DecidableEq A] in
lemma bindSaddrUdp_reserved {loc : Peer A} (hb : s.pcb.sock.isBound = false) (hs : bindSaddrUdp t h s loc = (t', some s')) :
    Reserved s s' := by
  rw [bindSaddrUdp] at hs
  split at hs
  · cases hs
  split at hs
  · cases hs
  · obtain rfl := Option.some.inj (Prod.mk.inj hs).2
    exact ⟨hb, rfl, rfl, rfl⟩

lemma socketBindLocal_reserved {a : Option (AddrArgs A)} (hs : socketBindLocal t h s a = (t', .ok s')) : Reserved s s' := by
  cases a with
  | none => cases hs
  | some a =>
  rw [socketBindLocal] at hs
  split at hs
  · cases hs
  next hb =>
  replace hb : s.pcb.sock.isBound = false := by simpa using hb
  split at hs
  · cases hs
  split at hs
  · cases hs
  split at hs
  · cases hs
  split at hs
  · cases hs
  split at hs
  · cases hs
  · next hres =>
    obtain rfl := Except.ok.inj (Prod.mk.inj hs).2
    split at hres
    · exact autoBindLocal_reserved hb hres
    · exact bindSaddrUdp_reserved hb hres

inductive Binds (s s' : Sock A UdpPcb) : Prop
  | same (hs : s' = s)
  | bound (hb : s'.pcb.sock.isBound = true) (hlink : s'.tupleEntry = some (tupleKeyFromSocket s'))
  | undone (hb : s'.pcb.sock.isBound = false) (hsip : s'.sip = InetAddr.any) (hlink : s'.tupleEntry = none)

lemma udpBind_becomes {u : UdpStack A} (ht : TableInv u.st) (h : Host A) (i : SockId) (a : Option (AddrArgs A)) :
    ∃ s', Becomes u (udpBind u h i a).1 i s' ∧ Binds (u.sock i) s' := by
  rw [udpBind]
  split
  · next t e he => exact ⟨_, Becomes.refl ht t, .same rfl⟩
  next t s he =>
  have hs := socketBindLocal_reserved he
  have h₁ := becomes_put ht hs.link t u.wire
  by_cases hadm : Admits ({ u with binds := t }.put i s).st i h.entryAlloc
  · obtain ⟨u₂, hin, h₂⟩ := install_admitted h₁.table hadm
    rw [h₁.self] at h₂
    rw [hin]
    exact ⟨_, h₁.trans h₂, .bound hs.bound rfl⟩
  · obtain ⟨u₂, hin, h₂⟩ := install_refused h₁.table hadm
    rw [h₁.self] at h₂
    obtain ⟨slot, hslot⟩ := Option.isSome_iff_exists.mp hs.slot
    have h₁₂ := h₁.trans h₂
    have hun : unbindSaddrUdp u₂.binds (u₂.sock i) = (bindRelease u₂.binds slot, (unbindSaddrUdp u₂.binds (s.linkTo none)).2) := by
      rw [h₁₂.self, unbindSaddrUdp]
      simp only [Sock.linkTo, hslot]
    rw [hin]
    simp only [hun]
    have hlast : (unbindSaddrUdp u₂.binds (s.linkTo none)).2.tupleEntry = (u₂.sock i).tupleEntry := by
      rw [h₁₂.self, unbindSaddrUdp]
      simp only [Sock.linkTo, hslot]
    refine ⟨_, h₁₂.trans (becomes_put h₁₂.table hlast _ _), ?_⟩
    refine .undone ?_ ?_ ?_
    all_goals
      rw [unbindSaddrUdp]
      simp only [Sock.linkTo, hslot]

end Bind

end Netfast.Udp
