import Netfast.Udp.Registered

/-! The route of each datagram: the one its own destination has in the tables, or one the socket remembers. -/

namespace Netfast.Udp

open Tcp Socket Route If Run

variable {A : Type} [Family A] [DecidableEq A]

section Routes

variable {t t' : BindTable} {h : Host A} {s s' : Sock A UdpPcb} {c r : RouteInfo} {d : Peer A}

variable {cached : Option RouteInfo}

omit [DecidableEq A] in
lemma setSocketRoute_some (hr : setSocketRoute h cached d = some r) :
    (cached = some r ∧ h.usable r = true) ∨ ((∀ c, cached = some c → h.usable c = false) ∧ h.lookup d = some r) := by
  cases cached with
  | none => exact .inr ⟨fun c hc => (by cases hc), hr⟩
  | some c =>
    rw [setSocketRoute] at hr
    split at hr
    · next hu =>
      obtain rfl := Option.some.inj hr
      exact .inl ⟨rfl, hu⟩
    · next hu =>
      refine .inr ⟨fun c' hc' => ?_, hr⟩
      obtain rfl := Option.some.inj hc'
      simpa using hu

omit [DecidableEq A] in
lemma setSocketRoute_again (hr : setSocketRoute h cached d = some r) :
    (if h.usable r then some r else h.lookup d) = some r := by
  split
  · rfl
  · next hu =>
    rcases setSocketRoute_some hr with ⟨-, hu'⟩ | ⟨-, hl⟩
    · exact absurd hu' hu
    · exact hl

lemma sendSource_chosen (hr : setSocketRoute h cached (peerOf s) = some r)
    (hs : sendSource t h (withRoute s (some r)) r = (t', .ok s')) :
    (s'.pcb.sipChosen = true ∧ h.saddr r s.dip = some s'.sip ∧ ¬ (s.pcb.sock.isBound = true ∧ s.sip ≠ InetAddr.any)) ∨
      (s' = withRoute s (some r) ∧ s.pcb.sock.isBound = true ∧ s.sip ≠ InetAddr.any) := by
  rw [sendSource] at hs
  split at hs
  · next hb =>
    replace hb : s.pcb.sock.isBound = false := by simpa [withRoute] using hb
    split at hs
    · cases hs
    next hauto =>
    obtain rfl := Except.ok.inj (Prod.mk.inj hs).2
    obtain ⟨r', addr, p, slot, scope, hr', haddr, -, -, rfl⟩ := autoBindPeer_some hauto
    have hsame : setSocketRoute h (withRoute s (some r)).pcb.route (peerOf s) = some r := setSocketRoute_again hr
    obtain rfl := Option.some.inj (hsame.symm.trans hr')
    exact .inl ⟨rfl, haddr, fun hbound => absurd (hb.symm.trans hbound.1) (by decide)⟩
  next hb =>
  replace hb : s.pcb.sock.isBound = true := by simpa [withRoute] using hb
  split at hs
  · next hsip =>
    split at hs
    · cases hs
    next addr haddr =>
    split at hs
    · cases hs
    · obtain rfl := Except.ok.inj (Prod.mk.inj hs).2
      exact .inl ⟨rfl, haddr, fun hbound => hbound.2 hsip⟩
  · next hsip => exact .inr ⟨(Except.ok.inj (Prod.mk.inj hs).2).symm, hb, hsip⟩

end Routes

/-- The datagram leaves by the interface and the gateway of the route that the tables have for its destination, and
if the stack chose its source address, then this route's interface did. -/
def Routed (h : Host A) (d : Sent A) : Prop :=
  ∃ r, h.lookup d.dst = some r ∧ d.route.ifindex = r.ifindex ∧ d.route.gwIp = r.gwIp ∧
    (d.srcChosen = true → h.saddr r d.dst.addr = some d.src)

/-- The socket remembers nothing that is wrong for the destination of the call: neither a usable route to elsewhere nor
a source address chosen for another destination. -/
def FreshRoute (h : Host A) (s : Sock A UdpPcb) (a : SendArgs A) : Prop :=
  ∀ s₁, sendTarget s a = .ok s₁ → ∃ r, h.lookup (peerOf s₁) = some r ∧
    (∀ c, s.pcb.route = some c → h.usable c = true → c.ifindex = r.ifindex ∧ c.gwIp = r.gwIp) ∧
    (s.pcb.sock.isBound = true → s.sip ≠ InetAddr.any → s.pcb.sipChosen = true →
      h.saddr r (peerOf s₁).addr = some s.sip)

def emitted (u : UdpStack A) (h : Host A) (i : SockId) (a : SendArgs A) : Option (Sent A) :=
  match (sendStage u.binds h (u.sock i) a).2 with
  | .send s r => (sendDatagram h s r a.buf).1
  | _ => none

lemma udpSendto_wire (u : UdpStack A) (h : Host A) (i : SockId) (a : SendArgs A) :
    (udpSendto u h i a).1.wire = u.wire ++ (emitted u h i a).toList := by
  rw [udpSendto, emitted]
  split
  · next he => rw [he]; exact (List.append_nil _).symm
  · next he => rw [he]; exact (List.append_nil _).symm
  · next he => rw [he]; exact (List.append_nil _).symm
  · next he => rw [he]; rfl

section Emitted

variable {h : Host A} {s : Sock A UdpPcb} {r : RouteInfo} {a : SendArgs A} {d : Sent A}

omit [DecidableEq A] in
lemma sendDatagram_some {buf : List UInt8} (hd : (sendDatagram h s r buf).1 = some d) :
    setSkbRoute h r (peerOf s) = some d.route ∧ d.dst = peerOf s ∧ d.src = s.sip ∧ d.srcChosen = s.pcb.sipChosen := by
  rw [sendDatagram] at hd
  split at hd
  · cases hd
  split at hd
  · cases hd
  split at hd
  · cases hd
  next route hroute =>
  dsimp only at hd
  split at hd
  · obtain rfl := Option.some.inj hd
    exact ⟨hroute, rfl, rfl, rfl⟩
  · cases hd

lemma sendStage_send {t : BindTable} {s₃ : Sock A UdpPcb} (hs : (sendStage t h s a).2 = .send s₃ r) :
    ∃ s₁, sendTarget s a = .ok s₁ ∧ setSocketRoute h s₁.pcb.route (peerOf s₁) = some r ∧
      (sendSource t h (withRoute s₁ (some r)) r).2 = .ok s₃ := by
  rw [sendStage] at hs
  split at hs
  · cases hs
  next s₁ hT =>
  split at hs
  · cases hs
  split at hs
  · cases hs
  next r' hr =>
  refine ⟨s₁, hT, ?_⟩
  cases hsource : (sendSource t h (withRoute s₁ (some r')) r').2 with
  | error e =>
    simp only [hsource, tupleStage] at hs
    cases hs
  | ok s₄ =>
    simp only [hsource, tupleStage] at hs
    split at hs
    · cases hs
    · obtain ⟨rfl, rfl⟩ := Stage.send.inj hs
      exact ⟨hr, hsource⟩

omit [DecidableEq A] in
lemma saddr_congr {c : RouteInfo} (hif : c.ifindex = r.ifindex) (dst : A) : h.saddr c dst = h.saddr r dst := by
  rw [Host.saddr, Host.saddr, hif]

lemma emitted_routed {u : UdpStack A} {i : SockId} (hd : emitted u h i a = some d) :
    Routed h d ↔ FreshRoute h (u.sock i) a := by
  rw [emitted] at hd
  split at hd
  swap
  · cases hd
  next s₃ r hstage =>
  obtain ⟨s₁, hT, hr, hsource⟩ := sendStage_send hstage
  obtain ⟨hskb, hdst, hsrc, hchosen⟩ := sendDatagram_some hd
  obtain ⟨dst, rfl⟩ := sendTarget_pointAt hT
  have hs₃ := sendSource_sourced (Prod.ext rfl hsource)
  have hpeer : peerOf s₃ = peerOf (pointAt (u.sock i) dst) := hs₃.peer
  -- the packet goes by the route that was taken for the socket
  have hroute : d.route = r := by
    rw [hpeer] at hskb
    exact Option.some.inj (hskb.symm.trans (setSocketRoute_again hr))
  rw [Routed, hdst, hpeer, hroute, hsrc, hchosen]
  have hfresh : FreshRoute h (u.sock i) a ↔ ∃ r', h.lookup (peerOf (pointAt (u.sock i) dst)) = some r' ∧
      (∀ c, (u.sock i).pcb.route = some c → h.usable c = true → c.ifindex = r'.ifindex ∧ c.gwIp = r'.gwIp) ∧
      ((u.sock i).pcb.sock.isBound = true → (u.sock i).sip ≠ InetAddr.any → (u.sock i).pcb.sipChosen = true →
        h.saddr r' dst.addr = some (u.sock i).sip) := by
    refine ⟨fun hf => hf _ hT, fun hf s₁ hT' => ?_⟩
    obtain rfl := Except.ok.inj (hT.symm.trans hT')
    exact hf
  rw [hfresh]
  refine exists_congr fun r' => and_congr_right fun hlook => ?_
  -- the route taken is the cached one, or the one looked up
  have hsame : (r.ifindex = r'.ifindex ∧ r.gwIp = r'.gwIp) ↔
      ∀ c, (u.sock i).pcb.route = some c → h.usable c = true → c.ifindex = r'.ifindex ∧ c.gwIp = r'.gwIp := by
    rcases setSocketRoute_some hr with ⟨hc, hu⟩ | ⟨hno, hl⟩
    · constructor
      · intro heq c hc' _
        obtain rfl := Option.some.inj (hc.symm.trans hc')
        exact heq
      · intro hall
        exact hall r hc hu
    · obtain rfl := Option.some.inj (hl.symm.trans hlook)
      exact iff_of_true ⟨rfl, rfl⟩ fun c hc hu => absurd (hu.symm.trans (hno c hc)) (by decide)
  rw [← and_assoc, hsame]
  refine and_congr_right fun hall => ?_
  have hif : r.ifindex = r'.ifindex := (hsame.mpr hall).1
  rcases sendSource_chosen hr (Prod.ext rfl hsource) with ⟨-, haddr, hno⟩ | ⟨rfl, hb, hsip⟩
  · refine iff_of_true (fun _ => ?_) fun hb hsip => absurd ⟨hb, hsip⟩ hno
    rw [← saddr_congr hif]
    exact haddr
  · exact ⟨fun hc _ _ => hc, fun hc => hc hb hsip⟩

end Emitted

lemma udpBind_wire (u : UdpStack A) (h : Host A) (i : SockId) (a : Option (AddrArgs A)) : (udpBind u h i a).1.wire = u.wire := by
  rw [udpBind]
  split
  · rfl
  split
  · next hin => exact congrArg (fun x => x.1.wire) hin.symm
  · next hin => exact congrArg (fun x => x.1.wire) hin.symm

lemma connectInstall_wire (u : UdpStack A) (h : Host A) (i : SockId) (old : Sock A UdpPcb) :
    (connectInstall u h i old).1.wire = u.wire := by
  rw [connectInstall]
  split
  · next hin => exact congrArg (fun x => x.1.wire) hin.symm
  · next hin =>
    have hwire : u.wire = _ := congrArg (fun x => x.1.wire) hin
    dsimp only
    split
    · exact hwire.symm
    · exact hwire.symm

lemma udpConnect_wire (u : UdpStack A) (h : Host A) (i : SockId) (a : AddrArgs A) : (udpConnect u h i a).1.wire = u.wire := by
  rw [udpConnect]
  split
  · rfl
  split
  · rfl
  dsimp only
  split
  · rfl
  split
  · rfl
  next t s hb =>
  have hkeep : ∀ b : Bool, (if b then ({ u with binds := t }.put i s).uninstall i else ({ u with binds := t }.put i s, true)).1.wire =
      u.wire := by
    intro b
    cases b <;> rfl
  split
  · next hun => rw [← hkeep (isHash (u.sock i)), hun]
  · next u₂ hun =>
    have hu₂ : u₂.wire = u.wire := by rw [← hkeep (isHash (u.sock i)), hun]
    split
    · exact hu₂
    · rw [connectInstall_wire]
      exact hu₂

/-- The event puts a datagram on the wire. -/
def Emits (u : UdpStack A) (e : UdpEvent A) (d : Sent A) : Prop := (udpStep u e).wire = u.wire ++ [d]

lemma not_emits {u : UdpStack A} {e : UdpEvent A} {d : Sent A} (hw : (udpStep u e).wire = u.wire) : ¬ Emits u e d := by
  intro h
  rw [Emits, hw] at h
  exact absurd (List.self_eq_append_right.mp h) (by simp)

lemma emits_routed (u : UdpStack A) (e : UdpEvent A) :
    (∀ d, Emits u e d → Routed e.host d) ↔
      ∀ a d, e.call = .sendto a → Emits u e d → FreshRoute e.host (u.sock e.sock) a := by
  obtain ⟨i, h, call⟩ := e
  cases call with
  | bind b => exact iff_of_true (fun d hd => absurd hd (not_emits (udpBind_wire u h i b))) fun a d hc => by cases hc
  | connect b => exact iff_of_true (fun d hd => absurd hd (not_emits (udpConnect_wire u h i b))) fun a d hc => by cases hc
  | recvfrom => exact iff_of_true (fun d hd => absurd hd (not_emits rfl)) fun a d hc => by cases hc
  | sendto a =>
    have hemitted : ∀ d, Emits u ⟨i, h, .sendto a⟩ d → emitted u h i a = some d := by
      intro d hd
      have hlist : (emitted u h i a).toList = [d] :=
        List.append_cancel_left ((udpSendto_wire u h i a).symm.trans hd)
      exact Option.toList_eq_singleton_iff.mp hlist
    constructor
    · intro hall a' d hc hd
      obtain rfl := UdpCall.sendto.inj hc
      exact (emitted_routed (hemitted d hd)).mp (hall d hd)
    · intro hall d hd
      exact (emitted_routed (hemitted d hd)).mpr (hall a d rfl hd)

/-- Along a run of calls every datagram goes by the route of its own destination exactly when every send that emits one
starts from a socket that remembers nothing wrong for that destination. -/
theorem datagrams_routed_iff (options : SockId → UdpOptions) (t : BindTable) (n : SockId) (es : List (UdpEvent A)) :
    Meets udpStep (fun u e => ∀ d, Emits u e d → Routed e.host d) (openStack options t n) es ↔
      Meets udpStep (fun u e => ∀ a d, e.call = .sendto a → Emits u e d → FreshRoute e.host (u.sock e.sock) a)
        (openStack options t n) es := by
  have hsame : (fun (u : UdpStack A) (e : UdpEvent A) => ∀ d, Emits u e d → Routed e.host d) =
      fun u e => ∀ a d, e.call = .sendto a → Emits u e d → FreshRoute e.host (u.sock e.sock) a := by
    funext u e
    exact propext (emits_routed u e)
  rw [hsame]

def twoInterfaces : Host Ipv4 :=
  { twoWorkers 0 Nat.two_pos with
    tables := (routeAddEntry (routeAddEntry {} defaultRoute 1 true true).1
      { isV6 := false, dstMask := 16, dstIp := ipOf (0x0A010000 : Ipv4), ifindex := 3 } 17 true true).1
    workers := 1
    cur := 0
    curLt := Nat.one_pos }

def sendTo (dst : Ipv4) : UdpEvent Ipv4 where
  sock := 0
  host := twoInterfaces
  call := .sendto { buf := [1, 2, 3], dest := some { addr := dst, port := 80 } }

def twoSends : UdpStack Ipv4 := run udpStep (openStack (fun _ => {}) emptyBinds.table 1) [sendTo 0x0A000002, sendTo 0x0A010005]

/-- The second datagram leaves by the interface of the first. -/
theorem second_datagram_misrouted :
    twoSends.wire.map (fun d => (d.dst.addr, d.route.ifindex, (twoInterfaces.lookup d.dst).map RouteInfo.ifindex)) =
      [(0x0A000002, 2, some 2), (0x0A010005, 2, some 3)] := by
  decide +kernel

end Netfast.Udp
