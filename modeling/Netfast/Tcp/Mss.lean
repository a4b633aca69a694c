import Netfast.Tcp.Conn
import Netfast.Tcp.Frame

/-! The arithmetic of the maximum segment size: from the route's MTU and the peer's option to the limit that
`tcp_write` cuts by. -/

namespace Netfast.Tcp

open Skbuff

/-- What `parse_tcp_options` and `set_tcp_socket_route` keep of the three sizes. -/
structure MssInv (n : Nego) : Prop where
  peer : 64 ≤ n.peerMss
  snd : n.sndMss = min n.peerMss n.rcvMss

lemma applyOption_mssInv {syn hs : Bool} {now kind len : ℕ} {body : List UInt8} {n n' : Nego} (h : MssInv n)
    (he : applyOption syn hs now kind len body n = some n') : MssInv n' ∧ n'.rcvMss = n.rcvMss := by
  rw [applyOption] at he
  split at he
  · dsimp only at he
    split at he
    · obtain rfl := Option.some.inj he
      exact ⟨h, rfl⟩
    · next hmss =>
      obtain rfl := Option.some.inj he
      exact ⟨⟨Nat.not_lt.mp hmss, rfl⟩, rfl⟩
  split at he
  · obtain rfl := Option.some.inj he
    exact ⟨⟨h.peer, h.snd⟩, rfl⟩
  split at he
  · dsimp only at he
    split at he
    · cases he
    · obtain rfl := Option.some.inj he
      exact ⟨⟨h.peer, h.snd⟩, rfl⟩
  · obtain rfl := Option.some.inj he
    exact ⟨h, rfl⟩

lemma parseTcpOptions_mssInv {s : TcpSock} (h : MssInv s.nego) (hdr : TcpHdr) :
    MssInv (parseTcpOptions s hdr).1.nego ∧ (parseTcpOptions s hdr).1.nego.rcvMss = s.nego.rcvMss := by
  obtain ⟨c, hp, -⟩ := parseTcpOptions_frame s hdr
  rw [hp]
  refine optionLoop_induct (fun n => MssInv n ∧ n.rcvMss = s.nego.rcvMss) ?_ _ _ _ ⟨h, rfl⟩
  intro kind len body n n' hn he
  obtain ⟨hinv, hr⟩ := applyOption_mssInv hn.1 he
  exact ⟨hinv, hr.trans hn.2⟩

def Nego.onRoute (s : TcpSock) (r : Route) : Nego :=
  { s.nego with rcvMss := routeMss s r, sndMss := min s.nego.peerMss (routeMss s r) }

def restartsOnMss (st : TcpState) : Bool := st = .closed || st = .synSent || st = .synReceived

def CongState.onRoute (s : TcpSock) (r : Route) : CongState :=
  if restartsOnMss s.core.state && decide ((Nego.onRoute s r).sndMss ≠ s.nego.sndMss) then
    tcpCongestionInit (Nego.onRoute s r)
  else s.cong

lemma takeMetrics_rtt (s : TcpSock) (r : Route) : s.retry.SameRtt (takeMetrics s r).retry := by
  simp only [takeMetrics]
  split <;> exact ⟨rfl, rfl⟩

lemma setSocketRoute_frame (s : TcpSock) :
    (setSocketRoute s).1 = { s with route := (setSocketRoute s).1.route, env.routes := s.env.routes.tail } := by
  have htail : (nextAnswer s).2 = s.env.routes.tail := by
    rw [nextAnswer]
    split
    · next h => rw [h]; rfl
    · next h => rw [h]; rfl
  rw [← htail]
  rfl

lemma setTcpSocketRoute_routed {s s₁ : TcpSock} (h : setTcpSocketRoute s = (s₁, true)) :
    ∃ r re f, (setSocketRoute s).1.route = some r ∧ s.retry.SameRtt re ∧ s₁ = { s with
      route := some r
      nego := Nego.onRoute s r
      cong := CongState.onRoute s r
      retry := re
      env.fates := f
      env.routes := s.env.routes.tail } := by
  rw [setTcpSocketRoute] at h
  split at h
  · cases h
  next s₂ hs =>
  obtain rfl : (setSocketRoute s).1 = s₂ := congrArg Prod.fst hs
  split at h
  · cases h
  next r hr =>
  split at h
  · cases h
  have hrtt := takeMetrics_rtt (setSocketRoute s).1 r
  obtain ⟨re, f, hm, -⟩ := takeMetrics_frame (setSocketRoute s).1 r
  rw [hm] at hrtt
  rw [setSocketRoute_frame, hr] at hm
  rw [setSocketRoute_frame, hr] at h
  simp only [hm] at h
  obtain ⟨h₁, -⟩ := Prod.mk.inj h
  refine ⟨r, re, f, hr, hrtt, h₁.symm.trans ?_⟩
  split
  · next he =>
    have hc : CongState.onRoute s r = s.cong := by
      rw [CongState.onRoute, if_neg]
      intro hb
      rw [Bool.and_eq_true] at hb
      exact of_decide_eq_true hb.2 he
    rw [hc]
    rfl
  · next he =>
    simp only [tcpCongestionMssChanged]
    split
    · next hst =>
      have hc : CongState.onRoute s r = tcpCongestionInit (Nego.onRoute s r) := by
        rw [CongState.onRoute, if_pos]
        simp only [Bool.and_eq_true, decide_eq_true_eq, restartsOnMss, Bool.or_eq_true]
        exact ⟨by tauto, he⟩
      rw [hc]
      rfl
    · next hst =>
      have hc : CongState.onRoute s r = s.cong := by
        rw [CongState.onRoute, if_neg]
        simp only [Bool.and_eq_true, decide_eq_true_eq, restartsOnMss, Bool.or_eq_true]
        tauto
      rw [hc]
      rfl

lemma onRoute_mssInv {s : TcpSock} (hp : 64 ≤ s.nego.peerMss) (r : Route) : MssInv (Nego.onRoute s r) := ⟨hp, rfl⟩

lemma writeLoop_ends {segLimit : ℕ} (hpos : 0 < segLimit) (room : ℕ) {k k' : ℕ} {bs : List UInt8}
    (hk : bs.length ≤ k) (hk' : bs.length ≤ k') (q : SendState) (n : ℕ) (f : Fates) :
    writeLoop segLimit room k bs q n f = writeLoop segLimit room k' bs q n f := by
  induction k generalizing k' bs q n f with
  | zero =>
    obtain rfl := List.length_eq_zero_iff.mp (Nat.le_zero.mp hk)
    cases k' <;> rfl
  | succ k ih =>
    cases bs with
    | nil => cases k' <;> rfl
    | cons b bs =>
      obtain ⟨k', rfl⟩ : ∃ j, k' = j + 1 := Nat.exists_eq_succ_of_ne_zero (by simp at hk'; omega)
      simp only [writeLoop]
      split
      · rfl
      · apply ih <;>
        · rw [List.length_drop]
          simp only [List.length_cons] at hk hk' ⊢
          omega

def optionLen (n : Nego) : ℕ := if n.peerTsOk then 12 else 0

def netHeaders (s : TcpSock) : ℕ := 20 + if s.core.isV6 then 40 else 20

/-- No subtraction wraps, what is left of the MSS is positive and has room in a frame slot, and `tcp_write`
comes to an end. -/
structure MssSafe (s : TcpSock) (r : Route) : Prop where
  mtu : netHeaders s ≤ r.mtu
  options : optionLen s.nego ≤ s.nego.sndMss
  snd : 1 ≤ s.nego.sndMss
  data : 1 ≤ tcpDataMss s.nego ∧ tcpDataMss s.nego ≤ s.nego.sndMss
  slot : headerRoom s r + tcpDataMss s.nego ≤ frameSlotMaxSize
  ends : ∀ (bs : List UInt8) (k : ℕ) (q : SendState) (f : Fates), bs.length ≤ k →
    writeLoop (tcpDataMss s.nego) (headerRoom s r) k bs q 0 f =
      writeLoop (tcpDataMss s.nego) (headerRoom s r) bs.length bs q 0 f

section Sizes

variable {s s₂ : TcpSock} {r : Route}

lemma routeMss_le (s : TcpSock) (hl : r.l2Len ≤ 14) :
    headerRoom s r + routeMss s r ≤ frameSlotMaxSize ∧ 138 ≤ frameSlotMaxSize - headerRoom s r := by
  have hroom : headerRoom s r ≤ 138 := by
    rw [headerRoom, maxIpHdrLen]
    split <;> omega
  have hslot : subU32 frameSlotMaxSize (headerRoom s r) = frameSlotMaxSize - headerRoom s r :=
    subU32_of_le (by unfold frameSlotMaxSize; omega) (by unfold frameSlotMaxSize; omega)
  rw [routeMss, hslot]
  unfold frameSlotMaxSize
  omega

lemma tcpDataMss_eq {n : Nego} (h : optionLen n ≤ n.sndMss) (hlt : n.sndMss < 2 ^ 32) :
    tcpDataMss n = n.sndMss - optionLen n := subU32_of_le h hlt

lemma mssSafe_iff (hinv : MssInv s₂.nego) (hrcv : s₂.nego.rcvMss = routeMss s₂ r) (hmtu : r.mtu < 2 ^ 32)
    (hl : r.l2Len ≤ 14) : MssSafe s₂ r ↔ netHeaders s₂ + optionLen s₂.nego < r.mtu := by
  obtain ⟨hroom, hslack⟩ := routeMss_le s₂ hl
  have hopt : optionLen s₂.nego ≤ 12 := by
    rw [optionLen]
    split <;> omega
  have hlt : s₂.nego.sndMss < 2 ^ 32 := by
    rw [hinv.snd, hrcv]
    rw [frameSlotMaxSize] at hroom
    omega
  have hmss : netHeaders s₂ ≤ r.mtu →
      routeMss s₂ r = min (r.mtu - netHeaders s₂) (frameSlotMaxSize - headerRoom s₂ r) := by
    intro h
    have hslot : subU32 frameSlotMaxSize (headerRoom s₂ r) = frameSlotMaxSize - headerRoom s₂ r :=
      subU32_of_le (by omega) (by unfold frameSlotMaxSize; omega)
    rw [routeMss, ← netHeaders, subU32_of_le h hmtu, hslot]
  constructor
  · intro h
    have hd := h.data.1
    rw [tcpDataMss_eq h.options hlt, hinv.snd, hrcv, hmss h.mtu] at hd
    have := h.mtu
    omega
  · intro h
    have hle : netHeaders s₂ ≤ r.mtu := by omega
    have hsnd : optionLen s₂.nego < s₂.nego.sndMss := by
      have := hinv.peer
      rw [hinv.snd, hrcv, hmss hle]
      omega
    have hdata := tcpDataMss_eq hsnd.le hlt
    have hsmall : s₂.nego.sndMss ≤ routeMss s₂ r := by
      rw [hinv.snd, hrcv]
      exact Nat.min_le_right _ _
    refine ⟨hle, hsnd.le, by omega, by omega, by omega, ?_⟩
    intro bs k q f hk
    exact writeLoop_ends (by omega) _ hk le_rfl q 0 f

end Sizes

/-- After `set_tcp_socket_route` and `parse_tcp_options` the arithmetic is safe exactly when the MTU of the
route leaves at least one byte beside the headers and options of a data segment. The link header is the one
of Ethernet or shorter. -/
theorem mss_safe_iff {s s₁ : TcpSock} (hp : 64 ≤ s.nego.peerMss) (hs : setTcpSocketRoute s = (s₁, true)) {r : Route}
    (hr : s₁.route = some r) (hmtu : r.mtu < 2 ^ 32) (hl : r.l2Len ≤ 14) (hdr : TcpHdr) :
    MssSafe (parseTcpOptions s₁ hdr).1 r ↔
      netHeaders s + optionLen (parseTcpOptions s₁ hdr).1.nego < r.mtu := by
  obtain ⟨r', re, f, -, -, rfl⟩ := setTcpSocketRoute_routed hs
  obtain rfl : r' = r := Option.some.inj hr
  obtain ⟨c, hp', -⟩ := parseTcpOptions_frame { s with
    route := some r'
    nego := Nego.onRoute s r'
    cong := CongState.onRoute s r'
    retry := re
    env.fates := f
    env.routes := s.env.routes.tail } hdr
  obtain ⟨hinv, hrcv⟩ := parseTcpOptions_mssInv (s := { s with
    route := some r'
    nego := Nego.onRoute s r'
    cong := CongState.onRoute s r'
    retry := re
    env.fates := f
    env.routes := s.env.routes.tail }) (onRoute_mssInv hp r') hdr
  rw [hp'] at hinv hrcv ⊢
  exact mssSafe_iff hinv hrcv hmtu hl

/-! A connection whose route shows an MTU of `mtu`. -/

def onMtu (mtu : ℕ) : TcpSock :=
  (establishedSock 100 500).withInputs
    { now := 1, routes := [{ cached := some { plainRoute with mtu }, found := none }] }

theorem mss_safe_iff_small_mtu :
    MssSafe (parseTcpOptions (setTcpSocketRoute (onMtu 41)).1 (plainHdr 500 100 .ackOnly)).1
      { plainRoute with mtu := 41 } :=
  (mss_safe_iff (s := onMtu 41) (by decide) (by rfl) (by decide) (by decide) (by decide)
    (plainHdr 500 100 .ackOnly)).mpr (by decide)

/-- An MTU of 40 leaves no byte, and one byte to write keeps `tcp_write` busy for ever; with timestamps an MTU
of 44 makes the limit wrap. -/
theorem tiny_mtu_never_ends :
    (tcpWrite (onMtu 40) [1] false).1.nego.sndMss = 0 ∧
      (tcpWrite (onMtu 40) [1] false).1.env.faults = [.endlessLoop] ∧
      tcpDataMss { (setTcpSocketRoute (onMtu 44)).1.nego with peerTsOk := true } = 2 ^ 32 - 8 := by
  decide

end Netfast.Tcp
