import Netfast.Tcp.Timer

/-! `tcp_congestion.c`: CUBIC over the byte window, with recovery and loss states. -/

namespace Netfast.Tcp

open Serial

def tcpCaMss (n : Nego) : ℕ := if n.sndMss = 0 then 1 else n.sndMss

variable (s : TcpSock)

lemma tcpCaMss_pos (n : Nego) : 0 < tcpCaMss n := by
  rw [tcpCaMss]
  split <;> omega

def tcpCaSaturatingAdd (value increment : ℕ) : ℕ := min (value + increment) u32Max

def tcpCaSetCwnd (s : TcpSock) (cwnd : ℕ) : TcpSock := tcpSndCwndChange s (max cwnd (tcpCaMss s.nego))

def tcpCubicCwndPackets (s : TcpSock) : ℕ := max (s.cong.sndCwnd / tcpCaMss s.nego) 1

def tcpCubicSetCwndPackets (s : TcpSock) (packets : ℕ) : TcpSock :=
  tcpCaSetCwnd s (min (packets * tcpCaMss s.nego) u32Max)

-- the binary search of tcp_cubic_root halves an interval of at most 2642245: 22 rounds are enough
def cubicRootLoop (value : ℕ) : ℕ → ℕ → ℕ → ℕ
  | 0, low, _ => low
  | k + 1, low, high =>
    if low < high then
      let mid := low + (high - low + 1) / 2
      if mid = 0 ∨ mid ≤ value / mid / mid then cubicRootLoop value k mid high
      else cubicRootLoop value k low (mid - 1)
    else low

def tcpCubicRoot (value : ℕ) : ℕ := cubicRootLoop value 22 0 2642245

def tcpCubicKMs (distance : ℕ) : ℕ :=
  let scale := 5 * 1000000000
  let value := if (2 ^ 64 - 1) / scale < distance then 2 ^ 64 - 1 else distance * scale
  tcpCubicRoot (value / 2)

def tcpCubicDelta (offsetMs : ℕ) : ℕ :=
  let offset := min offsetMs 600000
  min (2 * (offset * offset * offset) / (5 * 1000000000)) u32Max

def cubicEpoch (c : Cubic) (now cwnd acked : ℕ) : Cubic :=
  let c := { c with ackCnt := tcpCaSaturatingAdd c.ackCnt acked }
  if c.epochStartMs = 0 then
    let c := { c with epochStartMs := if now = 0 then 1 else now, ackCnt := acked, tcpCwnd := cwnd }
    if c.lastMaxCwnd ≤ cwnd then { c with kMs := 0, originPoint := cwnd }
    else { c with kMs := tcpCubicKMs (c.lastMaxCwnd - cwnd), originPoint := c.lastMaxCwnd }
  else c

def cubicTarget (c : Cubic) (now : ℕ) : ℕ :=
  let elapsed := if c.epochStartMs ≤ now then now - c.epochStartMs else 0
  let offset := if c.kMs < elapsed then elapsed - c.kMs else c.kMs - elapsed
  let delta := tcpCubicDelta offset
  if elapsed < c.kMs then (if c.originPoint ≤ delta then 1 else c.originPoint - delta)
  else tcpCaSaturatingAdd c.originPoint delta

def cubicFriendly (c : Cubic) (cwnd : ℕ) : Cubic :=
  let threshold := if u32Max < cwnd * 15 / 8 then u32Max else max (cwnd * 15 / 8) 1
  let c :=
    if threshold < c.ackCnt then
      let steps := (c.ackCnt - 1) / threshold
      { c with ackCnt := c.ackCnt - steps * threshold, tcpCwnd := tcpCaSaturatingAdd c.tcpCwnd steps }
    else c
  if cwnd < c.tcpCwnd then { c with cnt := min c.cnt (max (cwnd / (c.tcpCwnd - cwnd)) 1) } else c

def tcpCubicUpdate (c : Cubic) (now cwnd acked : ℕ) : Cubic :=
  let c := cubicEpoch c now cwnd acked
  let target := cubicTarget c now
  let c := { c with cnt :=
    if cwnd < target then max (cwnd / (target - cwnd)) 1 else tcpCaSaturatingAdd 0 (100 * cwnd) }
  let c := if c.lastMaxCwnd = 0 ∧ 20 < c.cnt then { c with cnt := 20 } else c
  let c := cubicFriendly c cwnd
  { c with cnt := max c.cnt 2 }

def tcpCubicSlowStart (s : TcpSock) (acked : ℕ) : TcpSock × ℕ :=
  let cwnd := tcpCubicCwndPackets s
  let ssthresh := max (s.cong.sndSsthresh / tcpCaMss s.nego) 2
  if ssthresh ≤ cwnd then (s, acked)
  else
    let increase := min acked (ssthresh - cwnd)
    (tcpCubicSetCwndPackets s (cwnd + increase), acked - increase)

def cubicAvoid (s : TcpSock) (acked : ℕ) : TcpSock :=
  let cwnd := tcpCubicCwndPackets s
  let c := tcpCubicUpdate s.cong.cubic s.env.now cwnd acked
  let credits := c.cwndCnt + acked
  let increase := credits / c.cnt % 2 ^ 32
  let s₁ : TcpSock := { s with cong.cubic := { c with cwndCnt := credits % c.cnt } }
  if increase = 0 then s₁ else tcpCubicSetCwndPackets s₁ (cwnd + increase)

def tcpCubicCongAvoid (s : TcpSock) (acked : ℕ) : TcpSock :=
  if s.cong.sndCwnd < s.cong.sndSsthresh then
    let (s₁, rest) := tcpCubicSlowStart s acked
    if rest = 0 then s₁ else cubicAvoid s₁ rest
  else cubicAvoid s acked

def tcpCubicRecalcSsthresh (s : TcpSock) : Cubic × ℕ :=
  let c := s.cong.cubic
  let cwnd := tcpCubicCwndPackets s
  ({ c with
      epochStartMs := 0
      cwndCnt := 0
      lastMaxCwnd := if cwnd < c.lastMaxCwnd then cwnd * (1024 + 717) / (2 * 1024) else cwnd },
    min (max (cwnd * 717 / 1024) 2 * tcpCaMss s.nego) u32Max)

def tcpCongestionInit (n : Nego) : CongState :=
  { sndCwnd := min (10 * tcpCaMss n) u32Max, sndSsthresh := u32Max }

def tcpCongestionMssChanged (s : TcpSock) : TcpSock :=
  if s.core.state = .closed ∨ s.core.state = .synSent ∨ s.core.state = .synReceived then
    { s with cong := tcpCongestionInit s.nego }
  else s

def tcpCongestionOnAck (s : TcpSock) (ackedBytes : ℕ) (wasCwndLimited : Bool) : TcpSock × Bool :=
  if s.cong.caState ≠ .open then
    if geq s.snd.sndUna s.cong.caRecoverySeq then
      let s₁ := tcpCaSetCwnd s s.cong.sndSsthresh
      ({ s₁ with cong.caState := .open, cong.cubic.cwndCnt := 0 }, false)
    else if s.cong.caState = .recovery then
      (tcpCaSetCwnd s (tcpCaSaturatingAdd s.cong.sndSsthresh (tcpCaMss s.nego)), true)
    else (s, true)
  else if wasCwndLimited && ackedBytes != 0 then
    let total := s.cong.cubic.ackedBytes + ackedBytes
    let packets := min (total / tcpCaMss s.nego) u32Max
    let s₁ : TcpSock := { s with cong.cubic.ackedBytes := total % tcpCaMss s.nego }
    (if packets = 0 then s₁ else tcpCubicCongAvoid s₁ packets, false)
  else (s, false)

def tcpCongestionOnDuplicateAck (s : TcpSock) (duplicateAcks : ℕ) : TcpSock × Bool :=
  if duplicateAcks = 3 ∧ s.cong.caState = .open then
    let (c, ssthresh) := tcpCubicRecalcSsthresh s
    let s₁ : TcpSock := { s with
      cong.caPriorCwnd := s.cong.sndCwnd
      cong.cubic := c
      cong.sndSsthresh := ssthresh
      cong.caRecoverySeq := s.snd.sndNxt
      cong.caState := .recovery }
    (tcpCaSetCwnd s₁ (tcpCaSaturatingAdd ssthresh (3 * tcpCaMss s.nego)), true)
  else if 3 < duplicateAcks ∧ s.cong.caState = .recovery then
    (tcpCaSetCwnd s (tcpCaSaturatingAdd s.cong.sndCwnd (tcpCaMss s.nego)), false)
  else (s, false)

def tcpCongestionOnTimeout (s : TcpSock) : TcpSock :=
  let s₁ : TcpSock :=
    if s.cong.caState = .open then
      let (c, ssthresh) := tcpCubicRecalcSsthresh s
      { s with
        cong.caPriorCwnd := s.cong.sndCwnd
        cong.cubic := c
        cong.sndSsthresh := ssthresh
        cong.caRecoverySeq := s.snd.sndNxt }
    else s
  let s₂ := tcpCaSetCwnd { s₁ with cong.caState := .loss } (tcpCaMss s.nego)
  { s₂ with cong.cubic := {} }

lemma tcpCaSetCwnd_frame (w : ℕ) : ∃ w' t, tcpCaSetCwnd s w = { s with cong.sndCwnd := w', tm := t } := by
  obtain ⟨t, h⟩ := tcpSndCwndChange_frame s (max w (tcpCaMss s.nego))
  exact ⟨_, t, h⟩

lemma cubicAvoid_frame (n : ℕ) :
    ∃ w c t, cubicAvoid s n = { s with cong.sndCwnd := w, cong.cubic := c, tm := t } := by
  simp only [cubicAvoid, tcpCubicSetCwndPackets]
  split
  · exact ⟨s.cong.sndCwnd, _, s.tm, rfl⟩
  · obtain ⟨w, t, h⟩ := tcpCaSetCwnd_frame _ _
    exact ⟨w, _, t, h⟩

lemma tcpCubicCongAvoid_frame (n : ℕ) :
    ∃ w c t, tcpCubicCongAvoid s n = { s with cong.sndCwnd := w, cong.cubic := c, tm := t } := by
  have hslow : ∃ w t, (tcpCubicSlowStart s n).1 = { s with cong.sndCwnd := w, tm := t } := by
    simp only [tcpCubicSlowStart, tcpCubicSetCwndPackets]
    split
    · exact ⟨s.cong.sndCwnd, s.tm, rfl⟩
    · exact tcpCaSetCwnd_frame _ _
  obtain ⟨w, t, h⟩ := hslow
  simp only [tcpCubicCongAvoid]
  split
  · split
    · exact ⟨w, s.cong.cubic, t, h⟩
    · obtain ⟨w', c, t', h'⟩ := cubicAvoid_frame (tcpCubicSlowStart s n).1 (tcpCubicSlowStart s n).2
      exact ⟨w', c, t', by rw [h', h]⟩
  · exact cubicAvoid_frame s n

lemma tcpCongestionMssChanged_frame :
    ∃ c, tcpCongestionMssChanged s = { s with cong := c } ∧ (c = s.cong ∨
      (s.core.state = .closed ∨ s.core.state = .synSent ∨ s.core.state = .synReceived) ∧ c = tcpCongestionInit s.nego) := by
  unfold tcpCongestionMssChanged
  split
  · next hst => exact ⟨_, rfl, Or.inr ⟨hst, rfl⟩⟩
  · exact ⟨s.cong, rfl, Or.inl rfl⟩

lemma tcpCongestionOnAck_spec (n : ℕ) (b : Bool) :
    ∃ c t, (tcpCongestionOnAck s n b).1 = { s with cong := c, tm := t } ∧
      (c.caState = .open ∨ (c.caState = s.cong.caState ∧ c.caRecoverySeq = s.cong.caRecoverySeq ∧
        geq s.snd.sndUna s.cong.caRecoverySeq = false)) ∧
      ((tcpCongestionOnAck s n b).2 = true → c.caState ≠ .open) := by
  unfold tcpCongestionOnAck
  split
  · next hne =>
    split
    · obtain ⟨w, t, hc⟩ := tcpCaSetCwnd_frame s s.cong.sndSsthresh
      exact ⟨_, t, by simp only [hc]; rfl, Or.inl rfl, nofun⟩
    · next h' =>
      have hg : geq s.snd.sndUna s.cong.caRecoverySeq = false := by simpa using h'
      split
      · obtain ⟨w, t, hc⟩ := tcpCaSetCwnd_frame s
          (tcpCaSaturatingAdd s.cong.sndSsthresh (tcpCaMss s.nego))
        exact ⟨_, t, hc, Or.inr ⟨rfl, rfl, hg⟩, fun _ => hne⟩
      · exact ⟨s.cong, s.tm, rfl, Or.inr ⟨rfl, rfl, hg⟩, fun _ => hne⟩
  · next h =>
    have ho : s.cong.caState = .open := by simpa using h
    split
    · simp only
      split
      · exact ⟨{ s.cong with cubic.ackedBytes := _ }, s.tm, rfl, Or.inl ho, nofun⟩
      · obtain ⟨w, c, t, hc⟩ := tcpCubicCongAvoid_frame
          { s with cong.cubic.ackedBytes := (s.cong.cubic.ackedBytes + n) % tcpCaMss s.nego }
          (min ((s.cong.cubic.ackedBytes + n) / tcpCaMss s.nego) u32Max)
        exact ⟨_, t, hc, Or.inl ho, nofun⟩
    · exact ⟨s.cong, s.tm, rfl, Or.inl ho, nofun⟩

lemma tcpCongestionOnDuplicateAck_spec (n : ℕ) :
    ∃ c t b, tcpCongestionOnDuplicateAck s n = ({ s with cong := c, tm := t }, b) ∧
      ((c.caState = s.cong.caState ∧ c.caRecoverySeq = s.cong.caRecoverySeq) ∨
        c.caRecoverySeq = s.snd.sndNxt) ∧ (b = true → c.caState ≠ .open) := by
  simp only [tcpCongestionOnDuplicateAck]
  split
  · obtain ⟨w, t, hc⟩ := tcpCaSetCwnd_frame _ _
    exact ⟨_, t, true, by rw [hc], Or.inr rfl, fun _ => by simp⟩
  split
  · obtain ⟨w, t, hc⟩ := tcpCaSetCwnd_frame s (tcpCaSaturatingAdd s.cong.sndCwnd (tcpCaMss s.nego))
    exact ⟨{ s.cong with sndCwnd := w }, t, false, by rw [hc], Or.inl ⟨rfl, rfl⟩, nofun⟩
  · exact ⟨s.cong, s.tm, false, rfl, Or.inl ⟨rfl, rfl⟩, nofun⟩

lemma tcpCongestionOnTimeout_spec :
    ∃ c t, tcpCongestionOnTimeout s = { s with cong := c, tm := t } ∧ c.caState = .loss ∧
      ((s.cong.caState ≠ .open ∧ c.caRecoverySeq = s.cong.caRecoverySeq) ∨
        c.caRecoverySeq = s.snd.sndNxt) := by
  simp only [tcpCongestionOnTimeout]
  split
  · obtain ⟨w, t, hc⟩ := tcpCaSetCwnd_frame _ _
    exact ⟨_, t, by rw [hc], rfl, Or.inr rfl⟩
  · next h =>
    obtain ⟨w, t, hc⟩ := tcpCaSetCwnd_frame { s with cong.caState := .loss } (tcpCaMss s.nego)
    exact ⟨{ s.cong with sndCwnd := w, caState := .loss, cubic := {} }, t, by rw [hc], rfl, Or.inl ⟨h, rfl⟩⟩

end Netfast.Tcp
