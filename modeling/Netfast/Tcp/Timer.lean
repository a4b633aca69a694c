import Netfast.Tcp.Types

/-! The timer task of a pcb, the RTO policy of `tcp_metrics.c`, and the functions that move the usable
window and rearm timers for it. -/

namespace Netfast.Tcp

open Serial

def timerStop : ℕ := 0

def timeouts : List Deadline := [.keepalive, .retransmit, .persist, .ack, .nagle, .timewait, .finwait2]

def tcpResetTimer (t : Timers) : Timers :=
  let next := timeouts.foldl
    (fun next d => if t.deadline d ≠ 0 ∧ (next = 0 ∨ t.deadline d < next) then t.deadline d else next) 0
  if next ≠ 0 then { t with timeout := next, registered := true }
  else { t with timeout := 0, registered := false }

def Timers.set (t : Timers) (which : Deadline) (ms : ℕ) : Timers :=
  { t with deadline := fun d => if d = which then ms else t.deadline d }

def tcpUpdateTimer (t : Timers) (which : Deadline) (ms : ℕ) (override : Bool) : Timers :=
  let old := t.deadline which
  if old = ms then t
  else if old = timerStop ∨ ms < old ∨ override then
    let t' := t.set which ms
    if !t.registered ∨ old = t.timeout then tcpResetTimer t'
    else if ms ≠ timerStop ∧ (t.timeout = timerStop ∨ ms < t.timeout) then
      { t' with timeout := ms, registered := true }
    else t'
  else t

abbrev TcpSock.updateTimer (s : TcpSock) (which : Deadline) (ms : ℕ) (override : Bool) : TcpSock :=
  { s with tm := tcpUpdateTimer s.tm which ms override }

abbrev TcpSock.ackNow (s : TcpSock) : TcpSock := s.updateTimer .ack s.env.now false

/-! `tcp_metrics.c`. -/

def tcpMetricsDefaultRto : ℕ := 1000
def tcpRtoMinMs : ℕ := 200
def tcpRetransmitTimeoutMsMax : ℕ := 6000

def tcpMetricsRto : Option Metrics → ℕ
  | none => tcpMetricsDefaultRto
  | some m =>
    if m.rtt = 0 then tcpMetricsDefaultRto
    else min (max (m.rtt + 4 * m.rttvar) tcpRtoMinMs) tcpRetransmitTimeoutMsMax

def tcpMetricsSample (m : Metrics) (measuredRtt : ℕ) : Metrics :=
  if measuredRtt = 0 then m
  else if m.rtt = 0 then { m with rtt := measuredRtt, rttvar := measuredRtt / 2 }
  else
    let err := if measuredRtt < m.rtt then m.rtt - measuredRtt else measuredRtt - m.rtt
    { m with rttvar := (3 * m.rttvar + err) / 4, rtt := (7 * m.rtt + measuredRtt) / 8 }

def tcpMetricsBackoff (rto : ℕ) : ℕ :=
  if tcpRetransmitTimeoutMsMax / 2 ≤ rto then tcpRetransmitTimeoutMsMax else rto * 2

def tcpDataMss (n : Nego) : ℕ := subU32 n.sndMss (if n.peerTsOk then 12 else 0)

def TcpSock.winMin (s : TcpSock) : ℕ := min s.win.sndWnd s.cong.sndCwnd

def TcpSock.sendable (s : TcpSock) (limit : ℕ) : Bool :=
  !s.snd.sendQueue.isEmpty && limit != 0 && lt s.snd.sndNxt (s.snd.sndUna + BitVec.ofNat 32 limit)

def tcpArmPersist (s : TcpSock) : TcpSock :=
  if s.win.sndWnd = 0 ∧ s.tm.deadline .persist = timerStop ∧
      (s.snd.retransmitQueue ≠ [] ∨ s.snd.sendQueue ≠ []) then
    s.updateTimer .persist (s.env.now + s.retry.persistBackoff) false
  else s

def sendWindowTimers (s : TcpSock) (newLimit : ℕ) : Timers :=
  if s.snd.retransmitQueue = [] ∨ newLimit = 0 then tcpUpdateTimer s.tm .retransmit timerStop true
  else if s.tm.deadline .retransmit = timerStop then
    tcpUpdateTimer s.tm .retransmit (s.env.now + s.retry.retransmitTimeout) false
  else s.tm

def tcpSendWindowUpdate (s : TcpSock) (oldLimit newLimit : ℕ) : TcpSock :=
  if oldLimit = newLimit then s
  else
    let t := sendWindowTimers s newLimit
    if !s.sendable newLimit then { s with tm := tcpUpdateTimer t .nagle timerStop false }
    else if !s.sendable oldLimit ∨ t.deadline .nagle = timerStop then
      { s with tm := tcpUpdateTimer t .nagle s.env.now false }
    else { s with tm := t }

def tcpSndWinChange (s : TcpSock) (newWnd : ℕ) : TcpSock :=
  if s.win.sndWnd = newWnd then s
  else
    let s₁ : TcpSock :=
      if newWnd = 0 then { s with retry.retriesOut := 0 }
      else if s.win.sndWnd = 0 then
        { s with
          retry.persistBackoff := 2000
          retry.retriesOut := 0
          tm := tcpUpdateTimer s.tm .persist timerStop true }
      else s
    let s₂ : TcpSock := { s₁ with win.sndWnd := newWnd }
    tcpArmPersist (tcpSendWindowUpdate s₂ s.winMin s₂.winMin)

def tcpSndCwndChange (s : TcpSock) (newCwnd : ℕ) : TcpSock :=
  if s.cong.sndCwnd = newCwnd then s
  else
    let s₁ : TcpSock := { s with cong.sndCwnd := newCwnd }
    tcpSendWindowUpdate s₁ s.winMin s₁.winMin

def OnlyTimers (s s' : TcpSock) : Prop := ∃ t, s' = { s with tm := t }

lemma tcpArmPersist_timers (s : TcpSock) : OnlyTimers s (tcpArmPersist s) := by
  unfold tcpArmPersist
  split
  · exact ⟨_, rfl⟩
  · exact ⟨s.tm, rfl⟩

lemma tcpSendWindowUpdate_timers (s : TcpSock) (a b : ℕ) : OnlyTimers s (tcpSendWindowUpdate s a b) := by
  simp only [tcpSendWindowUpdate]
  split_ifs
  · exact ⟨s.tm, rfl⟩
  all_goals exact ⟨_, rfl⟩

lemma tcpSndWinChange_spec (s : TcpSock) (w : ℕ) :
    ∃ r t, tcpSndWinChange s w = { s with win.sndWnd := w, retry := r, tm := t } ∧
      (r = s.retry ∨ ∃ b, r = { s.retry with persistBackoff := b, retriesOut := 0 }) := by
  simp only [tcpSndWinChange]
  split
  · next h => exact ⟨s.retry, s.tm, by rw [← h], .inl rfl⟩
  · obtain ⟨t, ht⟩ := tcpSendWindowUpdate_timers
      { (if w = 0 then { s with retry.retriesOut := 0 }
        else if s.win.sndWnd = 0 then
          { s with
            retry.persistBackoff := 2000
            retry.retriesOut := 0
            tm := tcpUpdateTimer s.tm .persist timerStop true }
        else s : TcpSock) with win.sndWnd := w } s.winMin _
    rw [ht]
    obtain ⟨t', ht'⟩ := tcpArmPersist_timers _
    rw [ht']
    split_ifs
    · exact ⟨_, _, rfl, .inr ⟨s.retry.persistBackoff, rfl⟩⟩
    · exact ⟨_, _, rfl, .inr ⟨_, rfl⟩⟩
    · exact ⟨_, _, rfl, .inl rfl⟩

lemma tcpSndWinChange_frame (s : TcpSock) (w : ℕ) :
    ∃ r t, tcpSndWinChange s w = { s with win.sndWnd := w, retry := r, tm := t } := by
  obtain ⟨r, t, h, -⟩ := tcpSndWinChange_spec s w
  exact ⟨r, t, h⟩

lemma tcpSndCwndChange_frame (s : TcpSock) (w : ℕ) :
    ∃ t, tcpSndCwndChange s w = { s with cong.sndCwnd := w, tm := t } := by
  simp only [tcpSndCwndChange]
  split
  · next h => exact ⟨s.tm, by rw [← h]⟩
  · obtain ⟨t, ht⟩ := tcpSendWindowUpdate_timers { s with cong.sndCwnd := w } s.winMin _
    exact ⟨t, ht⟩

end Netfast.Tcp
