import Netfast.Lib.Run
import Netfast.Tcp.Deadlines

/-! The retransmission timeout: what the handler of a data timeout leaves in the retransmission deadline. -/

namespace Netfast.Tcp

open Run

variable {s : TcpSock}

lemma tcpUpdateTimer_stopped {t : Timers} {which : Deadline} (h : t.deadline which = timerStop) (ms : ℕ)
    (override : Bool) : (tcpUpdateTimer t which ms override).deadline which = ms := by
  rcases tcpUpdateTimer_cases t which ms override with ⟨he, hk⟩ | he
  · rw [he]
    rcases hk with hk | hk
    · exact hk
    · exact absurd h hk.1
  · rw [he, Timers.set]
    simp

lemma tcpUpdateTimer_earlier {t : Timers} {which : Deadline} (h : t.deadline which ≠ timerStop) (ms : ℕ) :
    (tcpUpdateTimer t which ms false).deadline which = min (t.deadline which) ms := by
  simp only [tcpUpdateTimer]
  split
  · next he => rw [he, Nat.min_self]
  split
  · next hlt =>
    have hlt' : ms < t.deadline which := by
      rcases hlt with hlt | hlt | hlt
      · exact absurd hlt h
      · exact hlt
      · cases hlt
    rw [Nat.min_eq_right hlt'.le]
    split
    · rw [tcpResetTimer_deadline]
      simp [Timers.set]
    split <;> simp [Timers.set]
  · next hge =>
    rw [not_or, not_or, Nat.not_lt] at hge
    rw [Nat.min_eq_left hge.2.1]

lemma tcpSendWindowUpdate_restarts (hstop : s.tm.deadline .retransmit = timerStop) (hq : s.snd.retransmitQueue ≠ [])
    {a b : ℕ} (hb : b ≠ 0) :
    (tcpSendWindowUpdate s a b).tm.deadline .retransmit =
      if a = b then timerStop else s.env.now + s.retry.retransmitTimeout := by
  have ht : (sendWindowTimers s b).deadline .retransmit = s.env.now + s.retry.retransmitTimeout := by
    rw [sendWindowTimers, if_neg (not_or.mpr ⟨hq, hb⟩), if_pos hstop]
    exact tcpUpdateTimer_stopped hstop _ false
  rw [tcpSendWindowUpdate]
  split
  · exact hstop
  dsimp only
  split
  · rw [tcpUpdateTimer_other _ _ _ (by simp), ht]
  split
  · rw [tcpUpdateTimer_other _ _ _ (by simp), ht]
  · exact ht

def lossWindow (s : TcpSock) : ℕ := min s.win.sndWnd (tcpCaMss s.nego)

lemma tcpSndCwndChange_restarts (hstop : s.tm.deadline .retransmit = timerStop) (hq : s.snd.retransmitQueue ≠ [])
    {w : ℕ} (hw : 0 < w) :
    (tcpSndCwndChange s w).tm.deadline .retransmit =
      if s.winMin = min s.win.sndWnd w then timerStop else s.env.now + s.retry.retransmitTimeout := by
  rw [tcpSndCwndChange]
  split
  · next he =>
    rw [TcpSock.winMin, he, if_pos rfl]
    exact hstop
  · by_cases h0 : s.win.sndWnd = 0
    · -- a closed window stays closed
      have hz : s.winMin = min s.win.sndWnd w := by simp [TcpSock.winMin, h0]
      rw [if_pos hz]
      have hsame : s.winMin = TcpSock.winMin { s with cong.sndCwnd := w } := hz
      rw [tcpSendWindowUpdate, if_pos hsame]
      exact hstop
    · exact tcpSendWindowUpdate_restarts (s := { s with cong.sndCwnd := w }) hstop hq
        (by simp only [TcpSock.winMin]; omega)

lemma tcpCaSetCwnd_restarts (hstop : s.tm.deadline .retransmit = timerStop) (hq : s.snd.retransmitQueue ≠ [])
    (c : CongState) (hc : c.sndCwnd = s.cong.sndCwnd) :
    (tcpCaSetCwnd { s with cong := c } (tcpCaMss s.nego)).tm.deadline .retransmit =
      if s.winMin = lossWindow s then timerStop else s.env.now + s.retry.retransmitTimeout := by
  have h := tcpSndCwndChange_restarts (s := { s with cong := c }) hstop hq (tcpCaMss_pos s.nego)
  simp only [TcpSock.winMin, hc] at h
  simp only [tcpCaSetCwnd, Nat.max_self, TcpSock.winMin, lossWindow]
  exact h

lemma tcpCongestionOnTimeout_restarts (hstop : s.tm.deadline .retransmit = timerStop)
    (hq : s.snd.retransmitQueue ≠ []) :
    (tcpCongestionOnTimeout s).tm.deadline .retransmit =
      if s.winMin = lossWindow s then timerStop else s.env.now + s.retry.retransmitTimeout := by
  simp only [tcpCongestionOnTimeout]
  split
  · exact tcpCaSetCwnd_restarts hstop hq _ rfl
  · exact tcpCaSetCwnd_restarts hstop hq { s.cong with caState := .loss } rfl

/-- The timer callback serves a retransmission timeout of data that is not the last one. -/
structure DataTimeout (s : TcpSock) : Prop where
  first : s.due .nagle = false
  due : s.due .retransmit = true
  flight : s.snd.retransmitQueue ≠ []
  data : s.core.state ≠ .synSent ∧ s.core.state ≠ .synReceived
  tries : s.retry.retriesOut < s.retry.retriesMax

def backedOff (s : TcpSock) : TcpSock :=
  let s := tcpCongestionOnTimeout { s.clearDeadline .retransmit with retry.retriesOut := s.retry.retriesOut + 1 }
  let s : TcpSock := { s with retry.retransmitTimeout := tcpMetricsBackoff s.retry.retransmitTimeout }
  s.updateTimer .retransmit (s.env.now + s.retry.retransmitTimeout) false

lemma DataTimeout.served (h : DataTimeout s) :
    tcpTimerCb s = (tcpRetransmitSkb (backedOff s) (backedOff s).snd.retransmitQueue.head? false).1 := by
  have hq : (s.clearDeadline .retransmit).snd.retransmitQueue ≠ [] := h.flight
  have hst : ¬((s.clearDeadline .retransmit).core.state = .synSent ∨
      (s.clearDeadline .retransmit).core.state = .synReceived) := not_or.mpr h.data
  rw [tcpTimerCb, h.first, if_neg (by simp), h.due, if_pos rfl, retransmitTimeout, if_neg hq, if_neg hst]
  have htry : ¬(s.clearDeadline .retransmit).retry.retriesMax ≤ (s.clearDeadline .retransmit).retry.retriesOut :=
    Nat.not_le.mpr h.tries
  dsimp only
  rw [if_neg htry]
  rfl

lemma backedOff_deadline (h : DataTimeout s) :
    (backedOff s).tm.deadline .retransmit =
      if s.winMin = lossWindow s then s.env.now + tcpMetricsBackoff s.retry.retransmitTimeout
      else min (s.env.now + s.retry.retransmitTimeout) (s.env.now + tcpMetricsBackoff s.retry.retransmitTimeout) := by
  have hstop : (s.clearDeadline .retransmit).tm.deadline .retransmit = timerStop := by
    simp only [TcpSock.clearDeadline, tcpResetTimer_deadline, Timers.set]
    simp
  let s₁ : TcpSock := { s.clearDeadline .retransmit with retry.retriesOut := s.retry.retriesOut + 1 }
  have hcong := tcpCongestionOnTimeout_restarts (s := s₁) hstop h.flight
  obtain ⟨c, t, hc, -⟩ := tcpCongestionOnTimeout_spec s₁
  have ht : t.deadline .retransmit = (tcpCongestionOnTimeout s₁).tm.deadline .retransmit := by rw [hc]
  rw [hcong] at ht
  have hb : (backedOff s).tm = tcpUpdateTimer t .retransmit
      (s.env.now + tcpMetricsBackoff s.retry.retransmitTimeout) false := by
    simp only [backedOff]
    rw [show tcpCongestionOnTimeout { s.clearDeadline .retransmit with
      retry.retriesOut := s.retry.retriesOut + 1 } = _ from hc]
    rfl
  rw [hb]
  change t.deadline .retransmit =
    if s.winMin = lossWindow s then timerStop else s.env.now + s.retry.retransmitTimeout at ht
  by_cases hw : s.winMin = lossWindow s
  · rw [if_pos hw] at ht ⊢
    exact tcpUpdateTimer_stopped ht _ false
  · rw [if_neg hw] at ht ⊢
    by_cases h0 : s.env.now + s.retry.retransmitTimeout = timerStop
    · rw [tcpUpdateTimer_stopped (ht.trans h0)]
      have hz : s.env.now = 0 ∧ s.retry.retransmitTimeout = 0 := by
        rw [timerStop] at h0
        omega
      simp [hz, tcpMetricsBackoff, tcpRetransmitTimeoutMsMax]
    · rw [tcpUpdateTimer_earlier (ht ▸ h0), ht]

/-- The next deadline is the backed-off one exactly when the timeout leaves the usable window as it was, or
there is nothing to back off from. -/
theorem timeout_backs_off_iff (h : DataTimeout s) :
    (tcpTimerCb s).tm.deadline .retransmit = s.env.now + tcpMetricsBackoff s.retry.retransmitTimeout ↔
      s.winMin = lossWindow s ∨ tcpMetricsBackoff s.retry.retransmitTimeout ≤ s.retry.retransmitTimeout := by
  have hsend := (tcpRetransmitSkb_sends (backedOff s) (backedOff s).snd.retransmitQueue.head? false).deadline
    .retransmit (by simp)
  rw [h.served, hsend, backedOff_deadline h]
  split
  · next hw => simp [hw]
  · next hw =>
    simp only [hw, false_or]
    omega

/-! One byte goes out at 15 and is not acknowledged; the peer's window is `wnd`. -/

def unackedSock (wnd : ℕ) : TcpSock :=
  let s := establishedSock 100 500
  run step { s with win := { s.win with sndWnd := wnd } }
    [{ action := .write [1] false, inputs := { now := 5 } }, { action := .timer, inputs := { now := 15 } }]

def timedOut (wnd : ℕ) : TcpSock := (unackedSock wnd).withInputs { now := 1015 }

lemma timedOut_dataTimeout (wnd : ℕ) (h : wnd = 1 ∨ wnd = 262144) : DataTimeout (timedOut wnd) := by
  rcases h with rfl | rfl
  · exact ⟨by decide, by decide, by decide, by decide, by decide⟩
  · exact ⟨by decide, by decide, by decide, by decide, by decide⟩

theorem timeout_backs_off_iff_small_window : (tcpTimerCb (timedOut 1)).tm.deadline .retransmit = 3015 := by
  have h := (timeout_backs_off_iff (timedOut_dataTimeout 1 (.inl rfl))).mpr (.inl (by decide))
  have hr : (timedOut 1).retry.retransmitTimeout = 1000 := by decide
  rw [h, hr]
  rfl

/-- The timeout shuts the congestion window to one segment, which starts the timer with the old timeout. -/
theorem timeout_keeps_old_deadline :
    DataTimeout (timedOut 262144) ∧ (timedOut 262144).retry.retransmitTimeout = 1000 ∧
      tcpMetricsBackoff 1000 = 2000 ∧ (tcpTimerCb (timedOut 262144)).tm.deadline .retransmit = 1015 + 1000 :=
  ⟨timedOut_dataTimeout 262144 (.inr rfl), by decide, by decide, by decide⟩

end Netfast.Tcp
