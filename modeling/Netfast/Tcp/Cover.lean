import Netfast.Tcp.Deadlines
import Netfast.Tcp.SendRun

/-! A sender with something to send has a deadline armed for it. -/

namespace Netfast.Tcp

open Serial Skbuff

variable {s s' : TcpSock}

structure Cover (q : SendState) (wnd : ℕ) (t : Timers) : Prop where
  flight : q.retransmitQueue ≠ [] → wnd ≠ 0 → t.deadline .retransmit ≠ timerStop
  unsent : q.retransmitQueue = [] → q.sendQueue ≠ [] → wnd ≠ 0 → t.deadline .nagle ≠ timerStop
  shut : wnd = 0 → q.sendQueue ≠ [] → t.deadline .persist ≠ timerStop ∨ t.deadline .nagle ≠ timerStop
  probe : wnd = 0 → q.sendQueue = [] → q.retransmitQueue ≠ [] →
    t.deadline .persist ≠ timerStop ∨ t.deadline .retransmit ≠ timerStop

/-- One of the three deadlines a sender can wait for is armed. -/
def Timers.senderArmed (t : Timers) : Prop :=
  t.deadline .retransmit ≠ timerStop ∨ t.deadline .persist ≠ timerStop ∨ t.deadline .nagle ≠ timerStop

lemma Cover.armed {q : SendState} {wnd : ℕ} {t : Timers} (h : Cover q wnd t)
    (hq : q.retransmitQueue ≠ [] ∨ q.sendQueue ≠ []) : t.senderArmed := by
  by_cases hr : q.retransmitQueue = []
  · have hs := hq.resolve_left (not_not_intro hr)
    by_cases hw : wnd = 0
    · rcases h.shut hw hs with h | h
      · exact Or.inr (Or.inl h)
      · exact Or.inr (Or.inr h)
    · exact Or.inr (Or.inr (h.unsent hr hs hw))
  · by_cases hw : wnd = 0
    · by_cases hs : q.sendQueue = []
      · rcases h.probe hw hs hr with h | h
        · exact Or.inr (Or.inl h)
        · exact Or.inl h
      · rcases h.shut hw hs with h | h
        · exact Or.inr (Or.inl h)
        · exact Or.inr (Or.inr h)
    · exact Or.inl (h.flight hr hw)

structure Sane (s : TcpSock) : Prop where
  cwnd : 0 < s.cong.sndCwnd
  wnd : s.win.sndWnd < 2 ^ 30
  drained : s.snd.retransmitQueue = [] → s.snd.sndNxt = s.snd.sndUna
  scale : s.nego.sndWndScale ≤ 14
  now : 0 < s.env.now

structure Ready (s : TcpSock) : Prop extends Sane s where
  cover : Cover s.snd s.win.sndWnd s.tm

lemma Sane.soon (h : Sane s) (ms : ℕ) : s.env.now + ms ≠ timerStop := by
  have := h.now
  rw [timerStop]
  omega

structure Aside (s s' : TcpSock) : Prop where
  retransmit : s'.tm.deadline .retransmit = s.tm.deadline .retransmit
  persist : s'.tm.deadline .persist = s.tm.deadline .persist
  nagle : s'.tm.deadline .nagle = s.tm.deadline .nagle
  flight : s'.snd.retransmitQueue = s.snd.retransmitQueue
  queue : s'.snd.sendQueue = s.snd.sendQueue
  una : s'.snd.sndUna = s.snd.sndUna
  nxt : s'.snd.sndNxt = s.snd.sndNxt
  wnd : s'.win.sndWnd = s.win.sndWnd
  cwnd : 0 < s.cong.sndCwnd → 0 < s'.cong.sndCwnd
  scale : s'.nego.sndWndScale = s.nego.sndWndScale
  now : s'.env.now = s.env.now

lemma Aside.refl (s : TcpSock) : Aside s s := ⟨rfl, rfl, rfl, rfl, rfl, rfl, rfl, rfl, fun h => h, rfl, rfl⟩

lemma Aside.trans {a b c : TcpSock} (h : Aside a b) (h' : Aside b c) : Aside a c :=
  ⟨h'.retransmit.trans h.retransmit, h'.persist.trans h.persist, h'.nagle.trans h.nagle, h'.flight.trans h.flight,
    h'.queue.trans h.queue, h'.una.trans h.una, h'.nxt.trans h.nxt, h'.wnd.trans h.wnd, fun hc => h'.cwnd (h.cwnd hc),
    h'.scale.trans h.scale, h'.now.trans h.now⟩

lemma Aside.of_sends (h : Sends s s') (hk : Keeps s s') : Aside s s' := by
  have hd (d : Deadline) (hne : d ≠ .ack) := h.deadline d hne
  exact ⟨hd _ nofun, hd _ nofun, hd _ nofun, by rw [hk.snd], by rw [hk.snd], by rw [hk.snd], by rw [hk.snd],
    by rw [hk.win], h.cwnd, hk.scale, h.now⟩

lemma Aside.of_frame (ht : s'.tm = s.tm) (hs : s'.snd = s.snd) (hw : s'.win.sndWnd = s.win.sndWnd)
    (hc : s'.cong = s.cong) (hn : s'.nego.sndWndScale = s.nego.sndWndScale) (he : s'.env.now = s.env.now) :
    Aside s s' :=
  ⟨by rw [ht], by rw [ht], by rw [ht], by rw [hs], by rw [hs], by rw [hs], by rw [hs], hw, fun h => by rw [hc]; exact h,
    hn, he⟩

def Deadline.other : Deadline → Bool
  | .retransmit | .persist | .nagle => false
  | _ => true

variable {which : Deadline}

lemma Aside.update (h : Aside s s') (hw : which.other = true) (ms : ℕ) (override : Bool) :
    Aside s (s'.updateTimer which ms override) := by
  have hd (d : Deadline) (hne : d.other = false) :
      (tcpUpdateTimer s'.tm which ms override).deadline d = s'.tm.deadline d := by
    apply tcpUpdateTimer_other
    rintro rfl
    rw [hw] at hne
    cases hne
  exact h.trans ⟨hd _ rfl, hd _ rfl, hd _ rfl, rfl, rfl, rfl, rfl, rfl, fun h => h, rfl, rfl⟩

lemma Aside.clear (s : TcpSock) (hw : which.other = true) : Aside s (s.clearDeadline which) := by
  have hd (d : Deadline) (hne : d.other = false) : (s.clearDeadline which).tm.deadline d = s.tm.deadline d := by
    apply clearDeadline_other
    rintro rfl
    rw [hw] at hne
    cases hne
  exact ⟨hd _ rfl, hd _ rfl, hd _ rfl, rfl, rfl, rfl, rfl, rfl, fun h => h, rfl, rfl⟩

lemma Sane.aside (h : Sane s) (ha : Aside s s') : Sane s' :=
  ⟨ha.cwnd h.cwnd, by rw [ha.wnd]; exact h.wnd, by rw [ha.flight, ha.nxt, ha.una]; exact h.drained,
    by rw [ha.scale]; exact h.scale, by rw [ha.now]; exact h.now⟩

lemma Ready.aside (h : Ready s) (ha : Aside s s') : Ready s' := by
  refine ⟨h.toSane.aside ha, ?_, ?_, ?_, ?_⟩
  · rw [ha.flight, ha.wnd, ha.retransmit]
    exact h.cover.flight
  · rw [ha.flight, ha.queue, ha.wnd, ha.nagle]
    exact h.cover.unsent
  · rw [ha.queue, ha.wnd, ha.persist, ha.nagle]
    exact h.cover.shut
  · rw [ha.flight, ha.queue, ha.wnd, ha.persist, ha.retransmit]
    exact h.cover.probe

lemma Sane.winMin_pos (h : Sane s) (hw : s.win.sndWnd ≠ 0) : s.winMin ≠ 0 := by
  have := h.cwnd
  rw [TcpSock.winMin]
  omega

lemma Sane.sendable (h : Sane s) (hr : s.snd.retransmitQueue = []) (hq : s.snd.sendQueue ≠ [])
    (hw : s.win.sndWnd ≠ 0) : s.sendable s.winMin = true := by
  have hpos := h.winMin_pos hw
  have hle : s.winMin ≤ s.win.sndWnd := Nat.min_le_left _ _
  have hlt := h.wnd
  have hl : lt s.snd.sndNxt (s.snd.sndUna + BitVec.ofNat 32 s.winMin) = true := by
    rw [h.drained hr, lt_iff]
    bv_omega
  rw [TcpSock.sendable, hl, Bool.and_true]
  simp [hpos, hq]

lemma Sane.windowTimers (h : Sane s) {limit : ℕ} (hr : s.snd.retransmitQueue ≠ []) (hl : limit ≠ 0) :
    (sendWindowTimers s limit).deadline .retransmit ≠ timerStop := by
  rw [sendWindowTimers, if_neg (not_or.mpr ⟨hr, hl⟩)]
  split
  · exact tcpUpdateTimer_armed _ _ _ (h.soon _)
  · next hne => exact hne

lemma tcpSendWindowUpdate_cover (h : Sane s) (hw : s.win.sndWnd ≠ 0) (old : ℕ) (hne : old ≠ s.winMin) :
    Cover s.snd s.win.sndWnd (tcpSendWindowUpdate s old s.winMin).tm := by
  have hl := h.winMin_pos hw
  have hfl {t : Timers} (ht : t.deadline .retransmit = (sendWindowTimers s s.winMin).deadline .retransmit) :
      s.snd.retransmitQueue ≠ [] → s.win.sndWnd ≠ 0 → t.deadline .retransmit ≠ timerStop := by
    intro hr _
    rw [ht]
    exact h.windowTimers hr hl
  have hother (ms : ℕ) : (tcpUpdateTimer (sendWindowTimers s s.winMin) .nagle ms false).deadline .retransmit =
      (sendWindowTimers s s.winMin).deadline .retransmit := tcpUpdateTimer_other _ _ _ (by simp)
  simp only [tcpSendWindowUpdate, if_neg hne]
  split
  · next hs =>
    refine ⟨hfl (hother _), fun hr hq _ => ?_, fun hz => absurd hz hw, fun hz => absurd hz hw⟩
    rw [h.sendable hr hq hw] at hs
    cases hs
  split
  · refine ⟨hfl (hother _), fun _ _ _ => tcpUpdateTimer_armed _ _ _ (h.soon 0), fun hz => absurd hz hw,
      fun hz => absurd hz hw⟩
  · next hs =>
    rw [not_or] at hs
    exact ⟨hfl rfl, fun _ _ _ => hs.2, fun hz => absurd hz hw, fun hz => absurd hz hw⟩

lemma tcpArmPersist_armed (h : Sane s) (hw : s.win.sndWnd = 0)
    (hq : s.snd.retransmitQueue ≠ [] ∨ s.snd.sendQueue ≠ []) :
    (tcpArmPersist s).tm.deadline .persist ≠ timerStop := by
  rw [tcpArmPersist]
  split
  · exact tcpUpdateTimer_armed _ _ _ (h.soon _)
  · next hne => exact fun hp => hne ⟨hw, hp, hq⟩

lemma Cover.of_persist {q : SendState} {t : Timers}
    (h : q.retransmitQueue ≠ [] ∨ q.sendQueue ≠ [] → t.deadline .persist ≠ timerStop) : Cover q 0 t :=
  ⟨fun _ h => absurd rfl h, fun _ _ h => absurd rfl h, fun _ hq => Or.inl (h (Or.inr hq)),
    fun _ _ hr => Or.inl (h (Or.inl hr))⟩

lemma tcpArmPersist_open (hw : s.win.sndWnd ≠ 0) : tcpArmPersist s = s := by
  rw [tcpArmPersist, if_neg fun h => hw h.1]

lemma tcpSndWinChange_cover (h : Ready s) {w : ℕ} (hw : w < 2 ^ 30) :
    Cover (tcpSndWinChange s w).snd (tcpSndWinChange s w).win.sndWnd (tcpSndWinChange s w).tm := by
  rw [tcpSndWinChange]
  split
  · exact h.cover
  next hne =>
  by_cases hz : w = 0
  · -- closing: both other deadlines stop, the probe takes their place
    subst hz
    simp only [if_true]
    obtain ⟨t, ht⟩ := tcpSendWindowUpdate_timers { s with retry.retriesOut := 0, win.sndWnd := 0 } s.winMin
      (TcpSock.winMin { s with retry.retriesOut := 0, win.sndWnd := 0 })
    rw [ht]
    have hs : Sane { s with retry.retriesOut := 0, win.sndWnd := 0, tm := t } :=
      ⟨h.cwnd, hw, h.drained, h.scale, h.now⟩
    have hp := tcpArmPersist_armed hs rfl
    obtain ⟨t', ht'⟩ := tcpArmPersist_timers { s with retry.retriesOut := 0, win.sndWnd := 0, tm := t }
    rw [ht'] at hp ⊢
    exact .of_persist hp
  · simp only [if_neg hz]
    by_cases hwas : s.win.sndWnd = 0
    · simp only [if_pos hwas]
      have hs : Sane { s with
        retry.persistBackoff := 2000
        retry.retriesOut := 0
        tm := tcpUpdateTimer s.tm .persist timerStop true
        win.sndWnd := w } := ⟨h.cwnd, hw, h.drained, h.scale, h.now⟩
      have hold : s.winMin = 0 := by rw [TcpSock.winMin, hwas, Nat.zero_min]
      have hc := tcpSendWindowUpdate_cover hs hz s.winMin (by rw [hold]; exact (hs.winMin_pos hz).symm)
      obtain ⟨t, ht⟩ := tcpSendWindowUpdate_timers { s with
        retry.persistBackoff := 2000
        retry.retriesOut := 0
        tm := tcpUpdateTimer s.tm .persist timerStop true
        win.sndWnd := w } s.winMin (TcpSock.winMin _)
      rw [ht] at hc ⊢
      rw [tcpArmPersist_open hz]
      exact hc
    · simp only [if_neg hwas]
      have hs : Sane { s with win.sndWnd := w } := ⟨h.cwnd, hw, h.drained, h.scale, h.now⟩
      by_cases hlim : s.winMin = TcpSock.winMin { s with win.sndWnd := w }
      · rw [tcpSendWindowUpdate, if_pos hlim, tcpArmPersist_open hz]
        exact ⟨fun hr _ => h.cover.flight hr hwas, fun hr hq _ => h.cover.unsent hr hq hwas, fun h0 => absurd h0 hz,
          fun h0 => absurd h0 hz⟩
      · have hc := tcpSendWindowUpdate_cover hs hz s.winMin hlim
        obtain ⟨t, ht⟩ := tcpSendWindowUpdate_timers { s with win.sndWnd := w } s.winMin (TcpSock.winMin _)
        rw [ht] at hc ⊢
        rw [tcpArmPersist_open hz]
        exact hc

lemma tcpSndWinChange_ready (h : Ready s) {w : ℕ} (hw : w < 2 ^ 30) : Ready (tcpSndWinChange s w) := by
  refine ⟨?_, tcpSndWinChange_cover h hw⟩
  obtain ⟨re, t, hf⟩ := tcpSndWinChange_frame s w
  rw [hf]
  exact ⟨h.cwnd, hw, h.drained, h.scale, h.now⟩

lemma tcpSndCwndChange_ready (h : Ready s) {w : ℕ} (hw : 0 < w) : Ready (tcpSndCwndChange s w) := by
  have hs : Sane { s with cong.sndCwnd := w } := ⟨hw, h.wnd, h.drained, h.scale, h.now⟩
  rw [tcpSndCwndChange]
  split
  · exact h
  dsimp only
  by_cases hlim : s.winMin = TcpSock.winMin { s with cong.sndCwnd := w }
  · rw [tcpSendWindowUpdate, if_pos hlim]
    exact ⟨hs, h.cover⟩
  · have hopen : s.win.sndWnd ≠ 0 := by
      intro hz
      apply hlim
      rw [TcpSock.winMin, TcpSock.winMin, hz, Nat.zero_min, Nat.zero_min]
    have hc := tcpSendWindowUpdate_cover hs hopen s.winMin hlim
    obtain ⟨t, ht⟩ := tcpSendWindowUpdate_timers { s with cong.sndCwnd := w } s.winMin (TcpSock.winMin _)
    rw [ht] at hc ⊢
    exact ⟨⟨hw, h.wnd, h.drained, h.scale, h.now⟩, hc⟩

lemma tcpCaSetCwnd_ready (h : Ready s) (w : ℕ) : Ready (tcpCaSetCwnd s w) := by
  have := tcpCaMss_pos s.nego
  exact tcpSndCwndChange_ready h (by omega)

lemma Ready.cong (h : Ready s) (c : CongState) (hc : c.sndCwnd = s.cong.sndCwnd) : Ready { s with cong := c } :=
  ⟨⟨by rw [hc]; exact h.cwnd, h.wnd, h.drained, h.scale, h.now⟩, h.cover⟩

lemma cubicAvoid_ready (h : Ready s) (n : ℕ) : Ready (cubicAvoid s n) := by
  simp only [cubicAvoid]
  split
  · exact h.cong _ rfl
  · apply tcpCaSetCwnd_ready
    exact h.cong _ rfl

lemma tcpCubicSlowStart_ready (h : Ready s) (n : ℕ) : Ready (tcpCubicSlowStart s n).1 := by
  simp only [tcpCubicSlowStart]
  split
  · exact h
  · exact tcpCaSetCwnd_ready h _

lemma tcpCubicCongAvoid_ready (h : Ready s) (n : ℕ) : Ready (tcpCubicCongAvoid s n) := by
  simp only [tcpCubicCongAvoid]
  split
  · split
    · exact tcpCubicSlowStart_ready h n
    · exact cubicAvoid_ready (tcpCubicSlowStart_ready h n) _
  · exact cubicAvoid_ready h n

lemma tcpCongestionOnAck_ready (h : Ready s) (n : ℕ) (b : Bool) : Ready (tcpCongestionOnAck s n b).1 := by
  rw [tcpCongestionOnAck]
  split
  · split
    · exact (tcpCaSetCwnd_ready h _).cong _ rfl
    split
    · exact tcpCaSetCwnd_ready h _
    · exact h
  split
  · dsimp only
    split
    · exact h.cong _ rfl
    · apply tcpCubicCongAvoid_ready
      exact h.cong _ rfl
  · exact h

lemma tcpCongestionOnDuplicateAck_ready (h : Ready s) (n : ℕ) : Ready (tcpCongestionOnDuplicateAck s n).1 := by
  simp only [tcpCongestionOnDuplicateAck]
  split
  · apply tcpCaSetCwnd_ready
    exact h.cong _ rfl
  split
  · exact tcpCaSetCwnd_ready h _
  · exact h

lemma tcpSendFlag_aside (s : TcpSock) (seq ack : Seq) (flag : Flags) (h : flag.syn = false) :
    Aside s (tcpSendFlag s seq ack flag).1 :=
  .of_sends (tcpSendFlag_sends s seq ack flag h) (tcpSendFlag_keeps s seq ack flag h)

lemma tcpRetransmitSkb_aside (s : TcpSock) (b : Option SkBuff) (probe : Bool) :
    Aside s (tcpRetransmitSkb s b probe).1 :=
  .of_sends (tcpRetransmitSkb_sends s b probe) (tcpRetransmitSkb_keeps s b probe)

lemma setTcpSocketRoute_aside (s : TcpSock) : Aside s (setTcpSocketRoute s).1 :=
  .of_sends (setTcpSocketRoute_sends s) (setTcpSocketRoute_keeps s)

lemma tcpXmitSegment_aside (s : TcpSock) (b : SkBuff) (n : ℕ) (push : Bool) : Aside s (tcpXmitSegment s b n push).1 :=
  .of_sends (tcpXmitSegment_sends s b n push) (tcpXmitSegment_keeps s b n push)

lemma Ready.arm (h : Ready s) {ms : ℕ} (override : Bool) (hms : ms ≠ timerStop) :
    Ready (s.updateTimer which ms override) := by
  have hk {d : Deadline} (hd : s.tm.deadline d ≠ timerStop) :
      (tcpUpdateTimer s.tm which ms override).deadline d ≠ timerStop := tcpUpdateTimer_keeps _ _ hms hd
  refine ⟨⟨h.cwnd, h.wnd, h.drained, h.scale, h.now⟩, fun hr hw => hk (h.cover.flight hr hw),
    fun hr hq hw => hk (h.cover.unsent hr hq hw), fun hw hq => ?_, fun hw hq hr => ?_⟩
  · exact (h.cover.shut hw hq).imp hk hk
  · exact (h.cover.probe hw hq hr).imp hk hk

lemma tcpRetransmitNow_ready (h : Ready s) : Ready (tcpRetransmitNow s) := by
  have h₁ := h.aside (tcpRetransmitSkb_aside s s.snd.retransmitQueue.head? false)
  exact h₁.arm true (h₁.soon _)

end Netfast.Tcp
