import Netfast.Tcp.Wire

/-! What arming and stopping does to the deadlines, and what a transmission leaves alone of them. -/

namespace Netfast.Tcp

open Skbuff

variable {s s' : TcpSock} {t : Timers} {d which : Deadline} {ms : ℕ} {override : Bool}

lemma tcpResetTimer_deadline (t : Timers) : (tcpResetTimer t).deadline = t.deadline := by
  simp only [tcpResetTimer]
  split <;> rfl

lemma Timers.set_self (t : Timers) (which : Deadline) (ms : ℕ) : (t.set which ms).deadline which = ms := if_pos rfl

lemma tcpUpdateTimer_cases (t : Timers) (which : Deadline) (ms : ℕ) (override : Bool) :
    (tcpUpdateTimer t which ms override).deadline = t.deadline ∧
        (t.deadline which = ms ∨ t.deadline which ≠ timerStop ∧ t.deadline which ≤ ms ∧ override = false) ∨
      (tcpUpdateTimer t which ms override).deadline = (t.set which ms).deadline := by
  simp only [tcpUpdateTimer]
  split
  · next h => exact Or.inl ⟨rfl, Or.inl h⟩
  split
  · right
    split
    · exact tcpResetTimer_deadline _
    split
    · rfl
    · rfl
  · next h =>
    rw [not_or, not_or, Nat.not_lt, Bool.not_eq_true] at h
    exact Or.inl ⟨rfl, Or.inr h⟩

lemma tcpUpdateTimer_other (t : Timers) (ms : ℕ) (override : Bool) (h : d ≠ which) :
    (tcpUpdateTimer t which ms override).deadline d = t.deadline d := by
  rcases tcpUpdateTimer_cases t which ms override with ⟨he, -⟩ | he
  · rw [he]
  · rw [he, Timers.set]
    simp [h]

lemma tcpUpdateTimer_armed (t : Timers) (which : Deadline) (override : Bool) (h : ms ≠ timerStop) :
    (tcpUpdateTimer t which ms override).deadline which ≠ timerStop := by
  rcases tcpUpdateTimer_cases t which ms override with ⟨he, hk⟩ | he
  · rw [he]
    rcases hk with hk | hk
    · rw [hk]
      exact h
    · exact hk.1
  · rw [he, Timers.set]
    simpa using h

lemma tcpUpdateTimer_keeps (t : Timers) (override : Bool) (h : ms ≠ timerStop)
    (hd : t.deadline d ≠ timerStop) : (tcpUpdateTimer t which ms override).deadline d ≠ timerStop := by
  by_cases hw : d = which
  · rw [hw]
    exact tcpUpdateTimer_armed t which override h
  · rw [tcpUpdateTimer_other t ms override hw]
    exact hd

lemma clearDeadline_other (s : TcpSock) (h : d ≠ which) :
    (s.clearDeadline which).tm.deadline d = s.tm.deadline d := by
  simp only [TcpSock.clearDeadline, tcpResetTimer_deadline, Timers.set]
  simp [h]

structure Sends (s s' : TcpSock) : Prop where
  deadline : ∀ d, d ≠ .ack → s'.tm.deadline d = s.tm.deadline d
  retries : s'.retry.retriesOut = s.retry.retriesOut
  cwnd : 0 < s.cong.sndCwnd → 0 < s'.cong.sndCwnd
  now : s'.env.now = s.env.now

lemma Sends.refl (s : TcpSock) : Sends s s := ⟨fun _ _ => rfl, rfl, fun h => h, rfl⟩

lemma Sends.trans {a b c : TcpSock} (h : Sends a b) (h' : Sends b c) : Sends a c :=
  ⟨fun d hd => (h'.deadline d hd).trans (h.deadline d hd), h'.retries.trans h.retries, fun hc => h'.cwnd (h.cwnd hc),
    h'.now.trans h.now⟩

lemma Sends.of_eq (ht : s'.tm = s.tm) (hr : s'.retry.retriesOut = s.retry.retriesOut) (hc : s'.cong = s.cong)
    (hn : s'.env.now = s.env.now) : Sends s s' :=
  ⟨fun _ _ => by rw [ht], hr, fun h => by rw [hc]; exact h, hn⟩

lemma Sends.after {s₁ : TcpSock} (h : Sends s₁ s') (ht : s₁.tm = s.tm)
    (hr : s₁.retry.retriesOut = s.retry.retriesOut) (hc : s₁.cong = s.cong) (hn : s₁.env.now = s.env.now) :
    Sends s s' :=
  .trans (.of_eq ht hr hc hn) h

lemma tcpCongestionInit_cwnd (n : Nego) : 0 < (tcpCongestionInit n).sndCwnd := by
  simp only [tcpCongestionInit, tcpCaMss, u32Max]
  split <;> omega

section

variable (s)

lemma setTcpSocketRoute_sends : Sends s (setTcpSocketRoute s).1 := by
  obtain ⟨ro, n, c, re, f, as, h, -, hc, hre, -⟩ := setTcpSocketRoute_frame s
  rw [h]
  refine ⟨fun _ _ => rfl, hre, fun hpos => ?_, rfl⟩
  rcases hc with rfl | ⟨-, rfl⟩
  · exact hpos
  · exact tcpCongestionInit_cwnd n

lemma submit_sends (seq ack : Seq) (flags : Flags) (payload : List UInt8) (o : Bool) :
    Sends s (submit s seq ack flags payload o).1 := by
  obtain ⟨n, f, ws, -, h | h⟩ := submit_cases s seq ack flags payload o
  · rw [h]
    exact .of_eq rfl rfl rfl rfl
  · rw [h]
    exact ⟨fun d hd => tcpUpdateTimer_other _ _ _ hd, rfl, fun h => h, rfl⟩

lemma tcpSendFlag_sends (seq ack : Seq) (flag : Flags) (h : flag.syn = false) :
    Sends s (tcpSendFlag s seq ack flag).1 := by
  rw [tcpSendFlag.eq_def]
  split
  · exact .of_eq rfl rfl rfl rfl
  split
  · exact .of_eq rfl rfl rfl rfl
  rw [h]
  exact (submit_sends { s with env.fates := _ } seq ack flag [] true).after rfl rfl rfl rfl

lemma tcpXmitSegment_sends (b : SkBuff) (budget : ℕ) (push : Bool) :
    Sends s (tcpXmitSegment s b budget push).1 := by
  rw [tcpXmitSegment.eq_def]
  split
  · exact .of_eq rfl rfl rfl rfl
  next f _ =>
  split
  · exact .of_eq rfl rfl rfl rfl
  have hr : Sends s (setTcpSocketRoute { s with env.fates := f }).1 :=
    (setTcpSocketRoute_sends { s with env.fates := f }).after rfl rfl rfl rfl
  split
  · next s₁ he =>
    rw [he] at hr
    exact .trans hr (.of_eq rfl rfl rfl rfl)
  · next s₁ he =>
    rw [he] at hr
    dsimp only
    split
    · exact .trans hr (.of_eq rfl rfl rfl rfl)
    · exact .trans hr (submit_sends _ _ _ _ _ _)

lemma tcpRetransmitSkb_sends (b : Option SkBuff) (probe : Bool) :
    Sends s (tcpRetransmitSkb s b probe).1 := by
  rcases tcpRetransmitSkb_cases s b probe with he | he | ⟨a, n, -, he⟩ <;> rw [he]
  · exact .of_eq rfl rfl rfl rfl
  · exact .refl s
  · exact (tcpXmitSegment_sends { s with retry.rttMeasTime := 0 } a n false).after rfl rfl rfl rfl

end

end Netfast.Tcp
