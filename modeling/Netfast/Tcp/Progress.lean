import Netfast.Tcp.Closed
import Netfast.Tcp.Cover

/-! The sender never gets stuck: over every run, what is queued has a deadline that leads to it. -/

namespace Netfast.Tcp

open Serial Skbuff Run

variable {own : Prop} {iss : Seq} {data : List UInt8} {fin : Bool} {u x : ℕ} {s s' : TcpSock}

lemma ConnAt.drained (h : ConnAt own iss data fin u x s) (hr : s.snd.retransmitQueue = []) :
    s.snd.sndNxt = s.snd.sndUna := by
  have hf := h.send.flight
  rw [hr] at hf
  rw [h.send.nxt, h.send.una, show u = x from hf]

lemma ConnAt.sane (h : ConnAt own iss data fin u x s) (hc : 0 < s.cong.sndCwnd) (hn : 0 < s.env.now) : Sane s :=
  ⟨hc, h.wnd, h.drained, h.scale, hn⟩

lemma tcpUpdateRetransmitQueue_ready (h : Ready s) (c : SockCore) (w : SndWin) (hw : w.sndWnd = s.win.sndWnd)
    {ack : Seq} (hacks : (ackQueue ack s.snd.retransmitQueue).2.2 = true)
    (hd : (ackQueue ack s.snd.retransmitQueue).1 = [] → s.snd.sndNxt = ack) :
    Ready (tcpUpdateRetransmitQueue { s with core := c, snd.sndUna := ack, win := w }) := by
  let s₁ : TcpSock := { s with
    core := c
    win := w
    snd := { s.snd with
      sndUna := ack
      retransmitQueue := (ackQueue ack s.snd.retransmitQueue).1
      sendBufferLen := subU32 s.snd.sendBufferLen (ackQueue ack s.snd.retransmitQueue).2.1 }
    retry.retriesOut := 0
    retry.retransmitTimeout := tcpMetricsRto s.retry.metrics
    env.notified := s.env.notified ++ [.dataWrite] }
  have hs : Sane s₁ := ⟨h.cwnd, Nat.lt_of_le_of_lt (Nat.le_of_eq hw) h.wnd, hd, h.scale, h.now⟩
  obtain ⟨t, ht, hk, hn⟩ : ∃ t, ackedTimers { s with
      core := c
      win := w
      snd := { s.snd with
        sndUna := ack
        retransmitQueue := (ackQueue ack s.snd.retransmitQueue).1
        sendBufferLen := subU32 s.snd.sendBufferLen (ackQueue ack s.snd.retransmitQueue).2.1 } } =
        { s₁ with tm := t } ∧
      (∀ d, s.tm.deadline d ≠ timerStop → t.deadline d ≠ timerStop) ∧
      (s₁.snd.retransmitQueue = [] → s₁.snd.sendQueue ≠ [] → w.sndWnd ≠ 0 → t.deadline .nagle ≠ timerStop) := by
    simp only [ackedTimers]
    split
    · exact ⟨_, rfl, fun d hd => tcpUpdateTimer_keeps _ _ (hs.soon 0) hd,
        fun _ _ _ => tcpUpdateTimer_armed _ _ _ (hs.soon 0)⟩
    · next hsend =>
      exact ⟨s.tm, rfl, fun d hd => hd, fun hr hq hw => absurd (hs.sendable hr hq hw) hsend⟩
  have hshut : w.sndWnd = 0 → s.snd.sendQueue ≠ [] →
      t.deadline .persist ≠ timerStop ∨ t.deadline .nagle ≠ timerStop := by
    intro hz hq
    rw [hw] at hz
    exact (h.cover.shut hz hq).imp (hk _) (hk _)
  simp only [tcpUpdateRetransmitQueue, hacks, if_true, ht]
  split
  · next hr =>
    have ho {d : Deadline} (hne : d ≠ .retransmit) :
        (tcpUpdateTimer t .retransmit timerStop true).deadline d = t.deadline d := tcpUpdateTimer_other _ _ _ hne
    refine ⟨⟨hs.cwnd, hs.wnd, hs.drained, hs.scale, hs.now⟩, fun hne => absurd hr hne, ?_, ?_,
      fun _ _ hne => absurd hr hne⟩
    · intro _ hq hz
      rw [ho (by simp)]
      exact hn hr hq hz
    · intro hz hq
      rw [ho (by simp), ho (by simp)]
      exact hshut hz hq
  · next hr =>
    have harm := tcpUpdateTimer_armed t .retransmit true (hs.soon s₁.retry.retransmitTimeout)
    have ho {d : Deadline} (hne : d ≠ .retransmit) : (tcpUpdateTimer t .retransmit
        (s.env.now + tcpMetricsRto s.retry.metrics) true).deadline d = t.deadline d := tcpUpdateTimer_other _ _ _ hne
    refine ⟨⟨hs.cwnd, hs.wnd, hs.drained, hs.scale, hs.now⟩, fun _ _ => harm, fun he => absurd he hr, ?_,
      fun _ _ _ => Or.inr harm⟩
    intro hz hq
    rw [ho (by simp), ho (by simp)]
    exact hshut hz hq

lemma restartKeepalive_aside (s : TcpSock) : Aside s (restartKeepalive s) := by
  rw [restartKeepalive]
  split
  · have hk : Aside s (s.updateTimer .keepalive (s.env.now + s.retry.keepaliveTimeout) true) :=
      (Aside.refl s).update rfl _ true
    exact hk.trans (.of_frame rfl rfl rfl rfl rfl rfl)
  · exact .refl s

lemma takeWindow_ready (h : Ready s) (hdr : TcpHdr) : Ready (takeWindow s hdr) :=
  (tcpSndWinChange_ready h (tcpDecodeWindow_lt _ h.scale hdr.windowLt _)).aside (.of_frame rfl rfl rfl rfl rfl rfl)

lemma noteWindow_ready (h : Ready s) (hdr : TcpHdr) : Ready (noteWindow s hdr) := by
  rw [noteWindow]
  split
  · exact takeWindow_ready h hdr
  · exact h

lemma acknowledge_ready (h : Ready s) (hdr : TcpHdr) (hacks : (ackQueue hdr.ackSeq s.snd.retransmitQueue).2.2 = true)
    (hd : (ackQueue hdr.ackSeq s.snd.retransmitQueue).1 = [] → s.snd.sndNxt = hdr.ackSeq) :
    Ready (acknowledge s hdr) := by
  have hq := tcpUpdateRetransmitQueue_ready h s.core s.win rfl hacks hd
  rw [acknowledge]
  apply noteWindow_ready
  exact hq.aside (.of_frame rfl rfl rfl rfl rfl rfl)

lemma ackNewData_ready (h : Ready s) (hdr : TcpHdr) (hacks : (ackQueue hdr.ackSeq s.snd.retransmitQueue).2.2 = true)
    (hd : (ackQueue hdr.ackSeq s.snd.retransmitQueue).1 = [] → s.snd.sndNxt = hdr.ackSeq) :
    Ready (ackNewData s hdr) := by
  obtain ⟨n, b, he⟩ := ackNewData_cases s hdr
  have hc := tcpCongestionOnAck_ready (acknowledge_ready h hdr hacks hd) n b
  rcases he with he | ⟨-, he⟩ <;> rw [he]
  · exact hc
  · exact tcpRetransmitNow_ready hc

lemma ackDuplicate_ready (h : Ready s) (g : Segment) : Ready (ackDuplicate s g) := by
  have hn := noteWindow_ready h g.hdr
  simp only [ackDuplicate]
  split
  · have hc := tcpCongestionOnDuplicateAck_ready
      (s := { noteWindow s g.hdr with win.lastAckRepeat := ((noteWindow s g.hdr).win.lastAckRepeat + 1) % 2 ^ 32 })
      (hn.aside (.of_frame rfl rfl rfl rfl rfl rfl)) (((noteWindow s g.hdr).win.lastAckRepeat + 1) % 2 ^ 32)
    split
    · next s₁ he =>
      rw [he] at hc
      exact tcpRetransmitNow_ready hc
    · next s₁ he =>
      rw [he] at hc
      exact hc
  split
  · exact hn.aside (.of_frame rfl rfl rfl rfl rfl rfl)
  · exact hn

lemma destroyTcpSocket_aside (h : Aside s s') : Aside s (destroyTcpSocket s') := by
  obtain ⟨fr, no, he⟩ := destroyTcpSocket_frame s'
  rw [he]
  exact h.trans (.of_frame rfl rfl rfl rfl rfl rfl)

section

variable (s)

lemma ackOwnFin_aside : Aside s (ackOwnFin s).1 := by
  have hf (c : SockCore) (no : List Notify) : Aside s { s with core := c, env.notified := no } :=
    .of_frame rfl rfl rfl rfl rfl rfl
  rw [ackOwnFin]
  split
  · split
    · dsimp only
      split
      · exact hf _ _
      · exact (hf _ _).update rfl _ true
    · exact (hf _ _).update rfl _ true
    · exact destroyTcpSocket_aside (hf s.core _)
    · exact .refl s
  · exact .refl s

lemma inputText_aside (g : Segment) : Aside s (inputText s g) := by
  have hf (r : RecvState) (re : Retry) (no : List Notify) : Aside s { s with rcv := r, retry := re, env.notified := no } :=
    .of_frame rfl rfl rfl rfl rfl rfl
  rw [inputText]
  split
  · split
    · exact hf _ _ _
    · dsimp only
      split
      · exact (hf _ _ _).update rfl _ true
      · exact (hf _ _ _).update rfl _ false
  · exact .refl s

lemma finState_aside : Aside s (finState s) := by
  have hf (c : SockCore) (no : List Notify) : Aside s { s with core := c, env.notified := no } :=
    .of_frame rfl rfl rfl rfl rfl rfl
  rw [finState]
  split
  · exact hf _ _
  · exact hf _ _
  · split
    · exact (hf _ _).update rfl _ false
    · exact hf _ _
  · exact ((hf _ s.env.notified).update rfl _ true).update rfl _ false
  · exact (Aside.refl s).update rfl _ true
  · exact .refl s

lemma takeFin_aside : Aside s (takeFin s) := by
  have hk : Aside s (s.updateTimer .keepalive timerStop true) := (Aside.refl s).update rfl _ true
  have hf : Aside s ({ s with
      rcv.rcvNxt := s.rcv.rcvNxt + 1
      core.recvFin := true
      retry.keepaliveRepeatCount := 0
      tm := tcpUpdateTimer s.tm .keepalive timerStop true }.notify .recvFin) :=
    hk.trans (.of_frame rfl rfl rfl rfl rfl rfl)
  exact (hf.update rfl s.env.now false).trans (finState_aside _)

lemma inputFin_aside (g : Segment) : Aside s (inputFin s g) := by
  have hlast {t : TcpSock} (h : Aside s t) :
      Aside s (if t.core.state = .established then restartKeepalive t else t) := by
    split
    · exact h.trans (restartKeepalive_aside t)
    · exact h
  rw [inputFin]
  dsimp only
  split
  · exact .refl s
  split
  · exact ((Aside.refl s).update rfl _ true).update rfl _ true
  apply hlast
  split
  · exact takeFin_aside s
  · exact .refl s

lemma inputRst_aside : Aside s (inputRst s) := by
  rcases inputRst_cases s with he | ⟨er, he⟩ <;> rw [he]
  · exact .refl s
  · exact destroyTcpSocket_aside (.of_frame rfl rfl rfl rfl rfl rfl)

lemma inputSyn_aside : Aside s (inputSyn s) := by
  rw [inputSyn]
  split
  · exact destroyTcpSocket_aside (.refl s)
  · exact (Aside.refl s).update rfl _ false

lemma notify_aside (n : Notify) : Aside s (s.notify n) := .of_frame rfl rfl rfl rfl rfl rfl

lemma ackNow_aside : Aside s s.ackNow := (Aside.refl s).update rfl _ false

end

/-! `tcp_input`. -/

lemma ConnAt.ackEffect (h : ConnAt own iss data fin u x s) {a : ℕ} (hu : u < a) (hx : a ≤ x) :
    (ackQueue (label iss a) s.snd.retransmitQueue).2.2 = true ∧
      ((ackQueue (label iss a) s.snd.retransmitQueue).1 = [] → s.snd.sndNxt = label iss a) := by
  refine ⟨h.acks hu hx, fun hr => ?_⟩
  have hfl := h.flightLe
  have hf := (h.send.acked (Nat.le_of_lt hu) hx (by omega)).flight
  rw [show (ackedSend s.snd (label iss a)).retransmitQueue = [] from hr] at hf
  rw [h.send.nxt, show a = x from hf]

lemma ackSynReceived_ready (h : Ready s) (hdr : TcpHdr) (hacks : lt s.snd.sndUna hdr.ackSeq = true →
      (ackQueue hdr.ackSeq s.snd.retransmitQueue).2.2 = true ∧
        ((ackQueue hdr.ackSeq s.snd.retransmitQueue).1 = [] → s.snd.sndNxt = hdr.ackSeq)) :
    Ready (ackSynReceived s hdr).1 := by
  rw [ackSynReceived]
  split
  · next hr =>
    rw [Bool.and_eq_true] at hr
    obtain ⟨ha, hd⟩ := hacks hr.1
    have hq := tcpUpdateRetransmitQueue_ready h { s.core with state := .established }
      { s.win with lastAck := hdr.ackSeq, lastAckRepeat := 0 } rfl ha hd
    exact ((takeWindow_ready hq hdr).aside (restartKeepalive_aside _)).aside (.of_frame rfl rfl rfl rfl rfl rfl)
  split
  · exact h.aside (tcpSendFlag_aside _ _ _ _ rfl)
  · exact h

lemma inputAck_ready (h : Ready s) (g : Segment) (hacks : lt s.snd.sndUna g.hdr.ackSeq = true →
      (ackQueue g.hdr.ackSeq s.snd.retransmitQueue).2.2 = true ∧
        ((ackQueue g.hdr.ackSeq s.snd.retransmitQueue).1 = [] → s.snd.sndNxt = g.hdr.ackSeq)) :
    Ready (inputAck s g).1 := by
  rcases inputAck_cases s g with ⟨-, he⟩ | ⟨-, ⟨hlt, he⟩ | he⟩ | he <;> rw [he]
  · exact ackSynReceived_ready h g.hdr hacks
  · obtain ⟨ha, hd⟩ := hacks hlt
    exact (ackNewData_ready h g.hdr ha hd).aside (ackOwnFin_aside _)
  · exact ackDuplicate_ready h g
  · exact h

lemma inputSynchronized_ready (h : Ready s) (hc : ConnAt own iss data fin u x s) (g : Segment) :
    Ready (inputSynchronized s g) := by
  rcases inputSynchronized_cases s g with he | he | he | he | ⟨⟨-, -, -, -, hr⟩, he⟩ <;> rw [he]
  · exact h.aside (ackNow_aside s)
  · exact h.aside (inputRst_aside s)
  · exact h.aside (inputSyn_aside s)
  · exact h
  have ha := inputAck_ready h g fun hlt => by
    obtain ⟨a, hpos, hu, hx⟩ := hc.position (.inr ⟨hlt, hr⟩)
    rw [hpos]
    exact hc.ackEffect hu hx
  split
  · exact ha
  · exact (ha.aside (inputText_aside _ g)).aside (inputFin_aside _ g)

lemma synSentSimultaneous_ready (h : Ready s) : Ready (synSentSimultaneous s) := by
  rw [synSentSimultaneous]
  split
  · exact h.aside (.of_frame rfl rfl rfl rfl rfl rfl)
  · next b bs hq =>
    have hne : s.snd.retransmitQueue ≠ [] := by simp [hq]
    have harm := tcpUpdateTimer_armed s.tm .retransmit true (h.soon 0)
    have ho {d : Deadline} (hd : d ≠ .retransmit) :
        (tcpUpdateTimer s.tm .retransmit s.env.now true).deadline d = s.tm.deadline d := tcpUpdateTimer_other _ _ _ hd
    refine ⟨⟨h.cwnd, h.wnd, ?_, h.scale, h.now⟩, fun _ _ => harm, ?_, ?_, fun _ _ _ => Or.inr harm⟩
    · intro hnil
      cases hnil
    · intro hnil
      cases hnil
    · rw [ho (by simp), ho (by simp)]
      exact h.cover.shut

lemma parseTcpOptions_ready (h : Ready s) (hdr : TcpHdr) : Ready (parseTcpOptions s hdr).1 := by
  obtain ⟨c, hp, hc⟩ := parseTcpOptions_frame s hdr
  rw [hp]
  have hcwnd : 0 < c.sndCwnd := by
    rcases hc with rfl | rfl
    · exact h.cwnd
    · exact tcpCongestionInit_cwnd _
  exact ⟨⟨hcwnd, h.wnd, h.drained, parsedOptions_scale s hdr h.scale, h.now⟩, h.cover⟩

lemma synSentSyn_ready (h : Ready s) (hdr : TcpHdr) (hacks : hdr.flags.ack = true →
      (ackQueue hdr.ackSeq s.snd.retransmitQueue).2.2 = true ∧
        ((ackQueue hdr.ackSeq s.snd.retransmitQueue).1 = [] → s.snd.sndNxt = hdr.ackSeq)) :
    Ready (synSentSyn s hdr) := by
  have h₁ : Ready { s with rcv.rcvNxt := hdr.seq + 1 } := h.aside (.of_frame rfl rfl rfl rfl rfl rfl)
  rw [synSentSyn_eq]
  refine takeWindow_ready ?_ hdr
  split
  · next hack =>
    obtain ⟨ha, hd⟩ := hacks hack
    have hq := tcpUpdateRetransmitQueue_ready h₁ { s.core with state := .established }
      { s.win with lastAck := hdr.ackSeq, lastAckRepeat := 0 } rfl ha hd
    exact ((hq.aside (restartKeepalive_aside _)).aside (notify_aside _ .dataWrite)).aside (ackNow_aside _)
  · exact synSentSimultaneous_ready h₁

lemma tcpProcessSynSent_ready (h : Ready s) (hc : ConnAt own iss data fin u x s) (hdr : TcpHdr) :
    Ready (tcpProcessSynSent s hdr) := by
  rcases tcpProcessSynSent_cases s hdr with ⟨-, he | ⟨-, he⟩⟩ | ⟨hr, s₁, hs₁, he⟩
  · rw [he]
    exact h
  · rw [he]
    exact h.aside (tcpSendFlag_aside _ _ _ _ rfl)
  have hacks : hdr.flags.ack = true → (ackQueue hdr.ackSeq s.snd.retransmitQueue).2.2 = true ∧
      ((ackQueue hdr.ackSeq s.snd.retransmitQueue).1 = [] → s.snd.sndNxt = hdr.ackSeq) := by
    intro ha
    obtain ⟨a, hpos, hu, hx⟩ := hc.position (.inl (hr ha))
    rw [hpos]
    exact hc.ackEffect hu hx
  have hd : Ready s₁ ∧ s₁.snd = s.snd := by
    rcases hs₁ with ⟨rfl, -⟩ | ⟨-, -, fr, no, rfl⟩
    · exact ⟨h, rfl⟩
    · exact ⟨h.aside (.of_frame rfl rfl rfl rfl rfl rfl), rfl⟩
  obtain ⟨hd, hsnd⟩ := hd
  have hp := parseTcpOptions_ready hd hdr
  rcases he with he | ⟨-, he⟩ | ⟨-, he⟩ <;> rw [he]
  · exact hd.aside (.of_frame rfl rfl rfl rfl rfl rfl)
  · exact hp
  · apply synSentSyn_ready hp hdr
    obtain ⟨c, hf, -⟩ := parseTcpOptions_frame s₁ hdr
    rw [show (parseTcpOptions s₁ hdr).1.snd = s.snd from (congrArg TcpSock.snd hf).trans hsnd]
    exact hacks

lemma tcpInput_ready (h : Ready s) (hc : ConnAt own iss data fin u x s) (g : Segment) : Ready (tcpInput s g) := by
  have hp := parseTcpOptions_ready h g.hdr
  rcases tcpInput_cases s g with ⟨-, he⟩ | ⟨-, he | ⟨seq, ack, fl, hfl, -, he⟩⟩ | ⟨-, ⟨-, he⟩ | ⟨-, he⟩⟩ <;> rw [he]
  · exact tcpProcessSynSent_ready h hc g.hdr
  · exact h
  · exact h.aside (tcpSendFlag_aside _ _ _ _ hfl)
  · exact hp
  · exact inputSynchronized_ready hp (parseTcpOptions_inv hc g.hdr) g

structure Flow (s : TcpSock) : Prop where
  cwnd : 0 < s.cong.sndCwnd
  now : 0 < s.env.now
  flight : s.snd.retransmitQueue ≠ [] → s.win.sndWnd ≠ 0 → s.tm.deadline .retransmit ≠ timerStop

lemma Flow.aside (h : Flow s) (ha : Aside s s') : Flow s' :=
  ⟨ha.cwnd h.cwnd, by rw [ha.now]; exact h.now, by rw [ha.flight, ha.wnd, ha.retransmit]; exact h.flight⟩

structure Tries (s : TcpSock) (r : TcpSock × Ret) : Prop where
  flow : Flow r.1
  wnd : r.1.win.sndWnd = s.win.sndWnd
  kept : ∀ d, d ≠ .ack → s.tm.deadline d ≠ timerStop → r.1.tm.deadline d ≠ timerStop
  failed : r.2 ≠ none → r.1.tm.deadline .nagle ≠ timerStop

lemma Flow.soon (h : Flow s) (ms : ℕ) : s.env.now + ms ≠ timerStop := by
  have := h.now
  rw [timerStop]
  omega

lemma nagleRetry_tries (h : Flow s) (e : Errno) : Tries s (nagleRetry s, some e) := by
  have hms := h.soon 10
  exact ⟨⟨h.cwnd, h.now, fun hr hw => tcpUpdateTimer_keeps _ _ hms (h.flight hr hw)⟩, rfl,
    fun d _ hd => tcpUpdateTimer_keeps _ _ hms hd, fun _ => tcpUpdateTimer_armed _ _ _ hms⟩

lemma Tries.after {s₁ : TcpSock} {r : TcpSock × Ret} (h : Tries s₁ r) (hw : s₁.win.sndWnd = s.win.sndWnd)
    (hd : ∀ d, d ≠ .ack → s₁.tm.deadline d = s.tm.deadline d) : Tries s r :=
  ⟨h.flow, h.wnd.trans hw, fun d hne harm => h.kept d hne (by rw [hd d hne]; exact harm), h.failed⟩

lemma submitHead_tries (h : Flow s) (b : SkBuff) (rest : List SkBuff) (n : ℕ) (sendFin push : Bool) :
    Tries s (submitHead s b rest n sendFin push) := by
  have ha := tcpXmitSegment_aside s b n push
  have hs := tcpXmitSegment_sends s b n push
  cases he : tcpXmitSegment s b n push with
  | mk s₁ ret =>
    rw [he] at ha hs
    have h₁ := h.aside ha
    cases ret with
    | some e =>
      simp only [submitHead, he]
      exact (nagleRetry_tries h₁ e).after ha.wnd hs.deadline
    | none =>
      obtain ⟨st, re, hsub, -⟩ := submitHead_sent rest sendFin he
      rw [hsub]
      have hms := h₁.soon s₁.retry.retransmitTimeout
      refine ⟨⟨h₁.cwnd, h₁.now, fun _ _ => tcpUpdateTimer_armed _ _ _ hms⟩, ha.wnd, fun d hne hd => ?_, fun hn => absurd rfl hn⟩
      exact tcpUpdateTimer_keeps _ _ hms (by rw [hs.deadline d hne]; exact hd)

lemma tcpXmitNewSkb_tries (h : Flow s) (hq : s.snd.sendQueue ≠ []) (k : ℕ) (push : Bool) :
    Tries s (tcpXmitNewSkb s k push) := by
  obtain ⟨b, rest, hq⟩ := List.exists_cons_of_ne_nil hq
  rcases tcpXmitNewSkb_cases hq k push with ⟨s₁, hs₁, he⟩ | ⟨f, head, tail, -, -, -, -, he⟩ | ⟨-, he⟩ <;> rw [he]
  · rcases hs₁ with ⟨f, rfl⟩ | ⟨-, rfl⟩
    all_goals
      refine (nagleRetry_tries ?_ .enomem).after rfl fun _ _ => rfl
      exact ⟨h.cwnd, h.now, h.flight⟩
  · refine (submitHead_tries ?_ head (tail :: rest) _ _ push).after rfl fun _ _ => rfl
    exact ⟨h.cwnd, h.now, h.flight⟩
  · exact submitHead_tries h b rest _ _ push

lemma Flow.ready_nagle (h : Flow s) (hs : Sane s) (hq : s.snd.sendQueue = [] → s.win.sndWnd ≠ 0)
    (hn : s.tm.deadline .nagle ≠ timerStop) : Ready s :=
  ⟨hs, h.flight, fun _ _ _ => hn, fun _ _ => Or.inr hn, fun hz he => absurd hz (hq he)⟩

lemma Flow.ready_arm (h : Flow s) (hs : Sane s) (hq : s.snd.sendQueue ≠ []) {ms : ℕ} (hms : ms ≠ timerStop) :
    Ready (s.updateTimer .nagle ms false) := by
  refine Flow.ready_nagle ⟨h.cwnd, h.now, fun hr hw => ?_⟩ ⟨hs.cwnd, hs.wnd, hs.drained, hs.scale, hs.now⟩
    (fun he => absurd he hq) (tcpUpdateTimer_armed _ _ _ hms)
  exact tcpUpdateTimer_keeps _ _ hms (h.flight hr hw)

lemma Flow.ready_empty (h : Flow s) (hs : Sane s) (hq : s.snd.sendQueue = []) (hw : s.win.sndWnd ≠ 0) : Ready s :=
  ⟨hs, h.flight, fun _ he => absurd hq he, fun hz => absurd hz hw, fun hz => absurd hz hw⟩

lemma Flow.ready_shut (h : Flow s) (hc : ConnAt own iss data fin u x s) {b : SkBuff} {rest : List SkBuff}
    (hq : s.snd.sendQueue = b :: rest) (hw : s.winMin = 0 ∨ geq b.seq (windowEnd s) = true) :
    Ready (tcpArmPersist s) := by
  have hs := hc.sane h.cwnd h.now
  by_cases hz : s.win.sndWnd = 0
  · have hp := tcpArmPersist_armed hs hz
    obtain ⟨t, ht⟩ := tcpArmPersist_timers s
    rw [ht] at hp ⊢
    refine ⟨⟨hs.cwnd, hs.wnd, hs.drained, hs.scale, hs.now⟩, ?_⟩
    rw [show ({ s with tm := t } : TcpSock).win.sndWnd = 0 from hz]
    exact .of_persist hp
  · rw [tcpArmPersist_open hz]
    refine ⟨hs, h.flight, fun hr _ _ => ?_, fun h0 => absurd h0 hz, fun h0 => absurd h0 hz⟩
    have hpos := hs.winMin_pos hz
    have hlt := hc.winMin_lt
    have hu := hc.send.unsent
    rw [hq] at hu
    have hb : b.seq = s.snd.sndUna := by
      rw [hu.1, ← hc.drained hr, hc.send.nxt]
    have hg := hw.resolve_left hpos
    rw [hb, windowEnd, geq_iff] at hg
    bv_omega

lemma writeXmitLoop_ready (flushPartial : Bool) (k : ℕ) (ret : Ret) (h : Flow s)
    (hc : ConnAt own iss data fin u x s) (hq : s.snd.sendQueue = [] → s.win.sndWnd ≠ 0) :
    Ready (writeXmitLoop flushPartial k s ret).1 := by
  induction k generalizing s fin x ret with
  | zero =>
    have hs := hc.sane h.cwnd h.now
    simp only [writeXmitLoop]
    split
    · next he => exact h.ready_empty hs he (hq he)
    · next hne => exact h.ready_arm hs hne (h.soon 0)
  | succ k ih =>
    have hs := hc.sane h.cwnd h.now
    simp only [writeXmitLoop]
    cases he : s.snd.sendQueue with
    | nil => exact h.ready_empty hs he (hq he)
    | cons b rest =>
      have hne : s.snd.sendQueue ≠ [] := by simp [he]
      simp only
      split
      · next hw => exact h.ready_shut hc he hw
      next hw =>
      split
      · exact h.ready_arm hs hne (h.soon 200)
      rw [not_or] at hw
      have hopen : s.win.sndWnd ≠ 0 := by
        intro hz
        apply hw.1
        rw [TcpSock.winMin, hz, Nat.zero_min]
      rw [← roundBudget]
      generalize (decide (roundBudget s b = tcpSkbSeqLen b) && skbDataLen b != 0 && rest.isEmpty) = push
      obtain ⟨⟨fin', x', hx'⟩, -⟩ := (xmitRound_moves he (Bool.eq_false_of_not_eq_true hw.2) push).conn hc
      have ht := tcpXmitNewSkb_tries h hne (roundBudget s b) push
      have hw₁ := ht.wnd
      split
      · next s₁ e heq =>
        rw [heq] at hx' ht hw₁
        exact ht.flow.ready_nagle (hx'.sane ht.flow.cwnd ht.flow.now) (fun _ => by rw [hw₁]; exact hopen)
          (ht.failed (Option.some_ne_none e))
      · next s₁ heq =>
        rw [heq] at hx' ht hw₁
        exact ih none ht.flow hx' fun _ => by rw [hw₁]; exact hopen

lemma tcpWriteXmit_ready (flushPartial : Bool) (h : Flow s) (hc : ConnAt own iss data fin u x s)
    (hq : s.snd.sendQueue ≠ []) : Ready (tcpWriteXmit s flushPartial).1 :=
  writeXmitLoop_ready flushPartial tcpOutputBurstMax none h hc fun he => absurd he hq

lemma tcpSendProbe_ready (h : Flow s) (hc : ConnAt own iss data fin u x s)
    (hq : s.snd.retransmitQueue ≠ [] ∨ s.snd.sendQueue ≠ []) (hw : s.win.sndWnd = 0)
    (hp : s.tm.deadline .persist ≠ timerStop) : Ready (tcpSendProbe s).1 := by
  obtain ⟨⟨fin', x', hx'⟩, -⟩ := (tcpSendProbe_moves hq).conn hc
  have hcover {t : TcpSock} (hwt : t.win.sndWnd = s.win.sndWnd) (hpt : t.tm.deadline .persist ≠ timerStop) :
      Cover t.snd t.win.sndWnd t.tm := by
    rw [hwt, hw]
    exact .of_persist fun _ => hpt
  rw [tcpSendProbe] at hx' ⊢
  split at hx'
  · next b bs hr =>
    have ha := tcpRetransmitSkb_aside s (some b) true
    have hf := h.aside ha
    exact ⟨hx'.sane hf.cwnd hf.now, hcover ha.wnd (by rw [ha.persist]; exact hp)⟩
  · next hr =>
    have ht := tcpXmitNewSkb_tries h (hq.resolve_left (not_not_intro hr))
      ((s.snd.sendQueue.head?.map fun b => min (tcpSkbSeqLen b) 1).getD 0) false
    exact ⟨hx'.sane ht.flow.cwnd ht.flow.now, hcover ht.wnd (ht.kept _ (by simp) hp)⟩

def Live (s : TcpSock) : Prop := s.core.state ≠ .closed → Ready s

lemma destroyTcpSocket_live (s : TcpSock) : Live (destroyTcpSocket s) := by
  obtain ⟨fr, no, he⟩ := destroyTcpSocket_frame s
  rw [he]
  exact fun hs => absurd rfl hs

lemma Ready.live (h : Ready s) : Live s := fun _ => h

lemma Ready.of_resend (hs : Sane s) (hr : s.snd.retransmitQueue ≠ []) (harm : s.tm.deadline .retransmit ≠ timerStop)
    (hshut : s.win.sndWnd = 0 → s.snd.sendQueue ≠ [] →
      s.tm.deadline .persist ≠ timerStop ∨ s.tm.deadline .nagle ≠ timerStop) : Ready s :=
  ⟨hs, fun _ _ => harm, fun he => absurd he hr, hshut, fun _ _ _ => Or.inr harm⟩

lemma tcpCongestionOnTimeout_cwnd (s : TcpSock) : 0 < (tcpCongestionOnTimeout s).cong.sndCwnd := by
  have hpos (t : TcpSock) (w : ℕ) : 0 < (tcpCaSetCwnd t w).cong.sndCwnd := by
    obtain ⟨tm, h⟩ := tcpSndCwndChange_frame t (max w (tcpCaMss t.nego))
    have hm := tcpCaMss_pos t.nego
    rw [tcpCaSetCwnd, h]
    exact Nat.lt_of_lt_of_le hm (Nat.le_max_right _ _)
  exact hpos _ _

lemma tcpCongestionOnTimeout_shut (h : s.win.sndWnd = 0) : (tcpCongestionOnTimeout s).tm = s.tm := by
  have hset (t : TcpSock) (ht : t.win.sndWnd = 0) (w : ℕ) : (tcpCaSetCwnd t w).tm = t.tm := by
    simp only [tcpCaSetCwnd, tcpSndCwndChange]
    split
    · rfl
    · rw [tcpSendWindowUpdate, if_pos (by rw [TcpSock.winMin, TcpSock.winMin, ht, Nat.zero_min, Nat.zero_min])]
  simp only [tcpCongestionOnTimeout]
  split
  · refine (hset _ ?_ _).trans rfl
    exact h
  · refine (hset _ ?_ _).trans rfl
    exact h

lemma retransmitTimeout_live (h : Ready s) : Live (retransmitTimeout (s.clearDeadline .retransmit)) := by
  have hother {d : Deadline} (hd : d ≠ .retransmit) :
      (s.clearDeadline .retransmit).tm.deadline d = s.tm.deadline d := clearDeadline_other s hd
  have hshut {t : Timers} (ht : ∀ d, d ≠ .retransmit → t.deadline d = s.tm.deadline d) (hz : s.win.sndWnd = 0)
      (hq : s.snd.sendQueue ≠ []) : t.deadline .persist ≠ timerStop ∨ t.deadline .nagle ≠ timerStop := by
    rw [ht _ (by simp), ht _ (by simp)]
    exact h.cover.shut hz hq
  simp only [retransmitTimeout]
  split
  · next hr =>
    refine Ready.live ⟨⟨h.cwnd, h.wnd, h.drained, h.scale, h.now⟩, fun hne => absurd hr hne, ?_,
      hshut fun _ hd => hother hd, fun _ _ hne => absurd hr hne⟩
    rw [hother (by simp)]
    exact h.cover.unsent
  next hr =>
  split
  · split
    · exact destroyTcpSocket_live _
    · have hms := h.soon (s.retry.connectTimeout * 2)
      have h₁ : Ready { s.clearDeadline .retransmit with
          retry.connectRetryTimes := s.retry.connectRetryTimes + 1
          retry.connectTimeout := s.retry.connectTimeout * 2
          tm := tcpUpdateTimer (s.clearDeadline .retransmit).tm .retransmit
            (s.env.now + s.retry.connectTimeout * 2) true } :=
        .of_resend ⟨h.cwnd, h.wnd, h.drained, h.scale, h.now⟩ hr (tcpUpdateTimer_armed _ _ _ hms)
          (hshut fun d hd => (tcpUpdateTimer_other _ _ _ hd).trans (hother hd))
      exact (h₁.aside (tcpRetransmitSkb_aside _ _ false)).live
  · split
    · exact destroyTcpSocket_live _
    · set s₁ : TcpSock := { s.clearDeadline .retransmit with
          retry.retriesOut := (s.clearDeadline .retransmit).retry.retriesOut + 1 } with hs₁
      obtain ⟨c, t, hc, -⟩ := tcpCongestionOnTimeout_spec s₁
      have hcwnd := tcpCongestionOnTimeout_cwnd s₁
      have htm := tcpCongestionOnTimeout_shut (s := s₁)
      rw [hc] at hcwnd htm ⊢
      have hms := h.soon (tcpMetricsBackoff s.retry.retransmitTimeout)
      have h₁ : Ready { s.clearDeadline .retransmit with
          cong := c
          retry.retriesOut := s.retry.retriesOut + 1
          retry.retransmitTimeout := tcpMetricsBackoff s.retry.retransmitTimeout
          tm := tcpUpdateTimer t .retransmit
            (s.env.now + tcpMetricsBackoff s.retry.retransmitTimeout) false } := by
        refine .of_resend ⟨hcwnd, h.wnd, h.drained, h.scale, h.now⟩ hr (tcpUpdateTimer_armed _ _ _ hms) fun hz => ?_
        apply hshut (fun d hd => (tcpUpdateTimer_other _ _ _ hd).trans ?_) hz
        rw [show t = (s.clearDeadline .retransmit).tm from htm hz]
        exact hother hd
      exact (h₁.aside (tcpRetransmitSkb_aside _ _ false)).live

lemma persistTimeout_live (h : Ready s) (hc : ConnAt own iss data fin u x s) :
    Live (persistTimeout (s.clearDeadline .persist)) := by
  have hother {d : Deadline} (hd : d ≠ .persist) :
      (s.clearDeadline .persist).tm.deadline d = s.tm.deadline d := clearDeadline_other s hd
  simp only [persistTimeout]
  split
  · next hcond =>
    split
    · exact destroyTcpSocket_live _
    · have hms := h.soon (min (s.retry.persistBackoff * 2) 60000)
      have hc₁ := hc.timer { s.retry with
          retriesOut := s.retry.retriesOut + 1, persistBackoff := min (s.retry.persistBackoff * 2) 60000 }
        (tcpUpdateTimer (s.clearDeadline .persist).tm .persist
          (s.env.now + min (s.retry.persistBackoff * 2) 60000) true)
      apply Ready.live
      apply tcpSendProbe_ready _ hc₁ hcond.2 hcond.1
      · exact tcpUpdateTimer_armed _ _ _ hms
      · exact ⟨h.cwnd, h.now, fun _ hne => absurd hcond.1 hne⟩
  · next hcond =>
    refine Ready.live ⟨⟨h.cwnd, h.wnd, h.drained, h.scale, h.now⟩, ?_, ?_, fun hz hq => ?_, fun hz _ hr => ?_⟩
    · rw [hother (by simp)]
      exact h.cover.flight
    · rw [hother (by simp)]
      exact h.cover.unsent
    · exact absurd ⟨hz, Or.inr hq⟩ hcond
    · exact absurd ⟨hz, Or.inl hr⟩ hcond

lemma keepaliveTimeout_live (h : Ready s) : Live (keepaliveTimeout s) := by
  simp only [keepaliveTimeout]
  split
  · apply Ready.live
    exact h.aside (.of_frame rfl rfl rfl rfl rfl rfl)
  split
  · exact destroyTcpSocket_live _
  · have hf : Aside s { s with retry.keepaliveRepeatCount := s.retry.keepaliveRepeatCount + 1 } :=
      .of_frame rfl rfl rfl rfl rfl rfl
    exact ((h.aside (hf.update rfl _ false)).aside (tcpSendFlag_aside _ _ _ _ rfl)).live

lemma nagleTimeout_ready (h : Ready s) (hc : ConnAt own iss data fin u x s) :
    Ready (if (s.clearDeadline .nagle).snd.sendQueue = [] then s.clearDeadline .nagle
      else (tcpWriteXmit (s.clearDeadline .nagle) true).1) := by
  have hother {d : Deadline} (hd : d ≠ .nagle) :
      (s.clearDeadline .nagle).tm.deadline d = s.tm.deadline d := clearDeadline_other s hd
  have hf : s.snd.retransmitQueue ≠ [] → s.win.sndWnd ≠ 0 →
      (s.clearDeadline .nagle).tm.deadline .retransmit ≠ timerStop := by
    rw [hother (by simp)]
    exact h.cover.flight
  split
  · next he =>
    refine ⟨⟨h.cwnd, h.wnd, h.drained, h.scale, h.now⟩, hf, fun _ hq => absurd he hq, fun _ hq => absurd he hq, ?_⟩
    rw [hother (by simp), hother (by simp)]
    exact h.cover.probe
  · next he => exact tcpWriteXmit_ready true ⟨h.cwnd, h.now, hf⟩ (hc.timer s.retry _) he

lemma tcpTimerCb_live (h : Ready s) (hc : ConnAt own iss data fin u x s) : Live (tcpTimerCb s) := by
  simp only [tcpTimerCb]
  split
  · exact (nagleTimeout_ready h hc).live
  split
  · exact retransmitTimeout_live h
  split
  · have h₁ : Ready (s.clearDeadline .ack) := h.aside (.clear s rfl)
    exact (h₁.aside (tcpSendFlag_aside _ _ _ _ rfl)).live
  split
  · exact persistTimeout_live h hc
  split
  · exact destroyTcpSocket_live _
  split
  · split
    · exact destroyTcpSocket_live _
    · exact (h.aside (.clear s rfl)).live
  split
  · exact keepaliveTimeout_live (h.aside (.clear s rfl))
  · exact h.live

lemma writeBytes_ready (h : Ready s) (hc : ConnAt own iss data false u x s) (r : Route) (buf : List UInt8)
    (hroom : s.snd.sendBufferLen < s.snd.sendBufferLenMax) : Ready (writeBytes s r buf).1 := by
  have hfault (f : Fault) : Ready (s.fault f) := h.aside (.of_frame rfl rfl rfl rfl rfl rfl)
  simp only [writeBytes]
  split
  · exact hfault _
  next hlim =>
  split
  · exact hfault _
  obtain ⟨m, q, e, l, hq, hm, hw⟩ := hc.written (headerRoom s r) buf hlim hroom
  rw [hq]
  dsimp only
  generalize (writeLoop (tcpDataMss s.nego) (headerRoom s r)
    (buf.take (s.snd.sendBufferLenMax - s.snd.sendBufferLen)).length
    (buf.take (s.snd.sendBufferLenMax - s.snd.sendBufferLen)) s.snd 0 s.env.fates).2.2 = f
  have hw := hw f
  have hs := hw.sane h.cwnd h.now
  have hold := hc.send.unsent
  have hnew := hw.send.unsent
  rw [sendStream_length] at hold hnew
  simp only [writeQueued]
  split
  · next hz =>
    -- no byte was taken: the unsent segments still end where they ended
    subst hz
    rw [List.take_zero, List.append_nil] at hnew
    have hempty : q = [] → s.snd.sendQueue = [] := by
      rintro rfl
      by_contra hne
      exact absurd (show x = _ from hnew) (Nat.ne_of_lt (hold.lt hne))
    have hfull : q ≠ [] → s.snd.sendQueue ≠ [] := by
      intro hne he
      rw [he] at hold
      exact absurd (show x = _ from hold) (Nat.ne_of_lt (hnew.lt hne))
    exact ⟨hs, h.cover.flight, fun hr hne => h.cover.unsent hr (hfull hne), fun hz hne => h.cover.shut hz (hfull hne),
      fun hz he => h.cover.probe hz (hempty he)⟩
  · next hz =>
    have hne : q ≠ [] := by
      apply hnew.ne_nil
      have hle := hold.le
      rw [List.length_append, List.length_take, Nat.min_eq_left hm]
      omega
    split
    · exact tcpWriteXmit_ready false ⟨h.cwnd, h.now, h.cover.flight⟩ hw hne
    · apply Flow.ready_arm _ hs hne (h.soon _)
      exact ⟨h.cwnd, h.now, h.cover.flight⟩

lemma writeOnRoute_ready (h : Ready s) (hc : ConnAt own iss data false u x s) (buf : List UInt8)
    (hroom : s.snd.sendBufferLen < s.snd.sendBufferLenMax) : Ready (writeOnRoute s buf).1 := by
  have hr := h.aside (setTcpSocketRoute_aside s)
  have hk := setTcpSocketRoute_keeps s
  rcases writeOnRoute_cases s buf with he | ⟨r, -, he⟩ <;> rw [he]
  · exact hr
  · apply writeBytes_ready hr (hc.keeps hk) r buf
    rw [hk.snd]
    exact hroom

lemma tcpWrite_ready (h : Ready s) (hc : ConnAt own iss data fin u x s) (buf : List UInt8) (expired : Bool) :
    Ready (tcpWrite s buf expired).1 := by
  rcases tcpWrite_cases s buf expired with ⟨er, o, he, -⟩ | ⟨hcl, -, hroom, he⟩ <;> rw [he]
  · exact h.aside (.of_frame rfl rfl rfl rfl rfl rfl)
  · obtain rfl : fin = false := hc.unfinished hcl
    exact writeOnRoute_ready h hc buf hroom

lemma tcpRead_aside (s : TcpSock) (len : ℕ) (expired : Bool) : Aside s (tcpRead s len expired).1 := by
  rw [tcpRead]
  split
  · exact .of_frame rfl rfl rfl rfl rfl rfl
  split_ifs
  · exact .refl s
  · exact .refl s
  · exact .refl s
  · exact .refl s
  · exact .refl s
  · have hr : Aside s { s with rcv := (readQueue s.rcv len).2 } := .of_frame rfl rfl rfl rfl rfl rfl
    dsimp only
    split
    · exact hr.update rfl _ false
    · exact hr

lemma queueFin_ready (h : Ready s) {q : List SkBuff} (hq : q ≠ []) : Ready (queueFin s q) := by
  have hms := h.soon 0
  have h₁ : Flow { s with snd.sendQueue := q, snd.sndEnd := s.snd.sndEnd + 1 } := ⟨h.cwnd, h.now, h.cover.flight⟩
  exact h₁.ready_arm ⟨h.cwnd, h.wnd, h.drained, h.scale, h.now⟩ hq hms

lemma tcpSendFin_ready (h : Ready s) : Ready (tcpSendFin s) := by
  rw [tcpSendFin]
  split
  · exact queueFin_ready h (by simp)
  split
  · exact h.aside (.of_frame rfl rfl rfl rfl rfl rfl)
  split
  · exact h.aside (.of_frame rfl rfl rfl rfl rfl rfl)
  · next f _ =>
    have h₁ : Ready { s with env.fates := f } := h.aside (.of_frame rfl rfl rfl rfl rfl rfl)
    exact queueFin_ready h₁ (by simp)

lemma shutdownSend_ready (h : Ready s) : Ready (shutdownSend s) := by
  rw [shutdownSend]
  split
  · exact h
  · exact tcpSendFin_ready (h.aside (.of_frame rfl rfl rfl rfl rfl rfl))

lemma tcpShutdown_ready (h : Ready s) (how : How) : Ready (tcpShutdown s how).1 := by
  simp only [tcpShutdown]
  split
  · exact h
  obtain ⟨c, no, he⟩ := shutdownRecv_frame s how
  have h₁ : Ready { s with core.closeRecv := c, env.notified := no } := h.aside (.of_frame rfl rfl rfl rfl rfl rfl)
  rw [he]
  split
  · exact shutdownSend_ready h₁
  · exact h₁

lemma releaseState_ready (h : Ready s) : Ready (releaseState s) := by
  have ho : Aside s (orphan s) := .of_frame rfl rfl rfl rfl rfl rfl
  cases hs : s.core.state with
  | closed | synSent | synReceived | listen =>
    simp only [releaseState, hs]
    exact h.aside (destroyTcpSocket_aside (.refl s))
  | established | closeWait =>
    simp only [releaseState, hs]
    exact shutdownSend_ready h
  | finWait1 | closing | lastAck =>
    simp only [releaseState, hs]
    exact h.aside ho
  | finWait2 =>
    simp only [releaseState, hs]
    exact h.aside (ho.update rfl _ true)
  | timeWait =>
    simp only [releaseState, hs]
    exact h

lemma closeFd_ready (h : Ready s) : Ready (closeFd s).1 := by
  have h₁ : Ready { s with core.fdEntry := false } := h.aside (.of_frame rfl rfl rfl rfl rfl rfl)
  have hr := releaseState_ready h₁
  simp only [closeFd, tcpRelease]
  split
  · split
    · exact (h₁.aside (tcpSendFlag_aside _ _ _ _ rfl)).aside (destroyTcpSocket_aside (.refl _))
    · exact h₁.aside (destroyTcpSocket_aside (.refl _))
  split
  · split
    · exact hr
    · exact hr
  · exact hr

lemma tcpSetsockopt_aside (s : TcpSock) (o : SockOpt) : Aside s (tcpSetsockopt s o) := by
  cases o with
  | rcvbuf v hv =>
    have hf : Aside s { s with rcv := { s.rcv with
        recvBufferLenMax := v
        rcvWnd := useableRecvBuff { s.rcv with recvBufferLenMax := v } } } := .of_frame rfl rfl rfl rfl rfl rfl
    simp only [tcpSetsockopt, setRcvbuf]
    split
    · exact hf.update rfl _ true
    · exact hf
  | sndbuf v hv => exact ⟨rfl, rfl, rfl, rfl, rfl, rfl, rfl, rfl, fun h => h, rfl, rfl⟩
  | keepalive on =>
    have hf : Aside s { s with core.keepalive := on, retry.keepaliveRepeatCount := 0 } :=
      .of_frame rfl rfl rfl rfl rfl rfl
    exact hf.update rfl _ true
  | _ => exact .of_frame rfl rfl rfl rfl rfl rfl

lemma tcpIcmpProcess_aside (s : TcpSock) (quoted : Option Seq) (err : Errno) :
    Aside s (tcpIcmpProcess s quoted err) := by
  have hd : Aside s (destroyTcpSocket { s with error := some err }) :=
    destroyTcpSocket_aside (.of_frame rfl rfl rfl rfl rfl rfl)
  rw [tcpIcmpProcess]
  split
  · exact .refl s
  split
  · exact .refl s
  dsimp only
  split
  all_goals first
    | exact hd
    | exact .of_frame rfl rfl rfl rfl rfl rfl

lemma act_live (h : Ready s) (hc : ConnAt own iss data fin u x s) (a : Action) : Live (act s a) := by
  cases a with
  | input g => exact (tcpInput_ready h hc g).live
  | timer =>
    have h₁ : Ready { s with tm.registered := false } :=
      h.aside ⟨rfl, rfl, rfl, rfl, rfl, rfl, rfl, rfl, fun h => h, rfl, rfl⟩
    exact tcpTimerCb_live h₁ (hc.timer s.retry _)
  | accept =>
    apply Ready.live
    exact h.aside (.of_frame rfl rfl rfl rfl rfl rfl)
  | write buf expired => exact (tcpWrite_ready h hc buf expired).live
  | read len expired => exact (h.aside (tcpRead_aside s len expired)).live
  | shutdown how => exact (tcpShutdown_ready h how).live
  | setsockopt o => exact (h.aside (tcpSetsockopt_aside s o)).live
  | close => exact (closeFd_ready h).live
  | icmp quoted err => exact (h.aside (tcpIcmpProcess_aside s quoted err)).live

structure Progress (iss : Seq) (s : TcpSock) : Prop where
  conn : ∃ data, ConnInv False iss data s
  cover : s.core.state ≠ .closed → Cover s.snd s.win.sndWnd s.tm ∧ 0 < s.cong.sndCwnd

lemma step_progress (h : Progress iss s) (e : Event) (hn : 0 < e.inputs.now) : Progress iss (step s e) := by
  obtain ⟨⟨data, hconn⟩, hcover⟩ := h
  refine ⟨⟨_, (step_inv hconn e False.elim).1⟩, fun hs' => ?_⟩
  by_cases hs : s.core.state = .closed
  · exact absurd (step_stays_closed hs e) hs'
  obtain ⟨fin, u, x, hc⟩ := hconn
  obtain ⟨hcov, hcwnd⟩ := hcover hs
  rw [step] at hs' ⊢
  split at hs'
  · next hen =>
    have hc₁ : ConnAt False iss data fin u x (s.withInputs e.inputs) := hc.quiet _ _ _ _ _
    have hr := act_live ⟨hc₁.sane hcwnd hn, hcov⟩ hc₁ e.action hs'
    rw [if_pos hen]
    exact ⟨hr.cover, hr.cwnd⟩
  · next hen =>
    rw [if_neg hen]
    exact ⟨hcov, hcwnd⟩

lemma tcpSendFlag_syn_armed (s : TcpSock) (seq ack : Seq) (flag : Flags) (hflag : flag.syn = true) :
    (tcpSendFlag s seq ack flag).1.snd = s.snd ∨
      (tcpSendFlag s seq ack flag).1.snd.sendQueue = s.snd.sendQueue ∧
        (0 < (tcpSendFlag s seq ack flag).1.env.now →
          (tcpSendFlag s seq ack flag).1.tm.deadline .retransmit ≠ timerStop) := by
  rw [tcpSendFlag]
  split
  · exact Or.inl rfl
  split
  · exact Or.inl rfl
  rw [if_pos hflag]
  split
  · exact Or.inl rfl
  next r _ _ f _ _ f' _ =>
  right
  have ha : Aside { s with
      env.fates := f'
      snd.retransmitQueue := s.snd.retransmitQueue ++ [skbAlloc seq flag (headerRoom s r) (headerRoom s r)]
      snd.sndNxt := s.snd.sndNxt + 1
      snd.sndEnd := s.snd.sndEnd + 1
      tm := tcpUpdateTimer s.tm .retransmit (s.env.now + s.retry.retransmitTimeout) false } _ :=
    .of_sends (submit_sends _ seq ack flag [] true) (submit_keeps _ seq ack flag [] true)
  refine ⟨ha.queue, fun hn => ?_⟩
  rw [ha.retransmit]
  rw [ha.now] at hn
  apply tcpUpdateTimer_armed
  exact Nat.ne_of_gt (Nat.add_pos_left hn _)

lemma childSyn_sends (s : TcpSock) (hdr : TcpHdr) : (childSyn s hdr).snd = s.snd ∨ ∃ s₁ : TcpSock,
    childSyn s hdr = (tcpSendFlag s₁ s₁.snd.sndUna s₁.rcv.rcvNxt { syn := true, ack := true }).1 ∧
      s₁.snd = s.snd := by
  obtain ⟨s₁, hr, he | he⟩ := childSyn_ready s hdr
  · exact .inl (by rw [he, hr.snd])
  · exact .inr ⟨s₁, he, hr.snd⟩

lemma Cover.of_syn {q : SendState} {wnd : ℕ} {t : Timers} (hr : q.retransmitQueue ≠ []) (hq : q.sendQueue = [])
    (ht : t.deadline .retransmit ≠ timerStop) : Cover q wnd t :=
  ⟨fun _ _ => ht, fun he => absurd he hr, fun _ hne => absurd hq hne, fun _ _ _ => Or.inr ht⟩

lemma Opened.cover (h : Opened iss s) (hn : 0 < s.env.now) : Cover s.snd s.win.sndWnd s.tm := by
  cases h with
  | @active s₀ _ hf hs =>
    have harm := tcpSendFlag_syn_armed { s₀ with core.state := .synSent } s₀.snd.sndNxt 0 { syn := true } rfl
    obtain ⟨s₁, room, rfl, heq, hk⟩ := connectSyn_ok hs
    rw [heq] at harm
    have hr : s₁.snd.retransmitQueue ≠ [] := by
      rw [hk.snd]
      simp [synQueued]
    rcases harm with he | ⟨hq, harm⟩
    · rw [he] at hr
      exact absurd hf.flight hr
    · exact .of_syn hr (hq.trans hf.unsent) (harm hn)
  | passive hdr hf hr =>
    rcases childSyn_sends _ hdr with he | ⟨s₁, he, hsnd⟩
    · rw [he] at hr
      exact absurd hf.flight hr
    rw [he] at hr hn ⊢
    rcases tcpSendFlag_syn_armed s₁ s₁.snd.sndUna s₁.rcv.rcvNxt { syn := true, ack := true } rfl with h | ⟨hq, harm⟩
    · rw [h, hsnd] at hr
      exact absurd hf.flight hr
    · have hunsent := hf.unsent
      rw [← hsnd] at hunsent
      exact .of_syn hr (hq.trans hunsent) (harm hn)

/-- No sender is stuck: whatever is queued or in flight on a connection that is not closed, a deadline
will have it sent. -/
theorem sender_never_stuck {iss : Seq} {s : TcpSock} (h : Opened iss s) (hc : 0 < s.cong.sndCwnd)
    (hn : 0 < s.env.now) (es : List Event) (hes : ∀ e ∈ es, 0 < e.inputs.now)
    (hlive : (run step s es).core.state ≠ .closed)
    (hq : (run step s es).snd.retransmitQueue ≠ [] ∨ (run step s es).snd.sendQueue ≠ []) :
    (run step s es).tm.senderArmed := by
  have hinv : Progress iss (run step s es) := by
    have hm : Meets step (fun _ e => 0 < e.inputs.now) s es := .of_mem hes
    refine run_invariant (I := Progress iss) ?_ ⟨⟨[], h.inv⟩, fun _ => ⟨h.cover hn, hc⟩⟩ hm
    intro t e ht he
    exact step_progress ht e he
  exact (hinv.cover hlive).1.armed hq

/-- The SYN is answered; the byte written next waits for the Nagle deadline. -/
theorem sender_never_stuck_after_write :
    (run step (connectSyn { boundSock with env.now := 1 }).1
      [{ action := .input (bareSegment (plainHdr 500 1 { syn := true, ack := true })), inputs := { now := 1 } },
        { action := .write [7] false, inputs := { now := 2 } }]).tm.senderArmed := by
  have hf : Fresh { boundSock with env.now := 1 } := by
    constructor <;> simp [boundSock, tcpPcbInit, tcpCongestionInit]
  exact sender_never_stuck (.active hf rfl) (by decide) (by decide) _ (by decide)
    (by decide) (Or.inr (by decide))

end Netfast.Tcp
