import Netfast.Tcp.Deadlines
import Netfast.Tcp.SendRun

/-! The retry counter that the retransmission and the persist deadline share. -/

namespace Netfast.Tcp

open Serial Run

variable {s s' : TcpSock}

structure Calm (s s' : TcpSock) : Prop where
  out : s'.retry.retriesOut ≤ s.retry.retriesOut
  una : s'.snd.sndUna = s.snd.sndUna

lemma Calm.refl (s : TcpSock) : Calm s s := ⟨Nat.le_refl _, rfl⟩

lemma Calm.of_eq (hr : s'.retry.retriesOut = s.retry.retriesOut) (hu : s'.snd.sndUna = s.snd.sndUna) : Calm s s' :=
  ⟨Nat.le_of_eq hr, hu⟩

lemma Calm.trans {a b c : TcpSock} (h : Calm a b) (h' : Calm b c) : Calm a c :=
  ⟨Nat.le_trans h'.out h.out, h'.una.trans h.una⟩

variable {s₁ : TcpSock}

lemma Calm.after (h : Calm s₁ s') (hr : s₁.retry.retriesOut = s.retry.retriesOut)
    (hu : s₁.snd.sndUna = s.snd.sndUna) : Calm s s' :=
  .trans (.of_eq hr hu) h

lemma Spares.calm {ends : Prop} (h : Spares ends s s') : Calm s s' := .of_eq h.out h.una

section

variable (s)

-- a window that opens or closes starts the count again
lemma tcpSndWinChange_calm (w : ℕ) : Calm s (tcpSndWinChange s w) := by
  obtain ⟨r, t, h, rfl | ⟨b, rfl⟩⟩ := tcpSndWinChange_spec s w <;> rw [h]
  · exact .of_eq rfl rfl
  · exact ⟨Nat.zero_le _, rfl⟩

lemma takeWindow_calm (hdr : TcpHdr) : Calm s (takeWindow s hdr) :=
  .trans (tcpSndWinChange_calm s _) (.of_eq rfl rfl)

lemma noteWindow_calm (hdr : TcpHdr) : Calm s (noteWindow s hdr) := by
  rw [noteWindow]
  split
  · exact takeWindow_calm s hdr
  · exact .refl s

lemma restartKeepalive_calm : Calm s (restartKeepalive s) := by
  rw [restartKeepalive]
  split
  · exact .of_eq rfl rfl
  · exact .refl s

lemma rttSample_calm : Calm s (rttSample s) := by
  have hr : (sampleRtt s.retry (measuredRtt s)).retriesOut = s.retry.retriesOut := by
    rw [sampleRtt]
    split
    · rfl
    split <;> rfl
  exact .of_eq hr rfl

end

def Counted (s s' : TcpSock) : Prop := s'.retry.retriesOut = 0 ∨ Calm s s'

lemma Counted.then {a b c : TcpSock} (h : Counted a b) (h' : Calm b c) : Counted a c := by
  rcases h with h | h
  · have ho := h'.out
    rw [h] at ho
    exact Or.inl (Nat.le_zero.mp ho)
  · exact Or.inr (h.trans h')

lemma tcpUpdateRetransmitQueue_out (s : TcpSock) (h : (ackQueue s.snd.sndUna s.snd.retransmitQueue).2.2 = true) :
    (tcpUpdateRetransmitQueue s).retry.retriesOut = 0 := by
  have ha (t : TcpSock) : (ackedTimers t).retry.retriesOut = 0 := by
    simp only [ackedTimers]
    split <;> rfl
  simp only [tcpUpdateRetransmitQueue, h, if_true]
  split
  · exact ha _
  · exact ha _

variable {own : Prop} {iss : Seq} {data : List UInt8} {fin : Bool} {u x : ℕ}

lemma acknowledge_out (hdr : TcpHdr) (h : (ackQueue hdr.ackSeq s.snd.retransmitQueue).2.2 = true) :
    (acknowledge s hdr).retry.retriesOut = 0 := by
  have hq := tcpUpdateRetransmitQueue_out { s with snd.sndUna := hdr.ackSeq } h
  rw [acknowledge]
  have hn := (noteWindow_calm (rttSample { tcpUpdateRetransmitQueue { s with snd.sndUna := hdr.ackSeq } with
    win.lastAck := hdr.ackSeq, win.lastAckRepeat := 0 }) hdr).out
  have hr := (rttSample_calm { tcpUpdateRetransmitQueue { s with snd.sndUna := hdr.ackSeq } with
    win.lastAck := hdr.ackSeq, win.lastAckRepeat := 0 }).out
  rw [hq] at hr
  exact Nat.le_zero.mp (Nat.le_trans hn hr)

lemma ackNewData_counted (hdr : TcpHdr) (h : (ackQueue hdr.ackSeq s.snd.retransmitQueue).2.2 = true) :
    Counted s (ackNewData s hdr) := by
  obtain ⟨n, b, he⟩ := ackNewData_cases s hdr
  obtain ⟨c, t, hc, -⟩ := tcpCongestionOnAck_spec (acknowledge s hdr) n b
  have hz : Counted s { acknowledge s hdr with cong := c, tm := t } := Or.inl (acknowledge_out hdr h)
  rw [hc] at he
  rcases he with he | ⟨-, he⟩ <;> rw [he]
  · exact hz
  · exact hz.then (tcpRetransmitNow_spares _).calm

lemma ackDuplicate_calm (s : TcpSock) (g : Segment) : Calm s (ackDuplicate s g) := by
  have hn := noteWindow_calm s g.hdr
  obtain ⟨s₁, ⟨l, n, c, t, rfl⟩, -, -, -, -, he | ⟨-, he⟩⟩ := ackDuplicate_spec s g <;> rw [he]
  · exact .trans hn (.of_eq rfl rfl)
  · exact .trans hn ((tcpRetransmitNow_spares _).calm.after rfl rfl)

lemma ackOwnFin_calm (s : TcpSock) : Calm s (ackOwnFin s).1 := by
  obtain ⟨st, fr, t, no, he, -⟩ := ackOwnFin_frame s
  rw [he]
  exact .of_eq rfl rfl

lemma ackSynReceived_counted (hdr : TcpHdr) (h : lt s.snd.sndUna hdr.ackSeq = true →
    (ackQueue hdr.ackSeq s.snd.retransmitQueue).2.2 = true) : Counted s (ackSynReceived s hdr).1 := by
  rw [ackSynReceived]
  split
  · next hr =>
    rw [Bool.and_eq_true] at hr
    have hq := tcpUpdateRetransmitQueue_out { s with
      core.state := .established
      snd.sndUna := hdr.ackSeq
      win.lastAck := hdr.ackSeq
      win.lastAckRepeat := 0 } (h hr.1)
    have hz : Counted s (tcpUpdateRetransmitQueue { s with
      core.state := .established
      snd.sndUna := hdr.ackSeq
      win.lastAck := hdr.ackSeq
      win.lastAckRepeat := 0 }) := Or.inl hq
    exact (hz.then (.trans (takeWindow_calm _ hdr) (restartKeepalive_calm _))).then (.of_eq rfl rfl)
  split
  · exact Or.inr (tcpSendFlag_spares _ _ _ _).calm
  · exact Or.inr (.refl s)

lemma inputAck_counted (g : Segment) (h : lt s.snd.sndUna g.hdr.ackSeq = true →
    (ackQueue g.hdr.ackSeq s.snd.retransmitQueue).2.2 = true) : Counted s (inputAck s g).1 := by
  rcases inputAck_cases s g with ⟨-, he⟩ | ⟨-, ⟨hlt, he⟩ | he⟩ | he <;> rw [he]
  · exact ackSynReceived_counted g.hdr h
  · exact (ackNewData_counted g.hdr (h hlt)).then (ackOwnFin_calm _)
  · exact Or.inr (ackDuplicate_calm s g)
  · exact Or.inr (.refl s)

lemma inputText_calm (s : TcpSock) (g : Segment) : Calm s (inputText s g) := by
  rw [inputText]
  split
  · split
    · exact .of_eq rfl rfl
    · dsimp only
      split
      · exact .of_eq rfl rfl
      · exact .of_eq rfl rfl
  · exact .refl s

lemma finState_calm (s : TcpSock) : Calm s (finState s) := by
  obtain ⟨st, t, no, he⟩ := finState_frame s
  rw [he]
  exact .of_eq rfl rfl

lemma inputFin_calm (s : TcpSock) (g : Segment) : Calm s (inputFin s g) := by
  have hlast {t : TcpSock} (h : Calm s t) : Calm s (if t.core.state = .established then restartKeepalive t else t) := by
    split
    · exact .trans h (restartKeepalive_calm t)
    · exact h
  rw [inputFin]
  dsimp only
  split
  · exact .refl s
  split
  · exact .of_eq rfl rfl
  apply hlast
  split
  · exact (finState_calm _).after rfl rfl
  · exact .refl s

lemma inputSynchronized_counted (h : ConnAt own iss data fin u x s) (g : Segment) :
    Counted s (inputSynchronized s g) := by
  rcases inputSynchronized_cases s g with he | he | he | he | ⟨⟨-, -, -, -, hr⟩, he⟩ <;> rw [he]
  · exact Or.inr (.of_eq rfl rfl)
  · exact Or.inr (inputRst_spares s).calm
  · exact Or.inr (inputSyn_spares s).calm
  · exact Or.inr (.refl s)
  have ha := inputAck_counted g fun hlt => by
    obtain ⟨a, hpos, hu, hx⟩ := h.position (.inr ⟨hlt, hr⟩)
    rw [hpos]
    exact h.acks hu hx
  split
  · exact ha
  · exact (ha.then (inputText_calm _ g)).then (inputFin_calm _ g)

lemma synSentSyn_counted (hdr : TcpHdr) (h : hdr.flags.ack = true →
    (ackQueue hdr.ackSeq s.snd.retransmitQueue).2.2 = true) : Counted s (synSentSyn s hdr) := by
  rw [synSentSyn_eq]
  refine Counted.then ?_ (takeWindow_calm _ hdr)
  split
  · next ha =>
    have hz : Counted s (tcpUpdateRetransmitQueue { s with
      rcv.rcvNxt := hdr.seq + 1
      snd.sndUna := hdr.ackSeq
      win.lastAck := hdr.ackSeq
      win.lastAckRepeat := 0
      core.state := .established }) := Or.inl (tcpUpdateRetransmitQueue_out _ (h ha))
    exact (hz.then (restartKeepalive_calm _)).then (.of_eq rfl rfl)
  · rw [synSentSimultaneous]
    split <;> exact Or.inr (.of_eq rfl rfl)

lemma tcpProcessSynSent_counted (h : ConnAt own iss data fin u x s) (hdr : TcpHdr) :
    Counted s (tcpProcessSynSent s hdr) := by
  rcases tcpProcessSynSent_cases s hdr with ⟨-, he | ⟨-, he⟩⟩ | ⟨hr, s₁, hs₁, he⟩
  · rw [he]
    exact Or.inr (.refl s)
  · rw [he]
    exact Or.inr (tcpSendFlag_spares _ _ _ _).calm
  have hacks : hdr.flags.ack = true → (ackQueue hdr.ackSeq s.snd.retransmitQueue).2.2 = true := by
    intro ha
    obtain ⟨a, hpos, hu, hx⟩ := h.position (.inl (hr ha))
    rw [hpos]
    exact h.acks hu hx
  have hd : Calm s s₁ ∧ s₁.snd = s.snd := by
    rcases hs₁ with ⟨rfl, -⟩ | ⟨-, -, fr, no, rfl⟩
    · exact ⟨.refl s₁, rfl⟩
    · exact ⟨.of_eq rfl rfl, rfl⟩
  obtain ⟨hd, hsnd⟩ := hd
  obtain ⟨c, hp, -⟩ := parseTcpOptions_frame s₁ hdr
  rw [hp] at he
  rcases he with he | ⟨-, he⟩ | ⟨-, he⟩ <;> rw [he]
  · exact Or.inr (.trans hd (.of_eq rfl rfl))
  · exact Or.inr (.trans hd (.of_eq rfl rfl))
  · rcases synSentSyn_counted (s := { s₁ with nego := (parsedOptions s₁ hdr).1, cong := c }) hdr
      (by rw [hsnd]; exact hacks) with hz | hc
    · exact Or.inl hz
    · exact Or.inr (.trans hd (hc.after rfl rfl))

lemma tcpInput_counted (h : ConnAt own iss data fin u x s) (g : Segment) : Counted s (tcpInput s g) := by
  have h₁ := parseTcpOptions_inv h g.hdr
  obtain ⟨c, hp, -⟩ := parseTcpOptions_frame s g.hdr
  rcases tcpInput_cases s g with ⟨-, he⟩ | ⟨-, he | ⟨seq, ack, fl, -, -, he⟩⟩ | ⟨-, ⟨-, he⟩ | ⟨-, he⟩⟩ <;> rw [he]
  · exact tcpProcessSynSent_counted h g.hdr
  · exact Or.inr (.refl s)
  · exact Or.inr (tcpSendFlag_spares _ _ _ _).calm
  · rw [hp]
    exact Or.inr (.of_eq rfl rfl)
  · rw [hp] at h₁ ⊢
    rcases inputSynchronized_counted h₁ g with hz | hc
    · exact Or.inl hz
    · exact Or.inr (hc.after rfl rfl)

lemma tcpSetsockopt_calm (s : TcpSock) (o : SockOpt) : Calm s (tcpSetsockopt s o) := by
  cases o with
  | rcvbuf v hv =>
    simp only [tcpSetsockopt, setRcvbuf]
    split
    · exact .of_eq rfl rfl
    · exact .of_eq rfl rfl
  | _ => exact .of_eq rfl rfl

def countsExpiry (s : TcpSock) : Bool :=
  !s.due .nagle &&
    if s.due .retransmit then !s.snd.retransmitQueue.isEmpty && !s.core.state.opening
    else !s.due .ack && s.due .persist && s.win.sndWnd == 0 &&
      (!s.snd.retransmitQueue.isEmpty || !s.snd.sendQueue.isEmpty)

structure Expires (s s' : TcpSock) : Prop where
  out : s'.retry.retriesOut ≤ s.retry.retriesOut + 1
  una : s'.snd.sndUna = s.snd.sndUna
  alive : s.retry.retriesOut < s.retry.retriesMax → s.core.state ≠ .closed → s'.core.state ≠ .closed

lemma retransmitTimeout_calm (h : s.snd.retransmitQueue = [] ∨ s.core.state.opening = true) :
    Calm s (retransmitTimeout s) := by
  simp only [retransmitTimeout]
  split
  · exact .refl s
  next hq =>
  rw [if_pos (opening_cases (h.resolve_left hq))]
  split
  · exact (destroyTcpSocket_spares _).calm.after rfl rfl
  · exact (tcpRetransmitSkb_spares _ _ false).calm.after rfl rfl

lemma Expires.of_step (hl : Spares False s₁ s') (hst : s₁.core.state = s.core.state)
    (hr : s₁.retry.retriesOut = s.retry.retriesOut + 1) (hu : s₁.snd.sndUna = s.snd.sndUna) : Expires s s' :=
  ⟨hr ▸ Nat.le_of_eq hl.out, hl.una.trans hu, fun _ h => hl.state.alive (hst ▸ h)⟩

lemma Expires.of_abort (hr : s'.retry.retriesOut = s.retry.retriesOut + 1) (hu : s'.snd.sndUna = s.snd.sndUna)
    (h : s.retry.retriesMax ≤ s.retry.retriesOut) : Expires s (abortTimeout s') := by
  obtain ⟨fr, no, he⟩ := destroyTcpSocket_frame { s' with error := some .etimedout }
  rw [abortTimeout, he]
  exact ⟨Nat.le_of_eq hr, hu, fun hlt => absurd hlt (Nat.not_lt.mpr h)⟩

lemma retransmitTimeout_expires (hs : s.core.state.opening = false) : Expires s (retransmitTimeout s) := by
  have hst : ¬(s.core.state = .synSent ∨ s.core.state = .synReceived) := by
    rintro (h | h)
    · rw [h] at hs
      cases hs
    · rw [h] at hs
      cases hs
  simp only [retransmitTimeout, if_neg hst]
  split
  · exact ⟨Nat.le_succ _, rfl, fun _ h => h⟩
  split
  · next hle => exact .of_abort rfl rfl hle
  · obtain ⟨c, t, hc, -⟩ := tcpCongestionOnTimeout_spec { s with retry.retriesOut := s.retry.retriesOut + 1 }
    rw [hc]
    exact .of_step (tcpRetransmitSkb_spares _ _ false) rfl rfl rfl

lemma persistTimeout_calm (h : ¬(s.win.sndWnd = 0 ∧ (s.snd.retransmitQueue ≠ [] ∨ s.snd.sendQueue ≠ []))) :
    Calm s (persistTimeout s) := by
  simp only [persistTimeout, if_neg h]
  exact .refl s

lemma persistTimeout_expires (s : TcpSock) : Expires s (persistTimeout s) := by
  simp only [persistTimeout]
  split
  · split
    · next hle => exact .of_abort rfl rfl hle
    · exact .of_step (tcpSendProbe_spares _) rfl rfl rfl
  · exact ⟨Nat.le_succ _, rfl, fun _ h => h⟩

lemma tcpTimerCb_calm (h : countsExpiry s = false) : Calm s (tcpTimerCb s) := by
  have hdestroy (d : Deadline) : Calm s (destroyTcpSocket (s.clearDeadline d)) :=
    (destroyTcpSocket_spares _).calm.after rfl rfl
  rw [countsExpiry] at h
  simp only [tcpTimerCb]
  split
  · split
    · exact .of_eq rfl rfl
    · exact (writeXmitLoop_spares true _ _ none).calm.after rfl rfl
  next hd =>
  rw [Bool.not_eq_true] at hd
  rw [hd, Bool.not_false, Bool.true_and] at h
  split
  · next hd =>
    rw [if_pos hd, Bool.and_eq_false_iff, Bool.not_eq_false', Bool.not_eq_false', List.isEmpty_iff] at h
    exact (retransmitTimeout_calm (s := s.clearDeadline .retransmit) h).after rfl rfl
  next hd =>
  rw [if_neg hd] at h
  split
  · exact (tcpSendFlag_spares _ _ _ _).calm.after rfl rfl
  next hd =>
  rw [Bool.not_eq_true] at hd
  rw [hd, Bool.not_false, Bool.true_and] at h
  split
  · next hd =>
    rw [hd, Bool.true_and] at h
    refine (persistTimeout_calm (s := s.clearDeadline .persist) ?_).after rfl rfl
    rintro ⟨hw, hq⟩
    rw [show s.win.sndWnd = 0 from hw, beq_self_eq_true, Bool.true_and, Bool.or_eq_false_iff,
      Bool.not_eq_false', Bool.not_eq_false', List.isEmpty_iff, List.isEmpty_iff] at h
    rcases hq with hq | hq
    · exact hq h.1
    · exact hq h.2
  split
  · exact hdestroy .timewait
  split
  · split
    · exact hdestroy .finwait2
    · exact .of_eq rfl rfl
  split
  · exact (keepaliveTimeout_spares _).calm.after rfl rfl
  · exact .refl s

def servesResend (s : TcpSock) : Bool := !s.due .nagle && (s.due .retransmit || (!s.due .ack && s.due .persist))

lemma Expires.after (h : Expires s₁ s') (hr : s₁.retry = s.retry) (hu : s₁.snd = s.snd)
    (hc : s₁.core = s.core) : Expires s s' := by
  refine ⟨hr ▸ h.out, hu ▸ h.una, ?_⟩
  rw [← hr, ← hc]
  exact h.alive

lemma tcpTimerCb_expires (h : servesResend s = true) (hs : s.due .retransmit = true → s.core.state.opening = false) :
    Expires s (tcpTimerCb s) := by
  simp only [servesResend, Bool.and_eq_true, Bool.not_eq_true', Bool.or_eq_true] at h
  obtain ⟨hn, h⟩ := h
  simp only [tcpTimerCb, hn, Bool.false_eq_true, if_false]
  split
  · next hd => exact (retransmitTimeout_expires (s := s.clearDeadline .retransmit) (hs hd)).after rfl rfl rfl
  next hd =>
  obtain ⟨ha, hp⟩ := h.resolve_left hd
  simp only [ha, hp, Bool.false_eq_true, if_false, if_true]
  exact (persistTimeout_expires _).after rfl rfl rfl

lemma countsExpiry_serves (h : countsExpiry s = true) :
    servesResend s = true ∧ (s.due .retransmit = true → s.core.state.opening = false) := by
  simp only [countsExpiry, Bool.and_eq_true] at h
  obtain ⟨hn, h⟩ := h
  by_cases hd : s.due .retransmit = true
  · rw [if_pos hd, Bool.and_eq_true] at h
    exact ⟨by simp [servesResend, hd, hn], fun _ => by simpa using h.2⟩
  · rw [if_neg hd] at h
    simp only [Bool.and_eq_true] at h
    exact ⟨by simp [servesResend, hn, h.1.1.1, h.1.1.2], fun h => absurd h hd⟩

-- nothing is in flight, or the window is open again: the deadline is cleared and that is all
lemma tcpTimerCb_nothing (h : servesResend s = true) (hc : countsExpiry s = false)
    (hs : s.core.state.opening = false) : (tcpTimerCb s).core = s.core := by
  simp only [servesResend, Bool.and_eq_true, Bool.not_eq_true', Bool.or_eq_true] at h
  obtain ⟨hn, h⟩ := h
  rw [countsExpiry, hn, hs] at hc
  simp only [tcpTimerCb, hn, Bool.false_eq_true, if_false]
  split
  · next hd =>
    rw [if_pos hd] at hc
    have hq : s.snd.retransmitQueue = [] := by simpa using hc
    rw [retransmitTimeout, if_pos]
    · rfl
    · exact hq
  next hd =>
  obtain ⟨ha, hp⟩ := h.resolve_left hd
  rw [if_neg hd, ha, hp] at hc
  simp only [ha, hp, Bool.false_eq_true, if_false, if_true]
  rw [persistTimeout, if_neg]
  · rfl
  · rintro ⟨hw, hq⟩
    rw [show s.win.sndWnd = 0 from hw] at hc
    have hqs : s.snd.retransmitQueue = [] ∧ s.snd.sendQueue = [] := by simpa using hc
    rcases hq with hq | hq
    · exact hq hqs.1
    · exact hq hqs.2

structure Resender where
  sock : TcpSock
  expired : ℕ := 0

def expiry (s : TcpSock) (e : Event) : Bool :=
  match e.action with
  | .timer => !s.core.freed && countsExpiry (s.withInputs e.inputs)
  | _ => false

def countStep (p : Resender) (e : Event) : Resender :=
  let s := step p.sock e
  { sock := s
    expired :=
      if s.snd.sndUna ≠ p.sock.snd.sndUna then 0
      else if expiry p.sock e then p.expired + 1
      else p.expired }

lemma act_counted (h : ConnAt own iss data fin u x s) (a : Action) (ha : a = .timer → countsExpiry s = false) :
    Counted s (act s a) := by
  cases a with
  | input g => exact tcpInput_counted h g
  | timer =>
    exact Or.inr ((tcpTimerCb_calm (s := { s with tm.registered := false }) (ha rfl)).after rfl rfl)
  | accept => exact Or.inr (.of_eq rfl rfl)
  | write buf expired => exact Or.inr (tcpWrite_spares s buf expired).calm
  | read len expired =>
    obtain ⟨er, r, t, he⟩ := tcpRead_frame s len expired
    simp only [act, he]
    exact Or.inr (.of_eq rfl rfl)
  | shutdown how => exact Or.inr (tcpShutdown_spares s how).calm
  | setsockopt o => exact Or.inr (tcpSetsockopt_calm s o)
  | close => exact Or.inr (closeFd_spares s).calm
  | icmp quoted err => exact Or.inr (tcpIcmpProcess_spares s quoted err).calm

lemma step_counted (h : ConnAt own iss data fin u x s) (e : Event) (he : expiry s e = false) :
    Counted s (step s e) := by
  rw [step]
  split
  · next hen =>
    have h₁ : ConnAt own iss data fin u x (s.withInputs e.inputs) := h.quiet _ _ _ _ _
    have hc := act_counted h₁ e.action fun ht => by
      rw [expiry, ht] at he
      rw [ht, Action.enabled] at hen
      simpa [hen] using he
    rcases hc with hz | hc
    · exact Or.inl hz
    · exact Or.inr (hc.after rfl rfl)
  · exact Or.inr (.refl s)

lemma step_expires (e : Event) (ht : e.action = .timer) (hs : servesResend (s.withInputs e.inputs) = true)
    (hst : (s.withInputs e.inputs).due .retransmit = true → s.core.state.opening = false) :
    Expires s (step s e) := by
  rw [step, ht]
  split
  · exact (tcpTimerCb_expires (s := { s.withInputs e.inputs with tm.registered := false }) hs hst).after rfl rfl rfl
  · exact ⟨Nat.le_succ _, rfl, fun _ h => h⟩

lemma countStep_out {p : Resender} (h : ConnAt own iss data fin u x p.sock)
    (hp : p.sock.retry.retriesOut ≤ p.expired) (e : Event) :
    (countStep p e).sock.retry.retriesOut ≤ (countStep p e).expired := by
  simp only [countStep]
  cases hx : expiry p.sock e with
  | false =>
    rcases step_counted h e hx with hz | hc
    · rw [hz]
      exact Nat.zero_le _
    · rw [if_neg (not_not_intro hc.una)]
      exact Nat.le_trans hc.out hp
  | true =>
    obtain ⟨action, inputs⟩ := e
    cases action with
    | timer =>
      simp only [expiry, Bool.and_eq_true] at hx
      obtain ⟨hserve, hst⟩ := countsExpiry_serves hx.2
      have he := step_expires (s := p.sock) { action := .timer, inputs } rfl hserve hst
      rw [if_neg (not_not_intro he.una), if_pos rfl]
      exact Nat.le_trans he.out (Nat.succ_le_succ hp)
    | _ => cases hx

/-- No more expiries in a row than `retries_max`, without something new acknowledged in between. -/
def Answered (p : Resender) (e : Event) : Prop := expiry p.sock e = true → p.expired < p.sock.retry.retriesMax

/-- The callback gives up a connection that was open. -/
def GivesUp (s : TcpSock) (e : Event) : Prop :=
  e.action = .timer ∧ servesResend (s.withInputs e.inputs) = true ∧ s.core.state.opening = false ∧
    s.core.state ≠ .closed ∧ (step s e).core.state = .closed

theorem resend_never_gives_up {iss : Seq} {s : TcpSock} (h : Opened iss s) (hz : s.retry.retriesOut = 0)
    (es : List Event) (e : Event) (hm : Meets countStep Answered { sock := s } (es ++ [e])) :
    ¬GivesUp (run countStep { sock := s } es).sock e := by
  obtain ⟨hes, he⟩ := hm.concat
  have hinv : (∃ data, ConnInv False iss data (run countStep { sock := s } es).sock) ∧
      (run countStep { sock := s } es).sock.retry.retriesOut ≤ (run countStep { sock := s } es).expired := by
    refine run_always (I := fun p : Resender => (∃ data, ConnInv False iss data p.sock) ∧
      p.sock.retry.retriesOut ≤ p.expired) ?_ ⟨⟨[], h.inv⟩, Nat.le_of_eq hz⟩ es
    rintro p a ⟨⟨data, hc⟩, hp⟩
    refine ⟨⟨_, (step_inv hc a False.elim).1⟩, ?_⟩
    obtain ⟨fin, u, x, hat⟩ := hc
    exact countStep_out hat hp a
  rintro ⟨ht, hserve, hst, hopen, hclosed⟩
  cases hx : expiry (run countStep { sock := s } es).sock e with
  | true =>
    have hlt := Nat.lt_of_le_of_lt hinv.2 (he hx)
    exact (step_expires e ht hserve fun _ => hst).alive hlt hopen hclosed
  | false =>
    refine hopen (.trans ?_ hclosed)
    rw [step, ht]
    split
    · next hen =>
      have hc : countsExpiry ((run countStep { sock := s } es).sock.withInputs e.inputs) = false := by
        rw [Action.enabled] at hen
        simpa [expiry, ht, hen] using hx
      have hn := tcpTimerCb_nothing (s := { (run countStep { sock := s } es).sock.withInputs e.inputs with
        tm.registered := false }) hserve hc hst
      simp only [act]
      rw [hn]
    · rfl

def closedWindow : Segment :=
  bareSegment { plainHdr 501 1 { ack := true } with window := 0, windowLt := by decide }

def zeroWindow : List Event :=
  [{ action := .input (bareSegment (plainHdr 500 1 { syn := true, ack := true })), inputs := { now := 1 } },
    { action := .timer, inputs := { now := 2 } },
    { action := .input closedWindow, inputs := { now := 3 } },
    { action := .write [7] false, inputs := { now := 4 } },
    { action := .timer, inputs := { now := 14 } }]

def probed (now : ℕ) : List Event :=
  [{ action := .timer, inputs := { now } }, { action := .input closedWindow, inputs := { now := now + 1 } }]

def unsentAgain (nows : List ℕ) : List Event := nows.map fun now => { action := .timer, inputs := { now } }

def answeredProbes : List Event :=
  zeroWindow ++ probed 2014 ++ unsentAgain [3014, 5014] ++ probed 6014 ++ unsentAgain [9014] ++ probed 14014 ++
    unsentAgain [15014, 21014, 27014] ++ probed 30014

theorem answered_probes_give_up :
    (run step openSock answeredProbes).env.wire.map (·.payload) = [[], [], [7], [7], [7], [7]] ∧
      (run step openSock answeredProbes).win.sndWnd = 0 ∧
      GivesUp (run step openSock answeredProbes) { action := .timer, inputs := { now := 33014 } } := by
  refine ⟨by decide, by decide, rfl, ?_⟩
  decide

theorem resend_never_gives_up_first_probe :
    ¬GivesUp (run countStep { sock := openSock } zeroWindow).sock { action := .timer, inputs := { now := 2014 } } := by
  refine resend_never_gives_up openSock_opened rfl zeroWindow _ ⟨?_, ?_, ?_, ?_, ?_, ?_, trivial⟩
  all_goals
    intro _
    decide

end Netfast.Tcp
