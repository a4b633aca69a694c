import Netfast.Tcp.RecvRun
import Netfast.Tcp.Wire

/-! The state diagram of a connection, and its receive side. Only `tcp_read`, `SO_RCVBUF` and an arriving segment
touch that side; everything else follows the arrows that need nothing from the peer but an acknowledgement. -/

namespace Netfast.Tcp

inductive Arrow : TcpState → TcpState → Prop
  | opened : Arrow .synReceived .established
  | finSent : Arrow .established .finWait1
  | finSentEarly : Arrow .synReceived .finWait1
  | lastFinSent : Arrow .closeWait .lastAck
  | finAcked : Arrow .finWait1 .finWait2
  | closingAcked : Arrow .closing .timeWait
  | ended (st : TcpState) : Arrow st .closed

abbrev Arrows : TcpState → TcpState → Prop := Relation.ReflTransGen Arrow

structure Apart (s s' : TcpSock) : Prop where
  rcv : s'.rcv = s.rcv
  recvFin : s'.core.recvFin = s.core.recvFin
  fins : finsTaken s' = finsTaken s
  arrows : Arrows s.core.state s'.core.state

namespace Apart

variable {s s' : TcpSock}

lemma refl (s : TcpSock) : Apart s s := ⟨rfl, rfl, rfl, .refl⟩

lemma trans {a b c : TcpSock} (h : Apart a b) (h' : Apart b c) : Apart a c :=
  ⟨h'.rcv.trans h.rcv, h'.recvFin.trans h.recvFin, h'.fins.trans h.fins, h.arrows.trans h'.arrows⟩

lemma of_eq (hr : s'.rcv = s.rcv) (hc : s'.core = s.core) (hn : s'.env.notified = s.env.notified) : Apart s s' :=
  ⟨hr, by rw [hc], by rw [finsTaken, finsTaken, hn], by rw [hc]⟩

lemma after {s₁ : TcpSock} (h : Apart s₁ s') (hr : s₁.rcv = s.rcv) (hc : s₁.core = s.core)
    (hn : s₁.env.notified = s.env.notified) : Apart s s' :=
  .trans (.of_eq hr hc hn) h

lemma of_notify {n : Notify} (h : n ≠ .recvFin) (hr : s'.rcv = s.rcv) (hc : s'.core.recvFin = s.core.recvFin)
    (hn : s'.env.notified = s.env.notified ++ [n]) (ha : Arrows s.core.state s'.core.state) : Apart s s' := by
  refine ⟨hr, hc, ?_, ha⟩
  rw [finsTaken, hn]
  exact finsTaken_notify s h

end Apart

lemma Away.apart {ends : Prop} {s s' : TcpSock} (h : Away ends s s') : Apart s s' := by
  refine ⟨h.rcv, h.recvFin, h.fins, ?_⟩
  rcases h.state with hs | hs | ⟨-, hs⟩
  · rw [hs]
  · rw [hs]
    cases s.core.state with
    | synReceived => exact .single .finSentEarly
    | established => exact .single .finSent
    | closeWait => exact .single .lastFinSent
    | _ => exact .refl
  · rw [hs]
    exact .single (.ended _)

variable {s s' : TcpSock}

/-! The ACK step of `tcp_input`. -/

section

variable (s)

lemma ackedTimers_apart : Apart s (ackedTimers s) := by
  simp only [ackedTimers]
  split <;> exact .of_notify (n := .dataWrite) (by decide) rfl rfl rfl .refl

lemma tcpUpdateRetransmitQueue_apart : Apart s (tcpUpdateRetransmitQueue s) := by
  let t : TcpSock := { s with
    snd.retransmitQueue := (ackQueue s.snd.sndUna s.snd.retransmitQueue).1
    snd.sendBufferLen := subU32 s.snd.sendBufferLen (ackQueue s.snd.sndUna s.snd.retransmitQueue).2.1 }
  have hq : Apart s (if (ackQueue s.snd.sndUna s.snd.retransmitQueue).2.2 then ackedTimers t else t) := by
    split
    · exact .after (ackedTimers_apart t) rfl rfl rfl
    · exact .of_eq rfl rfl rfl
  rw [tcpUpdateRetransmitQueue]
  dsimp only
  change Apart s (if _ = [] then
    { (if (ackQueue s.snd.sndUna s.snd.retransmitQueue).2.2 then ackedTimers t else t) with
      win.lastAckRepeat := 0, tm := tcpUpdateTimer _ .retransmit timerStop true } else _)
  generalize (if (ackQueue s.snd.sndUna s.snd.retransmitQueue).2.2 then ackedTimers t else t) = t' at hq ⊢
  split
  · exact hq.trans (.of_eq rfl rfl rfl)
  split
  · exact hq.trans (.of_eq rfl rfl rfl)
  · exact hq

lemma takeWindow_apart (h : TcpHdr) : Apart s (takeWindow s h) := by
  obtain ⟨re, t, he⟩ := takeWindow_frame s h
  rw [he]
  exact .of_eq rfl rfl rfl

lemma noteWindow_apart (h : TcpHdr) : Apart s (noteWindow s h) := by
  rw [noteWindow]
  split
  · exact takeWindow_apart s h
  · exact .refl s

lemma restartKeepalive_apart : Apart s (restartKeepalive s) := by
  obtain ⟨re, t, he⟩ := restartKeepalive_frame s
  rw [he]
  exact .of_eq rfl rfl rfl

lemma ackNewData_apart (h : TcpHdr) : Apart s (ackNewData s h) := by
  have hq : Apart s (tcpUpdateRetransmitQueue { s with snd.sndUna := h.ackSeq }) :=
    .after (tcpUpdateRetransmitQueue_apart _) rfl rfl rfl
  have ha : Apart s (acknowledge s h) :=
    hq.trans (.after (noteWindow_apart _ h) rfl rfl rfl)
  obtain ⟨n, b, he⟩ := ackNewData_cases s h
  obtain ⟨c, t, hc, -⟩ := tcpCongestionOnAck_spec (acknowledge s h) n b
  rw [hc] at he
  rcases he with he | ⟨-, he⟩ <;> rw [he]
  · exact ha.trans (.of_eq rfl rfl rfl)
  · exact ha.trans (.after (tcpRetransmitNow_spares _).apart rfl rfl rfl)

lemma ackDuplicate_apart (g : Segment) : Apart s (ackDuplicate s g) := by
  have hw := noteWindow_apart s g.hdr
  obtain ⟨s₁, ⟨l, n, c, t, rfl⟩, -, -, -, -, he | ⟨-, he⟩⟩ := ackDuplicate_spec s g <;> rw [he]
  · exact hw.trans (.of_eq rfl rfl rfl)
  · exact hw.trans (.after (tcpRetransmitNow_spares _).apart rfl rfl rfl)

lemma ackOwnFin_apart : Apart s (ackOwnFin s).1 := by
  rw [ackOwnFin]
  split
  · split
    · next h =>
      dsimp only
      split <;> exact .of_notify (n := .lingerDone) (by decide) rfl rfl rfl (by rw [h]; exact .single .finAcked)
    · next h => exact .of_notify (n := .lingerDone) (by decide) rfl rfl rfl (by rw [h]; exact .single .closingAcked)
    · exact (destroyed_spares (.notify s (n := .lingerDone) (by decide))).apart
    · exact .refl s
  · exact .refl s

end

lemma ackSynReceived_apart (hs : s.core.state = .synReceived) (h : TcpHdr) : Apart s (ackSynReceived s h).1 := by
  simp only [ackSynReceived]
  split
  · have hq : Apart s (tcpUpdateRetransmitQueue { s with
        core.state := .established
        snd.sndUna := h.ackSeq
        win.lastAck := h.ackSeq
        win.lastAckRepeat := 0 }) :=
      Apart.trans (b := { s with
        core.state := .established
        snd.sndUna := h.ackSeq
        win.lastAck := h.ackSeq
        win.lastAckRepeat := 0 }) ⟨rfl, rfl, rfl, by rw [hs]; exact .single .opened⟩ (tcpUpdateRetransmitQueue_apart _)
    refine (hq.trans ((takeWindow_apart _ h).trans (restartKeepalive_apart _))).trans ?_
    split
    · exact .of_notify (n := .newConnection) (by decide) rfl rfl rfl .refl
    · exact .of_notify (n := .dataWrite) (by decide) rfl rfl rfl .refl
  split
  · exact (tcpSendFlag_spares s _ _ _).apart
  · exact .refl s

lemma inputAck_apart (s : TcpSock) (g : Segment) : Apart s (inputAck s g).1 := by
  rcases inputAck_cases s g with ⟨hs, he⟩ | ⟨-, ⟨-, he⟩ | he⟩ | he <;> rw [he]
  · exact ackSynReceived_apart hs g.hdr
  · exact (ackNewData_apart s g.hdr).trans (ackOwnFin_apart _)
  · exact ackDuplicate_apart s g
  · exact .refl s

lemma parseTcpOptions_apart (s : TcpSock) (hdr : TcpHdr) : Apart s (parseTcpOptions s hdr).1 := by
  obtain ⟨c, he, -⟩ := parseTcpOptions_frame s hdr
  rw [he]
  exact .of_eq rfl rfl rfl

structure Passed (s : TcpSock) (g : Segment) : Prop where
  live : s.core.state ≠ .closed ∧ s.core.state ≠ .listen ∧ s.core.state ≠ .synSent
  options : (parseTcpOptions s g.hdr).2 = true
  allowed : (segAllow s.rcv g.hdr.seq g.segLen || timeWaitFin s g) = true
  rst : g.hdr.flags.rst = false
  syn : g.hdr.flags.syn = false
  ack : g.hdr.flags.ack = true
  inRange : ackInRange s g.hdr.ackSeq = true
  goesOn : (inputAck (parseTcpOptions s g.hdr).1 g).2 = false

def acknowledged (s : TcpSock) (g : Segment) : TcpSock := (inputAck (parseTcpOptions s g.hdr).1 g).1

lemma acknowledged_apart (s : TcpSock) (g : Segment) : Apart s (acknowledged s g) :=
  (parseTcpOptions_apart s g.hdr).trans (inputAck_apart _ g)

structure Synced (s : TcpSock) (g : Segment) (s' : TcpSock) : Prop where
  rcv : s'.rcv = { s.rcv with rcvNxt := g.hdr.seq + 1 }
  recvFin : s'.core.recvFin = s.core.recvFin
  fins : finsTaken s' = finsTaken s
  state : s'.core.state = .established ∨ s'.core.state = .synReceived

inductive Arrives (s : TcpSock) (g : Segment) (s' : TcpSock) : Prop
  | apart (h : Apart s s')
  | synced (hs : s.core.state = .synSent) (h : Synced s g s')
  | passed (h : Passed s g) (he : s' = inputFin (inputText (acknowledged s g) g) g)

lemma parsed_frame (s : TcpSock) (hdr : TcpHdr) : (parseTcpOptions s hdr).1.rcv = s.rcv ∧
    (parseTcpOptions s hdr).1.core = s.core ∧ (parseTcpOptions s hdr).1.snd = s.snd ∧
      (parseTcpOptions s hdr).1.win = s.win := by
  obtain ⟨c, he, -⟩ := parseTcpOptions_frame s hdr
  rw [he]
  exact ⟨rfl, rfl, rfl, rfl⟩

lemma timeWaitFin_congr (hr : s'.rcv = s.rcv) (hc : s'.core = s.core) (g : Segment) :
    timeWaitFin s' g = timeWaitFin s g := by
  rw [timeWaitFin, timeWaitFin, hr, hc]

lemma ackInRange_congr (hs : s'.snd = s.snd) (hw : s'.win = s.win) (ack : Seq) : ackInRange s' ack = ackInRange s ack := by
  rw [ackInRange, ackInRange, hs, hw]

lemma inputSynchronized_arrives (hl : s.core.state ≠ .closed ∧ s.core.state ≠ .listen ∧ s.core.state ≠ .synSent)
    (g : Segment) (ho : (parseTcpOptions s g.hdr).2 = true) :
    Arrives s g (inputSynchronized (parseTcpOptions s g.hdr).1 g) := by
  obtain ⟨hr, hc, hs, hw⟩ := parsed_frame s g.hdr
  have hp := parseTcpOptions_apart s g.hdr
  rcases inputSynchronized_cases (parseTcpOptions s g.hdr).1 g with
    he | he | he | he | ⟨⟨hseq, hrst, hsyn, hack, hin⟩, he⟩ <;> rw [he]
  · exact .apart (hp.trans (.of_eq rfl rfl rfl))
  · exact .apart (hp.trans (inputRst_spares _).apart)
  · exact .apart (hp.trans (inputSyn_spares _).apart)
  · exact .apart hp
  split
  · exact .apart (hp.trans (inputAck_apart _ g))
  · next hgo =>
    rw [hr, timeWaitFin_congr hr hc] at hseq
    rw [ackInRange_congr hs hw] at hin
    exact .passed ⟨hl, ho, hseq, hrst, hsyn, hack, hin, Bool.eq_false_of_not_eq_true hgo⟩ rfl

lemma synSentSyn_synced (g : Segment) : Synced s g (synSentSyn s g.hdr) := by
  let s₁ : TcpSock := { s with rcv.rcvNxt := g.hdr.seq + 1 }
  have hest : (synSentEstablish s₁ g.hdr.ackSeq).rcv = s₁.rcv ∧
      (synSentEstablish s₁ g.hdr.ackSeq).core = { s.core with state := .established } ∧
      finsTaken (synSentEstablish s₁ g.hdr.ackSeq) = finsTaken s := by
    have hq := tcpUpdateRetransmitQueue_apart { s₁ with
      snd.sndUna := g.hdr.ackSeq
      win.lastAck := g.hdr.ackSeq
      win.lastAckRepeat := 0
      core.state := .established }
    obtain ⟨w, re, t, no, he, -⟩ := synSentEstablish_frame s₁ g.hdr.ackSeq
    refine ⟨by rw [he], by rw [he], ?_⟩
    have hk := hq.trans (restartKeepalive_apart _)
    exact (finsTaken_notify _ (by decide)).trans hk.fins
  have hsim : (synSentSimultaneous s₁).rcv = s₁.rcv ∧
      (synSentSimultaneous s₁).core = { s.core with state := .synReceived } ∧
      finsTaken (synSentSimultaneous s₁) = finsTaken s := by
    rw [synSentSimultaneous]
    split <;> exact ⟨rfl, rfl, rfl⟩
  have hwin (t : TcpSock) : Apart t (takeWindow t g.hdr) ∧ (takeWindow t g.hdr).core = t.core := by
    obtain ⟨re, tm, he⟩ := takeWindow_frame t g.hdr
    exact ⟨takeWindow_apart t g.hdr, by rw [he]⟩
  rw [synSentSyn_eq]
  split
  · obtain ⟨hr, hc, hf⟩ := hest
    obtain ⟨ha, hcore⟩ := hwin (synSentEstablish s₁ g.hdr.ackSeq)
    exact ⟨ha.rcv.trans hr, ha.recvFin.trans (by rw [hc]), ha.fins.trans hf, .inl (by rw [hcore, hc])⟩
  · obtain ⟨hr, hc, hf⟩ := hsim
    obtain ⟨ha, hcore⟩ := hwin (synSentSimultaneous s₁)
    exact ⟨ha.rcv.trans hr, ha.recvFin.trans (by rw [hc]), ha.fins.trans hf, .inr (by rw [hcore, hc])⟩

lemma tcpProcessSynSent_arrives (hs : s.core.state = .synSent) (g : Segment) :
    Arrives s g (tcpProcessSynSent s g.hdr) := by
  rcases tcpProcessSynSent_cases s g.hdr with ⟨-, he | ⟨-, he⟩⟩ | ⟨-, s₁, hs₁, he⟩
  · rw [he]
    exact .apart (.refl s)
  · rw [he]
    exact .apart (tcpSendFlag_spares s _ _ _).apart
  have hrst : Apart s s₁ := by
    rcases hs₁ with ⟨rfl, -⟩ | ⟨-, rfl, -⟩
    · exact .refl s₁
    · exact (destroyTcpSocket_spares _).apart.after rfl rfl rfl
  have hp := hrst.trans (parseTcpOptions_apart s₁ g.hdr)
  rcases he with he | ⟨-, he⟩ | ⟨-, he⟩ <;> rw [he]
  · exact .apart (hrst.trans (.of_eq rfl rfl rfl))
  · exact .apart hp
  · have hsyn := synSentSyn_synced (s := (parseTcpOptions s₁ g.hdr).1) g
    exact .synced hs ⟨by rw [hsyn.rcv, hp.rcv], hsyn.recvFin.trans hp.recvFin, hsyn.fins.trans hp.fins, hsyn.state⟩

lemma tcpInput_arrives (s : TcpSock) (g : Segment) : Arrives s g (tcpInput s g) := by
  rcases tcpInput_cases s g with ⟨hs, he⟩ | ⟨-, he | ⟨seq, ack, fl, -, -, he⟩⟩ | ⟨hl, ⟨-, he⟩ | ⟨ho, he⟩⟩ <;> rw [he]
  · exact tcpProcessSynSent_arrives hs g
  · exact .apart (.refl s)
  · exact .apart (tcpSendFlag_spares s _ _ _).apart
  · exact .apart (parseTcpOptions_apart s g.hdr)
  · exact inputSynchronized_arrives hl g ho

def takesText : TcpState → Bool
  | .established | .finWait1 | .finWait2 => true
  | _ => false

structure TextTaken (s : TcpSock) (g : Segment) (s' : TcpSock) : Prop where
  core : s'.core = s.core
  snd : s'.snd = s.snd
  fins : finsTaken s' = finsTaken s
  rcv : s'.rcv = if takesText s.core.state then (tcpRecvData s.rcv g.skb).1 else s.rcv

lemma inputText_taken (s : TcpSock) (g : Segment) : TextTaken s g (inputText s g) := by
  rw [inputText]
  split
  · next hs =>
    have ht : takesText s.core.state = true := by rcases hs with hs | hs | hs <;> rw [hs] <;> rfl
    have hfin (t : TcpSock) (hn : t.env.notified = s.env.notified ++ [.dataRead]) : finsTaken t = finsTaken s := by
      rw [finsTaken, hn]
      exact finsTaken_notify s (by decide)
    split
    · next r he => exact ⟨rfl, rfl, rfl, by rw [if_pos ht, he]⟩
    · next r he =>
      dsimp only
      split <;> exact ⟨rfl, rfl, hfin _ rfl, by rw [if_pos ht, he]⟩
  · next hs =>
    refine ⟨rfl, rfl, rfl, ?_⟩
    rw [if_neg]
    cases hst : s.core.state
    case established | finWait1 | finWait2 => exact absurd (by rw [hst]; decide) hs
    all_goals exact Bool.false_ne_true

def finEnd (g : Segment) : Seq := g.hdr.seq + BitVec.ofNat 32 g.dataLen

def takesFin (s : TcpSock) (g : Segment) : Bool :=
  g.hdr.flags.fin && finEnd g == s.rcv.rcvNxt && s.core.state != .closed && s.core.state != .synSent

def TcpState.afterFin (ownAcked : Bool) : TcpState → TcpState
  | .synReceived | .established => .closeWait
  | .finWait1 => if ownAcked then .timeWait else .closing
  | .finWait2 => .timeWait
  | st => st

structure FinTaken (s s' : TcpSock) : Prop where
  rcv : s'.rcv = { s.rcv with rcvNxt := s.rcv.rcvNxt + 1 }
  recvFin : s'.core.recvFin = true
  fins : finsTaken s' = finsTaken s + 1
  state : s'.core.state = s.core.state.afterFin (decide (s.snd.sndUna = s.snd.sndEnd))

lemma finState_state (s : TcpSock) : (finState s).rcv = s.rcv ∧ (finState s).core.recvFin = s.core.recvFin ∧
    finsTaken (finState s) = finsTaken s ∧
      (finState s).core.state = s.core.state.afterFin (decide (s.snd.sndUna = s.snd.sndEnd)) := by
  rw [finState]
  split
  · next h => exact ⟨rfl, rfl, rfl, by rw [h]; rfl⟩
  · next h => exact ⟨rfl, rfl, rfl, by rw [h]; rfl⟩
  · next h =>
    split
    · next hu => exact ⟨rfl, rfl, finsTaken_notify s (by decide), by rw [h, decide_eq_true hu]; rfl⟩
    · next hu => exact ⟨rfl, rfl, rfl, by rw [h, decide_eq_false hu]; rfl⟩
  · next h => exact ⟨rfl, rfl, rfl, by rw [h]; rfl⟩
  · next h => exact ⟨rfl, rfl, rfl, by rw [h]; rfl⟩
  · next h₁ h₂ h₃ h₄ h₅ =>
    refine ⟨rfl, rfl, rfl, ?_⟩
    cases hst : s.core.state <;> first | rfl | simp_all

lemma takeFin_taken (s : TcpSock) : FinTaken s (takeFin s) := by
  obtain ⟨hr, hc, hf, hst⟩ := finState_state ({ s with
    rcv.rcvNxt := s.rcv.rcvNxt + 1
    core.recvFin := true
    retry.keepaliveRepeatCount := 0
    tm := tcpUpdateTimer s.tm .keepalive timerStop true }.notify .recvFin).ackNow
  refine ⟨hr, hc, hf.trans ?_, hst⟩
  rw [finsTaken, List.count_append]
  rfl

lemma inputFin_cases (s : TcpSock) (g : Segment) :
    (takesFin s g = true ∧ FinTaken s (inputFin s g)) ∨
      (takesFin s g = false ∧ (inputFin s g).rcv = s.rcv ∧ (inputFin s g).core = s.core ∧
        finsTaken (inputFin s g) = finsTaken s) := by
  have hlast (t : TcpSock) : (if t.core.state = .established then restartKeepalive t else t).rcv = t.rcv ∧
      (if t.core.state = .established then restartKeepalive t else t).core = t.core ∧
      finsTaken (if t.core.state = .established then restartKeepalive t else t) = finsTaken t := by
    obtain ⟨re, tm, he⟩ := restartKeepalive_frame t
    split
    · rw [he]
      exact ⟨rfl, rfl, rfl⟩
    · exact ⟨rfl, rfl, rfl⟩
  simp only [inputFin]
  split
  · next hs => exact .inr ⟨by rcases hs with hs | hs <;> simp [takesFin, hs], rfl, rfl, rfl⟩
  next hs =>
  rw [not_or] at hs
  split
  · next hw =>
    refine .inr ⟨?_, rfl, rfl, rfl⟩
    -- the FIN was taken before: its number is behind the one expected
    have hne : finEnd g ≠ s.rcv.rcvNxt := by
      rw [finEnd, ← hw.2.2]
      bv_omega
    rw [takesFin, beq_eq_false_iff_ne.mpr hne, Bool.and_false]
    rfl
  split
  · next hf =>
    obtain ⟨hr, hc, hn⟩ := hlast (takeFin s)
    have ht := takeFin_taken s
    refine .inl ⟨?_, hr.trans ht.rcv, by rw [hc]; exact ht.recvFin, hn.trans ht.fins, by rw [hc]; exact ht.state⟩
    have he : finEnd g = s.rcv.rcvNxt := hf.2
    rw [takesFin, hf.1, he]
    simp [hs.1, hs.2]
  · next hf =>
    obtain ⟨hr, hc, hn⟩ := hlast s
    refine .inr ⟨?_, hr, hc, hn⟩
    cases h : takesFin s g with
    | false => rfl
    | true =>
      simp only [takesFin, Bool.and_eq_true, beq_iff_eq] at h
      exact absurd ⟨h.1.1.1, h.1.1.2⟩ hf

inductive Touches (s : TcpSock) : Action → TcpSock → Prop
  | apart {a : Action} {s' : TcpSock} (h : Apart s s') : Touches s a s'
  | read {len : ℕ} {expired : Bool} {s' : TcpSock} (hr : s'.rcv = (readQueue s.rcv len).2) (hc : s'.core = s.core)
      (hn : s'.env.notified = s.env.notified) : Touches s (.read len expired) s'
  | resized {v : ℕ} {hv : v < 2 ^ 31} {s' : TcpSock}
      (hr : s'.rcv = { s.rcv with recvBufferLenMax := v, rcvWnd := useableRecvBuff { s.rcv with recvBufferLenMax := v } })
      (hc : s'.core = s.core) (hn : s'.env.notified = s.env.notified) : Touches s (.setsockopt (.rcvbuf v hv)) s'

lemma act_touches (s : TcpSock) {a : Action} (h : a.segment? = none) : Touches s a (act s a) := by
  cases a with
  | input g => cases h
  | timer => exact .apart ((tcpTimerCb_away _).apart.after rfl rfl rfl)
  | accept => exact .apart ⟨rfl, rfl, rfl, .refl⟩
  | write buf expired => exact .apart (tcpWrite_spares s buf expired).apart
  | read len expired =>
    obtain ⟨er, r, t, he⟩ := tcpRead_frame s len expired
    rcases (tcpRead_spec s len expired).2 with ⟨hr, -⟩ | ⟨hr, -⟩
    · exact .apart (.of_eq hr (by rw [act, he]) (by rw [act, he]))
    · exact .read hr (by rw [act, he]) (by rw [act, he])
  | shutdown how => exact .apart (tcpShutdown_spares s how).apart
  | setsockopt o =>
    cases o with
    | rcvbuf v hv =>
      simp only [act, tcpSetsockopt, setRcvbuf]
      split <;> exact .resized rfl rfl rfl
    | _ => exact .apart ⟨rfl, rfl, rfl, .refl⟩
  | close => exact .apart (closeFd_spares s).apart
  | icmp quoted err => exact .apart (tcpIcmpProcess_spares s quoted err).apart

/-! The whole diagram: with the arrows, the answer to the SYN and a FIN of the peer. -/

inductive Edge : TcpState → TcpState → Prop
  | arrow {a b : TcpState} (h : Arrow a b) : Edge a b
  | synAcked : Edge .synSent .established
  | synCrossed : Edge .synSent .synReceived
  | peerFin (own : Bool) (st : TcpState) : Edge st (st.afterFin own)

abbrev Edges : TcpState → TcpState → Prop := Relation.ReflTransGen Edge

lemma Edge.first {a b : TcpState} (h : Edge a b) :
    (b = .synSent ∨ b = .listen → a = b) ∧ (b = .synReceived → a = b ∨ a = .synSent) := by
  cases h with
  | arrow h => cases h <;> simp
  | synAcked | synCrossed => simp
  | peerFin own => cases a <;> cases own <;> simp [TcpState.afterFin]

lemma Edge.last {a b : TcpState} (h : Edge a b) : (a = .closed → b = a) ∧ (a = .timeWait → b = a ∨ b = .closed) := by
  cases h with
  | arrow h => cases h <;> simp [eq_comm]
  | synAcked | synCrossed => simp
  | peerFin own => cases a <;> cases own <;> simp [TcpState.afterFin]

/-- Nothing leads to SYN_SENT or LISTEN, and only SYN_SENT to SYN_RECEIVED. -/
lemma Edges.first {a b : TcpState} (h : Edges a b) :
    (b = .synSent ∨ b = .listen → a = b) ∧ (b = .synReceived → a = b ∨ a = .synSent) := by
  induction h with
  | refl => exact ⟨fun _ => rfl, fun _ => .inl rfl⟩
  | tail _ hb ih =>
    refine ⟨fun h => ?_, fun h => ?_⟩
    · obtain rfl := hb.first.1 h
      exact ih.1 h
    · rcases hb.first.2 h with rfl | rfl
      · exact ih.2 h
      · exact .inr (ih.1 (.inl rfl))

/-- CLOSED is never left, and TIME_WAIT leads only there. -/
lemma Edges.last {a b : TcpState} (h : Edges a b) : (a = .closed → b = a) ∧ (a = .timeWait → b = a ∨ b = .closed) := by
  induction h with
  | refl => exact ⟨fun _ => rfl, fun _ => .inl rfl⟩
  | tail _ hb ih =>
    refine ⟨?_, ?_⟩
    · rintro rfl
      obtain rfl := ih.1 rfl
      exact hb.last.1 rfl
    · rintro rfl
      rcases ih.2 rfl with rfl | rfl
      · exact hb.last.2 rfl
      · exact .inr (hb.last.1 rfl)

end Netfast.Tcp
