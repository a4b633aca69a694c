import Netfast.Tcp.Cubic
import Netfast.Tcp.PeerFin

/-! Loss episodes: what enters recovery, what leaves it, and what has been acknowledged in between. -/

namespace Netfast.Tcp

open Serial Run

structure Unmoved (s s' : TcpSock) : Prop where
  cong : restartsOnMss s.core.state = false →
    restartsOnMss s'.core.state = false ∧ s'.cong = s.cong ∨ s'.core.state = .closed
  closed : s.core.state = .closed → s'.core.state = .closed
  una : s'.snd.sndUna = s.snd.sndUna

variable {s₁ : TcpSock}

namespace Unmoved

variable {s s' : TcpSock}

lemma of_eq (hs : s'.core.state = s.core.state) (hc : s'.cong = s.cong) (hu : s'.snd.sndUna = s.snd.sndUna) :
    Unmoved s s' :=
  ⟨fun h => .inl ⟨by rw [hs]; exact h, hc⟩, fun h => hs.trans h, hu⟩

lemma refl (s : TcpSock) : Unmoved s s := .of_eq rfl rfl rfl

lemma trans {a b c : TcpSock} (h : Unmoved a b) (h' : Unmoved b c) : Unmoved a c := by
  refine ⟨fun ha => ?_, fun ha => h'.closed (h.closed ha), h'.una.trans h.una⟩
  rcases h.cong ha with ⟨hb, hc⟩ | hb
  · exact (h'.cong hb).imp_left fun hd => ⟨hd.1, hd.2.trans hc⟩
  · exact .inr (h'.closed hb)

lemma after (h : Unmoved s₁ s') (hs : s₁.core.state = s.core.state) (hc : s₁.cong = s.cong)
    (hu : s₁.snd.sndUna = s.snd.sndUna) : Unmoved s s' :=
  .trans (.of_eq hs hc hu) h

lemma of_state (hs : restartsOnMss s.core.state = false) (hs' : restartsOnMss s'.core.state = false)
    (hc : s'.cong = s.cong) (hu : s'.snd.sndUna = s.snd.sndUna) : Unmoved s s' := by
  refine ⟨fun _ => .inl ⟨hs', hc⟩, fun h => ?_, hu⟩
  rw [h] at hs
  cases hs

end Unmoved

lemma Spares.unmoved {ends : Prop} {s s' : TcpSock} (h : Spares ends s s') : Unmoved s s' := by
  refine ⟨fun hs => ?_, h.state.closed, h.una⟩
  rcases h.state.restarts hs with hs' | hs'
  · exact .inl ⟨hs', h.cong hs⟩
  · exact .inr hs'

variable {s s' : TcpSock}

section

variable (s)

lemma persistTimeout_unmoved : Unmoved s (persistTimeout s) := by
  simp only [persistTimeout]
  split
  · split
    · exact (destroyTcpSocket_spares _).unmoved.after rfl rfl rfl
    · exact .after (tcpSendProbe_spares _).unmoved rfl rfl rfl
  · exact .refl s

lemma ackOwnFin_unmoved : Unmoved s (ackOwnFin s).1 := by
  rw [ackOwnFin]
  split
  · split
    · next h =>
      dsimp only
      split <;> exact .of_state (by rw [h]; rfl) rfl rfl rfl
    · next h => exact .of_state (by rw [h]; rfl) rfl rfl rfl
    · exact (destroyTcpSocket_spares _).unmoved.after rfl rfl rfl
    · exact .refl s
  · exact .refl s

lemma inputText_unmoved (g : Segment) : Unmoved s (inputText s g) := by
  simp only [inputText]
  split
  · split
    · exact .of_eq rfl rfl rfl
    · split <;> exact .of_eq rfl rfl rfl
  · exact .refl s

lemma finState_unmoved : Unmoved s (finState s) := by
  rw [finState]
  split
  · next h =>
    refine ⟨fun hs => ?_, fun hs => ?_, rfl⟩
    · rw [h] at hs
      cases hs
    · rw [h] at hs
      cases hs
  · next h => exact .of_state (by rw [h]; rfl) rfl rfl rfl
  · next h =>
    split
    · exact .of_state (by rw [h]; rfl) rfl rfl rfl
    · exact .of_state (by rw [h]; rfl) rfl rfl rfl
  · next h => exact .of_state (by rw [h]; rfl) rfl rfl rfl
  · exact .of_eq rfl rfl rfl
  · exact .refl s

lemma inputFin_unmoved (g : Segment) : Unmoved s (inputFin s g) := by
  have hlast (s : TcpSock) : Unmoved s (if s.core.state = .established then restartKeepalive s else s) := by
    split
    · obtain ⟨re, t, he⟩ := restartKeepalive_frame s
      rw [he]
      exact .of_eq rfl rfl rfl
    · exact .refl s
  simp only [inputFin]
  split
  · exact .refl s
  split
  · exact .of_eq rfl rfl rfl
  refine Unmoved.trans ?_ (hlast _)
  split
  · exact .after (finState_unmoved _) rfl rfl rfl
  · exact .refl s

end

lemma parseTcpOptions_past (hs : restartsOnMss s.core.state = false) (h : TcpHdr) :
    (parseTcpOptions s h).1 = { s with nego := (parsedOptions s h).1 } ∧ (parsedOptions s h).1.sndMss = s.nego.sndMss := by
  have hshake : isHandshake s h.flags = false := by
    rw [isHandshake]
    cases hst : s.core.state with
    | synSent =>
      rw [hst] at hs
      cases hs
    | synReceived =>
      rw [hst] at hs
      cases hs
    | _ => simp
  have hmss : (parsedOptions s h).1.sndMss = s.nego.sndMss := by
    rw [parsedOptions, hshake]
    refine optionLoop_induct (fun n => n.sndMss = s.nego.sndMss) ?_ _ _ _ rfl
    intro kind len body n n' hn happ
    simp only [applyOption, Bool.false_eq_true, and_false, if_false] at happ
    split at happ
    · split at happ
      · cases happ
      · obtain rfl := Option.some.inj happ
        exact hn
    · obtain rfl := Option.some.inj happ
      exact hn
  refine ⟨?_, hmss⟩
  simp only [parseTcpOptions, hshake, Bool.and_false, Bool.false_and, Bool.false_eq_true, if_false]

inductive Judged (s : TcpSock) (c : CongState) : Prop
  | kept (ho : c.caState = .open ↔ s.cong.caState = .open) (hs : c.sndSsthresh = s.cong.sndSsthresh)
      (hr : c.caRecoverySeq = s.cong.caRecoverySeq)
  | reduced (ho : s.cong.caState = .open) (hn : c.caState ≠ .open) (hr : c.caRecoverySeq = s.snd.sndNxt)

inductive Advanced (s : TcpSock) (ack : Seq) (c : CongState) : Prop
  | kept (ho : c.caState = s.cong.caState) (hs : c.sndSsthresh = s.cong.sndSsthresh)
      (hr : c.caRecoverySeq = s.cong.caRecoverySeq)
      (hback : s.cong.caState = .open ∨ geq ack s.cong.caRecoverySeq = false)
  | left (ho : s.cong.caState ≠ .open) (hn : c.caState = .open) (hs : c.sndSsthresh = s.cong.sndSsthresh)
      (hreached : geq ack s.cong.caRecoverySeq = true) (hw : c.sndCwnd = max s.cong.sndSsthresh (tcpCaMss s.nego))

inductive Turn (s s' : TcpSock) : Prop
  | still (hu : s'.snd.sndUna = s.snd.sndUna) (h : Judged s s'.cong)
  | acked (hl : lt s.snd.sndUna s'.snd.sndUna = true) (h : Advanced s s'.snd.sndUna s'.cong)

lemma Judged.congr {c : CongState} (h : Judged s₁ c) (hc : s₁.cong = s.cong)
    (hn : s₁.snd.sndNxt = s.snd.sndNxt) : Judged s c := by
  cases h with
  | kept ho hs hr => exact .kept (by rw [ho, hc]) (by rw [hs, hc]) (by rw [hr, hc])
  | reduced ho hno hr => exact .reduced (by rw [← hc]; exact ho) hno (by rw [hr, hn])

lemma Advanced.congr {ack : Seq} {c : CongState} (h : Advanced s₁ ack c) (hc : s₁.cong = s.cong)
    (hm : s₁.nego.sndMss = s.nego.sndMss) : Advanced s ack c := by
  have hmss : tcpCaMss s₁.nego = tcpCaMss s.nego := by rw [tcpCaMss, tcpCaMss, hm]
  cases h with
  | kept ho hs hr hback => exact .kept (by rw [ho, hc]) (by rw [hs, hc]) (by rw [hr, hc]) (by rw [← hc]; exact hback)
  | left ho hn hs hreached hw =>
    exact .left (by rw [← hc]; exact ho) hn (by rw [hs, hc]) (by rw [← hc]; exact hreached) (by rw [hw, hc, hmss])

lemma Turn.after (h : Turn s₁ s') (hc : s₁.cong = s.cong) (hs : s₁.snd = s.snd)
    (hm : s₁.nego.sndMss = s.nego.sndMss) : Turn s s' := by
  cases h with
  | still hu h => exact .still (by rw [hu, hs]) (h.congr hc (by rw [hs]))
  | acked hl h => exact .acked (by rw [← hs]; exact hl) (h.congr hc hm)

lemma Turn.unmoved (h : Turn s s₁) (hs : restartsOnMss s₁.core.state = false) (hn : Unmoved s₁ s')
    (hopen : s'.core.state ≠ .closed) : Turn s s' := by
  have hc : s'.cong = s₁.cong := ((hn.cong hs).resolve_right hopen).2
  cases h with
  | still hu h => exact .still (hn.una.trans hu) (by rw [hc]; exact h)
  | acked hl h => exact .acked (by rw [hn.una]; exact hl) (by rw [hc, hn.una]; exact h)

lemma Turn.refl (s : TcpSock) : Turn s s := .still rfl (.kept Iff.rfl rfl rfl)

lemma Unmoved.turn (h : Unmoved s s') (hs : restartsOnMss s.core.state = false) (hopen : s'.core.state ≠ .closed) :
    Turn s s' :=
  (Turn.refl s).unmoved hs h hopen

section

variable (s)

lemma tcpCongestionOnDuplicateAck_judged (n : ℕ) : ∃ c t,
    (tcpCongestionOnDuplicateAck s n).1 = { s with cong := c, tm := t } ∧ Judged s c := by
  simp only [tcpCongestionOnDuplicateAck]
  split
  · next h =>
    obtain ⟨t, ht⟩ := tcpCaSetCwnd_cong _ _
    exact ⟨_, t, ht, .reduced h.2 (by simp) rfl⟩
  split
  · obtain ⟨t, ht⟩ := tcpCaSetCwnd_cong s (tcpCaSaturatingAdd s.cong.sndCwnd (tcpCaMss s.nego))
    exact ⟨_, t, ht, .kept Iff.rfl rfl rfl⟩
  · exact ⟨s.cong, s.tm, rfl, .kept Iff.rfl rfl rfl⟩

lemma tcpCongestionOnTimeout_judged : ∃ c t,
    tcpCongestionOnTimeout s = { s with cong := c, tm := t } ∧ Judged s c := by
  simp only [tcpCongestionOnTimeout]
  split
  · next h =>
    obtain ⟨t, ht⟩ := tcpCaSetCwnd_cong _ _
    rw [ht]
    exact ⟨_, t, rfl, .reduced h (by simp) rfl⟩
  · next h =>
    obtain ⟨t, ht⟩ := tcpCaSetCwnd_cong { s with cong.caState := .loss } (tcpCaMss s.nego)
    rw [ht]
    exact ⟨_, t, rfl, .kept (by simp [h]) rfl rfl⟩

lemma tcpCongestionOnAck_advanced (n : ℕ) (b : Bool) : ∃ c t,
    (tcpCongestionOnAck s n b).1 = { s with cong := c, tm := t } ∧ Advanced s s.snd.sndUna c := by
  unfold tcpCongestionOnAck
  split
  · next hopen =>
    split
    · next hreached =>
      obtain ⟨t, ht⟩ := tcpCaSetCwnd_cong s s.cong.sndSsthresh
      refine ⟨{ s.cong with
        sndCwnd := max s.cong.sndSsthresh (tcpCaMss s.nego), caState := .open, cubic.cwndCnt := 0 }, t, ?_,
        .left hopen rfl rfl hreached rfl⟩
      simp only [ht]
    · next hback =>
      have hback : geq s.snd.sndUna s.cong.caRecoverySeq = false := by simpa using hback
      split
      · obtain ⟨t, ht⟩ := tcpCaSetCwnd_cong s (tcpCaSaturatingAdd s.cong.sndSsthresh (tcpCaMss s.nego))
        exact ⟨_, t, ht, .kept rfl rfl rfl (.inr hback)⟩
      · exact ⟨s.cong, s.tm, rfl, .kept rfl rfl rfl (.inr hback)⟩
  · next hopen =>
    have hopen : s.cong.caState = .open := by simpa using hopen
    split
    · dsimp only
      split
      · exact ⟨{ s.cong with cubic.ackedBytes := _ }, s.tm, rfl, .kept rfl rfl rfl (.inl hopen)⟩
      · obtain ⟨w, c, t, hc⟩ := tcpCubicCongAvoid_frame
          { s with cong.cubic.ackedBytes := (s.cong.cubic.ackedBytes + n) % tcpCaMss s.nego }
          (min ((s.cong.cubic.ackedBytes + n) / tcpCaMss s.nego) u32Max)
        exact ⟨_, t, hc, .kept rfl rfl rfl (.inl hopen)⟩
    · exact ⟨s.cong, s.tm, rfl, .kept rfl rfl rfl (.inl hopen)⟩

lemma acknowledge_mss (h : TcpHdr) : (acknowledge s h).nego.sndMss = s.nego.sndMss := by
  obtain ⟨v, hv, -⟩ := acknowledge_view s h
  rw [hv.nego]
  rfl

end

lemma ackNewData_turn {h : TcpHdr} (hl : lt s.snd.sndUna h.ackSeq = true) (hs : restartsOnMss s.core.state = false)
    (hopen : (ackNewData s h).core.state ≠ .closed) : Turn s (ackNewData s h) := by
  obtain ⟨hlocal, hsnd, hcong, -⟩ := acknowledge_spec s h
  have huna : (acknowledge s h).snd.sndUna = h.ackSeq := by
    rw [hsnd]
    rfl
  obtain ⟨n, b, he⟩ := ackNewData_cases s h
  obtain ⟨c, t, hc, ha⟩ := tcpCongestionOnAck_advanced (acknowledge s h) n b
  have hturn : Turn s { acknowledge s h with cong := c, tm := t } :=
    .acked (by rw [← huna] at hl; exact hl) (ha.congr hcong (acknowledge_mss s h))
  have hs₁ : restartsOnMss (acknowledge s h).core.state = false := by
    rw [hlocal.core]
    exact hs
  rw [hc] at he
  rcases he with he | ⟨-, he⟩ <;> rw [he] at hopen ⊢
  · exact hturn
  · exact hturn.unmoved hs₁ (tcpRetransmitNow_spares _).unmoved hopen

variable {g : Segment}

lemma ackDuplicate_turn (hs : restartsOnMss s.core.state = false)
    (hopen : (ackDuplicate s g).core.state ≠ .closed) : Turn s (ackDuplicate s g) := by
  obtain ⟨hlocal, hsnd, hcong, -⟩ := noteWindow_spec s g.hdr
  have hs₁ : restartsOnMss (noteWindow s g.hdr).core.state = false := by
    rw [hlocal.core]
    exact hs
  revert hopen
  rw [ackDuplicate]
  dsimp only
  split
  · obtain ⟨c, t, hc, hj⟩ := tcpCongestionOnDuplicateAck_judged
      { noteWindow s g.hdr with win.lastAckRepeat := ((noteWindow s g.hdr).win.lastAckRepeat + 1) % 2 ^ 32 }
      (((noteWindow s g.hdr).win.lastAckRepeat + 1) % 2 ^ 32)
    have hturn : Turn s { noteWindow s g.hdr with
        win.lastAckRepeat := ((noteWindow s g.hdr).win.lastAckRepeat + 1) % 2 ^ 32, cong := c, tm := t } :=
      .still (by rw [hsnd]) (hj.congr hcong (by rw [hsnd]))
    split
    · next s₁ he =>
      rw [he] at hc
      rw [← hc] at hturn
      exact hturn.unmoved (by rw [show s₁ = _ from hc]; exact hs₁) (tcpRetransmitNow_spares s₁).unmoved
    · next s₁ he =>
      rw [he] at hc
      intro _
      rw [← hc] at hturn
      exact hturn
  · have hkept : Turn s (noteWindow s g.hdr) := .still (by rw [hsnd]) (by rw [hcong]; exact .kept Iff.rfl rfl rfl)
    split
    · exact hkept.unmoved hs₁ (.of_eq rfl rfl rfl)
    · intro _
      exact hkept

lemma ackDuplicate_core (s : TcpSock) (g : Segment) : (ackDuplicate s g).core = s.core := by
  obtain ⟨s₁, -, hl, -, -, -, he | ⟨-, he⟩⟩ := ackDuplicate_spec s g
  · rw [he, hl.core]
  · rw [he, (tcpRetransmitNow_keeps s₁).core, hl.core]

lemma not_closed_of_past {st : TcpState} (h : restartsOnMss st = false) : st ≠ .closed := by
  rintro rfl
  cases h

lemma inputAck_turn (hs : restartsOnMss s.core.state = false) (g : Segment) : ∃ s₁, Turn s s₁ ∧
    restartsOnMss s₁.core.state = false ∧ Unmoved s₁ (inputAck s g).1 := by
  rcases inputAck_cases s g with ⟨h, -⟩ | ⟨-, ⟨hl, he⟩ | he⟩ | he
  · rw [h] at hs
    cases hs
  · have hpast : restartsOnMss (ackNewData s g.hdr).core.state = false := by
      rw [(ackNewData_view s g.hdr).1]
      exact hs
    rw [he]
    exact ⟨_, ackNewData_turn hl hs (not_closed_of_past hpast), hpast, ackOwnFin_unmoved _⟩
  · have hpast : restartsOnMss (ackDuplicate s g).core.state = false := by
      rw [ackDuplicate_core]
      exact hs
    rw [he]
    exact ⟨_, ackDuplicate_turn hs (not_closed_of_past hpast), hpast, .refl _⟩
  · rw [he]
    exact ⟨s, .refl s, hs, .refl s⟩

lemma inputSynchronized_turn (hs : restartsOnMss s.core.state = false)
    (hopen : (inputSynchronized s g).core.state ≠ .closed) : Turn s (inputSynchronized s g) := by
  obtain ⟨s₁, hturn, hs₁, hown⟩ := inputAck_turn hs g
  revert hopen
  rcases inputSynchronized_cases s g with he | he | he | he | ⟨-, he⟩ <;> rw [he]
  · exact Unmoved.turn (.of_eq rfl rfl rfl) hs
  · exact (inputRst_spares s).unmoved.turn hs
  · exact (inputSyn_spares s).unmoved.turn hs
  · exact (Unmoved.refl s).turn hs
  split
  · exact hturn.unmoved hs₁ hown
  · exact hturn.unmoved hs₁ (hown.trans ((inputText_unmoved _ g).trans (inputFin_unmoved _ g)))

lemma tcpInput_turn (hs : restartsOnMss s.core.state = false)
    (hopen : (tcpInput s g).core.state ≠ .closed) : Turn s (tcpInput s g) := by
  obtain ⟨hp, hm⟩ := parseTcpOptions_past hs g.hdr
  revert hopen
  rcases tcpInput_cases s g with ⟨h, -⟩ | ⟨-, he | ⟨seq, ack, fl, -, -, he⟩⟩ | ⟨-, ⟨-, he⟩ | ⟨-, he⟩⟩
  · rw [h] at hs
    cases hs
  · rw [he]
    exact (Unmoved.refl s).turn hs
  · rw [he]
    exact (tcpSendFlag_spares s _ _ _).unmoved.turn hs
  · rw [he, hp]
    exact fun _ => .still rfl (.kept Iff.rfl rfl rfl)
  · rw [he, hp]
    exact fun ho => (inputSynchronized_turn (s := { s with nego := (parsedOptions s g.hdr).1 }) hs ho).after rfl rfl hm

lemma retransmitTimeout_turn (hs : restartsOnMss s.core.state = false) (hopen : (retransmitTimeout s).core.state ≠ .closed) :
    Turn s (retransmitTimeout s) := by
  revert hopen
  simp only [retransmitTimeout]
  split
  · exact (Unmoved.refl s).turn hs
  split
  · next h =>
    rcases h with h | h
    all_goals
      rw [h] at hs
      cases hs
  split
  · exact Unmoved.turn ((destroyTcpSocket_spares _).unmoved.after rfl rfl rfl) hs
  obtain ⟨c, t, hc, hj⟩ := tcpCongestionOnTimeout_judged { s with retry.retriesOut := s.retry.retriesOut + 1 }
  have hturn : Turn s (tcpCongestionOnTimeout { s with retry.retriesOut := s.retry.retriesOut + 1 }) := by
    rw [hc]
    exact .still rfl (hj.congr rfl rfl)
  have hs₁ : restartsOnMss (tcpCongestionOnTimeout { s with retry.retriesOut := s.retry.retriesOut + 1 }).core.state = false := by
    rw [hc]
    exact hs
  exact hturn.unmoved hs₁ (.after (tcpRetransmitSkb_spares _ _ _).unmoved rfl rfl rfl)

lemma tcpTimerCb_turn (hs : restartsOnMss s.core.state = false) (hopen : (tcpTimerCb s).core.state ≠ .closed) :
    Turn s (tcpTimerCb s) := by
  have hd (d : Deadline) : Unmoved s (s.clearDeadline d) := .of_eq rfl rfl rfl
  revert hopen
  simp only [tcpTimerCb]
  split
  · split
    · exact (hd .nagle).turn hs
    · exact ((hd .nagle).trans (writeXmitLoop_spares _ _ _ _).unmoved).turn hs
  split
  · exact fun ho => (retransmitTimeout_turn (s := s.clearDeadline .retransmit) hs ho).after rfl rfl rfl
  split
  · exact ((hd .ack).trans (tcpSendFlag_spares _ _ _ _).unmoved).turn hs
  split
  · exact ((hd .persist).trans (persistTimeout_unmoved _)).turn hs
  split
  · exact ((hd .timewait).trans (destroyTcpSocket_spares _).unmoved).turn hs
  split
  · split
    · exact ((hd .finwait2).trans (destroyTcpSocket_spares _).unmoved).turn hs
    · exact (hd .finwait2).turn hs
  split
  · exact ((hd .keepalive).trans (keepaliveTimeout_spares _).unmoved).turn hs
  · exact (Unmoved.refl s).turn hs

lemma act_turn (hs : restartsOnMss s.core.state = false) (a : Action) (hopen : (act s a).core.state ≠ .closed) :
    Turn s (act s a) := by
  cases a with
  | input g => exact tcpInput_turn hs hopen
  | timer => exact (tcpTimerCb_turn (s := { s with tm.registered := false }) hs hopen).after rfl rfl rfl
  | accept => exact .still rfl (.kept Iff.rfl rfl rfl)
  | write buf expired => exact (tcpWrite_spares s buf expired).unmoved.turn hs hopen
  | read len expired =>
    obtain ⟨er, r, t, he⟩ := tcpRead_frame s len expired
    rw [act, he]
    exact .still rfl (.kept Iff.rfl rfl rfl)
  | shutdown how => exact (tcpShutdown_spares s how).unmoved.turn hs hopen
  | setsockopt o =>
    cases o with
    | rcvbuf v hv =>
      simp only [act, tcpSetsockopt, setRcvbuf]
      split <;> exact .still rfl (.kept Iff.rfl rfl rfl)
    | _ => exact .still rfl (.kept Iff.rfl rfl rfl)
  | close => exact (closeFd_spares s).unmoved.turn hs hopen
  | icmp quoted err => exact (tcpIcmpProcess_spares s quoted err).unmoved.turn hs hopen

lemma step_turn (hs : restartsOnMss s.core.state = false) (e : Event) (hopen : (step s e).core.state ≠ .closed) :
    Turn s (step s e) := by
  revert hopen
  rw [step]
  split
  · exact fun ho => (act_turn (s := s.withInputs e.inputs) hs e.action ho).after rfl rfl rfl
  · exact fun _ => .refl s

def TcpState.synchronized : TcpState → Bool
  | .closed | .listen | .synSent | .synReceived => false
  | _ => true

/-- The event finds and leaves an established connection, with less than half of the numbers in flight. -/
structure Connected (s : TcpSock) (e : Event) : Prop where
  before : s.core.state.synchronized = true
  after : (step s e).core.state.synchronized = true
  flight : (s.snd.sndNxt - s.snd.sndUna).toNat < 2 ^ 31

/-- The slow-start threshold is calculated anew. -/
def Reduces (s : TcpSock) (e : Event) : Prop :=
  (step s e).cong.sndSsthresh ≠ s.cong.sndSsthresh ∨ s.cong.caState = .open ∧ (step s e).cong.caState ≠ .open

def unaAdvance : TcpSock → List Event → ℕ
  | _, [] => 0
  | s, e :: es => ((step s e).snd.sndUna - s.snd.sndUna).toNat + unaAdvance (step s e) es

/-- The run acknowledges all numbers up to `r`, and the code's own comparison sees it. -/
def Reaches (r : Seq) (s : TcpSock) (es : List Event) : Prop :=
  geq (run step s es).snd.sndUna r = true ∧ (r - s.snd.sndUna).toNat ≤ unaAdvance s es

lemma restartsOnMss_synchronized {st : TcpState} (h : st.synchronized = true) : restartsOnMss st = false := by
  cases st with
  | closed => cases h
  | synSent => cases h
  | synReceived => cases h
  | _ => rfl

variable {e : Event}

lemma Connected.turn (h : Connected s e) : Turn s (step s e) :=
  step_turn (restartsOnMss_synchronized h.before) e (not_closed_of_past (restartsOnMss_synchronized h.after))

lemma Turn.not_reduces (h : Turn s (step s e)) (hopen : s.cong.caState ≠ .open) : ¬Reduces s e := by
  rintro (hs | ⟨ho, -⟩)
  · apply hs
    cases h with
    | still _ h =>
      cases h with
      | kept _ hs _ => exact hs
      | reduced ho _ _ => exact absurd ho hopen
    | acked _ h =>
      cases h with
      | kept _ hs _ _ => exact hs
      | left _ _ hs _ _ => exact hs
  · exact hopen ho

lemma Turn.reduces (h : Turn s (step s e)) (hr : Reduces s e) : (step s e).snd.sndUna = s.snd.sndUna ∧
    (step s e).cong.caState ≠ .open ∧ (step s e).cong.caRecoverySeq = s.snd.sndNxt := by
  cases h with
  | still hu h =>
    cases h with
    | kept ho hs _ =>
      rcases hr with hr | ⟨hr, hn⟩
      · exact absurd hs hr
      · exact absurd (ho.mpr hr) hn
    | reduced _ hn hseq => exact ⟨hu, hn, hseq⟩
  | acked _ h =>
    cases h with
    | kept ho hs _ _ =>
      rcases hr with hr | ⟨hr, hn⟩
      · exact absurd hs hr
      · exact absurd (ho.trans hr) hn
    | left ho hn hs _ _ =>
      rcases hr with hr | ⟨hr, -⟩
      · exact absurd hs hr
      · exact absurd hr ho

lemma ack_below {u v r : Seq} (hl : lt u v = true) (hpos : 0 < (r - u).toNat) (hd : (r - u).toNat < 2 ^ 31)
    (hb : geq v r = false) : (v - u).toNat + (r - v).toNat = (r - u).toNat ∧ 0 < (r - v).toNat := by
  obtain ⟨d, hr⟩ : ∃ d, (r - u).toNat = d := ⟨_, rfl⟩
  obtain ⟨x, hv⟩ : ∃ x, (v - u).toNat = x := ⟨_, rfl⟩
  have hx : 0 < x ∧ x ≤ 2 ^ 31 := by
    rw [lt_iff] at hl
    bv_omega
  rw [hr] at hpos hd ⊢
  rw [hv]
  obtain rfl := label_eq_of_sub hr
  obtain rfl := label_eq_of_sub hv
  rw [← Bool.not_eq_true, geq_label u (by omega) (by omega)] at hb
  rw [label_sub u (by omega) (by omega)]
  omega

lemma ack_reaches {u v r : Seq} (hd : (r - u).toNat < 2 ^ 31) (hg : geq v r = true) : (r - u).toNat ≤ (v - u).toNat := by
  rw [geq_iff] at hg
  bv_omega

lemma episode_run {r : Seq} {es : List Event} (hopen : s.cong.caState ≠ .open) (hr : s.cong.caRecoverySeq = r)
    (hpos : 0 < (r - s.snd.sndUna).toNat) (hd : (r - s.snd.sndUna).toNat < 2 ^ 31) (hes : Meets step Connected s es) :
    (∃ es₁ es₂, es = es₁ ++ es₂ ∧ Reaches r s es₁) ∨ (run step s es).cong.caState ≠ .open := by
  induction es generalizing s with
  | nil => exact .inr hopen
  | cons e es ih =>
    have hgo (ho : (step s e).cong.caState ≠ .open) (hr' : (step s e).cong.caRecoverySeq = r)
        (hpos' : 0 < (r - (step s e).snd.sndUna).toNat)
        (hsum : ((step s e).snd.sndUna - s.snd.sndUna).toNat + (r - (step s e).snd.sndUna).toNat = (r - s.snd.sndUna).toNat) :
        (∃ es₁ es₂, e :: es = es₁ ++ es₂ ∧ Reaches r s es₁) ∨ (run step s (e :: es)).cong.caState ≠ .open := by
      rcases ih ho hr' hpos' (by omega) hes.2 with ⟨es₁, es₂, rfl, hreach, hadv⟩ | hno
      · refine .inl ⟨e :: es₁, es₂, rfl, hreach, ?_⟩
        rw [unaAdvance]
        omega
      · exact .inr hno
    cases hes.1.turn with
    | still hu h =>
      cases h with
      | kept ho _ hseq =>
        refine hgo (fun hn => hopen (ho.mp hn)) (hseq.trans hr) (by rw [hu]; exact hpos) ?_
        rw [hu]
        simp
      | reduced ho _ _ => exact absurd ho hopen
    | acked hl h =>
      cases h with
      | kept ho _ hseq hback =>
        rw [hr] at hback
        have hb := hback.resolve_left hopen
        obtain ⟨hsum, hpos'⟩ := ack_below hl hpos hd hb
        exact hgo (by rw [ho]; exact hopen) (hseq.trans hr) hpos' hsum
      | left _ _ _ hreached _ =>
        rw [hr] at hreached
        refine .inl ⟨[e], es, rfl, hreached, ?_⟩
        rw [unaAdvance, unaAdvance, Nat.add_zero]
        exact ack_reaches hd hreached

/-- Between two reductions on an established connection everything in flight at the first of them, up to the recovery point
it records, is acknowledged; and the step that ends an episode sets the window to the threshold, or to one segment. -/
theorem one_reduction_per_episode {s : TcpSock} {es : List Event} (hes : Meets step Connected s es) :
    (∀ es₁ e₁ es₂ e₂ es₃, es = es₁ ++ e₁ :: (es₂ ++ e₂ :: es₃) → Reduces (run step s es₁) e₁ →
        Reduces (run step s (es₁ ++ e₁ :: es₂)) e₂ →
        (run step s (es₁ ++ [e₁])).cong.caRecoverySeq = (run step s es₁).snd.sndNxt ∧
          ∃ p q, es₂ = p ++ q ∧ Reaches (run step s es₁).snd.sndNxt (run step s (es₁ ++ [e₁])) p) ∧
      ∀ es₁ e es₂, es = es₁ ++ e :: es₂ → (run step s es₁).cong.caState ≠ .open →
        (run step s (es₁ ++ [e])).cong.caState = .open →
        (run step s (es₁ ++ [e])).cong.sndCwnd =
          max (run step s es₁).cong.sndSsthresh (tcpCaMss (run step s es₁).nego) := by
  refine ⟨fun es₁ e₁ es₂ e₂ es₃ heq h₁ h₂ => ?_, fun es₁ e es₂ heq ho hn => ?_⟩
  · subst heq
    have hrest := hes.append.2
    have hconn := hrest.1
    obtain ⟨hu, ho, hr⟩ := hconn.turn.reduces h₁
    have hbetween := hrest.2.append
    rw [run_append] at h₂ ⊢
    refine ⟨hr, ?_⟩
    have hd : ((run step s es₁).snd.sndNxt - (step (run step s es₁) e₁).snd.sndUna).toNat < 2 ^ 31 := by
      rw [hu]
      exact hconn.flight
    rcases Nat.eq_zero_or_pos ((run step s es₁).snd.sndNxt - (step (run step s es₁) e₁).snd.sndUna).toNat with hzero | hpos
    · -- with nothing in flight the point is reached at once
      refine ⟨[], es₂, rfl, ?_, hzero.le⟩
      have heq : (run step s es₁).snd.sndNxt = (step (run step s es₁) e₁).snd.sndUna := by bv_omega
      change geq (step (run step s es₁) e₁).snd.sndUna _ = true
      rw [heq, geq_iff]
      simp
    rcases episode_run ho hr hpos hd hbetween.1 with hreach | hno
    · exact hreach
    · exact absurd h₂ (hbetween.2.1.turn.not_reduces hno)
  · subst heq
    rw [run_append] at hn ⊢
    cases hes.append.2.1.turn with
    | still _ h =>
      cases h with
      | kept hiff _ _ => exact absurd (hiff.mp hn) ho
      | reduced hopen _ _ => exact absurd hopen ho
    | acked _ h =>
      cases h with
      | kept hsame _ _ _ => exact absurd (hsame.symm.trans hn) ho
      | left _ _ _ _ hw => exact hw

def lossRun : List Event :=
  [{ action := .write [104, 105] false }, { action := .timer, inputs := { now := 60 } },
    { action := .timer, inputs := { now := 2000 } },
    { action := .input (bareSegment (plainHdr 5000 1002 { ack := true })), inputs := { now := 2100 } },
    { action := .write [106] false, inputs := { now := 2200 } }, { action := .timer, inputs := { now := 2300 } },
    { action := .timer, inputs := { now := 8000 } }]

/-- Two timeouts: the first two bytes are acknowledged between them, which gives the window back. -/
theorem one_reduction_per_episode_timeouts :
    (∃ p q, (lossRun.drop 3).take 3 = p ++ q ∧ Reaches 1002 (run step (establishedSock 1000 5000) (lossRun.take 3)) p) ∧
      (run step (establishedSock 1000 5000) (lossRun.take 4)).cong.sndCwnd = 7 * 536 := by
  have hes : Meets step Connected (establishedSock 1000 5000) lossRun :=
    ⟨⟨rfl, rfl, by decide⟩, ⟨rfl, rfl, by decide⟩, ⟨rfl, rfl, by decide⟩, ⟨rfl, rfl, by decide⟩, ⟨rfl, rfl, by decide⟩,
      ⟨rfl, rfl, by decide⟩, ⟨rfl, rfl, by decide⟩, trivial⟩
  obtain ⟨hreach, hleft⟩ := one_reduction_per_episode hes
  constructor
  · exact (hreach (lossRun.take 2) _ ((lossRun.drop 3).take 3) _ [] rfl (.inr (by decide)) (.inr (by decide))).2
  · exact (hleft (lossRun.take 3) _ (lossRun.drop 4) rfl (by decide) (by decide)).trans (by decide)

end Netfast.Tcp
