import Netfast.Tcp.Frame
import Netfast.Tcp.Input

/-! What the ACK step of `tcp_input` does to the connection, up to the point where it retransmits. -/

namespace Netfast.Tcp

open Serial

structure Local (s s' : TcpSock) : Prop where
  core : s'.core = s.core
  rcv : s'.rcv = s.rcv
  route : s'.route = s.route
  scale : s'.nego.sndWndScale = s.nego.sndWndScale
  faults : s'.env.faults = s.env.faults
  wire : s'.env.wire = s.env.wire

variable (s : TcpSock)

lemma Local.refl : Local s s := ⟨rfl, rfl, rfl, rfl, rfl, rfl⟩

lemma Local.trans {a b c : TcpSock} (h : Local a b) (h' : Local b c) : Local a c :=
  ⟨h'.core.trans h.core, h'.rcv.trans h.rcv, h'.route.trans h.route, h'.scale.trans h.scale,
    h'.faults.trans h.faults, h'.wire.trans h.wire⟩

def ackedSend (q : SendState) (ack : Seq) : SendState :=
  { q with
    sndUna := ack
    retransmitQueue := (ackQueue ack q.retransmitQueue).1
    sendBufferLen := subU32 q.sendBufferLen (ackQueue ack q.retransmitQueue).2.1 }

lemma ackedTimers_frame :
    ∃ re t no, ackedTimers s = { s with retry := re, tm := t, env.notified := no } ∧ s.retry.SameRtt re := by
  simp only [ackedTimers]
  split <;> exact ⟨_, _, _, rfl, rfl, rfl⟩

lemma tcpUpdateRetransmitQueue_frame :
    ∃ rep re t no, tcpUpdateRetransmitQueue s = { s with
      snd := ackedSend s.snd s.snd.sndUna
      win.lastAckRepeat := rep
      retry := re
      tm := t
      env.notified := no } ∧ (rep = s.win.lastAckRepeat ∨ rep = 0) ∧ s.retry.SameRtt re := by
  simp only [tcpUpdateRetransmitQueue]
  obtain ⟨re, t, no, h, hr⟩ : ∃ re t no,
      (if (ackQueue s.snd.sndUna s.snd.retransmitQueue).2.2 = true then
        ackedTimers { s with
          snd.retransmitQueue := (ackQueue s.snd.sndUna s.snd.retransmitQueue).1
          snd.sendBufferLen := subU32 s.snd.sendBufferLen (ackQueue s.snd.sndUna s.snd.retransmitQueue).2.1 }
      else { s with
          snd.retransmitQueue := (ackQueue s.snd.sndUna s.snd.retransmitQueue).1
          snd.sendBufferLen := subU32 s.snd.sendBufferLen (ackQueue s.snd.sndUna s.snd.retransmitQueue).2.1 }) =
        { s with snd := ackedSend s.snd s.snd.sndUna, retry := re, tm := t, env.notified := no } ∧ s.retry.SameRtt re := by
    split
    · obtain ⟨re, t, no, h, hr⟩ := ackedTimers_frame { s with
          snd.retransmitQueue := (ackQueue s.snd.sndUna s.snd.retransmitQueue).1
          snd.sendBufferLen := subU32 s.snd.sendBufferLen (ackQueue s.snd.sndUna s.snd.retransmitQueue).2.1 }
      exact ⟨re, t, no, h, hr⟩
    · exact ⟨s.retry, s.tm, s.env.notified, rfl, rfl, rfl⟩
  rw [h]
  split
  · exact ⟨0, re, _, no, rfl, .inr rfl, hr⟩
  split
  · exact ⟨s.win.lastAckRepeat, re, _, no, rfl, .inl rfl, hr⟩
  · exact ⟨s.win.lastAckRepeat, re, t, no, rfl, .inl rfl, hr⟩

lemma takeWindow_frame (h : TcpHdr) :
    ∃ re t, takeWindow s h = { s with
      win.sndWnd := tcpDecodeWindow s.nego h.window h.flags
      win.sndWl1 := h.seq
      win.sndWl2 := h.ackSeq
      retry := re
      tm := t } := by
  obtain ⟨re, t, hw⟩ := tcpSndWinChange_frame s (tcpDecodeWindow s.nego h.window h.flags)
  simp only [takeWindow, hw]
  exact ⟨re, t, rfl⟩

lemma restartKeepalive_frame : ∃ re t, restartKeepalive s = { s with retry := re, tm := t } := by
  unfold restartKeepalive
  split
  · exact ⟨_, _, rfl⟩
  · exact ⟨s.retry, s.tm, rfl⟩

def WindowFrom (s s' : TcpSock) (h : TcpHdr) : Prop :=
  s'.win.sndWnd = s.win.sndWnd ∨ s'.win.sndWnd = tcpDecodeWindow s.nego h.window h.flags

lemma noteWindow_spec (h : TcpHdr) :
    Local s (noteWindow s h) ∧ (noteWindow s h).snd = s.snd ∧ (noteWindow s h).cong = s.cong ∧
      WindowFrom s (noteWindow s h) h := by
  unfold noteWindow
  split
  · obtain ⟨re, t, hw⟩ := takeWindow_frame s h
    rw [hw]
    exact ⟨⟨rfl, rfl, rfl, rfl, rfl, rfl⟩, rfl, rfl, Or.inr rfl⟩
  · exact ⟨.refl s, rfl, rfl, Or.inl rfl⟩

lemma acknowledge_spec (h : TcpHdr) :
    Local s (acknowledge s h) ∧ (acknowledge s h).snd = ackedSend s.snd h.ackSeq ∧
      (acknowledge s h).cong = s.cong ∧ WindowFrom s (acknowledge s h) h := by
  obtain ⟨rep, re, t, no, hq, -⟩ := tcpUpdateRetransmitQueue_frame { s with snd.sndUna := h.ackSeq }
  simp only [acknowledge, hq]
  let s₁ : TcpSock := rttSample { s with
    snd := ackedSend s.snd h.ackSeq
    win := { s.win with lastAck := h.ackSeq, lastAckRepeat := 0 }
    retry := re
    tm := t
    env.notified := no }
  have h₁ : Local s s₁ := ⟨rfl, rfl, rfl, rfl, rfl, rfl⟩
  obtain ⟨hl, hsnd, hc, hw⟩ := noteWindow_spec s₁ h
  exact ⟨h₁.trans hl, hsnd, hc, hw⟩

lemma ackNewData_cases (h : TcpHdr) : ∃ n b, ackNewData s h = (tcpCongestionOnAck (acknowledge s h) n b).1 ∨
    ((tcpCongestionOnAck (acknowledge s h) n b).2 = true ∧
      ackNewData s h = tcpRetransmitNow (tcpCongestionOnAck (acknowledge s h) n b).1) := by
  refine ⟨(h.ackSeq - s.snd.sndUna).toNat,
    decide (s.cong.sndCwnd ≤ (s.snd.sndNxt - s.snd.sndUna).toNat + s.nego.sndMss), ?_⟩
  rw [ackNewData]
  split
  · next he =>
    rw [he]
    exact .inr ⟨rfl, rfl⟩
  · next he =>
    rw [he]
    exact .inl rfl

lemma ackNewData_spec (h : TcpHdr) :
    ∃ s₁, Local s s₁ ∧ s₁.snd = ackedSend s.snd h.ackSeq ∧ WindowFrom s s₁ h ∧
      (s₁.cong.caState = .open ∨ (s₁.cong.caState = s.cong.caState ∧
        s₁.cong.caRecoverySeq = s.cong.caRecoverySeq ∧ geq h.ackSeq s.cong.caRecoverySeq = false)) ∧
      (ackNewData s h = s₁ ∨
        (s₁.cong.caState ≠ .open ∧ ackNewData s h = tcpRetransmitNow s₁)) := by
  obtain ⟨hl, hsnd, hcong, hw⟩ := acknowledge_spec s h
  obtain ⟨n, b, he⟩ := ackNewData_cases s h
  obtain ⟨c, t, hc, hca, hre⟩ := tcpCongestionOnAck_spec (acknowledge s h) n b
  rw [hcong, hsnd] at hca
  rw [hc] at he
  exact ⟨{ acknowledge s h with cong := c, tm := t }, hl.trans ⟨rfl, rfl, rfl, rfl, rfl, rfl⟩, hsnd, hw, hca,
    he.imp_right fun hr => ⟨hre hr.1, hr.2⟩⟩

lemma ackDuplicate_spec (g : Segment) :
    ∃ s₁, (∃ l n c t, s₁ = { noteWindow s g.hdr with
        win.lastAck := l, win.lastAckRepeat := n, cong := c, tm := t }) ∧
      Local s s₁ ∧ s₁.snd = s.snd ∧ WindowFrom s s₁ g.hdr ∧
      ((s₁.cong.caState = s.cong.caState ∧ s₁.cong.caRecoverySeq = s.cong.caRecoverySeq) ∨
        (gt s.snd.sndNxt s.snd.sndUna = true ∧ s₁.cong.caRecoverySeq = s.snd.sndNxt)) ∧
      (ackDuplicate s g = s₁ ∨
        (s₁.cong.caState ≠ .open ∧ ackDuplicate s g = tcpRetransmitNow s₁)) := by
  obtain ⟨hl, hsnd, hcong, hw⟩ := noteWindow_spec s g.hdr
  simp only [ackDuplicate]
  split
  · next hdup =>
    have hflight : gt s.snd.sndNxt s.snd.sndUna = true := by
      simp only [isDuplicateAck, Bool.and_eq_true, hsnd] at hdup
      exact hdup.2
    obtain ⟨c, t, b, hc, hca, hre⟩ := tcpCongestionOnDuplicateAck_spec
      { noteWindow s g.hdr with win.lastAckRepeat := ((noteWindow s g.hdr).win.lastAckRepeat + 1) % 2 ^ 32 }
      (((noteWindow s g.hdr).win.lastAckRepeat + 1) % 2 ^ 32)
    refine ⟨{ noteWindow s g.hdr with
      win.lastAckRepeat := ((noteWindow s g.hdr).win.lastAckRepeat + 1) % 2 ^ 32, cong := c, tm := t },
      ⟨_, _, c, t, rfl⟩, hl.trans ⟨rfl, rfl, rfl, rfl, rfl, rfl⟩, hsnd, hw, ?_, ?_⟩
    · simp only [hcong, hsnd] at hca
      exact hca.imp_right fun h => ⟨hflight, h⟩
    · rw [hc]
      cases b with
      | true => exact Or.inr ⟨hre rfl, rfl⟩
      | false => exact Or.inl rfl
  split
  · exact ⟨{ noteWindow s g.hdr with win.lastAck := g.hdr.ackSeq, win.lastAckRepeat := 0 }, ⟨_, _, _, _, rfl⟩,
      hl.trans ⟨rfl, rfl, rfl, rfl, rfl, rfl⟩, hsnd, hw, Or.inl ⟨by rw [hcong], by rw [hcong]⟩, Or.inl rfl⟩
  · exact ⟨noteWindow s g.hdr, ⟨_, _, _, _, rfl⟩, hl, hsnd, hw, Or.inl ⟨by rw [hcong], by rw [hcong]⟩, Or.inl rfl⟩

lemma ackSynReceived_spec (h : TcpHdr) :
    (lt s.snd.sndUna h.ackSeq = true ∧ leq h.ackSeq s.snd.sndNxt = true ∧
      ∃ w re t no, ackSynReceived s h = ({ s with
        core.state := .established
        snd := ackedSend s.snd h.ackSeq
        win := w
        retry := re
        tm := t
        env.notified := no }, false) ∧ w.sndWnd = tcpDecodeWindow s.nego h.window h.flags) ∨
    (leq h.ackSeq s.snd.sndUna = true ∧
      ackSynReceived s h = ((tcpSendFlag s h.ackSeq 0 { rst := true }).1, true)) ∨
    ackSynReceived s h = (s, false) := by
  simp only [ackSynReceived]
  split
  · next hr =>
    rw [Bool.and_eq_true] at hr
    obtain ⟨rep, re, t, no, hq, -⟩ := tcpUpdateRetransmitQueue_frame { s with
      core.state := .established
      snd.sndUna := h.ackSeq
      win.lastAck := h.ackSeq
      win.lastAckRepeat := 0 }
    rw [hq]
    obtain ⟨re', t', hw⟩ := takeWindow_frame { s with
      core.state := .established
      snd := ackedSend { s.snd with sndUna := h.ackSeq } h.ackSeq
      win := { s.win with lastAck := h.ackSeq, lastAckRepeat := rep }
      retry := re
      tm := t
      env.notified := no } h
    rw [hw]
    obtain ⟨re₂, t₂, hk⟩ := restartKeepalive_frame { s with
      core.state := .established
      snd := ackedSend { s.snd with sndUna := h.ackSeq } h.ackSeq
      win := { s.win with
        sndWnd := tcpDecodeWindow s.nego h.window h.flags
        sndWl1 := h.seq
        sndWl2 := h.ackSeq
        lastAck := h.ackSeq
        lastAckRepeat := rep }
      retry := re'
      tm := t'
      env.notified := no }
    rw [hk]
    exact Or.inl ⟨hr.1, hr.2, _, re₂, t₂, _, rfl, rfl⟩
  split
  · next hl => exact Or.inr (Or.inl ⟨hl, rfl⟩)
  · exact Or.inr (Or.inr rfl)

lemma destroyTcpSocket_frame :
    ∃ fr no, destroyTcpSocket s = { s with core.state := .closed, core.freed := fr, env.notified := no } := by
  unfold destroyTcpSocket
  split <;> exact ⟨_, _, rfl⟩

lemma ackOwnFin_frame :
    ∃ st fr t no, (ackOwnFin s).1 =
        { s with core.state := st, core.freed := fr, tm := t, env.notified := no } ∧
      (st = s.core.state ∨ st = .finWait2 ∨ st = .timeWait ∨ st = .closed) := by
  unfold ackOwnFin
  split
  · split
    · simp only
      split
      · exact ⟨_, s.core.freed, s.tm, _, rfl, Or.inr (Or.inl rfl)⟩
      · exact ⟨_, s.core.freed, _, _, rfl, Or.inr (Or.inl rfl)⟩
    · exact ⟨_, s.core.freed, _, _, rfl, Or.inr (Or.inr (Or.inl rfl))⟩
    · obtain ⟨fr, no, h⟩ := destroyTcpSocket_frame (s.notify .lingerDone)
      exact ⟨_, fr, s.tm, no, h, Or.inr (Or.inr (Or.inr rfl))⟩
    · exact ⟨_, s.core.freed, s.tm, s.env.notified, rfl, Or.inl rfl⟩
  · exact ⟨_, s.core.freed, s.tm, s.env.notified, rfl, Or.inl rfl⟩

end Netfast.Tcp
