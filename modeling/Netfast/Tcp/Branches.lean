import Netfast.Tcp.AckFrame
import Netfast.Tcp.Conn

/-! Where one call of the application or one segment given to `tcp_input` can end, branch by branch. -/

namespace Netfast.Tcp

open Serial Skbuff

variable (s : TcpSock)

lemma writeOnRoute_cases (buf : List UInt8) :
    writeOnRoute s buf = ((setTcpSocketRoute s).1, .fail .ehostunreach) ∨
      ∃ r, (setTcpSocketRoute s).1.route = some r ∧ writeOnRoute s buf = writeBytes (setTcpSocketRoute s).1 r buf := by
  have hr := setTcpSocketRoute_route s
  simp only [writeOnRoute]
  split
  · next s₁ he => exact .inl (by rw [he])
  · next s₁ he =>
    rw [he] at hr ⊢
    split
    · next hn => simp [hn] at hr
    · next r hs => exact .inr ⟨r, hs, rfl⟩

/-- Only a call that finds room in the send buffer of an open connection gets past its checks. -/
lemma tcpWrite_cases (buf : List UInt8) (expired : Bool) :
    (∃ er o, tcpWrite s buf expired = ({ s with error := er }, o) ∧ ∀ n, o = .done n → n = 0) ∨
      (s.core.closeSend = false ∧ s.core.state ≠ .closed ∧ s.snd.sendBufferLen < s.snd.sendBufferLenMax ∧
        tcpWrite s buf expired = writeOnRoute s buf) := by
  have hself {o : Outcome ℕ} (ho : ∀ n, o = .done n → n = 0) :
      ∃ er o', (s, o) = ({ s with error := er }, o') ∧ ∀ n, o' = .done n → n = 0 := ⟨s.error, o, rfl, ho⟩
  rw [tcpWrite]
  split
  · exact .inl ⟨none, _, rfl, by simp⟩
  split
  · exact .inl (hself (by simp))
  split
  · exact .inl (hself (by simp))
  next hc =>
  split
  · exact .inl (hself (by simp))
  cases hs : s.core.state
  case established | closeWait | synSent | synReceived =>
    dsimp only
    split
    · split <;> exact .inl (hself (by simp))
    · next hroom =>
      exact .inr ⟨Bool.eq_false_of_not_eq_true hc, by simp, Nat.lt_of_not_le hroom, rfl⟩
  all_goals exact .inl (hself (by simp))

lemma synSentEstablish_frame (ack : Seq) :
    ∃ w re t no, synSentEstablish s ack = { s with
        core.state := .established
        snd := ackedSend s.snd ack
        win := w
        retry := re
        tm := t
        env.notified := no } ∧ w.sndWnd = s.win.sndWnd := by
  obtain ⟨rep, re, t, no, hq, -⟩ := tcpUpdateRetransmitQueue_frame { s with
    snd.sndUna := ack
    win.lastAck := ack
    win.lastAckRepeat := 0
    core.state := .established }
  simp only [synSentEstablish, hq]
  obtain ⟨re', t', hk⟩ := restartKeepalive_frame { s with
    core.state := .established
    snd := ackedSend { s.snd with sndUna := ack } ack
    win := { s.win with lastAck := ack, lastAckRepeat := rep }
    retry := re
    tm := t
    env.notified := no }
  rw [hk]
  exact ⟨{ s.win with lastAck := ack, lastAckRepeat := rep }, re', _, _, rfl, rfl⟩

lemma synSentSyn_eq (h : TcpHdr) : synSentSyn s h = takeWindow
    (if h.flags.ack then synSentEstablish { s with rcv.rcvNxt := h.seq + 1 } h.ackSeq
      else synSentSimultaneous { s with rcv.rcvNxt := h.seq + 1 }) h := rfl

lemma synSentSyn_cases (h : TcpHdr) :
    ∃ w re t, w.sndWnd = tcpDecodeWindow s.nego h.window h.flags ∧
      ((h.flags.ack = true ∧ ∃ no, synSentSyn s h = { s with
          core.state := .established
          rcv.rcvNxt := h.seq + 1
          snd := ackedSend s.snd h.ackSeq
          win := w
          retry := re
          tm := t
          env.notified := no }) ∨
        (h.flags.ack = false ∧ s.snd.retransmitQueue = [] ∧ synSentSyn s h = { s with
          core.state := .synReceived
          rcv.rcvNxt := h.seq + 1
          win := w
          retry := re
          tm := t }.fault .nullSkb) ∨
        (h.flags.ack = false ∧ ∃ b bs, s.snd.retransmitQueue = b :: bs ∧ synSentSyn s h = { s with
          core.state := .synReceived
          rcv.rcvNxt := h.seq + 1
          snd.retransmitQueue := { b with flag.ack := true } :: bs
          win := w
          retry := re
          tm := t })) := by
  rw [synSentSyn_eq]
  cases ha : h.flags.ack with
  | true =>
    rw [if_pos rfl]
    obtain ⟨w, re, t, no, he, -⟩ := synSentEstablish_frame { s with rcv.rcvNxt := h.seq + 1 } h.ackSeq
    obtain ⟨re', t', hw⟩ := takeWindow_frame (synSentEstablish { s with rcv.rcvNxt := h.seq + 1 } h.ackSeq) h
    rw [hw, he]
    exact ⟨_, re', t', rfl, .inl ⟨rfl, no, rfl⟩⟩
  | false =>
    rw [if_neg Bool.false_ne_true]
    obtain ⟨re, t, hw⟩ := takeWindow_frame (synSentSimultaneous { s with rcv.rcvNxt := h.seq + 1 }) h
    rw [hw, synSentSimultaneous]
    cases hq : s.snd.retransmitQueue with
    | nil => exact ⟨_, re, t, rfl, .inr (.inl ⟨rfl, rfl, rfl⟩)⟩
    | cons b bs => exact ⟨_, re, t, rfl, .inr (.inr ⟨rfl, b, bs, rfl, rfl⟩)⟩

/-- A reset that is not refused destroys the socket, and the segment is read on the socket left. -/
lemma tcpProcessSynSent_cases (h : TcpHdr) :
    ((h.flags.ack && (leq h.ackSeq s.snd.sndUna || gt h.ackSeq s.snd.sndNxt)) = true ∧
      (tcpProcessSynSent s h = s ∨
        h.flags.rst = false ∧ tcpProcessSynSent s h = (tcpSendFlag s h.ackSeq 0 { rst := true }).1)) ∨
    ((h.flags.ack = true → (leq h.ackSeq s.snd.sndUna || gt h.ackSeq s.snd.sndNxt) = false) ∧
      ∃ s₁, (s₁ = s ∧ h.flags.rst = false ∨
          h.flags.rst = true ∧ s₁ = destroyTcpSocket { s with error := some .econnrefused } ∧ ∃ fr no, s₁ = { s with
            core.state := .closed
            core.freed := fr
            error := some .econnrefused
            env.notified := no }) ∧
        (tcpProcessSynSent s h = s₁.fault .useAfterFree ∨
          ((parseTcpOptions s₁ h).2 = true → h.flags.syn = false) ∧ tcpProcessSynSent s h = (parseTcpOptions s₁ h).1 ∨
          h.flags.syn = true ∧ tcpProcessSynSent s h = synSentSyn (parseTcpOptions s₁ h).1 h)) := by
  simp only [tcpProcessSynSent]
  split
  · next ha =>
    refine .inl ⟨ha, ?_⟩
    split
    · exact .inl rfl
    · next hr => exact .inr ⟨Bool.eq_false_of_not_eq_true hr, rfl⟩
  next ha =>
  refine .inr ⟨fun h' => by simpa [h'] using ha, ?_⟩
  refine ⟨if h.flags.rst then destroyTcpSocket { s with error := some .econnrefused } else s, ?_, ?_⟩
  · split
    · next hr =>
      obtain ⟨fr, no, he⟩ := destroyTcpSocket_frame { s with error := some .econnrefused }
      exact .inr ⟨hr, rfl, fr, no, he⟩
    · next hr => exact .inl ⟨rfl, Bool.eq_false_of_not_eq_true hr⟩
  generalize (if h.flags.rst then destroyTcpSocket { s with error := some .econnrefused } else s) = s₁
  split
  · exact .inl rfl
  right
  split
  · next s₂ he => exact .inl (by simp [he])
  · next s₂ he =>
    rw [he]
    split
    · next hs => exact .inr ⟨hs, rfl⟩
    · next hs => exact .inl ⟨fun _ => Bool.eq_false_of_not_eq_true hs, rfl⟩

lemma inputRst_cases : inputRst s = s ∨ ∃ er, inputRst s = destroyTcpSocket { s with error := er } := by
  rw [inputRst]
  split
  · split
    · exact .inr ⟨s.error, rfl⟩
    · exact .inr ⟨_, rfl⟩
  all_goals first
    | exact .inl rfl
    | exact .inr ⟨s.error, rfl⟩
    | exact .inr ⟨_, rfl⟩

lemma inputAck_cases (g : Segment) :
    (s.core.state = .synReceived ∧ inputAck s g = ackSynReceived s g.hdr) ∨
      ((s.core.state ≠ .synSent ∧ s.core.state ≠ .synReceived) ∧
        (lt s.snd.sndUna g.hdr.ackSeq = true ∧ inputAck s g = ackOwnFin (ackNewData s g.hdr) ∨
          inputAck s g = (ackDuplicate s g, false))) ∨
      inputAck s g = (s, false) := by
  cases hs : s.core.state <;> simp only [inputAck, hs]
  case synReceived => simp
  case closed | listen | synSent | timeWait => simp
  all_goals cases hl : lt s.snd.sndUna g.hdr.ackSeq <;> simp

lemma tcpInput_cases (g : Segment) :
    (s.core.state = .synSent ∧ tcpInput s g = tcpProcessSynSent s g.hdr) ∨
      ((s.core.state = .closed ∨ s.core.state = .listen) ∧ (tcpInput s g = s ∨
        ∃ seq ack fl, fl.syn = false ∧ fl.fin = false ∧ tcpInput s g = (tcpSendFlag s seq ack fl).1)) ∨
      ((s.core.state ≠ .closed ∧ s.core.state ≠ .listen ∧ s.core.state ≠ .synSent) ∧
        ((parseTcpOptions s g.hdr).2 = false ∧ tcpInput s g = (parseTcpOptions s g.hdr).1 ∨
          (parseTcpOptions s g.hdr).2 = true ∧ tcpInput s g = inputSynchronized (parseTcpOptions s g.hdr).1 g)) := by
  rw [tcpInput]
  split
  · next hs =>
    refine .inr (.inl ⟨.inl hs, ?_⟩)
    rw [inputClosed]
    split
    · exact .inl rfl
    split <;> exact .inr ⟨_, _, _, rfl, rfl, rfl⟩
  · next hs =>
    refine .inr (.inl ⟨.inr hs, ?_⟩)
    rw [inputListen]
    split
    · exact .inl rfl
    split
    · exact .inr ⟨_, _, _, rfl, rfl, rfl⟩
    · exact .inl rfl
  · next hs => exact .inl ⟨hs, rfl⟩
  · next h₁ h₂ h₃ =>
    refine .inr (.inr ⟨⟨h₁, h₂, h₃⟩, ?_⟩)
    split
    · next he => exact .inl (by rw [he]; exact ⟨rfl, rfl⟩)
    · next he => exact .inr (by rw [he]; exact ⟨rfl, rfl⟩)

lemma inputSynchronized_cases (g : Segment) :
    inputSynchronized s g = s.ackNow ∨ inputSynchronized s g = inputRst s ∨ inputSynchronized s g = inputSyn s ∨
      inputSynchronized s g = s ∨
      (((segAllow s.rcv g.hdr.seq g.segLen || timeWaitFin s g) = true ∧ g.hdr.flags.rst = false ∧
        g.hdr.flags.syn = false ∧ g.hdr.flags.ack = true ∧ ackInRange s g.hdr.ackSeq = true) ∧
        inputSynchronized s g = if (inputAck s g).2 then (inputAck s g).1
          else inputFin (inputText (inputAck s g).1 g) g) := by
  rw [inputSynchronized]
  split
  · exact .inl rfl
  next hseq =>
  split
  · split
    · exact .inr (.inl rfl)
    · exact .inl rfl
  next hrst =>
  split
  · exact .inr (.inr (.inl rfl))
  next hsyn =>
  split
  · exact .inr (.inr (.inr (.inl rfl)))
  next hack =>
  split
  · exact .inl rfl
  next hr =>
  rw [Bool.not_eq_true] at hrst hsyn
  simp only [hrst, Bool.not_false, Bool.and_true, Bool.not_eq_true', Bool.not_eq_false] at hseq hack hr
  refine .inr (.inr (.inr (.inr ⟨⟨hseq, hrst, hsyn, hack, hr⟩, ?_⟩)))
  split
  · next he => rw [he, if_pos rfl]
  · next he => rw [he, if_neg Bool.false_ne_true]

lemma tcpRead_frame (len : ℕ) (expired : Bool) :
    ∃ er r t, (tcpRead s len expired).1 = { s with error := er, rcv := r, tm := t } := by
  unfold tcpRead
  split
  · exact ⟨none, s.rcv, s.tm, rfl⟩
  split_ifs
  · exact ⟨s.error, s.rcv, s.tm, rfl⟩
  · exact ⟨s.error, s.rcv, s.tm, rfl⟩
  · exact ⟨s.error, s.rcv, s.tm, rfl⟩
  · exact ⟨s.error, s.rcv, s.tm, rfl⟩
  · exact ⟨s.error, s.rcv, s.tm, rfl⟩
  · simp only
    split
    · exact ⟨s.error, _, _, rfl⟩
    · exact ⟨s.error, _, s.tm, rfl⟩

lemma shutdownRecv_frame (how : How) :
    ∃ c no, (if how = .rd ∨ how = .rdwr then shutdownRecv s else s) =
      { s with core.closeRecv := c, env.notified := no } := by
  simp only [shutdownRecv]
  split
  · split
    · exact ⟨s.core.closeRecv, s.env.notified, rfl⟩
    · exact ⟨true, _, rfl⟩
  · exact ⟨s.core.closeRecv, s.env.notified, rfl⟩

lemma finState_frame : ∃ st t no, finState s = { s with core.state := st, tm := t, env.notified := no } := by
  unfold finState
  split
  · exact ⟨_, s.tm, s.env.notified, rfl⟩
  · exact ⟨_, s.tm, s.env.notified, rfl⟩
  · split
    · exact ⟨_, _, _, rfl⟩
    · exact ⟨_, s.tm, s.env.notified, rfl⟩
  · exact ⟨_, _, s.env.notified, rfl⟩
  · exact ⟨s.core.state, _, s.env.notified, rfl⟩
  · exact ⟨s.core.state, s.tm, s.env.notified, rfl⟩

end Netfast.Tcp
