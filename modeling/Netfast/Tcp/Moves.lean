import Netfast.Tcp.Away

/-! Every action on a connection is a sequence of a few moves of its sending side. What is true of each move is
true of every action, whichever branches it takes. -/

namespace Netfast.Tcp

open Serial Skbuff

structure View where
  isV6 : Bool
  route : Option Route
  snd : SendState
  nego : Nego
  rttMeasTime : ℕ
  rttMeasSeq : Seq
  now : ℕ
  routes : List RouteAnswer
  wire : List WireSeg
  faults : List Fault

def TcpSock.view (s : TcpSock) : View where
  isV6 := s.core.isV6
  route := s.route
  snd := s.snd
  nego := s.nego
  rttMeasTime := s.retry.rttMeasTime
  rttMeasSeq := s.retry.rttMeasSeq
  now := s.env.now
  routes := s.env.routes
  wire := s.env.wire
  faults := s.env.faults

structure SameView (s s' : TcpSock) : Prop where
  view : s'.view = s.view
  wnd : s'.win.sndWnd = s.win.sndWnd ∨ ∃ h : TcpHdr, s'.win.sndWnd = tcpDecodeWindow s.nego h.window h.flags

variable {g : Segment} {ack : Seq} {b tail : SkBuff} {a c : TcpSock} {n : ℕ}

namespace SameView

variable {s s' : TcpSock}

lemma isV6 (h : SameView s s') : s'.core.isV6 = s.core.isV6 := congrArg View.isV6 h.view
lemma route (h : SameView s s') : s'.route = s.route := congrArg View.route h.view
lemma snd (h : SameView s s') : s'.snd = s.snd := congrArg View.snd h.view
lemma nego (h : SameView s s') : s'.nego = s.nego := congrArg View.nego h.view
lemma now (h : SameView s s') : s'.env.now = s.env.now := congrArg View.now h.view
lemma routes (h : SameView s s') : s'.env.routes = s.env.routes := congrArg View.routes h.view
lemma wire (h : SameView s s') : s'.env.wire = s.env.wire := congrArg View.wire h.view
lemma faults (h : SameView s s') : s'.env.faults = s.env.faults := congrArg View.faults h.view

lemma rtt (h : SameView s s') : s.retry.SameRtt s'.retry :=
  ⟨congrArg View.rttMeasTime h.view, congrArg View.rttMeasSeq h.view⟩

lemma refl (s : TcpSock) : SameView s s := ⟨rfl, .inl rfl⟩

lemma trans {b : TcpSock} (h : SameView a b) (h' : SameView b c) : SameView a c := by
  refine ⟨h'.view.trans h.view, ?_⟩
  rcases h'.wnd with hw | ⟨hd, hw⟩
  · rw [hw]
    exact h.wnd
  · right
    exact ⟨hd, by rw [hw, h.nego]⟩

end SameView

structure Uncounted (s s' : TcpSock) : Prop where
  repeats : s'.win.lastAckRepeat = s.win.lastAckRepeat ∨ s'.win.lastAckRepeat = 0
  recovery : s'.cong.caState = .recovery → s.cong.caState = .recovery

lemma Uncounted.trans {b : TcpSock} (h : Uncounted a b) (h' : Uncounted b c) : Uncounted a c := by
  refine ⟨?_, fun hr => h.recovery (h'.recovery hr)⟩
  rcases h'.repeats with hb | hb
  · rw [hb]
    exact h.repeats
  · exact .inr hb

def TcpState.opening : TcpState → Bool
  | .synSent | .synReceived => true
  | _ => false

lemma opening_eq_false {st : TcpState} (h : st ≠ .synSent ∧ st ≠ .synReceived) : st.opening = false := by
  cases st with
  | synSent => exact absurd rfl h.1
  | synReceived => exact absurd rfl h.2
  | _ => rfl

inductive FinPhase
  | asked
  | opening
  | flowing
  | finSent
  | finAcked
  | ended

def TcpState.phase : TcpState → FinPhase
  | .synSent => .asked
  | .synReceived => .opening
  | .established | .closeWait => .flowing
  | .finWait1 | .closing | .lastAck => .finSent
  | .finWait2 | .timeWait => .finAcked
  | .closed | .listen => .ended

inductive PhaseStep (acked : Prop) : FinPhase → FinPhase → Prop
  | same (p : FinPhase) : PhaseStep acked p p
  | ended (p : FinPhase) : PhaseStep acked p .ended
  | opened : PhaseStep acked .opening .flowing
  | acked (h : acked) : PhaseStep acked .finSent .finAcked

lemma PhaseStep.trans {acked : Prop} {p q r : FinPhase} (h : PhaseStep acked p q) (h' : PhaseStep acked q r) : PhaseStep acked p r := by
  cases h with
  | same => exact h'
  | ended =>
    cases h'
    all_goals exact .ended _
  | opened =>
    cases h' with
    | same => exact .opened
    | ended => exact .ended _
  | acked h =>
    cases h' with
    | same => exact .acked h
    | ended => exact .ended _

lemma opening_iff (st : TcpState) : st.opening = true ↔ st.phase = .asked ∨ st.phase = .opening := by
  cases st <;> simp [TcpState.opening, TcpState.phase]

structure Onward (acked : Prop) (c c' : SockCore) : Prop where
  turn : PhaseStep acked c.state.phase c'.state.phase
  closing : c'.closeSend = false → c.closeSend = false

namespace Onward

variable {acked : Prop} {c c' : SockCore}

lemma settles (h : Onward acked c c') : c'.state = c.state ∨ c'.state.opening = false := by
  have ht := h.turn
  cases hc' : c'.state with
  | synSent | synReceived =>
    rw [hc'] at ht
    left
    cases hc : c.state <;> rw [hc] at ht <;> first | rfl | cases ht
  | _ => exact .inr rfl

lemma opening (h : Onward acked c c') (ho : c'.state.opening = true) : c.state.opening = true := by
  rcases h.settles with hs | hs
  · rw [← hs]
    exact ho
  · rw [ho] at hs
    cases hs

lemma synSent (h : Onward acked c c') (hst : c'.state = .synSent) : c.state = .synSent := by
  rcases h.settles with hs | hs
  · rw [← hs]
    exact hst
  · rw [hst] at hs
    cases hs

lemma refl (c : SockCore) : Onward acked c c := ⟨.same _, id⟩

lemma trans {d : SockCore} (h : Onward acked c c') (h' : Onward acked c' d) : Onward acked c d :=
  ⟨h.turn.trans h'.turn, fun hc => h.closing (h'.closing hc)⟩

lemma of_state (ht : PhaseStep acked c.state.phase c'.state.phase) (hc : c'.closeSend = c.closeSend) : Onward acked c c' :=
  ⟨ht, fun h => hc ▸ h⟩

end Onward

/-- The congestion state is kept or reset, or a timeout found something in flight. -/
def CongStep (s s' : TcpSock) : Prop :=
  CaKeeps s.cong s'.cong ∨ s.snd.retransmitQueue ≠ [] ∧ s'.core.state.opening = false ∧ s'.cong.caState = .loss ∧
    (s.cong.caState ≠ .open ∧ s'.cong.caRecoverySeq = s.cong.caRecoverySeq ∨ s'.cong.caRecoverySeq = s.snd.sndNxt)

lemma CongStep.of_eq {s s' : TcpSock} (h : s'.cong = s.cong) : CongStep s s' := .inl (h ▸ .refl _)

lemma CongStep.trans {b : TcpSock} (h : CongStep a b) (h' : CongStep b c) (hs : b.snd = a.snd)
    (ho : c.core.state.opening = true → b.core.state.opening = true) : CongStep a c := by
  rcases h' with h' | ⟨hq, hst, hl, hr⟩
  · rcases h with h | ⟨hq, hst, hl, hr⟩
    · exact .inl (h.trans h')
    rcases h' with h' | ⟨hca, hrec⟩
    · exact .inl (.inl h')
    · refine .inr ⟨hq, Bool.eq_false_of_not_eq_true fun h => ?_, hca.trans hl, by rw [hrec]; exact hr⟩
      rw [ho h] at hst
      cases hst
  · rw [hs] at hq hr
    refine .inr ⟨hq, hst, hl, ?_⟩
    rcases hr with ⟨hne, hrec⟩ | hrec
    · rcases h with (h | ⟨hca, hrec'⟩) | ⟨-, -, -, hr⟩
      · exact absurd h hne
      · exact .inl ⟨by rw [← hca]; exact hne, hrec.trans hrec'⟩
      · rw [hrec]
        exact hr
    · exact .inr hrec

lemma CongStep.recovery {s s' : TcpSock} (h : CongStep s s') (hr : s'.cong.caState = .recovery) :
    s.cong.caState = .recovery := by
  rcases h with (h | ⟨h, -⟩) | ⟨-, -, h, -⟩
  · rw [h] at hr
    cases hr
  · rw [← h, hr]
  · rw [h] at hr
    cases hr

structure Beside (s s' : TcpSock) : Prop extends SameView s s' where
  repeats : s'.win.lastAckRepeat = s.win.lastAckRepeat ∨ s'.win.lastAckRepeat = 0
  cong : CongStep s s'
  core : Onward (s.snd.sndUna = s.snd.sndEnd) s.core s'.core

variable {re : Retry}

namespace Beside

variable {s s' : TcpSock}

lemma of_retry (hr : s.retry.SameRtt re) (hv : s'.view = { s with retry := re }.view)
    (hw : s'.win.sndWnd = s.win.sndWnd ∨ ∃ h : TcpHdr, s'.win.sndWnd = tcpDecodeWindow s.nego h.window h.flags)
    (hl : s'.win.lastAckRepeat = s.win.lastAckRepeat) (hc : CongStep s s')
    (ho : Onward (s.snd.sndUna = s.snd.sndEnd) s.core s'.core) : Beside s s' := by
  refine ⟨⟨hv.trans ?_, hw⟩, .inl hl, hc, ho⟩
  simp only [TcpSock.view, hr.1, hr.2]

lemma of_fields (h6 : s'.core.isV6 = s.core.isV6) (hro : s'.route = s.route) (hs : s'.snd = s.snd)
    (hn : s'.nego = s.nego)
    (hw : s'.win.sndWnd = s.win.sndWnd ∨ ∃ h : TcpHdr, s'.win.sndWnd = tcpDecodeWindow s.nego h.window h.flags)
    (hr : s.retry.SameRtt s'.retry) (hnow : s'.env.now = s.env.now) (has : s'.env.routes = s.env.routes)
    (hwire : s'.env.wire = s.env.wire) (hf : s'.env.faults = s.env.faults)
    (hl : s'.win.lastAckRepeat = s.win.lastAckRepeat ∨ s'.win.lastAckRepeat = 0) (hc : CongStep s s')
    (ho : Onward (s.snd.sndUna = s.snd.sndEnd) s.core s'.core) : Beside s s' := by
  refine ⟨⟨?_, hw⟩, hl, hc, ho⟩
  rw [TcpSock.view, TcpSock.view, h6, hro, hs, hn, hr.1, hr.2, hnow, has, hwire, hf]

lemma of_core (hv : s'.view = s.view) (hw : s'.win = s.win) (hc : s'.cong = s.cong) (ho : Onward (s.snd.sndUna = s.snd.sndEnd) s.core s'.core) :
    Beside s s' :=
  ⟨⟨hv, .inl (by rw [hw])⟩, .inl (by rw [hw]), .of_eq hc, ho⟩

lemma of_same (hv : s'.view = s.view) (hw : s'.win = s.win) (hc : s'.cong = s.cong)
    (hs : s'.core.state = s.core.state ∧ s'.core.closeSend = s.core.closeSend) : Beside s s' :=
  .of_core hv hw hc (.of_state (by rw [hs.1]; exact .same _) hs.2)

lemma refl (s : TcpSock) : Beside s s := .of_core rfl rfl rfl (.refl _)

lemma uncounted (h : Beside s s') : Uncounted s s' := ⟨h.repeats, h.cong.recovery⟩

lemma trans {b : TcpSock} (h : Beside a b) (h' : Beside b c) : Beside a c :=
  ⟨h.toSameView.trans h'.toSameView, (h.uncounted.trans h'.uncounted).repeats,
    h.cong.trans h'.cong h.snd h'.core.opening, h.core.trans (by rw [← h.snd]; exact h'.core)⟩

end Beside

def emitted (s : TcpSock) (seq ack : Seq) (flags : Flags) (payload : List UInt8) : TcpSock :=
  { s with
    nego := (makeTcpOptions s.nego s.env.now flags).2
    env.wire := s.env.wire ++ [{
      seq, ack, flags, payload
      window := tcpEncodeWindow (makeTcpOptions s.nego s.env.now flags).2 s.rcv.rcvWnd flags
      options := (makeTcpOptions s.nego s.env.now flags).1 }] }

def emittedCopy (s : TcpSock) (b : SkBuff) (budget : ℕ) (push : Bool) : TcpSock :=
  emitted s b.seq s.rcv.rcvNxt (sendClone b budget push).flag (sendClone b budget push).payload

def launched (s : TcpSock) (b : SkBuff) (rest : List SkBuff) (n : ℕ) (sendFin push : Bool) : TcpSock :=
  { emittedCopy s b n push with
    core.state := if sendFin then s.core.state.finSent else s.core.state
    retry.rttMeasTime := if s.retry.rttMeasTime = 0 then s.env.now else s.retry.rttMeasTime
    retry.rttMeasSeq := if s.retry.rttMeasTime = 0 then b.seq else s.retry.rttMeasSeq
    snd.sndNxt := s.snd.sndNxt + BitVec.ofNat 32 n
    snd.sendQueue := rest
    snd.retransmitQueue := tcpRetransmitEnqueue s.snd.retransmitQueue s.nego.sndMss b }

variable {rest : List SkBuff}

lemma launched_opening {s : TcpSock} {sendFin push : Bool}
    (h : (launched s b rest n sendFin push).core.state.opening = true) : s.core.state.opening = true := by
  change (if sendFin then s.core.state.finSent else s.core.state).opening = true at h
  cases hs : s.core.state <;> cases sendFin <;> rw [hs] at h <;> first | rfl | cases h

/-- The peer's window has room for `n` numbers from `b` on, or this is the probe of a sender with nothing in
flight. -/
def Room (s : TcpSock) (b : SkBuff) (n : ℕ) : Prop :=
  (∃ m ≤ s.win.sndWnd, geq b.seq (s.snd.sndUna + BitVec.ofNat 32 m) = false ∧
    n ≤ (s.snd.sndUna + BitVec.ofNat 32 m - b.seq).toNat) ∨ s.snd.retransmitQueue = [] ∧ n ≤ 1

def TakesAck (s : TcpSock) (ack : Seq) : Prop :=
  (leq ack s.snd.sndUna || gt ack s.snd.sndNxt) = false ∨
    lt s.snd.sndUna ack = true ∧ ackInRange s ack = true

/-- What a dereference of nothing finds. -/
def Cause (s : TcpSock) : Fault → Prop
  | .nullRoute => s.route = none
  | .nullSkb => s.snd.retransmitQueue = [] ∧ s.cong.caState ≠ .open
  | .nullSlot => ∃ b ∈ s.snd.retransmitQueue ++ s.snd.sendQueue, ¬Resendable b
  | _ => True

inductive Move : TcpSock → TcpSock → Prop
  | beside {s s' : TcpSock} (h : Beside s s') : Move s s'
  | unrouted (s : TcpSock) (h : (setTcpSocketRoute s).2 = false) :
      Move s { s with route := none, env.routes := s.env.routes.tail }
  | routed (s : TcpSock) {r : Route} (h : (setSocketRoute s).1.route = some r) :
      Move s { s with route := some r, nego := Nego.onRoute s r, env.routes := s.env.routes.tail }
  | faulted (s : TcpSock) {f : Fault} (h : Cause s f) : Move s (s.fault f)
  | offered (s : TcpSock) (flags : Flags) : Move s { s with nego := (makeTcpOptions s.nego s.env.now flags).2 }
  | bare (s : TcpSock) (seq ack : Seq) {flags : Flags} (h : flags.syn = false ∧ flags.fin = false) :
      Move s (emitted s seq ack flags [])
  | resent (s : TcpSock) {b : SkBuff} (h : b ∈ s.snd.retransmitQueue) (budget : ℕ) :
      Move s { emittedCopy s b budget false with retry.rttMeasTime := 0 }
  | sent (s : TcpSock) {b : SkBuff} {rest : List SkBuff} (hq : s.snd.sendQueue = b :: rest) {n : ℕ}
      (hn : b.flag.syn = false → n = tcpSkbSeqLen b) (hr : Room s b n) {sendFin : Bool}
      (hf : b.flag.syn = false → sendFin = b.flag.fin) (push : Bool) : Move s (launched s b rest n sendFin push)
  | cut (s : TcpSock) {b head tail : SkBuff} {rest : List SkBuff} (hq : s.snd.sendQueue = b :: rest)
      (h : Parts b head tail) : Move s { s with snd.sendQueue := head :: tail :: rest }
  | sampled (s : TcpSock) (v : ℕ) : Move s { s with nego.tsLastTsecr := v, retry.rttMeasTime := 0 }
  | finLast (s : TcpSock) (ho : s.core.closeSend = false) (hs : s.core.state.opening = false) {last : SkBuff}
      (h : s.snd.sendQueue.getLast? = some last) :
      Move s { s with
        core.closeSend := true
        snd.sendQueue := s.snd.sendQueue.dropLast ++ [{ last with flag.fin := true }]
        snd.sndEnd := s.snd.sndEnd + 1 }
  | finAlone (s : TcpSock) (ho : s.core.closeSend = false) (hs : s.core.state.opening = false)
      (h : s.snd.sendQueue = []) (room : ℕ) (hroom : 120 ≤ room) :
      Move s { s with
        core.closeSend := true
        snd.sendQueue := [skbAlloc s.snd.sndEnd { fin := true, ack := true } room room]
        snd.sndEnd := s.snd.sndEnd + 1 }
  | resized (s : TcpSock) {v : ℕ} (h : v < 2 ^ 31) : Move s { s with snd.sendBufferLenMax := v }

abbrev Moves : TcpSock → TcpSock → Prop := Relation.ReflTransGen Move

inductive Wrote : TcpSock → TcpSock → Prop
  | chunk (s : TcpSock) (ho : s.core.closeSend = false) {chunk : List UInt8} (hc : chunk ≠ [])
      (hl : chunk.length ≤ tcpDataMss s.nego) (hm : s.snd.sendBufferLen + chunk.length ≤ s.snd.sendBufferLenMax)
      (room : ℕ) (f : Fates) (hroom : 120 ≤ room) :
      Wrote s { s with snd := (writeChunk s.snd chunk (tcpDataMss s.nego) room f).1 }

inductive Writes (s s' : TcpSock) : Prop
  | idle (h : Moves s s')
  | queued {t t' : TcpSock} (hr : setTcpSocketRoute s = (t, true)) (hw : Relation.ReflTransGen Wrote t t')
      (h : Moves t' s')

lemma wrote_frame {s s' : TcpSock} (h : Relation.ReflTransGen Wrote s s') : ∃ q, s' = { s with snd := q } := by
  induction h with
  | refl => exact ⟨s.snd, rfl⟩
  | tail _ hw ih =>
    obtain ⟨q, rfl⟩ := ih
    cases hw
    exact ⟨_, rfl⟩

lemma Move.one {s s' : TcpSock} (h : Move s s') : Moves s s' := .single h

lemma Beside.moves {s s' : TcpSock} (h : Beside s s') : Moves s s' := .single (.beside h)

lemma Moves.invariant {I : TcpSock → Prop} (hI : ∀ s s', I s → Move s s' → I s') {s s' : TcpSock} (h : Moves s s')
    (hs : I s) : I s' := by
  induction h with
  | refl => exact hs
  | tail _ hm ih => exact hI _ _ ih hm

variable {s s' : TcpSock}

lemma OnlyTimers.beside (h : OnlyTimers s s') : Beside s s' := by
  obtain ⟨t, rfl⟩ := h
  exact .of_same rfl rfl rfl ⟨rfl, rfl⟩

lemma destroyTcpSocket_beside (s : TcpSock) : Beside s (destroyTcpSocket s) := by
  rw [destroyTcpSocket]
  split <;> exact .of_core rfl rfl rfl (.of_state (.ended _) rfl)

lemma destroyed_beside {er : Option Errno} (h : s.retry.SameRtt re) :
    Beside s (destroyTcpSocket { s with error := er, retry := re }) := by
  refine Beside.trans ?_ (destroyTcpSocket_beside _)
  exact .of_retry h rfl (.inl rfl) rfl (.of_eq rfl) (.refl _)

section

variable (s)

lemma tcpSndWinChange_rtt (w : ℕ) : s.retry.SameRtt (tcpSndWinChange s w).retry := by
  obtain ⟨r, t, h, rfl | ⟨b, rfl⟩⟩ := tcpSndWinChange_spec s w <;> rw [h] <;> exact ⟨rfl, rfl⟩

lemma announced_beside (h : TcpHdr) (l1 l2 : Seq) :
    Beside s { tcpSndWinChange s (tcpDecodeWindow s.nego h.window h.flags) with
      win.sndWl1 := l1
      win.sndWl2 := l2 } := by
  have hr := tcpSndWinChange_rtt s (tcpDecodeWindow s.nego h.window h.flags)
  obtain ⟨re, t, he⟩ := tcpSndWinChange_frame s (tcpDecodeWindow s.nego h.window h.flags)
  rw [he] at hr ⊢
  exact .of_retry hr rfl (.inr ⟨h, rfl⟩) rfl (.of_eq rfl) (.refl _)

lemma noteWindow_beside (h : TcpHdr) : Beside s (noteWindow s h) := by
  rw [noteWindow]
  split
  · exact announced_beside s h h.seq h.ackSeq
  · exact .refl s

lemma restartKeepalive_beside : Beside s (restartKeepalive s) := by
  rw [restartKeepalive]
  split
  · exact .of_same rfl rfl rfl ⟨rfl, rfl⟩
  · exact .refl s

end

def TcpState.finAcked : TcpState → TcpState
  | .finWait1 => .finWait2
  | .closing => .timeWait
  | .lastAck => .closed
  | st => st

lemma ackOwnFin_state (s : TcpSock) :
    (ackOwnFin s).1.core.state = if s.snd.sndUna = s.snd.sndEnd then s.core.state.finAcked else s.core.state := by
  rw [ackOwnFin]
  split
  · split
    · next h =>
      rw [h]
      dsimp only
      split <;> rfl
    · next h => rw [h]; rfl
    · next h =>
      obtain ⟨fr, no, he⟩ := destroyTcpSocket_frame (s.notify .lingerDone)
      rw [he, h]
      rfl
    · next h₁ h₂ h₃ =>
      cases hs : s.core.state with
      | finWait1 => exact absurd hs h₁
      | closing => exact absurd hs h₂
      | lastAck => exact absurd hs h₃
      | _ => rfl
  · rfl

lemma turn_finAcked {acked : Prop} (h : acked) (st : TcpState) : PhaseStep acked st.phase st.finAcked.phase := by
  cases st with
  | finWait1 | closing => exact .acked h
  | lastAck => exact .ended _
  | _ => exact .same _

section

variable (s)

lemma ackOwnFin_beside : Beside s (ackOwnFin s).1 := by
  have hst := ackOwnFin_state s
  obtain ⟨st, fr, t, no, he, -⟩ := ackOwnFin_frame s
  rw [he] at hst ⊢
  refine .of_core rfl rfl rfl (.of_state ?_ rfl)
  rw [hst]
  split
  · next h => exact turn_finAcked h _
  · exact .same _

lemma inputText_beside (g : Segment) : Beside s (inputText s g) := by
  simp only [inputText]
  split
  · split
    · exact .of_same rfl rfl rfl ⟨rfl, rfl⟩
    · split <;> exact .of_same rfl rfl rfl ⟨rfl, rfl⟩
  · exact .refl s

lemma finState_turn :
    PhaseStep (s.snd.sndUna = s.snd.sndEnd) s.core.state.phase (finState s).core.state.phase := by
  rw [finState]
  split
  · next h => rw [h]; exact .opened
  · next h => rw [h]; exact .same _
  · next h =>
    rw [h]
    split
    · next ha => exact .acked ha
    · exact .same _
  · next h => rw [h]; exact .same _
  · exact .same _
  · exact .same _

lemma finState_beside : Beside s (finState s) := by
  have ht := finState_turn s
  obtain ⟨st, t, no, he⟩ := finState_frame s
  rw [he] at ht ⊢
  exact .of_core rfl rfl rfl (.of_state ht rfl)

lemma takeFin_beside : Beside s (takeFin s) := by
  refine Beside.trans ?_ (finState_beside _)
  exact .of_same rfl rfl rfl ⟨rfl, rfl⟩

lemma inputFin_beside (g : Segment) : Beside s (inputFin s g) := by
  have hlast (s : TcpSock) : Beside s (if s.core.state = .established then restartKeepalive s else s) := by
    split
    · exact restartKeepalive_beside s
    · exact .refl s
  simp only [inputFin]
  split
  · exact .refl s
  split
  · exact .of_same rfl rfl rfl ⟨rfl, rfl⟩
  refine Beside.trans ?_ (hlast _)
  split
  · exact takeFin_beside s
  · exact .refl s

lemma inputRst_beside : Beside s (inputRst s) := by
  rcases inputRst_cases s with he | ⟨er, he⟩ <;> rw [he]
  · exact .refl s
  · exact destroyed_beside ⟨rfl, rfl⟩

lemma inputSyn_beside : Beside s (inputSyn s) := by
  rw [inputSyn]
  split
  · exact destroyTcpSocket_beside s
  · exact OnlyTimers.beside ⟨_, rfl⟩

lemma tcpRead_beside (len : ℕ) (expired : Bool) : Beside s (tcpRead s len expired).1 := by
  obtain ⟨er, r, t, he⟩ := tcpRead_frame s len expired
  rw [he]
  exact .of_same rfl rfl rfl ⟨rfl, rfl⟩

lemma tcpIcmpProcess_beside (quoted : Option Seq) (err : Errno) :
    Beside s (tcpIcmpProcess s quoted err) := by
  rw [tcpIcmpProcess]
  split
  · exact .refl s
  split
  · exact .refl s
  dsimp only
  split
  all_goals first
    | exact destroyed_beside ⟨rfl, rfl⟩
    | exact .of_same rfl rfl rfl ⟨rfl, rfl⟩

end

lemma setTcpSocketRoute_lost {s₁ : TcpSock} (h : setTcpSocketRoute s = (s₁, false)) :
    s₁ = { s with route := none, env.routes := s.env.routes.tail } := by
  have hsome : (setSocketRoute s).2 = (setSocketRoute s).1.route.isSome := rfl
  have hf := setSocketRoute_frame s
  rw [setTcpSocketRoute] at h
  split at h
  · next s₂ hs =>
    rw [hs] at hsome hf
    obtain ⟨rfl, -⟩ := Prod.mk.inj h
    have hnone : s₂.route = none := by simpa using hsome.symm
    rw [← hnone]
    exact hf
  next s₂ hs =>
  rw [hs] at hf
  have hf : s₂ = _ := hf
  split at h
  · next hn =>
    obtain ⟨rfl, -⟩ := Prod.mk.inj h
    rw [← hn]
    exact hf
  split at h
  · obtain ⟨rfl, -⟩ := Prod.mk.inj h
    rw [hf]
  · cases h

section

variable (s)

lemma onRoute_keeps (r : Route) : CaKeeps s.cong (CongState.onRoute s r) := by
  rw [CongState.onRoute]
  split
  · exact .inl rfl
  · exact .refl _

lemma setTcpSocketRoute_moves : Moves s (setTcpSocketRoute s).1 := by
  cases h : setTcpSocketRoute s with
  | mk s₁ ok =>
    cases ok with
    | false =>
      obtain rfl := setTcpSocketRoute_lost h
      exact (Move.unrouted s (by rw [h])).one
    | true =>
      obtain ⟨r, re, f, hr, hrtt, rfl⟩ := setTcpSocketRoute_routed h
      refine (Move.routed s hr).one.tail (.beside ?_)
      exact .of_retry hrtt rfl (.inl rfl) rfl (.inl (onRoute_keeps s r)) (.refl _)

lemma submit_moves (seq ack : Seq) (flags : Flags) (payload : List UInt8) (o : Bool) :
    ((submit s seq ack flags payload o).2 ≠ none ∧
        Beside { s with nego := (makeTcpOptions s.nego s.env.now flags).2 } (submit s seq ack flags payload o).1) ∨
      ((submit s seq ack flags payload o).2 = none ∧
        Beside (emitted s seq ack flags payload) (submit s seq ack flags payload o).1) := by
  simp only [submit, ipOutput]
  cases hd : draw s.env.fates with
  | mk ok f =>
    cases ok with
    | false => exact .inl ⟨by simp, .of_same rfl rfl rfl ⟨rfl, rfl⟩⟩
    | true =>
      right
      cases flags.ack with
      | false => exact ⟨rfl, .of_same rfl rfl rfl ⟨rfl, rfl⟩⟩
      | true => exact ⟨rfl, .of_same rfl rfl rfl ⟨rfl, rfl⟩⟩

lemma tcpSendFlag_moves (seq ack : Seq) {flag : Flags} (h : flag.syn = false ∧ flag.fin = false) :
    Moves s (tcpSendFlag s seq ack flag).1 := by
  rw [tcpSendFlag.eq_def]
  split
  · next hr => exact (Move.faulted (f := .nullRoute) s hr).one
  split
  · exact Beside.moves (.of_same rfl rfl rfl ⟨rfl, rfl⟩)
  next f _ =>
  rw [h.1]
  have hf : Moves s { s with env.fates := f } :=
    Beside.moves (.of_same rfl rfl rfl ⟨rfl, rfl⟩)
  rcases submit_moves { s with env.fates := f } seq ack flag [] true with ⟨-, hb⟩ | ⟨-, hb⟩
  · exact (hf.tail (.offered _ flag)).tail (.beside hb)
  · exact (hf.tail (.bare _ seq ack h)).tail (.beside hb)

end

lemma sendClone_seq (b : SkBuff) (k : ℕ) (push : Bool) : (sendClone b k push).seq = b.seq := by
  simp only [sendClone]
  split
  · exact skbTruncate_seq b _
  · rfl

lemma tcpXmitSegment_moves (hm : b ∈ s.snd.retransmitQueue ++ s.snd.sendQueue) {budget : ℕ}
    (hpos : b.flag.syn = false → 0 < tcpSkbSeqLen b → 0 < budget) (push : Bool) :
    ((tcpXmitSegment s b budget push).2 ≠ none ∧ Moves s (tcpXmitSegment s b budget push).1) ∨
      ((tcpXmitSegment s b budget push).2 = none ∧ ∃ s₁, Moves s s₁ ∧ Keeps s s₁ ∧ s.retry.SameRtt s₁.retry ∧
        (tcpXmitSegment s b budget push).1.cong = s₁.cong ∧
        Beside (emittedCopy s₁ b budget push) (tcpXmitSegment s b budget push).1) := by
  rw [tcpXmitSegment.eq_def]
  split
  · exact .inl ⟨by simp, Beside.moves (.of_same rfl rfl rfl ⟨rfl, rfl⟩)⟩
  next f _ =>
  have hf : Moves s { s with env.fates := f } :=
    Beside.moves (.of_same rfl rfl rfl ⟨rfl, rfl⟩)
  split
  · next hempty => exact .inl ⟨by simp, hf.tail (.faulted _ ⟨b, hm, fun hb => hb.owns hempty⟩)⟩
  have hroute := hf.trans (setTcpSocketRoute_moves { s with env.fates := f })
  have hk : Keeps s (setTcpSocketRoute { s with env.fates := f }).1 :=
    .trans (.of_frame s s.route s.error s.retry s.tm _) (setTcpSocketRoute_keeps _)
  split
  · next s₁ he =>
    rw [he] at hroute
    exact .inl ⟨by simp, hroute.tail (.beside (.of_same rfl rfl rfl ⟨rfl, rfl⟩))⟩
  · next s₁ he =>
    rw [he] at hroute hk
    obtain ⟨r, re, f', -, hrtt, hs₁⟩ := setTcpSocketRoute_routed he
    dsimp only
    split
    · next hempty =>
      refine .inl ⟨by simp, hroute.tail (.faulted _ ⟨b, by rw [hk.snd]; exact hm, fun hb => ?_⟩)⟩
      refine sendClone_ownsSlot b budget push hb.owns ?_ hempty
      cases hs : b.flag.syn with
      | true => exact .inl (hb.syn hs)
      | false => exact .inr (hpos hs hb.pos)
    have hseq : (sendClone b budget push).seq = b.seq := sendClone_seq b budget push
    rw [hseq]
    rcases submit_moves s₁ b.seq s₁.rcv.rcvNxt (sendClone b budget push).flag (sendClone b budget push).payload
      false with ⟨hret, hb⟩ | ⟨hret, hb⟩
    · exact .inl ⟨hret, (hroute.tail (.offered _ _)).tail (.beside hb)⟩
    · refine .inr ⟨hret, s₁, hroute, hk, by rw [hs₁]; exact hrtt, ?_, hb⟩
      obtain ⟨n, re, t, f, ws, he, -⟩ := submit_frame s₁ b.seq s₁.rcv.rcvNxt (sendClone b budget push).flag
        (sendClone b budget push).payload false
      rw [he]

lemma tcpRetransmitSkb_moves (h : b ∈ s.snd.retransmitQueue) (probe : Bool) :
    Moves s (tcpRetransmitSkb s (some b) probe).1 := by
  have hx {budget : ℕ} (hpos : 0 < tcpSkbSeqLen b → 0 < budget) :
      Moves s (tcpXmitSegment { s with retry.rttMeasTime := 0 } b budget false).1 := by
    have h0 : Moves s { s with retry.rttMeasTime := 0 } := (Move.sampled s s.nego.tsLastTsecr).one
    rcases tcpXmitSegment_moves (s := { s with retry.rttMeasTime := 0 }) (List.mem_append_left _ h) (fun _ => hpos) false with
      ⟨-, hm⟩ | ⟨-, s₁, hm, hk, hrtt, -, hb⟩
    · exact h0.trans hm
    · have hmem : b ∈ s₁.snd.retransmitQueue := by
        rw [hk.snd]
        exact h
      refine ((h0.trans hm).tail (.resent s₁ hmem budget)).tail (.beside ?_)
      exact .of_fields hb.isV6 hb.route hb.snd hb.nego hb.wnd ⟨hb.rtt.1.trans hrtt.1, hb.rtt.2⟩ hb.now hb.routes hb.wire
        hb.faults hb.repeats hb.cong hb.core
  simp only [tcpRetransmitSkb]
  split_ifs with hp hs hw
  · exact hx fun hpos => by omega
  · exact hx id
  · exact .refl
  · refine hx fun hpos => ?_
    rw [not_or, Bool.not_eq_true, ← Bool.not_eq_true, geq_iff] at hw
    have hne : 0 < (windowEnd s - b.seq).toNat := by
      have := hw.2
      bv_omega
    omega

lemma retransmitHead_moves (h : s.snd.retransmitQueue = [] → s.cong.caState ≠ .open) (probe : Bool) :
    Moves s (tcpRetransmitSkb s s.snd.retransmitQueue.head? probe).1 := by
  cases hq : s.snd.retransmitQueue.head? with
  | none =>
    have hnil := List.head?_eq_none_iff.mp hq
    exact (Move.faulted (f := .nullSkb) s ⟨hnil, h hnil⟩).one
  | some b => exact tcpRetransmitSkb_moves (List.mem_of_mem_head? hq) probe

lemma tcpRetransmitNow_moves (h : s.cong.caState ≠ .open) : Moves s (tcpRetransmitNow s) :=
  (retransmitHead_moves (fun _ => h) false).tail (.beside (OnlyTimers.beside ⟨_, rfl⟩))

lemma makeTcpOptions_mss (n : Nego) (now : ℕ) (flags : Flags) : (makeTcpOptions n now flags).2.sndMss = n.sndMss := by
  simp only [makeTcpOptions]
  split <;> rfl

lemma Room.mono {k : ℕ} (h : Room s b k) (hn : n ≤ k) : Room s b n := by
  rcases h with ⟨m, hm, ho, hk⟩ | ⟨hq, hk⟩
  · exact .inl ⟨m, hm, ho, hn.trans hk⟩
  · exact .inr ⟨hq, hn.trans hk⟩

lemma Room.congr {c : SkBuff} (h : Room s b n) (hsnd : s'.snd.sndUna = s.snd.sndUna)
    (hrtx : s'.snd.retransmitQueue = s.snd.retransmitQueue) (hwin : s'.win = s.win) (hseq : c.seq = b.seq) :
    Room s' c n := by
  rw [Room, hsnd, hrtx, hwin, hseq]
  exact h

lemma submitHead_moves (hq : s.snd.sendQueue = b :: rest)
    (hn : b.flag.syn = false → n = tcpSkbSeqLen b) (hr : Room s b n) {sendFin : Bool}
    (hf : b.flag.syn = false → sendFin = b.flag.fin) (push : Bool) : Moves s (submitHead s b rest n sendFin push).1 := by
  have hx := tcpXmitSegment_moves (List.mem_append_right _ (hq ▸ List.mem_cons_self))
    (fun hs hpos => show 0 < n from hn hs ▸ hpos) push
  have hk₂ := tcpXmitSegment_keeps s b n push
  cases he : tcpXmitSegment s b n push with
  | mk s₂ ret =>
    rw [he] at hx hk₂
    cases ret with
    | some e =>
      simp only [submitHead, he]
      rcases hx with ⟨-, hm⟩ | ⟨hret, -⟩
      · exact hm.tail (.beside (OnlyTimers.beside ⟨_, rfl⟩))
      · cases hret
    | none =>
      rcases hx with ⟨hret, -⟩ | ⟨-, s₁, hm, hk, hrtt, hcong, hb⟩
      · exact absurd rfl hret
      have hq₁ : s₁.snd.sendQueue = b :: rest := by rw [hk.snd, hq]
      refine (hm.tail (.sent s₁ hq₁ hn (hr.congr (by rw [hk.snd]) (by rw [hk.snd]) hk.win rfl) hf push)).tail
        (.beside ?_)
      have hcore : s₂.core = s₁.core := hk₂.core.trans hk.core.symm
      have hmss : s₂.nego.sndMss = s₁.nego.sndMss := by
        rw [hb.nego]
        exact makeTcpOptions_mss s₁.nego s₁.env.now _
      have hsnd : s₂.snd = s₁.snd := hb.snd
      have htime : s₂.retry.rttMeasTime = s₁.retry.rttMeasTime := hb.rtt.1
      have hmeas : s₂.retry.rttMeasSeq = s₁.retry.rttMeasSeq := hb.rtt.2
      have hnow : s₂.env.now = s₁.env.now := hb.now
      obtain ⟨st, hc, hst⟩ : ∃ st, (if sendFin then
          tcpCommitFinSend (s₂.updateTimer .retransmit (s₂.env.now + s₂.retry.retransmitTimeout) false)
          else s₂.updateTimer .retransmit (s₂.env.now + s₂.retry.retransmitTimeout) false) =
          { s₂ with
            core.state := st
            tm := tcpUpdateTimer s₂.tm .retransmit (s₂.env.now + s₂.retry.retransmitTimeout) false } ∧
          st = if sendFin then s₂.core.state.finSent else s₂.core.state := by
        split
        · have hstate := tcpCommitFinSend_state
            (s₂.updateTimer .retransmit (s₂.env.now + s₂.retry.retransmitTimeout) false)
          obtain ⟨st, hst, -⟩ := tcpCommitFinSend_frame
            (s₂.updateTimer .retransmit (s₂.env.now + s₂.retry.retransmitTimeout) false)
          rw [hst] at hstate
          exact ⟨st, hst, hstate⟩
        · exact ⟨s₂.core.state, rfl, rfl⟩
      simp only [submitHead, he, hc]
      refine .of_fields ?_ ?_ ?_ ?_ ?_ ?_ ?_ ?_ ?_ ?_ ?_ ?_ ?_
      · split <;> exact hb.isV6
      · split <;> exact hb.route
      · split <;> simp only [hsnd, hmss] <;> rfl
      · split <;> exact hb.nego
      · split <;> exact hb.wnd
      · simp only [launched, htime, hnow]
        split
        · exact ⟨rfl, rfl⟩
        · exact ⟨htime, hmeas⟩
      · split <;> exact hb.now
      · split <;> exact hb.routes
      · split <;> exact hb.wire
      · split <;> exact hb.faults
      · split <;> exact hb.repeats
      · split <;> exact .of_eq hcong
      · split <;> exact .of_state (by rw [hst, hcore]; exact .same _) (by rw [hcore]; rfl)

lemma tcpXmitNewSkb_moves (hq : s.snd.sendQueue = b :: rest) {k : ℕ}
    (hk : 0 < tcpSkbSeqLen b → 0 < k) (hr : Room s b k) (push : Bool) : Moves s (tcpXmitNewSkb s k push).1 := by
  have hr' : Room s b (sendLen b k) := hr.mono (sendLen_le b k)
  have hf (f : Fates) : Moves s { s with env.fates := f } := Beside.moves (.of_same rfl rfl rfl ⟨rfl, rfl⟩)
  rcases tcpXmitNewSkb_cases hq k push with ⟨s₁, hs₁, he⟩ | ⟨f, head, tail, hlt, hflag, hseq, hp, he⟩ | ⟨hge, he⟩ <;> rw [he]
  · have hm : Moves s s₁ := by
      rcases hs₁ with ⟨f, rfl⟩ | ⟨hr, rfl⟩
      · exact hf f
      · exact (Move.faulted (f := .nullRoute) s hr).one
    exact hm.tail (.beside (OnlyTimers.beside ⟨_, rfl⟩))
  · obtain ⟨hparts, hlen⟩ := hp (hk (by omega))
    refine ((hf f).tail (.cut { s with env.fates := f } hq hparts)).trans (submitHead_moves rfl (fun hsyn => ?_) ?_ ?_ push)
    · refine hlen ?_
      rw [← hsyn, hflag]
    · exact hr'.congr rfl rfl rfl hseq
    · intro _
      rw [hflag]
  · refine submitHead_moves hq (fun hsyn => ?_) hr' (fun hsyn => sendFin_whole hsyn hge) push
    have := sendLen_eq hsyn k
    omega

lemma xmitRound_moves (hq : s.snd.sendQueue = b :: rest) (hopen : geq b.seq (windowEnd s) = false) (push : Bool) :
    Moves s (tcpXmitNewSkb s (roundBudget s b) push).1 := by
  refine tcpXmitNewSkb_moves hq (fun h => lt_min h ?_) ?_ push
  · have hne : ¬(b.seq - windowEnd s).toNat < 2 ^ 31 := by
      rw [← geq_iff, hopen]
      simp
    bv_omega
  · exact .inl ⟨s.winMin, Nat.min_le_left _ _, hopen, Nat.min_le_right _ _⟩

lemma writeXmitLoop_moves (flushPartial : Bool) (k : ℕ) (s : TcpSock) (ret : Ret) :
    Moves s (writeXmitLoop flushPartial k s ret).1 :=
  writeXmitLoop_rule (P := fun _ => True) (fun ht => ht.beside.moves) .trans
    (fun push _ hq hopen => ⟨xmitRound_moves hq hopen push, fun _ => trivial⟩) flushPartial k ret trivial

lemma tcpWriteXmit_moves (s : TcpSock) (flushPartial : Bool) : Moves s (tcpWriteXmit s flushPartial).1 :=
  writeXmitLoop_moves flushPartial tcpOutputBurstMax s none

lemma tcpSendProbe_moves (h : s.snd.retransmitQueue ≠ [] ∨ s.snd.sendQueue ≠ []) : Moves s (tcpSendProbe s).1 := by
  rw [tcpSendProbe]
  split
  · next b bs hq => exact tcpRetransmitSkb_moves (by rw [hq]; exact List.mem_cons_self) true
  · next hnone =>
    cases hq : s.snd.sendQueue with
    | nil => exact absurd h (by simp [hnone, hq])
    | cons b rest =>
      refine tcpXmitNewSkb_moves hq ?_ (.inr ⟨hnone, Nat.min_le_right _ _⟩) false
      intro h
      exact lt_min h Nat.one_pos

/-- The SYN is acknowledged, and perhaps more: the handshake is over. -/
structure Opens (s : TcpSock) (ack : Seq) (c : TcpSock) : Prop extends
    SameView { s with snd := ackedSend s.snd ack } c where
  takes : TakesAck s ack
  uncounted : Uncounted s c
  cong : c.cong = s.cong
  state : c.core.state = .established
  closeSend : c.core.closeSend = s.core.closeSend

lemma opens_of_takes (h : TakesAck s ack) : Opens s ack (tcpUpdateRetransmitQueue { s with
    core.state := .established
    snd.sndUna := ack
    win.lastAck := ack
    win.lastAckRepeat := 0 }) := by
  obtain ⟨rep, re, t, no, he, hd, hr⟩ := tcpUpdateRetransmitQueue_frame { s with
    core.state := .established
    snd.sndUna := ack
    win.lastAck := ack
    win.lastAckRepeat := 0 }
  rw [he]
  refine ⟨⟨?_, .inl rfl⟩, h, ⟨.inr (hd.elim id id), id⟩, rfl, rfl, rfl⟩
  simp only [TcpSock.view, ackedSend]
  rw [hr.1, hr.2]

def renewed (s : TcpSock) (ack : Seq) (v : ℕ) : TcpSock :=
  { s with
    snd := ackedSend s.snd ack
    nego.tsLastTsecr := v
    retry.rttMeasTime := 0 }

lemma rttSample_frame (s : TcpSock) : ∃ re, rttSample s =
      { s with nego.tsLastTsecr := if tsEcho s.nego then 0 else s.nego.tsLastTsecr, retry := re } ∧
    re.rttMeasTime = 0 ∧ re.rttMeasSeq = s.retry.rttMeasSeq := by
  refine ⟨sampleRtt s.retry (measuredRtt s), rfl, ?_⟩
  rw [sampleRtt]
  split
  · exact ⟨rfl, rfl⟩
  · split <;> exact ⟨rfl, rfl⟩

lemma acknowledge_view (s : TcpSock) (h : TcpHdr) :
    ∃ v, SameView (renewed s h.ackSeq v) (acknowledge s h) ∧ Uncounted s (acknowledge s h) ∧
      (acknowledge s h).core = s.core := by
  obtain ⟨rep, re, t, no, he, -, hq⟩ := tcpUpdateRetransmitQueue_frame { s with snd.sndUna := h.ackSeq }
  obtain ⟨s₁, hs₁⟩ : ∃ s₁ : TcpSock, s₁ = { s with
      snd := ackedSend s.snd h.ackSeq
      win.lastAck := h.ackSeq
      win.lastAckRepeat := 0
      retry := re
      tm := t
      env.notified := no } := ⟨_, rfl⟩
  have ha : acknowledge s h = noteWindow (rttSample s₁) h := by
    rw [acknowledge, he, hs₁]
    rfl
  have hb := noteWindow_beside (rttSample s₁) h
  obtain ⟨re', hs, htime, hseq⟩ := rttSample_frame s₁
  obtain ⟨hl, -, hc, -⟩ := acknowledge_spec s h
  rw [← ha] at hb
  have hv : SameView (renewed s h.ackSeq (if tsEcho s.nego then 0 else s.nego.tsLastTsecr)) (rttSample s₁) := by
    rw [hs₁] at hseq
    rw [hs, hs₁]
    refine ⟨?_, .inl rfl⟩
    simp only [TcpSock.view, renewed]
    rw [htime, hseq, hq.2]
  refine ⟨_, hv.trans hb.toSameView, ⟨.inr ?_, fun hr => by rw [← hc]; exact hr⟩, hl.core⟩
  rcases hb.repeats with hr | hr
  · rw [hr, hs, hs₁]
  · exact hr

lemma ackNewData_moves (s : TcpSock) (h : TcpHdr) : Moves (acknowledge s h) (ackNewData s h) := by
  obtain ⟨n, b, he⟩ := ackNewData_cases s h
  obtain ⟨c, t, hc, hca, hre⟩ := tcpCongestionOnAck_spec (acknowledge s h) n b
  have hkeep : CaKeeps (acknowledge s h).cong c := hca.imp_right fun hc => ⟨hc.1, hc.2.1⟩
  have ha : Moves (acknowledge s h) { acknowledge s h with cong := c, tm := t } :=
    Beside.moves ⟨⟨rfl, .inl rfl⟩, .inl rfl, .inl hkeep, .refl _⟩
  rw [hc] at he
  rcases he with he | ⟨hr, he⟩ <;> rw [he]
  · exact ha
  · exact ha.trans (tcpRetransmitNow_moves (hre hr))

/-- The acknowledgment is a repetition: it may start a recovery if something is in flight. -/
structure Repeats (s c : TcpSock) : Prop extends SameView s c where
  core : c.core = s.core
  cong : c.cong.caState = s.cong.caState ∧ c.cong.caRecoverySeq = s.cong.caRecoverySeq ∨
    gt s.snd.sndNxt s.snd.sndUna = true ∧ c.cong.caRecoverySeq = s.snd.sndNxt

lemma ackDuplicate_moves (s : TcpSock) (g : Segment) : ∃ c, Repeats s c ∧ Moves c (ackDuplicate s g) := by
  have hn := noteWindow_beside s g.hdr
  obtain ⟨s₁, hs₁, hl, -, -, hca, he⟩ := ackDuplicate_spec s g
  have hv : SameView s s₁ := by
    obtain ⟨l, n, c, t, rfl⟩ := hs₁
    exact ⟨hn.view, hn.wnd⟩
  refine ⟨s₁, ⟨hv, hl.core, hca⟩, ?_⟩
  rcases he with he | ⟨hne, he⟩
  · rw [he]
  · rw [he]
    exact tcpRetransmitNow_moves hne

def MovesOrOpens (s : TcpSock) (ack : Seq) (s' : TcpSock) : Prop :=
  Moves s s' ∨ s.core.state.opening = true ∧ ∃ c, Opens s ack c ∧ Moves c s'

lemma MovesOrOpens.trans {b : TcpSock} (h : MovesOrOpens a ack b) (h' : Moves b c) : MovesOrOpens a ack c := by
  rcases h with h | ⟨ho, d, hd, h⟩
  · exact .inl (h.trans h')
  · exact .inr ⟨ho, d, hd, h.trans h'⟩

lemma ackSynReceived_moves {h : TcpHdr} (hr : ackInRange s h.ackSeq = true) (hs : s.core.state = .synReceived) :
    MovesOrOpens s h.ackSeq (ackSynReceived s h).1 := by
  rw [ackSynReceived]
  split
  · next hl =>
    rw [Bool.and_eq_true] at hl
    have hw (t : TcpSock) : Beside t (restartKeepalive (takeWindow t h)) :=
      (announced_beside t h h.seq h.ackSeq).trans (restartKeepalive_beside _)
    refine .inr ⟨by rw [hs]; rfl, _, opens_of_takes (.inr ⟨hl.1, hr⟩), ?_⟩
    exact (hw _).moves.tail (.beside (.of_same rfl rfl rfl ⟨rfl, rfl⟩))
  split
  · exact .inl (tcpSendFlag_moves s _ _ ⟨rfl, rfl⟩)
  · exact .inl .refl

def takesAcks : TcpState → Bool
  | .established | .finWait1 | .finWait2 | .closeWait | .closing | .lastAck => true
  | _ => false

lemma inputAck_takes (h : takesAcks s.core.state = true) : inputAck s g =
    if lt s.snd.sndUna g.hdr.ackSeq then ackOwnFin (ackNewData s g.hdr) else (ackDuplicate s g, false) := by
  cases hs : s.core.state <;> rw [hs] at h <;> simp only [inputAck, hs]
  all_goals cases h

lemma inputAck_moves (hr : ackInRange s g.hdr.ackSeq = true) (h : takesAcks s.core.state = false) :
    MovesOrOpens s g.hdr.ackSeq (inputAck s g).1 := by
  cases hs : s.core.state <;> rw [hs] at h <;> simp only [inputAck, hs]
  case synReceived => exact ackSynReceived_moves hr hs
  all_goals first
    | exact .inl .refl
    | cases h

def takesUp (s : TcpSock) (g : Segment) : Bool :=
  takesAcks s.core.state && (segAllow s.rcv g.hdr.seq g.segLen || timeWaitFin s g) && !g.hdr.flags.rst &&
    !g.hdr.flags.syn && g.hdr.flags.ack && ackInRange s g.hdr.ackSeq

lemma takesUp_iff : takesUp s g = true ↔ takesAcks s.core.state = true ∧
    (segAllow s.rcv g.hdr.seq g.segLen || timeWaitFin s g) = true ∧ g.hdr.flags.rst = false ∧ g.hdr.flags.syn = false ∧
    g.hdr.flags.ack = true ∧ ackInRange s g.hdr.ackSeq = true := by
  simp only [takesUp, Bool.and_eq_true, Bool.not_eq_true', and_assoc]

lemma afterAck_beside (s : TcpSock) (b : Bool) (g : Segment) : Beside s (if b then s else inputFin (inputText s g) g) := by
  split
  · exact .refl s
  · exact (inputText_beside s g).trans (inputFin_beside _ g)

lemma renewed_moves {h : TcpHdr} (hb : Beside (ackOwnFin (ackNewData s h)).1 s') : Moves (acknowledge s h) s' :=
  ((ackNewData_moves s h).tail (.beside (ackOwnFin_beside _))).tail (.beside hb)

lemma inputSynchronized_takes (h : takesUp s g = true) :
    (lt s.snd.sndUna g.hdr.ackSeq = true ∧ Beside (ackOwnFin (ackNewData s g.hdr)).1 (inputSynchronized s g)) ∨
      (lt s.snd.sndUna g.hdr.ackSeq = false ∧ Moves (ackDuplicate s g) (inputSynchronized s g)) := by
  obtain ⟨hst, hseq, hrst, hsyn, hack, hr⟩ := takesUp_iff.mp h
  have he : inputSynchronized s g = if (inputAck s g).2 then (inputAck s g).1
      else inputFin (inputText (inputAck s g).1 g) g := by
    simp only [inputSynchronized, hseq, hrst, hsyn, hack, hr, Bool.not_true, Bool.false_and, Bool.false_eq_true, if_false]
    split
    · next s₁ hx => rw [hx, if_pos rfl]
    · next s₁ hx => rw [hx, if_neg (by simp)]
  have hafter := afterAck_beside (inputAck s g).1 (inputAck s g).2 g
  rw [← he, inputAck_takes hst] at hafter
  cases hl : lt s.snd.sndUna g.hdr.ackSeq with
  | true =>
    rw [hl, if_pos rfl] at hafter
    exact .inl ⟨rfl, hafter⟩
  | false =>
    rw [hl, if_neg (by simp)] at hafter
    exact .inr ⟨rfl, hafter.moves⟩

lemma inputSynchronized_moves (h : takesUp s g = false) : MovesOrOpens s g.hdr.ackSeq (inputSynchronized s g) := by
  rcases inputSynchronized_cases s g with he | he | he | he | ⟨⟨hseq, hrst, hsyn, hack, hr⟩, he⟩ <;> rw [he]
  · exact .inl (OnlyTimers.beside ⟨_, rfl⟩).moves
  · exact .inl (inputRst_beside s).moves
  · exact .inl (inputSyn_beside s).moves
  · exact .inl .refl
  · have hst : takesAcks s.core.state = false := by
      refine Bool.eq_false_of_not_eq_true fun hst => ?_
      rw [takesUp_iff.mpr ⟨hst, hseq, hrst, hsyn, hack, hr⟩] at h
      cases h
    exact (inputAck_moves hr hst).trans (afterAck_beside (inputAck s g).1 (inputAck s g).2 g).moves

inductive Taken (s c : TcpSock) : Prop
  | same (h : SameView s c)
  | acked (ack : Seq) (v t : ℕ)
      (h : SameView { s with snd := ackedSend s.snd ack, nego.tsLastTsecr := v, retry.rttMeasTime := t } c)

lemma Opens.taken (h : Opens s ack c) : Taken s c :=
  .acked ack s.nego.tsLastTsecr s.retry.rttMeasTime h.toSameView

lemma MovesOrOpens.taken (h : MovesOrOpens s ack s') : ∃ c, Taken s c ∧ Moves c s' := by
  rcases h with h | ⟨-, c, hc, h⟩
  · exact ⟨s, .same (.refl s), h⟩
  · exact ⟨c, hc.taken, h⟩

lemma acknowledge_taken (s : TcpSock) (h : TcpHdr) : Taken s (acknowledge s h) := by
  obtain ⟨v, hv, -⟩ := acknowledge_view s h
  exact .acked h.ackSeq v 0 hv

lemma inputSynchronized_view (s : TcpSock) (g : Segment) : ∃ c, Taken s c ∧ Moves c (inputSynchronized s g) := by
  cases h : takesUp s g with
  | false => exact (inputSynchronized_moves h).taken
  | true =>
    rcases inputSynchronized_takes h with ⟨-, hb⟩ | ⟨-, hm⟩
    · exact ⟨_, acknowledge_taken s g.hdr, renewed_moves hb⟩
    · obtain ⟨c, hc, hd⟩ := ackDuplicate_moves s g
      exact ⟨c, .same hc.toSameView, hd.trans hm⟩

lemma synSentEstablish_moves (h : TakesAck s ack) : ∃ c, Opens s ack c ∧ Moves c (synSentEstablish s ack) := by
  have hk (t : TcpSock) : Beside t (((restartKeepalive t).notify .dataWrite).ackNow) :=
    (restartKeepalive_beside t).trans (.of_same rfl rfl rfl ⟨rfl, rfl⟩)
  exact ⟨_, opens_of_takes h, (hk _).moves⟩

def ackHead : List SkBuff → List SkBuff
  | [] => []
  | b :: bs => { b with flag.ack := true } :: bs

def answered (s : TcpSock) : TcpSock :=
  { s with
    core.state := .synReceived
    snd.retransmitQueue := ackHead s.snd.retransmitQueue
    env.faults := if s.snd.retransmitQueue = [] then s.env.faults ++ [.nullSkb] else s.env.faults }

lemma synSentSyn_moves {h : TcpHdr} (ht : h.flags.ack = true → TakesAck s h.ackSeq) :
    (∃ c, Opens s h.ackSeq c ∧ Moves c (synSentSyn s h)) ∨
      (h.flags.ack = false ∧ Moves (answered s) (synSentSyn s h)) := by
  have hwin (t : TcpSock) := announced_beside t h h.seq h.ackSeq
  simp only [synSentSyn]
  cases ha : h.flags.ack with
  | true =>
    obtain ⟨c, hc, hm⟩ := synSentEstablish_moves (s := { s with rcv.rcvNxt := h.seq + 1 }) (ht ha)
    refine .inl ⟨c, ⟨⟨hc.view, hc.wnd⟩, hc.takes, ⟨hc.uncounted.repeats, hc.uncounted.recovery⟩, hc.cong, hc.state, hc.closeSend⟩, ?_⟩
    exact hm.tail (.beside (hwin _))
  | false =>
    simp only [Bool.false_eq_true, if_false]
    refine .inr ⟨trivial, .trans ?_ (hwin _).moves⟩
    rw [synSentSimultaneous]
    cases hq : s.snd.retransmitQueue with
    | nil =>
      have hsnd : (answered s).snd = s.snd := by
        change { s.snd with retransmitQueue := ackHead s.snd.retransmitQueue } = s.snd
        rw [hq, ackHead, ← hq]
      exact Beside.moves (.of_fields rfl rfl hsnd.symm rfl (.inl rfl) ⟨rfl, rfl⟩ rfl rfl rfl (if_pos hq).symm (.inl rfl)
        (.of_eq rfl) (.refl _))
    | cons b bs =>
      have hsnd : (answered s).snd = { s.snd with retransmitQueue := { b with flag.ack := true } :: bs } := by
        rw [answered, hq, ackHead]
      exact Beside.moves (.of_fields rfl rfl hsnd.symm rfl (.inl rfl) ⟨rfl, rfl⟩ rfl rfl rfl
        (if_neg (by rw [hq]; simp)).symm (.inl rfl) (.of_eq rfl) (.refl _))

def Reads (s : TcpSock) (g : Segment) (t : TcpSock) : Prop :=
  t = s ∨ g.hdr.flags.rst = true ∧ Beside s t ∧ t.cong = s.cong ∧ t.core.state = .closed

inductive Arrival (s : TcpSock) (g : Segment) (s' : TcpSock) : Prop
  | unread (h : Moves s s')
  | read {t : TcpSock} (ht : Reads s g t) (h : Moves (parseTcpOptions t g.hdr).1 s')
  | opened {t : TcpSock} (hs : s.core.state.opening = true) (ht : Reads s g t) {c : TcpSock}
      (hc : Opens (parseTcpOptions t g.hdr).1 g.hdr.ackSeq c) (h : Moves c s')
  | crossed {t : TcpSock} (hs : s.core.state = .synSent) (ht : Reads s g t)
      (h : Moves (answered (parseTcpOptions t g.hdr).1) s')
  | renewed (hp : (parseTcpOptions s g.hdr).2 = true) (ht : takesUp (parseTcpOptions s g.hdr).1 g = true)
      (hl : lt (parseTcpOptions s g.hdr).1.snd.sndUna g.hdr.ackSeq = true)
      (h : Beside (ackOwnFin (ackNewData (parseTcpOptions s g.hdr).1 g.hdr)).1 s')
  | repeated (hp : (parseTcpOptions s g.hdr).2 = true) (ht : takesUp (parseTcpOptions s g.hdr).1 g = true) {c : TcpSock}
      (hc : Repeats (parseTcpOptions s g.hdr).1 c) (h : Moves c s')

lemma Arrival.plain (h : Arrival s g s') : Moves s s' ∨
    (∃ t c, Reads s g t ∧ Taken (parseTcpOptions t g.hdr).1 c ∧ Moves c s') ∨
    ∃ t, Reads s g t ∧ Moves (answered (parseTcpOptions t g.hdr).1) s' := by
  cases h with
  | unread h => exact .inl h
  | @read t ht h => exact .inr (.inl ⟨t, _, ht, .same (.refl _), h⟩)
  | @opened t _ ht c hc h => exact .inr (.inl ⟨t, c, ht, hc.taken, h⟩)
  | @crossed t _ ht h => exact .inr (.inr ⟨t, ht, h⟩)
  | renewed _ _ _ hb => exact .inr (.inl ⟨s, _, .inl rfl, acknowledge_taken _ g.hdr, renewed_moves hb⟩)
  | @repeated _ _ c hc h => exact .inr (.inl ⟨s, c, .inl rfl, .same hc.toSameView, h⟩)

lemma Reads.snd {t : TcpSock} (h : Reads s g t) : t.snd = s.snd := by
  rcases h with rfl | ⟨-, hb, -⟩
  · rfl
  · exact hb.snd

lemma tcpProcessSynSent_arrival (hs : s.core.state = .synSent) (g : Segment) :
    Arrival s g (tcpProcessSynSent s g.hdr) := by
  have ho : s.core.state.opening = true := by rw [hs]; rfl
  rcases tcpProcessSynSent_cases s g.hdr with ⟨-, he | ⟨-, he⟩⟩ | ⟨hack, t, ht, he⟩
  · rw [he]
    exact .unread .refl
  · rw [he]
    exact .unread (tcpSendFlag_moves s _ _ ⟨rfl, rfl⟩)
  have hb : Beside s t := by
    rcases ht with ⟨rfl, -⟩ | ⟨-, -, fr, no, rfl⟩
    · exact .refl t
    · exact .of_core rfl rfl rfl (.of_state (.ended _) rfl)
  have ht : Reads s g t := by
    rcases ht with ⟨rfl, -⟩ | ⟨hr, -, fr, no, rfl⟩
    · exact .inl rfl
    · exact .inr ⟨hr, hb, rfl, rfl⟩
  obtain ⟨c, hp, -⟩ := parseTcpOptions_frame t g.hdr
  have hsnd : (parseTcpOptions t g.hdr).1.snd = s.snd := by
    rw [hp]
    exact ht.snd
  rcases he with he | ⟨-, he⟩ | ⟨-, he⟩ <;> rw [he]
  · exact .unread (hb.moves.tail (.faulted t trivial))
  · exact .read ht .refl
  · have hm := synSentSyn_moves (s := (parseTcpOptions t g.hdr).1) (h := g.hdr) fun ha => by
      rw [TakesAck, hsnd]
      exact .inl (hack ha)
    rcases hm with ⟨d, hd, hm⟩ | ⟨-, hm⟩
    · exact .opened ho ht hd hm
    · exact .crossed hs ht hm

section

variable (s)

lemma tcpInput_arrival (g : Segment) : Arrival s g (tcpInput s g) := by
  rcases tcpInput_cases s g with ⟨hs, he⟩ | ⟨-, he | ⟨seq, ack, fl, hsyn, hfin, he⟩⟩ | ⟨-, ⟨-, he⟩ | ⟨hok, he⟩⟩ <;> rw [he]
  · exact tcpProcessSynSent_arrival hs g
  · exact .unread .refl
  · exact .unread (tcpSendFlag_moves s _ _ ⟨hsyn, hfin⟩)
  · exact .read (.inl rfl) .refl
  obtain ⟨n, hf, -⟩ := parseTcpOptions_frame s g.hdr
  have hcore : (parseTcpOptions s g.hdr).1.core = s.core := by rw [hf]
  cases ht : takesUp (parseTcpOptions s g.hdr).1 g with
  | false =>
    rcases inputSynchronized_moves ht with hm | ⟨ho, c, hc, hm⟩
    · exact .read (.inl rfl) hm
    · exact .opened (by rw [← hcore]; exact ho) (.inl rfl) hc hm
  | true =>
    rcases inputSynchronized_takes ht with ⟨hl, hb⟩ | ⟨-, hm⟩
    · exact .renewed hok ht hl hb
    · obtain ⟨c, hc, hd⟩ := ackDuplicate_moves (parseTcpOptions s g.hdr).1 g
      exact .repeated hok ht hc (hd.trans hm)

lemma abortTimeout_moves (h : s.retry.SameRtt re) : Moves s (abortTimeout { s with retry := re }) :=
  (destroyed_beside h).moves

lemma retransmitTimeout_moves : Moves s (retransmitTimeout s) := by
  simp only [retransmitTimeout]
  split
  · exact .refl
  next hq =>
  split
  · split
    · exact abortTimeout_moves s ⟨rfl, rfl⟩
    · refine Relation.ReflTransGen.head (.beside ?_) (retransmitHead_moves (fun h => ?_) false)
      · exact .of_same rfl rfl rfl ⟨rfl, rfl⟩
      · exact absurd h hq
  · next hst =>
    split
    · exact abortTimeout_moves s ⟨rfl, rfl⟩
    · obtain ⟨c, t, hc, hloss, hca⟩ := tcpCongestionOnTimeout_spec { s with retry.retriesOut := s.retry.retriesOut + 1 }
      rw [hc]
      refine Relation.ReflTransGen.head (.beside ?_) (retransmitHead_moves (fun h => ?_) false)
      · exact ⟨⟨rfl, .inl rfl⟩, .inl rfl, .inr ⟨hq, opening_eq_false (not_or.mp hst), hloss, hca⟩, .refl _⟩
      · exact absurd h hq

lemma persistTimeout_moves : Moves s (persistTimeout s) := by
  simp only [persistTimeout]
  split
  · next hcond =>
    split
    · exact abortTimeout_moves s ⟨rfl, rfl⟩
    · refine Relation.ReflTransGen.head (.beside ?_) (tcpSendProbe_moves hcond.2)
      exact .of_same rfl rfl rfl ⟨rfl, rfl⟩
  · exact .refl

lemma keepaliveTimeout_moves : Moves s (keepaliveTimeout s) := by
  simp only [keepaliveTimeout]
  split
  · exact Beside.moves (.of_same rfl rfl rfl ⟨rfl, rfl⟩)
  split
  · exact abortTimeout_moves s ⟨rfl, rfl⟩
  · refine Relation.ReflTransGen.head (.beside ?_) (tcpSendFlag_moves _ _ _ ⟨rfl, rfl⟩)
    exact .of_same rfl rfl rfl ⟨rfl, rfl⟩

lemma clearDeadline_moves (d : Deadline) (h : Moves (s.clearDeadline d) s') : Moves s s' :=
  .head (.beside (OnlyTimers.beside ⟨_, rfl⟩)) h

lemma tcpTimerCb_moves : Moves s (tcpTimerCb s) := by
  simp only [tcpTimerCb]
  split
  · refine clearDeadline_moves s .nagle ?_
    split
    · exact .refl
    · exact tcpWriteXmit_moves _ true
  split
  · exact clearDeadline_moves s .retransmit (retransmitTimeout_moves _)
  split
  · exact clearDeadline_moves s .ack (tcpSendFlag_moves _ _ _ ⟨rfl, rfl⟩)
  split
  · exact clearDeadline_moves s .persist (persistTimeout_moves _)
  split
  · exact clearDeadline_moves s .timewait (destroyTcpSocket_beside _).moves
  split
  · refine clearDeadline_moves s .finwait2 ?_
    split
    · exact (destroyTcpSocket_beside _).moves
    · exact .refl
  split
  · exact clearDeadline_moves s .keepalive (keepaliveTimeout_moves _)
  · exact .refl

end

lemma writeLoop_wrote {room : ℕ} (hroom : 120 ≤ room) (k : ℕ) (bs : List UInt8) (n : ℕ) (f : Fates) (h : 0 < tcpDataMss s.nego)
    (ho : s.core.closeSend = false) (hm : s.snd.sendBufferLen + bs.length ≤ s.snd.sendBufferLenMax) :
    Relation.ReflTransGen Wrote s { s with snd := (writeLoop (tcpDataMss s.nego) room k bs s.snd n f).1 } := by
  induction k generalizing s bs n f with
  | zero => exact .refl
  | succ k ih =>
    cases bs with
    | nil => exact .refl
    | cons b bs =>
      have hne : (b :: bs).take (tcpDataMss s.nego) ≠ [] := by simp [h.ne']
      have hsum : ((b :: bs).take (tcpDataMss s.nego)).length + ((b :: bs).drop (tcpDataMss s.nego)).length =
          (b :: bs).length := by
        rw [← List.length_append, List.take_append_drop]
      have hw := Wrote.chunk s ho hne (List.length_take_le _ _) (by omega) room f hroom
      obtain ⟨q₁, e, m, hq, hle⟩ := writeChunk_frame s.snd room f (List.length_take_le (tcpDataMss s.nego) (b :: bs))
      simp only [writeLoop]
      split
      · next q f' he =>
        rw [he] at hw
        exact .single hw
      · next q f' he =>
        rw [he] at hw hq
        refine .head hw (ih (s := { s with snd := q }) _ _ _ h ho ?_)
        dsimp only at hq ⊢
        rw [hq]
        dsimp only
        omega

lemma writeQueued_moves (s : TcpSock) (segLimit n : ℕ) : Moves s (writeQueued s segLimit n).1 := by
  rw [writeQueued]
  split
  · exact .refl
  split
  · exact tcpWriteXmit_moves _ false
  · exact (OnlyTimers.beside ⟨_, rfl⟩).moves

lemma writeOnRoute_writes (buf : List UInt8) (ho : s.core.closeSend = false)
    (hm : s.snd.sendBufferLen ≤ s.snd.sendBufferLenMax) : Writes s (writeOnRoute s buf).1 := by
  have hroute := setTcpSocketRoute_route s
  have hkeep := setTcpSocketRoute_keeps s
  rcases writeOnRoute_cases s buf with hw | ⟨r, hr, hw⟩
  · rw [hw]
    exact .idle (setTcpSocketRoute_moves s)
  have he : setTcpSocketRoute s = ((setTcpSocketRoute s).1, true) := by
    rw [hr] at hroute
    exact Prod.ext rfl hroute
  rw [hw]
  generalize (setTcpSocketRoute s).1 = s₁ at he hkeep
  simp only [writeBytes]
  split
  · exact .queued he .refl (Move.faulted (f := .endlessLoop) s₁ trivial).one
  next hpos =>
  split
  · exact .queued he .refl (Move.faulted (f := .heapOverflow) s₁ trivial).one
  have hfit : s₁.snd.sendBufferLen + (buf.take (s₁.snd.sendBufferLenMax - s₁.snd.sendBufferLen)).length ≤
      s₁.snd.sendBufferLenMax := by
    rw [List.length_take, hkeep.snd]
    omega
  have hw := writeLoop_wrote (s := s₁) (headerRoom_ge s₁ r)
    (buf.take (s₁.snd.sendBufferLenMax - s₁.snd.sendBufferLen)).length
    (buf.take (s₁.snd.sendBufferLenMax - s₁.snd.sendBufferLen)) 0 s₁.env.fates (Nat.pos_of_ne_zero hpos)
    (by rw [hkeep.core]; exact ho) hfit
  have hb (t : TcpSock) (f : Fates) : Moves t { t with env.fates := f } :=
    Beside.moves (.of_same rfl rfl rfl ⟨rfl, rfl⟩)
  refine .queued he hw ((hb _ (writeLoop (tcpDataMss s₁.nego) (headerRoom s₁ r)
    (buf.take (s₁.snd.sendBufferLenMax - s₁.snd.sendBufferLen)).length
    (buf.take (s₁.snd.sendBufferLenMax - s₁.snd.sendBufferLen)) s₁.snd 0 s₁.env.fates).2.2).trans (writeQueued_moves _ _ _))

lemma tcpWrite_writes (s : TcpSock) (buf : List UInt8) (expired : Bool) : Writes s (tcpWrite s buf expired).1 := by
  rcases tcpWrite_cases s buf expired with ⟨er, o, he, -⟩ | ⟨ho, -, hroom, he⟩ <;> rw [he]
  · exact .idle (Beside.moves (.of_same rfl rfl rfl ⟨rfl, rfl⟩))
  · exact writeOnRoute_writes buf ho hroom.le

lemma shutdownSend_moves (hs : s.core.state.opening = false) : Moves s (shutdownSend s) := by
  have hshut (f : Fates) : Moves s { s with core.closeSend := true, env.fates := f } :=
    Beside.moves (.of_core rfl rfl rfl ⟨.same _, fun h => by cases h⟩)
  rw [shutdownSend]
  split
  · exact .refl
  next ho =>
  rw [Bool.not_eq_true] at ho
  rw [tcpSendFin]
  split
  · next last hl => exact (Move.finLast s ho hs hl).one.tail (.beside (OnlyTimers.beside ⟨_, rfl⟩))
  next hn =>
  have hnil : s.snd.sendQueue = [] := List.getLast?_eq_none_iff.mp hn
  split
  · next hr => exact (hshut s.env.fates).tail (.faulted (f := .nullRoute) _ hr)
  next r _ =>
  split
  · next f _ => exact hshut f
  · exact (Move.finAlone s ho hs hnil _ (headerRoom_ge _ r)).one.tail (.beside (.of_same rfl rfl rfl ⟨rfl, rfl⟩))

lemma tcpShutdown_moves (s : TcpSock) (how : How) : Moves s (tcpShutdown s how).1 := by
  simp only [tcpShutdown]
  split
  · exact .refl
  next hst =>
  have hs : s.core.state.opening = false := by
    refine opening_eq_false ⟨fun he => ?_, fun he => ?_⟩ <;> simp [he] at hst
  obtain ⟨c, no, he⟩ := shutdownRecv_frame s how
  have hb : Moves s { s with core.closeRecv := c, env.notified := no } :=
    Beside.moves (.of_same rfl rfl rfl ⟨rfl, rfl⟩)
  rw [he]
  split
  · exact hb.trans (shutdownSend_moves hs)
  · exact hb

lemma closeFd_moves (s : TcpSock) : Moves s (closeFd s).1 := by
  have hfd : Moves s { s with core.fdEntry := false } :=
    Beside.moves (.of_same rfl rfl rfl ⟨rfl, rfl⟩)
  have hr (t : TcpSock) : Moves t (releaseState t) := by
    rw [releaseState]
    split
    all_goals first
      | exact (destroyTcpSocket_beside t).moves
      | next hs => exact shutdownSend_moves (by rw [hs]; rfl)
      | exact Beside.moves (.of_same rfl rfl rfl ⟨rfl, rfl⟩)
  simp only [closeFd, tcpRelease]
  split
  · split
    · exact (hfd.trans (tcpSendFlag_moves _ _ _ ⟨rfl, rfl⟩)).tail (.beside (destroyTcpSocket_beside _))
    · exact hfd.tail (.beside (destroyTcpSocket_beside _))
  split
  · split
    · exact hfd.trans (hr _)
    · exact hfd.trans (hr _)
  · exact hfd.trans (hr _)

lemma tcpSetsockopt_moves (s : TcpSock) (o : SockOpt) : Moves s (tcpSetsockopt s o) := by
  cases o with
  | rcvbuf v hv =>
    simp only [tcpSetsockopt, setRcvbuf]
    split <;> exact Beside.moves (.of_same rfl rfl rfl ⟨rfl, rfl⟩)
  | sndbuf v hv => exact (Move.resized s hv).one
  | _ => exact Beside.moves (.of_same rfl rfl rfl ⟨rfl, rfl⟩)

def Action.segment? : Action → Option Segment
  | .input g => some g
  | _ => none

lemma Action.eq_input {a : Action} (h : a.segment? = some g) : a = .input g := by
  cases a with
  | input g' => rw [Option.some.inj h]
  | _ => cases h

lemma act_moves (s : TcpSock) {a : Action} (h : a.segment? = none) (hw : ∀ buf expired, a ≠ .write buf expired) :
    Moves s (act s a) := by
  cases a with
  | input g => cases h
  | timer => exact .head (.beside (OnlyTimers.beside ⟨_, rfl⟩)) (tcpTimerCb_moves _)
  | accept => exact Beside.moves (.of_same rfl rfl rfl ⟨rfl, rfl⟩)
  | write buf expired => exact absurd rfl (hw buf expired)
  | read len expired => exact (tcpRead_beside s len expired).moves
  | shutdown how => exact tcpShutdown_moves s how
  | setsockopt o => exact tcpSetsockopt_moves s o
  | close => exact closeFd_moves s
  | icmp quoted err => exact (tcpIcmpProcess_beside s quoted err).moves

theorem act_writes (s : TcpSock) {a : Action} (h : a.segment? = none) : Writes s (act s a) := by
  cases a with
  | write buf expired => exact tcpWrite_writes s buf expired
  | _ => exact .idle (act_moves s h nofun)

end Netfast.Tcp
