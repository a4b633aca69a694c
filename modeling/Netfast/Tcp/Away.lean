import Netfast.Tcp.Mss
import Netfast.Tcp.Xmit

/-! What transmission, the timers and the calls of the application leave alone: the receive side, the count of FINs
taken, and what has been acknowledged. The state changes when the own FIN leaves, or the connection ends. -/

namespace Netfast.Tcp

open Skbuff

def finsTaken (s : TcpSock) : ℕ := s.env.notified.count .recvFin

lemma finsTaken_notify (s : TcpSock) {n : Notify} (h : n ≠ .recvFin) : finsTaken (s.notify n) = finsTaken s := by
  have hz : [n].count .recvFin = 0 := List.count_eq_zero_of_not_mem (by simpa using h.symm)
  rw [finsTaken, List.count_append, hz, Nat.add_zero]
  rfl

def TcpState.finSent : TcpState → TcpState
  | .synReceived | .established => .finWait1
  | .closeWait => .lastAck
  | st => st

lemma tcpCommitFinSend_state (s : TcpSock) : (tcpCommitFinSend s).core.state = s.core.state.finSent := by
  rw [tcpCommitFinSend]
  split
  · next h => rw [h]; rfl
  · next h => rw [h]; rfl
  · next h => rw [h]; rfl
  · next h₁ h₂ h₃ =>
    cases hs : s.core.state with
    | synReceived => exact absurd hs h₁
    | established => exact absurd hs h₂
    | closeWait => exact absurd hs h₃
    | _ => rfl

def Leads (ends : Prop) (st st' : TcpState) : Prop := st' = st ∨ st' = st.finSent ∨ ends ∧ st' = .closed

namespace Leads

variable {ends : Prop} {a b c : TcpState}

lemma trans (h : Leads ends a b) (h' : Leads ends b c) : Leads ends a c := by
  rcases h with rfl | rfl | ⟨he, rfl⟩
  · exact h'
  · rcases h' with rfl | rfl | hc
    · exact .inr (.inl rfl)
    · exact .inr (.inl (by cases a <;> rfl))
    · exact .inr (.inr hc)
  · rcases h' with rfl | rfl | hc
    · exact .inr (.inr ⟨he, rfl⟩)
    · exact .inr (.inr ⟨he, rfl⟩)
    · exact .inr (.inr hc)

lemma closed (h : Leads ends a b) (ha : a = .closed) : b = .closed := by
  subst ha
  rcases h with rfl | rfl | ⟨-, rfl⟩ <;> rfl

lemma alive (h : Leads False a b) (ha : a ≠ .closed) : b ≠ .closed := by
  rcases h with rfl | rfl | ⟨hf, -⟩
  · exact ha
  · cases a with
    | closed => exact absurd rfl ha
    | _ => simp [TcpState.finSent]
  · exact hf.elim

lemma restarts (h : Leads ends a b) (ha : restartsOnMss a = false) : restartsOnMss b = false ∨ b = .closed := by
  rcases h with rfl | rfl | ⟨-, rfl⟩
  · exact .inl ha
  · left
    cases a with
    | synReceived | synSent | closed => cases ha
    | _ => rfl
  · exact .inr rfl

end Leads

structure Away (ends : Prop) (s s' : TcpSock) : Prop where
  rcv : s'.rcv = s.rcv
  recvFin : s'.core.recvFin = s.core.recvFin
  fins : finsTaken s' = finsTaken s
  una : s'.snd.sndUna = s.snd.sndUna
  state : Leads ends s.core.state s'.core.state

structure Spares (ends : Prop) (s s' : TcpSock) : Prop extends Away ends s s' where
  out : s'.retry.retriesOut = s.retry.retriesOut
  cong : restartsOnMss s.core.state = false → s'.cong = s.cong

def sides (s : TcpSock) : RecvState × Bool × ℕ × Seq × TcpState :=
  (s.rcv, s.core.recvFin, finsTaken s, s.snd.sndUna, s.core.state)

variable {ends : Prop} {s s' s₁ : TcpSock}

namespace Away

lemma of_sides (h : sides s' = sides s) : Away ends s s' := by
  simp only [sides, Prod.mk.injEq] at h
  obtain ⟨hr, hf, hn, hu, hst⟩ := h
  exact ⟨hr, hf, hn, hu, .inl hst⟩

lemma refl (s : TcpSock) : Away ends s s := .of_sides rfl

lemma trans {a b c : TcpSock} (h : Away ends a b) (h' : Away ends b c) : Away ends a c :=
  ⟨h'.rcv.trans h.rcv, h'.recvFin.trans h.recvFin, h'.fins.trans h.fins, h'.una.trans h.una, h.state.trans h'.state⟩

lemma after (h : Away ends s₁ s') (hv : sides s₁ = sides s) : Away ends s s' := .trans (.of_sides hv) h

end Away

namespace Spares

lemma of_sides (h : sides s' = sides s) (ho : s'.retry.retriesOut = s.retry.retriesOut) (hc : s'.cong = s.cong) :
    Spares ends s s' :=
  ⟨.of_sides h, ho, fun _ => hc⟩

lemma refl (s : TcpSock) : Spares ends s s := .of_sides rfl rfl rfl

lemma trans {a b c : TcpSock} (h : Spares False a b) (h' : Spares ends b c) : Spares ends a c := by
  have hab : Leads ends a.core.state b.core.state :=
    h.state.imp_right (Or.imp_right fun hf => hf.1.elim)
  refine ⟨⟨h'.rcv.trans h.rcv, h'.recvFin.trans h.recvFin, h'.fins.trans h.fins, h'.una.trans h.una,
    hab.trans h'.state⟩, h'.out.trans h.out, fun ha => ?_⟩
  rcases h.state with hs | hs | ⟨hf, -⟩
  · exact (h'.cong (by rw [hs]; exact ha)).trans (h.cong ha)
  · refine (h'.cong ?_).trans (h.cong ha)
    rw [hs]
    cases hst : a.core.state with
    | synReceived | synSent | closed =>
      rw [hst] at ha
      cases ha
    | _ => rfl
  · exact hf.elim

lemma after (h : Spares ends s₁ s') (hv : sides s₁ = sides s) (ho : s₁.retry.retriesOut = s.retry.retriesOut)
    (hc : s₁.cong = s.cong) : Spares ends s s' :=
  .trans (.of_sides hv ho hc) h

lemma mono (h : Spares False s s') : Spares ends s s' := h.trans (.refl s')

lemma of_timers (h : OnlyTimers s s') : Spares ends s s' := by
  obtain ⟨t, rfl⟩ := h
  exact .of_sides rfl rfl rfl

lemma notify (s : TcpSock) {n : Notify} (h : n ≠ .recvFin) : Spares ends s (s.notify n) :=
  ⟨⟨rfl, rfl, finsTaken_notify s h, rfl, .inl rfl⟩, rfl, fun _ => rfl⟩

end Spares

section

variable (s)

lemma setTcpSocketRoute_spares : Spares False s (setTcpSocketRoute s).1 := by
  obtain ⟨ro, n, c, re, f, as, h, -, hc, hre, -⟩ := setTcpSocketRoute_frame s
  rw [h]
  refine ⟨.of_sides rfl, hre, fun hf => hc.resolve_right fun hst => ?_⟩
  rcases hst.1 with hst | hst | hst <;> simp [restartsOnMss, hst] at hf

lemma submit_spares (seq ack : Seq) (flags : Flags) (payload : List UInt8) (o : Bool) :
    Spares False s (submit s seq ack flags payload o).1 := by
  obtain ⟨n, f, ws, -, h | h⟩ := submit_cases s seq ack flags payload o <;>
  · rw [h]
    exact .of_sides rfl rfl rfl

lemma tcpSendFlag_spares (seq ack : Seq) (flag : Flags) :
    Spares False s (tcpSendFlag s seq ack flag).1 := by
  rw [tcpSendFlag.eq_def]
  split
  · exact .of_sides rfl rfl rfl
  split
  · exact .of_sides rfl rfl rfl
  split
  · split
    · exact .of_sides rfl rfl rfl
    · exact (submit_spares _ _ _ _ _ _).after rfl rfl rfl
  · exact (submit_spares _ _ _ _ _ _).after rfl rfl rfl

lemma tcpXmitSegment_spares (b : SkBuff) (budget : ℕ) (push : Bool) :
    Spares False s (tcpXmitSegment s b budget push).1 := by
  rw [tcpXmitSegment.eq_def]
  split
  · exact .of_sides rfl rfl rfl
  next f _ =>
  split
  · exact .of_sides rfl rfl rfl
  have hr : Spares False s (setTcpSocketRoute { s with env.fates := f }).1 :=
    (setTcpSocketRoute_spares _).after rfl rfl rfl
  split
  · next s₁ he =>
    rw [he] at hr
    refine hr.trans (.trans (b := { s₁ with error := some .ehostunreach }) (.of_sides rfl rfl rfl) ?_)
    exact .notify _ (n := .err) (by decide)
  · next s₁ he =>
    rw [he] at hr
    dsimp only
    split
    · exact hr.trans (.of_sides rfl rfl rfl)
    · exact hr.trans (submit_spares _ _ _ _ _ _)

lemma tcpRetransmitSkb_spares (b : Option SkBuff) (probe : Bool) :
    Spares False s (tcpRetransmitSkb s b probe).1 := by
  rcases tcpRetransmitSkb_cases s b probe with he | he | ⟨a, n, -, he⟩ <;> rw [he]
  · exact .of_sides rfl rfl rfl
  · exact .refl s
  · exact (tcpXmitSegment_spares _ _ _ _).after rfl rfl rfl

lemma tcpRetransmitNow_spares : Spares False s (tcpRetransmitNow s) :=
  (tcpRetransmitSkb_spares s _ false).trans (.of_sides rfl rfl rfl)

lemma tcpCommitFinSend_spares : Spares False s (tcpCommitFinSend s) := by
  obtain ⟨st, he, -⟩ := tcpCommitFinSend_frame s
  have hst := tcpCommitFinSend_state s
  rw [he] at hst ⊢
  exact ⟨⟨rfl, rfl, rfl, rfl, .inr (.inl hst)⟩, rfl, fun _ => rfl⟩

lemma submitHead_spares (b : SkBuff) (rest : List SkBuff) (n : ℕ) (sendFin push : Bool) :
    Spares False s (submitHead s b rest n sendFin push).1 := by
  have hx := tcpXmitSegment_spares s b n push
  simp only [submitHead]
  split
  · next s₁ e he =>
    rw [he] at hx
    exact hx.trans (.of_sides rfl rfl rfl)
  · next s₁ he =>
    rw [he] at hx
    have hc : Spares False s₁ (if sendFin then tcpCommitFinSend
        (s₁.updateTimer .retransmit (s₁.env.now + s₁.retry.retransmitTimeout) false)
        else s₁.updateTimer .retransmit (s₁.env.now + s₁.retry.retransmitTimeout) false) := by
      split
      · exact (tcpCommitFinSend_spares _).after rfl rfl rfl
      · exact .of_sides rfl rfl rfl
    generalize (if sendFin then tcpCommitFinSend
      (s₁.updateTimer .retransmit (s₁.env.now + s₁.retry.retransmitTimeout) false)
      else s₁.updateTimer .retransmit (s₁.env.now + s₁.retry.retransmitTimeout) false) = s₂ at hc ⊢
    refine hx.trans (hc.trans ?_)
    split <;> exact .of_sides rfl rfl rfl

lemma unsentTail_spares (b : SkBuff) (d n : ℕ) : Spares False s (unsentTail s b d n).1 := by
  rw [unsentTail]
  split
  · split <;> exact .of_sides rfl rfl rfl
  · split
    · exact .of_sides rfl rfl rfl
    · split <;> exact .of_sides rfl rfl rfl

lemma tcpXmitNewSkb_spares (k : ℕ) (push : Bool) : Spares False s (tcpXmitNewSkb s k push).1 := by
  rw [tcpXmitNewSkb.eq_def]
  split
  · exact .of_sides rfl rfl rfl
  next b rest hq =>
  dsimp only
  split
  · have hu := unsentTail_spares s b (min (skbDataLen b) (min k (tcpSkbSeqLen b)))
      (min (skbDataLen b) (min k (tcpSkbSeqLen b)) +
        (b.flag.fin && decide (skbDataLen b < min k (tcpSkbSeqLen b))).toNat)
    split
    · next s₁ he =>
      rw [he] at hu
      exact hu.trans (.of_sides rfl rfl rfl)
    · next s₁ head tail he =>
      rw [he] at hu
      exact hu.trans ((submitHead_spares { s₁ with snd.sendQueue := _ :: tail :: rest } _ (tail :: rest) _ _ push).after
        rfl rfl rfl)
  · exact submitHead_spares s b rest _ _ push

end

lemma writeXmitLoop_spares (flushPartial : Bool) (k : ℕ) (s : TcpSock) (ret : Ret) :
    Spares False s (writeXmitLoop flushPartial k s ret).1 :=
  writeXmitLoop_rule (P := fun _ => True) .of_timers .trans
    (fun push _ _ _ => ⟨tcpXmitNewSkb_spares _ _ push, fun _ => trivial⟩) flushPartial k ret trivial

lemma tcpSendProbe_spares (s : TcpSock) : Spares False s (tcpSendProbe s).1 := by
  rw [tcpSendProbe]
  split
  · exact tcpRetransmitSkb_spares s _ true
  · exact tcpXmitNewSkb_spares s _ false

lemma destroyTcpSocket_spares (s : TcpSock) : Spares True s (destroyTcpSocket s) := by
  have hd (t : TcpSock) (h : sides t = sides { s with core.state := .closed }) (ho : t.retry = s.retry)
      (hc : t.cong = s.cong) (n : Notify) (hn : n ≠ .recvFin) : Spares True s (t.notify n) := by
    have hl : Spares False t (t.notify n) := .notify t hn
    simp only [sides, Prod.mk.injEq] at h
    exact ⟨⟨h.1, h.2.1, hl.fins.trans h.2.2.1, h.2.2.2.1, .inr (.inr ⟨trivial, h.2.2.2.2⟩)⟩, by rw [← ho], fun _ => hc⟩
  rw [destroyTcpSocket]
  split
  · exact hd { s with core.state := .closed } rfl rfl rfl .err (by decide)
  · exact hd { s with core.state := .closed, core.freed := true } rfl rfl rfl .lingerDone (by decide)

lemma destroyed_spares (h : Spares False s s') : Spares True s (destroyTcpSocket s') :=
  h.trans (destroyTcpSocket_spares s')

lemma destroyed_away (h : Away True s s') : Away True s (destroyTcpSocket s') :=
  h.trans (destroyTcpSocket_spares s').toAway

section

variable (s)

lemma retransmitTimeout_away : Away True s (retransmitTimeout s) := by
  simp only [retransmitTimeout]
  split
  · exact .refl s
  split
  · split
    · exact destroyed_away (.of_sides rfl)
    · exact (tcpRetransmitSkb_spares _ _ _).mono.toAway.after rfl
  · split
    · exact destroyed_away (.of_sides rfl)
    · obtain ⟨c, t, hc, -⟩ := tcpCongestionOnTimeout_spec { s with retry.retriesOut := s.retry.retriesOut + 1 }
      rw [hc]
      exact (tcpRetransmitSkb_spares _ _ _).mono.toAway.after rfl

lemma persistTimeout_away : Away True s (persistTimeout s) := by
  simp only [persistTimeout]
  split
  · split
    · exact destroyed_away (.of_sides rfl)
    · exact (tcpSendProbe_spares _).mono.toAway.after rfl
  · exact .refl s

lemma keepaliveTimeout_spares : Spares True s (keepaliveTimeout s) := by
  simp only [keepaliveTimeout]
  split
  · exact .of_sides rfl rfl rfl
  split
  · exact destroyed_spares (.of_sides rfl rfl rfl)
  · exact (tcpSendFlag_spares _ _ _ _).mono.after rfl rfl rfl

lemma tcpTimerCb_away : Away True s (tcpTimerCb s) := by
  have hd (d : Deadline) : Away True s (s.clearDeadline d) := .of_sides rfl
  simp only [tcpTimerCb]
  split
  · split
    · exact hd .nagle
    · exact (hd .nagle).trans (writeXmitLoop_spares _ _ _ _).mono.toAway
  split
  · exact (hd .retransmit).trans (retransmitTimeout_away _)
  split
  · exact (hd .ack).trans (tcpSendFlag_spares _ _ _ _).mono.toAway
  split
  · exact (hd .persist).trans (persistTimeout_away _)
  split
  · exact destroyed_away (hd .timewait)
  split
  · split
    · exact destroyed_away (hd .finwait2)
    · exact hd .finwait2
  split
  · exact (hd .keepalive).trans (keepaliveTimeout_spares _).toAway
  · exact .refl s

lemma writeOnRoute_spares (buf : List UInt8) : Spares False s (writeOnRoute s buf).1 := by
  have hr := setTcpSocketRoute_spares s
  rcases writeOnRoute_cases s buf with he | ⟨r, -, he⟩ <;> rw [he]
  · exact hr
  generalize (setTcpSocketRoute s).1 = s₁ at hr ⊢
  refine hr.trans ?_
  have hq (bs : List UInt8) (f : Fates) :
      Spares False s₁ { s₁ with
        snd := (writeLoop (tcpDataMss s₁.nego) (headerRoom s₁ r) bs.length bs s₁.snd 0 s₁.env.fates).1
        env.fates := f } := by
    obtain ⟨q, e, m, hq⟩ := writeLoop_frame (tcpDataMss s₁.nego) (headerRoom s₁ r) bs.length bs s₁.snd 0 s₁.env.fates
    rw [hq]
    exact .of_sides rfl rfl rfl
  simp only [writeBytes, writeQueued]
  split
  · exact .of_sides rfl rfl rfl
  split
  · exact .of_sides rfl rfl rfl
  split
  · exact hq _ _
  split
  · exact (hq _ _).trans (writeXmitLoop_spares _ _ _ _)
  · exact (hq _ _).trans (.of_sides rfl rfl rfl)

lemma tcpWrite_spares (buf : List UInt8) (expired : Bool) :
    Spares False s (tcpWrite s buf expired).1 := by
  rcases tcpWrite_cases s buf expired with ⟨er, o, he, -⟩ | ⟨-, -, -, he⟩ <;> rw [he]
  · exact .of_sides rfl rfl rfl
  · exact writeOnRoute_spares s buf

lemma shutdownSend_spares : Spares False s (shutdownSend s) := by
  rw [shutdownSend]
  split
  · exact .refl s
  rw [tcpSendFin]
  split
  · exact .of_sides rfl rfl rfl
  split
  · exact .of_sides rfl rfl rfl
  · split <;> exact .of_sides rfl rfl rfl

lemma tcpShutdown_spares (how : How) : Spares False s (tcpShutdown s how).1 := by
  have hrecv : Spares False s (if how = .rd ∨ how = .rdwr then shutdownRecv s else s) := by
    split
    · rw [shutdownRecv]
      split
      · exact .refl s
      · refine .trans (b := { s with core.closeRecv := true }) (.of_sides rfl rfl rfl) ?_
        exact .notify _ (n := .dataRead) (by decide)
    · exact .refl s
  simp only [tcpShutdown]
  split
  · exact .refl s
  split
  · exact hrecv.trans (shutdownSend_spares _)
  · exact hrecv

lemma releaseState_spares : Spares True s (releaseState s) := by
  rw [releaseState]
  split
  all_goals first
    | exact destroyTcpSocket_spares s
    | exact (shutdownSend_spares s).mono
    | exact .of_sides rfl rfl rfl

lemma closeFd_spares : Spares True s (closeFd s).1 := by
  have hfd : Spares False s { s with core.fdEntry := false } := .of_sides rfl rfl rfl
  simp only [closeFd, tcpRelease]
  split
  · split
    · exact destroyed_spares (hfd.trans (tcpSendFlag_spares _ _ _ _))
    · exact destroyed_spares hfd
  split
  · split
    · exact hfd.trans (releaseState_spares _)
    · exact hfd.trans (releaseState_spares _)
  · exact hfd.trans (releaseState_spares _)

lemma tcpIcmpProcess_spares (quoted : Option Seq) (err : Errno) :
    Spares True s (tcpIcmpProcess s quoted err) := by
  have he : Spares False s { s with error := some err } := .of_sides rfl rfl rfl
  rw [tcpIcmpProcess]
  split
  · exact .refl s
  split
  · exact .refl s
  dsimp only
  split
  all_goals first
    | exact destroyed_spares he
    | exact he.mono
    | exact he.trans (.notify _ (by decide))

lemma inputRst_spares : Spares True s (inputRst s) := by
  rcases inputRst_cases s with he | ⟨er, he⟩ <;> rw [he]
  · exact .refl s
  · exact destroyed_spares (.of_sides rfl rfl rfl)

lemma inputSyn_spares : Spares True s (inputSyn s) := by
  rw [inputSyn]
  split
  · exact destroyTcpSocket_spares s
  · exact .of_sides rfl rfl rfl

end

end Netfast.Tcp
