import Netfast.Tcp.Scale

/-! What a transmission may put on the wire: the usable window and the MSS, as they are when the segment
leaves. -/

namespace Netfast.Tcp

open Serial Skbuff

def WireSeg.seqLen (w : WireSeg) : ℕ := w.payload.length + w.flags.syn.toNat + w.flags.fin.toNat

structure Departs (s s' : TcpSock) (w : WireSeg) : Prop where
  wire : s'.env.wire = s.env.wire ++ [w]
  una : s'.snd.sndUna = s.snd.sndUna
  wnd : s'.win.sndWnd = s.win.sndWnd
  ts : s'.nego.peerTsOk = s.nego.peerTsOk
  route : ∃ r, s'.route = some r ∧ s'.cong = CongState.onRoute s r ∧ s'.nego.sndMss = (Nego.onRoute s r).sndMss

variable {s s' : TcpSock} {w : WireSeg}

lemma Departs.after {s₀ : TcpSock} (h : Departs s₀ s' w) (hwire : s₀.env.wire = s.env.wire)
    (huna : s₀.snd.sndUna = s.snd.sndUna) (hcore : s₀.core = s.core) (hwin : s₀.win = s.win)
    (hnego : s₀.nego = s.nego) (hcong : s₀.cong = s.cong) : Departs s s' w := by
  obtain ⟨r, hr, hc, hm⟩ := h.route
  have hn : Nego.onRoute s₀ r = Nego.onRoute s r := by
    simp only [Nego.onRoute, routeMss, headerRoom, maxIpHdrLen, hcore, hnego]
  refine ⟨by rw [h.wire, hwire], h.una.trans huna, by rw [h.wnd, hwin], by rw [h.ts, hnego], r, hr, ?_, by rw [hm, hn]⟩
  rw [hc, CongState.onRoute, CongState.onRoute, hn, hcore, hnego, hcong]

lemma Departs.before {s₁ : TcpSock} (h : Departs s s₁ w) (hwire : s'.env.wire = s₁.env.wire)
    (huna : s'.snd.sndUna = s₁.snd.sndUna) (hwin : s'.win = s₁.win) (hnego : s'.nego = s₁.nego)
    (hcong : s'.cong = s₁.cong) (hroute : s'.route = s₁.route) : Departs s s' w :=
  ⟨by rw [hwire, h.wire], by rw [huna, h.una], by rw [hwin, h.wnd], by rw [hnego, h.ts],
    by rw [hroute, hcong, hnego]; exact h.route⟩

lemma submit_leaves (s : TcpSock) (seq ack : Seq) (flags : Flags) (payload : List UInt8) (o : Bool) :
    (submit s seq ack flags payload o).1.env.wire = s.env.wire ∨
      ∃ w : WireSeg, (submit s seq ack flags payload o).1.env.wire = s.env.wire ++ [w] ∧ w.seq = seq ∧
        w.flags = flags ∧ w.payload = payload := by
  simp only [submit, ipOutput]
  cases hd : draw s.env.fates with
  | mk ok f =>
    cases ok with
    | false => exact .inl rfl
    | true =>
      right
      cases flags.ack with
      | false => exact ⟨_, rfl, rfl, rfl, rfl⟩
      | true => exact ⟨_, rfl, rfl, rfl, rfl⟩

lemma submit_sizes (s : TcpSock) (seq ack : Seq) (flags : Flags) (payload : List UInt8) (o : Bool) :
    (submit s seq ack flags payload o).1.cong = s.cong ∧
      (submit s seq ack flags payload o).1.nego.sndMss = s.nego.sndMss ∧
      (submit s seq ack flags payload o).1.nego.peerTsOk = s.nego.peerTsOk ∧
      (submit s seq ack flags payload o).1.route = s.route := by
  have hn : (makeTcpOptions s.nego s.env.now flags).2.sndMss = s.nego.sndMss ∧
      (makeTcpOptions s.nego s.env.now flags).2.peerTsOk = s.nego.peerTsOk := by
    simp only [makeTcpOptions]
    split <;> exact ⟨rfl, rfl⟩
  simp only [submit, ipOutput]
  cases hd : draw s.env.fates with
  | mk ok f =>
    cases ok with
    | false => exact ⟨rfl, hn.1, hn.2, rfl⟩
    | true => cases flags.ack <;> exact ⟨rfl, hn.1, hn.2, rfl⟩

lemma tcpXmitSegment_departs (s : TcpSock) (b : SkBuff) (k : ℕ) (push : Bool) :
    (tcpXmitSegment s b k push).1.env.wire = s.env.wire ∨
      ∃ w, Departs s (tcpXmitSegment s b k push).1 w ∧ w.seq = b.seq ∧ w.flags = (sendClone b k push).flag ∧
        w.payload = (sendClone b k push).payload := by
  rw [tcpXmitSegment.eq_def]
  split
  · exact .inl rfl
  next f _ =>
  split
  · exact .inl rfl
  split
  · next s₁ he =>
    obtain ⟨ro, n, c, re, f', as, hr, -⟩ := setTcpSocketRoute_frame { s with env.fates := f }
    rw [he] at hr
    left
    rw [show s₁ = _ from hr]
  · next s₁ he =>
    obtain ⟨r, re, f', -, -, hs₁⟩ := setTcpSocketRoute_routed he
    dsimp only
    split
    · left
      rw [hs₁]
    next hinfos =>
    obtain ⟨hc, hm, ht, hro⟩ := submit_sizes s₁ (sendClone b k push).seq s₁.rcv.rcvNxt (sendClone b k push).flag
      (sendClone b k push).payload false
    have hkeep := submit_keeps s₁ (sendClone b k push).seq s₁.rcv.rcvNxt (sendClone b k push).flag
      (sendClone b k push).payload false
    rcases submit_leaves s₁ (sendClone b k push).seq s₁.rcv.rcvNxt (sendClone b k push).flag
      (sendClone b k push).payload false with hw | ⟨w, hw, hseq, hfl, hpay⟩
    · left
      rw [hw, hs₁]
    · right
      refine ⟨w, ⟨by rw [hw, hs₁], by rw [hkeep.snd, hs₁], by rw [hkeep.win, hs₁], by rw [ht, hs₁]; rfl,
        r, by rw [hro, hs₁], by rw [hc, hs₁]; rfl, by rw [hm, hs₁]; rfl⟩, by rw [hseq, sendClone_seq], hfl, hpay⟩

variable {b : SkBuff}

lemma sendClone_len (hsyn : b.flag.syn = false) (k : ℕ) (push : Bool) :
    (sendClone b k push).payload.length = min (skbDataLen b) k ∧
      (sendClone b k push).payload.length + (sendClone b k push).flag.fin.toNat = min k (tcpSkbSeqLen b) := by
  have hlen := tcpSkbSeqLen_noSyn hsyn
  have hone : b.flag.fin.toNat ≤ 1 := Bool.toNat_le _
  have hpay : (sendClone b k push).payload.length = min (skbDataLen b) k := by
    simp only [sendClone, hsyn, Bool.toNat_false, Nat.sub_zero]
    split
    · have hp := skbTruncate_payload b (min (skbDataLen b) (min k (tcpSkbSeqLen b)))
      simp only [SkBuff.payload] at hp ⊢
      rw [hp, List.length_take]
      change min _ (skbDataLen b) = _
      omega
    · next hge =>
      change skbDataLen b = _
      omega
  have hfin : (sendClone b k push).flag.fin = sendFin b k := by
    simp [sendClone, hsyn, sendFin]
  refine ⟨hpay, ?_⟩
  have hsum := sendLen_eq hsyn k
  rw [sendLen] at hsum
  rw [hpay, hfin]
  omega

lemma clone_seqLen {n : ℕ} {push : Bool} (hf : w.flags = (sendClone b n push).flag)
    (hp : w.payload = (sendClone b n push).payload) (hsyn : w.flags.syn = false) :
    b.flag.syn = false ∧ w.seqLen ≤ n := by
  have hb : b.flag.syn = false := by
    rw [← (sendClone_spec b n push).1, ← hf]
    exact hsyn
  rw [WireSeg.seqLen, hsyn, hf, hp, Bool.toNat_false, Nat.add_zero, (sendClone_len hb n push).2]
  exact ⟨hb, Nat.min_le_left _ _⟩

lemma submitHead_departs (s : TcpSock) (b : SkBuff) (rest : List SkBuff) (n : ℕ) (sendFin push : Bool) :
    (submitHead s b rest n sendFin push).1.env.wire = s.env.wire ∨
      ∃ w, Departs s (submitHead s b rest n sendFin push).1 w ∧ w.seq = b.seq ∧
        w.flags = (sendClone b n push).flag ∧ w.payload = (sendClone b n push).payload := by
  have h := tcpXmitSegment_departs s b n push
  cases hx : tcpXmitSegment s b n push with
  | mk s₁ ret =>
    rw [hx] at h
    cases ret with
    | some e =>
      simp only [submitHead, hx]
      rcases h with h | ⟨w, hd, hw⟩
      · exact .inl h
      · exact .inr ⟨w, hd.before rfl rfl rfl rfl rfl rfl, hw⟩
    | none =>
      obtain ⟨st, re, t, hs, -⟩ := submitHead_ok rest sendFin hx
      rw [hs]
      rcases h with h | ⟨w, hd, hw⟩
      · exact .inl h
      · exact .inr ⟨w, hd.before rfl rfl rfl rfl rfl rfl, hw⟩

lemma tcpXmitNewSkb_departs (s : TcpSock) {rest : List SkBuff} (hq : s.snd.sendQueue = b :: rest)
    (k : ℕ) (push : Bool) :
    (tcpXmitNewSkb s k push).1.env.wire = s.env.wire ∨
      ∃ w, Departs s (tcpXmitNewSkb s k push).1 w ∧ w.seq = b.seq ∧ (w.flags.syn = false → w.seqLen ≤ k) := by
  have hk := sendLen_le b k
  rcases tcpXmitNewSkb_cases hq k push with ⟨s₁, hs₁, he⟩ | ⟨f, head, tail, -, -, hseq, -, he⟩ | ⟨-, he⟩ <;> rw [he]
  · left
    rcases hs₁ with ⟨f, rfl⟩ | ⟨-, rfl⟩ <;> rfl
  · rcases submitHead_departs { s with env.fates := f, snd.sendQueue := head :: tail :: rest } head (tail :: rest)
      (sendLen b k) (sendFin b k) push with h | ⟨w, hd, hw, hf, hp⟩
    · exact .inl h
    · exact .inr ⟨w, hd.after rfl rfl rfl rfl rfl rfl, hw.trans hseq, fun hsyn => (clone_seqLen hf hp hsyn).2.trans hk⟩
  · rcases submitHead_departs s b rest (sendLen b k) (sendFin b k) push with h | ⟨w, hd, hw, hf, hp⟩
    · exact .inl h
    · exact .inr ⟨w, hd, hw, fun hsyn => (clone_seqLen hf hp hsyn).2.trans hk⟩

def WireSeg.lastSeq (w : WireSeg) : Seq := w.seq + BitVec.ofNat 32 w.seqLen - 1

def Within (s : TcpSock) (w : WireSeg) : Prop := lt w.lastSeq (windowEnd s) = true

instance (s : TcpSock) (w : WireSeg) : Decidable (Within s w) := inferInstanceAs (Decidable (_ = _))

lemma within_budget (hb : geq b.seq (windowEnd s) = false) (hseq : w.seq = b.seq) (hpos : 0 < w.seqLen)
    (hle : w.seqLen ≤ (windowEnd s - b.seq).toNat) : Within s w := by
  have hlt : ¬(b.seq - windowEnd s).toNat < 2 ^ 31 := by
    rw [← geq_iff, hb]
    simp
  rw [Within, lt_iff, WireSeg.lastSeq, hseq]
  generalize w.seqLen = n at *
  bv_omega

def FitsRestart (s : TcpSock) (r : Route) (w : WireSeg) : Prop :=
  restartsOnMss s.core.state = false ∨ (Nego.onRoute s r).sndMss = s.nego.sndMss ∨
    lt w.lastSeq (s.snd.sndUna +
      BitVec.ofNat 32 (min s.win.sndWnd (tcpCongestionInit (Nego.onRoute s r)).sndCwnd)) = true

lemma Departs.within_iff (h : Departs s s' w) (hw : Within s w) {r : Route} (hroute : s'.route = some r) :
    Within s' w ↔ FitsRestart s r w := by
  obtain ⟨r', hr', hc, hm⟩ := h.route
  obtain rfl : r' = r := Option.some.inj (hr'.symm.trans hroute)
  rw [CongState.onRoute] at hc
  by_cases hr : restartsOnMss s.core.state = true ∧ (Nego.onRoute s r').sndMss ≠ s.nego.sndMss
  · have hcw : s'.cong.sndCwnd = (tcpCongestionInit (Nego.onRoute s r')).sndCwnd := by
      rw [hc, if_pos (by simp [hr.1, hr.2])]
    have hend : windowEnd s' = s.snd.sndUna +
        BitVec.ofNat 32 (min s.win.sndWnd (tcpCongestionInit (Nego.onRoute s r')).sndCwnd) := by
      rw [windowEnd, TcpSock.winMin, h.una, h.wnd, hcw]
    rw [Within, hend, FitsRestart]
    simp [hr.1, hr.2]
  · have hsame : s'.cong = s.cong := by
      rw [hc, if_neg]
      simpa using hr
    have hend : windowEnd s' = windowEnd s := by
      rw [windowEnd, windowEnd, TcpSock.winMin, TcpSock.winMin, h.una, h.wnd, hsame]
    have hfit : FitsRestart s r' w := by
      rw [not_and_or, not_not, Bool.not_eq_true] at hr
      exact hr.imp_right .inl
    rw [Within, hend]
    exact ⟨fun _ => hfit, fun _ => hw⟩

/-- At most one segment leaves between the two states, and `Q` is true of it there. -/
def Leaves (Q : WireSeg → Prop) (s s' : TcpSock) : Prop :=
  s'.env.wire = s.env.wire ∨ ∃ w, s'.env.wire = s.env.wire ++ [w] ∧ Q w

def WireSeg.carries (w : WireSeg) : Prop := w.flags.syn = false ∧ 0 < w.seqLen

def Rounds (s s' : TcpSock) : Prop :=
  s'.env.wire = s.env.wire ∨ ∃ w, Departs s s' w ∧ (w.carries → Within s w)

lemma Rounds.timers {s₀ s₁ : TcpSock} (h : Rounds s₀ s₁) (hs : OnlyTimers s₀ s) (hs' : OnlyTimers s₁ s') :
    Rounds s s' := by
  obtain ⟨t, rfl⟩ := hs
  obtain ⟨t', rfl⟩ := hs'
  rcases h with h | ⟨w, hd, hw⟩
  · exact .inl h
  · have h₁ : Departs { s₀ with tm := t } s₁ w := hd.after rfl rfl rfl rfl rfl rfl
    exact .inr ⟨w, h₁.before rfl rfl rfl rfl rfl rfl, hw⟩

lemma xmit_round (s : TcpSock) {rest : List SkBuff} (hq : s.snd.sendQueue = b :: rest)
    (hopen : geq b.seq (windowEnd s) = false) (push : Bool) :
    Rounds s (tcpXmitNewSkb s (min (tcpSkbSeqLen b) (windowEnd s - b.seq).toNat) push).1 := by
  rcases tcpXmitNewSkb_departs s hq (min (tcpSkbSeqLen b) (windowEnd s - b.seq).toNat) push with
    h | ⟨w, hd, hseq, hlen⟩
  · exact .inl h
  · exact .inr ⟨w, hd, fun hc => within_budget hopen hseq hc.2 ((hlen hc.1).trans (Nat.min_le_right _ _))⟩

lemma writeXmitLoop_rounds (flushPartial : Bool) (j : ℕ) (s : TcpSock) (ret : Ret) :
    Rounds (writeXmitLoop flushPartial j s ret).1 (writeXmitLoop flushPartial (j + 1) s ret).1 := by
  induction j generalizing s ret with
  | zero =>
    have h0 := writeXmitLoop_zero flushPartial s ret
    rcases writeXmitLoop_round flushPartial s with ⟨s₁, ht, hs⟩ | ⟨b, rest, push, hq, hopen, herr, hok⟩
    · rw [hs]
      exact Rounds.timers (.inl rfl) h0 ht
    · have hr := xmit_round s hq hopen push
      cases hx : (tcpXmitNewSkb s (roundBudget s b) push).2 with
      | some e =>
        rw [herr e hx]
        exact hr.timers h0 ⟨_, rfl⟩
      | none =>
        rw [hok hx]
        exact hr.timers h0 (writeXmitLoop_zero flushPartial _ none)
  | succ j ih =>
    rcases writeXmitLoop_round flushPartial s with ⟨s₁, ht, hs⟩ | ⟨b, rest, push, hq, hopen, herr, hok⟩
    · rw [hs, hs]
      exact .inl rfl
    · cases hx : (tcpXmitNewSkb s (roundBudget s b) push).2 with
      | some e =>
        rw [herr e hx, herr e hx]
        exact .inl rfl
      | none =>
        rw [hok hx, hok hx]
        exact ih _ none

lemma tcpRetransmitSkb_rounds (s : TcpSock) (b : SkBuff) : Rounds s (tcpRetransmitSkb s (some b) false).1 := by
  have hx (k : ℕ) (hk : b.flag.syn = false → k ≤ (windowEnd s - b.seq).toNat ∧ geq b.seq (windowEnd s) = false) :
      Rounds s (tcpXmitSegment { s with retry.rttMeasTime := 0 } b k false).1 := by
    rcases tcpXmitSegment_departs { s with retry.rttMeasTime := 0 } b k false with h | ⟨w, hd, hseq, hf, hp⟩
    · exact .inl h
    · refine .inr ⟨w, hd.after rfl rfl rfl rfl rfl rfl, fun hc => ?_⟩
      obtain ⟨hsyn, hlen⟩ := clone_seqLen hf hp hc.1
      obtain ⟨hle, hopen⟩ := hk hsyn
      exact within_budget hopen hseq hc.2 (hlen.trans hle)
  simp only [tcpRetransmitSkb, Bool.false_eq_true, if_false]
  split_ifs with hsyn hshut
  · exact hx _ fun h => absurd hsyn (by rw [h]; simp)
  · exact .inl rfl
  · rw [not_or, Bool.not_eq_true] at hshut
    exact hx _ fun _ => ⟨Nat.min_le_right _ _, hshut.2⟩

lemma tcpSendProbe_leaves (s : TcpSock) : Leaves (fun w => w.flags.syn = false → w.seqLen ≤ 1) s (tcpSendProbe s).1 := by
  rw [tcpSendProbe]
  split
  · next b bs hq =>
    simp only [tcpRetransmitSkb, if_true]
    rcases tcpXmitSegment_departs { s with retry.rttMeasTime := 0 } b (min (tcpSkbSeqLen b) 1) false with
      h | ⟨w, hd, -, hf, hp⟩
    · exact .inl h
    · exact .inr ⟨w, hd.wire, fun hsyn => (clone_seqLen hf hp hsyn).2.trans (Nat.min_le_right _ _)⟩
  · cases hq : s.snd.sendQueue with
    | nil =>
      left
      simp [tcpXmitNewSkb, hq]
    | cons b rest =>
      rcases tcpXmitNewSkb_departs s hq (min (tcpSkbSeqLen b) 1) false with h | ⟨w, hd, -, hlen⟩
      · exact .inl h
      · exact .inr ⟨w, hd.wire, fun hsyn => (hlen hsyn).trans (Nat.min_le_right _ _)⟩

/-- A segment with text or a FIN ends inside the window in force when it leaves, exactly when it fits the
congestion window that a new MSS may have started. -/
def WindowExact (s s' : TcpSock) : Prop :=
  Leaves (fun w => ∃ r, s'.route = some r ∧ (w.carries → (Within s' w ↔ FitsRestart s r w))) s s'

lemma Rounds.exact (h : Rounds s s') : WindowExact s s' := by
  rcases h with h | ⟨w, hd, hw⟩
  · exact .inl h
  · obtain ⟨r, hr, -⟩ := hd.route
    exact .inr ⟨w, hd.wire, r, hr, fun hc => hd.within_iff (hw hc) hr⟩

/-- Round by round of `tcp_write_xmit` and for every retransmission; a probe takes at most one number. -/
theorem window_respected_iff (s : TcpSock) :
    (∀ flushPartial j, WindowExact (writeXmitLoop flushPartial j s none).1 (writeXmitLoop flushPartial (j + 1) s none).1) ∧
      (∀ b, WindowExact s (tcpRetransmitSkb s (some b) false).1) ∧
      Leaves (fun w => w.flags.syn = false → w.seqLen ≤ 1) s (tcpSendProbe s).1 :=
  ⟨fun flushPartial j => (writeXmitLoop_rounds flushPartial j s none).exact,
    fun b => (tcpRetransmitSkb_rounds s b).exact, tcpSendProbe_leaves s⟩

def mtuFalls (s : TcpSock) : TcpSock :=
  s.withInputs
    { now := 1
      routes := [{ cached := some plainRoute, found := none }, { cached := some { plainRoute with mtu := 68 }, found := none }] }

theorem window_shrinks_under_segment :
    let s := (tcpWrite (mtuFalls openSock) (List.replicate 536 0) false).1
    s.core.state = .synSent ∧ s.cong.sndCwnd = 280 ∧ s.env.wire.length = 2 ∧
      (s.env.wire.getLast?.map fun w => (w.payload.length, decide (Within s w))) = some (536, false) := by
  decide +kernel

end Netfast.Tcp
