import Netfast.Tcp.Moves

/-! The invariant of a whole connection that carries the send queues through every move. -/

namespace Netfast.Tcp

open Serial Skbuff

structure Queued (iss : Seq) (data : List UInt8) (fin : Bool) (u x : ℕ) (s : TcpSock) : Prop where
  send : SendInv iss (sendStream data fin) u x s.snd
  closeSend : fin = true → s.core.closeSend = true
  flightLe : x ≤ u + 2 ^ 30
  wnd : s.win.sndWnd < 2 ^ 30
  scale : s.nego.sndWndScale ≤ 14
  max : s.snd.sendBufferLenMax < 2 ^ 31

variable {own : Prop} {iss : Seq} {data : List UInt8} {fin : Bool} {u x : ℕ} {s s' : TcpSock}

variable {rest : List SkBuff} {b : SkBuff}

lemma ack_distance {una ack : Seq} {w n : ℕ} (hw : w < 2 ^ 30) (hn : n ≤ 2 ^ 30) (hlt : lt una ack = true)
    (hlo : lt ack (una - BitVec.ofNat 32 w) = false) (hhi : gt ack (una + BitVec.ofNat 32 n) = false) :
    ∃ d, ack = una + BitVec.ofNat 32 d ∧ 0 < d ∧ d ≤ n := by
  rw [← Bool.not_eq_true, lt_iff] at hlo
  rw [← Bool.not_eq_true, gt_iff] at hhi
  rw [lt_iff] at hlt
  refine ⟨(ack - una).toNat, ?_, ?_, ?_⟩ <;> bv_omega

lemma syn_ack_distance {una ack : Seq} {n : ℕ} (hn : n ≤ 2 ^ 30) (hlo : leq ack una = false)
    (hhi : gt ack (una + BitVec.ofNat 32 n) = false) : ∃ d, ack = una + BitVec.ofNat 32 d ∧ 0 < d ∧ d ≤ n := by
  rw [← Bool.not_eq_true, leq_iff] at hlo
  rw [← Bool.not_eq_true, gt_iff] at hhi
  refine ⟨(ack - una).toNat, ?_, ?_, ?_⟩ <;> bv_omega

namespace Queued

lemma una (h : Queued iss data fin u x s) : s.snd.sndUna = label iss u := h.send.una

lemma nxt (h : Queued iss data fin u x s) : s.snd.sndNxt = s.snd.sndUna + BitVec.ofNat 32 (x - u) := by
  have hle := h.send.flight.le
  rw [h.send.nxt, h.send.una, label_add]
  congr 1
  omega

lemma le (h : Queued iss data fin u x s) : u ≤ x := h.send.flight.le

lemma unfinished (h : Queued iss data fin u x s) (ho : s.core.closeSend = false) : fin = false := by
  cases fin with
  | false => rfl
  | true =>
    rw [h.closeSend rfl] at ho
    cases ho

lemma same (h : Queued iss data fin u x s) (hs : s'.snd = s.snd) (hw : s'.win.sndWnd < 2 ^ 30)
    (hn : s'.nego.sndWndScale ≤ 14) (hc : s'.core.closeSend = false → s.core.closeSend = false) :
    Queued iss data fin u x s' := by
  refine ⟨by rw [hs]; exact h.send, fun hf => ?_, h.flightLe, hw, hn, by rw [hs]; exact h.max⟩
  by_contra ho
  have hopen := h.unfinished (hc (Bool.eq_false_of_not_eq_true ho))
  rw [hf] at hopen
  cases hopen

lemma window (h : Queued iss data fin u x s) (hw : s'.win.sndWnd = s.win.sndWnd ∨
    ∃ d : TcpHdr, s'.win.sndWnd = tcpDecodeWindow s.nego d.window d.flags) : s'.win.sndWnd < 2 ^ 30 := by
  rcases hw with hw | ⟨d, hw⟩
  · rw [hw]
    exact h.wnd
  · rw [hw]
    exact tcpDecodeWindow_lt _ h.scale d.windowLt _

lemma head (h : Queued iss data fin u x s) (hq : s.snd.sendQueue = b :: rest) :
    b.seq = label iss x ∧ 0 < tcpSkbSeqLen b ∧ b.flag.syn = false := by
  have hu := h.send.unsent
  rw [hq] at hu
  exact ⟨hu.1, hu.2.1, h.send.unsent_noSyn (hq ▸ List.mem_cons_self)⟩

lemma room (h : Queued iss data fin u x s) (hseq : b.seq = label iss x) {n : ℕ} (hr : Room s b n) :
    x + n ≤ u + 2 ^ 30 := by
  have hle := h.le
  have hfl := h.flightLe
  rcases hr with ⟨m, hm, hge, hn⟩ | ⟨hnil, hn⟩
  · have hw := h.wnd
    rw [h.una, hseq, label_add] at hge hn
    rw [← Bool.not_eq_true, geq_label iss (by omega) (by omega)] at hge
    rw [label_sub iss (by omega) (by omega)] at hn
    omega
  · have hf := h.send.flight
    rw [hnil] at hf
    obtain rfl : u = x := hf
    omega

lemma launched (h : Queued iss data fin u x s) (hq : s.snd.sendQueue = b :: rest)
    (hr : Room s b (tcpSkbSeqLen b)) (sendFin push : Bool) :
    Queued iss data fin u (x + tcpSkbSeqLen b) (launched s b rest (tcpSkbSeqLen b) sendFin push) := by
  refine ⟨h.send.submit s.nego.sndMss hq, h.closeSend, h.room (h.head hq).1 hr, h.wnd, ?_, h.max⟩
  exact (makeTcpOptions_scale s.nego s.env.now _).le.trans h.scale

lemma cut (h : Queued iss data fin u x s) {head tail : SkBuff} (hq : s.snd.sendQueue = b :: rest)
    (hp : Parts b head tail) : Queued iss data fin u x { s with snd.sendQueue := head :: tail :: rest } := by
  obtain ⟨hpos, hpos', htail, hsyms, hown, hown'⟩ := hp.whole (h.head hq).2.2
  have hb : b.ownsSlot := h.send.owned b (hq ▸ List.mem_cons_self)
  exact ⟨h.send.split hq hsyms hp.seq htail hpos hpos' (hown hb) hown', h.closeSend, h.flightLe, h.wnd, h.scale, h.max⟩

lemma finLast (h : Queued iss data false u x s) {last : SkBuff} (hl : s.snd.sendQueue.getLast? = some last) :
    Queued iss data true u x { s with
      core.closeSend := true
      snd.sendQueue := s.snd.sendQueue.dropLast ++ [{ last with flag.fin := true }]
      snd.sndEnd := s.snd.sndEnd + 1 } :=
  ⟨h.send.finLast (List.dropLast_append_getLast? _ hl).symm, fun _ => rfl, h.flightLe, h.wnd, h.scale, h.max⟩

lemma finAlone (h : Queued iss data false u x s) (hnil : s.snd.sendQueue = []) (room : ℕ) :
    Queued iss data true u x { s with
      core.closeSend := true
      snd.sendQueue := [skbAlloc s.snd.sndEnd { fin := true, ack := true } room room]
      snd.sndEnd := s.snd.sndEnd + 1 } :=
  ⟨h.send.finAlone room room hnil, fun _ => rfl, h.flightLe, h.wnd, h.scale, h.max⟩

lemma resized (h : Queued iss data fin u x s) {v : ℕ} (hv : v < 2 ^ 31) :
    Queued iss data fin u x { s with snd.sendBufferLenMax := v } := by
  have hs := h.send
  exact ⟨⟨hs.una, hs.nxt, hs.fin, hs.flight, hs.unsent, hs.stream, hs.bytes, hs.bound, hs.synSent, hs.owned⟩, h.closeSend,
    h.flightLe, h.wnd, h.scale, hv⟩

lemma position (h : Queued iss data fin u x s) {ack : Seq} (ht : TakesAck s ack) :
    ∃ a, ack = label iss a ∧ u < a ∧ a ≤ x := by
  have hle := h.le
  have hfl := h.flightLe
  obtain ⟨d, hd, hpos, hdn⟩ : ∃ d, ack = s.snd.sndUna + BitVec.ofNat 32 d ∧ 0 < d ∧ d ≤ x - u := by
    rcases ht with hr | ⟨hlt, hr⟩
    · rw [Bool.or_eq_false_iff, h.nxt] at hr
      exact syn_ack_distance (by omega) hr.1 hr.2
    · simp only [ackInRange, Bool.and_eq_true, Bool.not_eq_true', h.nxt] at hr
      exact ack_distance h.wnd (by omega) hlt hr.1 hr.2
  exact ⟨u + d, by rw [hd, h.una, label_add], by omega, by omega⟩

lemma acked (h : Queued iss data fin u x s) {a : ℕ} (hu : u < a) (ha : a ≤ x) (hs : s'.snd = ackedSend s.snd (label iss a))
    (hw : s'.win.sndWnd < 2 ^ 30) (hn : s'.nego.sndWndScale ≤ 14) (hc : s'.core.closeSend = s.core.closeSend) :
    Queued iss data fin a x s' := by
  have hfl := h.flightLe
  refine ⟨?_, by rw [hc]; exact h.closeSend, by omega, hw, hn, by rw [hs]; exact h.max⟩
  rw [hs]
  exact h.send.acked hu.le ha (by omega)

lemma answered (h : Queued iss data fin u x s) : Queued iss data fin u x (answered s) := by
  have hs := h.send
  refine ⟨?_, h.closeSend, h.flightLe, h.wnd, h.scale, h.max⟩
  cases hq : s.snd.retransmitQueue with
  | nil =>
    change SendInv _ _ _ _ { s.snd with retransmitQueue := ackHead s.snd.retransmitQueue }
    rw [hq, ackHead, ← hq]
    exact hs
  | cons b bs =>
    have hfl := hs.flight
    have hst := hs.stream
    rw [hq] at hfl hst
    change SendInv _ _ _ _ { s.snd with retransmitQueue := ackHead s.snd.retransmitQueue }
    rw [hq]
    exact ⟨hs.una, hs.nxt, hs.fin, hfl, hs.unsent, hst, hs.bytes, hs.bound, hs.synSent, hs.owned⟩

end Queued

def Benign (f : Fault) : Prop := f ≠ .nullSkb ∧ f ≠ .nullSlot

structure ConnAt (own : Prop) (iss : Seq) (data : List UInt8) (fin : Bool) (u x : ℕ) (s : TcpSock) : Prop extends
    Queued iss data fin u x s where
  synSent : s.core.state = .synSent → u = 0
  opening : s.core.state.opening = true → s.cong.caState = .open ∧ fin = false
  recovery : s.cong.caState ≠ .open → ∃ r, s.cong.caRecoverySeq = label iss r ∧ u < r ∧ r ≤ x
  synBare : ∀ b ∈ s.snd.retransmitQueue, b.flag.syn = true → skbDataLen b = 0
  owned : own → ∀ b ∈ s.snd.retransmitQueue, b.ownsSlot

def ConnInv (own : Prop) (iss : Seq) (data : List UInt8) (s : TcpSock) : Prop :=
  ∃ fin u x, ConnAt own iss data fin u x s

namespace ConnAt

lemma onward (h : ConnAt own iss data fin u x s) {p : Prop} (hs : s'.snd = s.snd) (hw : s'.win.sndWnd < 2 ^ 30)
    (hn : s'.nego.sndWndScale ≤ 14) (ho : Onward p s.core s'.core) (hc : CongStep s s') :
    ConnAt own iss data fin u x s' := by
  refine ⟨h.toQueued.same hs hw hn ho.closing, fun hst => h.synSent (ho.synSent hst), fun hst => ?_, fun hne => ?_,
    by rw [hs]; exact h.synBare, by rw [hs]; exact h.owned⟩
  · obtain ⟨hopen, hfin⟩ := h.opening (ho.opening hst)
    rcases hc with (hca | ⟨hca, -⟩) | ⟨-, hst', -⟩
    · exact ⟨hca, hfin⟩
    · exact ⟨hca.trans hopen, hfin⟩
    · rw [hst] at hst'
      cases hst'
  · rcases hc with (hca | ⟨hca, hr⟩) | ⟨hq, -, -, ⟨hca, hr⟩ | hr⟩
    · exact absurd hca hne
    · rw [hr]
      exact h.recovery (hca ▸ hne)
    · rw [hr]
      exact h.recovery hca
    · exact ⟨x, hr.trans h.send.nxt, h.send.flight.lt hq, le_refl x⟩

lemma keeps (h : ConnAt own iss data fin u x s) (hk : Keeps s s') : ConnAt own iss data fin u x s' :=
  h.onward (p := True) hk.snd (by rw [hk.win]; exact h.wnd) (by rw [hk.scale]; exact h.scale)
    (by rw [hk.core]; exact .refl _) (.inl hk.cong)

lemma beside (h : ConnAt own iss data fin u x s) (hb : Beside s s') : ConnAt own iss data fin u x s' :=
  h.onward hb.snd (h.window hb.wnd) (by rw [hb.nego]; exact h.scale) hb.core hb.cong

lemma quiet (h : ConnAt own iss data fin u x s) (ro : Option Route) (er : Option Errno) (re : Retry)
    (t : Timers) (e : Env) :
    ConnAt own iss data fin u x { s with route := ro, error := er, retry := re, tm := t, env := e } :=
  h.keeps (.of_frame s ro er re t e)

lemma timer (h : ConnAt own iss data fin u x s) (re : Retry) (t : Timers) :
    ConnAt own iss data fin u x { s with retry := re, tm := t } :=
  h.quiet s.route s.error re t s.env

lemma sent (h : ConnAt own iss data fin u x s) (hq : s.snd.sendQueue = b :: rest) (hr : Room s b (tcpSkbSeqLen b))
    (sendFin push : Bool) :
    ConnAt own iss data fin u (x + tcpSkbSeqLen b) (launched s b rest (tcpSkbSeqLen b) sendFin push) := by
  have hmem : b ∈ s.snd.sendQueue := hq ▸ List.mem_cons_self
  have hu := h.send.unsent
  rw [hq] at hu
  obtain ⟨-, -, hmems⟩ := tcpRetransmitEnqueue_spec s.nego.sndMss h.send.flight hu.1 hu.2.1
  refine ⟨h.toQueued.launched hq hr sendFin push, fun hst => h.synSent ?_, fun hst => h.opening (launched_opening hst),
    fun hca => ?_, fun c hc hsyn => ?_, fun ho c hc => ?_⟩
  · change (if sendFin then s.core.state.finSent else s.core.state) = .synSent at hst
    cases hs : s.core.state <;> cases sendFin <;> rw [hs] at hst <;> first | rfl | cases hst
  · obtain ⟨r, hrec, hlt, hle⟩ := h.recovery hca
    exact ⟨r, hrec, hlt, by omega⟩
  · rcases hmems c hc with hc | rfl | ⟨-, hc⟩
    · exact h.synBare c hc hsyn
    · rw [h.send.unsent_noSyn hmem] at hsyn
      cases hsyn
    · rw [hc] at hsyn
      cases hsyn
  · rcases hmems c hc with hc | rfl | ⟨hc, -⟩
    · exact h.owned ho c hc
    · exact h.send.owned c hmem
    · exact hc

/-- What is dereferenced is there. -/
lemma benign (h : ConnAt own iss data fin u x s) (ho : own) {f : Fault} (hc : Cause s f) : Benign f := by
  refine ⟨?_, ?_⟩ <;> rintro rfl
  · obtain ⟨hnil, hne⟩ := hc
    obtain ⟨r, -, hu, hx⟩ := h.recovery hne
    exact h.send.flight.ne_nil (hu.trans_le hx) hnil
  · obtain ⟨b, hb, hne⟩ := hc
    rcases List.mem_append.mp hb with hb | hb
    · exact hne ⟨h.owned ho b hb, h.send.flight.pos hb, h.synBare b hb⟩
    · refine hne ⟨h.send.owned b hb, h.send.unsent.pos hb, fun hsyn => ?_⟩
      rw [h.send.unsent_noSyn hb] at hsyn
      cases hsyn

end ConnAt

lemma Move.conn (hm : Move s s') (h : ConnAt own iss data fin u x s) :
    (∃ fin x, ConnAt own iss data fin u x s') ∧ (own → Adds Benign s s') := by
  have hkeep {t : TcpSock} (hk : Keeps s t) (hf : own → Adds Benign s t) :
      (∃ fin x, ConnAt own iss data fin u x t) ∧ (own → Adds Benign s t) := ⟨⟨fin, x, h.keeps hk⟩, hf⟩
  have hnego (flags : Flags) := makeTcpOptions_scale s.nego s.env.now flags
  cases hm with
  | beside hb => exact ⟨⟨fin, x, h.beside hb⟩, fun _ => .of_eq hb.faults⟩
  | unrouted | routed | sampled => exact hkeep ⟨rfl, rfl, rfl, rfl, rfl, .refl _⟩ fun _ => .of_eq rfl
  | faulted hc => exact hkeep ⟨rfl, rfl, rfl, rfl, rfl, .refl _⟩ fun ho => .fault s _ (h.benign ho hc)
  | offered flags => exact hkeep ⟨rfl, rfl, rfl, rfl, hnego flags, .refl _⟩ fun _ => .of_eq rfl
  | @bare seq ack flags => exact hkeep ⟨rfl, rfl, rfl, rfl, hnego flags, .refl _⟩ fun _ => .of_eq rfl
  | resent => exact hkeep ⟨rfl, rfl, rfl, rfl, hnego _, .refl _⟩ fun _ => .of_eq rfl
  | @sent b rest hq n hn hr sendFin hf push =>
    obtain rfl := hn (h.head hq).2.2
    exact ⟨⟨fin, _, h.sent hq hr sendFin push⟩, fun _ => .of_eq rfl⟩
  | cut hq hp =>
    exact ⟨⟨fin, x, h.toQueued.cut hq hp, h.synSent, h.opening, h.recovery, h.synBare, h.owned⟩, fun _ => .of_eq rfl⟩
  | finLast ho hs hl =>
    obtain rfl := h.unfinished ho
    refine ⟨⟨true, x, h.toQueued.finLast hl, h.synSent, fun hst => ?_, h.recovery, h.synBare, h.owned⟩, fun _ => .of_eq rfl⟩
    rw [show s.core.state.opening = true from hst] at hs
    cases hs
  | finAlone ho hs hnil room =>
    obtain rfl := h.unfinished ho
    refine ⟨⟨true, x, h.toQueued.finAlone hnil room, h.synSent, fun hst => ?_, h.recovery, h.synBare, h.owned⟩,
      fun _ => .of_eq rfl⟩
    rw [show s.core.state.opening = true from hst] at hs
    cases hs
  | resized hv =>
    exact ⟨⟨fin, x, h.toQueued.resized hv, h.synSent, h.opening, h.recovery, h.synBare, h.owned⟩, fun _ => .of_eq rfl⟩

lemma Moves.conn (hm : Moves s s') (h : ConnAt own iss data fin u x s) :
    (∃ fin x, ConnAt own iss data fin u x s') ∧ (own → Adds Benign s s') := by
  refine hm.invariant (I := fun t => (∃ fin x, ConnAt own iss data fin u x t) ∧ (own → Adds Benign s t)) ?_
    ⟨⟨fin, x, h⟩, fun _ => .of_eq rfl⟩
  rintro t t' ⟨⟨fin, x, ht⟩, hf⟩ hm
  obtain ⟨ht', hf'⟩ := hm.conn ht
  exact ⟨ht', fun ho => (hf ho).trans (hf' ho)⟩

def Preserves (own : Prop) (iss : Seq) (data : List UInt8) (s s' : TcpSock) : Prop :=
  ConnInv own iss data s' ∧ (own → Adds Benign s s')

lemma Preserves.trans {s₁ s₂ : TcpSock} (h : own → Adds Benign s s₁) (h' : Preserves own iss data s₁ s₂) :
    Preserves own iss data s s₂ :=
  ⟨h'.1, fun ho => (h ho).trans (h'.2 ho)⟩

lemma ConnAt.same (h : ConnAt own iss data fin u x s') (hf : s'.env.faults = s.env.faults) :
    Preserves own iss data s s' :=
  ⟨⟨fin, u, x, h⟩, fun _ => .of_eq hf⟩

lemma Moves.preserves (hm : Moves s s') (h : ConnAt own iss data fin u x s) : Preserves own iss data s s' := by
  obtain ⟨⟨fin, x, h'⟩, hf⟩ := hm.conn h
  exact ⟨⟨fin, u, x, h'⟩, hf⟩

lemma Preserves.moves {t : TcpSock} (h : Preserves own iss data s t) (hm : Moves t s') : Preserves own iss data s s' := by
  obtain ⟨⟨fin, u, x, ht⟩, hf⟩ := h
  exact Preserves.trans hf (hm.preserves ht)

lemma ConnAt.winMin_lt (h : ConnAt own iss data fin u x s) : s.winMin < 2 ^ 30 :=
  Nat.lt_of_le_of_lt (Nat.min_le_left _ _) h.wnd

end Netfast.Tcp
