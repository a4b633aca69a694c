import Netfast.Tcp.SendConn

/-! The connection invariant through `tcp_input`. -/

namespace Netfast.Tcp

open Serial Skbuff

variable {own : Prop} {iss : Seq} {data : List UInt8} {fin : Bool} {u x : ℕ} {s s' t c : TcpSock} {g : Segment}

lemma ConnAt.acks (h : ConnAt own iss data fin u x s) {a : ℕ} (hu : u < a) (hx : a ≤ x) :
    (ackQueue (label iss a) s.snd.retransmitQueue).2.2 = true := by
  have hf := h.send.flight
  have hle := h.flightLe
  cases hq : s.snd.retransmitQueue with
  | nil => exact absurd hq (hf.ne_nil (Nat.lt_of_lt_of_le hu hx))
  | cons b bs =>
    rw [hq] at hf
    have hgt : gt (label iss a) b.seq = true := by
      rw [hf.1]
      exact (gt_label iss (by omega) (by omega)).mpr hu
    simp only [ackQueue, hgt, if_true]
    split <;> rfl

lemma ConnAt.acked (h : ConnAt own iss data fin u x s) {a : ℕ} (hu : u < a) (ha : a ≤ x)
    (hcut : own → cutsBeforeFin s.snd (label iss a) = false) (hsnd : s'.snd = ackedSend s.snd (label iss a))
    (hclose : s'.core.closeSend = s.core.closeSend) (hst : s'.core.state.opening = false) (hwnd : s'.win.sndWnd < 2 ^ 30)
    (hscale : s'.nego.sndWndScale ≤ 14)
    (hca : s'.cong.caState ≠ .open → ∃ r, s'.cong.caRecoverySeq = label iss r ∧ a < r ∧ r ≤ x) :
    ConnAt own iss data fin a x s' := by
  have hfl := h.flightLe
  have hmem : ∀ c ∈ (ackedSend s.snd (label iss a)).retransmitQueue, c ∈ s.snd.retransmitQueue ∨
      ∃ b ∈ s.snd.retransmitQueue, c = (trimHead (label iss a) b).1 ∧ (label iss a - b.seq).toNat < tcpSkbSeqLen b :=
    fun c hc => ackQueue_mem h.send.flight hu.le (by omega) ha hc
  refine ⟨h.toQueued.acked hu ha hsnd hwnd hscale hclose, fun hs => ?_, fun ho => ?_, hca, ?_, ?_⟩
  · rw [hs] at hst
    cases hst
  · rw [ho] at hst
    cases hst
  · rw [hsnd]
    intro c hc hsyn
    rcases hmem c hc with hc | ⟨b, -, rfl, -⟩
    · exact h.synBare c hc hsyn
    · cases hsyn
  · rw [hsnd]
    intro ho c hc
    rcases hmem c hc with hc | ⟨b, hb, rfl, hlt⟩
    · exact h.owned ho c hc
    · exact trimHead_ownsSlot (h.owned ho b hb) (h.synBare b hb) hlt hb (hcut ho)

lemma SendInv.noCut {q : SendState} (h : SendInv iss (sendStream data false) u x q) (ack : Seq) :
    cutsBeforeFin q ack = false := by
  rw [cutsBeforeFin, List.any_eq_false]
  intro b hb
  have hfin : b.flag.fin = false := by
    rw [← Bool.not_eq_true, ← mem_syms_fin]
    intro hm
    have hq := mem_queueSyms (List.mem_append_left q.sendQueue hb) hm
    rw [h.stream] at hq
    exact fin_notMem_stream data (List.mem_of_mem_drop hq)
  simp [hfin]

lemma ConnAt.opens (h : ConnAt own iss data false u x s) (hopen : s.cong.caState = .open) {ack : Seq}
    (hc : Opens s ack c) : Preserves own iss data s c := by
  obtain ⟨a, rfl, hu, hx⟩ := h.position hc.takes
  refine ⟨⟨false, a, x, ?_⟩, fun _ => .of_eq hc.faults⟩
  refine h.acked hu hx (fun _ => h.send.noCut _) hc.snd hc.closeSend (by rw [hc.state]; rfl) (h.window hc.wnd)
    (by rw [hc.nego]; exact h.scale) fun hne => ?_
  rw [hc.cong] at hne
  exact absurd hopen hne

/-- Before the recovery point there is still something in flight. -/
lemma ConnAt.renewed (h : ConnAt own iss data fin u x s) {hdr : TcpHdr} (hs : s.core.state.opening = false)
    (hr : ackInRange s hdr.ackSeq = true) (hlt : lt s.snd.sndUna hdr.ackSeq = true)
    (hcut : own → cutsBeforeFin s.snd hdr.ackSeq = false) : Preserves own iss data s (ackNewData s hdr) := by
  obtain ⟨a, ha, hu, hx⟩ := h.position (.inr ⟨hlt, hr⟩)
  obtain ⟨s₁, hl, hsnd, hw, hca, he⟩ := ackNewData_spec s hdr
  have hfl := h.flightLe
  have h₁ : ConnAt own iss data fin a x s₁ := by
    rw [ha] at hcut hsnd
    refine h.acked hu hx hcut hsnd (by rw [hl.core]) (by rw [hl.core]; exact hs) (h.window (hw.imp_right fun hw => ⟨_, hw⟩))
      (by rw [hl.scale]; exact h.scale) fun hne => ?_
    rcases hca with hc | ⟨hc, hr', hge⟩
    · exact absurd hc hne
    · obtain ⟨r, hrec, hur, hrx⟩ := h.recovery (hc ▸ hne)
      rw [hrec, ha, ← Bool.not_eq_true, geq_label iss (by omega) (by omega), Nat.not_le] at hge
      exact ⟨r, hr'.trans hrec, hge, hrx⟩
  rcases he with he | ⟨hne, he⟩ <;> rw [he]
  · exact h₁.same hl.faults
  · exact (h₁.same hl.faults).moves (tcpRetransmitNow_moves hne)

lemma ConnAt.repeated (h : ConnAt own iss data fin u x s) (hs : s.core.state.opening = false) (hc : Repeats s c) :
    Preserves own iss data s c := by
  have hfl := h.flightLe
  have hle := h.le
  suffices hinv : ConnAt own iss data fin u x c from hinv.same hc.faults
  refine ⟨?_, ?_, fun ho => ?_, fun hne => ?_, ?_, ?_⟩
  · refine h.toQueued.same hc.snd (h.window hc.wnd) (by rw [hc.nego]; exact h.scale) ?_
    rw [hc.core]
    exact id
  · rw [hc.core]
    exact h.synSent
  · rw [hc.core, hs] at ho
    cases ho
  · rcases hc.cong with ⟨hca, hr⟩ | ⟨hg, hr⟩
    · rw [hr]
      exact h.recovery (hca ▸ hne)
    · rw [h.send.nxt, h.send.una, gt_label iss (by omega) (by omega)] at hg
      exact ⟨x, hr.trans h.send.nxt, hg, le_refl x⟩
  · rw [hc.snd]
    exact h.synBare
  · rw [hc.snd]
    exact h.owned

lemma ConnAt.answered (h : ConnAt own iss data false 0 x s) (hopen : s.cong.caState = .open) :
    Preserves own iss data s (answered s) := by
  have hne := h.send.flight.ne_nil h.send.synSent
  have hmem {P : SkBuff → Prop} (hP : ∀ b ∈ s.snd.retransmitQueue, P b) (hack : ∀ b, P b → P { b with flag.ack := true }) :
      ∀ b ∈ ackHead s.snd.retransmitQueue, P b := by
    cases hq : s.snd.retransmitQueue with
    | nil => exact absurd hq hne
    | cons b bs =>
      rw [hq, List.forall_mem_cons] at hP
      exact List.forall_mem_cons.mpr ⟨hack b hP.1, hP.2⟩
  exact ⟨⟨false, 0, x, h.toQueued.answered, nofun, fun _ => ⟨hopen, rfl⟩, h.recovery, hmem h.synBare fun _ => id,
    fun ho => hmem (h.owned ho) fun _ => id⟩, fun _ => .of_eq (if_neg hne)⟩

def AckClean (s : TcpSock) (g : Segment) : Prop :=
  g.hdr.flags.ack = true → g.hdr.flags.rst = false → g.hdr.flags.syn = false →
    (segAllow s.rcv g.hdr.seq g.segLen || timeWaitFin s g) = true → cutsBeforeFin s.snd g.hdr.ackSeq = false

lemma parseTcpOptions_inv (h : ConnAt own iss data fin u x s) (hdr : TcpHdr) :
    ConnAt own iss data fin u x (parseTcpOptions s hdr).1 := by
  obtain ⟨c, he, hc⟩ := parseTcpOptions_frame s hdr
  rw [he]
  refine h.onward (p := True) rfl h.wnd (parsedOptions_scale s hdr h.scale) (.refl _) (.inl ?_)
  rcases hc with rfl | rfl
  · exact .refl _
  · exact .inl rfl

lemma ConnAt.reads (h : ConnAt own iss data fin u x s) (ht : Reads s g t) :
    ConnAt own iss data fin u x (parseTcpOptions t g.hdr).1 ∧ (parseTcpOptions t g.hdr).1.env.faults = s.env.faults ∧
      (s.cong.caState = .open → (parseTcpOptions t g.hdr).1.cong.caState = .open) := by
  have ht : ConnAt own iss data fin u x t ∧ t.env.faults = s.env.faults ∧ t.cong = s.cong := by
    rcases ht with rfl | ⟨-, hb, hcong, -⟩
    · exact ⟨h, rfl, rfl⟩
    · exact ⟨h.beside hb, hb.faults, hcong⟩
  refine ⟨parseTcpOptions_inv ht.1 g.hdr, ?_⟩
  obtain ⟨c, he, hc⟩ := parseTcpOptions_frame t g.hdr
  rw [he]
  refine ⟨ht.2.1, fun ho => ?_⟩
  rcases hc with rfl | rfl
  · rw [ht.2.2]
    exact ho
  · rfl

lemma opening_of_takesAcks {st : TcpState} (h : takesAcks st = true) : st.opening = false := by
  cases st with
  | synSent | synReceived => cases h
  | _ => rfl

lemma tcpInput_inv (h : ConnAt own iss data fin u x s) (g : Segment) (hc : own → AckClean s g) :
    Preserves own iss data s (tcpInput s g) := by
  have hread {t : TcpSock} (ht : Reads s g t) {s' : TcpSock} (hp : Preserves own iss data (parseTcpOptions t g.hdr).1 s') :
      Preserves own iss data s s' := Preserves.trans (fun _ => .of_eq (h.reads ht).2.1) hp
  cases tcpInput_arrival s g with
  | unread hm => exact hm.preserves h
  | read ht hm => exact hread ht (hm.preserves (h.reads ht).1)
  | opened hs ht ho hm =>
    obtain ⟨hopen, rfl⟩ := h.opening hs
    exact hread ht (((h.reads ht).1.opens ((h.reads ht).2.2 hopen) ho).moves hm)
  | crossed hs ht hm =>
    obtain rfl := h.synSent hs
    obtain ⟨hopen, rfl⟩ := h.opening (by rw [hs]; rfl)
    exact hread ht (((h.reads ht).1.answered ((h.reads ht).2.2 hopen)).moves hm)
  | renewed hok ht hlt hb =>
    obtain ⟨hst, hseq, hrst, hsyn, hack, hr⟩ := takesUp_iff.mp ht
    have hcut : own → cutsBeforeFin (parseTcpOptions s g.hdr).1.snd g.hdr.ackSeq = false := by
      obtain ⟨c, he, -⟩ := parseTcpOptions_frame s g.hdr
      rw [he] at hseq ⊢
      exact fun ho => hc ho hack hrst hsyn hseq
    have hp := (parseTcpOptions_inv h g.hdr).renewed (opening_of_takesAcks hst) hr hlt hcut
    exact hread (.inl rfl) ((hp.moves (ackOwnFin_beside _).moves).moves hb.moves)
  | repeated hok ht hd hm =>
    have hst := opening_of_takesAcks (takesUp_iff.mp ht).1
    exact hread (.inl rfl) (((parseTcpOptions_inv h g.hdr).repeated hst hd).moves hm)

end Netfast.Tcp
