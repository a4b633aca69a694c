import Netfast.Tcp.RecvWindow

/-! The buffer counters: `send_buffer_len` counts the payload of both send queues, whatever numbers their packets
carry, and `recv_buffer_len` that of `recv_queue`. -/

namespace Netfast.Tcp

open Serial Skbuff

def Countable (b : SkBuff) : Prop := 0 < tcpSkbSeqLen b ∧ (b.flag.syn = true → b.flag.fin = false)

structure Paid (q : SendState) : Prop where
  len : q.sendBufferLen = (queueBytes q.retransmitQueue).length + (queueBytes q.sendQueue).length
  bound : q.sendBufferLen < 2 ^ 31
  max : q.sendBufferLenMax < 2 ^ 31
  flight : ∀ b ∈ q.retransmitQueue, Countable b
  unsent : ∀ b ∈ q.sendQueue, b.ownsSlot ∧ b.flag.syn = false

variable {q : SendState} {b : SkBuff}

lemma Countable.seqLen_le (h : Countable b) : tcpSkbSeqLen b ≤ skbDataLen b + 1 := by
  have hs := Bool.toNat_le b.flag.syn
  have hf := Bool.toNat_le b.flag.fin
  rw [tcpSkbSeqLen]
  cases hsyn : b.flag.syn with
  | false =>
    rw [Bool.toNat_false]
    omega
  | true =>
    rw [h.2 hsyn, Bool.toNat_false]
    rw [hsyn] at hs
    omega

lemma trimHead_paid {ack : Seq} (h : Countable b) (hlen : skbDataLen b < 2 ^ 31) (hgt : gt ack b.seq = true)
    (hlt : ¬geq ack (b.seq + BitVec.ofNat 32 (tcpSkbSeqLen b)) = true) :
    (trimHead ack b).2 + skbDataLen (trimHead ack b).1 = skbDataLen b ∧ Countable (trimHead ack b).1 := by
  have hle := h.seqLen_le
  have hk : 0 < (ack - b.seq).toNat ∧ (ack - b.seq).toNat < tcpSkbSeqLen b := by
    rw [gt_iff] at hgt
    rw [geq_iff] at hlt
    refine ⟨hgt.1, ?_⟩
    bv_omega
  have hseq : tcpSkbSeqLen b = skbDataLen b + b.flag.syn.toNat + b.flag.fin.toNat := rfl
  have hsyn := Bool.toNat_le b.flag.syn
  have hfin := Bool.toNat_le b.flag.fin
  have hdata : skbDataLen (trimHead ack b).1 = skbDataLen b - ((ack - b.seq).toNat - b.flag.syn.toNat) :=
    skbConsume_len b _
  have htrim : (trimHead ack b).2 = (ack - b.seq).toNat - b.flag.syn.toNat := rfl
  refine ⟨by omega, ?_, fun hc => by cases hc⟩
  have hrest : tcpSkbSeqLen (trimHead ack b).1 = skbDataLen (trimHead ack b).1 + b.flag.fin.toNat := rfl
  omega

lemma ackQueue_paid (ack : Seq) (bs : List SkBuff) (h : ∀ b ∈ bs, Countable b) (hlen : (queueBytes bs).length < 2 ^ 31) :
    (ackQueue ack bs).2.1 + (queueBytes (ackQueue ack bs).1).length = (queueBytes bs).length ∧
      ∀ b ∈ (ackQueue ack bs).1, Countable b := by
  induction bs with
  | nil => exact ⟨rfl, h⟩
  | cons b bs ih =>
    have hb := h b List.mem_cons_self
    have hbs := fun c hc => h c (List.mem_cons_of_mem b hc)
    rw [queueBytes_cons, List.length_append] at hlen ⊢
    change b.payload.length + _ < _ at hlen
    obtain ⟨hsum, hall⟩ := ih hbs (by omega)
    rw [ackQueue]
    split
    · next hgt =>
      split
      · refine ⟨?_, hall⟩
        change skbDataLen b + (ackQueue ack bs).2.1 + (queueBytes (ackQueue ack bs).1).length = skbDataLen b + _
        omega
      · next hlt =>
        obtain ⟨htrim, hc⟩ := trimHead_paid hb (show b.payload.length < 2 ^ 31 by omega) hgt hlt
        refine ⟨?_, ?_⟩
        · rw [queueBytes_cons, List.length_append]
          change (trimHead ack b).2 + (skbDataLen (trimHead ack b).1 + _) = skbDataLen b + _
          omega
        · intro c hc'
          rcases List.mem_cons.mp hc' with rfl | hc'
          · exact hc
          · exact hbs c hc'
    · exact ⟨by rw [queueBytes_cons, List.length_append]; exact Nat.zero_add _, h⟩

lemma ackedSend_paid (h : Paid q) (ack : Seq) : Paid (ackedSend q ack) := by
  have hlen := h.len
  have hbound := h.bound
  obtain ⟨hsum, hall⟩ := ackQueue_paid ack q.retransmitQueue h.flight (by omega)
  have hsub : subU32 q.sendBufferLen (ackQueue ack q.retransmitQueue).2.1 =
      q.sendBufferLen - (ackQueue ack q.retransmitQueue).2.1 := subU32_of_le (by omega) (by omega)
  refine ⟨?_, ?_, h.max, hall, h.unsent⟩
  · change subU32 _ _ = (queueBytes (ackQueue ack q.retransmitQueue).1).length + (queueBytes q.sendQueue).length
    rw [hsub]
    omega
  · change subU32 _ _ < _
    rw [hsub]
    omega

lemma tcpRetransmitEnqueue_paid (rtx : List SkBuff) (mss : ℕ) (b : SkBuff) (h : ∀ c ∈ rtx, Countable c)
    (hb : b.flag.syn = false) :
    (queueBytes (tcpRetransmitEnqueue rtx mss b)).length = (queueBytes rtx).length + skbDataLen b ∧
      ∀ c ∈ tcpRetransmitEnqueue rtx mss b, Countable c := by
  rcases tcpRetransmitEnqueue_cases rtx mss b with ⟨hz, he⟩ | ⟨hpos, he | ⟨init, last, merged, rfl, -, hl, hm, he⟩⟩ <;>
    rw [he]
  · rw [tcpSkbSeqLen] at hz
    exact ⟨by omega, h⟩
  · refine ⟨by simp [skbDataLen], forall_concat h ⟨hpos, fun hs => ?_⟩⟩
    rw [hb] at hs
    cases hs
  · have hc := h last (by simp)
    have hown : last.ownsSlot := ownsSlot_of_data (by rw [← ackOnly_seqLen hl]; exact hc.1)
    obtain ⟨hp, -, hflag, -⟩ := skbAppendSkb_spec hown hm
    refine ⟨by simp [skbDataLen, hp, Nat.add_assoc], forall_concat (fun c hc => h c (List.mem_append_left _ hc)) ⟨?_, ?_⟩⟩
    · have hlast := hc.1
      rw [ackOnly_seqLen hl, skbDataLen] at hlast
      rw [ackOnly_seqLen (hflag.trans hl), skbDataLen, hp, List.length_append]
      omega
    · rw [hflag]
      exact hc.2

lemma CutSlots.flatten {ds ds₁ ds₂ : List DataInfo} (h : CutSlots ds ds₁ ds₂) :
    Skbuff.flatten ds = Skbuff.flatten ds₁ ++ Skbuff.flatten ds₂ := by
  cases h with
  | inside pre d cut rest =>
    simp only [flatten_append, flatten_cons, flatten_nil, List.append_nil, List.append_assoc]
    rw [← List.append_assoc (List.take cut d.data), List.take_append_drop]
  | boundary pre rest => simp
  | alone room => simp

lemma Parts.dataLen {head tail : SkBuff} (h : Parts b head tail) : skbDataLen b = skbDataLen head + skbDataLen tail := by
  rw [skbDataLen, SkBuff.payload, h.slots.flatten, List.length_append]
  rfl

variable {s s' : TcpSock}

lemma Move.paid (hm : Move s s') (h : Paid s.snd) : Paid s'.snd := by
  cases hm with
  | beside hb =>
    rw [hb.snd]
    exact h
  | unrouted | routed | faulted | offered | bare | resent | sampled => exact h
  | resized hv => exact ⟨h.len, h.bound, hv, h.flight, h.unsent⟩
  | @sent b rest hq n hn hr _ _ push =>
    have hunsent := h.unsent
    have hlen := h.len
    rw [hq] at hunsent hlen
    obtain ⟨hbytes, hall⟩ := tcpRetransmitEnqueue_paid s.snd.retransmitQueue s.nego.sndMss b h.flight
      (hunsent b List.mem_cons_self).2
    refine ⟨?_, h.bound, h.max, hall, fun c hc => hunsent c (List.mem_cons_of_mem b hc)⟩
    rw [queueBytes_cons, List.length_append] at hlen
    change _ = _ + (skbDataLen b + _) at hlen
    change s.snd.sendBufferLen = (queueBytes (tcpRetransmitEnqueue _ _ b)).length + (queueBytes rest).length
    omega
  | @cut b head tail rest hq hp =>
    have hunsent := h.unsent
    have hlen := h.len
    rw [hq] at hunsent hlen
    obtain ⟨hown, hsyn⟩ := hunsent b List.mem_cons_self
    obtain ⟨-, -, -, -, howns, htail⟩ := hp.whole hsyn
    refine ⟨?_, h.bound, h.max, h.flight, fun c hc => ?_⟩
    · have hdata := hp.dataLen
      rw [queueBytes_cons, List.length_append] at hlen
      change _ = _ + (skbDataLen b + _) at hlen
      simp only [queueBytes_cons, List.length_append]
      change _ = _ + (skbDataLen head + (skbDataLen tail + _))
      omega
    · rcases List.mem_cons.mp hc with rfl | hc
      · exact ⟨howns hown, by rw [hp.headFlag]; exact hsyn⟩
      rcases List.mem_cons.mp hc with rfl | hc
      · exact ⟨htail, by rw [hp.tailFlag]; exact hsyn⟩
      · exact hunsent c (List.mem_cons_of_mem b hc)
  | @finLast ho _ last hlast =>
    obtain ⟨init, hq⟩ : ∃ init, s.snd.sendQueue = init ++ [last] :=
      ⟨s.snd.sendQueue.dropLast, (List.dropLast_append_getLast? last hlast).symm⟩
    have hunsent := h.unsent
    have hlen := h.len
    rw [hq] at hunsent hlen
    refine ⟨?_, h.bound, h.max, h.flight, fun c hc => ?_⟩
    · change s.snd.sendBufferLen = (queueBytes s.snd.retransmitQueue).length +
        (queueBytes (s.snd.sendQueue.dropLast ++ [{ last with flag.fin := true }])).length
      rw [hq, List.dropLast_concat, hlen, queueBytes_append, queueBytes_append]
      rfl
    · change c ∈ s.snd.sendQueue.dropLast ++ _ at hc
      rw [hq, List.dropLast_concat] at hc
      rcases List.mem_append.mp hc with hc | hc
      · exact hunsent c (List.mem_append_left _ hc)
      · rw [List.mem_singleton.mp hc]
        exact hunsent last (List.mem_append_right _ (List.mem_singleton_self _))
  | finAlone ho _ hq room =>
    have hlen := h.len
    rw [hq] at hlen
    refine ⟨hlen, h.bound, h.max, h.flight, fun c hc => ?_⟩
    rw [List.mem_singleton.mp hc]
    exact ⟨List.cons_ne_nil _ _, rfl⟩

lemma Moves.paid (hm : Moves s s') (h : Paid s.snd) : Paid s'.snd :=
  hm.invariant (I := fun t => Paid t.snd) (fun _ _ ht hm => hm.paid ht) h

/-! `tcp_write`. -/

lemma writeChunk_paid (h : Paid q) {chunk : List UInt8} {segLimit : ℕ} (room : ℕ) (hfit : chunk.length ≤ segLimit)
    (hm : q.sendBufferLen + chunk.length ≤ q.sendBufferLenMax) (f : Fates) :
    Paid (writeChunk q chunk segLimit room f).1 := by
  have hw := writeChunk_chunked q room f hfit
  generalize writeChunk q chunk segLimit room f = w at hw ⊢
  cases hw with
  | failed => exact h
  | put hg he =>
    have hqlen := h.len
    have hmax := h.max
    obtain ⟨hinit, hown, hsyn⟩ := hg.forall h.unsent ⟨List.cons_ne_nil _ _, rfl⟩
    obtain ⟨hp, -, hflag, hown'⟩ := skbDataAppend_spec hown he
    rw [hg.bytes, List.length_append] at hqlen
    dsimp only
    rw [Nat.mod_eq_of_lt (by omega)]
    refine ⟨?_, hm.trans_lt hmax, hmax, h.flight, forall_concat hinit ⟨hown', by rw [hflag]; exact hsyn⟩⟩
    simp only [queueBytes_append, queueBytes_cons, queueBytes_nil, List.append_nil, List.length_append, hp]
    omega

lemma Wrote.paid (hw : Wrote s s') (h : Paid s.snd) : Paid s'.snd := by
  cases hw with
  | @chunk ho c hc hl hm room f => exact writeChunk_paid h room hl hm f

lemma Writes.paid (hw : Writes s s') (h : Paid s.snd) : Paid s'.snd := by
  cases hw with
  | idle hm => exact hm.paid h
  | @queued t t' hr hw hm =>
    have ht : Paid t.snd := by
      have hk := setTcpSocketRoute_keeps s
      rw [hr] at hk
      rw [hk.snd]
      exact h
    refine hm.paid ?_
    clear hm
    induction hw with
    | refl => exact ht
    | tail _ hw ih => exact hw.paid ih

lemma ackHead_paid (bs : List SkBuff) (h : ∀ b ∈ bs, Countable b) :
    queueBytes (ackHead bs) = queueBytes bs ∧ ∀ b ∈ ackHead bs, Countable b := by
  cases bs with
  | nil => exact ⟨rfl, h⟩
  | cons b bs =>
    refine ⟨rfl, fun c hc => ?_⟩
    rcases List.mem_cons.mp hc with rfl | hc
    · exact h b List.mem_cons_self
    · exact h c (List.mem_cons_of_mem b hc)

lemma parseTcpOptions_snd (s : TcpSock) (hdr : TcpHdr) : (parseTcpOptions s hdr).1.snd = s.snd := (parsed_frame s hdr).2.2.1

lemma tcpInput_paid (h : Paid s.snd) (g : Segment) : Paid (tcpInput s g).snd := by
  have hread {t : TcpSock} (ht : Reads s g t) : Paid (parseTcpOptions t g.hdr).1.snd := by
    rw [parseTcpOptions_snd, ht.snd]
    exact h
  rcases (tcpInput_arrival s g).plain with hm | ⟨t, c, ht, hc, hm⟩ | ⟨t, ht, hm⟩
  · exact hm.paid h
  · refine hm.paid ?_
    cases hc with
    | same hv =>
      rw [hv.snd]
      exact hread ht
    | acked ack v r hv =>
      rw [hv.snd]
      exact ackedSend_paid (hread ht) ack
  · refine hm.paid ?_
    obtain ⟨hlen, hbound, hmax, hflight, hunsent⟩ := hread ht
    obtain ⟨hbytes, hall⟩ := ackHead_paid _ hflight
    refine ⟨?_, hbound, hmax, hall, hunsent⟩
    change _ = (queueBytes (ackHead _)).length + _
    rw [hbytes]
    exact hlen

lemma step_paid (h : Paid s.snd) (e : Event) : Paid (step s e).snd := by
  rw [step]
  split
  · cases hg : e.action.segment? with
    | some g =>
      rw [e.action.eq_input hg]
      exact tcpInput_paid (s := s.withInputs e.inputs) h g
    | none => exact (act_writes (s.withInputs e.inputs) hg).paid h
  · exact h

end Netfast.Tcp

namespace Netfast.Req

open Tcp Serial Skbuff Run

variable {s s' : TcpSock}

lemma synQueued_paid (h : Paid q) (seq : Seq) {flag : Flags} (hs : flag.syn = true) (hf : flag.fin = false)
    (room : ℕ) : Paid (synQueued q seq flag room) := by
  refine ⟨?_, h.bound, h.max, fun b hb => ?_, h.unsent⟩
  · have hlen := h.len
    simp only [synQueued, queueBytes_append, queueBytes_cons, queueBytes_nil, List.append_nil, List.length_append]
    simpa [skbAlloc, SkBuff.payload] using hlen
  · rcases List.mem_append.mp hb with hb | hb
    · exact h.flight b hb
    · rw [List.mem_singleton.mp hb]
      refine ⟨?_, fun _ => hf⟩
      rw [tcpSkbSeqLen]
      change 0 < _ + flag.syn.toNat + _
      rw [hs, Bool.toNat_true]
      omega

/-- A socket at the beginning of its life: just created, or the child of a listener that answered a SYN. -/
inductive Created : Lifetime → Prop
  | socket {s : TcpSock} (hf : Fresh s) (hw : WindowStart s.rcv) (hc : s.core.state = .closed) : Created { sock := s }
  | child {s : TcpSock} (hdr : TcpHdr) (hf : Fresh s) (hw : WindowStart s.rcv) : Created { sock := childSyn s hdr }

lemma fresh_paid (h : Fresh s) : Paid s.snd := by
  refine ⟨?_, ?_, h.max, ?_, ?_⟩
  · rw [h.len, h.flight, h.unsent]
    rfl
  · rw [h.len]
    omega
  · rw [h.flight]
    exact fun _ hb => by cases hb
  · rw [h.unsent]
    exact fun _ hb => by cases hb

lemma tcpSendFlag_paid (h : Paid s.snd) (seq ack : Seq) {flag : Flags} (hs : flag.syn = true) (hf : flag.fin = false) :
    Paid (tcpSendFlag s seq ack flag).1.snd := by
  rcases tcpSendFlag_syn s seq ack flag hs with ⟨hk, -⟩ | ⟨room, hk⟩
  · rw [hk.snd]
    exact h
  · rw [hk.snd]
    exact synQueued_paid h seq hs hf room

variable {l : Lifetime}

lemma Created.paid (h : Created l) : Paid l.sock.snd := by
  cases h with
  | socket hf _ _ => exact fresh_paid hf
  | @child s hdr hf hw =>
    obtain ⟨s₁, hp, he⟩ := childSyn_ready s hdr
    have hpaid : Paid s₁.snd := by
      rw [hp.snd]
      exact fresh_paid hf
    rcases he with he | he
    · rw [he]
      exact hpaid
    · rw [he]
      exact tcpSendFlag_paid hpaid _ _ rfl rfl

lemma Created.windowStart (h : Created l) : WindowStart l.sock.rcv := by
  cases h with
  | socket _ hw _ => exact hw
  | @child s hdr hf hw =>
    obtain ⟨s₁, hp, he⟩ := childSyn_ready s hdr
    have hstart : WindowStart s₁.rcv := by
      rw [hp.rcv]
      exact ⟨hw.queue, hw.held, hw.len, hw.wnd, hw.small⟩
    rcases he with he | he
    · rw [he]
      exact hstart
    · rw [he, (tcpSendFlag_spares s₁ _ _ _).rcv]
      exact hstart

structure Accounted (s : TcpSock) : Prop where
  send : s.snd.sendBufferLen = (queueBytes s.snd.retransmitQueue).length + (queueBytes s.snd.sendQueue).length
  recv : s.rcv.recvBufferLen = (queueBytes s.rcv.recvQueue).length
  small : s.snd.sendBufferLen < 2 ^ 31 ∧ s.rcv.recvBufferLen < 2 ^ 31

/-- A connect is called on a socket with no text in flight and none out of order, and fails with no text in flight. -/
def NothingLost (l : Lifetime) : LifeEvent → Prop
  | .io e => ∀ v hv, e.action = .setsockopt (.rcvbuf v hv) → v ≤ 2 ^ 31 - 2 ^ 16
  | .connect _ => l.sock.core.isConnected = false →
      queueBytes l.sock.snd.retransmitQueue = [] ∧ l.sock.rcv.unorderedSkbList = []
  | .retry i => l.givesUp i = true → queueBytes l.sock.snd.retransmitQueue = []

lemma Aborted.paid (ha : Aborted s s') (h : Paid s.snd) (hq : queueBytes s.snd.retransmitQueue = []) : Paid s'.snd := by
  have hlen := h.len
  rw [hq] at hlen
  rw [ha.snd]
  refine ⟨hlen, h.bound, h.max, fun b hb => ?_, h.unsent⟩
  cases hb

lemma Began.paid (hb : Began s s') (h : Paid s.snd) : Paid s'.snd := by
  obtain ⟨u, hr, hs⟩ := hb.syn
  have hpaid : Paid (tcpSendFlag { u with core.state := .synSent } u.snd.sndNxt 0 { syn := true }).1.snd :=
    tcpSendFlag_paid (by rw [hr.snd]; exact h) u.snd.sndNxt 0 rfl rfl
  obtain ⟨s₁, room, rfl, he, -⟩ := connectSyn_ok hs
  rw [he] at hpaid
  exact hpaid

lemma lifeStep_accounts {e : LifeEvent} (hp : Paid l.sock.snd) (hw : Window (2 ^ 31 - 2 ^ 16) l.sock)
    (hn : NothingLost l e) : Paid (lifeStep l e).sock.snd ∧ Window (2 ^ 31 - 2 ^ 16) (lifeStep l e).sock := by
  have ht := lifeStep_turn l e
  generalize (lifeStep l e).sock = s' at ht ⊢
  cases ht with
  | event ev => exact ⟨step_paid hp ev, step_window hw hn⟩
  | rests hr => exact ⟨by rw [hr.snd]; exact hp, (hr.slides hw).window⟩
  | failed hc ha => exact ⟨ha.paid hp (hn hc).1, (ha.slides hw).window⟩
  | gaveUp hg ha => exact ⟨ha.paid hp (hn hg), (ha.slides hw).window⟩
  | began hb => exact ⟨hb.paid hp, (hb.slides (hn hb.unconnected).2 hw).window⟩

theorem buffers_accounted {l : Lifetime} (h : Created l) {es : List LifeEvent} (hn : Meets lifeStep NothingLost l es) :
    ∀ es₁ es₂, es = es₁ ++ es₂ → Accounted (run lifeStep l es₁).sock := by
  rintro es₁ es₂ rfl
  have hstart : Window (2 ^ 31 - 2 ^ 16) l.sock := h.windowStart.window h.windowStart.small le_rfl
  have hrun : Paid (run lifeStep l es₁).sock.snd ∧ Window (2 ^ 31 - 2 ^ 16) (run lifeStep l es₁).sock :=
    run_invariant (I := fun m : Lifetime => Paid m.sock.snd ∧ Window (2 ^ 31 - 2 ^ 16) m.sock)
      (fun m e hm hok => lifeStep_accounts hm.1 hm.2 hok) ⟨h.paid, hstart⟩ hn.append.1
  obtain ⟨hp, hw⟩ := hrun
  obtain ⟨spent, -, hr, -⟩ := hw.recvd
  have hfits := hr.fits
  exact ⟨hp.len, hr.len, hp.bound, by omega⟩

def forgottenByteRun : List LifeEvent :=
  [.io { action := .setsockopt (.sndtimeo (some 500)) },
    .connect {},
    .io { action := .write [7] false, inputs := { now := 100 } },
    .io { action := .timer, inputs := { now := 110 } },
    .retry { now := 500 }]

lemma boundSock_created : Created { sock := boundSock } :=
  .socket boundSock_fresh (tcpPcbInit_windowStart false {}) rfl

theorem aborted_connect_loses_count :
    Created { sock := boundSock } ∧ (run lifeStep { sock := boundSock } forgottenByteRun).sock.snd.sendBufferLen = 1 ∧
      queueBytes (run lifeStep { sock := boundSock } forgottenByteRun).sock.snd.retransmitQueue = [] ∧
      queueBytes (run lifeStep { sock := boundSock } forgottenByteRun).sock.snd.sendQueue = [] ∧
      ¬Accounted (run lifeStep { sock := boundSock } forgottenByteRun).sock := by
  have hlen : (run lifeStep { sock := boundSock } forgottenByteRun).sock.snd.sendBufferLen = 1 := by decide
  have hflight : queueBytes (run lifeStep { sock := boundSock } forgottenByteRun).sock.snd.retransmitQueue = [] := by decide
  have hunsent : queueBytes (run lifeStep { sock := boundSock } forgottenByteRun).sock.snd.sendQueue = [] := by decide
  refine ⟨boundSock_created, hlen, hflight, hunsent, fun h => ?_⟩
  have hsum := h.send
  rw [hlen, hflight, hunsent] at hsum
  cases hsum

/-- The byte is sent once the peer has answered, and three bytes of the peer's arrive. -/
def servedByteRun : List LifeEvent :=
  forgottenByteRun.take 3 ++
    [.io { action := .input (bareSegment (plainHdr 500 1 { syn := true, ack := true })), inputs := { now := 105 } },
      .io { action := .timer, inputs := { now := 115 } },
      .io { action := .input (textSegment (plainHdr 501 1 { ack := true }) [1, 2, 3] (by decide)), inputs := { now := 120 } },
      .retry { now := 500 }]

theorem buffers_accounted_served :
    (run lifeStep { sock := boundSock } servedByteRun).sock.snd.sendBufferLen = 1 ∧
      (run lifeStep { sock := boundSock } servedByteRun).sock.rcv.recvBufferLen = 3 ∧
      Accounted (run lifeStep { sock := boundSock } servedByteRun).sock := by
  have hok : Meets lifeStep NothingLost { sock := boundSock } servedByteRun := by
    refine ⟨?_, fun _ => ⟨rfl, rfl⟩, ?_, ?_, ?_, ?_, fun hg => ?_, trivial⟩
    on_goal 6 => exact absurd hg (by decide)
    all_goals exact fun _ _ h => by cases h
  exact ⟨by decide, by decide, buffers_accounted boundSock_created hok _ [] (List.append_nil _).symm⟩

end Netfast.Req
