import Netfast.Tcp.Receive

/-! The receive side against the byte stream it carries: positions of the stream are natural numbers,
sequence numbers are their labels. -/

namespace Netfast.Tcp

open Serial Skbuff

def queueBytes (q : List SkBuff) : List UInt8 := q.flatMap SkBuff.payload

variable {b : SkBuff} {lo p : ℕ}

@[simp] lemma queueBytes_nil : queueBytes [] = [] := rfl

@[simp] lemma queueBytes_cons (b : SkBuff) (q : List SkBuff) :
    queueBytes (b :: q) = b.payload ++ queueBytes q := by
  simp [queueBytes]

@[simp] lemma queueBytes_append (p q : List SkBuff) : queueBytes (p ++ q) = queueBytes p ++ queueBytes q := by
  simp [queueBytes]

variable (S : List UInt8) (init : Seq)

structure SliceAt (b : SkBuff) (p : ℕ) : Prop where
  seq : b.seq = label init p
  payload : b.payload = (S.drop p).take (skbDataLen b)
  fits : p + skbDataLen b ≤ S.length
  short : skbDataLen b < 2 ^ 16

def Reorder (hi : ℕ) : ℕ → List SkBuff → Prop
  | _, [] => True
  | lo, b :: bs => ∃ p, lo ≤ p ∧ p < hi ∧ SliceAt S init b p ∧ Reorder hi (p + 1) bs

variable {S init}

lemma Reorder.mono {hi hi' lo' : ℕ} {bs : List SkBuff} (h : Reorder S init hi lo bs) (hh : hi ≤ hi')
    (hl : lo' ≤ lo) : Reorder S init hi' lo' bs := by
  induction bs generalizing lo lo' with
  | nil => trivial
  | cons b bs ih =>
    obtain ⟨p, hp, hp', hs, hr⟩ := h
    exact ⟨p, by omega, by omega, hs, ih hr (Nat.le_refl _)⟩

lemma SliceAt.truncate (h : SliceAt S init b p) (n : ℕ) : SliceAt S init (skbTruncate b n) p := by
  have hl : skbDataLen (skbTruncate b n) = min n (skbDataLen b) := by simp [skbDataLen]
  refine ⟨by rw [skbTruncate_seq, h.seq], ?_, ?_, ?_⟩
  · rw [skbTruncate_payload, hl, h.payload, List.take_take]
  · have := h.fits
    omega
  · have := h.short
    omega

lemma SliceAt.consume (h : SliceAt S init b p) {n : ℕ} (hn : n ≤ skbDataLen b) :
    SliceAt S init { skbConsume b n with seq := label init (p + n) } (p + n) := by
  have hl : skbDataLen { skbConsume b n with seq := label init (p + n) } = skbDataLen b - n :=
    skbConsume_len b n
  refine ⟨rfl, ?_, ?_, ?_⟩
  · rw [hl]
    change (skbConsume b n).payload = _
    rw [skbConsume_payload, h.payload, List.drop_take, List.drop_drop]
  · have := h.fits
    omega
  · have := h.short
    omega

variable {hi : ℕ}

/-- An insertion passes the first buffer of the list or stops in front of it. -/
lemma insert_cons {i : Seq} {b y : SkBuff} {p q : ℕ} {ys bs' : List SkBuff} (hy : y.seq = label i q) (hb : b.seq = label i p)
    (h : q < p + 2 ^ 31) (h' : p < q + 2 ^ 31) (hi' : addListNodeCompare tcpSeqCmp (y :: ys) b = some bs') :
    (q < p ∧ ∃ zs, addListNodeCompare tcpSeqCmp ys b = some zs ∧ y :: zs = bs') ∨ (p < q ∧ b :: y :: ys = bs') := by
  have hlt : lt y.seq b.seq = true ↔ q < p := by
    rw [hy, hb]
    exact lt_label i h h'.le
  have hgt : gt y.seq b.seq = true ↔ p < q := by
    rw [hy, hb]
    exact gt_label i h h'.le
  simp only [addListNodeCompare, tcpSeqCmp] at hi'
  by_cases hqp : q < p
  · rw [if_pos (hlt.mpr hqp)] at hi'
    exact .inl ⟨hqp, Option.map_eq_some_iff.mp hi'⟩
  · rw [if_neg (fun hc => hqp (hlt.mp hc))] at hi'
    by_cases hpq : p < q
    · rw [if_pos (hgt.mpr hpq)] at hi'
      exact .inr ⟨hpq, Option.some.inj hi'⟩
    · rw [if_neg (fun hc => hpq (hgt.mp hc))] at hi'
      cases hi'

lemma reorder_insert {bs bs' : List SkBuff} (h : Reorder S init hi lo bs)
    (hb : SliceAt S init b p) (hl : lo ≤ p) (hp : p < hi) (hh : hi ≤ lo + 2 ^ 31)
    (hi' : addListNodeCompare tcpSeqCmp bs b = some bs') : Reorder S init hi lo bs' := by
  induction bs generalizing lo bs' with
  | nil =>
    obtain rfl := Option.some.inj hi'
    exact ⟨p, hl, hp, hb, trivial⟩
  | cons y ys ih =>
    obtain ⟨q, hq, hq', hy, hr⟩ := h
    rcases insert_cons hy.seq hb.seq (by omega) (by omega) hi' with ⟨hqp, zs, hz, rfl⟩ | ⟨hpq, rfl⟩
    · exact ⟨q, hq, hq', hy, ih hr (by omega) (by omega) hz⟩
    · exact ⟨p, hl, hp, hb, q, by omega, hq', hy, hr⟩

structure StreamInv (S : List UInt8) (init : Seq) (out : List UInt8) (n : ℕ) (r : RecvState) : Prop where
  bound : n ≤ S.length
  nxt : r.rcvNxt = label init n
  bytes : out ++ queueBytes r.recvQueue = S.take n
  reorder : Reorder S init (n + r.recvBufferLenMax) (n + 1) r.unorderedSkbList
  max : r.recvBufferLenMax < 2 ^ 31
  wnd : r.rcvWnd ≤ r.recvBufferLenMax

variable {out : List UInt8} {n : ℕ} {r : RecvState}

lemma useableRecvBuff_le (r : RecvState) : useableRecvBuff r ≤ r.recvBufferLenMax := Nat.min_le_right _ _

lemma deliver_slice (hn : r.rcvNxt = label init n)
    (hq : out ++ queueBytes r.recvQueue = S.take n) (hb : SliceAt S init b n) :
    (deliver r b).rcvNxt = label init (n + skbDataLen b) ∧
      out ++ queueBytes (deliver r b).recvQueue = S.take (n + skbDataLen b) := by
  refine ⟨by simp only [deliver, hn, label_add], ?_⟩
  simp only [deliver, queueBytes_append, queueBytes_cons, queueBytes_nil, List.append_nil]
  rw [← List.append_assoc, hq, List.take_add, hb.payload]

lemma drain_stream (bs : List SkBuff) (h : Reorder S init hi lo bs)
    (hn : r.rcvNxt = label init n) (hq : out ++ queueBytes r.recvQueue = S.take n) (hb : n ≤ S.length)
    (hlo : n < lo + 2 ^ 16) (hhi : hi < n + 2 ^ 31) :
    ∃ m, n ≤ m ∧ m ≤ S.length ∧ (drainUnordered bs r).rcvNxt = label init m ∧
      out ++ queueBytes (drainUnordered bs r).recvQueue = S.take m ∧
      Reorder S init hi (m + 1) (drainUnordered bs r).unorderedSkbList ∧
      (drainUnordered bs r).recvBufferLenMax = r.recvBufferLenMax := by
  induction bs generalizing lo n r with
  | nil => exact ⟨n, le_rfl, hb, hn, hq, trivial, rfl⟩
  | cons it rest ih =>
    obtain ⟨p, hp, hp', hs, hr⟩ := h
    have hgt : gt it.seq r.rcvNxt = true ↔ n < p := by
      rw [hs.seq, hn]
      exact gt_label init (by omega) (by omega)
    have hlt : lt it.seq r.rcvNxt = true ↔ p < n := by
      rw [hs.seq, hn]
      exact lt_label init (by omega) (by omega)
    have hlen := hs.short
    have hfit := hs.fits
    unfold drainUnordered
    by_cases hnp : n < p
    · -- a gap in front of the first packet: the loop stops
      rw [if_pos (hgt.mpr hnp)]
      exact ⟨n, le_rfl, hb, hn, hq, ⟨p, by omega, hp', hs, hr⟩, rfl⟩
    rw [if_neg (fun hc => hnp (hgt.mp hc))]
    by_cases hpn : p < n
    · have hov : (r.rcvNxt - it.seq).toNat = n - p := by
        rw [hs.seq, hn]
        exact label_sub init (by omega) (by omega)
      rw [if_pos (hlt.mpr hpn)]
      simp only [hov]
      split
      · exact ih hr hn hq hb (by omega) (by omega)
      · next hgap =>
        have hc := hs.consume (n := n - p) (by omega)
        rw [show p + (n - p) = n by omega] at hc
        rw [hn]
        obtain ⟨hn', hq'⟩ := deliver_slice hn hq hc
        have hl : skbDataLen { skbConsume it (n - p) with seq := label init n } = skbDataLen it - (n - p) :=
          skbConsume_len it (n - p)
        rw [hl] at hn' hq'
        obtain ⟨m, hm, hrest⟩ := ih hr hn' hq' (by omega) (by omega) (by omega)
        exact ⟨m, by omega, hrest⟩
    · rw [if_neg (fun hc => hpn (hlt.mp hc))]
      obtain rfl : p = n := by omega
      obtain ⟨hn', hq'⟩ := deliver_slice hn hq hs
      obtain ⟨m, hm, hrest⟩ := ih hr hn' hq' (by omega) (by omega) (by omega)
      exact ⟨m, by omega, hrest⟩

lemma drained_inv (h : StreamInv S init out n r) {bs : List SkBuff} (hbs : Reorder S init hi lo bs)
    (hlo : n < lo + 2 ^ 16) (hhi : hi ≤ n + r.recvBufferLenMax) :
    ∃ m, n ≤ m ∧ StreamInv S init out m
      { drainUnordered bs r with rcvWnd := useableRecvBuff (drainUnordered bs r) } := by
  have hmax := h.max
  obtain ⟨m, hm, hmS, hnxt, hbytes, hord, hlen⟩ :=
    drain_stream bs hbs h.nxt h.bytes h.bound hlo (by omega)
  refine ⟨m, hm, hmS, hnxt, hbytes, ?_, ?_, useableRecvBuff_le _⟩
  · exact hord.mono (by simp only [hlen]; omega) le_rfl
  · simpa only [hlen] using hmax

lemma queueSegment_stream (h : StreamInv S init out n r) (hb : SliceAt S init b p)
    (hl : n ≤ p) (hp : p < n + r.recvBufferLenMax) :
    ∃ m, n ≤ m ∧ StreamInv S init out m (queueSegment r b).1 := by
  have hmax := h.max
  unfold queueSegment
  split
  · exact ⟨n, le_rfl, h⟩
  · next list hi =>
    have hord := reorder_insert (h.reorder.mono le_rfl (Nat.le_succ n)) hb hl hp (by omega) hi
    exact drained_inv h hord (by omega) le_rfl

lemma queueSegment_behind (h : StreamInv S init out n r) {a : ℕ} (hb : b.seq = label init a)
    (ha : a < n) (hlen : skbDataLen b ≤ n - a) (hfar : n - a + r.recvBufferLenMax ≤ 2 ^ 31) :
    ∃ m, n ≤ m ∧ StreamInv S init out m (queueSegment r b).1 := by
  have hfront : addListNodeCompare tcpSeqCmp r.unorderedSkbList b = some (b :: r.unorderedSkbList) := by
    have hord := h.reorder
    cases hl : r.unorderedSkbList with
    | nil => rfl
    | cons y ys =>
      rw [hl] at hord
      obtain ⟨q, hq, hq', hy, -⟩ := hord
      have hlt : ¬lt y.seq b.seq = true := by
        rw [hy.seq, hb, lt_label init (by omega) (by omega)]
        omega
      have hgt : gt y.seq b.seq = true := by
        rw [hy.seq, hb, gt_label init (by omega) (by omega)]
        omega
      simp only [addListNodeCompare, tcpSeqCmp, if_neg hlt, if_pos hgt]
  have hgt : ¬gt b.seq r.rcvNxt = true := by
    rw [hb, h.nxt, gt_label init (by omega) (by omega)]
    omega
  have hlt : lt b.seq r.rcvNxt = true := by
    rw [hb, h.nxt, lt_label init (by omega) (by omega)]
    exact ha
  have hov : (r.rcvNxt - b.seq).toNat = n - a := by
    rw [hb, h.nxt]
    exact label_sub init (by omega) (by omega)
  have hdrop : drainUnordered (b :: r.unorderedSkbList) r = drainUnordered r.unorderedSkbList r := by
    rw [drainUnordered, if_neg hgt, if_pos hlt]
    simp only [hov, if_pos hlen]
  simp only [queueSegment, hfront, hdrop]
  exact drained_inv h h.reorder (by omega) le_rfl

lemma segAllow_window (hn : r.rcvNxt = label init n) (hw : r.rcvWnd < 2 ^ 31) {a len : ℕ} (ha : n ≤ a)
    (ha' : a < n + 2 ^ 31) (hl : 0 < len) (hl' : len < 2 ^ 16)
    (h : segAllow r (label init a) len = true) : a < n + r.rcvWnd := by
  have hedge : r.rcvNxt + BitVec.ofNat 32 r.rcvWnd = label init (n + r.rcvWnd) := by rw [hn, label_add]
  have hlast : label init a + BitVec.ofNat 32 len - 1 = label init (a + len - 1) := by
    unfold label
    bv_omega
  simp only [segAllow, hedge, hlast, if_neg (Nat.pos_iff_ne_zero.mp hl)] at h
  split at h
  · cases h
  next hw0 =>
  simp only [Bool.or_eq_true, Bool.and_eq_true] at h
  rcases h with ⟨-, h⟩ | ⟨h, h'⟩
  · exact (lt_label init (by omega) (by omega)).mp h
  · by_cases hfar : a + len - 1 < n + 2 ^ 31
    · have := (lt_label init (by omega) (by omega)).mp h'
      omega
    · -- the last byte lies beyond the half space, so it cannot be in the window
      rw [hn, leq_iff, label_sub_neg init (by omega) (by omega)] at h
      rw [lt_iff, label_sub init (by omega) (by omega)] at h'
      omega

def RecvClean (n wnd max a len : ℕ) : Prop :=
  (a + len ≤ n ∧ n ≤ a + 2 ^ 31) ∨ (n ≤ a ∧ a < n + 2 ^ 31) ∨
    (a < n ∧ n < a + len ∧ min (a + len - n) wnd ≤ n - a ∧ n - a + max ≤ 2 ^ 31)

lemma tcpRecvData_stream (h : StreamInv S init out n r) {a : ℕ} (hb : SliceAt S init b a)
    (hallow : segAllow r b.seq (skbDataLen b) = true)
    (hc : RecvClean n r.rcvWnd r.recvBufferLenMax a (skbDataLen b)) :
    ∃ m, n ≤ m ∧ StreamInv S init out m (tcpRecvData r b).1 := by
  have hmax := h.max
  have hwnd := h.wnd
  have hshort := hb.short
  have hedge : r.rcvNxt + BitVec.ofNat 32 r.rcvWnd = label init (n + r.rcvWnd) := by rw [h.nxt, label_add]
  simp only [tcpRecvData]
  split
  · exact ⟨n, le_rfl, h⟩
  next hpos =>
  by_cases han : a < n
  · have hlt : lt b.seq r.rcvNxt = true := by
      rw [hb.seq, h.nxt, lt_label init (by omega) (by rcases hc with hc | hc | hc <;> omega)]
      exact han
    have hov : (r.rcvNxt - b.seq).toNat = n - a := by
      rw [hb.seq, h.nxt]
      exact label_sub init (by omega) (by rcases hc with hc | hc | hc <;> omega)
    simp only [hlt, hov, Bool.true_and, if_true]
    split
    · exact ⟨n, le_rfl, h⟩
    next hnew =>
    have hnew : ¬skbDataLen b ≤ n - a := by simpa using hnew
    obtain ⟨-, -, hshorter, hfar⟩ : a < n ∧ n < a + skbDataLen b ∧
        min (a + skbDataLen b - n) r.rcvWnd ≤ n - a ∧ n - a + r.recvBufferLenMax ≤ 2 ^ 31 := by
      rcases hc with hc | hc | hc
      · omega
      · omega
      · exact hc
    have hend : r.rcvNxt + BitVec.ofNat 32 (skbDataLen b - (n - a)) =
        label init (n + (skbDataLen b - (n - a))) := by rw [h.nxt, label_add]
    simp only [skbConsume_len, hend, hedge]
    split
    · exact ⟨n, le_rfl, h⟩
    next hin =>
    by_cases hgt : gt (label init (n + (skbDataLen b - (n - a)))) (label init (n + r.rcvWnd)) = true
    · have hbey : (label init (n + (skbDataLen b - (n - a))) - label init (n + r.rcvWnd)).toNat =
          skbDataLen b - (n - a) - r.rcvWnd := by
        have := (gt_label init (by omega) (by omega)).mp hgt
        rw [label_sub init (by omega) (by omega)]
        omega
      rw [if_pos hgt, hbey]
      refine queueSegment_behind h (a := a) (by rw [skbTruncate_seq, skbConsume_seq, hb.seq]) han ?_ hfar
      simp only [skbDataLen, skbTruncate_payload, skbConsume_payload, List.length_take, List.length_drop]
      rw [show b.payload.length = skbDataLen b from rfl]
      omega
    · have := mt (gt_label init (by omega) (by omega)).mpr hgt
      rw [if_neg hgt]
      refine queueSegment_behind h (a := a) (by rw [skbConsume_seq, hb.seq]) han ?_ hfar
      rw [skbConsume_len]
      omega
  · have hna : n ≤ a ∧ a < n + 2 ^ 31 := by
      rcases hc with hc | hc | hc
      · omega
      · exact hc
      · omega
    have hlt : lt b.seq r.rcvNxt = false := by
      rw [Bool.eq_false_iff, hb.seq, h.nxt, ne_eq, lt_label init (by omega) (by omega)]
      exact han
    have hwin : a < n + r.rcvWnd :=
      segAllow_window h.nxt (by omega) hna.1 hna.2 (by omega) hshort (hb.seq ▸ hallow)
    have hend : b.seq + BitVec.ofNat 32 (skbDataLen b) = label init (a + skbDataLen b) := by
      rw [hb.seq, label_add]
    simp only [hlt, Bool.false_and, Bool.false_eq_true, if_false, hend, hedge]
    split
    · exact ⟨n, le_rfl, h⟩
    · refine queueSegment_stream h (p := a) ?_ hna.1 (by omega)
      split
      · exact hb.truncate _
      · exact hb

lemma readLoop_bytes (q : List SkBuff) (len : ℕ) :
    (readLoop q len).1 ++ queueBytes (readLoop q len).2 = queueBytes q := by
  induction q generalizing len with
  | nil => rfl
  | cons b q ih =>
    unfold readLoop
    split
    · rfl
    split
    · next h =>
      have hb : b.payload = [] := List.length_eq_zero_iff.mp h
      rw [ih, queueBytes_cons, hb, List.nil_append]
    split
    · simp only [skbCopyBits_eq, List.drop_zero, queueBytes_cons, List.append_assoc, ih]
      rw [List.take_of_length_le (show b.payload.length ≤ skbDataLen b from le_rfl)]
    · simp only [skbCopyBits_eq, List.drop_zero, queueBytes_cons, skbConsume_payload, ← List.append_assoc,
        List.take_append_drop]

lemma readQueue_stream (h : StreamInv S init out n r) (len : ℕ) :
    StreamInv S init (out ++ (readQueue r len).1) n (readQueue r len).2 := by
  refine ⟨h.bound, h.nxt, ?_, h.reorder, h.max, useableRecvBuff_le _⟩
  simp only [readQueue]
  rw [List.append_assoc, readLoop_bytes, h.bytes]

end Netfast.Tcp
