import Netfast.Req.Life
import Netfast.Tcp.PeerFin

/-! The receive window: the bytes queued for the application and the bytes that wait for a gap to be filled share the
buffer, and the window is what is left of it. -/

namespace Netfast.Tcp

open Serial Skbuff Run

def Early (base : Seq) (hi : ℕ) : ℕ → List SkBuff → Prop
  | _, [] => True
  | lo, b :: bs => ∃ p, lo ≤ p ∧ p + skbDataLen b ≤ hi ∧ skbDataLen b < 2 ^ 16 ∧ b.seq = label base p ∧
      Early base hi (p + 1) bs

variable {g : Segment} {b : SkBuff} {n : ℕ}

section Early

variable {base : Seq} {hi lo : ℕ} {bs : List SkBuff}

lemma Early.mono {lo' : ℕ} (h : Early base hi lo bs) (hl : lo' ≤ lo) : Early base hi lo' bs := by
  cases bs with
  | nil => trivial
  | cons b bs =>
    obtain ⟨p, hp, hrest⟩ := h
    exact ⟨p, hl.trans hp, hrest⟩

lemma Early.widen {hi' : ℕ} (h : Early base hi lo bs) (hh : hi ≤ hi') : Early base hi' lo bs := by
  induction bs generalizing lo with
  | nil => trivial
  | cons b bs ih =>
    obtain ⟨p, hp, hend, hs, hseq, hr⟩ := h
    exact ⟨p, hp, hend.trans hh, hs, hseq, ih hr⟩

lemma Early.rebase {k : ℕ} (h : Early (label base k) hi lo bs) : Early base (k + hi) (k + lo) bs := by
  induction bs generalizing lo with
  | nil => trivial
  | cons b bs ih =>
    obtain ⟨p, hp, hend, hs, hseq, hr⟩ := h
    exact ⟨k + p, by omega, by omega, hs, by rw [hseq, label_label], ih hr⟩

lemma Early.advance {m : ℕ} (h : Early base hi lo bs) (hm : m ≤ lo) : Early (label base m) (hi - m) (lo - m) bs := by
  induction bs generalizing lo with
  | nil => trivial
  | cons b bs ih =>
    obtain ⟨p, hp, hend, hs, hseq, hr⟩ := h
    refine ⟨p - m, by omega, by omega, hs, ?_, ?_⟩
    · rw [hseq, label_label, show m + (p - m) = p by omega]
    · rw [show p - m + 1 = p + 1 - m by omega]
      exact ih hr (by omega)

lemma Early.of_mem (h : Early base hi lo bs) (hb : b ∈ bs) :
    ∃ p, lo ≤ p ∧ p + skbDataLen b ≤ hi ∧ b.seq = label base p := by
  induction bs generalizing lo with
  | nil => cases hb
  | cons c bs ih =>
    obtain ⟨p, hp, hend, -, hseq, hr⟩ := h
    rcases List.mem_cons.mp hb with rfl | hb
    · exact ⟨p, hp, hend, hseq⟩
    · obtain ⟨q, hq, hrest⟩ := ih hr hb
      exact ⟨q, by omega, hrest⟩

lemma Early.insert {p : ℕ} {bs' : List SkBuff} (h : Early base hi lo bs) (hseq : b.seq = label base p)
    (hl : lo ≤ p) (hend : p + skbDataLen b ≤ hi) (hs : skbDataLen b < 2 ^ 16) (hh : hi < 2 ^ 31)
    (hi' : addListNodeCompare tcpSeqCmp bs b = some bs') : Early base hi lo bs' := by
  induction bs generalizing lo bs' with
  | nil =>
    obtain rfl := Option.some.inj hi'
    exact ⟨p, hl, hend, hs, hseq, trivial⟩
  | cons y ys ih =>
    obtain ⟨q, hq, hqend, hys, hy, hr⟩ := h
    rcases insert_cons hy hseq (by omega) (by omega) hi' with ⟨hqp, zs, hz, rfl⟩ | ⟨hpq, rfl⟩
    · exact ⟨q, hq, hqend, hys, hy, ih hr (by omega) hz⟩
    · exact ⟨p, hl, hend, hs, hseq, q, by omega, hqend, hys, hy, hr⟩

end Early

structure Drained (base : Seq) (hi n m : ℕ) (r r' : RecvState) : Prop where
  le : n ≤ m
  fits : m ≤ hi
  nxt : r'.rcvNxt = label base m
  len : r'.recvBufferLen = r.recvBufferLen + (m - n)
  bytes : (queueBytes r'.recvQueue).length = (queueBytes r.recvQueue).length + (m - n)
  max : r'.recvBufferLenMax = r.recvBufferLenMax
  held : Early base hi (m + 1) r'.unorderedSkbList

lemma Drained.deliver {base : Seq} {hi m : ℕ} {r r' : RecvState} (hn : n + skbDataLen b ≤ m)
    (hlen : r.recvBufferLen + skbDataLen b < 2 ^ 32) (h : Drained base hi (n + skbDataLen b) m (deliver r b) r') :
    Drained base hi n m r r' := by
  have hl : (Tcp.deliver r b).recvBufferLen = r.recvBufferLen + skbDataLen b := Nat.mod_eq_of_lt hlen
  have hb : (queueBytes (Tcp.deliver r b).recvQueue).length = (queueBytes r.recvQueue).length + skbDataLen b := by
    simp [Tcp.deliver, skbDataLen]
  refine ⟨by omega, h.fits, h.nxt, ?_, ?_, h.max, h.held⟩
  · rw [h.len, hl]
    omega
  · rw [h.bytes, hb]
    omega

lemma drainUnordered_drained {base : Seq} {hi lo : ℕ} {r : RecvState} (bs : List SkBuff) (h : Early base hi lo bs)
    (hn : r.rcvNxt = label base n) (hlo : n < lo + 2 ^ 16) (hhi : hi < n + 2 ^ 31) (hle : n ≤ hi)
    (hcap : r.recvBufferLen + (hi - n) < 2 ^ 32) : ∃ m, Drained base hi n m r (drainUnordered bs r) := by
  induction bs generalizing lo n r with
  | nil => exact ⟨n, le_rfl, hle, hn, by simp [drainUnordered], by simp [drainUnordered], rfl, trivial⟩
  | cons it rest ih =>
    obtain ⟨p, hp, hend, hs, hseq, hr⟩ := h
    have hgt : gt it.seq r.rcvNxt = true ↔ n < p := by
      rw [hseq, hn]
      exact gt_label base (by omega) (by omega)
    have hlt : lt it.seq r.rcvNxt = true ↔ p < n := by
      rw [hseq, hn]
      exact lt_label base (by omega) (by omega)
    -- a packet that starts at the receive position is delivered, and the loop goes on behind it
    have hgo (b : SkBuff) (hb : n + skbDataLen b = p + skbDataLen it) :
        ∃ m, Drained base hi n m r (drainUnordered rest (deliver r b)) := by
      have hl : (deliver r b).recvBufferLen = r.recvBufferLen + skbDataLen b := Nat.mod_eq_of_lt (by omega)
      have hnxt : (deliver r b).rcvNxt = label base (n + skbDataLen b) := by rw [deliver, hn, label_add]
      obtain ⟨m, hm⟩ := ih hr hnxt (by omega) (by omega) (by omega) (by omega)
      exact ⟨m, .deliver hm.le (by omega) hm⟩
    rw [drainUnordered]
    by_cases hnp : n < p
    · rw [if_pos (hgt.mpr hnp)]
      exact ⟨n, le_rfl, hle, hn, by simp, by simp, rfl, p, by omega, hend, hs, hseq, hr⟩
    rw [if_neg (fun hc => hnp (hgt.mp hc))]
    by_cases hpn : p < n
    · have hov : (r.rcvNxt - it.seq).toNat = n - p := by
        rw [hseq, hn]
        exact label_sub base (by omega) (by omega)
      rw [if_pos (hlt.mpr hpn)]
      simp only [hov]
      split
      · exact ih hr hn (by omega) hhi hle hcap
      · next hnew =>
        refine hgo _ ?_
        change n + skbDataLen (skbConsume it (n - p)) = _
        rw [skbConsume_len]
        omega
    · rw [if_neg (fun hc => hpn (hlt.mp hc))]
      exact hgo it (by omega)

structure Recvd (cap fins : ℕ) (r : RecvState) : Prop where
  small : cap ≤ 2 ^ 31 - 2 ^ 16
  max : r.recvBufferLenMax ≤ cap
  len : r.recvBufferLen = (queueBytes r.recvQueue).length
  fits : r.recvBufferLen ≤ cap
  wnd : r.rcvWnd = r.recvBufferLenMax - r.recvBufferLen
  held : Early (r.rcvNxt - BitVec.ofNat 32 fins) (cap - r.recvBufferLen) 1 r.unorderedSkbList

variable {cap fins : ℕ} {r : RecvState}

lemma useableRecvBuff_eq (r : RecvState) : useableRecvBuff r = r.recvBufferLenMax - r.recvBufferLen := by
  rw [useableRecvBuff]
  split <;> omega

structure Grows (cap fins d : ℕ) (r r' : RecvState) : Prop where
  nxt : r'.rcvNxt = label r.rcvNxt d
  len : r'.recvBufferLen = r.recvBufferLen + d
  max : r'.recvBufferLenMax = r.recvBufferLenMax
  recvd : Recvd cap fins r'

lemma Recvd.grows_none (h : Recvd cap fins r) : Grows cap fins 0 r r := ⟨(label_zero _).symm, rfl, rfl, h⟩

lemma queueSegment_grows (h : Recvd cap 0 r) {base : Seq} {k p : ℕ} (hk : r.rcvNxt = label base k)
    (hb : b.seq = label base p) (hend : p + skbDataLen b ≤ k + (cap - r.recvBufferLen)) (hs : skbDataLen b < 2 ^ 16)
    (hshort : k < 2 ^ 16) : ∃ d, Grows cap 0 d r (queueSegment r b).1 := by
  have hcap := h.small
  have hfits := h.fits
  rw [queueSegment]
  split
  · exact ⟨0, h.grows_none⟩
  next list hlist =>
  have hheld := h.held
  rw [BitVec.sub_zero, hk] at hheld
  have hlist' := (hheld.rebase.mono (Nat.zero_le _)).insert hb (Nat.zero_le p) hend hs (by omega) hlist
  obtain ⟨m, hm⟩ := drainUnordered_drained list hlist' hk (by omega) (by omega) (by omega) (by omega)
  have hle := hm.le
  have hmfits := hm.fits
  have hlen := hm.len
  refine ⟨m - k, ?_, hlen, hm.max, hcap, hm.max.trans_le h.max, ?_, ?_, useableRecvBuff_eq _, ?_⟩
  · rw [hk, label_label, show k + (m - k) = m by omega]
    exact hm.nxt
  · change (drainUnordered list r).recvBufferLen = (queueBytes (drainUnordered list r).recvQueue).length
    rw [hlen, hm.bytes, h.len]
  · change (drainUnordered list r).recvBufferLen ≤ cap
    omega
  · change Early ((drainUnordered list r).rcvNxt - _) (cap - (drainUnordered list r).recvBufferLen) 1
      (drainUnordered list r).unorderedSkbList
    rw [BitVec.sub_zero, hm.nxt, hlen]
    have hadv := hm.held.advance (Nat.le_succ m)
    rwa [show m + 1 - m = 1 by omega,
      show k + (cap - r.recvBufferLen) - m = cap - (r.recvBufferLen + (m - k)) by omega] at hadv

lemma segAllow_within (hw : r.rcvWnd < 2 ^ 31) {seq : Seq} (hpos : n ≠ 0) (hn : n ≤ 2 ^ 16) (h : segAllow r seq n = true) :
    (lt seq r.rcvNxt = true → (r.rcvNxt - seq).toNat < n) ∧ (lt seq r.rcvNxt = false → (seq - r.rcvNxt).toNat < r.rcvWnd) := by
  rw [segAllow, if_neg hpos] at h
  split at h
  · cases h
  · next hz =>
    simp only [Bool.or_eq_true, Bool.and_eq_true, leq_iff, lt_iff] at h
    rw [← Bool.not_eq_true, lt_iff]
    refine ⟨fun hold => ?_, fun hnew => ?_⟩ <;> rcases h with h | h <;> bv_omega

lemma Segment.segLen_le (hs : g.hdr.flags.syn = false) : g.dataLen ≤ g.segLen ∧ g.segLen ≤ g.dataLen + 1 := by
  have hone := Bool.toNat_le g.hdr.flags.fin
  rw [Segment.segLen, hs, Bool.toNat_false]
  omega

lemma queueCut_grows (h : Recvd cap 0 r) {base x : Seq} {k p q : ℕ} (hk : r.rcvNxt = label base k)
    (hb : b.seq = label base p) (hx : x = label r.rcvNxt q) (hp : p ≤ k + q) (hq : q ≤ r.rcvWnd)
    (hs : skbDataLen b < 2 ^ 16) (hshort : k < 2 ^ 16) :
    ∃ d, Grows cap 0 d r (if gt (x + BitVec.ofNat 32 (skbDataLen b)) (r.rcvNxt + BitVec.ofNat 32 r.rcvWnd) &&
        decide (skbDataLen b ≤
          (x + BitVec.ofNat 32 (skbDataLen b) - (r.rcvNxt + BitVec.ofNat 32 r.rcvWnd)).toNat) then (r, false)
      else queueSegment r (if gt (x + BitVec.ofNat 32 (skbDataLen b)) (r.rcvNxt + BitVec.ofNat 32 r.rcvWnd) then
        skbTruncate b (skbDataLen b -
          (x + BitVec.ofNat 32 (skbDataLen b) - (r.rcvNxt + BitVec.ofNat 32 r.rcvWnd)).toNat) else b)).1 := by
  have hsmall := h.small
  have hmax := h.max
  have hwnd := h.wnd
  have hfits := h.fits
  have hend : x + BitVec.ofNat 32 (skbDataLen b) = label r.rcvNxt (q + skbDataLen b) := by rw [hx, label_add]
  have hedge : r.rcvNxt + BitVec.ofNat 32 r.rcvWnd = label r.rcvNxt r.rcvWnd := rfl
  rw [hend, hedge]
  cases hgt : gt (label r.rcvNxt (q + skbDataLen b)) (label r.rcvNxt r.rcvWnd) with
  | true =>
    have hpast : r.rcvWnd ≤ q + skbDataLen b := by
      rw [gt_iff] at hgt
      unfold label at hgt
      bv_omega
    rw [label_sub r.rcvNxt hpast (by omega)]
    simp only [Bool.true_and, if_true]
    split
    · exact ⟨0, h.grows_none⟩
    next hin =>
    rw [decide_eq_true_eq, Nat.not_le] at hin
    have hlen (n : ℕ) : skbDataLen (skbTruncate b n) = min n (skbDataLen b) := by simp [skbDataLen]
    refine queueSegment_grows h hk (by rw [skbTruncate_seq]; exact hb) ?_ ?_ hshort
    · rw [hlen]
      omega
    · rw [hlen]
      omega
  | false =>
    have hin : q + skbDataLen b ≤ r.rcvWnd := by
      rw [← Bool.not_eq_true, gt_label r.rcvNxt (by omega) (by omega)] at hgt
      omega
    simp only [Bool.false_and, Bool.false_eq_true, if_false]
    exact queueSegment_grows h hk hb (by omega) hs hshort

lemma tcpRecvData_grows (h : Recvd cap 0 r) (hs : g.hdr.flags.syn = false)
    (hallow : segAllow r g.hdr.seq g.segLen = true) : ∃ d, Grows cap 0 d r (tcpRecvData r g.skb).1 := by
  have hsmall := h.small
  have hmax := h.max
  have hwnd := h.wnd
  have hlen : skbDataLen g.skb < 2 ^ 16 := g.lenLt
  have hdata : skbDataLen g.skb = g.dataLen := rfl
  obtain ⟨hle, hle'⟩ := g.segLen_le hs
  rw [tcpRecvData]
  split
  · exact ⟨0, h.grows_none⟩
  next hpos =>
  cases hold : lt g.skb.seq r.rcvNxt with
  | true =>
    have hk := (segAllow_within (by omega) (by omega) (by omega) hallow).1 hold
    simp only [Bool.true_and, if_true]
    split
    · exact ⟨0, h.grows_none⟩
    next hov =>
    rw [decide_eq_true_eq, Nat.not_le] at hov
    have hbase : r.rcvNxt = label g.skb.seq (r.rcvNxt - g.skb.seq).toNat := label_eq_of_sub rfl
    refine queueCut_grows h (p := 0) hbase ?_ (label_zero _).symm (Nat.zero_le _) (Nat.zero_le _) ?_ ?_
    · rw [skbConsume_seq, label_zero]
    · rw [skbConsume_len]
      omega
    · exact hov.trans hlen
  | false =>
    have hp := (segAllow_within (by omega) (by omega) (by omega) hallow).2 hold
    simp only [Bool.false_and, Bool.false_eq_true, if_false]
    have hseq : g.skb.seq = label r.rcvNxt (g.skb.seq - r.rcvNxt).toNat := label_eq_of_sub rfl
    exact queueCut_grows h (label_zero _).symm hseq hseq (by omega) hp.le hlen (by omega)

lemma readQueue_recvd (h : Recvd cap fins r) (len : ℕ) : Recvd cap fins (readQueue r len).2 ∧
    (readQueue r len).2.recvBufferLen ≤ r.recvBufferLen := by
  have hb := congrArg List.length (readLoop_bytes r.recvQueue len)
  rw [List.length_append, ← h.len] at hb
  have hsmall := h.small
  have hfits := h.fits
  have hlen : (readQueue r len).2.recvBufferLen = (queueBytes (readQueue r len).2.recvQueue).length := by
    change subU32 r.recvBufferLen (readLoop r.recvQueue len).1.length = (queueBytes (readLoop r.recvQueue len).2).length
    rw [subU32_of_le (by omega) (by omega)]
    omega
  have hle : (readQueue r len).2.recvBufferLen ≤ r.recvBufferLen := by
    rw [hlen]
    change (queueBytes (readLoop r.recvQueue len).2).length ≤ _
    omega
  refine ⟨⟨hsmall, h.max, hlen, hle.trans hfits, useableRecvBuff_eq _, ?_⟩, hle⟩
  exact h.held.widen (by omega)

lemma Recvd.fin (h : Recvd cap fins r) : Recvd cap (fins + 1) { r with rcvNxt := r.rcvNxt + 1 } := by
  refine ⟨h.small, h.max, h.len, h.fits, h.wnd, ?_⟩
  have hbase : r.rcvNxt + 1 - BitVec.ofNat 32 (fins + 1) = r.rcvNxt - BitVec.ofNat 32 fins := by bv_omega
  change Early (r.rcvNxt + 1 - BitVec.ofNat 32 (fins + 1)) _ _ _
  rw [hbase]
  exact h.held

lemma Recvd.recount (h : Recvd cap fins r) (hu : r.unorderedSkbList = []) (n : Seq) (k : ℕ) :
    Recvd cap k { r with rcvNxt := n } := by
  refine ⟨h.small, h.max, h.len, h.fits, h.wnd, ?_⟩
  change Early _ _ _ r.unorderedSkbList
  rw [hu]
  trivial

lemma Recvd.resized (h : Recvd cap fins r) {v : ℕ} (hv : v ≤ cap) : Recvd cap fins
    { r with recvBufferLenMax := v, rcvWnd := useableRecvBuff { r with recvBufferLenMax := v } } :=
  ⟨h.small, hv, h.len, h.fits, useableRecvBuff_eq _, h.held⟩

lemma Arrows.not_late {a b : TcpState} (h : Arrows a b) (hb : b.late = false) : a.late = false := by
  cases ha : a.late with
  | false => rfl
  | true =>
    rw [h.late ha] at hb
    cases hb

lemma Arrows.synSent {a : TcpState} (h : Arrows a .synSent) : a = .synSent := by
  rcases Relation.ReflTransGen.cases_tail h with h | ⟨b, -, hb⟩
  · exact h.symm
  · exact absurd rfl hb.live.2

def rightEdge (r : RecvState) : Seq := r.rcvNxt + BitVec.ofNat 32 r.rcvWnd

structure Window (cap : ℕ) (s : TcpSock) : Prop where
  recvd : ∃ spent ≤ finsTaken s, Recvd cap spent s.rcv ∧ (s.core.state.late = false → spent = 0)
  syn : s.core.state = .synSent → s.rcv.unorderedSkbList = []

structure Slides (cap : ℕ) (s s' : TcpSock) : Prop where
  window : Window cap s'
  max : s'.rcv.recvBufferLenMax = s.rcv.recvBufferLenMax
  edge : s.rcv.recvBufferLenMax = cap → s.core.state ≠ .synSent →
    ∃ k ≤ cap + 1, rightEdge s'.rcv = label (rightEdge s.rcv) k

variable {s s' : TcpSock}

lemma Slides.of_rcv (h : Window cap s') (hr : s'.rcv = s.rcv) : Slides cap s s' := by
  refine ⟨h, by rw [hr], fun _ _ => ⟨0, Nat.zero_le _, ?_⟩⟩
  rw [hr, label_zero]

lemma Apart.slides (ha : Apart s s') (h : Window cap s) : Slides cap s s' := by
  obtain ⟨spent, hle, hr, hz⟩ := h.recvd
  refine .of_rcv ⟨⟨spent, by rw [ha.fins]; exact hle, by rw [ha.rcv]; exact hr, fun hl => hz ?_⟩, fun hs => ?_⟩ ha.rcv
  · exact ha.arrows.not_late hl
  · rw [ha.rcv]
    have harrows := ha.arrows
    rw [hs] at harrows
    exact h.syn harrows.synSent

lemma Synced.slides (hs : s.core.state = .synSent) (hy : Synced s g s') (h : Window cap s) : Slides cap s s' := by
  obtain ⟨spent, -, hr, -⟩ := h.recvd
  have hu := h.syn hs
  have hrcv := hy.rcv
  refine ⟨⟨⟨0, Nat.zero_le _, ?_, fun _ => rfl⟩, fun _ => ?_⟩, by rw [hrcv], fun _ hne => absurd hs hne⟩
  · rw [hrcv]
    exact hr.recount hu _ 0
  · rw [hrcv]
    exact hu

lemma Grows.edge {d : ℕ} {r' : RecvState} (h : Grows cap fins d r r') (hw : Recvd cap fins r)
    (hm : r.recvBufferLenMax = cap) : rightEdge r' = rightEdge r := by
  have hfits := h.recvd.fits
  rw [h.len] at hfits
  rw [rightEdge, rightEdge, h.nxt, h.recvd.wnd, h.max, h.len, hw.wnd, hm, ← label, label_label]
  exact congrArg (label r.rcvNxt) (by omega)

lemma Passed.text (hp : Passed s g) {spent : ℕ} (hr : Recvd cap spent s.rcv)
    (hz : s.core.state.late = false → spent = 0) : ∃ d, Grows cap spent d s.rcv (inputText (acknowledged s g) g).rcv := by
  have ha := acknowledged_apart s g
  rw [(inputText_taken (acknowledged s g) g).rcv, ha.rcv]
  cases ht : takesText (acknowledged s g).core.state with
  | false => exact ⟨0, hr.grows_none⟩
  | true =>
    have hopen : (acknowledged s g).core.state.late = false := by
      cases hl : (acknowledged s g).core.state.late with
      | false => rfl
      | true =>
        rw [late_takesText hl] at ht
        cases ht
    have hlate := ha.arrows.not_late hopen
    obtain rfl := hz hlate
    refine tcpRecvData_grows hr hp.syn ?_
    have hallow := hp.allowed
    have hwait : timeWaitFin s g = false := by
      have hne : s.core.state ≠ .timeWait := fun hc => by rw [hc] at hlate; cases hlate
      simp [timeWaitFin, hne]
    rwa [hwait, Bool.or_false] at hallow

lemma Passed.slides (hp : Passed s g) (h : Window cap s) :
    Slides cap s (inputFin (inputText (acknowledged s g) g) g) := by
  have ha := acknowledged_apart s g
  have ht := inputText_taken (acknowledged s g) g
  obtain ⟨spent, hle, hr, hz⟩ := h.recvd
  have hlive := ha.arrows.live ⟨hp.live.2.1, hp.live.2.2⟩
  obtain ⟨d, hd⟩ := hp.text hr hz
  have hfins := ht.fins.trans ha.fins
  rcases inputFin_cases (inputText (acknowledged s g) g) g with ⟨-, hf⟩ | ⟨-, hrcv, hcore, hn⟩
  · have hstate := hf.state
    rw [ht.core] at hstate
    have hlate := late_afterFin (decide ((inputText (acknowledged s g) g).snd.sndUna =
      (inputText (acknowledged s g) g).snd.sndEnd)) hlive
    rw [← hstate] at hlate
    refine ⟨⟨⟨spent + 1, by rw [hf.fins, hfins]; omega, by rw [hf.rcv]; exact hd.recvd.fin, fun hl => ?_⟩, fun hs => ?_⟩,
      by rw [hf.rcv]; exact hd.max, fun hm _ => ⟨1, Nat.le_add_left 1 cap, ?_⟩⟩
    · rw [hlate] at hl
      cases hl
    · rw [hs] at hlate
      cases hlate
    · rw [← hd.edge hr hm, hf.rcv, rightEdge, rightEdge, label]
      bv_omega
  · have hstate : (inputFin (inputText (acknowledged s g) g) g).core.state = (acknowledged s g).core.state := by
      rw [hcore, ht.core]
    refine ⟨⟨⟨spent, by rw [hn, hfins]; exact hle, by rw [hrcv]; exact hd.recvd, fun hl => hz ?_⟩, fun hs => ?_⟩,
      by rw [hrcv]; exact hd.max, fun hm _ => ⟨0, Nat.zero_le _, by rw [hrcv, hd.edge hr hm, label_zero]⟩⟩
    · rw [hstate] at hl
      exact ha.arrows.not_late hl
    · rw [hstate] at hs
      exact absurd hs hlive.2

lemma tcpInput_slides (h : Window cap s) (g : Segment) : Slides cap s (tcpInput s g) := by
  cases tcpInput_arrives s g with
  | apart ha => exact ha.slides h
  | synced hs hy => exact hy.slides hs h
  | passed hp he =>
    rw [he]
    exact hp.slides h

lemma readQueue_edge (h : Recvd cap fins r) (len : ℕ) :
    ∃ k ≤ cap + 1, rightEdge (readQueue r len).2 = label (rightEdge r) k := by
  obtain ⟨hr, hle⟩ := readQueue_recvd h len
  have hfits := h.fits
  have hmax : (readQueue r len).2.recvBufferLenMax = r.recvBufferLenMax := rfl
  refine ⟨(readQueue r len).2.rcvWnd - r.rcvWnd, ?_, ?_⟩
  · rw [hr.wnd, h.wnd, hmax]
    omega
  · rw [rightEdge, rightEdge, ← label, ← label, label_label]
    change label r.rcvNxt _ = _
    refine congrArg (label r.rcvNxt) ?_
    rw [hr.wnd, h.wnd, hmax]
    omega

lemma act_slides (h : Window cap s) {a : Action} (hno : ∀ v hv, a ≠ .setsockopt (.rcvbuf v hv)) : Slides cap s (act s a) := by
  cases hg : a.segment? with
  | some g =>
    rw [a.eq_input hg]
    exact tcpInput_slides h g
  | none =>
    have ht := act_touches s hg
    generalize act s a = s' at ht ⊢
    obtain ⟨spent, hle, hr, hz⟩ := h.recvd
    cases ht with
    | apart ha => exact ha.slides h
    | @read len expired s' hrcv hc hn =>
      refine ⟨⟨⟨spent, ?_, ?_, ?_⟩, ?_⟩, by rw [hrcv]; rfl, fun _ _ => by rw [hrcv]; exact readQueue_edge hr len⟩
      · rw [finsTaken, hn]
        exact hle
      · rw [hrcv]
        exact (readQueue_recvd hr len).1
      · rw [hc]
        exact hz
      · rw [hc, hrcv]
        exact h.syn
    | @resized v hv s' hrcv hc hn => exact absurd rfl (hno v hv)

lemma setRcvbuf_window (h : Window cap s) {v : ℕ} (hv : v < 2 ^ 31) (hle : v ≤ cap) :
    Window cap (act s (.setsockopt (.rcvbuf v hv))) := by
  have ht := act_touches s (a := .setsockopt (.rcvbuf v hv)) rfl
  generalize act s (.setsockopt (.rcvbuf v hv)) = s' at ht ⊢
  obtain ⟨spent, hspent, hr, hz⟩ := h.recvd
  cases ht with
  | apart ha => exact (ha.slides h).window
  | @resized v hv s' hrcv hc hn =>
    refine ⟨⟨spent, by rw [finsTaken, hn]; exact hspent, by rw [hrcv]; exact hr.resized hle, by rw [hc]; exact hz⟩, ?_⟩
    rw [hc, hrcv]
    exact h.syn

lemma step_slides (h : Window cap s) {e : Event} (hno : ∀ v hv, e.action ≠ .setsockopt (.rcvbuf v hv)) :
    Slides cap s (step s e) := by
  rw [step]
  split
  · have hi : Window cap (s.withInputs e.inputs) := ⟨h.recvd, h.syn⟩
    obtain ⟨hw, hm, he⟩ := act_slides hi hno
    exact ⟨hw, hm, he⟩
  · exact .of_rcv h rfl

lemma step_window (h : Window cap s) {e : Event} (hle : ∀ v hv, e.action = .setsockopt (.rcvbuf v hv) → v ≤ cap) :
    Window cap (step s e) := by
  by_cases hr : ∃ v hv, e.action = .setsockopt (.rcvbuf v hv)
  · obtain ⟨v, hv, he⟩ := hr
    rw [step]
    split
    · rw [he]
      exact setRcvbuf_window (s := s.withInputs e.inputs) ⟨h.recvd, h.syn⟩ hv (hle v hv he)
    · exact h
  · exact (step_slides h fun v hv he => hr ⟨v, hv, he⟩).window

end Netfast.Tcp

namespace Netfast.Req

open Tcp Serial Skbuff Run

variable {cap : ℕ} {s s' : TcpSock}

lemma Rests.slides (hr : Rests s s') (h : Window cap s) : Slides cap s s' := by
  refine .of_rcv ⟨?_, ?_⟩ hr.rcv
  · rw [hr.fins, hr.rcv, hr.state]
    exact h.recvd
  · rw [hr.rcv, hr.state]
    exact h.syn

lemma Aborted.slides (ha : Aborted s s') (h : Window cap s) : Slides cap s s' := by
  obtain ⟨spent, hle, hr, -⟩ := h.recvd
  refine .of_rcv ⟨⟨spent, by rw [ha.fins]; exact hle, by rw [ha.rcv]; exact hr, fun hl => ?_⟩, fun hs => ?_⟩ ha.rcv
  · rw [ha.state] at hl
    cases hl
  · rw [ha.state] at hs
    cases hs

lemma Began.rcv (hb : Began s s') : s'.rcv = s.rcv := by
  obtain ⟨u, hr, hs⟩ := hb.syn
  obtain ⟨s₁, room, rfl, -, hk⟩ := connectSyn_ok hs
  exact hk.rcv.trans hr.rcv

lemma Began.slides (hb : Began s s') (hu : s.rcv.unorderedSkbList = []) (h : Window cap s) : Slides cap s s' := by
  obtain ⟨spent, -, hr, -⟩ := h.recvd
  refine .of_rcv ⟨⟨0, Nat.zero_le _, ?_, fun _ => rfl⟩, fun _ => ?_⟩ hb.rcv
  · rw [hb.rcv]
    exact hr.recount hu s.rcv.rcvNxt 0
  · rw [hb.rcv]
    exact hu

/-- `connect` finds nothing out of order left by a connection before. -/
def NothingHeld (l : Lifetime) : LifeEvent → Prop
  | .connect _ => l.sock.core.isConnected = false → l.sock.rcv.unorderedSkbList = []
  | _ => True

def KeepsRcvbuf : LifeEvent → Prop
  | .io e => ∀ v hv, e.action ≠ .setsockopt (.rcvbuf v hv)
  | _ => True

lemma lifeStep_slides {l : Lifetime} (h : Window cap l.sock) {e : LifeEvent} (hk : KeepsRcvbuf e) (hn : NothingHeld l e) :
    Slides cap l.sock (lifeStep l e).sock := by
  have ht := lifeStep_turn l e
  generalize (lifeStep l e).sock = s' at ht ⊢
  cases ht with
  | event ev => exact step_slides h hk
  | rests hr => exact hr.slides h
  | failed hn ha => exact ha.slides h
  | gaveUp hg ha => exact ha.slides h
  | began hb => exact hb.slides (hn hb.unconnected) h

/-- Nothing was received, and the whole buffer is offered. -/
structure WindowStart (r : RecvState) : Prop where
  queue : r.recvQueue = []
  held : r.unorderedSkbList = []
  len : r.recvBufferLen = 0
  wnd : r.rcvWnd = r.recvBufferLenMax
  small : r.recvBufferLenMax ≤ 2 ^ 31 - 2 ^ 16

lemma WindowStart.window (h : WindowStart s.rcv) (hm : s.rcv.recvBufferLenMax ≤ cap) (hc : cap ≤ 2 ^ 31 - 2 ^ 16) :
    Window cap s := by
  have hr : Recvd cap 0 s.rcv := by
    refine ⟨hc, hm, by rw [h.queue, h.len]; rfl, by rw [h.len]; exact Nat.zero_le _, by rw [h.wnd, h.len]; rfl, ?_⟩
    rw [h.held]
    trivial
  exact ⟨⟨0, Nat.zero_le _, hr, fun _ => rfl⟩, fun _ => h.held⟩

lemma tcpPcbInit_windowStart (isV6 : Bool) (env : Env) : WindowStart (tcpPcbInit isV6 env).rcv := by
  refine ⟨rfl, rfl, rfl, rfl, ?_⟩
  change 262144 ≤ _
  omega

def InWindow (spent : ℕ) (r : RecvState) (b : SkBuff) : Prop :=
  (b.seq - (r.rcvNxt - BitVec.ofNat 32 spent)).toNat + skbDataLen b ≤ r.rcvWnd

/-- The right edge moves to the right only (after the SYN has set it), the buffer holds what is queued, and what waits
for a gap to be filled lies below the right edge. -/
structure WindowKept (l : Lifetime) (es : List LifeEvent) : Prop where
  edge : ∀ es₁ e es₂, es = es₁ ++ e :: es₂ → (run lifeStep l es₁).sock.core.state ≠ .synSent →
    leq (rightEdge (run lifeStep l es₁).sock.rcv) (rightEdge (run lifeStep l (es₁ ++ [e])).sock.rcv) = true
  queue : ∀ es₁ es₂, es = es₁ ++ es₂ →
    (queueBytes (run lifeStep l es₁).sock.rcv.recvQueue).length ≤ (run lifeStep l es₁).sock.rcv.recvBufferLenMax
  held : ∀ es₁ es₂, es = es₁ ++ es₂ → ∃ spent ≤ finsTaken (run lifeStep l es₁).sock,
    ((run lifeStep l es₁).sock.core.state.late = false → spent = 0) ∧
      ∀ b ∈ (run lifeStep l es₁).sock.rcv.unorderedSkbList, InWindow spent (run lifeStep l es₁).sock.rcv b

lemma run_window {l : Lifetime} (h : WindowStart l.sock.rcv) {es : List LifeEvent}
    (hes : Meets lifeStep (fun l e => KeepsRcvbuf e ∧ NothingHeld l e) l es) :
    Window l.sock.rcv.recvBufferLenMax (run lifeStep l es).sock ∧
      (run lifeStep l es).sock.rcv.recvBufferLenMax = l.sock.rcv.recvBufferLenMax := by
  refine run_invariant (I := fun m : Lifetime => Window l.sock.rcv.recvBufferLenMax m.sock ∧
    m.sock.rcv.recvBufferLenMax = l.sock.rcv.recvBufferLenMax) ?_ ⟨h.window le_rfl h.small, rfl⟩ hes
  rintro m e ⟨hw, hm⟩ ⟨hk, hn⟩
  have hs := lifeStep_slides hw hk hn
  exact ⟨hs.window, hs.max.trans hm⟩

theorem receive_window_kept {l : Lifetime} (h : WindowStart l.sock.rcv) {es : List LifeEvent} (hk : ∀ e ∈ es, KeepsRcvbuf e)
    (hn : Meets lifeStep NothingHeld l es) : WindowKept l es := by
  have hes := hn.and_mem hk
  refine ⟨?_, ?_, ?_⟩
  · rintro es₁ e es₂ rfl hne
    obtain ⟨hw, hm⟩ := run_window h hes.append.1
    obtain ⟨hke, hne'⟩ := hes.append.2.1
    obtain ⟨k, hle, hedge⟩ := (lifeStep_slides hw hke hne').edge hm hne
    have hsmall := h.small
    rw [run_append]
    change leq _ (rightEdge (lifeStep (run lifeStep l es₁) e).sock.rcv) = true
    rw [hedge]
    have hleq := leq_label (rightEdge (run lifeStep l es₁).sock.rcv) (p := 0) (q := k) (by omega) (by omega)
    rw [label_zero] at hleq
    exact hleq.mpr (Nat.zero_le k)
  · rintro es₁ es₂ rfl
    obtain ⟨⟨⟨spent, -, hr, -⟩, -⟩, hm⟩ := run_window h hes.append.1
    rw [← hr.len, hm]
    exact hr.fits
  · rintro es₁ es₂ rfl
    obtain ⟨⟨⟨spent, hle, hr, hz⟩, -⟩, hm⟩ := run_window h hes.append.1
    refine ⟨spent, hle, hz, fun b hb => ?_⟩
    obtain ⟨p, -, hend, hseq⟩ := hr.held.of_mem hb
    rw [InWindow, hseq, hr.wnd, hm]
    generalize (run lifeStep l es₁).sock.rcv.rcvNxt - BitVec.ofNat 32 spent = base
    have hsmall := h.small
    have hp := label_sub base (Nat.zero_le p) (by omega)
    rw [label_zero] at hp
    omega

def staleRun : List LifeEvent :=
  [.connect {},
    .io { action := .input (bareSegment (plainHdr 500 1 { syn := true, ack := true })), inputs := { now := 1000 } },
    .io { action := .input (textSegment (plainHdr 511 1 { ack := true }) [7] (by decide)), inputs := { now := 1001 } },
    .io { action := .input (bareSegment (plainHdr 501 1 { rst := true })), inputs := { now := 1002 } },
    .retry { now := 1003 },
    .connect { io := { now := 1004 } },
    .io { action := .input (bareSegment (plainHdr 4293918720 2 { syn := true, ack := true })), inputs := { now := 1005 } }]

lemma staleRun_keeps : ∀ e ∈ staleRun, KeepsRcvbuf e := by
  intro e he
  simp only [staleRun, List.mem_cons, List.not_mem_nil, or_false] at he
  rcases he with rfl | rfl | rfl | rfl | rfl | rfl | rfl
  all_goals first
    | trivial
    | exact fun _ _ h => by cases h

theorem stale_segment_beyond_edge : (∀ e ∈ staleRun, KeepsRcvbuf e) ∧
    (run lifeStep { sock := boundSock } staleRun).sock.rcv.unorderedSkbList.map SkBuff.seq = [511] ∧
    gt 511 (rightEdge (run lifeStep { sock := boundSock } staleRun).sock.rcv) = true ∧
    ¬WindowKept { sock := boundSock } staleRun := by
  have hfins : finsTaken (run lifeStep { sock := boundSock } staleRun).sock = 0 := by decide
  have hseq : (run lifeStep { sock := boundSock } staleRun).sock.rcv.unorderedSkbList.map SkBuff.seq = [511] := by
    decide
  refine ⟨staleRun_keeps, hseq, by decide, fun h => ?_⟩
  obtain ⟨spent, hle, -, hin⟩ := h.held staleRun [] (List.append_nil _).symm
  rw [hfins, Nat.le_zero] at hle
  have h511 : (511 : Seq) ∈ (run lifeStep { sock := boundSock } staleRun).sock.rcv.unorderedSkbList.map SkBuff.seq := by
    rw [hseq]
    exact List.mem_singleton_self _
  obtain ⟨b, hb, hbseq⟩ := List.mem_map.mp h511
  have hbad := hin b hb
  rw [InWindow, hle, hbseq] at hbad
  have hfar : (run lifeStep { sock := boundSock } staleRun).sock.rcv.rcvWnd <
      ((511 : Seq) - ((run lifeStep { sock := boundSock } staleRun).sock.rcv.rcvNxt - BitVec.ofNat 32 0)).toNat := by
    decide
  omega

/-- The gap is filled before the reset. -/
def filledRun : List LifeEvent :=
  staleRun.take 3 ++
    .io { action := .input (textSegment (plainHdr 501 1 { ack := true }) (List.replicate 10 7) (by decide)),
          inputs := { now := 1001 } } ::
    .io { action := .input (bareSegment (plainHdr 512 1 { rst := true })), inputs := { now := 1002 } } :: staleRun.drop 4

theorem receive_window_kept_filled :
    (run lifeStep { sock := boundSock } filledRun).sock.rcv.recvBufferLen = 11 ∧
      WindowKept { sock := boundSock } filledRun := by
  refine ⟨by decide, receive_window_kept (tcpPcbInit_windowStart false {}) (fun e he => ?_) ?_⟩
  · rcases List.mem_append.mp he with he | he
    · exact staleRun_keeps e (List.mem_of_mem_take he)
    · rcases List.mem_cons.mp he with rfl | he
      · exact fun _ _ h => by cases h
      · rcases List.mem_cons.mp he with rfl | he
        · exact fun _ _ h => by cases h
        · exact staleRun_keeps e (List.mem_of_mem_drop he)
  · exact ⟨fun _ => rfl, trivial, trivial, trivial, trivial, trivial, fun _ => by decide, trivial, trivial⟩

end Netfast.Req
