import Netfast.Lib.Tiling
import Netfast.Tcp.AckFrame
import Netfast.Tcp.Stream
import Netfast.Tcp.User

/-! The sequence space of the sender: one SYN, the bytes the application wrote, at most one FIN. The
retransmit queue and the send queue hold consecutive slices of it. -/

namespace Netfast.Tcp

open Serial Skbuff Tiling

inductive Sym
  | syn
  | byte (b : UInt8)
  | fin
deriving DecidableEq

def Sym.byte? : Sym → Option UInt8
  | .byte b => some b
  | _ => none

def bytesOf (xs : List Sym) : List UInt8 := xs.filterMap Sym.byte?

-- the numbers a segment occupies, in order
def syms (b : SkBuff) : List Sym :=
  (if b.flag.syn then [.syn] else []) ++ (b.payload.map .byte ++ if b.flag.fin then [.fin] else [])

def queueSyms (q : List SkBuff) : List Sym := q.flatMap syms

def sendStream (data : List UInt8) (fin : Bool) : List Sym :=
  .syn :: (data.map .byte ++ if fin then [.fin] else [])

variable (data : List UInt8)

@[simp] lemma syms_length (b : SkBuff) : (syms b).length = tcpSkbSeqLen b := by
  cases hs : b.flag.syn <;> cases hf : b.flag.fin <;> simp [syms, tcpSkbSeqLen, skbDataLen, hs, hf]

@[simp] lemma queueSyms_nil : queueSyms [] = [] := rfl

@[simp] lemma queueSyms_cons (b : SkBuff) (q : List SkBuff) : queueSyms (b :: q) = syms b ++ queueSyms q := by
  simp [queueSyms]

@[simp] lemma queueSyms_append (q r : List SkBuff) : queueSyms (q ++ r) = queueSyms q ++ queueSyms r := by
  simp [queueSyms]

@[simp] lemma bytesOf_append (xs ys : List Sym) : bytesOf (xs ++ ys) = bytesOf xs ++ bytesOf ys := by
  simp [bytesOf]

@[simp] lemma bytesOf_map (bs : List UInt8) : bytesOf (bs.map .byte) = bs := by
  induction bs with
  | nil => rfl
  | cons b bs ih =>
    change b :: bytesOf (bs.map .byte) = b :: bs
    rw [ih]

@[simp] lemma bytesOf_syms (b : SkBuff) : bytesOf (syms b) = b.payload := by
  have hs : bytesOf (if b.flag.syn then [.syn] else []) = [] := by cases b.flag.syn <;> rfl
  have hf : bytesOf (if b.flag.fin then [.fin] else []) = [] := by cases b.flag.fin <;> rfl
  rw [syms, bytesOf_append, bytesOf_append, bytesOf_map, hs, hf, List.append_nil, List.nil_append]

lemma bytesOf_queueSyms (q : List SkBuff) : bytesOf (queueSyms q) = queueBytes q := by
  induction q with
  | nil => rfl
  | cons b q ih => rw [queueSyms_cons, bytesOf_append, bytesOf_syms, ih, queueBytes_cons]

lemma sendStream_length (fin : Bool) : (sendStream data fin).length = data.length + 1 + fin.toNat := by
  cases fin <;> simp [sendStream]

lemma sendStream_append (bs : List UInt8) :
    sendStream (data ++ bs) false = sendStream data false ++ bs.map .byte := by
  simp [sendStream]

lemma sendStream_fin : sendStream data true = sendStream data false ++ [.fin] := by
  simp [sendStream]

lemma bytesOf_sendStream_drop (fin : Bool) (u : ℕ) : bytesOf ((sendStream data fin).drop u) = data.drop (u - 1) := by
  have hf : ∀ n, bytesOf (List.drop n (if fin then [Sym.fin] else [])) = [] := by
    intro n
    cases fin
    · simp [bytesOf]
    · cases n <;> simp [bytesOf, Sym.byte?]
  cases u with
  | zero =>
    change bytesOf (data.map Sym.byte ++ if fin then [.fin] else []) = data
    rw [bytesOf_append, bytesOf_map]
    simpa using hf 0
  | succ u =>
    rw [sendStream, List.drop_succ_cons, List.drop_append, bytesOf_append, ← List.map_drop, bytesOf_map, hf,
      List.append_nil, Nat.add_sub_cancel]

lemma syn_notMem_drop (fin : Bool) {x : ℕ} (hx : 1 ≤ x) : Sym.syn ∉ (sendStream data fin).drop x := by
  obtain ⟨y, rfl⟩ : ∃ y, x = y + 1 := ⟨x - 1, by omega⟩
  rw [sendStream, List.drop_succ_cons]
  intro h
  have h' := List.mem_of_mem_drop h
  cases fin <;> simp at h'

lemma fin_notMem_stream : Sym.fin ∉ sendStream data false := by
  simp [sendStream]

lemma sendStream_fin_last {data : List UInt8} {fin : Bool} {pre post : List Sym}
    (h : sendStream data fin = pre ++ .fin :: post) : post = [] := by
  cases fin with
  | false =>
    have hm : Sym.fin ∈ sendStream data false := h ▸ List.mem_append_right pre List.mem_cons_self
    exact absurd hm (fin_notMem_stream data)
  | true =>
    rw [sendStream_fin] at h
    rcases List.eq_nil_or_concat post with hp | ⟨post', z, rfl⟩
    · exact hp
    · rw [List.concat_eq_append] at h
      have h' : sendStream data false ++ [Sym.fin] = (pre ++ .fin :: post') ++ [z] := by simpa using h
      have hinit := (List.append_inj_left' h' rfl)
      exact absurd (hinit ▸ List.mem_append_right pre List.mem_cons_self) (fin_notMem_stream data)

lemma mem_syms_syn (b : SkBuff) : Sym.syn ∈ syms b ↔ b.flag.syn = true := by
  cases hs : b.flag.syn <;> cases hf : b.flag.fin <;> simp [syms, hs, hf]

lemma mem_syms_fin (b : SkBuff) : Sym.fin ∈ syms b ↔ b.flag.fin = true := by
  cases hs : b.flag.syn <;> cases hf : b.flag.fin <;> simp [syms, hs, hf]

variable {b : SkBuff}

lemma syms_plain (hs : b.flag.syn = false) (hf : b.flag.fin = false) : syms b = b.payload.map .byte := by
  simp [syms, hs, hf]

lemma syms_noSyn (b : SkBuff) (hs : b.flag.syn = false) :
    syms b = b.payload.map .byte ++ if b.flag.fin then [.fin] else [] := by
  simp [syms, hs]

lemma syms_clearFin (hs : b.flag.syn = false) : syms { b with flag.fin := false } = b.payload.map .byte :=
  syms_plain hs rfl

lemma mem_queueSyms {q : List SkBuff} (hb : b ∈ q) {y : Sym} (hy : y ∈ syms b) : y ∈ queueSyms q :=
  List.mem_flatMap.mpr ⟨b, hb, hy⟩

/-! The send-queue invariant, and the operations on the two queues that keep it: an acknowledgement, a
segment moving from one queue to the other, a split, an append and the FIN. -/

abbrev SegTiles (iss : Seq) : ℕ → List SkBuff → ℕ → Prop := Tiles (label iss) SkBuff.seq tcpSkbSeqLen

structure SendInv (iss : Seq) (S : List Sym) (u x : ℕ) (q : SendState) : Prop where
  una : q.sndUna = label iss u
  nxt : q.sndNxt = label iss x
  fin : q.sndEnd = label iss S.length
  flight : SegTiles iss u q.retransmitQueue x
  unsent : SegTiles iss x q.sendQueue S.length
  stream : queueSyms (q.retransmitQueue ++ q.sendQueue) = S.drop u
  bytes : q.sendBufferLen = (bytesOf (S.drop u)).length
  bound : q.sendBufferLen < 2 ^ 31
  synSent : 1 ≤ x
  owned : ∀ b ∈ q.sendQueue, b.ownsSlot

variable {iss : Seq} {S : List Sym} {u x : ℕ} {q : SendState} {data : List UInt8}

variable {r : List SkBuff} {b : SkBuff} {a : ℕ}

lemma queueSyms_length (q : List SkBuff) : (queueSyms q).length = (q.map tcpSkbSeqLen).sum := by
  rw [queueSyms, List.length_flatMap]
  congr 1
  exact List.map_congr_left fun b _ => syms_length b

lemma SegTiles.length {b : ℕ} (h : SegTiles iss a r b) : a + (queueSyms r).length = b := by
  rw [queueSyms_length]
  exact h.sum

lemma SendInv.unsent_syms (h : SendInv iss S u x q) : queueSyms q.sendQueue = S.drop x := by
  have hl := h.flight.length
  have hs := h.stream
  rw [queueSyms_append] at hs
  have hd := congrArg (List.drop (queueSyms q.retransmitQueue).length) hs
  rw [List.drop_left, List.drop_drop] at hd
  rw [hd, hl]

lemma SendInv.unsent_noSyn {fin : Bool} (h : SendInv iss (sendStream data fin) u x q)
    (hb : b ∈ q.sendQueue) : b.flag.syn = false := by
  have hn := syn_notMem_drop data fin h.synSent
  rw [← h.unsent_syms] at hn
  rw [← Bool.not_eq_true, ← mem_syms_syn]
  exact fun hm => hn (mem_queueSyms hb hm)

lemma SendInv.unsent_noFin (h : SendInv iss (sendStream data false) u x q)
    (hb : b ∈ q.sendQueue) : b.flag.fin = false := by
  rw [← Bool.not_eq_true, ← mem_syms_fin]
  intro hm
  have hq := mem_queueSyms hb hm
  rw [h.unsent_syms] at hq
  exact fin_notMem_stream data (List.mem_of_mem_drop hq)

lemma SendInv.fin_last {fin : Bool} (h : SendInv iss (sendStream data fin) u x q) {pre post : List SkBuff}
    (hq : q.retransmitQueue ++ q.sendQueue = pre ++ b :: post) (hb : b.flag.fin = true) : post = [] := by
  have hst := h.stream
  have hsplit : syms b = (syms b).dropLast ++ [.fin] := by
    simp only [syms, hb, if_true]
    rw [← List.append_assoc, List.dropLast_concat]
  rw [hq, queueSyms_append, queueSyms_cons, hsplit] at hst
  have hwhole : sendStream data fin =
      ((sendStream data fin).take u ++ (queueSyms pre ++ (syms b).dropLast)) ++ .fin :: queueSyms post := by
    conv_lhs => rw [← List.take_append_drop u (sendStream data fin), ← hst]
    simp
  have hpost := sendStream_fin_last hwhole
  cases post with
  | nil => rfl
  | cons c post =>
    have hpos : 0 < tcpSkbSeqLen c := by
      have hc : c ∈ q.retransmitQueue ++ q.sendQueue := by simp [hq]
      rcases List.mem_append.mp hc with hc | hc
      · exact h.flight.pos hc
      · exact h.unsent.pos hc
    rw [queueSyms_cons, List.append_eq_nil_iff] at hpost
    rw [← syms_length, hpost.1] at hpos
    cases hpos

lemma ackOnly_syms (h : b.flag = .ackOnly) : syms b = b.payload.map .byte := by
  apply syms_plain <;> rw [h] <;> rfl

lemma ackOnly_seqLen (h : b.flag = .ackOnly) : tcpSkbSeqLen b = skbDataLen b := by
  simp [tcpSkbSeqLen, h, Flags.ackOnly]

lemma ownsSlot_of_data (h : 0 < skbDataLen b) : b.ownsSlot := by
  intro hb
  rw [skbDataLen, SkBuff.payload, hb] at h
  exact Nat.lt_irrefl 0 h

lemma forall_concat {α : Type*} {P : α → Prop} {l : List α} {a : α} (hl : ∀ x ∈ l, P x) (ha : P a) : ∀ x ∈ l ++ [a], P x :=
  List.forall_mem_append.mpr ⟨hl, List.forall_mem_singleton.mpr ha⟩

/-- What is sent waits in a packet of its own, or in the one before if both are small. -/
lemma tcpRetransmitEnqueue_cases (r : List SkBuff) (mss : ℕ) (b : SkBuff) :
    tcpSkbSeqLen b = 0 ∧ tcpRetransmitEnqueue r mss b = r ∨
      0 < tcpSkbSeqLen b ∧ (tcpRetransmitEnqueue r mss b = r ++ [b] ∨
        ∃ init last merged, r = init ++ [last] ∧ b.flag = .ackOnly ∧ last.flag = .ackOnly ∧
          skbAppendSkb last b = some merged ∧ tcpRetransmitEnqueue r mss b = init ++ [merged]) := by
  unfold tcpRetransmitEnqueue
  split
  · next hz => exact .inl ⟨hz, rfl⟩
  next hpos =>
  refine .inr ⟨Nat.pos_of_ne_zero hpos, ?_⟩
  split
  · exact .inl rfl
  next last hlast =>
  split
  · next hmerge =>
    split
    · next merged hm =>
      exact .inr ⟨r.dropLast, last, merged, (List.dropLast_append_getLast? last hlast).symm, hmerge.1, hmerge.2.1, hm, rfl⟩
    · exact .inl rfl
  · exact .inl rfl

lemma tcpRetransmitEnqueue_spec (mss : ℕ) (h : SegTiles iss u r x)
    (hseq : b.seq = label iss x) (hpos : 0 < tcpSkbSeqLen b) :
    SegTiles iss u (tcpRetransmitEnqueue r mss b) (x + tcpSkbSeqLen b) ∧
      queueSyms (tcpRetransmitEnqueue r mss b) = queueSyms r ++ syms b ∧
      (∀ c ∈ tcpRetransmitEnqueue r mss b, c ∈ r ∨ c = b ∨ (c.ownsSlot ∧ c.flag = .ackOnly)) := by
  rcases tcpRetransmitEnqueue_cases r mss b with ⟨hz, -⟩ | ⟨-, he | ⟨init, last, merged, rfl, hb, hl, hm, he⟩⟩
  · omega
  · rw [he]
    exact ⟨tiles_concat.mpr ⟨x, h, hseq, hpos, rfl⟩, by simp, forall_concat (fun _ => .inl) (.inr (.inl rfl))⟩
  obtain ⟨y, hy, hls, hlp, hx⟩ := tiles_concat.mp h
  have hown : last.ownsSlot := ownsSlot_of_data (by rw [← ackOnly_seqLen hl]; exact hlp)
  obtain ⟨hp, hms, hmf, hmo⟩ := skbAppendSkb_spec hown hm
  have hmlen : tcpSkbSeqLen merged = tcpSkbSeqLen last + tcpSkbSeqLen b := by
    rw [ackOnly_seqLen (hmf.trans hl), ackOnly_seqLen hl, ackOnly_seqLen hb]
    simp [skbDataLen, hp]
  rw [he]
  refine ⟨tiles_concat.mpr ⟨y, hy, hms.trans hls, by omega, by omega⟩, ?_, ?_⟩
  · simp [ackOnly_syms (hmf.trans hl), ackOnly_syms hl, ackOnly_syms hb, hp]
  · exact forall_concat (fun c hc => .inl (List.mem_append_left _ hc)) (.inr (.inr ⟨hmo, hmf.trans hl⟩))

lemma SendInv.submit {rest : List SkBuff} (mss : ℕ) (h : SendInv iss S u x q)
    (hq : q.sendQueue = b :: rest) :
    SendInv iss S u (x + tcpSkbSeqLen b) { q with
      sndNxt := q.sndNxt + BitVec.ofNat 32 (tcpSkbSeqLen b)
      sendQueue := rest
      retransmitQueue := tcpRetransmitEnqueue q.retransmitQueue mss b } := by
  have hu := h.unsent
  rw [hq] at hu
  obtain ⟨hseq, hpos, hrest⟩ := hu
  obtain ⟨ht, hs, -⟩ := tcpRetransmitEnqueue_spec mss h.flight hseq hpos
  have hsyms := h.stream
  rw [hq] at hsyms
  have hx := h.synSent
  refine ⟨h.una, ?_, h.fin, ht, hrest, ?_, h.bytes, h.bound, by omega, ?_⟩
  · simp only [h.nxt, label_add]
  · rw [← hsyms]
    simp [hs]
  · intro c hc
    exact h.owned c (hq ▸ List.mem_cons_of_mem b hc)

lemma SendInv.split {head tail : SkBuff} {rest : List SkBuff} (h : SendInv iss S u x q)
    (hq : q.sendQueue = b :: rest) (hsyms : syms b = syms head ++ syms tail)
    (hhead : head.seq = b.seq) (htail : tail.seq = b.seq + BitVec.ofNat 32 (tcpSkbSeqLen head))
    (hpos : 0 < tcpSkbSeqLen head) (hpos' : 0 < tcpSkbSeqLen tail) (how : head.ownsSlot) (how' : tail.ownsSlot) :
    SendInv iss S u x { q with sendQueue := head :: tail :: rest } := by
  have hu := h.unsent
  rw [hq] at hu
  obtain ⟨hseq, -, hrest⟩ := hu
  have hlen : tcpSkbSeqLen b = tcpSkbSeqLen head + tcpSkbSeqLen tail := by
    rw [← syms_length, hsyms, List.length_append, syms_length, syms_length]
  have hs := h.stream
  rw [hq] at hs
  refine ⟨h.una, h.nxt, h.fin, h.flight, ⟨hhead.trans hseq, hpos, ?_, hpos', ?_⟩, ?_, h.bytes, h.bound, h.synSent, ?_⟩
  · rw [htail, hseq, label_add]
  · rw [Nat.add_assoc, ← hlen]
    exact hrest
  · rw [← hs]
    simp [hsyms]
  · intro c hc
    rcases List.mem_cons.mp hc with rfl | hc
    · exact how
    rcases List.mem_cons.mp hc with rfl | hc
    · exact how'
    · exact h.owned c (hq ▸ List.mem_cons_of_mem b hc)

lemma trimHead_syms {ack : Seq} {k : ℕ} (hk : (ack - b.seq).toNat = k) (hpos : 0 < k)
    (hlt : k < tcpSkbSeqLen b) :
    syms (trimHead ack b).1 = (syms b).drop k ∧ (trimHead ack b).2 = (bytesOf ((syms b).take k)).length := by
  have hsyn : (if b.flag.syn then [Sym.syn] else []).length = b.flag.syn.toNat := by cases b.flag.syn <;> rfl
  have hbyte : bytesOf (if b.flag.syn then [Sym.syn] else []) = [] := by cases b.flag.syn <;> rfl
  have hone : b.flag.syn.toNat ≤ 1 := Bool.toNat_le _
  have hone' : b.flag.fin.toNat ≤ 1 := Bool.toNat_le _
  have hle : k - b.flag.syn.toNat ≤ (b.payload.map Sym.byte).length := by
    rw [List.length_map]
    simp only [tcpSkbSeqLen, skbDataLen] at hlt
    omega
  constructor
  · have htrim : syms (trimHead ack b).1 =
        (b.payload.drop (k - b.flag.syn.toNat)).map .byte ++ if b.flag.fin then [.fin] else [] := by
      have hp : (trimHead ack b).1.payload = b.payload.drop (k - b.flag.syn.toNat) := by
        rw [← hk]
        exact skbConsume_payload b _
      simp only [syms, hp]
      rfl
    have hnil : List.drop k (if b.flag.syn then [Sym.syn] else []) = [] := List.drop_eq_nil_of_le (by omega)
    rw [htrim, syms, List.drop_append, hnil, hsyn, List.nil_append, List.drop_append_of_le_length hle,
      List.map_drop]
  · have hn : (trimHead ack b).2 = k - b.flag.syn.toNat := by rw [← hk]; rfl
    rw [hn, syms, List.take_append, List.take_of_length_le (by omega), hsyn, List.take_append_of_le_length hle,
      bytesOf_append, hbyte, ← List.map_take, bytesOf_map, List.nil_append, List.length_take]
    rw [List.length_map] at hle
    omega

lemma ackQueue_spec {p : ℕ} (h : SegTiles iss p r x) (hp : p ≤ a) (ha : a ≤ x)
    (hx : x < p + 2 ^ 31) :
    SegTiles iss a (ackQueue (label iss a) r).1 x ∧
      queueSyms (ackQueue (label iss a) r).1 = (queueSyms r).drop (a - p) ∧
      (ackQueue (label iss a) r).2.1 = (bytesOf ((queueSyms r).take (a - p))).length := by
  induction r generalizing p with
  | nil =>
    obtain rfl : p = x := h
    obtain rfl : a = p := by omega
    simp [ackQueue, Tiles, bytesOf]
  | cons b r ih =>
    have hall := h
    obtain ⟨hseq, hpos, hrest⟩ := h
    have hlen := hrest.le
    simp only [ackQueue]
    rw [hseq, label_add]
    split
    · next hlt =>
      rw [gt_label iss (by omega) (by omega)] at hlt
      split
      · next hge =>
        -- the whole of the first segment is acknowledged
        rw [geq_label iss (by omega) (by omega)] at hge
        obtain ⟨ht, hs, hn⟩ := ih hrest hge (by omega)
        have hd : a - p = (syms b).length + (a - (p + tcpSkbSeqLen b)) := by
          rw [syms_length]
          omega
        refine ⟨ht, ?_, ?_⟩
        · rw [hs, queueSyms_cons, hd, List.drop_length_add_append]
        · rw [hn, queueSyms_cons, hd, List.take_length_add_append, bytesOf_append, bytesOf_syms,
            List.length_append, skbDataLen]
      · next hge =>
        rw [geq_label iss (by omega) (by omega), Nat.not_le] at hge
        have hk : (label iss a - b.seq).toNat = a - p := by
          rw [hseq]
          exact label_sub iss hp (by omega)
        obtain ⟨hs, hn⟩ := trimHead_syms hk (by omega) (by omega)
        have hlen' : tcpSkbSeqLen (trimHead (label iss a) b).1 = tcpSkbSeqLen b - (a - p) := by
          rw [← syms_length, hs, List.length_drop, syms_length]
        refine ⟨⟨rfl, by omega, ?_⟩, ?_, ?_⟩
        · rw [hlen', show a + (tcpSkbSeqLen b - (a - p)) = p + tcpSkbSeqLen b by omega]
          exact hrest
        · rw [queueSyms_cons, queueSyms_cons, hs, List.drop_append_of_le_length (by rw [syms_length]; omega)]
        · rw [hn, queueSyms_cons, List.take_append_of_le_length (by rw [syms_length]; omega)]
    · next hge =>
      rw [gt_label iss (by omega) (by omega)] at hge
      obtain rfl : a = p := by omega
      simpa [bytesOf] using hall

lemma mem_ackQueue {ack : Seq} {c : SkBuff} (hc : c ∈ (ackQueue ack r).1) : c ∈ r ∨ ∃ b ∈ r, c = (trimHead ack b).1 ∧
    gt ack b.seq = true ∧ geq ack (b.seq + BitVec.ofNat 32 (tcpSkbSeqLen b)) = false := by
  induction r with
  | nil => cases hc
  | cons b r ih =>
    simp only [ackQueue] at hc
    split at hc
    · next hgt =>
      split at hc
      · exact (ih hc).imp (List.mem_cons_of_mem b) fun ⟨b', hb', h⟩ => ⟨b', List.mem_cons_of_mem b hb', h⟩
      · next hlt =>
        rcases List.mem_cons.mp hc with rfl | hc
        · exact .inr ⟨b, List.mem_cons_self, rfl, hgt, (Bool.not_eq_true _).mp hlt⟩
        · exact .inl (List.mem_cons_of_mem b hc)
    · exact .inl hc

lemma ackQueue_mem {p : ℕ} (h : SegTiles iss p r x) (hp : p ≤ a) (hx : x < p + 2 ^ 31)
    (ha : a ≤ x) {c : SkBuff} (hc : c ∈ (ackQueue (label iss a) r).1) :
    c ∈ r ∨ ∃ b ∈ r, c = (trimHead (label iss a) b).1 ∧ (label iss a - b.seq).toNat < tcpSkbSeqLen b := by
  refine (mem_ackQueue hc).imp_right fun ⟨b, hb, he, hgt, hlt⟩ => ⟨b, hb, he, ?_⟩
  obtain ⟨pre, post, rfl⟩ := List.append_of_mem hb
  obtain ⟨y, hpre, hseq, -, hpost⟩ := tiles_append.mp h
  have hle := hpre.le
  have hle' := hpost.le
  rw [hseq, gt_label iss (by omega) (by omega)] at hgt
  rw [hseq, label_add, ← Bool.not_eq_true, geq_label iss (by omega) (by omega), Nat.not_le] at hlt
  rw [hseq, label_sub iss hgt.le (by omega)]
  omega

def cutsBeforeFin (q : SendState) (ack : Seq) : Bool :=
  q.retransmitQueue.any fun b => b.flag.fin && skbDataLen b != 0 && ack == b.seq + BitVec.ofNat 32 (skbDataLen b)

lemma trimHead_ownsSlot {ack : Seq} (hown : b.ownsSlot) (hsyn : b.flag.syn = true → skbDataLen b = 0)
    (hlt : (ack - b.seq).toNat < tcpSkbSeqLen b) (hb : b ∈ q.retransmitQueue) (hcut : cutsBeforeFin q ack = false) :
    (trimHead ack b).1.ownsSlot := by
  change consumeInfos b.infos (min ((ack - b.seq).toNat - b.flag.syn.toNat) (skbDataLen b)) ≠ []
  rcases Nat.eq_zero_or_pos (skbDataLen b) with hz | hpos
  · rw [hz, Nat.min_zero]
    cases hi : b.infos with
    | nil => exact absurd hi hown
    | cons d ds => simp [consumeInfos]
  · have hs : b.flag.syn = false := by
      cases hs : b.flag.syn with
      | false => rfl
      | true => exact absurd (hsyn hs) (by omega)
    apply consumeInfos_ne_nil
    change _ < skbDataLen b
    rw [hs, Bool.toNat_false]
    simp only [tcpSkbSeqLen, hs, Bool.toNat_false] at hlt
    have hone : b.flag.fin.toNat ≤ 1 := Bool.toNat_le _
    by_contra hge
    -- the FIN alone is left
    have hk : (ack - b.seq).toNat = skbDataLen b := by omega
    have hfin : b.flag.fin = true := by
      cases hf : b.flag.fin with
      | true => rfl
      | false =>
        rw [hf, Bool.toNat_false] at hlt
        omega
    have hack : ack = b.seq + BitVec.ofNat 32 (skbDataLen b) := label_eq_of_sub hk
    have hyes : cutsBeforeFin q ack = true := by
      rw [cutsBeforeFin, List.any_eq_true]
      exact ⟨b, hb, by simp [hfin, hack, Nat.ne_of_gt hpos]⟩
    rw [hyes] at hcut
    cases hcut

lemma SendInv.acked (h : SendInv iss S u x q) (hu : u ≤ a) (ha : a ≤ x) (hx : x < u + 2 ^ 31) :
    SendInv iss S a x (ackedSend q (label iss a)) := by
  obtain ⟨ht, hs, hn⟩ := ackQueue_spec h.flight hu ha hx
  have hl := h.flight.length
  have hst := h.stream
  rw [queueSyms_append] at hst
  have htake : (queueSyms q.retransmitQueue).take (a - u) = (S.drop u).take (a - u) := by
    rw [← hst, List.take_append_of_le_length (by omega)]
  have hsplit : bytesOf (S.drop u) = bytesOf ((S.drop u).take (a - u)) ++ bytesOf (S.drop a) := by
    have hda : S.drop a = (S.drop u).drop (a - u) := by
      rw [List.drop_drop]
      congr 1
      omega
    rw [hda, ← bytesOf_append, List.take_append_drop]
  have hlen : q.sendBufferLen = (bytesOf ((S.drop u).take (a - u))).length + (bytesOf (S.drop a)).length := by
    rw [h.bytes, hsplit, List.length_append]
  have hb := h.bound
  have hsub : subU32 q.sendBufferLen (ackQueue (label iss a) q.retransmitQueue).2.1 =
      (bytesOf (S.drop a)).length := by
    rw [subU32_of_le (by rw [hn, htake]; omega) (by omega), hn, htake]
    omega
  refine ⟨rfl, h.nxt, h.fin, ht, h.unsent, ?_, hsub, ?_, h.synSent, h.owned⟩
  · simp only [ackedSend, queueSyms_append]
    rw [hs, ← List.drop_append_of_le_length (by omega), hst, List.drop_drop]
    congr 1
    omega
  · simp only [ackedSend, hsub]
    omega

lemma SendInv.extend {ys : List Sym} {n : ℕ} (h : SendInv iss S u x q)
    (ht : SegTiles iss x r (S.length + ys.length)) (hs : queueSyms r = queueSyms q.sendQueue ++ ys)
    (hown : ∀ b ∈ r, b.ownsSlot) (hn : n = q.sendBufferLen + (bytesOf ys).length) (hlt : n < 2 ^ 31) :
    SendInv iss (S ++ ys) u x { q with
      sendQueue := r
      sndEnd := q.sndEnd + BitVec.ofNat 32 ys.length
      sendBufferLen := n } := by
  have hle : u ≤ S.length := h.flight.le.trans h.unsent.le
  refine ⟨h.una, h.nxt, ?_, h.flight, ?_, ?_, ?_, hlt, h.synSent, hown⟩
  · simp only [h.fin, label_add, List.length_append]
  · rw [List.length_append]
    exact ht
  · have hst := h.stream
    rw [queueSyms_append] at hst
    rw [queueSyms_append, hs, ← List.append_assoc, hst, List.drop_append_of_le_length hle]
  · simp only [hn, h.bytes, List.drop_append_of_le_length hle, bytesOf_append, List.length_append]

lemma plain_seqLen (hs : b.flag.syn = false) (hf : b.flag.fin = false) : tcpSkbSeqLen b = skbDataLen b := by
  simp [tcpSkbSeqLen, hs, hf]

/-- A chunk goes to the last packet if that has room for it, otherwise to a new one. -/
inductive ChunkGoes (q : SendState) (n segLimit room : ℕ) : List SkBuff → SkBuff → Prop
  | last {init : List SkBuff} {b : SkBuff} (hq : q.sendQueue = init ++ [b]) (hfit : skbDataLen b + n ≤ segLimit) :
    ChunkGoes q n segLimit room init b
  | fresh (h : ∀ b ∈ q.sendQueue.getLast?, segLimit < skbDataLen b + n) :
    ChunkGoes q n segLimit room q.sendQueue (skbAlloc q.sndEnd .ackOnly room (room + segLimit))

inductive Chunked (q : SendState) (chunk : List UInt8) (segLimit room : ℕ) : SendState × Bool × Fates → Prop
  | failed (f : Fates) : Chunked q chunk segLimit room (q, false, f)
  | put {init : List SkBuff} {b b' : SkBuff} {f f' : Fates} (hg : ChunkGoes q chunk.length segLimit room init b)
      (he : skbDataAppend b chunk 0 segLimit f = (some b', f')) : Chunked q chunk segLimit room ({ q with
        sendQueue := init ++ [b']
        sndEnd := q.sndEnd + BitVec.ofNat 32 chunk.length
        sendBufferLen := (q.sendBufferLen + chunk.length) % 2 ^ 32 }, true, f')

variable {chunk : List UInt8} {segLimit room : ℕ} {init : List SkBuff}

lemma ChunkGoes.forall {P : SkBuff → Prop} {n : ℕ} (hg : ChunkGoes q n segLimit room init b)
    (h : ∀ c ∈ q.sendQueue, P c) (hnew : P (skbAlloc q.sndEnd .ackOnly room (room + segLimit))) :
    (∀ c ∈ init, P c) ∧ P b := by
  cases hg with
  | last hq => exact ⟨fun c hc => h c (by simp [hq, hc]), h b (by simp [hq])⟩
  | fresh => exact ⟨h, hnew⟩

lemma ChunkGoes.bytes {n : ℕ} (hg : ChunkGoes q n segLimit room init b) :
    queueBytes q.sendQueue = queueBytes init ++ b.payload := by
  cases hg with
  | last hq => simp [hq]
  | fresh => simp [skbAlloc, SkBuff.payload]

lemma writeChunk_chunked (q : SendState) (room : ℕ) (f : Fates) (hfit : chunk.length ≤ segLimit) :
    Chunked q chunk segLimit room (writeChunk q chunk segLimit room f) := by
  have hnew (h : ∀ b ∈ q.sendQueue.getLast?, segLimit < skbDataLen b + chunk.length) :
      Chunked q chunk segLimit room (appendNewSkb q chunk segLimit room f) := by
    unfold appendNewSkb
    split
    · exact .failed _
    · next f' _ =>
      have he := skbDataAppend_fresh q.sndEnd .ackOnly room segLimit chunk f' hfit
      rw [appendTail, he]
      exact .put (.fresh h) he
  unfold writeChunk
  split
  · next hnone => exact hnew (by simp [hnone])
  next last hlast =>
  have hq := (List.dropLast_append_getLast? last hlast).symm
  split
  · next hle =>
    unfold appendTail
    split
    · rw [← hq]
      exact .failed _
    · next he => exact .put (.last hq hle) he
  · next hgt => exact hnew (by simpa [hlast] using hgt)

lemma writeChunk_frame (q : SendState) (room : ℕ) (f : Fates) (hfit : chunk.length ≤ segLimit) :
    ∃ r e n, (writeChunk q chunk segLimit room f).1 = { q with sendQueue := r, sndEnd := e, sendBufferLen := n } ∧
      n ≤ q.sendBufferLen + chunk.length := by
  have hw := writeChunk_chunked q room f hfit
  generalize writeChunk q chunk segLimit room f = w at hw ⊢
  cases hw with
  | failed => exact ⟨q.sendQueue, q.sndEnd, q.sendBufferLen, rfl, Nat.le_add_right _ _⟩
  | put => exact ⟨_, _, _, rfl, Nat.mod_le _ _⟩

lemma writeLoop_frame (segLimit room k : ℕ) (bs : List UInt8) (q : SendState) (n : ℕ) (f : Fates) :
    ∃ r e m, (writeLoop segLimit room k bs q n f).1 = { q with sendQueue := r, sndEnd := e, sendBufferLen := m } := by
  induction k generalizing bs q n f with
  | zero => exact ⟨q.sendQueue, q.sndEnd, q.sendBufferLen, rfl⟩
  | succ k ih =>
    cases bs with
    | nil => exact ⟨q.sendQueue, q.sndEnd, q.sendBufferLen, rfl⟩
    | cons b bs =>
      obtain ⟨r, e, m, hq, -⟩ := writeChunk_frame q room f (List.length_take_le segLimit (b :: bs))
      simp only [writeLoop]
      split
      · next q' f' heq =>
        rw [heq] at hq
        exact ⟨r, e, m, hq⟩
      · next q' f' heq =>
        rw [heq] at hq
        simp only at hq
        obtain ⟨r', e', m', hq'⟩ := ih ((b :: bs).drop segLimit) q' (n + min segLimit (bs.length + 1)) f'
        rw [hq', hq]
        exact ⟨r', e', m', rfl⟩

lemma writeChunk_spec (chunk : List UInt8) (segLimit room : ℕ) (f : Fates)
    (h : SendInv iss (sendStream data false) u x q) (hne : chunk ≠ []) (hfit : chunk.length ≤ segLimit)
    (hlt : q.sendBufferLen + chunk.length < 2 ^ 31) :
    ((writeChunk q chunk segLimit room f).2.1 = false ∧ (writeChunk q chunk segLimit room f).1 = q) ∨
      ((writeChunk q chunk segLimit room f).2.1 = true ∧
        SendInv iss (sendStream (data ++ chunk) false) u x (writeChunk q chunk segLimit room f).1) := by
  have hw := writeChunk_chunked q room f hfit
  generalize writeChunk q chunk segLimit room f = w at hw ⊢
  cases hw with
  | failed => exact .inl ⟨rfl, rfl⟩
  | @put init b b' f f' hg he =>
    refine .inr ⟨rfl, ?_⟩
    obtain ⟨hinit, hown⟩ := hg.forall h.owned (List.cons_ne_nil _ _)
    obtain ⟨hp, hseq, hflag, hown'⟩ := skbDataAppend_spec hown he
    obtain ⟨-, hsyn, hfin⟩ := hg.forall (P := fun c => c.flag.syn = false ∧ c.flag.fin = false)
      (fun c hc => ⟨h.unsent_noSyn hc, h.unsent_noFin hc⟩) ⟨rfl, rfl⟩
    obtain ⟨y, hy, hb, hlen, hsyms⟩ : ∃ y, SegTiles iss x init y ∧ b.seq = label iss y ∧
        y + skbDataLen b = (sendStream data false).length ∧ queueSyms q.sendQueue = queueSyms init ++ syms b := by
      cases hg with
      | last hq =>
        have hu := h.unsent
        rw [hq] at hu
        obtain ⟨y, hy, hls, -, hlen⟩ := tiles_concat.mp hu
        exact ⟨y, hy, hls, by rw [← plain_seqLen hsyn hfin]; exact hlen, by simp [hq]⟩
      | fresh => exact ⟨_, h.unsent, h.fin, rfl, by rw [syms_plain rfl rfl]; simp [skbAlloc, SkBuff.payload]⟩
    have hpos : 0 < chunk.length := List.length_pos_iff.mpr hne
    have hlen' : tcpSkbSeqLen b' = skbDataLen b + chunk.length := by
      rw [plain_seqLen (hflag ▸ hsyn) (hflag ▸ hfin)]
      simp [skbDataLen, hp]
    have hcl : chunk.length = (chunk.map Sym.byte).length := (List.length_map _).symm
    dsimp only
    rw [Nat.mod_eq_of_lt (by omega), sendStream_append, hcl]
    apply h.extend
    · exact tiles_concat.mpr ⟨y, hy, hseq.trans hb, by omega, by simp only [List.length_map]; omega⟩
    · rw [hsyms]
      simp [syms_plain (hflag ▸ hsyn) (hflag ▸ hfin), syms_plain hsyn hfin, hp]
    · exact forall_concat hinit hown'
    · simp
    · rw [List.length_map]
      exact hlt

lemma writeLoop_spec {segLimit : ℕ} (room k : ℕ) (bs : List UInt8) (n : ℕ) (f : Fates) (hpos : 0 < segLimit)
    (h : SendInv iss (sendStream data false) u x q) (hlt : q.sendBufferLen + bs.length < 2 ^ 31) :
    ∃ m, m ≤ bs.length ∧ (writeLoop segLimit room k bs q n f).2.1 = n + m ∧
      SendInv iss (sendStream (data ++ bs.take m) false) u x (writeLoop segLimit room k bs q n f).1 := by
  induction k generalizing bs q n f data with
  | zero => exact ⟨0, Nat.zero_le _, rfl, by simpa [writeLoop] using h⟩
  | succ k ih =>
    cases bs with
    | nil => exact ⟨0, Nat.zero_le _, rfl, by simpa [writeLoop] using h⟩
    | cons b bs =>
      have hchunk : ((b :: bs).take segLimit).length = min segLimit (bs.length + 1) := by simp
      rw [List.length_cons] at hlt
      have hne : (b :: bs).take segLimit ≠ [] := by
        intro h₀
        rw [h₀, List.length_nil] at hchunk
        omega
      have hspec := writeChunk_spec ((b :: bs).take segLimit) segLimit room f h hne (by omega) (by omega)
      simp only [writeLoop]
      split
      · next q' f' heq =>
        rw [heq] at hspec
        rcases hspec with ⟨-, hq⟩ | ⟨hok, -⟩
        · exact ⟨0, Nat.zero_le _, rfl, by simpa [show q' = q from hq] using h⟩
        · cases hok
      · next q' f' heq =>
        rw [heq] at hspec
        rcases hspec with ⟨hok, -⟩ | ⟨-, hq⟩
        · cases hok
        have hlen : q'.sendBufferLen + ((b :: bs).drop segLimit).length < 2 ^ 31 := by
          have hb : q'.sendBufferLen = _ := hq.bytes
          have hb' := h.bytes
          have hu := h.flight.le.trans h.unsent.le
          rw [sendStream_length, Bool.toNat_false] at hu
          rw [bytesOf_sendStream_drop, List.length_drop, List.length_append, hchunk] at hb
          rw [bytesOf_sendStream_drop, List.length_drop] at hb'
          rw [List.length_drop, List.length_cons]
          omega
        obtain ⟨m, hm, hn, hinv⟩ := ih _ (n + min segLimit (bs.length + 1)) f' hq hlen
        rw [List.length_drop, List.length_cons] at hm
        refine ⟨min segLimit (bs.length + 1) + m, by rw [List.length_cons]; omega, by rw [hn]; omega, ?_⟩
        have htake : (b :: bs).take (min segLimit (bs.length + 1) + m) =
            (b :: bs).take segLimit ++ ((b :: bs).drop segLimit).take m := by
          rw [List.take_add, ← List.length_cons (a := b), ← List.take_eq_take_min]
          rcases Nat.le_total segLimit (b :: bs).length with hle | hle
          · rw [Nat.min_eq_left hle]
          · rw [Nat.min_eq_right hle, List.drop_length, List.drop_eq_nil_of_le hle]
        rw [htake, ← List.append_assoc]
        exact hinv

lemma SendInv.finLast {init : List SkBuff} {last : SkBuff} (h : SendInv iss (sendStream data false) u x q)
    (hq : q.sendQueue = init ++ [last]) :
    SendInv iss (sendStream data true) u x { q with
      sendQueue := init ++ [{ last with flag.fin := true }]
      sndEnd := q.sndEnd + 1 } := by
  have hmem : last ∈ q.sendQueue := hq ▸ List.mem_append_right init List.mem_cons_self
  have hsyn := h.unsent_noSyn hmem
  have hfin := h.unsent_noFin hmem
  have hu := h.unsent
  rw [hq] at hu
  obtain ⟨y, hy, hls, hlp, hlen⟩ := tiles_concat.mp hu
  have hsyms : syms { last with flag.fin := true } = syms last ++ [.fin] := by
    simp [syms, hsyn, hfin, SkBuff.payload]
  have hlen' : tcpSkbSeqLen { last with flag.fin := true } = tcpSkbSeqLen last + 1 := by
    rw [← syms_length, hsyms, List.length_append, syms_length, List.length_singleton]
  rw [sendStream_fin]
  apply h.extend
  · exact tiles_concat.mpr ⟨y, hy, hls, by omega, by rw [List.length_singleton]; omega⟩
  · rw [hq, queueSyms_append, queueSyms_append, queueSyms_cons, queueSyms_cons, hsyms]
    simp
  · intro c hc
    rcases List.mem_append.mp hc with hc | hc
    · exact h.owned c (hq ▸ List.mem_append_left _ hc)
    · rw [List.mem_singleton.mp hc]
      exact h.owned last hmem
  · rfl
  · exact h.bound

lemma SendInv.finAlone (headroom size : ℕ) (h : SendInv iss (sendStream data false) u x q)
    (hq : q.sendQueue = []) :
    SendInv iss (sendStream data true) u x { q with
      sendQueue := [skbAlloc q.sndEnd { fin := true, ack := true } headroom size]
      sndEnd := q.sndEnd + 1 } := by
  have hu := h.unsent
  rw [hq] at hu
  rw [sendStream_fin]
  apply h.extend
  · exact ⟨h.fin.trans (by rw [show x = _ from hu]), Nat.one_pos, by rw [show x = _ from hu]; rfl⟩
  · rw [hq]
    rfl
  · intro c hc
    rw [List.mem_singleton.mp hc]
    exact List.cons_ne_nil _ _
  · rfl
  · exact h.bound

end Netfast.Tcp
