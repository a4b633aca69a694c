import Netfast.Tcp.Branches
import Netfast.Tcp.SendQueue

/-! The packet that leaves when new data is sent, and what is left of one that has to be cut. -/

namespace Netfast.Tcp

open Serial Skbuff

variable {s : TcpSock} {b head tail : SkBuff} {rest : List SkBuff} {n k : ℕ}

lemma tcpCommitFinSend_frame (s : TcpSock) :
    ∃ st, tcpCommitFinSend s = { s with core.state := st } ∧
      (st = s.core.state ∨ s.core.state ≠ .closed ∧ (st = .finWait1 ∨ st = .lastAck)) := by
  unfold tcpCommitFinSend
  split
  · next hs => exact ⟨_, rfl, Or.inr ⟨by simp [hs], Or.inl rfl⟩⟩
  · next hs => exact ⟨_, rfl, Or.inr ⟨by simp [hs], Or.inl rfl⟩⟩
  · next hs => exact ⟨_, rfl, Or.inr ⟨by simp [hs], Or.inr rfl⟩⟩
  · exact ⟨s.core.state, rfl, Or.inl rfl⟩

lemma submitHead_sent (rest : List SkBuff) {n : ℕ} (sendFin : Bool) {push : Bool} {s₁ : TcpSock}
    (h : tcpXmitSegment s b n push = (s₁, none)) :
    ∃ st re, submitHead s b rest n sendFin push = ({ s₁ with
        core.state := st
        retry := re
        tm := tcpUpdateTimer s₁.tm .retransmit (s₁.env.now + s₁.retry.retransmitTimeout) false
        snd.sndNxt := s₁.snd.sndNxt + BitVec.ofNat 32 n
        snd.sendQueue := rest
        snd.retransmitQueue := tcpRetransmitEnqueue s₁.snd.retransmitQueue s₁.nego.sndMss b }, none) ∧
      (st = s₁.core.state ∨ s₁.core.state ≠ .closed ∧ (st = .finWait1 ∨ st = .lastAck)) ∧ re.retriesOut = s₁.retry.retriesOut := by
  simp only [submitHead, h]
  cases sendFin with
  | true =>
    obtain ⟨st, hc, hst⟩ := tcpCommitFinSend_frame
      (s₁.updateTimer .retransmit (s₁.env.now + s₁.retry.retransmitTimeout) false)
    simp only [if_true, hc]
    split <;> exact ⟨st, _, rfl, hst, rfl⟩
  | false =>
    simp only [Bool.false_eq_true, if_false]
    split <;> exact ⟨s₁.core.state, _, rfl, Or.inl rfl, rfl⟩

lemma submitHead_ok (rest : List SkBuff) {n : ℕ} (sendFin : Bool) {push : Bool} {s₁ : TcpSock}
    (h : tcpXmitSegment s b n push = (s₁, none)) :
    ∃ st re t, submitHead s b rest n sendFin push = ({ s₁ with
        core.state := st
        retry := re
        tm := t
        snd.sndNxt := s₁.snd.sndNxt + BitVec.ofNat 32 n
        snd.sendQueue := rest
        snd.retransmitQueue := tcpRetransmitEnqueue s₁.snd.retransmitQueue s₁.nego.sndMss b }, none) ∧
      (st = s₁.core.state ∨ (st ≠ .synSent ∧ st ≠ .synReceived)) := by
  obtain ⟨st, re, he, hst, -⟩ := submitHead_sent rest sendFin h
  refine ⟨st, re, _, he, ?_⟩
  rcases hst with hst | ⟨-, rfl | rfl⟩
  · exact Or.inl hst
  · exact Or.inr ⟨by simp, by simp⟩
  · exact Or.inr ⟨by simp, by simp⟩

lemma unsentTail_cases (s : TcpSock) (b : SkBuff) (d n : ℕ) :
    (∃ f, (unsentTail s b d n).1 = { s with env.fates := f }) ∨
      s.route = none ∧ unsentTail s b d n = (s.fault .nullRoute, none) := by
  rw [unsentTail]
  split
  · split <;> exact .inl ⟨_, rfl⟩
  · split
    · next hr => exact .inr ⟨hr, rfl⟩
    · split <;> exact .inl ⟨_, rfl⟩

lemma unsentTail_some (hsyn : b.flag.syn = false) (hlt : k < tcpSkbSeqLen b)
    (h : (unsentTail s b (min (skbDataLen b) k) k).2 = some (head, tail)) :
    syms b = syms { head with flag.fin := false } ++ syms tail ∧ head.seq = b.seq ∧
      tail.seq = b.seq + BitVec.ofNat 32 k ∧ tcpSkbSeqLen { head with flag.fin := false } = k ∧
      (b.ownsSlot → head.ownsSlot) ∧ tail.ownsSlot := by
  have hlen : tcpSkbSeqLen b = skbDataLen b + b.flag.fin.toNat := by simp [tcpSkbSeqLen, hsyn]
  have hone : b.flag.fin.toNat ≤ 1 := Bool.toNat_le _
  unfold unsentTail at h
  split at h
  · next hcut =>
    split at h
    · cases h
    · next head' tail' f hsplit =>
      obtain ⟨rfl, rfl⟩ := Prod.mk.inj (Option.some.inj h)
      obtain ⟨hp, hp', hseq, hflag, -, how, how', -⟩ := skbSplit_spec hsplit
      have hmin : min (skbDataLen b) k = k := by omega
      rw [hmin] at hp hp'
      have hs : head'.flag.syn = false := hflag ▸ hsyn
      have hsyms : syms { head' with flag.fin := false } = (b.payload.take k).map .byte := by
        rw [syms_clearFin hs, hp]
      refine ⟨?_, hseq, rfl, ?_, fun _ => how, how'⟩
      · rw [hsyms, syms_noSyn b hsyn, syms_noSyn { tail' with flag := b.flag, seq := b.seq + BitVec.ofNat 32 k } hsyn]
        change _ = _ ++ (tail'.payload.map Sym.byte ++ _)
        rw [hp', ← List.append_assoc, ← List.map_append, List.take_append_drop]
      · rw [← syms_length, hsyms, List.length_map, List.length_take]
        change min k (skbDataLen b) = k
        omega
  · next hcut =>
    split at h
    · cases h
    split at h
    · cases h
    · obtain ⟨rfl, rfl⟩ := Prod.mk.inj (Option.some.inj h)
      have hfin : b.flag.fin = true := by
        cases hf : b.flag.fin with
        | true => rfl
        | false =>
          rw [hf, Bool.toNat_false] at hlen
          omega
      rw [hfin, Bool.toNat_true] at hlen
      refine ⟨?_, rfl, rfl, ?_, id, List.cons_ne_nil _ _⟩
      · rw [syms_clearFin hsyn, syms_noSyn b hsyn, syms_noSyn (skbAlloc _ b.flag _ _) hsyn]
        rfl
      · rw [← syms_length, syms_clearFin hsyn, List.length_map]
        change skbDataLen b = k
        omega

inductive CutSlots : List DataInfo → List DataInfo → List DataInfo → Prop
  | inside (pre : List DataInfo) (d : DataInfo) (cut : ℕ) (rest : List DataInfo) :
      CutSlots (pre ++ d :: rest) (pre ++ [{ d with data := d.data.take cut }]) ({ d with data := d.data.drop cut } :: rest)
  | boundary (pre rest : List DataInfo) : CutSlots (pre ++ rest) pre rest
  | alone (ds : List DataInfo) (room : ℕ) (hroom : 120 ≤ room) :
      CutSlots ds ds [{ headroom := room, data := [], size := room }]

structure Parts (b head tail : SkBuff) : Prop where
  slots : CutSlots b.infos head.infos tail.infos
  headFlag : head.flag = { b.flag with fin := head.flag.fin }
  tailFlag : tail.flag = b.flag
  seq : head.seq = b.seq
  whole : b.flag.syn = false → 0 < tcpSkbSeqLen head ∧ 0 < tcpSkbSeqLen tail ∧
    tail.seq = b.seq + BitVec.ofNat 32 (tcpSkbSeqLen head) ∧ syms b = syms head ++ syms tail ∧
    (b.ownsSlot → head.ownsSlot) ∧ tail.ownsSlot

lemma skbSplit_slots {len : ℕ} {f f' : Fates} (h : skbSplit b len f = (some (head, tail), f')) :
    CutSlots b.infos head.infos tail.infos := by
  have hc := splitPoint_cuts [] b.infos len
  rw [List.nil_append] at hc
  rw [skbSplit] at h
  split at h
  · cases h
  split at h
  · cases h
  split at h
  · next pre d cut rest hsp =>
    rw [hsp] at hc
    split at h
    · cases h
    obtain ⟨rfl, rfl⟩ := Prod.mk.inj (Option.some.inj (Prod.mk.inj h).1)
    rw [hc.1]
    exact .inside pre d cut rest
  · next pre rest hsp =>
    rw [hsp] at hc
    split at h
    · cases h
    obtain ⟨rfl, rfl⟩ := Prod.mk.inj (Option.some.inj (Prod.mk.inj h).1)
    rw [hc.1]
    exact .boundary pre rest

lemma unsentTail_flags {d : ℕ} (h : (unsentTail s b d n).2 = some (head, tail)) :
    head.flag = b.flag ∧ tail.flag = b.flag ∧ head.seq = b.seq ∧ CutSlots b.infos head.infos tail.infos := by
  rw [unsentTail] at h
  split at h
  · split at h
    · cases h
    · next hsp =>
      obtain ⟨-, -, hseq, hf, -⟩ := skbSplit_spec hsp
      have hs := skbSplit_slots hsp
      obtain ⟨rfl, rfl⟩ := Prod.mk.inj (Option.some.inj h)
      exact ⟨hf, rfl, hseq, hs⟩
  · split at h
    · cases h
    split at h
    · cases h
    · obtain ⟨rfl, rfl⟩ := Prod.mk.inj (Option.some.inj h)
      exact ⟨rfl, rfl, rfl, .alone b.infos _ (headerRoom_ge s _)⟩

def sendFin (b : SkBuff) (k : ℕ) : Bool := b.flag.fin && decide (skbDataLen b < min k (tcpSkbSeqLen b))

def sendLen (b : SkBuff) (k : ℕ) : ℕ := min (skbDataLen b) (min k (tcpSkbSeqLen b)) + (sendFin b k).toNat

lemma sendLen_le (b : SkBuff) (k : ℕ) : sendLen b k ≤ k := by
  rw [sendLen, sendFin]
  by_cases hd : skbDataLen b < min k (tcpSkbSeqLen b)
  · have hone := Bool.toNat_le (b.flag.fin && decide (skbDataLen b < min k (tcpSkbSeqLen b)))
    omega
  · rw [decide_eq_false hd, Bool.and_false, Bool.toNat_false]
    omega

lemma tcpSkbSeqLen_noSyn (hsyn : b.flag.syn = false) : tcpSkbSeqLen b = skbDataLen b + b.flag.fin.toNat := by
  simp [tcpSkbSeqLen, hsyn]

lemma sendLen_eq (hsyn : b.flag.syn = false) (k : ℕ) : sendLen b k = min k (tcpSkbSeqLen b) := by
  rw [sendLen, sendFin, tcpSkbSeqLen_noSyn hsyn]
  cases b.flag.fin with
  | false =>
    simp only [Bool.false_and, Bool.toNat_false]
    omega
  | true =>
    simp only [Bool.true_and, Bool.toNat_true]
    by_cases hk : skbDataLen b < min k (skbDataLen b + 1)
    · rw [decide_eq_true hk, Bool.toNat_true]
      omega
    · rw [decide_eq_false hk, Bool.toNat_false]
      omega

lemma sendFin_whole (hsyn : b.flag.syn = false) (h : tcpSkbSeqLen b ≤ sendLen b k) : sendFin b k = b.flag.fin := by
  have hmin : min k (tcpSkbSeqLen b) = tcpSkbSeqLen b := by
    rw [sendLen_eq hsyn k] at h
    omega
  rw [sendFin, hmin, tcpSkbSeqLen_noSyn hsyn]
  cases b.flag.fin <;> simp

/-- The packet that is cut off to be sent: it keeps the FIN only if the FIN fits. -/
def sentHead (b head : SkBuff) (k : ℕ) : SkBuff := if sendFin b k then head else { head with flag.fin := false }

lemma sentHead_flag (h : head.flag = b.flag) (k : ℕ) : (sentHead b head k).flag = { b.flag with fin := sendFin b k } := by
  rw [sentHead]
  split
  · next hs =>
    rw [hs, h]
    rw [sendFin, Bool.and_eq_true] at hs
    rw [← hs.1]
  · next hs =>
    rw [Bool.eq_false_of_not_eq_true hs]
    simp [h]

lemma unsentTail_parts (hk : 0 < k) (hlt : sendLen b k < tcpSkbSeqLen b)
    (h : (unsentTail s b (min (skbDataLen b) (min k (tcpSkbSeqLen b))) (sendLen b k)).2 = some (head, tail)) :
    Parts b (sentHead b head k) tail ∧ (b.flag.syn = false → sendLen b k = tcpSkbSeqLen (sentHead b head k)) := by
  obtain ⟨hh, ht, hseq, hs⟩ := unsentTail_flags h
  have hcut (hsyn : b.flag.syn = false) : tcpSkbSeqLen (sentHead b head k) = k ∧ sendLen b k = k ∧
      0 < tcpSkbSeqLen tail ∧ tail.seq = b.seq + BitVec.ofNat 32 k ∧ syms b = syms (sentHead b head k) ++ syms tail ∧
      (b.ownsSlot → (sentHead b head k).ownsSlot) ∧ tail.ownsSlot := by
    have hn := sendLen_eq hsyn k
    have hlen := tcpSkbSeqLen_noSyn hsyn
    have hone : b.flag.fin.toNat ≤ 1 := Bool.toNat_le _
    have hmin : min k (tcpSkbSeqLen b) = k := by omega
    have hfin : sendFin b k = false := by rw [sendFin, decide_eq_false (by omega), Bool.and_false]
    have hhead : sentHead b head k = { head with flag.fin := false } := if_neg (by rw [hfin]; simp)
    rw [hn, hmin] at h hlt
    obtain ⟨hsyms, -, htail, hk', hown⟩ := unsentTail_some hsyn hlt h
    have hsum : tcpSkbSeqLen b = k + tcpSkbSeqLen tail := by
      rw [← syms_length b, hsyms, List.length_append, syms_length, syms_length, hk']
    rw [hn, hmin, hhead]
    exact ⟨hk', rfl, by omega, htail, hsyms, hown⟩
  refine ⟨⟨?_, ?_, ht, ?_, fun hsyn => ?_⟩, fun hsyn => (hcut hsyn).2.1.trans (hcut hsyn).1.symm⟩
  · rw [sentHead]
    split <;> exact hs
  · rw [sentHead_flag hh]
  · rw [sentHead]
    split <;> exact hseq
  · obtain ⟨hl, -, h₂, h₃, h₄, h₅⟩ := hcut hsyn
    rw [hl]
    exact ⟨hk, h₂, h₃, h₄, h₅⟩

lemma tcpXmitNewSkb_cases (hq : s.snd.sendQueue = b :: rest) (k : ℕ) (push : Bool) :
    (∃ s₁, ((∃ f, s₁ = { s with env.fates := f }) ∨ s.route = none ∧ s₁ = s.fault .nullRoute) ∧
        tcpXmitNewSkb s k push = (nagleRetry s₁, some .enomem)) ∨
      (∃ f head tail, sendLen b k < tcpSkbSeqLen b ∧ head.flag = { b.flag with fin := sendFin b k } ∧ head.seq = b.seq ∧
        (0 < k → Parts b head tail ∧ (b.flag.syn = false → sendLen b k = tcpSkbSeqLen head)) ∧
        tcpXmitNewSkb s k push = submitHead { s with env.fates := f, snd.sendQueue := head :: tail :: rest } head
          (tail :: rest) (sendLen b k) (sendFin b k) push) ∨
      tcpSkbSeqLen b ≤ sendLen b k ∧ tcpXmitNewSkb s k push = submitHead s b rest (sendLen b k) (sendFin b k) push := by
  simp only [tcpXmitNewSkb, hq]
  rw [← sendFin, ← sendLen]
  have hu := unsentTail_cases s b (min (skbDataLen b) (min k (tcpSkbSeqLen b))) (sendLen b k)
  split
  · next hlt =>
    split
    · next s₁ he =>
      rw [he] at hu
      refine .inl ⟨s₁, ?_, rfl⟩
      rcases hu with hu | ⟨hr, hu⟩
      · exact .inl hu
      · exact .inr ⟨hr, (Prod.mk.inj hu).1⟩
    · next s₁ head tail he =>
      obtain ⟨hh, -, hseq, -⟩ := unsentTail_flags (congrArg Prod.snd he)
      have hp (hk : 0 < k) := unsentTail_parts hk hlt (congrArg Prod.snd he)
      rw [he] at hu
      rcases hu with ⟨f, hf⟩ | ⟨-, hu⟩
      · obtain rfl : s₁ = { s with env.fates := f } := hf
        refine .inr (.inl ⟨f, sentHead b head k, tail, hlt, sentHead_flag hh k, ?_, hp, rfl⟩)
        rw [sentHead]
        split <;> exact hseq
      · cases (Prod.mk.inj hu).2
  · next hge => exact .inr (.inr ⟨not_lt.mp hge, rfl⟩)

def roundBudget (s : TcpSock) (b : SkBuff) : ℕ := min (tcpSkbSeqLen b) (windowEnd s - b.seq).toNat

lemma writeXmitLoop_round (flushPartial : Bool) (s : TcpSock) :
    (∃ s₁, OnlyTimers s s₁ ∧ ∀ k ret, (writeXmitLoop flushPartial (k + 1) s ret).1 = s₁) ∨
      ∃ b rest push, s.snd.sendQueue = b :: rest ∧ geq b.seq (windowEnd s) = false ∧
        (∀ e, (tcpXmitNewSkb s (roundBudget s b) push).2 = some e → ∀ k ret,
          (writeXmitLoop flushPartial (k + 1) s ret).1 = (tcpXmitNewSkb s (roundBudget s b) push).1) ∧
        ((tcpXmitNewSkb s (roundBudget s b) push).2 = none → ∀ k ret, writeXmitLoop flushPartial (k + 1) s ret =
          writeXmitLoop flushPartial k (tcpXmitNewSkb s (roundBudget s b) push).1 none) := by
  cases hq : s.snd.sendQueue with
  | nil => exact .inl ⟨s, ⟨s.tm, rfl⟩, fun k ret => by simp [writeXmitLoop, hq]⟩
  | cons b rest =>
    by_cases hshut : s.winMin = 0 ∨ geq b.seq (windowEnd s) = true
    · exact .inl ⟨_, tcpArmPersist_timers s, fun k ret => by simp [writeXmitLoop, hq, hshut]⟩
    by_cases hcork : (s.core.cork && !flushPartial && !b.flag.fin && rest.isEmpty &&
        decide (skbDataLen b < tcpDataMss s.nego)) = true
    · exact .inl ⟨s.updateTimer .nagle (s.env.now + 200) false, ⟨_, rfl⟩,
        fun k ret => by simp only [writeXmitLoop, hq, if_neg hshut, if_pos hcork]⟩
    refine .inr ⟨b, rest, decide (roundBudget s b = tcpSkbSeqLen b) && skbDataLen b != 0 && rest.isEmpty, rfl,
      Bool.eq_false_of_not_eq_true fun h => hshut (.inr h), ?_, ?_⟩
    · intro e he k ret
      simp only [writeXmitLoop, hq, if_neg hshut, if_neg hcork]
      rw [← roundBudget]
      split
      · next hx => rw [hx]
      · next hx =>
        rw [hx] at he
        cases he
    · intro he k ret
      simp only [writeXmitLoop, hq, if_neg hshut, if_neg hcork]
      rw [← roundBudget]
      split
      · next hx =>
        rw [hx] at he
        cases he
      · next hx => rw [hx]

lemma writeXmitLoop_zero (flushPartial : Bool) (s : TcpSock) (ret : Ret) :
    OnlyTimers s (writeXmitLoop flushPartial 0 s ret).1 := by
  rw [writeXmitLoop]
  split
  · exact ⟨s.tm, rfl⟩
  · exact ⟨_, rfl⟩

-- the loop that may take one round more does the same, and then that round
/-- The rule for the output loop: `R` relates the socket before and after it, `P` holds before each round. -/
lemma writeXmitLoop_rule {P : TcpSock → Prop} {R : TcpSock → TcpSock → Prop}
    (htimers : ∀ {s s'}, OnlyTimers s s' → R s s') (htrans : ∀ {a b c}, R a b → R b c → R a c)
    (hround : ∀ {s b rest} push, P s → s.snd.sendQueue = b :: rest → geq b.seq (windowEnd s) = false →
      R s (tcpXmitNewSkb s (roundBudget s b) push).1 ∧
        ((tcpXmitNewSkb s (roundBudget s b) push).2 = none → P (tcpXmitNewSkb s (roundBudget s b) push).1))
    (flushPartial : Bool) (k : ℕ) {s : TcpSock} (ret : Ret) (h : P s) :
    R s (writeXmitLoop flushPartial k s ret).1 := by
  induction k generalizing s ret with
  | zero => exact htimers (writeXmitLoop_zero flushPartial s ret)
  | succ k ih =>
    rcases writeXmitLoop_round flushPartial s with ⟨s₁, ht, hs⟩ | ⟨b, rest, push, hq, hopen, herr, hok⟩
    · rw [hs]
      exact htimers ht
    · obtain ⟨hx, hp⟩ := hround push h hq hopen
      cases he : (tcpXmitNewSkb s (roundBudget s b) push).2 with
      | some e =>
        rw [herr e he]
        exact hx
      | none =>
        rw [hok he]
        exact htrans hx (ih none (hp he))

end Netfast.Tcp
