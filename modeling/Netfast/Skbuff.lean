import Netfast.Lib.Serial

/-! `main/skbuff.c`: a packet is a chain of data_infos, each a window on a frame slot. An empty chain is
a packet whose `data0` owns no slot. -/

namespace Netfast.Skbuff

open Serial

structure DataInfo where
  headroom : ℕ
  data : List UInt8
  size : ℕ
deriving DecidableEq

def DataInfo.endSpace (d : DataInfo) : ℕ := d.size - (d.headroom + d.data.length)

structure Flags where
  fin : Bool := false
  syn : Bool := false
  rst : Bool := false
  psh : Bool := false
  ack : Bool := false
  urg : Bool := false
  ece : Bool := false
  cwr : Bool := false
deriving DecidableEq

def Flags.ackOnly : Flags := { ack := true }

structure SkBuff where
  seq : Word
  flag : Flags
  infos : List DataInfo
deriving DecidableEq

def skbDataMaxNum : ℕ := 32

def flatten (ds : List DataInfo) : List UInt8 := ds.flatMap DataInfo.data

def SkBuff.payload (b : SkBuff) : List UInt8 := flatten b.infos

def skbDataLen (b : SkBuff) : ℕ := b.payload.length

-- tcp_skb_seq_len
def tcpSkbSeqLen (b : SkBuff) : ℕ := skbDataLen b + b.flag.syn.toNat + b.flag.fin.toNat

def SkBuff.ownsSlot (b : SkBuff) : Prop := b.infos ≠ []

variable (ds : List DataInfo)

@[simp] lemma flatten_nil : flatten [] = [] := rfl

@[simp] lemma flatten_cons (d : DataInfo) (ds : List DataInfo) :
    flatten (d :: ds) = d.data ++ flatten ds := by
  simp [flatten]

@[simp] lemma flatten_append (ds es : List DataInfo) : flatten (ds ++ es) = flatten ds ++ flatten es := by
  simp [flatten]

def consumeInfos : List DataInfo → ℕ → List DataInfo
  | [], _ => []
  | d :: ds, n =>
    if n = 0 then d :: ds
    else if n < d.data.length then
      { d with headroom := d.headroom + n, data := d.data.drop n } :: ds
    else consumeInfos ds (n - d.data.length)

def skbConsume (b : SkBuff) (size : ℕ) : SkBuff :=
  { b with infos := consumeInfos b.infos (min size (skbDataLen b)) }

lemma flatten_consumeInfos (n : ℕ) : flatten (consumeInfos ds n) = (flatten ds).drop n := by
  induction ds generalizing n with
  | nil => simp [consumeInfos]
  | cons d ds ih =>
    unfold consumeInfos
    split
    · next h => simp [h]
    split
    · next h => simp [List.drop_append_of_le_length (Nat.le_of_lt h)]
    · next h => simp [ih, List.drop_append, List.drop_eq_nil_of_le (Nat.le_of_not_lt h)]

lemma consumeInfos_ne_nil (n : ℕ) (h : n < (flatten ds).length) : consumeInfos ds n ≠ [] := by
  intro h'
  have hh := flatten_consumeInfos ds n
  rw [h', flatten_nil] at hh
  have := congrArg List.length hh
  simp at this
  omega

@[simp] lemma skbConsume_payload (b : SkBuff) (n : ℕ) : (skbConsume b n).payload = b.payload.drop n := by
  unfold skbConsume SkBuff.payload
  rw [flatten_consumeInfos]
  rcases Nat.le_total n (skbDataLen b) with h | h
  · rw [Nat.min_eq_left h]
  · have hn : (flatten b.infos).length ≤ n := h
    have hl : (flatten b.infos).length ≤ skbDataLen b := le_rfl
    rw [Nat.min_eq_right h, List.drop_eq_nil_of_le hl, List.drop_eq_nil_of_le hn]

@[simp] lemma skbConsume_seq (b : SkBuff) (n : ℕ) : (skbConsume b n).seq = b.seq := rfl

@[simp] lemma skbConsume_len (b : SkBuff) (n : ℕ) : skbDataLen (skbConsume b n) = skbDataLen b - n := by
  simp [skbDataLen]

def truncateInfos : List DataInfo → ℕ → List DataInfo
  | [], _ => []
  | d :: ds, n =>
    if n ≤ d.data.length then [{ d with data := d.data.take n }]
    else d :: truncateInfos ds (n - d.data.length)

def skbTruncate (b : SkBuff) (newLen : ℕ) : SkBuff :=
  if skbDataLen b ≤ newLen then b
  else if newLen = 0 then { b with infos := [] }
  else { b with infos := truncateInfos b.infos newLen }

lemma flatten_truncateInfos (n : ℕ) : flatten (truncateInfos ds n) = (flatten ds).take n := by
  induction ds generalizing n with
  | nil => simp [truncateInfos]
  | cons d ds ih =>
    unfold truncateInfos
    split
    · next h => simp [List.take_append_of_le_length h]
    · next h => simp [ih, List.take_append, List.take_of_length_le (Nat.le_of_not_le h)]

@[simp] lemma skbTruncate_payload (b : SkBuff) (n : ℕ) : (skbTruncate b n).payload = b.payload.take n := by
  unfold skbTruncate
  split
  · next h => rw [List.take_of_length_le h]
  split
  · next h => simp [SkBuff.payload, h]
  · exact flatten_truncateInfos b.infos n

@[simp] lemma skbTruncate_seq (b : SkBuff) (n : ℕ) : (skbTruncate b n).seq = b.seq := by
  unfold skbTruncate
  split_ifs <;> rfl

def copyInfos : List DataInfo → ℕ → ℕ → List UInt8
  | [], _, _ => []
  | d :: ds, off, n =>
    if d.data.length ≤ off then copyInfos ds (off - d.data.length) n
    else (d.data.drop off).take n ++ copyInfos ds 0 (n - min n (d.data.length - off))

def skbCopyBits (b : SkBuff) (off n : ℕ) : List UInt8 := copyInfos b.infos off n

lemma copyInfos_eq (off n : ℕ) : copyInfos ds off n = ((flatten ds).drop off).take n := by
  induction ds generalizing off n with
  | nil => simp [copyInfos]
  | cons d ds ih =>
    unfold copyInfos
    split
    · next h => simp [ih, List.drop_append, List.drop_eq_nil_of_le h]
    · next h =>
      have hh : off ≤ d.data.length := Nat.le_of_lt (Nat.lt_of_not_le h)
      simp only [ih, flatten_cons, List.drop_zero, List.drop_append_of_le_length hh, List.take_append,
        List.length_drop]
      congr 2
      omega

@[simp] lemma skbCopyBits_eq (b : SkBuff) (off n : ℕ) :
    skbCopyBits b off n = (b.payload.drop off).take n :=
  copyInfos_eq b.infos off n

abbrev Fates := List Bool

def draw : Fates → Bool × Fates
  | [] => (true, [])
  | b :: bs => (b, bs)

def skbAlloc (seq : Word) (flag : Flags) (headroom size : ℕ) : SkBuff :=
  { seq, flag, infos := [{ headroom, data := [], size }] }

def putLast : List DataInfo → List UInt8 → List DataInfo
  | [], _ => []
  | [d], bs => [{ d with data := d.data ++ bs }]
  | d :: e :: ds, bs => d :: putLast (e :: ds) bs

def endSpace (ds : List DataInfo) : ℕ := (ds.getLast?.map DataInfo.endSpace).getD 0

def appendLoop (preSize segLen : ℕ) : ℕ → List UInt8 → Fates → Option (List DataInfo) × Fates
  | 0, _, f => (some [], f)
  | _ + 1, [], f => (some [], f)
  | k + 1, b :: bs, f =>
    match draw f with
    | (false, f) => (none, f)
    | (true, f) =>
      match appendLoop preSize segLen k ((b :: bs).drop (segLen - preSize)) f with
      | (none, f) => (none, f)
      | (some ds, f) =>
        (some ({ headroom := preSize, data := (b :: bs).take (segLen - preSize), size := segLen } :: ds), f)

def skbDataAppend (b : SkBuff) (buf : List UInt8) (preSize segLen : ℕ) (f : Fates) : Option SkBuff × Fates :=
  let space := endSpace b.infos
  if space + (segLen - preSize) * (skbDataMaxNum - b.infos.length) < buf.length then (none, f)
  else
    match appendLoop preSize segLen buf.length (buf.drop space) f with
    | (none, f) => (none, f)
    | (some ds, f) => (some { b with infos := putLast b.infos (buf.take space) ++ ds }, f)

-- skb_append_skb with data_copy set
def skbAppendSkb (a b : SkBuff) : Option SkBuff :=
  if skbDataLen b ≤ endSpace a.infos then some { a with infos := putLast a.infos b.payload } else none

lemma flatten_putLast (bs : List UInt8) (h : ds ≠ []) : flatten (putLast ds bs) = flatten ds ++ bs := by
  induction ds with
  | nil => exact absurd rfl h
  | cons d ds ih =>
    cases ds with
    | nil => simp [putLast]
    | cons e ds => simp [putLast, ih (List.cons_ne_nil e ds)]

lemma putLast_ne_nil (bs : List UInt8) (h : ds ≠ []) : putLast ds bs ≠ [] := by
  cases ds with
  | nil => exact absurd rfl h
  | cons d ds => cases ds <;> simp [putLast]

lemma flatten_appendLoop (preSize segLen k : ℕ) (bs : List UInt8) (f f' : Fates) (ds : List DataInfo)
    (hk : bs.length ≤ k) (hc : bs ≠ [] → preSize < segLen)
    (h : appendLoop preSize segLen k bs f = (some ds, f')) : flatten ds = bs := by
  induction k generalizing bs f f' ds with
  | zero =>
    have hb : bs = [] := List.length_eq_zero_iff.mp (Nat.le_zero.mp hk)
    simp only [appendLoop, Prod.mk.injEq, Option.some.injEq] at h
    rw [← h.1, hb, flatten_nil]
  | succ k ih =>
    cases bs with
    | nil =>
      simp only [appendLoop, Prod.mk.injEq, Option.some.injEq] at h
      rw [← h.1, flatten_nil]
    | cons b bs =>
      have hlt := hc (List.cons_ne_nil b bs)
      simp only [appendLoop] at h
      split at h
      · simp at h
      split at h
      · simp at h
      · next ds' f'' hrec =>
        have hlen : ((b :: bs).drop (segLen - preSize)).length ≤ k := by
          simp only [List.length_drop, List.length_cons] at hk ⊢
          omega
        have hh := ih _ _ _ _ hlen (fun _ => hlt) hrec
        simp only [Prod.mk.injEq, Option.some.injEq] at h
        rw [← h.1, flatten_cons, hh, List.take_append_drop]

lemma skbDataAppend_spec {b b' : SkBuff} {buf : List UInt8} {preSize segLen : ℕ} {f f' : Fates}
    (hb : b.ownsSlot) (h : skbDataAppend b buf preSize segLen f = (some b', f')) :
    b'.payload = b.payload ++ buf ∧ b'.seq = b.seq ∧ b'.flag = b.flag ∧ b'.ownsSlot := by
  simp only [skbDataAppend] at h
  split at h
  · simp at h
  next hroom =>
  split at h
  · simp at h
  next ds f'' hl =>
  simp only [Prod.mk.injEq, Option.some.injEq] at h
  have hcap : buf.drop (endSpace b.infos) ≠ [] → preSize < segLen := by
    intro hne
    by_contra hle
    have hz : segLen - preSize = 0 := by omega
    rw [hz, Nat.zero_mul] at hroom
    exact hne (List.drop_eq_nil_of_le (by omega))
  have hd : flatten ds = buf.drop (endSpace b.infos) :=
    flatten_appendLoop _ _ _ _ _ _ _ (by simp) hcap hl
  obtain ⟨rfl, -⟩ := h
  refine ⟨?_, rfl, rfl, ?_⟩
  · simp only [SkBuff.payload, flatten_append, flatten_putLast _ _ hb, hd, List.append_assoc,
      List.take_append_drop]
  · exact List.append_ne_nil_of_left_ne_nil (putLast_ne_nil _ _ hb) ds

lemma skbDataAppend_one {b : SkBuff} {d : DataInfo} (hb : b.infos = [d]) {buf : List UInt8}
    (h : buf.length ≤ d.endSpace) (segLen : ℕ) (f : Fates) :
    skbDataAppend b buf 0 segLen f = (some { b with infos := [{ d with data := d.data ++ buf }] }, f) := by
  have hs : endSpace b.infos = d.endSpace := by simp [endSpace, hb]
  have hl : appendLoop 0 segLen buf.length [] f = (some [], f) := by cases buf.length <;> rfl
  simp only [skbDataAppend, hs, List.drop_eq_nil_of_le h, hl, List.take_of_length_le h, List.append_nil]
  rw [if_neg (by omega), hb]
  rfl

lemma skbDataAppend_fresh (seq : Word) (flag : Flags) (headroom segLen : ℕ) (buf : List UInt8) (f : Fates)
    (h : buf.length ≤ segLen) :
    skbDataAppend (skbAlloc seq flag headroom (headroom + segLen)) buf 0 segLen f =
      (some { seq, flag, infos := [{ headroom, data := buf, size := headroom + segLen }] }, f) := by
  refine skbDataAppend_one (d := { headroom, data := [], size := headroom + segLen }) rfl ?_ segLen f
  simpa [DataInfo.endSpace] using h

lemma skbAppendSkb_spec {a b c : SkBuff} (ha : a.ownsSlot) (h : skbAppendSkb a b = some c) :
    c.payload = a.payload ++ b.payload ∧ c.seq = a.seq ∧ c.flag = a.flag ∧ c.ownsSlot := by
  unfold skbAppendSkb at h
  split at h
  · obtain rfl := Option.some.inj h
    exact ⟨flatten_putLast _ _ ha, rfl, rfl, putLast_ne_nil _ _ ha⟩
  · cases h

/-! Splitting: the source keeps the first `len` bytes, a cut data_info is copied into a new slot. -/

inductive SplitPoint
  | inside (pre : List DataInfo) (di : DataInfo) (cut : ℕ) (rest : List DataInfo)
  | boundary (pre rest : List DataInfo)

def splitPoint (pre : List DataInfo) : List DataInfo → ℕ → SplitPoint
  | [], _ => .boundary pre []
  | d :: ds, n =>
    if n < d.data.length then .inside pre d n ds
    else if n = d.data.length then .boundary (pre ++ [d]) ds
    else splitPoint (pre ++ [d]) ds (n - d.data.length)

def skbSplit (b : SkBuff) (len : ℕ) (f : Fates) : Option (SkBuff × SkBuff) × Fates :=
  if skbDataLen b ≤ len then (none, f)
  else
    match draw f with
    | (false, f) => (none, f)
    | (true, f) =>
      match splitPoint [] b.infos len with
      | .inside pre d cut rest =>
        if cut = 0 then (none, f)
        else
          (some ({ b with infos := pre ++ [{ d with data := d.data.take cut }] },
            { b with infos := { d with data := d.data.drop cut } :: rest }), f)
      | .boundary pre rest =>
        if pre = [] ∨ rest = [] then (none, f)
        else (some ({ b with infos := pre }, { b with infos := rest }), f)

def SplitPoint.Cuts (ds : List DataInfo) (n : ℕ) : SplitPoint → Prop
  | .inside pre d cut rest =>
    ds = pre ++ d :: rest ∧ cut < d.data.length ∧ (flatten pre).length + cut = n
  | .boundary pre rest => ds = pre ++ rest ∧ (rest = [] ∨ (flatten pre).length = n)

lemma splitPoint_cuts (pre ds : List DataInfo) (n : ℕ) :
    (splitPoint pre ds n).Cuts (pre ++ ds) ((flatten pre).length + n) := by
  induction ds generalizing pre n with
  | nil => simp [splitPoint, SplitPoint.Cuts]
  | cons d ds ih =>
    unfold splitPoint
    split
    · next h => exact ⟨rfl, h, rfl⟩
    split
    · next h => simp [SplitPoint.Cuts, h]
    · next h h' =>
      have hh := ih (pre ++ [d]) (n - d.data.length)
      have hn : (flatten (pre ++ [d])).length + (n - d.data.length) = (flatten pre).length + n := by
        simp only [flatten_append, flatten_cons, flatten_nil, List.append_nil, List.length_append]
        omega
      rw [hn] at hh
      simpa using hh

lemma skbSplit_spec {b head tail : SkBuff} {len : ℕ} {f f' : Fates}
    (h : skbSplit b len f = (some (head, tail), f')) :
    head.payload = b.payload.take len ∧ tail.payload = b.payload.drop len ∧
      head.seq = b.seq ∧ head.flag = b.flag ∧ tail.flag = b.flag ∧ head.ownsSlot ∧ tail.ownsSlot ∧
      len < skbDataLen b := by
  unfold skbSplit at h
  split at h
  · simp at h
  next hlen =>
  split at h
  · simp at h
  have hc := splitPoint_cuts [] b.infos len
  simp only [flatten_nil, List.length_nil, Nat.zero_add, List.nil_append] at hc
  split at h
  · next pre d cut rest hsp =>
    rw [hsp] at hc
    obtain ⟨hds, hcut, hn⟩ := hc
    split at h
    · simp at h
    simp only [Prod.mk.injEq, Option.some.injEq] at h
    obtain ⟨⟨rfl, rfl⟩, -⟩ := h
    refine ⟨?_, ?_, rfl, rfl, rfl, by simp [SkBuff.ownsSlot], by simp [SkBuff.ownsSlot], by omega⟩
    · simp [SkBuff.payload, hds, ← hn, List.take_append, Nat.le_of_lt hcut]
    · simp [SkBuff.payload, hds, ← hn, List.drop_append, Nat.sub_eq_zero_of_le (Nat.le_of_lt hcut)]
  · next pre rest hsp =>
    rw [hsp] at hc
    obtain ⟨hds, hn⟩ := hc
    split at h
    · simp at h
    next hne =>
    simp only [Prod.mk.injEq, Option.some.injEq] at h
    obtain ⟨⟨rfl, rfl⟩, -⟩ := h
    rw [not_or] at hne
    have hn := hn.resolve_left hne.2
    exact ⟨by simp [SkBuff.payload, hds, ← hn], by simp [SkBuff.payload, hds, ← hn], rfl, rfl, rfl,
      hne.1, hne.2, by omega⟩

end Netfast.Skbuff
