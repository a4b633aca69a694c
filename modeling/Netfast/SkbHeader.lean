import Netfast.Skbuff

/-! Headers at the front of a packet: pushed into the free space before `data0`, or in a data_info of
their own, and pulled off again. -/

namespace Netfast.Skbuff

def SkBuff.data0 (b : SkBuff) : List UInt8 := (b.infos.head?.map DataInfo.data).getD []

structure Carries (b : SkBuff) (h c : List UInt8) : Prop where
  head : h <+: b.data0
  payload : b.payload = h ++ c

lemma data0_isPrefix (b : SkBuff) : b.data0 <+: b.payload := by
  cases hb : b.infos with
  | nil => simp [SkBuff.data0, hb]
  | cons d ds => simp [SkBuff.data0, SkBuff.payload, hb]

variable {b : SkBuff}

lemma Carries.data0 {h c : List UInt8} (hc : Carries b h c) : ∃ t, b.data0 = h ++ t := by
  obtain ⟨t, ht⟩ := hc.head
  exact ⟨t, ht.symm⟩

lemma carries_of_le {n : ℕ} (h : n ≤ b.data0.length) : Carries b (b.data0.take n) (b.payload.drop n) := by
  obtain ⟨t, ht⟩ := data0_isPrefix b
  refine ⟨List.take_prefix n _, ?_⟩
  rw [← ht, List.drop_append_of_le_length h, ← List.append_assoc, List.take_append_drop]

lemma data0_append (h : b.infos ≠ []) (ds : List DataInfo) :
    SkBuff.data0 { b with infos := b.infos ++ ds } = b.data0 := by
  cases hb : b.infos with
  | nil => exact absurd hb h
  | cons d es => simp [SkBuff.data0, hb]

/-! Taking from `data0` alone; a data_info taken whole gives its slot back. -/

def pullInfos : List DataInfo → ℕ → List DataInfo
  | [], _ => []
  | d :: ds, n =>
    if n = 0 then d :: ds
    else if n < d.data.length then { d with headroom := d.headroom + n, data := d.data.drop n } :: ds
    else ds

-- skb_consume with linear set, and what it returns
def skbConsumeLinear (b : SkBuff) (size : ℕ) : SkBuff × ℕ :=
  let n := min size (skbDataLen b)
  ({ b with infos := pullInfos b.infos n }, min n b.data0.length)

lemma flatten_pullInfos {d : DataInfo} {ds : List DataInfo} {n : ℕ} (h : n ≤ d.data.length) :
    flatten (pullInfos (d :: ds) n) = (flatten (d :: ds)).drop n := by
  rw [pullInfos]
  split
  · next hz => simp [hz]
  split
  · simp [List.drop_append_of_le_length h]
  · next hlt =>
    have he : n = d.data.length := by omega
    simp [he]

lemma Carries.pulled {h c : List UInt8} (hc : Carries b h c) :
    (skbConsumeLinear b h.length).1.payload = c ∧ (skbConsumeLinear b h.length).2 = h.length := by
  obtain ⟨t, ht⟩ := hc.data0
  have hlen : h.length ≤ skbDataLen b := by
    rw [skbDataLen, hc.payload, List.length_append]
    exact Nat.le_add_right _ _
  have hd : h.length ≤ b.data0.length := by
    rw [ht, List.length_append]
    exact Nat.le_add_right _ _
  rw [skbConsumeLinear, Nat.min_eq_left hlen]
  refine ⟨?_, Nat.min_eq_left hd⟩
  cases hb : b.infos with
  | nil =>
    have hp : b.payload = [] := by simp [SkBuff.payload, hb]
    have hz := hc.payload.symm.trans hp
    rw [(List.append_eq_nil_iff.mp hz).2]
    rfl
  | cons d ds =>
    have hle : h.length ≤ d.data.length := by simpa [SkBuff.data0, hb] using hd
    have hp : flatten (d :: ds) = h ++ c := by
      rw [← hb]
      exact hc.payload
    rw [SkBuff.payload, flatten_pullInfos hle, hp, List.drop_left]

lemma pullInfos_length (ds : List DataInfo) (n : ℕ) : (pullInfos ds n).length ≤ ds.length := by
  cases ds with
  | nil => simp [pullInfos]
  | cons d ds =>
    rw [pullInfos]
    split_ifs <;> simp

def frameSlotSizes : List ℕ := [128, 254, 512, 1024, 1800, 4016]

def frameSlotMaxSize : ℕ := 4016

-- frame_slot_alloc: the size of the slot, unless there is none so large
def frameSlotAlloc (minDataLen : ℕ) : Option ℕ :=
  frameSlotSizes.find? fun size => decide ((if minDataLen = 0 then frameSlotMaxSize else minDataLen) ≤ size)

lemma frameSlotAlloc_isSome (n : ℕ) : (frameSlotAlloc n).isSome ↔ n ≤ frameSlotMaxSize := by
  by_cases hn : n = 0
  · subst hn
    decide
  · simp [frameSlotAlloc, frameSlotSizes, frameSlotMaxSize, hn]
    omega

def skbDataPush (b : SkBuff) (hdr : List UInt8) (f : Fates) : Option SkBuff × Fates :=
  match b.infos with
  | [] => (none, f)
  | d :: ds =>
    if hdr.length ≤ d.headroom then
      (some { b with infos := { d with headroom := d.headroom - hdr.length, data := hdr ++ d.data } :: ds }, f)
    else if skbDataMaxNum ≤ b.infos.length then (none, f)
    else
      match draw f with
      | (false, f) => (none, f)
      | (true, f) =>
        match frameSlotAlloc hdr.length with
        | none => (none, f)
        | some size => (some { b with infos := { headroom := 0, data := hdr, size } :: d :: ds }, f)

lemma skbDataPush_carries {b b' : SkBuff} {hdr : List UInt8} {f f' : Fates}
    (h : skbDataPush b hdr f = (some b', f')) : Carries b' hdr b.payload := by
  rw [skbDataPush] at h
  split at h
  · cases (Prod.mk.inj h).1
  next d ds hb =>
  split at h
  · obtain ⟨h, -⟩ := Prod.mk.inj h
    rw [← Option.some.inj h]
    constructor
    · simp [SkBuff.data0]
    · simp [SkBuff.payload, hb]
  split at h
  · cases (Prod.mk.inj h).1
  split at h
  · cases (Prod.mk.inj h).1
  split at h
  · cases (Prod.mk.inj h).1
  · obtain ⟨h, -⟩ := Prod.mk.inj h
    rw [← Option.some.inj h]
    constructor
    · simp [SkBuff.data0]
    · simp [SkBuff.payload, hb]

def pushedInfos (n : ℕ) : List DataInfo → ℕ
  | [] => 1
  | d :: ds => if n ≤ d.headroom then ds.length + 1 else ds.length + 2

lemma length_le_pushedInfos (n : ℕ) (ds : List DataInfo) : ds.length ≤ pushedInfos n ds := by
  cases ds with
  | nil => exact Nat.zero_le _
  | cons d ds =>
    rw [pushedInfos, List.length_cons]
    split <;> omega

lemma skbDataPush_fits {hdr : List UInt8} (hb : b.infos ≠ []) (hlen : hdr.length ≤ frameSlotMaxSize)
    (hfit : pushedInfos hdr.length b.infos ≤ skbDataMaxNum) : ∃ b', skbDataPush b hdr [] = (some b', []) := by
  rw [skbDataPush]
  split
  · next hi => exact absurd hi hb
  next d ds hi =>
  rw [hi, pushedInfos] at hfit
  split
  · exact ⟨_, rfl⟩
  next hroom =>
  rw [if_neg hroom] at hfit
  obtain ⟨size, hsize⟩ := Option.isSome_iff_exists.mp ((frameSlotAlloc_isSome _).mpr hlen)
  rw [if_neg (by rw [hi, List.length_cons]; omega), hsize]
  exact ⟨_, rfl⟩

/-! A split leaves the front of `data0` where it is. -/

lemma skbSplit_data0 {b head tail : SkBuff} {len : ℕ} {f f' : Fates}
    (h : skbSplit b len f = (some (head, tail), f')) : head.data0 = b.data0.take len := by
  have hc := splitPoint_cuts [] b.infos len
  simp only [flatten_nil, List.length_nil, Nat.zero_add, List.nil_append] at hc
  rw [skbSplit] at h
  split at h
  · cases (Prod.mk.inj h).1
  split at h
  · cases (Prod.mk.inj h).1
  split at h
  · next pre d cut rest hsp =>
    rw [hsp] at hc
    obtain ⟨hds, hcut, hn⟩ := hc
    split at h
    · cases (Prod.mk.inj h).1
    obtain ⟨rfl, -⟩ := Prod.mk.inj (Option.some.inj (Prod.mk.inj h).1)
    cases pre with
    | nil =>
      have hn : cut = len := by simpa using hn
      simp [SkBuff.data0, hds, hn]
    | cons p ps =>
      have hle : p.data.length ≤ len := by
        rw [← hn, flatten_cons, List.length_append]
        omega
      simp [SkBuff.data0, hds, List.take_of_length_le hle]
  · next pre rest hsp =>
    rw [hsp] at hc
    obtain ⟨hds, hn⟩ := hc
    split at h
    · cases (Prod.mk.inj h).1
    next hne =>
    obtain ⟨rfl, -⟩ := Prod.mk.inj (Option.some.inj (Prod.mk.inj h).1)
    rw [not_or] at hne
    have hn := hn.resolve_left hne.2
    cases pre with
    | nil => exact absurd rfl hne.1
    | cons p ps =>
      have hle : p.data.length ≤ len := by
        rw [← hn, flatten_cons, List.length_append]
        omega
      simp [SkBuff.data0, hds, List.take_of_length_le hle]

end Netfast.Skbuff
