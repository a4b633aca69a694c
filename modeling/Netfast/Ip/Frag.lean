import Netfast.Ip.Header

/-! The loop that cuts a packet into fragments, common to `ipv4_frag` and `ipv6_frag`: every round splits
off the next fragment and pushes its headers. -/

namespace Netfast.Ip

open Bytes Skbuff

abbrev FragHeader := ℕ → Bool → ℕ → List UInt8

def fragLoop (hdr : FragHeader) (fragPayload : ℕ) : ℕ → ℕ → SkBuff → Fates → Option (List SkBuff) × Fates
  | 0, _, _, f => (none, f)
  | k + 1, offset, cur, f =>
    if fragPayload < skbDataLen cur then
      match skbSplit cur fragPayload f with
      | (none, f) => (none, f)
      | (some (cur, next), f) =>
        match skbDataPush cur (hdr offset true fragPayload) f with
        | (none, f) => (none, f)
        | (some frag, f) =>
          match fragLoop hdr fragPayload k (offset + fragPayload) next f with
          | (none, f) => (none, f)
          | (some frags, f) => (some (frag :: frags), f)
    else
      match skbDataPush cur (hdr offset false (skbDataLen cur)) f with
      | (none, f) => (none, f)
      | (some frag, f) => (some [frag], f)

-- rounds the loop has at most
def cutFuel (b : SkBuff) : ℕ := skbDataLen b + b.infos.length

inductive Cut (hdr : FragHeader) (n : ℕ) : ℕ → List UInt8 → List SkBuff → Prop
  | last {off : ℕ} {bytes : List UInt8} {b : SkBuff} (hb : Carries b (hdr off false bytes.length) bytes)
      (hpos : bytes ≠ []) (hle : bytes.length ≤ n) : Cut hdr n off bytes [b]
  | more {off : ℕ} {chunk rest : List UInt8} {b : SkBuff} {bs : List SkBuff}
      (hb : Carries b (hdr off true n) chunk) (hlen : chunk.length = n) (hrest : Cut hdr n (off + n) rest bs) :
      Cut hdr n off (chunk ++ rest) (b :: bs)

variable {hdr : FragHeader} {bs : List SkBuff}

lemma fragLoop_cut {n k off : ℕ} {cur : SkBuff} {f f' : Fates}
    (h : fragLoop hdr n k off cur f = (some bs, f')) (hcur : cur.payload ≠ []) : Cut hdr n off cur.payload bs := by
  induction k generalizing off cur f f' bs with
  | zero => cases (Prod.mk.inj h).1
  | succ k ih =>
    rw [fragLoop] at h
    split at h
    · next hlen =>
      split at h
      · cases (Prod.mk.inj h).1
      next head tail f₁ hs =>
      obtain ⟨hhead, htail, -, -, -, -, -, -⟩ := skbSplit_spec hs
      split at h
      · cases (Prod.mk.inj h).1
      next frag f₂ hp =>
      split at h
      · cases (Prod.mk.inj h).1
      next frags f₃ hrec =>
      obtain rfl := Option.some.inj (Prod.mk.inj h).1
      have hc := skbDataPush_carries hp
      have hne : tail.payload ≠ [] := by
        rw [htail, Ne, List.drop_eq_nil_iff]
        exact Nat.not_le.mpr hlen
      rw [← List.take_append_drop n cur.payload, ← hhead, ← htail]
      refine .more hc ?_ (ih hrec hne)
      rw [hhead, List.length_take]
      exact Nat.min_eq_left (Nat.le_of_lt hlen)
    · next hlen =>
      split at h
      · cases (Prod.mk.inj h).1
      next frag f₁ hp =>
      obtain rfl := Option.some.inj (Prod.mk.inj h).1
      exact .last (skbDataPush_carries hp) hcur (Nat.le_of_not_lt hlen)

lemma Cut.pos {n off : ℕ} {bytes : List UInt8} (h : Cut hdr n off bytes bs) : 0 < n := by
  induction h with
  | last _ hpos hle => exact Nat.lt_of_lt_of_le (List.length_pos_iff.mpr hpos) hle
  | more _ _ _ ih => exact ih

lemma Cut.head {n off : ℕ} {bytes : List UInt8} {b : SkBuff}
    (h : Cut hdr n off bytes bs) (hb : bs.head? = some b) : ∃ more len t, b.data0 = hdr off more len ++ t := by
  cases h with
  | last hc _ _ =>
    obtain ⟨t, ht⟩ := hc.data0
    exact ⟨_, _, t, Option.some.inj hb ▸ ht⟩
  | more hc _ _ =>
    obtain ⟨t, ht⟩ := hc.data0
    exact ⟨_, _, t, Option.some.inj hb ▸ ht⟩

/-! `ipv4_frag` of `main/ip_frag.c`. -/

def fragHeader (header : List UInt8) (field totLen : ℕ) : List UInt8 :=
  putCheck (putBe16 (putBe16 header 6 field) 2 totLen)

-- the field of a fragment, computed in 32 bits and stored in 16
def fragField (base offset : ℕ) (more : Bool) : ℕ :=
  let field := (base + offset) % 2 ^ 32 / 8 % 2 ^ 16
  if more then field ||| 0x2000 else field

def putHeader (b : SkBuff) (hdr : List UInt8) : SkBuff :=
  { b with infos := match b.infos with
    | [] => []
    | d :: ds => { d with data := hdr.take d.data.length ++ d.data.drop hdr.length } :: ds }

-- the lengths are 32-bit numbers: mtu - ipv4_hdr_len wraps when the header is longer
def fragPayload (mtu hdrLen : ℕ) : ℕ := (mtu + 2 ^ 32 - hdrLen) % 2 ^ 32 / 8 * 8

def ipv4Frag (mtu : ℕ) (skb : SkBuff) (f : Fates) : Option (List SkBuff) × Fates :=
  let ip := skb.data0
  let hdrLen := ipv4Hl ip
  let field := ipv4FragField ip
  if ipv4TotLen ip ≤ mtu then (some [skb], f)
  else if fragDf field then (none, f)
  else
    let header := ip.take hdrLen
    let base := fragOff field * 8
    let payload := fragPayload mtu hdrLen
    match skbSplit skb ((hdrLen + payload) % 2 ^ 32) f with
    | (none, f) => (none, f)
    | (some (first, cur), f) =>
      let first := putHeader first (fragHeader header (base / 8 ||| 0x2000) (skbDataLen first))
      let hdr : FragHeader := fun offset more len =>
        fragHeader header (fragField base offset (more || fragMf field)) (hdrLen + len)
      match fragLoop hdr payload (cutFuel cur) payload cur f with
      | (none, f) => (none, f)
      | (some frags, f) => (some (first :: frags), f)

/-- What `check_ipv4_hdr` leaves of a packet: a header that lies in `data0`, and the bytes it counts. -/
structure WellFormed (b : SkBuff) : Prop where
  hdrLen : 20 ≤ ipv4Hl b.data0
  inData0 : ipv4Hl b.data0 ≤ b.data0.length
  totLen : ipv4TotLen b.data0 = skbDataLen b

instance (b : SkBuff) : Decidable (WellFormed b) :=
  decidable_of_iff (20 ≤ ipv4Hl b.data0 ∧ ipv4Hl b.data0 ≤ b.data0.length ∧ ipv4TotLen b.data0 = skbDataLen b)
    ⟨fun h => ⟨h.1, h.2.1, h.2.2⟩, fun h => ⟨h.hdrLen, h.inData0, h.totLen⟩⟩

variable {b skb : SkBuff} {hdr : List UInt8}

@[simp] lemma fragHeader_length (header : List UInt8) (field totLen : ℕ) :
    (fragHeader header field totLen).length = header.length := by simp [fragHeader]

variable {header : List UInt8}

lemma fragHeader_totLen {field totLen : ℕ} (h : 20 ≤ header.length) :
    ipv4TotLen (fragHeader header field totLen) = totLen % 65536 := by
  rw [ipv4TotLen, fragHeader, be16_putCheck (by decide), be16_putBe16 (by rw [putBe16_length]; omega)]

lemma fragHeader_field {field totLen : ℕ} (h : 20 ≤ header.length) :
    ipv4FragField (fragHeader header field totLen) = field % 65536 := by
  rw [ipv4FragField, fragHeader, be16_putCheck (by decide), be16_putBe16_of_ne (by decide), be16_putBe16 (by omega)]

lemma fragHeader_getD {field totLen j : ℕ} (h : j ∉ [2, 3, 6, 7, 10, 11]) :
    (fragHeader header field totLen).getD j 0 = header.getD j 0 := by
  simp only [List.mem_cons, List.not_mem_nil, or_false, not_or] at h
  obtain ⟨h2, h3, h6, h7, h10, h11⟩ := h
  rw [fragHeader, putCheck_getD h10 h11, putBe16_getD_of_ne h2 h3, putBe16_getD_of_ne h6 h7]

lemma putHeader_carries {h c : List UInt8} (hc : Carries b h c) (hb : b.infos ≠ []) (h' : List UInt8)
    (hlen : h'.length = h.length) : Carries (putHeader b h') h' c := by
  cases hi : b.infos with
  | nil => exact absurd hi hb
  | cons d ds =>
    obtain ⟨t, ht⟩ := hc.data0
    have hd : d.data = h ++ t := by simpa [SkBuff.data0, hi] using ht
    have hp : flatten (d :: ds) = h ++ c := by
      rw [← hi]
      exact hc.payload
    have htail : t ++ flatten ds = c := by
      rw [flatten_cons, hd, List.append_assoc] at hp
      exact List.append_cancel_left hp
    have hnew : h'.take d.data.length ++ d.data.drop h'.length = h' ++ t := by
      rw [hd, hlen, List.drop_left, List.take_of_length_le (by rw [List.length_append]; omega)]
    constructor
    · simp [putHeader, hi, SkBuff.data0, hnew]
    · simp [putHeader, hi, SkBuff.payload, hnew, htail]

lemma fragPayload_le {mtu hdrLen : ℕ} (h : hdrLen ≤ mtu) (hm : mtu < 2 ^ 32) :
    fragPayload mtu hdrLen = (mtu - hdrLen) / 8 * 8 := by
  rw [fragPayload, show mtu + 2 ^ 32 - hdrLen = mtu - hdrLen + 2 ^ 32 by omega, Nat.add_mod_right,
    Nat.mod_eq_of_lt (by omega)]

def ipv4Headers (header : List UInt8) : FragHeader := fun offset more len =>
  fragHeader header (fragField 0 offset more) (header.length + len)

lemma fragField_first : fragField 0 0 true = 0x2000 := by decide

lemma ipv4Frag_cut {mtu : ℕ} {f f' : Fates} {frags : List SkBuff} (hw : WellFormed skb) (hmtu : mtu < 2 ^ 32)
    (hle : ipv4Hl skb.data0 ≤ mtu) (hsplit : mtu < ipv4TotLen skb.data0) (hfield : ipv4IsFrag skb.data0 = false)
    (h : ipv4Frag mtu skb f = (some frags, f')) :
    Cut (ipv4Headers (skb.data0.take (ipv4Hl skb.data0))) (fragPayload mtu (ipv4Hl skb.data0)) 0
      (skb.payload.drop (ipv4Hl skb.data0)) frags := by
  obtain ⟨hoff, hmf⟩ : fragOff (ipv4FragField skb.data0) = 0 ∧ fragMf (ipv4FragField skb.data0) = false := by
    simpa [ipv4IsFrag] using hfield
  set n := fragPayload mtu (ipv4Hl skb.data0) with hn
  have hn8 : n = (mtu - ipv4Hl skb.data0) / 8 * 8 := fragPayload_le hle hmtu
  have hsum : (ipv4Hl skb.data0 + n) % 2 ^ 32 = ipv4Hl skb.data0 + n := Nat.mod_eq_of_lt (by omega)
  rw [ipv4Frag] at h
  simp only [← hn, hsum, hoff, hmf, Nat.zero_mul, Nat.zero_div, Nat.zero_or, Bool.or_false] at h
  rw [if_neg (by omega)] at h
  split at h
  · cases (Prod.mk.inj h).1
  split at h
  · cases (Prod.mk.inj h).1
  next first cur f₁ hs =>
  obtain ⟨hfirst, hcur, -, -, -, hown, -, hlen⟩ := skbSplit_spec hs
  split at h
  · cases (Prod.mk.inj h).1
  next rest f₂ hrest =>
  obtain rfl := Option.some.inj (Prod.mk.inj h).1
  have hhl : (skb.data0.take (ipv4Hl skb.data0)).length = ipv4Hl skb.data0 := by
    rw [List.length_take, Nat.min_eq_left hw.inData0]
  have hcarry := carries_of_le hw.inData0
  have hchunk : (skb.payload.drop (ipv4Hl skb.data0)).drop n = cur.payload := by
    rw [hcur, List.drop_drop]
  have hfc : Carries first (skb.data0.take (ipv4Hl skb.data0)) ((skb.payload.drop (ipv4Hl skb.data0)).take n) := by
    constructor
    · rw [skbSplit_data0 hs]
      exact List.take_prefix_take_left (Nat.le_add_right _ _)
    · rw [hfirst, List.take_add]
      congr 1
      obtain ⟨t, ht⟩ := data0_isPrefix skb
      rw [← ht, List.take_append_of_le_length hw.inData0]
  have hflen : skbDataLen first = ipv4Hl skb.data0 + n := by
    rw [skbDataLen, hfirst, List.length_take]
    exact Nat.min_eq_left (Nat.le_of_lt hlen)
  have hhdr : (fun offset more len => fragHeader (skb.data0.take (ipv4Hl skb.data0)) (fragField 0 offset more)
      (ipv4Hl skb.data0 + len)) = ipv4Headers (skb.data0.take (ipv4Hl skb.data0)) := by
    funext offset more len
    rw [ipv4Headers, hhl]
  rw [← List.take_append_drop n (skb.payload.drop (ipv4Hl skb.data0)), hchunk]
  refine .more ?_ ?_ ?_
  · rw [← hhdr, hflen]
    beta_reduce
    rw [fragField_first]
    exact putHeader_carries hfc hown _ (fragHeader_length _ _ _)
  · rw [List.length_take, List.length_drop]
    exact Nat.min_eq_left (Nat.le_sub_of_add_le' (Nat.le_of_lt hlen))
  · rw [Nat.zero_add, ← hhdr]
    refine fragLoop_cut hrest ?_
    rw [hcur, Ne, List.drop_eq_nil_iff]
    exact Nat.not_le.mpr hlen

end Netfast.Ip
