import Netfast.Ip.Defrag
import Netfast.Lib.Collect

/-! The fragments `ipv4_frag` makes of a packet give that packet back, in whatever order they reach
`ipv4_defrag` and however often. -/

namespace Netfast.Ip

open Bytes Skbuff Ordered Collect

def fragStart (b : SkBuff) : ℕ := fragOffset b * 8

structure Piece (hl : ℕ) (k : IpqKey) (off : ℕ) (mf : Bool) (chunk : List UInt8) (b : SkBuff) : Prop where
  carries : ∃ h : List UInt8, h.length = hl ∧ Carries b h chunk
  hdrLen : ipv4Hl b.data0 = hl
  key : ipqKey b.data0 = k
  start : fragStart b = off
  more : fragMore b = mf
  df : fragDf (ipv4FragField b.data0) = false
  len : fragLen b = chunk.length
  pos : chunk ≠ []
  aligned : mf = true → chunk.length % 8 = 0

inductive Pieces (hl : ℕ) (k : IpqKey) : ℕ → List UInt8 → List SkBuff → Prop
  | last {off : ℕ} {chunk : List UInt8} {b : SkBuff} (hb : Piece hl k off false chunk b) : Pieces hl k off chunk [b]
  | more {off : ℕ} {chunk rest : List UInt8} {b : SkBuff} {bs : List SkBuff} (hb : Piece hl k off true chunk b)
      (hrest : Pieces hl k (off + chunk.length) rest bs) : Pieces hl k off (chunk ++ rest) (b :: bs)

/-! The fragments of `ipv4_frag` are such pieces. -/

variable {b : SkBuff} {n : ℕ}

lemma ipqKey_fragHeader {header t : List UInt8} (h : 20 ≤ header.length) (field totLen : ℕ) :
    ipqKey (fragHeader header field totLen ++ t) = ipqKey header := by
  have hget {j : ℕ} (hj : j < 20) (hne : j ∉ [2, 3, 6, 7, 10, 11]) :
      (fragHeader header field totLen ++ t).getD j 0 = header.getD j 0 := by
    rw [getD_append_left (by rw [fragHeader_length]; omega), fragHeader_getD hne]
  simp only [ipqKey, be32, be16]
  rw [hget (j := 4) (by decide) (by decide), hget (j := 4 + 1) (by decide) (by decide),
    hget (j := 12) (by decide) (by decide), hget (j := 12 + 1) (by decide) (by decide),
    hget (j := 12 + 2) (by decide) (by decide), hget (j := 12 + 2 + 1) (by decide) (by decide),
    hget (j := 16) (by decide) (by decide), hget (j := 16 + 1) (by decide) (by decide),
    hget (j := 16 + 2) (by decide) (by decide), hget (j := 16 + 2 + 1) (by decide) (by decide),
    hget (j := 9) (by decide) (by decide)]

lemma fragField_spec {off : ℕ} (more : Bool) (h : off < 65536) (h8 : off % 8 = 0) :
    fragField 0 off more < 65536 ∧ fragOff (fragField 0 off more) * 8 = off ∧
      fragMf (fragField 0 off more) = more ∧ fragDf (fragField 0 off more) = false := by
  have hv : (0 + off) % 2 ^ 32 / 8 % 2 ^ 16 = off / 8 := by omega
  have hlt : off / 8 < 8192 := by omega
  cases more with
  | false =>
    obtain ⟨ho, hm, hd⟩ := fragField_off hlt
    simp only [fragField, hv, Bool.false_eq_true, if_false]
    exact ⟨by omega, by rw [ho]; omega, hm, hd⟩
  | true =>
    obtain ⟨ho, hm, hd⟩ := fragField_more hlt
    simp only [fragField, hv, if_true]
    exact ⟨Nat.or_lt_two_pow (n := 16) (by omega) (by decide), by rw [ho]; omega, hm, hd⟩

lemma piece_of_carries {header chunk : List UInt8} {off : ℕ} {more : Bool}
    (hc : Carries b (ipv4Headers header off more chunk.length) chunk) (hl : 20 ≤ header.length)
    (hhl : ipv4Hl header = header.length) (hoff : off % 8 = 0) (hpos : chunk ≠ [])
    (halign : more = true → chunk.length % 8 = 0) (hlt16 : off < 65536) (hfit : header.length + chunk.length ≤ 65535) :
    Piece header.length (ipqKey header) off more chunk b := by
  obtain ⟨t, ht⟩ := hc.data0
  rw [ipv4Headers] at ht
  obtain ⟨hlt, ho, hm, hd⟩ := fragField_spec more hlt16 hoff
  have hlen : (fragHeader header (fragField 0 off more) (header.length + chunk.length)).length = header.length :=
    fragHeader_length _ _ _
  have hfield : ipv4FragField b.data0 = fragField 0 off more := by
    rw [ht, ipv4FragField, be16_append_left (by omega), ← ipv4FragField, fragHeader_field hl, Nat.mod_eq_of_lt hlt]
  have hvhl : ipv4Hl b.data0 = header.length := by
    rw [ht, ipv4Hl, getD_append_left (by omega), fragHeader_getD (by decide), ← hhl, ipv4Hl]
  refine ⟨⟨_, hlen, hc⟩, hvhl, ?_, ?_, ?_, ?_, ?_, hpos, halign⟩
  · rw [ht, ipqKey_fragHeader hl]
  · rw [fragStart, fragOffset, hfield, ho]
  · rw [fragMore, hfield, hm]
  · rw [hfield, hd]
  · have htot : ipv4TotLen b.data0 = header.length + chunk.length := by
      rw [ht, ipv4TotLen, be16_append_left (by omega), ← ipv4TotLen, fragHeader_totLen hl, Nat.mod_eq_of_lt (by omega)]
    rw [fragLen, ipv4PayloadLen, htot, hvhl]
    omega

lemma Cut.pieces {header bytes : List UInt8} {off : ℕ} {bs : List SkBuff}
    (h : Cut (ipv4Headers header) n off bytes bs) (hl : 20 ≤ header.length) (hhl : ipv4Hl header = header.length)
    (hn : n % 8 = 0) (hoff : off % 8 = 0) (hfit : header.length + (off + bytes.length) ≤ 65535) :
    Pieces header.length (ipqKey header) off bytes bs := by
  have hpos := h.pos
  induction h with
  | last hb hne hle =>
    refine .last (piece_of_carries hb hl hhl hoff hne ?_ (by omega) (by omega))
    intro hc
    cases hc
  | @more off chunk rest b bs hb hlen hrest ih =>
    rw [List.length_append] at hfit
    have hne : chunk ≠ [] := List.length_pos_iff.mp (by omega)
    refine .more (piece_of_carries (hlen ▸ hb) hl hhl hoff hne (fun _ => by omega) (by omega) (by omega)) ?_
    rw [hlen]
    exact ih (by omega) (by omega)

variable {hl off : ℕ} {k : IpqKey} {bytes : List UInt8} {frags : List SkBuff}

lemma Pieces.mem (h : Pieces hl k off bytes frags) (hb : b ∈ frags) : ∃ o more chunk, Piece hl k o more chunk b := by
  induction h with
  | last hp => exact ⟨_, _, _, List.mem_singleton.mp hb ▸ hp⟩
  | more hp hrest ih =>
    rcases List.mem_cons.mp hb with rfl | hb
    · exact ⟨_, _, _, hp⟩
    · exact ih hb

lemma Pieces.spans (h : Pieces hl k off bytes frags) :
    Spans fragStart fragLen fragMore off (off + bytes.length) frags := by
  have hpos {off : ℕ} {mf : Bool} {chunk : List UInt8} {b : SkBuff} (hp : Piece hl k off mf chunk b) : 0 < fragLen b := by
    rw [hp.len]
    exact List.length_pos_iff.mpr hp.pos
  induction h with
  | last hp =>
    rw [← hp.start, ← hp.len]
    exact .last hp.more (hpos hp)
  | more hp hrest ih =>
    rw [List.length_append, ← Nat.add_assoc]
    rw [← hp.start, ← hp.len] at ih ⊢
    exact .more hp.more (hpos hp) ih

lemma Pieces.whole (h : Pieces hl k 0 bytes frags) : Spans fragStart fragLen fragMore 0 bytes.length frags := by
  have hs := h.spans
  rwa [Nat.zero_add] at hs

lemma Pieces.ascending (h : Pieces hl k off bytes frags) : Ascending fragOffset frags := by
  refine h.spans.ascending.imp fun hlt => ?_
  rw [fragStart, fragStart] at hlt
  omega

lemma Pieces.valid (h : Pieces hl k off bytes frags) (hb : b ∈ frags) :
    fragInvalid b = false ∧ ipqKey b.data0 = k := by
  obtain ⟨o, more, chunk, hp⟩ := h.mem hb
  refine ⟨?_, hp.key⟩
  rw [fragInvalid, hp.df, hp.more, hp.len, Bool.or_false]
  cases more with
  | false => rfl
  | true => simp [hp.aligned rfl]

lemma Piece.body {mf : Bool} {chunk : List UInt8} (h : Piece hl k off mf chunk b) : (fragBody b).payload = chunk := by
  obtain ⟨h', hlen, hc⟩ := h.carries
  rw [fragBody, h.hdrLen, ← hlen]
  exact hc.pulled.1

lemma drawAll_nil (n : ℕ) : drawAll n [] = (true, []) := by
  induction n with
  | zero => rfl
  | succ n ih => exact ih

lemma joinLoop_piece {mf : Bool} {chunk : List UInt8} {g : Frag} {acc : SkBuff} {expect : ℕ}
    (h : Piece hl k off mf chunk g.skb) (rest : List Frag) (len : ℕ) (hexp : expect * 8 = off) (hacc : acc.infos ≠ [])
    (hfit : acc.infos.length + (fragBody g.skb).infos.length ≤ skbDataMaxNum) (hoff : off + chunk.length < 2 ^ 32)
    (hlen : len + chunk.length < 2 ^ 32) : ∃ acc' : SkBuff, acc'.infos = acc.infos ++ (fragBody g.skb).infos ∧
      acc'.payload = acc.payload ++ chunk ∧ acc'.data0 = acc.data0 ∧
      joinLoop (g :: rest) acc expect len [] = joinLoop rest acc' (expect + chunk.length / 8) (len + chunk.length) [] := by
  have hbody : flatten (fragBody g.skb).infos = chunk := h.body
  refine ⟨{ acc with infos := acc.infos ++ (fragBody g.skb).infos }, rfl, ?_, data0_append hacc _, ?_⟩
  · simp [SkBuff.payload, hbody]
  · have he : fragOffset g.skb = expect := by
      have hs := h.start
      rw [fragStart] at hs
      omega
    have hne : (fragBody g.skb).infos ≠ [] := by
      intro hz
      rw [hz] at hbody
      exact h.pos hbody.symm
    rw [joinLoop, if_neg (not_not_intro he)]
    simp only [if_neg (Nat.not_lt.mpr hfit), drawAll_nil, if_neg hne, h.len]
    rw [Nat.mod_eq_of_lt (by omega), Nat.mod_eq_of_lt hlen]

lemma joinLoop_pieces (h : Pieces hl k off bytes frags) {gs : List Frag} (hg : gs.map Frag.skb = frags) {acc : SkBuff}
    {expect len : ℕ} (hexp : expect * 8 = off) (hacc : acc.infos ≠ [])
    (hfit : acc.infos.length + (frags.map fun b => (fragBody b).infos.length).sum ≤ skbDataMaxNum)
    (hoff : off + bytes.length < 2 ^ 32) (hlen : len + bytes.length < 2 ^ 32) :
    ∃ skb, joinLoop gs acc expect len [] = .done skb (len + bytes.length) ∧
      skb.payload = acc.payload ++ bytes ∧ skb.data0 = acc.data0 := by
  induction h generalizing gs acc expect len with
  | @last off chunk b hp =>
    obtain ⟨g, rfl, rfl⟩ := List.map_eq_singleton_iff.mp hg
    obtain ⟨acc', -, hpay, hd, hj⟩ := joinLoop_piece hp [] len hexp hacc (by simpa using hfit) hoff hlen
    exact ⟨acc', by rw [hj, joinLoop], hpay, hd⟩
  | @more off chunk rest b bs hp hrest ih =>
    obtain ⟨g, gs', rfl, rfl, hgs⟩ := List.map_eq_cons_iff.mp hg
    rw [List.map_cons, List.sum_cons] at hfit
    rw [List.length_append] at hoff hlen
    have halign := hp.aligned rfl
    obtain ⟨acc', hi, hpay, hd, hj⟩ := joinLoop_piece hp gs' len hexp hacc (by omega) (by omega) (by omega)
    have hexp' : (expect + chunk.length / 8) * 8 = off + chunk.length := by omega
    have hfit' : acc'.infos.length + (bs.map fun b => (fragBody b).infos.length).sum ≤ skbDataMaxNum := by
      rw [hi, List.length_append]
      omega
    obtain ⟨skb, hdone, hskb, hd'⟩ := ih hgs hexp' (by simp [hi, hacc]) hfit' (by omega)
      (show len + chunk.length + rest.length < 2 ^ 32 by omega)
    refine ⟨skb, ?_, ?_, hd'.trans hd⟩
    · rw [hj, hdone, List.length_append, Nat.add_assoc]
    · rw [hskb, hpay, List.append_assoc]

structure Collected (bs : List SkBuff) (total : ℕ) (p : SkBuff → Bool) (q : Ipq) : Prop where
  frags : q.frags.map Frag.skb = bs.filter p
  counted : Counted fragStart fragLen fragMore total (bs.filter p) q.receivedLen q.totalLen q.firstRecved q.lastRecved

variable {bs : List SkBuff} {p : SkBuff → Bool} {q : Ipq} {g : Frag} {st : Reasm}

lemma Collected.refuses (h : Collected bs n p q) (hs : Ascending fragOffset bs) (hg : g.skb ∈ bs)
    (hp : p g.skb = true) : q.add g = none := by
  have hmap := insertNew_map fragOffset Frag.skb g q.frags
  rw [h.frags, insertNew_filter_of_mem hs hg hp, Option.map_eq_none_iff] at hmap
  rw [Ipq.add, hmap, Option.map_none]

lemma Collected.add (h : Collected bs bytes.length p q) (hs : Pieces hl k 0 bytes bs) (hlen : bytes.length < 2 ^ 32)
    (hg : g.skb ∈ bs) (hp : p g.skb = false) :
    ∃ q', q.add g = some q' ∧ Collected bs bytes.length (fun x => p x || x = g.skb) q' := by
  have hmap := insertNew_map fragOffset Frag.skb g q.frags
  have hins := insertNew_filter hs.ascending hg hp
  rw [h.frags, hins, Option.map_eq_some_iff] at hmap
  obtain ⟨frags, hfrags, hskbs⟩ := hmap
  have hcount := h.counted.cons (insertNew_perm hins) fun hm => hs.whole.end hg hm
  have hle : q.receivedLen + fragLen g.skb ≤ bytes.length := by
    have hsum := hs.whole.sum
    have hpart := sum_filter_le fragLen (fun x => p x || x = g.skb) bs
    rw [← hcount.received] at hpart
    omega
  have hend := (hs.whole.mem hg).2.2
  have hzero : decide (fragStart g.skb = 0) = decide (fragOffset g.skb = 0) := by
    rw [fragStart]
    exact decide_eq_decide.mpr (by omega)
  refine ⟨_, by rw [Ipq.add, hfrags, Option.map_some], hskbs, ?_⟩
  rw [hzero] at hcount
  rw [fragStart] at hcount hend
  dsimp only
  rw [Nat.mod_eq_of_lt (show q.receivedLen + fragLen g.skb < 2 ^ 32 by omega),
    Nat.mod_eq_of_lt (show fragOffset g.skb * 8 + fragLen g.skb < 2 ^ 32 by omega)]
  exact hcount

lemma Collected.waits (h : Collected bs bytes.length p q) (hs : Pieces hl k 0 bytes bs)
    (hmiss : ∃ b ∈ bs, p b = false) (f : Fates) : q.verdict f = .waits := by
  rw [Ipq.verdict, if_neg]
  intro hc
  simp only [Bool.and_eq_true, decide_eq_true_eq] at hc
  have hlt := h.counted.lt hs.whole hmiss hc.1.2
  omega

lemma Pieces.cons (hs : Pieces hl k off bytes bs) : ∃ b rest mf chunk, bs = b :: rest ∧ Piece hl k off mf chunk b ∧
    (rest = [] ∧ chunk = bytes ∨
      ∃ bytes', bytes = chunk ++ bytes' ∧ mf = true ∧ Pieces hl k (off + chunk.length) bytes' rest) := by
  cases hs with
  | last hp => exact ⟨_, _, _, _, rfl, hp, Or.inl ⟨rfl, rfl⟩⟩
  | more hp hrest => exact ⟨_, _, _, _, rfl, hp, Or.inr ⟨_, rfl, rfl, hrest⟩⟩

def chainInfos : List SkBuff → ℕ
  | [] => 0
  | b :: bs => b.infos.length + (bs.map fun c => (fragBody c).infos.length).sum

lemma Collected.joins (h : Collected bs bytes.length p q) (hs : Pieces hl k 0 bytes bs) (hlen : hl + bytes.length < 2 ^ 32)
    (hall : ∀ b ∈ bs, p b = true) (hfit : chainInfos bs ≤ skbDataMaxNum) :
    ∃ b skb, bs.head? = some b ∧ q.verdict [] = .done skb (hl + bytes.length) ∧ skb.data0 = b.data0 ∧
      skb.payload.drop hl = bytes ∧ skb.infos ≠ [] := by
  have hfrags := h.frags
  have hcount := h.counted
  rw [List.filter_eq_self.mpr hall] at hfrags hcount
  obtain ⟨hfirst, hlast, hrecv, htotal⟩ := hcount.all hs.whole
  obtain ⟨b, rest, mf, chunk, rfl, hp, hrest⟩ := hs.cons
  obtain ⟨g, gs, hq, rfl, hgs⟩ := List.map_eq_cons_iff.mp hfrags
  have hv : q.verdict [] = joinLoop gs g.skb (fragLen g.skb / 8) (skbDataLen g.skb) [] := by
    rw [Ipq.verdict, hfirst, hlast, htotal, hrecv, if_pos (by simp), if_neg (by simp), Ipq.join, hq]
  obtain ⟨h', hlen', hc⟩ := hp.carries
  have hne : g.skb.infos ≠ [] := by
    intro hz
    have hpay := hc.payload
    rw [SkBuff.payload, hz] at hpay
    exact hp.pos (List.append_eq_nil_iff.mp hpay.symm).2
  have hlen₀ : skbDataLen g.skb = hl + chunk.length := by rw [skbDataLen, hc.payload, List.length_append, hlen']
  refine ⟨g.skb, ?_⟩
  rw [hv, hp.len, hlen₀]
  rcases hrest with ⟨rfl, rfl⟩ | ⟨bytes', rfl, rfl, hrest⟩
  · obtain rfl := List.map_eq_nil_iff.mp hgs
    exact ⟨g.skb, rfl, rfl, rfl, by rw [hc.payload, ← hlen', List.drop_left], hne⟩
  · rw [List.length_append] at hlen ⊢
    have halign := hp.aligned rfl
    have hexp : chunk.length / 8 * 8 = 0 + chunk.length := by omega
    obtain ⟨skb, hdone, hpay, hd⟩ := joinLoop_pieces hrest hgs hexp hne hfit (by omega)
      (show hl + chunk.length + bytes'.length < 2 ^ 32 by omega)
    refine ⟨skb, rfl, by rw [hdone, Nat.add_assoc], hd, ?_, ?_⟩
    · rw [hpay, hc.payload, List.append_assoc, ← hlen', List.drop_left]
    · have hpos : skb.payload ≠ [] := by
        rw [hpay, hc.payload]
        simp [hp.pos]
      intro hz
      exact hpos (by rw [SkBuff.payload, hz, flatten_nil])

/-! Feeding them to `ipv4_defrag`. -/

structure Arrival where
  now : ℕ
  frag : Frag

-- allocations succeed
def feed : Reasm → List Arrival → Reasm × List (Option Frag) := Collect.feed fun st a => ipv4Defrag a.now st a.frag []

def Collecting (k : IpqKey) (bs : List SkBuff) (total : ℕ) (p : SkBuff → Bool) (st : Reasm) : Prop :=
  (st.search k = none ∧ bs.filter p = []) ∨ ∃ q, st.search k = some q ∧ Collected bs total p q

lemma Collecting.opens (h : Collecting k bs n p st) (now : ℕ) :
    ∃ q, st.openIpq now k [] = some (q, []) ∧ Collected bs n p q := by
  rcases h with ⟨hs, he⟩ | ⟨q, hs, hq⟩
  · refine ⟨{ key := k, lastUpdateTime := now % 2 ^ 32 }, ?_, ?_⟩
    · rw [Reasm.openIpq, hs]
      rfl
    · exact ⟨by simp [he], he ▸ counted_nil n 0⟩
  · exact ⟨q, by rw [Reasm.openIpq, hs], hq⟩

lemma ipv4Defrag_refuses (hs : Pieces hl k 0 bytes bs) (h : Collecting k bs bytes.length p st) (now : ℕ)
    (hg : g.skb ∈ bs) (hp : p g.skb = true) :
    (ipv4Defrag now st g []).2 = none ∧ Collecting k bs bytes.length p (ipv4Defrag now st g []).1 := by
  obtain ⟨hvalid, hkey⟩ := hs.valid hg
  obtain ⟨q, hopen, hq⟩ := h.opens now
  have hqk := openIpq_key hopen
  simp only [ipv4Defrag, hvalid, Bool.false_eq_true, if_false, hkey, hopen, hq.refuses hs.ascending hg hp]
  refine ⟨trivial, Or.inr ⟨q, ?_, hq⟩⟩
  rw [← hqk, search_setQueue]

lemma ipv4Defrag_takes (hs : Pieces hl k 0 bytes bs) (h : Collecting k bs bytes.length p st)
    (hlen : bytes.length < 2 ^ 32) (now : ℕ) (hg : g.skb ∈ bs) (hp : p g.skb = false)
    (hmiss : ∃ b ∈ bs, (p b || b = g.skb) = false) :
    (ipv4Defrag now st g []).2 = none ∧
      Collecting k bs bytes.length (fun x => p x || x = g.skb) (ipv4Defrag now st g []).1 := by
  obtain ⟨hvalid, hkey⟩ := hs.valid hg
  obtain ⟨q, hopen, hq⟩ := h.opens now
  obtain ⟨q', hadd, hq'⟩ := hq.add hs hlen hg hp
  have hqk : q'.key = k := (add_key hadd).trans (openIpq_key hopen)
  simp only [ipv4Defrag, hvalid, Bool.false_eq_true, if_false, hkey, hopen, hadd, hq'.waits hs hmiss]
  refine ⟨trivial, Or.inr ⟨q', ?_, hq'⟩⟩
  rw [← hqk, search_setQueue]

lemma ipv4Defrag_completes (hs : Pieces hl k 0 bytes bs) (h : Collecting k bs bytes.length p st)
    (hlen : hl + bytes.length < 2 ^ 32) (now : ℕ) (hg : g.skb ∈ bs) (hp : p g.skb = false)
    (hall : ∀ b ∈ bs, (p b || b = g.skb) = true) (hfit : chainInfos bs ≤ skbDataMaxNum) :
    ∃ b skb r, bs.head? = some b ∧ (ipv4Defrag now st g []).2 = some r ∧ r.skb = restoreHeader skb (hl + bytes.length) ∧
      skb.data0 = b.data0 ∧ skb.payload.drop hl = bytes ∧ skb.infos ≠ [] := by
  obtain ⟨hvalid, hkey⟩ := hs.valid hg
  obtain ⟨q, hopen, hq⟩ := h.opens now
  obtain ⟨q', hadd, hq'⟩ := hq.add hs (by omega) hg hp
  obtain ⟨b, skb, hhead, hv, hd, hpay, hne⟩ := hq'.joins hs hlen hall hfit
  refine ⟨b, skb, ⟨q'.firstRef, restoreHeader skb (hl + bytes.length)⟩, hhead, ?_, rfl, hd, hpay, hne⟩
  simp only [ipv4Defrag, hvalid, Bool.false_eq_true, if_false, hkey, hopen, hadd, hv]

lemma feed_waits (hs : Pieces hl k 0 bytes bs) (hlen : bytes.length < 2 ^ 32) (hb : b ∈ bs)
    (as : List Arrival) (h : Collecting k bs bytes.length p st) (hmem : ∀ a ∈ as, a.frag.skb ∈ bs)
    (hpb : p b = false) (hne : ∀ a ∈ as, a.frag.skb ≠ b) : (∀ o ∈ (feed st as).2, o = none) ∧
      Collecting k bs bytes.length (fun x => p x || decide (x ∈ as.map fun a => a.frag.skb)) (feed st as).1 := by
  refine Collect.feed_waits (I := Collecting k bs bytes.length) _ (fun a => a.frag.skb)
    (fun p st a hI ha hp => ipv4Defrag_refuses hs hI a.now ha hp) (fun p st a hI ha hp hpb hab => ?_) h hpb as
    fun a ha => ⟨hmem a ha, hne a ha⟩
  exact ipv4Defrag_takes hs hI hlen a.now ha hp ⟨b, hb, by simp [hpb, Ne.symm hab]⟩

structure Restored (orig r : SkBuff) : Prop where
  payload : r.payload.drop (ipv4Hl orig.data0) = orig.payload.drop (ipv4Hl orig.data0)
  header : ∀ j < ipv4Hl orig.data0, j ∉ [6, 7, 10, 11] → r.data0.getD j 0 = orig.data0.getD j 0
  inData0 : ipv4Hl orig.data0 ≤ r.data0.length
  fragOff : ipv4FragField r.data0 = 0
  check : checksum (r.data0.take (ipv4Hl orig.data0)) 0 = 0

/-- Fed in any order and with any duplicates, the fragments yield the packet when the last one that was
missing arrives, and nothing before. -/
def RoundTrips (skb : SkBuff) (frags : List SkBuff) : Prop :=
  ∀ (st : Reasm) (as : List Arrival) (last : Arrival), st.search (ipqKey skb.data0) = none →
    (∀ a ∈ as ++ [last], a.frag.skb ∈ frags) → (∀ b ∈ frags, ∃ a ∈ as ++ [last], a.frag.skb = b) →
    (∀ a ∈ as, a.frag.skb ≠ last.frag.skb) →
    (∀ o ∈ (feed st as).2, o = none) ∧
      ∃ r, (ipv4Defrag last.now (feed st as).1 last.frag []).2 = some r ∧ Restored skb r.skb

lemma ipv4Hl_le (ip : List UInt8) : ipv4Hl ip ≤ 60 := by
  rw [ipv4Hl]
  omega

lemma ipv4Hl_append {h t : List UInt8} (hpos : 0 < h.length) : ipv4Hl (h ++ t) = ipv4Hl h := by
  rw [ipv4Hl, getD_append_left hpos, ipv4Hl]

lemma ipqKey_append {h t : List UInt8} (hlen : 20 ≤ h.length) : ipqKey (h ++ t) = ipqKey h := by
  simp only [ipqKey, be32]
  rw [be16_append_left (by omega), be16_append_left (by omega), be16_append_left (by omega),
    be16_append_left (by omega), be16_append_left (by omega), getD_append_left (by omega)]

lemma restoreHeader_carries {joined : SkBuff} (hin : ipv4Hl joined.data0 ≤ joined.data0.length)
    (hne : joined.infos ≠ []) (n : ℕ) :
    Carries (restoreHeader joined n) (fragHeader (joined.data0.take (ipv4Hl joined.data0)) 0 (n % 2 ^ 16))
      (joined.payload.drop (ipv4Hl joined.data0)) :=
  putHeader_carries (carries_of_le hin) hne _ (fragHeader_length _ _ _)

section Header

variable {skb : SkBuff} (hw : WellFormed skb)
include hw

lemma WellFormed.header_length : (skb.data0.take (ipv4Hl skb.data0)).length = ipv4Hl skb.data0 := by
  rw [List.length_take, Nat.min_eq_left hw.inData0]

lemma WellFormed.header_hl : ipv4Hl (skb.data0.take (ipv4Hl skb.data0)) = ipv4Hl skb.data0 := by
  have hpos : 0 < (skb.data0.take (ipv4Hl skb.data0)).length := by
    rw [hw.header_length]
    exact Nat.lt_of_lt_of_le (by decide) hw.hdrLen
  have happ := ipv4Hl_append (t := skb.data0.drop (ipv4Hl skb.data0)) hpos
  rw [List.take_append_drop] at happ
  exact happ.symm

lemma WellFormed.header_key : ipqKey (skb.data0.take (ipv4Hl skb.data0)) = ipqKey skb.data0 := by
  have h20 : 20 ≤ (skb.data0.take (ipv4Hl skb.data0)).length := by
    rw [hw.header_length]
    exact hw.hdrLen
  have happ := ipqKey_append (t := skb.data0.drop (ipv4Hl skb.data0)) h20
  rw [List.take_append_drop] at happ
  exact happ.symm

lemma WellFormed.header_getD {j : ℕ} (hj : j < ipv4Hl skb.data0) :
    (skb.data0.take (ipv4Hl skb.data0)).getD j 0 = skb.data0.getD j 0 := by
  have hlt : j < (skb.data0.take (ipv4Hl skb.data0)).length := by rwa [hw.header_length]
  rw [← getD_append_left hlt, List.take_append_drop]

lemma WellFormed.length_lt : skbDataLen skb < 65536 := hw.totLen ▸ be16_lt

lemma WellFormed.payload_length : ipv4Hl skb.data0 + (skb.payload.drop (ipv4Hl skb.data0)).length = skbDataLen skb := by
  have hin := (data0_isPrefix skb).length_le
  have := hw.inData0
  rw [List.length_drop, skbDataLen]
  omega

lemma restored_of_first {joined : SkBuff} {more : Bool}
    (hd : ∃ t, joined.data0 = ipv4Headers (skb.data0.take (ipv4Hl skb.data0)) 0 more n ++ t) (hne : joined.infos ≠ [])
    (hpay : joined.payload.drop (ipv4Hl skb.data0) = skb.payload.drop (ipv4Hl skb.data0)) :
    Restored skb (restoreHeader joined (skbDataLen skb)) := by
  have hlen := hw.header_length
  have h20 := hw.hdrLen
  obtain ⟨t, ht⟩ := hd
  set h₁ := ipv4Headers (skb.data0.take (ipv4Hl skb.data0)) 0 more n with hh₁
  have hlen₁ : h₁.length = ipv4Hl skb.data0 := by rw [hh₁, ipv4Headers, fragHeader_length, hlen]
  have hhl : ipv4Hl joined.data0 = ipv4Hl skb.data0 := by
    rw [ht, ipv4Hl_append (by omega), hh₁, ipv4Headers, ipv4Hl, fragHeader_getD (by decide), ← ipv4Hl, hw.header_hl]
  have htake : joined.data0.take (ipv4Hl skb.data0) = h₁ := by rw [ht, ← hlen₁, List.take_left]
  have hin : ipv4Hl skb.data0 ≤ joined.data0.length := by
    rw [ht, List.length_append]
    omega
  set h₂ := fragHeader h₁ 0 (skbDataLen skb % 2 ^ 16) with hh₂
  have hlen₂ : h₂.length = ipv4Hl skb.data0 := by rw [hh₂, fragHeader_length, hlen₁]
  have hcar := restoreHeader_carries (hhl ▸ hin) hne (skbDataLen skb)
  rw [hhl, htake, ← hh₂, hpay] at hcar
  obtain ⟨t₂, ht₂⟩ := hcar.data0
  have htot : be16 h₂ 2 = be16 skb.data0 2 := by
    have hlt := hw.length_lt
    have hput : be16 h₂ 2 = skbDataLen skb % 2 ^ 16 % 65536 := fragHeader_totLen (hlen₁ ▸ h20)
    rw [hput, show be16 skb.data0 2 = skbDataLen skb from hw.totLen]
    omega
  refine ⟨?_, fun j hj hj' => ?_, ?_, ?_, ?_⟩
  · rw [hcar.payload, ← hlen₂, List.drop_left]
  · rw [ht₂, getD_append_left (by omega)]
    obtain ⟨hb2, hb3⟩ := be16_inj htot
    by_cases h2 : j = 2
    · rw [h2, hb2]
    by_cases h3 : j = 3
    · rw [h3, hb3]
    have hj₂ : j ∉ [2, 3, 6, 7, 10, 11] := by
      simp only [List.mem_cons, List.not_mem_nil, or_false, not_or] at hj' ⊢
      exact ⟨h2, h3, hj'⟩
    rw [hh₂, fragHeader_getD hj₂, hh₁, ipv4Headers, fragHeader_getD hj₂, hw.header_getD hj]
  · rw [ht₂, List.length_append]
    omega
  · rw [ht₂, ipv4FragField, be16_append_left (by omega), ← ipv4FragField, hh₂, fragHeader_field (by omega)]
  · rw [ht₂, ← hlen₂, List.take_left, hh₂, fragHeader]
    have hle := ipv4Hl_le skb.data0
    exact checksum_putCheck (by simp only [putBe16_length]; omega) (by simp only [putBe16_length]; omega)

variable {f f' : Fates} {mtu : ℕ}

lemma roundTrips_of_le (hmtu : mtu < 2 ^ 32)
    (hle : ipv4Hl skb.data0 ≤ mtu) (hsplit : mtu < ipv4TotLen skb.data0) (hfield : ipv4IsFrag skb.data0 = false)
    (h : ipv4Frag mtu skb f = (some frags, f')) (hfit : chainInfos frags ≤ skbDataMaxNum) : RoundTrips skb frags := by
  have hcut := ipv4Frag_cut hw hmtu hle hsplit hfield h
  have hlen := hw.header_length
  have hlt := hw.length_lt
  have htot := hw.payload_length
  have h20 := hw.hdrLen
  have hpieces := hcut.pieces (by omega) (hw.header_hl.trans hlen.symm) (Nat.mul_mod_left _ _) rfl (by omega)
  rw [hlen, hw.header_key] at hpieces
  intro st as last hst hmem hall hne
  have hlast := hmem last (List.mem_append_right as List.mem_cons_self)
  have hstart : Collecting (ipqKey skb.data0) frags (skb.payload.drop (ipv4Hl skb.data0)).length (fun _ => false) st :=
    Or.inl ⟨hst, List.filter_false frags⟩
  obtain ⟨houts, hend⟩ := feed_waits hpieces (by omega) hlast as hstart
    (fun a ha => hmem a (List.mem_append_left _ ha)) rfl hne
  have hseen := Collect.seen_all (fun a : Arrival => a.frag.skb) hall
  obtain ⟨b, joined, r, hhead, hr, hskb, hd, hpay, hinfos⟩ := ipv4Defrag_completes hpieces hend (by omega) last.now
    hlast (by simpa using hne) hseen hfit
  obtain ⟨more, n, t, hb⟩ := hcut.head hhead
  refine ⟨houts, r, hr, ?_⟩
  rw [hskb, htot]
  exact restored_of_first hw ⟨t, hd.trans hb⟩ hinfos hpay

lemma ipv4Frag_wraps (hlt : mtu < ipv4Hl skb.data0)
    (hsplit : mtu < ipv4TotLen skb.data0) (hfield : ipv4IsFrag skb.data0 = false)
    (h : ipv4Frag mtu skb f = (some frags, f')) : ∃ first second, frags = [first, second] ∧ fragInvalid second = true := by
  obtain ⟨hoff, hmf⟩ : fragOff (ipv4FragField skb.data0) = 0 ∧ fragMf (ipv4FragField skb.data0) = false := by
    simpa [ipv4IsFrag] using hfield
  have h60 := ipv4Hl_le skb.data0
  have hlen := hw.length_lt
  set n := fragPayload mtu (ipv4Hl skb.data0) with hn
  have hbig : 2 ^ 32 - 64 ≤ n ∧ n < 2 ^ 32 := by
    rw [hn, fragPayload]
    omega
  rw [ipv4Frag] at h
  simp only [← hn, hoff, hmf, Nat.zero_mul, Bool.or_false] at h
  rw [if_neg (by omega)] at h
  split at h
  · cases (Prod.mk.inj h).1
  split at h
  · cases (Prod.mk.inj h).1
  next first cur f₁ hs =>
  obtain ⟨-, hcur, -, -, -, -, -, -⟩ := skbSplit_spec hs
  have hcurlen : skbDataLen cur ≤ skbDataLen skb := by
    rw [skbDataLen, hcur, List.length_drop]
    exact Nat.sub_le _ _
  split at h
  · cases (Prod.mk.inj h).1
  next rest f₂ hrest =>
  obtain rfl := Option.some.inj (Prod.mk.inj h).1
  obtain ⟨k, hk⟩ : ∃ k, cutFuel cur = k + 1 := Nat.exists_eq_succ_of_ne_zero fun hz => by
    rw [hz] at hrest
    cases (Prod.mk.inj hrest).1
  rw [hk, fragLoop, if_neg (by omega)] at hrest
  split at hrest
  · cases (Prod.mk.inj hrest).1
  next frag f₃ hp =>
  obtain rfl := Option.some.inj (Prod.mk.inj hrest).1
  refine ⟨_, frag, rfl, ?_⟩
  obtain ⟨t, ht⟩ := (skbDataPush_carries hp).data0
  have h20 : 20 ≤ (skb.data0.take (ipv4Hl skb.data0)).length := by
    rw [hw.header_length]
    exact hw.hdrLen
  have hv : fragField 0 n false = n / 8 % 2 ^ 16 := by
    rw [fragField, if_neg (by simp), Nat.zero_add, Nat.mod_eq_of_lt hbig.2]
  have hdf : fragDf (ipv4FragField frag.data0) = true := by
    rw [ht, ipv4FragField, be16_append_left (by rw [fragHeader_length]; omega), ← ipv4FragField,
      fragHeader_field h20, hv, fragDf_eq, Nat.testBit_eq_decide_div_mod_eq, decide_eq_true_iff]
    omega
  rw [fragInvalid, hdf, Bool.or_true]

lemma not_roundTrips_of_lt (hlt : mtu < ipv4Hl skb.data0)
    (hsplit : mtu < ipv4TotLen skb.data0) (hfield : ipv4IsFrag skb.data0 = false)
    (h : ipv4Frag mtu skb f = (some frags, f')) : ¬RoundTrips skb frags := by
  obtain ⟨first, second, rfl, hinv⟩ := ipv4Frag_wraps hw hlt hsplit hfield h
  have hnone (st : Reasm) : (ipv4Defrag 0 st ⟨0, second⟩ []).2 = none := by rw [ipv4Defrag, if_pos hinv]
  intro hrt
  by_cases he : first = second
  · obtain ⟨-, r, hr, -⟩ := hrt {} [] ⟨0, ⟨0, second⟩⟩ rfl (by simp) (by simp [he]) (by simp)
    rw [hnone] at hr
    cases hr
  · obtain ⟨-, r, hr, -⟩ := hrt {} [⟨0, ⟨0, first⟩⟩] ⟨0, ⟨0, second⟩⟩ rfl (by simp) (by simp) (by simpa using he)
    rw [hnone] at hr
    cases hr

end Header

theorem ipv4_fragments_round_trip {skb : SkBuff} {mtu : ℕ} {f f' : Fates} {frags : List SkBuff} (hw : WellFormed skb)
    (hu : ipv4IsFrag skb.data0 = false) (hmtu : mtu < 2 ^ 32) (hsplit : mtu < ipv4TotLen skb.data0)
    (h : ipv4Frag mtu skb f = (some frags, f')) (hfit : chainInfos frags ≤ skbDataMaxNum) :
    RoundTrips skb frags ↔ ipv4Hl skb.data0 ≤ mtu := by
  refine ⟨fun hrt => ?_, fun hle => roundTrips_of_le hw hmtu hle hsplit hu h hfit⟩
  by_contra hlt
  exact not_roundTrips_of_lt hw (Nat.lt_of_not_le hlt) hsplit hu h hrt

def plainPacket : SkBuff :=
  { seq := 0, flag := {}, infos :=
    [{ headroom := 14, size := 128, data :=
        [0x45, 0, 0, 60, 0, 7, 0, 0, 64, 17, 0, 0, 10, 0, 0, 1, 10, 0, 0, 2] ++ List.replicate 10 1 },
      { headroom := 0, size := 128, data := List.replicate 30 2 }] }

lemma plainPacket_wellFormed : WellFormed plainPacket := by decide

theorem ipv4_fragments_round_trip_plain : RoundTrips plainPacket ((ipv4Frag 44 plainPacket []).1.getD []) := by
  have hfrags : ipv4Frag 44 plainPacket [] = (some ((ipv4Frag 44 plainPacket []).1.getD []), []) := by decide
  refine (ipv4_fragments_round_trip plainPacket_wellFormed ?_ ?_ ?_ hfrags ?_).mpr ?_
  all_goals decide

def optionsPacket : SkBuff :=
  { seq := 0, flag := {}, infos :=
    [{ headroom := 14, size := 128, data :=
        [0x4f, 0, 0, 80, 0, 7, 0, 0, 64, 17, 0, 0, 10, 0, 0, 1, 10, 0, 0, 2] ++ List.replicate 40 1 ++
          List.replicate 20 2 }] }

def optionsFrags : List SkBuff := (ipv4Frag 56 optionsPacket []).1.getD []

lemma optionsPacket_wellFormed : WellFormed optionsPacket := by decide

/-- The MTU is four bytes short of the header: the first fragment ends inside the header, the second has
every bit of the fragment field set, and nothing comes out. -/
theorem header_longer_than_mtu : (ipv4Frag 56 optionsPacket []).1 = some optionsFrags ∧
    optionsFrags.map skbDataLen = [52, 88] ∧ optionsFrags.map (fun b => ipv4FragField b.data0) = [0x2000, 0xFFFF] ∧
    (feed {} (optionsFrags.map fun b => { now := 0, frag := { ref := 0, skb := b } })).2 = [none, none] ∧
    ¬RoundTrips optionsPacket optionsFrags := by
  have hfrags : ipv4Frag 56 optionsPacket [] = (some optionsFrags, []) := by decide
  refine ⟨congrArg Prod.fst hfrags, by decide, by decide, by decide, ?_⟩
  exact not_roundTrips_of_lt optionsPacket_wellFormed (by decide) (by decide) (by decide) hfrags

end Netfast.Ip
