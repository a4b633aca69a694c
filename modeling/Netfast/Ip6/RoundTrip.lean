import Netfast.Ip.RoundTrip
import Netfast.Ip6.Defrag

/-! The fragments `ipv6_frag` makes of a packet give that packet back, in whatever order they reach
`ipv6_defrag` and however often. -/

namespace Netfast.Ip6

open Bytes Skbuff Ordered Collect
open Ip (Frag Cut Arrival)

def fragStart (b : SkBuff) : ℕ := ((findFragHeader b).map fun i => i.header.offset8 * 8).getD 0

def fragLen (b : SkBuff) : ℕ := ((findFragHeader b).map fun i => i.payloadLen b).getD 0

def fragMore (b : SkBuff) : Bool := ((findFragHeader b).map fun i => i.header.more).getD false

structure Piece (k : IpqKey) (nh : UInt8) (b : SkBuff) (info : FragInfo) : Prop where
  found : findFragHeader b = some info
  offset : info.offset = ipv6HdrLen
  previous : info.previousNhOffset = 6
  nextHdr : info.header.nextHdr = nh
  reserved : info.header.reservedSet = false
  atomic : info.header.atomic = false
  valid : info.invalid b = false
  key : ipqKey info.header.id b.data0 = k

variable {k : IpqKey} {nh : UInt8} {b : SkBuff} {info : FragInfo} {fixed bytes chunk : List UInt8} {n id off : ℕ}
  {bs : List SkBuff}

lemma Piece.start (h : Piece k nh b info) : fragStart b = info.header.offset8 * 8 := by
  rw [fragStart, h.found, Option.map_some, Option.getD_some]

lemma Piece.len (h : Piece k nh b info) : fragLen b = info.payloadLen b := by
  rw [fragLen, h.found, Option.map_some, Option.getD_some]

lemma Piece.more (h : Piece k nh b info) : fragMore b = info.header.more := by
  rw [fragMore, h.found, Option.map_some, Option.getD_some]

/-! The fragments of `ipv6_frag` are such pieces. -/

lemma fragSet_eq (more : Bool) (h : off < 65536) (h8 : off % 8 = 0) : fragSet off more = off + more.toNat := by
  rw [fragSet]
  omega

variable {x : UInt8}

lemma fixed_length {v : ℕ} (hl : fixed.length = ipv6HdrLen) : (putBe16 (fixed.set 6 x) 4 v).length = ipv6HdrLen := by
  rw [putBe16_length, List.length_set, hl]

lemma fixed_nextHdr {v : ℕ} (hl : fixed.length = ipv6HdrLen) : ipv6NextHdr (putBe16 (fixed.set 6 x) 4 v) = x := by
  rw [ipv6NextHdr, putBe16_getD_of_ne (by decide) (by decide), getD_set, if_pos ⟨rfl, by rw [hl]; decide⟩]

lemma ipqKey_fixed {v : ℕ} (t : List UInt8) (hl : fixed.length = ipv6HdrLen) :
    ipqKey id (putBe16 (fixed.set 6 x) 4 v ++ t) = ipqKey id fixed := by
  have hdrop (m : ℕ) (hm : 6 < m) : (putBe16 (fixed.set 6 x) 4 v).drop m = fixed.drop m := by
    rw [putBe16, List.drop_set_of_lt (by omega), List.drop_set_of_lt (by omega), List.drop_set_of_lt hm]
  have hlen := fixed_length (x := x) (v := v) hl
  rw [ipv6HdrLen] at hl hlen
  rw [ipqKey, ipqKey, List.drop_append_of_le_length (by omega), List.drop_append_of_le_length (by omega),
    hdrop 8 (by decide), hdrop 24 (by decide), List.take_append_of_le_length (by rw [List.length_drop]; omega),
    List.take_append_of_le_length (by rw [List.length_drop]; omega)]

variable {more : Bool}

lemma piece_of_carries (hc : Carries b (fragHeaders fixed nh id off more chunk.length) chunk)
    (hl : fixed.length = ipv6HdrLen) (hid : id < 2 ^ 32) (hoff : off % 8 = 0) (hpos : chunk ≠ [])
    (halign : more = true → chunk.length % 8 = 0) (hend : off + chunk.length ≤ 65535)
    (hatomic : 0 < off ∨ more = true) :
    ∃ info, Piece (ipqKey id fixed) nh b info ∧ info.header.offset8 * 8 = off ∧ info.header.more = more ∧
      info.payloadLen b = chunk.length := by
  have hset : (fragHdr nh id off more).fragOff = off + more.toNat := fragSet_eq more (by omega) hoff
  have hnat : more.toNat ≤ 1 := by cases more <;> decide
  have hfound := findFragHeader_of_carries hc (fixed_length hl) (fixed_nextHdr hl) (by omega) hid
  have hlen : skbDataLen b = ipv6HdrLen + fragHdrLen + chunk.length := by
    rw [skbDataLen, hc.payload, List.length_append, fragHeaders, List.length_append, fixed_length hl,
      fragHdr_bytes_length]
  have h8 : (fragHdr nh id off more).offset8 * 8 = off := by
    rw [FragHdr.offset8]
    omega
  have hmore : (fragHdr nh id off more).more = more := by
    have hmod : (off + more.toNat) % 2 = more.toNat := by omega
    rw [FragHdr.more, hset, hmod]
    cases more <;> rfl
  have hpay : FragInfo.payloadLen ⟨fragHdr nh id off more, ipv6HdrLen, 6⟩ b = chunk.length := by
    rw [FragInfo.payloadLen, hlen]
    exact Nat.add_sub_cancel_left _ _
  have hpos' := List.length_pos_iff.mpr hpos
  refine ⟨_, ⟨hfound, rfl, rfl, rfl, ?_, ?_, ?_, ?_⟩, h8, hmore, hpay⟩
  · have hres : (fragHdr nh id off more).fragOff / 2 % 4 = 0 := by omega
    rw [FragHdr.reservedSet, hres]
    rfl
  · rw [FragHdr.atomic, hmore]
    rcases hatomic with h0 | rfl
    · have hne : (fragHdr nh id off more).offset8 ≠ 0 := by omega
      rw [decide_eq_false hne, Bool.false_and]
    · rw [Bool.not_true, Bool.and_false]
  · have hodd : (more && decide (chunk.length % 8 ≠ 0)) = false := by
      cases more with
      | false => rfl
      | true => simp [halign rfl]
    rw [FragInfo.invalid, hpay, h8, hmore, hodd, decide_eq_false (by omega), decide_eq_false (by omega),
      decide_eq_false (by omega)]
    rfl
  · obtain ⟨t, ht⟩ := hc.data0
    rw [ht, fragHeaders, List.append_assoc, ipqKey_fixed _ hl]
    rfl

def stripLen : ℕ := ipv6HdrLen + fragHdrLen

def bodyInfos (b : SkBuff) : List DataInfo := (skbConsume b stripLen).infos

lemma fragHeaders_length {m : ℕ} (hl : fixed.length = ipv6HdrLen) :
    (fragHeaders fixed nh id off more m).length = stripLen := by
  rw [fragHeaders, List.length_append, fixed_length hl, fragHdr_bytes_length, stripLen]

lemma body_of_carries {m : ℕ} (hc : Carries b (fragHeaders fixed nh id off more m) chunk)
    (hl : fixed.length = ipv6HdrLen) : flatten (bodyInfos b) = chunk ∧ stripLen ≤ skbDataLen b := by
  have hlen : (fragHeaders fixed nh id off more m).length = stripLen := fragHeaders_length hl
  constructor
  · have hpay := skbConsume_payload b stripLen
    rw [hc.payload, List.drop_left' hlen] at hpay
    exact hpay
  · rw [skbDataLen, hc.payload, List.length_append, hlen]
    exact Nat.le_add_right _ _

def Entered (e : IpqFrag) : Prop := e.start = fragStart e.buf.skb ∧ e.len = fragLen e.buf.skb

lemma cut_bodies (h : Cut (fragHeaders fixed nh id) n off bytes bs) (hl : fixed.length = ipv6HdrLen) :
    flatten (bs.flatMap bodyInfos) = bytes ∧ ∀ b ∈ bs, stripLen ≤ skbDataLen b := by
  induction h with
  | last hb _ _ =>
    obtain ⟨hbody, hle⟩ := body_of_carries hb hl
    refine ⟨by simpa using hbody, fun c hc => List.mem_singleton.mp hc ▸ hle⟩
  | more hb _ _ ih =>
    obtain ⟨hbody, hle⟩ := body_of_carries hb hl
    refine ⟨?_, fun c hc => ?_⟩
    · rw [List.flatMap_cons, flatten_append, hbody, ih.1]
    · rcases List.mem_cons.mp hc with rfl | hc
      · exact hle
      · exact ih.2 c hc

variable {es : List IpqFrag} {a z : ℕ}

lemma joinLoop_spans (h : Spans fragStart fragLen fragMore a z bs) (hes : es.map (fun e => e.buf.skb) = bs)
    (hent : ∀ e ∈ es, Entered e) (hstrip : ∀ b ∈ bs, stripLen ≤ skbDataLen b) (acc : SkBuff)
    (hfit : acc.infos.length + (bs.flatMap bodyInfos).length ≤ skbDataMaxNum) :
    ∃ skb, joinLoop stripLen es (some acc) a [] = (some (skb, z), []) ∧
      skb.infos = acc.infos ++ bs.flatMap bodyInfos := by
  -- one round chains the body of a fragment
  have hround (e : IpqFrag) (es : List IpqFrag) (acc : SkBuff) (he : Entered e)
      (hle : stripLen ≤ skbDataLen e.buf.skb)
      (hfit : acc.infos.length + (bodyInfos e.buf.skb).length ≤ skbDataMaxNum) :
      joinLoop stripLen (e :: es) (some acc) (fragStart e.buf.skb) [] =
        joinLoop stripLen es (some { acc with infos := acc.infos ++ bodyInfos e.buf.skb })
          (fragStart e.buf.skb + fragLen e.buf.skb) [] := by
    have hfit' : ¬skbDataMaxNum < acc.infos.length + (skbConsume e.buf.skb stripLen).infos.length := Nat.not_lt.mpr hfit
    rw [joinLoop, if_neg (not_not_intro he.1), if_neg (Nat.not_lt.mpr hle), he.2]
    simp only [chainSkb, if_neg hfit', draw]
    rfl
  induction h generalizing es acc with
  | @last b hm hpos =>
    obtain ⟨e, rfl, rfl⟩ := List.map_eq_singleton_iff.mp hes
    have hfit' : acc.infos.length + (bodyInfos e.buf.skb).length ≤ skbDataMaxNum := by simpa using hfit
    rw [hround e [] acc (hent e List.mem_cons_self) (hstrip _ List.mem_cons_self) hfit']
    exact ⟨_, rfl, by simp⟩
  | @more b z bs hm hpos hrest ih =>
    obtain ⟨e, es', rfl, rfl, hes'⟩ := List.map_eq_cons_iff.mp hes
    rw [List.flatMap_cons, List.length_append] at hfit
    rw [hround e es' acc (hent e List.mem_cons_self) (hstrip _ List.mem_cons_self) (by omega)]
    obtain ⟨skb, hjoin, hinfos⟩ := ih hes' (fun x hx => hent x (List.mem_cons_of_mem e hx))
      (fun x hx => hstrip x (List.mem_cons_of_mem _ hx)) { acc with infos := acc.infos ++ bodyInfos e.buf.skb }
      (by rw [List.length_append]; omega)
    exact ⟨skb, hjoin, by rw [hinfos, List.flatMap_cons, List.append_assoc]⟩

lemma joinLoop_all (h : Spans fragStart fragLen fragMore 0 z bs) (hes : es.map (fun e => e.buf.skb) = bs)
    (hent : ∀ e ∈ es, Entered e) (hstrip : ∀ b ∈ bs, stripLen ≤ skbDataLen b)
    (hfit : (bs.flatMap bodyInfos).length ≤ skbDataMaxNum) :
    ∃ skb, joinLoop stripLen es none 0 [] = (some (skb, z), []) ∧ skb.infos = bs.flatMap bodyInfos := by
  obtain ⟨b, rest, rfl, hb, hrest⟩ := h.head
  obtain ⟨e, es', rfl, rfl, hes'⟩ := List.map_eq_cons_iff.mp hes
  obtain ⟨hstart, hlen⟩ := hent e List.mem_cons_self
  rw [joinLoop, if_neg (not_not_intro (hstart.trans hb)), if_neg (Nat.not_lt.mpr (hstrip _ List.mem_cons_self)),
    hlen]
  rcases hrest with ⟨rfl, hz⟩ | hrest
  · obtain rfl := List.map_eq_nil_iff.mp hes'
    rw [hz]
    exact ⟨_, rfl, by simp [bodyInfos]⟩
  · obtain ⟨skb, hjoin, hinfos⟩ := joinLoop_spans hrest hes' (fun x hx => hent x (List.mem_cons_of_mem e hx))
      (fun x hx => hstrip x (List.mem_cons_of_mem _ hx)) (skbConsume e.buf.skb stripLen)
      (by rwa [List.flatMap_cons, List.length_append] at hfit)
    exact ⟨skb, hjoin, hinfos⟩

structure Collected (nh : UInt8) (bs : List SkBuff) (whole : ℕ) (p : SkBuff → Bool) (q : Ipq) : Prop where
  frags : q.frags.map (fun e => e.buf.skb) = bs.filter p
  entered : ∀ e ∈ q.frags, Entered e
  unfragLen : q.unfragLen = ipv6HdrLen
  previous : q.previousNhOffset = 6
  nextHeader : q.nextHeader = nh
  counted : Counted fragStart fragLen fragMore whole (bs.filter p) q.receivedLen q.totalLen q.firstRecved q.lastRecved

variable {p : SkBuff → Bool} {q : Ipq} {g : Frag} {st : Reasm} {whole : ℕ}

lemma Piece.entered (h : Piece k nh g.skb info) : Entered (info.entry g) := ⟨h.start.symm, h.len.symm⟩

lemma Collected.refuses (h : Collected nh bs whole p q) (hs : Spans fragStart fragLen fragMore 0 whole bs)
    (hp : Piece k nh g.skb info) (hg : g.skb ∈ bs) (hpick : p g.skb = true) :
    q.add (info.entry g) info.header.more = .refused := by
  have hmem : g.skb ∈ q.frags.map fun e => e.buf.skb := by
    rw [h.frags]
    exact List.mem_filter.mpr ⟨hg, hpick⟩
  obtain ⟨e, he, hskb⟩ := List.mem_map.mp hmem
  obtain ⟨hstart, hlen⟩ := h.entered e he
  obtain ⟨hstart', hlen'⟩ := hp.entered
  have hpos := (hs.mem hg).2.1
  rw [hskb] at hstart hlen
  have hov : (info.entry g).overlaps e = true := by
    have hb : (info.entry g).buf.skb = g.skb := rfl
    rw [hb] at hstart' hlen'
    rw [IpqFrag.overlaps_iff]
    omega
  rw [Ipq.add, if_pos (List.any_eq_true.mpr ⟨e, he, hov⟩)]

lemma Collected.takes (h : Collected nh bs whole p q) (hs : Spans fragStart fragLen fragMore 0 whole bs)
    (hp : Piece k nh g.skb info) (hg : g.skb ∈ bs) (hpick : p g.skb = false) :
    ∃ q', q.add (info.entry g) info.header.more = .taken q' ∧ q'.key = q.key ∧
      Collected nh bs whole (fun x => p x || x = g.skb) q' := by
  obtain ⟨hstart, hlen⟩ := hp.entered
  have hskb : (info.entry g).buf.skb = g.skb := rfl
  rw [hskb] at hstart hlen
  have hend := (hs.mem hg).2.2
  have hmem (e : IpqFrag) (he : e ∈ q.frags) : e.buf.skb ∈ bs ∧ e.buf.skb ≠ g.skb := by
    have hin : e.buf.skb ∈ bs.filter p := by
      rw [← h.frags]
      exact List.mem_map_of_mem he
    obtain ⟨hb, hpe⟩ := List.mem_filter.mp hin
    refine ⟨hb, fun heq => ?_⟩
    rw [heq, hpick] at hpe
    cases hpe
  have hover : q.frags.any (info.entry g).overlaps = false := by
    refine List.any_eq_false.mpr fun e he hov => ?_
    obtain ⟨hb, hne⟩ := hmem e he
    obtain ⟨hestart, helen⟩ := h.entered e he
    rw [IpqFrag.overlaps_iff] at hov
    exact hne (hs.disjoint hb hg (by omega) (by omega))
  have hends : q.inconsistentEnd (info.entry g) info.header.more = false := by
    have hlast : (q.lastRecved && decide (q.totalLen < (info.entry g).end)) = false := by
      rw [Bool.and_eq_false_imp, IpqFrag.end]
      intro hl
      have ht := h.counted.total hl
      exact decide_eq_false (by omega)
    cases hm : info.header.more with
    | true => simp [Ipq.inconsistentEnd, hlast]
    | false =>
      have hwhole := hs.end hg (hp.more.trans hm)
      have hany : q.frags.any (fun x => decide ((info.entry g).end < x.end)) = false := by
        refine List.any_eq_false.mpr fun e he hlt => ?_
        obtain ⟨hestart, helen⟩ := h.entered e he
        have hle := (hs.mem (hmem e he).1).2.2
        rw [decide_eq_true_iff, IpqFrag.end, IpqFrag.end] at hlt
        omega
      have hsame : (q.lastRecved && decide (q.totalLen ≠ (info.entry g).end)) = false := by
        rw [Bool.and_eq_false_imp, IpqFrag.end]
        intro hl
        have ht := h.counted.total hl
        exact decide_eq_false (by omega)
      rw [Ipq.inconsistentEnd, hlast, hany, Bool.not_false, Bool.true_and, Bool.true_and, hsame]
      rfl
  -- the list is ordered by the offsets of the entries as by those of the fragments
  have hkey : insertNew IpqFrag.offset (info.entry g) q.frags =
      insertNew (fun e => fragStart e.buf.skb) (info.entry g) q.frags := by
    refine insertNew_congr fun e he => ?_
    have hestart := (h.entered e he).1
    rw [IpqFrag.start] at hestart hstart
    rw [hskb]
    omega
  have hmap := insertNew_map fragStart (fun e : IpqFrag => e.buf.skb) (info.entry g) q.frags
  rw [← hkey, h.frags, hskb, insertNew_filter hs.ascending hg hpick, Option.map_eq_some_iff] at hmap
  obtain ⟨frags, hins, hskbs⟩ := hmap
  have hadd : q.add (info.entry g) info.header.more = .taken { q with
      frags
      lastRecved := q.lastRecved || !info.header.more
      totalLen := if info.header.more then q.totalLen else (info.entry g).end
      firstRecved := q.firstRecved || decide ((info.entry g).offset = 0)
      receivedLen := q.receivedLen + (info.entry g).len } := by
    rw [Ipq.add, if_neg (by rw [hover]; decide), if_neg (by rw [hends]; decide), hins]
  refine ⟨_, hadd, rfl, hskbs, ?_, h.unfragLen, h.previous, h.nextHeader, ?_⟩
  · intro e he
    rcases (insertNew_mem hins).mp he with rfl | he
    · exact hp.entered
    · exact h.entered e he
  · have hcount := h.counted.cons (insertNew_perm (insertNew_filter hs.ascending hg hpick))
      (fun hm => hs.end hg hm)
    have hzero : decide (fragStart g.skb = 0) = decide ((info.entry g).offset = 0) := by
      rw [IpqFrag.start] at hstart
      exact decide_eq_decide.mpr (by omega)
    rw [hp.more, ← hlen, hzero, ← hstart] at hcount
    exact hcount

lemma Collected.waits (h : Collected nh bs whole p q) (hs : Spans fragStart fragLen fragMore 0 whole bs)
    (hmiss : ∃ b ∈ bs, p b = false) (f : Fates) : q.verdict f = .waits := by
  rw [Ipq.verdict, if_neg]
  intro hc
  simp only [Bool.and_eq_true, decide_eq_true_eq] at hc
  have hlt := h.counted.lt hs hmiss hc.1.2
  omega

lemma restore_fixed {v m : ℕ} (hl : fixed.length = ipv6HdrLen) (hm : ipv6PayloadLen fixed = m) :
    putBe16 ((putBe16 (fixed.set 6 x) 4 v).set 6 (ipv6NextHdr fixed)) 4 m = fixed := by
  have hlen : (putBe16 ((putBe16 (fixed.set 6 x) 4 v).set 6 (ipv6NextHdr fixed)) 4 m).length = fixed.length := by simp
  have hfield : be16 (putBe16 ((putBe16 (fixed.set 6 x) 4 v).set 6 (ipv6NextHdr fixed)) 4 m) 4 = be16 fixed 4 := by
    have hlt := @be16_lt fixed 4
    rw [ipv6PayloadLen] at hm
    rw [be16_putBe16 (by simp [hl, ipv6HdrLen]), ← hm, Nat.mod_eq_of_lt hlt]
  obtain ⟨h4, h5⟩ := be16_inj hfield
  refine ext_getD hlen fun j _ => ?_
  by_cases hj4 : j = 4
  · exact hj4 ▸ h4
  by_cases hj5 : j = 5
  · exact hj5 ▸ h5
  rw [putBe16_getD_of_ne hj4 hj5, getD_set]
  by_cases hj6 : 6 = j
  · subst hj6
    rw [if_pos ⟨rfl, by simp [hl, ipv6HdrLen]⟩]
    rfl
  · rw [if_neg (fun hc => hj6 hc.1), putBe16_getD_of_ne hj4 hj5, getD_set, if_neg (fun hc => hj6 hc.1)]

def restoredInfos (frags : List SkBuff) : ℕ := pushedInfos ipv6HdrLen (frags.flatMap bodyInfos)

lemma Cut.first_header {rest : List SkBuff} (h : Cut (fragHeaders fixed nh id) n off bytes (b :: rest))
    (hl : fixed.length = ipv6HdrLen) :
    ∃ v, copyBits b 0 ipv6HdrLen = some (putBe16 (fixed.set 6 nexthdrFrag) 4 v) := by
  have hread {more : Bool} {m : ℕ} {chunk : List UInt8} (hc : Carries b (fragHeaders fixed nh id off more m) chunk) :
      ∃ v, copyBits b 0 ipv6HdrLen = some (putBe16 (fixed.set 6 nexthdrFrag) 4 v) := by
    refine ⟨fragHdrLen + m, ?_⟩
    have hle := (body_of_carries hc hl).2
    rw [stripLen] at hle
    rw [copyBits_eq (by omega), List.drop_zero, hc.payload, fragHeaders, List.append_assoc,
      List.take_left' (fixed_length hl)]
  cases h with
  | last hb _ _ => exact hread hb
  | more hb _ _ => exact hread hb

lemma Collected.joins (h : Collected nh bs bytes.length p q) (hs : Spans fragStart fragLen fragMore 0 bytes.length bs)
    (hcut : Cut (fragHeaders fixed nh id) n 0 bytes bs) (hl : fixed.length = ipv6HdrLen) (hnh : ipv6NextHdr fixed = nh)
    (hlen : ipv6PayloadLen fixed = bytes.length) (hall : ∀ b ∈ bs, p b = true)
    (hfit : restoredInfos bs ≤ skbDataMaxNum) : ∃ skb, q.verdict [] = .done skb ∧ Carries skb fixed bytes := by
  have hfrags := h.frags
  have hcount := h.counted
  rw [List.filter_eq_self.mpr hall] at hfrags hcount
  obtain ⟨hfirst, hlast, hrecv, htotal⟩ := hcount.all hs
  obtain ⟨hbodies, hstrip⟩ := cut_bodies hcut hl
  obtain ⟨joined, hjoin, hinfos⟩ := joinLoop_all hs hfrags h.entered hstrip
    (Nat.le_trans (length_le_pushedInfos _ _) hfit)
  have hpay : joined.payload = bytes := by rw [SkBuff.payload, hinfos, hbodies]
  obtain ⟨b, rest, rfl, -, -⟩ := hs.head
  obtain ⟨e, es, hq, rfl, -⟩ := List.map_eq_cons_iff.mp hfrags
  obtain ⟨v, hunfrag⟩ := Cut.first_header hcut hl
  have hlt := @be16_lt fixed 4
  have hhdr : restoreHeader q (putBe16 (fixed.set 6 nexthdrFrag) 4 v) bytes.length = fixed := by
    rw [restoreHeader, h.previous, h.nextHeader, ← hnh, restore_fixed hl hlen]
  have hne : joined.infos ≠ [] := by
    intro hz
    have hpos := (hs.mem List.mem_cons_self)
    rw [SkBuff.payload, hz, flatten_nil] at hpay
    rw [← hpay, List.length_nil] at hpos
    omega
  have hslot : fixed.length ≤ frameSlotMaxSize := by
    rw [hl]
    decide
  obtain ⟨skb, hpush⟩ := skbDataPush_fits hne hslot (by rw [hl, hinfos]; exact hfit)
  refine ⟨skb, ?_, hpay ▸ skbDataPush_carries hpush⟩
  have hmax : ¬unfragMax < ipv6HdrLen := by decide
  have hsmall : ¬65535 < bytes.length := by
    rw [ipv6PayloadLen] at hlen
    omega
  rw [Ipq.verdict, hfirst, hlast, hrecv, htotal, if_pos (by simp), if_neg (by simp), Ipq.join, hq]
  simp only [h.unfragLen, if_neg hmax, hunfrag]
  rw [← hq, ← stripLen, hjoin]
  simp only [Nat.sub_self, Nat.zero_add, if_neg hsmall, hhdr, hpush]

/-! Feeding them to `ipv6_defrag`. -/

def Collecting (k : IpqKey) (nh : UInt8) (bs : List SkBuff) (whole : ℕ) (p : SkBuff → Bool) (st : Reasm) : Prop :=
  (st.search k = none ∧ bs.filter p = []) ∨ ∃ q, st.search k = some q ∧ Collected nh bs whole p q

lemma Collecting.opens (h : Collecting k nh bs whole p st) (hp : Piece k nh b info) :
    ∃ q, st.openIpq k info [] = .found q [] ∧ q.key = k ∧ Collected nh bs whole p q := by
  rcases h with ⟨hs, he⟩ | ⟨q, hs, hq⟩
  · refine ⟨_, by rw [Reasm.openIpq, hs]; rfl, rfl, ?_, ?_, ?_, ?_, hp.nextHdr, ?_⟩
    · rw [he]
      rfl
    · intro e he'
      cases he'
    · change info.offset % 2 ^ 16 = _
      rw [hp.offset]
      rfl
    · change info.previousNhOffset % 2 ^ 16 = _
      rw [hp.previous]
      rfl
    · rw [he]
      exact counted_nil _ _
  · have hmatch : q.matches info = true := by
      simp [Ipq.matches, hq.unfragLen, hq.previous, hq.nextHeader, hp.offset, hp.previous, hp.nextHdr]
    exact ⟨q, by rw [Reasm.openIpq, hs]; exact if_pos hmatch, search_key hs, hq⟩

-- allocations succeed
def defragArrival (st : Reasm) (a : Arrival) : Reasm × Option Frag := ipv6Defrag a.now st a.frag []

/-- Fed in any order and with any duplicates, the fragments yield the packet, byte for byte, when the last one that was
missing arrives, and nothing before. -/
def RoundTrips (id : ℕ) (skb : SkBuff) (frags : List SkBuff) : Prop :=
  ∀ (st : Reasm) (as : List Arrival) (last : Arrival), st.search (ipqKey id skb.data0) = none →
    (∀ a ∈ as ++ [last], a.frag.skb ∈ frags) → (∀ b ∈ frags, ∃ a ∈ as ++ [last], a.frag.skb = b) →
    (∀ a ∈ as, a.frag.skb ≠ last.frag.skb) →
    (∀ o ∈ (feed defragArrival st as).2, o = none) ∧
      ∃ r, (defragArrival (feed defragArrival st as).1 last).2 = some r ∧ r.skb.payload = skb.payload ∧
        ipv6HdrLen ≤ r.skb.data0.length

section Fixed

variable {skb : SkBuff} (hw : WellFormed skb)
include hw

lemma WellFormed.fixed_length : (skb.data0.take ipv6HdrLen).length = ipv6HdrLen := by
  rw [List.length_take, Nat.min_eq_left hw.inData0]

lemma WellFormed.fixed_nextHdr : ipv6NextHdr (skb.data0.take ipv6HdrLen) = ipv6NextHdr skb.data0 := by
  conv_rhs => rw [← List.take_append_drop ipv6HdrLen skb.data0]
  rw [ipv6NextHdr, ipv6NextHdr, getD_append_left (by rw [hw.fixed_length]; decide)]

end Fixed

def plainPacket : SkBuff :=
  { seq := 0, flag := {}, infos :=
    [{ headroom := 64, size := 1800, data := [0x60, 0, 0, 0, 5, 20, 17, 64] ++ List.replicate 16 1 ++
        List.replicate 16 2 ++ List.replicate 1300 3 }] }

end Netfast.Ip6
