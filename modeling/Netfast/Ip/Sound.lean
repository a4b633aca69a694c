import Mathlib.Algebra.Order.BigOperators.Group.List
import Netfast.Ip.RoundTrip
import Netfast.Lib.Run
import Netfast.Lib.Tiling

/-! Whatever fragments arrive, a packet that `ipv4_defrag` returns is put together from fragments that
tile it. -/

namespace Netfast.Ip

open Bytes Skbuff Ordered Tiling Run

def Frag.start (g : Frag) : ℕ := fragOffset g.skb * 8

def Frag.len (g : Frag) : ℕ := fragLen g.skb

variable {f : Fates} {g : Frag} {q : Ipq} {gs : List Frag} {st : Reasm} {b : SkBuff}

lemma fragLen_eq (h : WellFormed b) : fragLen b = (b.payload.drop (ipv4Hl b.data0)).length := by
  have hlt := h.length_lt
  have hlen := h.payload_length
  rw [fragLen, ipv4PayloadLen, h.totLen]
  omega

lemma fragBody_payload (h : WellFormed b) : (fragBody b).payload = b.payload.drop (ipv4Hl b.data0) := by
  have hc := (carries_of_le h.inData0).pulled.1
  rw [h.header_length] at hc
  exact hc

def Contiguous : ℕ → List Frag → Prop
  | _, [] => True
  | e, g :: gs => fragOffset g.skb = e ∧ Contiguous (e + g.len / 8) gs

lemma Contiguous.end_le {e : ℕ} (h : Contiguous e gs) {m : Frag} (hm : m ∈ gs) :
    m.start + m.len ≤ e * 8 + (gs.map Frag.len).sum := by
  induction gs generalizing e with
  | nil => cases hm
  | cons g gs ih =>
    rw [List.map_cons, List.sum_cons]
    rcases List.mem_cons.mp hm with rfl | hm
    · rw [Frag.start, h.1]
      omega
    · have := ih h.2 hm
      omega

lemma Contiguous.tiles {e : ℕ} (h : Contiguous e gs)
    (hs : Ascending (fun g : Frag => fragOffset g.skb) gs) {m : Frag} (hm : m ∈ gs)
    (hend : m.start + m.len = e * 8 + (gs.map Frag.len).sum) :
    Tiles (fun n => n) Frag.start Frag.len (e * 8) (gs.filter fun g => 0 < g.len) (e * 8 + (gs.map Frag.len).sum) := by
  induction gs generalizing e with
  | nil => cases hm
  | cons g gs ih =>
    obtain ⟨hg, hgs⟩ := h
    obtain ⟨hlt, hs'⟩ := List.pairwise_cons.mp hs
    rw [List.map_cons, List.sum_cons] at hend ⊢
    have hstart : g.start = e * 8 := by rw [Frag.start, hg]
    by_cases hmg : g.start + g.len = e * 8 + (g.len + (gs.map Frag.len).sum)
    · -- nothing behind it holds a byte
      have hz : (gs.map Frag.len).sum = 0 := by omega
      have hnone : gs.filter (fun g => 0 < g.len) = [] := by
        refine List.filter_eq_nil_iff.mpr fun c hc => ?_
        have hle : c.len ≤ (gs.map Frag.len).sum := List.le_sum_of_mem (List.mem_map_of_mem hc)
        simp only [decide_eq_true_eq]
        omega
      rw [hz, Nat.add_zero]
      by_cases hpos : 0 < g.len
      · rw [List.filter_cons_of_pos (by simpa using hpos), hnone]
        exact ⟨hstart, hpos, rfl⟩
      · rw [List.filter_cons_of_neg (by simpa using hpos), hnone]
        exact (show e * 8 = e * 8 + g.len by omega)
    · have hm' : m ∈ gs := by
        rcases List.mem_cons.mp hm with rfl | hm'
        · exact absurd hend hmg
        · exact hm'
      -- the end of `m` leaves no room for a remainder of `g`
      have hle := hgs.end_le hm'
      have h8 : g.len % 8 = 0 := by omega
      have hpos : 0 < g.len := by
        cases gs with
        | nil => cases hm'
        | cons c cs =>
          have hc : fragOffset g.skb < fragOffset c.skb := hlt c List.mem_cons_self
          have hce := hgs.1
          omega
      have hrest := ih hgs hs' hm' (by omega)
      rw [List.filter_cons_of_pos (by simpa using hpos)]
      refine ⟨hstart, hpos, ?_⟩
      have he : (e + g.len / 8) * 8 = e * 8 + g.len := by omega
      rw [he, Nat.add_assoc] at hrest
      exact hrest

def fragBytes (b : SkBuff) : List UInt8 := b.payload.drop (ipv4Hl b.data0)

lemma joinLoop_done {acc skb : SkBuff} {expect len n : ℕ}
    (h : joinLoop gs acc expect len f = .done skb n) (hok : ∀ g ∈ gs, WellFormed g.skb) (hacc : acc.infos ≠ [])
    (hexp : expect + (gs.map Frag.len).sum < 2 ^ 32) (hlen : len + (gs.map Frag.len).sum < 2 ^ 32) :
    Contiguous expect gs ∧ n = len + (gs.map Frag.len).sum ∧
      skb.payload = acc.payload ++ gs.flatMap (fun g => fragBytes g.skb) ∧ skb.data0 = acc.data0 ∧ skb.infos ≠ [] := by
  induction gs generalizing acc expect len f with
  | nil =>
    obtain ⟨rfl, rfl⟩ := Verdict.done.inj h
    exact ⟨trivial, rfl, (List.append_nil _).symm, rfl, hacc⟩
  | cons g gs ih =>
    rw [List.map_cons, List.sum_cons] at hexp hlen
    rw [joinLoop] at h
    split at h
    · cases h
    next hoff =>
    simp only at h
    split at h
    · cases h
    split at h
    · cases h
    split at h
    · cases h
    next hbody =>
    have hl : fragLen g.skb = g.len := rfl
    rw [hl, Nat.mod_eq_of_lt (by omega), Nat.mod_eq_of_lt (by omega)] at h
    obtain ⟨hc, hn, hpay, hd, hne⟩ := ih h (fun c hc => hok c (List.mem_cons_of_mem g hc)) (by simp [hacc])
      (by omega) (by omega)
    have hbytes : flatten (fragBody g.skb).infos = fragBytes g.skb := fragBody_payload (hok g List.mem_cons_self)
    refine ⟨⟨not_not.mp hoff, hc⟩, ?_, ?_, hd.trans (data0_append hacc _), hne⟩
    · rw [hn, List.map_cons, List.sum_cons, Nat.add_assoc]
    · rw [hpay, List.flatMap_cons, ← List.append_assoc, ← hbytes]
      simp [SkBuff.payload]

structure QueueOk (q : Ipq) : Prop where
  ascending : Ascending (fun g : Frag => fragOffset g.skb) q.frags
  wf : ∀ g ∈ q.frags, WellFormed g.skb
  received : q.receivedLen = (q.frags.map Frag.len).sum
  first : q.firstRecved = true → ∃ g ∈ q.frags, fragOffset g.skb = 0
  last : q.lastRecved = true → ∃ g ∈ q.frags, fragMore g.skb = false ∧ q.totalLen = g.start + g.len

lemma len_le (h : WellFormed g.skb) : g.len ≤ 65535 := by
  have hlt := h.length_lt
  have hlen := h.payload_length
  rw [Frag.len, fragLen_eq h]
  omega

lemma sum_len_lt (hs : Ascending (fun g : Frag => fragOffset g.skb) gs)
    (hw : ∀ g ∈ gs, WellFormed g.skb) : (gs.map Frag.len).sum ≤ 2 ^ 29 := by
  have hcount : gs.length ≤ 8192 := hs.length_le fun g _ => fragOff_lt _
  have hsum := List.sum_le_card_nsmul (gs.map Frag.len) 65535 (by
    intro n hn
    obtain ⟨g, hg, rfl⟩ := List.mem_map.mp hn
    exact len_le (hw g hg))
  rw [List.length_map, nsmul_eq_mul, Nat.cast_id] at hsum
  omega

lemma QueueOk.fresh (k : IpqKey) (now : ℕ) : QueueOk { key := k, lastUpdateTime := now } := by
  refine ⟨List.Pairwise.nil, ?_, rfl, ?_, ?_⟩ <;> simp

lemma QueueOk.add {q' : Ipq} (h : QueueOk q) (hg : WellFormed g.skb) (ha : q.add g = some q') : QueueOk q' := by
  have hins := add_frags ha
  have hperm := insertNew_perm hins
  have hs := insertNew_ascending hins h.ascending
  have hw : ∀ c ∈ q'.frags, WellFormed c.skb := by
    intro c hc
    rcases (insertNew_mem hins).mp hc with rfl | hc
    · exact hg
    · exact h.wf c hc
  have hsum : (q'.frags.map Frag.len).sum = g.len + (q.frags.map Frag.len).sum := (hperm.map Frag.len).sum_eq
  have hlt := sum_len_lt hs hw
  have hstart := fragOff_lt (ipv4FragField g.skb.data0)
  have hlen := len_le hg
  obtain ⟨frags, hf, rfl⟩ := Option.map_eq_some_iff.mp ha
  refine ⟨hs, hw, ?_, ?_, ?_⟩
  · change (q.receivedLen + g.len) % 2 ^ 32 = _
    rw [hsum, h.received, Nat.mod_eq_of_lt (by omega), Nat.add_comm]
  · intro hfirst
    rcases (Bool.or_eq_true _ _).mp hfirst with hq | hz
    · obtain ⟨c, hc, hc0⟩ := h.first hq
      exact ⟨c, (insertNew_mem hins).mpr (Or.inr hc), hc0⟩
    · exact ⟨g, (insertNew_mem hins).mpr (Or.inl rfl), by simpa using hz⟩
  · intro hlast
    dsimp only at hlast ⊢
    cases hm : fragMore g.skb with
    | true =>
      rw [hm, Bool.not_true, Bool.or_false] at hlast
      obtain ⟨c, hc, hcm, hct⟩ := h.last hlast
      exact ⟨c, (insertNew_mem hins).mpr (Or.inr hc), hcm, hct⟩
    | false =>
      refine ⟨g, (insertNew_mem hins).mpr (Or.inl rfl), hm, ?_⟩
      rw [if_neg (by simp), Frag.start, Frag.len, Nat.mod_eq_of_lt]
      rw [fragOffset]
      rw [Frag.len] at hlen
      omega

def StateOk (st : Reasm) : Prop := ∀ q ∈ st.queues, QueueOk q

variable {now : ℕ}

lemma StateOk.opened (h : StateOk st) {k : IpqKey} {f' : Fates}
    (ho : st.openIpq now k f = some (q, f')) : QueueOk q := by
  rcases openIpq_cases ho with hs | ⟨-, rfl⟩
  · exact h q (List.mem_of_find?_eq_some hs)
  · exact .fresh k _

lemma StateOk.filter (h : StateOk st) (keep : Ipq → Bool) : ∀ q ∈ st.queues.filter keep, QueueOk q :=
  fun q hq => h q (List.mem_of_mem_filter hq)

lemma StateOk.setQueue (h : StateOk st) (hq : QueueOk q) : StateOk (st.setQueue q) := by
  intro p hp
  rcases List.mem_cons.mp hp with rfl | hp
  · exact hq
  · exact h.filter _ p hp

def Event.wellFormed : Event → Prop
  | .arrive _ frag _ => WellFormed frag.skb
  | _ => True

lemma ipv4Defrag_ok (h : StateOk st) (now : ℕ) (hg : WellFormed g.skb) (f : Fates) :
    StateOk (ipv4Defrag now st g f).1 := by
  rw [ipv4Defrag]
  split
  · exact h
  split
  · exact h
  next q f₁ ho =>
  have hq := h.opened ho
  split
  · exact h.setQueue hq
  next q' ha =>
  simp only
  split
  · have h₁ : StateOk { st with refs := g.ref :: st.refs } := h
    exact h₁.setQueue (hq.add hg ha)
  · exact h.filter _
  · exact h
  · exact h.filter _

lemma step_ok (h : StateOk st) (e : Event) (he : e.wellFormed) : StateOk (step st e) := by
  cases e with
  | arrive now g f =>
    rw [step]
    split
    · exact h
    · exact ipv4Defrag_ok h now he f
  | timer now =>
    rw [step]
    split
    · exact h
    · exact h.filter _
  | release ref =>
    rw [step]
    split <;> exact h

def queuedWith (st : Reasm) (g : Frag) : List Frag :=
  match st.search (ipqKey g.skb.data0) with
  | none => [g]
  | some q => (insertNew (fun c : Frag => fragOffset c.skb) g q.frags).getD []

lemma queuedWith_eq {f' : Fates} {q' : Ipq}
    (ho : st.openIpq now (ipqKey g.skb.data0) f = some (q, f')) (ha : q.add g = some q') :
    queuedWith st g = q'.frags := by
  have hins := add_frags ha
  rw [queuedWith]
  rcases openIpq_cases ho with hs | ⟨hs, rfl⟩ <;> rw [hs]
  · simp only [hins, Option.getD_some]
  · exact Option.some.inj hins

/-- `r` is the concatenation of queued fragments that tile `[0, L)`, `L` is where a last fragment ends, the
whole fits an IPv4 packet, and its header says how long it is. -/
def Sound (queued : List Frag) (r : SkBuff) : Prop :=
  ∃ fs L, fs.Sublist queued ∧ Tiles (fun n => n) Frag.start Frag.len 0 fs L ∧
    fragBytes r = fs.flatMap (fun g => fragBytes g.skb) ∧ (∃ m ∈ queued, fragMore m.skb = false ∧ m.start + m.len = L) ∧
    ipv4Hl r.data0 + L ≤ 65535 ∧ ipv4TotLen r.data0 = skbDataLen r

/-- No datagram made of the queued fragments is longer than an IPv4 packet can be. -/
def Fits (queued : List Frag) : Prop :=
  ∀ a ∈ queued, ∀ b ∈ queued, fragOffset a.skb = 0 → fragMore b.skb = false →
    ipv4Hl a.skb.data0 + (b.start + b.len) ≤ 65535

structure Joined (queued : List Frag) (r : SkBuff) (first : Frag) : Prop where
  mem : first ∈ queued
  offset : fragOffset first.skb = 0
  contiguous : Contiguous 0 queued
  total : ∃ m ∈ queued, fragMore m.skb = false ∧ m.start + m.len = (queued.map Frag.len).sum
  hl : ipv4Hl r.data0 = ipv4Hl first.skb.data0
  bytes : fragBytes r = queued.flatMap (fun g => fragBytes g.skb)
  totLen : ipv4TotLen r.data0 = (ipv4Hl first.skb.data0 + (queued.map Frag.len).sum) % 65536
  len : skbDataLen r = ipv4Hl first.skb.data0 + (queued.map Frag.len).sum

lemma flatMap_fragBytes_length (h : ∀ g ∈ gs, WellFormed g.skb) :
    (gs.flatMap fun g => fragBytes g.skb).length = (gs.map Frag.len).sum := by
  rw [List.length_flatMap]
  congr 1
  exact List.map_congr_left fun g hg => (fragLen_eq (h g hg)).symm

lemma QueueOk.joined (h : QueueOk q) {skb : SkBuff} {n : ℕ} (hv : q.verdict f = .done skb n) :
    ∃ first, Joined q.frags (restoreHeader skb n) first := by
  rw [Ipq.verdict] at hv
  split at hv
  case isFalse => cases hv
  next hflags =>
  simp only [Bool.and_eq_true, decide_eq_true_eq] at hflags
  split at hv
  · cases hv
  next heq =>
  have hle := sum_len_lt h.ascending h.wf
  obtain ⟨m, hm, hmore, htotal⟩ := h.last hflags.1.2
  obtain ⟨z, hz, hz0⟩ := h.first hflags.1.1
  rw [Ipq.join] at hv
  cases hq : q.frags with
  | nil =>
    rw [hq] at hm
    cases hm
  | cons g gs =>
    have htot := h.received.symm.trans ((not_not.mp heq).trans htotal)
    rw [hq] at hv hle hm hz htot
    have hwf : ∀ c ∈ g :: gs, WellFormed c.skb := hq ▸ h.wf
    have hg := hwf g List.mem_cons_self
    have hasc : Ascending (fun c : Frag => fragOffset c.skb) (g :: gs) := hq ▸ h.ascending
    have hg0 : fragOffset g.skb = 0 := by
      rcases List.mem_cons.mp hz with rfl | hz
      · exact hz0
      · have hlt : fragOffset g.skb < fragOffset z.skb := (List.pairwise_cons.mp hasc).1 z hz
        omega
    have hdata := hg.payload_length
    have hlt := hg.length_lt
    have hlen : (gs.map Frag.len).sum ≤ 2 ^ 29 := by
      rw [List.map_cons, List.sum_cons] at hle
      omega
    have hglen : g.len = (fragBytes g.skb).length := fragLen_eq hg
    have hgne : g.skb.infos ≠ [] := by
      intro hnil
      have hz : g.skb.data0.length = 0 := by simp [SkBuff.data0, hnil]
      have h20 := hg.hdrLen
      have hin := hg.inData0
      omega
    obtain ⟨hcont, hn, hpay, hd, hne⟩ := joinLoop_done hv (fun c hc => hwf c (List.mem_cons_of_mem g hc)) hgne
      (by change g.len / 8 + _ < _; have := len_le hg; omega) (by omega)
    have hhl : ipv4Hl skb.data0 = ipv4Hl g.skb.data0 := by rw [hd]
    have hin : ipv4Hl skb.data0 ≤ skb.data0.length := by
      rw [hd]
      exact hg.inData0
    have hcar := restoreHeader_carries hin hne n
    rw [hhl, hd] at hcar
    obtain ⟨t, ht⟩ := hcar.data0
    have h20 : 20 ≤ (g.skb.data0.take (ipv4Hl g.skb.data0)).length := by
      rw [hg.header_length]
      exact hg.hdrLen
    have hrest : skb.payload.drop (ipv4Hl g.skb.data0) = (g :: gs).flatMap (fun c => fragBytes c.skb) := by
      have hle := (data0_isPrefix g.skb).length_le
      have hin := hg.inData0
      rw [hpay, List.drop_append_of_le_length (Nat.le_trans hin hle), List.flatMap_cons, fragBytes]
    have hrhl : ipv4Hl (restoreHeader skb n).data0 = ipv4Hl g.skb.data0 := by
      rw [ht, ipv4Hl_append (by rw [fragHeader_length]; omega), ipv4Hl, fragHeader_getD (by decide), ← ipv4Hl,
        hg.header_hl]
    have hnlen : n = ipv4Hl g.skb.data0 + ((g :: gs).map Frag.len).sum := by
      rw [hn, ← hdata, List.map_cons, List.sum_cons, hglen, fragBytes, Nat.add_assoc]
    refine ⟨g, List.mem_cons_self, hg0, ⟨hg0, ?_⟩, ⟨m, hm, hmore, htot.symm⟩, hrhl, ?_, ?_, ?_⟩
    · rw [Nat.zero_add]
      exact hcont
    · rw [fragBytes, hrhl, hcar.payload, ← hrest]
      have hl₂ : (fragHeader (g.skb.data0.take (ipv4Hl g.skb.data0)) 0 (n % 2 ^ 16)).length = ipv4Hl g.skb.data0 := by
        rw [fragHeader_length, hg.header_length]
      exact List.drop_left' hl₂
    · rw [ht, ipv4TotLen, be16_append_left (by rw [fragHeader_length]; omega), ← ipv4TotLen, fragHeader_totLen h20, hnlen]
      exact Nat.mod_mod _ _
    · rw [skbDataLen, hcar.payload, hrest, List.length_append, fragHeader_length, hg.header_length,
        flatMap_fragBytes_length hwf]

lemma ipv4Defrag_joined (h : StateOk st) {r : Frag} (hg : WellFormed g.skb) (hr : (ipv4Defrag now st g f).2 = some r) :
    ∃ first, Joined (queuedWith st g) r.skb first ∧ (∀ c ∈ queuedWith st g, WellFormed c.skb) ∧
      Ascending (fun c : Frag => fragOffset c.skb) (queuedWith st g) := by
  rw [ipv4Defrag] at hr
  split at hr
  · cases hr
  split at hr
  · cases hr
  next q f₁ ho =>
  have hq := h.opened ho
  split at hr
  · cases hr
  next q' ha =>
  have hq' := hq.add hg ha
  rw [queuedWith_eq ho ha]
  simp only at hr
  split at hr
  · cases hr
  · cases hr
  · cases hr
  · next skb n hv =>
    obtain rfl := Option.some.inj hr
    obtain ⟨first, hj⟩ := hq'.joined hv
    exact ⟨first, hj, hq'.wf, hq'.ascending⟩

lemma flatMap_filter_len (h : ∀ g ∈ gs, WellFormed g.skb) :
    (gs.filter fun g => 0 < g.len).flatMap (fun g => fragBytes g.skb) = gs.flatMap (fun g => fragBytes g.skb) := by
  induction gs with
  | nil => rfl
  | cons g gs ih =>
    have hrest := ih fun c hc => h c (List.mem_cons_of_mem g hc)
    by_cases hpos : 0 < g.len
    · rw [List.filter_cons_of_pos (by simpa using hpos), List.flatMap_cons, List.flatMap_cons, hrest]
    · have hlen : g.len = (fragBytes g.skb).length := fragLen_eq (h g List.mem_cons_self)
      have hnil : fragBytes g.skb = [] := List.length_eq_zero_iff.mp (by omega)
      rw [List.filter_cons_of_neg (by simpa using hpos), List.flatMap_cons, hnil, hrest, List.nil_append]

/-- Whatever well-formed fragments arrived before, and whatever allocations fail: a packet that is
returned is sound exactly if the fragments queued for it make no datagram that is too long. -/
theorem ipv4_reassembly_sound (es : List Event) (hes : ∀ e ∈ es, e.wellFormed) (now : ℕ) {g r : Frag} {f : Fates}
    (hg : WellFormed g.skb) (hr : (ipv4Defrag now (run step {} es) g f).2 = some r) :
    Sound (queuedWith (run step {} es) g) r.skb ↔ Fits (queuedWith (run step {} es) g) := by
  have hm : Meets step (fun _ e => e.wellFormed) {} es := .of_mem hes
  have hok : StateOk (run step {} es) := by
    refine run_invariant (I := StateOk) (fun s e hs he => step_ok hs e he) ?_ hm
    intro q hq
    cases hq
  obtain ⟨first, hj, hwf, hasc⟩ := ipv4Defrag_joined hok hg hr
  obtain ⟨m, hmem, hmore, hend⟩ := hj.total
  have hwhole := flatMap_fragBytes_length hwf
  constructor
  · rintro ⟨fs, L, hsub, htiles, hbytes, -, hfit, -⟩ a ha b hb ha0 -
    have hL : L = ((queuedWith (run step {} es) g).map Frag.len).sum := by
      have hlen := flatMap_fragBytes_length fun c hc => hwf c (hsub.mem hc)
      have hsum := htiles.sum
      rw [← hbytes, hj.bytes, hwhole] at hlen
      omega
    have hafirst : a = first := hasc.inj ha hj.mem (ha0.trans hj.offset.symm)
    have hle := hj.contiguous.end_le hb
    rw [hafirst, ← hj.hl]
    omega
  · intro hfit
    have hle := hfit first hj.mem m hmem hj.offset hmore
    have htiles := hj.contiguous.tiles hasc hmem (by omega)
    rw [Nat.zero_mul, Nat.zero_add] at htiles
    refine ⟨_, _, List.filter_sublist, htiles, ?_, ⟨m, hmem, hmore, hend⟩, ?_, ?_⟩
    · rw [hj.bytes, flatMap_filter_len hwf]
    · rw [hj.hl]
      omega
    · rw [hj.totLen, hj.len, Nat.mod_eq_of_lt (by omega)]

instance (queued : List Frag) : Decidable (Fits queued) :=
  inferInstanceAs (Decidable (∀ a ∈ queued, ∀ b ∈ queued, fragOffset a.skb = 0 → fragMore b.skb = false →
    ipv4Hl a.skb.data0 + (b.start + b.len) ≤ 65535))

def plainFrag (i : ℕ) : Frag := { ref := i, skb := (((ipv4Frag 44 plainPacket []).1.getD [])[i]?).getD plainPacket }

theorem ipv4_reassembly_sound_plain :
    ∃ r, (ipv4Defrag 1 (run step {} [.arrive 0 (plainFrag 1) []]) (plainFrag 0) []).2 = some r ∧
      Sound (queuedWith (run step {} [.arrive 0 (plainFrag 1) []]) (plainFrag 0)) r.skb := by
  have hr : ((ipv4Defrag 1 (run step {} [.arrive 0 (plainFrag 1) []]) (plainFrag 0) []).2).isSome := by decide
  obtain ⟨r, hr⟩ := Option.isSome_iff_exists.mp hr
  have hw₀ : WellFormed (plainFrag 0).skb := by decide
  have hw₁ : WellFormed (plainFrag 1).skb := by decide
  refine ⟨r, hr, (ipv4_reassembly_sound _ ?_ 1 hw₀ hr).mpr (by decide)⟩
  intro e he
  rw [List.mem_singleton.mp he]
  exact hw₁

/-! Fragments of one frame each, of `n` bytes and a last one of `m`. -/

def bulkHeader : List UInt8 := [0x45, 0, 0, 0, 0, 9, 0, 0, 64, 17, 0, 0, 10, 0, 0, 1, 10, 0, 0, 2]

def bulkFrag (off : ℕ) (more : Bool) (n : ℕ) : SkBuff :=
  { seq := 0, flag := {}, infos :=
    [{ headroom := 14, size := 4016, data := ipv4Headers bulkHeader off more n ++ List.replicate n 7 }] }

def bulkInit (n : ℕ) : ℕ → ℕ → List SkBuff
  | 0, _ => []
  | j + 1, off => bulkFrag off true n :: bulkInit n j (off + n)

def bulkFrags (n m j : ℕ) : List SkBuff := bulkInit n j 0 ++ [bulkFrag (n * j) false m]

lemma bulkFrag_carries (off : ℕ) (more : Bool) (n : ℕ) :
    Carries (bulkFrag off more n) (ipv4Headers bulkHeader off more n) (List.replicate n 7) := by
  constructor <;> simp [bulkFrag, SkBuff.data0, SkBuff.payload]

lemma bulkFrag_piece (off : ℕ) (more : Bool) {n : ℕ} (hn : 0 < n) (hle : n ≤ 4000) (hoff : off % 8 = 0)
    (hlt : off < 65536) (h8 : more = true → n % 8 = 0) :
    Piece 20 (ipqKey bulkHeader) off more (List.replicate n 7) (bulkFrag off more n) := by
  have hlen : (List.replicate n (7 : UInt8)).length = n := List.length_replicate
  have hhdr : bulkHeader.length = 20 := rfl
  have hc : Carries (bulkFrag off more n) (ipv4Headers bulkHeader off more (List.replicate n (7 : UInt8)).length)
      (List.replicate n 7) := by
    rw [hlen]
    exact bulkFrag_carries off more n
  refine piece_of_carries hc (by decide) (by decide) hoff ?_ (by rwa [hlen]) hlt (by omega)
  exact List.length_pos_iff.mp (by omega)

variable {n m : ℕ}

lemma bulkInit_pieces (hn : 0 < n) (hm : 0 < m) (hn4 : n ≤ 4000) (hm4 : m ≤ 4000) (h8 : n % 8 = 0) (j off : ℕ)
    (hoff : off % 8 = 0) (hlt : off + n * j < 65536) :
    Pieces 20 (ipqKey bulkHeader) off (List.replicate (n * j + m) 7)
      (bulkInit n j off ++ [bulkFrag (off + n * j) false m]) := by
  induction j generalizing off with
  | zero =>
    rw [Nat.mul_zero, Nat.zero_add, Nat.add_zero]
    exact .last (bulkFrag_piece _ _ hm hm4 hoff (by omega) (by simp))
  | succ j ih =>
    rw [Nat.mul_succ] at hlt
    have hrep : List.replicate (n * (j + 1) + m) (7 : UInt8) =
        List.replicate n 7 ++ List.replicate (n * j + m) 7 := by
      rw [List.replicate_append_replicate, Nat.mul_succ, ← Nat.add_assoc, Nat.add_comm n]
    have hrest := ih (off + n) (by omega) (by omega)
    rw [hrep, Nat.mul_succ, ← Nat.add_assoc, Nat.add_right_comm]
    refine .more (bulkFrag_piece _ _ hn hn4 hoff (by omega) fun _ => h8) ?_
    rw [List.length_replicate]
    exact hrest

lemma bulkFrags_pieces (hn : 0 < n) (hm : 0 < m) (hn4 : n ≤ 4000) (hm4 : m ≤ 4000) (h8 : n % 8 = 0) (j : ℕ)
    (hlt : n * j < 65536) :
    Pieces 20 (ipqKey bulkHeader) 0 (List.replicate (n * j + m) 7) (bulkFrags n m j) := by
  have h := bulkInit_pieces hn hm hn4 hm4 h8 j 0 rfl (by omega)
  rw [Nat.zero_add] at h
  exact h

lemma bulkFrag_wellFormed (off : ℕ) (more : Bool) (hn4 : n ≤ 4000) : WellFormed (bulkFrag off more n) := by
  have hhdr : bulkHeader.length = 20 := rfl
  have hc := bulkFrag_carries off more n
  obtain ⟨t, ht⟩ := hc.data0
  have hhlen : (ipv4Headers bulkHeader off more n).length = 20 := by rw [ipv4Headers, fragHeader_length, hhdr]
  have hhl : ipv4Hl (bulkFrag off more n).data0 = 20 := by
    rw [ht, ipv4Hl_append (by omega), ipv4Headers, ipv4Hl, fragHeader_getD (by decide)]
    rfl
  refine ⟨by omega, ?_, ?_⟩
  · rw [hhl, ht, List.length_append]
    omega
  · rw [ht, ipv4TotLen, be16_append_left (by omega), ← ipv4TotLen, ipv4Headers, fragHeader_totLen (by decide), hhdr,
      skbDataLen, hc.payload, List.length_append, hhlen, List.length_replicate, Nat.mod_eq_of_lt (by omega)]

lemma bulkInit_mem {j off : ℕ} (h8 : n % 8 = 0) (hoff : off % 8 = 0) (hn : 0 < n)
    (hb : b ∈ bulkInit n j off) : ∃ o, b = bulkFrag o true n ∧ o % 8 = 0 ∧ o < off + n * j := by
  induction j generalizing off with
  | zero => cases hb
  | succ j ih =>
    rw [Nat.mul_succ]
    rcases List.mem_cons.mp hb with rfl | hb
    · exact ⟨off, rfl, hoff, by omega⟩
    · obtain ⟨o, ho, ho8, hlt⟩ := ih (by omega) hb
      exact ⟨o, ho, ho8, by omega⟩

@[simp] lemma bulkInit_length (j off : ℕ) : (bulkInit n j off).length = j := by
  induction j generalizing off with
  | zero => rfl
  | succ j ih => rw [bulkInit, List.length_cons, ih]

lemma chainInfos_le (bs : List SkBuff) (h : ∀ b ∈ bs, b.infos.length = 1) : chainInfos bs ≤ bs.length := by
  cases bs with
  | nil => exact Nat.le_refl _
  | cons b bs =>
    have hsum := List.sum_le_card_nsmul (bs.map fun c => (fragBody c).infos.length) 1 (by
      intro x hx
      obtain ⟨c, hc, rfl⟩ := List.mem_map.mp hx
      exact (pullInfos_length c.infos _).trans (Nat.le_of_eq (h c (List.mem_cons_of_mem b hc))))
    rw [List.length_map, nsmul_eq_mul, Nat.cast_id, Nat.mul_one] at hsum
    rw [chainInfos, h b List.mem_cons_self, List.length_cons]
    omega

def arrival (b : SkBuff) : Arrival := { now := 0, frag := { ref := 0, skb := b } }

lemma bulk_returned (hn : 0 < n) (hm : 0 < m) (hn4 : n ≤ 4000) (hm4 : m ≤ 4000) (h8 : n % 8 = 0) {j : ℕ}
    (hlt : n * j < 65536) (hj : j < 32) : ∃ r,
      (ipv4Defrag 0 (feed {} ((bulkInit n j 0).map arrival)).1 { ref := 0, skb := bulkFrag (n * j) false m } []).2 =
        some r ∧ skbDataLen r.skb = 20 + (n * j + m) ∧ ipv4TotLen r.skb.data0 = (20 + (n * j + m)) % 65536 := by
  have hs := bulkFrags_pieces hn hm hn4 hm4 h8 j hlt
  have hlast : bulkFrag (n * j) false m ∈ bulkFrags n m j := List.mem_append_right _ List.mem_cons_self
  have hinit : ∀ a ∈ (bulkInit n j 0).map arrival, a.frag.skb ∈ bulkInit n j 0 := by
    intro a ha
    obtain ⟨b, hb, rfl⟩ := List.mem_map.mp ha
    exact hb
  have hne : ∀ b ∈ bulkInit n j 0, b ≠ bulkFrag (n * j) false m := by
    rintro b hb rfl
    exact Nat.lt_irrefl _ ((List.pairwise_append.mp hs.ascending).2.2 _ hb _ List.mem_cons_self)
  have hlen : (List.replicate (n * j + m) (7 : UInt8)).length = n * j + m := List.length_replicate
  have hstart : Collecting (ipqKey bulkHeader) (bulkFrags n m j) (List.replicate (n * j + m) (7 : UInt8)).length
      (fun _ => false) {} := Or.inl ⟨rfl, List.filter_false _⟩
  obtain ⟨-, hend⟩ := feed_waits hs (by omega) hlast _ hstart
    (fun a ha => List.mem_append_left _ (hinit a ha)) rfl fun a ha => hne _ (hinit a ha)
  have hmap : ((bulkInit n j 0).map arrival).map (fun a => a.frag.skb) = bulkInit n j 0 := by
    rw [List.map_map]
    exact List.map_id _
  rw [hmap] at hend
  have hseen : ∀ b ∈ bulkFrags n m j, ((false || decide (b ∈ bulkInit n j 0)) || b = bulkFrag (n * j) false m) = true := by
    intro b hb
    rcases List.mem_append.mp hb with hb | hb
    · simp [hb]
    · simp [List.mem_singleton.mp hb]
  have hinfos : ∀ b ∈ bulkFrags n m j, b.infos.length = 1 := by
    intro b hb
    rcases List.mem_append.mp hb with hb | hb
    · obtain ⟨o, rfl, -, -⟩ := bulkInit_mem h8 rfl hn hb
      rfl
    · rw [List.mem_singleton.mp hb]
      rfl
  have hfit : chainInfos (bulkFrags n m j) ≤ skbDataMaxNum := by
    refine (chainInfos_le _ hinfos).trans ?_
    rw [bulkFrags, List.length_append, bulkInit_length, List.length_singleton, skbDataMaxNum]
    omega
  obtain ⟨b, skb, r, hhead, hr, hskb, hd, hpay, hnil⟩ := ipv4Defrag_completes
    (g := { ref := 0, skb := bulkFrag (n * j) false m }) hs hend (by omega) 0 hlast
    (by simpa using fun hb => hne _ hb rfl) hseen hfit
  obtain ⟨o, more, chunk, hp⟩ := hs.mem (List.mem_of_mem_head? hhead)
  have hhl : ipv4Hl skb.data0 = 20 := by rw [hd, hp.hdrLen]
  have hin : ipv4Hl skb.data0 ≤ skb.data0.length := by
    obtain ⟨h, hlen, hc⟩ := hp.carries
    rw [hhl, hd, ← hlen]
    exact hc.head.length_le
  have hcar := restoreHeader_carries hin hnil (20 + (n * j + m))
  have hl : (skb.data0.take (ipv4Hl skb.data0)).length = 20 := by rw [List.length_take, Nat.min_eq_left hin, hhl]
  refine ⟨r, hr, ?_, ?_⟩
  · rw [hskb, hlen, skbDataLen, hcar.payload, List.length_append, fragHeader_length, hl, hhl, hpay, hlen]
  · obtain ⟨t, ht⟩ := hcar.data0
    rw [hskb, hlen, ht, ipv4TotLen, be16_append_left (by rw [fragHeader_length, hl]; decide), ← ipv4TotLen,
      fragHeader_totLen (by rw [hl])]
    exact Nat.mod_mod _ _

/-- Seventeen frames, the last of which ends 96 bytes behind the longest IPv4 packet: the packet is
returned with a total length of 96. -/
theorem oversized_datagram_returned :
    (∀ b ∈ bulkFrags 3976 1996 16, WellFormed b ∧ ipv4IsFrag b.data0 = true) ∧
    ∃ r, (ipv4Defrag 0 (feed {} ((bulkInit 3976 16 0).map arrival)).1
        { ref := 0, skb := bulkFrag (3976 * 16) false 1996 } []).2 = some r ∧
      skbDataLen r.skb = 65632 ∧ ipv4TotLen r.skb.data0 = 96 ∧ ∀ queued, ¬Sound queued r.skb := by
  constructor
  · intro b hb
    rcases List.mem_append.mp hb with hb | hb
    · obtain ⟨o, rfl, ho8, hlt⟩ := bulkInit_mem (by decide) rfl (by decide) hb
      have hp := bulkFrag_piece o true (n := 3976) (by decide) (by decide) ho8 (by omega) fun _ => rfl
      have hmore := hp.more
      rw [fragMore] at hmore
      exact ⟨bulkFrag_wellFormed o true (by decide), by rw [ipv4IsFrag, hmore, Bool.or_true]⟩
    · rw [List.mem_singleton.mp hb]
      have hp := bulkFrag_piece (3976 * 16) false (n := 1996) (by decide) (by decide) (by decide)
        (by decide) (by simp)
      have hoff := hp.start
      rw [fragStart, fragOffset] at hoff
      refine ⟨bulkFrag_wellFormed _ false (by decide), ?_⟩
      rw [ipv4IsFrag, decide_eq_true (by omega), Bool.true_or]
  · obtain ⟨r, hr, hlen, htot⟩ := bulk_returned (n := 3976) (m := 1996) (j := 16) (by decide) (by decide) (by decide)
      (by decide) (by decide) (by decide) (by decide)
    refine ⟨r, hr, hlen, htot, ?_⟩
    rintro queued ⟨fs, L, -, -, -, -, -, he⟩
    rw [hlen, htot] at he
    omega

end Netfast.Ip
