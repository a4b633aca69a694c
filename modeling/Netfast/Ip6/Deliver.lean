import Netfast.Ip6.Defrag
import Netfast.Lib.Run

/-! `ipv6_recv` of `main/ipv6.c`: from the packet received to the payload the transport layer is handed, and the
Fragment headers on the way. -/

namespace Netfast.Ip6

open Bytes Skbuff Ordered Run
open Ip (Frag)

def checkIpv6Hdr (b : SkBuff) : Option SkBuff :=
  let total := ipv6HdrLen + ipv6PayloadLen b.data0
  if (b.data0.getD 0 0).toNat / 16 ≠ 6 then none
  else if b.data0.getD 7 0 = 0 then none
  else if skbDataLen b < total then none
  else some (skbTruncate b total)

inductive Route
  | unreachable
  | forward
  | localHost
deriving DecidableEq

inductive Event
  | receive (now : ℕ) (g : Frag) (mine : Bool) (route : Route) (f : Fates)
  | timer (now : ℕ)
  | release (ref : ℕ)

def ipv6Accept (now : ℕ) (st : Reasm) (g : Frag) (mine : Bool) (route : Route) (f : Fates) : Reasm × Option Frag :=
  if g.skb.data0.length < ipv6HdrLen then (st, none)
  else
    match checkIpv6Hdr g.skb with
    | none => (st, none)
    | some skb =>
      if ipv6HasFrag skb && !mine then (st, none)
      else if route ≠ .localHost then (st, none)
      else if ipv6HasFrag skb then ipv6Defrag now st { g with skb } f
      else (st, some { g with skb })

def skipLoop (b : SkBuff) : ℕ → UInt8 → ℕ → Option (UInt8 × ℕ)
  | 0, nh, offset => some (nh, offset)
  | k + 1, nh, offset =>
    if isVariableExtHeader nh then
      match copyBits b offset 2 with
      | none => none
      | some ext =>
        if skbDataLen b - offset < extHdrLen ext then none
        else skipLoop b k (ext.getD 0 0) (offset + extHdrLen ext)
    else if nh = nexthdrFrag then
      match copyBits b offset fragHdrLen with
      | none => none
      | some bs => skipLoop b k (readFragHdr bs).nextHdr (offset + fragHdrLen)
    else if nh = nexthdrNonext then none
    else some (nh, offset)

def ipv6SkipExthdrs (b : SkBuff) (nh : UInt8) : Option (UInt8 × SkBuff) :=
  (skipLoop b extHdrMax nh 0).map fun r => (r.1, skbConsume b r.2)

def upperProtocols : List UInt8 := [6, 17, 58]

def ipv6Deliver (b : SkBuff) : Option (UInt8 × SkBuff) :=
  if skbDataLen b < ipv6HdrLen then none
  else
    (ipv6SkipExthdrs (skbConsume b ipv6HdrLen) (ipv6NextHdr b.data0)).filter fun r => decide (r.1 ∈ upperProtocols)

def ipv6Recv (now : ℕ) (st : Reasm) (g : Frag) (mine : Bool) (route : Route) (f : Fates) :
    Reasm × Option (UInt8 × SkBuff) :=
  let r := ipv6Accept now st g mine route f
  (r.1, r.2.bind fun d => ipv6Deliver d.skb)

def step (st : Reasm) : Event → Reasm
  | .receive now g mine route f => (ipv6Recv now st g mine route f).1
  | .timer now => ipqTimer now st
  | .release ref => { st with refs := st.refs.erase ref }

def chainLoop : ℕ → UInt8 → List UInt8 → List FragHdr
  | 0, _, _ => []
  | k + 1, nh, bs =>
    if nh = nexthdrFrag then
      if bs.length < fragHdrLen then []
      else readFragHdr bs :: chainLoop k (bs.getD 0 0) (bs.drop fragHdrLen)
    else if isVariableExtHeader nh then
      if bs.length < extHdrLen bs then [] else chainLoop k (bs.getD 0 0) (bs.drop (extHdrLen bs))
    else []

def chain (nh : UInt8) (bs : List UInt8) : List FragHdr := chainLoop (bs.length + 1) nh bs

/-- No Fragment header of the packet marks an incomplete fragment. -/
def Intact (b : SkBuff) : Prop :=
  ∀ h ∈ chain (ipv6NextHdr b.data0) (b.payload.drop ipv6HdrLen), h.atomic = true

variable {b : SkBuff} {nh : UInt8} {bs : List UInt8} {k off : ℕ}

lemma extHdrLen_pos (ext : List UInt8) : 8 ≤ extHdrLen ext := by
  rw [extHdrLen]
  omega

lemma chainLoop_fuel (h : bs.length < k) : chainLoop (k + 1) nh bs = chainLoop k nh bs := by
  induction k generalizing nh bs with
  | zero => omega
  | succ k ih =>
    have hext := extHdrLen_pos bs
    rw [chainLoop.eq_def (k + 1 + 1), chainLoop.eq_def (k + 1)]
    simp only
    split
    · split
      · rfl
      · next hlen =>
        rw [ih (by rw [List.length_drop, fragHdrLen]; rw [fragHdrLen] at hlen; omega)]
    split
    · split
      · rfl
      · next hlen => rw [ih (by rw [List.length_drop]; omega)]
    · rfl

lemma chainLoop_eq (h : bs.length < k) : chainLoop k nh bs = chain nh bs := by
  obtain ⟨m, rfl⟩ := Nat.exists_eq_add_of_lt h
  induction m with
  | zero => rfl
  | succ m ih =>
    rw [← ih (by omega)]
    exact chainLoop_fuel (by omega)

lemma chain_frag (h : fragHdrLen ≤ bs.length) :
    chain nexthdrFrag bs = readFragHdr bs :: chain (bs.getD 0 0) (bs.drop fragHdrLen) := by
  rw [chain, chainLoop, if_pos rfl, if_neg (Nat.not_lt.mpr h), chainLoop_eq]
  rw [List.length_drop, fragHdrLen]
  rw [fragHdrLen] at h
  omega

lemma isVariable_ne_frag (h : isVariableExtHeader nh = true) : nh ≠ nexthdrFrag := by
  rintro rfl
  exact absurd h (by decide)

lemma chain_variable (hv : isVariableExtHeader nh = true) (h : extHdrLen bs ≤ bs.length) :
    chain nh bs = chain (bs.getD 0 0) (bs.drop (extHdrLen bs)) := by
  have hext := extHdrLen_pos bs
  rw [chain, chainLoop, if_neg (isVariable_ne_frag hv), if_pos hv, if_neg (Nat.not_lt.mpr h), chainLoop_eq]
  rw [List.length_drop]
  omega

lemma chain_other (hf : nh ≠ nexthdrFrag) (hv : isVariableExtHeader nh = false) : chain nh bs = [] := by
  rw [chain, chainLoop, if_neg hf, if_neg (by simp [hv])]

/-! The walk of `find_frag_header`. -/

lemma copyBits_some {n : ℕ} (h : copyBits b off n = some bs) :
    off + n ≤ skbDataLen b ∧ bs = (b.payload.drop off).take n := by
  rw [copyBits] at h
  split at h
  · cases h
  next hle =>
  refine ⟨Nat.le_of_not_lt hle, ?_⟩
  rw [← Option.some.inj h, skbCopyBits_eq]

lemma extHdrLen_take : extHdrLen (bs.take 2) = extHdrLen bs := by
  rw [extHdrLen, getD_take (by decide), extHdrLen]

lemma readFragHdr_take : readFragHdr (bs.take fragHdrLen) = readFragHdr bs := by
  simp only [readFragHdr, be32, be16, fragHdrLen]
  rw [getD_take (by decide), getD_take (by decide), getD_take (by decide), getD_take (by decide),
    getD_take (by decide), getD_take (by decide), getD_take (by decide), getD_take (by decide)]

inductive Found (b : SkBuff) (info : FragInfo) : UInt8 → ℕ → ℕ → Prop
  | here (hle : info.offset + fragHdrLen ≤ skbDataLen b) (hh : info.header = readFragHdr (b.payload.drop info.offset)) :
      Found b info nexthdrFrag info.offset info.previousNhOffset
  | next {nh : UInt8} {off previous : ℕ} (hv : isVariableExtHeader nh = true)
      (hle : off + extHdrLen (b.payload.drop off) ≤ skbDataLen b)
      (hrest : Found b info ((b.payload.drop off).getD 0 0) (off + extHdrLen (b.payload.drop off)) off) :
      Found b info nh off previous

variable {info : FragInfo} {previous : ℕ}

lemma findLoop_found (h : findLoop b k nh off previous = some info) :
    Found b info nh off previous ∧ info.offset ≤ off + k * 2048 := by
  induction k generalizing nh off previous with
  | zero => cases h
  | succ k ih =>
    rw [findLoop] at h
    split at h
    · next hf =>
      obtain ⟨bs, hbs, rfl⟩ := Option.map_eq_some_iff.mp h
      obtain ⟨hle, rfl⟩ := copyBits_some hbs
      subst hf
      exact ⟨.here hle readFragHdr_take, Nat.le_add_right _ _⟩
    split at h
    · next hv =>
      split at h
      · cases h
      next ext hext =>
      obtain ⟨hle, rfl⟩ := copyBits_some hext
      rw [extHdrLen_take, getD_take (by decide)] at h
      split at h
      · cases h
      next hlen =>
      obtain ⟨hfound, hoff⟩ := ih h
      have hmax : extHdrLen (b.payload.drop off) ≤ 2048 := by
        have hlt := ((b.payload.drop off).getD 1 0).toNat_lt
        rw [extHdrLen]
        omega
      exact ⟨.next hv (by omega) hfound, by omega⟩
    · cases h

lemma findFragHeader_found (h : findFragHeader b = some info) :
    Found b info (ipv6NextHdr b.data0) ipv6HdrLen 6 ∧ info.offset < 2 ^ 16 := by
  rw [findFragHeader] at h
  split at h
  · cases h
  obtain ⟨hfound, hoff⟩ := findLoop_found h
  rw [ipv6HdrLen, extHdrMax] at hoff
  exact ⟨hfound, by omega⟩

lemma Found.le (h : Found b info nh off previous) :
    info.offset + fragHdrLen ≤ skbDataLen b ∧
      (info.offset = off ∧ info.previousNhOffset = previous ∨
        off ≤ info.previousNhOffset ∧ info.previousNhOffset + 8 ≤ info.offset) := by
  induction h with
  | here hle _ => exact ⟨hle, Or.inl ⟨rfl, rfl⟩⟩
  | @next nh off previous hv hle hrest ih =>
    have hext := extHdrLen_pos (b.payload.drop off)
    exact ⟨ih.1, Or.inr (by omega)⟩

lemma Found.chain (h : Found b info nh off previous) :
    chain nh (b.payload.drop off) =
      info.header :: chain info.header.nextHdr (b.payload.drop (info.offset + fragHdrLen)) := by
  induction h with
  | here hle hh =>
    have hlen : fragHdrLen ≤ (b.payload.drop info.offset).length := by
      rw [skbDataLen] at hle
      rw [List.length_drop]
      omega
    rw [chain_frag hlen, List.drop_drop, ← hh]
    rw [hh, readFragHdr]
  | @next nh off previous hv hle hrest ih =>
    have hlen : extHdrLen (b.payload.drop off) ≤ (b.payload.drop off).length := by
      rw [skbDataLen] at hle
      rw [List.length_drop]
      omega
    rw [chain_variable hv hlen, List.drop_drop, ih]

lemma Found.replaced (h : Found b info nh off previous) (bytes : List UInt8) (x : UInt8)
    (hlen : info.offset ≤ bytes.length)
    (hsame : ∀ j, off ≤ j → j < info.offset → j ≠ info.previousNhOffset → bytes.getD j 0 = b.payload.getD j 0)
    (hx : off ≤ info.previousNhOffset → bytes.getD info.previousNhOffset 0 = x) :
    Netfast.Ip6.chain (if info.offset = off then x else nh) (bytes.drop off) =
      Netfast.Ip6.chain x (bytes.drop info.offset) := by
  induction h with
  | here _ _ => rw [if_pos rfl]
  | @next nh off previous hv hle hrest ih =>
    have hext := extHdrLen_pos (b.payload.drop off)
    obtain ⟨-, hprev⟩ := hrest.le
    have hlater : off + extHdrLen (b.payload.drop off) ≤ info.offset := by omega
    -- the length is read one byte behind a next header field, so it is the same
    have hlen1 : extHdrLen (bytes.drop off) = extHdrLen (b.payload.drop off) := by
      rw [extHdrLen, extHdrLen, getD_drop, getD_drop, hsame (off + 1) (by omega) (by omega) (by omega)]
    have hnext : (bytes.drop off).getD 0 0 =
        if info.offset = off + extHdrLen (b.payload.drop off) then x else (b.payload.drop off).getD 0 0 := by
      rw [getD_drop, getD_drop, Nat.add_zero]
      split
      · next he =>
        have hp : info.previousNhOffset = off := by omega
        rw [← hp, hx (by omega)]
      · next he => exact hsame off (Nat.le_refl _) (by omega) (by omega)
    rw [if_neg (by omega), chain_variable hv (by rw [hlen1, List.length_drop]; omega), hlen1, hnext, List.drop_drop]
    exact ih (fun j hj => hsame j (by omega)) (fun hj => hx (by omega))

/-! A packet without a Fragment header that is delivered: `ipv6_skip_exthdrs` walks as far as `find_frag_header`. -/

lemma copyBits_consume (h : ipv6HdrLen ≤ skbDataLen b) (off n : ℕ) :
    copyBits (skbConsume b ipv6HdrLen) off n = copyBits b (ipv6HdrLen + off) n := by
  have hiff : skbDataLen b - ipv6HdrLen < off + n ↔ skbDataLen b < ipv6HdrLen + off + n := by omega
  rw [copyBits, copyBits, skbCopyBits_eq, skbCopyBits_eq, skbConsume_payload, skbConsume_len, List.drop_drop]
  simp only [hiff]

lemma chain_nil_of_skip {proto : UInt8} {o : ℕ} (hlen : ipv6HdrLen ≤ skbDataLen b)
    (hfind : findLoop b k nh (ipv6HdrLen + off) previous = none)
    (hskip : skipLoop (skbConsume b ipv6HdrLen) k nh off = some (proto, o)) (hproto : proto ∈ upperProtocols) :
    chain nh (b.payload.drop (ipv6HdrLen + off)) = [] := by
  induction k generalizing nh off previous with
  | zero =>
    obtain ⟨rfl, -⟩ := Prod.mk.inj (Option.some.inj hskip)
    have hother : ∀ p ∈ upperProtocols, p ≠ nexthdrFrag ∧ isVariableExtHeader p = false :=
      List.forall_mem_cons.mpr ⟨by decide, List.forall_mem_cons.mpr ⟨by decide, List.forall_mem_singleton.mpr (by decide)⟩⟩
    exact chain_other (hother _ hproto).1 (hother _ hproto).2
  | succ k ih =>
    rw [skipLoop, copyBits_consume hlen, copyBits_consume hlen] at hskip
    rw [findLoop] at hfind
    by_cases hf : nh = nexthdrFrag
    · rw [if_pos hf, Option.map_eq_none_iff] at hfind
      rw [if_neg (by rw [hf]; decide), if_pos hf, hfind] at hskip
      cases hskip
    rw [if_neg hf] at hfind
    by_cases hv : isVariableExtHeader nh = true
    · rw [if_pos hv] at hfind hskip
      cases hc : copyBits b (ipv6HdrLen + off) 2 with
      | none =>
        rw [hc] at hskip
        cases hskip
      | some ext =>
        obtain ⟨hle, rfl⟩ := copyBits_some hc
        rw [hc] at hskip hfind
        simp only [extHdrLen_take, getD_take (show 0 < 2 by decide), skbConsume_len] at hskip hfind
        split at hskip
        · cases hskip
        next hext =>
        rw [if_neg (by omega)] at hfind
        have hlen' : extHdrLen (b.payload.drop (ipv6HdrLen + off)) ≤ (b.payload.drop (ipv6HdrLen + off)).length := by
          rw [skbDataLen] at hext hle
          rw [List.length_drop]
          omega
        rw [Nat.add_assoc] at hfind
        rw [chain_variable hv hlen', List.drop_drop, Nat.add_assoc]
        exact ih hfind hskip
    · exact chain_other hf (by simpa using hv)

lemma intact_of_no_frag {r : UInt8 × SkBuff} (hfind : findFragHeader b = none) (hr : ipv6Deliver b = some r) :
    Intact b := by
  rw [ipv6Deliver] at hr
  split at hr
  · cases hr
  next hlen =>
  obtain ⟨hskip, hproto⟩ := Option.filter_eq_some_iff.mp hr
  obtain ⟨⟨proto, o⟩, hloop, rfl⟩ := Option.map_eq_some_iff.mp hskip
  rw [findFragHeader, if_neg hlen, ← Nat.add_zero ipv6HdrLen] at hfind
  have hnil := chain_nil_of_skip (Nat.le_of_not_lt hlen) hfind hloop (by simpa using hproto)
  intro h hh
  rw [Nat.add_zero] at hnil
  rw [hnil] at hh
  cases hh

/-! The queues: every fragment on one has the headers the queue says, the fixed one in `data0`. -/

def QueueOk (q : Ipq) : Prop :=
  ∀ e ∈ q.frags, ipv6HdrLen ≤ e.buf.skb.data0.length ∧
    ∃ info, findFragHeader e.buf.skb = some info ∧ q.matches info = true

def StateOk (st : Reasm) : Prop := ∀ q ∈ st.queues, QueueOk q

variable {st : Reasm} {q q' : Ipq} {key : IpqKey} {g : Frag} {f f' : Fates} {now : ℕ}

lemma StateOk.filter (h : StateOk st) (keep : Ipq → Bool) : ∀ q ∈ st.queues.filter keep, QueueOk q :=
  fun q hq => h q (List.mem_of_mem_filter hq)

lemma StateOk.setQueue (h : StateOk st) (hq : QueueOk q) : StateOk (st.setQueue q) := by
  intro p hp
  rcases List.mem_cons.mp hp with rfl | hp
  · exact hq
  · exact h.filter _ p hp

lemma Found.previous_lt (h : Found b info nh ipv6HdrLen 6) : info.previousNhOffset < info.offset := by
  obtain ⟨-, ⟨ho, hp⟩ | ⟨-, hp⟩⟩ := h.le
  · rw [ho, hp]
    decide
  · omega

lemma StateOk.opened (h : StateOk st) (hinfo : findFragHeader b = some info)
    (ho : st.openIpq key info f = .found q f') : QueueOk q ∧ q.matches info = true := by
  obtain ⟨hfound, hlt⟩ := findFragHeader_found hinfo
  have hprev := hfound.previous_lt
  rw [Reasm.openIpq] at ho
  split at ho
  · next p hs =>
    split at ho
    · next hm =>
      obtain ⟨rfl, -⟩ := Opened.found.inj ho
      exact ⟨h p (List.mem_of_find?_eq_some hs), hm⟩
    · cases ho
  split at ho
  · cases ho
  · obtain ⟨rfl, -⟩ := Opened.found.inj ho
    refine ⟨fun e he => absurd he List.not_mem_nil, ?_⟩
    rw [Ipq.matches, decide_eq_true_iff]
    exact ⟨Nat.mod_eq_of_lt hlt, Nat.mod_eq_of_lt (by omega), rfl⟩

lemma QueueOk.add {more : Bool} (h : QueueOk q) (hg : ipv6HdrLen ≤ g.skb.data0.length) (hinfo : findFragHeader g.skb = some info)
    (hm : q.matches info = true) (ha : q.add (info.entry g) more = .taken q') : QueueOk q' ∧ q'.matches info = true := by
  obtain ⟨-, -, frags, hins, rfl⟩ := add_taken ha
  refine ⟨fun e he => ?_, hm⟩
  rcases (insertNew_mem hins).mp he with rfl | he
  · exact ⟨hg, info, hinfo, hm⟩
  · exact h e he

lemma StateOk.enqueue (h : StateOk st) (hq : QueueOk q) (hg : ipv6HdrLen ≤ g.skb.data0.length)
    (hinfo : findFragHeader g.skb = some info) (hm : q.matches info = true) (f : Fates) : StateOk (st.enqueue q info g f).1 := by
  rw [Reasm.enqueue]
  split
  · exact h.setQueue hq
  · exact h.filter _
  next q' ha =>
  have h' : StateOk { st with refs := g.ref :: st.refs } := h
  cases q'.verdict f with
  | waits => exact h'.setQueue (hq.add hg hinfo hm ha).1
  | gaveUp => exact h'.filter _
  | done skb => exact h'.filter _

lemma ipv6Defrag_ok (h : StateOk st) (now : ℕ) (hg : ipv6HdrLen ≤ g.skb.data0.length) (f : Fates) :
    StateOk (ipv6Defrag now st g f).1 := by
  rw [ipv6Defrag]
  split
  · exact h
  next info hinfo =>
  split
  · exact h
  split
  · exact h
  split
  · exact h
  split
  · exact h
  split
  · exact h
  · exact h.filter _
  next q f' ho =>
  obtain ⟨hq, hm⟩ := h.opened hinfo ho
  exact h.enqueue (q := { q with lastUpdateTime := now % 2 ^ 32 }) hq hg hinfo hm f'

lemma checkIpv6Hdr_data0 {b' : SkBuff} (hb : ipv6HdrLen ≤ b.data0.length) (h : checkIpv6Hdr b = some b') :
    ipv6HdrLen ≤ b'.data0.length := by
  rw [checkIpv6Hdr] at h
  split at h
  · cases h
  split at h
  · cases h
  split at h
  · cases h
  rw [← Option.some.inj h, skbTruncate]
  split
  · exact hb
  rw [if_neg (by rw [ipv6HdrLen]; omega)]
  cases hi : b.infos with
  | nil => simp [SkBuff.data0, hi, ipv6HdrLen] at hb
  | cons d ds =>
    have hd : ipv6HdrLen ≤ d.data.length := by simpa [SkBuff.data0, hi] using hb
    rw [truncateInfos]
    split
    · simp only [SkBuff.data0, List.head?_cons, Option.map_some, Option.getD_some, List.length_take]
      omega
    · simpa [SkBuff.data0] using hd

lemma step_ok (h : StateOk st) (e : Event) : StateOk (step st e) := by
  cases e with
  | receive now g mine route f =>
    rw [step, ipv6Recv, ipv6Accept]
    dsimp only
    split
    · exact h
    next hdata0 =>
    split
    · exact h
    next skb hcheck =>
    split
    · exact h
    split
    · exact h
    split
    · exact ipv6Defrag_ok h now (checkIpv6Hdr_data0 (Nat.le_of_not_lt hdata0) hcheck) f
    · exact h
  | timer now => exact h.filter _
  | release ref => exact h

lemma joinLoop_payload {strip expect len : ℕ} {es : List IpqFrag} {acc : Option SkBuff} {skb : SkBuff}
    (h : joinLoop strip es acc expect f = (some (skb, len), f')) :
    skb.payload = (acc.map SkBuff.payload).getD [] ++ es.flatMap fun e => e.buf.skb.payload.drop strip := by
  induction es generalizing acc expect f with
  | nil =>
    obtain ⟨a, ha, he⟩ := Option.map_eq_some_iff.mp (Prod.mk.inj h).1
    rw [ha, ← (Prod.mk.inj he).1]
    simp
  | cons e es ih =>
    rw [joinLoop] at h
    split at h
    · cases (Prod.mk.inj h).1
    split at h
    · cases (Prod.mk.inj h).1
    cases acc with
    | none =>
      rw [ih h, List.flatMap_cons]
      simp
    | some a =>
      simp only at h
      split at h
      · cases (Prod.mk.inj h).1
      next skb' f₁ hc =>
      have hpay : skb'.payload = a.payload ++ e.buf.skb.payload.drop strip := by
        rw [chainSkb] at hc
        split at hc
        · cases (Prod.mk.inj hc).1
        split at hc
        · cases (Prod.mk.inj hc).1
        · rw [← Option.some.inj (Prod.mk.inj hc).1, ← skbConsume_payload]
          simp [SkBuff.payload]
      rw [ih h, List.flatMap_cons]
      simp [hpay]

lemma restoreHeader_getD {unfrag : List UInt8} {m j : ℕ} (h4 : j ≠ 4) (h5 : j ≠ 5) (hj : j < unfrag.length) :
    (restoreHeader q unfrag m).getD j 0 = if j = q.previousNhOffset then q.nextHeader else unfrag.getD j 0 := by
  rw [restoreHeader, putBe16_getD_of_ne h4 h5, getD_set]
  by_cases he : q.previousNhOffset = j
  · rw [if_pos ⟨he, hj⟩, if_pos he.symm]
  · rw [if_neg (fun hc => he hc.1), if_neg (fun hc => he hc.symm)]

lemma verdict_chain {skb : SkBuff} (hq : QueueOk q) (hm : q.matches info = true) (h : q.verdict f = .done skb) :
    chain (ipv6NextHdr skb.data0) (skb.payload.drop ipv6HdrLen) =
      chain info.header.nextHdr (q.frags.flatMap fun e => e.buf.skb.payload.drop (info.offset + fragHdrLen)) := by
  obtain ⟨hlen, hprev, hnext⟩ := of_decide_eq_true hm
  have hjoin : q.join f = .done skb := by
    rw [Ipq.verdict] at h
    split at h
    · split at h
      · cases h
      · exact h
    · cases h
  rw [Ipq.join] at hjoin
  split at hjoin
  · cases hjoin
  next first rest hfrags =>
  obtain ⟨hdata0, finfo, hfinfo, hfm⟩ := hq first (hfrags ▸ List.mem_cons_self)
  obtain ⟨hflen, hfprev, -⟩ := of_decide_eq_true hfm
  obtain ⟨hfound, -⟩ := findFragHeader_found hfinfo
  split at hjoin
  · cases hjoin
  split at hjoin
  · cases hjoin
  next unfrag hunfrag =>
  obtain ⟨hule, rfl⟩ := copyBits_some hunfrag
  split at hjoin
  · cases hjoin
  next joined n f₁ hloop =>
  simp only at hjoin
  split at hjoin
  · cases hjoin
  split at hjoin
  · cases hjoin
  next pushed f₂ hpush =>
  obtain rfl := Verdict.done.inj hjoin
  have hc := skbDataPush_carries hpush
  have hpay := joinLoop_payload hloop
  rw [Option.map_none, Option.getD_none, List.nil_append] at hpay
  rw [List.drop_zero] at hc
  have hU : (first.buf.skb.payload.take q.unfragLen).length = q.unfragLen := by
    rw [List.length_take]
    exact Nat.min_eq_left (by simpa [skbDataLen] using hule)
  set H := restoreHeader q (first.buf.skb.payload.take q.unfragLen) (q.unfragLen - ipv6HdrLen + n) with hH
  have hHlen : H.length = q.unfragLen := by rw [hH, restoreHeader, putBe16_length, List.length_set, hU]
  have hbyte {j : ℕ} (h4 : j ≠ 4) (h5 : j ≠ 5) (hj : j < q.unfragLen) :
      H.getD j 0 = if j = q.previousNhOffset then q.nextHeader else first.buf.skb.payload.getD j 0 := by
    rw [hH, restoreHeader_getD h4 h5 (by rw [hU]; exact hj), getD_take hj]
  have hfixed := hfound.le.2
  have hprevlt := hfound.previous_lt
  have h40 : ipv6HdrLen ≤ q.unfragLen := by omega
  have hchain := hfound.replaced (H ++ joined.payload) q.nextHeader
    (by rw [List.length_append, hHlen]; omega)
    (fun j h₁ h₂ h₃ => by
      rw [getD_append_left (by omega), hbyte (by rw [ipv6HdrLen] at h₁; omega) (by rw [ipv6HdrLen] at h₁; omega)
        (by omega), if_neg (by omega)])
    (fun h₁ => by
      rw [getD_append_left (by omega), hbyte (by rw [ipv6HdrLen] at h₁; omega) (by rw [ipv6HdrLen] at h₁; omega)
        (by omega), if_pos hfprev.symm])
  have hnh : ipv6NextHdr pushed.data0 =
      if finfo.offset = ipv6HdrLen then q.nextHeader else ipv6NextHdr first.buf.skb.data0 := by
    obtain ⟨t, ht⟩ := hc.data0
    obtain ⟨t', ht'⟩ := data0_isPrefix first.buf.skb
    rw [ipv6HdrLen] at h40 hdata0 hfixed
    rw [ht, ipv6NextHdr, getD_append_left (by omega), hbyte (by decide) (by decide) (by omega), ← ht',
      getD_append_left (by omega), ipv6NextHdr, ipv6HdrLen]
    split_ifs <;> first | rfl | omega
  rw [hnh, hc.payload, hchain, ← hflen, List.drop_left' hHlen, hpay, ← hnext, hlen, hfrags]

def queuedWith (st : Reasm) (g : Frag) (info : FragInfo) : List IpqFrag :=
  match st.search (ipqKey info.header.id g.skb.data0) with
  | none => [info.entry g]
  | some q => (insertNew IpqFrag.offset (info.entry g) q.frags).getD []

def behind (st : Reasm) (g : Frag) (info : FragInfo) : List UInt8 :=
  if info.header.atomic then g.skb.payload.drop (info.offset + fragHdrLen)
  else (queuedWith st g info).flatMap fun e => e.buf.skb.payload.drop (info.offset + fragHdrLen)

/-- Behind the first Fragment header there is none that marks an incomplete fragment. -/
def Whole (st : Reasm) (g : Frag) : Prop :=
  ∀ info, findFragHeader g.skb = some info → ∀ h ∈ chain info.header.nextHdr (behind st g info), h.atomic = true

lemma whole_iff (h : findFragHeader g.skb = some info) :
    Whole st g ↔ ∀ h ∈ chain info.header.nextHdr (behind st g info), h.atomic = true := by
  refine ⟨fun hw => hw info h, fun hall info' h' => ?_⟩
  obtain rfl := Option.some.inj (h.symm.trans h')
  exact hall

lemma queuedWith_eq {es : List IpqFrag} (ho : st.openIpq (ipqKey info.header.id g.skb.data0) info f = .found q f')
    (hins : insertNew IpqFrag.offset (info.entry g) q.frags = some es) : queuedWith st g info = es := by
  rw [queuedWith]
  rw [Reasm.openIpq] at ho
  split at ho
  · next p hs =>
    split at ho
    · obtain ⟨rfl, -⟩ := Opened.found.inj ho
      rw [hs]
      simp only [hins, Option.getD_some]
    · cases ho
  next hs =>
  rw [hs]
  split at ho
  · cases ho
  · obtain ⟨rfl, -⟩ := Opened.found.inj ho
    exact Option.some.inj hins

lemma ipv6Defrag_chain {d : Frag} (hst : StateOk st) (hg : ipv6HdrLen ≤ g.skb.data0.length)
    (h : (ipv6Defrag now st g f).2 = some d) : ∃ info, findFragHeader g.skb = some info ∧
      (info.header.atomic = true ∧ d = g ∨
        info.header.atomic = false ∧ chain (ipv6NextHdr d.skb.data0) (d.skb.payload.drop ipv6HdrLen) =
          chain info.header.nextHdr
            ((queuedWith st g info).flatMap fun e => e.buf.skb.payload.drop (info.offset + fragHdrLen))) := by
  rw [ipv6Defrag] at h
  split at h
  · cases h
  next info hinfo =>
  refine ⟨info, hinfo, ?_⟩
  split at h
  · cases h
  split at h
  · next hatomic => exact Or.inl ⟨hatomic, (Option.some.inj h).symm⟩
  next hatomic =>
  refine Or.inr ⟨by simpa using hatomic, ?_⟩
  split at h
  · cases h
  split at h
  · cases h
  split at h
  · cases h
  · cases h
  next q f' ho =>
  obtain ⟨hq, hm⟩ := hst.opened hinfo ho
  rw [Reasm.enqueue] at h
  split at h
  · cases h
  · cases h
  next q' ha =>
  obtain ⟨hq', hm'⟩ := QueueOk.add (q := { q with lastUpdateTime := now % 2 ^ 32 }) hq hg hinfo hm ha
  have hins := add_frags ha
  have hqueued : queuedWith st g info = q'.frags := queuedWith_eq ho hins
  cases hv : q'.verdict f' with
  | waits =>
    rw [hv] at h
    cases h
  | gaveUp =>
    rw [hv] at h
    cases h
  | done skb =>
    rw [hv] at h
    rw [← Option.some.inj h, hqueued]
    exact verdict_chain hq' hm' hv

def checked (g : Frag) : Frag := { g with skb := (checkIpv6Hdr g.skb).getD g.skb }

/-- Whatever was received before: a packet from which a payload is delivered is free of incomplete fragments exactly if
there is no such Fragment header behind its first one. -/
theorem delivered_packet_intact (es : List Event) (now : ℕ) {g d : Frag} {mine : Bool} {route : Route} {f : Fates}
    {r : UInt8 × SkBuff} (hd : (ipv6Accept now (run step {} es) g mine route f).2 = some d)
    (hr : (ipv6Recv now (run step {} es) g mine route f).2 = some r) :
    Intact d.skb ↔ Whole (run step {} es) (checked g) := by
  have hst : StateOk (run step {} es) := by
    refine run_always (I := StateOk) (fun s e hs => step_ok hs e) ?_ es
    intro q hq
    cases hq
  rw [ipv6Recv] at hr
  simp only [hd, Option.bind_some] at hr
  rw [ipv6Accept] at hd
  split at hd
  · cases hd
  next hdata0 =>
  split at hd
  · cases hd
  next skb hcheck =>
  have hg : checked g = { g with skb } := by rw [checked, hcheck, Option.getD_some]
  rw [hg]
  split at hd
  · cases hd
  split at hd
  · cases hd
  split at hd
  · have hlen : ipv6HdrLen ≤ skb.data0.length := checkIpv6Hdr_data0 (Nat.le_of_not_lt hdata0) hcheck
    obtain ⟨info, hinfo, ⟨hatomic, rfl⟩ | ⟨hatomic, hchain⟩⟩ := ipv6Defrag_chain hst hlen hd
    · have hchain := (findFragHeader_found hinfo).1.chain
      rw [Intact, hchain, List.forall_mem_cons, whole_iff hinfo, behind, if_pos hatomic]
      exact and_iff_right hatomic
    · rw [Intact, hchain, whole_iff hinfo, behind, if_neg (by simp [hatomic])]
  · next hfrag =>
    have hnone : findFragHeader skb = none := by simpa [ipv6HasFrag] using hfrag
    obtain rfl := Option.some.inj hd
    refine iff_of_true (intact_of_no_frag hnone hr) fun info hinfo => ?_
    rw [show findFragHeader skb = some info from hinfo] at hnone
    cases hnone

instance (b : SkBuff) : Decidable (Intact b) :=
  inferInstanceAs (Decidable (∀ h ∈ chain (ipv6NextHdr b.data0) (b.payload.drop ipv6HdrLen), h.atomic = true))

def fragPacket (nextHdr fragOff : UInt8) (rest : List UInt8) : Frag :=
  { ref := 0
    skb := { seq := 0, flag := {}, infos := [{ headroom := 14, size := 254, data :=
      [0x60, 0, 0, 0, 0, UInt8.ofNat (8 + rest.length), 44, 64] ++ List.replicate 16 1 ++ List.replicate 16 2 ++
        [nextHdr, 0, 0, fragOff, 0, 0, 0, 1] ++ rest }] } }

def udpDatagram : List UInt8 := [0, 53, 0, 53, 0, 8, 0, 0]

def firstHalf : Event := .receive 0 (fragPacket 17 1 [0, 53, 0, 53, 0, 16, 0, 0]) true .localHost []

def secondHalf : Frag := fragPacket 17 8 (List.replicate 8 7)

/-- A datagram of sixteen bytes comes in two halves. -/
theorem delivered_packet_intact_halves :
    ∃ d, (ipv6Accept 1 (run step {} [firstHalf]) secondHalf true .localHost []).2 = some d ∧ Intact d.skb := by
  have hinfo : findFragHeader (checked secondHalf).skb =
      some { header := { nextHdr := 17, reserved := 0, fragOff := 8, id := 1 }, offset := 40, previousNhOffset := 6 } := by
    decide
  have hd : (ipv6Accept 1 (run step {} [firstHalf]) secondHalf true .localHost []).2.isSome := by decide
  have hr : (ipv6Recv 1 (run step {} [firstHalf]) secondHalf true .localHost []).2.isSome := by decide
  obtain ⟨d, hd⟩ := Option.isSome_iff_exists.mp hd
  obtain ⟨r, hr⟩ := Option.isSome_iff_exists.mp hr
  refine ⟨d, hd, (delivered_packet_intact [firstHalf] 1 hd hr).mpr ((whole_iff hinfo).mpr ?_)⟩
  decide

def atomicPacket (nextHdr : UInt8) (rest : List UInt8) : Frag := fragPacket nextHdr 0 rest

def nestedPacket : Frag := atomicPacket 44 ([17, 0, 11, 1, 0, 0, 0, 2] ++ udpDatagram)

/-- A second Fragment header behind one for a whole packet is skipped like any other header, and its fragment is handed
to UDP. -/
theorem nested_fragment_delivered :
    (ipv6Accept 0 {} nestedPacket true .localHost []).2 = some nestedPacket ∧
      (ipv6Recv 0 {} nestedPacket true .localHost []).2.map (fun r => (r.1, r.2.payload)) = some (17, udpDatagram) ∧
      ¬Intact nestedPacket.skb := by
  refine ⟨?_, ?_, ?_⟩ <;> decide

end Netfast.Ip6
