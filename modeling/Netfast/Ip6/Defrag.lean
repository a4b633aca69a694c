import Netfast.Ip.Defrag
import Netfast.Ip6.Header

/-! `ipv6_frag` of `main/ipv6_ext.c`. -/

namespace Netfast.Ip6

open Bytes Skbuff Ordered

section

open Ip

-- ipv6_frag_set of an offset that was stored in sixteen bits
def fragSet (offset : ℕ) (more : Bool) : ℕ := offset / 8 % 2 ^ 16 * 8 % 2 ^ 16 + more.toNat

def fragHdr (nextHdr : UInt8) (id offset : ℕ) (more : Bool) : FragHdr :=
  { nextHdr, reserved := 0, fragOff := fragSet offset more, id }

def fragHeaders (fixed : List UInt8) (nextHdr : UInt8) (id : ℕ) : FragHeader := fun offset more len =>
  putBe16 (fixed.set 6 nexthdrFrag) 4 (fragHdrLen + len) ++ (fragHdr nextHdr id offset more).bytes

/-- What `check_ipv6_hdr` leaves of a packet whose fixed header lies in `data0`: the bytes the header counts. -/
structure WellFormed (b : SkBuff) : Prop where
  inData0 : ipv6HdrLen ≤ b.data0.length
  payloadLen : skbDataLen b = ipv6HdrLen + ipv6PayloadLen b.data0

instance (b : SkBuff) : Decidable (WellFormed b) :=
  decidable_of_iff (ipv6HdrLen ≤ b.data0.length ∧ skbDataLen b = ipv6HdrLen + ipv6PayloadLen b.data0)
    ⟨fun h => ⟨h.1, h.2⟩, fun h => ⟨h.inData0, h.payloadLen⟩⟩

variable {skb : SkBuff}

lemma WellFormed.length_le (h : WellFormed skb) : skbDataLen skb ≤ ipv6HdrLen + 65535 := by
  have hlt := @be16_lt skb.data0 4
  rw [h.payloadLen, ipv6PayloadLen]
  omega

end

/-! `ipv6_defrag` of `main/ipv6_ext.c`, and the reassembly queues of a worker. The fragments of a queue do not overlap
and end below 65536, so the sums of their lengths do not wrap. -/

open Ip (Frag)

structure IpqKey where
  id : ℕ
  srcIp : List UInt8
  dstIp : List UInt8
deriving DecidableEq

def ipqKey (id : ℕ) (ip : List UInt8) : IpqKey :=
  { id, srcIp := (ip.drop 8).take 16, dstIp := (ip.drop 24).take 16 }

structure IpqFrag where
  buf : Frag
  offset : ℕ
  len : ℕ
deriving DecidableEq

def IpqFrag.start (e : IpqFrag) : ℕ := e.offset * 8

def IpqFrag.end (e : IpqFrag) : ℕ := e.start + e.len

structure Ipq where
  key : IpqKey
  totalLen : ℕ := 0
  receivedLen : ℕ := 0
  lastUpdateTime : ℕ := 0
  unfragLen : ℕ
  previousNhOffset : ℕ
  nextHeader : UInt8
  lastRecved : Bool := false
  firstRecved : Bool := false
  frags : List IpqFrag := []
deriving DecidableEq

structure Reasm where
  queues : List Ipq := []
  refs : List ℕ := []
deriving DecidableEq

def Reasm.search (st : Reasm) (k : IpqKey) : Option Ipq := st.queues.find? fun q => q.key = k

def Reasm.setQueue (st : Reasm) (q : Ipq) : Reasm :=
  { st with queues := q :: st.queues.filter fun p => p.key ≠ q.key }

def refsOf (es : List IpqFrag) : List ℕ := es.map fun e => e.buf.ref

def Reasm.destroyIpq (st : Reasm) (q : Ipq) (put : List IpqFrag) : Reasm :=
  { queues := st.queues.filter fun p => p.key ≠ q.key, refs := st.refs.diff (refsOf put) }

inductive Opened
  | failed
  | mismatch (q : Ipq)
  | found (q : Ipq) (f : Fates)
deriving DecidableEq

def Ipq.matches (q : Ipq) (info : FragInfo) : Bool :=
  decide (q.unfragLen = info.offset ∧ q.previousNhOffset = info.previousNhOffset ∧ q.nextHeader = info.header.nextHdr)

-- search_ipq6 and create_ipq6
def Reasm.openIpq (st : Reasm) (k : IpqKey) (info : FragInfo) (f : Fates) : Opened :=
  match st.search k with
  | some q => if q.matches info then .found q f else .mismatch q
  | none =>
    match draw f with
    | (false, _) => .failed
    | (true, f) =>
      .found { key := k
               unfragLen := info.offset % 2 ^ 16
               previousNhOffset := info.previousNhOffset % 2 ^ 16
               nextHeader := info.header.nextHdr } f

def IpqFrag.overlaps (e : IpqFrag) (x : IpqFrag) : Bool := decide (e.start < x.end) && decide (x.start < e.end)

def Ipq.inconsistentEnd (q : Ipq) (e : IpqFrag) (more : Bool) : Bool :=
  q.lastRecved && decide (q.totalLen < e.end) || !more && q.frags.any (fun x => decide (e.end < x.end)) ||
    !more && q.lastRecved && decide (q.totalLen ≠ e.end)

inductive Admitted
  | refused
  | inconsistent
  | taken (q : Ipq)
deriving DecidableEq

def Ipq.add (q : Ipq) (e : IpqFrag) (more : Bool) : Admitted :=
  if q.frags.any e.overlaps then .refused
  else if q.inconsistentEnd e more then .inconsistent
  else
    match insertNew IpqFrag.offset e q.frags with
    | none => .refused
    | some frags =>
      .taken { q with
        frags
        lastRecved := q.lastRecved || !more
        totalLen := if more then q.totalLen else e.end
        firstRecved := q.firstRecved || decide (e.offset = 0)
        receivedLen := q.receivedLen + e.len }

inductive Verdict
  | waits
  | gaveUp
  | done (skb : SkBuff)
deriving DecidableEq

-- skb_append_skb without data_copy
def chainSkb (a b : SkBuff) (f : Fates) : Option SkBuff × Fates :=
  if skbDataMaxNum < a.infos.length + b.infos.length then (none, f)
  else
    match draw f with
    | (false, f) => (none, f)
    | (true, f) => (some { a with infos := a.infos ++ b.infos }, f)

def joinLoop (strip : ℕ) : List IpqFrag → Option SkBuff → ℕ → Fates → Option (SkBuff × ℕ) × Fates
  | [], acc, expect, f => (acc.map fun skb => (skb, expect), f)
  | e :: es, acc, expect, f =>
    if e.start ≠ expect then (none, f)
    else if skbDataLen e.buf.skb < strip then (none, f)
    else
      let body := skbConsume e.buf.skb strip
      match acc with
      | none => joinLoop strip es (some body) (expect + e.len) f
      | some skb =>
        match chainSkb skb body f with
        | (none, f) => (none, f)
        | (some skb, f) => joinLoop strip es (some skb) (expect + e.len) f

-- the buffer the headers in front of the Fragment header are saved in
def unfragMax : ℕ := 40 + 255 * 8

def restoreHeader (q : Ipq) (unfrag : List UInt8) (payloadLen : ℕ) : List UInt8 :=
  putBe16 (unfrag.set q.previousNhOffset q.nextHeader) 4 payloadLen

def Ipq.join (q : Ipq) (f : Fates) : Verdict :=
  match q.frags with
  | [] => .gaveUp
  | first :: _ =>
    if unfragMax < q.unfragLen then .gaveUp
    else
      match copyBits first.buf.skb 0 q.unfragLen with
      | none => .gaveUp
      | some unfrag =>
        match joinLoop (q.unfragLen + fragHdrLen) q.frags none 0 f with
        | (none, _) => .gaveUp
        | (some (skb, len), f) =>
          let payloadLen := q.unfragLen - ipv6HdrLen + len
          if 65535 < payloadLen then .gaveUp
          else
            match skbDataPush skb (restoreHeader q unfrag payloadLen) f with
            | (none, _) => .gaveUp
            | (some skb, _) => .done skb

def Ipq.verdict (q : Ipq) (f : Fates) : Verdict :=
  if q.firstRecved && q.lastRecved && decide (q.totalLen ≤ q.receivedLen) then
    if q.receivedLen ≠ q.totalLen then .gaveUp else q.join f
  else .waits

def Ipq.firstRef (q : Ipq) : ℕ := (q.frags.head?.map fun e => e.buf.ref).getD 0

-- the bytes behind the Fragment header
def FragInfo.payloadLen (info : FragInfo) (b : SkBuff) : ℕ := skbDataLen b - (info.offset + fragHdrLen)

def FragInfo.entry (info : FragInfo) (g : Frag) : IpqFrag :=
  { buf := g, offset := info.header.offset8, len := info.payloadLen g.skb }

-- a fragment with reserved bits set, an empty one, one that ends behind the longest packet, or one that does not end on
-- a multiple of eight and is not the last
def FragInfo.invalid (info : FragInfo) (b : SkBuff) : Bool :=
  decide (info.payloadLen b = 0) || decide (65535 < info.header.offset8 * 8) ||
    decide (65535 - info.header.offset8 * 8 < info.payloadLen b) ||
    info.header.more && decide (info.payloadLen b % 8 ≠ 0)

-- offset 0 and M clear: the packet is whole
def FragHdr.atomic (h : FragHdr) : Bool := decide (h.offset8 = 0) && !h.more

def Reasm.conclude (st : Reasm) (q : Ipq) : Verdict → Reasm × Option Frag
  | .waits => (st.setQueue q, none)
  | .gaveUp => (st.destroyIpq q q.frags, none)
  | .done skb => (st.destroyIpq q q.frags.tail, some { ref := q.firstRef, skb })

def Reasm.enqueue (st : Reasm) (q : Ipq) (info : FragInfo) (g : Frag) (f : Fates) : Reasm × Option Frag :=
  match q.add (info.entry g) info.header.more with
  | .refused => (st.setQueue q, none)
  | .inconsistent => (st.destroyIpq q q.frags, none)
  | .taken q => Reasm.conclude { st with refs := g.ref :: st.refs } q (q.verdict f)

def ipv6Defrag (now : ℕ) (st : Reasm) (g : Frag) (f : Fates) : Reasm × Option Frag :=
  match findFragHeader g.skb with
  | none => (st, none)
  | some info =>
    if info.header.reservedSet then (st, none)
    else if info.header.atomic then (st, some g)
    else if info.invalid g.skb then (st, none)
    else
      match draw f with
      | (false, _) => (st, none)
      | (true, f) =>
        match st.openIpq (ipqKey info.header.id g.skb.data0) info f with
        | .failed => (st, none)
        | .mismatch q => (st.destroyIpq q q.frags, none)
        | .found q f => st.enqueue { q with lastUpdateTime := now % 2 ^ 32 } info g f

def ipqTimeout : ℕ := 5000

def Ipq.expired (now : ℕ) (q : Ipq) : Bool := decide (ipqTimeout < (now + 2 ^ 32 - q.lastUpdateTime) % 2 ^ 32)

def ipqTimer (now : ℕ) (st : Reasm) : Reasm :=
  { queues := st.queues.filter fun q => !q.expired now
    refs := st.refs.diff ((st.queues.filter fun q => q.expired now).flatMap fun q => refsOf q.frags) }

lemma IpqFrag.overlaps_iff {e x : IpqFrag} :
    e.overlaps x = true ↔ e.start < x.start + x.len ∧ x.start < e.start + e.len := by
  rw [IpqFrag.overlaps, Bool.and_eq_true, decide_eq_true_iff, decide_eq_true_iff, IpqFrag.end, IpqFrag.end]

variable {st : Reasm} {q q' : Ipq} {k : IpqKey} {e : IpqFrag} {more : Bool} {f f' : Fates} {info : FragInfo}

lemma search_key (h : st.search k = some q) : q.key = k := by
  simpa using List.find?_some h

@[simp] lemma search_setQueue (st : Reasm) (q : Ipq) : (st.setQueue q).search q.key = some q := by
  simp [Reasm.search, Reasm.setQueue]

lemma add_taken (h : q.add e more = .taken q') :
    (∀ x ∈ q.frags, e.overlaps x = false) ∧ q.inconsistentEnd e more = false ∧
      ∃ frags, insertNew IpqFrag.offset e q.frags = some frags ∧
        q' = { q with
          frags
          lastRecved := q.lastRecved || !more
          totalLen := if more then q.totalLen else e.end
          firstRecved := q.firstRecved || decide (e.offset = 0)
          receivedLen := q.receivedLen + e.len } := by
  rw [Ipq.add] at h
  split at h
  · cases h
  next hov =>
  split at h
  · cases h
  next hin =>
  split at h
  · cases h
  next frags hf =>
  refine ⟨fun x hx => ?_, by simpa using hin, frags, hf, (Admitted.taken.inj h).symm⟩
  cases ho : e.overlaps x with
  | false => rfl
  | true => exact absurd (List.any_eq_true.mpr ⟨x, hx, ho⟩) hov

lemma add_frags (h : q.add e more = .taken q') : insertNew IpqFrag.offset e q.frags = some q'.frags := by
  obtain ⟨-, -, frags, hins, rfl⟩ := add_taken h
  exact hins

end Netfast.Ip6
