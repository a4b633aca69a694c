import Netfast.Ip.Frag
import Netfast.Lib.Ordered

/-! `ipv4_defrag`, the reassembly queues of a worker, and the references taken on the fragments. -/

namespace Netfast.Ip

open Bytes Skbuff Ordered

-- the lengths are 32-bit numbers
def ipv4PayloadLen (ip : List UInt8) : ℕ := (ipv4TotLen ip + 2 ^ 32 - ipv4Hl ip) % 2 ^ 32

def fragOffset (b : SkBuff) : ℕ := fragOff (ipv4FragField b.data0)

def fragMore (b : SkBuff) : Bool := fragMf (ipv4FragField b.data0)

def fragLen (b : SkBuff) : ℕ := ipv4PayloadLen b.data0

structure Frag where
  ref : ℕ
  skb : SkBuff
deriving DecidableEq

structure IpqKey where
  id : ℕ
  srcIp : ℕ
  dstIp : ℕ
  protocol : UInt8
deriving DecidableEq

def ipqKey (ip : List UInt8) : IpqKey :=
  { id := be16 ip 4, srcIp := be32 ip 12, dstIp := be32 ip 16, protocol := ip.getD 9 0 }

structure Ipq where
  key : IpqKey
  totalLen : ℕ := 0
  receivedLen : ℕ := 0
  lastUpdateTime : ℕ
  lastRecved : Bool := false
  firstRecved : Bool := false
  frags : List Frag := []
deriving DecidableEq

structure Reasm where
  queues : List Ipq := []
  refs : List ℕ := []
  crashed : Bool := false
deriving DecidableEq

def Reasm.search (st : Reasm) (k : IpqKey) : Option Ipq := st.queues.find? fun q => q.key = k

def Reasm.setQueue (st : Reasm) (q : Ipq) : Reasm :=
  { st with queues := q :: st.queues.filter fun p => p.key ≠ q.key }

def Reasm.destroyIpq (st : Reasm) (q : Ipq) (put : List Frag) : Reasm :=
  { st with
    queues := st.queues.filter fun p => p.key ≠ q.key
    refs := st.refs.diff (put.map Frag.ref) }

-- search_ipq and create_ipq
def Reasm.openIpq (st : Reasm) (now : ℕ) (k : IpqKey) (f : Fates) : Option (Ipq × Fates) :=
  match st.search k with
  | some q => some (q, f)
  | none =>
    match draw f with
    | (false, _) => none
    | (true, f) => some ({ key := k, lastUpdateTime := now % 2 ^ 32 }, f)

def Ipq.add (q : Ipq) (frag : Frag) : Option Ipq :=
  (insertNew (fun g : Frag => fragOffset g.skb) frag q.frags).map fun frags =>
    { q with
      frags
      lastRecved := q.lastRecved || !fragMore frag.skb
      totalLen := if fragMore frag.skb then q.totalLen
        else (fragOffset frag.skb * 8 + fragLen frag.skb) % 2 ^ 32
      firstRecved := q.firstRecved || decide (fragOffset frag.skb = 0)
      receivedLen := (q.receivedLen + fragLen frag.skb) % 2 ^ 32 }

inductive Verdict
  | waits
  | gaveUp (left : List Frag)
  | crash
  | done (skb : SkBuff) (len : ℕ)
deriving DecidableEq

def drawAll : ℕ → Fates → Bool × Fates
  | 0, f => (true, f)
  | n + 1, f =>
    match draw f with
    | (false, f) => (false, f)
    | (true, f) => drawAll n f

-- what is left of a fragment for the chain
def fragBody (b : SkBuff) : SkBuff := (skbConsumeLinear b (ipv4Hl b.data0)).1

def joinLoop : List Frag → SkBuff → ℕ → ℕ → Fates → Verdict
  | [], acc, _, len, _ => .done acc len
  | frag :: rest, acc, expect, len, f =>
    if fragOffset frag.skb ≠ expect then .gaveUp rest
    else
      let body := fragBody frag.skb
      if skbDataMaxNum < acc.infos.length + body.infos.length then .gaveUp rest
      else
        match drawAll (max 1 body.infos.length) f with
        | (false, _) => .gaveUp rest
        | (true, f) =>
          if body.infos = [] then .crash
          else
            joinLoop rest { acc with infos := acc.infos ++ body.infos } ((expect + fragLen frag.skb / 8) % 2 ^ 32)
              ((len + fragLen frag.skb) % 2 ^ 32) f

def Ipq.join (q : Ipq) (f : Fates) : Verdict :=
  match q.frags with
  | [] => .gaveUp []
  | first :: rest => joinLoop rest first.skb (fragLen first.skb / 8) (skbDataLen first.skb) f

def Ipq.verdict (q : Ipq) (f : Fates) : Verdict :=
  if q.firstRecved && q.lastRecved && decide (q.totalLen ≤ q.receivedLen) then
    if q.receivedLen ≠ q.totalLen then .gaveUp q.frags else q.join f
  else .waits

def restoreHeader (skb : SkBuff) (len : ℕ) : SkBuff :=
  putHeader skb (fragHeader (skb.data0.take (ipv4Hl skb.data0)) 0 (len % 2 ^ 16))

-- the fragments ahead of `left` had their references given back
def Ipq.ahead (q : Ipq) (left : List Frag) : List Frag := q.frags.take (q.frags.length - left.length)

def Ipq.firstRef (q : Ipq) : ℕ := (q.frags.head?.map Frag.ref).getD 0

-- a fragment with DF, or one that does not end on a multiple of eight and is not the last
def fragInvalid (b : SkBuff) : Bool :=
  fragMore b && decide (fragLen b % 8 ≠ 0) || fragDf (ipv4FragField b.data0)

def ipv4Defrag (now : ℕ) (st : Reasm) (frag : Frag) (f : Fates) : Reasm × Option Frag :=
  if fragInvalid frag.skb then (st, none)
  else
    match st.openIpq now (ipqKey frag.skb.data0) f with
    | none => (st, none)
    | some (q, f) =>
      match q.add frag with
      | none => (st.setQueue q, none)
      | some q =>
        let st := { st with refs := frag.ref :: st.refs }
        match q.verdict f with
        | .waits => (st.setQueue q, none)
        | .gaveUp left => (st.destroyIpq q (q.ahead left), none)
        | .crash => ({ st with crashed := true }, none)
        | .done skb len => (st.destroyIpq q q.frags.tail, some { ref := q.firstRef, skb := restoreHeader skb len })

def ipqTimeout : ℕ := 5000

def Ipq.expired (now : ℕ) (q : Ipq) : Bool := decide (ipqTimeout < (now + 2 ^ 32 - q.lastUpdateTime) % 2 ^ 32)

def ipqTimer (now : ℕ) (st : Reasm) : Reasm := { st with queues := st.queues.filter fun q => !q.expired now }

inductive Event
  | arrive (now : ℕ) (frag : Frag) (f : Fates)
  | timer (now : ℕ)
  | release (ref : ℕ)

def step (st : Reasm) : Event → Reasm
  | .arrive now frag f => if st.crashed then st else (ipv4Defrag now st frag f).1
  | .timer now => if st.crashed then st else ipqTimer now st
  | .release ref => if st.crashed then st else { st with refs := st.refs.erase ref }

variable {st : Reasm} {q q' : Ipq} {k : IpqKey} {frag : Frag} {now : ℕ} {f f' : Fates}

lemma search_key (h : st.search k = some q) : q.key = k := by
  simpa using List.find?_some h

@[simp] lemma search_setQueue (st : Reasm) (q : Ipq) : (st.setQueue q).search q.key = some q := by
  simp [Reasm.search, Reasm.setQueue]

lemma openIpq_cases (h : st.openIpq now k f = some (q, f')) :
    st.search k = some q ∨ st.search k = none ∧ q = { key := k, lastUpdateTime := now % 2 ^ 32 } := by
  rw [Reasm.openIpq] at h
  split at h
  · next p hs => exact .inl (hs.trans (congrArg some (Prod.mk.inj (Option.some.inj h)).1))
  · next hs =>
    split at h
    · cases h
    · exact .inr ⟨hs, (Prod.mk.inj (Option.some.inj h)).1.symm⟩

lemma openIpq_key (h : st.openIpq now k f = some (q, f')) : q.key = k := by
  rcases openIpq_cases h with hs | ⟨-, rfl⟩
  · exact search_key hs
  · rfl

lemma add_key (h : q.add frag = some q') : q'.key = q.key := by
  obtain ⟨frags, -, rfl⟩ := Option.map_eq_some_iff.mp h
  rfl

lemma add_frags (h : q.add frag = some q') :
    insertNew (fun g : Frag => fragOffset g.skb) frag q.frags = some q'.frags := by
  obtain ⟨frags, hf, rfl⟩ := Option.map_eq_some_iff.mp h
  exact hf

end Netfast.Ip
