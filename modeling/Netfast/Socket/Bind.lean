import Mathlib.Algebra.Ring.Nat
import Mathlib.Data.List.Count
import Netfast.Lib.Run
import Netfast.Socket.Tuple

/-! The bind table: per port one word with two counters, per address key one slot with a counter. -/

namespace Netfast.Socket

open Run

inductive BindAddr
  | v4 (addr : Ipv4)
  | v6 (addr : Ipv6)
deriving DecidableEq

structure AddrKey where
  addr : BindAddr
  port : Port
  scopeId : BitVec 32 := 0
deriving DecidableEq

def leBytes (n v : ℕ) : List UInt8 := (List.range n).map fun i => UInt8.ofNat (v / 256 ^ i)

def bindHashAdd (hash : UInt32) (data : List UInt8) : UInt32 :=
  data.foldl (fun h b => (h ^^^ b.toUInt32) * 16777619) hash

def bindKeyHash (key : AddrKey) : UInt32 :=
  let hash := 2166136261
  match key.addr with
  | .v4 a => bindHashAdd (bindHashAdd (bindHashAdd hash (leBytes 2 2)) (leBytes 2 key.port.toNat)) (leBytes 4 a.toNat)
  | .v6 a =>
    bindHashAdd (bindHashAdd (bindHashAdd (bindHashAdd hash (leBytes 2 10)) (leBytes 2 key.port.toNat)) a.toList)
      (leBytes 4 key.scopeId.toNat)

def bindKeyEqual (a b : AddrKey) : Bool :=
  match a.addr, b.addr with
  | .v4 x, .v4 y => a.port = b.port && x = y
  | .v6 x, .v6 y => a.port = b.port && a.scopeId = b.scopeId && x = y
  | _, _ => false

def BindAddr.isAny : BindAddr → Bool
  | .v4 a => a = InetAddr.any
  | .v6 a => a = InetAddr.any

def bindKeyIsAny (key : AddrKey) : Bool := key.addr.isAny

structure BindSlot where
  key : AddrKey
  count : ℕ

structure BindTable where
  buckets : ℕ → List BindSlot
  ports : Port → ℕ

def bucketOf (key : AddrKey) : ℕ := (bindKeyHash key).toNat % 16384

def bindFind (t : BindTable) (key : AddrKey) : Option BindSlot :=
  (t.buckets (bucketOf key)).find? fun s => bindKeyEqual s.key key

def bindOne (key : AddrKey) : ℕ := if bindKeyIsAny key then 2 ^ 32 else 1

def portTaken (t : BindTable) (key : AddrKey) : Bool :=
  if bindKeyIsAny key then t.ports key.port != 0 else t.ports key.port / 2 ^ 32 != 0

def bindPortReserve (t : BindTable) (key : AddrKey) (reuse : Bool) : Option BindTable :=
  if !reuse && portTaken t key then none
  else
    some { t with ports := Function.update t.ports key.port ((t.ports key.port + bindOne key) % 2 ^ 64) }

def bindPortRelease (t : BindTable) (key : AddrKey) : BindTable :=
  { t with
    ports := Function.update t.ports key.port ((t.ports key.port + 2 ^ 64 - bindOne key) % 2 ^ 64) }

def setCount (key : AddrKey) (f : ℕ → ℕ) : List BindSlot → List BindSlot
  | [] => []
  | s :: ss => if bindKeyEqual s.key key then { s with count := f s.count } :: ss else s :: setCount key f ss

def BindTable.count (t : BindTable) (key : AddrKey) (f : ℕ → ℕ) : BindTable :=
  { t with buckets := Function.update t.buckets (bucketOf key) (setCount key f (t.buckets (bucketOf key))) }

def BindTable.link (t : BindTable) (slot : BindSlot) : BindTable :=
  { t with
    buckets := Function.update t.buckets (bucketOf slot.key) (slot :: t.buckets (bucketOf slot.key)) }

def bindReserve (t : BindTable) (key : AddrKey) (reuse alloc : Bool) : BindTable × Option AddrKey :=
  match bindPortReserve t key reuse with
  | none => (t, none)
  | some t =>
    match bindFind t key with
    | some slot =>
      if slot.count != 0 && !reuse then (bindPortRelease t key, none)
      else (t.count key fun c => (c + 1) % 2 ^ 32, some slot.key)
    | none => if alloc then (t.link { key, count := 1 }, some key) else (bindPortRelease t key, none)

def bindRelease (t : BindTable) (slot : AddrKey) : BindTable :=
  bindPortRelease (t.count slot fun c => (c + 2 ^ 32 - 1) % 2 ^ 32) slot

def AddrKey.canon (k : AddrKey) : AddrKey :=
  match k.addr with
  | .v4 _ => { k with scopeId := 0 }
  | .v6 _ => k

variable {a b key : AddrKey}

lemma bindKeyEqual_iff (a b : AddrKey) : bindKeyEqual a b = true ↔ a.canon = b.canon := by
  obtain ⟨a, p, s⟩ := a
  obtain ⟨b, q, t⟩ := b
  cases a <;> cases b <;> simp [bindKeyEqual, AddrKey.canon]
  all_goals tauto

lemma canon_port (k : AddrKey) : k.canon.port = k.port := by
  obtain ⟨a, p, s⟩ := k
  cases a <;> rfl

lemma canon_addr (k : AddrKey) : k.canon.addr = k.addr := by
  obtain ⟨a, p, s⟩ := k
  cases a <;> rfl

lemma port_congr (h : a.canon = b.canon) : a.port = b.port := by
  rw [← canon_port a, h, canon_port]

lemma isAny_congr (h : a.canon = b.canon) : bindKeyIsAny a = bindKeyIsAny b := by
  rw [bindKeyIsAny, ← canon_addr a, h, canon_addr, bindKeyIsAny]

lemma bindKeyHash_canon (k : AddrKey) : bindKeyHash k.canon = bindKeyHash k := by
  obtain ⟨a, p, s⟩ := k
  cases a <;> rfl

lemma bucketOf_congr (h : a.canon = b.canon) : bucketOf a = bucketOf b := by
  rw [bucketOf, ← bindKeyHash_canon a, h, bindKeyHash_canon, bucketOf]

lemma bindFind_key {t : BindTable} {slot : BindSlot} (h : bindFind t key = some slot) :
    slot.key.canon = key.canon := by
  have heq : bindKeyEqual slot.key key = true := List.find?_some (p := fun s : BindSlot => bindKeyEqual s.key key) h
  exact (bindKeyEqual_iff _ _).mp heq

def BindTable.slotCount (t : BindTable) (key : AddrKey) : ℕ := ((bindFind t key).map BindSlot.count).getD 0

lemma count_buckets (t : BindTable) (key : AddrKey) (f : ℕ → ℕ) (b : ℕ) :
    (t.count key f).buckets b = if b = bucketOf key then setCount key f (t.buckets b) else t.buckets b := by
  rcases eq_or_ne b (bucketOf key) with rfl | hb
  · rw [if_pos rfl]
    exact Function.update_self ..
  · rw [if_neg hb]
    exact Function.update_of_ne hb ..

lemma link_buckets (t : BindTable) (slot : BindSlot) (b : ℕ) :
    (t.link slot).buckets b = if b = bucketOf slot.key then slot :: t.buckets b else t.buckets b := by
  rcases eq_or_ne b (bucketOf slot.key) with rfl | hb
  · rw [if_pos rfl]
    exact Function.update_self ..
  · rw [if_neg hb]
    exact Function.update_of_ne hb ..

lemma setCount_keys (key : AddrKey) (f : ℕ → ℕ) (l : List BindSlot) :
    (setCount key f l).map BindSlot.key = l.map BindSlot.key := by
  induction l with
  | nil => rfl
  | cons s ss ih =>
    rw [setCount]
    split
    · rfl
    · rw [List.map_cons, ih, List.map_cons]

lemma find_setCount_same {key' : AddrKey} (h : key'.canon = key.canon) (f : ℕ → ℕ) (l : List BindSlot) :
    (setCount key f l).find? (fun s => bindKeyEqual s.key key') =
      (l.find? fun s => bindKeyEqual s.key key').map fun s => { s with count := f s.count } := by
  induction l with
  | nil => rfl
  | cons s ss ih =>
    have heq : bindKeyEqual s.key key' = bindKeyEqual s.key key := by
      rw [Bool.eq_iff_iff, bindKeyEqual_iff, bindKeyEqual_iff, h]
    rw [setCount]
    cases hs : bindKeyEqual s.key key with
    | true => simp [heq, hs]
    | false => simp [heq, hs, ih]

lemma find_setCount_other {key' : AddrKey} (h : key'.canon ≠ key.canon) (f : ℕ → ℕ) (l : List BindSlot) :
    (setCount key f l).find? (fun s => bindKeyEqual s.key key') = l.find? fun s => bindKeyEqual s.key key' := by
  induction l with
  | nil => rfl
  | cons s ss ih =>
    rw [setCount]
    split
    · next hs =>
      have hne : bindKeyEqual s.key key' = false := by
        rw [Bool.eq_false_iff, Ne, bindKeyEqual_iff, (bindKeyEqual_iff _ _).mp hs]
        exact Ne.symm h
      simp [hne]
    · simp [List.find?_cons, ih]

lemma slotCount_count (t : BindTable) (f : ℕ → ℕ) (key' : AddrKey)
    (hslot : (bindFind t key).isSome) :
    (t.count key f).slotCount key' = if key'.canon = key.canon then f (t.slotCount key) else t.slotCount key' := by
  rw [BindTable.slotCount, bindFind, count_buckets]
  by_cases h : key'.canon = key.canon
  · obtain ⟨slot, hs⟩ := Option.isSome_iff_exists.mp hslot
    have hcongr : (fun s : BindSlot => bindKeyEqual s.key key') = fun s => bindKeyEqual s.key key := by
      funext s
      rw [Bool.eq_iff_iff, bindKeyEqual_iff, bindKeyEqual_iff, h]
    rw [bindFind] at hs
    rw [if_pos h, if_pos (bucketOf_congr h), find_setCount_same h, hcongr, bucketOf_congr h, hs, BindTable.slotCount,
      bindFind, hs]
    rfl
  · rw [if_neg h, BindTable.slotCount, bindFind]
    split
    · rw [find_setCount_other h]
    · rfl

lemma slotCount_link (t : BindTable) (key : AddrKey) (n : ℕ) (key' : AddrKey) :
    (t.link { key, count := n }).slotCount key' = if key'.canon = key.canon then n else t.slotCount key' := by
  rw [BindTable.slotCount, bindFind, link_buckets]
  by_cases h : key'.canon = key.canon
  · have heq : bindKeyEqual key key' = true := (bindKeyEqual_iff _ _).mpr h.symm
    rw [if_pos h, if_pos (bucketOf_congr h), List.find?_cons, heq]
    rfl
  · have hne : bindKeyEqual key key' = false := by
      rw [Bool.eq_false_iff, Ne, bindKeyEqual_iff]
      exact Ne.symm h
    rw [if_neg h, BindTable.slotCount, bindFind]
    split
    · rw [List.find?_cons, hne]
    · rfl

structure Slots (t : BindTable) : Prop where
  placed : ∀ b, ∀ s ∈ t.buckets b, bucketOf s.key = b
  unique : ∀ b, ((t.buckets b).map fun s => s.key.canon).Nodup

lemma Slots.of_buckets {t t' : BindTable} (h : Slots t) (hb : t'.buckets = t.buckets) : Slots t' :=
  ⟨hb ▸ h.placed, hb ▸ h.unique⟩

lemma Slots.count {t : BindTable} (h : Slots t) (key : AddrKey) (f : ℕ → ℕ) : Slots (t.count key f) := by
  have hkeys : ∀ b, ((t.count key f).buckets b).map BindSlot.key = (t.buckets b).map BindSlot.key := by
    intro b
    rw [count_buckets]
    split
    · rw [setCount_keys]
    · rfl
  constructor
  · intro b s hs
    have hk : s.key ∈ (t.buckets b).map BindSlot.key := hkeys b ▸ List.mem_map_of_mem hs
    obtain ⟨s', hs', he⟩ := List.mem_map.mp hk
    rw [← he]
    exact h.placed b s' hs'
  · intro b
    have := congrArg (List.map AddrKey.canon) (hkeys b)
    rw [List.map_map, List.map_map] at this
    exact this ▸ h.unique b

lemma Slots.link {t : BindTable} (h : Slots t) (n : ℕ) (hnew : bindFind t key = none) :
    Slots (t.link { key, count := n }) := by
  constructor
  · intro b s hs
    rw [link_buckets] at hs
    split at hs
    · next hb =>
      rcases List.mem_cons.mp hs with rfl | hs
      · exact hb.symm
      · exact h.placed _ s hs
    · exact h.placed b s hs
  · intro b
    rw [link_buckets]
    split
    · next hb =>
      rw [List.map_cons, List.nodup_cons]
      refine ⟨fun hm => ?_, h.unique _⟩
      obtain ⟨s, hs, he⟩ := List.mem_map.mp hm
      rw [hb] at hs
      exact List.find?_eq_none.mp hnew s hs ((bindKeyEqual_iff _ _).mpr he)
    · exact h.unique b

def liveAny (live : List AddrKey) (p : Port) : ℕ := live.countP fun r => r.port = p && bindKeyIsAny r

def liveSpecific (live : List AddrKey) (p : Port) : ℕ := live.countP fun r => r.port = p && !bindKeyIsAny r

def liveOn (live : List AddrKey) (p : Port) : ℕ := live.countP fun r => r.port = p

def liveKey (live : List AddrKey) (key : AddrKey) : ℕ := live.countP fun r => bindKeyEqual r key

lemma liveAny_add_liveSpecific (live : List AddrKey) (p : Port) :
    liveAny live p + liveSpecific live p = liveOn live p := by
  induction live with
  | nil => rfl
  | cons r live ih =>
    simp only [liveAny, liveSpecific, liveOn, List.countP_cons] at ih ⊢
    cases decide (r.port = p) <;> cases bindKeyIsAny r <;> simp <;> omega

lemma liveKey_le (live : List AddrKey) (key : AddrKey) : liveKey live key ≤ liveOn live key.port := by
  refine List.countP_mono_left fun r _ h => ?_
  exact decide_eq_true (port_congr ((bindKeyEqual_iff _ _).mp h))

lemma liveKey_congr (live : List AddrKey) (h : a.canon = b.canon) : liveKey live a = liveKey live b := by
  refine List.countP_congr fun r _ => ?_
  rw [bindKeyEqual_iff, bindKeyEqual_iff, h]

lemma liveKey_cons (live : List AddrKey) (r key : AddrKey) :
    liveKey (r :: live) key = if key.canon = r.canon then liveKey live r + 1 else liveKey live key := by
  rw [liveKey, List.countP_cons]
  split
  · next h =>
    rw [if_pos ((bindKeyEqual_iff _ _).mp h).symm]
    exact congrArg (· + 1) (liveKey_congr live ((bindKeyEqual_iff _ _).mp h).symm)
  · next h =>
    rw [if_neg fun he => h ((bindKeyEqual_iff _ _).mpr he.symm)]
    rfl

def portWord (live : List AddrKey) (p : Port) : ℕ := liveAny live p * 2 ^ 32 + liveSpecific live p

lemma portWord_cons (live : List AddrKey) (r : AddrKey) (p : Port) :
    portWord (r :: live) p = if p = r.port then portWord live r.port + bindOne r else portWord live p := by
  simp only [portWord, liveAny, liveSpecific, List.countP_cons, bindOne]
  by_cases hp : p = r.port
  · subst hp
    cases bindKeyIsAny r <;> simp <;> omega
  · simp [hp, Ne.symm hp]

lemma portWord_lt {live : List AddrKey} {p : Port} (h : liveOn live p < 2 ^ 32) : portWord live p < 2 ^ 64 := by
  have := liveAny_add_liveSpecific live p
  rw [portWord]
  omega

structure Accounts (t : BindTable) (live : List AddrKey) : Prop where
  slots : Slots t
  ports : ∀ p, t.ports p = portWord live p
  counts : ∀ key, t.slotCount key = liveKey live key

def FewLive (live : List AddrKey) : Prop := ∀ p, liveOn live p < 2 ^ 32

lemma Accounts.perm {t : BindTable} {live live' : List AddrKey} (h : Accounts t live) (hp : live.Perm live') :
    Accounts t live' where
  slots := h.slots
  ports p := by
    rw [h.ports, portWord, portWord, liveAny, liveAny, liveSpecific, liveSpecific, hp.countP_eq, hp.countP_eq]
  counts key := by rw [h.counts, liveKey, liveKey, hp.countP_eq]

def SameCounts (t t' : BindTable) : Prop := t.ports = t'.ports ∧ ∀ key, t.slotCount key = t'.slotCount key

lemma Accounts.same {t t' : BindTable} {live : List AddrKey} (h : Accounts t live) (h' : Accounts t' live) :
    SameCounts t t' :=
  ⟨funext fun p => (h.ports p).trans (h'.ports p).symm, fun key => (h.counts key).trans (h'.counts key).symm⟩

section Reserve

variable {t : BindTable} {live : List AddrKey}

def portReserved (t : BindTable) (key : AddrKey) : BindTable :=
  { t with ports := Function.update t.ports key.port ((t.ports key.port + bindOne key) % 2 ^ 64) }

lemma bindPortReserve_eq {t' : BindTable} {reuse : Bool}
    (h : bindPortReserve t key reuse = some t') : t' = portReserved t key := by
  rw [bindPortReserve] at h
  split at h
  · cases h
  · exact (Option.some.inj h).symm

lemma portReserved_slots (h : Slots t) (key : AddrKey) : Slots (portReserved t key) := h.of_buckets rfl

lemma portReserved_ports (t : BindTable) (key : AddrKey) (p : Port) :
    (portReserved t key).ports p =
      if p = key.port then (t.ports key.port + bindOne key) % 2 ^ 64 else t.ports p := by
  rcases eq_or_ne p key.port with rfl | hp
  · rw [if_pos rfl]
    exact Function.update_self ..
  · rw [if_neg hp]
    exact Function.update_of_ne hp ..

lemma bindOne_le (key : AddrKey) : bindOne key ≤ 2 ^ 32 := by
  rw [bindOne]
  split <;> omega

lemma release_reserved (hw : t.ports key.port < 2 ^ 64) : bindPortRelease (portReserved t key) key = t := by
  have hone := bindOne_le key
  have hword : ((t.ports key.port + bindOne key) % 2 ^ 64 + 2 ^ 64 - bindOne key) % 2 ^ 64 = t.ports key.port := by
    omega
  rw [bindPortRelease, portReserved]
  simp only [Function.update_self, hword, Function.update_idem, Function.update_eq_self]

lemma reserved_ports (h : Accounts t live) {r : AddrKey} (hr : r.canon = key.canon)
    (hfew : FewLive (r :: live)) (p : Port) : (portReserved t key).ports p = portWord (r :: live) p := by
  have hport := port_congr hr
  have hone : bindOne r = bindOne key := by rw [bindOne, isAny_congr hr, bindOne]
  have hcons := portWord_cons live r
  have hlt := portWord_lt (hfew key.port)
  rw [hcons, if_pos hport.symm, hport, hone] at hlt
  rw [portReserved_ports, hcons, hport, hone, h.ports, h.ports, Nat.mod_eq_of_lt hlt]

lemma liveKey_lt (hfew : FewLive live) (key : AddrKey) : liveKey live key < 2 ^ 32 :=
  lt_of_le_of_lt (liveKey_le live key) (hfew key.port)

lemma accounts_count (h : Accounts t live) {slot : BindSlot} (hslot : bindFind t key = some slot)
    (hfew : FewLive (slot.key :: live)) :
    Accounts ((portReserved t key).count key fun c => (c + 1) % 2 ^ 32) (slot.key :: live) := by
  have hr : slot.key.canon = key.canon := bindFind_key hslot
  refine ⟨(portReserved_slots h.slots key).count key _, fun p => reserved_ports h hr hfew p, fun key' => ?_⟩
  have hfind : (bindFind (portReserved t key) key).isSome := Option.isSome_iff_exists.mpr ⟨slot, hslot⟩
  have hlt := liveKey_lt hfew slot.key
  have hcount : ∀ k, (portReserved t key).slotCount k = liveKey live k := h.counts
  rw [liveKey_cons, if_pos rfl] at hlt
  rw [slotCount_count _ _ _ hfind, liveKey_cons, hr, hcount, hcount, liveKey_congr live hr.symm,
    Nat.mod_eq_of_lt hlt]

lemma accounts_link (h : Accounts t live) (hnone : bindFind t key = none)
    (hfew : FewLive (key :: live)) : Accounts ((portReserved t key).link { key, count := 1 }) (key :: live) := by
  refine ⟨(portReserved_slots h.slots key).link 1 hnone, fun p => reserved_ports h rfl hfew p, fun key' => ?_⟩
  have hzero : liveKey live key = 0 := by
    rw [← h.counts, BindTable.slotCount, hnone]
    rfl
  have hcount : (portReserved t key).slotCount key' = liveKey live key' := h.counts key'
  rw [slotCount_link, liveKey_cons, hzero, hcount]

lemma bindReserve_spec (h : Accounts t live) (hlive : FewLive live) (key : AddrKey) (reuse alloc : Bool) :
    (bindReserve t key reuse alloc = (t, none)) ∨
      ∃ r, (bindReserve t key reuse alloc).2 = some r ∧ r.canon = key.canon ∧
        (FewLive (r :: live) → Accounts (bindReserve t key reuse alloc).1 (r :: live)) := by
  have hback : bindPortRelease (portReserved t key) key = t :=
    release_reserved (h.ports key.port ▸ portWord_lt (hlive key.port))
  rw [bindReserve]
  split
  · exact .inl rfl
  next t' hres =>
  obtain rfl := bindPortReserve_eq hres
  split
  · next slot hslot =>
    split
    · exact .inl (by rw [hback])
    · exact .inr ⟨slot.key, rfl, bindFind_key hslot, accounts_count h hslot⟩
  · next hnone =>
    split
    · exact .inr ⟨key, rfl, rfl, accounts_link h hnone⟩
    · exact .inl (by rw [hback])

lemma bindRelease_spec {r : AddrKey} (h : Accounts t (r :: live)) (hfew : FewLive (r :: live)) :
    Accounts (bindRelease t r) live := by
  have hcons := liveKey_cons live r
  have hfind : (bindFind t r).isSome := by
    by_contra hn
    have hc := h.counts r
    rw [hcons, if_pos rfl, BindTable.slotCount, Option.not_isSome_iff_eq_none.mp hn] at hc
    simp at hc
  have hlt := liveKey_lt hfew r
  rw [hcons, if_pos rfl] at hlt
  refine ⟨(h.slots.count r _).of_buckets rfl, fun p => ?_, fun key => ?_⟩
  · have hw := h.ports r.port
    have hlt64 := portWord_lt (hfew r.port)
    have hone := bindOne_le r
    rw [portWord_cons, if_pos rfl] at hw hlt64
    change Function.update t.ports r.port ((t.ports r.port + 2 ^ 64 - bindOne r) % 2 ^ 64) p = _
    rcases eq_or_ne p r.port with rfl | hp
    · rw [Function.update_self, hw]
      omega
    · rw [Function.update_of_ne hp, h.ports, portWord_cons, if_neg hp]
  · change (t.count r _).slotCount key = _
    have hown := h.counts r
    have hother := h.counts key
    rw [hcons, if_pos rfl] at hown
    rw [hcons] at hother
    rw [slotCount_count t _ key hfind, hown, hother]
    split
    · next hk =>
      rw [liveKey_congr live hk]
      omega
    · rfl

end Reserve

structure Binds where
  table : BindTable
  live : List AddrKey

inductive BindEvent
  | reserve (key : AddrKey) (reuse alloc : Bool)
  | release (slot : AddrKey)

def bindStep (s : Binds) : BindEvent → Binds
  | .reserve key reuse alloc =>
    match bindReserve s.table key reuse alloc with
    | (t, none) => { s with table := t }
    | (t, some r) => { table := t, live := r :: s.live }
  | .release slot =>
    if slot ∈ s.live then { table := bindRelease s.table slot, live := s.live.erase slot } else s

def emptyBinds : Binds := { table := { buckets := fun _ => [], ports := fun _ => 0 }, live := [] }

def BindInv (s : Binds) : Prop := Accounts s.table s.live ∧ FewLive s.live

lemma bindStep_inv (s : Binds) (e : BindEvent) (h : BindInv s) (hfew : FewLive (bindStep s e).live) :
    BindInv (bindStep s e) := by
  refine ⟨?_, hfew⟩
  obtain ⟨hacc, hlive⟩ := h
  cases e with
  | reserve key reuse alloc =>
    rw [bindStep] at hfew ⊢
    rcases bindReserve_spec hacc hlive key reuse alloc with hn | ⟨r, hr, -, hok⟩
    · rw [hn]
      exact hacc
    · obtain ⟨t', hres⟩ : ∃ t', bindReserve s.table key reuse alloc = (t', some r) := ⟨_, Prod.ext rfl hr⟩
      rw [hres] at hok hfew ⊢
      exact hok hfew
  | release slot =>
    rw [bindStep]
    split
    · next hmem =>
      have hp := List.perm_cons_erase hmem
      refine bindRelease_spec (hacc.perm hp) fun p => ?_
      rw [liveOn, ← hp.countP_eq]
      exact hlive p
    · exact hacc

lemma bindInv_empty : BindInv emptyBinds := by
  refine ⟨⟨⟨fun _ _ h => (List.not_mem_nil h).elim, fun _ => List.nodup_nil⟩, fun p => ?_, fun key => ?_⟩, fun p => ?_⟩
  · simp [emptyBinds, portWord, liveAny, liveSpecific]
  · simp [emptyBinds, BindTable.slotCount, bindFind, liveKey]
  · exact Nat.two_pow_pos 32

/-- With fewer than 2^32 live reservations per port, the counters are exact in every state of a run, a
failed reservation changes none of them and a release takes back its reservation. -/
theorem bind_table_accounts (es : List BindEvent)
    (hfew : Meets bindStep (fun s e => FewLive (bindStep s e).live) emptyBinds es) :
    let s := run bindStep emptyBinds es
    Accounts s.table s.live ∧ ∀ key reuse alloc,
      ((bindReserve s.table key reuse alloc).2 = none → SameCounts s.table (bindReserve s.table key reuse alloc).1) ∧
      ∀ r, (bindReserve s.table key reuse alloc).2 = some r → FewLive (r :: s.live) →
        SameCounts s.table (bindRelease (bindReserve s.table key reuse alloc).1 r) := by
  obtain ⟨hacc, hlive⟩ := run_invariant bindStep_inv bindInv_empty hfew
  refine ⟨hacc, fun key reuse alloc => ?_⟩
  rcases bindReserve_spec hacc hlive key reuse alloc with hn | ⟨r', hr', -, hok⟩
  · rw [hn]
    exact ⟨fun _ => ⟨rfl, fun _ => rfl⟩, fun r hr => absurd hr (by simp)⟩
  · rw [hr']
    refine ⟨fun hr => absurd hr (by simp), fun r hr hf => ?_⟩
    obtain rfl := Option.some.inj hr
    exact hacc.same (bindRelease_spec (hok hf) hf)

def httpAny : AddrKey := { addr := .v4 0, port := 80 }

def httpRun : List BindEvent := [.reserve httpAny false true, .reserve httpAny false true, .release httpAny]

lemma fewLive_of_length {live : List AddrKey} (h : live.length < 2 ^ 32) : FewLive live :=
  fun _ => lt_of_le_of_lt List.countP_le_length h

theorem bind_table_accounts_http : Accounts (run bindStep emptyBinds httpRun).table [] :=
  (bind_table_accounts httpRun ⟨fewLive_of_length (by decide), fewLive_of_length (by decide),
    fewLive_of_length (by decide), trivial⟩).1

end Netfast.Socket
