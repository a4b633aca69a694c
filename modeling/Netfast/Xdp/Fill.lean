import Mathlib.Algebra.Ring.Nat
import Mathlib.Order.Basic
import Netfast.Lib.Run

/-! `umem_refill_fq`: the frames given to the kernel over the fill ring. The counters are those of `xsk_ring_prod`,
without the wrap that the size of the ring divides. -/

namespace Netfast.Xdp

open Run

def xdpFillQueueSize : ℕ := 2048

/-- `xsk_ring_prod` with the words it shares with the kernel; `taken` is every frame taken from the pool for it. -/
structure FillRing where
  cachedProd : ℕ := 0
  cachedCons : ℕ := xdpFillQueueSize
  producer : ℕ := 0
  consumer : ℕ := 0
  cells : ℕ → Option ℕ := fun _ => none
  taken : List ℕ := []

def xskProdNbFree (r : FillRing) (nb : ℕ) : ℕ × FillRing :=
  if nb ≤ r.cachedCons - r.cachedProd then (r.cachedCons - r.cachedProd, r)
  else (r.consumer + xdpFillQueueSize - r.cachedProd, { r with cachedCons := r.consumer + xdpFillQueueSize })

-- the number of entries reserved and the first of them
def xskRingProdReserve (r : FillRing) (nb : ℕ) : ℕ × ℕ × FillRing :=
  let (free, r) := xskProdNbFree r nb
  if free < nb then (0, 0, r) else (nb, r.cachedProd, { r with cachedProd := r.cachedProd + nb })

def FillRing.write (r : FillRing) (p frame : ℕ) : FillRing :=
  { r with
    cells := Function.update r.cells (p % xdpFillQueueSize) (some frame)
    taken := r.taken ++ [frame] }

-- `k` of the `n` entries are still to be written; `alloc i` is what the i-th `frame_slot_alloc` returns
def fillLoop (alloc : ℕ → Option ℕ) (idx n : ℕ) : ℕ → FillRing → FillRing × Bool
  | 0, r => (r, true)
  | k + 1, r =>
    match alloc (n - (k + 1)) with
    | none => ({ r with cachedProd := r.cachedProd - (k + 1) }, false)
    | some frame => fillLoop alloc idx n k (r.write (idx + (n - (k + 1))) frame)

def umemRefillFq (r : FillRing) (alloc : ℕ → Option ℕ) : FillRing :=
  let (n, r) := xskProdNbFree r xdpFillQueueSize
  if n = 0 then r
  else
    let (n, idx, r) := xskRingProdReserve r n
    if n = 0 then r
    else
      match fillLoop alloc idx n n r with
      | (r, false) => r
      | (r, true) => { r with producer := r.producer + n }

inductive FillEvent
  | refill (alloc : ℕ → Option ℕ)
  | consume (k : ℕ)

def fillStep (r : FillRing) : FillEvent → FillRing
  | .refill alloc => umemRefillFq r alloc
  | .consume k => { r with consumer := min (r.consumer + k) r.producer }

/-- Every frame taken is published, and every entry that is published and not consumed was written with the frame taken
for it. -/
structure Handed (r : FillRing) : Prop where
  published : r.producer = r.cachedProd
  all : r.taken.length = r.producer
  written : ∀ p, r.consumer ≤ p → p < r.producer → r.cells (p % xdpFillQueueSize) = r.taken[p]?

/-- No frame is taken, or as many as there are free entries. -/
def AllOrNone (r : FillRing) : FillEvent → Prop
  | .refill alloc => alloc 0 = none ∨ ∀ i < (xskProdNbFree r xdpFillQueueSize).1, alloc i ≠ none
  | .consume _ => True

structure FillInv (r : FillRing) : Prop where
  length : r.taken.length = r.cachedProd
  prod : r.producer ≤ r.cachedProd
  cons : r.consumer ≤ r.producer
  lead : r.cachedProd ≤ r.cachedCons
  room : r.cachedCons ≤ r.consumer + xdpFillQueueSize
  filled : ∀ p, r.consumer ≤ p → p < r.taken.length → r.cells (p % xdpFillQueueSize) = r.taken[p]?

variable {r : FillRing} {alloc : ℕ → Option ℕ}

lemma FillInv.handed (h : FillInv r) (hp : r.producer = r.cachedProd) : Handed r :=
  ⟨hp, h.length.trans hp.symm, fun p hc hlt => h.filled p hc (by rw [h.length, ← hp]; exact hlt)⟩

lemma mod_ne {p q : ℕ} (hlt : p < q) (hq : q < p + xdpFillQueueSize) : p % xdpFillQueueSize ≠ q % xdpFillQueueSize := by
  rw [xdpFillQueueSize] at *
  omega

lemma write_filled {frame : ℕ} (hr : r.taken.length < r.consumer + xdpFillQueueSize)
    (h : ∀ p, r.consumer ≤ p → p < r.taken.length → r.cells (p % xdpFillQueueSize) = r.taken[p]?) :
    ∀ p, r.consumer ≤ p → p < (r.write r.taken.length frame).taken.length →
      (r.write r.taken.length frame).cells (p % xdpFillQueueSize) = (r.write r.taken.length frame).taken[p]? := by
  intro p hc hp
  simp only [FillRing.write, List.length_append, List.length_singleton] at hp ⊢
  by_cases he : p = r.taken.length
  · rw [he, Function.update_self, List.getElem?_concat_length]
  · have hlt : p < r.taken.length := by omega
    rw [Function.update_of_ne (mod_ne hlt (by omega)), List.getElem?_append_left hlt]
    exact h p hc hlt

-- what the loop leaves: `j` more entries are written, all that were left or up to the first failure
structure Wrote (alloc : ℕ → Option ℕ) (n k j : ℕ) (r r' : FillRing) : Prop where
  length : r'.taken.length = r.taken.length + j
  same : r'.producer = r.producer ∧ r'.consumer = r.consumer ∧ r'.cachedCons = r.cachedCons
  given : ∀ i < j, alloc (n - k + i) ≠ none
  filled : ∀ p, r'.consumer ≤ p → p < r'.taken.length → r'.cells (p % xdpFillQueueSize) = r'.taken[p]?

lemma fillLoop_spec (alloc : ℕ → Option ℕ) (idx : ℕ) {n k : ℕ} (hk : k ≤ n) (hl : r.taken.length = idx + (n - k))
    (hr : idx + n ≤ r.consumer + xdpFillQueueSize)
    (hf : ∀ p, r.consumer ≤ p → p < r.taken.length → r.cells (p % xdpFillQueueSize) = r.taken[p]?) :
    ∃ j r', Wrote alloc n k j r r' ∧
      ((j = k ∧ fillLoop alloc idx n k r = (r', true) ∧ r'.cachedProd = r.cachedProd) ∨
        (j < k ∧ alloc (n - k + j) = none ∧ fillLoop alloc idx n k r = (r', false) ∧
          r'.cachedProd = r.cachedProd - (k - j))) := by
  induction k generalizing r with
  | zero => exact ⟨0, r, ⟨rfl, ⟨rfl, rfl, rfl⟩, nofun, hf⟩, .inl ⟨rfl, rfl, rfl⟩⟩
  | succ k ih =>
    cases ha : alloc (n - (k + 1)) with
    | none =>
      refine ⟨0, { r with cachedProd := r.cachedProd - (k + 1) }, ⟨rfl, ⟨rfl, rfl, rfl⟩, nofun, hf⟩, .inr ?_⟩
      exact ⟨Nat.succ_pos k, ha, by rw [fillLoop, ha], rfl⟩
    | some frame =>
      have hpos : n - k = n - (k + 1) + 1 := by omega
      obtain ⟨j, r', hw, hend⟩ := ih (r := r.write r.taken.length frame) (by omega)
        (by simp only [FillRing.write, List.length_append, List.length_singleton]; omega) hr (write_filled (by omega) hf)
      have hloop : fillLoop alloc idx n (k + 1) r = fillLoop alloc idx n k (r.write r.taken.length frame) := by
        rw [fillLoop, ha, hl]
      refine ⟨j + 1, r', ⟨?_, hw.same, fun i hi => ?_, hw.filled⟩, ?_⟩
      · rw [hw.length]
        simp only [FillRing.write, List.length_append, List.length_singleton]
        omega
      · cases i with
        | zero => simp [ha]
        | succ i =>
          have hg := hw.given i (by omega)
          rwa [hpos, Nat.add_assoc, Nat.add_comm 1 i] at hg
      · rw [hloop]
        rcases hend with ⟨rfl, he, hp⟩ | ⟨hj, hn, he, hp⟩
        · exact .inl ⟨rfl, he, hp⟩
        · refine .inr ⟨by omega, ?_, he, ?_⟩
          · rwa [hpos, Nat.add_assoc, Nat.add_comm 1 j] at hn
          · rw [hp, Nat.add_sub_add_right]
            rfl

lemma nbFree_spec (h : FillInv r) : FillInv (xskProdNbFree r xdpFillQueueSize).2 ∧
    (xskProdNbFree r xdpFillQueueSize).1 =
      (xskProdNbFree r xdpFillQueueSize).2.cachedCons - (xskProdNbFree r xdpFillQueueSize).2.cachedProd ∧
    (xskProdNbFree r xdpFillQueueSize).2.producer = r.producer ∧
    (xskProdNbFree r xdpFillQueueSize).2.cachedProd = r.cachedProd := by
  have hlead := h.lead
  have hroom := h.room
  rw [xskProdNbFree]
  split
  · exact ⟨h, rfl, rfl, rfl⟩
  · exact ⟨⟨h.length, h.prod, h.cons, hlead.trans hroom, le_rfl, h.filled⟩, rfl, rfl, rfl⟩

lemma reserve_spec {n : ℕ} (hn : n = r.cachedCons - r.cachedProd) :
    xskRingProdReserve r n = (n, r.cachedProd, { r with cachedProd := r.cachedProd + n }) := by
  rw [xskRingProdReserve, xskProdNbFree, if_pos hn.le]
  simp only [← hn, lt_irrefl, if_false]

lemma umemRefillFq_spec (h : FillInv r) (alloc : ℕ → Option ℕ) : FillInv (umemRefillFq r alloc) ∧
    (r.producer = r.cachedProd →
      ((umemRefillFq r alloc).producer = (umemRefillFq r alloc).cachedProd ↔ AllOrNone r (.refill alloc))) := by
  obtain ⟨h₁, hfree, hprod, hcached⟩ := nbFree_spec h
  rw [umemRefillFq, AllOrNone]
  rw [← hprod, ← hcached]
  clear hprod hcached h
  generalize xskProdNbFree r xdpFillQueueSize = f at *
  obtain ⟨n, r⟩ := f
  dsimp only at *
  have hlead := h₁.lead
  have hroom := h₁.room
  have hlen := h₁.length
  have hp := h₁.prod
  split
  · next hn => exact ⟨h₁, fun hpub => iff_of_true hpub (.inr (by rw [hn]; nofun))⟩
  next hn =>
  rw [reserve_spec hfree]
  dsimp only
  rw [if_neg hn]
  obtain ⟨j, r', hw, hend⟩ := fillLoop_spec alloc r.cachedProd (r := { r with cachedProd := r.cachedProd + n })
    (n := n) le_rfl (by dsimp only; omega) (by dsimp only; omega) h₁.filled
  obtain ⟨hsp, hsc, hscc⟩ := hw.same
  have hwl := hw.length
  have hgiven := hw.given
  have hcons := h₁.cons
  dsimp only at hsp hsc hscc hwl
  rw [Nat.sub_self] at hgiven
  rcases hend with ⟨rfl, he, hc⟩ | ⟨hj, hnone, he, hc⟩
  · rw [he]
    dsimp only at hc ⊢
    refine ⟨⟨by dsimp only; omega, by dsimp only; omega, by dsimp only; omega, by dsimp only; omega, by dsimp only; omega,
      hw.filled⟩, fun hpub => iff_of_true (by omega) (.inr fun i hi => ?_)⟩
    simpa using hgiven i hi
  · rw [he]
    dsimp only at hc ⊢
    rw [Nat.sub_self, Nat.zero_add] at hnone
    refine ⟨⟨by omega, by omega, by omega, by omega, by omega, hw.filled⟩, fun hpub => ⟨fun hpub' => ?_, fun hall => ?_⟩⟩
    · obtain rfl : j = 0 := by omega
      exact .inl hnone
    · rcases hall with h0 | hall
      · have hj0 : j = 0 := by
          by_contra hne
          exact hgiven 0 (by omega) (by simpa using h0)
        omega
      · exact absurd hnone (hall j hj)

lemma fillStep_spec (h : FillInv r) (e : FillEvent) : FillInv (fillStep r e) ∧
    (r.producer = r.cachedProd → ((fillStep r e).producer = (fillStep r e).cachedProd ↔ AllOrNone r e)) := by
  cases e with
  | refill alloc => exact umemRefillFq_spec h alloc
  | consume k =>
    have hcons := h.cons
    have hroom := h.room
    refine ⟨⟨h.length, h.prod, min_le_right _ _, h.lead, ?_, fun p hp hlt => h.filled p ?_ hlt⟩,
      fun hpub => iff_of_true hpub trivial⟩
    · dsimp only [fillStep]
      omega
    · dsimp only [fillStep] at hp
      omega

/-- The frames taken are published after every call exactly as long as no call runs out of frames half way. -/
theorem fill_ring_published_iff (es : List FillEvent) :
    (∀ es₁ es₂, es = es₁ ++ es₂ → Handed (run fillStep {} es₁)) ↔ Meets fillStep AllOrNone {} es := by
  have hgen (r : FillRing) (h : FillInv r) (hp : r.producer = r.cachedProd) :
      (∀ es₁ es₂, es = es₁ ++ es₂ → Handed (run fillStep r es₁)) ↔ Meets fillStep AllOrNone r es := by
    induction es generalizing r with
    | nil =>
      refine iff_of_true (fun es₁ es₂ he => ?_) trivial
      rw [(List.append_eq_nil_iff.mp he.symm).1]
      exact h.handed hp
    | cons e es ih =>
      obtain ⟨hi, hok⟩ := fillStep_spec h e
      constructor
      · intro hall
        have hp' := (hall [e] es rfl).published
        exact ⟨(hok hp).mp hp', (ih _ hi hp').mp fun es₁ es₂ he => hall (e :: es₁) es₂ (by rw [he]; rfl)⟩
      · rintro ⟨he, hes⟩ es₁ es₂ hsplit
        cases es₁ with
        | nil => exact h.handed hp
        | cons e' es₁ =>
          obtain ⟨rfl, htail⟩ := List.cons_eq_cons.mp hsplit
          exact (ih _ hi ((hok hp).mpr he)).mpr hes es₁ es₂ htail
  exact hgen {} ⟨rfl, le_rfl, le_rfl, Nat.zero_le _, le_rfl, nofun⟩ rfl

def oneFrame (i : ℕ) : Option ℕ := if i = 0 then some 0 else none

/-- The pool is empty after one frame: the frame is in the ring, and the kernel is not told. -/
theorem frame_taken_not_published :
    (run fillStep {} [.refill oneFrame]).taken = [0] ∧ (run fillStep {} [.refill oneFrame]).cachedProd = 1 ∧
      (run fillStep {} [.refill oneFrame]).producer = 0 ∧ ¬Handed (run fillStep {} [.refill oneFrame]) := by
  refine ⟨rfl, rfl, rfl, fun h => ?_⟩
  have hp : 0 = 1 := h.published
  cases hp

end Netfast.Xdp
