import Netfast.Lib.Ordered

/-! Collecting the pieces of a whole: each says where it starts, how long it is and whether more follow. They
come in any order and repeatedly, until the last one that was missing. -/

namespace Netfast.Collect

open Ordered

variable {γ : Type*} (start len : γ → ℕ) (more : γ → Bool)

inductive Spans : ℕ → ℕ → List γ → Prop
  | last {x : γ} (hm : more x = false) (hpos : 0 < len x) : Spans (start x) (start x + len x) [x]
  | more {x : γ} {b : ℕ} {xs : List γ} (hm : more x = true) (hpos : 0 < len x)
      (hrest : Spans (start x + len x) b xs) : Spans (start x) b (x :: xs)

variable {start len more} {a b : ℕ} {x y : γ} {xs ys : List γ}

lemma Spans.sum (h : Spans start len more a b xs) : a + (xs.map len).sum = b := by
  induction h with
  | last _ _ => simp
  | more _ _ _ ih => rw [List.map_cons, List.sum_cons, ← Nat.add_assoc, ih]

lemma Spans.mem (h : Spans start len more a b xs) (hx : x ∈ xs) : a ≤ start x ∧ 0 < len x ∧ start x + len x ≤ b := by
  induction h with
  | last _ hpos =>
    obtain rfl := List.mem_singleton.mp hx
    exact ⟨Nat.le_refl _, hpos, Nat.le_refl _⟩
  | more _ hpos hrest ih =>
    rcases List.mem_cons.mp hx with rfl | hx
    · have hle := hrest.sum
      exact ⟨Nat.le_refl _, hpos, by omega⟩
    · obtain ⟨h₁, h₂, h₃⟩ := ih hx
      exact ⟨by omega, h₂, h₃⟩

lemma Spans.ascending (h : Spans start len more a b xs) : Ascending start xs := by
  induction h with
  | last _ _ => exact List.pairwise_singleton _ _
  | more _ hpos hrest ih =>
    refine List.pairwise_cons.mpr ⟨fun y hy => ?_, ih⟩
    have hle := (hrest.mem hy).1
    omega

lemma Spans.disjoint (h : Spans start len more a b xs) (hx : x ∈ xs) (hy : y ∈ xs) (hxy : start x < start y + len y)
    (hyx : start y < start x + len x) : x = y := by
  induction h with
  | last _ _ => rw [List.mem_singleton.mp hx, List.mem_singleton.mp hy]
  | more _ _ hrest ih =>
    rcases List.mem_cons.mp hx with rfl | hx'
    · rcases List.mem_cons.mp hy with rfl | hy'
      · rfl
      · have hle := (hrest.mem hy').1
        omega
    · rcases List.mem_cons.mp hy with rfl | hy'
      · have hle := (hrest.mem hx').1
        omega
      · exact ih hx' hy'

lemma Spans.last_mem (h : Spans start len more a b xs) : ∃ x ∈ xs, more x = false := by
  induction h with
  | last hm _ => exact ⟨_, List.mem_singleton_self _, hm⟩
  | more _ _ _ ih =>
    obtain ⟨x, hx, hm⟩ := ih
    exact ⟨x, List.mem_cons_of_mem _ hx, hm⟩

lemma Spans.end (h : Spans start len more a b xs) (hx : x ∈ xs) (hm : more x = false) : start x + len x = b := by
  induction h with
  | last _ _ => rw [List.mem_singleton.mp hx]
  | more hm' _ _ ih =>
    rcases List.mem_cons.mp hx with rfl | hx
    · exact absurd (hm.symm.trans hm') (by decide)
    · exact ih hx

lemma Spans.head (h : Spans start len more a b xs) : ∃ x rest, xs = x :: rest ∧ start x = a ∧
    (rest = [] ∧ a + len x = b ∨ Spans start len more (a + len x) b rest) := by
  cases h with
  | last _ _ => exact ⟨_, [], rfl, rfl, Or.inl ⟨rfl, rfl⟩⟩
  | more _ _ hrest => exact ⟨_, _, rfl, rfl, Or.inr hrest⟩

variable (start len more) in
structure Counted (whole : ℕ) (xs : List γ) (n t : ℕ) (f l : Bool) : Prop where
  received : n = (xs.map len).sum
  first : f = true ↔ ∃ x ∈ xs, start x = 0
  last : l = true ↔ ∃ x ∈ xs, more x = false
  total : l = true → t = whole

variable {whole received total : ℕ} {first last : Bool} {p : γ → Bool}

lemma counted_nil (whole total : ℕ) : Counted start len more whole [] 0 total false false := by
  constructor <;> simp

lemma Counted.cons (h : Counted start len more whole xs received total first last) (hp : ys.Perm (x :: xs))
    (hend : more x = false → start x + len x = whole) :
    Counted start len more whole ys (received + len x) (if more x = true then total else start x + len x)
      (first || decide (start x = 0)) (last || !more x) := by
  constructor
  · rw [(hp.map len).sum_eq, List.map_cons, List.sum_cons, h.received, Nat.add_comm]
  · simp only [Bool.or_eq_true, decide_eq_true_eq, h.first, hp.mem_iff, List.mem_cons, or_and_right, exists_or,
      exists_eq_left]
    exact or_comm
  · simp only [Bool.or_eq_true, Bool.not_eq_true', h.last, hp.mem_iff, List.mem_cons, or_and_right, exists_or,
      exists_eq_left]
    exact or_comm
  · intro hlast
    cases hm : more x with
    | true =>
      rw [hm, Bool.not_true, Bool.or_false] at hlast
      exact h.total hlast
    | false => exact hend hm

lemma Counted.lt (h : Counted start len more b (xs.filter p) received total first last)
    (hs : Spans start len more 0 b xs) (hmiss : ∃ x ∈ xs, p x = false) (hlast : last = true) : received < total := by
  have hlt := sum_filter_lt (fun x hx => (hs.mem hx).2.1) hmiss
  have hsum := hs.sum
  rw [h.received, h.total hlast]
  omega

lemma Counted.all (h : Counted start len more b xs received total first last) (hs : Spans start len more 0 b xs) :
    first = true ∧ last = true ∧ received = b ∧ total = b := by
  obtain ⟨x, rest, rfl, hx, -⟩ := hs.head
  have hlast : last = true := h.last.mpr hs.last_mem
  refine ⟨h.first.mpr ⟨x, List.mem_cons_self, hx⟩, hlast, ?_, h.total hlast⟩
  rw [h.received, ← hs.sum, Nat.zero_add]

section Feed

variable {σ α β : Type*} [DecidableEq γ] (take : σ → α → σ × Option β) (piece : α → γ)

def feed : σ → List α → σ × List (Option β)
  | s, [] => (s, [])
  | s, a :: as => ((feed (take s a).1 as).1, (take s a).2 :: (feed (take s a).1 as).2)

variable {I : (γ → Bool) → σ → Prop} {ok : α → Prop} {y : γ}

theorem feed_waits (hrefuse : ∀ p s a, I p s → ok a → p (piece a) = true → (take s a).2 = none ∧ I p (take s a).1)
    (htake : ∀ p s a, I p s → ok a → p (piece a) = false → p y = false → piece a ≠ y →
      (take s a).2 = none ∧ I (fun x => p x || x = piece a) (take s a).1) {s : σ} (hs : I p s)
    (hy : p y = false) (as : List α) (has : ∀ a ∈ as, ok a ∧ piece a ≠ y) :
    (∀ o ∈ (feed take s as).2, o = none) ∧ I (fun x => p x || decide (x ∈ as.map piece)) (feed take s as).1 := by
  induction as generalizing s p with
  | nil =>
    have hsame : (fun x => p x || decide (x ∈ List.map piece [])) = p := by
      funext x
      simp
    refine ⟨fun o ho => absurd ho List.not_mem_nil, ?_⟩
    rw [hsame]
    exact hs
  | cons a as ih =>
    obtain ⟨hok, hne⟩ := has a List.mem_cons_self
    have has' : ∀ c ∈ as, ok c ∧ piece c ≠ y := fun c hc => has c (List.mem_cons_of_mem a hc)
    -- whether the piece is new or not, afterwards it has been taken
    have hstep : (take s a).2 = none ∧ I (fun x => p x || x = piece a) (take s a).1 := by
      cases hpa : p (piece a) with
      | true =>
        have hsame : (fun x => p x || x = piece a) = p := by
          funext x
          by_cases hx : x = piece a
          · simp [hx, hpa]
          · simp [hx]
        rw [hsame]
        exact hrefuse p s a hs hok hpa
      | false => exact htake p s a hs hok hpa hy hne
    obtain ⟨hnone, hnext⟩ := hstep
    obtain ⟨houts, hend⟩ := ih hnext (by simp [hy, Ne.symm hne]) has'
    refine ⟨fun o ho => ?_, ?_⟩
    · rcases List.mem_cons.mp ho with rfl | ho
      · exact hnone
      · exact houts o ho
    · have hsame : (fun x => (p x || decide (x = piece a)) || decide (x ∈ as.map piece)) =
          fun x => p x || decide (x ∈ List.map piece (a :: as)) := by
        funext x
        simp [Bool.or_assoc]
      rw [hsame] at hend
      exact hend

lemma seen_all {as : List α} {l : α} (hall : ∀ x ∈ xs, ∃ a ∈ as ++ [l], piece a = x) :
    ∀ x ∈ xs, ((false || decide (x ∈ as.map piece)) || x = piece l) = true := by
  intro x hx
  obtain ⟨a, ha, rfl⟩ := hall x hx
  rcases List.mem_append.mp ha with ha | ha
  · simp [List.mem_map_of_mem ha]
  · simp [List.mem_singleton.mp ha]

end Feed

end Netfast.Collect
