import Mathlib.Algebra.BigOperators.Group.List.Basic
import Mathlib.Algebra.Ring.Nat

/-! Lists in strictly ascending order of a key, and insertion that refuses a key already there. -/

namespace Netfast.Ordered

variable {α β : Type*} (key : α → ℕ)

def insertNew (a : α) : List α → Option (List α)
  | [] => some [a]
  | b :: bs =>
    if key a < key b then some (a :: b :: bs)
    else if key b < key a then (insertNew a bs).map (b :: ·)
    else none

def Ascending (xs : List α) : Prop := xs.Pairwise fun a b => key a < key b

variable {key} {a b : α} {xs ys : List α}

lemma insertNew_perm (h : insertNew key a xs = some ys) : ys.Perm (a :: xs) := by
  induction xs generalizing ys with
  | nil => exact Option.some.inj h ▸ .refl _
  | cons b bs ih =>
    rw [insertNew] at h
    split at h
    · exact Option.some.inj h ▸ .refl _
    split at h
    · obtain ⟨cs, hcs, rfl⟩ := Option.map_eq_some_iff.mp h
      exact ((ih hcs).cons b).trans (.swap a b bs)
    · cases h

lemma insertNew_mem (h : insertNew key a xs = some ys) : b ∈ ys ↔ b = a ∨ b ∈ xs := by
  rw [(insertNew_perm h).mem_iff, List.mem_cons]

lemma insertNew_ascending (h : insertNew key a xs = some ys) (hs : Ascending key xs) : Ascending key ys := by
  induction xs generalizing ys with
  | nil => exact Option.some.inj h ▸ List.pairwise_singleton _ a
  | cons b bs ih =>
    obtain ⟨hb, hbs⟩ := List.pairwise_cons.mp hs
    rw [insertNew] at h
    split at h
    · next hab =>
      obtain rfl := Option.some.inj h
      refine List.pairwise_cons.mpr ⟨fun c hc => ?_, hs⟩
      rcases List.mem_cons.mp hc with rfl | hc
      · exact hab
      · exact Nat.lt_trans hab (hb c hc)
    split at h
    · next hba =>
      obtain ⟨cs, hcs, rfl⟩ := Option.map_eq_some_iff.mp h
      refine List.pairwise_cons.mpr ⟨fun c hc => ?_, ih hcs hbs⟩
      rcases (insertNew_mem hcs).mp hc with rfl | hc
      · exact hba
      · exact hb c hc
    · cases h

lemma insertNew_isSome (hs : Ascending key xs) : (insertNew key a xs).isSome ↔ ∀ b ∈ xs, key b ≠ key a := by
  induction xs with
  | nil => simp [insertNew]
  | cons b bs ih =>
    obtain ⟨hb, hbs⟩ := List.pairwise_cons.mp hs
    rw [insertNew]
    split
    · next hab =>
      refine iff_of_true rfl fun c hc => ?_
      rcases List.mem_cons.mp hc with rfl | hc
      · exact Nat.ne_of_gt hab
      · exact Nat.ne_of_gt (Nat.lt_trans hab (hb c hc))
    split
    · next hba =>
      rw [Option.isSome_map, ih hbs, List.forall_mem_cons]
      exact ⟨fun h => ⟨Nat.ne_of_lt hba, h⟩, fun h => h.2⟩
    · refine iff_of_false (by simp) fun h => h b List.mem_cons_self ?_
      omega

lemma insertNew_congr {key' : α → ℕ} (h : ∀ x ∈ xs, (key a < key x ↔ key' a < key' x) ∧ (key x < key a ↔ key' x < key' a)) :
    insertNew key a xs = insertNew key' a xs := by
  induction xs with
  | nil => rfl
  | cons b bs ih =>
    obtain ⟨h₁, h₂⟩ := h b List.mem_cons_self
    rw [insertNew, insertNew, ih fun x hx => h x (List.mem_cons_of_mem b hx)]
    simp only [h₁, h₂]

lemma insertNew_map (key : α → ℕ) (f : β → α) (b : β) (bs : List β) :
    (insertNew (fun x => key (f x)) b bs).map (List.map f) = insertNew key (f b) (bs.map f) := by
  induction bs with
  | nil => rfl
  | cons c cs ih =>
    rw [insertNew, List.map_cons, insertNew]
    split
    · rfl
    split
    · rw [← ih, Option.map_map, Option.map_map]
      rfl
    · rfl

lemma Ascending.inj (hs : Ascending key xs) (ha : a ∈ xs) (hb : b ∈ xs) (h : key a = key b) : a = b := by
  induction xs with
  | nil => cases ha
  | cons c cs ih =>
    obtain ⟨hc, hcs⟩ := List.pairwise_cons.mp hs
    rcases List.mem_cons.mp ha with hac | hac
    · rcases List.mem_cons.mp hb with hbc | hbc
      · rw [hac, hbc]
      · exact absurd (hac ▸ h) (Nat.ne_of_lt (hc b hbc))
    · rcases List.mem_cons.mp hb with hbc | hbc
      · exact absurd (hbc ▸ h) (Nat.ne_of_gt (hc a hac))
      · exact ih hcs hac hbc

/-! A part of a list: the members picked by `p`. -/

lemma Ascending.filter (hs : Ascending key xs) (p : α → Bool) : Ascending key (xs.filter p) :=
  List.Pairwise.filter p hs

variable {p : α → Bool}

lemma insertNew_filter [DecidableEq α] (hs : Ascending key xs) (ha : a ∈ xs) (hp : p a = false) :
    insertNew key a (xs.filter p) = some (xs.filter fun x => p x || x = a) := by
  induction xs with
  | nil => cases ha
  | cons b bs ih =>
    obtain ⟨hb, hbs⟩ := List.pairwise_cons.mp hs
    rcases List.mem_cons.mp ha with rfl | ha
    · have hsame : bs.filter (fun x => p x || x = a) = bs.filter p := by
        refine List.filter_congr fun x hx => ?_
        have hne : x ≠ a := fun he => Nat.lt_irrefl _ (he ▸ hb x hx)
        simp [hne]
      rw [List.filter_cons_of_neg (by simp [hp]), List.filter_cons_of_pos (by simp), hsame]
      cases hf : bs.filter p with
      | nil => rfl
      | cons c cs =>
        have hc : c ∈ bs := List.mem_of_mem_filter (hf ▸ List.mem_cons_self)
        rw [insertNew, if_pos (hb c hc)]
    · have hba := hb a ha
      have hne : b ≠ a := fun he => Nat.lt_irrefl _ (he ▸ hba)
      by_cases hpb : p b = true
      · rw [List.filter_cons_of_pos hpb, List.filter_cons_of_pos (by simp [hpb]), insertNew,
          if_neg (Nat.not_lt.mpr (Nat.le_of_lt hba)), if_pos hba, ih hbs ha]
        rfl
      · rw [List.filter_cons_of_neg hpb, List.filter_cons_of_neg (by simp [hpb, hne]), ih hbs ha]

lemma insertNew_filter_of_mem (hs : Ascending key xs) (ha : a ∈ xs) (hp : p a = true) :
    insertNew key a (xs.filter p) = none := by
  rw [← Option.not_isSome_iff_eq_none, insertNew_isSome (hs.filter p)]
  exact fun h => h a (List.mem_filter.mpr ⟨ha, hp⟩) rfl

lemma sum_filter_le (w : α → ℕ) (p : α → Bool) (xs : List α) : ((xs.filter p).map w).sum ≤ (xs.map w).sum := by
  induction xs with
  | nil => exact Nat.le_refl _
  | cons y ys ih =>
    by_cases hy : p y = true
    · simp only [List.filter_cons_of_pos hy, List.map_cons, List.sum_cons]
      omega
    · simp only [List.filter_cons_of_neg hy, List.map_cons, List.sum_cons]
      omega

lemma sum_filter_lt {w : α → ℕ} (hw : ∀ x ∈ xs, 0 < w x) (hp : ∃ x ∈ xs, p x = false) :
    ((xs.filter p).map w).sum < (xs.map w).sum := by
  induction xs with
  | nil =>
    obtain ⟨x, hx, -⟩ := hp
    cases hx
  | cons y ys ih =>
    have hpos := hw y List.mem_cons_self
    by_cases hy : p y = true
    · have hrest : ∃ x ∈ ys, p x = false := by
        obtain ⟨x, hx, hpx⟩ := hp
        rcases List.mem_cons.mp hx with rfl | hx
        · rw [hy] at hpx
          cases hpx
        · exact ⟨x, hx, hpx⟩
      have := ih (fun x hx => hw x (List.mem_cons_of_mem y hx)) hrest
      simp only [List.filter_cons_of_pos hy, List.map_cons, List.sum_cons]
      omega
    · have := sum_filter_le w p ys
      simp only [List.filter_cons_of_neg hy, List.map_cons, List.sum_cons]
      omega

lemma Ascending.length_le {n : ℕ} (hs : Ascending key xs) (hn : ∀ x ∈ xs, key x < n) : xs.length ≤ n := by
  have hbound (m : ℕ) (hm : ∀ x ∈ xs, m ≤ key x) : m + xs.length ≤ max m n := by
    induction xs generalizing m with
    | nil => exact Nat.le_max_left _ _
    | cons x xs ih =>
      obtain ⟨hx, hxs⟩ := List.pairwise_cons.mp hs
      have hxm := hm x List.mem_cons_self
      have hxn := hn x List.mem_cons_self
      have := ih hxs (fun y hy => hn y (List.mem_cons_of_mem x hy)) (m + 1)
        fun y hy => Nat.lt_of_le_of_lt hxm (hx y hy)
      rw [List.length_cons]
      omega
  have := hbound 0 fun x _ => Nat.zero_le _
  omega

end Netfast.Ordered
