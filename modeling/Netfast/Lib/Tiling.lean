import Mathlib.Algebra.BigOperators.Group.List.Basic
import Mathlib.Algebra.Ring.Nat

/-! Lists of segments that tile an interval of positions: each carries the label of the position it
starts at, none is empty, and each starts where the one before ends. -/

namespace Netfast.Tiling

variable {α G : Type*} (place : ℕ → G) (first : α → G) (len : α → ℕ)

def Tiles : ℕ → List α → ℕ → Prop
  | a, [], b => a = b
  | a, x :: xs, b => first x = place a ∧ 0 < len x ∧ Tiles (a + len x) xs b

variable {place first len} {a b c : ℕ} {x : α} {xs ys : List α}

lemma tiles_append : Tiles place first len a (xs ++ ys) c ↔
    ∃ b, Tiles place first len a xs b ∧ Tiles place first len b ys c := by
  induction xs generalizing a with
  | nil => simp [Tiles]
  | cons x xs ih => simp only [List.cons_append, Tiles, ih, exists_and_left, and_assoc]

lemma tiles_concat : Tiles place first len a (xs ++ [x]) c ↔
    ∃ b, Tiles place first len a xs b ∧ first x = place b ∧ 0 < len x ∧ b + len x = c := by
  rw [tiles_append]
  rfl

lemma Tiles.sum (h : Tiles place first len a xs b) : a + (xs.map len).sum = b := by
  induction xs generalizing a with
  | nil => exact h
  | cons x xs ih => rw [List.map_cons, List.sum_cons, ← Nat.add_assoc, ih h.2.2]

lemma Tiles.le (h : Tiles place first len a xs b) : a ≤ b := h.sum ▸ Nat.le_add_right a _

lemma Tiles.pos (h : Tiles place first len a xs b) (hx : x ∈ xs) : 0 < len x := by
  induction xs generalizing a with
  | nil => cases hx
  | cons y ys ih =>
    rcases List.mem_cons.mp hx with rfl | hx
    · exact h.2.1
    · exact ih h.2.2 hx

lemma Tiles.ne_nil (h : Tiles place first len a xs b) (hab : a < b) : xs ≠ [] := by
  rintro rfl
  exact Nat.ne_of_lt hab h

lemma Tiles.lt (h : Tiles place first len a xs b) (hne : xs ≠ []) : a < b := by
  cases xs with
  | nil => exact absurd rfl hne
  | cons x xs =>
    have hle := h.2.2.le
    have hpos := h.2.1
    omega

end Netfast.Tiling
