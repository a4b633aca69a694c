import Mathlib.Algebra.Ring.Nat

/-! Unsigned machine arithmetic with its faults: a result that does not fit, a difference below zero and a division
by zero have no value. -/

namespace Netfast.Checked

def word (w n : ℕ) : Option ℕ := if n < 2 ^ w then some n else none

def minus (a b : ℕ) : Option ℕ := if b ≤ a then some (a - b) else none

def quot (a b : ℕ) : Option ℕ := if b = 0 then none else some (a / b)

def rem (a b : ℕ) : Option ℕ := if b = 0 then none else some (a % b)

variable {α : Type} {w n a b : ℕ}

lemma word_bind (h : n < 2 ^ w) (f : ℕ → Option α) : (word w n >>= f) = f n := by
  rw [word, if_pos h]
  rfl

lemma minus_bind (h : b ≤ a) (f : ℕ → Option α) : (minus a b >>= f) = f (a - b) := by
  rw [minus, if_pos h]
  rfl

lemma quot_bind (h : 0 < b) (f : ℕ → Option α) : (quot a b >>= f) = f (a / b) := by
  rw [quot, if_neg (Nat.ne_of_gt h)]
  rfl

lemma rem_bind (h : 0 < b) (f : ℕ → Option α) : (rem a b >>= f) = f (a % b) := by
  rw [rem, if_neg (Nat.ne_of_gt h)]
  rfl

lemma some_bind (a : α) {β : Type} (f : α → Option β) : (some a >>= f) = f a := rfl

lemma word_eq (h : n < 2 ^ w) : word w n = some n := if_pos h

end Netfast.Checked
