import Mathlib.Data.BitVec
import Mathlib.Tactic.Ring

/-! Serial-number arithmetic on 32-bit words: comparison by the sign of the difference, and the
words that label the positions of a stream counted from an initial word. -/

namespace Netfast.Serial

abbrev Word := BitVec 32

def lt (a b : Word) : Bool := (a - b).msb
def leq (a b : Word) : Bool := (a - b).msb || a == b
def gt (a b : Word) : Bool := !(a - b).msb && a != b
def geq (a b : Word) : Bool := !(a - b).msb

lemma lt_iff (a b : Word) : lt a b = true ↔ 2 ^ 31 ≤ (a - b).toNat := by
  simp [lt, BitVec.msb_eq_decide]

lemma geq_iff (a b : Word) : geq a b = true ↔ (a - b).toNat < 2 ^ 31 := by
  simp [geq, BitVec.msb_eq_decide]

lemma gt_iff (a b : Word) : gt a b = true ↔ 0 < (a - b).toNat ∧ (a - b).toNat < 2 ^ 31 := by
  have h : a = b ↔ (a - b).toNat = 0 := by bv_omega
  simp only [gt, BitVec.msb_eq_decide, Bool.and_eq_true, bne_iff_ne, ne_eq, h]
  simp only [Nat.add_one_sub_one, Bool.not_eq_eq_eq_not, Bool.not_true, decide_eq_false_iff_not]
  omega

lemma leq_iff (a b : Word) : leq a b = true ↔ (a - b).toNat = 0 ∨ 2 ^ 31 ≤ (a - b).toNat := by
  have h : a = b ↔ (a - b).toNat = 0 := by bv_omega
  simp only [leq, BitVec.msb_eq_decide, Bool.or_eq_true, beq_iff_eq, h, Nat.add_one_sub_one, decide_eq_true_eq]
  omega

def label (i : Word) (p : ℕ) : Word := i + BitVec.ofNat 32 p

@[simp] lemma label_zero (i : Word) : label i 0 = i := by simp [label]

lemma label_add (i : Word) (p n : ℕ) : label i p + BitVec.ofNat 32 n = label i (p + n) := by
  unfold label
  bv_omega

lemma label_label (i : Word) (p n : ℕ) : label (label i p) n = label i (p + n) :=
  label_add i p n

lemma label_sub (i : Word) {p q : ℕ} (h : q ≤ p) (hp : p < q + 2 ^ 32) : (label i p - label i q).toNat = p - q := by
  unfold label
  bv_omega

lemma label_sub_neg (i : Word) {p q : ℕ} (h : p < q) (hp : q ≤ p + 2 ^ 32) :
    (label i p - label i q).toNat = 2 ^ 32 - (q - p) := by
  unfold label
  bv_omega

lemma label_eq_of_sub {a b : Word} {n : ℕ} (h : (a - b).toNat = n) : a = label b n := by
  unfold label
  bv_omega

lemma label_inj (i : Word) {p q : ℕ} (h : p < q + 2 ^ 32) (h' : q < p + 2 ^ 32) : label i p = label i q ↔ p = q := by
  unfold label
  bv_omega

section Order

variable (i : Word) {p q : ℕ}

lemma lt_label (h : p < q + 2 ^ 31) (h' : q ≤ p + 2 ^ 31) : lt (label i p) (label i q) = true ↔ p < q := by
  rw [lt_iff]
  unfold label
  bv_omega

lemma geq_label (h : p < q + 2 ^ 31) (h' : q ≤ p + 2 ^ 31) : geq (label i p) (label i q) = true ↔ q ≤ p := by
  rw [geq_iff]
  unfold label
  bv_omega

lemma gt_label (h : p < q + 2 ^ 31) (h' : q ≤ p + 2 ^ 31) : gt (label i p) (label i q) = true ↔ q < p := by
  rw [gt_iff]
  unfold label
  bv_omega

lemma leq_label (h : p < q + 2 ^ 31) (h' : q ≤ p + 2 ^ 31) : leq (label i p) (label i q) = true ↔ p ≤ q := by
  rw [leq_iff]
  unfold label
  bv_omega

end Order

end Netfast.Serial
