import Mathlib.Data.List.Basic
import Mathlib.Algebra.Ring.Nat

/-! Sixteen-bit fields in a string of bytes. -/

namespace Netfast.Bytes

def be16 (bs : List UInt8) (i : ℕ) : ℕ := (bs.getD i 0).toNat * 256 + (bs.getD (i + 1) 0).toNat

def be32 (bs : List UInt8) (i : ℕ) : ℕ := be16 bs i * 65536 + be16 bs (i + 2)

def putBe16 (bs : List UInt8) (i v : ℕ) : List UInt8 :=
  (bs.set i (UInt8.ofNat (v / 256))).set (i + 1) (UInt8.ofNat v)

def le16 (bs : List UInt8) (i : ℕ) : ℕ := (bs.getD i 0).toNat + (bs.getD (i + 1) 0).toNat * 256

def putLe16 (bs : List UInt8) (i v : ℕ) : List UInt8 :=
  (bs.set i (UInt8.ofNat v)).set (i + 1) (UInt8.ofNat (v / 256))

variable {bs cs : List UInt8} {i j v : ℕ}

@[simp] lemma putBe16_length : (putBe16 bs i v).length = bs.length := by simp [putBe16]

@[simp] lemma putLe16_length : (putLe16 bs i v).length = bs.length := by simp [putLe16]

lemma be16_lt : be16 bs i < 65536 := by
  have h₁ := (bs.getD i 0).toNat_lt
  have h₂ := (bs.getD (i + 1) 0).toNat_lt
  rw [be16]
  omega

lemma getD_set (b : UInt8) : (bs.set i b).getD j 0 = if i = j ∧ j < bs.length then b else bs.getD j 0 := by
  rw [List.getD_eq_getElem?_getD, List.getD_eq_getElem?_getD, List.getElem?_set]
  by_cases hij : i = j
  · subst hij
    by_cases hi : i < bs.length
    · simp [hi]
    · simp [hi]
  · simp [hij]

lemma putBe16_getD_of_ne (h : j ≠ i) (h' : j ≠ i + 1) : (putBe16 bs i v).getD j 0 = bs.getD j 0 := by
  rw [putBe16, getD_set, getD_set, if_neg (fun hc => h' hc.1.symm), if_neg (fun hc => h hc.1.symm)]

lemma putLe16_getD_of_ne (h : j ≠ i) (h' : j ≠ i + 1) : (putLe16 bs i v).getD j 0 = bs.getD j 0 := by
  rw [putLe16, getD_set, getD_set, if_neg (fun hc => h' hc.1.symm), if_neg (fun hc => h hc.1.symm)]

lemma be16_putBe16 (h : i + 1 < bs.length) : be16 (putBe16 bs i v) i = v % 65536 := by
  have h₁ : (putBe16 bs i v).getD i 0 = UInt8.ofNat (v / 256) := by
    rw [putBe16, getD_set, if_neg (by omega), getD_set, if_pos ⟨rfl, by omega⟩]
  have h₂ : (putBe16 bs i v).getD (i + 1) 0 = UInt8.ofNat v := by
    rw [putBe16, getD_set, if_pos ⟨rfl, by simpa using h⟩]
  rw [be16, h₁, h₂, UInt8.toNat_ofNat', UInt8.toNat_ofNat']
  omega

lemma be16_putBe16_of_ne (h : j + 1 < i ∨ i + 1 < j) : be16 (putBe16 bs i v) j = be16 bs j := by
  rw [be16, putBe16_getD_of_ne (by omega) (by omega), putBe16_getD_of_ne (by omega) (by omega), be16]

lemma be16_putLe16_of_ne (h : j + 1 < i ∨ i + 1 < j) : be16 (putLe16 bs i v) j = be16 bs j := by
  rw [be16, putLe16_getD_of_ne (by omega) (by omega), putLe16_getD_of_ne (by omega) (by omega), be16]

lemma ext_getD (hlen : bs.length = cs.length) (h : ∀ j < bs.length, bs.getD j 0 = cs.getD j 0) : bs = cs := by
  refine List.ext_getElem hlen fun j h₁ h₂ => ?_
  simpa [h₁, h₂] using h j h₁

lemma getD_append_left (h : i < bs.length) : (bs ++ cs).getD i 0 = bs.getD i 0 := by
  simp [List.getD_eq_getElem?_getD, List.getElem?_append_left h]

lemma getD_take {n : ℕ} (h : i < n) : (bs.take n).getD i 0 = bs.getD i 0 := by
  simp [List.getD_eq_getElem?_getD, h]

lemma getD_drop {n : ℕ} : (bs.drop n).getD i 0 = bs.getD (n + i) 0 := by
  simp [List.getD_eq_getElem?_getD]

lemma be16_append_left (h : i + 1 < bs.length) : be16 (bs ++ cs) i = be16 bs i := by
  rw [be16, be16, getD_append_left (by omega), getD_append_left h]

lemma be16_inj (h : be16 bs i = be16 cs i) : bs.getD i 0 = cs.getD i 0 ∧ bs.getD (i + 1) 0 = cs.getD (i + 1) 0 := by
  have h₁ := (bs.getD (i + 1) 0).toNat_lt
  have h₂ := (cs.getD (i + 1) 0).toNat_lt
  rw [be16, be16] at h
  exact ⟨UInt8.toNat_inj.mp (by omega), UInt8.toNat_inj.mp (by omega)⟩

def wordSum : List UInt8 → ℕ
  | [] => 0
  | [b] => b.toNat
  | b :: c :: bs => b.toNat + c.toNat * 256 + wordSum bs

lemma two_mul_wordSum_le : (bs : List UInt8) → 2 * wordSum bs ≤ 65535 * (bs.length + 1)
  | [] => Nat.zero_le _
  | [b] => by
    have := b.toNat_lt
    simp only [wordSum, List.length_cons, List.length_nil]
    omega
  | b :: c :: bs => by
    have h := two_mul_wordSum_le bs
    have hb := b.toNat_lt
    have hc := c.toNat_lt
    simp only [wordSum, List.length_cons]
    omega

lemma wordSum_putLe16 (k : ℕ) : (bs : List UInt8) → 2 * k + 1 < bs.length →
    wordSum (putLe16 bs (2 * k) v) + le16 bs (2 * k) = wordSum bs + v % 65536 := by
  induction k with
  | zero =>
    rintro (_ | ⟨b, _ | ⟨c, bs⟩⟩) h
    · simp at h
    · simp at h
    · simp only [putLe16, le16, wordSum, Nat.mul_zero, Nat.zero_add, List.set_cons_zero, List.set_cons_succ,
        List.getD_cons_zero, List.getD_cons_succ, UInt8.toNat_ofNat']
      omega
  | succ k ih =>
    rintro (_ | ⟨b, _ | ⟨c, bs⟩⟩) h
    · simp at h
    · simp at h
    · simp only [List.length_cons] at h
      have hk : 2 * (k + 1) = 2 * k + 1 + 1 := by omega
      have hbs := ih bs (by omega)
      simp only [putLe16, le16, hk, List.set_cons_succ, List.getD_cons_succ, wordSum] at hbs ⊢
      omega

end Netfast.Bytes
