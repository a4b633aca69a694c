import Mathlib.Data.Nat.Bitwise
import Netfast.Lib.Bytes
import Netfast.SkbHeader

/-! The IPv4 header, as bytes at the start of `data0`, and its checksum. -/

namespace Netfast.Ip

open Bytes

def ipv4Hl (ip : List UInt8) : ℕ := (ip.getD 0 0).toNat % 16 * 4

def ipv4TotLen (ip : List UInt8) : ℕ := be16 ip 2

def ipv4FragField (ip : List UInt8) : ℕ := be16 ip 6

-- IPV4_FRAG_DF, IPV4_FRAG_MF and IPV4_FRAG_OFF_MASK of the field
def fragDf (field : ℕ) : Bool := decide (field &&& 0x4000 ≠ 0)

def fragMf (field : ℕ) : Bool := decide (field &&& 0x2000 ≠ 0)

def fragOff (field : ℕ) : ℕ := field &&& 0x1FFF

-- ipv4_is_frag
def ipv4IsFrag (ip : List UInt8) : Bool := decide (fragOff (ipv4FragField ip) ≠ 0) || fragMf (ipv4FragField ip)

lemma fragOff_eq (v : ℕ) : fragOff v = v % 8192 := Nat.and_two_pow_sub_one_eq_mod v 13

lemma fragOff_lt (v : ℕ) : fragOff v < 8192 := by
  rw [fragOff_eq]
  exact Nat.mod_lt _ (by decide)

private lemma and_two_pow_ne_zero (v i : ℕ) : v &&& 2 ^ i ≠ 0 ↔ v.testBit i = true := by
  rw [Nat.and_two_pow]
  cases v.testBit i <;> simp

lemma fragMf_eq (v : ℕ) : fragMf v = v.testBit 13 := by
  rw [fragMf, Bool.eq_iff_iff, decide_eq_true_iff]
  exact and_two_pow_ne_zero v 13

lemma fragDf_eq (v : ℕ) : fragDf v = v.testBit 14 := by
  rw [fragDf, Bool.eq_iff_iff, decide_eq_true_iff]
  exact and_two_pow_ne_zero v 14

lemma fragField_off {n : ℕ} (h : n < 8192) : fragOff n = n ∧ fragMf n = false ∧ fragDf n = false := by
  rw [fragOff_eq, fragMf_eq, fragDf_eq]
  exact ⟨Nat.mod_eq_of_lt h, Nat.testBit_lt_two_pow h, Nat.testBit_lt_two_pow (by omega)⟩

lemma fragField_more {n : ℕ} (h : n < 8192) :
    fragOff (n ||| 0x2000) = n ∧ fragMf (n ||| 0x2000) = true ∧ fragDf (n ||| 0x2000) = false := by
  have he : n ||| 0x2000 = 8192 + n := by
    rw [Nat.lor_comm]
    exact (Nat.two_pow_add_eq_or_of_lt (i := 13) h 1).symm
  refine ⟨?_, ?_, ?_⟩
  · rw [fragOff_eq, he]
    omega
  · rw [fragMf_eq, Nat.testBit_or]
    simp [show Nat.testBit 0x2000 13 = true from rfl]
  · rw [fragDf_eq, he]
    exact Nat.testBit_lt_two_pow (by omega)

/-! `checksum` of `lib/base.c`: the words of the host are summed, the carries folded back in. -/

def fold16 (sum : ℕ) : ℕ := if sum < 65536 then sum else sum % 65536 + sum / 65536

def foldSum (sum : ℕ) : ℕ := fold16 (fold16 sum)

def checksum (bs : List UInt8) (startSum : ℕ) : ℕ := 65535 - foldSum ((startSum + wordSum bs) % 2 ^ 32)

variable {sum : ℕ}

lemma foldSum_le (h : sum < 2 ^ 32) : foldSum sum ≤ 65535 := by
  simp only [foldSum, fold16]
  split_ifs <;> omega

lemma fold16_mod (sum : ℕ) : fold16 sum % 65535 = sum % 65535 := by
  rw [fold16]
  split <;> omega

lemma fold16_pos (h : 0 < sum) : 0 < fold16 sum := by
  rw [fold16]
  split <;> omega

lemma foldSum_eq (h : 0 < sum) (hlt : sum < 2 ^ 32) (hz : sum % 65535 = 0) : foldSum sum = 65535 := by
  have hle := foldSum_le hlt
  have hpos : 0 < foldSum sum := fold16_pos (fold16_pos h)
  have hmod : foldSum sum % 65535 = 0 := by rw [foldSum, fold16_mod, fold16_mod, hz]
  omega

-- the checksum field is zeroed and filled in with the checksum of the result
def putCheck (hdr : List UInt8) : List UInt8 :=
  let zeroed := putBe16 hdr 10 0
  putLe16 zeroed 10 (checksum zeroed 0)

@[simp] lemma putCheck_length (hdr : List UInt8) : (putCheck hdr).length = hdr.length := by simp [putCheck]

variable {hdr : List UInt8}

lemma putCheck_getD {j : ℕ} (h : j ≠ 10) (h' : j ≠ 11) : (putCheck hdr).getD j 0 = hdr.getD j 0 := by
  rw [putCheck, putLe16_getD_of_ne h h', putBe16_getD_of_ne h h']

lemma be16_putCheck {j : ℕ} (h : j + 1 < 10) : be16 (putCheck hdr) j = be16 hdr j := by
  rw [putCheck, be16_putLe16_of_ne (by omega), be16_putBe16_of_ne (by omega)]

lemma checksum_putCheck (h : 12 ≤ hdr.length) (hlen : hdr.length ≤ 65536) : checksum (putCheck hdr) 0 = 0 := by
  set z := putBe16 hdr 10 0 with hz
  have hzlen : z.length = hdr.length := by simp [hz]
  have hle := two_mul_wordSum_le z
  have hsmall : wordSum z < 2 ^ 32 := by
    rw [hzlen] at hle
    omega
  have hzero : le16 z 10 = 0 := by
    have h₁ : z.getD 10 0 = 0 := by
      rw [hz, putBe16, getD_set, if_neg (by omega), getD_set, if_pos ⟨rfl, by omega⟩]
      rfl
    have h₂ : z.getD 11 0 = 0 := by
      rw [hz, putBe16, getD_set, if_pos ⟨rfl, by rw [List.length_set]; omega⟩]
      rfl
    rw [le16, h₁, h₂]
    rfl
  have hfold := foldSum_le hsmall
  have hmod : foldSum (wordSum z) % 65535 = wordSum z % 65535 := by rw [foldSum, fold16_mod, fold16_mod]
  have hcheck : checksum z 0 = 65535 - foldSum (wordSum z) := by
    rw [checksum, Nat.zero_add, Nat.mod_eq_of_lt hsmall]
  have hsum := wordSum_putLe16 (v := checksum z 0) 5 z (by omega)
  rw [show 2 * 5 = 10 from rfl, hzero, Nat.add_zero, hcheck, Nat.mod_eq_of_lt (by omega : _ < 65536), ← hcheck]
    at hsum
  have hput : putCheck hdr = putLe16 z 10 (checksum z 0) := rfl
  -- the sum is now a positive multiple of 65535
  have hpos : 0 < wordSum (putCheck hdr) := by
    rcases Nat.eq_zero_or_pos (wordSum z) with hw | hw
    · rw [hput, hsum, hcheck, hw, show foldSum 0 = 0 from rfl]
      omega
    · rw [hput, hsum]
      omega
  have hlt : wordSum (putCheck hdr) < 2 ^ 32 := by
    have := two_mul_wordSum_le (putCheck hdr)
    rw [putCheck_length] at this
    omega
  rw [checksum, Nat.zero_add, Nat.mod_eq_of_lt hlt, foldSum_eq hpos hlt]
  rw [hput, hsum, hcheck]
  omega

end Netfast.Ip
