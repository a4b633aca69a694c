import Netfast.Ip.Header

/-! `skb_checksum` of `main/skbuff.c`: the odd byte at the end of a data_info waits for the next one. However
the bytes are cut, the result is the one's complement checksum of the pseudo header and the bytes. -/

namespace Netfast.Checksum

open Bytes Skbuff Ip

-- `none` once the 32-bit accumulator has overflowed
def add32 (sum word : ℕ) : Option ℕ := if sum + word < 2 ^ 32 then some (sum + word) else none

def checksumPartial : List UInt8 → ℕ → Option ℕ
  | [], sum => some sum
  | [b], sum => add32 sum b.toNat
  | b :: c :: bs, sum => (add32 sum (b.toNat + c.toNat * 256)).bind (checksumPartial bs)

def sumEven (pending : Option UInt8) (data : List UInt8) (sum : ℕ) : Option (ℕ × Option UInt8) :=
  let even := data.length / 2 * 2
  (checksumPartial (data.take even) sum).map fun sum => (sum, (data.drop even).head?.or pending)

def sumPiece (pending : Option UInt8) (data : List UInt8) (sum : ℕ) : Option (ℕ × Option UInt8) :=
  match pending, data with
  | some p, b :: data => (checksumPartial [p, b] sum).bind (sumEven none data)
  | pending, data => sumEven pending data sum

def checksumLoop : List DataInfo → ℕ → Option UInt8 → ℕ → Option (ℕ × Option UInt8)
  | [], _, pending, sum => some (sum, pending)
  | di :: rest, len, pending, sum =>
    if len = 0 then some (sum, pending)
    else (sumPiece pending (di.data.take len) sum).bind fun r => checksumLoop rest (len - di.data.length) r.2 r.1

def skbChecksum (skb : SkBuff) (len startSum : ℕ) : Option ℕ :=
  (checksumLoop skb.infos len none startSum).bind fun r =>
    (checksumPartial r.2.toList r.1).map fun sum => 65535 - foldSum sum

def pseudoChecksum (fields : List (List UInt8)) (skb : Option SkBuff) (len : ℕ) : Option ℕ :=
  (fields.foldlM (fun sum field => checksumPartial field sum) 0).bind fun sum =>
    match skb with
    | none => some (65535 - checksum [] sum)
    | some skb => skbChecksum skb len sum

def htons (n : ℕ) : List UInt8 := [UInt8.ofNat (n / 256), UInt8.ofNat n]

def htonl (n : ℕ) : List UInt8 := htons (n / 65536) ++ htons n

def pseudoFields (len : ℕ) (saddr daddr : Vector UInt8 4) (protocol : UInt8) : List (List UInt8) :=
  [saddr.toList, daddr.toList, [0, protocol], htons len]

def pseudoFields6 (len : ℕ) (saddr daddr : Vector UInt8 16) (protocol : UInt8) : List (List UInt8) :=
  [saddr.toList, daddr.toList, htonl len, [0, 0, 0, protocol]]

def skbChecksumProtocol (skb : Option SkBuff) (len : ℕ) (saddr daddr : Vector UInt8 4) (protocol : UInt8) : Option ℕ :=
  pseudoChecksum (pseudoFields len saddr daddr protocol) skb len

def skbChecksumProtocol6 (skb : Option SkBuff) (len : ℕ) (saddr daddr : Vector UInt8 16) (protocol : UInt8) :
    Option ℕ :=
  pseudoChecksum (pseudoFields6 len saddr daddr protocol) skb len

/-! The specification: words in network order, each addition with its end-around carry. -/

def onesAdd (a b : ℕ) : ℕ := if a + b < 65536 then a + b else a + b - 65535

def onesSum : List UInt8 → ℕ
  | [] => 0
  | [b] => b.toNat * 256
  | b :: c :: bs => onesAdd (b.toNat * 256 + c.toNat) (onesSum bs)

def internetChecksum (bs : List UInt8) : ℕ := 65535 - onesSum bs

-- the value a reader in network order sees in a word the host has stored
def ntohs (n : ℕ) : ℕ := n % 256 * 256 + n / 256

lemma onesSum_spec : (bs : List UInt8) → onesSum bs ≤ 65535 ∧ onesSum bs % 65535 = 256 * wordSum bs % 65535 ∧
    (onesSum bs = 0 ↔ wordSum bs = 0)
  | [] => by decide
  | [b] => by
    have hb := b.toNat_lt
    simp only [onesSum, wordSum]
    omega
  | b :: c :: bs => by
    obtain ⟨hle, hmod, hzero⟩ := onesSum_spec bs
    have hb := b.toNat_lt
    have hc := c.toNat_lt
    simp only [onesSum, wordSum, onesAdd]
    split <;> omega

-- swapping the bytes of a word multiplies it by 256 modulo 65535
lemma ntohs_foldSum {bs : List UInt8} (h : wordSum bs < 2 ^ 32) :
    ntohs (65535 - foldSum (wordSum bs)) = internetChecksum bs := by
  obtain ⟨hle, hmod, hzero⟩ := onesSum_spec bs
  have hfold := foldSum_le h
  have hsame : foldSum (wordSum bs) % 65535 = wordSum bs % 65535 := by rw [foldSum, fold16_mod, fold16_mod]
  have hpos : 0 < wordSum bs → 0 < foldSum (wordSum bs) := fun hw => fold16_pos (fold16_pos hw)
  have hnil : wordSum bs = 0 → foldSum (wordSum bs) = 0 := by
    intro hw
    rw [hw]
    rfl
  rw [ntohs, internetChecksum]
  omega

/-! The sums of the program. -/

variable {data : List UInt8} {pending : Option UInt8} {sum len : ℕ}

lemma checksumPartial_eq : (bs : List UInt8) → {sum : ℕ} → sum + wordSum bs < 2 ^ 32 →
    checksumPartial bs sum = some (sum + wordSum bs)
  | [], _, _ => rfl
  | [_], _, h => if_pos h
  | b :: c :: bs, sum, h => by
    rw [wordSum, ← Nat.add_assoc] at h ⊢
    rw [checksumPartial, add32, if_pos (by omega), Option.bind_some, checksumPartial_eq bs h]

lemma wordSum_append : {xs : List UInt8} → (ys : List UInt8) → xs.length % 2 = 0 →
    wordSum (xs ++ ys) = wordSum xs + wordSum ys
  | [], _, _ => (Nat.zero_add _).symm
  | [_], _, h => by simp at h
  | b :: c :: xs, ys, h => by
    simp only [List.length_cons] at h
    have ih := wordSum_append ys (show xs.length % 2 = 0 by omega)
    simp only [List.cons_append, wordSum, ih, Nat.add_assoc]

lemma wordSum_le_append : (xs ys : List UInt8) → wordSum xs ≤ wordSum (xs ++ ys)
  | [], _ => Nat.zero_le _
  | [b], ys => by
    cases ys with
    | nil => exact Nat.le_refl _
    | cons c ys =>
      simp only [List.cons_append, List.nil_append, wordSum]
      omega
  | b :: c :: xs, ys => by
    have ih := wordSum_le_append xs ys
    simp only [List.cons_append, wordSum]
    omega

lemma sumEven_spec (h : sum + wordSum data < 2 ^ 32) : ∃ r, sumEven none data sum = some r ∧
    ∀ rest, r.1 + wordSum (r.2.toList ++ rest) = sum + wordSum (data ++ rest) := by
  have heven : (data.take (data.length / 2 * 2)).length % 2 = 0 := by
    rw [List.length_take]
    omega
  have hodd : (data.drop (data.length / 2 * 2)).head?.toList = data.drop (data.length / 2 * 2) := by
    have hlen : (data.drop (data.length / 2 * 2)).length ≤ 1 := by
      rw [List.length_drop]
      omega
    rcases hd : data.drop (data.length / 2 * 2) with _ | ⟨b, _ | ⟨c, rest⟩⟩
    · rfl
    · rfl
    · rw [hd] at hlen
      simp at hlen
  have hsplit := List.take_append_drop (data.length / 2 * 2) data
  have hle := wordSum_le_append (data.take (data.length / 2 * 2)) (data.drop (data.length / 2 * 2))
  rw [hsplit] at hle
  refine ⟨_, by rw [sumEven, checksumPartial_eq _ (by omega), Option.map_some], fun rest => ?_⟩
  rw [Option.or_none, hodd, Nat.add_assoc, ← wordSum_append _ heven, ← List.append_assoc, hsplit]

lemma sumPiece_spec (h : sum + wordSum (pending.toList ++ data) < 2 ^ 32) : ∃ r, sumPiece pending data sum = some r ∧
    ∀ rest, r.1 + wordSum (r.2.toList ++ rest) = sum + wordSum (pending.toList ++ data ++ rest) := by
  cases pending with
  | none =>
    cases data <;> exact sumEven_spec h
  | some p =>
    cases data with
    | nil => exact ⟨(sum, some p), rfl, fun rest => rfl⟩
    | cons b data =>
      have hlt : sum + wordSum [p, b] + wordSum data < 2 ^ 32 := by
        simp only [Option.toList_some, List.cons_append, List.nil_append, wordSum] at h ⊢
        omega
      obtain ⟨r, hr, hrest⟩ := sumEven_spec hlt
      refine ⟨r, ?_, fun rest => ?_⟩
      · rw [sumPiece, checksumPartial_eq _ (by omega), Option.bind_some, hr]
      · rw [hrest, Nat.add_assoc, ← wordSum_append (data ++ rest) (by simp : [p, b].length % 2 = 0)]
        rfl

lemma checksumLoop_spec (ds : List DataInfo) (pending : Option UInt8)
    (h : sum + wordSum (pending.toList ++ (flatten ds).take len) < 2 ^ 32) :
    ∃ r, checksumLoop ds len pending sum = some r ∧
      r.1 + wordSum r.2.toList = sum + wordSum (pending.toList ++ (flatten ds).take len) := by
  induction ds generalizing len pending sum with
  | nil => exact ⟨(sum, pending), rfl, by simp⟩
  | cons d ds ih =>
    rw [checksumLoop]
    split_ifs with hl
    · exact ⟨(sum, pending), rfl, by simp [hl]⟩
    · rw [flatten_cons, List.take_append, ← List.append_assoc] at h ⊢
      have hle := wordSum_le_append (pending.toList ++ d.data.take len) ((flatten ds).take (len - d.data.length))
      obtain ⟨r, hr, hrest⟩ := sumPiece_spec (Nat.lt_of_le_of_lt (Nat.add_le_add_left hle sum) h)
      rw [← hrest] at h ⊢
      rw [hr, Option.bind_some]
      exact ih r.2 h

lemma skbChecksum_eq {skb : SkBuff} (h : sum + wordSum (skb.payload.take len) < 2 ^ 32) :
    skbChecksum skb len sum = some (65535 - foldSum (sum + wordSum (skb.payload.take len))) := by
  obtain ⟨r, hr, hsum⟩ := checksumLoop_spec skb.infos none h
  have hlt : r.1 + wordSum r.2.toList < 2 ^ 32 := hsum ▸ h
  rw [skbChecksum, hr, Option.bind_some, checksumPartial_eq _ hlt, Option.map_some, hsum]
  rfl

lemma foldlM_checksumPartial (sum : ℕ) (fields : List (List UInt8)) (heven : ∀ f ∈ fields, f.length % 2 = 0)
    (h : sum + wordSum fields.flatten < 2 ^ 32) :
    fields.foldlM (fun sum field => checksumPartial field sum) sum = some (sum + wordSum fields.flatten) := by
  induction fields generalizing sum with
  | nil => rfl
  | cons f fields ih =>
    rw [List.flatten_cons, wordSum_append _ (heven f List.mem_cons_self), ← Nat.add_assoc] at h ⊢
    rw [List.foldlM_cons, checksumPartial_eq f (by omega)]
    exact ih _ (fun g hg => heven g (List.mem_cons_of_mem f hg)) h

lemma pseudoChecksum_eq {skb : SkBuff} (h : skbDataLen skb ≤ 65535) (fields : List (List UInt8))
    (heven : ∀ f ∈ fields, f.length % 2 = 0) {n : ℕ} (hn : n ≤ 20) (hlen : fields.flatten.length = 2 * n) :
    (pseudoChecksum fields (some skb) len).map ntohs =
      some (internetChecksum (fields.flatten ++ skb.payload.take len)) := by
  have hsum := wordSum_append (skb.payload.take len) (show fields.flatten.length % 2 = 0 by omega)
  have hlt : wordSum (fields.flatten ++ skb.payload.take len) < 2 ^ 32 := by
    have hle := two_mul_wordSum_le (fields.flatten ++ skb.payload.take len)
    rw [skbDataLen] at h
    rw [List.length_append, List.length_take] at hle
    omega
  have hpseudo := foldlM_checksumPartial 0 fields heven (by omega)
  rw [Nat.zero_add] at hpseudo
  rw [pseudoChecksum, hpseudo, Option.bind_some]
  change (skbChecksum skb len (wordSum fields.flatten)).map ntohs = _
  rw [skbChecksum_eq (by omega), Option.map_some, ← hsum, ntohs_foldSum hlt]

/-- However a packet's bytes are cut, the accumulator does not overflow and the checksum of any number of them,
behind either pseudo header or none, is that of the bytes in one piece. -/
theorem skb_checksum_of_any_cut (skb : SkBuff) (len : ℕ) (h : skbDataLen skb ≤ 65535) :
    (skbChecksum skb len 0).map ntohs = some (internetChecksum (skb.payload.take len)) ∧
      (∀ saddr daddr protocol, (skbChecksumProtocol (some skb) len saddr daddr protocol).map ntohs =
        some (internetChecksum ((pseudoFields len saddr daddr protocol).flatten ++ skb.payload.take len))) ∧
      ∀ saddr daddr protocol, (skbChecksumProtocol6 (some skb) len saddr daddr protocol).map ntohs =
        some (internetChecksum ((pseudoFields6 len saddr daddr protocol).flatten ++ skb.payload.take len)) := by
  refine ⟨pseudoChecksum_eq h [] (by simp) (Nat.zero_le 20) rfl, fun saddr daddr protocol => ?_,
    fun saddr daddr protocol => ?_⟩
  · exact pseudoChecksum_eq h _ (by simp [pseudoFields, htons]) (n := 6) (by decide) (by simp [pseudoFields, htons])
  · exact pseudoChecksum_eq h _ (by simp [pseudoFields6, htonl, htons]) (Nat.le_refl 20)
      (by simp [pseudoFields6, htonl, htons])

def oddPieces : SkBuff where
  seq := 0
  flag := {}
  infos := [⟨0, [1], 8⟩, ⟨0, [], 8⟩, ⟨0, [2, 3, 4], 8⟩, ⟨0, [5], 8⟩]

theorem skb_checksum_odd_pieces : skbDataLen oddPieces ≤ 65535 ∧
    (skbChecksum oddPieces 3 0).map ntohs = some (internetChecksum [1, 2, 3]) :=
  ⟨by decide, (skb_checksum_of_any_cut oddPieces 3 (by decide)).1⟩

end Netfast.Checksum
