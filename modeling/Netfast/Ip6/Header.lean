import Netfast.Lib.Bytes
import Netfast.SkbHeader

/-! The fixed header, the Fragment header, and the walk over the extension headers that looks for one
(`find_frag_header` of `main/ipv6_ext.c`). -/

namespace Netfast.Ip6

open Bytes Skbuff

def ipv6HdrLen : ℕ := 40

def ipv6NextHdr (ip : List UInt8) : UInt8 := ip.getD 6 0

def ipv6PayloadLen (ip : List UInt8) : ℕ := be16 ip 4

def nexthdrHopopt : UInt8 := 0

def nexthdrRouting : UInt8 := 43

def nexthdrFrag : UInt8 := 44

def nexthdrNonext : UInt8 := 59

def nexthdrDstopts : UInt8 := 60

structure FragHdr where
  nextHdr : UInt8
  reserved : UInt8
  fragOff : ℕ
  id : ℕ
deriving DecidableEq

def fragHdrLen : ℕ := 8

def readFragHdr (bs : List UInt8) : FragHdr :=
  { nextHdr := bs.getD 0 0, reserved := bs.getD 1 0, fragOff := be16 bs 2, id := be32 bs 4 }

def FragHdr.bytes (h : FragHdr) : List UInt8 :=
  putBe16 (putBe16 (putBe16 [h.nextHdr, h.reserved, 0, 0, 0, 0, 0, 0] 2 h.fragOff) 4 (h.id / 65536)) 6 h.id

-- the offset in units of eight bytes, above two reserved bits and the flag M
def FragHdr.offset8 (h : FragHdr) : ℕ := h.fragOff / 8

def FragHdr.more (h : FragHdr) : Bool := decide (h.fragOff % 2 = 1)

def FragHdr.reservedSet (h : FragHdr) : Bool := decide (h.fragOff / 2 % 4 ≠ 0) || decide (h.reserved ≠ 0)

-- skb_copy_bits, which fails when the bytes are not all there
def copyBits (b : SkBuff) (off n : ℕ) : Option (List UInt8) :=
  if skbDataLen b < off + n then none else some (skbCopyBits b off n)

def isVariableExtHeader (nh : UInt8) : Bool := nh = nexthdrHopopt || nh = nexthdrDstopts || nh = nexthdrRouting

-- the length of such a header, from its second byte
def extHdrLen (ext : List UInt8) : ℕ := ((ext.getD 1 0).toNat + 1) * 8

structure FragInfo where
  header : FragHdr
  offset : ℕ
  previousNhOffset : ℕ
deriving DecidableEq

def findLoop (b : SkBuff) : ℕ → UInt8 → ℕ → ℕ → Option FragInfo
  | 0, _, _, _ => none
  | k + 1, nh, offset, previous =>
    if nh = nexthdrFrag then
      (copyBits b offset fragHdrLen).map fun bs => { header := readFragHdr bs, offset, previousNhOffset := previous }
    else if isVariableExtHeader nh then
      match copyBits b offset 2 with
      | none => none
      | some ext =>
        if skbDataLen b - offset < extHdrLen ext then none
        else findLoop b k (ext.getD 0 0) (offset + extHdrLen ext) offset
    else none

-- the walk ends after eight headers
def extHdrMax : ℕ := 8

def findFragHeader (b : SkBuff) : Option FragInfo :=
  if skbDataLen b < ipv6HdrLen then none else findLoop b extHdrMax (ipv6NextHdr b.data0) ipv6HdrLen 6

def ipv6HasFrag (b : SkBuff) : Bool := (findFragHeader b).isSome

variable {b : SkBuff} {h : FragHdr}

@[simp] lemma fragHdr_bytes_length : h.bytes.length = fragHdrLen := by simp [FragHdr.bytes, fragHdrLen]

lemma readFragHdr_bytes (t : List UInt8) (hoff : h.fragOff < 65536) (hid : h.id < 2 ^ 32) :
    readFragHdr (h.bytes ++ t) = h := by
  have hlen : h.bytes.length = 8 := fragHdr_bytes_length
  have hnext : (h.bytes ++ t).getD 0 0 = h.nextHdr := by
    rw [getD_append_left (by omega), FragHdr.bytes, putBe16_getD_of_ne (by decide) (by decide),
      putBe16_getD_of_ne (by decide) (by decide), putBe16_getD_of_ne (by decide) (by decide)]
    rfl
  have hres : (h.bytes ++ t).getD 1 0 = h.reserved := by
    rw [getD_append_left (by omega), FragHdr.bytes, putBe16_getD_of_ne (by decide) (by decide),
      putBe16_getD_of_ne (by decide) (by decide), putBe16_getD_of_ne (by decide) (by decide)]
    rfl
  have hfrag : be16 (h.bytes ++ t) 2 = h.fragOff := by
    rw [be16_append_left (by omega), FragHdr.bytes, be16_putBe16_of_ne (by decide), be16_putBe16_of_ne (by decide),
      be16_putBe16 (by simp), Nat.mod_eq_of_lt hoff]
  have hhigh : be16 (h.bytes ++ t) 4 = h.id / 65536 := by
    rw [be16_append_left (by omega), FragHdr.bytes, be16_putBe16_of_ne (by decide), be16_putBe16 (by simp)]
    omega
  have hlow : be16 (h.bytes ++ t) (4 + 2) = h.id % 65536 := by
    rw [be16_append_left (by omega), FragHdr.bytes, be16_putBe16 (by simp)]
  rw [readFragHdr, hnext, hres, hfrag, be32, hhigh, hlow]
  have hsum : h.id / 65536 * 65536 + h.id % 65536 = h.id := by omega
  rw [hsum]

lemma copyBits_eq {off n : ℕ} (h : off + n ≤ skbDataLen b) : copyBits b off n = some ((b.payload.drop off).take n) := by
  rw [copyBits, if_neg (Nat.not_lt.mpr h), skbCopyBits_eq]

lemma findFragHeader_of_carries {fixed chunk : List UInt8} (hc : Carries b (fixed ++ h.bytes) chunk)
    (hlen : fixed.length = ipv6HdrLen) (hnext : ipv6NextHdr fixed = nexthdrFrag) (hoff : h.fragOff < 65536)
    (hid : h.id < 2 ^ 32) :
    findFragHeader b = some { header := h, offset := ipv6HdrLen, previousNhOffset := 6 } := by
  have hbytes : h.bytes.length = fragHdrLen := fragHdr_bytes_length
  have htotal : skbDataLen b = ipv6HdrLen + fragHdrLen + chunk.length := by
    rw [skbDataLen, hc.payload, List.length_append, List.length_append, hlen, hbytes]
  have hnh : ipv6NextHdr b.data0 = nexthdrFrag := by
    obtain ⟨t, ht⟩ := hc.data0
    rw [← hnext, ht, List.append_assoc, ipv6NextHdr, getD_append_left (by rw [hlen]; decide), ipv6NextHdr]
  have hread : copyBits b ipv6HdrLen fragHdrLen = some h.bytes := by
    rw [copyBits_eq (by omega), hc.payload, List.append_assoc, List.drop_left' hlen, ← hbytes, List.take_left]
  have hself : readFragHdr h.bytes = h := by
    have := readFragHdr_bytes [] hoff hid
    rwa [List.append_nil] at this
  rw [findFragHeader, if_neg (by omega), hnh, extHdrMax, findLoop, if_pos rfl, hread, Option.map_some, hself]

end Netfast.Ip6
