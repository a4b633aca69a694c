import Netfast.Ip.Header

/-! Which worker a connection belongs to: `select_worker_by_tuple` of `lib/rss.c`, its callers that choose the owner of
a socket, and the software RSS of `ipv4_recv` that steers inbound packets. -/

namespace Netfast.Rss

open Bytes Skbuff

-- from the mask 0x80 down to 1
def byteBits (b : UInt8) : List Bool := [7, 6, 5, 4, 3, 2, 1, 0].map b.toBitVec.getLsbD

def toeplitzBits : BitVec 32 → BitVec 32 → List Bool → List Bool → BitVec 32 × BitVec 32
  | window, hash, d :: ds, k :: ks =>
    toeplitzBits (window <<< 1 ||| (BitVec.ofBool k).setWidth 32) (if d then hash ^^^ window else hash) ds ks
  | window, hash, _, _ => (window, hash)

-- behind its end the key is read as zeros
def toeplitzLoop : BitVec 32 → BitVec 32 → List UInt8 → List UInt8 → BitVec 32
  | _, hash, _, [] => hash
  | window, hash, key, d :: ds =>
    let r := toeplitzBits window hash (byteBits d) (byteBits (key.headD 0))
    toeplitzLoop r.1 r.2 key.tail ds

def toeplitzHash (key data : List UInt8) : BitVec 32 :=
  if key.length < 4 then 0
  else toeplitzLoop (BitVec.ofNat 32 (be32 key 0)) 0 (key.drop 4) data

structure Endpoint where
  addr : List UInt8
  port : List UInt8
deriving DecidableEq

def tuple (s d : Endpoint) : List UInt8 := s.addr ++ d.addr ++ s.port ++ d.port

def selectWorkerByTuple (key : List UInt8) (workers : ℕ) (s d : Endpoint) : Option ℕ :=
  if workers = 0 then none else some ((toeplitzHash key (tuple s d)).toNat % workers)

-- tcp_connect moves the socket to the worker of its tuple
def tcpConnectWorker (key : List UInt8) (workers : ℕ) (loc peer : Endpoint) : Option ℕ :=
  selectWorkerByTuple key workers loc peer

def tcpAcceptWorker (key : List UInt8) (workers : ℕ) (loc peer : Endpoint) : Option ℕ :=
  selectWorkerByTuple key workers peer loc

def ephemeralPortFirst : ℕ := 1024

def ephemeralPortCount : ℕ := 65536 - ephemeralPortFirst

def portBytes (p : ℕ) : List UInt8 := [UInt8.ofNat (p / 256), UInt8.ofNat p]

def socketAutoBind (key : List UInt8) (workers cur : ℕ) (addr : List UInt8) (peer : Endpoint) (reserve : ℕ → Bool)
    (first : ℕ) : Option ℕ :=
  ((List.range ephemeralPortCount).map fun i => ephemeralPortFirst + (first + i) % ephemeralPortCount).find? fun p =>
    decide (selectWorkerByTuple key workers ⟨addr, portBytes p⟩ peer = some cur) && reserve p

/-- `w` was chosen as the owner of a socket that connects from `loc` to `peer`. -/
inductive Chosen (key : List UInt8) (workers : ℕ) (peer : Endpoint) : Endpoint → ℕ → Prop
  | connect {loc : Endpoint} {w : ℕ} (h : tcpConnectWorker key workers loc peer = some w) : Chosen key workers peer loc w
  | autoBind {addr : List UInt8} {reserve : ℕ → Bool} {first cur p : ℕ}
      (h : socketAutoBind key workers cur addr peer reserve first = some p) :
      Chosen key workers peer ⟨addr, portBytes p⟩ cur

def ipv4TcpSoftwareRssWorker (key : List UInt8) (workers cur : ℕ) (b : SkBuff) : Option ℕ :=
  let ip := b.data0
  if workers ≤ 1 ∨ (ip.getD 0 0).toNat / 16 ≠ 4 ∨ (ip.getD 0 0).toNat % 16 < 5 ∨ ip.getD 9 0 ≠ 6 ∨
      Ip.ipv4IsFrag ip = true then some cur
  else
    let hl := Ip.ipv4Hl ip
    if skbDataLen b < hl + 4 then some cur
    else
      let ports := skbCopyBits b hl 4
      selectWorkerByTuple key workers ⟨(ip.drop 12).take 4, ports.take 2⟩ ⟨(ip.drop 16).take 4, ports.drop 2⟩

/-- A whole TCP packet from `peer` to `loc`. -/
structure Inbound (b : SkBuff) (peer loc : Endpoint) : Prop where
  version : (b.data0.getD 0 0).toNat / 16 = 4
  ihl : 5 ≤ (b.data0.getD 0 0).toNat % 16
  protocol : b.data0.getD 9 0 = 6
  frag : Ip.ipv4IsFrag b.data0 = false
  length : Ip.ipv4Hl b.data0 + 4 ≤ skbDataLen b
  saddr : (b.data0.drop 12).take 4 = peer.addr
  daddr : (b.data0.drop 16).take 4 = loc.addr
  sport : (skbCopyBits b (Ip.ipv4Hl b.data0) 4).take 2 = peer.port
  dport : (skbCopyBits b (Ip.ipv4Hl b.data0) 4).drop 2 = loc.port

variable {key : List UInt8} {workers cur : ℕ} {b : SkBuff} {peer loc : Endpoint}

lemma Inbound.steered (h : Inbound b peer loc) (hw : 0 < workers) (hcur : cur < workers) :
    ipv4TcpSoftwareRssWorker key workers cur b = selectWorkerByTuple key workers peer loc := by
  rw [ipv4TcpSoftwareRssWorker]
  by_cases h1 : workers ≤ 1
  · obtain rfl : workers = 1 := by omega
    rw [if_pos (Or.inl h1), selectWorkerByTuple, if_neg (by decide), Nat.mod_one]
    exact congrArg some (by omega)
  · have hno : ¬(workers ≤ 1 ∨ (b.data0.getD 0 0).toNat / 16 ≠ 4 ∨ (b.data0.getD 0 0).toNat % 16 < 5 ∨
        b.data0.getD 9 0 ≠ 6 ∨ Ip.ipv4IsFrag b.data0 = true) := by
      have hv := h.version
      have hi := h.ihl
      rw [h.protocol, h.frag]
      simp only [ne_eq, not_true_eq_false, Bool.false_eq_true, or_false]
      omega
    rw [if_neg hno, if_neg (Nat.not_lt.mpr h.length), h.saddr, h.daddr]
    dsimp only
    rw [h.sport, h.dport]

lemma byteBits_xor (a b : UInt8) : byteBits (a ^^^ b) = List.zipWith xor (byteBits a) (byteBits b) := by
  simp [byteBits, UInt8.toBitVec_xor]

/-! The Toeplitz hash itself: the exclusive or of the windows of the key at the set bits of the input. -/

def bits (bs : List UInt8) : List Bool := bs.flatMap byteBits

-- the number that the first bits of the key spell, zeros behind its end
def keyPrefix (key : List UInt8) : ℕ → ℕ
  | 0 => 0
  | n + 1 => 2 * keyPrefix key n + ((bits key).getD n false).toNat

-- bits `i` to `i + 31` of the key
def keyWindow (key : List UInt8) (i : ℕ) : BitVec 32 := BitVec.ofNat 32 (keyPrefix key (i + 32))

def xorSet (f : ℕ → BitVec 32) : ℕ → List Bool → BitVec 32
  | _, [] => 0
  | i, b :: bs => (if b then f i else 0) ^^^ xorSet f (i + 1) bs

def toeplitz (key data : List UInt8) : BitVec 32 := xorSet (keyWindow key) 0 (bits data)

lemma xorSet_append (f : ℕ → BitVec 32) (i : ℕ) (bs cs : List Bool) :
    xorSet f i (bs ++ cs) = xorSet f i bs ^^^ xorSet f (i + bs.length) cs := by
  induction bs generalizing i with
  | nil => simp [xorSet]
  | cons b bs ih => simp [xorSet, ih, BitVec.xor_assoc, Nat.add_assoc, Nat.add_comm 1]

lemma xorSet_xor (f : ℕ → BitVec 32) (i : ℕ) {bs cs : List Bool} (h : bs.length = cs.length) :
    xorSet f i (List.zipWith xor bs cs) = xorSet f i bs ^^^ xorSet f i cs := by
  induction bs generalizing i cs with
  | nil =>
    obtain rfl := List.length_eq_zero_iff.mp h.symm
    simp [xorSet]
  | cons b bs ih =>
    cases cs with
    | nil => cases h
    | cons c cs =>
      have hbit : (if xor b c then f i else 0) = (if b then f i else 0) ^^^ (if c then f i else 0) := by
        cases b <;> cases c <;> simp
      rw [List.zipWith_cons_cons, xorSet, xorSet, xorSet, hbit, ih _ (Nat.succ.inj h), BitVec.xor_assoc, BitVec.xor_assoc,
        ← BitVec.xor_assoc _ _ (xorSet f (i + 1) cs), BitVec.xor_comm _ (xorSet f (i + 1) bs), BitVec.xor_assoc]

lemma bits_xor (ds es : List UInt8) (h : ds.length = es.length) :
    bits (List.zipWith (· ^^^ ·) ds es) = List.zipWith xor (bits ds) (bits es) := by
  induction ds generalizing es with
  | nil => rfl
  | cons d ds ih =>
    cases es with
    | nil => cases h
    | cons e es =>
      have hih := ih es (Nat.succ.inj h)
      simp only [bits, List.zipWith_cons_cons, List.flatMap_cons] at hih ⊢
      have hbyte : (byteBits d).length = (byteBits e).length := rfl
      rw [hih, byteBits_xor, List.zipWith_append hbyte]

lemma bits_getD (bs : List UInt8) (m : ℕ) {j : ℕ} (hj : j < 8) :
    (bits bs).getD (8 * m + j) false = (byteBits (bs.getD m 0)).getD j false := by
  have hlen (b : UInt8) : (byteBits b).length = 8 := rfl
  induction bs generalizing m with
  | nil =>
    have hz : ∀ j < 8, (byteBits 0).getD j false = false := by decide
    exact (hz j hj).symm
  | cons b bs ih =>
    rw [bits, List.flatMap_cons]
    cases m with
    | zero => rw [List.getD_append _ _ _ _ (by rw [hlen]; omega), Nat.mul_zero, Nat.zero_add, List.getD_cons_zero]
    | succ m =>
      rw [List.getD_append_right _ _ _ _ (by rw [hlen]; omega), hlen, List.getD_cons_succ, ← ih m, bits]
      congr 1
      omega

lemma keyWindow_succ (key : List UInt8) (i : ℕ) : keyWindow key (i + 1) =
    keyWindow key i <<< 1 ||| (BitVec.ofBool ((bits key).getD (i + 32) false)).setWidth 32 := by
  rw [keyWindow, Nat.add_right_comm, keyPrefix, keyWindow]
  generalize keyPrefix key (i + 32) = n
  apply BitVec.eq_of_getLsbD_eq
  intro j hj
  rw [BitVec.getLsbD_or, BitVec.getLsbD_shiftLeft, BitVec.getLsbD_ofNat, BitVec.getLsbD_ofNat]
  generalize (bits key).getD (i + 32) false = b
  cases j with
  | zero => cases b <;> simp [Nat.testBit_zero]
  | succ j =>
    have hhalf : (2 * n + b.toNat) / 2 = n := by
      have := Bool.toNat_lt b
      omega
    have hlt : j < 32 := by omega
    rw [Nat.testBit_succ, hhalf]
    cases b <;> simp [hj, hlt]

lemma byteBits_value (b : UInt8) : ((byteBits b).foldl (fun n b => 2 * n + b.toNat) 0) = b.toNat := by
  obtain ⟨v⟩ := b
  revert v
  decide +kernel

lemma keyPrefix_byte (key : List UInt8) (m : ℕ) :
    keyPrefix key (8 * m + 8) = 256 * keyPrefix key (8 * m) + (key.getD m 0).toNat := by
  have hbit (j : ℕ) (hj : j < 8) := bits_getD key m hj
  have hzero : (bits key).getD (8 * m) false = (byteBits (key.getD m 0)).getD 0 false := hbit 0 (by decide)
  rw [← byteBits_value]
  simp only [keyPrefix, hbit, hzero, Nat.reduceLT, byteBits, List.map_cons, List.map_nil, List.foldl_cons,
    List.foldl_nil, List.getD_cons_zero, List.getD_cons_succ]
  omega

-- the four bytes read first
lemma keyWindow_zero (key : List UInt8) : keyWindow key 0 = BitVec.ofNat 32 (be32 key 0) := by
  have h (m : ℕ) := keyPrefix_byte key m
  have h32 : keyPrefix key (0 + 32) = be32 key 0 := by
    have h₀ := h 0
    have h₁ := h 1
    have h₂ := h 2
    have h₃ := h 3
    simp only [Nat.mul_zero, Nat.zero_add, Nat.reduceMul, Nat.reduceAdd, keyPrefix.eq_1] at h₀ h₁ h₂ h₃
    simp only [Nat.zero_add, Nat.reduceAdd, h₃, h₂, h₁, h₀, be32, be16]
    omega
  rw [keyWindow, h32]

/-- Eight bits of the input against eight of the key: the window moves on with them. -/
lemma toeplitzBits_spec {i : ℕ} (hash : BitVec 32) (ds : List Bool) {ks : List Bool}
    (hk : ∀ j < ks.length, ks.getD j false = (bits key).getD (i + 32 + j) false) (hlen : ds.length = ks.length) :
    toeplitzBits (keyWindow key i) hash ds ks =
      (keyWindow key (i + ds.length), hash ^^^ xorSet (keyWindow key) i ds) := by
  induction ds generalizing i hash ks with
  | nil => simp [toeplitzBits, xorSet]
  | cons d ds ih =>
    cases ks with
    | nil => cases hlen
    | cons k ks =>
      have hhead : k = (bits key).getD (i + 32) false := hk 0 (Nat.succ_pos _)
      have htail : ∀ j < ks.length, ks.getD j false = (bits key).getD (i + 1 + 32 + j) false := by
        intro j hj
        rw [show i + 1 + 32 + j = i + 32 + (j + 1) by omega, ← hk (j + 1) (Nat.succ_lt_succ hj), List.getD_cons_succ]
      rw [toeplitzBits, hhead, ← keyWindow_succ, ih _ htail (Nat.succ.inj hlen), List.length_cons, xorSet]
      cases d <;> simp [Nat.add_assoc, Nat.add_comm 1, BitVec.xor_assoc]

lemma toeplitzLoop_spec (key : List UInt8) (m : ℕ) (hash : BitVec 32) (data : List UInt8) :
    toeplitzLoop (keyWindow key (8 * m)) hash (key.drop (4 + m)) data =
      hash ^^^ xorSet (keyWindow key) (8 * m) (bits data) := by
  induction data generalizing m hash with
  | nil => simp [toeplitzLoop, bits, xorSet]
  | cons d data ih =>
    have hk : ∀ j < (byteBits ((key.drop (4 + m)).headD 0)).length,
        (byteBits ((key.drop (4 + m)).headD 0)).getD j false = (bits key).getD (8 * m + 32 + j) false := by
      intro j hj
      rw [show 8 * m + 32 + j = 8 * (4 + m) + j by omega, bits_getD key _ hj]
      simp [List.headD_eq_head?_getD, List.head?_drop, List.getD_eq_getElem?_getD]
    rw [toeplitzLoop, toeplitzBits_spec hash (byteBits d) hk rfl]
    dsimp only
    rw [List.tail_drop, show 8 * m + (byteBits d).length = 8 * (m + 1) from rfl, Nat.add_assoc, ih,
      show bits (d :: data) = byteBits d ++ bits data from rfl, xorSet_append, BitVec.xor_assoc]
    rfl

lemma toeplitzHash_eq (key data : List UInt8) :
    toeplitzHash key data = if key.length < 4 then 0 else toeplitz key data := by
  rw [toeplitzHash, ← keyWindow_zero]
  congr 1
  exact (toeplitzLoop_spec key 0 0 data).trans (BitVec.zero_xor)

lemma toeplitzHash_xor (key : List UInt8) {ds es : List UInt8} (hlen : ds.length = es.length) :
    toeplitzHash key (List.zipWith (· ^^^ ·) ds es) = toeplitzHash key ds ^^^ toeplitzHash key es := by
  have hbits : (bits ds).length = (bits es).length := by simp [bits, byteBits, List.length_flatMap, hlen]
  simp only [toeplitzHash_eq]
  split
  · rfl
  · rw [toeplitz, bits_xor ds es hlen, xorSet_xor _ _ hbits]
    rfl

/-- A key of fewer than four bytes hashes everything to 0. -/
theorem toeplitz_hash_exact (key data : List UInt8) :
    toeplitzHash key data = (if key.length < 4 then 0 else toeplitz key data) ∧
      ∀ other : List UInt8, data.length = other.length →
        toeplitzHash key (List.zipWith (· ^^^ ·) data other) = toeplitzHash key data ^^^ toeplitzHash key other :=
  ⟨toeplitzHash_eq key data, fun _ => toeplitzHash_xor key⟩

theorem toeplitz_hash_exact_byte : toeplitzHash [0, 0, 0, 1, 128] (List.zipWith (· ^^^ ·) [192] [64]) =
    toeplitzHash [0, 0, 0, 1, 128] [192] ^^^ toeplitzHash [0, 0, 0, 1, 128] [64] :=
  (toeplitz_hash_exact [0, 0, 0, 1, 128] [192]).2 [64] rfl

theorem short_key_hashes_to_zero : toeplitzHash [128, 0, 0] [128] = 0 ∧ toeplitz [128, 0, 0] [128] = 0x80000000 := by
  decide

def bytesXor (s d : List UInt8) : List UInt8 := List.zipWith (· ^^^ ·) s d

def difference (s d : Endpoint) : List UInt8 :=
  bytesXor s.addr d.addr ++ bytesXor s.addr d.addr ++ bytesXor s.port d.port ++ bytesXor s.port d.port

lemma bytesXor_length {s d : List UInt8} (h : s.length = d.length) : (bytesXor s d).length = s.length := by
  simp [bytesXor, h]

lemma bytesXor_cancel {s d : List UInt8} (h : s.length = d.length) :
    bytesXor s (bytesXor s d) = d ∧ bytesXor d (bytesXor s d) = s := by
  induction s generalizing d with
  | nil =>
    obtain rfl := List.length_eq_zero_iff.mp h.symm
    exact ⟨rfl, rfl⟩
  | cons x s ih =>
    cases d with
    | nil => cases h
    | cons y d =>
      obtain ⟨h₁, h₂⟩ := ih (Nat.succ.inj h)
      have hx : x ^^^ (x ^^^ y) = y := by rw [← UInt8.xor_assoc, UInt8.xor_self, UInt8.zero_xor]
      have hy : y ^^^ (x ^^^ y) = x := by rw [UInt8.xor_comm x, ← UInt8.xor_assoc, UInt8.xor_self, UInt8.zero_xor]
      refine ⟨?_, ?_⟩
      · change (x ^^^ (x ^^^ y)) :: bytesXor s (bytesXor s d) = y :: d
        rw [hx, h₁]
      · change (y ^^^ (x ^^^ y)) :: bytesXor d (bytesXor s d) = x :: s
        rw [hy, h₂]

lemma toeplitzHash_swap (key : List UInt8) {s d : Endpoint} (ha : s.addr.length = d.addr.length)
    (hp : s.port.length = d.port.length) :
    toeplitzHash key (tuple d s) = toeplitzHash key (tuple s d) ^^^ toeplitzHash key (difference s d) := by
  have hla := bytesXor_length ha
  have hlp := bytesXor_length hp
  rw [← toeplitzHash_xor]
  · congr 1
    rw [tuple, tuple, difference, List.zipWith_append (by simp [hla, hlp, ha]), List.zipWith_append (by simp [hla, ha]),
      List.zipWith_append (by simp [hla])]
    obtain ⟨h₁, h₂⟩ := bytesXor_cancel ha
    obtain ⟨h₃, h₄⟩ := bytesXor_cancel hp
    change _ = bytesXor s.addr _ ++ bytesXor d.addr _ ++ bytesXor s.port _ ++ bytesXor d.port _
    rw [h₁, h₂, h₃, h₄]
  · simp [tuple, difference, hla, hlp, ha, hp]

lemma Chosen.select {w : ℕ} (h : Chosen key workers peer loc w) : selectWorkerByTuple key workers loc peer = some w := by
  cases h with
  | connect h => exact h
  | autoBind h =>
    have hp := List.find?_some h
    rw [Bool.and_eq_true, decide_eq_true_iff] at hp
    exact hp.1

/-- Swapping the endpoints changes the hash by that of their difference, and the number of workers does not show it. -/
def Symmetric (key : List UInt8) (workers : ℕ) (loc peer : Endpoint) : Prop :=
  (toeplitzHash key (tuple loc peer) ^^^ toeplitzHash key (difference loc peer)).toNat % workers =
    (toeplitzHash key (tuple loc peer)).toNat % workers

theorem steering_agreement {w : ℕ} (hc : Chosen key workers peer loc w) (hcur : cur < workers) (hb : Inbound b peer loc)
    (ha : loc.addr.length = peer.addr.length) (hp : loc.port.length = peer.port.length) :
    ipv4TcpSoftwareRssWorker key workers cur b = tcpAcceptWorker key workers loc peer ∧
      (ipv4TcpSoftwareRssWorker key workers cur b = some w ↔ Symmetric key workers loc peer) := by
  have hw : 0 < workers := by omega
  have hsel := hc.select
  rw [selectWorkerByTuple, if_neg (by omega)] at hsel
  rw [hb.steered hw hcur]
  refine ⟨rfl, ?_⟩
  rw [selectWorkerByTuple, if_neg (by omega), toeplitzHash_swap key ha hp, ← hsel, Option.some.injEq, Symmetric]

-- TOEPLITZ_RSS_DEFAULT_KEY
def defaultKey : List UInt8 :=
  [0x6d, 0x5a, 0x56, 0xda, 0x25, 0x5b, 0x0e, 0xc2, 0x41, 0x67, 0x25, 0x3d, 0x43, 0xa3, 0x8f, 0xb0, 0xd0, 0xca, 0x2b, 0xcb,
    0xae, 0x7b, 0x30, 0xb4, 0x77, 0xcb, 0x2d, 0xa3, 0x80, 0x30, 0xf2, 0x0c, 0x6a, 0x42, 0xb7, 0x3b, 0xbe, 0xac, 0x01, 0xfa]

def client (p : UInt8) : Endpoint := ⟨[10, 0, 0, 1], [4, p]⟩

def server : Endpoint := ⟨[10, 0, 0, 2], [0, 80]⟩

-- the SYN|ACK it gets
def synAckPacket (p : UInt8) : SkBuff :=
  { seq := 0, flag := {}, infos := [{ headroom := 14, size := 128, data :=
      [0x45, 0, 0, 40, 0, 1, 0, 0, 64, 6, 0, 0, 10, 0, 0, 2, 10, 0, 0, 1] ++
        [0, 80, 4, p, 0, 0, 0, 1, 0, 0, 0, 1, 0x50, 0x12, 1, 0, 0, 0, 0, 0] }] }

theorem steering_agreement_odd_port : ipv4TcpSoftwareRssWorker defaultKey 2 0 (synAckPacket 1) = some 0 := by
  have hc : Chosen defaultKey 2 server (client 1) 0 := .connect (by decide)
  have hb : Inbound (synAckPacket 1) server (client 1) := by constructor <;> decide
  refine (steering_agreement hc (by decide) hb rfl rfl).2.mpr ?_
  rw [Symmetric]
  decide

/-- From port 1024 the socket of the client belongs to worker 1, and the answers of the server go to worker 0. -/
theorem connect_steered_elsewhere : Chosen defaultKey 2 server (client 0) 1 ∧ Inbound (synAckPacket 0) server (client 0) ∧
    ipv4TcpSoftwareRssWorker defaultKey 2 1 (synAckPacket 0) = some 0 := by
  refine ⟨.connect (by decide), ?_, by decide⟩
  constructor <;> decide

end Netfast.Rss
