import Netfast.Lib.Run
import Netfast.Tcp.Congestion

/-! CUBIC over any history of acknowledgements, duplicates, timeouts and changes of the segment size. -/

namespace Netfast.Tcp

open Run

variable {s : TcpSock}

def packetWindow (mss packets : ℕ) : ℕ := max (min (packets * mss) u32Max) mss

variable {c : Cubic} {n w : ℕ}

lemma tcpCaSetCwnd_cong (s : TcpSock) (w : ℕ) :
    ∃ t, tcpCaSetCwnd s w = { s with cong.sndCwnd := max w (tcpCaMss s.nego), tm := t } :=
  tcpSndCwndChange_frame s (max w (tcpCaMss s.nego))

lemma tcpCubicSetCwndPackets_cong (s : TcpSock) (packets : ℕ) :
    ∃ t, tcpCubicSetCwndPackets s packets =
      { s with cong.sndCwnd := packetWindow (tcpCaMss s.nego) packets, tm := t } :=
  tcpCaSetCwnd_cong s _

def growthDivisor (s : TcpSock) (n : ℕ) : ℕ :=
  (tcpCubicUpdate s.cong.cubic s.env.now (tcpCubicCwndPackets s) n).cnt

def growth (s : TcpSock) (n : ℕ) : ℕ := (s.cong.cubic.cwndCnt + n) / growthDivisor s n

lemma growthDivisor_ge (s : TcpSock) (n : ℕ) : 2 ≤ growthDivisor s n := le_max_right _ _

lemma cubicEpoch_kept (c : Cubic) (now cwnd n : ℕ) : (cubicEpoch c now cwnd n).cwndCnt = c.cwndCnt ∧
    (cubicEpoch c now cwnd n).ackedBytes = c.ackedBytes := by
  rw [cubicEpoch]
  dsimp only
  split
  · split <;> exact ⟨rfl, rfl⟩
  · exact ⟨rfl, rfl⟩

lemma cubicFriendly_kept (c : Cubic) (cwnd : ℕ) : (cubicFriendly c cwnd).cwndCnt = c.cwndCnt ∧
    (cubicFriendly c cwnd).ackedBytes = c.ackedBytes := by
  rw [cubicFriendly]
  dsimp only
  split_ifs <;> exact ⟨rfl, rfl⟩

lemma tcpCubicUpdate_kept (c : Cubic) (now cwnd n : ℕ) : (tcpCubicUpdate c now cwnd n).cwndCnt = c.cwndCnt ∧
    (tcpCubicUpdate c now cwnd n).ackedBytes = c.ackedBytes := by
  rw [tcpCubicUpdate]
  dsimp only
  rw [(cubicFriendly_kept _ cwnd).1, (cubicFriendly_kept _ cwnd).2]
  generalize (if cwnd < cubicTarget (cubicEpoch c now cwnd n) now then
    max (cwnd / (cubicTarget (cubicEpoch c now cwnd n) now - cwnd)) 1 else tcpCaSaturatingAdd 0 (100 * cwnd)) = k
  split <;> exact cubicEpoch_kept c now cwnd n

structure CubicWords (c : Cubic) : Prop where
  epochStartMs : c.epochStartMs < 2 ^ 64
  lastMaxCwnd : c.lastMaxCwnd ≤ u32Max
  originPoint : c.originPoint ≤ u32Max
  kMs : c.kMs ≤ u32Max
  ackCnt : c.ackCnt ≤ u32Max
  tcpCwnd : c.tcpCwnd ≤ u32Max
  cnt : c.cnt ≤ u32Max
  cwndCnt : c.cwndCnt ≤ u32Max
  ackedBytes : c.ackedBytes ≤ u32Max

structure CaWords (s : TcpSock) : Prop where
  mss : tcpCaMss s.nego ≤ u32Max
  cwnd : s.cong.sndCwnd ≤ u32Max
  ssthresh : s.cong.sndSsthresh ≤ u32Max
  cubic : CubicWords s.cong.cubic

lemma cubicWords_zero : CubicWords {} := by
  constructor <;> decide

lemma cubicRootLoop_le (value k : ℕ) {low high : ℕ} (h : low ≤ high) : cubicRootLoop value k low high ≤ high := by
  induction k generalizing low high with
  | zero => exact h
  | succ k ih =>
    rw [cubicRootLoop]
    split
    · dsimp only
      split
      · exact ih (by omega)
      · exact (ih (by omega)).trans (by omega)
    · exact h

lemma tcpCubicKMs_le (d : ℕ) : tcpCubicKMs d ≤ 2642245 := cubicRootLoop_le _ _ (Nat.zero_le _)

lemma cubicEpoch_words (h : CubicWords c) {now cwnd : ℕ} (hnow : now < 2 ^ 64) (hw : cwnd ≤ u32Max)
    (hn : n ≤ u32Max) : CubicWords (cubicEpoch c now cwnd n) := by
  have hstart : (if now = 0 then 1 else now) < 2 ^ 64 := by
    split
    · decide
    · exact hnow
  rw [cubicEpoch]
  dsimp only
  split
  · split
    · exact ⟨hstart, h.lastMaxCwnd, hw, Nat.zero_le _, hn, hw, h.cnt, h.cwndCnt, h.ackedBytes⟩
    · exact ⟨hstart, h.lastMaxCwnd, h.lastMaxCwnd, (tcpCubicKMs_le _).trans (by decide), hn, hw, h.cnt, h.cwndCnt,
        h.ackedBytes⟩
  · exact ⟨h.epochStartMs, h.lastMaxCwnd, h.originPoint, h.kMs, Nat.min_le_right _ _, h.tcpCwnd, h.cnt, h.cwndCnt,
      h.ackedBytes⟩

lemma CubicWords.setCnt (h : CubicWords c) (hn : n ≤ u32Max) : CubicWords { c with cnt := n } :=
  ⟨h.epochStartMs, h.lastMaxCwnd, h.originPoint, h.kMs, h.ackCnt, h.tcpCwnd, hn, h.cwndCnt, h.ackedBytes⟩

lemma CubicWords.setCwndCnt (h : CubicWords c) (hn : n ≤ u32Max) : CubicWords { c with cwndCnt := n } :=
  ⟨h.epochStartMs, h.lastMaxCwnd, h.originPoint, h.kMs, h.ackCnt, h.tcpCwnd, h.cnt, hn, h.ackedBytes⟩

lemma cubicFriendly_words (h : CubicWords c) (cwnd : ℕ) : CubicWords (cubicFriendly c cwnd) := by
  have hcap {c : Cubic} (h : CubicWords c) : CubicWords (if cwnd < c.tcpCwnd then
      { c with cnt := min c.cnt (max (cwnd / (c.tcpCwnd - cwnd)) 1) } else c) := by
    split
    · exact h.setCnt ((Nat.min_le_left _ _).trans h.cnt)
    · exact h
  rw [cubicFriendly]
  dsimp only
  apply hcap
  generalize (if u32Max < cwnd * 15 / 8 then u32Max else max (cwnd * 15 / 8) 1) = threshold
  split
  · exact ⟨h.epochStartMs, h.lastMaxCwnd, h.originPoint, h.kMs, (Nat.sub_le _ _).trans h.ackCnt, Nat.min_le_right _ _, h.cnt,
      h.cwndCnt, h.ackedBytes⟩
  · exact h

lemma cubicCnt_le {cwnd : ℕ} (hw : cwnd ≤ u32Max) (target : ℕ) :
    (if cwnd < target then max (cwnd / (target - cwnd)) 1 else tcpCaSaturatingAdd 0 (100 * cwnd)) ≤ u32Max := by
  split
  · exact max_le ((Nat.div_le_self _ _).trans hw) (by decide)
  · exact Nat.min_le_right _ _

lemma tcpCubicUpdate_words (h : CubicWords c) {now cwnd : ℕ} (hnow : now < 2 ^ 64) (hw : cwnd ≤ u32Max)
    (hn : n ≤ u32Max) : CubicWords (tcpCubicUpdate c now cwnd n) := by
  have hepoch := cubicEpoch_words h hnow hw hn
  have hcnt : (if cwnd < cubicTarget (cubicEpoch c now cwnd n) now then
      max (cwnd / (cubicTarget (cubicEpoch c now cwnd n) now - cwnd)) 1 else tcpCaSaturatingAdd 0 (100 * cwnd)) ≤ u32Max :=
    cubicCnt_le hw _
  rw [tcpCubicUpdate]
  dsimp only
  generalize (if cwnd < cubicTarget (cubicEpoch c now cwnd n) now then
    max (cwnd / (cubicTarget (cubicEpoch c now cwnd n) now - cwnd)) 1 else tcpCaSaturatingAdd 0 (100 * cwnd)) = k at hcnt ⊢
  have hfriend := fun {c : Cubic} (hc : CubicWords c) => cubicFriendly_words hc cwnd
  split
  · have h20 := hfriend ((hepoch.setCnt hcnt).setCnt (show 20 ≤ u32Max by decide))
    exact h20.setCnt (max_le h20.cnt (show 2 ≤ u32Max by decide))
  · have hf := hfriend (hepoch.setCnt hcnt)
    exact hf.setCnt (max_le hf.cnt (show 2 ≤ u32Max by decide))

lemma CaWords.packets (h : CaWords s) : tcpCubicCwndPackets s ≤ u32Max :=
  max_le ((Nat.div_le_self _ _).trans h.cwnd) (by decide)

lemma growth_lt (h : CaWords s) (hn : n ≤ u32Max) : growth s n < 2 ^ 32 := by
  have hc := h.cubic.cwndCnt
  have hu : u32Max = 2 ^ 32 - 1 := rfl
  rw [growth]
  refine lt_of_le_of_lt (Nat.div_le_div_left (growthDivisor_ge s n) two_pos) ?_
  omega

lemma cubicAvoid_cong (h : CaWords s) (hn : n ≤ u32Max) : ∃ t, cubicAvoid s n = { s with
    cong.sndCwnd := if growth s n = 0 then s.cong.sndCwnd
      else packetWindow (tcpCaMss s.nego) (tcpCubicCwndPackets s + growth s n)
    cong.cubic := { tcpCubicUpdate s.cong.cubic s.env.now (tcpCubicCwndPackets s) n with
      cwndCnt := (s.cong.cubic.cwndCnt + n) % growthDivisor s n }
    tm := t } := by
  have hkept := (tcpCubicUpdate_kept s.cong.cubic s.env.now (tcpCubicCwndPackets s) n).1
  have hmod : (s.cong.cubic.cwndCnt + n) / (tcpCubicUpdate s.cong.cubic s.env.now (tcpCubicCwndPackets s) n).cnt % 2 ^ 32 =
      growth s n := Nat.mod_eq_of_lt (growth_lt h hn)
  rw [cubicAvoid]
  dsimp only
  rw [hkept, hmod]
  split
  · exact ⟨s.tm, rfl⟩
  · obtain ⟨t, ht⟩ := tcpCubicSetCwndPackets_cong { s with
      cong.cubic := { tcpCubicUpdate s.cong.cubic s.env.now (tcpCubicCwndPackets s) n with
        cwndCnt := (s.cong.cubic.cwndCnt + n) % growthDivisor s n } } (tcpCubicCwndPackets s + growth s n)
    exact ⟨t, ht⟩

def startThreshold (s : TcpSock) : ℕ := max (s.cong.sndSsthresh / tcpCaMss s.nego) 2

lemma tcpCubicSlowStart_cong (s : TcpSock) (n : ℕ) :
    startThreshold s ≤ tcpCubicCwndPackets s ∧ tcpCubicSlowStart s n = (s, n) ∨
      tcpCubicCwndPackets s < startThreshold s ∧ ∃ t, tcpCubicSlowStart s n =
        ({ s with
          cong.sndCwnd := packetWindow (tcpCaMss s.nego)
            (tcpCubicCwndPackets s + min n (startThreshold s - tcpCubicCwndPackets s))
          tm := t }, n - min n (startThreshold s - tcpCubicCwndPackets s)) := by
  rw [tcpCubicSlowStart]
  dsimp only
  split
  · next h => exact .inl ⟨h, rfl⟩
  · next h =>
    obtain ⟨t, ht⟩ := tcpCubicSetCwndPackets_cong s
      (tcpCubicCwndPackets s + min n (startThreshold s - tcpCubicCwndPackets s))
    exact .inr ⟨Nat.lt_of_not_le h, t, congrArg (·, _) ht⟩

def beforeAvoidance (s : TcpSock) (n : ℕ) : TcpSock × ℕ :=
  if s.cong.sndCwnd < s.cong.sndSsthresh then tcpCubicSlowStart s n else (s, n)

lemma beforeAvoidance_cases (s : TcpSock) (hn : n ≠ 0) : beforeAvoidance s n = (s, n) ∨
    ∃ inc t, 0 < inc ∧ inc ≤ n ∧ beforeAvoidance s n =
      ({ s with cong.sndCwnd := packetWindow (tcpCaMss s.nego) (tcpCubicCwndPackets s + inc), tm := t }, n - inc) := by
  rw [beforeAvoidance]
  split
  · obtain ⟨-, h⟩ | ⟨hlt, t, h⟩ := tcpCubicSlowStart_cong s n
    · exact .inl h
    · exact .inr ⟨_, t, by omega, Nat.min_le_left _ _, h⟩
  · exact .inl rfl

lemma beforeAvoidance_zero (s : TcpSock) : (beforeAvoidance s 0).2 = 0 := by
  rw [beforeAvoidance]
  split
  · obtain ⟨-, h⟩ | ⟨-, t, h⟩ := tcpCubicSlowStart_cong s 0
    · rw [h]
    · rw [h]
      exact Nat.zero_sub _
  · rfl

lemma tcpCubicCongAvoid_eq (s : TcpSock) (hn : n ≠ 0) : tcpCubicCongAvoid s n =
    if (beforeAvoidance s n).2 = 0 then (beforeAvoidance s n).1
    else cubicAvoid (beforeAvoidance s n).1 (beforeAvoidance s n).2 := by
  rw [tcpCubicCongAvoid, beforeAvoidance]
  split
  · rfl
  · rfl

def tcpCubicTakeAckedPackets (s : TcpSock) (acked : ℕ) : TcpSock × ℕ :=
  ({ s with cong.cubic.ackedBytes := (s.cong.cubic.ackedBytes + acked) % tcpCaMss s.nego },
    min ((s.cong.cubic.ackedBytes + acked) / tcpCaMss s.nego) u32Max)

def ackedPackets (s : TcpSock) (acked : ℕ) (limited : Bool) : ℕ :=
  if limited && acked != 0 then (tcpCubicTakeAckedPackets s acked).2 else 0

lemma tcpCongestionOnAck_open (h : s.cong.caState = .open) (acked : ℕ) (limited : Bool) :
    (tcpCongestionOnAck s acked limited).1 = if limited && acked != 0 then
        if ackedPackets s acked limited = 0 then (tcpCubicTakeAckedPackets s acked).1
        else tcpCubicCongAvoid (tcpCubicTakeAckedPackets s acked).1 (ackedPackets s acked limited)
      else s := by
  rw [tcpCongestionOnAck, if_neg (not_not.mpr h), ackedPackets]
  split
  · rfl
  · rfl

lemma packetWindow_le_iff {mss inc : ℕ} (hm : 0 < mss) (hinc : 0 < inc) (hroom : w + n * mss < u32Max) :
    packetWindow mss (max (w / mss) 1 + inc) ≤ w + n * mss ↔ inc < if mss ≤ w then n + 1 else n := by
  have hlow : mss ≤ (max (w / mss) 1 + inc) * mss := Nat.le_mul_of_pos_left mss (by omega)
  have hle : packetWindow mss (max (w / mss) 1 + inc) ≤ w + n * mss ↔ (max (w / mss) 1 + inc) * mss ≤ w + n * mss := by
    rw [packetWindow]
    constructor
    · intro h
      have hmin := (le_max_left _ _).trans h
      rcases Nat.le_total ((max (w / mss) 1 + inc) * mss) u32Max with hc | hc
      · rwa [Nat.min_eq_left hc] at hmin
      · rw [Nat.min_eq_right hc] at hmin
        omega
    · intro h
      exact max_le ((Nat.min_le_left _ _).trans h) (hlow.trans h)
  rw [hle]
  split
  · next hmw =>
    have hq : 1 ≤ w / mss := (Nat.one_le_div_iff hm).mpr hmw
    have hdiv := Nat.div_add_mod' w mss
    have hmod := Nat.mod_lt w hm
    rw [Nat.max_eq_left hq, Nat.add_mul]
    constructor
    · intro h
      by_contra hn
      have hmul := Nat.mul_le_mul_right mss (show n + 1 ≤ inc by omega)
      rw [Nat.succ_mul] at hmul
      omega
    · intro h
      have hmul := Nat.mul_le_mul_right mss (show inc ≤ n by omega)
      omega
  · next hmw =>
    rw [Nat.div_eq_of_lt (by omega), show max 0 1 = 1 from rfl, Nat.add_mul, Nat.one_mul]
    constructor
    · intro h
      by_contra hn
      have hmul := Nat.mul_le_mul_right mss (show n ≤ inc by omega)
      omega
    · intro h
      have hmul := Nat.mul_le_mul_right mss (show inc + 1 ≤ n by omega)
      rw [Nat.succ_mul] at hmul
      omega

/-- The credits left over, with the packets that reach congestion avoidance, buy no more growth than these packets. -/
def CreditsCovered (s : TcpSock) (n : ℕ) : Prop :=
  if (beforeAvoidance s n).2 = 0 then n = 0 ∨ tcpCaMss s.nego ≤ s.cong.sndCwnd
  else s.cong.cubic.cwndCnt + (beforeAvoidance s n).2 <
    (if tcpCaMss s.nego ≤ s.cong.sndCwnd then (beforeAvoidance s n).2 + 1 else (beforeAvoidance s n).2) *
      growthDivisor (beforeAvoidance s n).1 (beforeAvoidance s n).2

lemma CreditsCovered.zero (s : TcpSock) : CreditsCovered s 0 := by
  rw [CreditsCovered, if_pos (beforeAvoidance_zero s)]
  exact .inl rfl

lemma growth_lt_iff (s : TcpSock) (n k : ℕ) : growth s n < k ↔ s.cong.cubic.cwndCnt + n < k * growthDivisor s n :=
  Nat.div_lt_iff_lt_mul (by have := growthDivisor_ge s n; omega)

lemma packetWindow_room {mss inc : ℕ} (hm : 0 < mss) (hinc : inc < n) (hroom : w + n * mss < u32Max) :
    packetWindow mss (max (w / mss) 1 + inc) = (max (w / mss) 1 + inc) * mss := by
  have hlow : mss ≤ (max (w / mss) 1 + inc) * mss := Nat.le_mul_of_pos_left mss (by omega)
  have hfits : (max (w / mss) 1 + inc) * mss ≤ w + n * mss := by
    have hmul := Nat.mul_le_mul_right mss (show inc + 1 ≤ n by omega)
    rw [Nat.succ_mul] at hmul
    rw [Nat.add_mul]
    rcases Nat.le_total (w / mss) 1 with h | h
    · rw [Nat.max_eq_right h, Nat.one_mul]
      omega
    · rw [Nat.max_eq_left h]
      have := Nat.div_mul_le_self w mss
      omega
  rw [packetWindow, Nat.min_eq_left (hfits.trans hroom.le), max_eq_left hlow]

lemma tcpCubicCwndPackets_window {m p : ℕ} (hm : 0 < m) (hp : 0 < p) : max (p * m / m) 1 = p := by
  rw [Nat.mul_div_cancel p hm]
  omega

lemma cubicAvoid_cwnd (h : CaWords s) (hn : n ≤ u32Max) : (cubicAvoid s n).cong.sndCwnd =
    if growth s n = 0 then s.cong.sndCwnd
    else packetWindow (tcpCaMss s.nego) (tcpCubicCwndPackets s + growth s n) := by
  obtain ⟨t, ht⟩ := cubicAvoid_cong h hn
  rw [ht]

lemma CaWords.setCwnd (h : CaWords s) (hw : w ≤ u32Max) (t : Timers) :
    CaWords { s with cong.sndCwnd := w, tm := t } :=
  ⟨h.mss, hw, h.ssthresh, h.cubic⟩

lemma packetWindow_le_max (h : CaWords s) (packets : ℕ) : packetWindow (tcpCaMss s.nego) packets ≤ u32Max :=
  max_le (Nat.min_le_right _ _) h.mss

lemma tcpCubicCongAvoid_le_iff (h : CaWords s) (hn : n ≠ 0) (hnu : n ≤ u32Max)
    (hroom : s.cong.sndCwnd + n * tcpCaMss s.nego < u32Max) :
    (tcpCubicCongAvoid s n).cong.sndCwnd ≤ s.cong.sndCwnd + n * tcpCaMss s.nego ↔ CreditsCovered s n := by
  have hm := tcpCaMss_pos s.nego
  have hA := fun inc (hinc : 0 < inc) => packetWindow_le_iff hm hinc hroom
  rw [tcpCubicCongAvoid_eq s hn, CreditsCovered]
  obtain hb | ⟨inc, t, hpos, hle, hb⟩ := beforeAvoidance_cases s hn
  · -- no slow start: the credits alone decide
    rw [hb]
    dsimp only
    rw [if_neg hn, if_neg hn, cubicAvoid_cwnd h hnu, ← growth_lt_iff]
    split
    · next hzero =>
      refine iff_of_true (Nat.le_add_right _ _) ?_
      rw [hzero]
      split <;> omega
    · next hgrow => exact hA _ (Nat.pos_of_ne_zero hgrow)
  · rw [hb]
    dsimp only
    rcases Nat.eq_or_lt_of_le hle with rfl | hlt
    · -- slow start takes every packet
      rw [if_pos (Nat.sub_self _), if_pos (Nat.sub_self _)]
      refine (hA _ hpos).trans ?_
      split <;> omega
    · have hrest : n - inc ≠ 0 := by omega
      have hw := h.setCwnd (packetWindow_le_max h (tcpCubicCwndPackets s + inc)) t
      rw [if_neg hrest, if_neg hrest, cubicAvoid_cwnd hw (by omega)]
      have hpackets : tcpCubicCwndPackets { s with
          cong.sndCwnd := packetWindow (tcpCaMss s.nego) (tcpCubicCwndPackets s + inc), tm := t } =
          tcpCubicCwndPackets s + inc := by
        refine (congrArg (fun w => max (w / _) 1) (packetWindow_room hm hlt hroom)).trans ?_
        exact tcpCubicCwndPackets_window hm (by omega)
      have hgrows := growth_lt_iff { s with
        cong.sndCwnd := packetWindow (tcpCaMss s.nego) (tcpCubicCwndPackets s + inc), tm := t } (n - inc)
      rw [hpackets, ← hgrows]
      generalize growth _ (n - inc) = g
      have hwindow : (if g = 0 then packetWindow (tcpCaMss s.nego) (tcpCubicCwndPackets s + inc)
          else packetWindow (tcpCaMss s.nego) (tcpCubicCwndPackets s + inc + g)) =
          packetWindow (tcpCaMss s.nego) (tcpCubicCwndPackets s + (inc + g)) := by
        split
        · next hzero => rw [hzero, Nat.add_zero]
        · rw [Nat.add_assoc]
      rw [hwindow]
      refine (hA _ (by omega)).trans ?_
      split <;> omega

inductive CaEvent
  | ack (now : ℕ) (una : Seq) (acked : ℕ) (limited : Bool)
  | dup (nxt : Seq) (count : ℕ)
  | timeout (nxt : Seq)
  -- a new segment size, with the state the connection is in then
  | mss (state : TcpState) (size : ℕ)

def CaEvent.Words : CaEvent → Prop
  | .ack now _ acked _ => now < 2 ^ 64 ∧ acked ≤ u32Max
  | .mss _ size => size ≤ u32Max
  | _ => True

def ackAt (s : TcpSock) (now : ℕ) (una : Seq) : TcpSock := { s with env.now := now, snd.sndUna := una }

def caStep (s : TcpSock) : CaEvent → TcpSock
  | .ack now una acked limited => (tcpCongestionOnAck (ackAt s now una) acked limited).1
  | .dup nxt count => (tcpCongestionOnDuplicateAck { s with snd.sndNxt := nxt } count).1
  | .timeout nxt => tcpCongestionOnTimeout { s with snd.sndNxt := nxt }
  | .mss state size => tcpCongestionMssChanged { s with core.state := state, nego.sndMss := size }

lemma tcpCaSetCwnd_words (h : CaWords s) (hw : w ≤ u32Max) : CaWords (tcpCaSetCwnd s w) := by
  obtain ⟨t, ht⟩ := tcpCaSetCwnd_cong s w
  rw [ht]
  exact h.setCwnd (max_le hw h.mss) t

lemma cubicAvoid_words (h : CaWords s) (hn : n ≤ u32Max) (hnow : s.env.now < 2 ^ 64) : CaWords (cubicAvoid s n) := by
  have hc := tcpCubicUpdate_words h.cubic hnow h.packets hn
  have hmod : (s.cong.cubic.cwndCnt + n) % growthDivisor s n ≤ u32Max :=
    (Nat.mod_lt _ (by have := growthDivisor_ge s n; omega)).le.trans hc.cnt
  obtain ⟨t, ht⟩ := cubicAvoid_cong h hn
  rw [ht]
  refine ⟨h.mss, ?_, h.ssthresh, hc.setCwndCnt hmod⟩
  dsimp only
  split
  · exact h.cwnd
  · exact packetWindow_le_max h _

lemma tcpCubicCongAvoid_words (h : CaWords s) (hn : n ≠ 0) (hnu : n ≤ u32Max) (hnow : s.env.now < 2 ^ 64) :
    CaWords (tcpCubicCongAvoid s n) := by
  rw [tcpCubicCongAvoid_eq s hn]
  obtain hb | ⟨inc, t, -, -, hb⟩ := beforeAvoidance_cases s hn
  · rw [hb, if_neg hn]
    exact cubicAvoid_words h hnu hnow
  · have hs := h.setCwnd (packetWindow_le_max h (tcpCubicCwndPackets s + inc)) t
    rw [hb]
    split
    · exact hs
    · exact cubicAvoid_words hs ((Nat.sub_le _ _).trans hnu) hnow

lemma tcpCubicTakeAckedPackets_words (h : CaWords s) (acked : ℕ) : CaWords (tcpCubicTakeAckedPackets s acked).1 :=
  ⟨h.mss, h.cwnd, h.ssthresh, h.cubic.1, h.cubic.2, h.cubic.3, h.cubic.4, h.cubic.5, h.cubic.6, h.cubic.7, h.cubic.8,
    (Nat.mod_lt _ (tcpCaMss_pos s.nego)).le.trans h.mss⟩

lemma ackedPackets_le (s : TcpSock) (acked : ℕ) (limited : Bool) : ackedPackets s acked limited ≤ u32Max := by
  rw [ackedPackets]
  split
  · exact Nat.min_le_right _ _
  · exact Nat.zero_le _

lemma tcpCongestionOnAck_words (h : CaWords s) (acked : ℕ) (limited : Bool) (hnow : s.env.now < 2 ^ 64) :
    CaWords (tcpCongestionOnAck s acked limited).1 := by
  by_cases hopen : s.cong.caState = .open
  · rw [tcpCongestionOnAck_open hopen]
    have ht := tcpCubicTakeAckedPackets_words h acked
    split
    · split
      · exact ht
      · next hn => exact tcpCubicCongAvoid_words ht hn (ackedPackets_le s acked limited) hnow
    · exact h
  · rw [tcpCongestionOnAck, if_pos hopen]
    split
    · have hs := tcpCaSetCwnd_words h h.ssthresh
      exact ⟨hs.mss, hs.cwnd, hs.ssthresh, hs.cubic.setCwndCnt (Nat.zero_le _)⟩
    · split
      · exact tcpCaSetCwnd_words h (Nat.min_le_right _ _)
      · exact h

lemma tcpCubicRecalcSsthresh_words (h : CaWords s) :
    CubicWords (tcpCubicRecalcSsthresh s).1 ∧ (tcpCubicRecalcSsthresh s).2 ≤ u32Max := by
  have hlast : (if tcpCubicCwndPackets s < s.cong.cubic.lastMaxCwnd then
      tcpCubicCwndPackets s * (1024 + 717) / (2 * 1024) else tcpCubicCwndPackets s) ≤ u32Max := by
    have hp := h.packets
    split
    · refine le_trans ?_ hp
      omega
    · exact hp
  exact ⟨⟨Nat.two_pow_pos 64, hlast, h.cubic.3, h.cubic.4, h.cubic.5, h.cubic.6, h.cubic.7, Nat.zero_le _, h.cubic.9⟩,
    Nat.min_le_right _ _⟩

lemma tcpCongestionOnDuplicateAck_words (h : CaWords s) (count : ℕ) :
    CaWords (tcpCongestionOnDuplicateAck s count).1 := by
  have hr := tcpCubicRecalcSsthresh_words h
  rw [tcpCongestionOnDuplicateAck]
  split
  · refine tcpCaSetCwnd_words ?_ (Nat.min_le_right _ _)
    exact ⟨h.mss, h.cwnd, hr.2, hr.1⟩
  · split
    · exact tcpCaSetCwnd_words h (Nat.min_le_right _ _)
    · exact h

lemma tcpCongestionOnTimeout_words (h : CaWords s) : CaWords (tcpCongestionOnTimeout s) := by
  have hr := tcpCubicRecalcSsthresh_words h
  have hset (x : TcpSock) (hx : CaWords x) : CaWords { tcpCaSetCwnd { x with cong.caState := .loss }
      (tcpCaMss x.nego) with cong.cubic := {} } := by
    have hs := tcpCaSetCwnd_words (s := { x with cong.caState := .loss }) ⟨hx.1, hx.2, hx.3, hx.4⟩ hx.mss
    exact ⟨hs.1, hs.2, hs.3, cubicWords_zero⟩
  rw [tcpCongestionOnTimeout]
  split
  · exact hset ({ s with
      cong.caPriorCwnd := s.cong.sndCwnd
      cong.cubic := (tcpCubicRecalcSsthresh s).1
      cong.sndSsthresh := (tcpCubicRecalcSsthresh s).2
      cong.caRecoverySeq := s.snd.sndNxt }) ⟨h.mss, h.cwnd, hr.2, hr.1⟩
  · exact hset s h

lemma tcpCaMss_le {n : Nego} (h : n.sndMss ≤ u32Max) : tcpCaMss n ≤ u32Max := by
  rw [tcpCaMss]
  split
  · decide
  · exact h

lemma tcpCongestionInit_words {n : Nego} (h : s.cong = tcpCongestionInit n) (hm : s.nego.sndMss ≤ u32Max) : CaWords s := by
  refine ⟨tcpCaMss_le hm, ?_, ?_, ?_⟩
  · rw [h]
    exact Nat.min_le_right _ _
  · rw [h]
    exact le_rfl
  · rw [h]
    exact cubicWords_zero

lemma caStep_words (h : CaWords s) {e : CaEvent} (he : e.Words) : CaWords (caStep s e) := by
  cases e with
  | ack now una acked limited => exact tcpCongestionOnAck_words (s := ackAt s now una) ⟨h.1, h.2, h.3, h.4⟩ acked limited he.1
  | dup nxt count => exact tcpCongestionOnDuplicateAck_words (s := { s with snd.sndNxt := nxt }) ⟨h.1, h.2, h.3, h.4⟩ count
  | timeout nxt => exact tcpCongestionOnTimeout_words (s := { s with snd.sndNxt := nxt }) ⟨h.1, h.2, h.3, h.4⟩
  | mss state size =>
    rw [caStep, tcpCongestionMssChanged]
    split
    · exact tcpCongestionInit_words rfl he
    · exact ⟨tcpCaMss_le he, h.2, h.3, h.4⟩

lemma run_words (h : s.cong = tcpCongestionInit s.nego) (hm : s.nego.sndMss ≤ u32Max) {es : List CaEvent}
    (hes : ∀ e ∈ es, e.Words) : CaWords (run caStep s es) := by
  have hmeets : Meets caStep (fun _ e => e.Words) s es := Meets.of_mem hes
  exact run_invariant (I := CaWords) (fun _ _ hw he => caStep_words hw he) (tcpCongestionInit_words h hm) hmeets

/-- One acknowledgement opens the window by no more than the packets it covers, as long as credits kept from a slower
phase do not buy more of them now; at the largest window nothing can go wrong. -/
theorem ack_growth_within_packets {s₀ : TcpSock} (h₀ : s₀.cong = tcpCongestionInit s₀.nego)
    (hm : s₀.nego.sndMss ≤ u32Max) {es : List CaEvent} (hes : ∀ e ∈ es, e.Words)
    (hopen : (run caStep s₀ es).cong.caState = .open) {now acked : ℕ} (hnow : now < 2 ^ 64) (una : Seq) (limited : Bool)
    (hs : s = ackAt (run caStep s₀ es) now una) :
    (tcpCongestionOnAck s acked limited).1.cong.sndCwnd ≤
        s.cong.sndCwnd + ackedPackets s acked limited * tcpCaMss s.nego ↔
      u32Max ≤ s.cong.sndCwnd + ackedPackets s acked limited * tcpCaMss s.nego ∨
        CreditsCovered (tcpCubicTakeAckedPackets s acked).1 (ackedPackets s acked limited) := by
  have hrun := run_words h₀ hm hes
  have hw : CaWords s := by
    rw [hs]
    exact ⟨hrun.1, hrun.2, hrun.3, hrun.4⟩
  have ho : s.cong.caState = .open := by
    rw [hs]
    exact hopen
  have hnow' : s.env.now < 2 ^ 64 := by
    rw [hs]
    exact hnow
  rcases Nat.lt_or_ge (s.cong.sndCwnd + ackedPackets s acked limited * tcpCaMss s.nego) u32Max with hroom | hfull
  · rw [or_iff_right (Nat.not_le.mpr hroom), tcpCongestionOnAck_open ho]
    split
    · by_cases hn : ackedPackets s acked limited = 0
      · rw [if_pos hn, hn]
        exact iff_of_true (Nat.le_add_right _ _) (CreditsCovered.zero _)
      · rw [if_neg hn]
        exact tcpCubicCongAvoid_le_iff (tcpCubicTakeAckedPackets_words hw acked) hn (ackedPackets_le s acked limited) hroom
    · next hidle =>
      have hzero : ackedPackets s acked limited = 0 := if_neg hidle
      rw [hzero]
      exact iff_of_true (Nat.le_add_right _ _) (CreditsCovered.zero _)
  · exact iff_of_true ((tcpCongestionOnAck_words hw acked limited hnow').cwnd.trans hfull) (.inl hfull)

def cubicSock : TcpSock :=
  { core := {}
    snd := { sndUna := 0, sndNxt := 0, sndEnd := 0, sendBufferLenMax := 262144 }
    rcv := { rcvWnd := 262144, recvBufferLenMax := 262144 }
    win := { sndWnd := 262144, lastAck := 0 }
    nego := { peerMss := 536, sndMss := 536, rcvMss := 536 }
    cong := tcpCongestionInit { peerMss := 536, sndMss := 536, rcvMss := 536 }
    retry := { retransmitTimeout := 1000 }
    tm := {}
    env := {} }

theorem ack_growth_within_packets_first :
    (tcpCongestionOnAck (ackAt cubicSock 1000 1072) 1072 true).1.cong.sndCwnd ≤ 5360 + 2 * 536 := by
  have hinit : cubicSock.cong = tcpCongestionInit cubicSock.nego := rfl
  have hes : ∀ e ∈ ([] : List CaEvent), e.Words := by simp
  refine (ack_growth_within_packets hinit (by decide) hes rfl (show 1000 < 2 ^ 64 by decide) 1072 true rfl).mpr (.inr ?_)
  rw [CreditsCovered]
  decide

/-- Early in an epoch a packet of growth costs seven credits, and three acknowledged packets stay credits. Ten minutes
later it costs two, and the next acknowledged packet opens the window by two. -/
theorem leftover_credits_overgrow :
    let s := ackAt (run caStep cubicSock [.dup 5360 3, .ack 900 5360 5360 true, .ack 1000 5896 536 true,
      .ack 1000 6432 536 true, .ack 1000 6968 536 true]) 700000 7504
    s.cong.caState = .open ∧ ackedPackets s 536 true = 1 ∧ s.cong.sndCwnd = 7 * 536 ∧
      (tcpCongestionOnAck s 536 true).1.cong.sndCwnd = 9 * 536 := by
  decide

end Netfast.Tcp
