import Netfast.Lib.Checked
import Netfast.Tcp.Cubic

/-! The CUBIC functions as the processor computes them, with 32-bit fields and 64-bit intermediates, and what the window
does over any history at a fixed segment size. -/

namespace Netfast.Tcp

open Serial Run Checked

def clampWords (value : ℕ) : Option ℕ := if u32Max < value then some u32Max else word 32 value

def saturatingAddWords (value increment : ℕ) : Option ℕ := do
  let result ← word 64 (value + increment)
  clampWords result

def cwndPacketsWords (s : TcpSock) : Option ℕ := do
  let packets ← quot s.cong.sndCwnd (tcpCaMss s.nego)
  some (max packets 1)

def setCwndPacketsWords (s : TcpSock) (packets : ℕ) : Option TcpSock := do
  let bytes ← word 64 (packets * tcpCaMss s.nego)
  let cwnd ← clampWords bytes
  some (tcpCaSetCwnd s cwnd)

def fitsWords (value mid : ℕ) : Option Bool :=
  if mid = 0 then some true else do
    let root ← quot value mid
    let root ← quot root mid
    some (decide (mid ≤ root))

def rootLoopWords (value : ℕ) : ℕ → ℕ → ℕ → Option ℕ
  | 0, low, high => if low < high then none else some low
  | k + 1, low, high =>
    if low < high then do
      let width ← minus high low
      let width ← word 32 (width + 1)
      let mid ← word 32 (low + width / 2)
      let fits ← fitsWords value mid
      if fits then rootLoopWords value k mid high else do
        let high ← minus mid 1
        rootLoopWords value k low high
    else some low

def kValueWords (distance : ℕ) : Option ℕ := do
  let scale ← word 64 (5 * 1000000000)
  let limit ← quot (2 ^ 64 - 1) scale
  if limit < distance then some (2 ^ 64 - 1) else word 64 (distance * scale)

def kMsWords (distance : ℕ) : Option ℕ := do
  let value ← kValueWords distance
  rootLoopWords (value / 2) 22 0 2642245

def deltaWords (offsetMs : ℕ) : Option ℕ := do
  let offset := min offsetMs 600000
  let square ← word 64 (offset * offset)
  let cube ← word 64 (square * offset)
  let scaled ← word 64 (2 * cube)
  let divisor ← word 64 (5 * 1000000000)
  let delta ← quot scaled divisor
  clampWords delta

def epochWords (c : Cubic) (now cwnd acked : ℕ) : Option Cubic := do
  let ackCnt ← saturatingAddWords c.ackCnt acked
  let c := { c with ackCnt }
  if c.epochStartMs = 0 then
    let c := { c with epochStartMs := if now = 0 then 1 else now, ackCnt := acked, tcpCwnd := cwnd }
    if c.lastMaxCwnd ≤ cwnd then some { c with kMs := 0, originPoint := cwnd }
    else do
      let distance ← minus c.lastMaxCwnd cwnd
      let kMs ← kMsWords distance
      some { c with kMs, originPoint := c.lastMaxCwnd }
  else some c

def elapsedWords (now start : ℕ) : Option ℕ := if start ≤ now then minus now start else some 0

def offsetWords (elapsed kMs : ℕ) : Option ℕ := if kMs < elapsed then minus elapsed kMs else minus kMs elapsed

def targetWords (c : Cubic) (now : ℕ) : Option ℕ := do
  let elapsed ← elapsedWords now c.epochStartMs
  let offset ← offsetWords elapsed c.kMs
  let delta ← deltaWords offset
  if elapsed < c.kMs then (if c.originPoint ≤ delta then some 1 else minus c.originPoint delta)
  else saturatingAddWords c.originPoint delta

def thresholdWords (cwnd : ℕ) : Option ℕ := do
  let product ← word 64 (cwnd * 15)
  if u32Max < product / 8 then some u32Max else do
    let threshold ← word 32 (product / 8)
    some (max threshold 1)

def stepsWords (c : Cubic) (threshold : ℕ) : Option Cubic :=
  if threshold < c.ackCnt then do
    let less ← minus c.ackCnt 1
    let steps ← quot less threshold
    let taken ← word 32 (steps * threshold)
    let ackCnt ← minus c.ackCnt taken
    let tcpCwnd ← saturatingAddWords c.tcpCwnd steps
    some { c with ackCnt, tcpCwnd }
  else some c

def friendlyWords (c : Cubic) (cwnd : ℕ) : Option Cubic := do
  let threshold ← thresholdWords cwnd
  let c ← stepsWords c threshold
  if cwnd < c.tcpCwnd then do
    let difference ← minus c.tcpCwnd cwnd
    let friendlyCnt ← quot cwnd difference
    some { c with cnt := min c.cnt (max friendlyCnt 1) }
  else some c

def cntWords (cwnd target : ℕ) : Option ℕ :=
  if cwnd < target then do
    let difference ← minus target cwnd
    let cnt ← quot cwnd difference
    some (max cnt 1)
  else do
    let product ← word 64 (100 * cwnd)
    saturatingAddWords 0 product

def updateWords (c : Cubic) (now cwnd acked : ℕ) : Option Cubic := do
  let c ← epochWords c now cwnd acked
  let target ← targetWords c now
  let cnt ← cntWords cwnd target
  let c := { c with cnt }
  let c := if c.lastMaxCwnd = 0 ∧ 20 < c.cnt then { c with cnt := 20 } else c
  let c ← friendlyWords c cwnd
  some { c with cnt := max c.cnt 2 }

def slowStartWords (s : TcpSock) (acked : ℕ) : Option (TcpSock × ℕ) := do
  let cwnd ← cwndPacketsWords s
  let ssthresh ← quot s.cong.sndSsthresh (tcpCaMss s.nego)
  let ssthresh := max ssthresh 2
  if ssthresh ≤ cwnd then some (s, acked)
  else do
    let missing ← minus ssthresh cwnd
    let increase := min acked missing
    let packets ← word 64 (cwnd + increase)
    let s₁ ← setCwndPacketsWords s packets
    let rest ← minus acked increase
    some (s₁, rest)

def avoidWords (s : TcpSock) (acked : ℕ) : Option TcpSock := do
  let cwnd ← cwndPacketsWords s
  let c ← updateWords s.cong.cubic s.env.now cwnd acked
  let credits ← word 64 (c.cwndCnt + acked)
  let increase ← quot credits c.cnt
  let increase ← word 32 increase
  let cwndCnt ← rem credits c.cnt
  let cwndCnt ← word 32 cwndCnt
  let s₁ : TcpSock := { s with cong.cubic := { c with cwndCnt } }
  if increase = 0 then some s₁ else do
    let packets ← word 64 (cwnd + increase)
    setCwndPacketsWords s₁ packets

def congAvoidWords (s : TcpSock) (acked : ℕ) : Option TcpSock := do
  if s.cong.sndCwnd < s.cong.sndSsthresh then do
    let r ← slowStartWords s acked
    if r.2 = 0 then some r.1 else avoidWords r.1 r.2
  else avoidWords s acked

def lastMaxWords (cwnd lastMaxCwnd : ℕ) : Option ℕ :=
  if cwnd < lastMaxCwnd then do
    let product ← word 64 (cwnd * (1024 + 717))
    word 32 (product / (2 * 1024))
  else some cwnd

def recalcWords (s : TcpSock) : Option (Cubic × ℕ) := do
  let c := s.cong.cubic
  let cwnd ← cwndPacketsWords s
  let lastMaxCwnd ← lastMaxWords cwnd c.lastMaxCwnd
  let product ← word 64 (cwnd * 717)
  let threshold ← word 32 (product / 1024)
  let bytes ← word 64 (max threshold 2 * tcpCaMss s.nego)
  let ssthresh ← clampWords bytes
  some ({ c with epochStartMs := 0, cwndCnt := 0, lastMaxCwnd }, ssthresh)

def initWords (n : Nego) : Option CongState := do
  let initial ← word 64 (10 * tcpCaMss n)
  let sndCwnd ← clampWords initial
  some { sndCwnd, sndSsthresh := u32Max }

def onAckWords (s : TcpSock) (ackedBytes : ℕ) (wasCwndLimited : Bool) : Option TcpSock :=
  if s.cong.caState ≠ .open then
    if geq s.snd.sndUna s.cong.caRecoverySeq then
      some { tcpCaSetCwnd s s.cong.sndSsthresh with cong.caState := .open, cong.cubic.cwndCnt := 0 }
    else if s.cong.caState = .recovery then do
      let cwnd ← saturatingAddWords s.cong.sndSsthresh (tcpCaMss s.nego)
      some (tcpCaSetCwnd s cwnd)
    else some s
  else if wasCwndLimited && ackedBytes != 0 then do
    let total ← word 64 (s.cong.cubic.ackedBytes + ackedBytes)
    let packets ← quot total (tcpCaMss s.nego)
    let left ← rem total (tcpCaMss s.nego)
    let left ← word 32 left
    let packets ← clampWords packets
    let s₁ : TcpSock := { s with cong.cubic.ackedBytes := left }
    if packets = 0 then some s₁ else congAvoidWords s₁ packets
  else some s

def onDuplicateAckWords (s : TcpSock) (duplicateAcks : ℕ) : Option TcpSock :=
  if duplicateAcks = 3 ∧ s.cong.caState = .open then do
    let r ← recalcWords s
    let s₁ : TcpSock := { s with
      cong.caPriorCwnd := s.cong.sndCwnd
      cong.cubic := r.1
      cong.sndSsthresh := r.2
      cong.caRecoverySeq := s.snd.sndNxt
      cong.caState := .recovery }
    let product ← word 64 (3 * tcpCaMss s.nego)
    let cwnd ← saturatingAddWords r.2 product
    some (tcpCaSetCwnd s₁ cwnd)
  else if 3 < duplicateAcks ∧ s.cong.caState = .recovery then do
    let cwnd ← saturatingAddWords s.cong.sndCwnd (tcpCaMss s.nego)
    some (tcpCaSetCwnd s cwnd)
  else some s

def enterLossWords (s : TcpSock) : Option TcpSock :=
  if s.cong.caState = .open then do
    let r ← recalcWords s
    some { s with
      cong.caPriorCwnd := s.cong.sndCwnd
      cong.cubic := r.1
      cong.sndSsthresh := r.2
      cong.caRecoverySeq := s.snd.sndNxt }
  else some s

def onTimeoutWords (s : TcpSock) : Option TcpSock := do
  let s₁ ← enterLossWords s
  some { tcpCaSetCwnd { s₁ with cong.caState := .loss } (tcpCaMss s.nego) with cong.cubic := {} }

def caStepWords (s : TcpSock) : CaEvent → Option TcpSock
  | .ack now una acked limited => onAckWords (ackAt s now una) acked limited
  | .dup nxt count => onDuplicateAckWords { s with snd.sndNxt := nxt } count
  | .timeout nxt => onTimeoutWords { s with snd.sndNxt := nxt }
  | .mss state size =>
    if state = .closed ∨ state = .synSent ∨ state = .synReceived then do
      let cong ← initWords { s.nego with sndMss := size }
      some { s with core.state := state, nego.sndMss := size, cong }
    else some { s with core.state := state, nego.sndMss := size }

variable {s : TcpSock}

lemma clampWords_eq (v : ℕ) : clampWords v = some (min v u32Max) := by
  rw [clampWords]
  split
  · next h => rw [Nat.min_eq_right h.le]
  · next h =>
    rw [Nat.not_lt] at h
    rw [Nat.min_eq_left h]
    exact word_eq (lt_of_le_of_lt h (by decide))

lemma saturatingAddWords_eq {v inc : ℕ} (h : v + inc < 2 ^ 64) :
    saturatingAddWords v inc = some (tcpCaSaturatingAdd v inc) := by
  rw [saturatingAddWords, word_bind h, clampWords_eq]
  rfl

lemma cwndPacketsWords_eq (s : TcpSock) : cwndPacketsWords s = some (tcpCubicCwndPackets s) :=
  quot_bind (tcpCaMss_pos s.nego) _

lemma packets_mul_le (h : CaWords s) {inc : ℕ} (hinc : inc < 2 ^ 32) :
    (tcpCubicCwndPackets s + inc) * tcpCaMss s.nego < 2 ^ 64 := by
  have hu : u32Max = 2 ^ 32 - 1 := rfl
  have hm := h.mss
  have hc := h.cwnd
  have hbase : tcpCubicCwndPackets s * tcpCaMss s.nego ≤ u32Max := by
    rw [tcpCubicCwndPackets]
    rcases Nat.le_total (s.cong.sndCwnd / tcpCaMss s.nego) 1 with hle | hle
    · rw [Nat.max_eq_right hle, Nat.one_mul]
      exact hm
    · rw [Nat.max_eq_left hle]
      exact (Nat.div_mul_le_self _ _).trans hc
  have hgrow : inc * tcpCaMss s.nego ≤ u32Max * u32Max := Nat.mul_le_mul (by omega) hm
  have hmax : u32Max + u32Max * u32Max < 2 ^ 64 := by decide
  rw [Nat.add_mul]
  omega

lemma setCwndPacketsWords_eq {p : ℕ} (h : p * tcpCaMss s.nego < 2 ^ 64) :
    setCwndPacketsWords s p = some (tcpCubicSetCwndPackets s p) := by
  rw [setCwndPacketsWords, word_bind h, clampWords_eq]
  rfl

lemma rootLoopWords_eq (value k : ℕ) {low high : ℕ} (hle : low ≤ high) (hw : high - low < 2 ^ k) (hh : high < 2 ^ 31) :
    rootLoopWords value k low high = some (cubicRootLoop value k low high) := by
  induction k generalizing low high with
  | zero =>
    rw [rootLoopWords, cubicRootLoop, if_neg (by omega)]
  | succ k ih =>
    rw [Nat.pow_succ] at hw
    rw [rootLoopWords, cubicRootLoop]
    split
    · next hlt =>
      have hmid : 0 < low + (high - low + 1) / 2 := by omega
      have hfits : fitsWords value (low + (high - low + 1) / 2) = some (decide (low + (high - low + 1) / 2 ≤
          value / (low + (high - low + 1) / 2) / (low + (high - low + 1) / 2))) := by
        rw [fitsWords, if_neg (Nat.ne_of_gt hmid), quot_bind hmid, quot_bind hmid]
      rw [minus_bind hlt.le, word_bind (by omega), word_bind (by omega), hfits, some_bind]
      generalize heq : low + (high - low + 1) / 2 = mid at hmid ⊢
      simp only [decide_eq_true_eq, Nat.ne_of_gt hmid, false_or]
      split
      · exact ih (by omega) (by omega) hh
      · rw [minus_bind hmid]
        exact ih (by omega) (by omega) (by omega)
    · rfl

lemma rootWords_eq (value : ℕ) : rootLoopWords value 22 0 2642245 = some (tcpCubicRoot value) :=
  rootLoopWords_eq value 22 (Nat.zero_le _) (by decide) (by decide)

lemma fits_iff {mid : ℕ} (h : 0 < mid) (value : ℕ) : mid ≤ value / mid / mid ↔ mid ^ 3 ≤ value := by
  rw [Nat.div_div_eq_div_mul, Nat.le_div_iff_mul_le (Nat.mul_pos h h), pow_succ', pow_two]

/-- The root stays between the bounds, and each round halves their distance. -/
lemma cubicRootLoop_spec {value : ℕ} (k : ℕ) {low high : ℕ} (hle : low ≤ high) (hw : high - low < 2 ^ k)
    (hlow : low ^ 3 ≤ value) (hhigh : value < (high + 1) ^ 3) :
    cubicRootLoop value k low high ^ 3 ≤ value ∧ value < (cubicRootLoop value k low high + 1) ^ 3 := by
  induction k generalizing low high with
  | zero =>
    obtain rfl : low = high := by omega
    exact ⟨hlow, hhigh⟩
  | succ k ih =>
    rw [Nat.pow_succ] at hw
    rw [cubicRootLoop]
    split
    · next hlt =>
      dsimp only
      generalize heq : low + (high - low + 1) / 2 = mid
      have hmid : 0 < mid := by omega
      have hiff : mid = 0 ∨ mid ≤ value / mid / mid ↔ mid ^ 3 ≤ value := by
        rw [or_iff_right (Nat.ne_of_gt hmid), fits_iff hmid]
      split
      · next hfits => exact ih (by omega) (by omega) (hiff.mp hfits) hhigh
      · next hfits =>
        refine ih (by omega) (by omega) hlow ?_
        rw [Nat.sub_add_cancel hmid]
        exact Nat.lt_of_not_le (hiff.not.mp hfits)
    · obtain rfl : low = high := by omega
      exact ⟨hlow, hhigh⟩

/-- The search ends within its rounds, no step of it overflows, and what it finds is the one integer cube root. -/
theorem tcp_cubic_root_exact (value : ℕ) (h : value < 2 ^ 64) :
    rootLoopWords value 22 0 2642245 = some (tcpCubicRoot value) ∧
      ∀ r, r ^ 3 ≤ value ∧ value < (r + 1) ^ 3 ↔ r = tcpCubicRoot value := by
  obtain ⟨hle, hlt⟩ := cubicRootLoop_spec 22 (Nat.zero_le 2642245) (by decide) (by simp) (h.trans_le (by decide))
  refine ⟨rootWords_eq value, fun r => ⟨?_, ?_⟩⟩
  · rintro ⟨hr, hr'⟩
    have h₁ := lt_of_pow_lt_pow_left₀ 3 (Nat.zero_le _) (hr.trans_lt hlt)
    have h₂ := lt_of_pow_lt_pow_left₀ 3 (Nat.zero_le _) (hle.trans_lt hr')
    rw [tcpCubicRoot]
    omega
  · rintro rfl
    exact ⟨hle, hlt⟩

theorem tcp_cubic_root_exact_max : (2 : ℕ) ^ 64 - 1 < 2 ^ 64 ∧
    (2642245 ^ 3 ≤ 2 ^ 64 - 1 ∧ 2 ^ 64 - 1 < (2642245 + 1) ^ 3 ↔ 2642245 = tcpCubicRoot (2 ^ 64 - 1)) :=
  ⟨by decide, (tcp_cubic_root_exact (2 ^ 64 - 1) (by decide)).2 2642245⟩

lemma kMsWords_eq (d : ℕ) : kMsWords d = some (tcpCubicKMs d) := by
  have hvalue : kValueWords d = some (if (2 ^ 64 - 1) / (5 * 1000000000) < d then 2 ^ 64 - 1 else d * (5 * 1000000000)) := by
    rw [kValueWords, word_bind (by decide), quot_bind (by decide)]
    split
    · rfl
    · exact word_eq (by omega)
  rw [kMsWords, tcpCubicKMs, hvalue, some_bind, rootWords_eq]

lemma deltaWords_eq (offset : ℕ) : deltaWords offset = some (tcpCubicDelta offset) := by
  have hle : min offset 600000 ≤ 600000 := Nat.min_le_right _ _
  rw [deltaWords, tcpCubicDelta]
  generalize min offset 600000 = o at hle ⊢
  have hsquare : o * o ≤ 600000 * 600000 := Nat.mul_le_mul hle hle
  have hcube : o * o * o ≤ 600000 * 600000 * 600000 := Nat.mul_le_mul hsquare hle
  rw [word_bind (by omega), word_bind (by omega), word_bind (by omega), word_bind (by omega), quot_bind (by decide),
    clampWords_eq]

variable {c : Cubic}

lemma epochWords_eq (h : CubicWords c) {now cwnd n : ℕ} (hn : n ≤ u32Max) :
    epochWords c now cwnd n = some (cubicEpoch c now cwnd n) := by
  have hu : u32Max = 2 ^ 32 - 1 := rfl
  have ha := h.ackCnt
  rw [epochWords, cubicEpoch, saturatingAddWords_eq (by omega), some_bind]
  dsimp only
  generalize (if now = 0 then 1 else now) = start
  split
  · split
    · rfl
    · rw [minus_bind (by omega), kMsWords_eq, some_bind]
  · rfl

lemma targetWords_eq (h : CubicWords c) (now : ℕ) : targetWords c now = some (cubicTarget c now) := by
  have hu : u32Max = 2 ^ 32 - 1 := rfl
  have ho := h.originPoint
  have helapsed : elapsedWords now c.epochStartMs =
      some (if c.epochStartMs ≤ now then now - c.epochStartMs else 0) := by
    rw [elapsedWords]
    split
    · next hle => exact if_pos hle
    · rfl
  rw [targetWords, cubicTarget, helapsed, some_bind]
  generalize (if c.epochStartMs ≤ now then now - c.epochStartMs else 0) = elapsed
  have hoffset : offsetWords elapsed c.kMs = some (if c.kMs < elapsed then elapsed - c.kMs else c.kMs - elapsed) := by
    rw [offsetWords]
    split
    · next hlt => exact if_pos hlt.le
    · next hge => exact if_pos (Nat.not_lt.mp hge)
  rw [hoffset, some_bind, deltaWords_eq, some_bind]
  generalize (if c.kMs < elapsed then elapsed - c.kMs else c.kMs - elapsed) = offset
  have hdelta : tcpCubicDelta offset ≤ u32Max := Nat.min_le_right _ _
  split
  · split
    · rfl
    · next hlt => exact if_pos (Nat.not_le.mp hlt).le
  · exact saturatingAddWords_eq (by omega)

lemma thresholdWords_eq {cwnd : ℕ} (hw : cwnd ≤ u32Max) : thresholdWords cwnd =
    some (if u32Max < cwnd * 15 / 8 then u32Max else max (cwnd * 15 / 8) 1) := by
  have hu : u32Max = 2 ^ 32 - 1 := rfl
  rw [thresholdWords, word_bind (by omega)]
  split
  · rfl
  · rw [word_bind (by omega)]

lemma stepsWords_eq (h : CubicWords c) {threshold : ℕ} (hpos : 0 < threshold) : stepsWords c threshold =
    some (if threshold < c.ackCnt then { c with
      ackCnt := c.ackCnt - (c.ackCnt - 1) / threshold * threshold
      tcpCwnd := tcpCaSaturatingAdd c.tcpCwnd ((c.ackCnt - 1) / threshold) } else c) := by
  have hu : u32Max = 2 ^ 32 - 1 := rfl
  have ha := h.ackCnt
  have ht := h.tcpCwnd
  have hmul := Nat.div_mul_le_self (c.ackCnt - 1) threshold
  have hdiv := Nat.div_le_self (c.ackCnt - 1) threshold
  rw [stepsWords]
  split
  · rw [minus_bind (by omega), quot_bind hpos, word_bind (by omega), minus_bind (by omega),
      saturatingAddWords_eq (by omega), some_bind]
  · rfl

lemma friendlyWords_eq (h : CubicWords c) {cwnd : ℕ} (hw : cwnd ≤ u32Max) :
    friendlyWords c cwnd = some (cubicFriendly c cwnd) := by
  have hpos : 0 < if u32Max < cwnd * 15 / 8 then u32Max else max (cwnd * 15 / 8) 1 := by
    split
    · decide
    · omega
  rw [friendlyWords, cubicFriendly, thresholdWords_eq hw, some_bind, stepsWords_eq h hpos, some_bind]
  dsimp only
  generalize (if u32Max < cwnd * 15 / 8 then u32Max else max (cwnd * 15 / 8) 1) = threshold
  generalize (if threshold < c.ackCnt then { c with
    ackCnt := c.ackCnt - (c.ackCnt - 1) / threshold * threshold
    tcpCwnd := tcpCaSaturatingAdd c.tcpCwnd ((c.ackCnt - 1) / threshold) } else c) = c₁
  split
  · rw [minus_bind (by omega), quot_bind (by omega)]
  · rfl

lemma cntWords_eq {cwnd : ℕ} (hw : cwnd ≤ u32Max) (target : ℕ) : cntWords cwnd target =
    some (if cwnd < target then max (cwnd / (target - cwnd)) 1 else tcpCaSaturatingAdd 0 (100 * cwnd)) := by
  have hu : u32Max = 2 ^ 32 - 1 := rfl
  rw [cntWords]
  split
  · rw [minus_bind (by omega), quot_bind (by omega)]
  · rw [word_bind (by omega), saturatingAddWords_eq (by omega)]

lemma updateWords_eq (h : CubicWords c) {now cwnd n : ℕ} (hnow : now < 2 ^ 64) (hw : cwnd ≤ u32Max)
    (hn : n ≤ u32Max) : updateWords c now cwnd n = some (tcpCubicUpdate c now cwnd n) := by
  have hepoch := cubicEpoch_words h hnow hw hn
  rw [updateWords, tcpCubicUpdate, epochWords_eq h hn, some_bind, targetWords_eq hepoch, some_bind, cntWords_eq hw,
    some_bind]
  dsimp only
  generalize cubicEpoch c now cwnd n = c₁ at hepoch ⊢
  have hcnt : (if cwnd < cubicTarget c₁ now then
      max (cwnd / (cubicTarget c₁ now - cwnd)) 1 else tcpCaSaturatingAdd 0 (100 * cwnd)) ≤ u32Max :=
    cubicCnt_le hw _
  generalize (if cwnd < cubicTarget c₁ now then
    max (cwnd / (cubicTarget c₁ now - cwnd)) 1 else tcpCaSaturatingAdd 0 (100 * cwnd)) = cnt at hcnt ⊢
  split
  · rw [friendlyWords_eq ((hepoch.setCnt hcnt).setCnt (show 20 ≤ u32Max by decide)) hw, some_bind]
  · rw [friendlyWords_eq (hepoch.setCnt hcnt) hw, some_bind]

lemma slowStartWords_eq (h : CaWords s) {n : ℕ} (hn : n ≤ u32Max) :
    slowStartWords s n = some (tcpCubicSlowStart s n) := by
  have hu : u32Max = 2 ^ 32 - 1 := rfl
  have hp := h.packets
  rw [slowStartWords, tcpCubicSlowStart, cwndPacketsWords_eq, some_bind, quot_bind (tcpCaMss_pos s.nego)]
  dsimp only
  split
  · rfl
  · next hlt =>
    rw [minus_bind (Nat.not_le.mp hlt).le, word_bind (by omega),
      setCwndPacketsWords_eq (packets_mul_le h (by omega)), some_bind, minus_bind (Nat.min_le_left _ _)]

lemma avoidWords_eq (h : CaWords s) {n : ℕ} (hn : n ≤ u32Max) (hnow : s.env.now < 2 ^ 64) :
    avoidWords s n = some (cubicAvoid s n) := by
  have hu : u32Max = 2 ^ 32 - 1 := rfl
  have hp := h.packets
  have hc := tcpCubicUpdate_words h.cubic hnow hp hn
  have hgrow := growth_lt h hn
  have hkept := (tcpCubicUpdate_kept s.cong.cubic s.env.now (tcpCubicCwndPackets s) n).1
  have hdiv := growthDivisor_ge s n
  rw [growth, growthDivisor, ← hkept] at hgrow
  rw [growthDivisor] at hdiv
  rw [avoidWords, cubicAvoid, cwndPacketsWords_eq, some_bind, updateWords_eq h.cubic hnow hp hn, some_bind]
  have hcredit := hc.cwndCnt
  have hcnt := hc.cnt
  dsimp only
  generalize tcpCubicUpdate s.cong.cubic s.env.now (tcpCubicCwndPackets s) n = c at hgrow hdiv hcredit hcnt ⊢
  have hmod := Nat.mod_lt (c.cwndCnt + n) (show 0 < c.cnt by omega)
  rw [word_bind (by omega), quot_bind (by omega), word_bind hgrow, rem_bind (by omega), word_bind (by omega),
    Nat.mod_eq_of_lt hgrow]
  split
  · rfl
  · rw [word_bind (by omega)]
    exact setCwndPacketsWords_eq (s := { s with cong.cubic := { c with cwndCnt := (c.cwndCnt + n) % c.cnt } })
      (packets_mul_le h hgrow)

lemma congAvoidWords_eq (h : CaWords s) {n : ℕ} (hn : n ≠ 0) (hnu : n ≤ u32Max) (hnow : s.env.now < 2 ^ 64) :
    congAvoidWords s n = some (tcpCubicCongAvoid s n) := by
  rw [congAvoidWords, tcpCubicCongAvoid]
  split
  · rw [slowStartWords_eq h hnu, some_bind]
    obtain ⟨-, hs⟩ | ⟨-, t, hs⟩ := tcpCubicSlowStart_cong s n
    · rw [hs]
      dsimp only
      rw [if_neg hn, if_neg hn]
      exact avoidWords_eq h hnu hnow
    · rw [hs]
      dsimp only
      split
      · rfl
      · exact avoidWords_eq (h.setCwnd (packetWindow_le_max h _) t) ((Nat.sub_le _ _).trans hnu) hnow
  · exact avoidWords_eq h hnu hnow

lemma recalcWords_eq (h : CaWords s) : recalcWords s = some (tcpCubicRecalcSsthresh s) := by
  have hu : u32Max = 2 ^ 32 - 1 := rfl
  have hp := h.packets
  have hlast : lastMaxWords (tcpCubicCwndPackets s) s.cong.cubic.lastMaxCwnd =
      some (if tcpCubicCwndPackets s < s.cong.cubic.lastMaxCwnd then
        tcpCubicCwndPackets s * (1024 + 717) / (2 * 1024) else tcpCubicCwndPackets s) := by
    rw [lastMaxWords]
    split
    · rw [word_bind (by omega)]
      exact word_eq (by omega)
    · rfl
  have hbytes : max (tcpCubicCwndPackets s * 717 / 1024) 2 * tcpCaMss s.nego ≤ u32Max * u32Max :=
    Nat.mul_le_mul (by omega) h.mss
  have hmax : u32Max * u32Max < 2 ^ 64 := by decide
  rw [recalcWords, tcpCubicRecalcSsthresh, cwndPacketsWords_eq, some_bind, hlast, some_bind, word_bind (by omega),
    word_bind (by omega), word_bind (by omega), clampWords_eq, some_bind]

lemma initWords_eq {n : Nego} (h : tcpCaMss n ≤ u32Max) : initWords n = some (tcpCongestionInit n) := by
  have hu : u32Max = 2 ^ 32 - 1 := rfl
  rw [initWords, word_bind (by omega), clampWords_eq, some_bind, tcpCongestionInit]

lemma onAckWords_eq (h : CaWords s) {acked : ℕ} (hacked : acked ≤ u32Max) (limited : Bool) (hnow : s.env.now < 2 ^ 64) :
    onAckWords s acked limited = some (tcpCongestionOnAck s acked limited).1 := by
  have hu : u32Max = 2 ^ 32 - 1 := rfl
  have hm := h.mss
  have hmpos := tcpCaMss_pos s.nego
  have hss := h.ssthresh
  rw [onAckWords, tcpCongestionOnAck]
  split
  · split
    · rfl
    split
    · rw [saturatingAddWords_eq (by omega), some_bind]
    · rfl
  split
  · have hb := h.cubic.ackedBytes
    have hmod := Nat.mod_lt (s.cong.cubic.ackedBytes + acked) hmpos
    rw [word_bind (by omega), quot_bind hmpos, rem_bind hmpos, word_bind (by omega), clampWords_eq, some_bind]
    dsimp only
    split
    · rfl
    · next hn =>
      exact congAvoidWords_eq (tcpCubicTakeAckedPackets_words h acked) hn (Nat.min_le_right _ _) hnow
  · rfl

lemma onDuplicateAckWords_eq (h : CaWords s) (count : ℕ) :
    onDuplicateAckWords s count = some (tcpCongestionOnDuplicateAck s count).1 := by
  have hu : u32Max = 2 ^ 32 - 1 := rfl
  have hm := h.mss
  have hc := h.cwnd
  have hr := (tcpCubicRecalcSsthresh_words h).2
  rw [onDuplicateAckWords, tcpCongestionOnDuplicateAck]
  split
  · rw [recalcWords_eq h, some_bind, word_bind (by omega), saturatingAddWords_eq (by omega), some_bind]
  split
  · rw [saturatingAddWords_eq (by omega), some_bind]
  · rfl

lemma onTimeoutWords_eq (h : CaWords s) : onTimeoutWords s = some (tcpCongestionOnTimeout s) := by
  rw [onTimeoutWords, tcpCongestionOnTimeout, enterLossWords]
  split
  · rw [recalcWords_eq h]
    rfl
  · rfl

variable {e : CaEvent}

lemma caStepWords_eq (h : CaWords s) (he : e.Words) : caStepWords s e = some (caStep s e) := by
  cases e with
  | ack now una acked limited =>
    exact onAckWords_eq (s := ackAt s now una) ⟨h.1, h.2, h.3, h.4⟩ he.2 limited he.1
  | dup nxt count => exact onDuplicateAckWords_eq (s := { s with snd.sndNxt := nxt }) ⟨h.1, h.2, h.3, h.4⟩ count
  | timeout nxt => exact onTimeoutWords_eq (s := { s with snd.sndNxt := nxt }) ⟨h.1, h.2, h.3, h.4⟩
  | mss state size =>
    rw [caStepWords, caStep, tcpCongestionMssChanged]
    split
    · rw [initWords_eq, some_bind]
      exact tcpCaMss_le he
    · rfl

lemma packetWindow_ge {mss w inc : ℕ} (hm : 0 < mss) (hw : w ≤ u32Max) (hinc : 0 < inc) :
    w ≤ packetWindow mss (max (w / mss) 1 + inc) := by
  have hlt : w < (w / mss + 1) * mss := Nat.lt_mul_of_div_lt (Nat.lt_succ_self _) hm
  have hmul := Nat.mul_le_mul_right mss (show w / mss + 1 ≤ max (w / mss) 1 + inc by omega)
  exact (Nat.le_min.mpr ⟨hlt.le.trans hmul, hw⟩).trans (le_max_left _ _)

lemma cubicAvoid_cwnd_ge (h : CaWords s) {n : ℕ} (hn : n ≤ u32Max) : s.cong.sndCwnd ≤ (cubicAvoid s n).cong.sndCwnd := by
  rw [cubicAvoid_cwnd h hn]
  split
  · exact le_rfl
  · next hg => exact packetWindow_ge (tcpCaMss_pos s.nego) h.cwnd (Nat.pos_of_ne_zero hg)

lemma tcpCubicCongAvoid_cwnd_ge (h : CaWords s) {n : ℕ} (hn : n ≠ 0) (hnu : n ≤ u32Max) :
    s.cong.sndCwnd ≤ (tcpCubicCongAvoid s n).cong.sndCwnd := by
  rw [tcpCubicCongAvoid_eq s hn]
  obtain hb | ⟨inc, t, hpos, -, hb⟩ := beforeAvoidance_cases s hn
  · rw [hb, if_neg hn]
    exact cubicAvoid_cwnd_ge h hnu
  · have hup := packetWindow_ge (tcpCaMss_pos s.nego) h.cwnd hpos
    have hs := h.setCwnd (packetWindow_le_max h (tcpCubicCwndPackets s + inc)) t
    rw [hb]
    split
    · exact hup
    · exact hup.trans (cubicAvoid_cwnd_ge hs ((Nat.sub_le _ _).trans hnu))

lemma tcpCongestionOnAck_cwnd_ge (h : CaWords s) (hopen : s.cong.caState = .open) (acked : ℕ) (limited : Bool) :
    s.cong.sndCwnd ≤ (tcpCongestionOnAck s acked limited).1.cong.sndCwnd := by
  rw [tcpCongestionOnAck_open hopen]
  split
  · split
    · exact le_rfl
    · next hn =>
      exact tcpCubicCongAvoid_cwnd_ge (tcpCubicTakeAckedPackets_words h acked) hn (ackedPackets_le s acked limited)
  · exact le_rfl

lemma tcpCaSetCwnd_mss {m : ℕ} (hm : tcpCaMss s.nego = m) (w : ℕ) : m ≤ (tcpCaSetCwnd s w).cong.sndCwnd := by
  obtain ⟨t, ht⟩ := tcpCaSetCwnd_cong s w
  rw [ht, ← hm]
  exact le_max_right _ _

lemma tcpCongestionOnAck_mss (h : CaWords s) (hm : tcpCaMss s.nego ≤ s.cong.sndCwnd) (acked : ℕ) (limited : Bool) :
    tcpCaMss s.nego ≤ (tcpCongestionOnAck s acked limited).1.cong.sndCwnd := by
  by_cases hopen : s.cong.caState = .open
  · exact hm.trans (tcpCongestionOnAck_cwnd_ge h hopen acked limited)
  · rw [tcpCongestionOnAck, if_pos hopen]
    split
    · exact tcpCaSetCwnd_mss rfl s.cong.sndSsthresh
    split
    · exact tcpCaSetCwnd_mss rfl _
    · exact hm

lemma tcpCongestionOnDuplicateAck_mss (hm : tcpCaMss s.nego ≤ s.cong.sndCwnd) (count : ℕ) :
    tcpCaMss s.nego ≤ (tcpCongestionOnDuplicateAck s count).1.cong.sndCwnd := by
  rw [tcpCongestionOnDuplicateAck]
  split
  · exact tcpCaSetCwnd_mss (by rfl) _
  split
  · exact tcpCaSetCwnd_mss rfl _
  · exact hm

lemma tcpCongestionOnTimeout_mss (s : TcpSock) : tcpCaMss s.nego ≤ (tcpCongestionOnTimeout s).cong.sndCwnd := by
  rw [tcpCongestionOnTimeout]
  split
  · exact tcpCaSetCwnd_mss (by rfl) (tcpCaMss s.nego)
  · exact tcpCaSetCwnd_mss (by rfl) (tcpCaMss s.nego)

def CaEvent.keepsMss : CaEvent → Prop
  | .mss _ _ => False
  | _ => True

lemma caStep_nego (s : TcpSock) (he : e.keepsMss) : (caStep s e).nego = s.nego := by
  cases e with
  | ack now una acked limited =>
    obtain ⟨c, t, h, -⟩ := tcpCongestionOnAck_spec (ackAt s now una) acked limited
    rw [caStep, h]
    rfl
  | dup nxt count =>
    obtain ⟨c, t, b, h, -⟩ := tcpCongestionOnDuplicateAck_spec { s with snd.sndNxt := nxt } count
    rw [caStep, h]
  | timeout nxt =>
    obtain ⟨c, t, h, -⟩ := tcpCongestionOnTimeout_spec { s with snd.sndNxt := nxt }
    rw [caStep, h]
  | mss state size => exact he.elim

lemma caStep_mss_le (h : CaWords s) (hm : tcpCaMss s.nego ≤ s.cong.sndCwnd) (he : e.keepsMss) :
    tcpCaMss s.nego ≤ (caStep s e).cong.sndCwnd := by
  cases e with
  | ack now una acked limited =>
    exact tcpCongestionOnAck_mss (s := ackAt s now una) ⟨h.1, h.2, h.3, h.4⟩ hm acked limited
  | dup nxt count => exact tcpCongestionOnDuplicateAck_mss (s := { s with snd.sndNxt := nxt }) hm count
  | timeout nxt => exact tcpCongestionOnTimeout_mss { s with snd.sndNxt := nxt }
  | mss state size => exact he.elim

/-- Slow start takes no packet any more. -/
def InAvoidance (s : TcpSock) : Prop :=
  s.cong.caState = .open ∧
    (s.cong.sndSsthresh ≤ s.cong.sndCwnd ∨ startThreshold s ≤ tcpCubicCwndPackets s)

def CaEvent.isAck : CaEvent → Prop
  | .ack _ _ _ _ => True
  | _ => False

def CaEvent.packets (s : TcpSock) : CaEvent → ℕ
  | .ack now una acked limited => ackedPackets (ackAt s now una) acked limited
  | _ => 0

def phasePackets : TcpSock → List CaEvent → ℕ
  | _, [] => 0
  | s, e :: es => e.packets s + phasePackets (caStep s e) es

lemma beforeAvoidance_eq (hlarge : s.cong.sndSsthresh ≤ s.cong.sndCwnd ∨ startThreshold s ≤ tcpCubicCwndPackets s)
    (n : ℕ) : beforeAvoidance s n = (s, n) := by
  rw [beforeAvoidance]
  split
  · next hlt =>
    obtain ⟨-, h⟩ | ⟨hfew, -⟩ := tcpCubicSlowStart_cong s n
    · exact h
    · omega
  · rfl

lemma packets_packetWindow_le {mss p : ℕ} (hm : 0 < mss) (hp : 0 < p) : max (packetWindow mss p / mss) 1 ≤ p := by
  have hle : packetWindow mss p ≤ p * mss :=
    max_le (Nat.min_le_left _ _) (Nat.le_mul_of_pos_left mss hp)
  exact max_le ((Nat.div_le_div_right hle).trans_eq (Nat.mul_div_cancel p hm)) hp

lemma cubicAvoid_paid (h : CaWords s) {n : ℕ} (hn : n ≤ u32Max) :
    2 * tcpCubicCwndPackets (cubicAvoid s n) + (cubicAvoid s n).cong.cubic.cwndCnt ≤
      2 * tcpCubicCwndPackets s + s.cong.cubic.cwndCnt + n := by
  have hdiv := Nat.div_add_mod (s.cong.cubic.cwndCnt + n) (growthDivisor s n)
  have htwo := Nat.mul_le_mul_right (growth s n) (growthDivisor_ge s n)
  have hpackets : tcpCubicCwndPackets (cubicAvoid s n) ≤ tcpCubicCwndPackets s + growth s n := by
    obtain ⟨t, ht⟩ := cubicAvoid_cong h hn
    rw [ht]
    rcases Nat.eq_zero_or_pos (growth s n) with hzero | hpos
    · simp only [tcpCubicCwndPackets, if_pos hzero]
      exact Nat.le_add_right _ _
    · simp only [tcpCubicCwndPackets, if_neg (Nat.ne_of_gt hpos)]
      exact packets_packetWindow_le (tcpCaMss_pos s.nego) (by omega)
  have hcredits : (cubicAvoid s n).cong.cubic.cwndCnt = (s.cong.cubic.cwndCnt + n) % growthDivisor s n := by
    obtain ⟨t, ht⟩ := cubicAvoid_cong h hn
    rw [ht]
  rw [hcredits]
  rw [growth] at htwo hpackets
  omega

lemma caStep_paid (h : CaWords s) (hav : InAvoidance s) (he : e.isAck) :
    2 * tcpCubicCwndPackets (caStep s e) + (caStep s e).cong.cubic.cwndCnt ≤
      2 * tcpCubicCwndPackets s + s.cong.cubic.cwndCnt + e.packets s := by
  cases e with
  | ack now una acked limited =>
    have ha : CaWords (ackAt s now una) := ⟨h.1, h.2, h.3, h.4⟩
    have ht := tcpCubicTakeAckedPackets_words ha acked
    rw [caStep, tcpCongestionOnAck_open (s := ackAt s now una) hav.1, CaEvent.packets]
    split
    · split
      · exact Nat.le_add_right _ _
      · next hn =>
        rw [tcpCubicCongAvoid_eq _ hn, beforeAvoidance_eq (s := (tcpCubicTakeAckedPackets (ackAt s now una) acked).1) hav.2,
          if_neg hn]
        exact cubicAvoid_paid ht (ackedPackets_le _ _ _)
    · exact Nat.le_add_right _ _
  | dup nxt count => exact he.elim
  | timeout nxt => exact he.elim
  | mss state size => exact he.elim

lemma phase_paid (h : CaWords s) {es : List CaEvent} (hes : ∀ e ∈ es, e.Words)
    (hphase : Meets caStep (fun s e => InAvoidance s ∧ e.isAck) s es) :
    2 * tcpCubicCwndPackets (run caStep s es) + (run caStep s es).cong.cubic.cwndCnt ≤
      2 * tcpCubicCwndPackets s + s.cong.cubic.cwndCnt + phasePackets s es := by
  induction es generalizing s with
  | nil => exact le_rfl
  | cons e es ih =>
    have hstep := caStep_paid h hphase.1.1 hphase.1.2
    have hrest := ih (caStep_words h (hes e List.mem_cons_self)) (fun e' he' => hes e' (List.mem_cons_of_mem e he')) hphase.2
    rw [phasePackets]
    change 2 * tcpCubicCwndPackets (run caStep (caStep s e) es) + (run caStep (caStep s e) es).cong.cubic.cwndCnt ≤ _
    omega

/-- What every event keeps at the segment size `mss`: a window of one segment, no loss of window on an acknowledgement in
the open state, and arithmetic that stays in its types. -/
def StepSafe (mss : ℕ) (s : TcpSock) (e : CaEvent) : Prop :=
  mss ≤ (caStep s e).cong.sndCwnd ∧
    (e.isAck → s.cong.caState = .open → s.cong.sndCwnd ≤ (caStep s e).cong.sndCwnd) ∧
    caStepWords s e = some (caStep s e)

structure AtSize (mss : ℕ) (s : TcpSock) : Prop where
  words : CaWords s
  size : tcpCaMss s.nego = mss
  least : mss ≤ s.cong.sndCwnd

lemma AtSize.step {mss : ℕ} (h : AtSize mss s) (he : e.Words ∧ e.keepsMss) : AtSize mss (caStep s e) := by
  refine ⟨caStep_words h.words he.1, (congrArg tcpCaMss (caStep_nego s he.2)).trans h.size, ?_⟩
  rw [← h.size]
  exact caStep_mss_le h.words (h.size.trans_le h.least) he.2

lemma AtSize.stepSafe {mss : ℕ} (h : AtSize mss s) (he : e.Words ∧ e.keepsMss) : StepSafe mss s e := by
  refine ⟨(h.step he).least, fun hack hopen => ?_, caStepWords_eq h.words he.1⟩
  cases e with
  | ack now una acked limited =>
    have hw := h.words
    exact tcpCongestionOnAck_cwnd_ge (s := ackAt s now una) ⟨hw.1, hw.2, hw.3, hw.4⟩ hopen acked limited
  | dup nxt count => exact hack.elim
  | timeout nxt => exact hack.elim
  | mss state size => exact hack.elim

lemma AtSize.init (h : s.cong = tcpCongestionInit s.nego) (hm : s.nego.sndMss ≤ u32Max) : AtSize (tcpCaMss s.nego) s := by
  refine ⟨tcpCongestionInit_words h hm, rfl, ?_⟩
  rw [h]
  exact Nat.le_min.mpr ⟨Nat.le_mul_of_pos_left _ (by decide), tcpCaMss_le hm⟩

lemma AtSize.run {mss : ℕ} (h : AtSize mss s) {es : List CaEvent} (hes : ∀ e ∈ es, e.Words ∧ e.keepsMss) :
    AtSize mss (run caStep s es) := by
  have hmeets : Meets caStep (fun _ e => e.Words ∧ e.keepsMss) s es := Meets.of_mem hes
  exact run_invariant (I := AtSize mss) (fun _ _ hs he => hs.step he) h hmeets

/-- At a fixed segment size, over any history: every event is safe, and a phase of congestion avoidance that starts with no
credit opens the window by half the packets acknowledged in it at most. -/
theorem congestion_window_safe {s₀ : TcpSock} (h₀ : s₀.cong = tcpCongestionInit s₀.nego)
    (hm : s₀.nego.sndMss ≤ u32Max) {es : List CaEvent} (hes : ∀ e ∈ es, e.Words ∧ e.keepsMss) :
    (∀ es₁ e es₂, es = es₁ ++ e :: es₂ → StepSafe (tcpCaMss s₀.nego) (run caStep s₀ es₁) e) ∧
      ∀ es₁ phase es₂, es = es₁ ++ phase ++ es₂ → (run caStep s₀ es₁).cong.cubic.cwndCnt = 0 →
        Meets caStep (fun s e => InAvoidance s ∧ e.isAck) (run caStep s₀ es₁) phase →
        2 * tcpCubicCwndPackets (run caStep s₀ (es₁ ++ phase)) ≤
          2 * tcpCubicCwndPackets (run caStep s₀ es₁) + phasePackets (run caStep s₀ es₁) phase := by
  refine ⟨fun es₁ e es₂ heq => ?_, fun es₁ phase es₂ heq hzero hphase => ?_⟩
  · subst heq
    have hbefore := (AtSize.init h₀ hm).run fun e' he' => hes e' (List.mem_append_left _ he')
    exact hbefore.stepSafe (hes e (List.mem_append_right _ List.mem_cons_self))
  · subst heq
    have hbefore := (AtSize.init h₀ hm).run fun e' he' => hes e' (List.mem_append_left _ (List.mem_append_left _ he'))
    have hpaid := phase_paid hbefore.words
      (fun e' he' => (hes e' (List.mem_append_left _ (List.mem_append_right _ he'))).1) hphase
    rw [hzero, ← run_append] at hpaid
    omega

/-- A recovery, and three acknowledgements in congestion avoidance after it. -/
theorem congestion_window_safe_recovery :
    2 * tcpCubicCwndPackets (run caStep cubicSock [.dup 5360 3, .ack 900 5360 5360 true, .ack 1000 5896 536 true,
      .ack 1000 6432 536 true, .ack 1000 6968 536 true]) ≤ 2 * 7 + 3 := by
  have hes : ∀ e ∈ [CaEvent.dup 5360 3, .ack 900 5360 5360 true, .ack 1000 5896 536 true, .ack 1000 6432 536 true,
      .ack 1000 6968 536 true], e.Words ∧ e.keepsMss := by
    simp only [List.forall_mem_cons, CaEvent.Words, CaEvent.keepsMss]
    exact ⟨by decide, by decide, by decide, by decide, by decide, by simp⟩
  have hinit : cubicSock.cong = tcpCongestionInit cubicSock.nego := rfl
  refine (congestion_window_safe hinit (by decide) hes).2 [.dup 5360 3, .ack 900 5360 5360 true]
    [.ack 1000 5896 536 true, .ack 1000 6432 536 true, .ack 1000 6968 536 true] [] rfl (by decide) ?_
  exact ⟨⟨by unfold InAvoidance; decide, trivial⟩, ⟨by unfold InAvoidance; decide, trivial⟩,
    ⟨by unfold InAvoidance; decide, trivial⟩, trivial⟩

end Netfast.Tcp
