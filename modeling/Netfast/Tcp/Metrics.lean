import Netfast.Lib.Checked
import Netfast.Lib.Run
import Netfast.Tcp.Input

/-! The round-trip estimate of `tcp_metrics.c` and the timeout made from it, over any history of samples. -/

namespace Netfast.Tcp

open Run Checked

def sampleWords (m : Metrics) (measured : ℕ) : Option Metrics :=
  if measured = 0 then some m
  else if m.rtt = 0 then some { m with rtt := measured, rttvar := measured / 2 }
  else do
    let err ← if measured < m.rtt then minus m.rtt measured else minus measured m.rtt
    let threeVar ← word 64 (3 * m.rttvar)
    let varSum ← word 64 (threeVar + err)
    let rttvar ← word 32 (varSum / 4)
    let sevenRtt ← word 64 (7 * m.rtt)
    let rttSum ← word 64 (sevenRtt + measured)
    let rtt ← word 32 (rttSum / 8)
    some { m with rttvar, rtt }

def rtoWords (m : Metrics) : Option ℕ :=
  if m.rtt = 0 then some tcpMetricsDefaultRto
  else do
    let fourVar ← word 64 (4 * m.rttvar)
    let rto ← word 64 (m.rtt + fourVar)
    let rto := max rto tcpRtoMinMs
    if tcpRetransmitTimeoutMsMax < rto then some tcpRetransmitTimeoutMsMax else word 32 rto

def backoffWords (rto : ℕ) : Option ℕ :=
  if tcpRetransmitTimeoutMsMax / 2 ≤ rto then some tcpRetransmitTimeoutMsMax else word 32 (rto * 2)

variable {m : Metrics} {re : Retry} {r : ℕ}

lemma sampleWords_eq (hm : m.rtt < 2 ^ 32 ∧ m.rttvar < 2 ^ 32) (hr : r < 2 ^ 32) :
    sampleWords m r = some (tcpMetricsSample m r) := by
  obtain ⟨hrtt, hvar⟩ := hm
  rw [sampleWords, tcpMetricsSample]
  split
  · rfl
  split
  · rfl
  dsimp only
  split
  · simp (disch := omega) only [minus_bind, word_bind]
  · simp (disch := omega) only [minus_bind, word_bind]

lemma rtoWords_eq (hm : m.rtt < 2 ^ 32 ∧ m.rttvar < 2 ^ 32) : rtoWords m = some (tcpMetricsRto (some m)) := by
  obtain ⟨hrtt, hvar⟩ := hm
  rw [rtoWords, tcpMetricsRto]
  split
  · rfl
  simp (disch := omega) only [word_bind]
  split
  · next hgt => rw [Nat.min_eq_right hgt.le]
  · next hle =>
    rw [Nat.not_lt] at hle
    rw [Nat.min_eq_left hle]
    exact word_eq (hle.trans_lt (by decide))

lemma backoffWords_eq (rto : ℕ) : backoffWords rto = some (tcpMetricsBackoff rto) := by
  rw [backoffWords, tcpMetricsBackoff]
  split
  · rfl
  · next hlt =>
    rw [Nat.not_le] at hlt
    exact word_eq (lt_trans (Nat.mul_lt_mul_of_pos_right hlt two_pos) (by decide))

inductive RttEvent
  | sample (ms : ℕ)
  | backoff
  -- an acknowledgement took something off the retransmit queue
  | acked

def rttStep (re : Retry) : RttEvent → Retry
  | .sample ms => sampleRtt re ms
  | .backoff => { re with retransmitTimeout := tcpMetricsBackoff re.retransmitTimeout }
  | .acked => { re with retransmitTimeout := tcpMetricsRto re.metrics }

def RttEvent.sample? : RttEvent → Option ℕ
  | .sample ms => some ms
  | _ => none

def samples (es : List RttEvent) : List ℕ := es.filterMap RttEvent.sample?

def WordsHold (re : Retry) : RttEvent → Prop
  | .sample ms => ∀ m, re.metrics = some m → sampleWords m ms = some (tcpMetricsSample m ms) ∧
      rtoWords (tcpMetricsSample m ms) = some (tcpMetricsRto (some (tcpMetricsSample m ms)))
  | .backoff => backoffWords re.retransmitTimeout = some (tcpMetricsBackoff re.retransmitTimeout)
  | .acked => ∀ m, re.metrics = some m → rtoWords m = some (tcpMetricsRto (some m))

def RtoInForce (re : Retry) : Prop := tcpRtoMinMs ≤ re.retransmitTimeout ∧ re.retransmitTimeout ≤ tcpRetransmitTimeoutMsMax

def Estimates (rs : List ℕ) (m : Metrics) : Prop :=
  match rs with
  | [] => m.rtt = 0 ∧ m.rttvar = 0
  | first :: rest => ∀ lo hi, (∀ r ∈ first :: rest, lo ≤ r ∧ r ≤ hi) →
      lo ≤ m.rtt ∧ m.rtt ≤ hi ∧ m.rttvar ≤ max (first / 2) (hi - lo)

lemma tcpMetricsSample_between {lo hi first : ℕ} (hpos : m.rtt ≠ 0) (hr : lo ≤ r ∧ r ≤ hi ∧ 0 < r)
    (hm : lo ≤ m.rtt ∧ m.rtt ≤ hi ∧ m.rttvar ≤ max (first / 2) (hi - lo)) :
    lo ≤ (tcpMetricsSample m r).rtt ∧ (tcpMetricsSample m r).rtt ≤ hi ∧
      (tcpMetricsSample m r).rttvar ≤ max (first / 2) (hi - lo) := by
  have hne : r ≠ 0 := by omega
  simp only [tcpMetricsSample, if_neg hne, if_neg hpos]
  refine ⟨by omega, by omega, ?_⟩
  have herr : (if r < m.rtt then m.rtt - r else r - m.rtt) ≤ max (first / 2) (hi - lo) := by
    split <;> omega
  omega

variable {rs : List ℕ}

lemma Estimates.sample (h : Estimates rs m) (hrs : ∀ r' ∈ rs, 0 < r') (hr : 0 < r) :
    Estimates (rs ++ [r]) (tcpMetricsSample m r) := by
  cases rs with
  | nil =>
    intro lo hi hb
    obtain ⟨hlo, hhi⟩ := hb r List.mem_cons_self
    simp only [tcpMetricsSample, if_neg hr.ne', h.1, if_true]
    exact ⟨hlo, hhi, le_max_left _ _⟩
  | cons first rest =>
    intro lo hi hb
    have hold := h lo hi fun r' hr' => hb r' (List.mem_append_left [r] hr')
    have hnew := hb r (List.mem_append_right (first :: rest) (List.mem_singleton_self r))
    -- a positive sample bounds the estimate away from its initial value
    have hpos : m.rtt ≠ 0 := by
      have hone := (h 1 (max hi 1) fun r' hr' => ⟨hrs r' hr', ?_⟩).1
      · omega
      · exact ((hb r' (List.mem_append_left [r] hr')).2).trans (le_max_left _ _)
    exact tcpMetricsSample_between hpos ⟨hnew.1, hnew.2, hr⟩ hold

lemma Estimates.words (h : Estimates rs m) (hrs : ∀ r ∈ rs, r < 2 ^ 32) : m.rtt < 2 ^ 32 ∧ m.rttvar < 2 ^ 32 := by
  cases rs with
  | nil =>
    rw [h.1, h.2]
    exact ⟨by decide, by decide⟩
  | cons first rest =>
    have hfirst := hrs first List.mem_cons_self
    obtain ⟨-, hrtt, hvar⟩ := h 0 (2 ^ 32 - 1) fun r hr => ⟨Nat.zero_le r, Nat.le_sub_one_of_lt (hrs r hr)⟩
    omega

lemma tcpMetricsRto_inForce (m : Option Metrics) :
    tcpRtoMinMs ≤ tcpMetricsRto m ∧ tcpMetricsRto m ≤ tcpRetransmitTimeoutMsMax := by
  rw [tcpRtoMinMs, tcpRetransmitTimeoutMsMax]
  cases m with
  | none => exact ⟨by decide, by decide⟩
  | some m =>
    rw [tcpMetricsRto]
    split
    · exact ⟨by decide, by decide⟩
    · rw [tcpRtoMinMs, tcpRetransmitTimeoutMsMax]
      omega

lemma tcpMetricsBackoff_inForce {rto : ℕ} (h : tcpRtoMinMs ≤ rto ∧ rto ≤ tcpRetransmitTimeoutMsMax) :
    tcpRtoMinMs ≤ tcpMetricsBackoff rto ∧ tcpMetricsBackoff rto ≤ tcpRetransmitTimeoutMsMax := by
  rw [tcpMetricsBackoff]
  rw [tcpRtoMinMs, tcpRetransmitTimeoutMsMax] at h ⊢
  split <;> omega

structure Tracked (rs : List ℕ) (re : Retry) : Prop where
  rto : RtoInForce re
  estimate : ∃ m, re.metrics = some m ∧ Estimates rs m

lemma Tracked.step (h : Tracked rs re) (hrs : ∀ r ∈ rs, 0 < r ∧ r < 2 ^ 32) {e : RttEvent}
    (he : ∀ r ∈ samples [e], 0 < r ∧ r < 2 ^ 32) : Tracked (rs ++ samples [e]) (rttStep re e) ∧ WordsHold re e := by
  obtain ⟨hrto, m, hm, hest⟩ := h
  have hwords := hest.words fun r hr => (hrs r hr).2
  cases e with
  | sample ms =>
    obtain ⟨hpos, hlt⟩ := he ms List.mem_cons_self
    have hnext := hest.sample (fun r hr => (hrs r hr).1) hpos
    have hstep : rttStep re (.sample ms) = { re with
        metrics := some (tcpMetricsSample m ms)
        retransmitTimeout := tcpMetricsRto (some (tcpMetricsSample m ms))
        rttMeasTime := 0 } := by
      simp only [rttStep, sampleRtt, hm, if_neg hpos.ne']
    refine ⟨⟨?_, ?_⟩, ?_⟩
    · rw [hstep]
      exact tcpMetricsRto_inForce (some (tcpMetricsSample m ms))
    · rw [hstep]
      exact ⟨_, rfl, hnext⟩
    · intro m' hm'
      obtain rfl := Option.some.inj (hm.symm.trans hm')
      refine ⟨sampleWords_eq hwords hlt, rtoWords_eq (hnext.words fun r hr => ?_)⟩
      rcases List.mem_append.mp hr with hr | hr
      · exact (hrs r hr).2
      · rw [List.mem_singleton.mp hr]
        exact hlt
  | backoff =>
    rw [show samples [RttEvent.backoff] = [] from rfl, List.append_nil]
    exact ⟨⟨tcpMetricsBackoff_inForce hrto, m, hm, hest⟩, backoffWords_eq _⟩
  | acked =>
    rw [show samples [RttEvent.acked] = [] from rfl, List.append_nil]
    refine ⟨⟨tcpMetricsRto_inForce _, m, hm, hest⟩, fun m' hm' => ?_⟩
    obtain rfl := Option.some.inj (hm.symm.trans hm')
    exact rtoWords_eq hwords

lemma run_tracked (h : Tracked rs re) (hrs : ∀ r ∈ rs, 0 < r ∧ r < 2 ^ 32) (es : List RttEvent)
    (hes : ∀ r ∈ samples es, 0 < r ∧ r < 2 ^ 32) :
    Tracked (rs ++ samples es) (run rttStep re es) ∧ Meets rttStep WordsHold re es := by
  induction es generalizing rs re with
  | nil => exact ⟨by rw [samples, List.filterMap_nil, List.append_nil]; exact h, trivial⟩
  | cons e es ih =>
    have hsplit : samples (e :: es) = samples [e] ++ samples es := by
      rw [samples, samples, samples, ← List.filterMap_append, List.singleton_append]
    rw [hsplit] at hes ⊢
    have he : ∀ r ∈ samples [e], 0 < r ∧ r < 2 ^ 32 := fun r hr => hes r (List.mem_append_left _ hr)
    have hall : ∀ r ∈ rs ++ samples [e], 0 < r ∧ r < 2 ^ 32 := by
      intro r hr
      rcases List.mem_append.mp hr with hr | hr
      · exact hrs r hr
      · exact he r hr
    obtain ⟨hnext, hword⟩ := h.step hrs he
    obtain ⟨hend, hwords⟩ := ih hnext hall fun r hr => hes r (List.mem_append_right _ hr)
    rw [← List.append_assoc]
    exact ⟨hend, hword, hwords⟩

/-- The estimate over a history of positive 32-bit samples: between the least and the greatest of them, with the
deviation below their spread or half the first one, no value that wraps, and the timeout in its range throughout. -/
theorem rtt_estimate_bounded {re : Retry} {i : ℕ} (hm : re.metrics = some { ifindex := i }) (hr : RtoInForce re)
    {es : List RttEvent} (hes : ∀ r ∈ samples es, 0 < r ∧ r < 2 ^ 32) :
    (∀ es₁ es₂, es = es₁ ++ es₂ → RtoInForce (run rttStep re es₁)) ∧ Meets rttStep WordsHold re es ∧
      ∃ m, (run rttStep re es).metrics = some m ∧ ∀ first rest, samples es = first :: rest →
        ∀ lo hi, (∀ r ∈ samples es, lo ≤ r ∧ r ≤ hi) → lo ≤ m.rtt ∧ m.rtt ≤ hi ∧ m.rttvar ≤ max (first / 2) (hi - lo) := by
  have hstart : Tracked [] re := ⟨hr, _, hm, rfl, rfl⟩
  have hnone : ∀ r ∈ ([] : List ℕ), 0 < r ∧ r < 2 ^ 32 := fun r hr => absurd hr List.not_mem_nil
  obtain ⟨hend, hwords⟩ := run_tracked hstart hnone es hes
  refine ⟨?_, hwords, ?_⟩
  · rintro es₁ es₂ rfl
    refine (run_tracked hstart hnone es₁ fun r hr => hes r ?_).1.rto
    rw [samples, List.filterMap_append]
    exact List.mem_append_left _ hr
  · obtain ⟨m, hm, hest⟩ := hend.estimate
    refine ⟨m, hm, fun first rest hs lo hi hb => ?_⟩
    rw [List.nil_append, hs] at hest
    rw [hs] at hb
    exact hest lo hi hb

def routedRetry : Retry := { retransmitTimeout := 1000, metrics := some { ifindex := 1 } }

/-- Samples of 300, 100 and 700 ms, with a timeout in between. -/
theorem rtt_estimate_bounded_three_samples :
    ∃ m, (run rttStep routedRetry [.sample 300, .backoff, .sample 100, .acked, .sample 700]).metrics = some m ∧
      100 ≤ m.rtt ∧ m.rtt ≤ 700 ∧ m.rttvar ≤ max (300 / 2) (700 - 100) := by
  have hm : routedRetry.metrics = some { ifindex := 1 } := rfl
  have hr : RtoInForce routedRetry := ⟨by decide, by decide⟩
  have hes : ∀ r ∈ samples [.sample 300, .backoff, .sample 100, .acked, .sample 700], 0 < r ∧ r < 2 ^ 32 := by decide
  obtain ⟨-, -, m, hm, hbound⟩ := rtt_estimate_bounded hm hr hes
  exact ⟨m, hm, hbound 300 [100, 700] rfl 100 700 (by decide)⟩

end Netfast.Tcp
