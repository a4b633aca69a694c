import Netfast.Ip6.Defrag
import Netfast.Thread.Drain

/-! The timers of the reassembly queues: each pass over the queues registers the next one. -/

namespace Netfast.Thread

def updateTaskTimer (w : Wheel) (tk : Task) (timeout now : ℕ) : Wheel := registerTask w { tk with timeout } now

lemma registerTask_due {w : Wheel} {tk : Task} {now : ℕ} (h : tk.timeout ≤ now) (hs : w.slots w.current = []) :
    (registerTask w tk now).slots w.current = [tk] := by
  have hslot : wheelTimerSlot (wheelRemoveTimer w tk.id) tk now = w.current := by
    rw [wheelTimerSlot, if_pos h]
    rfl
  have hempty : (wheelRemoveTimer w tk.id).slots w.current = [] := by
    change List.filter _ (w.slots w.current) = []
    rw [hs]
    rfl
  rw [registerTask, wheelAddTimerAt, hslot, setSlot_slots, hempty]

section Rearming

variable {σ : Type} {now timeout : ℕ} {sweep : σ → σ} {x : σ × Wheel}

def rearming (now timeout : ℕ) (sweep : σ → σ) (tk : Task) (x : σ × Wheel) : σ × Wheel :=
  (sweep x.1, updateTaskTimer x.2 tk timeout now)

lemma rearming_slot {tk : Task} (h : now < timeout) (hfar : ¬Far now ⟨tk.id, timeout⟩) :
    ((rearming now timeout sweep tk x).2.slots x.2.current).Sublist (x.2.slots x.2.current) := by
  have hne : wheelTimerSlot (wheelRemoveTimer x.2 tk.id) ⟨tk.id, timeout⟩ now ≠ x.2.current := wheelTimerSlot_ne h hfar
  change ((wheelAddTimerAt (wheelRemoveTimer x.2 tk.id) ⟨tk.id, timeout⟩ now).slots x.2.current).Sublist _
  rw [wheelAddTimerAt, setSlot_slots_ne _ (Ne.symm hne)]
  exact List.filter_sublist

lemma rearming_ends (h : now < timeout) (hfar : ∀ id, ¬Far now ⟨id, timeout⟩)
    (hslot : ∀ tk ∈ x.2.slots x.2.current, ¬Far now tk) :
    ∃ rounds y, processCurrentTimerSlot now (rearming now timeout sweep) rounds x = some y := by
  refine processCurrentTimerSlot_returns (I := fun x => ∀ tk ∈ x.2.slots x.2.current, ¬Far now tk)
    (measure fun x => (x.2.slots x.2.current).length).wf ?_ ?_ hslot
  · intro x tk rest hI hs hlt
    obtain ⟨hl, hrest⟩ := requeue_lighter hlt (hI tk (by rw [hs]; exact List.mem_cons_self)) hs
    refine ⟨fun t ht => hI t ?_, ?_⟩
    · rw [hl.current, hrest] at ht
      rw [hs]
      exact List.mem_cons_of_mem tk ht
    · change (_ : List Task).length < (x.2.slots x.2.current).length
      rw [hl.current, hrest, hs]
      exact Nat.lt_succ_self _
  · intro x tk rest hI hs _
    have hsub := @rearming_slot σ now timeout sweep (x.1, x.2.setSlot x.2.current rest) tk h (hfar tk.id)
    change List.Sublist _ ((x.2.setSlot x.2.current rest).slots x.2.current) at hsub
    rw [setSlot_slots] at hsub
    refine ⟨fun t ht => hI t ?_, ?_⟩
    · rw [hs]
      exact List.mem_cons_of_mem tk (hsub.subset ht)
    · change List.length _ < (x.2.slots x.2.current).length
      rw [hs]
      exact Nat.lt_succ_of_le hsub.length_le

lemma rearming_spins (h : timeout ≤ now) {tk : Task} (hs : x.2.slots x.2.current = [tk]) (hdue : tk.timeout ≤ now)
    (k : ℕ) : processCurrentTimerSlot now (rearming now timeout sweep) k x = none := by
  induction k generalizing x tk with
  | zero => rfl
  | succ k ih =>
    rw [processCurrentTimerSlot, hs]
    dsimp only
    rw [if_neg (Nat.not_lt.mpr hdue)]
    exact ih (registerTask_due h (setSlot_slots _ _ _)) h

lemma rearming_future {tk : Task} : (∃ sl, ∃ t ∈ (rearming now timeout sweep tk x).2.slots sl, t.id = tk.id ∧
    now < t.timeout) ↔ now < timeout := by
  constructor
  · rintro ⟨sl, t, ht, hid, hlt⟩
    rcases mem_wheelAddTimerAt.mp ht with ht | ⟨rfl, -⟩
    · rw [wheelRemoveTimer, List.mem_filter] at ht
      exact absurd hid (by simpa using ht.2)
    · exact hlt
  · intro h
    exact ⟨_, _, mem_wheelAddTimerAt.mpr (.inr ⟨rfl, rfl⟩), rfl, h⟩

end Rearming

def ipqTimerInterval : ℕ := 1000

def ipq6TimerInterval : ℕ := 1000

def ipqTimerTask (now : ℕ) : Task → Ip.Reasm × Wheel → Ip.Reasm × Wheel :=
  rearming now ((now + ipqTimerInterval) % 2 ^ 64) (Ip.ipqTimer now)

def ipq6TimerTask (now : ℕ) : Task → Ip6.Reasm × Wheel → Ip6.Reasm × Wheel :=
  rearming now ((now % 2 ^ 32 + ipq6TimerInterval) % 2 ^ 32) (Ip6.ipqTimer now)

/-- The queues of `st` were last updated at the times `updated`, the stamps being 32 bits of them. -/
def Stamped {κ : Type} (now : ℕ) (queues : List κ) (stamp updated : κ → ℕ) : Prop :=
  ∀ q ∈ queues, stamp q = updated q % 2 ^ 32 ∧ updated q ≤ now

/-- The callback sets its timer in the future, keeps exactly the queues of an age up to the limit, and the loop over a slot
that holds the timer ends. -/
structure Progresses {σ κ : Type} (now limit : ℕ) (cb : Task → σ × Wheel → σ × Wheel) (queues : σ → List κ)
    (updated : κ → ℕ) (st : σ) : Prop where
  future (tk : Task) (w : Wheel) : ∃ sl, ∃ t ∈ (cb tk (st, w)).2.slots sl, t.id = tk.id ∧ now < t.timeout
  exact (tk : Task) (w : Wheel) (q : κ) (h : q ∈ queues st) : q ∈ queues (cb tk (st, w)).1 ↔ now - updated q ≤ limit
  ends (w : Wheel) (h : ∀ tk ∈ w.slots w.current, ¬Far now tk) :
    ∃ rounds y, processCurrentTimerSlot now cb rounds (st, w) = some y

lemma age_of_stamp {now stamp updated : ℕ} (h : stamp = updated % 2 ^ 32 ∧ updated ≤ now) :
    (now + 2 ^ 32 - stamp) % 2 ^ 32 = (now - updated) % 2 ^ 32 := by
  omega

lemma not_far_interval {now id timeout : ℕ} (h : timeout ≤ now + 1000) : ¬Far now ⟨id, timeout⟩ := by
  rintro ⟨hlt, hmod⟩
  change now < timeout at hlt
  change (timeout - now) % 2 ^ 32 = 0 at hmod
  omega

lemma ipqTimer_kept {now : ℕ} {st : Ip.Reasm} {q : Ip.Ipq} (hq : q ∈ st.queues) {updated : ℕ}
    (h : q.lastUpdateTime = updated % 2 ^ 32 ∧ updated ≤ now) :
    q ∈ (Ip.ipqTimer now st).queues ↔ (now - updated) % 2 ^ 32 ≤ 5000 := by
  have hexp : q.expired now = decide (5000 < (now - updated) % 2 ^ 32) := by
    rw [Ip.Ipq.expired, age_of_stamp h, Ip.ipqTimeout]
  rw [Ip.ipqTimer, List.mem_filter, hexp, Bool.not_eq_true', decide_eq_false_iff_not, Nat.not_lt]
  exact and_iff_right hq

lemma ipq6Timer_kept {now : ℕ} {st : Ip6.Reasm} {q : Ip6.Ipq} (hq : q ∈ st.queues) {updated : ℕ}
    (h : q.lastUpdateTime = updated % 2 ^ 32 ∧ updated ≤ now) :
    q ∈ (Ip6.ipqTimer now st).queues ↔ (now - updated) % 2 ^ 32 ≤ 5000 := by
  have hexp : q.expired now = decide (5000 < (now - updated) % 2 ^ 32) := by
    rw [Ip6.Ipq.expired, age_of_stamp h, Ip6.ipqTimeout]
  rw [Ip6.ipqTimer, List.mem_filter, hexp, Bool.not_eq_true', decide_eq_false_iff_not, Nat.not_lt]
  exact and_iff_right hq

/-- The IPv4 timer does while its next time fits 64 bits and no queue is within the limit behind a multiple of 2 ^ 32 ms;
the IPv6 timer while its next time fits 32 bits. -/
theorem reassembly_timers_progress {now : ℕ} (hnow : now < 2 ^ 64) {st : Ip.Reasm} {updated : Ip.Ipq → ℕ}
    (h : Stamped now st.queues Ip.Ipq.lastUpdateTime updated) {st6 : Ip6.Reasm} {updated6 : Ip6.Ipq → ℕ}
    (h6 : Stamped now st6.queues Ip6.Ipq.lastUpdateTime updated6) :
    (Progresses now Ip.ipqTimeout (ipqTimerTask now) Ip.Reasm.queues updated st ↔
      now + 1000 < 2 ^ 64 ∧ ∀ q ∈ st.queues, now - updated q < 2 ^ 32 ∨ 5000 < (now - updated q) % 2 ^ 32) ∧
    (Progresses now Ip6.ipqTimeout (ipq6TimerTask now) Ip6.Reasm.queues updated6 st6 ↔ now + 1000 < 2 ^ 32) := by
  refine ⟨⟨fun hp => ⟨?_, fun q hq => ?_⟩, fun ⟨hfits, hages⟩ => ?_⟩, fun hp => ?_, fun hfits => ?_⟩
  · have hfuture := rearming_future.mp (hp.future ⟨0, 0⟩ (emptyWheel 0))
    rw [ipqTimerInterval] at hfuture
    omega
  · have hkept := (ipqTimer_kept hq (h q hq)).symm.trans (hp.exact ⟨0, 0⟩ (emptyWheel 0) q hq)
    rw [Ip.ipqTimeout] at hkept
    by_contra hbad
    rw [not_or, Nat.not_lt, Nat.not_lt] at hbad
    have hage := hkept.mp hbad.2
    omega
  · have hmod : (now + ipqTimerInterval) % 2 ^ 64 = now + 1000 := Nat.mod_eq_of_lt hfits
    refine ⟨fun tk w => rearming_future.mpr ?_, fun tk w q hq => ?_, fun w hw => rearming_ends ?_ ?_ hw⟩
    · omega
    · refine (ipqTimer_kept hq (h q hq)).trans ?_
      have hage := hages q hq
      rw [Ip.ipqTimeout]
      omega
    · omega
    · exact fun id => not_far_interval (Nat.le_of_eq hmod)
  · have hfuture := rearming_future.mp (hp.future ⟨0, 0⟩ (emptyWheel 0))
    rw [ipq6TimerInterval] at hfuture
    omega
  · have hmod : (now % 2 ^ 32 + ipq6TimerInterval) % 2 ^ 32 = now + 1000 := by
      rw [ipq6TimerInterval]
      omega
    refine ⟨fun tk w => rearming_future.mpr ?_, fun tk w q hq => ?_, fun w hw => rearming_ends ?_ ?_ hw⟩
    · omega
    · refine (ipq6Timer_kept hq (h6 q hq)).trans ?_
      rw [Ip6.ipqTimeout, Nat.mod_eq_of_lt (by omega)]
    · omega
    · exact fun id => not_far_interval (Nat.le_of_eq hmod)

theorem reassembly_timers_progress_early :
    Progresses 10000 Ip.ipqTimeout (ipqTimerTask 10000) Ip.Reasm.queues Ip.Ipq.lastUpdateTime
      { queues := [{ key := ⟨7, 1, 2, 17⟩, lastUpdateTime := 1000 }] } ∧
    Progresses 10000 Ip6.ipqTimeout (ipq6TimerTask 10000) Ip6.Reasm.queues Ip6.Ipq.lastUpdateTime {} := by
  have h : Stamped 10000 ({ queues := [{ key := ⟨7, 1, 2, 17⟩, lastUpdateTime := 1000 }] } : Ip.Reasm).queues
      Ip.Ipq.lastUpdateTime Ip.Ipq.lastUpdateTime := by
    intro q hq
    obtain rfl := List.mem_singleton.mp hq
    decide
  have hages : ∀ q ∈ [({ key := ⟨7, 1, 2, 17⟩, lastUpdateTime := 1000 } : Ip.Ipq)],
      10000 - q.lastUpdateTime < 2 ^ 32 ∨ 5000 < (10000 - q.lastUpdateTime) % 2 ^ 32 := by
    intro q hq
    obtain rfl := List.mem_singleton.mp hq
    decide
  have h6 : Stamped 10000 ({} : Ip6.Reasm).queues Ip6.Ipq.lastUpdateTime Ip6.Ipq.lastUpdateTime :=
    fun q hq => absurd hq List.not_mem_nil
  have hboth := reassembly_timers_progress (by decide) h h6
  exact ⟨hboth.1.mpr ⟨by decide, hages⟩, hboth.2.mpr (by decide)⟩

/-- The IPv6 timer that was set at 2 ^ 32 - 2000 ms sets itself to 0 when it is due, and is due again. -/
theorem ipq6_timer_spins :
    ¬∃ rounds y, processCurrentTimerSlot (2 ^ 32 - 1000) (ipq6TimerTask (2 ^ 32 - 1000)) rounds
      (({} : Ip6.Reasm), registerTask (emptyWheel (2 ^ 32 - 1000)) ⟨6, 2 ^ 32 - 1000⟩ (2 ^ 32 - 1000)) = some y := by
  rintro ⟨rounds, y, hy⟩
  have hslot : (registerTask (emptyWheel (2 ^ 32 - 1000)) ⟨6, 2 ^ 32 - 1000⟩ (2 ^ 32 - 1000)).slots
      (emptyWheel (2 ^ 32 - 1000)).current = [⟨6, 2 ^ 32 - 1000⟩] := registerTask_due (Nat.le_refl _) rfl
  have hpast : ((2 ^ 32 - 1000) % 2 ^ 32 + ipq6TimerInterval) % 2 ^ 32 ≤ 2 ^ 32 - 1000 := by decide
  rw [ipq6TimerTask, rearming_spins hpast hslot (Nat.le_refl _)] at hy
  cases hy

end Netfast.Thread
