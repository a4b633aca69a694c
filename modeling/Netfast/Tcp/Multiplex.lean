import Netfast.Lib.Run
import Netfast.Tcp.Deadlines

/-! The seven deadlines of a pcb share one timer task, which is due at the earliest of them. -/

namespace Netfast.Tcp

open Run

variable {t : Timers}

/-- The task is registered iff something is armed, and then its timeout is the earliest deadline. -/
structure Multiplexed (t : Timers) : Prop where
  registered : t.registered = true ↔ ∃ d, t.deadline d ≠ timerStop
  earliest : t.registered = true →
    (∃ d, t.deadline d ≠ timerStop ∧ t.deadline d = t.timeout) ∧ ∀ d, t.deadline d ≠ timerStop → t.timeout ≤ t.deadline d

/-! `tcp_reset_timer` looks at all of them. -/

def earlier (t : Timers) (next : ℕ) (d : Deadline) : ℕ :=
  if t.deadline d ≠ 0 ∧ (next = 0 ∨ t.deadline d < next) then t.deadline d else next

lemma earlier_le (t : Timers) (next : ℕ) (d : Deadline) : next ≠ 0 → earlier t next d ≠ 0 ∧ earlier t next d ≤ next := by
  intro h
  rw [earlier]
  split <;> omega

lemma earlier_self (t : Timers) (next : ℕ) {d : Deadline} (h : t.deadline d ≠ 0) :
    earlier t next d ≠ 0 ∧ earlier t next d ≤ t.deadline d := by
  rw [earlier]
  split <;> omega

lemma foldl_earlier_le (t : Timers) (ds : List Deadline) {next : ℕ} (h : next ≠ 0) :
    ds.foldl (earlier t) next ≠ 0 ∧ ds.foldl (earlier t) next ≤ next := by
  induction ds generalizing next with
  | nil => exact ⟨h, le_rfl⟩
  | cons d ds ih =>
    obtain ⟨hne, hle⟩ := earlier_le t next d h
    obtain ⟨hne', hle'⟩ := ih hne
    exact ⟨hne', hle'.trans hle⟩

lemma foldl_earlier_mem (t : Timers) {ds : List Deadline} (next : ℕ) {d : Deadline} (hd : d ∈ ds)
    (h : t.deadline d ≠ 0) : ds.foldl (earlier t) next ≠ 0 ∧ ds.foldl (earlier t) next ≤ t.deadline d := by
  induction ds generalizing next with
  | nil => cases hd
  | cons e ds ih =>
    rcases List.mem_cons.mp hd with rfl | hd
    · obtain ⟨hne, hle⟩ := earlier_self t next h
      obtain ⟨hne', hle'⟩ := foldl_earlier_le t ds hne
      exact ⟨hne', hle'.trans hle⟩
    · exact ih (earlier t next e) hd

lemma foldl_earlier_attained (t : Timers) (ds : List Deadline) (next : ℕ) :
    ds.foldl (earlier t) next = next ∨ ∃ d, t.deadline d ≠ 0 ∧ t.deadline d = ds.foldl (earlier t) next := by
  induction ds generalizing next with
  | nil => exact .inl rfl
  | cons d ds ih =>
    rcases ih (earlier t next d) with h | h
    · rw [List.foldl_cons, h, earlier]
      split
      · next hd => exact .inr ⟨d, hd.1, rfl⟩
      · exact .inl rfl
    · exact .inr h

lemma mem_timeouts (d : Deadline) : d ∈ timeouts := by
  cases d <;> decide

lemma tcpResetTimer_multiplexed (t : Timers) : Multiplexed (tcpResetTimer t) := by
  have hnext : tcpResetTimer t = if timeouts.foldl (earlier t) 0 ≠ 0
      then { t with timeout := timeouts.foldl (earlier t) 0, registered := true }
      else { t with timeout := 0, registered := false } := rfl
  rw [hnext]
  split
  · next hne =>
    have hatt : ∃ d, t.deadline d ≠ 0 ∧ t.deadline d = timeouts.foldl (earlier t) 0 :=
      (foldl_earlier_attained t timeouts 0).resolve_left hne
    refine ⟨⟨fun _ => ?_, fun _ => rfl⟩, fun _ => ⟨hatt, fun d hd => (foldl_earlier_mem t 0 (mem_timeouts d) hd).2⟩⟩
    obtain ⟨d, hd, -⟩ := hatt
    exact ⟨d, hd⟩
  · next hz =>
    refine ⟨⟨fun h => absurd h Bool.false_ne_true, ?_⟩, fun h => absurd h Bool.false_ne_true⟩
    rintro ⟨d, hd⟩
    exact absurd (foldl_earlier_mem t 0 (mem_timeouts d) hd).1 hz

/-! The shortcuts of `tcp_update_timer`. -/

lemma Multiplexed.sooner (h : Multiplexed t) (hr : t.registered = true) (which : Deadline) {ms : ℕ}
    (hms : ms ≠ timerStop) (hlt : ms < t.timeout) :
    Multiplexed { t.set which ms with timeout := ms, registered := true } := by
  have hself := t.set_self which ms
  refine ⟨⟨fun _ => ⟨which, by rw [hself]; exact hms⟩, fun _ => rfl⟩, fun _ => ⟨⟨which, by rw [hself]; exact hms, hself⟩, ?_⟩⟩
  intro d hd
  by_cases hw : d = which
  · rw [hw]
    exact hself.symm.le
  · have hother : (t.set which ms).deadline d = t.deadline d := if_neg hw
    change (t.set which ms).deadline d ≠ timerStop at hd
    change ms ≤ (t.set which ms).deadline d
    rw [hother] at hd ⊢
    exact hlt.le.trans ((h.earliest hr).2 d hd)

lemma Multiplexed.later (h : Multiplexed t) (hr : t.registered = true) {which : Deadline} {ms : ℕ}
    (hold : t.deadline which ≠ t.timeout) (hms : ms = timerStop ∨ t.timeout ≤ ms) : Multiplexed (t.set which ms) := by
  obtain ⟨⟨d, hd, hmin⟩, hle⟩ := h.earliest hr
  have hne : d ≠ which := by
    rintro rfl
    exact hold hmin
  have hother : (t.set which ms).deadline d = t.deadline d := if_neg hne
  refine ⟨⟨fun _ => ⟨d, by rw [hother]; exact hd⟩, fun _ => hr⟩, fun _ => ⟨⟨d, by rw [hother]; exact ⟨hd, hmin⟩⟩, ?_⟩⟩
  intro e he
  by_cases hw : e = which
  · rw [hw, t.set_self] at he ⊢
    exact hms.resolve_left he
  · have hsame : (t.set which ms).deadline e = t.deadline e := if_neg hw
    rw [hsame] at he ⊢
    exact hle e he

lemma tcpUpdateTimer_multiplexed (h : Multiplexed t) (which : Deadline) (ms : ℕ) (override : Bool) :
    Multiplexed (tcpUpdateTimer t which ms override) := by
  simp only [tcpUpdateTimer]
  split
  · exact h
  split
  · split
    · exact tcpResetTimer_multiplexed _
    next hkeep =>
    rw [not_or, Bool.not_eq_true, Bool.not_eq_false'] at hkeep
    obtain ⟨hr, hold⟩ := hkeep
    have htimeout : t.timeout ≠ timerStop := by
      obtain ⟨d, hd, hmin⟩ := (h.earliest hr).1
      rw [← hmin]
      exact hd
    split
    · next hsoon => exact h.sooner hr which hsoon.1 (hsoon.2.resolve_left htimeout)
    · next hlate =>
      refine h.later hr hold ?_
      by_cases hms : ms = timerStop
      · exact .inl hms
      · exact .inr (Nat.not_lt.mp fun hlt => hlate ⟨hms, .inr hlt⟩)
  · exact h

def serveOrder : List Deadline := [.nagle, .retransmit, .ack, .persist, .timewait, .finwait2, .keepalive]

def Timers.due (t : Timers) (now : ℕ) (d : Deadline) : Bool := t.deadline d != timerStop && decide (t.deadline d ≤ now)

def serveDue (t : Timers) (now : ℕ) : Timers :=
  match serveOrder.find? (t.due now) with
  | none => t
  | some d => tcpResetTimer (t.set d timerStop)

structure TimerCall where
  which : Deadline
  ms : ℕ
  override : Bool

def TimerCall.apply (t : Timers) (c : TimerCall) : Timers := tcpUpdateTimer t c.which c.ms c.override

inductive TimerEvent
  | update (c : TimerCall)
  | fire (now : ℕ) (handler : List TimerCall)

def timerStep (t : Timers) : TimerEvent → Timers
  | .update c => c.apply t
  | .fire now handler =>
    if t.registered = true ∧ t.timeout ≤ now then
      run TimerCall.apply (serveDue { t with registered := false } now) handler
    else t

lemma run_apply_multiplexed (h : Multiplexed t) (cs : List TimerCall) : Multiplexed (run TimerCall.apply t cs) :=
  run_always (I := Multiplexed) (fun _ c ht => tcpUpdateTimer_multiplexed ht c.which c.ms c.override) h cs

lemma Multiplexed.due_iff (h : Multiplexed t) (now : ℕ) :
    (∃ d, t.due now d = true) ↔ t.registered = true ∧ t.timeout ≤ now := by
  constructor
  · rintro ⟨d, hd⟩
    rw [Timers.due, Bool.and_eq_true, bne_iff_ne, decide_eq_true_eq] at hd
    have hr := h.registered.mpr ⟨d, hd.1⟩
    exact ⟨hr, ((h.earliest hr).2 d hd.1).trans hd.2⟩
  · rintro ⟨hr, hle⟩
    obtain ⟨d, hd, hmin⟩ := (h.earliest hr).1
    refine ⟨d, ?_⟩
    rw [Timers.due, Bool.and_eq_true, bne_iff_ne, decide_eq_true_eq, hmin]
    exact ⟨by rw [← hmin]; exact hd, hle⟩

lemma mem_serveOrder (d : Deadline) : d ∈ serveOrder := by
  cases d <;> decide

lemma serveDue_multiplexed (h : Multiplexed t) {now : ℕ} (hr : t.registered = true) (hle : t.timeout ≤ now) :
    Multiplexed (serveDue { t with registered := false } now) := by
  obtain ⟨d, hd⟩ := (h.due_iff now).mpr ⟨hr, hle⟩
  rw [serveDue]
  split
  · next hnone =>
    rw [List.find?_eq_none] at hnone
    exact absurd hd (hnone d (mem_serveOrder d))
  · exact tcpResetTimer_multiplexed _

lemma timerStep_multiplexed (h : Multiplexed t) (e : TimerEvent) : Multiplexed (timerStep t e) := by
  cases e with
  | update c => exact tcpUpdateTimer_multiplexed h c.which c.ms c.override
  | fire now handler =>
    rw [timerStep]
    split
    · next hf => exact run_apply_multiplexed (serveDue_multiplexed h hf.1 hf.2) handler
    · exact h

/-- The task of a fresh pcb as `set_socket_worker` leaves it: registered, though nothing is armed. -/
def freshTimers : Timers := { registered := true }

def TimerEvent.stops : TimerEvent → Prop
  | .update c => c.ms = timerStop
  | .fire _ _ => False

lemma timerStep_stops {e : TimerEvent} (h : e.stops) : timerStep freshTimers e = freshTimers := by
  cases e with
  | update c => exact if_pos h.symm
  | fire => exact h.elim

lemma freshTimers_due (now : ℕ) (d : Deadline) : freshTimers.due now d = false := rfl

-- its timeout 0 is that of a stopped deadline, so the first one armed is taken over from all of them
lemma timerStep_multiplexes {e : TimerEvent} (h : ¬e.stops) : Multiplexed (timerStep freshTimers e) := by
  cases e with
  | update c =>
    have hreset : timerStep freshTimers (.update c) = tcpResetTimer (freshTimers.set c.which c.ms) := by
      rw [timerStep, TimerCall.apply, tcpUpdateTimer, if_neg (fun he => h he.symm), if_pos (.inl rfl), if_pos (.inr rfl)]
    rw [hreset]
    exact tcpResetTimer_multiplexed _
  | fire now handler =>
    have hserve : serveDue { freshTimers with registered := false } now = { registered := false } := by
      rw [serveDue, List.find?_eq_none.mpr fun d _ => ?_]
      · rfl
      · exact Bool.not_eq_true _ ▸ freshTimers_due now d
    rw [timerStep, if_pos ⟨rfl, Nat.zero_le now⟩, hserve]
    refine run_apply_multiplexed ⟨⟨fun h => absurd h Bool.false_ne_true, ?_⟩, fun h => absurd h Bool.false_ne_true⟩ handler
    rintro ⟨d, hd⟩
    exact absurd rfl hd

lemma run_multiplexed (h : Multiplexed t) (es : List TimerEvent) : Multiplexed (run timerStep t es) :=
  run_always (I := Multiplexed) (fun _ e ht => timerStep_multiplexed ht e) h es

lemma run_freshTimers (es : List TimerEvent) :
    ((∀ e ∈ es, e.stops) → run timerStep freshTimers es = freshTimers) ∧
      ((∃ e ∈ es, ¬e.stops) → Multiplexed (run timerStep freshTimers es)) := by
  induction es with
  | nil => exact ⟨fun _ => rfl, fun ⟨e, he, _⟩ => (List.not_mem_nil he).elim⟩
  | cons e es ih =>
    have hcons : run timerStep freshTimers (e :: es) = run timerStep (timerStep freshTimers e) es := rfl
    by_cases hs : e.stops
    · rw [hcons, timerStep_stops hs]
      refine ⟨fun h => ih.1 fun e' he' => h e' (List.mem_cons_of_mem e he'), ?_⟩
      rintro ⟨e', he', hs'⟩
      rcases List.mem_cons.mp he' with rfl | he'
      · exact absurd hs hs'
      · exact ih.2 ⟨e', he', hs'⟩
    · exact ⟨fun h => absurd (h e List.mem_cons_self) hs, fun _ => run_multiplexed (timerStep_multiplexes hs) es⟩

/-- Over every sequence of updates and firings on a fresh pcb the task is as `set_socket_worker` left it until it fires
or a deadline is armed. From then on it is registered iff a deadline is armed and its timeout is the earliest one.
Whenever a deadline is armed, the task is due exactly when one of them is. -/
theorem deadlines_multiplexed (es : List TimerEvent) :
    ((∀ e ∈ es, e.stops) → run timerStep freshTimers es = freshTimers) ∧
      ((∃ e ∈ es, ¬e.stops) → Multiplexed (run timerStep freshTimers es)) ∧
      ∀ now, (∃ d, (run timerStep freshTimers es).due now d = true) ↔
        (∃ d, (run timerStep freshTimers es).deadline d ≠ timerStop) ∧
          (run timerStep freshTimers es).registered = true ∧ (run timerStep freshTimers es).timeout ≤ now := by
  obtain ⟨hfresh, hmulti⟩ := run_freshTimers es
  refine ⟨hfresh, hmulti, fun now => ?_⟩
  by_cases hs : ∀ e ∈ es, e.stops
  · rw [hfresh hs]
    constructor
    · rintro ⟨d, hd⟩
      cases hd
    · rintro ⟨⟨d, hd⟩, -⟩
      exact absurd rfl hd
  · have h := hmulti (by simpa using hs)
    rw [h.due_iff, ← h.registered]
    exact ⟨fun hr => ⟨hr.1, hr⟩, fun hr => hr.2⟩

theorem fresh_task_is_registered : ¬Multiplexed (run timerStep freshTimers [.update ⟨.nagle, timerStop, true⟩]) := by
  intro h
  obtain ⟨d, hd⟩ := h.registered.mp rfl
  exact hd rfl

end Netfast.Tcp
