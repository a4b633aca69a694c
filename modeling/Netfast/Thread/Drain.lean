import Netfast.Thread.Wheel

/-! When the timer loop comes to an end: a timer that is not due must not come back to the slot it was taken from. -/

namespace Netfast.Thread

variable {σ : Type} {now : ℕ} {w : Wheel} {tk : Task}

def Far (now : ℕ) (tk : Task) : Prop := now < tk.timeout ∧ (tk.timeout - now) % 2 ^ 32 = 0

variable {k ticks : ℕ}

lemma wheelTimerSlot_far (h : Far now tk) : wheelTimerSlot w tk now = w.current := by
  obtain ⟨hle, -⟩ | ⟨-, -, he⟩ | ⟨-, hge, -⟩ := wheelTimerSlot_cases w tk now
  · exact absurd h.1 (Nat.not_lt.mpr hle)
  · rw [he, h.2, Nat.add_zero, slotAt_self]
    rfl
  · rw [h.2] at hge
    omega

lemma wheelTimerSlot_ne (hlt : now < tk.timeout) (h : ¬Far now tk) : wheelTimerSlot w tk now ≠ w.current := by
  obtain ⟨hle, -⟩ | ⟨-, hl, he⟩ | ⟨-, -, he⟩ := wheelTimerSlot_cases w tk now
  · omega
  · have hpos : (tk.timeout - now) % 2 ^ 32 ≠ 0 := fun hz => h ⟨hlt, hz⟩
    rw [he, Wheel.current]
    intro hc
    have heq : slotAt (w.wheel0Cursor + (tk.timeout - now) % 2 ^ 32) = w.wheel0Cursor := Slot.level0.inj hc
    have hval := congrArg Fin.val heq
    rw [slotAt_val] at hval
    have := w.wheel0Cursor.isLt
    omega
  · rw [he]
    exact Slot.noConfusion

/-- A callback that registers no timer; it may unregister some. -/
structure Removes (cb : Task → σ × Wheel → σ × Wheel) : Prop where
  slots (tk : Task) (x : σ × Wheel) (sl : Slot) : ((cb tk x).2.slots sl).Sublist (x.2.slots sl)
  cursor0 (tk : Task) (x : σ × Wheel) : (cb tk x).2.wheel0Cursor = x.2.wheel0Cursor
  cursor1 (tk : Task) (x : σ × Wheel) : (cb tk x).2.wheel1Cursor = x.2.wheel1Cursor

structure Lighter (now : ℕ) (w w' : Wheel) : Prop where
  cursor0 : w'.wheel0Cursor = w.wheel0Cursor
  cursor1 : w'.wheel1Cursor = w.wheel1Cursor
  far (sl : Slot) (tk : Task) (h : Far now tk) (hm : tk ∈ w'.slots sl) : tk ∈ w.slots sl

lemma Lighter.refl (w : Wheel) : Lighter now w w := ⟨rfl, rfl, fun _ _ _ hm => hm⟩

lemma Lighter.trans {a b c : Wheel} (h : Lighter now a b) (h' : Lighter now b c) : Lighter now a c :=
  ⟨h'.cursor0.trans h.cursor0, h'.cursor1.trans h.cursor1, fun sl tk hf hm => h.far sl tk hf (h'.far sl tk hf hm)⟩

variable {w' : Wheel}

lemma Lighter.current (h : Lighter now w w') : w'.current = w.current := congrArg Slot.level0 h.cursor0

lemma requeue_lighter (hlt : now < tk.timeout) (h : ¬Far now tk) {rest : List Task}
    (hs : w.slots w.current = tk :: rest) :
    Lighter now w (wheelRequeueTimer (w.setSlot w.current rest) tk now) ∧
      (wheelRequeueTimer (w.setSlot w.current rest) tk now).slots w.current = rest := by
  have hne : wheelTimerSlot (w.setSlot w.current rest) tk now ≠ w.current := wheelTimerSlot_ne hlt h
  refine ⟨⟨rfl, rfl, fun sl t hf hm => ?_⟩, ?_⟩
  · rcases mem_wheelRequeueTimer.mp hm with hm | ⟨rfl, -⟩
    · exact mem_of_mem_setSlot hs hm
    · exact absurd hf h
  · rw [wheelRequeueTimer, setSlot_slots_ne _ (Ne.symm hne), setSlot_slots]

lemma fire_lighter (now : ℕ) (a : σ) {cb : Task → σ × Wheel → σ × Wheel} (hcb : Removes cb) {rest : List Task}
    (hs : w.slots w.current = tk :: rest) :
    Lighter now w (cb tk (a, w.setSlot w.current rest)).2 ∧
      ((cb tk (a, w.setSlot w.current rest)).2.slots w.current).Sublist rest := by
  refine ⟨⟨hcb.cursor0 _ _, hcb.cursor1 _ _, fun sl t _ hm => ?_⟩, ?_⟩
  · exact mem_of_mem_setSlot hs ((hcb.slots tk (a, w.setSlot w.current rest) sl).subset hm)
  · have h := hcb.slots tk (a, w.setSlot w.current rest) w.current
    rwa [setSlot_slots] at h

lemma processCurrentTimerSlot_ends {cb : Task → σ × Wheel → σ × Wheel} (hcb : Removes cb) {n : ℕ} {x : σ × Wheel}
    (hlen : (x.2.slots x.2.current).length ≤ n) (hfar : ∀ tk ∈ x.2.slots x.2.current, ¬Far now tk) :
    ∃ y, processCurrentTimerSlot now cb (n + 1) x = some y ∧ Lighter now x.2 y.2 ∧ y.2.slots y.2.current = [] := by
  induction n generalizing x with
  | zero =>
    have hnil : x.2.slots x.2.current = [] := List.eq_nil_of_length_eq_zero (Nat.le_zero.mp hlen)
    refine ⟨x, ?_, .refl _, hnil⟩
    rw [processCurrentTimerSlot, hnil]
  | succ n ih =>
    rw [processCurrentTimerSlot]
    cases hs : x.2.slots x.2.current with
    | nil => exact ⟨x, rfl, .refl _, hs⟩
    | cons tk rest =>
      rw [hs] at hlen hfar
      rw [List.length_cons] at hlen
      dsimp only
      split
      · next hlt =>
        obtain ⟨hl, hrest⟩ := requeue_lighter hlt (hfar tk List.mem_cons_self) hs
        obtain ⟨y, hy, hly, hempty⟩ := ih (x := (x.1, wheelRequeueTimer (x.2.setSlot x.2.current rest) tk now))
          (by rw [hl.current, hrest]; omega)
          (by rw [hl.current, hrest]; exact fun t ht => hfar t (List.mem_cons_of_mem tk ht))
        exact ⟨y, hy, hl.trans hly, hempty⟩
      · obtain ⟨hl, hrest⟩ := fire_lighter now x.1 hcb hs
        obtain ⟨y, hy, hly, hempty⟩ := ih (x := cb tk (x.1, x.2.setSlot x.2.current rest))
          (by rw [hl.current]; exact Nat.le_trans hrest.length_le (by omega))
          (by rw [hl.current]; exact fun t ht => hfar t (List.mem_cons_of_mem tk (hrest.subset ht)))
        exact ⟨y, hy, hl.trans hly, hempty⟩

def idle (_ : Task) (x : σ × Wheel) : σ × Wheel := x

lemma idle_removes : Removes (@idle σ) := ⟨fun _ _ _ => List.Sublist.refl _, fun _ _ => rfl, fun _ _ => rfl⟩

lemma processCurrentTimerSlot_spins {x : σ × Wheel} (h : ∃ tk ∈ x.2.slots x.2.current, Far now tk) (k : ℕ) :
    processCurrentTimerSlot now idle k x = none := by
  induction k generalizing x with
  | zero => rfl
  | succ k ih =>
    obtain ⟨t, ht, hf⟩ := h
    rw [processCurrentTimerSlot]
    cases hs : x.2.slots x.2.current with
    | nil =>
      rw [hs] at ht
      cases ht
    | cons tk rest =>
      rw [hs] at ht
      dsimp only
      split
      · apply ih
        refine ⟨t, mem_wheelRequeueTimer.mpr ?_, hf⟩
        rcases List.mem_cons.mp ht with rfl | ht
        · exact .inr ⟨rfl, (wheelTimerSlot_far hf).symm⟩
        · refine .inl ?_
          change t ∈ (x.2.setSlot x.2.current rest).slots x.2.current
          rwa [setSlot_slots]
      · next hdue =>
        apply ih
        refine ⟨t, ?_, hf⟩
        change t ∈ (x.2.setSlot x.2.current rest).slots x.2.current
        rw [setSlot_slots]
        rcases List.mem_cons.mp ht with rfl | ht
        · exact absurd hf.1 hdue
        · exact ht

lemma processCurrentTimerSlot_keeps {x y : σ × Wheel} (h : processCurrentTimerSlot now idle k x = some y) :
    y.2.wheel0Cursor = x.2.wheel0Cursor ∧ y.2.wheel1Cursor = x.2.wheel1Cursor ∧
      ∀ sl ≠ x.2.current, ∀ t ∈ x.2.slots sl, t ∈ y.2.slots sl := by
  induction k generalizing x with
  | zero => cases h
  | succ k ih =>
    rw [processCurrentTimerSlot] at h
    split at h
    · obtain rfl := Option.some.inj h
      exact ⟨rfl, rfl, fun _ _ _ ht => ht⟩
    · next tk rest hs =>
      have hother (sl : Slot) (hsl : sl ≠ x.2.current) (t : Task) (ht : t ∈ x.2.slots sl) :
          t ∈ (x.2.setSlot x.2.current rest).slots sl := by
        rwa [setSlot_slots_ne x.2 hsl]
      dsimp only at h
      split at h
      · obtain ⟨h0, h1, hk⟩ := ih h
        exact ⟨h0, h1, fun sl hsl t ht => hk sl hsl t (mem_wheelRequeueTimer.mpr (.inl (hother sl hsl t ht)))⟩
      · obtain ⟨h0, h1, hk⟩ := ih h
        exact ⟨h0, h1, fun sl hsl t ht => hk sl hsl t (hother sl hsl t ht)⟩

variable {sl : Slot}

lemma mem_foldl_add {ts : List Task} {t : Task} : t ∈ (ts.foldl (fun w tk => wheelAddTimerAt w tk now) w).slots sl ↔
      t ∈ w.slots sl ∨ t ∈ ts ∧ sl = wheelTimerSlot w t now := by
  induction ts generalizing w with
  | nil => simp
  | cons a ts ih =>
    have hsame : wheelTimerSlot (wheelAddTimerAt w a now) t now = wheelTimerSlot w t now := rfl
    rw [List.foldl_cons, ih, mem_wheelAddTimerAt, hsame, List.mem_cons]
    constructor
    · rintro ((h | ⟨rfl, h⟩) | h)
      · exact .inl h
      · exact .inr ⟨.inl rfl, h⟩
      · exact .inr ⟨.inr h.1, h.2⟩
    · rintro (h | ⟨rfl | h, hs⟩)
      · exact .inl (.inl h)
      · exact .inl (.inr ⟨rfl, hs⟩)
      · exact .inr ⟨h, hs⟩

lemma foldl_add_cursors (now : ℕ) (w : Wheel) (ts : List Task) :
    (ts.foldl (fun w tk => wheelAddTimerAt w tk now) w).wheel0Cursor = w.wheel0Cursor ∧
      (ts.foldl (fun w tk => wheelAddTimerAt w tk now) w).wheel1Cursor = w.wheel1Cursor := by
  induction ts generalizing w with
  | nil => exact ⟨rfl, rfl⟩
  | cons a ts ih => exact ih _

lemma wheelAdvance_cases (w : Wheel) (now : ℕ) :
    ((w.wheel0Cursor : ℕ) < 99 ∧ ((wheelAdvance w now).wheel0Cursor : ℕ) = w.wheel0Cursor + 1 ∧
      (wheelAdvance w now).wheel1Cursor = w.wheel1Cursor ∧ (wheelAdvance w now).slots = w.slots) ∨
    ((w.wheel0Cursor : ℕ) = 99 ∧ (wheelAdvance w now).wheel0Cursor = 0 ∧
      (wheelAdvance w now).wheel1Cursor = slotAt (w.wheel1Cursor + 1) ∧ ∀ sl t, t ∈ (wheelAdvance w now).slots sl ↔
        t ∈ w.slots sl ∧ sl ≠ .level1 (slotAt (w.wheel1Cursor + 1)) ∨
          t ∈ w.slots (.level1 (slotAt (w.wheel1Cursor + 1))) ∧
            sl = wheelTimerSlot { w with wheel0Cursor := 0, wheel1Cursor := slotAt (w.wheel1Cursor + 1) } t now) := by
  have hlt := w.wheel0Cursor.isLt
  rw [wheelAdvance]
  dsimp only
  by_cases h : (w.wheel0Cursor : ℕ) = 99
  · have hzero : slotAt (w.wheel0Cursor + 1) = 0 := by
      apply Fin.ext
      rw [slotAt_val, h]
      rfl
    right
    rw [if_pos hzero, wheelCascadeL1]
    dsimp only
    obtain ⟨h0, h1⟩ := foldl_add_cursors now (({ w with
      wheel0Cursor := slotAt (w.wheel0Cursor + 1), wheel1Cursor := slotAt (w.wheel1Cursor + 1) } : Wheel).setSlot
        (.level1 (slotAt (w.wheel1Cursor + 1))) []) (w.slots (.level1 (slotAt (w.wheel1Cursor + 1))))
    refine ⟨h, h0.trans hzero, h1, fun sl t => ?_⟩
    rw [mem_foldl_add]
    have hslot : wheelTimerSlot (({ w with
        wheel0Cursor := slotAt (w.wheel0Cursor + 1), wheel1Cursor := slotAt (w.wheel1Cursor + 1) } : Wheel).setSlot
          (.level1 (slotAt (w.wheel1Cursor + 1))) []) t now =
        wheelTimerSlot { w with wheel0Cursor := 0, wheel1Cursor := slotAt (w.wheel1Cursor + 1) } t now := by
      rw [← hzero]
      rfl
    rw [hslot]
    refine or_congr_left ?_
    by_cases hsl : sl = .level1 (slotAt (w.wheel1Cursor + 1))
    · subst hsl
      simp
    · rw [setSlot_slots_ne _ hsl]
      simp [hsl]
  · have hne : slotAt (w.wheel0Cursor + 1) ≠ 0 := by
      intro hz
      have hval := congrArg Fin.val hz
      rw [slotAt_val] at hval
      change (w.wheel0Cursor + 1 : ℕ) % 100 = 0 at hval
      omega
    left
    rw [if_neg hne]
    refine ⟨by omega, ?_, rfl, rfl⟩
    rw [slotAt_val]
    omega

def Visited (w : Wheel) (k : ℕ) : Slot → Prop
  | .level0 i => ∃ n ≤ k, i = slotAt (w.wheel0Cursor + n)
  | .level1 i => ∃ n, 0 < n ∧ 100 * n ≤ w.wheel0Cursor + k ∧ i = slotAt (w.wheel1Cursor + n)

def FarAhead (now : ℕ) (w : Wheel) (k : ℕ) : Prop := ∃ sl, Visited w k sl ∧ ∃ tk ∈ w.slots sl, Far now tk

lemma visited_current (w : Wheel) (k : ℕ) : Visited w k w.current := by
  refine ⟨0, Nat.zero_le k, ?_⟩
  rw [Nat.add_zero, slotAt_self]

lemma visited_zero (h : Visited w 0 sl) : sl = w.current := by
  cases sl with
  | level0 i =>
    obtain ⟨n, hn, rfl⟩ := h
    obtain rfl := Nat.le_zero.mp hn
    rw [Nat.add_zero, slotAt_self]
    rfl
  | level1 i =>
    obtain ⟨n, hpos, hle, -⟩ := h
    have := w.wheel0Cursor.isLt
    omega

lemma Visited.congr (h : Visited w k sl) (h0 : w'.wheel0Cursor = w.wheel0Cursor)
    (h1 : w'.wheel1Cursor = w.wheel1Cursor) : Visited w' k sl := by
  cases sl with
  | level0 i =>
    rw [Visited, h0]
    exact h
  | level1 i =>
    rw [Visited, h0, h1]
    exact h

lemma not_far_of_not_ahead (h : ¬FarAhead now w k) : ∀ tk ∈ w.slots w.current, ¬Far now tk :=
  fun tk hm hf => h ⟨w.current, visited_current w k, tk, hm, hf⟩

lemma Lighter.not_ahead (hl : Lighter now w w') (h : ¬FarAhead now w k) : ¬FarAhead now w' k := by
  rintro ⟨sl, hv, tk, hm, hf⟩
  exact h ⟨sl, hv.congr hl.cursor0.symm hl.cursor1.symm, tk, hl.far sl tk hf hm, hf⟩

lemma slotAt_slotAt (a b : ℕ) : slotAt (slotAt a + b) = slotAt (a + b) := by
  rw [slotAt_eq_iff, slotAt_val]
  omega

lemma FarAhead.advance (hcur : ∀ tk ∈ w.slots w.current, ¬Far now tk) (h : FarAhead now w (k + 1)) :
    FarAhead now (wheelAdvance w now) k := by
  obtain ⟨sl, hv, tk, hm, hf⟩ := h
  obtain ⟨hc, h0, h1, hs⟩ | ⟨hc, h0, h1, hs⟩ := wheelAdvance_cases w now
  · refine ⟨sl, ?_, tk, by rwa [hs], hf⟩
    cases sl with
    | level0 i =>
      obtain ⟨n, hn, rfl⟩ := hv
      rcases Nat.eq_zero_or_pos n with rfl | hpos
      · rw [Nat.add_zero, slotAt_self] at hm
        exact absurd hf (hcur tk hm)
      · exact ⟨n - 1, by omega, by rw [h0, slotAt_eq_iff]; omega⟩
    | level1 i =>
      obtain ⟨n, hpos, hle, rfl⟩ := hv
      exact ⟨n, hpos, by omega, by rw [h1]⟩
  · -- the walk over the first level begins anew
    have hspread (hm : tk ∈ w.slots (.level1 (slotAt (w.wheel1Cursor + 1)))) : FarAhead now (wheelAdvance w now) k := by
      refine ⟨(wheelAdvance w now).current, visited_current _ k, tk, (hs _ tk).mpr (.inr ⟨hm, ?_⟩), hf⟩
      rw [wheelTimerSlot_far hf]
      exact congrArg Slot.level0 h0
    cases sl with
    | level0 i =>
      obtain ⟨n, hn, rfl⟩ := hv
      rcases Nat.eq_zero_or_pos n with rfl | hpos
      · rw [Nat.add_zero, slotAt_self] at hm
        exact absurd hf (hcur tk hm)
      · refine ⟨.level0 (slotAt (w.wheel0Cursor + n)), ⟨n - 1, by omega, ?_⟩, tk,
          (hs _ tk).mpr (.inl ⟨hm, Slot.noConfusion⟩), hf⟩
        rw [h0, hc, slotAt_eq_iff]
        change (99 + n) % 100 = (0 + (n - 1)) % 100
        omega
    | level1 i =>
      obtain ⟨n, hpos, hle, rfl⟩ := hv
      by_cases hfirst : slotAt (w.wheel1Cursor + n) = slotAt (w.wheel1Cursor + 1)
      · rw [hfirst] at hm
        exact hspread hm
      · have hn : n ≠ 1 := fun hone => hfirst (by rw [hone])
        refine ⟨.level1 (slotAt (w.wheel1Cursor + n)), ⟨n - 1, by omega, ?_, ?_⟩, tk,
          (hs _ tk).mpr (.inl ⟨hm, fun he => hfirst (Slot.level1.inj he)⟩), hf⟩
        · rw [h0]
          change 100 * (n - 1) ≤ 0 + k
          omega
        · rw [h1, slotAt_slotAt]
          congr 1
          omega

lemma FarAhead.of_advance (h : FarAhead now (wheelAdvance w now) k) : FarAhead now w (k + 1) := by
  obtain ⟨sl, hv, tk, hm, hf⟩ := h
  obtain ⟨hc, h0, h1, hs⟩ | ⟨hc, h0, h1, hs⟩ := wheelAdvance_cases w now
  · refine ⟨sl, ?_, tk, by rwa [hs] at hm, hf⟩
    cases sl with
    | level0 i =>
      obtain ⟨n, hn, rfl⟩ := hv
      exact ⟨n + 1, by omega, by rw [h0, slotAt_eq_iff]; omega⟩
    | level1 i =>
      obtain ⟨n, hpos, hle, rfl⟩ := hv
      exact ⟨n, hpos, by omega, by rw [h1]⟩
  · rcases (hs sl tk).mp hm with ⟨hm, -⟩ | ⟨hm, -⟩
    · refine ⟨sl, ?_, tk, hm, hf⟩
      cases sl with
      | level0 i =>
        obtain ⟨n, hn, rfl⟩ := hv
        refine ⟨n + 1, by omega, ?_⟩
        rw [h0, hc, slotAt_eq_iff]
        change (0 + n) % 100 = (99 + (n + 1)) % 100
        omega
      | level1 i =>
        obtain ⟨n, hpos, hle, rfl⟩ := hv
        rw [h0] at hle
        change 100 * n ≤ 0 + k at hle
        refine ⟨n + 1, by omega, by omega, ?_⟩
        rw [h1, slotAt_slotAt]
        congr 1
        omega
    · exact ⟨.level1 (slotAt (w.wheel1Cursor + 1)), ⟨1, by omega, by omega, rfl⟩, tk, hm, hf⟩

section Ticks

variable {cb : Task → σ × Wheel → σ × Wheel} {x y z : σ × Wheel}

lemma processCurrentTimerSlot_unique {m : ℕ} (h : processCurrentTimerSlot now cb k x = some y)
    (h' : processCurrentTimerSlot now cb m x = some z) : y = z := by
  have hy := processCurrentTimerSlot_mono h (Nat.le_max_left k m)
  have hz := processCurrentTimerSlot_mono h' (Nat.le_max_right k m)
  rw [hy] at hz
  exact Option.some.inj hz

lemma processCurrentTimerSlot_lighter (hcb : Removes cb) (hfar : ∀ tk ∈ x.2.slots x.2.current, ¬Far now tk)
    (h : processCurrentTimerSlot now cb k x = some y) : Lighter now x.2 y.2 := by
  obtain ⟨z, hz, hl, -⟩ := processCurrentTimerSlot_ends hcb (Nat.le_refl _) hfar
  rw [processCurrentTimerSlot_unique h hz]
  exact hl

lemma processCurrentTimerSlot_empties (h : processCurrentTimerSlot now cb k x = some y) :
    y.2.slots y.2.current = [] := by
  induction k generalizing x with
  | zero => cases h
  | succ k ih =>
    rw [processCurrentTimerSlot] at h
    split at h
    · next hs =>
      obtain rfl := Option.some.inj h
      exact hs
    · dsimp only at h
      split at h
      · exact ih h
      · exact ih h

lemma tickLoop_ends (hcb : Removes cb) (h : ¬FarAhead now x.2 ticks) :
    ∃ rounds y, tickLoop now cb rounds ticks x = some y := by
  induction ticks generalizing x with
  | zero => exact ⟨0, x, rfl⟩
  | succ k ih =>
    have hnext : ¬FarAhead now (wheelAdvance x.2 now) k := fun hf => h hf.of_advance
    obtain ⟨n, y, hy, hl⟩ : ∃ n y, processCurrentTimerSlot now cb n (x.1, wheelAdvance x.2 now) = some y ∧
        Lighter now (wheelAdvance x.2 now) y.2 := by
      obtain ⟨y, hy, hl, -⟩ := processCurrentTimerSlot_ends (x := (x.1, wheelAdvance x.2 now)) hcb (Nat.le_refl _)
        (not_far_of_not_ahead hnext)
      exact ⟨_, y, hy, hl⟩
    obtain ⟨rounds, z, hz⟩ := ih (hl.not_ahead hnext)
    refine ⟨max n rounds, z, ?_⟩
    rw [tickLoop, processCurrentTimerSlot_mono hy (Nat.le_max_left n rounds)]
    exact tickLoop_mono hz (Nat.le_max_right n rounds)

lemma tickLoop_spins (hcur : ∀ tk ∈ x.2.slots x.2.current, ¬Far now tk) (h : FarAhead now x.2 ticks)
    (rounds : ℕ) : tickLoop now idle rounds ticks x = none := by
  induction ticks generalizing x with
  | zero =>
    obtain ⟨sl, hv, tk, hm, hf⟩ := h
    rw [visited_zero hv] at hm
    exact absurd hf (hcur tk hm)
  | succ k ih =>
    obtain ⟨sl, hv, tk, hm, hf⟩ := h.advance hcur
    rw [tickLoop]
    cases hp : processCurrentTimerSlot now idle rounds (x.1, wheelAdvance x.2 now) with
    | none => rfl
    | some y =>
      apply ih
      · rw [processCurrentTimerSlot_empties hp]
        exact fun _ ht => absurd ht List.not_mem_nil
      · obtain ⟨h0, h1, hkeep⟩ := processCurrentTimerSlot_keeps hp
        refine ⟨sl, hv.congr h0 h1, tk, hkeep sl ?_ tk hm, hf⟩
        rintro rfl
        rw [processCurrentTimerSlot_spins ⟨tk, hm, hf⟩ rounds] at hp
        cases hp

/-- With `k` ticks to go in `x`, the loop comes to serve the current slot of `z`. -/
inductive Serves (now : ℕ) (cb : Task → σ × Wheel → σ × Wheel) : ℕ → σ × Wheel → σ × Wheel → Prop
  | here (k : ℕ) (x : σ × Wheel) : Serves now cb k x x
  | next {k rounds : ℕ} {x y z : σ × Wheel} (h : processCurrentTimerSlot now cb rounds x = some y)
      (hs : Serves now cb k (y.1, wheelAdvance y.2 now) z) : Serves now cb (k + 1) x z

lemma Serves.not_far (hcb : Removes cb) (h : Serves now cb k x z) (hx : ¬FarAhead now x.2 k) :
    ∀ tk ∈ z.2.slots z.2.current, ¬Far now tk := by
  induction h with
  | here k x => exact not_far_of_not_ahead hx
  | next hp _ ih =>
    have hl := processCurrentTimerSlot_lighter hcb (not_far_of_not_ahead hx) hp
    exact ih fun hf => hl.not_ahead hx hf.of_advance

lemma serveTicks_ends (hcb : Removes cb) (h : ¬FarAhead now x.2 ticks) :
    ∃ rounds y, serveTicks now cb rounds ticks x = some y := by
  obtain ⟨y, hy, hl, -⟩ := processCurrentTimerSlot_ends hcb (Nat.le_refl _) (not_far_of_not_ahead h)
  obtain ⟨rounds, z, hz⟩ := tickLoop_ends hcb (hl.not_ahead h)
  refine ⟨max ((x.2.slots x.2.current).length + 1) rounds, ?_⟩
  rw [serveTicks, processCurrentTimerSlot_mono hy (Nat.le_max_left _ rounds)]
  dsimp only
  rw [tickLoop_mono hz (Nat.le_max_right _ rounds)]
  exact ⟨_, rfl⟩

lemma serveTicks_spins (h : FarAhead now x.2 ticks) (rounds : ℕ) : serveTicks now idle rounds ticks x = none := by
  obtain ⟨sl, hv, tk, hm, hf⟩ := h
  rw [serveTicks]
  cases hp : processCurrentTimerSlot now idle rounds x with
  | none => rfl
  | some y =>
    obtain ⟨h0, h1, hkeep⟩ := processCurrentTimerSlot_keeps hp
    have hahead : FarAhead now y.2 ticks := by
      refine ⟨sl, hv.congr h0 h1, tk, hkeep sl ?_ tk hm, hf⟩
      rintro rfl
      rw [processCurrentTimerSlot_spins ⟨tk, hm, hf⟩ rounds] at hp
      cases hp
    have hcur : ∀ tk ∈ y.2.slots y.2.current, ¬Far now tk := by
      rw [processCurrentTimerSlot_empties hp]
      exact fun _ ht => absurd ht List.not_mem_nil
    dsimp only
    rw [tickLoop_spins hcur hahead]

end Ticks

/-- The loops come to an end whatever the callbacks take off the wheel, and no timer goes back to the slot being served
before it is due, exactly if no timer on their way is a multiple of 2 ^ 32 ms ahead. -/
theorem timer_loop_ends (w : Wheel) (now : ℕ) :
    (∀ (σ : Type) (cb : Task → σ × Wheel → σ × Wheel) (a : σ), Removes cb →
      (∃ rounds y, processCurrentTimerSlot now cb rounds (a, w) = some y) ∧
      (∃ rounds y, doTimerTasks now cb rounds (a, w) = some y) ∧
      ∀ z, Serves now cb (elapsedTicks now w) (a, w) z → ∀ tk ∈ z.2.slots z.2.current, now < tk.timeout →
        wheelTimerSlot z.2 tk now ≠ z.2.current) ↔
    ¬FarAhead now w (elapsedTicks now w) := by
  constructor
  · intro h hf
    obtain ⟨-, ⟨rounds, y, hy⟩, -⟩ := h Unit idle () idle_removes
    rw [doTimerTasks, serveTicks_spins hf] at hy
    cases hy
  · intro h σ cb a hcb
    obtain ⟨y, hy, -, -⟩ := processCurrentTimerSlot_ends (x := (a, w)) hcb (Nat.le_refl _) (not_far_of_not_ahead h)
    refine ⟨⟨_, y, hy⟩, serveTicks_ends hcb h, fun z hz tk hm hlt => ?_⟩
    exact wheelTimerSlot_ne hlt (hz.not_far hcb h tk hm)

/-- A linger of 2 ^ 29 s, asked for in the pass of the worker whose timers are served next. -/
theorem linger_timer_spins :
    ¬∃ rounds y, doTimerTasks 5000 idle rounds ((), registerTask (emptyWheel 5000) ⟨1, 5000 + 2 ^ 29 * 1000⟩ 5000) =
      some y := by
  rintro ⟨rounds, y, hy⟩
  have hf : Far 5000 ⟨1, 5000 + 2 ^ 29 * 1000⟩ := ⟨by decide, by decide⟩
  rw [doTimerTasks, serveTicks_spins] at hy
  · cases hy
  · exact ⟨_, visited_current _ _, _, mem_wheelAddTimerAt.mpr (.inr ⟨rfl, (wheelTimerSlot_far hf).symm⟩), hf⟩

end Netfast.Thread
