import Netfast.Lib.DeadlineQueue
import Netfast.Thread.Drain
import Mathlib.Algebra.BigOperators.Group.Finset.Piecewise
import Mathlib.Data.Fintype.Sum
import Mathlib.Tactic.DeriveFintype

/-! The wheel as a queue of deadlines: where a timer stands is early enough for it, it fires when it is due and once for
each registration. -/

namespace Netfast.Thread

deriving instance Fintype for Slot

def Wheel.timers (w : Wheel) : Multiset Task := Finset.univ.sum fun sl => (w.slots sl : Multiset Task)

variable {w : Wheel} {tk t : Task} {sl : Slot} {now : ℕ}

variable {n k rounds : ℕ}

lemma mem_timers : t ∈ w.timers ↔ ∃ sl, t ∈ w.slots sl := by
  rw [Wheel.timers, Multiset.mem_sum]
  simp

lemma timers_setSlot (w : Wheel) (sl : Slot) (ts : List Task) :
    (w.setSlot sl ts).timers + (w.slots sl : Multiset Task) = w.timers + ts := by
  have hw : w.timers = w.slots sl + (Finset.univ \ {sl}).sum fun s => (w.slots s : Multiset Task) := by
    rw [Wheel.timers, ← Finset.sum_update_of_mem (Finset.mem_univ sl), Function.update_eq_self]
  have hset : (w.setSlot sl ts).timers = ts + (Finset.univ \ {sl}).sum fun s => (w.slots s : Multiset Task) := by
    rw [← Finset.sum_update_of_mem (Finset.mem_univ sl), Wheel.timers]
    refine Finset.sum_congr rfl fun s _ => ?_
    by_cases hs : s = sl
    · subst hs
      rw [Function.update_self, setSlot_slots]
    · rw [Function.update_of_ne hs, setSlot_slots_ne w hs]
  rw [hw, hset, add_right_comm, add_comm (ts : Multiset Task)]
  exact (add_right_comm _ _ _).trans (by rw [add_comm (w.slots sl : Multiset Task), add_right_comm])

variable {rest : List Task}

lemma timers_pop (h : w.slots sl = tk :: rest) : w.timers = tk ::ₘ (w.setSlot sl rest).timers := by
  have hset := timers_setSlot w sl rest
  rw [h, ← Multiset.cons_coe, Multiset.add_cons, ← Multiset.cons_add] at hset
  exact (add_right_cancel hset).symm

lemma timers_add (w : Wheel) (tk : Task) (now : ℕ) : (wheelAddTimerAt w tk now).timers = tk ::ₘ w.timers := by
  have hset := timers_setSlot w (wheelTimerSlot w tk now) (tk :: w.slots (wheelTimerSlot w tk now))
  rw [← Multiset.cons_coe, Multiset.add_cons, ← Multiset.cons_add] at hset
  exact add_right_cancel hset

lemma timers_requeue (w : Wheel) (tk : Task) (now : ℕ) : (wheelRequeueTimer w tk now).timers = tk ::ₘ w.timers := by
  have hset := timers_setSlot w (wheelTimerSlot w tk now) (w.slots (wheelTimerSlot w tk now) ++ [tk])
  rw [← Multiset.coe_add, ← add_assoc, add_right_comm] at hset
  rw [wheelRequeueTimer, add_right_cancel hset, Multiset.coe_singleton, add_comm, Multiset.singleton_add]

lemma timers_foldl_add (ts : List Task) :
    (ts.foldl (fun w tk => wheelAddTimerAt w tk now) w).timers = ts + w.timers := by
  induction ts generalizing w with
  | nil => exact (zero_add _).symm
  | cons a ts ih =>
    rw [List.foldl_cons, ih, timers_add, ← Multiset.cons_coe, Multiset.add_cons, Multiset.cons_add]

lemma timers_advance (w : Wheel) (now : ℕ) : (wheelAdvance w now).timers = w.timers := by
  rw [wheelAdvance]
  dsimp only
  split
  · rw [wheelCascadeL1]
    dsimp only
    rw [timers_foldl_add, add_comm]
    have hset := timers_setSlot ({ w with
      wheel0Cursor := slotAt (w.wheel0Cursor + 1), wheel1Cursor := slotAt (w.wheel1Cursor + 1) } : Wheel)
      (.level1 (slotAt (w.wheel1Cursor + 1))) []
    rw [Multiset.coe_nil, add_zero] at hset
    exact hset
  · rfl

lemma timers_remove (w : Wheel) (id : ℕ) : (wheelRemoveTimer w id).timers = w.timers.filter fun tk => tk.id ≠ id := by
  apply Multiset.ext.mpr
  intro t
  rw [Multiset.count_filter, Wheel.timers, Wheel.timers, Multiset.count_sum', Multiset.count_sum']
  have hslot (sl : Slot) : Multiset.count t ((wheelRemoveTimer w id).slots sl : Multiset Task) =
      if t.id ≠ id then Multiset.count t (w.slots sl : Multiset Task) else 0 := by
    rw [← Multiset.count_filter (p := fun tk : Task => tk.id ≠ id), wheelRemoveTimer, Multiset.filter_coe]
    simp only [ne_eq, decide_not, Multiset.coe_count]
    rfl
  rw [Finset.sum_congr rfl fun sl _ => hslot sl]
  split
  · rfl
  · exact Finset.sum_const_zero

structure Represents (ts : Multiset Task) (q : ℕ → Option ℕ) : Prop where
  nodup : (ts.map Task.id).Nodup
  mem_iff (t : Task) : t ∈ ts ↔ q t.id = some t.timeout

variable {ts : Multiset Task} {q : ℕ → Option ℕ}

lemma Represents.cons (h : Represents ts q) (hnone : q tk.id = none) :
    Represents (tk ::ₘ ts) (Function.update q tk.id (some tk.timeout)) := by
  refine ⟨?_, fun t => ?_⟩
  · rw [Multiset.map_cons, Multiset.nodup_cons]
    refine ⟨fun hm => ?_, h.nodup⟩
    obtain ⟨t, ht, hid⟩ := Multiset.mem_map.mp hm
    have hq := (h.mem_iff t).mp ht
    rw [hid, hnone] at hq
    cases hq
  · rw [Multiset.mem_cons, h.mem_iff]
    by_cases hid : t.id = tk.id
    · rw [hid, Function.update_self, hnone]
      constructor
      · rintro (rfl | hq)
        · rfl
        · cases hq
      · intro hq
        left
        cases t
        cases tk
        cases hid
        cases Option.some.inj hq
        rfl
    · rw [Function.update_of_ne hid]
      exact or_iff_right fun he => hid (congrArg Task.id he)

lemma Represents.head (h : Represents (tk ::ₘ ts) q) : q tk.id = some tk.timeout :=
  (h.mem_iff tk).mp (Multiset.mem_cons_self tk ts)

lemma Represents.tail (h : Represents (tk ::ₘ ts) q) : Represents ts (Function.update q tk.id none) := by
  have hnodup := h.nodup
  rw [Multiset.map_cons, Multiset.nodup_cons] at hnodup
  refine ⟨hnodup.2, fun t => ?_⟩
  by_cases hid : t.id = tk.id
  · rw [hid, Function.update_self]
    refine iff_of_false (fun hm => hnodup.1 ?_) (Option.some_ne_none _).symm
    rw [← hid]
    exact Multiset.mem_map_of_mem Task.id hm
  · rw [Function.update_of_ne hid, ← h.mem_iff, Multiset.mem_cons]
    exact (or_iff_right fun he => hid (congrArg Task.id he)).symm

lemma Represents.filter (h : Represents ts q) (id : ℕ) :
    Represents (ts.filter fun tk => tk.id ≠ id) (Function.update q id none) := by
  refine ⟨Multiset.nodup_of_le (Multiset.map_le_map (Multiset.filter_le _ ts)) h.nodup, fun t => ?_⟩
  rw [Multiset.mem_filter, h.mem_iff]
  by_cases hid : t.id = id
  · rw [hid, Function.update_self]
    exact iff_of_false (fun hm => hm.2 rfl) (Option.some_ne_none _).symm
  · rw [Function.update_of_ne hid]
    exact and_iff_left hid

/-! Where a timer may stand when the wheel has turned up to the time `W`: its slot is reached at its timeout or before. -/

def ticksTo (cursor i : Fin 100) : ℕ := (i + 100 - cursor) % 100

def Stands (W : ℕ) (w : Wheel) (t : Task) : Slot → Prop
  | .level0 i => i = w.wheel0Cursor ∨ W + ticksTo w.wheel0Cursor i ≤ t.timeout
  | .level1 i => 0 < ticksTo w.wheel1Cursor i ∧ W + 100 * ticksTo w.wheel1Cursor i ≤ t.timeout + w.wheel0Cursor

structure Placed (W now : ℕ) (w : Wheel) : Prop where
  near (sl : Slot) (t : Task) (h : t ∈ w.slots sl) : t.timeout < now + 2 ^ 32
  stands (sl : Slot) (t : Task) (h : t ∈ w.slots sl) : Stands W w t sl

lemma ticksTo_slotAt (c : Fin 100) (h : n < 100) : ticksTo c (slotAt (c + n)) = n := by
  rw [ticksTo, slotAt_val]
  have := c.isLt
  omega

lemma wheelTimerSlot_stands {W : ℕ} (hW : W ≤ now) (hnear : tk.timeout < now + 2 ^ 32) :
    Stands W w tk (wheelTimerSlot w tk now) := by
  obtain ⟨-, he⟩ | ⟨hlt, hl, he⟩ | ⟨hlt, hge, he⟩ := wheelTimerSlot_cases w tk now
  · rw [he]
    exact .inl rfl
  · have hmod : (tk.timeout - now) % 2 ^ 32 = tk.timeout - now := Nat.mod_eq_of_lt (by omega)
    rw [hmod] at hl he
    rw [he]
    refine .inr ?_
    rw [ticksTo_slotAt _ hl]
    omega
  · have hmod : (tk.timeout - now) % 2 ^ 32 = tk.timeout - now := Nat.mod_eq_of_lt (by omega)
    have hdiv : (tk.timeout - now) / 100 % 2 ^ 32 = (tk.timeout - now) / 100 := Nat.mod_eq_of_lt (by omega)
    rw [hmod] at hge
    rw [he, hdiv]
    refine ⟨?_, ?_⟩
    · rw [ticksTo_slotAt _ (by omega)]
      omega
    · rw [ticksTo_slotAt _ (by omega)]
      omega

lemma Placed.of_mem {W : ℕ} {w' : Wheel} (h : Placed W now w) (h0 : w'.wheel0Cursor = w.wheel0Cursor)
    (h1 : w'.wheel1Cursor = w.wheel1Cursor)
    (hm : ∀ sl, ∀ t ∈ w'.slots sl, t ∈ w.slots sl ∨ t.timeout < now + 2 ^ 32 ∧ sl = wheelTimerSlot w t now)
    (hW : W ≤ now) : Placed W now w' := by
  have hstands (sl : Slot) (t : Task) : Stands W w t sl → Stands W w' t sl := by
    intro hs
    cases sl with
    | level0 i =>
      rw [Stands, h0]
      exact hs
    | level1 i =>
      rw [Stands, h0, h1]
      exact hs
  refine ⟨fun sl t ht => ?_, fun sl t ht => hstands sl t ?_⟩
  · rcases hm sl t ht with ht | ⟨hnear, -⟩
    · exact h.near sl t ht
    · exact hnear
  · rcases hm sl t ht with ht | ⟨hnear, rfl⟩
    · exact h.stands sl t ht
    · exact wheelTimerSlot_stands hW hnear

lemma Placed.advance {W : ℕ} (h : Placed W now w) (hempty : w.slots w.current = []) (hW : W + 1 ≤ now) :
    Placed (W + 1) now (wheelAdvance w now) := by
  have hcur (i : Fin 100) (t : Task) (ht : t ∈ w.slots (.level0 i)) :
      0 < ticksTo w.wheel0Cursor i ∧ W + ticksTo w.wheel0Cursor i ≤ t.timeout := by
    have hne : i ≠ w.wheel0Cursor := by
      rintro rfl
      rw [Wheel.current] at hempty
      rw [hempty] at ht
      cases ht
    refine ⟨?_, (h.stands _ t ht).resolve_left hne⟩
    have := Fin.val_ne_of_ne hne
    rw [ticksTo]
    omega
  obtain ⟨hc, h0, h1, hs⟩ | ⟨hc, h0, h1, hs⟩ := wheelAdvance_cases w now
  · refine ⟨fun sl t ht => h.near sl t (by rwa [hs] at ht), fun sl t ht => ?_⟩
    rw [hs] at ht
    cases sl with
    | level0 i =>
      obtain ⟨hpos, hle⟩ := hcur i t ht
      refine .inr ?_
      rw [ticksTo] at hpos hle ⊢
      rw [h0]
      omega
    | level1 i =>
      obtain ⟨hpos, hle⟩ := h.stands _ t ht
      refine ⟨by rwa [h1], ?_⟩
      rw [h1, h0]
      omega
  · refine ⟨fun sl t ht => ?_, fun sl t ht => ?_⟩
    · rcases (hs sl t).mp ht with ⟨ht, -⟩ | ⟨ht, -⟩
      · exact h.near _ t ht
      · exact h.near _ t ht
    · rcases (hs sl t).mp ht with ⟨ht, hne⟩ | ⟨hspread, rfl⟩
      · cases sl with
        | level0 i =>
          obtain ⟨hpos, hle⟩ := hcur i t ht
          refine .inr ?_
          rw [ticksTo] at hpos hle ⊢
          rw [h0]
          change W + 1 + (i + 100 - 0) % 100 ≤ t.timeout
          omega
        | level1 i =>
          obtain ⟨hpos, hle⟩ := h.stands _ t ht
          have hone : ticksTo w.wheel1Cursor i ≠ 1 := by
            intro hone
            refine hne (congrArg Slot.level1 (Fin.ext ?_))
            rw [ticksTo] at hone
            rw [slotAt_val]
            omega
          have hless : ticksTo (slotAt (w.wheel1Cursor + 1)) i = ticksTo w.wheel1Cursor i - 1 := by
            rw [ticksTo] at hpos hone
            rw [ticksTo, ticksTo, slotAt_val]
            have := w.wheel1Cursor.isLt
            omega
          refine ⟨by rw [h1, hless]; omega, ?_⟩
          rw [h1, hless, h0]
          change W + 1 + 100 * (ticksTo w.wheel1Cursor i - 1) ≤ t.timeout + 0
          omega
      · have hst := wheelTimerSlot_stands (w := { w with wheel0Cursor := 0, wheel1Cursor := slotAt (w.wheel1Cursor + 1) })
          hW (h.near _ t hspread)
        generalize wheelTimerSlot { w with wheel0Cursor := 0, wheel1Cursor := slotAt (w.wheel1Cursor + 1) } t now = sl at hst
        cases sl with
        | level0 i =>
          rw [Stands, h0]
          exact hst
        | level1 i =>
          rw [Stands, h0, h1]
          exact hst

lemma Placed.not_due (h : Placed now now w) (hempty : w.slots w.current = []) (ht : t ∈ w.slots sl) :
    now < t.timeout := by
  cases sl with
  | level0 i =>
    have hne : i ≠ w.wheel0Cursor := by
      rintro rfl
      rw [Wheel.current] at hempty
      rw [hempty] at ht
      cases ht
    have hle := (h.stands _ t ht).resolve_left hne
    have := Fin.val_ne_of_ne hne
    rw [ticksTo] at hle
    omega
  | level1 i =>
    obtain ⟨hpos, hle⟩ := h.stands _ t ht
    have := w.wheel0Cursor.isLt
    omega

inductive Op
  | register (tk : Task)
  | unregister (id : ℕ)

/-- A registration is for less than 2 ^ 32 ms ahead. -/
def Op.Near (now : ℕ) : Op → Prop
  | .register tk => tk.timeout < now + 2 ^ 32
  | .unregister _ => True

abbrev History := List (DeadlineQueue.Label ℕ)

def act (now : ℕ) (x : History × Wheel) : Op → History × Wheel
  | .register tk => (.insert tk.id tk.timeout :: x.1, registerTask x.2 tk now)
  | .unregister id => (.cancel id :: x.1, unregisterTask x.2 id)

def fireTimerTask (now : ℕ) (react : History → List Op) (tk : Task) (x : History × Wheel) : History × Wheel :=
  (react (.fire tk.id tk.timeout now :: x.1)).foldl (act now) (.fire tk.id tk.timeout now :: x.1, x.2)

structure Faithful (W now : ℕ) (x : History × Wheel) : Prop where
  placed : Placed W now x.2
  queue : ∃ q, DeadlineQueue.queueOf x.1 = some q ∧ Represents x.2.timers q

variable {W : ℕ} {x y : History × Wheel} {react : History → List Op}

lemma mem_wheelRemoveTimer {id : ℕ} : t ∈ (wheelRemoveTimer w id).slots sl ↔ t ∈ w.slots sl ∧ t.id ≠ id := by
  rw [wheelRemoveTimer, List.mem_filter, bne_iff_ne]

lemma Faithful.register (h : Faithful W now x) (hW : W ≤ now) (hnear : tk.timeout < now + 2 ^ 32) :
    Faithful W now (act now x (.register tk)) := by
  obtain ⟨q, hq, hrep⟩ := h.queue
  refine ⟨h.placed.of_mem rfl rfl (fun sl t ht => ?_) hW, _, congrArg (Option.bind · _) hq, ?_⟩
  · rcases mem_wheelAddTimerAt.mp ht with ht | ⟨rfl, hsl⟩
    · exact .inl (mem_wheelRemoveTimer.mp ht).1
    · exact .inr ⟨hnear, hsl⟩
  · have hadd : Represents (tk ::ₘ _) _ := (hrep.filter tk.id).cons (Function.update_self _ _ _)
    rw [Function.update_idem] at hadd
    change Represents (registerTask x.2 tk now).timers _
    rw [registerTask, timers_add, timers_remove]
    exact hadd

lemma Faithful.unregister (h : Faithful W now x) (hW : W ≤ now) (id : ℕ) :
    Faithful W now (act now x (.unregister id)) := by
  obtain ⟨q, hq, hrep⟩ := h.queue
  refine ⟨h.placed.of_mem rfl rfl (fun sl t ht => .inl (mem_wheelRemoveTimer.mp ht).1) hW, _,
    congrArg (Option.bind · _) hq, ?_⟩
  change Represents (unregisterTask x.2 id).timers _
  rw [unregisterTask, timers_remove]
  exact hrep.filter id

lemma Faithful.act (h : Faithful W now x) (hW : W ≤ now) {op : Op} (hop : op.Near now) :
    Faithful W now (act now x op) := by
  cases op with
  | register tk => exact h.register hW hop
  | unregister id => exact h.unregister hW id

lemma Faithful.acts (h : Faithful W now x) (hW : W ≤ now) {ops : List Op} (hops : ∀ op ∈ ops, op.Near now) :
    Faithful W now (ops.foldl (Thread.act now) x) := by
  induction ops generalizing x with
  | nil => exact h
  | cons op ops ih =>
    exact ih (h.act hW (hops op List.mem_cons_self)) fun op' hop' => hops op' (List.mem_cons_of_mem op hop')

lemma Faithful.requeue (h : Faithful W now x) (hW : W ≤ now) (hs : x.2.slots x.2.current = tk :: rest) :
    Faithful W now (x.1, wheelRequeueTimer (x.2.setSlot x.2.current rest) tk now) := by
  obtain ⟨q, hq, hrep⟩ := h.queue
  refine ⟨h.placed.of_mem rfl rfl (fun sl t ht => ?_) hW, q, hq, ?_⟩
  · rcases mem_wheelRequeueTimer.mp ht with ht | ⟨rfl, hsl⟩
    · exact .inl (mem_of_mem_setSlot hs ht)
    · exact .inr ⟨h.placed.near _ t (by rw [hs]; exact List.mem_cons_self), hsl⟩
  · rw [timers_requeue, ← timers_pop hs]
    exact hrep

lemma Faithful.fire (h : Faithful W now x) (hW : W ≤ now)
    (hs : x.2.slots x.2.current = tk :: rest) (hdue : tk.timeout ≤ now) (hreact : ∀ log, ∀ op ∈ react log, op.Near now) :
    Faithful W now (fireTimerTask now react tk (x.1, x.2.setSlot x.2.current rest)) := by
  obtain ⟨q, hq, hrep⟩ := h.queue
  rw [timers_pop hs] at hrep
  have hqueue : DeadlineQueue.queueOf (.fire tk.id tk.timeout now :: x.1) = some (Function.update q tk.id none) := by
    rw [DeadlineQueue.queueOf, hq, Option.bind_some, DeadlineQueue.step, if_pos ⟨hrep.head, hdue⟩]
  have hfired : Faithful W now (.fire tk.id tk.timeout now :: x.1, x.2.setSlot x.2.current rest) :=
    ⟨h.placed.of_mem rfl rfl (fun sl t ht => .inl (mem_of_mem_setSlot hs ht)) hW, _, hqueue, hrep.tail⟩
  exact hfired.acts hW (hreact _)

lemma Faithful.process (h : Faithful W now x) (hW : W ≤ now) (hreact : ∀ log, ∀ op ∈ react log, op.Near now)
    (hp : processCurrentTimerSlot now (fireTimerTask now react) k x = some y) : Faithful W now y := by
  induction k generalizing x with
  | zero => cases hp
  | succ k ih =>
    rw [processCurrentTimerSlot] at hp
    split at hp
    · obtain rfl := Option.some.inj hp
      exact h
    · next tk rest hs =>
      dsimp only at hp
      split at hp
      · exact ih (h.requeue hW hs) hp
      · next hdue => exact ih (h.fire hW hs (Nat.not_lt.mp hdue) hreact) hp

lemma Faithful.tick (h : Faithful W now x) (hempty : x.2.slots x.2.current = []) (hW : W + 1 ≤ now) :
    Faithful (W + 1) now (x.1, wheelAdvance x.2 now) := by
  obtain ⟨q, hq, hrep⟩ := h.queue
  refine ⟨h.placed.advance hempty hW, q, hq, ?_⟩
  rw [timers_advance]
  exact hrep

lemma Faithful.ticks (h : Faithful W now x) (hempty : x.2.slots x.2.current = []) (hW : W + k ≤ now)
    (hreact : ∀ log, ∀ op ∈ react log, op.Near now)
    (hp : tickLoop now (fireTimerTask now react) rounds k x = some y) :
    Faithful (W + k) now y ∧ y.2.slots y.2.current = [] := by
  induction k generalizing W x with
  | zero =>
    obtain rfl := Option.some.inj hp
    exact ⟨h, hempty⟩
  | succ k ih =>
    rw [tickLoop] at hp
    split at hp
    · cases hp
    · next z hz =>
      have hz' := (h.tick hempty (by omega)).process (by omega) hreact hz
      have hres := ih hz' (processCurrentTimerSlot_empties hz) (by omega) hp
      rwa [show W + (k + 1) = W + 1 + k by omega]

lemma act_lastTimerCheckMs (now : ℕ) (x : History × Wheel) (op : Op) :
    (act now x op).2.lastTimerCheckMs = x.2.lastTimerCheckMs := by
  cases op <;> rfl

lemma fireTimerTask_lastTimerCheckMs (tk : Task) (x : History × Wheel) :
    (fireTimerTask now react tk x).2.lastTimerCheckMs = x.2.lastTimerCheckMs := by
  have hfold (ops : List Op) (x : History × Wheel) :
      (ops.foldl (act now) x).2.lastTimerCheckMs = x.2.lastTimerCheckMs := by
    induction ops generalizing x with
    | nil => rfl
    | cons op ops ih => exact (ih _).trans (act_lastTimerCheckMs now x op)
  exact hfold _ _

lemma processCurrentTimerSlot_lastTimerCheckMs
    (hp : processCurrentTimerSlot now (fireTimerTask now react) k x = some y) :
    y.2.lastTimerCheckMs = x.2.lastTimerCheckMs := by
  induction k generalizing x with
  | zero => cases hp
  | succ k ih =>
    rw [processCurrentTimerSlot] at hp
    split at hp
    · obtain rfl := Option.some.inj hp
      rfl
    · dsimp only at hp
      split at hp
      · exact (ih hp).trans rfl
      · exact (ih hp).trans (fireTimerTask_lastTimerCheckMs _ _)

lemma wheelAdvance_lastTimerCheckMs (w : Wheel) (now : ℕ) :
    (wheelAdvance w now).lastTimerCheckMs = w.lastTimerCheckMs := by
  have hfold (ts : List Task) (w : Wheel) :
      (ts.foldl (fun w tk => wheelAddTimerAt w tk now) w).lastTimerCheckMs = w.lastTimerCheckMs := by
    induction ts generalizing w with
    | nil => rfl
    | cons a ts ih => exact ih _
  rw [wheelAdvance]
  dsimp only
  split
  · exact hfold _ _
  · rfl

lemma tickLoop_lastTimerCheckMs (hp : tickLoop now (fireTimerTask now react) rounds k x = some y) :
    y.2.lastTimerCheckMs = x.2.lastTimerCheckMs := by
  induction k generalizing x with
  | zero =>
    obtain rfl := Option.some.inj hp
    rfl
  | succ k ih =>
    rw [tickLoop] at hp
    split at hp
    · cases hp
    · next hz =>
      exact (ih hp).trans ((processCurrentTimerSlot_lastTimerCheckMs hz).trans (wheelAdvance_lastTimerCheckMs _ _))

lemma Faithful.serve {ticks : ℕ} (h : Faithful x.2.lastTimerCheckMs now x) (hnow : now < 2 ^ 64)
    (hticks : x.2.lastTimerCheckMs + ticks = now) (hreact : ∀ log, ∀ op ∈ react log, op.Near now)
    (hp : serveTicks now (fireTimerTask now react) rounds ticks x = some y) :
    Faithful now now y ∧ y.2.lastTimerCheckMs = now ∧ y.2.slots y.2.current = [] := by
  rw [serveTicks] at hp
  split at hp
  · cases hp
  next y₁ hy₁ =>
  split at hp
  · cases hp
  next z hz =>
  obtain rfl := Option.some.inj hp
  have h₁ := h.process (by omega) hreact hy₁
  obtain ⟨h₂, hempty⟩ := h₁.ticks (processCurrentTimerSlot_empties hy₁) (by omega) hreact hz
  rw [hticks] at h₂
  have hlast : (z.2.lastTimerCheckMs + ticks * wheel0TickMs) % 2 ^ 64 = now := by
    rw [tickLoop_lastTimerCheckMs hz, processCurrentTimerSlot_lastTimerCheckMs hy₁, wheel0TickMs, Nat.mul_one, hticks]
    exact Nat.mod_eq_of_lt hnow
  refine ⟨⟨h₂.placed.of_mem rfl rfl (fun sl t ht => .inl ht) (Nat.le_refl now), h₂.queue⟩, hlast, hempty⟩

lemma elapsedTicks_eq (hnow : now < 2 ^ 64) (h : w.lastTimerCheckMs ≤ now) :
    w.lastTimerCheckMs + elapsedTicks now w = now := by
  rw [elapsedTicks, wheel0TickMs, Nat.div_one]
  omega

/-- From the `n`-th entry of the history on, callbacks register timers of the future only. -/
def Settles (now n : ℕ) (react : History → List Op) : Prop :=
  ∀ log, n ≤ log.length → ∀ tk, Op.register tk ∈ react log → now < tk.timeout

lemma not_far_of_near (h : t.timeout < now + 2 ^ 32) : ¬Far now t := by
  rintro ⟨hlt, hmod⟩
  omega

lemma act_current {op : Op} (hnear : op.Near now) (hlate : ∀ tk, op = .register tk → now < tk.timeout) :
    ((act now x op).2.slots x.2.current).length ≤ (x.2.slots x.2.current).length := by
  cases op with
  | register tk =>
    have hne : wheelTimerSlot (wheelRemoveTimer x.2 tk.id) tk now ≠ x.2.current :=
      wheelTimerSlot_ne (hlate tk rfl) (not_far_of_near hnear)
    change ((wheelAddTimerAt (wheelRemoveTimer x.2 tk.id) tk now).slots x.2.current).length ≤ _
    rw [wheelAddTimerAt, setSlot_slots_ne _ (Ne.symm hne)]
    exact List.length_filter_le _ _
  | unregister id => exact List.length_filter_le _ _

lemma act_cursor (now : ℕ) (x : History × Wheel) (op : Op) : (act now x op).2.current = x.2.current := by
  cases op <;> rfl

lemma acts_current {ops : List Op} (hnear : ∀ op ∈ ops, op.Near now) (hlate : ∀ tk, .register tk ∈ ops → now < tk.timeout) :
    ((ops.foldl (act now) x).2.slots x.2.current).length ≤ (x.2.slots x.2.current).length := by
  induction ops generalizing x with
  | nil => exact Nat.le_refl _
  | cons op ops ih =>
    have hfirst := act_current (x := x) (hnear op List.mem_cons_self) (by
      rintro tk rfl
      exact hlate tk List.mem_cons_self)
    have hrest := ih (x := act now x op) (fun op' hop' => hnear op' (List.mem_cons_of_mem op hop'))
      fun tk htk => hlate tk (List.mem_cons_of_mem op htk)
    rw [act_cursor] at hrest
    exact Nat.le_trans hrest hfirst

lemma acts_cursor (ops : List Op) : (ops.foldl (act now) x).2.current = x.2.current := by
  induction ops generalizing x with
  | nil => rfl
  | cons op ops ih => exact ih.trans (act_cursor now x op)

lemma acts_length (ops : List Op) : x.1.length ≤ (ops.foldl (act now) x).1.length := by
  induction ops generalizing x with
  | nil => exact Nat.le_refl _
  | cons op ops ih =>
    have hfirst : x.1.length ≤ (act now x op).1.length := by
      cases op <;> exact Nat.le_succ _
    exact Nat.le_trans hfirst ih

def untilSettled (n : ℕ) (x : History × Wheel) : ℕ × ℕ := (n - x.1.length, (x.2.slots x.2.current).length)

lemma Faithful.process_ends (h : Faithful W now x) (hW : W ≤ now)
    (hreact : ∀ log, ∀ op ∈ react log, op.Near now) (hlate : Settles now n react) :
    ∃ rounds y, processCurrentTimerSlot now (fireTimerTask now react) rounds x = some y := by
  refine processCurrentTimerSlot_returns (I := Faithful W now)
    (invImage (untilSettled n) (Prod.lex Nat.lt_wfRel Nat.lt_wfRel)).wf ?_ ?_ h
  · intro x tk rest h hs hlt
    have hne := not_far_of_near (h.placed.near _ tk (by rw [hs]; exact List.mem_cons_self))
    obtain ⟨hl, hrest⟩ := requeue_lighter hlt hne hs
    refine ⟨h.requeue hW hs, Prod.Lex.right _ ?_⟩
    rw [hl.current, hrest, hs]
    exact Nat.lt_succ_self _
  · intro x tk rest h hs hdue
    have hgrow : x.1.length + 1 ≤ (fireTimerTask now react tk (x.1, x.2.setSlot x.2.current rest)).1.length :=
      acts_length (x := (.fire tk.id tk.timeout now :: x.1, x.2.setSlot x.2.current rest)) _
    refine ⟨h.fire hW hs hdue hreact, Prod.lex_def.mpr ?_⟩
    by_cases hsettled : n ≤ x.1.length
    · have hslot := acts_current (x := (.fire tk.id tk.timeout now :: x.1, x.2.setSlot x.2.current rest))
        (hreact (.fire tk.id tk.timeout now :: x.1))
        (hlate (.fire tk.id tk.timeout now :: x.1) (Nat.le_trans hsettled (Nat.le_succ _)))
      change _ ≤ ((x.2.setSlot x.2.current rest).slots x.2.current).length at hslot
      rw [setSlot_slots] at hslot
      refine .inr ⟨?_, ?_⟩
      · change n - _ = n - _
        omega
      · change ((fireTimerTask now react tk (x.1, x.2.setSlot x.2.current rest)).2.slots
          (fireTimerTask now react tk (x.1, x.2.setSlot x.2.current rest)).2.current).length <
            (x.2.slots x.2.current).length
        rw [fireTimerTask, acts_cursor, hs]
        exact Nat.lt_succ_of_le hslot
    · refine .inl ?_
      change n - _ < n - _
      omega

lemma Faithful.ticks_end (h : Faithful W now x) (hempty : x.2.slots x.2.current = []) (hW : W + k ≤ now)
    (hreact : ∀ log, ∀ op ∈ react log, op.Near now) (hlate : Settles now n react) :
    ∃ rounds y, tickLoop now (fireTimerTask now react) rounds k x = some y := by
  induction k generalizing W x with
  | zero => exact ⟨0, x, rfl⟩
  | succ k ih =>
    have hnext := h.tick hempty (by omega)
    obtain ⟨n₁, y, hy⟩ := hnext.process_ends (by omega) hreact hlate
    obtain ⟨n₂, z, hz⟩ := ih (hnext.process (by omega) hreact hy) (processCurrentTimerSlot_empties hy) (by omega)
    refine ⟨max n₁ n₂, z, ?_⟩
    rw [tickLoop, processCurrentTimerSlot_mono hy (Nat.le_max_left n₁ n₂)]
    exact tickLoop_mono hz (Nat.le_max_right n₁ n₂)

lemma Faithful.serve_ends {ticks : ℕ} (h : Faithful x.2.lastTimerCheckMs now x)
    (hticks : x.2.lastTimerCheckMs + ticks = now) (hreact : ∀ log, ∀ op ∈ react log, op.Near now)
    (hlate : Settles now n react) : ∃ rounds y, serveTicks now (fireTimerTask now react) rounds ticks x = some y := by
  obtain ⟨n₁, y, hy⟩ := h.process_ends (by omega) hreact hlate
  obtain ⟨n₂, z, hz⟩ := (h.process (by omega) hreact hy).ticks_end (k := ticks) (processCurrentTimerSlot_empties hy)
    (by omega) hreact hlate
  refine ⟨max n₁ n₂, ?_⟩
  rw [serveTicks, processCurrentTimerSlot_mono hy (Nat.le_max_left n₁ n₂)]
  dsimp only
  rw [tickLoop_mono hz (Nat.le_max_right n₁ n₂)]
  exact ⟨_, rfl⟩

structure Timers where
  wheel : Wheel
  now : ℕ
  log : History

/-- What a thread's timers come to, from its creation on. -/
inductive Reached : Timers → Prop
  | create (now : ℕ) (h : now < 2 ^ 64) : Reached ⟨emptyWheel now, now, []⟩
  | op {s : Timers} (hs : Reached s) (op : Op) (h : op.Near s.now) :
      Reached ⟨(act s.now (s.log, s.wheel) op).2, s.now, (act s.now (s.log, s.wheel) op).1⟩
  | clock {s : Timers} (hs : Reached s) (now : ℕ) (h : s.now ≤ now) (hnow : now < 2 ^ 64) :
      Reached { s with now := now }
  | timers {s : Timers} (hs : Reached s) (react : History → List Op) (hreact : ∀ log, ∀ op ∈ react log, op.Near s.now)
      {rounds : ℕ} {y : History × Wheel}
      (h : doTimerTasks s.now (fireTimerTask s.now react) rounds (s.log, s.wheel) = some y) : Reached ⟨y.2, s.now, y.1⟩

structure Timers.Ok (s : Timers) : Prop where
  now_lt : s.now < 2 ^ 64
  check_le : s.wheel.lastTimerCheckMs ≤ s.now
  faithful : Faithful s.wheel.lastTimerCheckMs s.now (s.log, s.wheel)

lemma Timers.Ok.pass {s : Timers} (h : s.Ok) (hreact : ∀ log, ∀ op ∈ react log, op.Near s.now)
    (hp : doTimerTasks s.now (fireTimerTask s.now react) rounds (s.log, s.wheel) = some y) :
    Faithful s.now s.now y ∧ y.2.lastTimerCheckMs = s.now ∧ y.2.slots y.2.current = [] :=
  h.faithful.serve h.now_lt (elapsedTicks_eq h.now_lt h.check_le) hreact hp

lemma timers_empty (now : ℕ) : (emptyWheel now).timers = 0 := by
  apply Multiset.eq_zero_of_forall_notMem
  intro t
  rw [mem_timers]
  rintro ⟨sl, ht⟩
  exact List.not_mem_nil ht

lemma faithful_empty (now : ℕ) : Faithful now now ([], emptyWheel now) := by
  have hnone (sl : Slot) (t : Task) : t ∉ (emptyWheel now).slots sl := List.not_mem_nil
  have hrep : Represents 0 fun _ => none :=
    ⟨Multiset.nodup_zero, fun t => iff_of_false (Multiset.notMem_zero t) (Option.some_ne_none _).symm⟩
  rw [← timers_empty now] at hrep
  exact ⟨⟨fun sl t ht => absurd ht (hnone sl t), fun sl t ht => absurd ht (hnone sl t)⟩, fun _ => none, rfl, hrep⟩

lemma Reached.ok {s : Timers} (h : Reached s) : s.Ok := by
  induction h with
  | create now hnow =>
    exact ⟨hnow, Nat.le_refl now, faithful_empty now⟩
  | @op s _ op hop ih =>
    have hlast := act_lastTimerCheckMs s.now (s.log, s.wheel) op
    refine ⟨ih.now_lt, Nat.le_trans (Nat.le_of_eq hlast) ih.check_le, ?_⟩
    rw [hlast]
    exact ih.faithful.act ih.check_le hop
  | @clock s _ now hle hnow ih =>
    refine ⟨hnow, Nat.le_trans ih.check_le hle, ⟨fun sl t ht => ?_, ih.faithful.placed.stands⟩, ih.faithful.queue⟩
    exact Nat.lt_of_lt_of_le (ih.faithful.placed.near sl t ht) (Nat.add_le_add_right hle _)
  | timers _ react hreact hp ih =>
    obtain ⟨hf, hlast, -⟩ := ih.pass hreact hp
    refine ⟨ih.now_lt, Nat.le_of_eq hlast, ?_⟩
    rw [hlast]
    exact hf

/-- In every run the wheel is the queue of deadlines that has the same history: nothing fires before it is due, each
registration fires once at most, and a pass leaves nothing that is due; the pass ends when its callbacks stop registering
timers that are due. -/
theorem wheel_refines_deadlines {s : Timers} (h : Reached s) :
    (∃ q, DeadlineQueue.queueOf s.log = some q ∧
      ∀ id d, q id = some d ↔ ∃ sl, (⟨id, d⟩ : Task) ∈ s.wheel.slots sl) ∧
    (∀ id d t after before, s.log = after ++ .fire id d t :: before →
      d ≤ t ∧ ∃ mid older, before = mid ++ .insert id d :: older ∧ ∀ l ∈ mid, l.id ≠ id) ∧
    ∀ react, (∀ log, ∀ op ∈ react log, Op.Near s.now op) →
      (∀ rounds y, doTimerTasks s.now (fireTimerTask s.now react) rounds (s.log, s.wheel) = some y →
        ∀ sl, ∀ tk ∈ y.2.slots sl, s.now < tk.timeout) ∧
      ∀ n, Settles s.now n react →
        ∃ rounds y, doTimerTasks s.now (fireTimerTask s.now react) rounds (s.log, s.wheel) = some y := by
  have hok := h.ok
  obtain ⟨q, hq, hrep⟩ := hok.faithful.queue
  refine ⟨⟨q, hq, fun id d => ?_⟩, fun id d t after before hlog => ?_, fun react hreact => ⟨?_, ?_⟩⟩
  · rw [← mem_timers]
    exact (hrep.mem_iff ⟨id, d⟩).symm
  · have hhist : DeadlineQueue.queueOf s.log = some q := hq
    rw [hlog] at hhist
    exact DeadlineQueue.queueOf_fire hhist
  · intro rounds y hp sl tk htk
    obtain ⟨hf, -, hempty⟩ := hok.pass hreact hp
    exact hf.placed.not_due hempty htk
  · intro n hlate
    exact hok.faithful.serve_ends (elapsedTicks_eq hok.now_lt hok.check_le) hreact hlate

/-- Registered at 5 for 7, served at 9. -/
theorem wheel_refines_deadlines_overdue :
    ∃ rounds y, doTimerTasks 9 (fireTimerTask 9 fun _ => []) rounds
      ([.insert 1 7], registerTask (emptyWheel 5) ⟨1, 7⟩ 5) = some y ∧ ¬∃ sl, ∃ tk ∈ y.2.slots sl, tk.timeout ≤ 9 := by
  have hreached : Reached ⟨registerTask (emptyWheel 5) ⟨1, 7⟩ 5, 9, [.insert 1 7]⟩ :=
    .clock (.op (.create 5 (by decide)) (.register ⟨1, 7⟩) (show 7 < 5 + 2 ^ 32 by decide)) 9 (by decide) (by decide)
  obtain ⟨-, -, hpass⟩ := wheel_refines_deadlines hreached
  obtain ⟨hleft, hends⟩ := hpass (fun _ => []) fun _ _ hop => absurd hop List.not_mem_nil
  obtain ⟨rounds, y, hy⟩ := hends 0 fun _ _ _ hop => absurd hop List.not_mem_nil
  refine ⟨rounds, y, hy, ?_⟩
  rintro ⟨sl, tk, htk, hle⟩
  exact absurd (hleft rounds y hy sl tk htk) (Nat.not_lt.mpr hle)

end Netfast.Thread
