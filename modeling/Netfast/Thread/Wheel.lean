import Mathlib.Algebra.Ring.Nat
import Mathlib.Data.List.Basic

/-! The timer wheel of `thread.c`: two levels of a hundred slots, the first of a millisecond each, and the loop that
serves it. -/

namespace Netfast.Thread

def wheel0Size : ℕ := 100

def wheel0TickMs : ℕ := 1

def wheel1Size : ℕ := 100

def wheel1TickMs : ℕ := wheel0TickMs * wheel0Size

structure Task where
  id : ℕ
  timeout : ℕ
deriving DecidableEq

inductive Slot
  | level0 (i : Fin 100)
  | level1 (i : Fin 100)
deriving DecidableEq

structure Wheel where
  slots : Slot → List Task
  wheel0Cursor : Fin 100
  wheel1Cursor : Fin 100
  lastTimerCheckMs : ℕ

def slotAt (n : ℕ) : Fin 100 := Fin.ofNat 100 n

def emptyWheel (now : ℕ) : Wheel := ⟨fun _ => [], 0, 0, now⟩

def Wheel.current (w : Wheel) : Slot := .level0 w.wheel0Cursor

def Wheel.setSlot (w : Wheel) (sl : Slot) (ts : List Task) : Wheel := { w with slots := Function.update w.slots sl ts }

-- the distance is counted in 64 bits, the ticks in 32
def wheelTimerSlot (w : Wheel) (tk : Task) (now : ℕ) : Slot :=
  if tk.timeout ≤ now then w.current
  else
    let deltaMs := tk.timeout - now
    let l0Ticks := (deltaMs + wheel0TickMs - 1) / wheel0TickMs % 2 ^ 32
    if l0Ticks < wheel0Size then .level0 (slotAt (w.wheel0Cursor + l0Ticks))
    else
      let l1Ticks := deltaMs / wheel1TickMs % 2 ^ 32
      let l1Ticks := if wheel1Size ≤ l1Ticks then wheel1Size - 1 else l1Ticks
      .level1 (slotAt (w.wheel1Cursor + l1Ticks))

def wheelAddTimerAt (w : Wheel) (tk : Task) (now : ℕ) : Wheel :=
  let sl := wheelTimerSlot w tk now
  w.setSlot sl (tk :: w.slots sl)

def wheelRequeueTimer (w : Wheel) (tk : Task) (now : ℕ) : Wheel :=
  let sl := wheelTimerSlot w tk now
  w.setSlot sl (w.slots sl ++ [tk])

def wheelCascadeL1 (w : Wheel) (now : ℕ) : Wheel :=
  let l1Slot := Slot.level1 w.wheel1Cursor
  (w.slots l1Slot).foldl (fun w tk => wheelAddTimerAt w tk now) (w.setSlot l1Slot [])

def wheelAdvance (w : Wheel) (now : ℕ) : Wheel :=
  let w : Wheel := { w with wheel0Cursor := slotAt (w.wheel0Cursor + 1) }
  if w.wheel0Cursor = 0 then
    wheelCascadeL1 { w with wheel1Cursor := slotAt (w.wheel1Cursor + 1) } now
  else w

def wheelRemoveTimer (w : Wheel) (id : ℕ) : Wheel :=
  { w with slots := fun sl => (w.slots sl).filter fun tk => tk.id != id }

def registerTask (w : Wheel) (tk : Task) (now : ℕ) : Wheel := wheelAddTimerAt (wheelRemoveTimer w tk.id) tk now

def unregisterTask (w : Wheel) (id : ℕ) : Wheel := wheelRemoveTimer w id

section Loop

variable {σ : Type} (now : ℕ) (cb : Task → σ × Wheel → σ × Wheel)

def processCurrentTimerSlot : ℕ → σ × Wheel → Option (σ × Wheel)
  | 0, _ => none
  | k + 1, x =>
    match x.2.slots x.2.current with
    | [] => some x
    | tk :: rest =>
      let w := x.2.setSlot x.2.current rest
      if now < tk.timeout then processCurrentTimerSlot k (x.1, wheelRequeueTimer w tk now)
      else processCurrentTimerSlot k (cb tk (x.1, w))

def tickLoop (rounds : ℕ) : ℕ → σ × Wheel → Option (σ × Wheel)
  | 0, x => some x
  | k + 1, x =>
    match processCurrentTimerSlot now cb rounds (x.1, wheelAdvance x.2 now) with
    | none => none
    | some x => tickLoop rounds k x

def elapsedTicks (w : Wheel) : ℕ := (now + 2 ^ 64 - w.lastTimerCheckMs) % 2 ^ 64 / wheel0TickMs

def serveTicks (rounds ticks : ℕ) (x : σ × Wheel) : Option (σ × Wheel) :=
  match processCurrentTimerSlot now cb rounds x with
  | none => none
  | some y =>
    match tickLoop now cb rounds ticks y with
    | none => none
    | some z => some (z.1, { z.2 with lastTimerCheckMs := (z.2.lastTimerCheckMs + ticks * wheel0TickMs) % 2 ^ 64 })

def doTimerTasks (rounds : ℕ) (x : σ × Wheel) : Option (σ × Wheel) :=
  serveTicks now cb rounds (elapsedTicks now x.2) x

end Loop

variable {w : Wheel} {tk : Task} {now : ℕ}

@[simp] lemma slotAt_val (n : ℕ) : (slotAt n : ℕ) = n % 100 := rfl

lemma slotAt_eq_iff {a b : ℕ} : slotAt a = slotAt b ↔ a % 100 = b % 100 := by
  rw [Fin.ext_iff, slotAt_val, slotAt_val]

lemma slotAt_self (i : Fin 100) : slotAt i = i := by
  apply Fin.ext
  rw [slotAt_val]
  exact Nat.mod_eq_of_lt i.isLt

@[simp] lemma setSlot_slots (w : Wheel) (sl : Slot) (ts : List Task) : (w.setSlot sl ts).slots sl = ts := by
  rw [Wheel.setSlot]
  exact Function.update_self sl ts w.slots

lemma setSlot_slots_ne (w : Wheel) {sl sl' : Slot} (h : sl' ≠ sl) (ts : List Task) :
    (w.setSlot sl ts).slots sl' = w.slots sl' := by
  rw [Wheel.setSlot]
  exact Function.update_of_ne h ts w.slots

variable {t : Task} {sl : Slot}

lemma mem_of_mem_setSlot {rest : List Task} (h : w.slots w.current = tk :: rest)
    (ht : t ∈ (w.setSlot w.current rest).slots sl) : t ∈ w.slots sl := by
  by_cases hsl : sl = w.current
  · subst hsl
    rw [setSlot_slots] at ht
    rw [h]
    exact List.mem_cons_of_mem tk ht
  · rwa [setSlot_slots_ne w hsl] at ht

lemma wheelTimerSlot_cases (w : Wheel) (tk : Task) (now : ℕ) :
    tk.timeout ≤ now ∧ wheelTimerSlot w tk now = w.current ∨
      now < tk.timeout ∧ (tk.timeout - now) % 2 ^ 32 < 100 ∧
        wheelTimerSlot w tk now = .level0 (slotAt (w.wheel0Cursor + (tk.timeout - now) % 2 ^ 32)) ∨
      now < tk.timeout ∧ 100 ≤ (tk.timeout - now) % 2 ^ 32 ∧
        wheelTimerSlot w tk now = .level1 (slotAt (w.wheel1Cursor + min ((tk.timeout - now) / 100 % 2 ^ 32) 99)) := by
  have hticks : (tk.timeout - now + wheel0TickMs - 1) / wheel0TickMs = tk.timeout - now := Nat.div_one _
  rw [wheelTimerSlot]
  split
  · next h => exact .inl ⟨h, rfl⟩
  next h =>
  right
  dsimp only
  rw [hticks]
  split
  · next hl => exact .inl ⟨by omega, hl, rfl⟩
  · next hl =>
    refine .inr ⟨by omega, Nat.not_lt.mp hl, ?_⟩
    have hclamp : (if wheel1Size ≤ (tk.timeout - now) / wheel1TickMs % 2 ^ 32 then wheel1Size - 1
        else (tk.timeout - now) / wheel1TickMs % 2 ^ 32) = min ((tk.timeout - now) / 100 % 2 ^ 32) 99 := by
      change (if 100 ≤ (tk.timeout - now) / 100 % 2 ^ 32 then 99 else (tk.timeout - now) / 100 % 2 ^ 32) = _
      split <;> omega
    rw [hclamp]

lemma mem_wheelAddTimerAt : t ∈ (wheelAddTimerAt w tk now).slots sl ↔
    t ∈ w.slots sl ∨ t = tk ∧ sl = wheelTimerSlot w tk now := by
  rw [wheelAddTimerAt]
  by_cases h : sl = wheelTimerSlot w tk now
  · subst h
    rw [setSlot_slots, List.mem_cons, or_comm]
    simp
  · rw [setSlot_slots_ne w h]
    simp [h]

lemma mem_wheelRequeueTimer : t ∈ (wheelRequeueTimer w tk now).slots sl ↔
    t ∈ w.slots sl ∨ t = tk ∧ sl = wheelTimerSlot w tk now := by
  rw [wheelRequeueTimer]
  by_cases h : sl = wheelTimerSlot w tk now
  · subst h
    rw [setSlot_slots, List.mem_append, List.mem_singleton]
    simp
  · rw [setSlot_slots_ne w h]
    simp [h]

section Rounds

variable {σ : Type} {cb : Task → σ × Wheel → σ × Wheel} {x y : σ × Wheel}

lemma processCurrentTimerSlot_mono {k m : ℕ} (h : processCurrentTimerSlot now cb k x = some y) (hkm : k ≤ m) :
    processCurrentTimerSlot now cb m x = some y := by
  induction k generalizing m x with
  | zero => cases h
  | succ k ih =>
    obtain ⟨m, rfl⟩ := Nat.exists_eq_succ_of_ne_zero (show m ≠ 0 by omega)
    rw [processCurrentTimerSlot] at h ⊢
    split at h
    · exact h
    · dsimp only at h ⊢
      split at h
      · next ht =>
        rw [if_pos ht]
        exact ih h (by omega)
      · next ht =>
        rw [if_neg ht]
        exact ih h (by omega)

lemma processCurrentTimerSlot_returns {I : σ × Wheel → Prop} {r : σ × Wheel → σ × Wheel → Prop} (hr : WellFounded r)
    (hrequeue : ∀ x tk rest, I x → x.2.slots x.2.current = tk :: rest → now < tk.timeout →
      I (x.1, wheelRequeueTimer (x.2.setSlot x.2.current rest) tk now) ∧
        r (x.1, wheelRequeueTimer (x.2.setSlot x.2.current rest) tk now) x)
    (hfire : ∀ x tk rest, I x → x.2.slots x.2.current = tk :: rest → tk.timeout ≤ now →
      I (cb tk (x.1, x.2.setSlot x.2.current rest)) ∧ r (cb tk (x.1, x.2.setSlot x.2.current rest)) x) (h : I x) :
    ∃ rounds y, processCurrentTimerSlot now cb rounds x = some y := by
  induction x using hr.induction with
  | _ x ih =>
    cases hs : x.2.slots x.2.current with
    | nil => exact ⟨1, x, by rw [processCurrentTimerSlot, hs]⟩
    | cons tk rest =>
      by_cases hlt : now < tk.timeout
      · obtain ⟨hI, hless⟩ := hrequeue x tk rest h hs hlt
        obtain ⟨rounds, y, hy⟩ := ih _ hless hI
        refine ⟨rounds + 1, y, ?_⟩
        rw [processCurrentTimerSlot, hs]
        dsimp only
        rwa [if_pos hlt]
      · obtain ⟨hI, hless⟩ := hfire x tk rest h hs (Nat.not_lt.mp hlt)
        obtain ⟨rounds, y, hy⟩ := ih _ hless hI
        refine ⟨rounds + 1, y, ?_⟩
        rw [processCurrentTimerSlot, hs]
        dsimp only
        rwa [if_neg hlt]

lemma tickLoop_mono {k m ticks : ℕ} (h : tickLoop now cb k ticks x = some y) (hkm : k ≤ m) :
    tickLoop now cb m ticks x = some y := by
  induction ticks generalizing x with
  | zero => exact h
  | succ ticks ih =>
    rw [tickLoop] at h ⊢
    split at h
    · cases h
    · next z hz =>
      rw [processCurrentTimerSlot_mono hz hkm]
      exact ih h

end Rounds

end Netfast.Thread
