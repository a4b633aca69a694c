import Mathlib.Data.List.Basic

/-! A queue of deadlines as a machine over histories: an entry is inserted with its deadline, cancelled, or fired once when
its deadline has come. -/

namespace Netfast.DeadlineQueue

variable {ι : Type*}

inductive Label (ι : Type*)
  | insert (id : ι) (deadline : ℕ)
  | cancel (id : ι)
  | fire (id : ι) (deadline now : ℕ)

def Label.id : Label ι → ι
  | .insert id _ => id
  | .cancel id => id
  | .fire id _ _ => id

variable [DecidableEq ι]

def step (q : ι → Option ℕ) : Label ι → Option (ι → Option ℕ)
  | .insert id d => some (Function.update q id (some d))
  | .cancel id => some (Function.update q id none)
  | .fire id d now => if q id = some d ∧ d ≤ now then some (Function.update q id none) else none

def queueOf : List (Label ι) → Option (ι → Option ℕ)
  | [] => some fun _ => none
  | l :: ls => (queueOf ls).bind fun q => step q l

variable {q : ι → Option ℕ} {l : Label ι} {ls : List (Label ι)} {id : ι} {d : ℕ}

theorem queueOf_cons (h : queueOf (l :: ls) = some q) : ∃ q', queueOf ls = some q' ∧ step q' l = some q :=
  Option.bind_eq_some_iff.mp h

theorem queueOf_older {after : List (Label ι)} (h : queueOf (after ++ ls) = some q) : ∃ q', queueOf ls = some q' := by
  induction after generalizing q with
  | nil => exact ⟨q, h⟩
  | cons l after ih =>
    obtain ⟨q', hq', -⟩ := queueOf_cons h
    exact ih hq'

theorem step_other {q' : ι → Option ℕ} (h : step q l = some q') (hid : l.id ≠ id) : q' id = q id := by
  cases l with
  | insert i d =>
    obtain rfl := Option.some.inj h
    exact Function.update_of_ne (Ne.symm hid) _ _
  | cancel i =>
    obtain rfl := Option.some.inj h
    exact Function.update_of_ne (Ne.symm hid) _ _
  | fire i d now =>
    rw [step] at h
    split at h
    · obtain rfl := Option.some.inj h
      exact Function.update_of_ne (Ne.symm hid) _ _
    · cases h

theorem queueOf_pending (h : queueOf ls = some q) (hq : q id = some d) :
    ∃ mid older, ls = mid ++ .insert id d :: older ∧ ∀ l ∈ mid, l.id ≠ id := by
  induction ls generalizing q with
  | nil =>
    obtain rfl := Option.some.inj h
    cases hq
  | cons l ls ih =>
    obtain ⟨q', hq', hstep⟩ := queueOf_cons h
    by_cases hid : l.id = id
    · cases l with
      | insert i d' =>
        obtain rfl := Option.some.inj hstep
        obtain rfl : i = id := hid
        rw [Function.update_self] at hq
        obtain rfl := Option.some.inj hq
        exact ⟨[], ls, rfl, fun _ hl => absurd hl List.not_mem_nil⟩
      | cancel i =>
        obtain rfl := Option.some.inj hstep
        obtain rfl : i = id := hid
        rw [Function.update_self] at hq
        cases hq
      | fire i d' now =>
        obtain rfl : i = id := hid
        rw [step] at hstep
        split at hstep
        · obtain rfl := Option.some.inj hstep
          rw [Function.update_self] at hq
          cases hq
        · cases hstep
    · rw [step_other hstep hid] at hq
      obtain ⟨mid, older, rfl, hmid⟩ := ih hq' hq
      refine ⟨l :: mid, older, rfl, fun l' hl' => ?_⟩
      rcases List.mem_cons.mp hl' with rfl | hl'
      · exact hid
      · exact hmid l' hl'

theorem queueOf_fire {after before : List (Label ι)} {now : ℕ}
    (h : queueOf (after ++ .fire id d now :: before) = some q) :
    d ≤ now ∧ ∃ mid older, before = mid ++ .insert id d :: older ∧ ∀ l ∈ mid, l.id ≠ id := by
  obtain ⟨q₁, h₁⟩ := queueOf_older h
  obtain ⟨q₂, h₂, hstep⟩ := queueOf_cons h₁
  rw [step] at hstep
  split at hstep
  · next hdue => exact ⟨hdue.2, queueOf_pending h₂ hdue.1⟩
  · cases hstep

end Netfast.DeadlineQueue
