import Mathlib.Data.List.Basic

/-! The answer at the longest prefix of a list that has one. -/

namespace Netfast.Prefix

variable {α β : Type*}

def longest (g : List α → Option β) : List α → Option β
  | [] => g []
  | a :: as => (longest (fun p => g (a :: p)) as).or (g [])

lemma longest_eq_none {g : List α → Option β} {as : List α} : longest g as = none ↔ ∀ p, p <+: as → g p = none := by
  induction as generalizing g with
  | nil => simp [longest, List.prefix_nil]
  | cons a as ih =>
    rw [longest, Option.or_eq_none_iff, ih]
    constructor
    · rintro ⟨hrest, hnil⟩ p hp
      rcases List.prefix_cons_iff.mp hp with rfl | ⟨q, rfl, hq⟩
      · exact hnil
      · exact hrest q hq
    · intro h
      exact ⟨fun p hp => h (a :: p) (List.prefix_cons_inj a |>.mpr hp), h [] List.nil_prefix⟩

lemma longest_eq_some {g : List α → Option β} {as : List α} {b : β} (h : longest g as = some b) :
    ∃ p, p <+: as ∧ g p = some b ∧ ∀ q, q <+: as → p.length < q.length → g q = none := by
  induction as generalizing g with
  | nil => exact ⟨[], List.nil_prefix, h, fun q hq hlt => by simp [List.prefix_nil.mp hq] at hlt⟩
  | cons a as ih =>
    rw [longest] at h
    cases hrest : longest (fun p => g (a :: p)) as with
    | some b' =>
      rw [hrest, Option.some_or] at h
      obtain ⟨p, hp, hg, hmax⟩ := ih (hrest.trans h)
      refine ⟨a :: p, List.prefix_cons_inj a |>.mpr hp, hg, fun q hq hlt => ?_⟩
      rcases List.prefix_cons_iff.mp hq with rfl | ⟨q', rfl, hq'⟩
      · simp at hlt
      · exact hmax q' hq' (by simpa using hlt)
    | none =>
      rw [hrest, Option.none_or] at h
      refine ⟨[], List.nil_prefix, h, fun q hq hlt => ?_⟩
      rcases List.prefix_cons_iff.mp hq with rfl | ⟨q', rfl, hq'⟩
      · simp at hlt
      · exact longest_eq_none.mp hrest q' hq'

end Netfast.Prefix
