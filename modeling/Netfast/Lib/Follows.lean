import Mathlib.Data.List.Nodup

/-! Neighbours in a list. -/

namespace Netfast.Lists

variable {α : Type*} {l : List α} {a b c x : α}

def Follows : List α → α → α → Prop
  | [], _, _ => False
  | x :: l, a, b => (x = a ∧ l.head? = some b) ∨ Follows l a b

lemma Follows.left_mem (h : Follows l a b) : a ∈ l := by
  induction l with
  | nil => exact h.elim
  | cons x l ih =>
    rcases h with ⟨rfl, -⟩ | h
    · exact List.mem_cons_self
    · exact List.mem_cons_of_mem x (ih h)

lemma Follows.right_mem (h : Follows l a b) : b ∈ l.tail := by
  induction l with
  | nil => exact h.elim
  | cons x l ih =>
    rcases h with ⟨-, h⟩ | h
    · exact List.mem_of_head? h
    · exact List.mem_of_mem_tail (ih h)

lemma follows_concat : Follows (l ++ [x]) a b ↔ Follows l a b ∨ (l.getLast? = some a ∧ x = b) := by
  induction l with
  | nil => simp [Follows]
  | cons y l ih =>
    rw [List.cons_append, Follows, Follows, ih]
    cases l with
    | nil => simp [Follows]
    | cons z l =>
      rw [List.getLast?_cons_cons]
      simp [or_assoc]

lemma Follows.right_unique (hn : l.Nodup) (h : Follows l a b) (h' : Follows l a c) : b = c := by
  induction l with
  | nil => exact h.elim
  | cons x l ih =>
    have hx := (List.nodup_cons.1 hn).1
    rcases h with ⟨hxa, h⟩ | h <;> rcases h' with ⟨hxa', h'⟩ | h'
    · exact Option.some.inj (h.symm.trans h')
    · exact absurd (hxa ▸ h'.left_mem) hx
    · exact absurd (hxa' ▸ h.left_mem) hx
    · exact ih (List.nodup_cons.1 hn).2 h h'

lemma exists_follows (ha : a ∈ l) (hl : l.getLast? ≠ some a) : ∃ b, Follows l a b := by
  induction l with
  | nil => cases ha
  | cons x l ih =>
    cases l with
    | nil =>
      obtain rfl := List.mem_singleton.1 ha
      exact absurd rfl hl
    | cons y l =>
      rcases List.mem_cons.1 ha with rfl | ha
      · exact ⟨y, .inl ⟨rfl, rfl⟩⟩
      · obtain ⟨b, hb⟩ := ih ha hl
        exact ⟨b, .inr hb⟩

lemma not_follows_last (hn : l.Nodup) (hl : l.getLast? = some a) : ¬Follows l a b := by
  induction l with
  | nil => exact id
  | cons x l ih =>
    cases l with
    | nil => simp [Follows]
    | cons y l =>
      rw [List.getLast?_cons_cons] at hl
      rintro (⟨rfl, -⟩ | h)
      · exact (List.nodup_cons.1 hn).1 (List.mem_of_getLast? hl)
      · exact ih (List.nodup_cons.1 hn).2 hl h

lemma forall_of_follows {P : α → Prop} (hfirst : ∀ a, l.head? = some a → P a)
    (hnext : ∀ a b, Follows l a b → P a → P b) : ∀ a ∈ l, P a := by
  induction l with
  | nil => nofun
  | cons x l ih =>
    have hx := hfirst x rfl
    have hl := ih (fun a ha => hnext x a (.inl ⟨rfl, ha⟩) hx) fun a b h => hnext a b (.inr h)
    intro a ha
    rcases List.mem_cons.1 ha with rfl | ha
    · exact hx
    · exact hl a ha

end Netfast.Lists
