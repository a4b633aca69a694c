import Netfast.Lib.Follows
import Mathlib.Logic.Relation

/-! The intrusive queue of `queue.c`, many producers and one consumer, one atomic step at a time. -/

namespace Netfast.Queue

open Lists

variable {α τ : Type*}

inductive Node (α : Type*)
  | stub
  | item (a : α)
deriving DecidableEq

structure Mpsc (α : Type*) where
  head : Node α := .stub
  tail : Node α := .stub
  next : Node α → Option (Node α) := fun _ => none

inductive PushPc (α : Type*)
  | idle
  | init (n : Node α)
  | swap (n : Node α)
  | link (n prev : Node α)

inductive PopPc (α : Type*)
  | load
  | skip (tail : Node α)
  | head (tail : Node α)
  | stub (tail : Node α) (p : PushPc α)
  | again (tail : Node α)

section

variable [DecidableEq α]

def Mpsc.setNext (q : Mpsc α) (n : Node α) (m : Option (Node α)) : Mpsc α :=
  { q with next := Function.update q.next n m }

def pushStep (q : Mpsc α) : PushPc α → Mpsc α × PushPc α
  | .idle => (q, .idle)
  | .init n => (q.setNext n none, .swap n)
  | .swap n => ({ q with head := n }, .link n q.head)
  | .link n prev => (q.setNext prev (some n), .idle)

def popStep (q : Mpsc α) : PopPc α → Mpsc α × (PopPc α ⊕ Option (Node α))
  | .load =>
    match q.next q.tail with
    | none => if q.tail = .stub then (q, .inr none) else (q, .inl (.head q.tail))
    | some next =>
      if q.tail = .stub then ({ q with tail := next }, .inl (.skip next))
      else ({ q with tail := next }, .inr (some q.tail))
  | .skip tail =>
    match q.next tail with
    | none => (q, .inl (.head tail))
    | some next => ({ q with tail := next }, .inr (some tail))
  | .head tail => if tail ≠ q.head then (q, .inr none) else (q, .inl (.stub tail (.init .stub)))
  | .stub tail p =>
    match pushStep q p with
    | (q, .idle) => (q, .inl (.again tail))
    | (q, p) => (q, .inl (.stub tail p))
  | .again tail =>
    match q.next tail with
    | none => (q, .inr none)
    | some next => ({ q with tail := next }, .inr (some tail))

def mpscqIsEmpty (q : Mpsc α) : Bool := q.tail = .stub && (q.next .stub).isNone

lemma Mpsc.setNext_self (q : Mpsc α) (n : Node α) (m : Option (Node α)) : (q.setNext n m).next n = m :=
  Function.update_self ..

lemma Mpsc.setNext_of_ne {a n : Node α} (q : Mpsc α) (m : Option (Node α)) (h : a ≠ n) :
    (q.setNext n m).next a = q.next a := Function.update_of_ne h ..

end

def PushPc.node : PushPc α → Option (Node α)
  | .idle => none
  | .init n | .swap n | .link n _ => some n

def PushPc.grow (l : List (Node α)) : PushPc α → List (Node α)
  | .swap n => l ++ [n]
  | _ => l

def PopPc.push : PopPc α → PushPc α
  | .stub _ p => p
  | _ => .idle

structure Shape (q : Mpsc α) (push : τ → PushPc α) (l : List (Node α)) : Prop where
  first : l.head? = some q.tail
  last : l.getLast? = some q.head
  nodup : l.Nodup
  chain : ∀ a b, Follows l a b → q.next a = some b ∨ ∃ t, push t = .link b a
  ends : q.next q.head = none
  linking : ∀ t n a, push t = .link n a → Follows l a n ∧ q.next a = none
  fresh : ∀ t n, push t = .init n ∨ push t = .swap n → n ∉ l
  clear : ∀ t n, push t = .swap n → q.next n = none
  apart : ∀ t t' n, (push t).node = some n → (push t').node = some n → t = t'

variable {q : Mpsc α} {push : τ → PushPc α} {l : List (Node α)} {n : Node α} {t : τ} {p : PushPc α}

namespace Shape

lemma tail_mem (h : Shape q push l) : q.tail ∈ l := List.mem_of_head? h.first

lemma head_mem (h : Shape q push l) : q.head ∈ l := List.mem_of_getLast? h.last

lemma eq_singleton (h : Shape q push l) (hq : q.tail = q.head) : l = [q.tail] := by
  have hlast := h.last
  have hfirst := h.first
  cases l with
  | nil => cases hfirst
  | cons a l =>
    obtain rfl : a = q.tail := Option.some.inj hfirst
    cases l with
    | nil => rfl
    | cons b l =>
      have hmem : q.tail ∈ b :: l := by
        rw [hq]
        exact List.mem_of_getLast? (by rwa [List.getLast?_cons_cons] at hlast)
      exact absurd hmem (List.nodup_cons.1 h.nodup).1

lemma gap (h : Shape q push l) (hq : q.next q.tail = none) : l = [q.tail] ∨ ∃ t n, push t = .link n q.tail := by
  by_cases he : q.tail = q.head
  · exact .inl (h.eq_singleton he)
  · obtain ⟨b, hb⟩ := exists_follows h.tail_mem (by rw [h.last]; exact fun h => he (Option.some.inj h).symm)
    rcases h.chain _ _ hb with hn | ⟨t, ht⟩
    · rw [hq] at hn
      cases hn
    · exact .inr ⟨t, b, ht⟩

lemma advance {b : Node α} (h : Shape q push l) (hb : q.next q.tail = some b) :
    ∃ l', l = q.tail :: l' ∧ Shape { q with tail := b } push l' := by
  have hfirst := h.first
  cases l with
  | nil => cases hfirst
  | cons a l =>
    obtain rfl : a = q.tail := Option.some.inj hfirst
    refine ⟨l, rfl, ?_⟩
    have hne : (q.tail :: l).getLast? ≠ some q.tail := by
      rw [h.last]
      intro he
      rw [← Option.some.inj he, h.ends] at hb
      cases hb
    obtain ⟨c, hc⟩ := exists_follows List.mem_cons_self hne
    have hbc : b = c := by
      rcases h.chain _ _ hc with hn | ⟨t, ht⟩
      · exact Option.some.inj (hb.symm.trans hn)
      · have := (h.linking t _ _ ht).2
        rw [hb] at this
        cases this
    have hnot := (List.nodup_cons.1 h.nodup).1
    have hhead : l.head? = some b := by
      rcases hc with ⟨-, hc⟩ | hc
      · rw [hc, hbc]
      · exact absurd hc.left_mem hnot
    refine ⟨hhead, ?_, (List.nodup_cons.1 h.nodup).2, fun a b hf => h.chain a b (.inr hf), h.ends, fun t n a ht => ?_,
      fun t n ht hn => h.fresh t n ht (List.mem_cons_of_mem _ hn), h.clear, h.apart⟩
    · cases l with
      | nil => cases hhead
      | cons y l =>
        have := h.last
        rwa [List.getLast?_cons_cons] at this
    · obtain ⟨hf | hf, hnone⟩ := h.linking t n a ht
      · rw [← hf.1, hb] at hnone
        cases hnone
      · exact ⟨hf, hnone⟩

variable [DecidableEq τ]

lemma start (h : Shape q push l) (ht : push t = .idle) (hl : n ∉ l) (hn : ∀ t', (push t').node ≠ some n) :
    Shape q (Function.update push t (.init n)) l := by
  have hpush (t' : τ) : Function.update push t (.init n) t' = if t' = t then .init n else push t' :=
    Function.update_apply ..
  refine ⟨h.first, h.last, h.nodup, fun a b hf => ?_, h.ends, ?_, ?_, ?_, ?_⟩
  · refine (h.chain a b hf).imp_right fun ⟨t', ht'⟩ => ⟨t', ?_⟩
    have hne : t' ≠ t := by
      rintro rfl
      rw [ht] at ht'
      cases ht'
    rw [hpush, if_neg hne, ht']
  · intro t' m a ht'
    rw [hpush] at ht'
    split at ht'
    · cases ht'
    · exact h.linking t' m a ht'
  · intro t' m ht'
    rw [hpush] at ht'
    split at ht'
    · obtain rfl : n = m := by simpa using ht'
      exact hl
    · exact h.fresh t' m ht'
  · intro t' m ht'
    rw [hpush] at ht'
    split at ht'
    · cases ht'
    · exact h.clear t' m ht'
  · intro t₁ t₂ m h₁ h₂
    rw [hpush] at h₁ h₂
    split at h₁ <;> split at h₂
    · next e₁ e₂ => rw [e₁, e₂]
    · obtain rfl : n = m := Option.some.inj h₁
      exact absurd h₂ (hn t₂)
    · obtain rfl : n = m := Option.some.inj h₂
      exact absurd h₁ (hn t₁)
    · exact h.apart t₁ t₂ m h₁ h₂

lemma swap (h : Shape q push l) (ht : push t = .swap n) :
    Shape { q with head := n } (Function.update push t (.link n q.head)) (l ++ [n]) := by
  have hpush (t' : τ) : Function.update push t (.link n q.head) t' = if t' = t then .link n q.head else push t' :=
    Function.update_apply ..
  have hl := h.fresh t n (.inr ht)
  refine ⟨?_, List.getLast?_concat, ?_, fun a b hf => ?_, h.clear t n ht, fun t' m a ht' => ?_, fun t' m ht' => ?_,
    fun t' m ht' => ?_, fun t₁ t₂ m h₁ h₂ => ?_⟩
  · rw [List.head?_append, h.first]
    rfl
  · exact h.nodup.append (List.nodup_singleton n) (by simpa using hl)
  · rcases follows_concat.1 hf with hf | ⟨ha, rfl⟩
    · refine (h.chain a b hf).imp_right fun ⟨t', ht'⟩ => ⟨t', ?_⟩
      have hne : t' ≠ t := by
        rintro rfl
        rw [ht] at ht'
        cases ht'
      rw [hpush, if_neg hne, ht']
    · obtain rfl := Option.some.inj (h.last.symm.trans ha)
      exact .inr ⟨t, Function.update_self ..⟩
  · rw [hpush] at ht'
    split at ht'
    · obtain ⟨rfl, rfl⟩ := PushPc.link.inj ht'
      exact ⟨follows_concat.2 (.inr ⟨h.last, rfl⟩), h.ends⟩
    · obtain ⟨hf, hn⟩ := h.linking t' m a ht'
      exact ⟨follows_concat.2 (.inl hf), hn⟩
  · rw [hpush] at ht'
    split at ht'
    · simp at ht'
    · next hne =>
      rw [List.mem_append, List.mem_singleton]
      rintro (hm | rfl)
      · exact h.fresh t' m ht' hm
      · refine hne (h.apart t' t m ?_ (by rw [ht]; rfl))
        rcases ht' with ht' | ht' <;> rw [ht'] <;> rfl
  · rw [hpush] at ht'
    split at ht'
    · cases ht'
    · exact h.clear t' m ht'
  · refine h.apart t₁ t₂ m ?_ ?_
    · rw [hpush] at h₁
      split at h₁
      · next e => rw [e, ht]; exact h₁
      · exact h₁
    · rw [hpush] at h₂
      split at h₂
      · next e => rw [e, ht]; exact h₂
      · exact h₂

variable [DecidableEq α]

lemma init (h : Shape q push l) (ht : push t = .init n) :
    Shape (q.setNext n none) (Function.update push t (.swap n)) l := by
  have hpush (t' : τ) : Function.update push t (.swap n) t' = if t' = t then .swap n else push t' :=
    Function.update_apply ..
  have hl := h.fresh t n (.inl ht)
  have hnext {a : Node α} (ha : a ∈ l) : (q.setNext n none).next a = q.next a :=
    q.setNext_of_ne none fun he => hl (he ▸ ha)
  refine ⟨h.first, h.last, h.nodup, fun a b hf => ?_, ?_, fun t' m a ht' => ?_, fun t' m ht' => ?_, fun t' m ht' => ?_,
    fun t₁ t₂ m h₁ h₂ => ?_⟩
  · rw [hnext hf.left_mem]
    refine (h.chain a b hf).imp_right fun ⟨t', ht'⟩ => ⟨t', ?_⟩
    have hne : t' ≠ t := by
      rintro rfl
      rw [ht] at ht'
      cases ht'
    rw [hpush, if_neg hne, ht']
  · exact (hnext h.head_mem).trans h.ends
  · rw [hpush] at ht'
    split at ht'
    · cases ht'
    · obtain ⟨hf, hn⟩ := h.linking t' m a ht'
      exact ⟨hf, (hnext hf.left_mem).trans hn⟩
  · rw [hpush] at ht'
    split at ht'
    · obtain rfl : n = m := by simpa using ht'
      exact hl
    · exact h.fresh t' m ht'
  · rw [hpush] at ht'
    split at ht'
    · obtain rfl : n = m := by simpa using ht'
      exact q.setNext_self n none
    · by_cases hm : m = n
      · rw [hm]
        exact q.setNext_self n none
      · rw [q.setNext_of_ne none hm]
        exact h.clear t' m ht'
  · refine h.apart t₁ t₂ m ?_ ?_
    · rw [hpush] at h₁
      split at h₁
      · next e => rw [e, ht]; exact h₁
      · exact h₁
    · rw [hpush] at h₂
      split at h₂
      · next e => rw [e, ht]; exact h₂
      · exact h₂

lemma link {prev : Node α} (h : Shape q push l) (ht : push t = .link n prev) :
    Shape (q.setNext prev (some n)) (Function.update push t .idle) l := by
  have hpush (t' : τ) : Function.update push t .idle t' = if t' = t then .idle else push t' :=
    Function.update_apply ..
  obtain ⟨hf, hnone⟩ := h.linking t n prev ht
  refine ⟨h.first, h.last, h.nodup, fun a b hab => ?_, ?_, fun t' m a ht' => ?_, fun t' m ht' => ?_, fun t' m ht' => ?_,
    fun t₁ t₂ m h₁ h₂ => ?_⟩
  · by_cases ha : a = prev
    · subst ha
      rw [q.setNext_self, hf.right_unique h.nodup hab]
      exact .inl rfl
    · rw [q.setNext_of_ne _ ha]
      refine (h.chain a b hab).imp_right fun ⟨t', ht'⟩ => ⟨t', ?_⟩
      have hne : t' ≠ t := by
        rintro rfl
        exact ha (PushPc.link.inj (ht'.symm.trans ht)).2
      rw [hpush, if_neg hne, ht']
  · have hne : q.head ≠ prev := by
      rintro rfl
      exact not_follows_last h.nodup h.last hf
    exact (q.setNext_of_ne _ hne).trans h.ends
  · rw [hpush] at ht'
    split at ht'
    · cases ht'
    · next hne =>
      obtain ⟨hf', hn⟩ := h.linking t' m a ht'
      have ha : a ≠ prev := by
        rintro rfl
        refine hne (h.apart t' t m (by rw [ht']; rfl) ?_)
        rw [ht, hf.right_unique h.nodup hf']
        rfl
      exact ⟨hf', (q.setNext_of_ne _ ha).trans hn⟩
  · rw [hpush] at ht'
    split at ht'
    · simp at ht'
    · exact h.fresh t' m ht'
  · rw [hpush] at ht'
    split at ht'
    · cases ht'
    · have hne : m ≠ prev := by
        rintro rfl
        exact h.fresh t' m (.inr ht') hf.left_mem
      exact (q.setNext_of_ne _ hne).trans (h.clear t' m ht')
  · rw [hpush] at h₁ h₂
    split at h₁
    · cases h₁
    · split at h₂
      · cases h₂
      · exact h.apart t₁ t₂ m h₁ h₂

lemma push_step (h : Shape q push l) (ht : push t = p) :
    Shape (pushStep q p).1 (Function.update push t (pushStep q p).2) (p.grow l) := by
  cases p with
  | idle =>
    have he : Function.update push t .idle = push := by
      rw [← ht]
      exact Function.update_eq_self t push
    rw [pushStep, he]
    exact h
  | init n => exact h.init ht
  | swap n => exact h.swap ht
  | link n prev => exact h.link ht

end Shape

def Node.item? : Node α → Option α
  | .stub => none
  | .item a => some a

def items (l : List (Node α)) : List α := l.filterMap Node.item?

lemma mem_items {a : α} : a ∈ items l ↔ .item a ∈ l := by
  refine List.mem_filterMap.trans ⟨fun ⟨n, hn, ha⟩ => ?_, fun h => ⟨_, h, rfl⟩⟩
  cases n with
  | stub => cases ha
  | item b => exact Option.some.inj ha ▸ hn

lemma items_concat_item (l : List (Node α)) (a : α) : items (l ++ [.item a]) = items l ++ [a] :=
  List.filterMap_append

lemma items_concat_stub (l : List (Node α)) : items (l ++ [.stub]) = items l :=
  List.filterMap_append.trans (List.append_nil _)

def PopPc.At (q : Mpsc α) : PopPc α → Prop
  | .load => True
  | .skip tail | .head tail | .again tail => q.tail = tail ∧ tail ≠ .stub
  | .stub tail p => q.tail = tail ∧ tail ≠ .stub ∧ p.node = some .stub

inductive Pops (q' : Mpsc α) (l l' : List (Node α)) : PopPc α ⊕ Option (Node α) → Prop
  | runs {pc : PopPc α} (hat : pc.At q') (hl : items l' = items l) : Pops q' l l' (.inl pc)
  | fails (hl : items l' = items l) : Pops q' l l' (.inr none)
  | takes {a : α} (hl : items l = a :: items l') : Pops q' l l' (.inr (some (.item a)))

def afterPop : PopPc α ⊕ Option (Node α) → PushPc α := Sum.elim PopPc.push fun _ => .idle

lemma Shape.take {b : Node α} (h : Shape q push l) (hb : q.next q.tail = some b) (hs : q.tail ≠ .stub) :
    ∃ l', Shape { q with tail := b } push l' ∧ Pops { q with tail := b } l l' (.inr (some q.tail)) := by
  obtain ⟨l', hl, h'⟩ := h.advance hb
  refine ⟨l', h', ?_⟩
  cases ht : q.tail with
  | stub => exact absurd ht hs
  | item a =>
    rw [ht] at hl
    exact .takes (by rw [hl]; rfl)

def Linked (q : Mpsc α) (a b : Node α) : Prop := q.next a = some b

/-- `n` can be reached from the tail, or from a node whose thread is about to link it. -/
def Reached (q : Mpsc α) (push : τ → PushPc α) (n : Node α) : Prop :=
  ∃ z, (z = q.tail ∨ ∃ t prev, push t = .link z prev) ∧ Relation.ReflTransGen (Linked q) z n

lemma Shape.reached_iff (h : Shape q push l) : Reached q push n ↔ n ∈ l := by
  constructor
  · rintro ⟨z, hz, hp⟩
    have hz' : z ∈ l := by
      rcases hz with rfl | ⟨t, prev, ht⟩
      · exact h.tail_mem
      · exact List.mem_of_mem_tail (h.linking t z prev ht).1.right_mem
    induction hp with
    | refl => exact hz'
    | @tail b d _ hbd ih =>
      have hne : l.getLast? ≠ some b := by
        rw [h.last]
        intro he
        rw [Linked, ← Option.some.inj he, h.ends] at hbd
        cases hbd
      obtain ⟨e, he⟩ := exists_follows ih hne
      rcases h.chain b e he with hbe | ⟨t, ht⟩
      · rw [Linked, hbe] at hbd
        obtain rfl := Option.some.inj hbd
        exact List.mem_of_mem_tail he.right_mem
      · rw [Linked, (h.linking t e b ht).2] at hbd
        cases hbd
  · refine forall_of_follows (P := Reached q push) (fun a ha => ?_) (fun a b hab ⟨z, hz, hp⟩ => ?_) n
    · obtain rfl := Option.some.inj (h.first.symm.trans ha)
      exact ⟨_, .inl rfl, .refl⟩
    · rcases h.chain a b hab with hn | ⟨t, ht⟩
      · exact ⟨z, hz, hp.tail hn⟩
      · exact ⟨b, .inr ⟨t, a, ht⟩, .refl⟩

lemma shape_init (h : ∀ t, push t = .idle) : Shape ({} : Mpsc α) push [.stub] := by
  refine ⟨rfl, rfl, List.nodup_singleton _, fun a b hf => ?_, rfl, fun t n a ht => ?_, fun t n ht => ?_, fun t n ht => ?_,
    fun t t' n ht => ?_⟩
  · simp [Follows] at hf
  · simp [h] at ht
  · simp [h] at ht
  · simp [h] at ht
  · simp [h, PushPc.node] at ht

variable [DecidableEq τ] {c : τ}

lemma exists_update {β : Type*} {f : τ → β} {x : β} {P : β → Prop} (hx : P (f t) → P x) (h : ∃ t', P (f t')) :
    ∃ t', P (Function.update f t x t') := by
  obtain ⟨t', ht'⟩ := h
  by_cases ht : t' = t
  · subst ht
    exact ⟨t', by simpa using hx ht'⟩
  · exact ⟨t', by rwa [Function.update_of_ne ht]⟩

lemma update_idle (hc : push c = .idle) : Function.update push c .idle = push := by
  rw [← hc]
  exact Function.update_eq_self c push

variable [DecidableEq α]

lemma Shape.pop_load (h : Shape q push l) (hc : push c = .idle) :
    ∃ l', Shape (popStep q .load).1 (Function.update push c (afterPop (popStep q .load).2)) l' ∧
      Pops (popStep q .load).1 l l' (popStep q .load).2 := by
  have hc' := update_idle hc
  rw [popStep]
  cases hb : q.next q.tail with
  | none =>
    dsimp only
    split
    · refine ⟨l, ?_, .fails rfl⟩
      exact hc'.symm ▸ h
    · next hs =>
      refine ⟨l, ?_, .runs ⟨rfl, hs⟩ rfl⟩
      exact hc'.symm ▸ h
  | some b =>
    dsimp only
    split
    · next hs =>
      obtain ⟨l', hl, h'⟩ := h.advance hb
      have hbl := List.mem_of_head? h'.first
      refine ⟨l', hc'.symm ▸ h', .runs ⟨rfl, ?_⟩ ?_⟩
      · rintro rfl
        rw [hl, hs] at h
        exact (List.nodup_cons.1 h.nodup).1 hbl
      · rw [hl, hs]
        rfl
    · next hs =>
      obtain ⟨l', h', hp⟩ := h.take hb hs
      exact ⟨l', hc'.symm ▸ h', hp⟩

lemma Shape.pop_skip (h : Shape q push l) (hc : push c = .idle) (hs : q.tail ≠ .stub) :
    ∃ l', Shape (popStep q (.skip q.tail)).1 (Function.update push c (afterPop (popStep q (.skip q.tail)).2)) l' ∧
      Pops (popStep q (.skip q.tail)).1 l l' (popStep q (.skip q.tail)).2 := by
  have hc' := update_idle hc
  rw [popStep]
  cases hb : q.next q.tail with
  | none => exact ⟨l, hc'.symm ▸ h, .runs ⟨rfl, hs⟩ rfl⟩
  | some b =>
    obtain ⟨l', h', hp⟩ := h.take hb hs
    exact ⟨l', hc'.symm ▸ h', hp⟩

lemma Shape.pop_again (h : Shape q push l) (hc : push c = .idle) (hs : q.tail ≠ .stub) :
    ∃ l', Shape (popStep q (.again q.tail)).1 (Function.update push c (afterPop (popStep q (.again q.tail)).2)) l' ∧
      Pops (popStep q (.again q.tail)).1 l l' (popStep q (.again q.tail)).2 := by
  have hc' := update_idle hc
  rw [popStep]
  cases hb : q.next q.tail with
  | none => exact ⟨l, hc'.symm ▸ h, .fails rfl⟩
  | some b =>
    obtain ⟨l', h', hp⟩ := h.take hb hs
    exact ⟨l', hc'.symm ▸ h', hp⟩

lemma Shape.pop_head (h : Shape q push l) (hc : push c = .idle) (hs : q.tail ≠ .stub)
    (ho : ∀ t, t ≠ c → (push t).node ≠ some .stub) :
    ∃ l', Shape (popStep q (.head q.tail)).1 (Function.update push c (afterPop (popStep q (.head q.tail)).2)) l' ∧
      Pops (popStep q (.head q.tail)).1 l l' (popStep q (.head q.tail)).2 := by
  have hc' := update_idle hc
  rw [popStep]
  split
  · exact ⟨l, hc'.symm ▸ h, .fails rfl⟩
  · next hh =>
    have hl := h.eq_singleton (not_not.1 hh)
    refine ⟨l, h.start hc ?_ fun t => ?_, .runs ⟨rfl, hs, rfl⟩ rfl⟩
    · rw [hl, List.mem_singleton]
      exact hs.symm
    · by_cases ht : t = c
      · rw [ht, hc]
        nofun
      · exact ho t ht

lemma Shape.pop_stub (h : Shape q push l) (hc : push c = p) (hs : q.tail ≠ .stub) (hp : p.node = some .stub) :
    ∃ l', Shape (popStep q (.stub q.tail p)).1 (Function.update push c (afterPop (popStep q (.stub q.tail p)).2)) l' ∧
      Pops (popStep q (.stub q.tail p)).1 l l' (popStep q (.stub q.tail p)).2 := by
  have hstep := h.push_step hc
  refine ⟨p.grow l, ?_⟩
  rw [popStep]
  cases p with
  | idle => cases hp
  | init n => exact ⟨hstep, .runs ⟨rfl, hs, hp⟩ rfl⟩
  | swap n =>
    obtain rfl := Option.some.inj hp
    exact ⟨hstep, .runs ⟨rfl, hs, rfl⟩ (items_concat_stub l)⟩
  | link n prev => exact ⟨hstep, .runs ⟨rfl, hs⟩ rfl⟩

lemma Shape.pop {pc : PopPc α} (h : Shape q push l) (hc : push c = pc.push) (hat : pc.At q)
    (ho : ∀ t, t ≠ c → (push t).node ≠ some .stub) :
    ∃ l', Shape (popStep q pc).1 (Function.update push c (afterPop (popStep q pc).2)) l' ∧
      Pops (popStep q pc).1 l l' (popStep q pc).2 := by
  cases pc with
  | load => exact h.pop_load hc
  | skip tail =>
    obtain ⟨rfl, hs⟩ := hat
    exact h.pop_skip hc hs
  | head tail =>
    obtain ⟨rfl, hs⟩ := hat
    exact h.pop_head hc hs ho
  | stub tail p =>
    obtain ⟨rfl, hs, hp⟩ := hat
    exact h.pop_stub hc hs hp
  | again tail =>
    obtain ⟨rfl, hs⟩ := hat
    exact h.pop_again hc hs

end Netfast.Queue
