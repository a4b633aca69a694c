import Netfast.Route

/-! What an update leaves of the trie when it fails, and that no leaf is left without an element. -/

namespace Netfast.Trie

variable {α : Type} {ok : α → Prop}

def Tidy (ok : α → Prop) : Node α → Prop
  | .null => True
  | .node e l r => (l = .null → r = .null → e ≠ none) ∧ (∀ a, e = some a → ok a) ∧ Tidy ok l ∧ Tidy ok r

def present : Node α → List Bool → Bool
  | .null, _ => false
  | .node _ _ _, [] => true
  | .node _ l r, b :: bs => present (child b l r) bs

structure Table.Tidy (ok : α → Prop) (t : Table α) : Prop where
  element : ∀ a, t.element = some a → ok a
  left : Trie.Tidy ok t.left
  right : Trie.Tidy ok t.right

structure AddLaw (ok : α → Prop) (cb : Option α → Option α × Bool) : Prop where
  fails : ∀ e, (cb e).2 = false → (cb e).1 = e
  adds : ∀ e, (∀ a, e = some a → ok a) → (cb e).2 = true → ∃ a, (cb e).1 = some a ∧ ok a

variable {e e' : Option α} {b : Bool} {bs : List Bool} {l r l' r' c n : Node α} {cb : Option α → Option α × Bool} {budget : ℕ}

lemma Tidy.child (hl : Tidy ok l) (hr : Tidy ok r) (b : Bool) : Tidy ok (child b l r) := by
  cases b with
  | false => exact hl
  | true => exact hr

lemma tidy_withChild (he : ∀ a, e = some a → ok a) (hl : Tidy ok l) (hr : Tidy ok r) (hc : Tidy ok c) (hne : c ≠ .null) :
    Tidy ok (withChild e b l r c) := by
  cases b with
  | false => exact ⟨fun hz => absurd hz hne, he, hc, hr⟩
  | true => exact ⟨fun _ hz => absurd hz hne, he, hl, hc⟩

lemma withChild_not_tidy (hc : ¬Tidy ok c) : ∃ l' r', withChild e b l r c = .node e l' r' ∧ ¬(Tidy ok l' ∧ Tidy ok r') := by
  cases b with
  | false => exact ⟨c, r, rfl, fun h => hc h.1⟩
  | true => exact ⟨l, c, rfl, fun h => hc h.2⟩

lemma withChild_child (h : child b l r = c) : withChild e b l r c = .node e l r := by
  subst h
  cases b <;> rfl

lemma addAt_tidy (hcb : AddLaw ok cb) (he : ∀ a, e = some a → ok a) (hl : Tidy ok l) (hr : Tidy ok r)
    (h : (addAt cb bs budget e l r).2 = true) : Tidy ok (addAt cb bs budget e l r).1 := by
  induction bs generalizing budget e l r with
  | nil =>
    obtain ⟨a, ha, hok⟩ := hcb.adds e he h
    rw [addAt, ha]
    refine ⟨?_, fun a' h' => Option.some.inj h' ▸ hok, hl, hr⟩
    intro _ _ hnone
    cases hnone
  | cons b bs ih =>
    cases hc : child b l r with
    | node e' l' r' =>
      have hchild := Tidy.child hl hr b
      rw [hc] at hchild
      rw [addAt_node cb bs hc] at h ⊢
      exact tidy_withChild he hl hr (ih hchild.2.1 hchild.2.2.1 hchild.2.2.2 h)
        (addAt_ne_null cb bs budget e' l' r')
    | null =>
      cases budget with
      | zero =>
        rw [addAt_null_zero cb bs hc] at h
        cases h
      | succ budget =>
        rw [addAt_null_succ cb bs hc] at h ⊢
        exact tidy_withChild he hl hr (ih (fun a h' => by cases h') trivial trivial h)
          (addAt_ne_null cb bs budget none .null .null)

lemma addAt_unchanged (hcb : AddLaw ok cb) (h : (addAt cb bs budget e l r).2 = false)
    (hp : present (.node e l r) bs = true ∨ budget = 0) : (addAt cb bs budget e l r).1 = .node e l r := by
  induction bs generalizing budget e l r with
  | nil => rw [addAt, hcb.fails e h]
  | cons b bs ih =>
    rw [present] at hp
    cases hc : child b l r with
    | node e' l' r' =>
      rw [hc] at hp
      rw [addAt_node cb bs hc] at h ⊢
      dsimp only at h ⊢
      rw [ih h hp, withChild_child hc]
    | null =>
      rw [hc] at hp
      obtain rfl : budget = 0 := hp.resolve_left (by simp [present])
      rw [addAt_null_zero cb bs hc]

lemma addAt_new_bare (hcb : AddLaw ok cb) (h : (addAt cb bs budget none .null .null).2 = false) :
    ¬Tidy ok (addAt cb bs budget none .null .null).1 := by
  induction bs generalizing budget with
  | nil =>
    rw [addAt, hcb.fails none h]
    exact fun ht => ht.1 rfl rfl rfl
  | cons b bs ih =>
    have hc : child b (.null : Node α) .null = .null := by cases b <;> rfl
    cases budget with
    | zero =>
      rw [addAt_null_zero cb bs hc]
      exact fun ht => ht.1 rfl rfl rfl
    | succ budget =>
      rw [addAt_null_succ cb bs hc] at h ⊢
      obtain ⟨l', r', he, hn⟩ := withChild_not_tidy (e := none) (b := b) (l := .null) (r := .null) (ih h)
      rw [he]
      exact fun ht => hn ht.2.2

-- the first node that was missing is there now, and what hangs below it ends in a leaf without an element
lemma addAt_bare (hcb : AddLaw ok cb) (h : (addAt cb bs (budget + 1) e l r).2 = false)
    (hp : present (.node e l r) bs = false) :
    ∃ l' r', (addAt cb bs (budget + 1) e l r).1 = .node e l' r' ∧ ¬(Tidy ok l' ∧ Tidy ok r') := by
  induction bs generalizing e l r with
  | nil => cases hp
  | cons b bs ih =>
    rw [present] at hp
    cases hc : child b l r with
    | node e' l' r' =>
      rw [hc] at hp
      rw [addAt_node cb bs hc] at h ⊢
      obtain ⟨l'', r'', he, hn⟩ := ih h hp
      refine withChild_not_tidy ?_
      rw [he]
      exact fun ht => hn ht.2.2
    | null =>
      rw [addAt_null_succ cb bs hc] at h ⊢
      exact withChild_not_tidy (addAt_new_bare hcb h)

lemma tidy_prune (he : ∀ a, e = some a → ok a) (hl : Tidy ok l) (hr : Tidy ok r) : Tidy ok (prune (.node e l r)) := by
  rw [prune]
  split
  · trivial
  · next hn =>
    refine ⟨?_, he, hl, hr⟩
    rintro rfl rfl rfl
    exact hn rfl

lemma prune_of_tidy (h : Tidy ok n) : prune n = n := by
  rw [prune]
  split
  · next hn =>
    cases n with
    | null => rfl
    | node e l r => cases e <;> cases l <;> cases r <;> first | exact absurd rfl (h.1 rfl rfl) | cases hn
  · rfl

lemma deleteAt_tidy {cb : Option α → Option α} (hcb : ∀ e a, (∀ a, e = some a → ok a) → cb e = some a → ok a)
    (he : ∀ a, e = some a → ok a) (hl : Tidy ok l) (hr : Tidy ok r) (h : deleteAt cb bs e l r = some n) :
    ∃ e' l' r', n = .node e' l' r' ∧ (∀ a, e' = some a → ok a) ∧ Tidy ok l' ∧ Tidy ok r' := by
  induction bs generalizing e l r n with
  | nil => exact ⟨_, _, _, (Option.some.inj h).symm, fun a => hcb e a he, hl, hr⟩
  | cons b bs ih =>
    rw [deleteAt] at h
    split at h
    · cases h
    next e₁ l₁ r₁ hc =>
    have hchild := Tidy.child hl hr b
    rw [hc] at hchild
    obtain ⟨c, hd, rfl⟩ := Option.map_eq_some_iff.mp h
    obtain ⟨e', l', r', rfl, he', hl', hr'⟩ := ih hchild.2.1 hchild.2.2.1 hchild.2.2.2 hd
    have hp := tidy_prune he' hl' hr'
    cases b with
    | false => exact ⟨_, _, _, rfl, he, hp, hr⟩
    | true => exact ⟨_, _, _, rfl, he, hl, hp⟩

lemma deleteAt_absent {cb : Option α → Option α} (bs : List Bool) (hl : Tidy ok l) (hr : Tidy ok r)
    (hcb : cb (elemAt (.node e l r) bs) = elemAt (.node e l r) bs) :
    deleteAt cb bs e l r = none ∨ deleteAt cb bs e l r = some (.node e l r) := by
  induction bs generalizing e l r with
  | nil =>
    right
    rw [deleteAt, show cb e = e from hcb]
  | cons b bs ih =>
    rw [deleteAt]
    split
    · exact .inl rfl
    next e' l' r' hc =>
    have hchild := Tidy.child hl hr b
    rw [hc] at hchild
    rw [elemAt_cons, hc] at hcb
    refine (ih hchild.2.2.1 hchild.2.2.2 hcb).imp (fun hd => by rw [hd, Option.map_none]) fun hd => ?_
    rw [hd, Option.map_some, prune_of_tidy hchild, withChild_child hc]

lemma Table.ofRoot_self (t : Table α) : t.ofRoot (.node t.element t.left t.right) = t := rfl

end Netfast.Trie

namespace Netfast.Route

open Trie Run

def trieStep (t : RouteTables) : RouteEvent → RouteTables
  | .add info budget headOk routeOk => (routeAddEntry t info budget headOk routeOk).1
  | .delete info => routeDeleteEntry t info

/-- The update is refused, runs out of memory or finds nothing to delete. -/
def Fails (t : RouteTables) : RouteEvent → Prop
  | .add info budget headOk routeOk => (routeAddEntry t info budget headOk routeOk).2 = false
  | .delete info => ∀ rs, (t.of info.isV6).elemAt info.path = some rs → rs.any (routeSame · info) = false

def TidyTables (t : RouteTables) : Prop := ∀ isV6, (t.of isV6).Tidy (· ≠ [])

structure Exact (t : RouteTables) (e : RouteEvent) : Prop where
  failed : Fails t e → trieStep t e = t
  tidy : TidyTables (trieStep t e)

/-- An add that fails has created no node: the path was there, or not even its first new node could be made. -/
def CreatesNone (t : RouteTables) : RouteEvent → Prop
  | .add info budget headOk routeOk => (routeAddEntry t info budget headOk routeOk).2 = false →
      info.dstMask ≤ maxDepth info.isV6 → present (t.of info.isV6).root info.path = true ∨ budget = 0
  | .delete _ => True

variable {t : RouteTables}

lemma set_of (t : RouteTables) (isV6 : Bool) : t.set isV6 (t.of isV6) = t := by cases isV6 <;> rfl

lemma routeAddCb_law (info : RouteInfo) (headOk routeOk : Bool) : AddLaw (· ≠ []) (routeAddCb info headOk routeOk) := by
  constructor
  · intro e h
    cases e with
    | none =>
      rw [routeAddCb] at h ⊢
      split_ifs at h ⊢
      rfl
    | some rs =>
      rw [routeAddCb] at h ⊢
      split_ifs at h ⊢
      rfl
  · intro e he h
    cases e with
    | none =>
      rw [routeAddCb] at h ⊢
      split_ifs at h ⊢
      exact ⟨_, rfl, by simp⟩
    | some rs =>
      rw [routeAddCb] at h ⊢
      split_ifs at h ⊢
      · exact ⟨_, rfl, updateFirst_ne_nil (he rs rfl)⟩
      · exact ⟨_, rfl, by simp⟩

lemma TidyTables.set (h : TidyTables t) {isV6 : Bool} {table : Table (List RouteInfo)} (ht : table.Tidy (· ≠ [])) :
    TidyTables (t.set isV6 table) := by
  intro f
  rw [of_set]
  split
  · exact ht
  · exact h f

lemma add_exact (h : TidyTables t) (info : RouteInfo) (budget : ℕ) (headOk routeOk : Bool) :
    Exact t (.add info budget headOk routeOk) ↔ CreatesNone t (.add info budget headOk routeOk) := by
  have hcb := routeAddCb_law info headOk routeOk
  have ht := h info.isV6
  by_cases hm : maxDepth info.isV6 < info.dstMask
  · have hstep : trieStep t (.add info budget headOk routeOk) = t := by rw [trieStep, routeAddEntry, if_pos hm]
    exact iff_of_true ⟨fun _ => hstep, hstep.symm ▸ h⟩ fun _ hle => absurd hm (Nat.not_lt.mpr hle)
  obtain ⟨n, ok, hadd⟩ : ∃ n ok, addAt (routeAddCb info headOk routeOk) info.path budget (t.of info.isV6).element
    (t.of info.isV6).left (t.of info.isV6).right = (n, ok) := ⟨_, _, rfl⟩
  have hroute : routeAddEntry t info budget headOk routeOk = (t.set info.isV6 ((t.of info.isV6).ofRoot n), ok) := by
    rw [routeAddEntry, if_neg hm, addTrieElement, hadd]
  have hstep : trieStep t (.add info budget headOk routeOk) = t.set info.isV6 ((t.of info.isV6).ofRoot n) := by
    rw [trieStep, hroute]
  simp only [CreatesNone, hroute]
  constructor
  · rintro ⟨-, htidy⟩ rfl -
    by_contra hn
    rw [not_or, Bool.not_eq_true] at hn
    obtain ⟨k, rfl⟩ := Nat.exists_eq_succ_of_ne_zero hn.2
    obtain ⟨l', r', he, hbare⟩ := addAt_bare hcb (congrArg Prod.snd hadd) hn.1
    have hside := htidy info.isV6
    rw [hstep, of_set, if_pos rfl, show n = _ from (congrArg Prod.fst hadd).symm.trans he] at hside
    exact hbare ⟨hside.left, hside.right⟩
  · intro hnone
    cases ok with
    | false =>
      have hsame := addAt_unchanged hcb (congrArg Prod.snd hadd) (hnone rfl (Nat.le_of_not_lt hm))
      have hback : trieStep t (.add info budget headOk routeOk) = t := by
        rw [hstep, show n = _ from (congrArg Prod.fst hadd).symm.trans hsame, Table.ofRoot_self, set_of]
      exact ⟨fun _ => hback, hback.symm ▸ h⟩
    | true =>
      have hn := addAt_tidy hcb ht.element ht.left ht.right (congrArg Prod.snd hadd)
      rw [hadd] at hn
      refine ⟨fun hf => ?_, hstep ▸ h.set ?_⟩
      · rw [Fails, hroute] at hf
        cases hf
      · cases n with
        | null => exact ht
        | node e l r => exact ⟨hn.2.1, hn.2.2.1, hn.2.2.2⟩

lemma routeDeleteCb_nonempty {info : RouteInfo} {e : Option (List RouteInfo)} {rs : List RouteInfo}
    (h : routeDeleteCb info e = some rs) : rs ≠ [] := by
  cases e with
  | none => cases h
  | some es =>
    rw [routeDeleteCb] at h
    revert h
    cases es.eraseP (routeSame · info) with
    | nil => nofun
    | cons r rs' =>
      intro h
      rw [← Option.some.inj h]
      exact List.cons_ne_nil r rs'

lemma routeDeleteCb_absent {info : RouteInfo} {e : Option (List RouteInfo)} (hne : ∀ rs, e = some rs → rs ≠ [])
    (h : ∀ rs, e = some rs → rs.any (routeSame · info) = false) : routeDeleteCb info e = e := by
  cases e with
  | none => rfl
  | some rs =>
    rw [routeDeleteCb, List.eraseP_of_forall_not fun r hr => by simpa using List.any_eq_false.mp (h rs rfl) r hr]
    cases rs with
    | nil => exact absurd rfl (hne [] rfl)
    | cons r rs => rfl

lemma Tidy.elem {n : Node (List RouteInfo)} (h : Trie.Tidy (· ≠ []) n) (p : List Bool) :
    ∀ rs, elemAt n p = some rs → rs ≠ [] := by
  induction p generalizing n with
  | nil =>
    cases n with
    | null => nofun
    | node e l r => exact h.2.1
  | cons b p ih =>
    cases n with
    | null => nofun
    | node e l r => exact ih (Tidy.child h.2.2.1 h.2.2.2 b)

lemma Table.Tidy.elem {t : Table (List RouteInfo)} (h : t.Tidy (· ≠ [])) (p : List Bool) :
    ∀ rs, t.elemAt p = some rs → rs ≠ [] := by
  cases p with
  | nil => exact h.element
  | cons b p => exact Route.Tidy.elem (Tidy.child h.left h.right b) p

lemma delete_exact (h : TidyTables t) (info : RouteInfo) : Exact t (.delete info) := by
  have ht := h info.isV6
  constructor
  · intro hf
    rw [trieStep, routeDeleteEntry]
    split
    · rfl
    have hcb : routeDeleteCb info ((t.of info.isV6).elemAt info.path) = (t.of info.isV6).elemAt info.path :=
      routeDeleteCb_absent (Table.Tidy.elem ht info.path) hf
    rw [deleteTrieElement]
    rcases deleteAt_absent info.path ht.left ht.right hcb with hd | hd
    · rw [hd, set_of]
    · rw [hd]
      dsimp only
      rw [Table.ofRoot_self, set_of]
  · rw [trieStep, routeDeleteEntry]
    split
    · exact h
    refine h.set ?_
    rw [deleteTrieElement]
    split
    · exact ht
    · next n hd =>
      obtain ⟨e, l, r, rfl, he, hl, hr⟩ := deleteAt_tidy (fun _ _ _ hs => routeDeleteCb_nonempty hs) ht.element ht.left
        ht.right hd
      exact ⟨he, hl, hr⟩

lemma trieStep_exact (h : TidyTables t) (e : RouteEvent) : Exact t e ↔ CreatesNone t e := by
  cases e with
  | add info budget headOk routeOk => exact add_exact h info budget headOk routeOk
  | delete info => exact iff_of_true (delete_exact h info) trivial

/-- Every update of a run is exact precisely if no add fails after it has created a node. -/
theorem trie_updates_exact_iff (es : List RouteEvent) :
    (∀ es₁ e es₂, es = es₁ ++ e :: es₂ → Exact (run trieStep {} es₁) e) ↔ Meets trieStep CreatesNone {} es := by
  have hgen (t : RouteTables) (h : TidyTables t) :
      (∀ es₁ e es₂, es = es₁ ++ e :: es₂ → Exact (run trieStep t es₁) e) ↔ Meets trieStep CreatesNone t es := by
    induction es generalizing t with
    | nil => exact iff_of_true (fun es₁ e es₂ he => by simp at he) trivial
    | cons e es ih =>
      have hstep := trieStep_exact h e
      constructor
      · intro hall
        have he := hall [] e es rfl
        exact ⟨hstep.mp he, (ih _ he.tidy).mp fun es₁ e' es₂ hs => hall (e :: es₁) e' es₂ (by rw [hs]; rfl)⟩
      · rintro ⟨hok, hes⟩ es₁ e' es₂ hs
        have he := hstep.mpr hok
        cases es₁ with
        | nil =>
          obtain ⟨rfl, -⟩ := List.cons_eq_cons.mp hs
          exact he
        | cons e₁ es₁ =>
          obtain ⟨rfl, htail⟩ := List.cons_eq_cons.mp hs
          exact (ih _ he.tidy).mpr hes es₁ e' es₂ htail
  refine hgen {} fun isV6 => ?_
  cases isV6 <;> exact ⟨nofun, trivial, trivial⟩

/-- There is memory for the node of the prefix 128/1, and none for the route: the node stays. -/
theorem failed_add_leaves_node :
    Fails {} (.add { isV6 := false, dstMask := 1, dstIp := Vector.replicate 16 128, ifindex := 1 } 1 true false) ∧
      (trieStep {} (.add { isV6 := false, dstMask := 1, dstIp := Vector.replicate 16 128, ifindex := 1 } 1 true false)).v4 =
        { right := .node none .null .null } :=
  ⟨rfl, rfl⟩

end Netfast.Route
