import Netfast.Lib.Prefix

/-! `lib/trie.c`: a binary trie with an element at some of its nodes. -/

namespace Netfast.Trie

open Prefix

inductive Node (α : Type)
  | null
  | node (element : Option α) (left right : Node α)

variable {α β : Type}

def child (bit : Bool) (left right : Node α) : Node α := if bit then right else left

def withChild (element : Option α) (bit : Bool) (left right : Node α) (c : Node α) : Node α :=
  if bit then .node element left c else .node element c right

def addAt (cb : Option α → Option α × Bool) : List Bool → ℕ → Option α → Node α → Node α → Node α × Bool
  | [], _, e, l, r => (.node (cb e).1 l r, (cb e).2)
  | b :: bs, budget, e, l, r =>
    match child b l r, budget with
    | .node e' l' r', budget =>
      let (c, ok) := addAt cb bs budget e' l' r'
      (withChild e b l r c, ok)
    | .null, 0 => (.node e l r, false)
    | .null, budget + 1 =>
      let (c, ok) := addAt cb bs budget none .null .null
      (withChild e b l r c, ok)

def Node.isEmptyLeaf : Node α → Bool
  | .node none .null .null => true
  | _ => false

def prune (n : Node α) : Node α := if n.isEmptyLeaf then .null else n

def deleteAt (cb : Option α → Option α) : List Bool → Option α → Node α → Node α → Option (Node α)
  | [], e, l, r => some (.node (cb e) l r)
  | b :: bs, e, l, r =>
    match child b l r with
    | .null => none
    | .node e' l' r' => (deleteAt cb bs e' l' r').map fun c => withChild e b l r (prune c)

def findPrefix : List Bool → Option α → Node α → Node α → List (Option α) → Option (List (Option α)) →
    Option (List (Option α))
  | [], e, _, _, up, _ => some (e :: up)
  | b :: bs, e, l, r, up, last =>
    match child b l r with
    | .null => last
    | .node e' l' r' => findPrefix bs e' l' r' (e :: up) (if e'.isSome then some (e' :: e :: up) else last)

def climb (cb : α → Option β) : List (Option α) → Option β
  | [] => none
  | e :: up => (e.bind cb).or (climb cb up)

structure Table (α : Type) where
  element : Option α := none
  left : Node α := .null
  right : Node α := .null

def Table.root (t : Table α) : Node α := .node t.element t.left t.right

def Table.ofRoot (t : Table α) : Node α → Table α
  | .null => t
  | .node e l r => { element := e, left := l, right := r }

def addTrieElement (t : Table α) (bits : List Bool) (cb : Option α → Option α × Bool) (budget : ℕ) : Table α × Bool :=
  let (n, ok) := addAt cb bits budget t.element t.left t.right
  (t.ofRoot n, ok)

def deleteTrieElement (t : Table α) (bits : List Bool) (cb : Option α → Option α) : Table α :=
  match deleteAt cb bits t.element t.left t.right with
  | none => t
  | some n => t.ofRoot n

def searchTrieElement (t : Table α) (bits : List Bool) (cb : α → Option β) : Option β :=
  match findPrefix bits t.element t.left t.right [] (if t.element.isSome then some [t.element] else none) with
  | none => none
  | some found => climb cb found

def elemAt : Node α → List Bool → Option α
  | .null, _ => none
  | .node e _ _, [] => e
  | .node _ l r, b :: bs => elemAt (child b l r) bs

def Table.elemAt (t : Table α) (p : List Bool) : Option α := Trie.elemAt t.root p

@[simp] lemma elemAt_null (p : List Bool) : elemAt (.null : Node α) p = none := by cases p <;> rfl

@[simp] lemma elemAt_nil (e : Option α) (l r : Node α) : elemAt (.node e l r) [] = e := rfl

@[simp] lemma elemAt_cons (e : Option α) (l r : Node α) (b : Bool) (p : List Bool) :
    elemAt (.node e l r) (b :: p) = elemAt (child b l r) p := rfl

lemma elemAt_emptyNode (p : List Bool) : elemAt (.node none .null .null : Node α) p = none := by
  cases p with
  | nil => rfl
  | cons b p => cases b <;> simp [child]

@[simp] lemma elemAt_withChild_nil (e : Option α) (b : Bool) (l r c : Node α) :
    elemAt (withChild e b l r c) [] = e := by
  cases b <;> rfl

@[simp] lemma elemAt_withChild_cons (e : Option α) (b b' : Bool) (l r c : Node α) (p : List Bool) :
    elemAt (withChild e b l r c) (b' :: p) = if b' = b then elemAt c p else elemAt (child b' l r) p := by
  cases b <;> cases b' <;> rfl

lemma withChild_ne_null (e : Option α) (b : Bool) (l r c : Node α) : withChild e b l r c ≠ .null := by
  cases b <;> simp [withChild]

lemma elemAt_prune (n : Node α) (p : List Bool) : elemAt (prune n) p = elemAt n p := by
  rw [prune]
  split
  · next h =>
    have hn : n = .node none .null .null := by
      cases n with
      | null => cases h
      | node e l r =>
        cases e <;> cases l <;> cases r <;> first | rfl | cases h
    rw [hn, elemAt_emptyNode, elemAt_null]
  · rfl

section Descend

variable {e : Option α} {b : Bool} {bs : List Bool} {l r c c' : Node α}

lemma elemAt_set {v : Option α} (hc : child b l r = c) (h : ∀ p, elemAt c' p = if p = bs then v else elemAt c p)
    (p : List Bool) :
    elemAt (withChild e b l r c') p = if p = b :: bs then v else elemAt (.node e l r) p := by
  cases p with
  | nil => simp
  | cons b' p =>
    by_cases hb : b' = b
    · subst hb
      simp [h, hc]
    · simp [hb]

lemma elemAt_same (hc : child b l r = c) (h : ∀ p, elemAt c' p = elemAt c p) (p : List Bool) :
    elemAt (withChild e b l r c') p = elemAt (.node e l r) p := by
  cases p with
  | nil => simp
  | cons b' p =>
    by_cases hb : b' = b
    · subst hb
      simp [h, hc]
    · simp [hb]

end Descend

section AddAt

variable {e e' : Option α} {b : Bool} {l r l' r' : Node α} (cb : Option α → Option α × Bool) (bs : List Bool)

lemma addAt_node (hc : child b l r = .node e' l' r') (budget : ℕ) :
    addAt cb (b :: bs) budget e l r =
      (withChild e b l r (addAt cb bs budget e' l' r').1, (addAt cb bs budget e' l' r').2) := by
  simp only [addAt, hc]

lemma addAt_null_zero (hc : child b l r = .null) : addAt cb (b :: bs) 0 e l r = (.node e l r, false) := by
  simp only [addAt, hc]

lemma addAt_null_succ (hc : child b l r = .null) (budget : ℕ) :
    addAt cb (b :: bs) (budget + 1) e l r =
      (withChild e b l r (addAt cb bs budget none .null .null).1, (addAt cb bs budget none .null .null).2) := by
  simp only [addAt, hc]

end AddAt

lemma elemAt_addAt (cb : Option α → Option α × Bool) (bits : List Bool) (budget : ℕ) (e : Option α) (l r : Node α) :
    (∀ p, elemAt (addAt cb bits budget e l r).1 p =
        if p = bits then (cb (elemAt (.node e l r) bits)).1 else elemAt (.node e l r) p) ∧
      (addAt cb bits budget e l r).2 = (cb (elemAt (.node e l r) bits)).2 ∨
    (∀ p, elemAt (addAt cb bits budget e l r).1 p = elemAt (.node e l r) p) ∧
      (addAt cb bits budget e l r).2 = false := by
  induction bits generalizing budget e l r with
  | nil =>
    refine .inl ⟨fun p => ?_, rfl⟩
    cases p <;> simp [addAt]
  | cons b bs ih =>
    rw [elemAt_cons]
    cases hc : child b l r with
    | node e' l' r' =>
      rw [addAt_node cb bs hc]
      exact (ih budget e' l' r').imp (And.imp_left (elemAt_set hc)) (And.imp_left (elemAt_same hc))
    | null =>
      cases budget with
      | zero =>
        rw [addAt_null_zero cb bs hc]
        exact .inr ⟨fun _ => rfl, rfl⟩
      | succ budget =>
        have hempty : ∀ p, elemAt (.node none .null .null : Node α) p = elemAt (.null : Node α) p := by
          intro p
          rw [elemAt_emptyNode, elemAt_null]
        rw [addAt_null_succ cb bs hc]
        have ih := ih budget none .null .null
        simp only [hempty] at ih
        exact ih.imp (And.imp_left (elemAt_set hc)) (And.imp_left (elemAt_same hc))

lemma addAt_ne_null (cb : Option α → Option α × Bool) (bits : List Bool) (budget : ℕ) (e : Option α) (l r : Node α) :
    (addAt cb bits budget e l r).1 ≠ .null := by
  cases bits with
  | nil => simp [addAt]
  | cons b bs =>
    cases hc : child b l r with
    | node e' l' r' =>
      rw [addAt_node cb bs hc]
      exact withChild_ne_null _ _ _ _ _
    | null =>
      cases budget with
      | zero => simp [addAt_null_zero cb bs hc]
      | succ budget =>
        rw [addAt_null_succ cb bs hc]
        exact withChild_ne_null _ _ _ _ _

lemma elemAt_deleteAt (cb : Option α → Option α) (bits : List Bool) (e : Option α) (l r : Node α) :
    (∃ n, deleteAt cb bits e l r = some n ∧ ∀ p, elemAt n p =
        if p = bits then cb (elemAt (.node e l r) bits) else elemAt (.node e l r) p) ∨
      deleteAt cb bits e l r = none ∧ elemAt (.node e l r) bits = none := by
  induction bits generalizing e l r with
  | nil =>
    refine .inl ⟨_, rfl, fun p => ?_⟩
    cases p <;> simp
  | cons b bs ih =>
    rw [deleteAt]
    split
    · next hc => exact .inr ⟨rfl, by rw [elemAt_cons, hc, elemAt_null]⟩
    · next e' l' r' hc =>
      rw [elemAt_cons, hc]
      rcases ih e' l' r' with ⟨n, hn, hp⟩ | ⟨hn, hnone⟩
      · rw [hn]
        exact .inl ⟨_, rfl, elemAt_set hc fun p => by rw [elemAt_prune, hp]⟩
      · rw [hn]
        exact .inr ⟨rfl, hnone⟩

lemma climb_findPrefix (cb : α → Option β) (bits : List Bool) (e : Option α) (l r : Node α) (up : List (Option α))
    (last : Option (List (Option α))) (hlast : last.bind (climb cb) = climb cb (e :: up)) :
    (findPrefix bits e l r up last).bind (climb cb) =
      (longest (fun p => (elemAt (.node e l r) p).bind cb) bits).or (climb cb up) := by
  induction bits generalizing e l r up last with
  | nil => rfl
  | cons b bs ih =>
    rw [findPrefix, longest]
    split
    · next hc =>
      have hnone : longest (fun p => (elemAt (.node e l r) (b :: p)).bind cb) bs = none := by
        refine longest_eq_none.mpr fun p _ => ?_
        rw [elemAt_cons, hc, elemAt_null]
        rfl
      rw [hlast, hnone]
      rfl
    · next e' l' r' hc =>
      have hl : (if e'.isSome then some (e' :: e :: up) else last).bind (climb cb) = climb cb (e' :: e :: up) := by
        cases e' with
        | none => exact hlast
        | some a => rfl
      rw [ih e' l' r' (e :: up) _ hl]
      simp only [elemAt_cons, hc, Option.or_assoc]
      rfl

lemma ofRoot_root (t : Table α) {n : Node α} (hn : n ≠ .null) : (t.ofRoot n).root = n := by
  cases n with
  | null => exact absurd rfl hn
  | node e l r => rfl

lemma addTrieElement_elemAt (t : Table α) (bits : List Bool) (cb : Option α → Option α × Bool) (budget : ℕ) :
    (∀ p, (addTrieElement t bits cb budget).1.elemAt p = if p = bits then (cb (t.elemAt bits)).1 else t.elemAt p) ∧
      (addTrieElement t bits cb budget).2 = (cb (t.elemAt bits)).2 ∨
    (∀ p, (addTrieElement t bits cb budget).1.elemAt p = t.elemAt p) ∧
      (addTrieElement t bits cb budget).2 = false := by
  have hne := addAt_ne_null cb bits budget t.element t.left t.right
  simp only [Table.elemAt, addTrieElement, ofRoot_root t hne]
  exact elemAt_addAt cb bits budget t.element t.left t.right

lemma deleteTrieElement_elemAt (t : Table α) (bits : List Bool) {cb : Option α → Option α} (hcb : cb none = none)
    (p : List Bool) :
    (deleteTrieElement t bits cb).elemAt p = if p = bits then cb (t.elemAt bits) else t.elemAt p := by
  rw [deleteTrieElement]
  rcases elemAt_deleteAt cb bits t.element t.left t.right with ⟨n, hn, hp⟩ | ⟨hn, hnone⟩
  · have hne : n ≠ .null := by
      rintro rfl
      cases bits with
      | nil => cases hn
      | cons b bs =>
        rw [deleteAt] at hn
        split at hn
        · cases hn
        · obtain ⟨c, -, hc⟩ := Option.map_eq_some_iff.mp hn
          exact withChild_ne_null _ _ _ _ _ hc
    rw [hn]
    simp only [Table.elemAt, ofRoot_root t hne]
    exact hp p
  · rw [hn]
    by_cases hpb : p = bits
    · rw [if_pos hpb, hpb, show t.elemAt bits = none from hnone, hcb]
    · rw [if_neg hpb]

lemma searchTrieElement_eq (t : Table α) (bits : List Bool) (cb : α → Option β) :
    searchTrieElement t bits cb = longest (fun p => (t.elemAt p).bind cb) bits := by
  have hlast : (if t.element.isSome then some [t.element] else none).bind (climb cb) = climb cb [t.element] := by
    cases t.element <;> rfl
  have h := climb_findPrefix cb bits t.element t.left t.right [] _ hlast
  rw [climb, Option.or_none] at h
  rw [searchTrieElement]
  refine Eq.trans ?_ h
  split
  · next hn => rw [hn]; rfl
  · next hs => rw [hs]; rfl

end Netfast.Trie
