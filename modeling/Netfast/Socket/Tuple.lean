import Mathlib.Data.List.AList

/-! The tuple table: which sockets receive the packets of a four-tuple. -/

namespace Netfast

abbrev SockId := ℕ

end Netfast

namespace Netfast.Socket

abbrev Port := BitVec 16
abbrev Worker := ℕ

class InetAddr (A : Type) where
  any : A
  spread : Port → A → BitVec 32

abbrev Ipv4 := BitVec 32
abbrev Ipv6 := Vector UInt8 16

instance : InetAddr Ipv4 where
  any := 0
  spread port addr := port.setWidth 32 ^^^ addr

instance : InetAddr Ipv6 where
  any := Vector.replicate 16 0
  spread port addr := addr.foldl (fun h b => h * 33 + b.toBitVec.setWidth 32) (port.setWidth 32)

structure TupleKey (A : Type) where
  saddr : A
  sport : Port
  daddr : A
  dport : Port
deriving DecidableEq

structure Sock (A P : Type) where
  sip : A
  sport : Port
  dip : A
  dport : Port
  reuseport : Bool := false
  owner : Worker := 0
  tupleEntry : Option (TupleKey A) := none
  pcb : P

def tupleKeyFromSocket {A P : Type} (s : Sock A P) : TupleKey A := ⟨s.sip, s.sport, s.dip, s.dport⟩

structure TupleEntry where
  sockets : SockId
  next : List SockId := []
deriving DecidableEq

def TupleEntry.members (e : TupleEntry) : List SockId := e.sockets :: e.next

structure Stack (A P : Type) where
  socks : SockId → Sock A P
  tuples : AList fun _ : TupleKey A => TupleEntry
  fresh : SockId

variable {A P : Type} [DecidableEq A]

def Stack.owner (st : Stack A P) (i : SockId) : Worker := (st.socks i).owner

def Stack.set (st : Stack A P) (i : SockId) (s : Sock A P) : Stack A P :=
  { st with socks := Function.update st.socks i s }

def Sock.linkTo (s : Sock A P) (k : Option (TupleKey A)) : Sock A P := { s with tupleEntry := k }

def Stack.link (st : Stack A P) (i : SockId) (k : Option (TupleKey A)) : Stack A P :=
  st.set i ((st.socks i).linkTo k)

def removeMember (st : Stack A P) (k : TupleKey A) (e : TupleEntry) (i : SockId) : Stack A P :=
  if e.sockets = i then
    match e.next with
    | [] => { st with tuples := st.tuples.erase k }
    | j :: js => { st with tuples := st.tuples.insert k { sockets := j, next := js } }
  else { st with tuples := st.tuples.insert k { e with next := e.next.erase i } }

def uninstallTuple (st : Stack A P) (i : SockId) : Stack A P × Bool :=
  match (st.socks i).tupleEntry with
  | none => (st, true)
  | some k =>
    match st.tuples.lookup k with
    | none => (st, false)
    | some e => if i ∈ e.members then ((removeMember st k e i).link i none, true) else (st, false)

def joinWalk (st : Stack A P) (i : SockId) : List SockId → Option Bool
  | [] => some false
  | j :: js =>
    if !(st.socks j).reuseport then none
    else if j = i then some true
    else joinWalk st i js

def joinGroup [InetAddr A] (st : Stack A P) (i : SockId) (k : TupleKey A) (e : TupleEntry) :
    Stack A P × Bool :=
  if (st.socks i).dip ≠ InetAddr.any then (st, false)
  else if !(st.socks i).reuseport then (st, false)
  else
    match joinWalk st i e.members with
    | none => (st, false)
    | some true => (st.link i (some k), true)
    | some false =>
      ({ st with tuples := st.tuples.insert k { e with next := i :: e.next } }.link i (some k), true)

def installTuple [InetAddr A] (st : Stack A P) (i : SockId) (alloc : Bool) : Stack A P × Bool :=
  match uninstallTuple st i with
  | (st, false) => (st, false)
  | (st, true) =>
    let k := tupleKeyFromSocket (st.socks i)
    match st.tuples.lookup k with
    | some e => joinGroup st i k e
    | none =>
      if alloc then ({ st with tuples := st.tuples.insert k { sockets := i } }.link i (some k), true)
      else (st, false)

def searchSocketByTuple (st : Stack A P) (saddr : A) (sport : Port) (daddr : A) (dport : Port) :
    Option TupleEntry :=
  st.tuples.lookup ⟨saddr, sport, daddr, dport⟩

/-! `socket_select`. -/

def walkTo : SockId → List SockId → ℕ → SockId
  | aim, [], _ => aim
  | aim, _ :: _, 0 => aim
  | _, n :: ns, k + 1 => walkTo n ns k

def socketSelect (e : TupleEntry) (hash : BitVec 32) : SockId :=
  if e.next.length + 1 ≤ 1 then e.sockets
  else walkTo e.sockets e.next (hash.toNat % (e.next.length + 1))

lemma walkTo_eq (aim : SockId) (ns : List SockId) (k : ℕ) (h : k < (aim :: ns).length) :
    walkTo aim ns k = (aim :: ns)[k] := by
  induction ns generalizing aim k with
  | nil =>
    obtain rfl : k = 0 := by simpa using h
    rfl
  | cons n ns ih =>
    cases k with
    | zero => rfl
    | succ k => exact ih n k (by simpa using h)

def TupleEntry.index (e : TupleEntry) (hash : BitVec 32) : Fin e.members.length :=
  ⟨hash.toNat % e.members.length, Nat.mod_lt _ (Nat.succ_pos _)⟩

lemma socketSelect_eq (e : TupleEntry) (hash : BitVec 32) : socketSelect e hash = e.members.get (e.index hash) := by
  rw [socketSelect]
  split
  · rename_i h
    have hn : e.next = [] := List.length_eq_zero_iff.mp (by omega)
    simp [TupleEntry.index, TupleEntry.members, hn, Nat.mod_one]
  · exact walkTo_eq _ _ _ (Nat.mod_lt _ (Nat.succ_pos _))

def Stack.group (st : Stack A P) (k : TupleKey A) : List SockId :=
  (st.tuples.lookup k).elim [] TupleEntry.members

variable {k : TupleKey A} {e : TupleEntry} {st : Stack A P} {i : SockId}

lemma group_of_lookup (h : st.tuples.lookup k = some e) : st.group k = e.members := by
  rw [Stack.group, h, Option.elim_some]

lemma lookup_of_group (h : i ∈ st.group k) : ∃ e, st.tuples.lookup k = some e ∧ st.group k = e.members := by
  cases he : st.tuples.lookup k with
  | none => simp [Stack.group, he] at h
  | some e => exact ⟨e, rfl, group_of_lookup he⟩

lemma group_insert (st : Stack A P) (k : TupleKey A) (e : TupleEntry) :
    { st with tuples := st.tuples.insert k e }.group = Function.update st.group k e.members := by
  funext k'
  rcases eq_or_ne k' k with rfl | hk
  · rw [Function.update_self, Stack.group, AList.lookup_insert, Option.elim_some]
  · rw [Function.update_of_ne hk, Stack.group, AList.lookup_insert_ne hk, Stack.group]

lemma group_erase (st : Stack A P) (k : TupleKey A) :
    { st with tuples := st.tuples.erase k }.group = Function.update st.group k [] := by
  funext k'
  rcases eq_or_ne k' k with rfl | hk
  · rw [Function.update_self, Stack.group, AList.lookup_erase, Option.elim_none]
  · rw [Function.update_of_ne hk, Stack.group, AList.lookup_erase_ne hk, Stack.group]

lemma removeMember_socks (st : Stack A P) (k : TupleKey A) (e : TupleEntry) (i : SockId) :
    (removeMember st k e i).socks = st.socks ∧ (removeMember st k e i).fresh = st.fresh := by
  rw [removeMember]
  split
  · split <;> exact ⟨rfl, rfl⟩
  · exact ⟨rfl, rfl⟩

lemma removeMember_group (st : Stack A P) (k : TupleKey A) (e : TupleEntry) (i : SockId) :
    (removeMember st k e i).group = Function.update st.group k (e.members.erase i) := by
  rw [removeMember]
  split
  · rename_i h
    subst h
    rw [TupleEntry.members, List.erase_cons_head]
    cases hn : e.next with
    | nil => exact group_erase st k
    | cons j js => exact group_insert st k _
  · rename_i h
    rw [group_insert, TupleEntry.members, TupleEntry.members, List.erase_cons_tail (by simpa using h)]

omit [DecidableEq A] in
lemma joinWalk_eq (st : Stack A P) {i : SockId} {js : List SockId} (h : i ∉ js) :
    joinWalk st i js = if ∀ j ∈ js, (st.socks j).reuseport then some false else none := by
  induction js with
  | nil => simp [joinWalk]
  | cons j js ih =>
    obtain ⟨hj, hjs⟩ := not_or.mp (mt List.mem_cons.mpr h)
    simp only [joinWalk, ih hjs, List.forall_mem_cons, Ne.symm hj, if_false]
    cases hr : (st.socks j).reuseport <;> simp

structure Valid (st : Stack A P) : Prop where
  linked : ∀ k i, i ∈ st.group k ↔ (st.socks i).tupleEntry = some k
  own : ∀ {k i}, (st.socks i).tupleEntry = some k → tupleKeyFromSocket (st.socks i) = k
  nodup : ∀ k, (st.group k).Nodup
  fresh : ∀ {k i}, i ∈ st.group k → i < st.fresh

lemma Valid.not_fresh (hv : Valid st) (k : TupleKey A) : st.fresh ∉ st.group k :=
  fun h => lt_irrefl _ (hv.fresh h)

lemma valid_empty (socks : SockId → Sock A P) (h : ∀ i, (socks i).tupleEntry = none) (n : SockId) :
    Valid { socks, tuples := ∅, fresh := n } where
  linked k i := by simp [Stack.group, h]
  own hk := by simp [h] at hk
  nodup k := List.nodup_nil
  fresh hk := by simp [Stack.group] at hk

omit [DecidableEq A] in
lemma link_socks (st : Stack A P) (i j : SockId) (k : Option (TupleKey A)) :
    (st.link i k).socks j = if j = i then (st.socks j).linkTo k else st.socks j := by
  rcases eq_or_ne j i with rfl | hj
  · rw [if_pos rfl]
    exact Function.update_self ..
  · rw [if_neg hj]
    exact Function.update_of_ne hj ..

omit [DecidableEq A] in
lemma tupleKeyFromSocket_link (st : Stack A P) (i j : SockId) (k : Option (TupleKey A)) :
    tupleKeyFromSocket ((st.link i k).socks j) = tupleKeyFromSocket (st.socks j) := by
  rw [link_socks]
  split <;> rfl

omit [DecidableEq A] in
lemma tupleEntry_link (st : Stack A P) (i j : SockId) (k : Option (TupleKey A)) :
    ((st.link i k).socks j).tupleEntry = if j = i then k else (st.socks j).tupleEntry := by
  rw [link_socks]
  split <;> rfl

structure Tied (st : Stack A P) : Prop where
  linked : ∀ k i, i ∈ st.group k ↔ (st.socks i).tupleEntry = some k
  nodup : ∀ k, (st.group k).Nodup

lemma Valid.tied (hv : Valid st) : Tied st := ⟨hv.linked, hv.nodup⟩

lemma Tied.unlinked (ht : Tied st) (hi : (st.socks i).tupleEntry = none) (k : TupleKey A) : i ∉ st.group k := by
  intro h
  rw [(ht.linked k i).mp h] at hi
  exact Option.some_ne_none k hi

omit [DecidableEq A] in
lemma link_self (st : Stack A P) {i : SockId} {k : Option (TupleKey A)} (h : (st.socks i).tupleEntry = k) :
    st.link i k = st := by
  have hs : (st.socks i).linkTo k = st.socks i := by rw [← h, Sock.linkTo]
  rw [Stack.link, Stack.set, hs, Function.update_eq_self]

-- Uninstalling never fails on a tied table, and takes the socket out of the one group it is in.
lemma uninstallTuple_tied (ht : Tied st) (i : SockId) :
    ∃ st', uninstallTuple st i = (st', true) ∧ Tied st' ∧ st'.socks = (st.link i none).socks ∧
      st'.fresh = st.fresh ∧ ∀ k, st'.group k = (st.group k).erase i := by
  cases hk : (st.socks i).tupleEntry with
  | none =>
    refine ⟨st, by rw [uninstallTuple, hk], ht, by rw [link_self st hk], rfl, fun k => ?_⟩
    rw [List.erase_of_not_mem (ht.unlinked hk k)]
  | some k =>
    have hi := (ht.linked k i).mpr hk
    obtain ⟨e, he, hg⟩ := lookup_of_group hi
    have hst : uninstallTuple st i = ((removeMember st k e i).link i none, true) := by
      rw [uninstallTuple, hk]
      simp only [he]
      rw [if_pos (hg ▸ hi)]
    have hgr : ∀ k', ((removeMember st k e i).link i none).group k' = (st.group k').erase i := by
      intro k'
      rw [show ((removeMember st k e i).link i none).group = (removeMember st k e i).group from rfl,
        removeMember_group]
      rcases eq_or_ne k' k with rfl | hk'
      · rw [Function.update_self, hg]
      · rw [Function.update_of_ne hk', List.erase_of_not_mem]
        intro h
        have := (ht.linked k' i).mp h
        rw [hk] at this
        exact hk' (Option.some.inj this).symm
    obtain ⟨hs, hf⟩ := removeMember_socks st k e i
    refine ⟨_, hst, ⟨fun k' j => ?_, fun k' => ?_⟩, ?_, hf, hgr⟩
    · rw [hgr, tupleEntry_link, hs, (ht.nodup k').mem_erase_iff, ht.linked]
      by_cases hj : j = i <;> simp [hj]
    · rw [hgr]
      exact (ht.nodup k').erase i
    · rw [Stack.link, Stack.link, hs]
      exact congrArg (Function.update · i _) hs

lemma uninstallTuple_spec (hv : Valid st) (i : SockId) :
    ∃ st', uninstallTuple st i = (st', true) ∧ Valid st' ∧ (st'.socks i).tupleEntry = none ∧
      st'.fresh = st.fresh ∧ (∀ k, st'.group k = (st.group k).erase i) ∧
      ∀ j, tupleKeyFromSocket (st'.socks j) = tupleKeyFromSocket (st.socks j) := by
  obtain ⟨st', hst, ht, hs, hf, hg⟩ := uninstallTuple_tied hv.tied i
  have hkey : ∀ j, tupleKeyFromSocket (st'.socks j) = tupleKeyFromSocket (st.socks j) := by
    intro j
    rw [hs, tupleKeyFromSocket_link]
  refine ⟨st', hst, ⟨ht.linked, fun {k j} h => ?_, ht.nodup, fun {k j} h => ?_⟩, ?_, hf, hg, hkey⟩
  · rw [hkey]
    rw [hs, tupleEntry_link] at h
    split at h
    · exact absurd h (by simp)
    · exact hv.own h
  · rw [hg] at h
    exact hf ▸ hv.fresh (List.mem_of_mem_erase h)
  · rw [hs, tupleEntry_link, if_pos rfl]

lemma Valid.unlinked (hv : Valid st) (hi : (st.socks i).tupleEntry = none) (k : TupleKey A) : i ∉ st.group k :=
  hv.tied.unlinked hi k

/-! `install_tuple`. -/

def joined (st : Stack A P) (i : SockId) (k : TupleKey A) (e : TupleEntry) : Stack A P :=
  { st with tuples := st.tuples.insert k { e with next := i :: e.next } }.link i (some k)

def founded (st : Stack A P) (i : SockId) (k : TupleKey A) : Stack A P :=
  { st with tuples := st.tuples.insert k { sockets := i } }.link i (some k)

lemma joined_group (st : Stack A P) (i : SockId) (k : TupleKey A) (e : TupleEntry) :
    (joined st i k e).group = Function.update st.group k (e.sockets :: i :: e.next) :=
  group_insert st k _

lemma founded_group (st : Stack A P) (i : SockId) (k : TupleKey A) :
    (founded st i k).group = Function.update st.group k [i] :=
  group_insert st k _

-- a socket in no group enters the group of its own addresses
lemma Tied.adopt {st st₁ : Stack A P} (ht : Tied st) (hi : (st.socks i).tupleEntry = none)
    {k₀ : TupleKey A} {g : List SockId} (hs : st₁.socks = st.socks)
    (hg : st₁.group = Function.update st.group k₀ g) (hp : g.Perm (i :: st.group k₀)) :
    Tied (st₁.link i (some k₀)) := by
  refine ⟨fun k j => ?_, fun k => ?_⟩
  · change j ∈ st₁.group k ↔ _
    rw [hg, tupleEntry_link, hs]
    rcases eq_or_ne k k₀ with rfl | hk
    · rw [Function.update_self, hp.mem_iff, List.mem_cons, ht.linked]
      rcases eq_or_ne j i with rfl | hj <;> simp [*]
    · rw [Function.update_of_ne hk, ht.linked]
      rcases eq_or_ne j i with rfl | hj
      · simp [hi, hk.symm]
      · simp [hj]
  · change (st₁.group k).Nodup
    rw [hg]
    rcases eq_or_ne k k₀ with rfl | hk
    · rw [Function.update_self, hp.nodup_iff]
      exact List.nodup_cons.mpr ⟨ht.unlinked hi _, ht.nodup _⟩
    · rw [Function.update_of_ne hk]
      exact ht.nodup k

lemma Valid.adopt {st st₁ : Stack A P} (hv : Valid st) (hi : (st.socks i).tupleEntry = none)
    (hf : i < st.fresh) {g : List SockId} (hs : st₁.socks = st.socks) (hn : st₁.fresh = st.fresh)
    (hg : st₁.group = Function.update st.group (tupleKeyFromSocket (st.socks i)) g)
    (hp : g.Perm (i :: st.group (tupleKeyFromSocket (st.socks i)))) :
    Valid (st₁.link i (some (tupleKeyFromSocket (st.socks i)))) := by
  have ht := hv.tied.adopt hi hs hg hp
  refine ⟨ht.linked, fun {k j} h => ?_, ht.nodup, fun {k j} h => ?_⟩
  · rw [tupleKeyFromSocket_link, hs]
    rw [tupleEntry_link, hs] at h
    split at h
    · rename_i hj
      rw [hj, ← Option.some.inj h]
    · exact hv.own h
  · change j < st₁.fresh
    have hl := (ht.linked k j).mp h
    rw [tupleEntry_link, hs] at hl
    rw [hn]
    split at hl
    · next hj => exact hj ▸ hf
    · exact hv.fresh ((hv.linked k j).mpr hl)

section Install

variable [InetAddr A]

def joinable (st : Stack A P) (i : SockId) (e : TupleEntry) : Prop :=
  (st.socks i).dip = InetAddr.any ∧ (st.socks i).reuseport ∧ ∀ j ∈ e.members, (st.socks j).reuseport

lemma joinGroup_pos (hm : i ∉ e.members) (h : joinable st i e) : joinGroup st i k e = (joined st i k e, true) := by
  obtain ⟨hd, hr, ha⟩ := h
  rw [joinGroup, if_neg (not_not_intro hd), if_neg (by simpa using hr), joinWalk_eq st hm, if_pos ha]
  rfl

lemma joinGroup_neg (hm : i ∉ e.members) (h : ¬joinable st i e) : joinGroup st i k e = (st, false) := by
  rw [joinGroup]
  split
  · rfl
  split
  · rfl
  rename_i hd hr
  rw [joinWalk_eq st hm, if_neg]
  intro ha
  exact h ⟨not_not.mp hd, by simpa using hr, ha⟩

lemma installTuple_occupied (hi : (st.socks i).tupleEntry = none) (alloc : Bool)
    (he : st.tuples.lookup (tupleKeyFromSocket (st.socks i)) = some e) :
    installTuple st i alloc = joinGroup st i (tupleKeyFromSocket (st.socks i)) e := by
  simp only [installTuple, uninstallTuple, hi, he]

lemma installTuple_vacant (hi : (st.socks i).tupleEntry = none) (alloc : Bool)
    (he : st.tuples.lookup (tupleKeyFromSocket (st.socks i)) = none) :
    installTuple st i alloc =
      if alloc then (founded st i (tupleKeyFromSocket (st.socks i)), true) else (st, false) := by
  simp only [installTuple, uninstallTuple, hi, he, founded]

lemma installTuple_unlinked (hv : Valid st) (hi : (st.socks i).tupleEntry = none) (hf : i < st.fresh)
    (alloc : Bool) : Valid (installTuple st i alloc).1 := by
  cases he : st.tuples.lookup (tupleKeyFromSocket (st.socks i)) with
  | none =>
    rw [installTuple_vacant hi alloc he]
    cases alloc with
    | false => exact hv
    | true =>
      refine hv.adopt hi hf rfl rfl (group_insert st _ _) ?_
      simp [Stack.group, he, TupleEntry.members]
  | some e =>
    have hm : i ∉ e.members := group_of_lookup he ▸ hv.unlinked hi _
    rw [installTuple_occupied hi alloc he]
    by_cases h : joinable st i e
    · rw [joinGroup_pos hm h]
      refine hv.adopt hi hf rfl rfl (group_insert st _ _) ?_
      rw [group_of_lookup he]
      exact List.Perm.swap ..
    · rw [joinGroup_neg hm h]
      exact hv

lemma installTuple_valid (hv : Valid st) (hf : i < st.fresh) (alloc : Bool) : Valid (installTuple st i alloc).1 := by
  obtain ⟨st₁, h₁, hv₁, hi, hn, -, -⟩ := uninstallTuple_spec hv i
  have he : installTuple st i alloc = installTuple st₁ i alloc := by
    rw [installTuple, installTuple, h₁, uninstallTuple, hi]
  rw [he]
  exact installTuple_unlinked hv₁ hi (hn ▸ hf) alloc

end Install

end Netfast.Socket
