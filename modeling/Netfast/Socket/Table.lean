import Netfast.Lib.Run
import Netfast.Socket.Tuple

/-! The tuple table over whole runs: it is a map from sockets to the tuples they are installed under. -/

namespace Netfast.Socket

open Run

variable {A P : Type} [DecidableEq A]

def Stack.installed (st : Stack A P) (i : SockId) : Option (TupleKey A) := (st.socks i).tupleEntry

def Admits [InetAddr A] (st : Stack A P) (i : SockId) (alloc : Bool) : Prop :=
  let others := fun j => j ≠ i ∧ st.installed j = some (tupleKeyFromSocket (st.socks i))
  ((∃ j, others j) → (st.socks i).dip = InetAddr.any ∧ (st.socks i).reuseport = true ∧
    ∀ j, others j → (st.socks j).reuseport = true) ∧ ((¬ ∃ j, others j) → alloc = true)

omit [DecidableEq A] in
lemma installed_link (st : Stack A P) (i : SockId) (k : Option (TupleKey A)) :
    (st.link i k).installed = Function.update st.installed i k := by
  funext j
  rw [Stack.installed, tupleEntry_link]
  rcases eq_or_ne j i with rfl | hj
  · rw [if_pos rfl, Function.update_self]
  · rw [if_neg hj, Function.update_of_ne hj, Stack.installed]

omit [DecidableEq A] in
lemma installed_congr {st st' : Stack A P} (h : st'.socks = st.socks) : st'.installed = st.installed := by
  funext i
  rw [Stack.installed, h, Stack.installed]

variable {alloc : Bool}

section Steps

variable {st : Stack A P}

lemma lookup_eq_none {k : TupleKey A} : st.tuples.lookup k = none ↔ ∀ j, j ∉ st.group k := by
  constructor
  · intro h j
    simp [Stack.group, h]
  · intro h
    cases he : st.tuples.lookup k with
    | none => rfl
    | some e => exact absurd (by simp [Stack.group, he, TupleEntry.members]) (h e.sockets)

lemma uninstallTuple_map (ht : Tied st) (i : SockId) :
    (uninstallTuple st i).2 = true ∧ Tied (uninstallTuple st i).1 ∧
      (uninstallTuple st i).1.installed = Function.update st.installed i none := by
  obtain ⟨st', hst, ht', hs, -, -⟩ := uninstallTuple_tied ht i
  rw [hst]
  exact ⟨rfl, ht', by rw [installed_congr hs, installed_link]⟩

structure Left (st st' : Stack A P) (i : SockId) : Prop where
  tied : Tied st'
  link : st'.socks = (st.link i none).socks
  group : ∀ k, st'.group k = (st.group k).erase i

namespace Left

variable {st' : Stack A P} {i : SockId}

lemma unlinked (h : Left st st' i) : (st'.socks i).tupleEntry = none := by
  rw [h.link, tupleEntry_link, if_pos rfl]

lemma key (h : Left st st' i) : tupleKeyFromSocket (st'.socks i) = tupleKeyFromSocket (st.socks i) := by
  rw [h.link, tupleKeyFromSocket_link]

lemma installed (h : Left st st' i) : st'.installed = Function.update st.installed i none := by
  rw [installed_congr h.link, installed_link]

lemma mem (h : Left st st' i) (ht : Tied st) (k : TupleKey A) (j : SockId) :
    j ∈ st'.group k ↔ j ≠ i ∧ st.installed j = some k := by
  rw [h.group, (ht.nodup k).mem_erase_iff, ht.linked, Stack.installed]

lemma fields (h : Left st st' i) (j : SockId) :
    (st'.socks j).reuseport = (st.socks j).reuseport ∧ (st'.socks j).dip = (st.socks j).dip := by
  rw [h.link, link_socks]
  split <;> exact ⟨rfl, rfl⟩

variable [InetAddr A]

lemma admits_vacant (h : Left st st' i) (ht : Tied st)
    (he : st'.tuples.lookup (tupleKeyFromSocket (st'.socks i)) = none) : Admits st i alloc ↔ alloc = true := by
  have hnone : ¬ ∃ j, j ≠ i ∧ st.installed j = some (tupleKeyFromSocket (st.socks i)) := by
    rintro ⟨j, hj⟩
    rw [h.key] at he
    exact lookup_eq_none.mp he j ((h.mem ht _ j).mpr hj)
  exact ⟨fun ha => ha.2 hnone, fun ha => ⟨fun hs => absurd hs hnone, fun _ => ha⟩⟩

lemma admits_occupied (h : Left st st' i) (ht : Tied st) {e : TupleEntry}
    (he : st'.tuples.lookup (tupleKeyFromSocket (st'.socks i)) = some e) :
    Admits st i alloc ↔ joinable st' i e := by
  have hmem := h.mem ht (tupleKeyFromSocket (st.socks i))
  rw [← h.key, group_of_lookup he, h.key] at hmem
  have hsome : ∃ j, j ≠ i ∧ st.installed j = some (tupleKeyFromSocket (st.socks i)) :=
    ⟨e.sockets, (hmem e.sockets).mp (by simp [TupleEntry.members])⟩
  simp only [joinable, h.fields, hmem]
  exact ⟨fun ha => ha.1 hsome, fun ha => ⟨fun _ => ha, fun hn => absurd hsome hn⟩⟩

end Left

variable [InetAddr A]

lemma installTuple_uninstalled {st' : Stack A P} {i : SockId} (alloc : Bool)
    (h : uninstallTuple st i = (st', true)) (hi : (st'.socks i).tupleEntry = none) :
    installTuple st i alloc = installTuple st' i alloc := by
  rw [installTuple, installTuple, h, uninstallTuple, hi]

lemma installTuple_admits (ht : Tied st) (i : SockId) (alloc : Bool) :
    (Admits st i alloc → (installTuple st i alloc).2 = true ∧ Tied (installTuple st i alloc).1 ∧
      (installTuple st i alloc).1.installed =
        Function.update st.installed i (some (tupleKeyFromSocket (st.socks i)))) ∧
    (¬ Admits st i alloc → (installTuple st i alloc).2 = false ∧ Tied (installTuple st i alloc).1 ∧
      (installTuple st i alloc).1.installed = Function.update st.installed i none) := by
  obtain ⟨st', hst, ht', hs, -, hg⟩ := uninstallTuple_tied ht i
  have hl : Left st st' i := ⟨ht', hs, hg⟩
  have hentered : ∀ t, ({ st' with tuples := t }.link i (some (tupleKeyFromSocket (st'.socks i)))).installed =
      Function.update st.installed i (some (tupleKeyFromSocket (st.socks i))) := by
    intro t
    have hsocks : { st' with tuples := t }.installed = st'.installed := rfl
    rw [installed_link, hsocks, hl.installed, Function.update_idem, hl.key]
  rw [installTuple_uninstalled alloc hst hl.unlinked]
  cases he : st'.tuples.lookup (tupleKeyFromSocket (st'.socks i)) with
  | none =>
    rw [installTuple_vacant hl.unlinked alloc he, hl.admits_vacant ht he]
    cases alloc with
    | false => exact ⟨fun h => absurd h (by simp), fun _ => ⟨rfl, ht', hl.installed⟩⟩
    | true =>
      refine ⟨fun _ => ⟨rfl, ?_, hentered _⟩, fun h => absurd rfl h⟩
      refine ht'.adopt hl.unlinked rfl (group_insert st' _ _) ?_
      simp [Stack.group, he, TupleEntry.members]
  | some e =>
    have hge := group_of_lookup he
    have hm : i ∉ e.members := hge ▸ ht'.unlinked hl.unlinked _
    rw [installTuple_occupied hl.unlinked alloc he, hl.admits_occupied ht he]
    constructor
    · intro h
      rw [joinGroup_pos hm h]
      refine ⟨rfl, ht'.adopt hl.unlinked rfl (group_insert st' _ _) ?_, hentered _⟩
      rw [hge]
      exact List.Perm.swap ..
    · intro h
      rw [joinGroup_neg hm h]
      exact ⟨rfl, ht', hl.installed⟩

lemma joinGroup_link (i : SockId) (k : TupleKey A) (e : TupleEntry) :
    (joinGroup st i k e).1.socks = st.socks ∨ (joinGroup st i k e).1.socks = (st.link i (some k)).socks := by
  rw [joinGroup]
  split
  · exact .inl rfl
  split
  · exact .inl rfl
  split
  · exact .inl rfl
  · exact .inr rfl
  · exact .inr rfl

lemma installTuple_link (hi : (st.socks i).tupleEntry = none) (alloc : Bool) :
    (installTuple st i alloc).1.socks = st.socks ∨ ∃ k, (installTuple st i alloc).1.socks = (st.link i (some k)).socks := by
  cases he : st.tuples.lookup (tupleKeyFromSocket (st.socks i)) with
  | none =>
    rw [installTuple_vacant hi alloc he]
    cases alloc with
    | false => exact .inl rfl
    | true => exact .inr ⟨_, rfl⟩
  | some e =>
    rw [installTuple_occupied hi alloc he]
    exact (joinGroup_link i _ e).imp_right fun h => ⟨_, h⟩

lemma installTuple_socks (ht : Tied st) (i : SockId) (alloc : Bool) :
    (installTuple st i alloc).1.socks = (st.link i ((installTuple st i alloc).1.installed i)).socks := by
  obtain ⟨st', hst, ht', hs, -, hg⟩ := uninstallTuple_tied ht i
  have hl : Left st st' i := ⟨ht', hs, hg⟩
  -- whichever way it ends, the socket is linked to some entry or to none
  have hlink : ∃ k, (installTuple st i alloc).1.socks = (st.link i k).socks := by
    rw [installTuple_uninstalled alloc hst hl.unlinked]
    rcases installTuple_link hl.unlinked alloc with h | ⟨k, h⟩
    · exact ⟨none, h.trans hs⟩
    · refine ⟨some k, h.trans ?_⟩
      simp only [Stack.link, Stack.set, hs, Function.update_self, Function.update_idem, Sock.linkTo]
  obtain ⟨k, hk⟩ := hlink
  have hi : (installTuple st i alloc).1.installed i = k := by
    rw [Stack.installed, hk, tupleEntry_link, if_pos rfl]
  rw [hi, hk]

end Steps

inductive TableEvent (A P : Type)
  | change (i : SockId) (s : Sock A P)
  | install (i : SockId) (alloc : Bool)
  | uninstall (i : SockId)

variable [InetAddr A]

def tableStep (st : Stack A P) : TableEvent A P → Stack A P
  | .change i s => st.set i (s.linkTo (st.installed i))
  | .install i alloc => (installTuple st i alloc).1
  | .uninstall i => (uninstallTuple st i).1

omit [DecidableEq A] [InetAddr A] in
lemma installed_set (st : Stack A P) (i : SockId) (s : Sock A P) :
    (st.set i (s.linkTo (st.installed i))).installed = st.installed := by
  funext j
  rcases eq_or_ne j i with rfl | hj
  · simp [Stack.installed, Stack.set, Sock.linkTo]
  · simp [Stack.installed, Stack.set, Function.update_of_ne hj]

def SharedPeerless (st : Stack A P) : Prop :=
  ∀ k i j, i ≠ j → st.installed i = some k → st.installed j = some k → k.daddr = InetAddr.any

omit [DecidableEq A] in
lemma SharedPeerless.clear {st st' : Stack A P} (h : SharedPeerless st) {i : SockId}
    (he : st'.installed = Function.update st.installed i none) : SharedPeerless st' := by
  have hsub : ∀ j k, st'.installed j = some k → st.installed j = some k := by
    intro j k hj
    rw [he] at hj
    rcases eq_or_ne j i with rfl | hne
    · simp at hj
    · rwa [Function.update_of_ne hne] at hj
  intro k a b hab ha hb
  exact h k a b hab (hsub a k ha) (hsub b k hb)

omit [DecidableEq A] in
lemma SharedPeerless.admit {st st' : Stack A P} (h : SharedPeerless st) {i : SockId} (hadm : Admits st i alloc)
    (he : st'.installed = Function.update st.installed i (some (tupleKeyFromSocket (st.socks i)))) :
    SharedPeerless st' := by
  -- the newcomer shares its tuple only if it has no peer, and then the tuple has none
  have hnew : ∀ k j, j ≠ i → st'.installed i = some k → st'.installed j = some k → k.daddr = InetAddr.any := by
    intro k j hj hi hjk
    rw [he, Function.update_self] at hi
    rw [he, Function.update_of_ne hj, ← hi] at hjk
    rw [← Option.some.inj hi]
    exact (hadm.1 ⟨j, hj, hjk⟩).1
  intro k a b hab ha hb
  by_cases hai : a = i
  · exact hnew k b (fun hb' => hab (hai.trans hb'.symm)) (hai ▸ ha) hb
  by_cases hbi : b = i
  · exact hnew k a hai (hbi ▸ hb) ha
  · rw [he, Function.update_of_ne hai] at ha
    rw [he, Function.update_of_ne hbi] at hb
    exact h k a b hab ha hb

def TableInv (st : Stack A P) : Prop := Tied st ∧ SharedPeerless st

lemma tableStep_inv (st : Stack A P) (e : TableEvent A P) (h : TableInv st) : TableInv (tableStep st e) := by
  obtain ⟨ht, hp⟩ := h
  cases e with
  | change i s =>
    have hi := installed_set st i s
    refine ⟨⟨fun k j => ?_, ht.nodup⟩, fun k a b hab ha hb => ?_⟩
    · change j ∈ st.group k ↔ (st.set i (s.linkTo (st.installed i))).installed j = some k
      rw [hi]
      exact ht.linked k j
    · rw [tableStep, hi] at ha hb
      exact hp k a b hab ha hb
  | install i alloc =>
    obtain ⟨hyes, hno⟩ := installTuple_admits ht i alloc
    by_cases hadm : Admits st i alloc
    · exact ⟨(hyes hadm).2.1, hp.admit hadm (hyes hadm).2.2⟩
    · exact ⟨(hno hadm).2.1, hp.clear (hno hadm).2.2⟩
  | uninstall i =>
    obtain ⟨-, ht', he⟩ := uninstallTuple_map ht i
    exact ⟨ht', hp.clear he⟩

/-- What the table is for: lookups, groups and the two calls as operations on the map of installed
tuples. -/
structure TableRefines (st : Stack A P) : Prop where
  lookup : ∀ saddr sport daddr dport, (searchSocketByTuple st saddr sport daddr dport).isSome ↔
    ∃ i, st.installed i = some ⟨saddr, sport, daddr, dport⟩
  group : ∀ saddr sport daddr dport e, searchSocketByTuple st saddr sport daddr dport = some e →
    e.members.Nodup ∧ ∀ i, i ∈ e.members ↔ st.installed i = some ⟨saddr, sport, daddr, dport⟩
  install : ∀ i alloc, Admits st i alloc → (installTuple st i alloc).2 = true ∧
    (installTuple st i alloc).1.installed =
      Function.update st.installed i (some (tupleKeyFromSocket (st.socks i)))
  refuse : ∀ i alloc, ¬ Admits st i alloc → (installTuple st i alloc).2 = false ∧
    (installTuple st i alloc).1.installed = Function.update st.installed i none
  uninstall : ∀ i, (uninstallTuple st i).2 = true ∧
    (uninstallTuple st i).1.installed = Function.update st.installed i none
  shared : SharedPeerless st

lemma TableInv.refines {st : Stack A P} (h : TableInv st) : TableRefines st where
  lookup saddr sport daddr dport := by
    rw [searchSocketByTuple, ← not_iff_not, Bool.not_eq_true, Option.isSome_eq_false_iff, Option.isNone_iff_eq_none,
      lookup_eq_none, not_exists]
    exact forall_congr' fun i => not_congr (h.1.linked _ i)
  group saddr sport daddr dport e he := by
    have hg := group_of_lookup he
    refine ⟨hg ▸ h.1.nodup _, fun i => ?_⟩
    rw [← hg]
    exact h.1.linked _ i
  install i alloc hadm := by
    obtain ⟨hr, -, he⟩ := (installTuple_admits h.1 i alloc).1 hadm
    exact ⟨hr, he⟩
  refuse i alloc hadm := by
    obtain ⟨hr, -, he⟩ := (installTuple_admits h.1 i alloc).2 hadm
    exact ⟨hr, he⟩
  uninstall i := by
    obtain ⟨hr, -, he⟩ := uninstallTuple_map h.1 i
    exact ⟨hr, he⟩
  shared := h.2

def unlinkedStack (socks : SockId → Sock A P) (n : SockId) : Stack A P :=
  { socks := fun i => (socks i).linkTo none, tuples := ∅, fresh := n }

lemma tableInv_unlinked (socks : SockId → Sock A P) (n : SockId) : TableInv (unlinkedStack socks n) := by
  refine ⟨⟨fun k i => ?_, fun k => List.nodup_nil⟩, fun k i j _ hi => ?_⟩
  · simp [Stack.group, unlinkedStack, Sock.linkTo]
  · simp [Stack.installed, unlinkedStack, Sock.linkTo] at hi

theorem tuple_table_refines (socks : SockId → Sock A P) (n : SockId) (es : List (TableEvent A P)) :
    TableRefines (run tableStep (unlinkedStack socks n) es) :=
  (run_always (I := TableInv) tableStep_inv (tableInv_unlinked socks n) es).refines

end Netfast.Socket
