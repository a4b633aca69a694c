import Netfast.Ip.Sound

/-! The references on fragments: taken when a fragment is queued, given back when its bytes have been
chained to the packet or the packet itself has been processed. -/

namespace Netfast.Ip

open Skbuff Ordered Run

def refsOf (gs : List Frag) : List ℕ := gs.map Frag.ref

def linkedIn (qs : List Ipq) : List ℕ := qs.flatMap fun q => refsOf q.frags

def Reasm.linked (st : Reasm) : List ℕ := linkedIn st.queues

structure Worker where
  st : Reasm := {}
  owned : List ℕ := []
deriving DecidableEq

def returned (st : Reasm) : Event → List ℕ
  | .arrive now g f => if st.crashed then [] else ((ipv4Defrag now st g f).2.map Frag.ref).toList
  | _ => []

def serve (w : Worker) : Event → Worker
  | .release ref => if ref ∈ w.owned then { st := step w.st (.release ref), owned := w.owned.erase ref } else w
  | e => { st := step w.st e, owned := returned w.st e ++ w.owned }

/-- The references out are those of the linked fragments and of the packets returned, each once. -/
structure Conserved (w : Worker) : Prop where
  refs : w.st.refs.Perm (w.st.linked ++ w.owned)
  once : w.st.refs.Nodup

def filled (now : ℕ) (st : Reasm) (g : Frag) (f : Fates) : Option (Ipq × Verdict) :=
  if fragInvalid g.skb then none
  else
    match st.openIpq now (ipqKey g.skb.data0) f with
    | none => none
    | some (q, f) => (q.add g).map fun q => (q, q.verdict f)

def abandoned (st : Reasm) : Event → List Frag
  | .arrive now g f =>
    match filled now st g f with
    | some (_, .gaveUp left) => left
    | _ => []
  | .timer now => (st.queues.filter fun q => q.expired now).flatMap Ipq.frags
  | .release _ => []

def taken (st : Reasm) : Event → List ℕ
  | .arrive now g f => if (filled now st g f).isSome then [g.ref] else []
  | _ => []

def putBack (w : Worker) : Event → List ℕ
  | .arrive now g f =>
    match filled now w.st g f with
    | some (q, .gaveUp left) => refsOf (q.ahead left)
    | some (q, .done _ _) => refsOf q.frags.tail
    | _ => []
  | .timer _ => []
  | .release ref => if ref ∈ w.owned then [ref] else []

variable {st : Reasm} {w : Worker} {q q' : Ipq} {g : Frag} {now : ℕ} {f f' : Fates}

def KeysDistinct (st : Reasm) : Prop := (st.queues.map Ipq.key).Nodup

lemma joinLoop_gaveUp {gs left : List Frag} {acc : SkBuff} {expect len : ℕ}
    (h : joinLoop gs acc expect len f = .gaveUp left) : left <:+ gs := by
  induction gs generalizing acc expect len f with
  | nil => cases h
  | cons g gs ih =>
    have hself : gs <:+ g :: gs := List.suffix_cons g gs
    rw [joinLoop] at h
    split at h
    · exact Verdict.gaveUp.inj h ▸ hself
    simp only at h
    split at h
    · exact Verdict.gaveUp.inj h ▸ hself
    split at h
    · exact Verdict.gaveUp.inj h ▸ hself
    split at h
    · cases h
    · exact (ih h).trans hself

lemma verdict_gaveUp {left : List Frag} (h : q.verdict f = .gaveUp left) : q.ahead left ++ left = q.frags := by
  have hsuf : left <:+ q.frags := by
    rw [Ipq.verdict] at h
    split at h
    · split at h
      · exact Verdict.gaveUp.inj h ▸ List.suffix_refl _
      · rw [Ipq.join] at h
        cases hq : q.frags with
        | nil =>
          rw [hq] at h
          exact Verdict.gaveUp.inj h ▸ List.suffix_refl _
        | cons g gs =>
          rw [hq] at h
          exact (joinLoop_gaveUp h).trans (List.suffix_cons g gs)
    · cases h
  obtain ⟨pre, hpre⟩ := hsuf
  rw [Ipq.ahead, ← hpre, List.length_append, Nat.add_sub_cancel, List.take_left]

lemma verdict_done {skb : SkBuff} {n : ℕ} (h : q.verdict f = .done skb n) :
    refsOf q.frags = q.firstRef :: refsOf q.frags.tail := by
  cases hq : q.frags with
  | nil =>
    rw [Ipq.verdict, Ipq.join, hq] at h
    split at h
    · split at h <;> cases h
    · cases h
  | cons g gs => simp [refsOf, Ipq.firstRef, hq]

lemma diff_append_left (xs ys : List ℕ) : (xs ++ ys).diff xs = ys := by
  induction xs with
  | nil => rfl
  | cons x xs ih => rw [List.cons_append, List.diff_cons, List.erase_cons_head, ih]

lemma perm_diff {refs put rest : List ℕ} (h : refs.Perm (put ++ rest)) : (refs.diff put).Perm rest := by
  have hd := h.diff_right put
  rwa [diff_append_left] at hd

lemma linked_split (hk : KeysDistinct st) {k : IpqKey} (ho : st.openIpq now k f = some (q, f')) :
    st.linked.Perm (refsOf q.frags ++ linkedIn (st.queues.filter fun p => p.key ≠ q.key)) := by
  have hqk := openIpq_key ho
  rcases openIpq_cases ho with hs | ⟨hs, rfl⟩
  · have hmem := List.mem_of_find?_eq_some hs
    obtain ⟨pre, post, hsplit⟩ := List.append_of_mem hmem
    have hnd := hk
    rw [KeysDistinct, hsplit, List.map_append, List.map_cons, List.nodup_middle, List.nodup_cons] at hnd
    have hkeep : (pre ++ post).filter (fun r => r.key ≠ q.key) = pre ++ post := by
      refine List.filter_eq_self.mpr fun r hr => ?_
      have hne : r.key ≠ q.key := by
        intro he
        refine hnd.1 ?_
        rw [← he, ← List.map_append]
        exact List.mem_map_of_mem hr
      simpa using hne
    have hfilter : st.queues.filter (fun r => r.key ≠ q.key) = pre ++ post := by
      rw [hsplit, List.filter_append, List.filter_cons_of_neg (by simp), ← List.filter_append, hkeep]
    rw [hfilter, Reasm.linked, hsplit, linkedIn, linkedIn]
    have hperm : (pre ++ q :: post).Perm (q :: (pre ++ post)) := List.perm_middle
    exact (hperm.flatMap_right _).trans (by rw [List.flatMap_cons])
  · have hkeep : st.queues.filter (fun r => r.key ≠ k) = st.queues := by
      refine List.filter_eq_self.mpr fun r hr => ?_
      have hne := List.find?_eq_none.mp hs r hr
      simpa using hne
    rw [hkeep]
    exact .refl _

lemma KeysDistinct.filter (hk : KeysDistinct st) (p : Ipq → Bool) : ((st.queues.filter p).map Ipq.key).Nodup :=
  (List.filter_sublist.map Ipq.key).nodup hk

lemma KeysDistinct.setQueue (hk : KeysDistinct st) (q : Ipq) : KeysDistinct (st.setQueue q) := by
  rw [KeysDistinct, Reasm.setQueue, List.map_cons, List.nodup_cons]
  refine ⟨fun hm => ?_, hk.filter _⟩
  obtain ⟨p, hp, he⟩ := List.mem_map.mp hm
  have hne := (List.mem_filter.mp hp).2
  simp [he] at hne

lemma step_keysDistinct (hk : KeysDistinct st) (e : Event) : KeysDistinct (step st e) := by
  cases e with
  | arrive now g f =>
    rw [step]
    split
    · exact hk
    rw [ipv4Defrag]
    split
    · exact hk
    split
    · exact hk
    next q f₁ ho =>
    split
    · exact hk.setQueue q
    next q' ha =>
    simp only
    split
    · have hk₁ : KeysDistinct { st with refs := g.ref :: st.refs } := hk
      exact hk₁.setQueue q'
    · exact hk.filter _
    · exact hk
    · exact hk.filter _
  | timer now =>
    rw [step]
    split
    · exact hk
    · exact hk.filter _
  | release ref =>
    rw [step]
    split <;> exact hk

structure Settled (w : Worker) (e : Event) : Prop where
  put : (putBack w e).Subperm (taken w.st e ++ w.st.refs)
  refs : (serve w e).st.refs.Perm ((serve w e).st.linked ++ (serve w e).owned ++ refsOf (abandoned w.st e))
  once : (serve w e).st.refs.Nodup

/-- A buffer that arrives is not one that is still referenced. -/
def Fresh (w : Worker) : Event → Prop
  | .arrive _ g _ => g.ref ∉ w.st.refs
  | _ => True

lemma refsOf_insertNew {gs gs' : List Frag} (h : insertNew (fun g : Frag => fragOffset g.skb) g gs = some gs') :
    (refsOf gs').Perm (g.ref :: refsOf gs) :=
  (insertNew_perm h).map Frag.ref

variable {v : Verdict}

lemma filled_some (h : filled now st g f = some (q', v)) :
    ∃ q f', fragInvalid g.skb = false ∧ st.openIpq now (ipqKey g.skb.data0) f = some (q, f') ∧
      q.add g = some q' ∧ v = q'.verdict f' := by
  rw [filled] at h
  split at h
  · cases h
  next hinv =>
  split at h
  · cases h
  next q f' ho =>
  obtain ⟨p, ha, he⟩ := Option.map_eq_some_iff.mp h
  obtain ⟨rfl, rfl⟩ := Prod.mk.inj he
  exact ⟨q, f', by simpa using hinv, ho, ha, rfl⟩

lemma linked_filled (hk : KeysDistinct st) (h : filled now st g f = some (q', v)) :
    (g.ref :: st.linked).Perm (refsOf q'.frags ++ linkedIn (st.queues.filter fun p => p.key ≠ q'.key)) := by
  obtain ⟨q, f', -, ho, ha, -⟩ := filled_some h
  rw [add_key ha]
  exact ((linked_split hk ho).cons g.ref).trans ((refsOf_insertNew (add_frags ha)).symm.append_right _)

lemma ipv4Defrag_unfilled (hk : KeysDistinct st) (h : filled now st g f = none) :
    (ipv4Defrag now st g f).2 = none ∧ (ipv4Defrag now st g f).1.refs = st.refs ∧
      (ipv4Defrag now st g f).1.linked.Perm st.linked := by
  rw [filled] at h
  rw [ipv4Defrag]
  split
  · exact ⟨rfl, rfl, .refl _⟩
  next hinv =>
  rw [if_neg hinv] at h
  split
  · exact ⟨rfl, rfl, .refl _⟩
  next q f' ho =>
  rw [ho] at h
  rw [Option.map_eq_none_iff.mp h]
  exact ⟨rfl, rfl, (linked_split hk ho).symm⟩

def conclude (st : Reasm) (q : Ipq) : Verdict → Reasm × Option Frag
  | .waits => (st.setQueue q, none)
  | .gaveUp left => (st.destroyIpq q (q.ahead left), none)
  | .crash => ({ st with crashed := true }, none)
  | .done skb len => (st.destroyIpq q q.frags.tail, some { ref := q.firstRef, skb := restoreHeader skb len })

lemma ipv4Defrag_filled (h : filled now st g f = some (q, v)) :
    ipv4Defrag now st g f = conclude { st with refs := g.ref :: st.refs } q v := by
  obtain ⟨p, f', hinv, ho, ha, rfl⟩ := filled_some h
  rw [ipv4Defrag, if_neg (by simp [hinv]), ho]
  simp only [ha]
  cases hv : q.verdict f' <;> rfl

lemma settled_gaveUp {left : List Frag} {owned refs rest : List ℕ} (hv : q.ahead left ++ left = q.frags)
    (h : refs.Perm (refsOf q.frags ++ rest ++ owned)) :
    (refsOf (q.ahead left)).Subperm refs ∧ (refs.diff (refsOf (q.ahead left))).Perm (rest ++ owned ++ refsOf left) := by
  have hsplit : refs.Perm (refsOf (q.ahead left) ++ (rest ++ owned ++ refsOf left)) := by
    refine h.trans ?_
    rw [← hv, refsOf, List.map_append, List.append_assoc, List.append_assoc]
    exact List.perm_append_comm.append_left _
  exact ⟨(List.sublist_append_left _ _).subperm.trans hsplit.symm.subperm, perm_diff hsplit⟩

lemma settled_done {owned refs rest : List ℕ} (hv : refsOf q.frags = q.firstRef :: refsOf q.frags.tail)
    (h : refs.Perm (refsOf q.frags ++ rest ++ owned)) :
    (refsOf q.frags.tail).Subperm refs ∧
      (refs.diff (refsOf q.frags.tail)).Perm (rest ++ ([q.firstRef] ++ owned)) := by
  have hsplit : refs.Perm (refsOf q.frags.tail ++ (rest ++ ([q.firstRef] ++ owned))) := by
    refine h.trans ?_
    rw [hv, List.append_assoc, List.cons_append]
    refine List.perm_middle.symm.trans (List.Perm.append_left _ ?_)
    exact List.perm_middle.symm
  exact ⟨(List.sublist_append_left _ _).subperm.trans hsplit.symm.subperm, perm_diff hsplit⟩

lemma serve_arrive (hc : w.st.crashed = false) (now : ℕ) (g : Frag) (f : Fates) :
    serve w (.arrive now g f) = { st := (ipv4Defrag now w.st g f).1
                                  owned := ((ipv4Defrag now w.st g f).2.map Frag.ref).toList ++ w.owned } := by
  simp [serve, step, returned, hc]

lemma serve_arrive_unfilled (hc : w.st.crashed = false) (hk : KeysDistinct w.st) (hw : Conserved w)
    (h : filled now w.st g f = none) : Settled w (.arrive now g f) := by
  obtain ⟨hnone, hrefs, hlinked⟩ := ipv4Defrag_unfilled hk h
  refine ⟨?_, ?_, ?_⟩
  · simp [putBack, h]
  · rw [serve_arrive hc, hnone, hrefs]
    simpa [abandoned, h, refsOf] using hw.refs.trans (hlinked.symm.append_right _)
  · rw [serve_arrive hc, hrefs]
    exact hw.once

lemma serve_arrive_filled (hc : w.st.crashed = false) (hk : KeysDistinct w.st) (hw : Conserved w)
    (hf : Fresh w (.arrive now g f)) (h : filled now w.st g f = some (q, v))
    (hn : (serve w (.arrive now g f)).st.crashed = false) : Settled w (.arrive now g f) := by
  have hnd : (g.ref :: w.st.refs).Nodup := List.nodup_cons.mpr ⟨hf, hw.once⟩
  have hrefs : (g.ref :: w.st.refs).Perm
      (refsOf q.frags ++ linkedIn (w.st.queues.filter fun p => p.key ≠ q.key) ++ w.owned) :=
    (hw.refs.cons g.ref).trans ((linked_filled hk h).append_right _)
  obtain ⟨p, f', -, -, -, hv⟩ := filled_some h
  have hd := ipv4Defrag_filled h
  cases v with
  | waits =>
    refine ⟨by simp [putBack, h], ?_, ?_⟩
    · rw [serve_arrive hc, hd]
      simpa [conclude, abandoned, h, refsOf, Reasm.setQueue, Reasm.linked, linkedIn] using hrefs
    · rw [serve_arrive hc, hd]
      exact hnd
  | gaveUp left =>
    obtain ⟨hput, hperm⟩ := settled_gaveUp (verdict_gaveUp hv.symm) hrefs
    refine ⟨by simpa [putBack, taken, h] using hput, ?_, ?_⟩
    · rw [serve_arrive hc, hd]
      simp only [abandoned, h]
      exact hperm
    · rw [serve_arrive hc, hd]
      exact hnd.diff
  | crash =>
    rw [serve_arrive hc, hd] at hn
    cases hn
  | done skb n =>
    obtain ⟨hput, hperm⟩ := settled_done (verdict_done hv.symm) hrefs
    refine ⟨by simpa [putBack, taken, h] using hput, ?_, ?_⟩
    · rw [serve_arrive hc, hd]
      simp only [abandoned, h]
      exact hperm.trans (by rw [refsOf, List.map_nil, List.append_nil]; exact .refl _)
    · rw [serve_arrive hc, hd]
      exact hnd.diff

lemma serve_timer (hc : w.st.crashed = false) (hw : Conserved w) (now : ℕ) : Settled w (.timer now) := by
  refine ⟨by simp [putBack], ?_, ?_⟩
  · have hsplit : (w.st.queues.filter (fun q => !q.expired now) ++ w.st.queues.filter fun q => q.expired now).Perm
        w.st.queues := List.perm_append_comm.trans (List.filter_append_perm _ _)
    have hlinked := hsplit.flatMap_right fun q => refsOf q.frags
    rw [List.flatMap_append] at hlinked
    have hleft : refsOf ((w.st.queues.filter fun q => q.expired now).flatMap Ipq.frags) =
        (w.st.queues.filter fun q => q.expired now).flatMap fun q => refsOf q.frags := by
      rw [refsOf, List.map_flatMap]
      rfl
    simp only [serve, step, returned, hc, abandoned, ipqTimer, hleft]
    refine hw.refs.trans ((hlinked.symm.append_right _).trans ?_)
    simp only [List.append_assoc]
    exact List.perm_append_comm.append_left _
  · simpa [serve, step, hc, ipqTimer] using hw.once

lemma serve_release (hc : w.st.crashed = false) (hw : Conserved w) (ref : ℕ) : Settled w (.release ref) := by
  by_cases hm : ref ∈ w.owned
  · have hin : ref ∈ w.st.refs := hw.refs.mem_iff.mpr (List.mem_append_right _ hm)
    have hout : ref ∉ w.st.linked := by
      have hnd := hw.refs.nodup_iff.mp hw.once
      exact fun hl => (List.disjoint_of_nodup_append hnd) hl hm
    refine ⟨?_, ?_, ?_⟩
    · simpa [putBack, taken, hm] using hin
    · have hperm := hw.refs.erase ref
      rw [List.erase_append_right _ hout] at hperm
      simpa [serve, step, hc, hm, abandoned, refsOf, Reasm.linked] using hperm
    · simpa [serve, step, hc, hm] using hw.once.erase ref
  · refine ⟨by simp [putBack, hm], ?_, ?_⟩
    · simpa [serve, hm, abandoned, refsOf] using hw.refs
    · simpa [serve, hm] using hw.once

variable {e : Event}

lemma serve_settled (hc : w.st.crashed = false) (hk : KeysDistinct w.st) (hw : Conserved w)
    (hf : Fresh w e) (hn : (serve w e).st.crashed = false) : Settled w e := by
  cases e with
  | arrive now g f =>
    cases h : filled now w.st g f with
    | none => exact serve_arrive_unfilled hc hk hw h
    | some p => exact serve_arrive_filled hc hk hw hf h hn
  | timer now => exact serve_timer hc hw now
  | release ref => exact serve_release hc hw ref

/-- Unless the process died in it, the step gave back only references that were held, and afterwards every
reference is that of a fragment on one queue or of a packet returned. -/
def Accounted (w : Worker) (e : Event) : Prop :=
  (serve w e).st.crashed = false →
    (putBack w e).Subperm (taken w.st e ++ w.st.refs) ∧ Conserved (serve w e)

/-- No queue is destroyed with fragments on it. -/
def NothingLeft (w : Worker) (e : Event) : Prop := w.st.crashed = false → abandoned w.st e = []

lemma serve_crashed (hc : w.st.crashed = true) (e : Event) : (serve w e).st.crashed = true := by
  cases e with
  | arrive now g f => simp [serve, step, hc]
  | timer now => simp [serve, step, hc]
  | release ref => by_cases hm : ref ∈ w.owned <;> simp [serve, step, hc, hm]

lemma abandoned_of_crash (hc : w.st.crashed = false) (hn : (serve w e).st.crashed = true) : abandoned w.st e = [] := by
  cases e with
  | arrive now g f =>
    rw [serve_arrive hc] at hn
    cases h : filled now w.st g f with
    | none => simp [abandoned, h]
    | some p =>
      obtain ⟨q, v⟩ := p
      rw [ipv4Defrag_filled h] at hn
      cases v with
      | gaveUp left => exact absurd (hc.symm.trans hn) (by decide)
      | _ => simp [abandoned, h]
  | timer now => simp [serve, step, hc, ipqTimer] at hn
  | release ref => rfl

lemma serve_keysDistinct (hk : KeysDistinct w.st) (e : Event) : KeysDistinct (serve w e).st := by
  cases e with
  | arrive now g f => exact step_keysDistinct hk _
  | timer now => exact step_keysDistinct hk _
  | release ref =>
    rw [serve]
    split
    · exact step_keysDistinct hk _
    · exact hk

lemma Settled.conserved_iff (h : Settled w e) : Conserved (serve w e) ↔ abandoned w.st e = [] := by
  constructor
  · intro hc
    have hlen := (hc.refs.symm.trans h.refs).length_eq
    simp only [List.length_append, refsOf, List.length_map] at hlen
    exact List.eq_nil_of_length_eq_zero (by omega)
  · intro ha
    have hrefs := h.refs
    rw [ha, refsOf, List.map_nil, List.append_nil] at hrefs
    exact ⟨hrefs, h.once⟩

theorem fragment_references_conserved (es : List Event) (hes : Meets serve Fresh {} es) :
    Meets serve Accounted {} es ↔ Meets serve NothingLeft {} es := by
  -- the references are accounted for as long as nothing was left behind
  let I : Worker → Prop := fun w => (w.st.crashed = false → Conserved w) ∧ KeysDistinct w.st
  have hiff : ∀ w e, I w → Fresh w e → (Accounted w e ↔ NothingLeft w e) := by
    intro w e hI hf
    cases hc : w.st.crashed with
    | true =>
      have hn := serve_crashed hc e
      exact iff_of_true (fun h => absurd (h.symm.trans hn) (by decide))
        (fun h => absurd (h.symm.trans hc) (by decide))
    | false =>
      cases hn : (serve w e).st.crashed with
      | true =>
        exact iff_of_true (fun h => absurd (h.symm.trans hn) (by decide)) fun _ => abandoned_of_crash hc hn
      | false =>
        have hs := serve_settled hc hI.2 (hI.1 hc) hf hn
        rw [Accounted, NothingLeft, ← hs.conserved_iff]
        exact ⟨fun h _ => (h hn).2, fun h _ => ⟨hs.put, h hc⟩⟩
  have hkeep : ∀ w e, I w → Fresh w e → NothingLeft w e → I (serve w e) := fun w e hI hf hl =>
    ⟨fun hn => ((hiff w e hI hf).mpr hl hn).2, serve_keysDistinct hI.2 e⟩
  refine meets_iff hiff hkeep ⟨fun _ => ⟨.refl _, List.nodup_nil⟩, List.nodup_nil⟩ hes

def plainRun : List Event := [.arrive 0 (plainFrag 0) [], .arrive 1 (plainFrag 1) [], .release 0]

theorem fragment_references_conserved_plain :
    run serve {} plainRun = {} ∧ Meets serve Accounted {} plainRun := by
  refine ⟨by decide, (fragment_references_conserved plainRun ?_).mpr ?_⟩
  · exact ⟨List.not_mem_nil, by rw [Fresh]; decide, trivial, trivial⟩
  · exact ⟨fun _ => by decide, fun _ => by decide, fun _ => rfl, trivial⟩

theorem timed_out_fragment_kept :
    let w := run serve {} [.arrive 0 (plainFrag 0) [], .timer 5001]
    w.st.queues = [] ∧ w.owned = [] ∧ w.st.refs = [0] ∧ w.st.crashed = false ∧ ¬ Conserved w := by
  have hw : run serve {} [.arrive 0 (plainFrag 0) [], .timer 5001] = { st := { refs := [0] }, owned := [] } := by
    decide
  simp only [hw, true_and]
  intro h
  exact absurd h.refs (by decide)

end Netfast.Ip
