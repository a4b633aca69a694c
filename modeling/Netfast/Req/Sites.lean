import Netfast.Req.Places

/-! A request is in one place at a time, and in none once it is done or freed. -/

namespace Netfast.Req

variable {n : ℕ} {s s' s₁ : Sys n} {r x : ReqId} {i : SockId} {w : Fin n} {a : Answers n} {act : Act n}

def Gone (q : Req n) : Prop := q.done = true ∨ q.life ≠ .live ∨ (q.async = true ∧ q.cq = none)

structure SiteInv (s : Sys n) (x : ReqId) : Prop where
  gone : Gone (s.reqs x) → Nowhere s x
  sole : Sole s x
  waits : ∀ i, x ∈ (s.socks i).pending → Loose s x ∧ (s.reqs x).entry = some i
  timed : ∀ t, (s.reqs x).timeoutTask = some t → (∀ w, .req x ∉ s.queue w) ∧
    ∀ w m, s.moving w = some m → m.r = x → t.registered = true → t.thread = w
  fresh : FreshClose s x

lemma SiteInv.of_nowhere (h : Nowhere s x) : SiteInv s x where
  gone _ := h
  sole := h.sole
  waits i hi := absurd hi (h.pending i)
  timed t ht := by
    rw [h.timer] at ht
    cases ht
  fresh _ _ := h.pending

lemma SiteInv.of_loose (h : Loose s x) (hg : ¬Gone (s.reqs x))
    (hp : ∀ i, x ∈ (s.socks i).pending → (s.reqs x).entry = some i) (hf : FreshClose s x) : SiteInv s x where
  gone hg' := absurd hg' hg
  sole := h.sole
  waits i hi := ⟨h, hp i hi⟩
  timed _ _ := ⟨h.queue, fun w m hm hr => absurd hr (h.moving w m hm)⟩
  fresh := hf

lemma SiteInv.same (h : SiteInv s x) (hs : Same s s' x) : SiteInv s' x where
  gone hg := hs.nowhere (h.gone (hs.req ▸ hg))
  sole := hs.sole h.sole
  waits i hi := ⟨hs.loose (h.waits i ((hs.waits i).1 hi)).1, hs.req ▸ (h.waits i ((hs.waits i).1 hi)).2⟩
  timed t ht := by
    obtain ⟨hq, hm⟩ := h.timed t (hs.req ▸ ht)
    exact ⟨fun w hw => hq w ((hs.mem_queue w).1 hw), fun w m hm' hr => hm w m ((hs.moved w m hr).1 hm') hr⟩
  fresh hc hst i hi := h.fresh (hs.req ▸ hc) (hs.req ▸ hst) i ((hs.waits i).1 hi)

lemma SiteInv.finishes (h : SiteInv s x) (hf : Finishes s s' x) : SiteInv s' x := by
  obtain ⟨i, hi⟩ := hf.waiting
  obtain ⟨ret, hx⟩ := hf.req
  have hl := (h.waits i hi).1
  refine .of_nowhere ⟨⟨?_, ?_⟩, fun j hj => hf.out j (h.waits j (hf.sub j hj)).2 hj, ?_⟩
  · rw [hf.queue]
    exact hl.queue
  · rw [hf.moving]
    exact hl.moving
  · rw [hx, Req.finish]

instance : Tracks (SiteInv (n := n)) where
  same h hs _ := h.same hs
  finishes h hf := h.finishes hf

/-! A handler at work on `r`. -/

def HandsOver (s : Sys n) (w : Fin n) (r : ReqId) (a : Answers n) : Prop :=
  (s.reqs r).asyncCancel = false ∧ ∃ i dst, (s.reqs r).entry = some i ∧ (s.socks i).entryWorker = some dst ∧
    (dst ≠ w ∨ (Addressed (s.reqs r) (s.socks i).proto ∧ a.target ≠ w))

structure Movable (s : Sys n) (w : Fin n) (r : ReqId) : Prop where
  worker : (s.reqs r).worker = some w
  pending : ∀ i, r ∉ (s.socks i).pending
  timer : ∀ t, (s.reqs r).timeoutTask = some t → t.registered = true → t.thread = w

structure Taken (s : Sys n) (r : ReqId) : Prop extends Loose s r where
  undone : (s.reqs r).done = false
  sent : (s.reqs r).asyncCancel = false → ¬Gone (s.reqs r)
  listed : ∀ i, r ∈ (s.socks i).pending → (s.reqs r).entry = some i
  fresh : FreshClose s r

lemma Taken.same (h : Taken s r) (hs : Same s s₁ r) : Taken s₁ r :=
  { hs.loose h.toLoose with
    undone := hs.req ▸ h.undone
    sent := hs.req ▸ h.sent
    listed := fun i hi => hs.req ▸ h.listed i ((hs.waits i).1 hi)
    fresh := fun hc hst i hi => h.fresh (hs.req ▸ hc) (hs.req ▸ hst) i ((hs.waits i).1 hi) }

lemma Taken.finished (h : Taken s r) (he : Eases (· = r) s s') (hd : (s'.reqs r).done = true) : SiteInv s' r := by
  rcases he.each r with ⟨hr, -⟩ | ⟨-, -, ⟨ret, hr⟩, hout⟩
  · rw [hr, h.undone] at hd
    cases hd
  · refine .of_nowhere ⟨⟨?_, ?_⟩, fun i hi => hout i (h.listed i ((he.sub i).subset hi)) hi, ?_⟩
    · rw [he.queue]
      exact h.queue
    · rw [he.moving]
      exact h.moving
    · rw [hr, Req.finish]

lemma Taken.moves {dst : Fin n} (h : Taken s r) (hc : (s.reqs r).asyncCancel = false) (hm : Movable s w r) :
    SiteInv (beginMove s w r dst) r where
  gone hg := absurd hg (h.sent hc)
  sole := h.sole_beginMove hm.worker
  waits i hi := absurd hi (hm.pending i)
  timed t ht := by
    refine ⟨h.queue, fun w' m hm' hr hreg => ?_⟩
    rcases beginMove_moving hm' with ⟨rfl, -⟩ | hm'
    · exact hm.timer t ht hreg
    · exact absurd hr (h.moving w' m hm')
  fresh := h.fresh

lemma Taken.waits {st : Status} {t : Option (Task n)} (h : Taken s r) (hc : (s.reqs r).asyncCancel = false)
    (he : (s.reqs r).entry = some i) (hcl : (s.reqs r).op.isClose = true → st = .waitingClose) :
    SiteInv (attach (s.setReq r fun q => { q with status := st, timeoutTask := t }) i r) r := by
  have hreq := attach_setReq_self (s := s) (r := r) (i := i) fun q => { q with status := st, timeoutTask := t }
  refine .of_loose ⟨h.queue, h.moving⟩ ?_ (fun j hj => ?_) fun hc' hst => ?_
  · rw [hreq]
    exact h.sent hc
  · rw [hreq]
    rcases mem_attach.1 hj with hj | ⟨rfl, -⟩
    · exact h.listed j hj
    · exact he
  · rw [hreq] at hc' hst
    exact absurd (hcl hc') hst

lemma Handled.siteInv (h : Inv SiteInv (· ≠ r) s) (ht : Taken s r) (hd : Handled s w r a s')
    (hok : HandsOver s w r a → Movable s w r) : SiteInv s' r := by
  have htk {s₁} (hp : Prepared s r s₁) : Taken s₁ r := ht.same (hp.same h)
  cases hd with
  | finished hp he hd => exact (htk hp).finished he hd
  | spent hp hd st t hcl =>
    rw [ht.undone] at hd
    cases hd
  | handed hc he hw hne => exact ht.moves hc (hok ⟨hc, _, _, he, hw, .inl hne⟩)
  | @rehomed s₁ i hp hc he hw hfd hq hne =>
    have hm := hok ⟨hc, i, w, he, hw, .inr ⟨hq, hne⟩⟩
    have hsame : Same s (s₁.setSock i (setSocketWorker · a.target)) r :=
      (hp.same h).trans (same_setSock _ Iff.rfl)
    refine (ht.same hsame).moves (hsame.req ▸ hc) ⟨?_, fun j hj => hm.pending j ((hsame.waits j).1 hj), ?_⟩
    · rw [hsame.req]
      exact hm.worker
    · rw [hsame.req]
      exact hm.timer
  | @waits s₁ i st hp hc he hw hcl =>
    rw [wait, setReq_status]
    refine (htk hp).waits (hp.self ▸ hc) (hp.self ▸ he) fun hcl' => ?_
    rw [hp.self, hcl] at hcl'
    cases hcl'
  | armed hp hc he hw hdst hcl =>
    refine (htk hp).waits (hp.self ▸ hc) (hp.self ▸ he) fun hcl' => (hcl ?_).1
    rwa [hp.self] at hcl'
  | early hc hcl hst hx => exact .of_loose ht.toLoose (ht.sent hc) ht.listed ht.fresh
  | stalled hp hc he hw hq =>
    exact .of_loose (htk hp).toLoose ((htk hp).sent (hp.self ▸ hc)) (htk hp).listed (htk hp).fresh

lemma Nowhere.not_due {now : ℕ} (h : Nowhere s r) : due (s.reqs r) w now = false := by
  rw [due, h.timer]
  rfl

lemma Runs.taken (hr : SiteInv s r) (hrun : Runs s act w r a s₁)
    (hc : ∀ js, s.moving w = none → s.jobs w = .cancel r :: js → (s.reqs r).worker = some w → Loose s r) :
    Taken s₁ r := by
  cases hrun with
  | @pop w r a rest hi hq =>
    have hmem : .req r ∈ s.queue w := hq ▸ List.mem_cons_self
    have hg : ¬Gone (s.reqs r) := fun hg => (hr.gone hg).queue w hmem
    exact { (hr.sole.pop hq).2 with
      undone := by simpa using fun hd => hg (.inl hd)
      sent := fun _ => hg
      listed := fun i hi => (hr.waits i hi).2
      fresh := hr.fresh }
  | @fire w r a hi hd =>
    obtain ⟨t, ht, hreg, hthread, -⟩ := due_iff.1 hd
    have hreq := unregister_self ht
    have hg : ¬Gone (s.reqs r) := fun hg => absurd hd (by simp [(hr.gone hg).not_due])
    obtain ⟨hq, hm⟩ := hr.timed t ht
    refine ⟨⟨hq, fun w' m hm' hmr => ?_⟩, ?_, fun _ => ?_, fun i hi' => ?_, fun hcl hst => ?_⟩
    · -- the worker of the timer is idle
      have hidle := idle_moving hi
      rw [← hthread, hm w' m hm' hmr hreg] at hidle
      have : s.moving w' = some m := hm'
      rw [hidle] at this
      cases this
    · rw [hreq]
      simpa using fun hd => hg (.inl hd)
    · rw [hreq]
      exact hg
    · rw [hreq]
      exact (hr.waits i hi').2
    · rw [hreq] at hcl hst
      exact hr.fresh hcl hst
  | @wake w i r e a js hm hj hp hw =>
    have hg : ¬Gone (s.reqs r) := fun hg => (hr.gone hg).pending i hp
    have hl := (hr.waits i hp).1
    refine ⟨⟨?_, ?_⟩, ?_, fun _ => ?_, fun j hj => ?_, fun hcl hst j hj => ?_⟩
    · rw [detach_queue]
      exact hl.queue
    · rw [detach_moving]
      exact hl.moving
    · rw [detach_reqs]
      simpa using fun hd => hg (.inl hd)
    · rw [detach_reqs]
      exact hg
    · rw [detach_reqs]
      exact (hr.waits j (mem_detach.1 hj).1).2
    · rw [detach_reqs] at hcl hst
      exact hr.fresh hcl hst j (mem_detach.1 hj).1
  | @cancel w r a js hm hj hw hd =>
    have hreq : ((s.setJobs w js).setReq r fun x => { x with asyncCancel := true }).reqs r =
        { s.reqs r with asyncCancel := true } := Function.update_self ..
    have hl := hc js hm hj hw
    refine ⟨⟨hl.queue, hl.moving⟩, ?_, fun hca => ?_, fun i hi => ?_, fun hcl hst => ?_⟩
    · rw [hreq]
      exact hd
    · rw [hreq] at hca
      cases hca
    · rw [hreq]
      exact (hr.waits i hi).2
    · rw [hreq] at hcl hst
      exact hr.fresh hcl hst

lemma siteInv_enqueue {q : Req n} (hn : Nowhere s r) (hg : ¬Gone q) (hw : q.worker = some w)
    (ht : q.timeoutTask = none) : SiteInv (enqueue (s.setReq r fun _ => q) w (.req r)) r := by
  have hreq : (enqueue (s.setReq r fun _ => q) w (.req r)).reqs r = q := Function.update_self ..
  have hl : Loose (s.setReq r fun _ => q) r := ⟨hn.queue, hn.moving⟩
  refine ⟨fun hg' => ?_, hl.sole_enqueue (by simpa using hw), fun i hi => absurd hi (hn.pending i), fun t ht' => ?_,
    fun _ _ => hn.pending⟩
  · rw [hreq] at hg'
    exact absurd hg' hg
  · rw [hreq, ht] at ht'
    cases ht'

lemma Nowhere.setReq {f : Req n → Req n} (h : Nowhere s r) (hf : (f (s.reqs r)).timeoutTask = none) :
    Nowhere (s.setReq r f) r :=
  { queue := h.queue, moving := h.moving, pending := h.pending, timer := by simpa using hf }

lemma SiteInv.publish {m : Moving n} (h : SiteInv s m.r) (hm : s.moving w = some m) : SiteInv (publish s w m) m.r := by
  have hreq := publish_self s w m
  refine ⟨fun hg => ?_, h.sole.publish hm, fun i hi => ?_, fun t ht => ?_, fun hcl hst => ?_⟩
  · rw [hreq] at hg
    exact absurd rfl ((h.gone hg).moving w m hm)
  · exact absurd rfl ((h.waits i hi).1.moving w m hm)
  · rw [hreq] at ht
    refine ⟨(h.timed t ht).1, fun w' m' hm' hr hreg => ?_⟩
    rcases publish_moving hm' with ⟨rfl, -⟩ | ⟨-, hm'⟩
    · exact (h.timed t ht).2 w' m hm rfl hreg
    · exact (h.timed t ht).2 w' m' hm' hr hreg
  · rw [hreq] at hcl hst
    exact h.fresh hcl hst

lemma SiteInv.push {m : Moving n} (h : SiteInv s m.r) (hm : s.moving w = some m) (hp : m.published = true) :
    SiteInv (push s w m) m.r := by
  have hreq := push_self s w m
  refine ⟨fun hg => ?_, h.sole.push hm hp, fun i hi => ?_, fun t ht => ?_, fun hcl hst i hi => ?_⟩
  · rw [hreq] at hg
    exact absurd rfl ((h.gone hg).moving w m hm)
  · exact absurd rfl ((h.waits i (push_pending hi)).1.moving w m hm)
  · rw [hreq] at ht
    cases ht
  · rw [hreq] at hcl hst
    exact h.fresh hcl hst i (push_pending hi)

end Netfast.Req
