import Netfast.Req.Places

/-! A request that is not completed stays in a place from which it will be run again. -/

namespace Netfast.Req

variable {n : ℕ} {s s' s₁ : Sys n} {r x : ReqId} {i : SockId} {w : Fin n} {a : Answers n} {act : Act n}

def Held (s : Sys n) (r : ReqId) : Prop := InQueue s r ∨ OnPending s r ∨ TimerSet (s.reqs r) ∨ BeingMoved s r

lemma Same.held (h : Same s s' x) (hx : Held s x) : Held s' x := by
  rcases hx with ⟨w, hw⟩ | ⟨i, he, hi⟩ | ⟨t, ht⟩ | ⟨w, m, hm, hr⟩
  · exact .inl ⟨w, (h.mem_queue w).2 hw⟩
  · exact .inr (.inl ⟨i, h.req ▸ he, (h.waits i).2 hi⟩)
  · exact .inr (.inr (.inl ⟨t, h.req ▸ ht⟩))
  · exact .inr (.inr (.inr ⟨w, m, (h.moved w m hr).2 hm, hr⟩))

structure Lingering (s : Sys n) (x : ReqId) : Prop extends Loose s x where
  status : (s.reqs x).status = .waitingClose
  home : ∃ i w t, (s.reqs x).entry = some i ∧ (s.reqs x).worker = some w ∧ (s.socks i).entryWorker = some w ∧
    (s.socks i).fdEntry = false ∧ (s.reqs x).timeoutTask = some t ∧ t.thread = w

def CloseAt (s : Sys n) (x : ReqId) : Prop :=
  Sole s x ∧ (((s.reqs x).status ≠ .waitingClose ∧ (s.reqs x).timeoutTask = none) ∨ Lingering s x)

lemma Same.lingering (h : Same s s' x) (hl : Settled s s') (hx : Lingering s x) : Lingering s' x := by
  obtain ⟨i, w, t, he, hw, hi, hf, ht⟩ := hx.home
  refine { h.loose hx.toLoose with status := h.req ▸ hx.status, home := ⟨i, w, t, ?_⟩ }
  rw [h.req]
  exact ⟨he, hw, (hl i w hi hf).1, (hl i w hi hf).2, ht⟩

lemma Same.closeAt (h : Same s s' x) (hl : Settled s s') (hx : CloseAt s x) : CloseAt s' x := by
  refine ⟨h.sole hx.1, hx.2.imp (fun hf => ?_) (h.lingering hl)⟩
  rwa [h.req]

structure ReqInv (s : Sys n) (x : ReqId) : Prop where
  held : Active (s.reqs x) → Held s x
  close : (s.reqs x).op.isClose = true → Active (s.reqs x) → CloseAt s x
  unsent : Unsent (s.reqs x) → ((s.reqs x).worker = none ∧ (s.reqs x).status ≠ .waitingClose) ∧ Nowhere s x
  listed : ∀ i, x ∈ (s.socks i).pending → (s.reqs x).entry = some i
  fresh : FreshClose s x

lemma ReqInv.of_done (hd : (s.reqs r).done = true) (hu : ¬Unsent (s.reqs r))
    (hl : ∀ i, r ∈ (s.socks i).pending → (s.reqs r).entry = some i) (hf : FreshClose s r) : ReqInv s r where
  held ha := absurd (hd.symm.trans ha.open_) (by decide)
  close _ ha := absurd (hd.symm.trans ha.open_) (by decide)
  unsent h := absurd h hu
  listed := hl
  fresh := hf

lemma ReqInv.same (h : ReqInv s x) (hs : Same s s' x) (hl : Settled s s') : ReqInv s' x where
  held ha := hs.held (h.held (hs.req ▸ ha))
  close hc ha := hs.closeAt hl (h.close (hs.req ▸ hc) (hs.req ▸ ha))
  unsent hu := ⟨hs.req ▸ (h.unsent (hs.req ▸ hu)).1, hs.nowhere (h.unsent (hs.req ▸ hu)).2⟩
  listed i hi := hs.req ▸ h.listed i ((hs.waits i).1 hi)
  fresh hc hst i hi := h.fresh (hs.req ▸ hc) (hs.req ▸ hst) i ((hs.waits i).1 hi)

lemma ReqInv.finishes (h : ReqInv s x) (hf : Finishes s s' x) : ReqInv s' x := by
  obtain ⟨i, hi⟩ := hf.waiting
  obtain ⟨ret, hx⟩ := hf.req
  have hnp (j : SockId) : x ∉ (s'.socks j).pending := fun hj => hf.out j (h.listed j (hf.sub j hj)) hj
  refine .of_done (by rw [hx, Req.finish]) (fun hu => ?_) (fun j hj => absurd hj (hnp j)) fun _ _ => hnp
  rw [hx] at hu
  have hu' : Unsent (s.reqs x) := hu.imp_right fun h => by simp [Req.finish] at h
  exact (h.unsent hu').2.pending i hi

instance : Tracks (ReqInv (n := n)) where
  same h hs hl := h.same hs hl
  finishes h hf := h.finishes hf

/-! A handler at work on `r`. -/

structure InHand (s : Sys n) (w : Fin n) (r : ReqId) (a : Answers n) : Prop where
  sent : ¬Unsent (s.reqs r)
  listed : ∀ i, r ∈ (s.socks i).pending → (s.reqs r).entry = some i
  fresh : FreshClose s r
  close : (s.reqs r).op.isClose = true → Active (s.reqs r) → (s.reqs r).asyncCancel = false →
    (s.reqs r).worker = some w ∧ Loose s r ∧
      (((s.reqs r).status ≠ .waitingClose ∧ (s.reqs r).timeoutTask = none) ∨
        (expired (s.reqs r) a.io.now = true ∧
          ∃ i, (s.reqs r).entry = some i ∧ (s.socks i).entryWorker = some w))

lemma InHand.same (h : InHand s w r a) (hs : Same s s₁ r)
    (he : ∀ i, (s.socks i).entryWorker = some w → (s₁.socks i).entryWorker = some w) : InHand s₁ w r a where
  sent := hs.req ▸ h.sent
  listed i hi := hs.req ▸ h.listed i ((hs.waits i).1 hi)
  fresh hc hst i hi := h.fresh (hs.req ▸ hc) (hs.req ▸ hst) i ((hs.waits i).1 hi)
  close hc ha hca := by
    obtain ⟨hw, hl, hx⟩ := h.close (hs.req ▸ hc) (hs.req ▸ ha) (hs.req ▸ hca)
    rw [hs.req]
    exact ⟨hw, hs.loose hl, hx.imp_right fun ⟨hx, i, hi, hwi⟩ => ⟨hx, i, hi, he i hwi⟩⟩

lemma InHand.finished (hh : InHand s w r a) (he : Eases (· = r) s s') (hd : (s'.reqs r).done = true) :
    ReqInv s' r := by
  rcases he.each r with ⟨hr, hp⟩ | ⟨-, -, ⟨ret, hr⟩, hout⟩
  · refine .of_done hd (hr ▸ hh.sent) (fun i hi => hr ▸ hh.listed i ((hp i).1 hi)) fun hc hst i hi => ?_
    rw [hr] at hc hst
    exact hh.fresh hc hst i ((hp i).1 hi)
  · have hnp (i : SockId) : r ∉ (s'.socks i).pending := fun hi =>
      hout i (hh.listed i ((he.sub i).subset hi)) hi
    refine .of_done hd (fun hu => hh.sent ?_) (fun i hi => absurd hi (hnp i)) fun _ _ => hnp
    rw [hr] at hu
    exact hu.imp_right fun h => by simp [Req.finish] at h

lemma InHand.moves {dst : Fin n} (hh : InHand s w r a) (hc : (s.reqs r).asyncCancel = false)
    (hne : (s.reqs r).op.isClose = true → ∀ i, (s.reqs r).entry = some i → (s.socks i).entryWorker ≠ some w) :
    ReqInv (beginMove s w r dst) r := by
  refine ⟨fun _ => ?_, fun hcl ha => ?_, fun hu => absurd hu hh.sent, hh.listed, hh.fresh⟩
  · exact .inr (.inr (.inr ⟨w, ⟨r, dst, false⟩, by simp [beginMove], rfl⟩))
  · obtain ⟨hw, hl, hf | ⟨-, i, hi, hwi⟩⟩ := hh.close hcl ha hc
    · exact ⟨hl.sole_beginMove hw, .inl hf⟩
    · exact absurd hwi (hne hcl i hi)

lemma InHand.waits {st : Status} {t : Option (Task n)} (hh : InHand s w r a)
    (he : (s.reqs r).entry = some i) (hw : (s.socks i).entryWorker = some w)
    (hc : (s.reqs r).asyncCancel = false)
    (hcl : (s.reqs r).op.isClose = true → st = .waitingClose ∧ (s.socks i).fdEntry = false ∧
      ∃ t', t = some t' ∧ (s.reqs r).worker = some t'.thread) :
    ReqInv (attach (s.setReq r fun q => { q with status := st, timeoutTask := t }) i r) r := by
  have hreq := attach_setReq_self (s := s) (r := r) (i := i) fun q => { q with status := st, timeoutTask := t }
  refine ⟨fun _ => ?_, fun hc' ha => ?_, fun hu => ?_, fun j hj => ?_, fun hc' hst => ?_⟩
  · exact .inr (.inl ⟨i, by rw [hreq]; exact he, mem_attach.2 (.inr ⟨rfl, rfl⟩)⟩)
  · rw [hreq] at hc' ha
    obtain ⟨rfl, hfd, t', rfl, ht⟩ := hcl hc'
    obtain ⟨hworker, hl, -⟩ := hh.close hc' (ha.of_eq rfl rfl rfl rfl) hc
    have hl' : Loose (attach (s.setReq r fun q => { q with status := .waitingClose, timeoutTask := some t' }) i r) r :=
      ⟨hl.queue, hl.moving⟩
    have hsock : ((attach (s.setReq r fun q => { q with status := .waitingClose, timeoutTask := some t' }) i r).socks
        i).entryWorker = some w ∧ ((attach (s.setReq r fun q =>
          { q with status := .waitingClose, timeoutTask := some t' }) i r).socks i).fdEntry = false := by
      simp only [attach, Function.update_self]
      split <;> exact ⟨hw, hfd⟩
    refine ⟨hl'.sole, .inr { hl' with status := by rw [hreq], home := ⟨i, w, t', ?_⟩ }⟩
    rw [hreq]
    exact ⟨he, hworker, hsock.1, hsock.2, rfl, Option.some.inj (ht.symm.trans hworker)⟩
  · rw [hreq] at hu
    exact absurd hu hh.sent
  · rw [hreq]
    rcases mem_attach.1 hj with hj | ⟨rfl, -⟩
    · exact hh.listed j hj
    · exact he
  · rw [hreq] at hc' hst
    exact absurd (hcl hc').1 hst

lemma Handled.reqInv (h : Inv ReqInv (· ≠ r) s) (hh : InHand s w r a) (hd : Handled s w r a s')
    (hst : ∀ i, Active (s.reqs r) → (s.reqs r).asyncCancel = false → (s.reqs r).entry = some i →
      (s.socks i).entryWorker = some w → Stalls (s.reqs r) a (s.socks i).proto → TimerSet (s.reqs r)) :
    ReqInv s' r := by
  have hin {s₁} (hp : Prepared s r s₁) : InHand s₁ w r a := hh.same (hp.same h) fun _ => hp.entryWorker
  cases hd with
  | finished hp he hd => exact (hin hp).finished he hd
  | @spent s₁ hp hd st t hcl =>
    have hreq : (s₁.setReq r fun q => { q with status := st, timeoutTask := t }).reqs r =
        { s₁.reqs r with status := st, timeoutTask := t } := Function.update_self ..
    refine .of_done ?_ ?_ (fun i hi => ?_) fun hc hne => ?_
    · rw [hreq, hp.self]
      exact hd
    · rw [hreq]
      exact (hin hp).sent
    · rw [hreq]
      exact (hin hp).listed i hi
    · rw [hreq] at hc hne
      rw [hp.self] at hc
      exact absurd (hcl hc) hne
  | handed hc he hw hne =>
    refine hh.moves hc fun _ j hj hwj => hne ?_
    obtain rfl := Option.some.inj (he.symm.trans hj)
    exact Option.some.inj (hw.symm.trans hwj)
  | @rehomed s₁ i hp hc he hw hfd hq hne =>
    have hq₁ : (s₁.reqs r).op.isClose = false := hp.self ▸ hq.not_close
    have hpend (j : SockId) : ((s₁.setSock i (setSocketWorker · a.target)).socks j).pending = (s₁.socks j).pending := by
      by_cases hj : j = i
      · subst hj
        simp [setSocketWorker]
      · simp [hj]
    have hh₂ : InHand (s₁.setSock i (setSocketWorker · a.target)) w r a :=
      { hin hp with
        listed := fun j hj => (hin hp).listed j (hpend j ▸ hj)
        fresh := fun hc => absurd hc (by simp [hq₁])
        close := fun hc => absurd hc (by simp [hq₁]) }
    exact hh₂.moves (hp.self ▸ hc) fun hcl => absurd hcl (by simp [hq₁])
  | @waits s₁ i st hp hc he hw hcl =>
    rw [wait, setReq_status]
    refine (hin hp).waits (hp.self ▸ he) (hp.entryWorker hw) (hp.self ▸ hc) fun hcl' => ?_
    rw [hp.self, hcl] at hcl'
    cases hcl'
  | @armed s₁ i st e dst hp hc he hw hdst hcl =>
    refine (hin hp).waits (hp.self ▸ he) (hp.entryWorker hw) (hp.self ▸ hc) fun hcl' => ?_
    rw [hp.self] at hcl' ⊢
    exact ⟨(hcl hcl').1, (hcl hcl').2, _, rfl, hdst⟩
  | early hc hcl hst hx =>
    -- a lingering close is run again when it is due, not before
    have hna (ha : Active (s.reqs r)) : False := by
      obtain ⟨-, -, ⟨hne, -⟩ | ⟨hx', -⟩⟩ := hh.close hcl ha hc
      · exact hne hst
      · rw [hx] at hx'
        cases hx'
    exact ⟨fun ha => (hna ha).elim, fun _ ha => (hna ha).elim, fun hu => absurd hu hh.sent, hh.listed, hh.fresh⟩
  | stalled hp hc he hw hq =>
    refine ⟨fun ha => ?_, fun hcl => ?_, fun hu => absurd hu (hin hp).sent, (hin hp).listed, (hin hp).fresh⟩
    · rw [hp.self] at ha
      exact .inr (.inr (.inl (hp.self ▸ hst _ ha hc he hw hq)))
    · rw [hp.self, hq.not_close] at hcl
      cases hcl

end Netfast.Req
