import Netfast.Req.Kept

/-! No step of the system loses a request, so no run does. -/

namespace Netfast.Req

open Run Tcp

variable {n : ℕ} {s s' s₁ : Sys n} {r x : ReqId} {i : SockId} {w : Fin n} {a : Answers n} {act : Act n}

lemma Runs.pop_inHand {rest : List Msg} (hr : ReqInv s r) (hq : s.queue w = .req r :: rest) :
    InHand (s.setQueue w rest) w r a := by
  have hmem : .req r ∈ s.queue w := hq ▸ List.mem_cons_self
  refine ⟨fun hu => (hr.unsent hu).2.queue w hmem, hr.listed, hr.fresh, fun hc ha _ => ?_⟩
  obtain ⟨hsole, hf | hl⟩ := hr.close hc ha
  · exact ⟨(hsole.pop hq).1, (hsole.pop hq).2, .inl hf⟩
  · exact absurd hmem (hl.queue w)

lemma Runs.fire_inHand (hr : ReqInv s r) (hd : due (s.reqs r) w a.io.now = true) : InHand (unregister s r) w r a := by
  obtain ⟨t, ht, -, hthread, hdue⟩ := due_iff.1 hd
  have hreq := unregister_self ht
  refine ⟨fun hu => ?_, fun i hi => ?_, fun hc hst => ?_, fun hc ha _ => ?_⟩
  · rw [hreq] at hu
    have := (hr.unsent hu).2.timer
    rw [ht] at this
    cases this
  · rw [hreq]
    exact hr.listed i hi
  · rw [hreq] at hc hst
    exact hr.fresh hc hst
  · rw [hreq] at hc ha ⊢
    obtain ⟨-, ⟨-, hnone⟩ | hl⟩ := hr.close hc (ha.of_eq rfl rfl rfl rfl)
    · rw [ht] at hnone
      cases hnone
    · obtain ⟨i, w', t', he, hw', hi', -, ht', rfl⟩ := hl.home
      obtain rfl := Option.some.inj (ht.symm.trans ht')
      obtain rfl := hthread
      exact ⟨hw', ⟨hl.queue, hl.moving⟩, .inr ⟨by simpa [expired] using hdue, i, he, hi'⟩⟩

lemma Runs.wake_inHand {e : Events} {js : List Job} (hr : ReqInv s r) (hp : r ∈ (s.socks i).pending)
    (hw : wakes (s.reqs r) e = true) : InHand (detach (s.setJobs w js) r) w r a := by
  have hst : (s.reqs r).status ≠ .waitingClose := by
    rw [wakes, Bool.and_eq_true] at hw
    simpa using hw.1
  refine ⟨?_, fun j hj => ?_, ?_, ?_⟩
  · rw [detach_reqs]
    exact fun hu => (hr.unsent hu).2.pending i hp
  · rw [detach_reqs]
    exact hr.listed j (mem_detach.1 hj).1
  · intro hc hst' j hj
    rw [detach_reqs] at hc hst'
    exact hr.fresh hc hst' j (mem_detach.1 hj).1
  · -- a close that has not waited yet is on no pending list
    intro hc
    rw [detach_reqs] at hc
    exact absurd hp (hr.fresh hc hst i)

lemma Runs.cancel_inHand {js : List Job} (hr : ReqInv s r) (hw : (s.reqs r).worker = some w) :
    InHand ((s.setJobs w js).setReq r fun x => { x with asyncCancel := true }) w r a := by
  have hreq : ((s.setJobs w js).setReq r fun x => { x with asyncCancel := true }).reqs r =
      { s.reqs r with asyncCancel := true } := Function.update_self ..
  refine ⟨fun hu => ?_, fun i hi => ?_, fun hc hst => ?_, fun _ _ hc => ?_⟩
  · rw [hreq] at hu
    have := (hr.unsent hu).1.1
    rw [hw] at this
    cases this
  · rw [hreq]
    exact hr.listed i hi
  · rw [hreq] at hc hst
    exact hr.fresh hc hst
  · rw [hreq] at hc
    cases hc

lemma Runs.inHand (hr : ReqInv s r) (hrun : Runs s act w r a s₁) : InHand s₁ w r a := by
  cases hrun with
  | pop hi hq => exact Runs.pop_inHand hr hq
  | fire hi hd => exact Runs.fire_inHand hr hd
  | wake hm hj hp hw => exact Runs.wake_inHand hr hp hw
  | cancel hm hj hw hd => exact Runs.cancel_inHand hr hw

lemma reqInv_enqueue {q : Req n} (hn : Nowhere s r) (hu : ¬Unsent q) (hw : q.worker = some w)
    (hst : q.status ≠ .waitingClose) (ht : q.timeoutTask = none) :
    ReqInv (enqueue (s.setReq r fun _ => q) w (.req r)) r := by
  have hreq : (enqueue (s.setReq r fun _ => q) w (.req r)).reqs r = q := Function.update_self ..
  have hl : Loose (s.setReq r fun _ => q) r := ⟨hn.queue, hn.moving⟩
  refine ⟨fun _ => .inl ⟨w, mem_enqueue ..⟩, fun _ _ => ⟨hl.sole_enqueue ?_, .inl ?_⟩, fun hu' => ?_,
    fun i hi => absurd hi (hn.pending i), fun _ _ => hn.pending⟩
  · simpa using hw
  · rw [hreq]
    exact ⟨hst, ht⟩
  · rw [hreq] at hu'
    exact absurd hu' hu

lemma ReqInv.freeReq (h : ReqInv s r) : ReqInv (freeReq s r) r := by
  have hreq := freeReq_self s r
  have hdead (ha : Active ((Req.freeReq s r).reqs r)) : False := by
    have := ha.live
    rw [hreq] at this
    cases this
  refine ⟨fun ha => (hdead ha).elim, fun _ ha => (hdead ha).elim, fun hu => ?_, fun i hi => ?_, fun hc hst => ?_⟩
  · rw [hreq] at hu
    obtain ⟨hw, hn⟩ := h.unsent (.inr (hu.resolve_left (by simp)))
    refine ⟨?_, { hn with timer := ?_ }⟩
    · rw [hreq]
      exact hw
    · rw [hreq]
      exact hn.timer
  · rw [hreq]
    exact h.listed i hi
  · rw [hreq] at hc hst
    exact h.fresh hc hst

lemma ReqInv.cqPop {q : CqId} {rest : List ReqId} (h : ReqInv s r) (hlife : (s.reqs r).life ≠ .unborn)
    (hdone : (s.reqs r).done = true) : ReqInv (cqPop s q r rest) r := by
  have hreq := cqPop_self s q r rest
  refine .of_done ?_ ?_ (fun i hi => ?_) fun hcl hst => ?_
  · rw [hreq]
    exact hdone
  · rw [hreq]
    rintro (hu | ⟨-, -, hu⟩)
    · exact hlife hu
    · rw [hdone] at hu
      cases hu
  · rw [hreq]
    exact h.listed i hi
  · rw [hreq] at hcl hst
    exact h.fresh hcl hst

lemma reqInv_create {op : Op} {entry : Option SockId} (hn : Nowhere s r) :
    ReqInv (s.setReq r fun _ => { life := .live, async := true, op, entry }) r := by
  have hreq : (s.setReq r fun _ => { life := .live, async := true, op, entry }).reqs r =
      { life := .live, async := true, op, entry } := Function.update_self ..
  have hidle (ha : Active ((s.setReq r fun _ => { life := .live, async := true, op, entry }).reqs r)) : False := by
    rw [hreq] at ha
    exact ha.sent rfl rfl
  refine ⟨fun ha => (hidle ha).elim, fun _ ha => (hidle ha).elim, fun _ => ⟨?_, { hn with timer := ?_ }⟩,
    fun i hi => absurd hi (hn.pending i), fun _ _ => hn.pending⟩
  · simp
  · rw [hreq]

lemma ReqInv.publish {m : Moving n} (h : ReqInv s m.r) (hm : s.moving w = some m) : ReqInv (publish s w m) m.r := by
  have hreq := publish_self s w m
  have hself : (Req.publish s w m).moving w = some { m with published := true } := Function.update_self ..
  refine ⟨fun _ => .inr (.inr (.inr ⟨w, _, hself, rfl⟩)), fun hc ha => ?_, fun hu => ?_, fun i hi => ?_,
    fun hc hst => ?_⟩
  · rw [hreq] at hc ha
    obtain ⟨hs, hf | hl⟩ := h.close hc (ha.of_eq rfl rfl rfl rfl)
    · exact ⟨hs.publish hm, .inl (hreq ▸ hf)⟩
    · exact absurd rfl (hl.moving w m hm)
  · rw [hreq] at hu
    exact absurd rfl ((h.unsent hu).2.moving w m hm)
  · rw [hreq]
    exact h.listed i hi
  · rw [hreq] at hc hst
    exact h.fresh hc hst

lemma ReqInv.push {m : Moving n} (h : ReqInv s m.r) (hm : s.moving w = some m) (hp : m.published = true) :
    ReqInv (push s w m) m.r := by
  have hreq := push_self s w m
  refine ⟨fun _ => .inl ⟨m.dst, ?_⟩, fun hc ha => ?_, fun hu => ?_, fun i hi => ?_, fun hc hst i hi => ?_⟩
  · rw [push_queue, if_pos rfl]
    simp
  · rw [hreq] at hc ha
    obtain ⟨hs, hf | hl⟩ := h.close hc (ha.of_eq rfl rfl rfl rfl)
    · exact ⟨hs.push hm hp, .inl (hreq ▸ ⟨hf.1, rfl⟩)⟩
    · exact absurd rfl (hl.moving w m hm)
  · rw [hreq] at hu
    exact absurd rfl ((h.unsent hu).2.moving w m hm)
  · rw [hreq]
    exact h.listed i (push_pending hi)
  · rw [hreq] at hc hst
    exact h.fresh hc hst i (push_pending hi)

/-- A `connect` that the step runs while its handshake is unfinished has a timeout to come. -/
def Resumable (s : Sys n) (act : Act n) : Prop :=
  ∀ w r a s₁ i, Runs s act w r a s₁ → Active (s₁.reqs r) → (s₁.reqs r).asyncCancel = false →
    (s₁.reqs r).entry = some i → (s₁.socks i).entryWorker = some w → Stalls (s₁.reqs r) a (s₁.socks i).proto →
    TimerSet (s₁.reqs r)

lemma Trans.reqInv (h : Inv ReqInv (fun _ => True) s) (ht : Trans s act s') (hok : Resumable s act) :
    Inv ReqInv (fun _ => True) s' := by
  have hr (x : ReqId) := h.each x trivial
  cases ht with
  | @call r op entry w dst ha hu =>
    refine ((h.but r).enqueue rfl fun hne => absurd hu hne).all ?_
    refine reqInv_enqueue ((hr r).unsent (.inl hu)).2 ?_ rfl nofun rfl
    rintro (h | ⟨h, -⟩) <;> cases h
  | @ret r hd => exact (h.freeReq r).all (hr r).freeReq
  | @create r op entry hu => exact (h.create hu).all (reqInv_create ((hr r).unsent (.inl hu)).2)
  | @submit q r w dst ha hq hl hasync hd hcq =>
    obtain ⟨⟨-, hst⟩, hn⟩ := (hr r).unsent (.inr ⟨hasync, hcq, hd⟩)
    have h₁ : Inv ReqInv (fun _ => True) (s.setCq q fun c => { c with submitReqs := r :: c.submitReqs }) :=
      h.setCq fun _ => id
    have h₂ : Inv ReqInv (· ≠ r) (Req.submit s q r dst) := (h₁.but r).enqueue hl fun _ => hd
    refine h₂.all (reqInv_enqueue ((same_setCq _).nowhere hn) ?_ rfl hst hn.timer)
    rintro (hu | ⟨-, hu, -⟩)
    · exact absurd (hl.symm.trans hu) (by decide)
    · cases hu
  | @reap q r rest hc hq =>
    obtain ⟨hlife, hdone⟩ := h.comp q r (hc ▸ List.mem_cons_self)
    exact (h.cqPop hc).all ((hr r).cqPop hlife hdone)
  | @destroy r hasync hcq => exact (h.freeReq r).all (hr r).freeReq
  | close hq => exact h.setCq fun _ => id
  | send hq hi => exact h.sendCancel
  | check hq => exact h.checkDone
  | @free q r rest hq hc =>
    obtain ⟨hlife, hdone⟩ := h.comp q r (hc ▸ List.mem_cons_self)
    have hpop : ReqInv (cqPop s q r rest) r := (hr r).cqPop hlife hdone
    exact (((h.cqPop hc).all hpop).freeReq r).all hpop.freeReq
  | closed hq => exact h.setCq fun _ => id
  | @run act w r a s₁ hrun =>
    have hh := hrun.inHand (hr r)
    have hd := processRequest_handled (w := w) (a := a) hh.fresh
    exact (hd.others (hrun.others h) hrun.moving).all
      (hd.reqInv (hrun.others h) hh fun i => hok _ _ _ _ i hrun)
  | cancel hi hq => exact (h.popCancel hq).setJobs _
  | snapshot hi ht => exact h.takeEvents
  | input => exact h.input
  | publish hm hp => exact (h.publish hm).all ((hr _).publish hm)
  | push hm hp => exact (h.push hm).all ((hr _).push hm hp)
  | skip hm hj hack => exact h.setJobs _
  | ack hm hj => exact (h.setJobs _).setCq fun _ => id

lemma step_reqInv (h : Inv ReqInv (fun _ => True) s) (hok : Resumable s act) :
    Inv ReqInv (fun _ => True) (Req.step s act) := by
  rcases step_trans s act with he | ht
  · rwa [he]
  · exact ht.reqInv h hok

lemma reqInv_init (x : ReqId) : ReqInv ({} : Sys n) x :=
  ⟨fun ha => (by cases ha.live), fun _ ha => (by cases ha.live), fun _ => ⟨⟨rfl, nofun⟩, nowhere_init x⟩,
    fun _ h => (by cases h), fun _ _ _ h => by cases h⟩

theorem no_request_lost (acts : List (Act n)) (hok : Meets Req.step Resumable {} acts)
    (hr : Active ((run Req.step {} acts).reqs r)) (hm : ¬BeingMoved (run Req.step {} acts) r) :
    OnPending (run Req.step {} acts) r ∨ InQueue (run Req.step {} acts) r ∨
      TimerSet ((run Req.step {} acts).reqs r) := by
  have h := run_invariant (fun s e hs he => step_reqInv hs he) (Inv.init reqInv_init) hok
  rcases (h.each r trivial).held hr with hq | hp | ht | hb
  · exact .inr (.inl hq)
  · exact .inl hp
  · exact .inr (.inr ht)
  · exact absurd hb hm

def oneRoute (w : Fin 2) : Answers 2 :=
  { io := { now := 1, routes := List.replicate 6 ⟨some plainRoute, some plainRoute⟩ }, target := w }

def connectRun : List (Act 2) :=
  [.call 0 (.socket (.tcp (tcpPcbInit false {}) [])) none worker0, .pop worker0 (oneRoute worker0),
    .call 1 (.connect none) (some 0) worker0, .pop worker0 (oneRoute worker0)]

def lostRun : List (Act 2) := connectRun ++
  [.input worker0 0 (.segment (bareSegment (plainHdr 7 1 { rst := true, ack := true })) (oneRoute worker0).io) true,
    .pendingTask worker0 0, .resume worker0 (oneRoute worker0), .call 2 (.connect none) (some 0) worker0,
    .pop worker0 (oneRoute worker1), .resume worker0 (oneRoute worker0), .resume worker0 (oneRoute worker0),
    .pop worker1 (oneRoute worker1), .pendingTask worker1 0, .resume worker1 (oneRoute worker1)]

/-- The moved task wakes the second `connect` in SYN_SENT, and nothing will run it again. -/
theorem woken_connect_is_lost : Active ((run Req.step {} lostRun).reqs 2) ∧ ¬BeingMoved (run Req.step {} lostRun) 2 ∧
    ¬(OnPending (run Req.step {} lostRun) 2 ∨ InQueue (run Req.step {} lostRun) 2 ∨
      TimerSet ((run Req.step {} lostRun).reqs 2)) := by
  have hmoving : ∀ w, ((run Req.step {} lostRun).moving w).isNone = true := by decide
  have hqueue : ∀ w, (run Req.step {} lostRun).queue w = [] := by decide
  have hentry : ((run Req.step {} lostRun).reqs 2).entry = some 0 := by decide
  have hpending : ((run Req.step {} lostRun).socks 0).pending = [] := by decide
  have htimer : ((run Req.step {} lostRun).reqs 2).timeoutTask.isNone = true := by decide
  refine ⟨⟨by decide, by decide, by decide⟩, ?_, ?_⟩
  · rintro ⟨w, m, hm, -⟩
    have := hmoving w
    rw [hm] at this
    cases this
  · rintro (⟨i, hi, hp⟩ | ⟨w, hw⟩ | ⟨t, ht, -⟩)
    · obtain rfl := Option.some.inj (hentry.symm.trans hi)
      rw [hpending] at hp
      cases hp
    · rw [hqueue] at hw
      cases hw
    · rw [ht] at htimer
      cases htimer

lemma Stalls.started {q : Req n} {p : Proto} (h : Stalls q a p) :
    q.status = .waitingConnect ∨ a.looped = some .synReceived := by
  cases p with
  | tcp t l => exact h.2.imp_left And.left
  | udp u => exact h.elim

lemma resumable_call {op : Op} {entry : Option SockId} : Resumable s (.call r op entry w) := by
  intro w r a s₁ i hrun
  cases hrun

lemma resumable_pop (rest : List Msg) (hq : s.queue w = .req r :: rest) (hs : (s.reqs r).status = .inProgress)
    (hl : a.looped = none) : Resumable s (.pop w a) := by
  intro w r a s₁ i hrun _ _ _ _ hst
  cases hrun with
  | pop hi hq' =>
    obtain ⟨rfl, rfl⟩ : r = _ ∧ _ = _ := by simpa using hq'.symm.trans hq
    rcases hst.started with h | h
    · exact absurd (hs.symm.trans h) (by decide)
    · rw [hl] at h
      cases h

theorem no_request_lost_connect :
    OnPending (run Req.step {} connectRun) 1 ∨ InQueue (run Req.step {} connectRun) 1 ∨
      TimerSet ((run Req.step {} connectRun).reqs 1) := by
  have hmoving : ∀ w, ((run Req.step {} connectRun).moving w).isNone = true := by decide
  have hr : Active ((run Req.step {} connectRun).reqs 1) :=
    ⟨by decide, by decide, by decide⟩
  have hok : Meets Req.step Resumable {} connectRun := by
    refine ⟨resumable_call, resumable_pop (r := 0) [] ?_ ?_ rfl, resumable_call,
      resumable_pop (r := 1) [] ?_ ?_ rfl, trivial⟩
    all_goals decide
  refine no_request_lost connectRun hok hr ?_
  rintro ⟨w, m, hm, -⟩
  have := hmoving w
  rw [hm] at this
  cases this

end Netfast.Req
