import Netfast.Req.Handled

/-! Every step of the system, with the conditions under which it does something. -/

namespace Netfast.Req

variable {n : ℕ} {s : Sys n}

inductive Runs (s : Sys n) : Act n → Fin n → ReqId → Answers n → Sys n → Prop
  | pop {w r a rest} (hi : idle s w = true) (hq : s.queue w = .req r :: rest) :
    Runs s (.pop w a) w r a (s.setQueue w rest)
  | fire {w r a} (hi : idle s w = true) (hd : due (s.reqs r) w a.io.now = true) :
    Runs s (.fire w r a) w r a (unregister s r)
  | wake {w i r e a js} (hm : s.moving w = none) (hj : s.jobs w = .wake i r e :: js)
    (hp : r ∈ (s.socks i).pending) (hw : wakes (s.reqs r) e = true) :
    Runs s (.resume w a) w r a (detach (s.setJobs w js) r)
  | cancel {w r a js} (hm : s.moving w = none) (hj : s.jobs w = .cancel r :: js)
    (hw : (s.reqs r).worker = some w) (hd : (s.reqs r).done = false) :
    Runs s (.resume w a) w r a ((s.setJobs w js).setReq r fun x => { x with asyncCancel := true })

inductive Trans (s : Sys n) : Act n → Sys n → Prop
  | call {r op entry w dst} (ha : aimWorker s entry w = some dst) (hu : (s.reqs r).life = .unborn) :
    Trans s (.call r op entry w) (call s r op entry dst)
  | ret {r} (hd : (s.reqs r).done = true) : Trans s (.ret r) (freeReq s r)
  | create {r op entry} (hu : (s.reqs r).life = .unborn) :
    Trans s (.create r op entry) (s.setReq r fun _ => { life := .live, async := true, op, entry })
  | submit {q r w dst} (ha : aimWorker s (s.reqs r).entry w = some dst) (hq : (s.cqs q).phase = .open)
    (hl : (s.reqs r).life = .live) (hasync : (s.reqs r).async = true) (hd : (s.reqs r).done = false)
    (hcq : (s.reqs r).cq = none) : Trans s (.submit q r w) (submit s q r dst)
  | reap {q r rest} (hc : (s.cqs q).completions = r :: rest) (hq : (s.cqs q).phase = .open) :
    Trans s (.reap q) (cqPop s q r rest)
  | destroy {r} (hasync : (s.reqs r).async = true) (hcq : (s.reqs r).cq = none) :
    Trans s (.destroy r) (freeReq s r)
  | close {q} (hq : (s.cqs q).phase = .open) :
    Trans s (.close q) (s.setCq q fun c => { c with phase := .visiting 0 })
  | send {q i} (hq : (s.cqs q).phase = .visiting i) (h : i < n) : Trans s (.send q) (sendCancel s q ⟨i, h⟩)
  | check {q i} (hq : (s.cqs q).phase = .visiting i) : Trans s (.check q) (checkDone s q)
  | free {q r rest} (hq : (s.cqs q).phase = .freeing) (hc : (s.cqs q).completions = r :: rest) :
    Trans s (.free q) (freeReq (cqPop s q r rest) r)
  | closed {q} (hq : (s.cqs q).phase = .freeing) :
    Trans s (.free q) (s.setCq q fun c => { c with phase := .closed })
  | run {act w r a s₁} (h : Runs s act w r a s₁) : Trans s act (processRequest s₁ w r a)
  | cancel {w a q rest} (hi : idle s w = true) (hq : s.queue w = .cancel q :: rest) :
    Trans s (.pop w a)
      ((s.setQueue w rest).setJobs w ((s.cqs q).submitReqs.map .cancel ++ [.ack q]))
  | snapshot {w i} (hi : idle s w = true) (ht : (s.socks i).pendingTask = some (w, true)) :
    Trans s (.pendingTask w i) (takeEvents s w i)
  | input {w i e alloc} : Trans s (.input w i e alloc) (input s i alloc e (s.socks i).proto)
  | publish {w a m} (hm : s.moving w = some m) (hp : m.published = false) :
    Trans s (.resume w a) (publish s w m)
  | push {w a m} (hm : s.moving w = some m) (hp : m.published = true) : Trans s (.resume w a) (push s w m)
  | skip {w a j js} (hm : s.moving w = none) (hj : s.jobs w = j :: js) (hack : ∀ q, j ≠ .ack q) :
    Trans s (.resume w a) (s.setJobs w js)
  | ack {w a q js} (hm : s.moving w = none) (hj : s.jobs w = .ack q :: js) :
    Trans s (.resume w a) ((s.setJobs w js).setCq q fun c => { c with phase := .visiting (w + 1) })

lemma resume_trans (s : Sys n) (w : Fin n) (a : Answers n) :
    resume s w a = s ∨ Trans s (.resume w a) (resume s w a) := by
  rw [resume]
  cases hm : s.moving w with
  | some m =>
    dsimp only
    split
    · next hp => exact .inr (.push hm hp)
    · next hp => exact .inr (.publish hm (by simpa using hp))
  | none =>
    cases hj : s.jobs w with
    | nil => exact .inl rfl
    | cons j js =>
      right
      cases j with
      | wake i r e =>
        dsimp only [runJob]
        split
        · next h => exact .run (.wake hm hj h.1 h.2)
        · exact .skip hm hj (by simp)
      | cancel r =>
        dsimp only [runJob]
        split
        · next h => exact .run (.cancel hm hj h.1 (by simpa using h.2))
        · exact .skip hm hj (by simp)
      | ack q => exact .ack hm hj

theorem step_trans (s : Sys n) (act : Act n) : step s act = s ∨ Trans s act (step s act) := by
  cases act with
  | call r op entry w =>
    rw [step]
    split
    · next dst ha =>
      split
      · next hu => exact .inr (.call ha hu)
      · exact .inl rfl
    · exact .inl rfl
  | ret r =>
    rw [step]
    split
    · next h => exact .inr (.ret h.2.2)
    · exact .inl rfl
  | create r op entry =>
    rw [step]
    split
    · next hu => exact .inr (.create hu)
    · exact .inl rfl
  | submit q r w =>
    rw [step]
    split
    · next dst ha =>
      split
      · next h => exact .inr (.submit ha h.1 h.2.1 h.2.2.1 (by simpa using h.2.2.2.1) h.2.2.2.2)
      · exact .inl rfl
    · exact .inl rfl
  | reap q =>
    rw [step]
    split
    · next r rest hc =>
      split
      · next hq => exact .inr (.reap hc hq)
      · exact .inl rfl
    · exact .inl rfl
  | destroy r =>
    rw [step]
    split
    · next h => exact .inr (.destroy h.2.1 h.2.2)
    · exact .inl rfl
  | close q =>
    rw [step]
    split
    · next hq => exact .inr (.close hq)
    · exact .inl rfl
  | send q =>
    rw [step]
    split
    · next i hq =>
      split
      · next h => exact .inr (.send hq h)
      · exact .inl rfl
    · exact .inl rfl
  | check q =>
    rw [step]
    split
    · next i hq =>
      split
      · exact .inl rfl
      · exact .inr (.check hq)
    · exact .inl rfl
  | free q =>
    rw [step]
    split
    · next r rest hq hc => exact .inr (.free hq hc)
    · next hq hc => exact .inr (.closed hq)
    · exact .inl rfl
  | pop w a =>
    rw [step]
    split
    · next m rest hq =>
      split
      · next hi =>
        cases m with
        | req r => exact .inr (.run (.pop hi hq))
        | cancel q => exact .inr (.cancel hi hq)
      · exact .inl rfl
    · exact .inl rfl
  | fire w r a =>
    rw [step]
    split
    · next h => exact .inr (.run (.fire h.1 h.2))
    · exact .inl rfl
  | pendingTask w i =>
    rw [step]
    split
    · next h => exact .inr (.snapshot h.1 h.2)
    · exact .inl rfl
  | input w i e alloc =>
    rw [step]
    split
    · exact .inr .input
    · exact .inl rfl
  | resume w a => exact resume_trans s w a

/-! The places that hold a request, and invariants kept request by request. -/

variable {s' s₁ : Sys n} {r x : ReqId} {i : SockId} {w : Fin n} {a : Answers n} {act : Act n}

/-- The request has been handed to the workers and has not been completed. -/
structure Active (q : Req n) : Prop where
  live : q.life = .live
  open_ : q.done = false
  sent : q.async = true → q.cq ≠ none

lemma Active.of_eq {q q' : Req n} (h : Active q') (hl : q'.life = q.life) (hd : q'.done = q.done)
    (hasync : q'.async = q.async) (hcq : q'.cq = q.cq) : Active q :=
  ⟨hl ▸ h.live, hd ▸ h.open_, hasync ▸ hcq ▸ h.sent⟩

def Unsent (q : Req n) : Prop := q.life = .unborn ∨ (q.async = true ∧ q.cq = none ∧ q.done = false)

def InQueue (s : Sys n) (r : ReqId) : Prop := ∃ w, .req r ∈ s.queue w

def OnPending (s : Sys n) (r : ReqId) : Prop := ∃ i, (s.reqs r).entry = some i ∧ r ∈ (s.socks i).pending

def TimerSet (q : Req n) : Prop := ∃ t, q.timeoutTask = some t ∧ t.registered = true

def BeingMoved (s : Sys n) (r : ReqId) : Prop := ∃ w m, s.moving w = some m ∧ m.r = r

structure Loose (s : Sys n) (x : ReqId) : Prop where
  queue : ∀ w, .req x ∉ s.queue w
  moving : ∀ w m, s.moving w = some m → m.r ≠ x

lemma Same.loose (h : Same s s' x) (hx : Loose s x) : Loose s' x :=
  ⟨fun w hw => hx.queue w ((h.mem_queue w).1 hw), fun w m hm hr => hx.moving w m ((h.moved w m hr).1 hm) hr⟩

structure Nowhere (s : Sys n) (x : ReqId) : Prop extends Loose s x where
  pending : ∀ i, x ∉ (s.socks i).pending
  timer : (s.reqs x).timeoutTask = none

lemma Same.nowhere (h : Same s s' x) (hx : Nowhere s x) : Nowhere s' x :=
  { h.loose hx.toLoose with
    pending := fun i hi => hx.pending i ((h.waits i).1 hi)
    timer := h.req ▸ hx.timer }

structure Sole (s : Sys n) (x : ReqId) : Prop where
  queued : ∀ w, .req x ∈ s.queue w → (s.reqs x).worker = some w
  once : ∀ w, (s.queue w).count (.req x) ≤ 1
  apart : ∀ w w' m, .req x ∈ s.queue w → s.moving w' = some m → m.r ≠ x
  moved : ∀ w m, s.moving w = some m → m.r = x → (s.reqs x).worker = some (if m.published then m.dst else w)
  mover : ∀ w w' m m', s.moving w = some m → m.r = x → s.moving w' = some m' → m'.r = x → w = w'

lemma Same.sole (h : Same s s' x) (hx : Sole s x) : Sole s' x where
  queued w hw := h.req ▸ hx.queued w ((h.mem_queue w).1 hw)
  once w := (h.queued w).le.trans (hx.once w)
  apart w w' m hw hm hr := hx.apart w w' m ((h.mem_queue w).1 hw) ((h.moved w' m hr).1 hm) hr
  moved w m hm hr := h.req ▸ hx.moved w m ((h.moved w m hr).1 hm) hr
  mover w w' m m' hm hr hm' hr' := hx.mover w w' m m' ((h.moved w m hr).1 hm) hr ((h.moved w' m' hr').1 hm') hr'

lemma Loose.sole (h : Loose s x) : Sole s x where
  queued w hw := absurd hw (h.queue w)
  once w := by rw [List.count_eq_zero_of_not_mem (h.queue w)]; exact Nat.zero_le 1
  apart w _ _ hw := absurd hw (h.queue w)
  moved w m hm hr := absurd hr (h.moving w m hm)
  mover w _ m _ hm hr := absurd hr (h.moving w m hm)

lemma Loose.sole_enqueue (h : Loose s x) (hw : (s.reqs x).worker = some w) : Sole (enqueue s w (.req x)) x := by
  have hqueue (w' : Fin n) : (enqueue s w (.req x)).queue w' =
      if w' = w then s.queue w ++ [.req x] else s.queue w' := Function.update_apply ..
  refine ⟨fun w' hm => ?_, fun w' => ?_, fun _ w' m _ hm => h.moving w' m hm,
    fun w' m hm hr => absurd hr (h.moving w' m hm), fun w' _ m _ hm hr => absurd hr (h.moving w' m hm)⟩
  · rw [hqueue] at hm
    by_cases hww : w' = w
    · exact hww ▸ hw
    · rw [if_neg hww] at hm
      exact absurd hm (h.queue w')
  · rw [hqueue]
    split
    · rw [List.count_append, List.count_eq_zero_of_not_mem (h.queue w)]
      simp
    · rw [List.count_eq_zero_of_not_mem (h.queue w')]
      exact Nat.zero_le 1

lemma Sole.pop {rest : List Msg} (h : Sole s x) (hq : s.queue w = .req x :: rest) :
    (s.reqs x).worker = some w ∧ Loose (s.setQueue w rest) x := by
  have hmem : .req x ∈ s.queue w := hq ▸ List.mem_cons_self
  refine ⟨h.queued w hmem, fun w' hw' => ?_, fun w' m hm => h.apart w w' m hmem hm⟩
  by_cases hww : w' = w
  · -- the queue held it once
    subst hww
    have hone := h.once w'
    have hrest : 0 < rest.count (.req x) := List.count_pos_iff.2 (by simpa using hw')
    rw [hq, List.count_cons_self] at hone
    omega
  · have hw'' : .req x ∈ s.queue w' := by simpa [hww] using hw'
    exact hww (Option.some.inj ((h.queued w' hw'').symm.trans (h.queued w hmem)))

lemma mem_enqueue (s : Sys n) (w : Fin n) (m : Msg) : m ∈ (enqueue s w m).queue w := by simp [enqueue]

variable {m : Moving n}

lemma beginMove_moving {dst w' : Fin n} (h : (beginMove s w r dst).moving w' = some m) :
    (w' = w ∧ m = ⟨r, dst, false⟩) ∨ s.moving w' = some m := by
  by_cases hw : w' = w
  · subst hw
    exact .inl ⟨rfl, by simpa [beginMove, eq_comm] using h⟩
  · exact .inr (by simpa [beginMove, hw] using h)

lemma Loose.sole_beginMove {dst : Fin n} (h : Loose s x) (hw : (s.reqs x).worker = some w) :
    Sole (beginMove s w x dst) x := by
  have honly (w' : Fin n) (m : Moving n) (hm : (beginMove s w x dst).moving w' = some m) (hr : m.r = x) :
      w' = w ∧ m = ⟨x, dst, false⟩ :=
    (beginMove_moving hm).resolve_right fun hm => h.moving w' m hm hr
  refine ⟨fun w' hq => absurd hq (h.queue w'), h.sole.once, fun w' _ _ hq => absurd hq (h.queue w'), ?_, ?_⟩
  · intro w' m hm hr
    obtain ⟨rfl, rfl⟩ := honly w' m hm hr
    exact hw
  · intro w₁ w₂ m₁ m₂ hm₁ hr₁ hm₂ hr₂
    rw [(honly w₁ m₁ hm₁ hr₁).1, (honly w₂ m₂ hm₂ hr₂).1]

lemma publish_moving {m m' : Moving n} {w' : Fin n} (h : (publish s w m).moving w' = some m') :
    (w' = w ∧ m' = { m with published := true }) ∨ (w' ≠ w ∧ s.moving w' = some m') := by
  by_cases hw : w' = w
  · subst hw
    exact .inl ⟨rfl, by simpa [publish, eq_comm] using h⟩
  · exact .inr ⟨hw, by simpa [publish, hw] using h⟩

lemma publish_self (s : Sys n) (w : Fin n) (m : Moving n) :
    (publish s w m).reqs m.r = { s.reqs m.r with worker := some m.dst } := Function.update_self ..

lemma Sole.publish (h : Sole s m.r) (hm : s.moving w = some m) : Sole (publish s w m) m.r := by
  -- its only mover is `w`
  have honly (w' : Fin n) (m' : Moving n) (h' : (Req.publish s w m).moving w' = some m') (hr : m'.r = m.r) :
      w' = w ∧ m' = { m with published := true } :=
    (publish_moving h').resolve_right fun ⟨hne, h'⟩ => hne (h.mover w' w m' m h' hr hm rfl)
  refine ⟨fun w' hq => absurd rfl (h.apart w' w m hq hm), h.once, fun w' _ _ hq _ => absurd rfl (h.apart w' w m hq hm),
    fun w' m' h' hr => ?_, fun w₁ w₂ m₁ m₂ h₁ hr₁ h₂ hr₂ => ?_⟩
  · obtain ⟨rfl, rfl⟩ := honly w' m' h' hr
    rw [publish_self, if_pos rfl]
  · exact (honly w₁ m₁ h₁ hr₁).1.trans (honly w₂ m₂ h₂ hr₂).1.symm

lemma push_self (s : Sys n) (w : Fin n) (m : Moving n) :
    (push s w m).reqs m.r = { s.reqs m.r with timeoutTask := none } := by simp [push]

lemma push_queue (s : Sys n) (w w' : Fin n) (m : Moving n) : (push s w m).queue w' =
    if w' = m.dst then s.queue m.dst ++ [.req m.r] else s.queue w' := by
  simp [push, Function.update_apply]

lemma push_moving {m m' : Moving n} {w' : Fin n} (h : (push s w m).moving w' = some m') :
    w' ≠ w ∧ s.moving w' = some m' := by
  by_cases hw : w' = w
  · subst hw
    simp [push] at h
  · exact ⟨hw, by simpa [push, hw] using h⟩

lemma push_socks (s : Sys n) (w : Fin n) (m : Moving n) : (push s w m).socks = (detach s m.r).socks := rfl

lemma Sole.push (h : Sole s m.r) (hm : s.moving w = some m) (hp : m.published = true) : Sole (push s w m) m.r := by
  have hno (w' : Fin n) : .req m.r ∉ s.queue w' := fun hq => h.apart w' w m hq hm rfl
  have hgone (w' : Fin n) (m' : Moving n) (h' : (Req.push s w m).moving w' = some m') : m'.r ≠ m.r := fun hr =>
    (push_moving h').1 (h.mover w' w m' m (push_moving h').2 hr hm rfl)
  refine ⟨fun w' hq => ?_, fun w' => ?_, fun _ w' m' _ h' => hgone w' m' h',
    fun w' m' h' hr => absurd hr (hgone w' m' h'), fun w' _ m' _ h' hr => absurd hr (hgone w' m' h')⟩
  · rw [push_queue] at hq
    split at hq
    · next hw =>
      have := h.moved w m hm rfl
      rw [hp, if_pos rfl] at this
      rw [push_self, hw]
      exact this
    · exact absurd hq (hno w')
  · rw [push_queue]
    split
    · rw [List.count_append, List.count_eq_zero_of_not_mem (hno _)]
      simp
    · rw [List.count_eq_zero_of_not_mem (hno _)]
      exact Nat.zero_le 1

def Settled (s s' : Sys n) : Prop :=
  ∀ i w, (s.socks i).entryWorker = some w → (s.socks i).fdEntry = false →
    (s'.socks i).entryWorker = some w ∧ (s'.socks i).fdEntry = false

lemma Settled.of_eq (h : ∀ i, (s'.socks i).entryWorker = (s.socks i).entryWorker ∧
    (s'.socks i).fdEntry = (s.socks i).fdEntry) : Settled s s' := fun i _ he hf =>
  ⟨(h i).1.trans he, (h i).2.trans hf⟩

lemma Eases.settled {P : ReqId → Prop} (h : Eases P s s') : Settled s s' := fun i _ he hf =>
  ⟨(h.entryWorker i).trans he, h.fdEntry i hf⟩

structure Finishes (s s' : Sys n) (x : ReqId) : Prop where
  waiting : ∃ i, x ∈ (s.socks i).pending
  req : ∃ ret, s'.reqs x = (s.reqs x).finish ret
  queue : s'.queue = s.queue
  moving : s'.moving = s.moving
  sub : ∀ i, x ∈ (s'.socks i).pending → x ∈ (s.socks i).pending
  out : ∀ i, (s.reqs x).entry = some i → x ∉ (s'.socks i).pending

class Tracks (I : Sys n → ReqId → Prop) : Prop where
  same : ∀ {s s' x}, I s x → Same s s' x → Settled s s' → I s' x
  finishes : ∀ {s s' x}, I s x → Finishes s s' x → I s' x

structure Inv (I : Sys n → ReqId → Prop) (A : ReqId → Prop) (s : Sys n) : Prop where
  each : ∀ x, A x → I s x
  bare : ∀ i, (s.socks i).entryWorker = none → (s.socks i).pending = []
  blank : ∀ x, (s.reqs x).life = .unborn → (s.reqs x).cq = none
  comp : ∀ q, ∀ x ∈ (s.cqs q).completions, (s.reqs x).life ≠ .unborn ∧ (s.reqs x).done = true

structure Onward (q q' : Req n) : Prop where
  keeps : q.life ≠ .unborn → q'.life ≠ .unborn ∧ (q.done = true → q'.done = true)
  blank : q'.life = .unborn → q.life = .unborn ∧ q'.cq = q.cq

lemma Onward.of_eq {q q' : Req n} (hl : q'.life = q.life) (hd : q'.done = q.done) (hc : q'.cq = q.cq) :
    Onward q q' := ⟨fun h => ⟨hl ▸ h, fun h => hd.trans h⟩, fun h => ⟨hl ▸ h, hc⟩⟩

lemma Eases.life_eq {P : ReqId → Prop} (h : Eases P s s') (x : ReqId) : (s'.reqs x).life = (s.reqs x).life := by
  rcases h.each x with h | ⟨-, -, ⟨ret, h⟩, -⟩
  · rw [h.1]
  · rw [h, Req.finish]

variable {q : CqId}

namespace Inv

variable {I : Sys n → ReqId → Prop}

lemma but (h : Inv I (fun _ => True) s) (r : ReqId) : Inv I (· ≠ r) s :=
  { h with each := fun x _ => h.each x trivial }

lemma all (h : Inv I (· ≠ r) s) (hr : I s r) : Inv I (fun _ => True) s :=
  { h with each := fun x _ => if hx : x = r then hx ▸ hr else h.each x hx }

variable [Tracks I]

lemma eases {A P : ReqId → Prop} (h : Inv I A s) (he : Eases P s s')
    (hP : ∀ x, A x → P x → ∃ i, x ∈ (s.socks i).pending) : Inv I A s' where
  each x hA := by
    rcases he.same_or x with hs | ⟨hPx, -, hx, hout⟩
    · exact Tracks.same (h.each x hA) hs he.settled
    · exact Tracks.finishes (h.each x hA) ⟨hP x hA hPx, hx, he.queue, he.moving, fun i hi => (he.sub i).subset hi, hout⟩
  bare i hi := by
    have := he.sub i
    rw [h.bare i ((he.entryWorker i).symm.trans hi)] at this
    exact List.sublist_nil.1 this
  blank x hx := (he.cq_eq x).trans (h.blank x ((he.life_eq x).symm.trans hx))
  comp q x hx := by
    rw [he.life_eq]
    rcases he.completions q x hx with hx | ⟨hd, hq⟩
    · exact ⟨(h.comp q x hx).1, he.done_mono (h.comp q x hx).2⟩
    · refine ⟨fun hl => ?_, hd⟩
      rw [h.blank x hl] at hq
      cases hq

lemma others (h : Inv I (· ≠ r) s) (hs : ∀ x, x ≠ r → Same s s' x) (hl : Settled s s')
    (hb : ∀ i, (s'.socks i).entryWorker = none →
      (s.socks i).entryWorker = none ∧ ∀ x ∈ (s'.socks i).pending, x ∈ (s.socks i).pending)
    (hq : ∀ q, ∀ x ∈ (s'.cqs q).completions, x ∈ (s.cqs q).completions)
    (hr : Onward (s.reqs r) (s'.reqs r)) : Inv I (· ≠ r) s' where
  each x hx := Tracks.same (h.each x hx) (hs x hx) hl
  bare i hi := by
    refine List.eq_nil_iff_forall_not_mem.2 fun x hx => ?_
    have := (hb i hi).2 x hx
    rw [h.bare i (hb i hi).1] at this
    cases this
  blank x hx := by
    by_cases hxr : x = r
    · subst hxr
      exact (hr.blank hx).2.trans (h.blank x (hr.blank hx).1)
    · rw [(hs x hxr).req] at hx ⊢
      exact h.blank x hx
  comp q x hx := by
    have hc := h.comp q x (hq q x hx)
    by_cases hxr : x = r
    · subst hxr
      exact ⟨(hr.keeps hc.1).1, (hr.keeps hc.1).2 hc.2⟩
    · rwa [(hs x hxr).req]

lemma ofReq (h : Inv I (· ≠ r) s) (hs : ∀ x, x ≠ r → Same s s' x) (hk : s'.socks = s.socks) (hq : s'.cqs = s.cqs)
    (hr : Onward (s.reqs r) (s'.reqs r)) : Inv I (· ≠ r) s' :=
  h.others hs (.of_eq fun i => by rw [hk]; exact ⟨rfl, rfl⟩) (fun i hi => by rw [hk] at hi ⊢; exact ⟨hi, fun _ => id⟩)
    (fun q x hx => by rwa [hq] at hx) hr

lemma same (h : Inv I (fun _ => True) s) (hs : ∀ x, Same s s' x)
    (hk : ∀ i, (s'.socks i).entryWorker = (s.socks i).entryWorker ∧ (s'.socks i).fdEntry = (s.socks i).fdEntry)
    (hq : ∀ q, ∀ x ∈ (s'.cqs q).completions, x ∈ (s.cqs q).completions) : Inv I (fun _ => True) s' where
  each x _ := Tracks.same (h.each x trivial) (hs x) (.of_eq hk)
  bare i hi := by
    refine List.eq_nil_iff_forall_not_mem.2 fun x hx => ?_
    have := ((hs x).waits i).1 hx
    rw [h.bare i ((hk i).1.symm.trans hi)] at this
    cases this
  blank x hx := (hs x).req ▸ h.blank x ((hs x).req ▸ hx)
  comp q x hx := (hs x).req ▸ h.comp q x (hq q x hx)

lemma setCq {f : Cq n → Cq n} (h : Inv I (fun _ => True) s)
    (hf : ∀ x ∈ (f (s.cqs q)).completions, x ∈ (s.cqs q).completions) : Inv I (fun _ => True) (s.setCq q f) := by
  refine h.same (fun x => same_setCq f) (fun _ => ⟨rfl, rfl⟩) fun q' x hx => ?_
  by_cases hq : q' = q
  · subst hq
    exact hf x (by simpa using hx)
  · simpa [hq] using hx

end Inv

/-! A handler at work on `r` leaves the other requests. -/

section

variable {I : Sys n → ReqId → Prop} [Tracks I]

omit [Tracks I] in
lemma Prepared.same {A : ReqId → Prop} (h : Inv I A s) (hp : Prepared s r s₁) : Same s s₁ r := by
  have hself {s₁} (he : Eases (OtherWaiter s r) s s₁) : Same s s₁ r :=
    (he.same_or r).resolve_right fun h => h.1.1 rfl
  cases hp with
  | plain he => exact hself he
  | placed he slot p dst hs =>
    have hnil : (s.socks slot).pending = [] := h.bare slot ((he.entryWorker slot).symm.trans hs)
    have hsub := he.sub slot
    rw [hnil] at hsub
    exact (hself he).trans (same_place (List.sublist_nil.1 hsub))

lemma Prepared.others (h : Inv I (· ≠ r) s) (hp : Prepared s r s₁) : Inv I (· ≠ r) s₁ := by
  cases hp with
  | plain he => exact h.eases he fun x _ hx => hx.2
  | placed he slot p dst hs =>
    have h₁ := h.eases he fun x _ hx => hx.2
    refine h₁.others (fun x _ => same_place (h₁.bare slot hs)) (fun i w hi hf => ?_) (fun i hi => ?_)
      (fun _ _ => id) (.of_eq rfl rfl rfl)
    · have hne : i ≠ slot := by
        rintro rfl
        rw [hs] at hi
        cases hi
      simpa [place, hne] using ⟨hi, hf⟩
    · by_cases hne : i = slot
      · subst hne
        simp [place] at hi
      · refine ⟨?_, fun x => ?_⟩ <;> simpa [place, hne] using hi

lemma Inv.attach {f : Req n → Req n} (h : Inv I (· ≠ r) s) (hw : (s.socks i).entryWorker = some w)
    (hf : Onward (s.reqs r) (f (s.reqs r))) : Inv I (· ≠ r) (attach (s.setReq r f) i r) := by
  have hsock (j : SockId) : ((Req.attach (s.setReq r f) i r).socks j).entryWorker = (s.socks j).entryWorker ∧
      ((Req.attach (s.setReq r f) i r).socks j).fdEntry = (s.socks j).fdEntry := by
    by_cases hj : j = i
    · subst hj
      simp only [Req.attach, Function.update_self]
      split <;> exact ⟨rfl, rfl⟩
    · simp [Req.attach, hj]
  have hreq : (Req.attach (s.setReq r f) i r).reqs r = f (s.reqs r) := Function.update_self ..
  refine h.others (fun x hx => (same_setReq hx _).trans (same_attach hx)) (.of_eq hsock) (fun j hj => ?_)
    (fun _ _ => id) (hreq ▸ hf)
  rw [(hsock j).1] at hj
  have hne : j ≠ i := by
    rintro rfl
    rw [hw] at hj
    cases hj
  exact ⟨hj, fun x => by simp [Req.attach, hne]⟩

lemma attach_setReq_self (f : Req n → Req n) : (attach (s.setReq r f) i r).reqs r = f (s.reqs r) :=
  Function.update_self ..

lemma Inv.setSocketWorker {dst : Fin n} (h : Inv I (· ≠ r) s) (hfd : (s.socks i).fdEntry = true) :
    Inv I (· ≠ r) (s.setSock i (setSocketWorker · dst)) := by
  have hsock (j : SockId) (hj : j ≠ i) : (s.setSock i (Req.setSocketWorker · dst)).socks j = s.socks j := by
    simp [hj]
  refine h.others (fun x _ => same_setSock _ Iff.rfl) (fun j w' hj hf => ?_) (fun j hj => ?_) (fun _ _ => id)
    (.of_eq rfl rfl rfl)
  · have hne : j ≠ i := by
      rintro rfl
      rw [hfd] at hf
      cases hf
    rw [hsock j hne]
    exact ⟨hj, hf⟩
  · have hne : j ≠ i := by
      rintro rfl
      simp [Req.setSocketWorker, hfd] at hj
    rw [hsock j hne] at hj ⊢
    exact ⟨hj, fun _ => id⟩

lemma Handled.others (h : Inv I (· ≠ r) s) (hm : s.moving w = none) (hd : Handled s w r a s') : Inv I (· ≠ r) s' := by
  cases hd with
  | finished hp he hd => exact (hp.others h).eases he fun x hx hr => absurd hr hx
  | spent hp hd st t hcl =>
    exact (hp.others h).ofReq (fun x hx => same_setReq hx _) rfl rfl (by simpa using .of_eq rfl rfl rfl)
  | handed hc he hw hne =>
    exact h.ofReq (fun x hx => same_beginMove hx hm) rfl rfl (.of_eq rfl rfl rfl)
  | rehomed hp hc he hw hfd hq hne =>
    exact ((hp.others h).setSocketWorker hfd).ofReq (fun x hx => same_beginMove hx (hp.moving ▸ hm)) rfl rfl
      (.of_eq rfl rfl rfl)
  | waits hp hc he hw hcl => exact (hp.others h).attach (hp.entryWorker hw) (.of_eq rfl rfl rfl)
  | armed hp hc he hw hdst hcl => exact (hp.others h).attach (hp.entryWorker hw) (.of_eq rfl rfl rfl)
  | early hc hcl hst hx => exact h
  | stalled hp hc he hw hq => exact hp.others h

lemma due_iff {q : Req n} {now : ℕ} : due q w now = true ↔
    ∃ t, q.timeoutTask = some t ∧ t.registered = true ∧ t.thread = w ∧ t.timeout ≤ now := by
  rw [due, Option.any_eq_true]
  simp [and_assoc]

lemma unregister_self {t : Task n} (ht : (s.reqs r).timeoutTask = some t) :
    (unregister s r).reqs r = { s.reqs r with timeoutTask := some { t with registered := false } } := by
  simp [unregister, ht]

lemma idle_moving (h : idle s w = true) : s.moving w = none := by
  rw [idle, Bool.and_eq_true] at h
  simpa using h.1

lemma Runs.moving (h : Runs s act w r a s₁) : s₁.moving w = none := by
  cases h with
  | pop hi hq => exact idle_moving hi
  | fire hi hd => exact idle_moving hi
  | wake hm hj hp hw =>
    rw [detach_moving]
    exact hm
  | cancel hm hj hw hd => exact hm

lemma Runs.others (h : Inv I (fun _ => True) s) (hrun : Runs s act w r a s₁) : Inv I (· ≠ r) s₁ := by
  cases hrun with
  | pop hi hq =>
    refine (h.but r).ofReq (fun x hx => same_setQueue _ ?_) rfl rfl (.of_eq rfl rfl rfl)
    rw [hq, List.count_cons_of_ne (by simpa using hx.symm)]
  | fire hi hd =>
    rw [unregister]
    exact (h.but r).ofReq (fun x hx => same_setReq hx _) rfl rfl (by simpa using .of_eq rfl rfl rfl)
  | @wake w i r e a js hm hj hp hw =>
    have hsock (j : SockId) : ((detach (s.setJobs w js) r).socks j).entryWorker = (s.socks j).entryWorker ∧
        ((detach (s.setJobs w js) r).socks j).fdEntry = (s.socks j).fdEntry := by
      rw [detach_socks]
      split <;> exact ⟨rfl, rfl⟩
    refine (h.but r).others (fun x hx => (same_setJobs js).trans (same_detach hx)) (.of_eq hsock)
      (fun j hj => ⟨(hsock j).1.symm.trans hj, fun x hx => (mem_detach.1 hx).1⟩) (fun q x => ?_) ?_
    · rw [detach_cqs]
      exact id
    · rw [detach_reqs]
      exact .of_eq rfl rfl rfl
  | @cancel w r a js hm hj hw hd =>
    exact (h.but r).ofReq (fun x hx => (same_setJobs js).trans (same_setReq hx _)) rfl rfl
      (by simpa using .of_eq rfl rfl rfl)

lemma Inv.enqueue {q : Req n} (h : Inv I (· ≠ r) s) (hl : q.life = .live)
    (hd : (s.reqs r).life ≠ .unborn → (s.reqs r).done = false) :
    Inv I (· ≠ r) (enqueue (s.setReq r fun _ => q) w (.req r)) := by
  have hreq : (Req.enqueue (s.setReq r fun _ => q) w (.req r)).reqs r = q := Function.update_self ..
  refine h.ofReq (fun x hx => (same_setReq hx _).trans (same_enqueue ?_)) rfl rfl ⟨fun hne => ?_, fun hb => ?_⟩
  · simpa using hx.symm
  · rw [hreq, hl]
    exact ⟨by simp, fun hdone => absurd hdone (by simp [hd hne])⟩
  · rw [hreq, hl] at hb
    cases hb

lemma Inv.create {op : Op} {entry : Option SockId} (h : Inv I (fun _ => True) s) (hu : (s.reqs r).life = .unborn) :
    Inv I (· ≠ r) (s.setReq r fun _ => { life := .live, async := true, op, entry }) := by
  refine (h.but r).ofReq (fun x hx => same_setReq hx _) rfl rfl ⟨fun hne => absurd hu hne, fun hb => ?_⟩
  simp at hb

lemma freeReq_self (s : Sys n) (r : ReqId) : (freeReq s r).reqs r = { s.reqs r with life := .freed } :=
  Function.update_self ..

lemma Inv.freeReq (h : Inv I (fun _ => True) s) (r : ReqId) : Inv I (· ≠ r) (freeReq s r) := by
  refine (h.but r).ofReq (fun x hx => ?_) rfl rfl ⟨fun _ => ?_, fun hb => ?_⟩
  · rw [Req.freeReq]
    exact same_setReq hx _
  · rw [freeReq_self]
    exact ⟨by simp, id⟩
  · rw [freeReq_self] at hb
    cases hb

lemma cqPop_self (s : Sys n) (q : CqId) (r : ReqId) (rest : List ReqId) :
    (cqPop s q r rest).reqs r = { s.reqs r with cq := none } := Function.update_self ..

lemma Inv.cqPop {rest : List ReqId} (h : Inv I (fun _ => True) s)
    (hc : (s.cqs q).completions = r :: rest) : Inv I (· ≠ r) (cqPop s q r rest) := by
  have hlife := (h.comp q r (hc ▸ List.mem_cons_self)).1
  refine (h.but r).others (fun x hx => ?_) (.of_eq fun _ => ⟨rfl, rfl⟩) (fun _ hi => ⟨hi, fun _ => id⟩)
    (fun q' x hx => ?_) ⟨fun hne => ?_, fun hb => ?_⟩
  · rw [Req.cqPop]
    exact (same_setCq _).trans (same_setReq hx _)
  · by_cases hq : q' = q
    · subst hq
      rw [hc]
      exact List.mem_cons_of_mem r (by simpa [Req.cqPop] using hx)
    · simpa [Req.cqPop, hq] using hx
  · rw [cqPop_self]
    exact ⟨hne, id⟩
  · rw [cqPop_self] at hb
    exact absurd hb hlife

lemma Inv.publish (h : Inv I (fun _ => True) s) (hm : s.moving w = some m) : Inv I (· ≠ m.r) (publish s w m) :=
  (h.but m.r).ofReq (fun _ hx => same_publish hm hx) rfl rfl (publish_self s w m ▸ .of_eq rfl rfl rfl)

lemma push_pending {j : SockId} (hx : x ∈ ((push s w m).socks j).pending) : x ∈ (s.socks j).pending :=
  (mem_detach.1 (push_socks s w m ▸ hx)).1

lemma Inv.push (h : Inv I (fun _ => True) s) (hm : s.moving w = some m) : Inv I (· ≠ m.r) (push s w m) := by
  have hsock (j : SockId) : ((Req.push s w m).socks j).entryWorker = (s.socks j).entryWorker ∧
      ((Req.push s w m).socks j).fdEntry = (s.socks j).fdEntry := by
    rw [push_socks, detach_socks]
    split <;> exact ⟨rfl, rfl⟩
  refine (h.but m.r).others (fun x hx => same_push hm hx) (.of_eq hsock)
    (fun j hj => ⟨(hsock j).1.symm.trans hj, fun _ => push_pending⟩) (fun q x hx => by simpa [Req.push] using hx)
    (push_self s w m ▸ .of_eq rfl rfl rfl)

lemma Inv.sendCancel (h : Inv I (fun _ => True) s) : Inv I (fun _ => True) (sendCancel s q w) := by
  have h₁ : Inv I (fun _ => True) (s.setCq q fun c => { c with phase := .waiting w }) := h.setCq fun _ => id
  exact h₁.same (fun x => same_enqueue (by simp)) (fun _ => ⟨rfl, rfl⟩) (fun _ _ => id)

lemma Inv.checkDone (h : Inv I (fun _ => True) s) : Inv I (fun _ => True) (checkDone s q) := by
  rw [Req.checkDone]
  exact h.setCq fun _ => id

lemma Inv.setJobs (h : Inv I (fun _ => True) s) (l : List Job) : Inv I (fun _ => True) (s.setJobs w l) :=
  h.same (fun _ => same_setJobs _) (fun _ => ⟨rfl, rfl⟩) (fun _ _ => id)

lemma Inv.popCancel {rest : List Msg} (h : Inv I (fun _ => True) s)
    (hq : s.queue w = .cancel q :: rest) : Inv I (fun _ => True) (s.setQueue w rest) := by
  refine h.same (fun x => same_setQueue rest ?_) (fun _ => ⟨rfl, rfl⟩) (fun _ _ => id)
  rw [hq, List.count_cons_of_ne (by simp)]

lemma Inv.takeEvents (h : Inv I (fun _ => True) s) : Inv I (fun _ => True) (takeEvents s w i) := by
  refine h.same (fun x => (same_setSock _ Iff.rfl).trans (same_setJobs _)) (fun j => ?_) (fun _ _ => id)
  by_cases hj : j = i
  · subst hj
    simp [Req.takeEvents]
  · simp [Req.takeEvents, hj]

lemma Inv.input {e : NetEvent} {alloc : Bool} {p : Proto} (h : Inv I (fun _ => True) s) :
    Inv I (fun _ => True) (input s i alloc e p) := h.eases (input_eases ..) fun _ _ hx => ⟨i, hx.1⟩

end

lemma nowhere_init (x : ReqId) : Nowhere ({} : Sys n) x where
  queue _ h := by cases h
  moving _ _ h := by cases h
  pending _ h := by cases h
  timer := rfl

lemma Inv.init {I : Sys n → ReqId → Prop} (h : ∀ x, I {} x) : Inv I (fun _ => True) {} :=
  ⟨fun x _ => h x, fun _ _ => rfl, fun _ _ => rfl, fun _ _ h => by cases h⟩

end Netfast.Req
