import Netfast.Req.System

/-! What the parts of a handler can do: requests are completed, one request is put somewhere, and everything
else stays. -/

namespace Netfast.Req

open Tcp Udp

variable {n : ℕ} {s s' s₁ s₂ s₃ : Sys n} {r x : ReqId} {i j : SockId} {w : Fin n}

structure Eases (P : ReqId → Prop) (s s' : Sys n) : Prop where
  queue : s'.queue = s.queue
  jobs : s'.jobs = s.jobs
  moving : s'.moving = s.moving
  phase : ∀ q, (s'.cqs q).phase = (s.cqs q).phase
  submitReqs : ∀ q, (s'.cqs q).submitReqs = (s.cqs q).submitReqs
  completions : ∀ q, ∀ x ∈ (s'.cqs q).completions,
    x ∈ (s.cqs q).completions ∨ ((s'.reqs x).done = true ∧ (s.reqs x).cq = some q)
  owner : ∀ i, (s'.socks i).owner = (s.socks i).owner
  entryWorker : ∀ i, (s'.socks i).entryWorker = (s.socks i).entryWorker
  fdEntry : ∀ i, (s.socks i).fdEntry = false → (s'.socks i).fdEntry = false
  task : ∀ i w, (s'.socks i).pendingTask = some (w, true) →
    (s.socks i).pendingTask = some (w, true) ∨ (s.socks i).owner = some w
  sub : ∀ i, (s'.socks i).pending.Sublist (s.socks i).pending
  each : ∀ x, (s'.reqs x = s.reqs x ∧ ∀ i, x ∈ (s'.socks i).pending ↔ x ∈ (s.socks i).pending) ∨
    (P x ∧ (s.reqs x).done = false ∧ (∃ ret, s'.reqs x = (s.reqs x).finish ret) ∧
      ∀ i, (s.reqs x).entry = some i → x ∉ (s'.socks i).pending)

variable {P Q : ReqId → Prop}

namespace Eases

lemma refl (s : Sys n) : Eases P s s :=
  ⟨rfl, rfl, rfl, fun _ => rfl, fun _ => rfl, fun _ _ h => .inl h, fun _ => rfl, fun _ => rfl, fun _ h => h,
    fun _ _ h => .inl h, fun _ => .refl _, fun _ => .inl ⟨rfl, fun _ => .rfl⟩⟩

lemma mono (h : Eases P s s') (hPQ : ∀ x, P x → Q x) : Eases Q s s' :=
  { h with each := fun x => (h.each x).imp_right fun ⟨hP, hx⟩ => ⟨hPQ x hP, hx⟩ }

lemma done (h : Eases P s s') (hd : (s.reqs x).done = true) : s'.reqs x = s.reqs x := by
  rcases h.each x with h | ⟨-, hf, -⟩
  · exact h.1
  · rw [hd] at hf
    cases hf

lemma cq_eq (h : Eases P s s') (x : ReqId) : (s'.reqs x).cq = (s.reqs x).cq := by
  rcases h.each x with h | ⟨-, -, ⟨ret, h⟩, -⟩
  · rw [h.1]
  · rw [h, Req.finish]

lemma done_mono (h : Eases P s s') (hd : (s.reqs x).done = true) : (s'.reqs x).done = true := by
  rw [h.done hd, hd]

lemma trans (h : Eases P s s₁) (h' : Eases P s₁ s') : Eases P s s' where
  queue := h'.queue.trans h.queue
  jobs := h'.jobs.trans h.jobs
  moving := h'.moving.trans h.moving
  phase q := (h'.phase q).trans (h.phase q)
  submitReqs q := (h'.submitReqs q).trans (h.submitReqs q)
  completions q x hx := by
    rcases h'.completions q x hx with hx | ⟨hd, hq⟩
    · exact (h.completions q x hx).imp_right fun ⟨hd, hq⟩ => ⟨h'.done_mono hd, hq⟩
    · exact .inr ⟨hd, (h.cq_eq x).symm.trans hq⟩
  owner i := (h'.owner i).trans (h.owner i)
  entryWorker i := (h'.entryWorker i).trans (h.entryWorker i)
  fdEntry i hf := h'.fdEntry i (h.fdEntry i hf)
  task i w ht := by
    rcases h'.task i w ht with ht | ht
    · exact h.task i w ht
    · exact .inr ((h.owner i).symm.trans ht)
  sub i := (h'.sub i).trans (h.sub i)
  each x := by
    rcases h.each x with ⟨hr, hp⟩ | ⟨hP, hd, ⟨ret, hr⟩, hp⟩
    · rw [← hr]
      exact (h'.each x).imp_left fun ⟨hr', hp'⟩ => ⟨hr', fun i => (hp' i).trans (hp i)⟩
    · -- once done, nothing more happens to it
      have hd' : (s₁.reqs x).done = true := by rw [hr, Req.finish]
      exact .inr ⟨hP, hd, ⟨ret, (h'.done hd').trans hr⟩, fun i hi hx => hp i hi ((h'.sub i).subset hx)⟩

end Eases

lemma eases_setSock (f : Sock n → Sock n) (howner : (f (s.socks i)).owner = (s.socks i).owner)
    (hentry : (f (s.socks i)).entryWorker = (s.socks i).entryWorker)
    (hfd : (s.socks i).fdEntry = false → (f (s.socks i)).fdEntry = false)
    (htask : ∀ w, (f (s.socks i)).pendingTask = some (w, true) →
      (s.socks i).pendingTask = some (w, true) ∨ (s.socks i).owner = some w)
    (hpend : (f (s.socks i)).pending = (s.socks i).pending) : Eases P s (s.setSock i f) := by
  have hs (j : SockId) : (s.setSock i f).socks j = if j = i then f (s.socks i) else s.socks j :=
    Function.update_apply ..
  refine ⟨rfl, rfl, rfl, fun _ => rfl, fun _ => rfl, fun _ _ h => .inl h, ?_, ?_, ?_, ?_, ?_, ?_⟩
  · intro j
    rw [hs]
    split <;> simp_all
  · intro j
    rw [hs]
    split <;> simp_all
  · intro j
    rw [hs]
    split <;> simp_all
  · intro j w'
    rw [hs]
    split
    · next h => exact h ▸ htask w'
    · exact .inl
  · intro j
    rw [hs]
    split
    · next h => rw [hpend, h]
    · exact .refl _
  · intro x
    refine .inl ⟨rfl, fun j => ?_⟩
    rw [hs]
    split
    · next h => rw [hpend, h]
    · exact .rfl

/-! `req_notify`. -/

@[simp] lemma detach_reqs : (detach s r).reqs = s.reqs := by
  rw [detach]
  split <;> rfl

@[simp] lemma detach_queue : (detach s r).queue = s.queue := by
  rw [detach]
  split <;> rfl

@[simp] lemma detach_jobs : (detach s r).jobs = s.jobs := by
  rw [detach]
  split <;> rfl

@[simp] lemma detach_moving : (detach s r).moving = s.moving := by
  rw [detach]
  split <;> rfl

@[simp] lemma detach_cqs : (detach s r).cqs = s.cqs := by
  rw [detach]
  split <;> rfl

lemma detach_socks (s : Sys n) (r : ReqId) (i : SockId) : (detach s r).socks i =
    if (s.reqs r).entry = some i then
      { s.socks i with pending := (s.socks i).pending.filter (· ≠ r) } else s.socks i := by
  rw [detach]
  cases he : (s.reqs r).entry with
  | none => rfl
  | some j =>
    change Function.update s.socks j _ i = _
    rw [Function.update_apply]
    by_cases h : i = j
    · simp [h]
    · rw [if_neg h, if_neg fun hj => h (Option.some.inj hj).symm]

lemma mem_detach : x ∈ ((detach s r).socks i).pending ↔
    x ∈ (s.socks i).pending ∧ ((s.reqs r).entry = some i → x ≠ r) := by
  rw [detach_socks]
  split
  · next h => simp [h]
  · next h => simp [h]

lemma reqNotify_eases (hP : P r) (ret : Result) : Eases P s (reqNotify s r ret) := by
  rw [reqNotify]
  cases hd : (s.reqs r).done with
  | true => exact .refl s
  | false =>
    rw [if_neg Bool.false_ne_true]
    -- the completion queue of `r` is the only part outside the request and its pending list
    have hsock : (complete ((detach s r).setReq r (·.finish ret)) r).socks = (detach s r).socks := by
      rw [complete]
      split <;> rfl
    have hreqs : (complete ((detach s r).setReq r (·.finish ret)) r).reqs =
        Function.update s.reqs r ((s.reqs r).finish ret) := by
      rw [complete]
      split <;> simp
    have hcq (q : CqId) : ((complete ((detach s r).setReq r (·.finish ret)) r).cqs q).phase = (s.cqs q).phase ∧
        ((complete ((detach s r).setReq r (·.finish ret)) r).cqs q).submitReqs = (s.cqs q).submitReqs ∧
        ∀ x ∈ ((complete ((detach s r).setReq r (·.finish ret)) r).cqs q).completions,
          x ∈ (s.cqs q).completions ∨ (x = r ∧ (s.reqs r).cq = some q) := by
      simp only [complete, detach_reqs, Function.update_self, Req.finish]
      cases hc : (s.reqs r).cq with
      | none => simp
      | some q' =>
        by_cases hq : q = q'
        · subst hq
          simp
        · simp +contextual [hq]
    have hrest : (complete ((detach s r).setReq r (·.finish ret)) r).queue = s.queue ∧
        (complete ((detach s r).setReq r (·.finish ret)) r).jobs = s.jobs ∧
        (complete ((detach s r).setReq r (·.finish ret)) r).moving = s.moving := by
      rw [complete]
      split <;> simp
    refine ⟨hrest.1, hrest.2.1, hrest.2.2, fun q => (hcq q).1, fun q => (hcq q).2.1, ?_, ?_, ?_, ?_, ?_, ?_, ?_⟩
    · intro q x hx
      rcases (hcq q).2.2 x hx with hx | ⟨rfl, hq⟩
      · exact .inl hx
      · exact .inr ⟨by rw [hreqs, Function.update_self, Req.finish], hq⟩
    · intro i
      rw [hsock, detach_socks]
      split <;> rfl
    · intro i
      rw [hsock, detach_socks]
      split <;> rfl
    · intro i hf
      rw [hsock, detach_socks]
      split <;> exact hf
    · intro i w ht
      rw [hsock, detach_socks] at ht
      split at ht <;> exact .inl ht
    · intro i
      rw [hsock, detach_socks]
      split
      · exact List.filter_sublist
      · exact .refl _
    · intro x
      rw [hreqs, hsock]
      by_cases hx : x = r
      · subst hx
        refine .inr ⟨hP, hd, ⟨ret, Function.update_self ..⟩, fun i hi hm => ?_⟩
        exact (mem_detach.1 hm).2 hi rfl
      · refine .inl ⟨Function.update_of_ne hx .., fun i => ?_⟩
        rw [mem_detach]
        exact ⟨And.left, fun h => ⟨h, fun _ => hx⟩⟩

lemma reqNotify_done (s : Sys n) (r : ReqId) (ret : Result) : ((reqNotify s r ret).reqs r).done = true := by
  rw [reqNotify]
  split
  · assumption
  · rw [complete]
    split <;> simp [Req.finish]

lemma reqNotify_socks (s : Sys n) (r : ReqId) (ret : Result) (i : SockId) :
    ∃ l, (reqNotify s r ret).socks i = { s.socks i with pending := l } := by
  have hd : ∃ l, (detach s r).socks i = { s.socks i with pending := l } := by
    rw [detach_socks]
    split
    · exact ⟨_, rfl⟩
    · exact ⟨_, rfl⟩
  rw [reqNotify]
  split
  · exact ⟨_, rfl⟩
  · rw [complete]
    split <;> exact hd

lemma notifyAll_socks (ret : Result) (i : SockId) :
    ∀ (l : List ReqId) (s : Sys n), ∃ p, (notifyAll s l ret).socks i = { s.socks i with pending := p }
  | [], s => ⟨_, rfl⟩
  | x :: l, s => by
    obtain ⟨p, hp⟩ := reqNotify_socks s x ret i
    obtain ⟨p', hp'⟩ := notifyAll_socks ret i l (reqNotify s x ret)
    exact ⟨p', hp'.trans (by rw [hp])⟩

lemma notifyAll_eases (ret : Result) : ∀ (l : List ReqId) (s : Sys n), (∀ x ∈ l, P x) → Eases P s (notifyAll s l ret)
  | [], s, _ => .refl s
  | x :: l, _, h =>
    (reqNotify_eases (h x List.mem_cons_self) ret).trans
      (notifyAll_eases ret l _ fun y hy => h y (List.mem_cons_of_mem x hy))

lemma completeLinger_eases
    (hP : ∀ x ∈ (s.socks i).pending, lingers s x = true → P x) : Eases P s (completeLinger s i) :=
  notifyAll_eases _ _ _ fun x hx => hP x (List.mem_of_mem_filter hx) (List.of_mem_filter hx)

lemma detachFdEntry_eases (hP : ∀ x ∈ (s.socks i).pending, P x) : Eases P s (detachFdEntry s i) :=
  .trans (eases_setSock _ rfl rfl (fun _ => rfl) (fun _ => .inl) rfl) (notifyAll_eases _ _ _ hP)

lemma detachFdEntry_fdEntry (s : Sys n) (i : SockId) : ((detachFdEntry s i).socks i).fdEntry = false := by
  have h : Eases (fun _ => True) _ (detachFdEntry s i) := notifyAll_eases _ _ _ fun _ _ => trivial
  exact h.fdEntry i (by simp)

lemma detachFdEntry_proto (s : Sys n) (i : SockId) : ((detachFdEntry s i).socks i).proto = (s.socks i).proto := by
  rw [detachFdEntry]
  obtain ⟨p, hp⟩ := notifyAll_socks (.err .ebadf) i (s.socks i).pending
    (s.setSock i fun k => { k with fdEntry := false })
  rw [hp]
  simp

lemma detachFdEntry_pending (s : Sys n) (i : SockId) (h : x ∉ (s.socks i).pending) :
    x ∉ ((detachFdEntry s i).socks i).pending := fun hx =>
  h (((detachFdEntry_eases (P := fun _ => True) fun _ _ => trivial).sub i).subset hx)

lemma socketNotifyEvent_task {k : Sock n} {e : Events} {alloc : Bool}
    (h : (socketNotifyEvent k e alloc).pendingTask = some (w, true)) :
    k.pendingTask = some (w, true) ∨ k.owner = some w := by
  rw [socketNotifyEvent] at h
  cases hp : k.pending with
  | nil =>
    rw [hp] at h
    exact .inl h
  | cons x l =>
    cases ho : k.owner with
    | none =>
      rw [hp, ho] at h
      exact .inl h
    | some o =>
      cases ht : k.pendingTask with
      | none =>
        rw [hp, ho, ht] at h
        cases alloc with
        | false => simp at h
        | true => simpa [eq_comm] using h
      | some t =>
        rw [hp, ho, ht] at h
        obtain ⟨t, registered⟩ := t
        cases registered with
        | false => exact .inr (by simpa using h)
        | true => exact .inl (by simpa using h)

lemma socketNotifyEvent_eases (e : Events) (alloc : Bool) :
    Eases P s (s.setSock i fun k => socketNotifyEvent k e alloc) := by
  have h (k : Sock n) : (socketNotifyEvent k e alloc).owner = k.owner ∧
      (socketNotifyEvent k e alloc).entryWorker = k.entryWorker ∧
      (socketNotifyEvent k e alloc).fdEntry = k.fdEntry ∧
      (socketNotifyEvent k e alloc).pending = k.pending := by
    rw [socketNotifyEvent]
    split <;> try exact ⟨rfl, rfl, rfl, rfl⟩
    split
    · split <;> exact ⟨rfl, rfl, rfl, rfl⟩
    · exact ⟨rfl, rfl, rfl, rfl⟩
  exact eases_setSock _ (h _).1 (h _).2.1 (fun hf => (h _).2.2.1.trans hf)
    (fun _ => socketNotifyEvent_task) (h _).2.2.2

def LingersOn (s : Sys n) (i : SockId) (x : ReqId) : Prop := x ∈ (s.socks i).pending ∧ lingers s x = true

lemma tell_eases (alloc : Bool) (e : Notify) : Eases (LingersOn s i) s (tell i alloc s e) := by
  cases e with
  | lingerDone => exact completeLinger_eases fun x hx hl => ⟨hx, hl⟩
  | _ => exact socketNotifyEvent_eases _ _

lemma LingersOn.of_eases (h : Eases P s s₁) (hx : LingersOn s₁ i x) : LingersOn s i x := by
  refine ⟨(h.sub i).subset hx.1, ?_⟩
  rcases h.each x with h | ⟨-, -, ⟨ret, h⟩, -⟩
  · have hl := hx.2
    rwa [lingers, h.1] at hl
  · have hl := hx.2
    simp [lingers, h, Req.finish] at hl

lemma tells_eases (alloc : Bool) (notes : List Notify) (h : Eases (LingersOn s i) s s₁) :
    Eases (LingersOn s i) s (notes.foldl (tell i alloc) s₁) := by
  induction notes generalizing s₁ with
  | nil => exact h
  | cons e notes ih => exact ih (h.trans ((tell_eases alloc e).mono fun _ => .of_eases h))

lemma settle_eases (p : Proto) (notes : List Notify) (freed alloc : Bool) :
    Eases (LingersOn s i) s (settle s i p notes freed alloc) := by
  have h : Eases (LingersOn s i) s (notes.foldl (tell i alloc) (s.setSock i fun k => { k with proto := p })) :=
    tells_eases alloc notes (eases_setSock _ rfl rfl (fun h => h) (fun _ => .inl) rfl)
  cases freed with
  | false => exact h
  | true =>
    refine h.trans (eases_setSock (fun k => { k with pendingTask := none }) rfl rfl (fun h => h) ?_ rfl)
    intro w ht
    cases ht

lemma tell_fdEntry (alloc : Bool) (e : Notify) (j : SockId) :
    ((tell i alloc s e).socks j).fdEntry = (s.socks j).fdEntry := by
  have hn (e : Events) (alloc : Bool) : (socketNotifyEvent (s.socks i) e alloc).fdEntry = (s.socks i).fdEntry := by
    rw [socketNotifyEvent]
    split <;> try rfl
    split
    · split <;> rfl
    · rfl
  cases e with
  | lingerDone =>
    obtain ⟨p, hp⟩ := notifyAll_socks (.ok 0) j ((s.socks i).pending.filter (lingers s)) s
    rw [tell, completeLinger, hp]
  | _ =>
    simp only [tell]
    by_cases hj : j = i
    · subst hj
      simpa using hn _ alloc
    · simp [hj]

lemma settle_fdEntry (s : Sys n) (p : Proto) (notes : List Notify) (freed alloc : Bool) (j : SockId) :
    ((settle s i p notes freed alloc).socks j).fdEntry = (s.socks j).fdEntry := by
  have hf : ∀ (notes : List Notify) (s : Sys n),
      ((notes.foldl (tell i alloc) s).socks j).fdEntry = (s.socks j).fdEntry := by
    intro notes
    induction notes with
    | nil => exact fun _ => rfl
    | cons e notes ih => exact fun s => (ih _).trans (tell_fdEntry alloc e j)
  have h := hf notes (s.setSock i fun k => { k with proto := p })
  have h₀ : ((s.setSock i fun k => { k with proto := p }).socks j).fdEntry = (s.socks j).fdEntry := by
    by_cases hj : j = i
    · subst hj
      simp
    · simp [hj]
  rw [settle]
  cases freed with
  | false => exact h.trans h₀
  | true =>
    rw [← h₀, ← h]
    by_cases hj : j = i
    · subst hj
      simp
    · simp [hj]

lemma input_eases (alloc : Bool) (e : NetEvent) (p : Proto) : Eases (LingersOn s i) s (input s i alloc e p) := by
  cases e <;> cases p <;> simp only [input, tcpEvent, settleTcp] <;> first
    | exact settle_eases ..
    | exact .refl s
    | (split
       · exact .refl s
       · exact settle_eases ..)

structure Same (s s' : Sys n) (x : ReqId) : Prop where
  req : s'.reqs x = s.reqs x
  queued : ∀ w, (s'.queue w).count (.req x) = (s.queue w).count (.req x)
  moved : ∀ w m, m.r = x → (s'.moving w = some m ↔ s.moving w = some m)
  waits : ∀ i, x ∈ (s'.socks i).pending ↔ x ∈ (s.socks i).pending

namespace Same

lemma refl (s : Sys n) (x : ReqId) : Same s s x := ⟨rfl, fun _ => rfl, fun _ _ _ => .rfl, fun _ => .rfl⟩

lemma trans (h : Same s s₁ x) (h' : Same s₁ s' x) : Same s s' x :=
  ⟨h'.req.trans h.req, fun w => (h'.queued w).trans (h.queued w),
    fun w m hm => (h'.moved w m hm).trans (h.moved w m hm), fun i => (h'.waits i).trans (h.waits i)⟩

lemma mem_queue (h : Same s s' x) (w : Fin n) : .req x ∈ s'.queue w ↔ .req x ∈ s.queue w := by
  rw [← List.count_pos_iff, h.queued, List.count_pos_iff]

end Same

lemma same_setReq (hx : x ≠ r) (f : Req n → Req n) : Same s (s.setReq r f) x :=
  { Same.refl s x with req := Function.update_of_ne hx .. }

lemma same_setJobs (l : List Job) : Same s (s.setJobs w l) x := { Same.refl s x with }

lemma same_setCq {q : CqId} (f : Cq n → Cq n) : Same s (s.setCq q f) x := { Same.refl s x with }

lemma same_setSock (f : Sock n → Sock n) (h : x ∈ (f (s.socks i)).pending ↔ x ∈ (s.socks i).pending) :
    Same s (s.setSock i f) x := by
  refine { Same.refl s x with waits := fun j => ?_ }
  by_cases hj : j = i
  · subst hj
    simpa using h
  · simp [hj]

lemma same_detach (hx : x ≠ r) : Same s (detach s r) x := by
  refine ⟨by rw [detach_reqs], fun w => by rw [detach_queue], fun w m _ => by rw [detach_moving], fun j => ?_⟩
  rw [mem_detach]
  exact ⟨And.left, fun h => ⟨h, fun _ => hx⟩⟩

lemma mem_attach : x ∈ ((attach s i r).socks j).pending ↔ x ∈ (s.socks j).pending ∨ (j = i ∧ x = r) := by
  rw [attach]
  by_cases hj : j = i
  · subst hj
    by_cases hr : r ∈ (s.socks j).pending
    · simp only [Function.update_self, hr, if_true, true_and]
      exact ⟨.inl, fun h => h.elim id fun h => h ▸ hr⟩
    · simp only [Function.update_self, hr, if_false, List.mem_cons, true_and]
      exact or_comm
  · simp [hj]

lemma same_attach (hx : x ≠ r) : Same s (attach s i r) x := by
  refine { Same.refl s x with waits := fun j => ?_ }
  rw [mem_attach]
  exact ⟨fun h => h.elim id fun h => absurd h.2 hx, .inl⟩

lemma same_setQueue (l : List Msg) (h : l.count (.req x) = (s.queue w).count (.req x)) :
    Same s (s.setQueue w l) x := by
  refine { Same.refl s x with queued := fun w' => ?_ }
  by_cases hw : w' = w
  · subst hw
    simpa using h
  · simp [hw]

lemma same_enqueue {m : Msg} (hx : m ≠ .req x) : Same s (enqueue s w m) x := by
  refine same_setQueue _ ?_
  rw [List.count_append, List.count_singleton, if_neg (by simpa using hx), Nat.add_zero]

lemma same_setMoving {m : Option (Moving n)} (h : ∀ m', m'.r = x → (m = some m' ↔ s.moving w = some m')) :
    Same s (s.setMoving w m) x := by
  refine { Same.refl s x with moved := fun w' m' hm => ?_ }
  by_cases hw : w' = w
  · subst hw
    simpa using h m' hm
  · simp [hw]

lemma same_beginMove {dst : Fin n} (hx : x ≠ r) (hm : s.moving w = none) : Same s (beginMove s w r dst) x := by
  refine same_setMoving fun m' hm' => ?_
  rw [hm]
  refine ⟨fun h => ?_, fun h => by cases h⟩
  obtain rfl := Option.some.inj h
  exact absurd hm'.symm hx

lemma same_publish {m : Moving n} (hm : s.moving w = some m) (hx : x ≠ m.r) : Same s (publish s w m) x := by
  refine (same_setReq hx _).trans (same_setMoving fun m' hm' => ?_)
  refine ⟨fun h => ?_, fun h => ?_⟩
  · obtain rfl := Option.some.inj h
    exact absurd hm'.symm hx
  · obtain rfl := Option.some.inj (hm.symm.trans h)
    exact absurd hm'.symm hx

lemma same_push {m : Moving n} (hm : s.moving w = some m) (hx : x ≠ m.r) : Same s (push s w m) x := by
  refine (((same_detach hx).trans (same_setReq hx _)).trans (same_enqueue ?_)).trans (same_setMoving fun m' hm' => ?_)
  · simpa using hx.symm
  · refine ⟨fun h => (by cases h), fun h => ?_⟩
    have h' : s.moving w = some m' := by simpa [enqueue] using h
    obtain rfl := Option.some.inj (hm.symm.trans h')
    exact absurd hm'.symm hx

lemma same_place {p : Proto} {dst : Fin n} (h : (s.socks i).pending = []) : Same s (place s i p dst) x := by
  rw [place]
  apply same_setSock
  rw [h]

lemma Eases.same_or (h : Eases P s s') (x : ReqId) : Same s s' x ∨
    (P x ∧ (s.reqs x).done = false ∧ (∃ ret, s'.reqs x = (s.reqs x).finish ret) ∧
      ∀ i, (s.reqs x).entry = some i → x ∉ (s'.socks i).pending) :=
  (h.each x).imp_left fun ⟨hr, hp⟩ =>
    ⟨hr, fun w => by rw [h.queue], fun w m _ => by rw [h.moving], hp⟩

end Netfast.Req
