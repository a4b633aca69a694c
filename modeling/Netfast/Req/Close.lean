import Netfast.Req.Sites

/-! Closing a completion queue: its cancel messages and its requests in the queues of the workers. -/

namespace Netfast.Req

open Run Udp

variable {n : ℕ} {s s' s₁ : Sys n} {r x : ReqId} {i : SockId} {w : Fin n} {a : Answers n} {act : Act n} {q : CqId}

def acks (js : List Job) : List Msg :=
  js.filterMap fun | .ack q => some (.cancel q) | _ => none

def line (s : Sys n) (w : Fin n) : List Msg := acks (s.jobs w) ++ s.queue w

variable {j : Job} {js : List Job}

lemma acks_cons_of_ne (h : ∀ q, j ≠ .ack q) (js : List Job) : acks (j :: js) = acks js := by
  cases j with
  | ack q => exact absurd rfl (h q)
  | wake i r e => rfl
  | cancel r => rfl

lemma acks_map {α : Type} {f : α → Job} (hf : ∀ x q, f x ≠ .ack q) (l : List α) : acks (l.map f) = [] := by
  induction l with
  | nil => rfl
  | cons x l ih => rw [List.map_cons, acks_cons_of_ne (hf x), ih]

lemma acks_append (l l' : List Job) : acks (l ++ l') = acks l ++ acks l' := List.filterMap_append

lemma idle_line (h : idle s w = true) : line s w = s.queue w := by
  rw [idle, Bool.and_eq_true, List.isEmpty_iff] at h
  rw [line, h.2]
  rfl

def Shaped (sub : CqId → List ReqId) (js : List Job) : Prop :=
  (∀ j ∈ js, ∃ i r e, j = .wake i r e) ∨ ∃ (l : List ReqId) (q : CqId), js = l.map .cancel ++ [.ack q] ∧ ∀ r ∈ l, r ∈ sub q

lemma Shaped.tail {sub : CqId → List ReqId} (h : Shaped sub (j :: js)) : Shaped sub js := by
  rcases h with h | ⟨l, q, hl, hs⟩
  · exact .inl fun j' hj' => h j' (List.mem_cons_of_mem j hj')
  · cases l with
    | nil =>
      obtain ⟨-, rfl⟩ : j = .ack q ∧ js = [] := by simpa using hl
      exact .inl nofun
    | cons r l =>
      obtain ⟨-, rfl⟩ : j = .cancel r ∧ js = l.map .cancel ++ [.ack q] := by simpa using hl
      exact .inr ⟨l, q, rfl, fun r' hr' => hs r' (List.mem_cons_of_mem r hr')⟩

lemma Shaped.cancel {sub : CqId → List ReqId} (h : Shaped sub (.cancel r :: js)) :
    ∃ q, .cancel q ∈ acks js ∧ r ∈ sub q := by
  rcases h with h | ⟨l, q, hl, hs⟩
  · obtain ⟨i, r', e, h⟩ := h _ List.mem_cons_self
    cases h
  · cases l with
    | nil => simp at hl
    | cons r' l =>
      obtain ⟨rfl, rfl⟩ : r = r' ∧ js = l.map .cancel ++ [.ack q] := by simpa using hl
      refine ⟨q, ?_, hs r List.mem_cons_self⟩
      rw [acks_append]
      exact List.mem_append_right _ List.mem_cons_self

lemma Shaped.mono {sub sub' : CqId → List ReqId} (h : Shaped sub js)
    (hs : ∀ q, .cancel q ∈ acks js → ∀ r ∈ sub q, r ∈ sub' q) : Shaped sub' js := by
  refine h.imp_right fun ⟨l, q, hl, hr⟩ => ⟨l, q, hl, fun r hr' => hs q ?_ r (hr r hr')⟩
  rw [hl, acks_append]
  exact List.mem_append_right _ (List.mem_singleton_self _)

def Clear (s : Sys n) (m m' : Msg) : Prop := ∀ q r, m = .cancel q → m' = .req r → (s.reqs r).cq ≠ some q

structure LineInv (s : Sys n) : Prop where
  owned : ∀ q, ∀ r ∈ (s.cqs q).submitReqs, (s.reqs r).cq = some q
  done : ∀ q, ∀ r ∈ (s.cqs q).completions, (s.reqs r).cq = some q ∨ (s.reqs r).cq = none
  shape : ∀ w, Shaped (fun q => (s.cqs q).submitReqs) (s.jobs w)
  once : ∀ w q, (line s w).count (.cancel q) ≤ if (s.cqs q).phase = .waiting w then 1 else 0
  order : ∀ w, (line s w).Pairwise (Clear s)
  away : ∀ w m q, s.moving w = some m → m.published = true → (s.reqs m.r).cq = some q →
    (s.cqs q).phase ≠ .waiting m.dst

variable {f : Req n → Req n}

namespace LineInv

lemma waiting (h : LineInv s) (hq : .cancel q ∈ line s w) : (s.cqs q).phase = .waiting w := by
  by_contra hp
  have := h.once w q
  rw [if_neg hp, Nat.le_zero] at this
  exact List.count_eq_zero.1 this hq

lemma loose (h : LineInv s) (hs : Sole s r) (hm : s.moving w = none)
    (hj : s.jobs w = .cancel r :: js) (hw : (s.reqs r).worker = some w) : Loose s r := by
  have hshape := h.shape w
  rw [hj] at hshape
  obtain ⟨q, hack, hsub⟩ := hshape.cancel
  have hq := h.owned q r hsub
  have hacks : .cancel q ∈ acks (s.jobs w) := by rwa [hj, acks_cons_of_ne (by simp)]
  refine ⟨fun w' hw' => ?_, fun w' m hm' hr => ?_⟩
  · obtain rfl := Option.some.inj ((hs.queued w' hw').symm.trans hw)
    exact (List.pairwise_append.1 (h.order w')).2.2 _ hacks _ hw' q r rfl rfl hq
  · have hmoved := (hs.moved w' m hm' hr).symm.trans hw
    subst hr
    cases hp : m.published with
    | false =>
      rw [hp] at hmoved
      obtain rfl : w' = w := by simpa using hmoved
      rw [hm] at hm'
      cases hm'
    | true =>
      rw [hp] at hmoved
      obtain rfl : m.dst = w := by simpa using hmoved
      exact h.away w' m q hm' hp hq (h.waiting (List.mem_append_left _ hacks))

lemma shrinks (h : LineInv s) (hline : ∀ w, (line s' w).Sublist (line s w))
    (hphase : ∀ q w, (s'.cqs q).phase = .waiting w ↔ (s.cqs q).phase = .waiting w)
    (hcq : ∀ x q, (s'.reqs x).cq = some q → (s.reqs x).cq = some q ∨ Loose s x)
    (hmoving : ∀ w m, s'.moving w = some m → m.published = true → s.moving w = some m)
    (howned : ∀ q, ∀ r ∈ (s'.cqs q).submitReqs, (s'.reqs r).cq = some q)
    (hdone : ∀ q, ∀ r ∈ (s'.cqs q).completions, (s'.reqs r).cq = some q ∨ (s'.reqs r).cq = none)
    (hshape : ∀ w, Shaped (fun q => (s'.cqs q).submitReqs) (s'.jobs w)) : LineInv s' where
  owned := howned
  done := hdone
  shape := hshape
  once w q := by
    rw [if_congr (hphase q w) rfl rfl]
    exact ((hline w).count_le _).trans (h.once w q)
  order w := by
    refine ((h.order w).sublist (hline w)).imp_of_mem fun {m m'} hm hm' hc q r hq hr hcq' => ?_
    rcases hcq r q hcq' with hcq' | hl
    · exact hc q r hq hr hcq'
    · subst hr
      have hmem := (hline w).subset hm'
      rw [line, List.mem_append] at hmem
      rcases hmem with hmem | hmem
      · obtain ⟨j, -, hj⟩ := List.mem_filterMap.1 hmem
        cases j <;> cases hj
      · exact hl.queue w hmem
  away w m q hm hp hq := by
    rw [Ne, hphase]
    rcases hcq m.r q hq with hq | hl
    · exact h.away w m q (hmoving w m hm hp) hp hq
    · exact absurd rfl (hl.moving w m (hmoving w m hm hp))

lemma shape_tail (h : LineInv s) (hj : s.jobs w = j :: js) (w' : Fin n) :
    Shaped (fun q => (s.cqs q).submitReqs) ((s.setJobs w js).jobs w') := by
  by_cases hw : w' = w
  · subst hw
    have := h.shape w'
    rw [hj] at this
    simpa using this.tail
  · simpa [hw] using h.shape w'

lemma dropJob (h : LineInv s) (hj : s.jobs w = j :: js) (hack : ∀ q, j ≠ .ack q) : LineInv (s.setJobs w js) := by
  refine h.shrinks (fun w' => ?_) (fun _ _ => .rfl) (fun _ _ => .inl) (fun _ _ hm _ => hm) h.owned h.done
    (h.shape_tail hj)
  by_cases hw : w' = w
  · subst hw
    rw [line, line, hj, acks_cons_of_ne hack]
    simp
  · simp [line, hw]

lemma popReq {rest : List Msg} (h : LineInv s) (hq : s.queue w = .req r :: rest) : LineInv (s.setQueue w rest) := by
  refine h.shrinks (fun w' => ?_) (fun _ _ => .rfl) (fun _ _ => .inl) (fun _ _ hm _ => hm) h.owned h.done h.shape
  by_cases hw : w' = w
  · subst hw
    simp [line, hq]
  · simp [line, hw]

lemma setPhase {f : Cq n → Cq n} (h : LineInv s) (hsub : ∀ c, (f c).submitReqs = c.submitReqs)
    (hcomp : ∀ c, (f c).completions = c.completions) (hp : ∀ w, (s.cqs q).phase ≠ .waiting w) (hp' : ∀ w, (f (s.cqs q)).phase ≠ .waiting w) :
    LineInv (s.setCq q f) := by
  have hs (q' : CqId) : ((s.setCq q f).cqs q').submitReqs = (s.cqs q').submitReqs ∧
      ((s.setCq q f).cqs q').completions = (s.cqs q').completions := by
    by_cases hq : q' = q
    · subst hq
      simp [hsub, hcomp]
    · simp [hq]
  refine h.shrinks (fun w' => .refl _) (fun q' w' => ?_) (fun _ _ => .inl) (fun _ _ hm _ => hm) (fun q' r hr => ?_)
    (fun q' r hr => ?_) fun w' => ?_
  · by_cases hq : q' = q
    · subst hq
      simpa using iff_of_false (hp' w') (hp w')
    · simp [hq]
  · rw [(hs q').1] at hr
    exact h.owned q' r hr
  · rw [(hs q').2] at hr
    exact h.done q' r hr
  · exact (h.shape w').mono fun q' _ x hx => (hs q').1.symm ▸ hx

lemma cqPop {rest : List ReqId} (h : LineInv s) (hcomp : (s.cqs q).completions = r :: rest)
    (hp : ∀ w, (s.cqs q).phase ≠ .waiting w) : LineInv (cqPop s q r rest) := by
  have hr (q' : CqId) (hr : r ∈ (s.cqs q').submitReqs) : q' = q := by
    have := h.owned q' r hr
    rcases h.done q r (hcomp ▸ List.mem_cons_self) with hq | hq
    · exact Option.some.inj (this.symm.trans hq)
    · rw [hq] at this
      cases this
  have hcq (x : ReqId) : ((Req.cqPop s q r rest).reqs x).cq = if x = r then none else (s.reqs x).cq := by
    by_cases hx : x = r
    · subst hx
      rw [cqPop_self, if_pos rfl]
    · simp [Req.cqPop, hx]
  have hc (q' : CqId) : ((Req.cqPop s q r rest).cqs q').phase = (s.cqs q').phase ∧
      ((Req.cqPop s q r rest).cqs q').submitReqs =
        (if q' = q then (s.cqs q).submitReqs.filter (· ≠ r) else (s.cqs q').submitReqs) ∧
      ((Req.cqPop s q r rest).cqs q').completions = if q' = q then rest else (s.cqs q').completions := by
    by_cases hq : q' = q
    · subst hq
      simp [Req.cqPop]
    · simp [Req.cqPop, hq]
  refine h.shrinks (fun w' => .refl _) (fun q' w' => by rw [(hc q').1]) (fun x q' hx => ?_) (fun _ _ hm _ => hm)
    (fun q' x hx => ?_) (fun q' x hx => ?_) fun w' => ?_
  · rw [hcq] at hx
    split at hx
    · cases hx
    · exact .inl hx
  · rw [(hc q').2.1] at hx
    rw [hcq]
    split at hx
    · next hq =>
      obtain ⟨hx, hne⟩ := List.mem_filter.1 hx
      rw [if_neg (by simpa using hne), hq, h.owned q x hx]
    · next hq =>
      rw [if_neg, h.owned q' x hx]
      rintro rfl
      exact hq (hr q' hx)
  · have hx' : x ∈ (s.cqs q').completions := by
      rw [(hc q').2.2] at hx
      split at hx
      · next hq =>
        rw [hq, hcomp]
        exact List.mem_cons_of_mem r hx
      · exact hx
    rw [hcq]
    split
    · exact .inr rfl
    · exact h.done q' x hx'
  · refine (h.shape w').mono fun q' hq' x hx => ?_
    have hne : q' ≠ q := by
      rintro rfl
      exact hp w' (h.waiting (List.mem_append_left _ hq'))
    rw [(hc q').2.1, if_neg hne]
    exact hx

lemma adopt (h : LineInv s) (hl : Loose s r) (hr : ∀ q', r ∉ (s.cqs q').submitReqs)
    (hd : ∀ q', r ∉ (s.cqs q').completions)
    (hf : (f (s.reqs r)).cq = some q) :
    LineInv ((s.setCq q fun c => { c with submitReqs := r :: c.submitReqs }).setReq r f) := by
  have hc (q' : CqId) : (((s.setCq q fun c => { c with submitReqs := r :: c.submitReqs }).setReq r f).cqs q').phase =
      (s.cqs q').phase ∧ (((s.setCq q fun c => { c with submitReqs := r :: c.submitReqs }).setReq r f).cqs
        q').submitReqs = (if q' = q then r :: (s.cqs q).submitReqs else (s.cqs q').submitReqs) ∧
      (((s.setCq q fun c => { c with submitReqs := r :: c.submitReqs }).setReq r f).cqs q').completions =
        (s.cqs q').completions := by
    by_cases hq : q' = q
    · subst hq
      simp
    · simp [hq]
  refine h.shrinks (fun w' => .refl _) (fun q' w' => by rw [(hc q').1]) (fun x q' hx => ?_) (fun _ _ hm _ => hm)
    (fun q' x hx => ?_) (fun q' x hx => ?_) fun w' => ?_
  · by_cases hxr : x = r
    · exact .inr (hxr ▸ hl)
    · exact .inl (by simpa [hxr] using hx)
  · rw [(hc q').2.1] at hx
    by_cases hxr : x = r
    · subst hxr
      split at hx
      · next hq => simpa [hq] using hf
      · exact absurd hx (hr q')
    · have hx' : x ∈ (s.cqs q').submitReqs := by
        split at hx
        · next hq => simpa [hxr, hq] using hx
        · exact hx
      simpa [hxr] using h.owned q' x hx'
  · rw [(hc q').2.2] at hx
    have hxr : x ≠ r := by
      rintro rfl
      exact hd q' hx
    simpa [hxr] using h.done q' x hx
  · refine (h.shape w').mono fun q' _ x hx => ?_
    rw [(hc q').2.1]
    split
    · next hq => exact List.mem_cons_of_mem r (hq ▸ hx)
    · exact hx

lemma enqueueReq (h : LineInv s) (hq : ∀ q, (s.reqs r).cq = some q → (s.cqs q).phase ≠ .waiting w) :
    LineInv (enqueue s w (.req r)) := by
  have hline (w' : Fin n) : line (enqueue s w (.req r)) w' =
      if w' = w then line s w ++ [.req r] else line s w' := by
    by_cases hw : w' = w
    · subst hw
      simp [line, enqueue]
    · simp [line, enqueue, hw]
  refine { h with once := fun w' q' => ?_, order := fun w' => ?_ }
  · rw [hline]
    split
    · next hw =>
      rw [List.count_append, List.count_singleton, if_neg (by simp), Nat.add_zero, hw]
      exact h.once w q'
    · exact h.once w' q'
  · rw [hline]
    split
    · refine List.pairwise_append.2 ⟨h.order w, List.pairwise_singleton _ _, fun m hm m' hm' q' r' hq' hr' => ?_⟩
      rw [List.mem_singleton.1 hm'] at hr'
      cases hr'
      subst hq'
      exact fun hcq => hq q' hcq (h.waiting hm)
    · exact h.order w'

lemma cqs_setPhase (s s' : Sys n) (q : CqId) (p : Phase n)
    (h : s'.cqs = (s.setCq q fun c => { c with phase := p }).cqs) (q' : CqId) :
    (s'.cqs q').phase = (if q' = q then p else (s.cqs q').phase) ∧
      (s'.cqs q').submitReqs = (s.cqs q').submitReqs ∧ (s'.cqs q').completions = (s.cqs q').completions := by
  rw [h]
  by_cases hq : q' = q
  · subst hq
    simp
  · simp [hq]

lemma sendCancel (h : LineInv s) (hp : ∀ w, (s.cqs q).phase ≠ .waiting w)
    (hm : ∀ w' m, s.moving w' = some m → m.published = true → (s.reqs m.r).cq = some q → m.dst ≠ w) :
    LineInv (sendCancel s q w) := by
  have hnone (w' : Fin n) : .cancel q ∉ line s w' := fun hc => hp w' (h.waiting hc)
  have hline (w' : Fin n) : line (Req.sendCancel s q w) w' =
      if w' = w then line s w ++ [.cancel q] else line s w' := by
    by_cases hw : w' = w
    · subst hw
      simp [line, Req.sendCancel, enqueue]
    · simp [line, Req.sendCancel, enqueue, hw]
  have hc := cqs_setPhase s (Req.sendCancel s q w) q (.waiting w) rfl
  refine ⟨fun q' x hx => ?_, fun q' x hx => ?_, fun w' => ?_, fun w' q' => ?_, fun w' => ?_,
    fun w' m q' hm' hpub hq => ?_⟩
  · rw [(hc q').2.1] at hx
    exact h.owned q' x hx
  · rw [(hc q').2.2] at hx
    exact h.done q' x hx
  · simp only [hc]
    exact h.shape w'
  · rw [hline, (hc q').1]
    by_cases hq : q' = q
    · subst hq
      rw [if_pos rfl]
      by_cases hw : w' = w
      · subst hw
        rw [if_pos rfl, List.count_append, List.count_eq_zero_of_not_mem (hnone w')]
        simp
      · rw [if_neg hw, List.count_eq_zero_of_not_mem (hnone w')]
        exact Nat.zero_le _
    · rw [if_neg hq]
      split
      · next hw =>
        rw [List.count_append, List.count_singleton, if_neg (by simpa using Ne.symm hq), Nat.add_zero, hw]
        exact h.once w q'
      · exact h.once w' q'
  · rw [hline]
    split
    · refine List.pairwise_append.2 ⟨h.order w, List.pairwise_singleton _ _, fun m _ m' hm' q' r' _ hr' => ?_⟩
      rw [List.mem_singleton.1 hm'] at hr'
      cases hr'
    · exact h.order w'
  · rw [(hc q').1]
    split
    · next hqq =>
      subst hqq
      exact fun hw => hm w' m hm' hpub hq (Phase.waiting.inj hw).symm
    · exact h.away w' m q' hm' hpub hq

lemma popCancel {rest : List Msg} (h : LineInv s) (hi : idle s w = true) (hq : s.queue w = .cancel q :: rest) :
    LineInv ((s.setQueue w rest).setJobs w ((s.cqs q).submitReqs.map .cancel ++ [.ack q])) := by
  have hline (w' : Fin n) :
      line ((s.setQueue w rest).setJobs w ((s.cqs q).submitReqs.map .cancel ++ [.ack q])) w' = line s w' := by
    by_cases hw : w' = w
    · subst hw
      rw [idle_line hi, hq, line]
      simp [acks_append, acks_map]
      rfl
    · simp [line, hw]
  refine h.shrinks (fun w' => (hline w').symm ▸ .refl _) (fun _ _ => .rfl) (fun _ _ => .inl) (fun _ _ hm _ => hm)
    h.owned h.done fun w' => ?_
  by_cases hw : w' = w
  · subst hw
    exact Or.inr ⟨(s.cqs q).submitReqs, q, Function.update_self .., fun _ => id⟩
  · simpa [hw] using h.shape w'

lemma ack (h : LineInv s) (hj : s.jobs w = .ack q :: js) {k : ℕ} :
    LineInv ((s.setJobs w js).setCq q fun c => { c with phase := .visiting k }) := by
  have hline (w' : Fin n) : line s w' =
      (if w' = w then [.cancel q] else []) ++ line ((s.setJobs w js).setCq q fun c => { c with phase := .visiting k }) w' := by
    by_cases hw : w' = w
    · subst hw
      simp only [line, hj, Function.update_self, if_true]
      rfl
    · simp [line, hw]
  have hmem : .cancel q ∈ line s w := by
    rw [hline, if_pos rfl]
    exact List.mem_append_left _ (List.mem_singleton_self _)
  have hc := cqs_setPhase s ((s.setJobs w js).setCq q fun c => { c with phase := .visiting k }) q (.visiting k) rfl
  refine ⟨fun q' x hx => ?_, fun q' x hx => ?_, fun w' => ?_, fun w' q' => ?_, fun w' => ?_,
    fun w' m q' hm' hpub hq => ?_⟩
  · rw [(hc q').2.1] at hx
    exact h.owned q' x hx
  · rw [(hc q').2.2] at hx
    exact h.done q' x hx
  · exact (h.shape_tail hj w').mono fun q' _ x hx => (hc q').2.1.symm ▸ hx
  · have hcount := h.once w' q'
    rw [hline, List.count_append] at hcount
    rw [(hc q').1]
    by_cases hq : q' = q
    · -- its message was the only one
      subst hq
      rw [if_pos rfl, if_neg (by simp)]
      by_cases hw : w' = w
      · subst hw
        rw [if_pos rfl, h.waiting hmem, if_pos rfl, List.count_singleton_self] at hcount
        omega
      · rw [h.waiting hmem, if_neg (fun he => hw (Phase.waiting.inj he).symm)] at hcount
        omega
    · rw [if_neg hq]
      omega
  · have := h.order w'
    rw [hline] at this
    exact (List.pairwise_append.1 this).2.1
  · rw [(hc q').1]
    split
    · simp
    · exact h.away w' m q' hm' hpub hq

lemma takeEvents (h : LineInv s) (hi : idle s w = true) : LineInv (takeEvents s w i) := by
  have hwake (x : ReqId) (q : CqId) (e : Events) : Job.wake i x e ≠ .ack q := by simp
  refine h.shrinks (fun w' => ?_) (fun _ _ => .rfl) (fun _ _ => .inl) (fun _ _ hm _ => hm) h.owned h.done fun w' => ?_
  · by_cases hw : w' = w
    · subst hw
      rw [idle_line hi, line]
      simp [Req.takeEvents, acks_map]
    · simp [line, Req.takeEvents, hw]
  · by_cases hw : w' = w
    · subst hw
      refine Or.inl fun j hj => ?_
      obtain ⟨x, -, rfl⟩ : ∃ x, _ ∧ _ = j := by simpa [Req.takeEvents] using hj
      exact ⟨_, _, _, rfl⟩
    · simpa [Req.takeEvents, hw] using h.shape w'

lemma publish {m : Moving n} (h : LineInv s) (hq : ∀ q, (s.reqs m.r).cq = some q → (s.cqs q).phase ≠ .waiting m.dst) :
    LineInv (publish s w m) := by
  have hcq (x : ReqId) : ((Req.publish s w m).reqs x).cq = (s.reqs x).cq := by
    by_cases hx : x = m.r
    · subst hx
      rw [publish_self]
    · simp [Req.publish, hx]
  refine ⟨fun q' x hx => ?_, fun q' x hx => ?_, h.shape, h.once, fun w' => ?_, fun w' m' q' hm' hpub hq' => ?_⟩
  · rw [hcq]
    exact h.owned q' x hx
  · rw [hcq]
    exact h.done q' x hx
  · refine (h.order w').imp fun hc q' r' hq' hr' => ?_
    rw [hcq]
    exact hc q' r' hq' hr'
  · rw [hcq] at hq'
    rcases publish_moving hm' with ⟨-, rfl⟩ | ⟨-, hm'⟩
    · exact hq q' hq'
    · exact h.away w' m' q' hm' hpub hq'

end LineInv

structure Quiet (s s' : Sys n) : Prop where
  queue : s'.queue = s.queue
  jobs : s'.jobs = s.jobs
  phase : ∀ q, (s'.cqs q).phase = (s.cqs q).phase
  submitReqs : ∀ q, (s'.cqs q).submitReqs = (s.cqs q).submitReqs
  completions : ∀ q, ∀ x ∈ (s'.cqs q).completions, x ∈ (s.cqs q).completions ∨ (s.reqs x).cq = some q
  cq : ∀ x, (s'.reqs x).cq = (s.reqs x).cq
  moving : ∀ w m, s'.moving w = some m → m.published = true → s.moving w = some m

lemma Quiet.refl (s : Sys n) : Quiet s s :=
  ⟨rfl, rfl, fun _ => rfl, fun _ => rfl, fun _ _ => .inl, fun _ => rfl, fun _ _ h _ => h⟩

lemma Quiet.trans (h : Quiet s s₁) (h' : Quiet s₁ s') : Quiet s s' where
  queue := h'.queue.trans h.queue
  jobs := h'.jobs.trans h.jobs
  phase q := (h'.phase q).trans (h.phase q)
  submitReqs q := (h'.submitReqs q).trans (h.submitReqs q)
  completions q x hx := (h'.completions q x hx).elim (h.completions q x) fun hq => .inr (h.cq x ▸ hq)
  cq x := (h'.cq x).trans (h.cq x)
  moving w m hm hp := h.moving w m (h'.moving w m hm hp) hp

lemma LineInv.quiet (h : LineInv s) (hs : Quiet s s') : LineInv s' := by
  refine h.shrinks (fun w => ?_) (fun q w => by rw [hs.phase]) (fun x q hx => .inl (hs.cq x ▸ hx)) hs.moving
    (fun q r hr => ?_) (fun q r hr => ?_) fun w => ?_
  · rw [line, line, hs.jobs, hs.queue]
  · rw [hs.cq]
    exact h.owned q r (hs.submitReqs q ▸ hr)
  · rw [hs.cq]
    exact (hs.completions q r hr).elim (h.done q r) .inl
  · rw [hs.jobs]
    simpa only [hs.submitReqs] using h.shape w

lemma Eases.quiet {P : ReqId → Prop} (h : Eases P s s') : Quiet s s' :=
  ⟨h.queue, h.jobs, h.phase, h.submitReqs, fun q x hx => (h.completions q x hx).imp_right And.right, h.cq_eq, fun _ _ hm _ => h.moving ▸ hm⟩

lemma quiet_setReq (hf : (f (s.reqs r)).cq = (s.reqs r).cq) : Quiet s (s.setReq r f) := by
  refine { Quiet.refl s with cq := fun x => ?_ }
  by_cases hx : x = r
  · subst hx
    simpa using hf
  · simp [hx]

lemma quiet_setSock (f : Sock n → Sock n) : Quiet s (s.setSock i f) := { Quiet.refl s with }

lemma quiet_attach (hf : (f (s.reqs r)).cq = (s.reqs r).cq) :
    Quiet s (attach (s.setReq r f) i r) := (quiet_setReq hf).trans (by rw [attach]; exact quiet_setSock _)

lemma quiet_detach : Quiet s (detach s r) := by
  rw [detach]
  split
  · exact .refl s
  · exact quiet_setSock _

lemma quiet_beginMove {dst : Fin n} : Quiet s (beginMove s w r dst) := by
  refine { Quiet.refl s with moving := fun w' m hm hp => ?_ }
  rcases beginMove_moving hm with ⟨-, rfl⟩ | hm
  · cases hp
  · exact hm

lemma Prepared.quiet (h : Prepared s r s₁) : Quiet s s₁ := by
  cases h with
  | plain h => exact h.quiet
  | placed h slot p dst hs =>
    rw [place]
    exact h.quiet.trans (quiet_setSock _)

lemma Handled.quiet (h : Handled s w r a s') : Quiet s s' := by
  cases h with
  | finished hp he hd => exact hp.quiet.trans he.quiet
  | spent hp hd st t hst => exact hp.quiet.trans (quiet_setReq rfl)
  | handed hc he hw hne => exact quiet_beginMove
  | rehomed hp hc he hw hfd hq hne => exact (hp.quiet.trans (quiet_setSock _)).trans quiet_beginMove
  | waits hp hc he hw hcl => exact hp.quiet.trans (quiet_attach rfl)
  | armed hp hc he hw hdst hcl => exact hp.quiet.trans (quiet_attach rfl)
  | early hc hcl hst hx => exact .refl s
  | stalled hp hc he hw hq => exact hp.quiet

lemma Runs.lineInv (h : LineInv s) (hrun : Runs s act w r a s₁) : LineInv s₁ := by
  cases hrun with
  | pop hi hq => exact h.popReq hq
  | fire hi hd =>
    rw [unregister]
    exact h.quiet (quiet_setReq rfl)
  | wake hm hj hp hw => exact (h.dropJob hj (by simp)).quiet quiet_detach
  | cancel hm hj hw hd => exact (h.dropJob hj (by simp)).quiet (quiet_setReq rfl)

/-- Workers hand on only requests that wait nowhere, and while a worker has yet to answer the cancel message
of a queue, no request of that queue is on its way there. -/
structure Orderly (s : Sys n) (act : Act n) : Prop where
  hands : ∀ w r a s₁, Runs s act w r a s₁ → HandsOver s₁ w r a → Movable s₁ w r
  names : ∀ w a m q, act = .resume w a → s.moving w = some m → m.published = false →
    (s.reqs m.r).cq = some q → (s.cqs q).phase ≠ .waiting m.dst
  sends : ∀ q w m i, act = .send q → (s.cqs q).phase = .visiting i → s.moving w = some m → m.published = true →
    (s.reqs m.r).cq = some q → m.dst.val ≠ i

structure CloseInv (s : Sys n) : Prop where
  site : Inv SiteInv (fun _ => True) s
  line : LineInv s

lemma CloseInv.popped {rest : List ReqId} (h : CloseInv s) (hc : (s.cqs q).completions = r :: rest)
    (hp : ∀ w, (s.cqs q).phase ≠ .waiting w) : CloseInv (cqPop s q r rest) := by
  obtain ⟨-, hdone⟩ := h.site.comp q r (hc ▸ List.mem_cons_self)
  have hn := (h.site.each r trivial).gone (.inl hdone)
  refine ⟨(h.site.cqPop hc).all (.of_nowhere ⟨⟨hn.queue, hn.moving⟩, hn.pending, ?_⟩), h.line.cqPop hc hp⟩
  rw [cqPop_self]
  exact hn.timer

lemma CloseInv.freed (h : CloseInv s) (hg : Gone (s.reqs r)) : CloseInv (freeReq s r) := by
  have hn := (h.site.each r trivial).gone hg
  refine ⟨(h.site.freeReq r).all (.of_nowhere ⟨⟨hn.queue, hn.moving⟩, hn.pending, ?_⟩), ?_⟩
  · rw [freeReq_self]
    exact hn.timer
  · rw [freeReq]
    exact h.line.quiet (quiet_setReq rfl)

lemma CloseInv.called {op : Op} {entry : Option SockId} (h : CloseInv s) (hu : (s.reqs r).life = .unborn) :
    CloseInv (call s r op entry w) := by
  have hn := (h.site.each r trivial).gone (.inr (.inl (by simp [hu])))
  have hline : LineInv (s.setReq r fun _ => { life := .live, op, entry, worker := some w }) :=
    h.line.quiet (quiet_setReq (h.site.blank r hu).symm)
  have hsite : Inv SiteInv (· ≠ r) (call s r op entry w) := (h.site.but r).enqueue rfl fun hne => absurd hu hne
  refine ⟨hsite.all (siteInv_enqueue hn ?_ rfl rfl), hline.enqueueReq fun q hq => ?_⟩
  · rintro (h | h | ⟨h, -⟩)
    · cases h
    · exact h rfl
    · cases h
  · simp at hq

lemma CloseInv.submitted (h : CloseInv s) (hq : (s.cqs q).phase = .open) (hl : (s.reqs r).life = .live)
    (hasync : (s.reqs r).async = true) (hd : (s.reqs r).done = false) (hcq : (s.reqs r).cq = none) :
    CloseInv (submit s q r w) := by
  have hn := (h.site.each r trivial).gone (.inr (.inr ⟨hasync, hcq⟩))
  have hline : LineInv ((s.setCq q fun c => { c with submitReqs := r :: c.submitReqs }).setReq r
      fun x => { x with cq := some q, worker := some w }) := by
    refine h.line.adopt hn.toLoose (fun q' hr => ?_) (fun q' hr => ?_) rfl
    · have := h.line.owned q' r hr
      rw [hcq] at this
      cases this
    · have := (h.site.comp q' r hr).2
      rw [hd] at this
      cases this
  have hsite : Inv SiteInv (fun _ => True) (s.setCq q fun c => { c with submitReqs := r :: c.submitReqs }) :=
    h.site.setCq fun _ => id
  have hsite' : Inv SiteInv (· ≠ r) (submit s q r w) := (hsite.but r).enqueue hl fun _ => hd
  refine ⟨hsite'.all (siteInv_enqueue ((same_setCq _).nowhere hn) ?_ rfl hn.timer), hline.enqueueReq fun q' hq' => ?_⟩
  · rintro (h | h | ⟨-, h⟩)
    · exact absurd (hd.symm.trans h) (by decide)
    · exact h hl
    · cases h
  · obtain rfl : q = q' := by simpa using hq'
    simp [hq]

lemma CloseInv.created {op : Op} {entry : Option SockId} (h : CloseInv s) (hu : (s.reqs r).life = .unborn) :
    CloseInv (s.setReq r fun _ => { life := .live, async := true, op, entry }) := by
  have hn := (h.site.each r trivial).gone (.inr (.inl (by simp [hu])))
  exact ⟨(h.site.create hu).all (.of_nowhere (hn.setReq rfl)), h.line.quiet (quiet_setReq (h.site.blank r hu).symm)⟩

lemma CloseInv.ran (h : CloseInv s) (hrun : Runs s act w r a s₁)
    (hok : HandsOver s₁ w r a → Movable s₁ w r) : CloseInv (processRequest s₁ w r a) := by
  have hr := h.site.each r trivial
  have htk := hrun.taken hr fun js hm hj hw => h.line.loose hr.sole hm hj hw
  have hd := processRequest_handled (w := w) (a := a) htk.fresh
  refine ⟨(hd.others (hrun.others h.site) hrun.moving).all (hd.siteInv (hrun.others h.site) htk hok), ?_⟩
  exact (hrun.lineInv h.line).quiet hd.quiet

lemma CloseInv.pushed {m : Moving n} (h : CloseInv s) (hm : s.moving w = some m) (hp : m.published = true) :
    CloseInv (push s w m) := by
  refine ⟨(h.site.push hm).all ((h.site.each m.r trivial).push hm hp), ?_⟩
  have hquiet : Quiet s ((detach s m.r).setReq m.r fun q => { q with timeoutTask := none }) :=
    quiet_detach.trans (quiet_setReq rfl)
  have hline := (h.line.quiet hquiet).enqueueReq (w := m.dst) (r := m.r) fun q hq => by
    rw [hquiet.cq] at hq
    rw [hquiet.phase]
    exact h.line.away w m q hm hp hq
  refine hline.quiet { Quiet.refl _ with moving := fun w' m' hm' _ => ?_ }
  have hm'' := (push_moving (s := s) (w := w) (m := m) hm').2
  simpa [enqueue] using hm''

theorem Trans.closeInv (h : CloseInv s) (ht : Trans s act s') (hok : Orderly s act) : CloseInv s' := by
  cases ht with
  | call ha hu => exact h.called hu
  | ret hd => exact h.freed (.inl hd)
  | create hu => exact h.created hu
  | submit ha hq hl hasync hd hcq => exact h.submitted hq hl hasync hd hcq
  | reap hc hq => exact h.popped hc (by simp [hq])
  | destroy hasync hcq => exact h.freed (.inr (.inr ⟨hasync, hcq⟩))
  | close hq =>
    exact ⟨h.site.setCq fun _ => id, h.line.setPhase (fun _ => rfl) (fun _ => rfl) (by simp [hq]) (by simp)⟩
  | @send q i hq hi =>
    refine ⟨h.site.sendCancel, h.line.sendCancel (by simp [hq]) fun w' m hm hp hcq hdst => ?_⟩
    exact hok.sends q w' m i rfl hq hm hp hcq (by rw [hdst])
  | check hq =>
    refine ⟨h.site.checkDone, ?_⟩
    rw [checkDone]
    refine h.line.setPhase (fun _ => rfl) (fun _ => rfl) (by simp [hq]) fun w => ?_
    dsimp only
    split <;> simp
  | @free q r rest hq hc =>
    have hdone := (h.site.comp q r (hc ▸ List.mem_cons_self)).2
    refine (h.popped hc (by simp [hq])).freed (.inl ?_)
    rw [cqPop_self]
    exact hdone
  | closed hq =>
    exact ⟨h.site.setCq fun _ => id, h.line.setPhase (fun _ => rfl) (fun _ => rfl) (by simp [hq]) (by simp)⟩
  | run hrun => exact h.ran hrun (hok.hands _ _ _ _ hrun)
  | cancel hi hq => exact ⟨(h.site.popCancel hq).setJobs _, h.line.popCancel hi hq⟩
  | snapshot hi ht => exact ⟨h.site.takeEvents, h.line.takeEvents hi⟩
  | input => exact ⟨h.site.input, h.line.quiet (input_eases ..).quiet⟩
  | @publish w a m hm hp =>
    exact ⟨(h.site.publish hm).all ((h.site.each m.r trivial).publish hm),
      h.line.publish fun q hq => hok.names w a m q rfl hm hp hq⟩
  | push hm hp => exact h.pushed hm hp
  | skip hm hj hack => exact ⟨h.site.setJobs _, h.line.dropJob hj hack⟩
  | ack hm hj => exact ⟨(h.site.setJobs _).setCq fun _ => id, h.line.ack hj⟩

lemma closeInv_init : CloseInv ({} : Sys n) where
  site := .init fun x => .of_nowhere (nowhere_init x)
  line := by
    refine ⟨fun _ _ h => (by cases h), fun _ _ h => (by cases h), fun _ => .inl nofun, fun _ _ => Nat.zero_le _,
      fun _ => List.Pairwise.nil, fun _ _ _ h => by cases h⟩

theorem freed_request_is_nowhere (acts : List (Act n)) (hok : Meets Req.step Orderly {} acts)
    (hr : ((run Req.step {} acts).reqs r).life = .freed) :
    (∀ w, .req r ∉ (run Req.step {} acts).queue w) ∧ (∀ i, r ∉ ((run Req.step {} acts).socks i).pending) ∧
      ((run Req.step {} acts).reqs r).timeoutTask = none := by
  have hstep (s : Sys n) (act : Act n) (h : CloseInv s) (hok : Orderly s act) : CloseInv (Req.step s act) := by
    rcases step_trans s act with he | ht
    · rwa [he]
    · exact ht.closeInv h hok
  have h := run_invariant hstep closeInv_init hok
  have hn := (h.site.each r trivial).gone (.inr (.inl (by simp [hr])))
  exact ⟨hn.queue, hn.pending, hn.timer⟩

/-! A datagram socket on worker 1. Its `sendto` moves to worker 0 while the queue is being closed. -/

def migratingRun : List (Act 2) :=
  [.call 0 (.socket (.udp {})) none worker1, .pop worker1 { target := worker1 }, .create 1 (.sendto true) (some 0),
    .submit 0 1 worker1, .pop worker1 { target := worker0 }, .resume worker1 { target := worker0 }, .close 0, .send 0,
    .pop worker0 { target := worker0 }, .resume worker0 { target := worker0 }, .resume worker0 { target := worker0 },
    .resume worker1 { target := worker0 }, .send 0, .pop worker1 { target := worker0 },
    .resume worker1 { target := worker0 }, .resume worker1 { target := worker0 }, .check 0, .free 0]

/-- Worker 0 cancels the request that names it already; then worker 1 queues it there, and it is freed. -/
theorem freed_request_in_queue : ((run Req.step {} migratingRun).reqs 1).life = .freed ∧
    .req 1 ∈ (run Req.step {} migratingRun).queue worker0 := by
  decide

def Act.runsNone : Act n → Bool
  | .send _ | .pop .. | .fire .. | .resume .. => false
  | _ => true

lemma orderly_idle {act : Act n} (h : act.runsNone = true) : Orderly s act := by
  refine ⟨fun _ _ _ _ hr => ?_, fun _ _ _ _ he => ?_, fun _ _ _ _ he => ?_⟩
  · cases hr <;> cases h
  · rw [he] at h
    cases h
  · rw [he] at h
    cases h

lemma orderly_pop {w : Fin n} {a : Answers n} (h : ∀ r rest, s.queue w = .req r :: rest →
    HandsOver (s.setQueue w rest) w r a → Movable (s.setQueue w rest) w r) : Orderly s (.pop w a) := by
  refine ⟨fun _ _ _ _ hr => ?_, fun _ _ _ _ he => (by cases he), fun _ _ _ _ he => by cases he⟩
  cases hr with
  | pop _ hq => exact h _ _ hq

lemma orderly_stays {w : Fin n} {a : Answers n} (ht : a.target = w)
    (h : ∀ r ∈ (s.queue w).filterMap fun | .req r => some r | _ => none,
      ∀ i ∈ (s.reqs r).entry, (s.socks i).entryWorker = some w) : Orderly s (.pop w a) := by
  refine orderly_pop fun r rest hq hh => ?_
  rw [hq] at h
  obtain ⟨-, i, dst, hi, hd, hne | ⟨-, hne⟩⟩ := hh
  · exact absurd (Option.some.inj (hd.symm.trans (h r (by simp) i hi))) hne
  · exact absurd ht hne

lemma orderly_resume {w : Fin n} {a : Answers n} (hj : ∀ j ∈ s.jobs w, ¬(j matches .wake ..))
    (hm : ∀ m ∈ s.moving w, m.published = false → ∀ q ∈ (s.reqs m.r).cq, (s.cqs q).phase ≠ .waiting m.dst) :
    Orderly s (.resume w a) := by
  refine ⟨fun _ _ _ _ hr hh => ?_, fun _ _ m q he hmv hp hq => ?_, fun _ _ _ _ he => by cases he⟩
  · cases hr with
    | wake _ hw => exact absurd rfl (hj _ (hw ▸ List.mem_cons_self))
    | cancel => exact absurd hh.1 (by simp)
  · obtain ⟨rfl, -⟩ := Act.resume.inj he
    exact hm m hmv hp q hq

lemma orderly_send {q : CqId} {i : ℕ} (hp : (s.cqs q).phase = .visiting i)
    (h : ∀ w, ∀ m ∈ s.moving w, m.dst.val ≠ i) : Orderly s (.send q) := by
  refine ⟨fun _ _ _ _ hr => (by cases hr), fun _ _ _ _ he => (by cases he), fun q' w m j he hj hm _ _ => ?_⟩
  obtain rfl := Act.send.inj he
  obtain rfl := Phase.visiting.inj (hp.symm.trans hj)
  exact h w m hm

/-- The `sendto` is on its way from worker 0 to worker 1 when the queue is closed. -/
def movedRun : List (Act 2) :=
  [.call 0 (.socket (.udp {})) none worker0, .pop worker0 { target := worker0 }, .create 1 (.sendto true) (some 0),
    .submit 0 1 worker0, .pop worker0 { target := worker1 }, .resume worker0 { target := worker1 }, .close 0, .send 0,
    .resume worker0 { target := worker1 }, .pop worker0 { target := worker0 }, .resume worker0 { target := worker0 },
    .resume worker0 { target := worker0 }, .send 0, .pop worker1 { target := worker1 }, .pop worker1 { target := worker1 },
    .resume worker1 { target := worker1 }, .resume worker1 { target := worker1 }, .check 0, .free 0]

theorem freed_request_is_nowhere_moved : ((run Req.step {} movedRun).reqs 1).life = .freed ∧
    (∀ w, .req 1 ∉ (run Req.step {} movedRun).queue w) ∧ (∀ i, 1 ∉ ((run Req.step {} movedRun).socks i).pending) ∧
      ((run Req.step {} movedRun).reqs 1).timeoutTask = none := by
  have hr : ((run Req.step {} movedRun).reqs 1).life = .freed := by decide
  have hok : Meets Req.step Orderly {} movedRun := by
    refine ⟨orderly_idle rfl, orderly_stays rfl (by decide), orderly_idle rfl, orderly_idle rfl,
      orderly_pop ?_, orderly_resume (by decide) (by decide), orderly_idle rfl, orderly_send rfl (by decide),
      orderly_resume (by decide) (by decide), orderly_stays rfl (by decide), orderly_resume (by decide) (by decide),
      orderly_resume (by decide) (by decide), orderly_send rfl (by decide), orderly_stays rfl (by decide),
      orderly_stays rfl (by decide), orderly_resume (by decide) (by decide), orderly_resume (by decide) (by decide),
      orderly_idle rfl, orderly_idle rfl, trivial⟩
    intro r rest hq _
    obtain ⟨rfl, rfl⟩ : r = 1 ∧ rest = [] := by
      change [Msg.req 1] = _ at hq
      simpa [eq_comm] using hq
    refine ⟨rfl, fun i => ?_, nofun⟩
    cases i <;> exact List.not_mem_nil
  exact ⟨hr, freed_request_is_nowhere movedRun hok hr⟩

end Netfast.Req
