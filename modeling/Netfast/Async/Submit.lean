import Netfast.Req.System

/-! `net_async_submit_batch`: requests move one by one from the caller to a completion queue and a worker,
while workers complete requests that are already theirs. -/

namespace Netfast.Submit

open Run

abbrev Addr := ℕ
abbrev Worker := ℕ

structure AsyncReq where
  isSocket : Bool := false
  entry : Option ℕ := none
  cq : Option ℕ := none
  done : Bool := false
  noWait : Bool := false
  worker : Option Worker := none
deriving DecidableEq

structure State where
  heap : Addr → Option AsyncReq
  entryWorker : ℕ → Option Worker
  submitReqs : List Addr := []
  pushes : List (Worker × Addr) := []

inductive WorkerStep
  | complete (a : Addr)
  | move (entry : ℕ) (w : Worker)

def completed (r : AsyncReq) : AsyncReq :=
  if r.done || r.cq.isNone then r else { r with done := true, entry := none }

def workerStep (s : State) : WorkerStep → State
  | .complete a => { s with heap := Function.update s.heap a ((s.heap a).map completed) }
  | .move e w =>
    if (s.entryWorker e).isSome then { s with entryWorker := Function.update s.entryWorker e (some w) } else s

inductive SubmitErr
  | einval | ebusy | ebadf
deriving DecidableEq

inductive SubmitOne
  | ok (s : State)
  | fail (e : SubmitErr)
  | fault

def publicOffset : ℕ := 16

def asyncReqFromPublic (request : Addr) : Addr :=
  if request < publicOffset then 2 ^ 64 - (publicOffset - request) else request - publicOffset

def aimWorker (s : State) (r : AsyncReq) (random : Worker) : Option Worker :=
  if r.isSocket then some random else r.entry.bind s.entryWorker

def State.hand (s : State) (cq : ℕ) (a : Addr) (r : AsyncReq) (w : Worker) : State :=
  { s with
    submitReqs := a :: s.submitReqs
    heap := Function.update s.heap a (some { r with noWait := true, cq := some cq, worker := some w })
    pushes := s.pushes ++ [(w, a)] }

def asyncSubmitOne (s : State) (cq : ℕ) (a : Addr) (random : Worker) : SubmitOne :=
  if a = 0 then .fail .einval
  else
    match s.heap a with
    | none => .fault
    | some r =>
      if r.done || r.cq.isSome then .fail .ebusy
      else
        match aimWorker s r random with
        | none => .fail .ebadf
        | some w => .ok (s.hand cq a r w)

structure Turn where
  steps : List WorkerStep
  request : Addr
  random : Worker

inductive Batch
  | returned (s : State) (n : ℕ) (e : Option SubmitErr)
  | crashed

def submitLoop (cq : ℕ) : List Turn → State → ℕ → Batch
  | [], s, n => .returned s n none
  | t :: ts, s, n =>
    match asyncSubmitOne (run workerStep s t.steps) cq (asyncReqFromPublic t.request) t.random with
    | .ok s => submitLoop cq ts s (n + 1)
    | .fail e => .returned (run workerStep s t.steps) n (some e)
    | .fault => .crashed

def asyncSubmitBatch (s : State) (cq : Option ℕ) (turns : List Turn) : Batch :=
  if turns = [] ∨ 2 ^ 31 ≤ turns.length then .returned s 0 (some .einval)
  else
    match cq with
    | none => .returned s 0 (some .ebadf)
    | some cq => submitLoop cq turns s 0

structure Sent (cq : Option ℕ) (s s' : State) (as : List Addr) : Prop where
  links : s'.submitReqs = as.reverse ++ s.submitReqs
  pushes : ∃ ws : List Worker, ws.length = as.length ∧ s'.pushes = s.pushes ++ ws.zip as
  given : ∀ a ∈ as, ∃ r, s'.heap a = some r ∧ r.cq = cq
  free : ∀ a ∈ as, ∃ r, s.heap a = some r ∧ r.cq = none ∧ r.done = false
  nodup : as.Nodup
  kept : ∀ a ∉ as, ∀ r, s.heap a = some r → r.cq = none → s'.heap a = some r
  busy : ∀ a r, s.heap a = some r → r.cq.isSome → ∃ r', s'.heap a = some r' ∧ r'.cq = r.cq
  unmapped : ∀ a, s.heap a = none → s'.heap a = none
  entries : ∀ e, (s'.entryWorker e).isSome = (s.entryWorker e).isSome

lemma sent_refl (cq : Option ℕ) (s : State) : Sent cq s s [] where
  links := rfl
  pushes := ⟨[], rfl, by simp⟩
  given _ h := (List.not_mem_nil h).elim
  free _ h := (List.not_mem_nil h).elim
  nodup := List.nodup_nil
  kept _ _ _ h _ := h
  busy _ r h _ := ⟨r, h, rfl⟩
  unmapped _ h := h
  entries _ := rfl

lemma completed_cq (r : AsyncReq) : (completed r).cq = r.cq := by
  rw [completed]
  split <;> rfl

lemma completed_free {r : AsyncReq} (h : r.cq = none) : completed r = r := by
  rw [completed, if_pos (by simp [h])]

lemma complete_heap (s : State) (a b : Addr) :
    (workerStep s (.complete a)).heap b = if b = a then (s.heap b).map completed else s.heap b := by
  rcases eq_or_ne b a with rfl | hb
  · rw [if_pos rfl]
    exact Function.update_self ..
  · rw [if_neg hb]
    exact Function.update_of_ne hb ..

variable {q : Option ℕ} {cq : ℕ} {s s' : State} {as : List Addr}

lemma Sent.complete (h : Sent q s s' as) (a : Addr) : Sent q s (workerStep s' (.complete a)) as := by
  -- a request keeps its queue, and one without a queue keeps everything
  have hcq : ∀ b r, s'.heap b = some r → ∃ r', (workerStep s' (.complete a)).heap b = some r' ∧ r'.cq = r.cq := by
    intro b r hr
    rw [complete_heap, hr]
    split
    · exact ⟨_, rfl, completed_cq r⟩
    · exact ⟨r, rfl, rfl⟩
  refine ⟨h.links, h.pushes, fun b hb => ?_, h.free, h.nodup, fun b hb r hr hn => ?_, fun b r hr hs => ?_,
    fun b hb => ?_, h.entries⟩
  · obtain ⟨r, hr, hc⟩ := h.given b hb
    obtain ⟨r', hr', hc'⟩ := hcq b r hr
    exact ⟨r', hr', hc'.trans hc⟩
  · rw [complete_heap, h.kept b hb r hr hn, Option.map_some, completed_free hn, ite_self]
  · obtain ⟨r₁, hr₁, hc₁⟩ := h.busy b r hr hs
    obtain ⟨r', hr', hc'⟩ := hcq b r₁ hr₁
    exact ⟨r', hr', hc'.trans hc₁⟩
  · rw [complete_heap, h.unmapped b hb, Option.map_none, ite_self]

lemma Sent.move (h : Sent q s s' as) (e : ℕ) (w : Worker) : Sent q s (workerStep s' (.move e w)) as := by
  rw [workerStep]
  split
  · next he =>
    refine ⟨h.links, h.pushes, h.given, h.free, h.nodup, h.kept, h.busy, h.unmapped, fun e' => ?_⟩
    rcases eq_or_ne e' e with rfl | hne
    · change (Function.update s'.entryWorker e' (some w) e').isSome = _
      rw [Function.update_self, ← h.entries, he]
      rfl
    · change (Function.update s'.entryWorker e (some w) e').isSome = _
      rw [Function.update_of_ne hne, h.entries]
  · exact h

lemma Sent.workers (h : Sent q s s' as) (steps : List WorkerStep) : Sent q s (run workerStep s' steps) as := by
  refine run_always (I := fun t => Sent q s t as) (fun t e ht => ?_) h steps
  cases e with
  | complete a => exact ht.complete a
  | move e w => exact ht.move e w

def Submittable (s : State) (a : Addr) : Prop :=
  ∃ r, s.heap a = some r ∧ r.done = false ∧ r.cq = none ∧
    (r.isSocket = true ∨ ∃ e, r.entry = some e ∧ (s.entryWorker e).isSome)

lemma aimWorker_isSome (s : State) (r : AsyncReq) (random : Worker) :
    (aimWorker s r random).isSome ↔ r.isSocket = true ∨ ∃ e, r.entry = some e ∧ (s.entryWorker e).isSome := by
  rw [aimWorker]
  split
  · next h => simp [h]
  · next h =>
    cases he : r.entry with
    | none => simp [h]
    | some e => simp [h]

lemma Sent.submittable (h : Sent (some cq) s s' as) (a : Addr) : Submittable s' a ↔ Submittable s a ∧ a ∉ as := by
  constructor
  · rintro ⟨r', hr', hd, hn, hw⟩
    have ha : a ∉ as := by
      intro ha
      obtain ⟨r, hr, hc⟩ := h.given a ha
      rw [hr'] at hr
      rw [← Option.some.inj hr, hn] at hc
      cases hc
    refine ⟨?_, ha⟩
    cases hr : s.heap a with
    | none => rw [h.unmapped a hr] at hr'; cases hr'
    | some r =>
      have hfree : r.cq = none := by
        by_contra hc
        obtain ⟨r₁, hr₁, hc₁⟩ := h.busy a r hr (Option.isSome_iff_ne_none.mpr hc)
        rw [hr'] at hr₁
        rw [← Option.some.inj hr₁, hn] at hc₁
        exact hc hc₁.symm
      have hsame := h.kept a ha r hr hfree
      rw [hr'] at hsame
      refine ⟨r', hr.trans hsame.symm, hd, hn, hw.imp_right ?_⟩
      rintro ⟨e, he, hs⟩
      exact ⟨e, he, (h.entries e).symm.trans hs⟩
  · rintro ⟨⟨r, hr, hd, hn, hw⟩, ha⟩
    refine ⟨r, h.kept a ha r hr hn, hd, hn, hw.imp_right ?_⟩
    rintro ⟨e, he, hs⟩
    exact ⟨e, he, (h.entries e).trans hs⟩

lemma hand_heap (s : State) (cq : ℕ) (a : Addr) (r : AsyncReq) (w : Worker) {b : Addr} (hb : b ≠ a) :
    (s.hand cq a r w).heap b = s.heap b :=
  Function.update_of_ne hb ..

variable {a : Addr}

lemma Sent.hand (h : Sent (some cq) s s' as) (hsub : Submittable s' a) (r : AsyncReq) (w : Worker) :
    Sent (some cq) s (s'.hand cq a r w) (as ++ [a]) := by
  obtain ⟨⟨r₀, hr₀, hd₀, hn₀, -⟩, hnew⟩ := (h.submittable a).mp hsub
  refine ⟨?_, ?_, fun b hb => ?_, fun b hb => ?_, ?_, fun b hb r' hr' hn' => ?_, fun b r' hr' hs' => ?_, fun b hb => ?_,
    h.entries⟩
  · rw [List.reverse_append, State.hand, h.links]
    rfl
  · obtain ⟨ws, hlen, hp⟩ := h.pushes
    refine ⟨ws ++ [w], by simp [hlen], ?_⟩
    rw [State.hand, hp, List.zip_append hlen, List.append_assoc]
    rfl
  · rcases eq_or_ne b a with rfl | hba
    · exact ⟨_, Function.update_self .., rfl⟩
    · rw [List.mem_append, List.mem_singleton, or_iff_left hba] at hb
      rw [hand_heap s' cq a r w hba]
      exact h.given b hb
  · rcases List.mem_append.mp hb with hb | hb
    · exact h.free b hb
    · rw [List.mem_singleton.mp hb]
      exact ⟨r₀, hr₀, hn₀, hd₀⟩
  · refine List.nodup_append.mpr ⟨h.nodup, List.nodup_singleton a, fun x hx y hy hxy => hnew ?_⟩
    rw [← List.mem_singleton.mp hy, ← hxy]
    exact hx
  · rw [List.mem_append, List.mem_singleton, not_or] at hb
    rw [hand_heap s' cq a r w hb.2]
    exact h.kept b hb.1 r' hr' hn'
  · have hba : b ≠ a := by
      rintro rfl
      rw [hr₀] at hr'
      rw [← Option.some.inj hr', hn₀] at hs'
      cases hs'
    rw [hand_heap s' cq a r w hba]
    exact h.busy b r' hr' hs'
  · have hba : b ≠ a := by
      rintro rfl
      rw [hr₀] at hb
      cases hb
    rw [hand_heap s' cq a r w hba]
    exact h.unmapped b hb

lemma Sent.one (h : Sent (some cq) s s' as) (hsub : Submittable s' a) (ha : a ≠ 0) (random : Worker) :
    ∃ s'', asyncSubmitOne s' cq a random = .ok s'' ∧ Sent (some cq) s s'' (as ++ [a]) := by
  obtain ⟨r, hr, hd, hn, hw⟩ := id hsub
  obtain ⟨w, hw⟩ := Option.isSome_iff_exists.mp ((aimWorker_isSome s' r random).mpr hw)
  refine ⟨s'.hand cq a r w, ?_, h.hand hsub r w⟩
  rw [asyncSubmitOne, if_neg ha]
  simp only [hr, hd, hn, hw, Option.isSome_none, Bool.or_false, Bool.false_eq_true, if_false]

def Turn.addr (t : Turn) : Addr := asyncReqFromPublic t.request

/-- The pointers of the array are NULL or point to a request; NULL - 16 is no request. What is linked in
the queue's list is in a queue. -/
structure ValidArray (s : State) (turns : List Turn) : Prop where
  mapped : ∀ t ∈ turns, t.request = 0 ∨ (t.addr ≠ 0 ∧ (s.heap t.addr).isSome)
  null : s.heap (asyncReqFromPublic 0) = none
  linked : ∀ a ∈ s.submitReqs, ∃ r, s.heap a = some r ∧ r.cq.isSome

/-- A NULL pointer stands in the array before the first request that cannot be submitted. -/
def NullFirst (s : State) (as : List Addr) : List Turn → Prop
  | [] => False
  | t :: ts => t.request = 0 ∨ (Submittable s t.addr ∧ t.addr ∉ as ∧ NullFirst s (as ++ [t.addr]) ts)

lemma asyncSubmitOne_null (cq : ℕ) (h : Sent q s s' as) (hnull : s.heap (asyncReqFromPublic 0) = none) (random : Worker) :
    asyncSubmitOne s' cq (asyncReqFromPublic 0) random = .fault := by
  have hne : asyncReqFromPublic 0 ≠ 0 := by decide
  rw [asyncSubmitOne, if_neg hne, h.unmapped _ hnull]

lemma asyncSubmitOne_refused (cq : ℕ) (ha : a ≠ 0) (hm : (s.heap a).isSome) (hsub : ¬ Submittable s a)
    (random : Worker) : ∃ e, asyncSubmitOne s cq a random = .fail e := by
  obtain ⟨r, hr⟩ := Option.isSome_iff_exists.mp hm
  rw [asyncSubmitOne, if_neg ha, hr]
  by_cases hbusy : (r.done || r.cq.isSome) = true
  · exact ⟨.ebusy, by simp only [hbusy, if_true]⟩
  · have hfree : r.done = false ∧ r.cq = none := by simpa using hbusy
    have hw : aimWorker s r random = none := by
      by_contra hw
      exact hsub ⟨r, hr, hfree.1, hfree.2,
        (aimWorker_isSome s r random).mp (Option.isSome_iff_ne_none.mpr hw)⟩
    exact ⟨.ebadf, by simp only [hbusy, hw, if_false, Bool.false_eq_true]⟩

lemma Sent.mapped (h : Sent q s s' as) (ha : (s.heap a).isSome) : (s'.heap a).isSome := by
  obtain ⟨r, hr⟩ := Option.isSome_iff_exists.mp ha
  by_cases hmem : a ∈ as
  · obtain ⟨r', hr', -⟩ := h.given a hmem
    rw [hr']
    rfl
  · cases hc : r.cq with
    | none => rw [h.kept a hmem r hr hc]; rfl
    | some c =>
      obtain ⟨r', hr', -⟩ := h.busy a r hr (by simp [hc])
      rw [hr']
      rfl

section Turns

variable {t : Turn} {ts : List Turn} {n : ℕ}

lemma submitLoop_ok {s₁ : State} (h : asyncSubmitOne (run workerStep s t.steps) cq t.addr t.random = .ok s₁) :
    submitLoop cq (t :: ts) s n = submitLoop cq ts s₁ (n + 1) := by
  rw [Turn.addr] at h
  simp only [submitLoop, h]

lemma submitLoop_fail {e : SubmitErr}
    (h : asyncSubmitOne (run workerStep s t.steps) cq t.addr t.random = .fail e) :
    submitLoop cq (t :: ts) s n = .returned (run workerStep s t.steps) n (some e) := by
  rw [Turn.addr] at h
  simp only [submitLoop, h]

lemma submitLoop_fault (h : asyncSubmitOne (run workerStep s t.steps) cq t.addr t.random = .fault) :
    submitLoop cq (t :: ts) s n = .crashed := by
  rw [Turn.addr] at h
  simp only [submitLoop, h]

end Turns

lemma submitLoop_spec (h : Sent (some cq) s s' as) {ts : List Turn} (hv : ValidArray s ts) :
    (NullFirst s as ts → submitLoop cq ts s' as.length = .crashed) ∧
    (¬ NullFirst s as ts → ∃ s'' n e, submitLoop cq ts s' as.length = .returned s'' n e ∧
      Sent (some cq) s s'' ((as ++ ts.map Turn.addr).take n) ∧ n ≤ as.length + ts.length) := by
  induction ts generalizing s' as with
  | nil =>
    refine ⟨False.elim, fun _ => ⟨s', as.length, none, rfl, ?_, by simp⟩⟩
    simpa using h
  | cons t ts ih =>
    have h' := h.workers t.steps
    have hvs : ValidArray s ts := ⟨fun u hu => hv.mapped u (List.mem_cons_of_mem t hu), hv.null, hv.linked⟩
    rw [NullFirst]
    by_cases h0 : t.request = 0
    · have hfault := asyncSubmitOne_null cq h' hv.null t.random
      rw [← h0] at hfault
      exact ⟨fun _ => submitLoop_fault hfault, fun hn => absurd (.inl h0) hn⟩
    obtain ⟨hne, hmap⟩ := (hv.mapped t List.mem_cons_self).resolve_left h0
    have hsub := h'.submittable t.addr
    by_cases hok : Submittable s t.addr ∧ t.addr ∉ as
    · obtain ⟨s₁, hone, hsent⟩ := h'.one (hsub.mpr hok) hne t.random
      have hlen : (as ++ [t.addr]).length = as.length + 1 := by simp
      obtain ⟨hnull, hgood⟩ := ih hsent hvs
      rw [hlen] at hnull hgood
      rw [submitLoop_ok hone]
      constructor
      · rintro (hz | ⟨-, -, hrest⟩)
        · exact absurd hz h0
        · exact hnull hrest
      · intro hn
        obtain ⟨s'', n, e, hloop, hsent', hle⟩ := hgood fun hrest => hn (.inr ⟨hok.1, hok.2, hrest⟩)
        refine ⟨s'', n, e, hloop, ?_, ?_⟩
        · rwa [List.append_assoc] at hsent'
        · rw [List.length_cons]
          omega
    · obtain ⟨e, hfail⟩ := asyncSubmitOne_refused cq hne (h'.mapped hmap) (mt hsub.mp hok) t.random
      rw [submitLoop_fail hfail]
      refine ⟨?_, fun _ => ⟨_, as.length, some e, rfl, ?_, by omega⟩⟩
      · rintro (hz | ⟨hs, hnew, -⟩)
        · exact absurd hz h0
        · exact absurd ⟨hs, hnew⟩ hok
      · rwa [List.take_left' rfl]

lemma Sent.linked_once (h : Sent q s s' as) (hl : ∀ a ∈ s.submitReqs, ∃ r, s.heap a = some r ∧ r.cq.isSome)
    (ha : a ∈ as) : s'.submitReqs.count a = 1 := by
  have hnew : a ∉ s.submitReqs := by
    intro hmem
    obtain ⟨r, hr, hc⟩ := hl a hmem
    obtain ⟨r₀, hr₀, hn₀, -⟩ := h.free a ha
    rw [hr] at hr₀
    rw [Option.some.inj hr₀, hn₀] at hc
    cases hc
  rw [h.links, List.count_append, List.count_reverse, List.count_eq_one_of_mem h.nodup ha,
    List.count_eq_zero_of_not_mem hnew]

/-- The call returns, and the number it returns is the number of requests, from the front of the array,
that were handed over; all others are as they were. -/
def PrefixExact (s : State) (cq : Option ℕ) (turns : List Turn) : Prop :=
  ∃ s' n e, asyncSubmitBatch s cq turns = .returned s' n e ∧ n ≤ turns.length ∧
    Sent cq s s' ((turns.map Turn.addr).take n) ∧
    ∀ a ∈ (turns.map Turn.addr).take n, s'.submitReqs.count a = 1

theorem batch_prefix_exact (s : State) (cq : Option ℕ) (turns : List Turn) (hv : ValidArray s turns) :
    PrefixExact s cq turns ↔ cq = none ∨ 2 ^ 31 ≤ turns.length ∨ ¬ NullFirst s [] turns := by
  have hnothing : ∀ e, asyncSubmitBatch s cq turns = .returned s 0 (some e) → PrefixExact s cq turns :=
    fun e he => ⟨s, 0, some e, he, Nat.zero_le _, by simpa using sent_refl cq s, by simp⟩
  by_cases harg : turns = [] ∨ 2 ^ 31 ≤ turns.length
  · refine iff_of_true (hnothing .einval (by simp only [asyncSubmitBatch, if_pos harg])) ?_
    rcases harg with rfl | hlen
    · exact .inr (.inr id)
    · exact .inr (.inl hlen)
  · have hlen : ¬ 2 ^ 31 ≤ turns.length := fun hl => harg (.inr hl)
    cases cq with
    | none => exact iff_of_true (hnothing .ebadf (by simp only [asyncSubmitBatch, if_neg harg])) (.inl rfl)
    | some cq =>
      have hbatch : asyncSubmitBatch s (some cq) turns = submitLoop cq turns s 0 := by
        simp only [asyncSubmitBatch, if_neg harg]
      obtain ⟨hcrash, hgood⟩ := submitLoop_spec (sent_refl (some cq) s) hv
      rw [PrefixExact, hbatch]
      constructor
      · rintro ⟨s', n, e, hret, -⟩
        refine .inr (.inr fun hn => ?_)
        have := hcrash hn
        rw [List.length_nil, hret] at this
        cases this
      · rintro (hc | hl | hn)
        · cases hc
        · exact absurd hl hlen
        · obtain ⟨s', n, e, hret, hsent, hle⟩ := hgood hn
          exact ⟨s', n, e, hret, by simpa using hle, hsent, fun a ha => hsent.linked_once hv.linked ha⟩

def readReq : AsyncReq := { entry := some 3 }

def oneReq : State :=
  { heap := fun a => if a = 4096 then some readReq else none, entryWorker := fun _ => some 1 }

def turnOf (request : Addr) : Turn := { steps := [], request, random := 0 }

theorem batch_prefix_exact_one : PrefixExact oneReq (some 7) [turnOf 4112, turnOf 4112] :=
  (batch_prefix_exact oneReq (some 7) [turnOf 4112, turnOf 4112]
    ⟨fun t ht => by
      have ht : t = turnOf 4112 := by simpa using ht
      rw [ht]
      exact .inr ⟨by decide, by decide⟩, by decide, by simp [oneReq]⟩).mpr
    (.inr (.inr (by simp [NullFirst, turnOf])))

def Batch.hasCrashed : Batch → Bool
  | .crashed => true
  | .returned .. => false

/-- The second pointer is NULL: the lock of a request at NULL - 16 is taken. -/
theorem batch_crashes_on_null : (asyncSubmitBatch oneReq (some 7) [turnOf 4112, turnOf 0]).hasCrashed = true ∧
    ¬PrefixExact oneReq (some 7) [turnOf 4112, turnOf 0] := by
  have hcrash : (asyncSubmitBatch oneReq (some 7) [turnOf 4112, turnOf 0]).hasCrashed = true := by decide
  refine ⟨hcrash, ?_⟩
  rintro ⟨s', n, e, he, -⟩
  rw [he] at hcrash
  cases hcrash

/-! The requests and the queue `q` of the whole system, as a call for `q` sees them: request `r` is at `r + 1`. -/

section System

variable {n : ℕ} (s : Req.Sys n) (q : Req.CqId) (r : Req.ReqId)

def reqView (x : Req.Req n) : AsyncReq where
  isSocket := x.entry.isNone
  entry := x.entry
  cq := x.cq
  done := x.done
  noWait := x.cq.isSome
  worker := x.worker.map Fin.val

def sysView : State where
  heap a := if a = 0 then none else some (reqView (s.reqs (a - 1)))
  entryWorker i := (s.socks i).entryWorker.map Fin.val
  submitReqs := (s.cqs q).submitReqs.map (· + 1)

lemma sysView_submit (w : Fin n) : (sysView s q).hand q (r + 1) (reqView (s.reqs r)) w =
    { sysView (Req.submit s q r w) q with pushes := [(w.val, r + 1)] } := by
  have hheap : Function.update (sysView s q).heap (r + 1)
      (some { reqView (s.reqs r) with noWait := true, cq := some q, worker := some w.val }) =
      (sysView (Req.submit s q r w) q).heap := by
    funext a
    by_cases ha : a = r + 1
    · subst ha
      simp [sysView, reqView, Req.submit, Req.enqueue]
    · by_cases h0 : a = 0
      · simp [sysView, h0]
      · have hne : a - 1 ≠ r := fun h => ha ((Nat.sub_one_add_one h0).symm.trans (congrArg (· + 1) h))
        simp [sysView, Req.submit, Req.enqueue, ha, h0, hne]
  rw [State.hand, hheap]
  simp [sysView, Req.submit, Req.enqueue]

/-- A submission step of the system is `async_submit_one`: what that refuses leaves the system as it is. -/
lemma step_submit (hopen : (s.cqs q).phase = .open) (hr : (s.reqs r).life = .live ∧ (s.reqs r).async) (w : Fin n) :
    (∃ dst : Fin n, Req.step s (.submit q r w) = Req.submit s q r dst ∧ asyncSubmitOne (sysView s q) q (r + 1) w =
        .ok { sysView (Req.submit s q r dst) q with pushes := [(dst.val, r + 1)] }) ∨
      Req.step s (.submit q r w) = s ∧ ∃ e, asyncSubmitOne (sysView s q) q (r + 1) w = .fail e := by
  have haim : aimWorker (sysView s q) (reqView (s.reqs r)) w = (Req.aimWorker s (s.reqs r).entry w).map Fin.val := by
    cases he : (s.reqs r).entry <;> simp [aimWorker, Req.aimWorker, reqView, sysView, he]
  have hheap : (sysView s q).heap (r + 1) = some (reqView (s.reqs r)) := rfl
  simp only [asyncSubmitOne, hheap, haim, Nat.succ_ne_zero, if_false, Req.step]
  cases hd : (s.reqs r).done with
  | true => exact .inr ⟨by split <;> simp, .ebusy, by simp [reqView, hd]⟩
  | false =>
  cases hc : (s.reqs r).cq with
  | some c => exact .inr ⟨by split <;> simp, .ebusy, by simp [reqView, hc]⟩
  | none =>
  cases Req.aimWorker s (s.reqs r).entry w with
  | none => exact .inr ⟨rfl, .ebadf, by simp [reqView, hd, hc]⟩
  | some dst =>
    refine .inl ⟨dst, if_pos ⟨hopen, hr.1, hr.2, rfl, rfl⟩, ?_⟩
    rw [if_neg (by simp [reqView, hd, hc]), ← sysView_submit]
    rfl

end System

end Netfast.Submit
