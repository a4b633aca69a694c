import Netfast.Queue.Mpsc
import Netfast.Lib.Run

/-! `notify_queue`: producers push and signal an eventfd, the consumer drains it and pops. -/

namespace Netfast.Queue

open Run

variable {ι α : Type*}

inductive Producer (α : Type*)
  | idle
  | push (p : PushPc α)
  | cas
  | write

inductive Consumer (α : Type*)
  | asleep
  | clear
  | pop (budget : ℕ) (pc : PopPc α)
  | check
  | cas
  | write

structure System (ι α : Type*) where
  q : Mpsc α := {}
  efd : ℕ := 0
  pending : Bool := false
  prod : ι → Producer α := fun _ => .idle
  cons : Consumer α := .asleep
  pushed : List (ι × α) := []
  popped : List (Option (ι × α)) := []

inductive Act (ι α : Type*)
  | start (p : ι) (a : α)
  | prod (p : ι)
  | cons

section

variable [DecidableEq ι] [DecidableEq α]

def lastPush (pushed : List (ι × α)) (a : α) : Option (ι × α) := pushed.reverse.find? (·.2 = a)

def pushOf (pushed : List (ι × α)) : Node α → Option (ι × α)
  | .stub => none
  | .item a => lastPush pushed a

def isFree (s : System ι α) (a : α) : Bool :=
  (s.pushed.map Prod.snd).count a = s.popped.countP fun e => e.any (·.2 = a)

def setProd (s : System ι α) (p : ι) (x : Producer α) : System ι α :=
  { s with prod := Function.update s.prod p x }

def prodStep (s : System ι α) (p : ι) : Producer α → System ι α
  | .idle => s
  | .push pc =>
    let out := pushStep s.q pc
    setProd { s with q := out.1 } p (match out.2 with | .idle => .cas | pc => .push pc)
  | .cas => if s.pending then setProd s p .idle else setProd { s with pending := true } p .write
  | .write => setProd { s with efd := s.efd + 1 } p .idle

def loop : ℕ → Consumer α
  | 0 => .check
  | b + 1 => .pop b .load

def consStep (budget : ℕ) (s : System ι α) : Consumer α → System ι α
  | .asleep => { s with efd := 0, cons := .clear }
  | .clear => { s with pending := false, cons := loop budget }
  | .pop b pc =>
    let out := popStep s.q pc
    match out.2 with
    | .inl pc => { s with q := out.1, cons := .pop b pc }
    | .inr none => { s with q := out.1, cons := .check }
    | .inr (some n) => { s with q := out.1, cons := loop b, popped := s.popped ++ [pushOf s.pushed n] }
  | .check => if mpscqIsEmpty s.q then { s with cons := .asleep } else { s with cons := .cas }
  | .cas => if s.pending then { s with cons := .asleep } else { s with pending := true, cons := .write }
  | .write => { s with efd := s.efd + 1, cons := .asleep }

def step (budget : ℕ) (s : System ι α) : Act ι α → System ι α
  | .start p a =>
    match s.prod p with
    | .idle => if isFree s a then { setProd s p (.push (.init (.item a))) with pushed := s.pushed ++ [(p, a)] } else s
    | _ => s
  | .prod p => prodStep s p (s.prod p)
  | .cons => consStep budget s s.cons

structure History (pushed : List (ι × α)) (early : ι → Option α) (done rest : List (ι × α)) : Prop where
  tags : ∀ e ∈ rest, lastPush pushed e.2 = some e
  hand : ∀ p a, early p = some a → lastPush pushed a = some (p, a)
  order : ∀ p, pushed.filter (·.1 = p) = (done ++ rest).filter (·.1 = p) ++ ((early p).map (p, ·)).toList
  present : ∀ a, (a ∈ rest.map Prod.snd ∨ ∃ p, early p = some a) →
    (pushed.map Prod.snd).count a = (done.map Prod.snd).count a + 1
  absent : ∀ a, ¬(a ∈ rest.map Prod.snd ∨ ∃ p, early p = some a) →
    (pushed.map Prod.snd).count a = (done.map Prod.snd).count a

end

variable {pushed done rest : List (ι × α)} {p : ι} {a : α} {n : Node α}

def Producer.pc : Producer α → PushPc α
  | .push p => p
  | _ => .idle

def Producer.early : Producer α → Option α
  | .push (.init n) | .push (.swap n) => n.item?
  | _ => none

inductive Producer.Due : Producer α → Prop
  | link {n prev : Node α} : Due (.push (.link n prev))
  | cas : Due .cas

def Consumer.pc : Consumer α → PushPc α
  | .pop _ pc => pc.push
  | _ => .idle

def Consumer.At (q : Mpsc α) : Consumer α → Prop
  | .pop _ pc => pc.At q
  | _ => True

def pushes (prod : ι → Producer α) (cons : Consumer α) : Option ι → PushPc α
  | none => cons.pc
  | some p => (prod p).pc

structure Sound (s : System ι α) (l : List (Node α)) : Prop where
  shape : Shape s.q (pushes s.prod s.cons) l
  carries : ∀ p n, (s.prod p).pc.node = some n → ∃ a, n = .item a
  at_ : s.cons.At s.q

structure Signals (s : System ι α) (l : List (Node α)) : Prop where
  signal : s.pending = true → 0 < s.efd ∨ (∃ p, s.prod p = .write) ∨ s.cons = .clear ∨ s.cons = .write
  held : s.cons = .write → s.pending = true
  awaited : s.cons = .asleep → items l ≠ [] → s.pending = true ∨ ∃ p, (s.prod p).Due

variable {s : System ι α} {l : List (Node α)}

lemma Signals.of_ne (h : Signals s l) (hclear : s.cons ≠ .clear) (hwrite : s.cons ≠ .write) (hp : s.pending = true) :
    0 < s.efd ∨ ∃ p, s.prod p = .write := by
  rcases h.signal hp with he | hw | hc | hc
  · exact .inl he
  · exact .inr hw
  · exact absurd hc hclear
  · exact absurd hc hwrite

lemma Sound.not_stub (h : Sound s l) (t : Option ι) (ht : t ≠ none) : (pushes s.prod s.cons t).node ≠ some .stub := by
  cases t with
  | none => exact absurd rfl ht
  | some p =>
    intro hn
    obtain ⟨a, ha⟩ := h.carries p _ hn
    cases ha

lemma Sound.cons_node (h : Sound s l) (hn : s.cons.pc.node = some n) : n = .stub := by
  have hat := h.at_
  cases hc : s.cons with
  | pop b pc =>
    rw [hc] at hn hat
    cases pc with
    | stub tail p => exact (Option.some.inj (hat.2.2.symm.trans hn)).symm
    | _ => cases hn
  | _ =>
    rw [hc] at hn
    cases hn

variable {x : Producer α}

lemma Producer.early_node (h : x.early = some a) : x.pc = .init (.item a) ∨ x.pc = .swap (.item a) := by
  cases x with
  | push p =>
    cases p with
    | init n =>
      cases n with
      | stub => cases h
      | item b => exact .inl (by rw [Option.some.inj h]; rfl)
    | swap n =>
      cases n with
      | stub => cases h
      | item b => exact .inr (by rw [Option.some.inj h]; rfl)
    | _ => cases h
  | _ => cases h

lemma loop_pc (b : ℕ) : (loop b : Consumer α).pc = .idle := by
  cases b with
  | zero => rfl
  | succ b => rfl

lemma loop_at (b : ℕ) (q : Mpsc α) : (loop b : Consumer α).At q := by
  cases b with
  | zero => trivial
  | succ b => trivial

lemma loop_ne (b : ℕ) : (loop b : Consumer α) ≠ .asleep ∧ (loop b : Consumer α) ≠ .write := by
  cases b with
  | zero => exact ⟨nofun, nofun⟩
  | succ b => exact ⟨nofun, nofun⟩

variable [DecidableEq ι]

lemma pushes_prod (prod : ι → Producer α) (cons : Consumer α) (p : ι) (x : Producer α) :
    pushes (Function.update prod p x) cons = Function.update (pushes prod cons) (some p) x.pc := by
  funext t
  cases t with
  | none => rfl
  | some p' =>
    by_cases hp : p' = p
    · subst hp
      simp [pushes]
    · simp [pushes, hp]

lemma pushes_cons (prod : ι → Producer α) (cons cons' : Consumer α) :
    pushes prod cons' = Function.update (pushes prod cons) none cons'.pc := by
  funext t
  cases t with
  | none => simp [pushes]
  | some p => simp [pushes]

lemma early_update (prod : ι → Producer α) (p : ι) (x : Producer α) :
    (fun p' => (Function.update prod p x p').early) = Function.update (fun p' => (prod p').early) p x.early := by
  funext p'
  by_cases hp : p' = p
  · subst hp
    simp
  · simp [hp]

lemma filter_concat (l : List (ι × α)) (p p' : ι) (a : α) : (l ++ [(p, a)]).filter (·.1 = p') =
    l.filter (·.1 = p') ++ if p = p' then [(p, a)] else [] := by
  by_cases h : p = p'
  · simp [h]
  · simp [h]

lemma Sound.setProd (h : Sound s l) (q' : Mpsc α) (l' : List (Node α))
    (hs : Shape q' (Function.update (pushes s.prod s.cons) (some p) x.pc) l')
    (hc : ∀ n, x.pc.node = some n → ∃ a, n = .item a) (ht : q'.tail = s.q.tail) :
    Sound (setProd { s with q := q' } p x) l' := by
  refine ⟨?_, fun p' m hm => ?_, ?_⟩
  · rw [Queue.setProd, pushes_prod]
    exact hs
  · by_cases hp : p' = p
    · subst hp
      exact hc m (by simpa [Queue.setProd] using hm)
    · exact h.carries p' m (by simpa [Queue.setProd, hp] using hm)
  · have hat := h.at_
    change s.cons.At q'
    cases hcons : s.cons with
    | pop b pc =>
      rw [hcons] at hat
      cases pc <;> simpa [Consumer.At, PopPc.At, ht] using hat
    | _ => trivial

lemma Signals.signal_setProd (h : Signals s l) (hp : s.prod p ≠ .write) (hpend : s.pending = true) :
    0 < s.efd ∨ (∃ p', Function.update s.prod p x p' = .write) ∨ s.cons = .clear ∨ s.cons = .write :=
  (h.signal hpend).imp_right (.imp_left (exists_update (P := fun y : Producer α => y = .write) fun hw => absurd hw hp))

lemma Sound.notifies (h : Sound s l) (hp : (s.prod p).pc = .idle) (hx : x.pc = .idle) :
    Sound (Queue.setProd s p x) l := by
  have hidle : pushes s.prod s.cons (some p) = .idle := hp
  refine h.setProd s.q l ?_ ?_ rfl
  · rw [hx, update_idle hidle]
    exact h.shape
  · rw [hx]
    nofun

lemma Sound.setCons {c : Consumer α} (h : Sound s l) (hc : s.cons.pc = .idle) (hc' : c.pc = .idle) (hat : c.At s.q) :
    Sound { s with cons := c } l := by
  have hidle : pushes s.prod s.cons none = .idle := hc
  refine ⟨?_, h.carries, hat⟩
  change Shape s.q (pushes s.prod c) l
  rw [pushes_cons s.prod s.cons c, hc', update_idle hidle]
  exact h.shape

variable [DecidableEq α]

omit [DecidableEq ι] in
lemma lastPush_concat_self (pushed : List (ι × α)) (p : ι) (a : α) : lastPush (pushed ++ [(p, a)]) a = some (p, a) := by
  simp [lastPush]

omit [DecidableEq ι] in
lemma lastPush_concat_of_ne {b : α} (pushed : List (ι × α)) (p : ι) (h : a ≠ b) :
    lastPush (pushed ++ [(p, a)]) b = lastPush pushed b := by
  simp [lastPush, h]

omit [DecidableEq ι] in
lemma countP_popped (done : List (ι × α)) (a : α) :
    (done.map some).countP (fun e => e.any (·.2 = a)) = (done.map Prod.snd).count a := by
  rw [List.countP_map, List.count, List.countP_map]
  congr 1

section

variable {early : ι → Option α}

namespace History

lemma start (h : History pushed early done rest) (hp : early p = none)
    (ha : (pushed.map Prod.snd).count a = (done.map Prod.snd).count a) :
    History (pushed ++ [(p, a)]) (Function.update early p (some a)) done rest := by
  have hearly (p' : ι) : Function.update early p (some a) p' = if p' = p then some a else early p' :=
    Function.update_apply ..
  have hnone : ¬(a ∈ rest.map Prod.snd ∨ ∃ p', early p' = some a) := fun hx => by
    have := h.present a hx
    omega
  have hcount (b : α) : ((pushed ++ [(p, a)]).map Prod.snd).count b =
      (pushed.map Prod.snd).count b + if a = b then 1 else 0 := by
    rw [List.map_append, List.count_append]
    simp [List.count_singleton]
  refine ⟨fun e he => ?_, fun p' b hb => ?_, fun p' => ?_, fun b hb => ?_, fun b hb => ?_⟩
  · rw [lastPush_concat_of_ne]
    · exact h.tags e he
    · rintro rfl
      exact hnone (.inl (List.mem_map_of_mem he))
  · rw [hearly] at hb
    split at hb
    · next hpp =>
      obtain rfl := Option.some.inj hb
      rw [hpp]
      exact lastPush_concat_self pushed p a
    · rw [lastPush_concat_of_ne]
      · exact h.hand p' b hb
      · rintro rfl
        exact hnone (.inr ⟨p', hb⟩)
  · rw [filter_concat, h.order p', hearly]
    by_cases hpp : p' = p
    · subst hpp
      simp [hp]
    · simp [hpp, Ne.symm hpp]
  · rw [hcount]
    by_cases hab : a = b
    · subst hab
      rw [if_pos rfl, ha]
    · rw [if_neg hab, Nat.add_zero]
      refine h.present b (hb.imp_right fun ⟨p', hp'⟩ => ⟨p', ?_⟩)
      rw [hearly] at hp'
      split at hp'
      · exact absurd (Option.some.inj hp') hab
      · exact hp'
  · have hab : a ≠ b := by
      rintro rfl
      exact hb (.inr ⟨p, Function.update_self ..⟩)
    rw [hcount, if_neg hab, Nat.add_zero]
    refine h.absent b fun hx => hb (hx.imp_right fun ⟨p', hp'⟩ => ⟨p', ?_⟩)
    rw [hearly, if_neg, hp']
    rintro rfl
    rw [hp] at hp'
    cases hp'

lemma enqueue (h : History pushed early done rest) (hp : early p = some a) :
    History pushed (Function.update early p none) done (rest ++ [(p, a)]) := by
  have hearly (p' : ι) : Function.update early p none p' = if p' = p then none else early p' :=
    Function.update_apply ..
  have hback {b : α} (hx : b ∈ (rest ++ [(p, a)]).map Prod.snd ∨ ∃ p', Function.update early p none p' = some b) :
      b ∈ rest.map Prod.snd ∨ ∃ p', early p' = some b := by
    rcases hx with hx | ⟨p', hp'⟩
    · rw [List.map_append, List.mem_append] at hx
      rcases hx with hx | hx
      · exact .inl hx
      · obtain rfl : b = a := by simpa using hx
        exact .inr ⟨p, hp⟩
    · rw [hearly] at hp'
      split at hp'
      · cases hp'
      · exact .inr ⟨p', hp'⟩
  refine ⟨fun e he => ?_, fun p' b hb => ?_, fun p' => ?_, fun b hb => h.present b (hback hb), fun b hb => ?_⟩
  · rcases List.mem_append.1 he with he | he
    · exact h.tags e he
    · obtain rfl := List.mem_singleton.1 he
      exact h.hand p a hp
  · rw [hearly] at hb
    split at hb
    · cases hb
    · exact h.hand p' b hb
  · rw [← List.append_assoc, filter_concat, h.order p', hearly]
    by_cases hpp : p' = p
    · subst hpp
      simp [hp]
    · simp [hpp, Ne.symm hpp]
  · refine h.absent b fun hx => hb ?_
    rcases hx with hx | ⟨p', hp'⟩
    · exact .inl (by rw [List.map_append]; exact List.mem_append_left _ hx)
    · by_cases hpp : p' = p
      · subst hpp
        obtain rfl := Option.some.inj (hp.symm.trans hp')
        exact .inl (by simp)
      · exact .inr ⟨p', by rw [hearly, if_neg hpp, hp']⟩

lemma dequeue {e : ι × α} (h : History pushed early done (e :: rest)) (hn : e.2 ∉ rest.map Prod.snd)
    (he : ∀ p, early p ≠ some e.2) : History pushed early (done ++ [e]) rest := by
  have hcount (b : α) : ((done ++ [e]).map Prod.snd).count b =
      (done.map Prod.snd).count b + if e.2 = b then 1 else 0 := by
    rw [List.map_append, List.count_append]
    simp [List.count_singleton]
  refine ⟨fun e' he' => h.tags e' (List.mem_cons_of_mem e he'), h.hand, fun p => ?_, fun b hb => ?_, fun b hb => ?_⟩
  · rw [h.order p, List.append_assoc]
    rfl
  · have hne : e.2 ≠ b := by
      rintro rfl
      rcases hb with hb | ⟨p, hp⟩
      · exact hn hb
      · exact he p hp
    rw [hcount, if_neg hne]
    exact h.present b (hb.imp_left fun hb => List.mem_cons_of_mem _ hb)
  · rw [hcount]
    by_cases hb' : e.2 = b
    · rw [if_pos hb']
      exact h.present b (.inl (by rw [← hb']; exact List.mem_cons_self))
    · rw [if_neg hb']
      refine h.absent b fun hx => hb (hx.imp_left fun hx => ?_)
      rcases List.mem_cons.1 hx with hx | hx
      · exact absurd hx.symm hb'
      · exact hx

end History

end

structure NotifyInv (s : System ι α) (l : List (Node α)) (done rest : List (ι × α)) : Prop where
  sound : Sound s l
  popped : s.popped = done.map some
  queued : items l = rest.map Prod.snd
  history : History s.pushed (fun p => (s.prod p).early) done rest
  signals : Signals s l

lemma NotifyInv.start (h : NotifyInv s l done rest) (hp : s.prod p = .idle) (hf : isFree s a = true) :
    NotifyInv { setProd s p (.push (.init (.item a))) with pushed := s.pushed ++ [(p, a)] } l done rest := by
  rw [isFree, decide_eq_true_eq, h.popped, countP_popped] at hf
  have hnone : ¬(a ∈ rest.map Prod.snd ∨ ∃ p', (s.prod p').early = some a) := fun hx => by
    have := h.history.present a hx
    omega
  have hl : .item a ∉ l := fun hm => hnone (.inl (h.queued ▸ mem_items.2 hm))
  have hhold (t : Option ι) : (pushes s.prod s.cons t).node ≠ some (.item a) := by
    intro hn
    cases t with
    | none => cases h.sound.cons_node hn
    | some p' =>
      change (s.prod p').pc.node = _ at hn
      cases hx : s.prod p' with
      | push pc =>
        rw [hx] at hn
        cases pc with
        | idle => cases hn
        | init n => exact hnone (.inr ⟨p', by rw [hx]; exact congrArg (·.bind Node.item?) hn⟩)
        | swap n => exact hnone (.inr ⟨p', by rw [hx]; exact congrArg (·.bind Node.item?) hn⟩)
        | link n prev =>
          obtain rfl := Option.some.inj hn
          have := (h.sound.shape.linking (some p') (.item a) prev (by rw [pushes, hx]; rfl)).1.right_mem
          exact hl (List.mem_of_mem_tail this)
      | _ =>
        rw [hx] at hn
        cases hn
  have hsound := h.sound.setProd (p := p) (x := .push (.init (.item a))) s.q l
    (h.sound.shape.start (by rw [pushes, hp]; rfl) hl hhold) (fun n hn => ⟨a, (Option.some.inj hn).symm⟩) rfl
  refine ⟨⟨hsound.shape, hsound.carries, hsound.at_⟩, h.popped, h.queued, ?_, ⟨fun hpend => ?_, h.signals.held,
    fun hc hi => ?_⟩⟩
  · change History _ (fun p' => (Function.update s.prod p (.push (.init (.item a))) p').early) done rest
    rw [early_update]
    exact h.history.start (by rw [hp]; rfl) hf
  · exact h.signals.signal_setProd (by rw [hp]; nofun) hpend
  · exact (h.signals.awaited hc hi).imp_right (exists_update (by rw [hp]; nofun))

lemma NotifyInv.history_setProd (h : NotifyInv s l done rest) (hx : x.early = (s.prod p).early) :
    History s.pushed (fun p' => (Function.update s.prod p x p').early) done rest := by
  rw [early_update, hx, show (fun p' => (s.prod p').early) = Producer.early ∘ s.prod from rfl]
  rw [show (s.prod p).early = (Producer.early ∘ s.prod) p from rfl, Function.update_eq_self]
  exact h.history

lemma NotifyInv.push {pc : PushPc α} (h : NotifyInv s l done rest) (hp : s.prod p = .push pc) :
    ∃ l' rest', NotifyInv (prodStep s p (.push pc)) l' done rest' := by
  have hpush : pushes s.prod s.cons (some p) = pc := by
    rw [pushes, hp]
    rfl
  have hshape := h.sound.shape.push_step hpush
  have hnode (n : Node α) (hn : pc.node = some n) : ∃ a, n = .item a := h.sound.carries p n (by rw [hp]; exact hn)
  have hsig {x : Producer α} := h.signals.signal_setProd (p := p) (x := x) (by rw [hp]; nofun)
  have hdue {x : Producer α} (hx : x.Due) : ∃ p', (Function.update s.prod p x p').Due := ⟨p, by simpa using hx⟩
  cases pc with
  | idle =>
    exact ⟨l, rest, h.sound.setProd s.q l hshape nofun rfl, h.popped, h.queued,
      h.history_setProd (by rw [hp]; rfl), hsig, h.signals.held, fun _ _ => .inr (hdue .cas)⟩
  | init n =>
    exact ⟨l, rest, h.sound.setProd _ l hshape hnode rfl, h.popped, h.queued,
      h.history_setProd (by rw [hp]; rfl), hsig, h.signals.held,
      fun hc hi => (h.signals.awaited hc hi).imp_right (exists_update (by rw [hp]; nofun))⟩
  | swap n =>
    obtain ⟨a, rfl⟩ := hnode n rfl
    have hsound := h.sound.setProd (p := p) (x := .push (.link (.item a) s.q.head)) _ _ hshape hnode rfl
    refine ⟨l ++ [Node.item a], rest ++ [(p, a)], hsound, h.popped, ?_, ?_, hsig, h.signals.held,
      fun _ _ => .inr (hdue .link)⟩
    · rw [items_concat_item, h.queued, List.map_append]
      rfl
    · change History _ (fun p' => (Function.update s.prod p (.push (.link (.item a) s.q.head)) p').early) done _
      rw [early_update]
      exact h.history.enqueue (by rw [hp]; rfl)
  | link n prev =>
    exact ⟨l, rest, h.sound.setProd _ l hshape nofun rfl, h.popped, h.queued, h.history_setProd (by rw [hp]; rfl),
      hsig, h.signals.held, fun _ _ => .inr (hdue .cas)⟩

lemma NotifyInv.cas (h : NotifyInv s l done rest) (hp : s.prod p = .cas) :
    NotifyInv (prodStep s p .cas) l done rest := by
  have hidle : (s.prod p).pc = .idle := by
    rw [hp]
    rfl
  rw [prodStep]
  split
  · next hpend =>
    exact ⟨h.sound.notifies hidle rfl, h.popped, h.queued, h.history_setProd (by rw [hp]; rfl),
      h.signals.signal_setProd (by rw [hp]; nofun), h.signals.held, fun _ _ => .inl hpend⟩
  · have hsound := h.sound.notifies (p := p) (x := .write) hidle rfl
    exact ⟨⟨hsound.shape, hsound.carries, hsound.at_⟩, h.popped, h.queued, h.history_setProd (by rw [hp]; rfl),
      fun _ => .inr (.inl ⟨p, Function.update_self ..⟩), fun _ => rfl, fun _ _ => .inl rfl⟩

lemma NotifyInv.write (h : NotifyInv s l done rest) (hp : s.prod p = .write) :
    NotifyInv (prodStep s p .write) l done rest := by
  have hsound := h.sound.notifies (p := p) (x := .idle) (by rw [hp]; rfl) rfl
  exact ⟨⟨hsound.shape, hsound.carries, hsound.at_⟩, h.popped, h.queued, h.history_setProd (by rw [hp]; rfl),
    fun _ => .inl (Nat.succ_pos _), h.signals.held,
    fun hc hi => (h.signals.awaited hc hi).imp_right (exists_update (by rw [hp]; nofun))⟩

lemma NotifyInv.prod_step (h : NotifyInv s l done rest) (p : ι) :
    ∃ l' rest', NotifyInv (prodStep s p (s.prod p)) l' done rest' := by
  cases hp : s.prod p with
  | idle => exact ⟨l, rest, h⟩
  | push pc => exact h.push hp
  | cas => exact ⟨l, rest, h.cas hp⟩
  | write => exact ⟨l, rest, h.write hp⟩

lemma NotifyInv.wake (h : NotifyInv s l done rest) (hc : s.cons = .asleep) :
    NotifyInv { s with efd := 0, cons := .clear } l done rest := by
  have hsound := h.sound.setCons (c := .clear) (by rw [hc]; rfl) rfl trivial
  exact ⟨⟨hsound.shape, hsound.carries, hsound.at_⟩, h.popped, h.queued, h.history,
    fun _ => .inr (.inr (.inl rfl)), nofun, nofun⟩

lemma NotifyInv.clear (h : NotifyInv s l done rest) (hc : s.cons = .clear) (b : ℕ) :
    NotifyInv { s with pending := false, cons := loop b } l done rest := by
  have hsound := h.sound.setCons (by rw [hc]; rfl) (loop_pc b) (loop_at b s.q)
  exact ⟨⟨hsound.shape, hsound.carries, hsound.at_⟩, h.popped, h.queued, h.history, nofun,
    fun hw => absurd hw (loop_ne b).2, fun hs => absurd hs (loop_ne b).1⟩

lemma NotifyInv.takes {l' : List (Node α)} (h : NotifyInv s l done rest) (hl : items l = a :: items l') :
    ∃ e rest', pushOf s.pushed (.item a) = some e ∧ items l' = rest'.map Prod.snd ∧
      History s.pushed (fun p => (s.prod p).early) (done ++ [e]) rest' := by
  have hq := h.queued
  rw [hl] at hq
  cases rest with
  | nil => cases hq
  | cons e rest' =>
    obtain ⟨rfl, hrest⟩ := List.cons.inj hq
    have hnodup : (items l).Nodup := h.sound.shape.nodup.filterMap fun x y b hx hy => by
      cases x <;> cases y <;> simp_all [Node.item?]
    refine ⟨e, rest', h.history.tags e List.mem_cons_self, hrest, h.history.dequeue ?_ fun p hp => ?_⟩
    · rw [← hrest]
      rw [hl] at hnodup
      exact (List.nodup_cons.1 hnodup).1
    · have hmem : .item e.2 ∈ l := mem_items.1 (by rw [hl]; exact List.mem_cons_self)
      exact h.sound.shape.fresh (some p) _ (Producer.early_node hp) hmem

lemma NotifyInv.pop {b : ℕ} {pc : PopPc α} (h : NotifyInv s l done rest) (hc : s.cons = .pop b pc) (n : ℕ) :
    ∃ l' done' rest', NotifyInv (consStep n s (.pop b pc)) l' done' rest' := by
  have hpush : pushes s.prod s.cons none = pc.push := by
    rw [hc]
    rfl
  have hat : pc.At s.q := by
    have := h.sound.at_
    rwa [hc] at this
  obtain ⟨l', hshape, hpops⟩ := h.sound.shape.pop hpush hat h.sound.not_stub
  have hsig := h.signals.of_ne (by rw [hc]; nofun) (by rw [hc]; nofun)
  have hshape' (c : Consumer α) (hcp : c.pc = afterPop (popStep s.q pc).2) :
      Shape (popStep s.q pc).1 (pushes s.prod c) l' := by
    rw [pushes_cons s.prod s.cons c, hcp]
    exact hshape
  simp only [consStep]
  generalize popStep s.q pc = out at *
  obtain ⟨q', o⟩ := out
  cases hpops with
  | @runs pc' hat' hl =>
    exact ⟨l', done, rest, ⟨hshape' (.pop b pc') rfl, h.sound.carries, hat'⟩, h.popped, hl.trans h.queued, h.history,
      fun hp => (hsig hp).imp_right .inl, nofun, nofun⟩
  | fails hl =>
    exact ⟨l', done, rest, ⟨hshape' .check rfl, h.sound.carries, trivial⟩, h.popped, hl.trans h.queued, h.history,
      fun hp => (hsig hp).imp_right .inl, nofun, nofun⟩
  | @takes a hl =>
    obtain ⟨e, rest', he, hq, hh⟩ := h.takes hl
    refine ⟨l', done ++ [e], rest', ⟨hshape' (loop b) (loop_pc b), h.sound.carries, loop_at b q'⟩, ?_, hq, hh,
      fun hp => (hsig hp).imp_right .inl, fun hw => absurd hw (loop_ne b).2, fun hs => absurd hs (loop_ne b).1⟩
    rw [List.map_append, ← h.popped]
    exact congrArg (s.popped ++ [·]) he

lemma NotifyInv.check (h : NotifyInv s l done rest) (hc : s.cons = .check) :
    NotifyInv (if mpscqIsEmpty s.q then { s with cons := .asleep } else { s with cons := .cas }) l done rest := by
  have hidle : s.cons.pc = .idle := by
    rw [hc]
    rfl
  have hsig := h.signals.of_ne (by rw [hc]; nofun) (by rw [hc]; nofun)
  split
  · next he =>
    refine ⟨h.sound.setCons hidle rfl trivial, h.popped, h.queued, h.history, fun hp => (hsig hp).imp_right .inl, nofun,
      fun _ hi => .inr ?_⟩
    rw [mpscqIsEmpty, Bool.and_eq_true, decide_eq_true_eq, Option.isNone_iff_eq_none] at he
    rcases h.sound.shape.gap (by rw [he.1]; exact he.2) with hl | ⟨t, n, ht⟩
    · rw [hl, he.1] at hi
      exact absurd rfl hi
    · cases t with
      | none =>
        change s.cons.pc = _ at ht
        rw [hidle] at ht
        cases ht
      | some p =>
        refine ⟨p, ?_⟩
        change (s.prod p).pc = _ at ht
        cases hp : s.prod p with
        | push pc =>
          rw [hp] at ht
          obtain rfl : pc = .link n s.q.tail := ht
          exact .link
        | _ =>
          rw [hp] at ht
          cases ht
  · exact ⟨h.sound.setCons hidle rfl trivial, h.popped, h.queued, h.history, fun hp => (hsig hp).imp_right .inl, nofun,
      nofun⟩

lemma NotifyInv.cons_cas (h : NotifyInv s l done rest) (hc : s.cons = .cas) :
    NotifyInv (if s.pending then { s with cons := .asleep } else { s with pending := true, cons := .write })
      l done rest := by
  have hidle : s.cons.pc = .idle := by
    rw [hc]
    rfl
  split
  · next hpend =>
    have hsig := h.signals.of_ne (by rw [hc]; nofun) (by rw [hc]; nofun) hpend
    exact ⟨h.sound.setCons hidle rfl trivial, h.popped, h.queued, h.history, fun _ => hsig.imp_right .inl, nofun,
      fun _ _ => .inl hpend⟩
  · have hsound := h.sound.setCons (c := .write) hidle rfl trivial
    exact ⟨⟨hsound.shape, hsound.carries, hsound.at_⟩, h.popped, h.queued, h.history, fun _ => .inr (.inr (.inr rfl)),
      fun _ => rfl, nofun⟩

lemma NotifyInv.cons_write (h : NotifyInv s l done rest) (hc : s.cons = .write) :
    NotifyInv { s with efd := s.efd + 1, cons := .asleep } l done rest := by
  have hsound := h.sound.setCons (c := .asleep) (by rw [hc]; rfl) rfl trivial
  exact ⟨⟨hsound.shape, hsound.carries, hsound.at_⟩, h.popped, h.queued, h.history, fun _ => .inl (Nat.succ_pos _),
    nofun, fun _ _ => .inl (h.signals.held hc)⟩

lemma NotifyInv.cons_step (h : NotifyInv s l done rest) (n : ℕ) :
    ∃ l' done' rest', NotifyInv (consStep n s s.cons) l' done' rest' := by
  cases hc : s.cons with
  | asleep => exact ⟨l, done, rest, h.wake hc⟩
  | clear => exact ⟨l, done, rest, h.clear hc n⟩
  | pop b pc => exact h.pop hc n
  | check => exact ⟨l, done, rest, h.check hc⟩
  | cas => exact ⟨l, done, rest, h.cons_cas hc⟩
  | write => exact ⟨l, done, rest, h.cons_write hc⟩

lemma NotifyInv.step (h : NotifyInv s l done rest) (n : ℕ) (e : Act ι α) :
    ∃ l' done' rest', NotifyInv (Queue.step n s e) l' done' rest' := by
  cases e with
  | start p a =>
    simp only [Queue.step]
    cases hp : s.prod p with
    | idle =>
      dsimp only
      split
      · next hf => exact ⟨l, done, rest, h.start hp hf⟩
      · exact ⟨l, done, rest, h⟩
    | _ => exact ⟨l, done, rest, h⟩
  | prod p =>
    obtain ⟨l', rest', h'⟩ := h.prod_step p
    exact ⟨l', done, rest', h'⟩
  | cons => exact h.cons_step n

lemma notifyInv_init : NotifyInv ({} : System ι α) [.stub] [] [] := by
  refine ⟨⟨shape_init fun t => ?_, nofun, trivial⟩, rfl, rfl, ⟨nofun, nofun, fun _ => rfl, fun a ha => ?_, fun _ _ => rfl⟩,
    nofun, nofun, fun _ hi => absurd rfl hi⟩
  · cases t with
    | none => rfl
    | some p => rfl
  · simp [Producer.early] at ha

def Queued (s : System ι α) (a : α) : Prop := Reached s.q (pushes s.prod s.cons) (.item a)

def InHand (s : System ι α) (a : α) : Prop := ∃ p, (s.prod p).early = some a

/-- Every push ends in exactly one pop, or its node is still there; the pops keep each producer's order; and a
consumer with nothing to wake it up has nothing to pop. -/
structure Delivers (s : System ι α) : Prop where
  once : ∀ a, Queued s a ∨ InHand s a →
    (s.pushed.map Prod.snd).count a = s.popped.countP (fun e => e.any (·.2 = a)) + 1
  never : ∀ a, ¬(Queued s a ∨ InHand s a) →
    (s.pushed.map Prod.snd).count a = s.popped.countP fun e => e.any (·.2 = a)
  apart : ∀ a, Queued s a → ¬InHand s a
  order : ∃ done : List (ι × α), s.popped = done.map some ∧ ∀ p, done.filter (·.1 = p) <+: s.pushed.filter (·.1 = p)
  wakes : s.cons = .asleep → s.efd = 0 → (∀ p, s.prod p = .idle) → ∀ a, ¬Queued s a

lemma NotifyInv.delivers (h : NotifyInv s l done rest) : Delivers s := by
  have hq (a : α) : Queued s a ↔ a ∈ rest.map Prod.snd := by
    rw [Queued, h.sound.shape.reached_iff, ← mem_items, h.queued]
  refine ⟨fun a ha => ?_, fun a ha => ?_, fun a ha hh => ?_, ⟨done, h.popped, fun p => ?_⟩, fun hc he hp a ha => ?_⟩
  · rw [h.popped, countP_popped]
    exact h.history.present a (by rwa [← hq])
  · rw [h.popped, countP_popped]
    exact h.history.absent a (by rwa [← hq])
  · obtain ⟨p, hp⟩ := hh
    exact h.sound.shape.fresh (some p) _ (Producer.early_node hp) (h.sound.shape.reached_iff.1 ha)
  · rw [h.history.order p, List.filter_append, List.append_assoc]
    exact List.prefix_append ..
  · have hi : items l ≠ [] := by
      rw [h.queued]
      exact List.ne_nil_of_mem ((hq a).1 ha)
    rcases h.signals.awaited hc hi with hpend | ⟨p, hd⟩
    · rcases h.signals.of_ne (by rw [hc]; nofun) (by rw [hc]; nofun) hpend with hs | ⟨p, hw⟩
      · omega
      · rw [hp p] at hw
        cases hw
    · rw [hp p] at hd
      cases hd

theorem notify_queue_delivers (n : ℕ) (acts : List (Act ι α)) : Delivers (run (step n) {} acts) := by
  obtain ⟨l, done, rest, h⟩ := run_always (I := fun s => ∃ l done rest, NotifyInv s l done rest)
    (fun s e ⟨_, _, _, h⟩ => h.step n e) ⟨_, _, _, notifyInv_init⟩ acts
  exact h.delivers

end Netfast.Queue
