import Mathlib.Data.List.DropRight
import Netfast.Lib.Run
import Netfast.Skbuff

/-! `xdp_if_read`: descriptors of the RX ring, peeked batch by batch, become packets or go back to the pool. -/

namespace Netfast.Xdp

open Run

def umemFrameSize : ℕ := 4096

structure RxDesc where
  addr : ℕ
  len : ℕ
  contd : Bool
  infoOk : Bool := true
  skbOk : Bool := true
deriving DecidableEq

def RxDesc.frame (d : RxDesc) : ℕ := d.addr % 2 ^ 48 - d.addr % 2 ^ 48 % umemFrameSize

structure Rx where
  dropContd : Bool := false
  released : List ℕ := []
  handed : List (List ℕ) := []
  consumed : List ℕ := []
  overrun : Bool := false

def Rx.release (rx : Rx) (frames : List ℕ) : Rx := { rx with released := rx.released ++ frames }

structure Building where
  infos : List ℕ := []
  bad : Bool := false

def rejected (cap : ℕ) (p : Building) (d : RxDesc) : Bool :=
  d.len = 0 || p.bad || decide (cap < d.len) || decide (Skbuff.skbDataMaxNum ≤ p.infos.length) || !d.infoOk

def collect (cap : ℕ) : List RxDesc → Building → Rx → Rx × Building × List RxDesc
  | [], p, rx => ({ rx with overrun := true }, p, [])
  | d :: ds, p, rx =>
    if rejected cap p d then
      if d.contd then collect cap ds { p with bad := true } (rx.release [d.frame])
      else (rx.release [d.frame], { p with bad := true }, ds)
    else if !d.contd then (rx, { p with infos := p.infos ++ [d.frame] }, ds)
    else if ds = [] then
      ({ rx with dropContd := true }, { infos := p.infos ++ [d.frame], bad := true }, [])
    else collect cap ds { p with infos := p.infos ++ [d.frame] } rx

def deliver (rx : Rx) (p : Building) (skbOk : Bool) : Rx :=
  if p.bad then rx.release p.infos
  else if p.infos = [] then rx
  else if !skbOk then rx.release p.infos
  else { rx with handed := rx.handed ++ [p.infos] }

def unfit (cap : ℕ) (d : RxDesc) : Bool := d.len = 0 || decide (cap < d.len)

def readDescs (cap : ℕ) : ℕ → List RxDesc → Rx → Rx
  | 0, _, rx => rx
  | _ + 1, [], rx => rx
  | k + 1, d :: ds, rx =>
    if rx.dropContd || unfit cap d then
      readDescs cap k ds { rx.release [d.frame] with dropContd := d.contd }
    else
      let (rx, p, rest) := collect cap (d :: ds) {} rx
      readDescs cap k rest (deliver rx p d.skbOk)

def readBatch (cap : ℕ) (rx : Rx) (batch : List RxDesc) : Rx :=
  let rx := readDescs cap batch.length batch rx
  { rx with consumed := rx.consumed ++ batch.map RxDesc.frame }

def xdpRxQueueSize : ℕ := 1024

def peeked : ℕ → List (List RxDesc) → List (List RxDesc)
  | _, [] => []
  | drained, b :: bs =>
    if xdpRxQueueSize ≤ drained ∨ b = [] then [] else b :: peeked (drained + b.length) bs

def xdpIfRead (cap : ℕ) (rx : Rx) (peeks : List (List RxDesc)) : Rx := run (readBatch cap) rx (peeked 0 peeks)

def Rx.frames (rx : Rx) : List ℕ := rx.released ++ rx.handed.flatten

variable {ds us : List RxDesc} {rx : Rx} {d : RxDesc} (cap : ℕ)

@[simp] lemma release_frames (rx : Rx) (fs : List ℕ) : (rx.release fs).frames.Perm (rx.frames ++ fs) := by
  simp only [Rx.frames, Rx.release, List.append_assoc]
  exact List.Perm.append_left _ List.perm_append_comm

lemma deliver_frames (rx : Rx) (p : Building) (skbOk : Bool) :
    (deliver rx p skbOk).frames.Perm (rx.frames ++ p.infos) := by
  rw [deliver]
  split
  · exact release_frames rx p.infos
  split
  · next h => simp [h]
  split
  · exact release_frames rx p.infos
  · simp [Rx.frames]

lemma deliver_flags (rx : Rx) (p : Building) (skbOk : Bool) :
    (deliver rx p skbOk).dropContd = rx.dropContd ∧ (deliver rx p skbOk).overrun = rx.overrun ∧
      (deliver rx p skbOk).consumed = rx.consumed := by
  rw [deliver]
  split_ifs <;> exact ⟨rfl, rfl, rfl⟩

structure Took (ds : List RxDesc) (p : Building) (rx : Rx) (p' : Building) (rx' : Rx) : Prop where
  overrun : rx'.overrun = rx.overrun
  consumed : rx'.consumed = rx.consumed
  frames : (rx'.frames ++ p'.infos).Perm (rx.frames ++ p.infos ++ ds.map RxDesc.frame)

lemma took_release (d : RxDesc) (p : Building) (rx : Rx) :
    Took [d] p rx { p with bad := true } (rx.release [d.frame]) where
  overrun := rfl
  consumed := rfl
  frames := by
    have h := (release_frames rx [d.frame]).append_right p.infos
    refine h.trans ?_
    simp only [List.append_assoc, List.map_cons, List.map_nil]
    exact List.Perm.append_left _ List.perm_append_comm

lemma took_keep (d : RxDesc) (p : Building) (rx : Rx) (b dr : Bool) :
    Took [d] p rx { infos := p.infos ++ [d.frame], bad := b } { rx with dropContd := dr } where
  overrun := rfl
  consumed := rfl
  frames := by simp [Rx.frames]

lemma Took.trans {es : List RxDesc} {p p' p'' : Building} {rx' rx'' : Rx} (h : Took ds p rx p' rx')
    (h' : Took es p' rx' p'' rx'') : Took (ds ++ es) p rx p'' rx'' where
  overrun := h'.overrun.trans h.overrun
  consumed := h'.consumed.trans h.consumed
  frames := by
    have := h.frames.append_right (es.map RxDesc.frame)
    refine h'.frames.trans (this.trans ?_)
    rw [List.map_append, List.append_assoc]

lemma collect_ended (rest : List RxDesc) (hus : ∀ u ∈ us, u.contd = true)
    (hd : d.contd = false) (p : Building) (rx : Rx) :
    ∃ p' rx', collect cap (us ++ d :: rest) p rx = (rx', p', rest) ∧ Took (us ++ [d]) p rx p' rx' ∧
      rx'.dropContd = rx.dropContd := by
  induction us generalizing p rx with
  | nil =>
    simp only [List.nil_append, collect, hd, Bool.false_eq_true, if_false, Bool.not_false, if_true]
    split
    · exact ⟨_, _, rfl, took_release d p rx, rfl⟩
    · exact ⟨_, _, rfl, took_keep d p rx p.bad rx.dropContd, rfl⟩
  | cons u us ih =>
    have hu := hus u List.mem_cons_self
    have ih := ih fun v hv => hus v (List.mem_cons_of_mem u hv)
    have hne : us ++ d :: rest ≠ [] := by simp
    simp only [List.cons_append, collect, hu, if_true, Bool.not_true, Bool.false_eq_true, if_false, if_neg hne]
    split
    · obtain ⟨p', rx', hc, htook, hdrop⟩ := ih { p with bad := true } (rx.release [u.frame])
      exact ⟨p', rx', hc, (took_release u p rx).trans htook, hdrop⟩
    · obtain ⟨p', rx', hc, htook, hdrop⟩ := ih { p with infos := p.infos ++ [u.frame] } rx
      exact ⟨p', rx', hc, (took_keep u p rx p.bad rx.dropContd).trans htook, hdrop⟩

def usable (cap : ℕ) (d : RxDesc) : Bool := d.len ≠ 0 && decide (d.len ≤ cap) && d.infoOk

lemma rejected_eq (p : Building) (d : RxDesc) :
    rejected cap p d = (p.bad || decide (Skbuff.skbDataMaxNum ≤ p.infos.length) || !usable cap d) := by
  rw [Bool.eq_iff_iff]
  simp only [rejected, usable, Bool.or_eq_true, decide_eq_true_eq, Bool.not_eq_true']
  by_cases h0 : d.len = 0 <;> by_cases hc : cap < d.len <;> by_cases hb : p.bad <;> by_cases hi : d.infoOk <;>
    simp_all

def Holds (cap : ℕ) (p : Building) (us : List RxDesc) : Prop :=
  p.bad = false ∧ p.infos.length + us.length ≤ Skbuff.skbDataMaxNum ∧ ∀ u ∈ us, usable cap u = true

lemma collect_cut {cap : ℕ} (rx : Rx) (hus : ∀ u ∈ us, u.contd = true) (hne : us ≠ [])
    {p : Building} (h : Holds cap p us) :
    ∃ p' rx', collect cap us p rx = (rx', p', []) ∧ Took us p rx p' rx' ∧ rx'.dropContd = true := by
  induction us generalizing p with
  | nil => exact absurd rfl hne
  | cons u us ih =>
    obtain ⟨hbad, hlen, husable⟩ := h
    have hu := hus u List.mem_cons_self
    have hrej : rejected cap p u = false := by
      rw [rejected_eq, hbad, husable u List.mem_cons_self]
      rw [List.length_cons] at hlen
      simp
      omega
    simp only [collect, hrej, hu, Bool.false_eq_true, if_false, Bool.not_true]
    by_cases hus0 : us = []
    · subst hus0
      rw [if_pos rfl]
      exact ⟨_, _, rfl, took_keep u p rx true true, rfl⟩
    · rw [if_neg hus0]
      have hh : Holds cap { p with infos := p.infos ++ [u.frame] } us := by
        refine ⟨hbad, ?_, fun v hv => husable v (List.mem_cons_of_mem u hv)⟩
        rw [List.length_append, List.length_singleton]
        rw [List.length_cons] at hlen
        omega
      obtain ⟨p', rx', hc, htook, hdrop⟩ := ih (fun v hv => hus v (List.mem_cons_of_mem u hv)) hus0 hh
      exact ⟨p', rx', hc, (took_keep u p rx p.bad rx.dropContd).trans htook, hdrop⟩

lemma collect_overrun {cap : ℕ} (rx : Rx) (hus : ∀ u ∈ us, u.contd = true) {p : Building}
    (h : ¬ Holds cap p us) : (collect cap us p rx).1.overrun = true := by
  induction us generalizing p rx with
  | nil => rfl
  | cons u us ih =>
    have hu := hus u List.mem_cons_self
    have hus' : ∀ v ∈ us, v.contd = true := fun v hv => hus v (List.mem_cons_of_mem u hv)
    simp only [collect, hu, if_true, Bool.not_true, Bool.false_eq_true, if_false]
    split
    · exact ih _ hus' fun hh => absurd hh.1 (by simp)
    next hrej =>
    rw [rejected_eq] at hrej
    simp only [Bool.or_eq_true, decide_eq_true_eq, Bool.not_eq_true', not_or, Bool.not_eq_true, Bool.not_eq_false,
      Nat.not_le] at hrej
    obtain ⟨⟨hbad, hroom⟩, husable⟩ := hrej
    by_cases hus0 : us = []
    · subst hus0
      refine absurd ⟨hbad, ?_, ?_⟩ h
      · rw [List.length_singleton]
        omega
      · simpa using husable
    · rw [if_neg hus0]
      refine ih _ hus' fun hh => h ⟨hbad, ?_, ?_⟩
      · have := hh.2.1
        rw [List.length_append, List.length_singleton] at this
        rw [List.length_cons]
        omega
      · intro v hv
        rcases List.mem_cons.mp hv with rfl | hv
        · exact husable
        · exact hh.2.2 v hv

lemma collect_sticky (ds : List RxDesc) (p : Building) (h : rx.overrun = true) :
    (collect cap ds p rx).1.overrun = true := by
  induction ds generalizing p rx with
  | nil => rfl
  | cons d ds ih =>
    rw [collect]
    split_ifs
    · exact ih _ h
    · exact h
    · exact h
    · exact h
    · exact ih _ h

lemma readDescs_sticky (k : ℕ) (ds : List RxDesc) (h : rx.overrun = true) :
    (readDescs cap k ds rx).overrun = true := by
  induction k generalizing ds rx with
  | zero => exact h
  | succ k ih =>
    cases ds with
    | nil => exact h
    | cons d ds =>
      rw [readDescs]
      split
      · exact ih _ h
      · have hc := collect_sticky cap (d :: ds) {} h
        exact ih _ ((deliver_flags _ _ _).2.1.trans hc)

def unfinished (batch : List RxDesc) : List RxDesc := batch.rtakeWhile RxDesc.contd

/-- The batch ends with a whole packet, or with the beginning of one that is good so far, or with a packet
that is being dropped since an earlier batch or since its first descriptor. -/
def Closes (cap : ℕ) (drop : Bool) (batch : List RxDesc) : Prop :=
  ((unfinished batch).length ≤ Skbuff.skbDataMaxNum ∧ ∀ u ∈ unfinished batch, usable cap u = true) ∨
    (drop = true ∧ unfinished batch = batch) ∨ ∃ d ∈ (unfinished batch).head?, unfit cap d = true

lemma unfinished_of_contd (h : ∀ u ∈ us, u.contd = true) : unfinished us = us :=
  List.rtakeWhile_eq_self_iff.mpr h

lemma unfinished_ended (us : List RxDesc) (rest : List RxDesc) (hd : d.contd = false) :
    unfinished (us ++ d :: rest) = unfinished rest := by
  have hstop : ¬ d.contd = true := by simp [hd]
  simp only [unfinished, List.rtakeWhile, List.reverse_append, List.reverse_cons, List.append_assoc,
    List.takeWhile_append, List.singleton_append, List.takeWhile_cons_of_neg hstop, List.append_nil]
  split
  · next hl => rw [(List.takeWhile_prefix _).eq_of_length hl]
  · rfl

lemma unfinished_length (batch : List RxDesc) : (unfinished batch).length ≤ batch.length :=
  (List.rtakeWhile_suffix _ _).length_le

lemma contd_or_ended (ds : List RxDesc) :
    (∀ u ∈ ds, u.contd = true) ∨
      ∃ us d rest, ds = us ++ d :: rest ∧ (∀ u ∈ us, u.contd = true) ∧ d.contd = false := by
  induction ds with
  | nil => exact .inl (by simp)
  | cons e ds ih =>
    cases he : e.contd with
    | false => exact .inr ⟨[], e, ds, rfl, by simp, he⟩
    | true =>
      rcases ih with hall | ⟨us, d, rest, rfl, hus, hd⟩
      · exact .inl (List.forall_mem_cons.mpr ⟨he, hall⟩)
      · exact .inr ⟨e :: us, d, rest, rfl, List.forall_mem_cons.mpr ⟨he, hus⟩, hd⟩

lemma closes_ended {cap : ℕ} {drop drop' : Bool} (us : List RxDesc) (rest : List RxDesc)
    (hd : d.contd = false) (hdrop : drop' = true → unfinished rest ≠ rest) :
    Closes cap drop (us ++ d :: rest) ↔ Closes cap drop' rest := by
  have hlen := unfinished_length rest
  have hne : unfinished rest ≠ us ++ d :: rest := by
    intro he
    have := congrArg List.length he
    rw [List.length_append, List.length_cons] at this
    omega
  rw [Closes, Closes, unfinished_ended us rest hd]
  constructor
  · rintro (h | ⟨-, h⟩ | h)
    · exact .inl h
    · exact absurd h hne
    · exact .inr (.inr h)
  · rintro (h | ⟨h, h'⟩ | h)
    · exact .inl h
    · exact absurd h' (hdrop h)
    · exact .inr (.inr h)

lemma closes_dropped {cap : ℕ} {drop : Bool} (ds : List RxDesc)
    (h : drop = true ∨ unfit cap d = true) : Closes cap drop (d :: ds) ↔ Closes cap d.contd ds := by
  cases hd : d.contd with
  | false => exact closes_ended [] ds hd (by simp)
  | true =>
    rcases contd_or_ended ds with hall | ⟨us, e, rest, rfl, hus, he⟩
    · have hwhole := unfinished_of_contd (List.forall_mem_cons.mpr ⟨hd, hall⟩)
      refine iff_of_true ?_ (.inr (.inl ⟨rfl, unfinished_of_contd hall⟩))
      rcases h with hdrop | hunfit
      · exact .inr (.inl ⟨hdrop, hwhole⟩)
      · exact .inr (.inr ⟨d, by rw [hwhole]; rfl, hunfit⟩)
    · have hfalse : (false : Bool) = true → unfinished rest ≠ rest := by simp
      exact (closes_ended (d :: us) rest he hfalse).trans (closes_ended us rest he hfalse).symm

lemma closes_cut {cap : ℕ} (hall : ∀ u ∈ d :: ds, u.contd = true)
    (hfit : unfit cap d = false) : Closes cap false (d :: ds) ↔ Holds cap {} (d :: ds) := by
  rw [Closes, unfinished_of_contd hall, Holds]
  simp [hfit]

structure Reads (cap : ℕ) (ds : List RxDesc) (rx rx' : Rx) : Prop where
  kept : Closes cap rx.dropContd ds → rx'.overrun = rx.overrun ∧ rx'.consumed = rx.consumed ∧
    rx'.frames.Perm (rx.frames ++ ds.map RxDesc.frame)
  overrun : ¬ Closes cap rx.dropContd ds → rx'.overrun = true

lemma reads_nil (rx : Rx) : Reads cap [] rx rx where
  kept _ := ⟨rfl, rfl, by simp⟩
  overrun h := absurd (.inl (by simp [unfinished])) h

lemma reads_dropped {cap : ℕ} {rx' : Rx}
    (hdrop : rx.dropContd = true ∨ unfit cap d = true)
    (h : Reads cap ds { rx.release [d.frame] with dropContd := d.contd } rx') : Reads cap (d :: ds) rx rx' where
  kept hc := by
    obtain ⟨ho, hco, hf⟩ := h.kept ((closes_dropped ds hdrop).mp hc)
    refine ⟨ho, hco, hf.trans ?_⟩
    have := (release_frames rx [d.frame]).append_right (ds.map RxDesc.frame)
    simpa [Rx.frames, List.append_assoc] using this
  overrun hc := h.overrun fun hh => hc ((closes_dropped ds hdrop).mpr hh)

lemma reads_cut {cap k : ℕ} (hdrop : rx.dropContd = false)
    (hfit : unfit cap d = false) (hall : ∀ u ∈ d :: ds, u.contd = true) :
    Reads cap (d :: ds) rx (readDescs cap k (collect cap (d :: ds) {} rx).2.2
      (deliver (collect cap (d :: ds) {} rx).1 (collect cap (d :: ds) {} rx).2.1 d.skbOk)) where
  kept hc := by
    rw [hdrop, closes_cut hall hfit] at hc
    obtain ⟨p', rx', hcut, htook, -⟩ := collect_cut rx hall (List.cons_ne_nil d ds) hc
    obtain ⟨-, ho, hco⟩ := deliver_flags rx' p' d.skbOk
    have hend : readDescs cap k [] (deliver rx' p' d.skbOk) = deliver rx' p' d.skbOk := by cases k <;> rfl
    rw [hcut, hend]
    refine ⟨ho.trans htook.overrun, hco.trans htook.consumed, (deliver_frames rx' p' d.skbOk).trans ?_⟩
    simpa using htook.frames
  overrun hc := by
    rw [hdrop, closes_cut hall hfit] at hc
    have ho := collect_overrun rx hall hc
    exact readDescs_sticky cap k _ ((deliver_flags _ _ _).2.1.trans ho)

lemma reads_ended {cap : ℕ} {rest : List RxDesc} {p' : Building} {rx₁ rx' : Rx} {skbOk : Bool}
    (hdrop : rx.dropContd = false) (hd : d.contd = false) (htook : Took (us ++ [d]) {} rx p' rx₁)
    (hdrop₁ : rx₁.dropContd = rx.dropContd) (h : Reads cap rest (deliver rx₁ p' skbOk) rx') :
    Reads cap (us ++ d :: rest) rx rx' := by
  obtain ⟨hdd, ho, hco⟩ := deliver_flags rx₁ p' skbOk
  have hiff : Closes cap rx.dropContd (us ++ d :: rest) ↔ Closes cap (deliver rx₁ p' skbOk).dropContd rest := by
    rw [hdd, hdrop₁, hdrop]
    exact closes_ended us rest hd (by simp)
  constructor
  · intro hc
    obtain ⟨ho', hco', hf⟩ := h.kept (hiff.mp hc)
    refine ⟨ho'.trans (ho.trans htook.overrun), hco'.trans (hco.trans htook.consumed), hf.trans ?_⟩
    have hmid := ((deliver_frames rx₁ p' skbOk).trans htook.frames).append_right (rest.map RxDesc.frame)
    simpa [List.append_assoc] using hmid
  · exact fun hc => h.overrun fun hh => hc (hiff.mpr hh)

lemma readDescs_reads (k : ℕ) (ds : List RxDesc) (rx : Rx) (hk : ds.length ≤ k) :
    Reads cap ds rx (readDescs cap k ds rx) := by
  induction k generalizing ds rx with
  | zero =>
    obtain rfl := List.length_eq_zero_iff.mp (Nat.le_zero.mp hk)
    exact reads_nil cap rx
  | succ k ih =>
    cases ds with
    | nil => exact reads_nil cap rx
    | cons d ds =>
      rw [List.length_cons] at hk
      rw [readDescs]
      split
      · next hdrop => exact reads_dropped (by simpa using hdrop) (ih ds _ (by omega))
      next hstart =>
      obtain ⟨hdrop, hfit⟩ : rx.dropContd = false ∧ unfit cap d = false := by simpa using hstart
      rcases contd_or_ended (d :: ds) with hall | ⟨us, e, rest, heq, hus, he⟩
      · exact reads_cut hdrop hfit hall
      · obtain ⟨p', rx', hc, htook, hdrop'⟩ := collect_ended cap rest hus he {} rx
        have hlen : rest.length ≤ k := by
          have := congrArg List.length heq
          rw [List.length_cons, List.length_append, List.length_cons] at this
          omega
        rw [heq, hc]
        exact reads_ended hdrop he htook hdrop' (ih rest _ hlen)

/-- Every frame of the descriptors given back to the ring is in one packet or in the pool. -/
def Conserved (rx : Rx) : Prop := rx.frames.Perm rx.consumed

lemma readBatch_sound {cap : ℕ} {batch : List RxDesc} (hrx : rx.overrun = false ∧ Conserved rx) :
    (readBatch cap rx batch).overrun = false ∧ Conserved (readBatch cap rx batch) ↔
      Closes cap rx.dropContd batch := by
  have h := readDescs_reads cap batch.length batch rx le_rfl
  constructor
  · rintro ⟨ho, -⟩
    by_contra hc
    rw [show (readBatch cap rx batch).overrun = true from h.overrun hc] at ho
    cases ho
  · intro hc
    obtain ⟨ho, hco, hf⟩ := h.kept hc
    refine ⟨ho.trans hrx.1, ?_⟩
    have hcons : (readBatch cap rx batch).consumed = rx.consumed ++ batch.map RxDesc.frame := by
      rw [← hco]
      rfl
    rw [Conserved, hcons]
    exact hf.trans (hrx.2.append_right _)

lemma readBatch_sticky (batch : List RxDesc) (h : rx.overrun = true) : (readBatch cap rx batch).overrun = true :=
  readDescs_sticky cap batch.length batch h

lemma xdpIfRead_run (rx : Rx) (calls : List (List (List RxDesc))) :
    run (xdpIfRead cap) rx calls = run (readBatch cap) rx (calls.flatMap (peeked 0)) := by
  induction calls generalizing rx with
  | nil => rfl
  | cons c cs ih =>
    rw [List.flatMap_cons, run, run, List.foldl_append]
    exact ih (xdpIfRead cap rx c)

lemma run_sound (batches : List (List RxDesc)) (hrx : rx.overrun = false ∧ Conserved rx) :
    ((run (readBatch cap) rx batches).overrun = false ∧ Conserved (run (readBatch cap) rx batches)) ↔
      Meets (readBatch cap) (fun rx b => Closes cap rx.dropContd b) rx batches := by
  induction batches generalizing rx with
  | nil => exact iff_of_true hrx trivial
  | cons b bs ih =>
    by_cases hc : Closes cap rx.dropContd b
    · have hstep := (readBatch_sound hrx).mpr hc
      exact (ih hstep).trans ⟨fun h => ⟨hc, h⟩, fun h => h.2⟩
    · have hover : (readBatch cap rx b).overrun = true :=
        (readDescs_reads cap b.length b rx le_rfl).overrun hc
      have hrun : (run (readBatch cap) (readBatch cap rx b) bs).overrun = true :=
        run_always (I := fun rx : Rx => rx.overrun = true) (fun _ b h => readBatch_sticky cap b h) hover bs
      refine iff_of_false (fun h => ?_) fun h => hc h.1
      rw [show run (readBatch cap) rx (b :: bs) = run (readBatch cap) (readBatch cap rx b) bs from rfl, hrun] at h
      cases h.1

/-- Calls of `xdp_if_read`, however the stream is cut into batches, read no descriptor behind a batch and
put every frame in exactly one place, exactly when every batch closes. -/
theorem rx_frames_conserved (cap : ℕ) (calls : List (List (List RxDesc))) :
    ((run (xdpIfRead cap) {} calls).overrun = false ∧ Conserved (run (xdpIfRead cap) {} calls)) ↔
      Meets (readBatch cap) (fun rx b => Closes cap rx.dropContd b) {} (calls.flatMap (peeked 0)) := by
  rw [xdpIfRead_run]
  exact run_sound cap _ ⟨rfl, .refl _⟩

/-- A zero-length descriptor at the end of a batch, marked as continued, inside a packet. -/
theorem rx_batch_overrun :
    let batch := [{ addr := 4096, len := 60, contd := true }, { addr := 8192, len := 0, contd := true }]
    (run (xdpIfRead 3840) {} [[batch]]).overrun = true := by
  decide

end Netfast.Xdp
