import Netfast.Lib.Run
import Netfast.Tcp.Moves

/-! Fast recovery. The counter of duplicate ACKs goes by `last_ack`; what it is meant to count is a run of pure
duplicates of `snd_una`, which is kept here beside the socket. -/

namespace Netfast.Tcp

open Serial Run

variable {s s' : TcpSock}

variable {e : Event} {g : Segment}

lemma Uncounted.of_eq (hw : s'.win.lastAckRepeat = s.win.lastAckRepeat) (hc : s'.cong = s.cong) : Uncounted s s' :=
  ⟨.inl hw, fun hr => by rw [← hc]; exact hr⟩

lemma Move.uncounted (h : Move s s') : Uncounted s s' := by
  cases h with
  | beside h => exact h.uncounted
  | _ => exact .of_eq rfl rfl

lemma Moves.uncounted (h : Moves s s') : Uncounted s s' := by
  induction h with
  | refl => exact .of_eq rfl rfl
  | tail _ hm ih => exact ih.trans hm.uncounted

lemma Writes.uncounted (h : Writes s s') : Uncounted s s' := by
  cases h with
  | idle h => exact h.uncounted
  | queued hr hw h =>
    have ht := (setTcpSocketRoute_moves s).uncounted
    rw [hr] at ht
    refine Uncounted.trans ?_ h.uncounted
    clear h
    induction hw with
    | refl => exact ht
    | tail _ hm ih =>
      cases hm with
      | chunk => exact ⟨ih.repeats, ih.recovery⟩

lemma parseTcpOptions_uncounted (s : TcpSock) (h : TcpHdr) : Uncounted s (parseTcpOptions s h).1 := by
  obtain ⟨c, hp, hc⟩ := parseTcpOptions_frame s h
  rw [hp]
  refine ⟨.inl rfl, fun hr => ?_⟩
  rcases hc with rfl | rfl
  · exact hr
  · cases hr

lemma Reads.uncounted {t : TcpSock} (h : Reads s g t) : Uncounted s (parseTcpOptions t g.hdr).1 := by
  refine Uncounted.trans ?_ (parseTcpOptions_uncounted t g.hdr)
  rcases h with rfl | ⟨-, hb, -⟩
  · exact .of_eq rfl rfl
  · exact hb.uncounted

lemma acknowledge_repeats (s : TcpSock) (h : TcpHdr) : (acknowledge s h).win.lastAckRepeat = 0 := by
  rw [acknowledge]
  rcases (noteWindow_beside (rttSample { tcpUpdateRetransmitQueue { s with snd.sndUna := h.ackSeq } with
    win.lastAck := h.ackSeq, win.lastAckRepeat := 0 }) h).uncounted.repeats with hr | hr
  · rw [hr]
    rfl
  · exact hr

def windowChanged (s : TcpSock) (g : Segment) : Bool :=
  windowIsNewer s g.hdr && s.win.sndWnd != tcpDecodeWindow s.nego g.hdr.window g.hdr.flags

lemma noteWindow_repeats (s : TcpSock) (h : TcpHdr) :
    (noteWindow s h).win.lastAckRepeat = s.win.lastAckRepeat ∧ (noteWindow s h).win.lastAck = s.win.lastAck ∧
      (noteWindow s h).cong = s.cong := by
  rw [noteWindow]
  split
  · obtain ⟨re, t, he⟩ := takeWindow_frame s h
    rw [he]
    exact ⟨rfl, rfl, rfl⟩
  · exact ⟨rfl, rfl, rfl⟩

lemma isDuplicateAck_noteWindow (s : TcpSock) (h : TcpHdr) (g : Segment) (b : Bool) :
    isDuplicateAck (noteWindow s h) g b = isDuplicateAck s g b := by
  rw [isDuplicateAck, isDuplicateAck, (noteWindow_repeats s h).2.1, (noteWindow_beside s h).snd]

lemma tcpCongestionOnDuplicateAck_recovery (s : TcpSock) (n : ℕ)
    (h : (tcpCongestionOnDuplicateAck s n).1.cong.caState = .recovery) : s.cong.caState = .recovery ∨ n = 3 := by
  rw [tcpCongestionOnDuplicateAck] at h
  split at h
  · next hn => exact .inr hn.1
  split at h
  · next hn => exact .inl hn.2
  · exact .inl h

lemma ackDuplicate_repeats (s : TcpSock) (g : Segment) :
    (isDuplicateAck s g (windowChanged s g) = true ∧
        (ackDuplicate s g).win.lastAckRepeat ≤ (s.win.lastAckRepeat + 1) % 2 ^ 32 ∧
        ((ackDuplicate s g).cong.caState = .recovery →
          s.cong.caState = .recovery ∨ (s.win.lastAckRepeat + 1) % 2 ^ 32 = 3)) ∨
      (isDuplicateAck s g (windowChanged s g) = false ∧
        (ackDuplicate s g).win.lastAckRepeat ≤ (if g.hdr.ackSeq = s.win.lastAck then s.win.lastAckRepeat else 0) ∧
        ((ackDuplicate s g).cong.caState = .recovery → s.cong.caState = .recovery)) := by
  obtain ⟨hrep, hlast, hcong⟩ := noteWindow_repeats s g.hdr
  have hdup := isDuplicateAck_noteWindow s g.hdr g (windowChanged s g)
  rw [ackDuplicate, ← windowChanged]
  dsimp only
  cases hd : isDuplicateAck s g (windowChanged s g) with
  | true =>
    rw [hdup, hd, if_pos rfl, hrep]
    have hca := tcpCongestionOnDuplicateAck_recovery
      { noteWindow s g.hdr with win.lastAckRepeat := (s.win.lastAckRepeat + 1) % 2 ^ 32 }
      ((s.win.lastAckRepeat + 1) % 2 ^ 32)
    obtain ⟨c, t, b, he, -, hre⟩ := tcpCongestionOnDuplicateAck_spec
      { noteWindow s g.hdr with win.lastAckRepeat := (s.win.lastAckRepeat + 1) % 2 ^ 32 }
      ((s.win.lastAckRepeat + 1) % 2 ^ 32)
    rw [he] at hca ⊢
    rw [hcong] at hca
    refine .inl ⟨rfl, ?_⟩
    cases b with
    | false => exact ⟨le_rfl, hca⟩
    | true =>
      have hu := (tcpRetransmitNow_moves (s := { noteWindow s g.hdr with
        win.lastAckRepeat := (s.win.lastAckRepeat + 1) % 2 ^ 32, cong := c, tm := t }) (hre rfl)).uncounted
      refine ⟨?_, fun hr => hca (hu.recovery hr)⟩
      rcases hu.repeats with hr | hr
      · exact hr.le
      · dsimp only
        rw [hr]
        exact Nat.zero_le _
  | false =>
    rw [hdup, hd, if_neg Bool.false_ne_true, hlast]
    refine .inr ⟨rfl, ?_⟩
    split
    · refine ⟨Nat.zero_le _, fun hr => ?_⟩
      rw [← hcong]
      exact hr
    · next heq =>
      rw [if_pos (not_not.mp heq), hrep, hcong]
      exact ⟨le_rfl, id⟩

def seenAck (s : TcpSock) (e : Event) : Option (TcpSock × Segment) :=
  match e.action with
  | .input g =>
    let p := parseTcpOptions (s.withInputs e.inputs) g.hdr
    if e.action.enabled s && p.2 && takesUp p.1 g then some (p.1, g) else none
  | _ => none

def pureDuplicate (s : TcpSock) (g : Segment) : Bool :=
  g.hdr.ackSeq == s.snd.sndUna && g.segLen == 0 && !windowChanged s g && gt s.snd.sndNxt s.snd.sndUna

def streakAfter (n : ℕ) (s : TcpSock) (e : Event) : ℕ :=
  match seenAck s e with
  | none => n
  | some (p, g) => if pureDuplicate p g then n + 1 else 0

structure Watched where
  sock : TcpSock
  streak : ℕ := 0

def watch (w : Watched) (e : Event) : Watched where
  sock := step w.sock e
  streak := streakAfter w.streak w.sock e

lemma run_watch (w : Watched) (es : List Event) : (run watch w es).sock = run step w.sock es := by
  induction es generalizing w with
  | nil => rfl
  | cons e es ih => exact ih (watch w e)

lemma meets_watch {ok : TcpSock → Event → Prop} {w : Watched} {es : List Event} (h : Meets step ok w.sock es) :
    Meets watch (fun w e => ok w.sock e) w es := by
  induction es generalizing w with
  | nil => trivial
  | cons e es ih => exact ⟨h.1, ih (w := watch w e) h.2⟩

def countsRight (p : TcpSock) (g : Segment) : Bool :=
  lt p.snd.sndUna g.hdr.ackSeq ||
    if isDuplicateAck p g (windowChanged p g) then g.hdr.ackSeq == p.snd.sndUna
    else g.hdr.ackSeq != p.win.lastAck || p.win.lastAckRepeat == 0

def CountsRight (s : TcpSock) (e : Event) : Prop := (seenAck s e).all (fun pg => countsRight pg.1 pg.2) = true

instance (s : TcpSock) (e : Event) : Decidable (CountsRight s e) := inferInstanceAs (Decidable (_ = _))

lemma tcpInput_uncounted
    (h : ¬((parseTcpOptions s g.hdr).2 = true ∧ takesUp (parseTcpOptions s g.hdr).1 g = true)) :
    Uncounted s (tcpInput s g) := by
  cases tcpInput_arrival s g with
  | unread hm => exact hm.uncounted
  | read ht hm => exact ht.uncounted.trans hm.uncounted
  | opened _ ht hc hm => exact (ht.uncounted.trans hc.uncounted).trans hm.uncounted
  | crossed _ ht hm =>
    have hu := hm.uncounted
    exact ht.uncounted.trans ⟨hu.repeats, hu.recovery⟩
  | renewed hp ht _ _ | repeated hp ht _ _ => exact absurd ⟨hp, ht⟩ h

lemma step_uncounted (h : seenAck s e = none) : Uncounted s (step s e) := by
  rw [step]
  split
  · next hen =>
    cases hs : e.action.segment? with
    | none =>
      have hu := (act_writes (s.withInputs e.inputs) hs).uncounted
      exact ⟨hu.repeats, hu.recovery⟩
    | some g =>
      have hact := Action.eq_input hs
      have hnot : ¬((parseTcpOptions (s.withInputs e.inputs) g.hdr).2 = true ∧
          takesUp (parseTcpOptions (s.withInputs e.inputs) g.hdr).1 g = true) := by
        intro ht
        simp only [seenAck, hact] at h
        rw [hact] at hen
        simp [hen, ht.1, ht.2] at h
      have hu := tcpInput_uncounted hnot
      rw [hact]
      exact ⟨hu.repeats, hu.recovery⟩
  · exact .of_eq rfl rfl

variable {p : TcpSock}

lemma seenAck_some (h : seenAck s e = some (p, g)) :
    e.action = .input g ∧ e.action.enabled s = true ∧ parseTcpOptions (s.withInputs e.inputs) g.hdr = (p, true) ∧
      takesUp p g = true := by
  rw [seenAck] at h
  split at h
  · next g' hact =>
    dsimp only at h
    split at h
    · next hc =>
      obtain ⟨rfl, rfl⟩ := Prod.mk.inj (Option.some.inj h)
      rw [Bool.and_eq_true, Bool.and_eq_true] at hc
      exact ⟨hact, hc.1.1, Prod.ext rfl hc.1.2, hc.2⟩
    · cases h
  · cases h

lemma tcpInput_takes (hp : parseTcpOptions s g.hdr = (p, true)) (ht : takesUp p g = true) :
    tcpInput s g = inputSynchronized p g := by
  have hcore : s.core.state = p.core.state := by
    obtain ⟨c, hf, -⟩ := parseTcpOptions_frame s g.hdr
    rw [hp] at hf
    rw [show p = _ from hf]
  have hst := (takesUp_iff.mp ht).1
  rw [tcpInput, hcore]
  cases hs : p.core.state
  case closed | listen | synSent =>
    rw [hs] at hst
    cases hst
  all_goals rw [hp]

lemma step_taken (h : seenAck s e = some (p, g)) :
    Uncounted s p ∧ ((lt p.snd.sndUna g.hdr.ackSeq = true ∧ Moves (acknowledge p g.hdr) (step s e)) ∨
      (lt p.snd.sndUna g.hdr.ackSeq = false ∧ Moves (ackDuplicate p g) (step s e))) := by
  obtain ⟨hact, hen, hp, ht⟩ := seenAck_some h
  have hu := parseTcpOptions_uncounted (s.withInputs e.inputs) g.hdr
  have hstep : step s e = inputSynchronized p g := by
    rw [step, if_pos hen, hact]
    exact tcpInput_takes hp ht
  rw [hp] at hu
  rw [hstep]
  exact ⟨⟨hu.repeats, hu.recovery⟩, (inputSynchronized_takes ht).imp_left fun h => ⟨h.1, renewed_moves h.2⟩⟩

def Behind (w : Watched) : Prop := w.sock.win.lastAckRepeat ≤ w.streak

lemma Uncounted.le (h : Uncounted s s') : s'.win.lastAckRepeat ≤ s.win.lastAckRepeat := by
  rcases h.repeats with hr | hr
  · exact hr.le
  · rw [hr]
    exact Nat.zero_le _

lemma watch_behind {w : Watched} (h : Behind w) (he : CountsRight w.sock e) :
    Behind (watch w e) ∧ (w.sock.cong.caState = .open → (watch w e).sock.cong.caState = .recovery →
      3 ≤ (watch w e).streak) := by
  cases hseen : seenAck w.sock e with
  | none =>
    have hu := step_uncounted hseen
    have hstreak : (watch w e).streak = w.streak := by simp only [watch, streakAfter, hseen]
    refine ⟨?_, fun hopen hr => ?_⟩
    · rw [Behind, hstreak]
      exact hu.le.trans h
    · rw [hu.recovery hr] at hopen
      cases hopen
  | some pg =>
    obtain ⟨p, g⟩ := pg
    obtain ⟨hu, hm⟩ := step_taken hseen
    have hstreak : (watch w e).streak = if pureDuplicate p g then w.streak + 1 else 0 := by
      simp only [watch, streakAfter, hseen]
    have hrep : p.win.lastAckRepeat ≤ w.streak := hu.le.trans h
    have hopen : w.sock.cong.caState = .open → p.cong.caState ≠ .recovery := by
      intro ho hr
      rw [hu.recovery hr] at ho
      cases ho
    rcases hm with ⟨hl, hm⟩ | ⟨hl, hm⟩
    · -- new data clears the counter, and is no duplicate of `snd_una`
      have hzero := hm.uncounted.le
      rw [acknowledge_repeats] at hzero
      refine ⟨hzero.trans (Nat.zero_le _), fun ho hr => ?_⟩
      have hca := hm.uncounted.recovery hr
      rw [(acknowledge_spec p g.hdr).2.2.1] at hca
      exact absurd hca (hopen ho)
    · have hright : countsRight p g = true := by
        rw [CountsRight, hseen] at he
        exact he
      rw [countsRight, hl, Bool.false_or] at hright
      rcases ackDuplicate_repeats p g with ⟨hd, hle, hca⟩ | ⟨hd, hle, hca⟩
      · -- what is counted is a pure duplicate
        rw [hd, if_pos rfl, beq_iff_eq] at hright
        have hpure : pureDuplicate p g = true := by
          simp only [isDuplicateAck, Bool.and_eq_true, Bool.not_eq_true'] at hd
          simp only [pureDuplicate, Bool.and_eq_true, Bool.not_eq_true', beq_iff_eq]
          exact ⟨⟨⟨hright, by simpa using hd.1.2⟩, hd.1.1.1⟩, hd.2⟩
        rw [hpure, if_pos rfl] at hstreak
        have hmod := Nat.mod_le (p.win.lastAckRepeat + 1) (2 ^ 32)
        refine ⟨?_, fun ho hr => ?_⟩
        · rw [Behind, hstreak]
          exact (hm.uncounted.le.trans hle).trans (by omega)
        · rcases hca (hm.uncounted.recovery hr) with hca | hthree
          · exact absurd hca (hopen ho)
          · omega
      · rw [hd, if_neg Bool.false_ne_true] at hright
        have hzero : (ackDuplicate p g).win.lastAckRepeat = 0 := by
          split at hle
          · next heq =>
            have hz : p.win.lastAckRepeat = 0 := by simpa [heq] using hright
            rw [hz] at hle
            exact Nat.le_zero.mp hle
          · exact Nat.le_zero.mp hle
        refine ⟨?_, fun ho hr => ?_⟩
        · have := hm.uncounted.le
          rw [hzero] at this
          exact this.trans (Nat.zero_le _)
        · exact absurd (hca (hm.uncounted.recovery hr)) (hopen ho)

/-- As long as only pure duplicates are counted, and nothing else leaves the counter standing, recovery is entered
from the open state only by the third or a later pure duplicate in a row. -/
theorem recovery_after_three_duplicates {s : TcpSock} (h0 : s.win.lastAckRepeat = 0) {es : List Event}
    (hes : Meets step CountsRight s es) {pre post : List Event} {e : Event} (hsplit : es = pre ++ e :: post)
    (hopen : (run step s pre).cong.caState = .open) (hrec : (step (run step s pre) e).cong.caState = .recovery) :
    3 ≤ (run watch { sock := s } (pre ++ [e])).streak := by
  have hmeets : Meets watch (fun w e => CountsRight w.sock e) { sock := s } es := meets_watch hes
  rw [hsplit] at hmeets
  obtain ⟨hpre, hlast, -⟩ := hmeets.append
  have hstart : Behind { sock := s } := h0.le
  have hb : Behind (run watch { sock := s } pre) :=
    run_invariant (I := Behind) (fun _ _ hw hok => (watch_behind hw hok).1) hstart hpre
  have hsock := run_watch { sock := s } pre
  have hlast := (watch_behind hb hlast).2 (by rw [hsock]; exact hopen) (by rw [watch, hsock]; exact hrec)
  rw [run, List.foldl_append]
  exact hlast

def tenOutstanding : TcpSock :=
  run step (establishedSock 100 1)
    [{ action := .write (List.replicate 10 0) false, inputs := { now := 1 } },
      { action := .timer, inputs := { now := 300 } }]

def ackArrives (ackSeq : Seq) (window : ℕ) : Event :=
  { action := .input (bareSegment { plainHdr 1 ackSeq { ack := true } with
      window := window % 2 ^ 16
      windowLt := Nat.mod_lt window (Nat.two_pow_pos 16) })
    inputs := { now := 301 } }

-- the first of the four brings the window of the peer, the others are duplicates
theorem third_duplicate_recovers :
    3 ≤ (run watch { sock := tenOutstanding } (List.replicate 3 (ackArrives 100 65535) ++ [ackArrives 100 65535])).streak := by
  have hes : Meets step CountsRight tenOutstanding (List.replicate 4 (ackArrives 100 65535)) :=
    ⟨by decide, by decide, by decide, by decide, trivial⟩
  exact recovery_after_three_duplicates (by decide) hes rfl (by decide) (by decide)

/-- Recovery without three pure duplicates in a row: by repeats of an old ACK, and with a window update in between. -/
theorem recovery_without_three_duplicates :
    let old := run watch { sock := tenOutstanding } (List.replicate 4 (ackArrives 50 65535))
    let updated := run watch { sock := tenOutstanding }
      (List.replicate 3 (ackArrives 100 65535) ++ List.replicate 2 (ackArrives 100 65534))
    tenOutstanding.cong.caState = .open ∧ old.sock.cong.caState = .recovery ∧ old.streak = 0 ∧
      updated.sock.cong.caState = .recovery ∧ updated.streak = 1 := by
  decide

end Netfast.Tcp
