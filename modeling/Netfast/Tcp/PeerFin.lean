import Netfast.Tcp.Diagram

/-! The peer's FIN takes one number of its sequence space, and nothing follows it. -/

namespace Netfast.Tcp

open Serial Run

variable {s : TcpSock}

def TcpState.late : TcpState → Bool
  | .closeWait | .closing | .lastAck | .timeWait | .closed => true
  | _ => false

variable {g : Segment} {a b : TcpState}

lemma Arrow.late (h : Arrow a b) (ha : a.late = true) : b.late = true := by
  cases h with
  | lastFinSent | closingAcked | ended => rfl
  | _ => cases ha

lemma Arrows.late (h : Arrows a b) (ha : a.late = true) : b.late = true := by
  induction h with
  | refl => exact ha
  | tail _ hb ih => exact hb.late ih

lemma late_afterFin {st : TcpState} (own : Bool) (h : st ≠ .listen ∧ st ≠ .synSent) : (st.afterFin own).late = true := by
  cases st with
  | listen => exact absurd rfl h.1
  | synSent => exact absurd rfl h.2
  | finWait1 => cases own <;> rfl
  | _ => rfl

def StaysLate (s : TcpSock) : Prop := s.core.recvFin = true → s.core.state.late = true

structure FinAgain (s : TcpSock) (g : Segment) : Prop where
  live : s.core.state = .closeWait ∨ s.core.state = .closing ∨ s.core.state = .lastAck ∨ s.core.state = .timeWait
  fin : g.hdr.flags.fin = true
  next : finEnd g = s.rcv.rcvNxt
  options : (parseTcpOptions s g.hdr).2 = true
  allowed : segAllow s.rcv g.hdr.seq g.segLen = true
  rst : g.hdr.flags.rst = false
  syn : g.hdr.flags.syn = false
  ack : g.hdr.flags.ack = true
  inRange : ackInRange s g.hdr.ackSeq = true
  notLast : ¬(s.core.state = .lastAck ∧ lt s.snd.sndUna g.hdr.ackSeq = true ∧ g.hdr.ackSeq = s.snd.sndEnd)

/-- The event brings such a FIN after the first was taken. -/
def TakesFinAgain (s : TcpSock) (e : Event) : Prop :=
  e.action.enabled s = true ∧ s.core.recvFin = true ∧
    ∃ g, e.action = .input g ∧ FinAgain (s.withInputs e.inputs) g

lemma ackNewData_view (s : TcpSock) (h : TcpHdr) : (ackNewData s h).core = s.core ∧
    (ackNewData s h).snd.sndUna = h.ackSeq ∧ (ackNewData s h).snd.sndEnd = s.snd.sndEnd := by
  obtain ⟨s₁, hl, hsnd, -, -, he⟩ := ackNewData_spec s h
  have hk : Keeps s₁ (ackNewData s h) := by
    rcases he with he | ⟨-, he⟩
    · exact he ▸ .refl s₁
    · exact he ▸ tcpRetransmitNow_keeps s₁
  exact ⟨hk.core.trans hl.core, by rw [hk.snd, hsnd]; rfl, by rw [hk.snd, hsnd]; rfl⟩

lemma inputAck_goesOn (g : Segment) (hl : s.core.state.late = true) : (inputAck s g).2 = false ↔
    ¬(s.core.state = .lastAck ∧ lt s.snd.sndUna g.hdr.ackSeq = true ∧ g.hdr.ackSeq = s.snd.sndEnd) := by
  obtain ⟨hc, hu, he⟩ := ackNewData_view s g.hdr
  have hown : s.core.state ≠ .lastAck → (if lt s.snd.sndUna g.hdr.ackSeq then ackOwnFin (ackNewData s g.hdr)
      else (ackDuplicate s g, false)).2 = false := by
    intro hne
    split
    · rw [ackOwnFin, hc]
      split
      · split
        · rfl
        · rfl
        · next h => exact absurd h hne
        · rfl
      · rfl
    · rfl
  rw [inputAck]
  cases hst : s.core.state with
  | closeWait => simpa using hown (by rw [hst]; decide)
  | closing => simpa using hown (by rw [hst]; decide)
  | lastAck =>
    dsimp only
    split
    · next hlt =>
      rw [ackOwnFin, hu, he, hc, hst]
      split
      · next heq =>
        rw [heq] at hlt
        simp [heq, hlt]
      · next hne => simp [hne]
    · next hlt => simp [hlt]
  | timeWait => simp
  | closed => simp
  | _ => rw [hst] at hl; cases hl

lemma ackOwnFin_open (hs : s.core.state ≠ .closed) (h : (ackOwnFin s).2 = false) : (ackOwnFin s).1.core.state ≠ .closed := by
  revert h
  rw [ackOwnFin]
  split
  · split
    · dsimp only
      split
      · exact fun _ hc => by cases hc
      · exact fun _ hc => by cases hc
    · exact fun _ hc => by cases hc
    · intro h
      cases h
    · exact fun _ => hs
  · exact fun _ => hs

lemma inputAck_open (g : Segment) (hl : s.core.state.late = true) (hs : s.core.state ≠ .closed)
    (h : (inputAck s g).2 = false) : (inputAck s g).1.core.state ≠ .closed := by
  have hopen (ho : (if lt s.snd.sndUna g.hdr.ackSeq then ackOwnFin (ackNewData s g.hdr)
      else (ackDuplicate s g, false)).2 = false) : (if lt s.snd.sndUna g.hdr.ackSeq then ackOwnFin (ackNewData s g.hdr)
      else (ackDuplicate s g, false)).1.core.state ≠ .closed := by
    revert ho
    split
    · exact ackOwnFin_open (by rw [(ackNewData_view s g.hdr).1]; exact hs)
    · obtain ⟨s₁, -, hloc, -, -, -, he⟩ := ackDuplicate_spec s g
      have hc : (ackDuplicate s g).core = s.core := by
        rcases he with he | ⟨-, he⟩
        · rw [he, hloc.core]
        · rw [he, (tcpRetransmitNow_keeps s₁).core, hloc.core]
      exact fun _ => by rw [hc]; exact hs
  revert h
  rw [inputAck]
  cases hst : s.core.state with
  | closeWait | closing | lastAck => exact hopen
  | timeWait => exact fun _ => by rw [hst]; decide
  | closed => exact absurd hst hs
  | _ => rw [hst] at hl; cases hl

lemma late_takesText {st : TcpState} (h : st.late = true) : takesText st = false := by
  cases st <;> first | rfl | cases h

lemma Passed.allowed_of_next (h : Passed s g) (hn : finEnd g = s.rcv.rcvNxt) :
    segAllow s.rcv g.hdr.seq g.segLen = true := by
  have ht : timeWaitFin s g = false := by
    have hne : (finEnd g + 1 == s.rcv.rcvNxt) = false := by
      rw [beq_eq_false_iff_ne, ← hn]
      bv_omega
    rw [timeWaitFin]
    exact (congrArg (_ && ·) hne).trans (Bool.and_false _)
  have ha := h.allowed
  rwa [ht, Bool.or_false] at ha

lemma FinAgain.passed (h : FinAgain s g) : Passed s g := by
  obtain ⟨-, hc, hs, -⟩ := parsed_frame s g.hdr
  refine ⟨?_, h.options, by rw [h.allowed]; rfl, h.rst, h.syn, h.ack, h.inRange, ?_⟩
  · rcases h.live with hl | hl | hl | hl <;> rw [hl] <;> decide
  · rw [inputAck_goesOn g, hc, hs]
    · exact h.notLast
    · rw [hc]
      rcases h.live with hl | hl | hl | hl <;> rw [hl] <;> rfl

lemma Passed.takesFin_iff (h : Passed s g) (hl : s.core.state.late = true) :
    (inputText (acknowledged s g) g).rcv = s.rcv ∧ (takesFin (inputText (acknowledged s g) g) g = true ↔ FinAgain s g) := by
  obtain ⟨-, hc, hs, -⟩ := parsed_frame s g.hdr
  have ha := acknowledged_apart s g
  have ht := inputText_taken (acknowledged s g) g
  have hlate := ha.arrows.late hl
  have hr : (inputText (acknowledged s g) g).rcv = s.rcv := by
    rw [ht.rcv, late_takesText hlate]
    exact ha.rcv
  have hopen : (acknowledged s g).core.state ≠ .closed :=
    inputAck_open g (by rw [hc]; exact hl) (by rw [hc]; exact h.live.1) h.goesOn
  have hsyn : (acknowledged s g).core.state ≠ .synSent := by
    intro hx
    rw [hx] at hlate
    cases hlate
  refine ⟨hr, ?_⟩
  rw [takesFin, hr, ht.core]
  simp only [Bool.and_eq_true, beq_iff_eq, bne_iff_ne]
  constructor
  · rintro ⟨⟨⟨hf, hn⟩, -⟩, -⟩
    refine ⟨?_, hf, hn, h.options, h.allowed_of_next hn, h.rst, h.syn, h.ack, h.inRange, ?_⟩
    · cases hst : s.core.state with
      | closeWait | closing | lastAck | timeWait => simp
      | closed => exact absurd hst h.live.1
      | _ => rw [hst] at hl; cases hl
    · have hg := (inputAck_goesOn (s := (parseTcpOptions s g.hdr).1) g (by rw [hc]; exact hl)).mp h.goesOn
      rwa [hc, hs] at hg
  · intro hf
    exact ⟨⟨⟨hf.fin, hf.next⟩, hopen⟩, hsyn⟩

lemma Passed.input (h : Passed s g) : tcpInput s g = inputFin (inputText (acknowledged s g) g) g := by
  obtain ⟨hr, hc, hs, hw⟩ := parsed_frame s g.hdr
  have hp : parseTcpOptions s g.hdr = ((parseTcpOptions s g.hdr).1, true) := Prod.ext rfl h.options
  have hack : inputAck (parseTcpOptions s g.hdr).1 g = (acknowledged s g, false) := Prod.ext rfl h.goesOn
  have hsync : tcpInput s g = inputSynchronized (parseTcpOptions s g.hdr).1 g := by
    rw [tcpInput]
    split
    · next hst => exact absurd hst h.live.1
    · next hst => exact absurd hst h.live.2.1
    · next hst => exact absurd hst h.live.2.2
    · rw [hp]
  rw [hsync, inputSynchronized, hr, timeWaitFin_congr hr hc, ackInRange_congr hs hw, h.allowed, h.rst, h.syn, h.ack, h.inRange,
    hack]
  rfl

lemma tcpInput_final (hb : StaysLate s) (hf : s.core.recvFin = true) (g : Segment) :
    (FinAgain s g → (tcpInput s g).rcv.rcvNxt = s.rcv.rcvNxt + 1) ∧
      (¬FinAgain s g → (tcpInput s g).rcv.rcvNxt = s.rcv.rcvNxt ∧ finsTaken (tcpInput s g) = finsTaken s) := by
  have hl := hb hf
  have hcase (h : Passed s g) := inputFin_cases (inputText (acknowledged s g) g) g
  constructor
  · intro ha
    obtain ⟨hr, hiff⟩ := ha.passed.takesFin_iff hl
    rw [ha.passed.input]
    rcases hcase ha.passed with ⟨-, ht⟩ | ⟨hn, -⟩
    · rw [ht.rcv, hr]
    · rw [hiff.mpr ha] at hn
      cases hn
  · intro hna
    cases tcpInput_arrives s g with
    | apart h => exact ⟨by rw [h.rcv], h.fins⟩
    | synced hs h =>
      rw [hs] at hl
      cases hl
    | passed h he =>
      obtain ⟨hr, hiff⟩ := h.takesFin_iff hl
      rw [he]
      rcases hcase h with ⟨ht, -⟩ | ⟨-, hrcv, -, hfin⟩
      · exact absurd (hiff.mp ht) hna
      · refine ⟨by rw [hrcv, hr], ?_⟩
        rw [hfin, (inputText_taken (acknowledged s g) g).fins, (acknowledged_apart s g).fins]

lemma Arrow.live (h : Arrow a b) : b ≠ .listen ∧ b ≠ .synSent := by
  cases h <;> decide

lemma Arrows.live (h : Arrows a b) (ha : a ≠ .listen ∧ a ≠ .synSent) : b ≠ .listen ∧ b ≠ .synSent := by
  induction h with
  | refl => exact ha
  | tail _ hb _ => exact hb.live

structure FinStep (s s' : TcpSock) : Prop where
  keeps : s.core.recvFin = true → s'.core.recvFin = true
  counts : finsTaken s' = finsTaken s ∨ finsTaken s' = finsTaken s + 1 ∧ s'.core.recvFin = true
  behind : StaysLate s → StaysLate s'

lemma Apart.finStep {s' : TcpSock} (h : Apart s s') : FinStep s s' := by
  refine ⟨fun hf => h.recvFin.trans hf, .inl h.fins, fun hb hf => ?_⟩
  exact h.arrows.late (hb (h.recvFin.symm.trans hf))

lemma FinStep.of_same {s' : TcpSock} (hc : s'.core = s.core) (hn : finsTaken s' = finsTaken s) : FinStep s s' :=
  ⟨fun hf => by rw [hc]; exact hf, .inl hn, fun hb hf => by rw [hc] at hf ⊢; exact hb hf⟩

lemma tcpInput_finStep (s : TcpSock) (g : Segment) : FinStep s (tcpInput s g) := by
  cases tcpInput_arrives s g with
  | apart h => exact h.finStep
  | synced hs h =>
    refine ⟨fun hf => h.recvFin.trans hf, .inl h.fins, fun hb hf => ?_⟩
    have hl := hb (h.recvFin.symm.trans hf)
    rw [hs] at hl
    cases hl
  | passed h he =>
    have ha := acknowledged_apart s g
    have ht := inputText_taken (acknowledged s g) g
    have hn := ht.fins.trans ha.fins
    rw [he]
    rcases inputFin_cases (inputText (acknowledged s g) g) g with ⟨-, hf⟩ | ⟨-, -, hc, hfin⟩
    · refine ⟨fun _ => hf.recvFin, .inr ⟨by rw [hf.fins, hn], hf.recvFin⟩, fun _ _ => ?_⟩
      rw [hf.state, ht.core]
      exact late_afterFin _ (ha.arrows.live ⟨h.live.2.1, h.live.2.2⟩)
    · have hcore := hc.trans ht.core
      refine ⟨fun hf => ?_, .inl (hfin.trans hn), fun hb hf => ?_⟩
      · rw [hcore, ha.recvFin]
        exact hf
      · rw [hcore] at hf ⊢
        exact ha.arrows.late (hb (ha.recvFin.symm.trans hf))

lemma act_finStep (s : TcpSock) (a : Action) : FinStep s (act s a) := by
  cases hg : a.segment? with
  | some g =>
    rw [a.eq_input hg]
    exact tcpInput_finStep s g
  | none =>
    have ht := act_touches s hg
    generalize act s a = s' at ht ⊢
    cases ht with
    | apart h => exact h.finStep
    | read _ hc hn => exact .of_same hc (by rw [finsTaken, hn]; rfl)
    | resized _ hc hn => exact .of_same hc (by rw [finsTaken, hn]; rfl)

lemma step_finStep (s : TcpSock) (e : Event) : FinStep s (step s e) := by
  rw [step]
  split
  · obtain ⟨hk, hc, hb⟩ := act_finStep (s.withInputs e.inputs) e.action
    exact ⟨hk, hc, hb⟩
  · exact .of_same rfl rfl

lemma act_final {a : Action} (hg : a.segment? = none) :
    (act s a).rcv.rcvNxt = s.rcv.rcvNxt ∧ finsTaken (act s a) = finsTaken s := by
  have ht := act_touches s hg
  generalize act s a = s' at ht ⊢
  cases ht with
  | apart h => exact ⟨by rw [h.rcv], h.fins⟩
  | read hr _ hn => exact ⟨by rw [hr]; rfl, by rw [finsTaken, hn]; rfl⟩
  | resized hr _ hn => exact ⟨by rw [hr], by rw [finsTaken, hn]; rfl⟩

lemma step_final (hb : StaysLate s) (hf : s.core.recvFin = true) (e : Event) :
    (TakesFinAgain s e → (step s e).rcv.rcvNxt ≠ s.rcv.rcvNxt) ∧
      (¬TakesFinAgain s e → (step s e).rcv.rcvNxt = s.rcv.rcvNxt ∧ finsTaken (step s e) = finsTaken s) := by
  rw [step]
  split
  · next hen =>
    cases hg : e.action.segment? with
    | some g =>
      have ha := e.action.eq_input hg
      obtain ⟨hagain, hnot⟩ := tcpInput_final (s := s.withInputs e.inputs) hb hf g
      rw [ha]
      constructor
      · rintro ⟨-, -, g', hg', h⟩
        rw [ha] at hg'
        obtain rfl := Action.input.inj hg'
        intro heq
        have hone := (hagain h).symm.trans heq
        revert hone
        change s.rcv.rcvNxt + 1 = s.rcv.rcvNxt → False
        bv_omega
      · intro hna
        exact hnot fun h => hna ⟨hen, hf, g, ha, h⟩
    | none =>
      refine ⟨?_, fun _ => act_final (s := s.withInputs e.inputs) hg⟩
      rintro ⟨-, -, g, ha, -⟩
      rw [ha] at hg
      cases hg
  · next hen =>
    exact ⟨fun h => absurd h.1 hen, fun _ => ⟨rfl, rfl⟩⟩

/-- One number is spent on the peer's FIN in the whole run, and from the moment `recv_fin` is set `rcv_nxt` stays. -/
structure FinOnce (s : TcpSock) (es : List Event) : Prop where
  once : ∀ es₁ es₂, es = es₁ ++ es₂ → finsTaken (run step s es₁) ≤ finsTaken s + 1
  final : ∀ es₁ es₂ es₃, es = es₁ ++ es₂ ++ es₃ → (run step s es₁).core.recvFin = true →
    (run step s (es₁ ++ es₂)).rcv.rcvNxt = (run step s es₁).rcv.rcvNxt

lemma run_behind (h : StaysLate s) (es : List Event) : StaysLate (run step s es) :=
  run_always (I := StaysLate) (fun t e ht => (step_finStep t e).behind ht) h es

lemma run_counts (hf : s.core.recvFin = false) {es : List Event}
    (h : Meets step (fun s e => ¬TakesFinAgain s e) s es) :
    finsTaken (run step s es) ≤ finsTaken s + (run step s es).core.recvFin.toNat := by
  refine (run_invariant (I := fun t => StaysLate t ∧ finsTaken t ≤ finsTaken s + t.core.recvFin.toNat) ?_
    ⟨fun h => absurd h (by rw [hf]; decide), Nat.le_add_right _ _⟩ h).2
  rintro t e ⟨hb, hle⟩ hok
  have hs := step_finStep t e
  refine ⟨hs.behind hb, ?_⟩
  cases ht : t.core.recvFin with
  | true =>
    rw [((step_final hb ht e).2 hok).2, hs.keeps ht]
    rwa [ht] at hle
  | false =>
    rw [ht, Bool.toNat_false] at hle
    rcases hs.counts with hn | ⟨hn, hset⟩
    · omega
    · rw [hset, Bool.toNat_true]
      omega

lemma run_final (hb : StaysLate s) (hf : s.core.recvFin = true) {es : List Event}
    (h : Meets step (fun s e => ¬TakesFinAgain s e) s es) : (run step s es).rcv.rcvNxt = s.rcv.rcvNxt := by
  refine (run_invariant (I := fun t => (StaysLate t ∧ t.core.recvFin = true) ∧ t.rcv.rcvNxt = s.rcv.rcvNxt) ?_
    ⟨⟨hb, hf⟩, rfl⟩ h).2
  rintro t e ⟨⟨ht, hset⟩, heq⟩ hok
  have hs := step_finStep t e
  exact ⟨⟨hs.behind ht, hs.keeps hset⟩, ((step_final ht hset e).2 hok).1.trans heq⟩

/-- The FIN of the peer is consumed once and for all exactly in the runs in which no second FIN, at the number behind
the first, gets past the ACK step. -/
theorem peer_fin_once_iff {s : TcpSock} (hf : s.core.recvFin = false) (es : List Event) :
    FinOnce s es ↔ Meets step (fun s e => ¬TakesFinAgain s e) s es := by
  have hb : StaysLate s := fun h => absurd h (by rw [hf]; decide)
  constructor
  · intro h
    rw [meets_iff_forall]
    rintro es₁ e es₂ rfl hagain
    refine (step_final (run_behind hb es₁) hagain.2.1 e).1 hagain ?_
    have hfin := h.final es₁ [e] es₂ (by rw [List.append_assoc]; rfl) hagain.2.1
    rwa [run_append] at hfin
  · intro h
    refine ⟨?_, ?_⟩
    · rintro es₁ es₂ rfl
      have hle := run_counts hf h.append.1
      have hone := Bool.toNat_le (run step s es₁).core.recvFin
      omega
    · rintro es₁ es₂ es₃ rfl hset
      rw [run_append]
      exact run_final (run_behind hb es₁) hset h.append.1.append.2

def closingPeer : List Event :=
  [{ action := .input (bareSegment (plainHdr 500 1 { syn := true, ack := true })), inputs := { now := 1000 } },
    { action := .input (bareSegment (plainHdr 501 1 { fin := true, ack := true })), inputs := { now := 1001 } }]

def finAt (seq : Seq) (now : ℕ) : Event :=
  { action := .input (bareSegment (plainHdr seq 1 { fin := true, ack := true })), inputs := { now } }

theorem second_fin_is_taken :
    openSock.core.recvFin = false ∧ (run step openSock closingPeer).core.recvFin = true ∧
      (run step openSock closingPeer).rcv.rcvNxt = 502 ∧
      (run step openSock (closingPeer ++ [finAt 502 1002])).rcv.rcvNxt = 503 ∧
      finsTaken (run step openSock (closingPeer ++ [finAt 502 1002])) = 2 ∧
      ¬FinOnce openSock (closingPeer ++ [finAt 502 1002]) := by
  have hnxt : (run step openSock closingPeer).rcv.rcvNxt = 502 := by decide
  have hset : (run step openSock closingPeer).core.recvFin = true := by decide
  have hnext : (run step openSock (closingPeer ++ [finAt 502 1002])).rcv.rcvNxt = 503 := by decide
  refine ⟨rfl, hset, hnxt, hnext, by decide, fun h => ?_⟩
  have hfin := h.final closingPeer [finAt 502 1002] [] (by rw [List.append_nil]) hset
  rw [hnxt, hnext] at hfin
  revert hfin
  decide

/-- The FIN is retransmitted: it is answered and not taken again. -/
theorem repeated_fin_is_not_taken : FinOnce openSock (closingPeer ++ [finAt 501 1002]) := by
  refine (peer_fin_once_iff rfl _).mpr ⟨fun h => ?_, fun h => ?_, fun h => ?_, trivial⟩
  · exact absurd h.2.1 (by decide)
  · exact absurd h.2.1 (by decide)
  · obtain ⟨-, -, g, hg, hagain⟩ := h
    obtain rfl := Action.input.inj hg
    exact absurd hagain.next (by decide)

end Netfast.Tcp
