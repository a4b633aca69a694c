import Netfast.Tcp.SendRun

/-! A reset that arrives in SYN_SENT. -/

namespace Netfast.Tcp

open Serial

def ackAcceptable (s : TcpSock) (h : TcpHdr) : Bool :=
  h.flags.ack && gt h.ackSeq s.snd.sndUna && leq h.ackSeq s.snd.sndNxt

/-- An acceptable reset closes the connection with an error and nothing else follows; any other reset
changes nothing. -/
def ResetCorrect (s : TcpSock) (g : Segment) : Prop :=
  if ackAcceptable s g.hdr then
    (tcpInput s g).core.state = .closed ∧ (tcpInput s g).error = some .econnrefused ∧
      (tcpInput s g).env.faults = s.env.faults
  else tcpInput s g = s

lemma gt_eq_not_leq (a b : Word) : gt a b = !leq a b := by
  simp [gt, leq, bne]

lemma synSentSyn_state (s : TcpSock) (h : TcpHdr) :
    (synSentSyn s h).core.state = if h.flags.ack then .established else .synReceived := by
  obtain ⟨w, re, t, -, ⟨ha, no, he⟩ | ⟨ha, -, he⟩ | ⟨ha, b, bs, -, he⟩⟩ := synSentSyn_cases s h <;> rw [he, ha] <;> rfl

variable {s : TcpSock} {g : Segment}

def refused (s : TcpSock) : TcpSock :=
  { s with core.state := .closed, error := some .econnrefused, env.notified := s.env.notified ++ [.err] }

lemma rst_unacceptable (hs : s.core.state = .synSent) (hrst : g.hdr.flags.rst = true)
    (hack : g.hdr.flags.ack = true) (hacc : ackAcceptable s g.hdr = false) : tcpInput s g = s := by
  have hun : (leq g.hdr.ackSeq s.snd.sndUna || gt g.hdr.ackSeq s.snd.sndNxt) = true := by
    simp only [ackAcceptable, hack, gt_eq_not_leq, Bool.true_and, Bool.and_eq_false_iff] at hacc
    rw [gt_eq_not_leq]
    simpa using hacc
  simp only [tcpInput, hs, tcpProcessSynSent, hack, hrst, hun, Bool.and_self, if_true]

lemma rst_falls_through (hs : s.core.state = .synSent) (hrst : g.hdr.flags.rst = true)
    (hacc : g.hdr.flags.ack = true → ackAcceptable s g.hdr = true) :
    tcpInput s g =
      (let s₁ := destroyTcpSocket { s with error := some .econnrefused }
      if s₁.core.freed then s₁.fault .useAfterFree
      else match parseTcpOptions s₁ g.hdr with
        | (s₂, false) => s₂
        | (s₂, true) => if g.hdr.flags.syn then synSentSyn s₂ g.hdr else s₂) := by
  have hok : (g.hdr.flags.ack && (leq g.hdr.ackSeq s.snd.sndUna || gt g.hdr.ackSeq s.snd.sndNxt)) = false := by
    cases ha : g.hdr.flags.ack with
    | false => rfl
    | true =>
      have h := hacc ha
      simp only [ackAcceptable, ha, gt_eq_not_leq, Bool.true_and, Bool.and_eq_true, Bool.not_eq_true'] at h
      rw [gt_eq_not_leq, h.1, h.2]
      rfl
  simp only [tcpInput, hs, tcpProcessSynSent, hok, hrst, if_true]
  rfl

lemma rst_freed (hs : s.core.state = .synSent) (hrst : g.hdr.flags.rst = true)
    (hacc : g.hdr.flags.ack = true → ackAcceptable s g.hdr = true) (hfd : s.core.fdEntry = false) :
    (tcpInput s g).core.state = .closed ∧ (tcpInput s g).env.faults = s.env.faults ++ [.useAfterFree] := by
  rw [rst_falls_through hs hrst hacc]
  simp [destroyTcpSocket, hfd]

lemma rst_held (hs : s.core.state = .synSent) (hlive : s.core.freed = false) (hrst : g.hdr.flags.rst = true)
    (hacc : g.hdr.flags.ack = true → ackAcceptable s g.hdr = true) (hfd : s.core.fdEntry = true) :
    tcpInput s g = match parseTcpOptions (refused s) g.hdr with
      | (s₂, false) => s₂
      | (s₂, true) => if g.hdr.flags.syn then synSentSyn s₂ g.hdr else s₂ := by
  rw [rst_falls_through hs hrst hacc]
  have hd : destroyTcpSocket { s with error := some .econnrefused } = refused s := by
    simp [destroyTcpSocket, hfd, refused]
  simp only [hd]
  rw [if_neg (show ¬(refused s).core.freed = true by simp [refused, hlive])]

lemma rst_stays_closed (hs : s.core.state = .synSent) (hlive : s.core.freed = false) (hrst : g.hdr.flags.rst = true)
    (hacc : g.hdr.flags.ack = true → ackAcceptable s g.hdr = true) (hfd : s.core.fdEntry = true)
    (hend : g.hdr.flags.syn = false ∨ (parsedOptions (refused s) g.hdr).2 = false) :
    (tcpInput s g).core.state = .closed ∧ (tcpInput s g).error = some .econnrefused ∧
      (tcpInput s g).env.faults = s.env.faults := by
  rw [rst_held hs hlive hrst hacc hfd]
  obtain ⟨c, hp, -⟩ := parseTcpOptions_frame (refused s) g.hdr
  have hok := parseTcpOptions_ok (refused s) g.hdr
  split
  · next s₂ heq =>
    rw [heq] at hp
    simp only at hp
    rw [hp]
    exact ⟨rfl, rfl, rfl⟩
  · next s₂ heq =>
    rw [heq] at hp hok
    simp only at hp hok
    rcases hend with hsyn | hrej
    · rw [hsyn, hp]
      exact ⟨rfl, rfl, rfl⟩
    · rw [hrej] at hok
      cases hok

lemma rst_revives (hs : s.core.state = .synSent) (hlive : s.core.freed = false) (hrst : g.hdr.flags.rst = true)
    (hacc : g.hdr.flags.ack = true → ackAcceptable s g.hdr = true) (hfd : s.core.fdEntry = true)
    (hsyn : g.hdr.flags.syn = true) (hok : (parsedOptions (refused s) g.hdr).2 = true) :
    (tcpInput s g).core.state = if g.hdr.flags.ack then .established else .synReceived := by
  rw [rst_held hs hlive hrst hacc hfd]
  have hok' := parseTcpOptions_ok (refused s) g.hdr
  split
  · next s₂ heq =>
    rw [heq, hok] at hok'
    cases hok'
  · next s₂ heq =>
    rw [if_pos hsyn]
    exact synSentSyn_state s₂ g.hdr

/-- Exactly which resets are handled right in SYN_SENT. -/
theorem reset_correct_iff (s : TcpSock) (g : Segment) (hs : s.core.state = .synSent) (hlive : s.core.freed = false)
    (hrst : g.hdr.flags.rst = true) :
    ResetCorrect s g ↔ g.hdr.flags.ack = true ∧ (ackAcceptable s g.hdr = false ∨
      (s.core.fdEntry = true ∧ (g.hdr.flags.syn = false ∨ (parsedOptions (refused s) g.hdr).2 = false))) := by
  unfold ResetCorrect
  cases hack : g.hdr.flags.ack with
  | false =>
    -- a bare reset is taken for an acceptable one
    have hacc : ackAcceptable s g.hdr = false := by simp [ackAcceptable, hack]
    have hpass : g.hdr.flags.ack = true → ackAcceptable s g.hdr = true := by
      intro h
      rw [hack] at h
      cases h
    have hmoved : (tcpInput s g).core.state ≠ .synSent := by
      cases hfd : s.core.fdEntry with
      | false =>
        rw [(rst_freed hs hrst hpass hfd).1]
        simp
      | true =>
        by_cases hend : g.hdr.flags.syn = false ∨ (parsedOptions (refused s) g.hdr).2 = false
        · rw [(rst_stays_closed hs hlive hrst hpass hfd hend).1]
          simp
        · rw [not_or, Bool.not_eq_false, Bool.not_eq_false] at hend
          rw [rst_revives hs hlive hrst hpass hfd hend.1 hend.2, hack]
          simp
    rw [hacc]
    simp only [Bool.false_eq_true, if_false, false_and, iff_false]
    intro h
    rw [h] at hmoved
    exact hmoved hs
  | true =>
    cases hacc : ackAcceptable s g.hdr with
    | false =>
      simp only [Bool.false_eq_true, if_false, true_and, true_or, iff_true]
      exact rst_unacceptable hs hrst hack hacc
    | true =>
      simp only [if_true, true_and, Bool.true_eq_false, false_or]
      have hpass : g.hdr.flags.ack = true → ackAcceptable s g.hdr = true := fun _ => hacc
      constructor
      · rintro ⟨hclosed, -, hfaults⟩
        cases hfd : s.core.fdEntry with
        | false =>
          rw [(rst_freed hs hrst hpass hfd).2] at hfaults
          exact absurd hfaults (by simp)
        | true =>
          refine ⟨rfl, ?_⟩
          by_contra hend
          rw [not_or, Bool.not_eq_false, Bool.not_eq_false] at hend
          rw [rst_revives hs hlive hrst hpass hfd hend.1 hend.2, hack] at hclosed
          cases hclosed
      · rintro ⟨hfd, hend⟩
        exact rst_stays_closed hs hlive hrst hpass hfd hend

def rstSynAck : Segment := bareSegment (plainHdr 500 1 { rst := true, syn := true, ack := true })

/-- The reset connection ends up established. -/
theorem rst_syn_ack_establishes :
    openSock.core.state = .synSent ∧ openSock.core.freed = false ∧ ackAcceptable openSock rstSynAck.hdr = true ∧
      (tcpInput openSock rstSynAck).core.state = .established ∧ ¬ResetCorrect openSock rstSynAck := by
  refine ⟨by decide, by decide, by decide, by decide, ?_⟩
  intro h
  rw [ResetCorrect, if_pos (by decide)] at h
  exact absurd h.1 (by decide)

/-- RST|ACK of our SYN is handled right. -/
theorem reset_correct_iff_rst_ack :
    ResetCorrect openSock (bareSegment (plainHdr 500 1 { rst := true, ack := true })) :=
  (reset_correct_iff openSock _ (by decide) (by decide) rfl).mpr
    ⟨rfl, Or.inr ⟨by decide, Or.inl rfl⟩⟩

end Netfast.Tcp
