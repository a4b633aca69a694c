import Netfast.Tcp.SendRun

/-! Whether the segment a retransmission picks exists and still owns its slot. -/

namespace Netfast.Tcp

open Serial Run

/-- A connection as `tcp_connect` leaves it, whatever its result, or a child of a listener. -/
inductive Begun : TcpSock → Prop
  | active {s : TcpSock} (h : Fresh s) : Begun (connectSyn s).1
  | passive {s : TcpSock} (hdr : TcpHdr) (h : Fresh s) : Begun (childSyn s hdr)

variable {own : Prop}

lemma Fresh.idle {s s' : TcpSock} (h : Fresh s) (hsnd : s'.snd = s.snd) (hstate : s'.core.state ≠ .synSent)
    (hwnd : s'.win.sndWnd < 2 ^ 30) (hscale : s'.nego.sndWndScale ≤ 14) (hca : s'.cong.caState = .open) :
    ConnInv own (s.snd.sndUna - 1) [] s' := by
  have hone : s.snd.sndUna = label (s.snd.sndUna - 1) 1 := by
    unfold label
    bv_omega
  have hinv : SendInv (s.snd.sndUna - 1) (sendStream [] false) 1 1 s'.snd := by
    rw [hsnd]
    refine ⟨hone, h.nxt.trans hone, h.fin.trans hone, ?_, ?_, ?_, ?_, ?_, le_refl 1, ?_⟩
    · rw [h.flight]
      rfl
    · rw [h.unsent]
      rfl
    · rw [h.flight, h.unsent]
      rfl
    · rw [h.len]
      rfl
    · rw [h.len]
      exact Nat.two_pow_pos 31
    · rw [h.unsent]
      intro b hb
      cases hb
  refine ⟨false, 1, 1, ⟨hinv, by simp, by omega, hwnd, hscale, by rw [hsnd]; exact h.max⟩, ?_, fun _ => ⟨hca, rfl⟩,
    fun hne => absurd hca hne, ?_, ?_⟩
  · exact fun hs => absurd hs hstate
  · rw [hsnd, h.flight]
    intro b hb
    cases hb
  · rw [hsnd, h.flight]
    intro _ b hb
    cases hb

lemma connectSyn_begun {s : TcpSock} (h : Fresh s) : ∃ iss, ConnInv own iss [] (connectSyn s).1 := by
  have hsyn := tcpSendFlag_syn { s with core.state := .synSent } s.snd.sndNxt 0 { syn := true } rfl
  cases heq : tcpSendFlag { s with core.state := .synSent } s.snd.sndNxt 0 { syn := true } with
  | mk s₁ ret =>
    cases ret with
    | none =>
      have hs : connectSyn s = ({ s₁ with core.isConnected := true }, none) := by simp only [connectSyn, heq]
      rw [hs]
      exact ⟨_, false, 0, 1, connectSyn_inv h hs⟩
    | some e =>
      have hs : connectSyn s = ({ s₁ with core.state := .closed }, some e) := by simp only [connectSyn, heq]
      rw [heq] at hsyn
      rw [hs]
      rcases hsyn with ⟨hk, -⟩ | ⟨room, hk⟩
      · refine ⟨_, h.idle hk.snd (by simp) ?_ ?_ (hk.cong.open h.ca)⟩
        · exact Nat.lt_of_le_of_lt (Nat.le_of_eq (congrArg SndWin.sndWnd hk.win)) h.wnd
        · exact (Nat.le_of_eq hk.scale).trans h.scale
      · -- the SYN stays queued when only the packet could not be output
        refine ⟨_, false, 0, 1, h.syn { syn := true } room rfl rfl (hk.snd.trans ?_) ?_ ?_ (hk.cong.open h.ca)⟩
        · rw [h.nxt]
        · exact Nat.lt_of_le_of_lt (Nat.le_of_eq (congrArg SndWin.sndWnd hk.win)) h.wnd
        · exact (Nat.le_of_eq hk.scale).trans h.scale

lemma Begun.inv {s : TcpSock} (h : Begun s) : ∃ iss, ConnInv own iss [] s := by
  cases h with
  | active hf => exact connectSyn_begun hf
  | passive hdr hf =>
    rcases childSyn_cases hf hdr with hinv | ⟨hsnd, hst, hwnd, hscale, hca⟩
    · exact ⟨_, false, 0, 1, hinv⟩
    · exact ⟨_, hf.idle hsnd (by rw [hst]; simp) hwnd hscale hca⟩

/-- In every run in which no acceptable ACK covers the text but not the FIN of a segment in flight,
everything that is transmitted or retransmitted exists and owns its slot. -/
theorem transmitted_owns_slot {s : TcpSock} (h : Begun s) (hs : ∀ f ∈ s.env.faults, f ≠ .nullSkb ∧ f ≠ .nullSlot)
    (es : List Event) (hclean : Meets step StepClean s es) :
    ∀ f ∈ (run step s es).env.faults, f ≠ .nullSkb ∧ f ≠ .nullSlot := by
  obtain ⟨iss, hinv⟩ : ∃ iss, ConnInv True iss [] s := h.inv
  have hrun : (∃ data, ConnInv True iss data (run step s es)) ∧ ∀ f ∈ (run step s es).env.faults, Benign f := by
    refine run_invariant (I := fun t => (∃ data, ConnInv True iss data t) ∧ ∀ f ∈ t.env.faults, Benign f)
      ?_ ⟨⟨[], hinv⟩, hs⟩ hclean
    rintro t e ⟨⟨data, ht⟩, hf⟩ hc
    obtain ⟨hinv', hadds⟩ := step_inv ht e fun _ => hc
    refine ⟨⟨_, hinv'⟩, ?_⟩
    intro f hmem
    rcases hadds trivial f hmem with hold | hnew
    · exact hf f hold
    · exact hnew
  exact hrun.2

def ackThenTimer (ack : Seq) : List Event :=
  shortRun ++
    [{ action := .input (bareSegment (plainHdr 501 ack .ackOnly)), inputs.now := 1100 },
     { action := .timer, inputs.now := 3000 }]

lemma openSock_begun : Begun openSock := .active boundSock_fresh

/-- The three bytes are acknowledged and the FIN is not. -/
theorem fin_cut_loses_slot :
    Begun openSock ∧ openSock.env.faults = [] ∧
      Fault.nullSlot ∈ (run step openSock (ackThenTimer 4)).env.faults :=
  ⟨openSock_begun, by decide, by decide⟩

/-- Two of the three bytes are acknowledged, and the rest is sent again. -/
theorem transmitted_owns_slot_partial_ack :
    (run step openSock (ackThenTimer 3)).env.wire.length = 3 ∧
      ∀ f ∈ (run step openSock (ackThenTimer 3)).env.faults, f ≠ .nullSkb ∧ f ≠ .nullSlot := by
  refine ⟨by decide, transmitted_owns_slot openSock_begun ?_ _ ⟨?_, trivial, trivial, trivial, ?_, trivial, trivial⟩⟩
  · have hf : openSock.env.faults = [] := by decide
    rw [hf]
    simp
  · intro _ _ hsyn
    cases hsyn
  · intro _ _ _ _
    decide

end Netfast.Tcp
