import Netfast.Tcp.Unacceptable

/-! Protection against wrapped sequence numbers: the timestamp check of `parse_tcp_options` against the serial
order of RFC 1982. -/

namespace Netfast.Tcp

/-- RFC 1982: `a` comes before `b` on the circle of 32-bit numbers; opposite numbers are not ordered. -/
def SerialLt (a b : ℕ) : Prop := (a < b ∧ b - a < 2 ^ 31) ∨ (b < a ∧ 2 ^ 31 < a - b)

instance (a b : ℕ) : Decidable (SerialLt a b) := inferInstanceAs (Decidable (_ ∨ _))

lemma applyOption_recent (syn hs : Bool) (now : ℕ) {kind len : ℕ} (body : List UInt8) (n : Nego)
    (h : ¬(kind = 8 ∧ len = 10)) :
    ∃ n', applyOption syn hs now kind len body n = some n' ∧ n'.peerTsOk = n.peerTsOk ∧ n'.tsRecent = n.tsRecent := by
  rw [applyOption]
  split
  · dsimp only
    split
    · exact ⟨n, rfl, rfl, rfl⟩
    · exact ⟨_, rfl, rfl, rfl⟩
  split
  · exact ⟨_, rfl, rfl, rfl⟩
  · exact ⟨n, rfl, rfl, rfl⟩

lemma applyOption_paws (syn hs : Bool) (now : ℕ) (body : List UInt8) (n : Nego) :
    applyOption syn hs now 8 10 body n = applyOption syn false now 8 10 body n := by
  simp [applyOption]

lemma optionLoop_paws (syn hs : Bool) (now k : ℕ) (bs : List UInt8) (n : Nego) :
    (optionLoop syn hs now k bs n).1.tsRecent = (tsLoop syn n.peerTsOk n.tsRecent ((tsStamps k bs).map Prod.fst)).2.1 ∧
      (optionLoop syn hs now k bs n).2 = (tsLoop syn n.peerTsOk n.tsRecent ((tsStamps k bs).map Prod.fst)).2.2 := by
  induction k generalizing bs n with
  | zero => exact ⟨rfl, rfl⟩
  | succ k ih =>
    cases bs with
    | nil => exact ⟨rfl, rfl⟩
    | cons kind rest =>
      simp only [optionLoop, tsStamps]
      split
      · exact ⟨rfl, rfl⟩
      split
      · exact ih rest n
      cases rest with
      | nil => exact ⟨rfl, rfl⟩
      | cons len body =>
        simp only
        split
        · exact ⟨rfl, rfl⟩
        by_cases ht : kind.toNat = 8 ∧ len.toNat = 10
        · rw [if_pos ht, ht.1, ht.2, applyOption_paws, applyOption_ts, List.map_cons]
          by_cases hp : n.peerTsOk ∧ ntoh (body.take 4) < n.tsRecent
          · rw [if_pos hp, tsLoop, if_pos hp]
            exact ⟨rfl, rfl⟩
          · rw [if_neg hp, tsLoop, if_neg hp]
            exact ih _ _
        · rw [if_neg ht]
          obtain ⟨n', hn, hok, hrecent⟩ := applyOption_recent syn hs now body n ht
          rw [hn, ← hok, ← hrecent]
          exact ih _ n'

lemma parseTcpOptions_paws (s : TcpSock) {hdr : TcpHdr} {v : ℕ} (hts : s.nego.peerTsOk = true)
    (hv : hdr.tsvals = [v]) :
    (parseTcpOptions s hdr).2 = !decide (v < s.nego.tsRecent) ∧
      (parseTcpOptions s hdr).1.nego.tsRecent = if v < s.nego.tsRecent then s.nego.tsRecent else v := by
  obtain ⟨c, hp, -⟩ := parseTcpOptions_frame s hdr
  obtain ⟨hrecent, hok⟩ := optionLoop_paws hdr.flags.syn (isHandshake s hdr.flags) s.env.now hdr.options.length
    hdr.options s.nego
  change (tsStamps hdr.options.length hdr.options).map Prod.fst = [v] at hv
  rw [parseTcpOptions_ok, hp]
  change (optionLoop _ _ _ _ _ _).2 = _ ∧ (optionLoop _ _ _ _ _ _).1.tsRecent = _
  rw [hok, hrecent, hv, hts]
  by_cases h : v < s.nego.tsRecent
  · simp [tsLoop, h]
  · simp [tsLoop, h]

/-- The segment with timestamp `v` passes the check unless `v` is serially older, and then `ts_recent` stays. -/
structure PawsCorrect (s : TcpSock) (g : Segment) (v : ℕ) : Prop where
  passes : ¬SerialLt v s.nego.tsRecent → (parseTcpOptions s g.hdr).2 = true
  drops : SerialLt v s.nego.tsRecent →
    (parseTcpOptions s g.hdr).2 = false ∧ (tcpInput s g).nego.tsRecent = s.nego.tsRecent

/-- As plain numbers the two lie within half the circle of each other. -/
def NoWrap (v recent : ℕ) : Prop := (v < recent → recent - v < 2 ^ 31) ∧ (recent < v → v - recent ≤ 2 ^ 31)

lemma noWrap_iff (v recent : ℕ) : NoWrap v recent ↔ (SerialLt v recent ↔ v < recent) := by
  unfold NoWrap SerialLt
  omega

lemma tcpInput_dropped {s : TcpSock} (hs : s.core.state ≠ .closed ∧ s.core.state ≠ .listen ∧ s.core.state ≠ .synSent)
    {g : Segment} (h : (parseTcpOptions s g.hdr).2 = false) : tcpInput s g = (parseTcpOptions s g.hdr).1 := by
  obtain ⟨h₁, h₂, h₃⟩ := hs
  rw [tcpInput]
  split
  · exact absurd ‹_› h₁
  · exact absurd ‹_› h₂
  · exact absurd ‹_› h₃
  · cases hp : parseTcpOptions s g.hdr with
    | mk s₁ ok =>
      rw [hp] at h
      simp only at h
      rw [h]

/-- On a connection that uses timestamps the check follows the serial order exactly as long as the plain
comparison does. -/
theorem paws_serial_iff {s : TcpSock}
    (hs : s.core.state ≠ .closed ∧ s.core.state ≠ .listen ∧ s.core.state ≠ .synSent)
    (hts : s.nego.peerTsOk = true) {g : Segment} {v : ℕ} (hv : g.hdr.tsvals = [v]) :
    PawsCorrect s g v ↔ NoWrap v s.nego.tsRecent := by
  obtain ⟨hok, hrecent⟩ := parseTcpOptions_paws s hts hv
  rw [noWrap_iff]
  constructor
  · intro h
    by_cases hlt : v < s.nego.tsRecent
    · refine ⟨fun _ => hlt, fun _ => ?_⟩
      by_contra hold
      have hpass := h.passes hold
      simp [hok, hlt] at hpass
    · refine ⟨fun hold => ?_, fun h => absurd h hlt⟩
      have hdrop := (h.drops hold).1
      simp [hok, hlt] at hdrop
  · intro hiff
    refine ⟨fun hnew => ?_, fun hold => ?_⟩
    · rw [hok, decide_eq_false (mt hiff.mpr hnew)]
      rfl
    · have hlt := hiff.mp hold
      have hfail : (parseTcpOptions s g.hdr).2 = false := by rw [hok, decide_eq_true hlt]; rfl
      rw [tcpInput_dropped hs hfail, hrecent, if_pos hlt]
      exact ⟨hfail, rfl⟩

/-! An established connection that has last seen the timestamp `recent`, and a segment with another. -/

def stampedSock (recent : ℕ) : TcpSock :=
  let s := establishedSock 100 500
  { s with nego := { s.nego with peerTsOk := true, tsRecent := recent } }

def stamped (tsval : UInt8 × UInt8 × UInt8 × UInt8) : Segment :=
  bareSegment { plainHdr 500 100 .ackOnly with
    options := [8, 10, tsval.1, tsval.2.1, tsval.2.2.1, tsval.2.2.2, 0, 0, 0, 0]
    optionsLe := by simp }

theorem paws_serial_iff_next_stamp : PawsCorrect (stampedSock 5) (stamped (0, 0, 0, 7)) 7 :=
  (paws_serial_iff (by decide) rfl (by decide)).mpr (by unfold NoWrap; decide)

/-- The peer's clock wraps: 0 follows 2 ^ 32 - 1, and the acceptable segment is dropped; 2 ^ 32 - 1 is older
than 0, and it is taken. -/
theorem wrapped_stamp_dropped :
    segAllow (stampedSock (2 ^ 32 - 1)).rcv (stamped (0, 0, 0, 0)).hdr.seq (stamped (0, 0, 0, 0)).segLen = true ∧
      (stamped (0, 0, 0, 0)).hdr.tsvals = [0] ∧ ¬SerialLt 0 (stampedSock (2 ^ 32 - 1)).nego.tsRecent ∧
      (parseTcpOptions (stampedSock (2 ^ 32 - 1)) (stamped (0, 0, 0, 0)).hdr).2 = false ∧
      (stamped (255, 255, 255, 255)).hdr.tsvals = [2 ^ 32 - 1] ∧ SerialLt (2 ^ 32 - 1) (stampedSock 0).nego.tsRecent ∧
      (tcpInput (stampedSock 0) (stamped (255, 255, 255, 255))).nego.tsRecent = 2 ^ 32 - 1 := by
  decide

end Netfast.Tcp
