import Netfast.Tcp.Congestion

/-! TCP options and the advertised window, written by `make_tcp_options` and read by
`parse_tcp_options`. -/

namespace Netfast.Tcp

open Skbuff

def tcpRcvWndScaleDefault : ℕ := 6

def tcpWindowScaleNegotiated (n : Nego) : Bool := n.wndScaleSent && n.peerWndScaleOk

def tcpShouldSendWindowScale (n : Nego) (flags : Flags) : Bool :=
  if !flags.syn then false else if !flags.ack then true else n.peerWndScaleOk

def tcpEncodeWindow (n : Nego) (rcvWnd : ℕ) (flags : Flags) : ℕ :=
  min (if !flags.syn && tcpWindowScaleNegotiated n then rcvWnd >>> n.rcvWndScale else rcvWnd) 65535

def tcpDecodeWindow (n : Nego) (window : ℕ) (flags : Flags) : ℕ :=
  if flags.syn || !tcpWindowScaleNegotiated n then window else window <<< n.sndWndScale

def hton16 (v : ℕ) : List UInt8 := [UInt8.ofNat (v / 2 ^ 8), UInt8.ofNat v]

def hton32 (v : ℕ) : List UInt8 :=
  [UInt8.ofNat (v / 2 ^ 24), UInt8.ofNat (v / 2 ^ 16), UInt8.ofNat (v / 2 ^ 8), UInt8.ofNat v]

def ntoh (bs : List UInt8) : ℕ := bs.foldl (fun v b => v * 256 + b.toNat) 0

def makeTcpOptions (n : Nego) (now : ℕ) (flags : Flags) : List UInt8 × Nego :=
  let scale := tcpShouldSendWindowScale n flags
  let synBytes : List UInt8 :=
    if flags.syn then [2, 4] ++ hton16 n.rcvMss ++ (if scale then [1, 3, 3, 6] else [1, 1, 1, 1]) else []
  let tsBytes : List UInt8 :=
    if n.peerTsOk then [8, 10] ++ hton32 now ++ hton32 n.tsRecent ++ [1, 1] else []
  (synBytes ++ tsBytes,
    if scale then { n with rcvWndScale := tcpRcvWndScaleDefault, wndScaleSent := true } else n)

/-! One option: `none` is the PAWS rejection of an old timestamp. -/

def applyOption (syn isHandshake : Bool) (now kind len : ℕ) (body : List UInt8) (n : Nego) : Option Nego :=
  if kind = 2 ∧ len = 4 ∧ isHandshake then
    let mss := ntoh (body.take 2)
    if mss < 64 then some n
    else some { n with peerMss := mss, sndMss := min mss n.rcvMss, peerMssOk := true }
  else if kind = 3 ∧ len = 3 ∧ isHandshake then
    some { n with sndWndScale := min (ntoh (body.take 1)) 14, peerWndScaleOk := true }
  else if kind = 8 ∧ len = 10 then
    let tsval := ntoh (body.take 4)
    if n.peerTsOk ∧ tsval < n.tsRecent then none
    else some { n with
      peerTsOk := n.peerTsOk || syn
      tsRecent := tsval
      tsRecentAgeMs := now % 2 ^ 32
      tsLastTsecr := ntoh ((body.drop 4).take 4) }
  else some n

-- every round consumes at least one byte, so the number of option bytes bounds the rounds
def optionLoop (syn isHandshake : Bool) (now : ℕ) : ℕ → List UInt8 → Nego → Nego × Bool
  | 0, _, n => (n, true)
  | _ + 1, [], n => (n, true)
  | k + 1, kind :: rest, n =>
    if kind = 0 then (n, true)
    else if kind = 1 then optionLoop syn isHandshake now k rest n
    else
      match rest with
      | [] => (n, true)
      | len :: body =>
        if len.toNat < 2 ∨ body.length + 2 < len.toNat then (n, true)
        else
          match applyOption syn isHandshake now kind.toNat len.toNat body n with
          | none => (n, false)
          | some n' => optionLoop syn isHandshake now k (body.drop (len.toNat - 2)) n'

def isHandshake (s : TcpSock) (flags : Flags) : Bool :=
  flags.syn && (s.core.state = .synSent || s.core.state = .synReceived)

def parsedOptions (s : TcpSock) (hdr : TcpHdr) : Nego × Bool :=
  optionLoop hdr.flags.syn (isHandshake s hdr.flags) s.env.now hdr.options.length hdr.options s.nego

def parseTcpOptions (s : TcpSock) (hdr : TcpHdr) : TcpSock × Bool :=
  let (n, ok) := parsedOptions s hdr
  let s₁ : TcpSock := { s with nego := n }
  if ok && isHandshake s hdr.flags && n.sndMss != s.nego.sndMss then (tcpCongestionMssChanged s₁, true)
  else (s₁, ok)

lemma parseTcpOptions_frame (s : TcpSock) (hdr : TcpHdr) :
    ∃ c, (parseTcpOptions s hdr).1 = { s with nego := (parsedOptions s hdr).1, cong := c } ∧
      (c = s.cong ∨ c = tcpCongestionInit (parsedOptions s hdr).1) := by
  simp only [parseTcpOptions]
  split
  · obtain ⟨c, h, hc⟩ := tcpCongestionMssChanged_frame _
    exact ⟨c, h, hc.imp_right And.right⟩
  · exact ⟨s.cong, rfl, Or.inl rfl⟩

lemma parseTcpOptions_ok (s : TcpSock) (hdr : TcpHdr) : (parseTcpOptions s hdr).2 = (parsedOptions s hdr).2 := by
  simp only [parseTcpOptions]
  split
  · next h =>
    simp only [Bool.and_eq_true] at h
    exact h.1.1.symm
  · rfl

lemma optionLoop_induct {syn hs : Bool} {now : ℕ} (P : Nego → Prop)
    (step : ∀ kind len body n n', P n → applyOption syn hs now kind len body n = some n' → P n')
    (k : ℕ) (bs : List UInt8) (n : Nego) (h : P n) : P (optionLoop syn hs now k bs n).1 := by
  induction k generalizing bs n with
  | zero => exact h
  | succ k ih =>
    cases bs with
    | nil => exact h
    | cons kind rest =>
      simp only [optionLoop]
      split
      · exact h
      split
      · exact ih _ _ h
      cases rest with
      | nil => exact h
      | cons len body =>
        simp only
        split
        · exact h
        split
        · exact h
        · next n' hn => exact ih _ _ (step _ _ _ _ _ h hn)

lemma parsedOptions_scale (s : TcpSock) (hdr : TcpHdr) (h : s.nego.sndWndScale ≤ 14) :
    (parsedOptions s hdr).1.sndWndScale ≤ 14 := by
  refine optionLoop_induct (fun n => n.sndWndScale ≤ 14) ?_ _ _ _ h
  intro kind len body n n' hn happ
  unfold applyOption at happ
  split at happ
  · simp only at happ
    split at happ <;> · obtain rfl := Option.some.inj happ; exact hn
  split at happ
  · obtain rfl := Option.some.inj happ
    exact Nat.min_le_right _ _
  split at happ
  · simp only at happ
    split at happ
    · cases happ
    · obtain rfl := Option.some.inj happ
      exact hn
  · obtain rfl := Option.some.inj happ
    exact hn

lemma tcpDecodeWindow_lt (n : Nego) (h : n.sndWndScale ≤ 14) {w : ℕ} (hw : w < 2 ^ 16) (flags : Flags) :
    tcpDecodeWindow n w flags < 2 ^ 30 := by
  unfold tcpDecodeWindow
  split
  · omega
  · rw [Nat.shiftLeft_eq]
    calc w * 2 ^ n.sndWndScale ≤ w * 2 ^ 14 := Nat.mul_le_mul_left w (Nat.pow_le_pow_right (by omega) h)
      _ < 2 ^ 30 := by omega

end Netfast.Tcp
