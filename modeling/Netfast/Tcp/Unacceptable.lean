import Netfast.Tcp.Conn
import Netfast.Tcp.AckFrame

/-! What a segment outside the receive window does to a synchronized connection. -/

namespace Netfast.Tcp

open Serial

def Synchronized (s : TcpSock) : Prop :=
  s.core.state ≠ .closed ∧ s.core.state ≠ .listen ∧ s.core.state ≠ .synSent ∧ s.core.state ≠ .synReceived

def InWindow (r : RecvState) (x : Seq) : Prop :=
  leq r.rcvNxt x = true ∧ lt x (r.rcvNxt + BitVec.ofNat 32 r.rcvWnd) = true

def Acceptable (r : RecvState) (seq : Seq) (len : ℕ) : Prop :=
  (len = 0 ∧ r.rcvWnd = 0 ∧ seq = r.rcvNxt) ∨
  (len = 0 ∧ 0 < r.rcvWnd ∧ InWindow r seq) ∨
  (0 < len ∧ 0 < r.rcvWnd ∧ (InWindow r seq ∨ InWindow r (seq + BitVec.ofNat 32 len - 1)))

lemma segAllow_iff (r : RecvState) (seq : Seq) (len : ℕ) : segAllow r seq len = true ↔ Acceptable r seq len := by
  rcases Nat.eq_zero_or_pos len with hl | hl <;> rcases Nat.eq_zero_or_pos r.rcvWnd with hw | hw
  · simp only [segAllow, Acceptable, hl, hw]
    simpa using eq_comm
  · simp [segAllow, Acceptable, InWindow, hl, hw, hw.ne']
  · simp [segAllow, Acceptable, hl, hl.ne', hw]
  · simp [segAllow, Acceptable, InWindow, hl, hl.ne', hw, hw.ne']

-- the timestamp options, each with its echo
def tsStamps : ℕ → List UInt8 → List (ℕ × ℕ)
  | 0, _ => []
  | _ + 1, [] => []
  | k + 1, kind :: rest =>
    if kind = 0 then []
    else if kind = 1 then tsStamps k rest
    else
      match rest with
      | [] => []
      | len :: body =>
        if len.toNat < 2 ∨ body.length + 2 < len.toNat then []
        else if kind.toNat = 8 ∧ len.toNat = 10 then
          (ntoh (body.take 4), ntoh ((body.drop 4).take 4)) :: tsStamps k (body.drop (len.toNat - 2))
        else tsStamps k (body.drop (len.toNat - 2))

def TcpHdr.stamps (h : TcpHdr) : List (ℕ × ℕ) := tsStamps h.options.length h.options

def TcpHdr.tsvals (h : TcpHdr) : List ℕ := h.stamps.map Prod.fst

-- peer_ts_ok, ts_recent and the verdict of PAWS after these timestamps
def tsLoop (syn : Bool) : Bool → ℕ → List ℕ → Bool × ℕ × Bool
  | p, r, [] => (p, r, true)
  | p, r, v :: vs => if p ∧ v < r then (p, r, false) else tsLoop syn (p || syn) v vs

-- the echo of the last timestamp taken
def echoLoop (syn : Bool) : Bool → ℕ → List (ℕ × ℕ) → Option ℕ
  | _, _, [] => none
  | p, r, v :: vs => if p ∧ v.1 < r then none else some ((echoLoop syn (p || syn) v.1 vs).getD v.2)

lemma applyOption_other {syn : Bool} {now kind len : ℕ} {body : List UInt8} (n : Nego)
    (h : ¬(kind = 8 ∧ len = 10)) : applyOption syn false now kind len body n = some n := by
  simp [applyOption, h]

lemma applyOption_ts (syn : Bool) (now : ℕ) (body : List UInt8) (n : Nego) :
    applyOption syn false now 8 10 body n =
      if n.peerTsOk ∧ ntoh (body.take 4) < n.tsRecent then none
      else some { n with
        peerTsOk := n.peerTsOk || syn
        tsRecent := ntoh (body.take 4)
        tsRecentAgeMs := now % 2 ^ 32
        tsLastTsecr := ntoh ((body.drop 4).take 4) } := by
  simp [applyOption]

lemma optionLoop_ts (syn : Bool) (now k : ℕ) (bs : List UInt8) (n : Nego) :
    optionLoop syn false now k bs n =
      ({ n with
        peerTsOk := (tsLoop syn n.peerTsOk n.tsRecent ((tsStamps k bs).map Prod.fst)).1
        tsRecent := (tsLoop syn n.peerTsOk n.tsRecent ((tsStamps k bs).map Prod.fst)).2.1
        tsRecentAgeMs := if (echoLoop syn n.peerTsOk n.tsRecent (tsStamps k bs)).isSome then now % 2 ^ 32
          else n.tsRecentAgeMs
        tsLastTsecr := (echoLoop syn n.peerTsOk n.tsRecent (tsStamps k bs)).getD n.tsLastTsecr },
        (tsLoop syn n.peerTsOk n.tsRecent ((tsStamps k bs).map Prod.fst)).2.2) := by
  induction k generalizing bs n with
  | zero => rfl
  | succ k ih =>
    cases bs with
    | nil => rfl
    | cons kind rest =>
      simp only [optionLoop, tsStamps]
      split
      · rfl
      split
      · exact ih rest n
      cases rest with
      | nil => rfl
      | cons len body =>
        simp only
        split
        · rfl
        by_cases ht : kind.toNat = 8 ∧ len.toNat = 10
        · rw [if_pos ht, ht.1, ht.2, applyOption_ts, List.map_cons, tsLoop, echoLoop]
          by_cases hp : n.peerTsOk ∧ ntoh (body.take 4) < n.tsRecent
          · simp only [if_pos hp]
            rfl
          · simp only [if_neg hp, ih]
            simp
        · rw [if_neg ht, applyOption_other n ht]
          exact ih _ n

-- once negotiated, ts_recent never goes back: it is kept iff the first other value is older
lemma tsLoop_negotiated (syn : Bool) (r : ℕ) (vs : List ℕ) :
    (tsLoop syn true r vs).1 = true ∧ r ≤ (tsLoop syn true r vs).2.1 ∧
      ((tsLoop syn true r vs).2.1 = r ↔ ∀ v, vs.find? (· ≠ r) = some v → v < r) ∧
      ((tsLoop syn true r vs).2.1 = r → ((tsLoop syn true r vs).2.2 = false ↔ ∃ v ∈ vs, v < r)) := by
  induction vs generalizing r with
  | nil => simp [tsLoop]
  | cons v vs ih =>
    rcases lt_trichotomy v r with hv | rfl | hv
    · simp [tsLoop, hv, hv.ne]
    · simpa [tsLoop] using ih v
    · obtain ⟨hp, hle, -, -⟩ := ih v
      have hn : ¬v < r := Nat.lt_asymm hv
      have hne : (tsLoop syn true v vs).2.1 ≠ r := (Nat.lt_of_lt_of_le hv hle).ne'
      simp [tsLoop, hn, hv.ne', hp, hne, (Nat.lt_of_lt_of_le hv hle).le]

lemma tsLoop_plain (r : ℕ) (vs : List ℕ) : tsLoop false false r vs = (false, vs.getLast?.getD r, true) := by
  induction vs generalizing r with
  | nil => rfl
  | cons v vs ih =>
    rw [tsLoop, if_neg (by simp), Bool.or_false, ih, List.getLast?_cons]
    rfl

lemma tsLoop_syn (r v : ℕ) (vs : List ℕ) : (tsLoop true false r (v :: vs)).1 = true := by
  rw [tsLoop, if_neg (by simp), Bool.or_true]
  exact (tsLoop_negotiated true v vs).1

/-- The timestamps of the header leave `peer_ts_ok` and `ts_recent` as they are. -/
def TsQuiet (n : Nego) (h : TcpHdr) : Prop :=
  if n.peerTsOk then ∀ v, h.tsvals.find? (· ≠ n.tsRecent) = some v → v < n.tsRecent
  else h.tsvals = [] ∨ (h.flags.syn = false ∧ h.tsvals.getLast? = some n.tsRecent)

/-- A timestamp of the header is older than the last one: PAWS drops the segment. -/
def TsStale (n : Nego) (h : TcpHdr) : Prop := n.peerTsOk = true ∧ ∃ v ∈ h.tsvals, v < n.tsRecent

lemma tsQuiet_iff (n : Nego) (h : TcpHdr) :
    ((tsLoop h.flags.syn n.peerTsOk n.tsRecent h.tsvals).1 = n.peerTsOk ∧
      (tsLoop h.flags.syn n.peerTsOk n.tsRecent h.tsvals).2.1 = n.tsRecent) ↔ TsQuiet n h := by
  rw [TsQuiet]
  cases hp : n.peerTsOk with
  | true =>
    obtain ⟨hok, -, hr, -⟩ := tsLoop_negotiated h.flags.syn n.tsRecent h.tsvals
    rw [if_pos rfl, hr, and_iff_right hok]
  | false =>
    rw [if_neg (by simp)]
    cases hs : h.flags.syn with
    | false =>
      rw [tsLoop_plain]
      cases hv : h.tsvals.getLast? with
      | none => simp [List.getLast?_eq_none_iff.mp hv]
      | some v =>
        have hne : h.tsvals ≠ [] := by
          rintro he
          simp [he] at hv
        simp [hne]
    | true =>
      cases hv : h.tsvals with
      | nil => simp [tsLoop]
      | cons v vs => simp [tsLoop_syn]

lemma tsStale_iff {n : Nego} {h : TcpHdr} (hq : TsQuiet n h) :
    (tsLoop h.flags.syn n.peerTsOk n.tsRecent h.tsvals).2.2 = false ↔ TsStale n h := by
  have hr := ((tsQuiet_iff n h).mpr hq).2
  rw [TsStale]
  cases hp : n.peerTsOk with
  | true =>
    rw [hp] at hr
    rw [(tsLoop_negotiated h.flags.syn n.tsRecent h.tsvals).2.2.2 hr]
    simp
  | false =>
    rw [TsQuiet, hp, if_neg (by simp)] at hq
    rcases hq with hv | ⟨hs, -⟩
    · simp [hv, tsLoop]
    · simp [hs, tsLoop_plain]

def Nego.agreed (n : Nego) : Nego := { n with tsRecentAgeMs := 0, tsLastTsecr := 0 }

/-- The connection is as it was but for its timers, so that an ACK goes out, and the echo and the age of the last
timestamp. -/
structure Inert (s s' : TcpSock) : Prop where
  nego : s'.nego.agreed = s.nego.agreed
  estimate : s'.retry = s.retry
  cong : s'.cong = s.cong
  win : s'.win = s.win
  snd : s'.snd = s.snd
  rcv : s'.rcv = s.rcv
  state : s'.core.state = s.core.state
  wire : s'.env.wire = s.env.wire

lemma inert_iff (s : TcpSock) (n : Nego) (t : Timers) :
    Inert s { s with nego := n, tm := t } ↔ n.agreed = s.nego.agreed :=
  ⟨fun h => h.nego, fun h => ⟨h, rfl, rfl, rfl, rfl, rfl, rfl, rfl⟩⟩

variable {s : TcpSock}

lemma Synchronized.input (h : Synchronized s) (g : Segment) : tcpInput s g =
      if (parsedOptions s g.hdr).2 then inputSynchronized { s with nego := (parsedOptions s g.hdr).1 } g
      else { s with nego := (parsedOptions s g.hdr).1 } := by
  obtain ⟨h₁, h₂, h₃, h₄⟩ := h
  have hh : isHandshake s g.hdr.flags = false := by simp [isHandshake, h₃, h₄]
  have hp : parseTcpOptions s g.hdr = ({ s with nego := (parsedOptions s g.hdr).1 }, (parsedOptions s g.hdr).2) := by
    simp [parseTcpOptions, hh]
  rw [tcpInput]
  split
  · exact absurd ‹_› h₁
  · exact absurd ‹_› h₂
  · exact absurd ‹_› h₃
  · rw [hp]
    cases (parsedOptions s g.hdr).2 <;> rfl

lemma Synchronized.parsed (h : Synchronized s) (hdr : TcpHdr) :
    ((parsedOptions s hdr).1.agreed = s.nego.agreed ↔ TsQuiet s.nego hdr) ∧
      (TsQuiet s.nego hdr → ((parsedOptions s hdr).2 = false ↔ TsStale s.nego hdr)) := by
  obtain ⟨h₁, h₂, h₃, h₄⟩ := h
  have hh : isHandshake s hdr.flags = false := by simp [isHandshake, h₃, h₄]
  rw [parsedOptions, hh, optionLoop_ts]
  constructor
  · rw [← tsQuiet_iff]
    simp [Nego.agreed, TcpHdr.tsvals, TcpHdr.stamps]
  · exact tsStale_iff

-- a FIN of the peer that arrives again in TIME_WAIT restarts two timers
lemma timeWaitFin_input {g : Segment} (h : timeWaitFin s g = true) :
    ∃ t, inputSynchronized s g = { s with tm := t } := by
  have h' := h
  simp only [timeWaitFin, Bool.and_eq_true, Bool.not_eq_true', beq_iff_eq, decide_eq_true_eq] at h'
  obtain ⟨⟨⟨⟨⟨hs, ha⟩, hf⟩, hr⟩, hy⟩, hq⟩ := h'
  have hack : inputAck s g = (s, false) := by simp only [inputAck, hs]
  have htext : inputText s g = s := by simp [inputText, hs]
  have hfin : ∃ t, inputFin s g = { s with tm := t } := by
    simp only [inputFin, hs, hf, hq]
    exact ⟨_, rfl⟩
  simp only [inputSynchronized, h, hr, hy, ha, hack, htext, Bool.or_true, Bool.not_true, Bool.false_and,
    Bool.false_eq_true, if_false]
  split
  · exact ⟨_, rfl⟩
  · exact hfin

lemma inputRst_closed (hs : Synchronized s) : (inputRst s).core.state = .closed := by
  have hd (t : TcpSock) : (destroyTcpSocket t).core.state = .closed := by
    obtain ⟨fr, no, he⟩ := destroyTcpSocket_frame t
    rw [he]
  obtain ⟨h₁, h₂, h₃, h₄⟩ := hs
  cases hc : s.core.state with
  | closed => exact absurd hc h₁
  | listen => exact absurd hc h₂
  | synSent => exact absurd hc h₃
  | synReceived => exact absurd hc h₄
  | _ =>
    simp only [inputRst, hc]
    exact hd _

lemma unacceptable_input (hs : Synchronized s) {g : Segment} (hg : ¬Acceptable s.rcv g.hdr.seq g.segLen) :
    if g.hdr.flags.rst ∧ g.hdr.seq = s.rcv.rcvNxt then (inputSynchronized s g).core.state = .closed
    else ∃ t, inputSynchronized s g = { s with tm := t } := by
  have ha : segAllow s.rcv g.hdr.seq g.segLen = false := by
    rw [← Bool.not_eq_true, segAllow_iff]
    exact hg
  cases hr : g.hdr.flags.rst with
  | true =>
    have hi : inputSynchronized s g = if g.hdr.seq = s.rcv.rcvNxt then inputRst s else s.ackNow := by
      simp [inputSynchronized, hr]
    rw [hi]
    by_cases hq : g.hdr.seq = s.rcv.rcvNxt
    · rw [if_pos ⟨rfl, hq⟩, if_pos hq]
      exact inputRst_closed hs
    · rw [if_neg fun h => hq h.2, if_neg hq]
      exact ⟨_, rfl⟩
  | false =>
    rw [if_neg (by simp)]
    cases hw : timeWaitFin s g with
    | true => exact timeWaitFin_input hw
    | false =>
      have hi : inputSynchronized s g = s.ackNow := by simp [inputSynchronized, ha, hw, hr]
      rw [hi]
      exact ⟨_, rfl⟩

theorem unacceptable_inert_iff {s : TcpSock} (hs : Synchronized s) {g : Segment}
    (hg : ¬Acceptable s.rcv g.hdr.seq g.segLen) :
    Inert s (tcpInput s g) ↔ TsQuiet s.nego g.hdr ∧
      (g.hdr.flags.rst = true → g.hdr.seq = s.rcv.rcvNxt → TsStale s.nego g.hdr) := by
  obtain ⟨hquiet, hstale⟩ := hs.parsed g.hdr
  have hin := unacceptable_input (s := { s with nego := (parsedOptions s g.hdr).1 }) hs hg
  rw [hs.input g]
  cases hok : (parsedOptions s g.hdr).2 with
  | false =>
    rw [if_neg (by simp), inert_iff, hquiet]
    constructor
    · intro hq
      exact ⟨hq, fun _ _ => (hstale hq).mp hok⟩
    · exact fun h => h.1
  | true =>
    rw [if_pos rfl]
    by_cases hr : g.hdr.flags.rst = true ∧ g.hdr.seq = s.rcv.rcvNxt
    · rw [if_pos hr] at hin
      constructor
      · intro hi
        exact absurd (hi.state.symm.trans hin) hs.1
      · rintro ⟨hq, h⟩
        have := (hstale hq).mpr (h hr.1 hr.2)
        rw [hok] at this
        cases this
    · rw [if_neg hr] at hin
      obtain ⟨t, ht⟩ := hin
      rw [ht, inert_iff, hquiet]
      exact ⟨fun hq => ⟨hq, fun h₁ h₂ => absurd ⟨h₁, h₂⟩ hr⟩, fun h => h.1⟩

def farTimestamp : Segment :=
  bareSegment { plainHdr 4000000 0 .ackOnly with
    options := [8, 10, 0, 0, 0, 7, 0, 0, 0, 0]
    optionsLe := by decide }

def zeroWindowSock : TcpSock :=
  let s := establishedSock 100 500
  { s with rcv := { s.rcv with rcvWnd := 0 } }

def textReset : Segment := textSegment (plainHdr 500 0 { rst := true }) [1] (by decide)

theorem far_timestamp_is_taken :
    segAllow (establishedSock 100 500).rcv farTimestamp.hdr.seq farTimestamp.segLen = false ∧
      (establishedSock 100 500).nego.tsRecent = 0 ∧
      (tcpInput (establishedSock 100 500) farTimestamp).nego.tsRecent = 7 ∧
      segAllow zeroWindowSock.rcv textReset.hdr.seq textReset.segLen = false ∧
      zeroWindowSock.core.state = .established ∧ (tcpInput zeroWindowSock textReset).core.state = .closed := by
  decide

def farAck : Segment := bareSegment (plainHdr 4000000 0 .ackOnly)

theorem unacceptable_inert_iff_far_ack :
    Inert (establishedSock 100 500) (tcpInput (establishedSock 100 500) farAck) := by
  have hs : Synchronized (establishedSock 100 500) := by
    simp [Synchronized, establishedSock]
  have hg : ¬Acceptable (establishedSock 100 500).rcv farAck.hdr.seq farAck.segLen := by
    rw [← segAllow_iff]
    decide
  refine (unacceptable_inert_iff hs hg).mpr ⟨?_, ?_⟩
  · exact Or.inl rfl
  · intro h
    cases h

end Netfast.Tcp
