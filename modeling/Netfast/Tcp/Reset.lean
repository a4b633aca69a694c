import Mathlib.Data.List.TakeWhile
import Netfast.Tcp.Deadlines
import Netfast.Tcp.Unacceptable

/-! The reset rule of RFC 5961 for a synchronized connection. -/

namespace Netfast.Tcp

/-- The receive window; a closed one still has the place of the next number. -/
def InRecvWindow (r : RecvState) (seq : Seq) : Prop :=
  if r.rcvWnd = 0 then seq = r.rcvNxt else (seq - r.rcvNxt).toNat < r.rcvWnd

lemma rcvNxt_inRecvWindow (r : RecvState) : InRecvWindow r r.rcvNxt := by
  rw [InRecvWindow]
  split
  · rfl
  · next h =>
    rw [BitVec.sub_self]
    exact Nat.pos_of_ne_zero h

def AckDue (s : TcpSock) : Prop := s.tm.deadline .ack ≠ timerStop ∧ s.tm.deadline .ack ≤ s.env.now

structure Challenged (s s' : TcpSock) : Prop where
  ack : AckDue s'
  others : ∀ d, d ≠ .ack → s'.tm.deadline d = s.tm.deadline d
  state : s'.core.state = s.core.state
  snd : s'.snd = s.snd
  rcv : s'.rcv = s.rcv
  wire : s'.env.wire = s.env.wire

/-- The three cases of the rule, for a segment with RST. -/
structure RstRule (s : TcpSock) (g : Segment) (s' : TcpSock) : Prop where
  outside : ¬InRecvWindow s.rcv g.hdr.seq → s' = s
  exactly : g.hdr.seq = s.rcv.rcvNxt → s'.core.state = .closed
  inside : InRecvWindow s.rcv g.hdr.seq → g.hdr.seq ≠ s.rcv.rcvNxt → Challenged s s'

/-- The timestamps change nothing: they leave `peer_ts_ok` and `ts_recent` as they are, and the last one taken has the
echo and the time of the one before. -/
structure TsSame (n : Nego) (now : ℕ) (h : TcpHdr) : Prop where
  quiet : TsQuiet n h
  last : ∀ v, (h.stamps.takeWhile fun v => !(n.peerTsOk && decide (v.1 < n.tsRecent))).getLast? = some v →
    v.2 = n.tsLastTsecr ∧ now % 2 ^ 32 = n.tsRecentAgeMs

/-- The options do not drop a reset that is due an answer, and one that is due none is dropped by them, or finds the
ACK scheduled. -/
structure RstAnswered (s : TcpSock) (g : Segment) : Prop where
  outside : ¬InRecvWindow s.rcv g.hdr.seq → TsSame s.nego s.env.now g.hdr ∧
    (TsStale s.nego g.hdr ∨ AckDue s ∨ s.tm.deadline .ack = s.env.now)
  exactly : g.hdr.seq = s.rcv.rcvNxt → (parsedOptions s g.hdr).2 = true
  inside : InRecvWindow s.rcv g.hdr.seq → g.hdr.seq ≠ s.rcv.rcvNxt →
    AckDue s ∨ (parsedOptions s g.hdr).2 = true ∧ s.env.now ≠ timerStop

lemma echoLoop_negotiated (syn : Bool) (r : ℕ) (vs : List (ℕ × ℕ))
    (h : ∀ v, (vs.map Prod.fst).find? (· ≠ r) = some v → v < r) :
    echoLoop syn true r vs = ((vs.takeWhile fun v => !decide (v.1 < r)).getLast?).map Prod.snd := by
  induction vs with
  | nil => rfl
  | cons v vs ih =>
    rw [echoLoop]
    rcases eq_or_ne v.1 r with hv | hv
    · have hrest := ih fun w hw => h w (by simpa [hv] using hw)
      simp [hv, hrest, List.getLast?_cons]
    · have hlt : v.1 < r := h v.1 (by simp [hv])
      simp [hlt]

lemma echoLoop_plain (r : ℕ) (vs : List (ℕ × ℕ)) : echoLoop false false r vs = vs.getLast?.map Prod.snd := by
  induction vs generalizing r with
  | nil => rfl
  | cons v vs ih =>
    rw [echoLoop, if_neg (by simp), Bool.or_false, ih, List.getLast?_cons]
    cases vs.getLast? <;> rfl

lemma TsQuiet.echo {n : Nego} {h : TcpHdr} (hq : TsQuiet n h) :
    echoLoop h.flags.syn n.peerTsOk n.tsRecent h.stamps =
      ((h.stamps.takeWhile fun v => !(n.peerTsOk && decide (v.1 < n.tsRecent))).getLast?).map Prod.snd := by
  rw [TsQuiet] at hq
  cases hp : n.peerTsOk with
  | true =>
    rw [hp, if_pos rfl] at hq
    simpa using echoLoop_negotiated h.flags.syn n.tsRecent h.stamps hq
  | false =>
    rw [hp, if_neg (by simp)] at hq
    rcases hq with hv | ⟨hs, -⟩
    · rw [List.map_eq_nil_iff.mp hv]
      rfl
    · have hall : h.stamps.takeWhile (fun v => !(false && decide (v.1 < n.tsRecent))) = h.stamps := by
        rw [List.takeWhile_eq_self_iff]
        simp
      rw [hs, echoLoop_plain, hall]

lemma parsedOptions_same {s : TcpSock} (hs : Synchronized s) (hdr : TcpHdr) :
    (parsedOptions s hdr).1 = s.nego ↔ TsSame s.nego s.env.now hdr := by
  have hh : isHandshake s hdr.flags = false := by simp [isHandshake, hs.2.2.1, hs.2.2.2]
  have hq := (hs.parsed hdr).1
  rw [parsedOptions, hh, optionLoop_ts] at hq ⊢
  constructor
  · intro h
    have hquiet := hq.mp (by rw [h])
    refine ⟨hquiet, fun v hv => ?_⟩
    have hecho := hquiet.echo
    rw [hv] at hecho
    have hage := congrArg Nego.tsRecentAgeMs h
    have hecr := congrArg Nego.tsLastTsecr h
    rw [TcpHdr.stamps] at hecho
    simp only [hecho, Option.map_some, Option.isSome_some, if_true, Option.getD_some] at hage hecr
    exact ⟨hecr, hage⟩
  · rintro ⟨hquiet, hlast⟩
    obtain ⟨hok, hr⟩ := (tsQuiet_iff s.nego hdr).mpr hquiet
    have hecho := hquiet.echo
    rw [TcpHdr.tsvals, TcpHdr.stamps] at hok hr
    rw [TcpHdr.stamps] at hecho hlast
    rw [hok, hr, hecho]
    cases hv : ((tsStamps hdr.options.length hdr.options).takeWhile fun v =>
        !(s.nego.peerTsOk && decide (v.1 < s.nego.tsRecent))).getLast? with
    | none => rfl
    | some v =>
      obtain ⟨he, ha⟩ := hlast v hv
      simp only [Option.map_some, Option.isSome_some, if_true, Option.getD_some, he, ha]

lemma ackNow_tm (s : TcpSock) : s.ackNow.tm = s.tm ↔ AckDue s ∨ s.tm.deadline .ack = s.env.now := by
  change tcpUpdateTimer s.tm .ack s.env.now false = s.tm ↔ _
  constructor
  · intro h
    rcases tcpUpdateTimer_cases s.tm .ack s.env.now false with ⟨-, hk⟩ | he
    · rcases hk with hk | ⟨hne, hle, -⟩
      · exact .inr hk
      · exact .inl ⟨hne, hle⟩
    · rw [h] at he
      have hat : s.tm.deadline .ack = (s.tm.set .ack s.env.now).deadline .ack := congrFun he .ack
      exact .inr (hat.trans (s.tm.set_self .ack s.env.now))
  · intro h
    simp only [tcpUpdateTimer]
    split
    · rfl
    · next hne =>
      rcases h with ⟨hstop, hle⟩ | h
      · rw [if_neg]
        rintro (h | h | h)
        · exact hstop h
        · exact Nat.not_lt.mpr hle h
        · cases h
      · exact absurd h hne

lemma ackNow_due {s : TcpSock} (h : s.env.now ≠ timerStop) : AckDue s.ackNow := by
  refine ⟨tcpUpdateTimer_armed s.tm .ack false h, ?_⟩
  change (tcpUpdateTimer s.tm .ack s.env.now false).deadline .ack ≤ s.env.now
  rcases tcpUpdateTimer_cases s.tm .ack s.env.now false with ⟨he, hk⟩ | he
  · rw [he]
    rcases hk with hk | ⟨-, hle, -⟩
    · exact hk.le
    · exact hle
  · rw [he, Timers.set_self]

lemma AckDue.now {s : TcpSock} (h : AckDue s) : s.env.now ≠ timerStop := by
  intro hn
  have hle := h.2
  rw [hn] at hle
  exact h.1 (Nat.le_zero.mp hle)

lemma ackNow_due_iff (s : TcpSock) : AckDue s.ackNow ↔ AckDue s ∨ s.env.now ≠ timerStop := by
  constructor
  · exact fun h => .inr (AckDue.now (s := s.ackNow) h)
  · rintro (h | h)
    · exact ackNow_due h.now
    · exact ackNow_due h

lemma inputSynchronized_rst (s : TcpSock) {g : Segment} (hr : g.hdr.flags.rst = true) :
    inputSynchronized s g = if g.hdr.seq = s.rcv.rcvNxt then inputRst s else s.ackNow := by
  simp [inputSynchronized, hr]

theorem rst_rule_iff {s : TcpSock} (hs : Synchronized s) {g : Segment} (hr : g.hdr.flags.rst = true) :
    RstRule s g (tcpInput s g) ↔ RstAnswered s g := by
  have hstale := (hs.parsed g.hdr).2
  have hin := hs.input g
  rw [inputSynchronized_rst _ hr] at hin
  by_cases heq : g.hdr.seq = s.rcv.rcvNxt
  · -- the number expected next: only a verdict of the options saves the connection
    have hwin : InRecvWindow s.rcv g.hdr.seq := heq ▸ rcvNxt_inRecvWindow s.rcv
    have hclosed : (tcpInput s g).core.state = .closed ↔ (parsedOptions s g.hdr).2 = true := by
      rw [hin]
      cases (parsedOptions s g.hdr).2 with
      | false => exact ⟨fun h => absurd h hs.1, fun h => by cases h⟩
      | true =>
        rw [if_pos rfl, if_pos heq]
        exact ⟨fun _ => rfl, fun _ => inputRst_closed (s := { s with nego := (parsedOptions s g.hdr).1 }) hs⟩
    constructor
    · exact fun h => ⟨fun ho => absurd hwin ho, fun he => hclosed.mp (h.exactly he), fun _ hne => absurd heq hne⟩
    · exact fun h => ⟨fun ho => absurd hwin ho, fun he => hclosed.mpr (h.exactly he), fun _ hne => absurd heq hne⟩
  rw [if_neg heq] at hin
  have hplain : ∃ t, tcpInput s g = { s with nego := (parsedOptions s g.hdr).1, tm := t } ∧
      t = if (parsedOptions s g.hdr).2 then s.ackNow.tm else s.tm := by
    rw [hin]
    cases (parsedOptions s g.hdr).2 with
    | false => exact ⟨_, rfl, rfl⟩
    | true => exact ⟨_, rfl, rfl⟩
  obtain ⟨t, hin, ht⟩ := hplain
  rw [hin]
  by_cases hwin : InRecvWindow s.rcv g.hdr.seq
  · have hack : Challenged s { s with nego := (parsedOptions s g.hdr).1, tm := t } ↔
        AckDue s ∨ (parsedOptions s g.hdr).2 = true ∧ s.env.now ≠ timerStop := by
      have hother : ∀ d, d ≠ .ack → t.deadline d = s.tm.deadline d := by
        intro d hd
        rw [ht]
        split
        · exact tcpUpdateTimer_other s.tm s.env.now false hd
        · rfl
      have hdue : AckDue { s with nego := (parsedOptions s g.hdr).1, tm := t } ↔
          AckDue s ∨ (parsedOptions s g.hdr).2 = true ∧ s.env.now ≠ timerStop := by
        rw [ht]
        cases (parsedOptions s g.hdr).2 with
        | false => exact ⟨Or.inl, fun h => h.elim id fun h => by cases h.1⟩
        | true =>
          have hiff := ackNow_due_iff s
          exact ⟨fun h => (hiff.mp h).imp_right fun hn => ⟨rfl, hn⟩, fun h => hiff.mpr (h.imp_right And.right)⟩
      rw [← hdue]
      exact ⟨fun h => h.ack, fun h => ⟨h, hother, rfl, rfl, rfl, rfl⟩⟩
    constructor
    · exact fun h => ⟨fun ho => absurd hwin ho, fun he => absurd he heq, fun _ _ => hack.mp (h.inside hwin heq)⟩
    · exact fun h => ⟨fun ho => absurd hwin ho, fun he => absurd he heq, fun _ _ => hack.mpr (h.inside hwin heq)⟩
  · have hdrop : ({ s with nego := (parsedOptions s g.hdr).1, tm := t } : TcpSock) = s ↔
        TsSame s.nego s.env.now g.hdr ∧ (TsStale s.nego g.hdr ∨ AckDue s ∨ s.tm.deadline .ack = s.env.now) := by
      have hfields : ({ s with nego := (parsedOptions s g.hdr).1, tm := t } : TcpSock) = s ↔
          (parsedOptions s g.hdr).1 = s.nego ∧ t = s.tm :=
        ⟨fun h => ⟨congrArg TcpSock.nego h, congrArg TcpSock.tm h⟩, fun h => by rw [h.1, h.2]⟩
      rw [hfields, parsedOptions_same hs]
      refine and_congr_right fun hq => ?_
      rw [← hstale hq.quiet, ← ackNow_tm, ht]
      cases (parsedOptions s g.hdr).2 with
      | false => exact ⟨fun _ => .inl rfl, fun _ => rfl⟩
      | true => exact ⟨Or.inr, fun h => h.elim (fun h => by cases h) id⟩
    constructor
    · exact fun h => ⟨fun ho => hdrop.mp (h.outside ho), fun he => absurd he heq, fun hi _ => absurd hi hwin⟩
    · exact fun h => ⟨fun ho => hdrop.mpr (h.outside ho), fun he => absurd he heq, fun hi _ => absurd hi hwin⟩

def resetAt (seq : Seq) : Segment := bareSegment (plainHdr seq 0 { rst := true })

def ticking : TcpSock := { establishedSock 100 500 with env.now := 1000 }

theorem far_reset_is_answered :
    ¬InRecvWindow ticking.rcv (resetAt 4000000).hdr.seq ∧ ticking.tm.deadline .ack = timerStop ∧
      (tcpInput ticking (resetAt 4000000)).tm.deadline .ack = 1000 ∧
      ¬RstRule ticking (resetAt 4000000) (tcpInput ticking (resetAt 4000000)) := by
  have hout : ¬InRecvWindow ticking.rcv (resetAt 4000000).hdr.seq := by
    rw [InRecvWindow]
    decide
  have hnow : (tcpInput ticking (resetAt 4000000)).tm.deadline .ack = 1000 := by decide
  refine ⟨hout, rfl, hnow, fun h => ?_⟩
  rw [h.outside hout] at hnow
  cases hnow

theorem near_reset_is_challenged : RstRule ticking (resetAt 600) (tcpInput ticking (resetAt 600)) := by
  have hs : Synchronized ticking := by simp [Synchronized, ticking, establishedSock]
  have hin : InRecvWindow ticking.rcv (resetAt 600).hdr.seq := by
    rw [InRecvWindow]
    decide
  refine (rst_rule_iff hs rfl).mpr ⟨fun h => absurd hin h, fun _ => rfl, fun _ _ => .inr ⟨rfl, ?_⟩⟩
  decide

end Netfast.Tcp
