import Netfast.Tcp.FastRetransmit
import Netfast.Tcp.Limits
import Netfast.Tcp.SendRun

/-! Sequence-based round-trip samples. Beside the socket a log is kept of what went out and when, in positions of
the stream; a sample is good if it is the time from the one transmission of the measured segment to the first
acknowledgement of it. -/

namespace Netfast.Tcp

open Serial Skbuff Tiling Run

variable {iss : Seq} {data : List UInt8} {fin : Bool} {u x : ℕ} {s s' : TcpSock}

/-! The sending side while `snd_una` stays. -/

structure Laid (iss : Seq) (data : List UInt8) (fin : Bool) (u x : ℕ) (s : TcpSock) : Prop extends
    Queued iss data fin u x s where
  opening : s.core.state.opening = true → u = 0

variable {rest : List SkBuff} {b : SkBuff}

namespace Laid

lemma same (h : Laid iss data fin u x s) (hs : s'.snd = s.snd) (hw : s'.win.sndWnd < 2 ^ 30)
    (hn : s'.nego.sndWndScale ≤ 14) (ho : Onward (s.snd.sndUna = s.snd.sndEnd) s.core s'.core) :
    Laid iss data fin u x s' :=
  ⟨h.toQueued.same hs hw hn ho.closing, fun hst => h.opening (ho.opening hst)⟩

lemma sameView (h : Laid iss data fin u x s) (hv : SameView s s') (ho : Onward (s.snd.sndUna = s.snd.sndEnd) s.core s'.core) :
    Laid iss data fin u x s' :=
  h.same hv.snd (h.window hv.wnd) (by rw [hv.nego]; exact h.scale) ho

lemma emitted (h : Laid iss data fin u x s) (seq ack : Seq) (flags : Flags) (payload : List UInt8) :
    Laid iss data fin u x (emitted s seq ack flags payload) :=
  h.same rfl h.wnd ((makeTcpOptions_scale s.nego s.env.now flags).le.trans h.scale) (.refl _)

lemma launched (h : Laid iss data fin u x s) (hq : s.snd.sendQueue = b :: rest)
    (hr : Room s b (tcpSkbSeqLen b)) (sendFin push : Bool) :
    Laid iss data fin u (x + tcpSkbSeqLen b) (launched s b rest (tcpSkbSeqLen b) sendFin push) :=
  ⟨h.toQueued.launched hq hr sendFin push, fun ho => h.opening (launched_opening ho)⟩

lemma cut (h : Laid iss data fin u x s) {head tail : SkBuff} (hq : s.snd.sendQueue = b :: rest)
    (hp : Parts b head tail) : Laid iss data fin u x { s with snd.sendQueue := head :: tail :: rest } :=
  ⟨h.toQueued.cut hq hp, h.opening⟩

lemma finLast (h : Laid iss data false u x s) {last : SkBuff} (hl : s.snd.sendQueue.getLast? = some last) :
    Laid iss data true u x { s with
      core.closeSend := true
      snd.sendQueue := s.snd.sendQueue.dropLast ++ [{ last with flag.fin := true }]
      snd.sndEnd := s.snd.sndEnd + 1 } :=
  ⟨h.toQueued.finLast hl, h.opening⟩

lemma finAlone (h : Laid iss data false u x s) (hnil : s.snd.sendQueue = []) (room : ℕ) :
    Laid iss data true u x { s with
      core.closeSend := true
      snd.sendQueue := [skbAlloc s.snd.sndEnd { fin := true, ack := true } room room]
      snd.sndEnd := s.snd.sndEnd + 1 } :=
  ⟨h.toQueued.finAlone hnil room, h.opening⟩

lemma resized (h : Laid iss data fin u x s) {v : ℕ} (hv : v < 2 ^ 31) :
    Laid iss data fin u x { s with snd.sendBufferLenMax := v } :=
  ⟨h.toQueued.resized hv, h.opening⟩

lemma wrote (h : Laid iss data fin u x s) (hw : Wrote s s') : (∃ data', Laid iss data' fin u x s') ∧ s'.env = s.env ∧
    s'.retry = s.retry ∧ s'.snd.sndUna = s.snd.sndUna := by
  cases hw with
  | @chunk ho c hc hl hm room f =>
    obtain rfl := h.unfinished ho
    have hs := h.send
    have hmax := h.max
    obtain ⟨r, e, n, he, -⟩ := writeChunk_frame s.snd room f hl
    have hspec := writeChunk_spec c (tcpDataMss s.nego) room f hs hc hl (by omega)
    obtain ⟨data', hs'⟩ : ∃ data', SendInv iss (sendStream data' false) u x
        (writeChunk s.snd c (tcpDataMss s.nego) room f).1 := by
      rcases hspec with ⟨-, he⟩ | ⟨-, hs'⟩
      · rw [he]
        exact ⟨data, hs⟩
      · exact ⟨data ++ c, hs'⟩
    refine ⟨⟨data', ⟨hs', nofun, h.flightLe, h.wnd, h.scale, ?_⟩, h.opening⟩, rfl, rfl, ?_⟩
    · dsimp only
      rw [he]
      exact h.max
    · exact hs'.una.trans hs.una.symm

lemma acked (h : Laid iss data fin u x s) {a : ℕ} (hu : u < a) (ha : a ≤ x) (hs : s'.snd = ackedSend s.snd (label iss a))
    (hw : s'.win.sndWnd < 2 ^ 30) (hn : s'.nego.sndWndScale ≤ 14) (hc : s'.core.closeSend = s.core.closeSend)
    (hst : s'.core.state.opening = false) : Laid iss data fin a x s' := by
  refine ⟨h.toQueued.acked hu ha hs hw hn hc, fun ho => ?_⟩
  rw [hst] at ho
  cases ho

lemma answered (h : Laid iss data fin u x s) (hu : u = 0) : Laid iss data fin u x (answered s) :=
  ⟨h.toQueued.answered, fun _ => hu⟩

lemma parsed (h : Laid iss data fin u x s) (hdr : TcpHdr) : Laid iss data fin u x (parseTcpOptions s hdr).1 := by
  obtain ⟨c, hp, -⟩ := parseTcpOptions_frame s hdr
  rw [hp]
  exact h.same rfl h.wnd (parsedOptions_scale s hdr h.scale) (.refl _)

end Laid

lemma ConnAt.laid {o : Prop} (h : ConnAt o iss data fin 0 x s) : Laid iss data fin 0 x s :=
  ⟨h.toQueued, fun _ => rfl⟩

structure Sent where
  time : ℕ
  start : ℕ
  len : ℕ
deriving DecidableEq

def Sent.covers (l : Sent) (p : ℕ) : Bool := decide (l.start ≤ p) && decide (p < l.start + l.len)

def logged (u : ℕ) (una : Seq) (now : ℕ) (w : WireSeg) : Sent := ⟨now, u + (w.seq - una).toNat, w.seqLen⟩

structure Timed (iss : Seq) (data : List UInt8) (fin : Bool) (u x : ℕ) (log : List Sent) (s : TcpSock) : Prop extends
    Laid iss data fin u x s where
  past : ∀ l ∈ log, 0 < l.len → l.start + l.len ≤ x
  once : s.retry.rttMeasTime ≠ 0 → ∃ p n, s.retry.rttMeasSeq = label iss p ∧ p < x ∧ u ≤ p + 2 ^ 30 ∧
    log.filter (·.covers p) = [⟨s.retry.rttMeasTime, p, n⟩]

def Logs (iss : Seq) (u : ℕ) (log : List Sent) (s s' : TcpSock) : Prop :=
  ∃ data fin x ws, s'.env.wire = s.env.wire ++ ws ∧ s'.snd.sndUna = s.snd.sndUna ∧ s'.env.now = s.env.now ∧
    Timed iss data fin u x (log ++ ws.map (logged u s.snd.sndUna s.env.now)) s'

variable {log : List Sent}

lemma Timed.logs_none (h : Timed iss data fin u x log s') (hw : s'.env.wire = s.env.wire) (hu : s'.snd.sndUna = s.snd.sndUna)
    (hn : s'.env.now = s.env.now) : Logs iss u log s s' :=
  ⟨data, fin, x, [], by rw [hw, List.append_nil], hu, hn, by rw [List.map_nil, List.append_nil]; exact h⟩

lemma Timed.sameRtt {data' : List UInt8} {fin' : Bool} (h : Timed iss data fin u x log s)
    (hl : Laid iss data' fin' u x s') (hr : s.retry.SameRtt s'.retry) : Timed iss data' fin' u x log s' := by
  refine ⟨hl, h.past, ?_⟩
  rw [hr.1, hr.2]
  exact h.once

lemma Timed.logs_laid {fin' : Bool} (h : Timed iss data fin u x log s) (hl : Laid iss data fin' u x s') (hr : s.retry.SameRtt s'.retry)
    (hw : s'.env.wire = s.env.wire) (hu : s'.snd.sndUna = s.snd.sndUna) (hn : s'.env.now = s.env.now) :
    Logs iss u log s s' :=
  (h.sameRtt hl hr).logs_none hw hu hn

lemma Timed.quiet (h : Timed iss data fin u x log s) (hs : s'.snd = s.snd) (hw : s'.win.sndWnd = s.win.sndWnd)
    (hsc : s'.nego.sndWndScale = s.nego.sndWndScale) (hc : s'.core = s.core)
    (hr : s'.retry.rttMeasTime = 0 ∨ s.retry.SameRtt s'.retry) (hwire : s'.env.wire = s.env.wire)
    (hn : s'.env.now = s.env.now) : Logs iss u log s s' := by
  have hl : Laid iss data fin u x s' :=
    h.toLaid.same hs (by rw [hw]; exact h.wnd) (by rw [hsc]; exact h.scale) (by rw [hc]; exact .refl _)
  have ht : Timed iss data fin u x log s' := by
    rcases hr with hz | hr
    · exact ⟨hl, h.past, fun hne => absurd hz hne⟩
    · exact h.sameRtt hl hr
  exact ht.logs_none hwire (by rw [hs]) hn

lemma Timed.past_concat {y : ℕ} (h : Timed iss data fin u x log s) (hx : x ≤ y) {l : Sent}
    (hl : 0 < l.len → l.start + l.len ≤ y) : ∀ k ∈ log ++ [l], 0 < k.len → k.start + k.len ≤ y := by
  intro k hk hpos
  rcases List.mem_append.mp hk with hk | hk
  · exact (h.past k hk hpos).trans hx
  · obtain rfl := List.mem_singleton.mp hk
    exact hl hpos

lemma filter_covers_concat {l : Sent} {p : ℕ} (h : l.covers p = false) :
    (log ++ [l]).filter (·.covers p) = log.filter (·.covers p) := by
  rw [List.filter_append, List.filter_singleton, h]
  exact List.append_nil _

lemma Timed.logs_one {y : ℕ} {w : WireSeg} (hw : s'.env.wire = s.env.wire ++ [w]) (hu : s'.snd.sndUna = s.snd.sndUna)
    (hn : s'.env.now = s.env.now) (h : Timed iss data fin u y (log ++ [logged u s.snd.sndUna s.env.now w]) s') :
    Logs iss u log s s' :=
  ⟨data, fin, y, [w], hw, hu, hn, h⟩

lemma Timed.bare (h : Timed iss data fin u x log s) (seq ack : Seq) {flags : Flags} (hf : flags.syn = false ∧ flags.fin = false) :
    Logs iss u log s (emitted s seq ack flags []) := by
  have hzero (l : Sent) (hl : l.len = 0) (p : ℕ) : l.covers p = false := by
    rw [Sent.covers, hl, Bool.and_eq_false_iff, decide_eq_false_iff_not, decide_eq_false_iff_not]
    omega
  obtain ⟨w, hw, hlen⟩ : ∃ w : WireSeg, (emitted s seq ack flags []).env.wire = s.env.wire ++ [w] ∧ w.seqLen = 0 :=
    ⟨_, rfl, by simp [WireSeg.seqLen, hf.1, hf.2]⟩
  refine Timed.logs_one hw rfl rfl ⟨h.toLaid.emitted seq ack flags [], h.past_concat le_rfl fun hpos => ?_, fun hne => ?_⟩
  · rw [logged, hlen] at hpos
    cases hpos
  · obtain ⟨p, n, hp, hx, hu, hl⟩ := h.once hne
    refine ⟨p, n, hp, hx, hu, ?_⟩
    rw [filter_covers_concat (hzero _ hlen p)]
    exact hl

lemma SegTiles.within {a b : ℕ} {q : List SkBuff} (h : SegTiles iss a q b) {c : SkBuff} (hc : c ∈ q) :
    ∃ p, c.seq = label iss p ∧ a ≤ p ∧ p + tcpSkbSeqLen c ≤ b := by
  obtain ⟨pre, post, rfl⟩ := List.append_of_mem hc
  obtain ⟨p, hpre, hseq, -, hpost⟩ := tiles_append.mp h
  exact ⟨p, hseq, hpre.le, hpost.le⟩

lemma emittedCopy_wire (s : TcpSock) (b : SkBuff) (budget : ℕ) (push : Bool) : ∃ w : WireSeg,
    (emittedCopy s b budget push).env.wire = s.env.wire ++ [w] ∧ w.seq = b.seq ∧
      w.flags = (sendClone b budget push).flag ∧ w.payload = (sendClone b budget push).payload :=
  ⟨_, rfl, rfl, rfl, rfl⟩

lemma sendClone_seqLen_le (b : SkBuff) (budget : ℕ) (push : Bool) {w : WireSeg}
    (hf : w.flags = (sendClone b budget push).flag) (hp : w.payload = (sendClone b budget push).payload) :
    w.seqLen ≤ tcpSkbSeqLen b := by
  obtain ⟨hsyn, hfin, hpay⟩ := sendClone_spec b budget push
  have hle : (sendClone b budget push).payload.length ≤ skbDataLen b := hpay.length_le
  have hone : (sendClone b budget push).flag.fin.toNat ≤ b.flag.fin.toNat := by
    cases hc : (sendClone b budget push).flag.fin with
    | false => exact Nat.zero_le _
    | true => rw [hfin hc]
  rw [WireSeg.seqLen, hf, hp, hsyn, tcpSkbSeqLen]
  omega

lemma Timed.resent (h : Timed iss data fin u x log s) (hb : b ∈ s.snd.retransmitQueue) (budget : ℕ) :
    Logs iss u log s { emittedCopy s b budget false with retry.rttMeasTime := 0 } := by
  obtain ⟨p, hseq, hup, hpx⟩ := SegTiles.within h.send.flight hb
  obtain ⟨w, hw, hws, hwf, hwp⟩ := emittedCopy_wire s b budget false
  have hlen := sendClone_seqLen_le b budget false hwf hwp
  have hfl := h.flightLe
  have hl : Laid iss data fin u x { emittedCopy s b budget false with retry.rttMeasTime := 0 } :=
    h.toLaid.same rfl h.wnd ((makeTcpOptions_scale s.nego s.env.now _).le.trans h.scale) (.refl _)
  refine Timed.logs_one hw rfl rfl ⟨hl, h.past_concat le_rfl fun _ => ?_, fun hne => absurd rfl hne⟩
  rw [logged, hws, hseq, h.una, label_sub iss hup (by omega)]
  dsimp only
  omega

lemma Timed.sent (h : Timed iss data fin u x log s) (hq : s.snd.sendQueue = b :: rest)
    (hr : Room s b (tcpSkbSeqLen b)) (sendFin push : Bool) :
    Logs iss u log s (launched s b rest (tcpSkbSeqLen b) sendFin push) := by
  obtain ⟨hseq, hpos, hsyn⟩ := h.head hq
  obtain ⟨w, hw, hws, hwf, hwp⟩ := emittedCopy_wire s b (tcpSkbSeqLen b) push
  have hfl := h.flightLe
  have hle := h.le
  have hlen : w.seqLen = tcpSkbSeqLen b := by
    have hc := (sendClone_len hsyn (tcpSkbSeqLen b) push).2
    have hs : (sendClone b (tcpSkbSeqLen b) push).flag.syn = false := hsyn
    rw [Nat.min_self] at hc
    rw [WireSeg.seqLen, hwf, hwp, hs, Bool.toNat_false, Nat.add_zero]
    exact hc
  have hlog : logged u s.snd.sndUna s.env.now w = ⟨s.env.now, x, tcpSkbSeqLen b⟩ := by
    rw [logged, hws, hseq, h.una, label_sub iss hle (by omega), hlen]
    congr 1
    omega
  have hl := h.toLaid.launched hq hr sendFin push
  suffices ht : Timed iss data fin u (x + tcpSkbSeqLen b) (log ++ [logged u s.snd.sndUna s.env.now w])
      (launched s b rest (tcpSkbSeqLen b) sendFin push) from Timed.logs_one hw rfl rfl ht
  rw [hlog]
  refine ⟨hl, h.past_concat (Nat.le_add_right _ _) fun _ => le_rfl, ?_⟩
  change (if s.retry.rttMeasTime = 0 then s.env.now else s.retry.rttMeasTime) ≠ 0 →
    ∃ p n, (if s.retry.rttMeasTime = 0 then b.seq else s.retry.rttMeasSeq) = label iss p ∧ p < x + tcpSkbSeqLen b ∧
      u ≤ p + 2 ^ 30 ∧ List.filter (fun l : Sent => l.covers p) (log ++ [⟨s.env.now, x, tcpSkbSeqLen b⟩]) =
        [⟨if s.retry.rttMeasTime = 0 then s.env.now else s.retry.rttMeasTime, p, n⟩]
  by_cases hz : s.retry.rttMeasTime = 0
  · -- the measurement begins with this segment
    rw [if_pos hz, if_pos hz]
    intro _
    have hold : log.filter (·.covers x) = [] := by
      rw [List.filter_eq_nil_iff]
      intro l hl hc
      rw [Sent.covers, Bool.and_eq_true, decide_eq_true_eq, decide_eq_true_eq] at hc
      have := h.past l hl (by omega)
      omega
    refine ⟨x, tcpSkbSeqLen b, hseq, by omega, by omega, ?_⟩
    have hnew : (⟨s.env.now, x, tcpSkbSeqLen b⟩ : Sent).covers x = true := by
      simp only [Sent.covers, le_refl, decide_true, Bool.true_and, decide_eq_true_eq]
      omega
    rw [List.filter_append, hold, List.nil_append, List.filter_singleton, hnew]
    rfl
  · rw [if_neg hz, if_neg hz]
    intro hne
    obtain ⟨p, n, hp, hx, hu, hlog⟩ := h.once hne
    refine ⟨p, n, hp, by omega, hu, ?_⟩
    rw [filter_covers_concat, hlog]
    simp only [Sent.covers, Bool.and_eq_false_iff, decide_eq_false_iff_not]
    omega

lemma Move.timed (hm : Move s s') (h : Timed iss data fin u x log s) : Logs iss u log s s' := by
  cases hm with
  | beside hb => exact h.logs_laid (h.toLaid.sameView hb.toSameView hb.core) hb.rtt hb.wire (by rw [hb.snd]) hb.now
  | unrouted | routed | faulted => exact h.quiet rfl rfl rfl rfl (.inr ⟨rfl, rfl⟩) rfl rfl
  | offered flags =>
    exact h.quiet rfl rfl (makeTcpOptions_scale s.nego s.env.now flags) rfl (.inr ⟨rfl, rfl⟩) rfl rfl
  | bare seq ack hf => exact h.bare seq ack hf
  | resent hb budget => exact h.resent hb budget
  | sent hq hn hr _ push =>
    obtain rfl := hn (h.head hq).2.2
    exact h.sent hq hr _ push
  | cut hq hp => exact h.logs_laid (h.toLaid.cut hq hp) ⟨rfl, rfl⟩ rfl rfl rfl
  | sampled v => exact h.quiet rfl rfl rfl rfl (.inl rfl) rfl rfl
  | finLast ho _ hlast =>
    obtain rfl := h.unfinished ho
    exact h.logs_laid (h.toLaid.finLast hlast) ⟨rfl, rfl⟩ rfl rfl rfl
  | finAlone ho _ hnil room =>
    obtain rfl := h.unfinished ho
    exact h.logs_laid (h.toLaid.finAlone hnil room) ⟨rfl, rfl⟩ rfl rfl rfl
  | resized hv => exact h.logs_laid (h.toLaid.resized hv) ⟨rfl, rfl⟩ rfl rfl rfl

lemma Moves.timed (hm : Moves s s') (h : Timed iss data fin u x log s) : Logs iss u log s s' := by
  induction hm with
  | refl => exact h.logs_none rfl rfl rfl
  | tail _ hm ih =>
    obtain ⟨_, _, x₁, ws, hw, hu, hn, h₁⟩ := ih
    obtain ⟨data', fin', x₂, ws', hw', hu', hn', h₂⟩ := hm.timed h₁
    refine ⟨data', fin', x₂, ws ++ ws', by rw [hw', hw, List.append_assoc], hu'.trans hu, hn'.trans hn, ?_⟩
    rw [List.map_append, ← List.append_assoc, ← hu, ← hn]
    rw [← hu, ← hn] at h₂
    exact h₂

lemma Logs.of_same {t : TcpSock} (h : Logs iss u log t s') (hw : t.env.wire = s.env.wire)
    (hu : t.snd.sndUna = s.snd.sndUna) (hn : t.env.now = s.env.now) : Logs iss u log s s' := by
  obtain ⟨data, fin, x, ws, hw', hu', hn', ht⟩ := h
  rw [hu, hn] at ht
  exact ⟨data, fin, x, ws, by rw [hw', hw], hu'.trans hu, hn'.trans hn, ht⟩

lemma Writes.timed (hw : Writes s s') (h : Timed iss data fin u x log s) : Logs iss u log s s' := by
  cases hw with
  | idle hm => exact hm.timed h
  | @queued t t' hr hwr hm =>
    have hk := setTcpSocketRoute_keeps s
    obtain ⟨r, re, f, -, hrtt, ht⟩ := setTcpSocketRoute_routed hr
    rw [hr] at hk
    have hl : Laid iss data fin u x t := by
      refine h.toLaid.same hk.snd (by rw [hk.win]; exact h.wnd) (by rw [hk.scale]; exact h.scale) ?_
      rw [hk.core]
      exact .refl _
    have ht₀ : Timed iss data fin u x log t := h.sameRtt hl (by rw [ht]; exact hrtt)
    have hsame : (∃ data, Timed iss data fin u x log t') ∧ t'.env = t.env ∧ t'.snd.sndUna = t.snd.sndUna := by
      clear hm
      induction hwr with
      | refl => exact ⟨⟨data, ht₀⟩, rfl, rfl⟩
      | tail _ hw ih =>
        obtain ⟨⟨data₁, h₁⟩, henv₁, huna₁⟩ := ih
        obtain ⟨⟨data₂, hl'⟩, henv, hre, huna⟩ := h₁.toLaid.wrote hw
        exact ⟨⟨data₂, h₁.sameRtt hl' (by rw [hre]; exact ⟨rfl, rfl⟩)⟩, henv.trans henv₁, huna.trans huna₁⟩
    obtain ⟨⟨data', h'⟩, henv, huna⟩ := hsame
    refine (hm.timed h').of_same ?_ ?_ ?_
    · rw [henv, ht]
    · rw [huna, hk.snd]
    · rw [henv, ht]

lemma Reads.timed {g : Segment} {t : TcpSock} (ht : Reads s g t) (h : Timed iss data fin u x log s) :
    Timed iss data fin u x log (parseTcpOptions t g.hdr).1 ∧ (parseTcpOptions t g.hdr).1.env.wire = s.env.wire ∧
      (parseTcpOptions t g.hdr).1.env.now = s.env.now ∧ (parseTcpOptions t g.hdr).1.snd = s.snd := by
  have hread : Timed iss data fin u x log t ∧ t.env.wire = s.env.wire ∧ t.env.now = s.env.now ∧ t.snd = s.snd := by
    rcases ht with rfl | ⟨-, hb, -⟩
    · exact ⟨h, rfl, rfl, rfl⟩
    · exact ⟨h.sameRtt (h.toLaid.sameView hb.toSameView hb.core) hb.rtt, hb.wire, hb.now, hb.snd⟩
  obtain ⟨h₁, hw, hn, hs⟩ := hread
  have hl := h₁.toLaid.parsed g.hdr
  obtain ⟨c, hp, -⟩ := parseTcpOptions_frame t g.hdr
  rw [hp] at hl ⊢
  exact ⟨h₁.sameRtt hl ⟨rfl, rfl⟩, hw, hn, hs⟩

def Advances (iss : Seq) (u : ℕ) (log : List Sent) (s s' : TcpSock) : Prop :=
  ∃ a ≥ u, a < u + 2 ^ 32 ∧ ∃ t, t.env.wire = s.env.wire ∧ t.env.now = s.env.now ∧ t.snd.sndUna = label iss a ∧
    Logs iss a log t s'

lemma Logs.advances (h : Logs iss u log s s') (hl : Laid iss data fin u x s) : Advances iss u log s s' :=
  ⟨u, le_rfl, by omega, s, rfl, rfl, hl.una, h⟩

lemma Timed.advances {t c : TcpSock} {a : ℕ} (h : Timed iss data fin a x log c) (hu : u ≤ a) (ha : a < u + 2 ^ 32)
    (hw : c.env.wire = t.env.wire) (hn : c.env.now = t.env.now) (hm : Moves c s') (hwt : t.env.wire = s.env.wire)
    (hnt : t.env.now = s.env.now) : Advances iss u log s s' :=
  ⟨a, hu, ha, c, hw.trans hwt, hn.trans hnt, h.una, hm.timed h⟩

lemma tcpInput_timed (g : Segment) (h : Timed iss data fin u x log s) : Advances iss u log s (tcpInput s g) := by
  cases tcpInput_arrival s g with
  | unread hm => exact (hm.timed h).advances h.toLaid
  | read ht hm =>
    obtain ⟨hp, hw, hn, hs⟩ := ht.timed h
    exact hp.advances le_rfl (by omega) rfl rfl hm hw hn
  | opened hs ht hc hm =>
    obtain ⟨hp, hw, hn, -⟩ := ht.timed h
    obtain ⟨a, ha, hua, hax⟩ := hp.position hc.takes
    have hu : u = 0 := h.opening hs
    have hfl := h.flightLe
    have hl := hp.toLaid.acked hua hax (by rw [hc.snd, ha]) (hp.window hc.wnd) (by rw [hc.nego]; exact hp.scale)
      hc.closeSend (by rw [hc.state]; rfl)
    -- the measurement goes on, though the segment may be acknowledged
    have hc' : Timed iss data fin a x log _ := ⟨hl, hp.past, fun hne => by
      rw [hc.rtt.1] at hne
      obtain ⟨p, n, hseq, hpx, -, hlog⟩ := hp.once hne
      rw [hc.rtt.1, hc.rtt.2]
      exact ⟨p, n, hseq, hpx, by omega, hlog⟩⟩
    exact hc'.advances hua.le (by omega) hc.wire hc.now hm hw hn
  | crossed hs ht hm =>
    obtain ⟨hp, hw, hn, -⟩ := ht.timed h
    have hl := hp.toLaid.answered (h.opening (by rw [hs]; rfl))
    exact (hp.sameRtt hl ⟨rfl, rfl⟩).advances le_rfl (by omega) rfl rfl hm hw hn
  | renewed hok ht hlt hb =>
    obtain ⟨hp, hw, hn, -⟩ := Reads.timed (.inl rfl) h
    obtain ⟨hst, -, -, -, -, hr⟩ := takesUp_iff.mp ht
    obtain ⟨a, ha, hua, hax⟩ := hp.position (.inr ⟨hlt, hr⟩)
    obtain ⟨v, hv, -, hcore⟩ := acknowledge_view (parseTcpOptions s g.hdr).1 g.hdr
    have hfl := h.flightLe
    have hl : Laid iss data fin a x (acknowledge (parseTcpOptions s g.hdr).1 g.hdr) :=
      hp.toLaid.acked hua hax (by rw [hv.snd, ← ha]; rfl) (hp.window hv.wnd) (by rw [hv.nego]; exact hp.scale)
        (by rw [hcore]) (by rw [hcore]; exact opening_of_takesAcks hst)
    have hc : Timed iss data fin a x log _ := ⟨hl, hp.past, fun hne => absurd hv.rtt.1 hne⟩
    exact hc.advances hua.le (by omega) hv.wire hv.now (renewed_moves hb) hw hn
  | repeated _ _ hc hm =>
    obtain ⟨hp, hw, hn, -⟩ := Reads.timed (.inl rfl) h
    have hl := hp.toLaid.sameView hc.toSameView (by rw [hc.core]; exact .refl _)
    exact (hp.sameRtt hl hc.rtt).advances le_rfl (by omega) hc.wire hc.now hm hw hn

structure Traced where
  sock : TcpSock
  /-- The position of `snd_una`. -/
  una : ℕ := 0
  log : List Sent := []

def trace (g : Traced) (e : Event) : Traced :=
  let s := step g.sock e
  let una := g.una + (s.snd.sndUna - g.sock.snd.sndUna).toNat
  { sock := s
    una
    log := g.log ++ (s.env.wire.drop g.sock.env.wire.length).map (logged una s.snd.sndUna e.inputs.now) }

lemma run_trace (g : Traced) (es : List Event) : (run trace g es).sock = run step g.sock es := by
  induction es generalizing g with
  | nil => rfl
  | cons e es ih => exact ih (trace g e)

lemma trace_timed {g : Traced} (h : ∃ data fin x, Timed iss data fin g.una x g.log g.sock) (e : Event) :
    ∃ data fin x, Timed iss data fin (trace g e).una x (trace g e).log (trace g e).sock := by
  obtain ⟨data, fin, x, h⟩ := h
  by_cases hen : e.action.enabled g.sock = true
  · have h₁ : Timed iss data fin g.una x g.log (g.sock.withInputs e.inputs) :=
      h.sameRtt (h.toLaid.same rfl h.wnd h.scale (.refl _)) ⟨rfl, rfl⟩
    have hstep : step g.sock e = act (g.sock.withInputs e.inputs) e.action := by rw [step, if_pos hen]
    have hadv : Advances iss g.una g.log (g.sock.withInputs e.inputs) (step g.sock e) := by
      rw [hstep]
      cases hs : e.action.segment? with
      | none => exact ((act_writes _ hs).timed h₁).advances h₁.toLaid
      | some seg =>
        rw [Action.eq_input hs]
        exact tcpInput_timed seg h₁
    obtain ⟨a, hua, ha, t, hw, hn, hua', data', fin', y, ws, hw', hu', hn', hl⟩ := hadv
    have huna : (step g.sock e).snd.sndUna = label iss a := hu'.trans hua'
    have hpos : (trace g e).una = a := by
      change g.una + ((step g.sock e).snd.sndUna - g.sock.snd.sndUna).toNat = a
      rw [huna, h.una, label_sub iss hua ha]
      omega
    have hlog : (trace g e).log = g.log ++ ws.map (logged a t.snd.sndUna t.env.now) := by
      change g.log ++ ((step g.sock e).env.wire.drop g.sock.env.wire.length).map
        (logged (trace g e).una (step g.sock e).snd.sndUna e.inputs.now) = _
      rw [hw', hw, List.drop_left, hpos, huna, ← hua', hn]
    rw [hpos, hlog]
    exact ⟨data', fin', y, hl⟩
  · have hstep : step g.sock e = g.sock := by rw [step, if_neg hen]
    have htrace : trace g e = g := by
      rw [trace, hstep]
      simp
    rw [htrace]
    exact ⟨data, fin, x, h⟩

lemma Opened.timed (h : Opened iss s) (h0 : s.retry.rttMeasTime = 0) : Timed iss [] false 0 1 [] s :=
  ⟨ConnAt.laid (o := False) h.start, fun _ hl => (List.not_mem_nil hl).elim, fun hne => absurd h0 hne⟩

def seqSample (s : TcpSock) (e : Event) : Option (TcpSock × Segment) :=
  (seenAck s e).filter fun pg => lt pg.1.snd.sndUna pg.2.hdr.ackSeq && !tsEcho pg.1.nego &&
    pg.1.retry.rttMeasTime != 0 && leq pg.1.retry.rttMeasSeq pg.2.hdr.ackSeq

def measuredAt (g : Traced) (p : TcpSock) : ℕ := g.una + (p.retry.rttMeasSeq - p.snd.sndUna).toNat

/-- The first byte of the measured segment is acknowledged now, it went out once, and the sample is the time since
then. -/
structure SampleGood (g : Traced) (p : TcpSock) (ack : Seq) : Prop where
  covered : measuredAt g p < g.una + (ack - p.snd.sndUna).toNat
  once : ∃ l, g.log.filter (·.covers (measuredAt g p)) = [l] ∧ l.start = measuredAt g p ∧
    measuredRtt { p with snd.sndUna := ack } = (p.env.now - l.time) % 2 ^ 32

lemma seqSample_some {e : Event} {p : TcpSock} {g : Segment} (h : seqSample s e = some (p, g)) :
    seenAck s e = some (p, g) ∧ lt p.snd.sndUna g.hdr.ackSeq = true ∧ tsEcho p.nego = false ∧
      p.retry.rttMeasTime ≠ 0 ∧ leq p.retry.rttMeasSeq g.hdr.ackSeq = true := by
  rw [seqSample, Option.filter_eq_some_iff] at h
  obtain ⟨hs, hc⟩ := h
  simp only [Bool.and_eq_true, Bool.not_eq_true', bne_iff_ne] at hc
  exact ⟨hs, hc.1.1.1, hc.1.1.2, hc.1.2, hc.2⟩

/-- From the opening of a connection on, a sample by sequence numbers is good exactly if the acknowledgement is not
the number the measured segment starts with, and that number was not acknowledged before. -/
theorem seq_sample_good_iff {iss : Seq} {s : TcpSock} (h : Opened iss s) (h0 : s.retry.rttMeasTime = 0)
    (es : List Event) {e : Event} {p : TcpSock} {g : Segment} (hs : seqSample (run step s es) e = some (p, g)) :
    SampleGood (run trace { sock := s } es) p g.hdr.ackSeq ↔
      p.retry.rttMeasSeq ≠ g.hdr.ackSeq ∧ lt p.retry.rttMeasSeq p.snd.sndUna = false := by
  obtain ⟨hseen, hlt, hecho, hne, hleq⟩ := seqSample_some hs
  obtain ⟨-, -, hparse, htakes⟩ := seenAck_some hseen
  have hrun : ∃ data fin x, Timed iss data fin (run trace { sock := s } es).una x (run trace { sock := s } es).log
      (run trace { sock := s } es).sock :=
    run_always (I := fun g : Traced => ∃ data fin x, Timed iss data fin g.una x g.log g.sock) (fun g e hg => trace_timed hg e)
      ⟨[], false, 1, h.timed h0⟩ es
  generalize hg : run trace { sock := s } es = t at hrun ⊢
  obtain ⟨data, fin, x, ht⟩ := hrun
  have hsock : t.sock = run step s es := by rw [← hg, run_trace]
  rw [← hsock] at hparse
  -- the state in which the acknowledgement is looked at
  have hp : Timed iss data fin t.una x t.log p := by
    have h₁ : Timed iss data fin t.una x t.log (t.sock.withInputs e.inputs) :=
      ht.sameRtt (ht.toLaid.same rfl ht.wnd ht.scale (.refl _)) ⟨rfl, rfl⟩
    have h₂ := (Reads.timed (.inl rfl) h₁ (g := g)).1
    rw [hparse] at h₂
    exact h₂
  obtain ⟨a, ha, hua, hax⟩ := hp.position (.inr ⟨hlt, (takesUp_iff.mp htakes).2.2.2.2.2⟩)
  obtain ⟨q, n, hq, hqx, huq, hlog⟩ := hp.once hne
  have hfl := hp.flightLe
  rw [ha, hq, leq_label iss (by omega) (by omega)] at hleq
  have hnew : t.una + (g.hdr.ackSeq - p.snd.sndUna).toNat = a := by
    rw [ha, hp.una, label_sub iss hua.le (by omega)]
    omega
  have hcond : (p.retry.rttMeasSeq ≠ g.hdr.ackSeq ∧ lt p.retry.rttMeasSeq p.snd.sndUna = false) ↔
      q < a ∧ t.una ≤ q := by
    rw [ha, hq, hp.una, ne_eq, label_inj iss (by omega) (by omega), ← Bool.not_eq_true,
      lt_label iss (by omega) (by omega)]
    omega
  rw [hcond]
  constructor
  · intro hgood
    have hc := hgood.covered
    rw [hnew, measuredAt, hq, hp.una] at hc
    rcases Nat.lt_or_ge q t.una with hlow | hlow
    · rw [label_sub_neg iss hlow (by omega)] at hc
      omega
    · rw [label_sub iss hlow (by omega)] at hc
      omega
  · rintro ⟨hqa, hlow⟩
    have hat : measuredAt t p = q := by
      rw [measuredAt, hq, hp.una, label_sub iss hlow (by omega)]
      omega
    refine ⟨by rw [hat, hnew]; exact hqa, _, by rw [hat]; exact hlog, hat.symm, ?_⟩
    have hle : leq p.retry.rttMeasSeq g.hdr.ackSeq = true := by
      rw [ha, hq, leq_label iss (by omega) (by omega)]
      exact hleq
    simp only [measuredRtt, hecho, hle, bne_iff_ne.mpr hne, Bool.and_true, Bool.false_eq_true, if_false, if_true]

def synAckArrives : Event := { action := .input (bareSegment (plainHdr 500 1 { syn := true, ack := true })), inputs.now := 1000 }

def tenSentAt (now : ℕ) : List Event :=
  [{ action := .write (List.replicate 10 0) false, inputs.now := now }, { action := .timer, inputs.now := now + 10 }]

def ackedAt (now : ℕ) (ackSeq : Seq) : Event :=
  { action := .input (bareSegment (plainHdr 501 ackSeq { ack := true })), inputs.now := now }

def twoSent : List Event := synAckArrives :: tenSentAt 1001 ++ tenSentAt 1020

def thirdSent : List Event := twoSent ++ ackedAt 1040 11 :: tenSentAt 1050

theorem first_sample_good : ∃ p g, seqSample (run step openSock twoSent) (ackedAt 1040 11) = some (p, g) ∧
    SampleGood (run trace { sock := openSock } twoSent) p g.hdr.ackSeq := by
  have hs : (seqSample (run step openSock twoSent) (ackedAt 1040 11)).map
      (fun pg => (pg.1.retry.rttMeasSeq, pg.1.snd.sndUna, pg.2.hdr.ackSeq)) = some (1, 1, 11) := by
    decide
  obtain ⟨⟨p, g⟩, hpg, he⟩ := Option.map_eq_some_iff.mp hs
  simp only [Prod.mk.injEq] at he
  obtain ⟨hm, hu, ha⟩ := he
  refine ⟨p, g, hpg, (seq_sample_good_iff openSock_opened rfl twoSent hpg).mpr ?_⟩
  rw [hm, hu, ha]
  decide

/-- The acknowledgement of the second ten bytes is taken for a sample of the third, of which it covers nothing: one
millisecond. -/
theorem sample_of_uncovered_segment : ∃ p g, seqSample (run step openSock thirdSent) (ackedAt 1061 21) = some (p, g) ∧
    measuredRtt { p with snd.sndUna := g.hdr.ackSeq } = 1 ∧
    ¬SampleGood (run trace { sock := openSock } thirdSent) p g.hdr.ackSeq := by
  have hs : (seqSample (run step openSock thirdSent) (ackedAt 1061 21)).map (fun pg => (pg.1.retry.rttMeasSeq,
      pg.1.snd.sndUna, pg.2.hdr.ackSeq, measuredRtt { pg.1 with snd.sndUna := pg.2.hdr.ackSeq })) = some (21, 11, 21, 1) := by
    decide
  obtain ⟨⟨p, g⟩, hpg, he⟩ := Option.map_eq_some_iff.mp hs
  simp only [Prod.mk.injEq] at he
  obtain ⟨hm, hu, ha, hr⟩ := he
  refine ⟨p, g, hpg, hr, fun hgood => ?_⟩
  have hc := hgood.covered
  rw [measuredAt, hm, hu, ha] at hc
  exact Nat.lt_irrefl _ hc

end Netfast.Tcp
