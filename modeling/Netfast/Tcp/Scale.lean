import Netfast.Tcp.Wire

/-! Window scaling: what a socket says about it on the wire, and what it remembers of its peer's offer. -/

namespace Netfast.Tcp

open Skbuff

structure Offers (w : WireSeg) : Prop where
  syn : w.flags.syn = true →
    w.flags.rst = false ∧ ∃ mss, w.options = [2, 4] ++ hton16 mss ++ [1, 3, 3, UInt8.ofNat tcpRcvWndScaleDefault]
  plain : w.flags.syn = false → w.options = []

def SynOk (heard : Bool) (f : Flags) : Prop := f.syn = true → f.rst = false ∧ (f.ack = true → heard = true)

lemma synOk_plain {heard : Bool} {f : Flags} (h : f.syn = false) : SynOk heard f := by
  intro hs
  rw [h] at hs
  cases hs

def QueueOk (heard : Bool) (q : List SkBuff) : Prop := ∀ b ∈ q, SynOk heard b.flag

structure Spoken (s : TcpSock) : Prop where
  quiet : s.nego.peerTsOk = false
  wire : ∀ w ∈ s.env.wire, Offers w
  own : s.nego.wndScaleSent = true → s.nego.rcvWndScale = tcpRcvWndScaleDefault
  peer : s.nego.peerWndScaleOk = true → s.nego.sndWndScale = tcpRcvWndScaleDefault
  flight : QueueOk s.nego.peerWndScaleOk s.snd.retransmitQueue
  unsent : QueueOk s.nego.peerWndScaleOk s.snd.sendQueue

structure SameScale (n n' : Nego) : Prop where
  shift : n'.sndWndScale = n.sndWndScale
  own : n'.rcvWndScale = n.rcvWndScale
  sent : n'.wndScaleSent = n.wndScaleSent
  heard : n'.peerWndScaleOk = n.peerWndScaleOk
  ts : n'.peerTsOk = n.peerTsOk

lemma SameScale.refl (n : Nego) : SameScale n n := ⟨rfl, rfl, rfl, rfl, rfl⟩

structure Says (s s' : TcpSock) : Prop where
  spoken : Spoken s'
  heard : s'.nego.peerWndScaleOk = s.nego.peerWndScaleOk
  sent : s.nego.wndScaleSent = true → s'.nego.wndScaleSent = true

def Told (s s' : TcpSock) : Prop := Spoken s → Says s s'

lemma Told.refl (s : TcpSock) : Told s s := fun h => ⟨h, rfl, id⟩

lemma Told.trans {a b c : TcpSock} (h : Told a b) (h' : Told b c) : Told a c := by
  intro ha
  have hb := h ha
  have hc := h' hb.spoken
  exact ⟨hc.spoken, hc.heard.trans hb.heard, fun hs => hc.sent (hb.sent hs)⟩

lemma Told.of_queues {s s' : TcpSock} (hn : SameScale s.nego s'.nego) (hw : s'.env.wire = s.env.wire)
    (hf : QueueOk s.nego.peerWndScaleOk s.snd.retransmitQueue → QueueOk s.nego.peerWndScaleOk s.snd.sendQueue →
      QueueOk s.nego.peerWndScaleOk s'.snd.retransmitQueue ∧ QueueOk s.nego.peerWndScaleOk s'.snd.sendQueue) :
    Told s s' := by
  intro h
  obtain ⟨hflight, hunsent⟩ := hf h.flight h.unsent
  refine ⟨⟨hn.ts.trans h.quiet, by rw [hw]; exact h.wire, ?_, ?_, by rw [hn.heard]; exact hflight,
    by rw [hn.heard]; exact hunsent⟩, hn.heard, fun hs => hn.sent.trans hs⟩
  · rw [hn.sent, hn.own]
    exact h.own
  · rw [hn.heard, hn.shift]
    exact h.peer

lemma Told.of_same {s s' : TcpSock} (hn : SameScale s.nego s'.nego) (hw : s'.env.wire = s.env.wire)
    (hf : s'.snd.retransmitQueue = s.snd.retransmitQueue) (hq : s'.snd.sendQueue = s.snd.sendQueue) : Told s s' := by
  apply Told.of_queues hn hw
  intro h h'
  rw [hf, hq]
  exact ⟨h, h'⟩

lemma Told.of_frame {s s' : TcpSock} (hn : s'.nego = s.nego) (hw : s'.env.wire = s.env.wire) (hs : s'.snd = s.snd) :
    Told s s' :=
  .of_same (hn ▸ .refl _) hw (by rw [hs]) (by rw [hs])

lemma Told.after {s s₁ s' : TcpSock} (h : Told s₁ s') (hn : s₁.nego = s.nego) (hw : s₁.env.wire = s.env.wire)
    (hs : s₁.snd = s.snd) : Told s s' :=
  .trans (.of_frame hn hw hs) h

lemma Spoken.congr {s s' : TcpSock} (h : Spoken s) (hn : s'.nego = s.nego) (hw : s'.env.wire = s.env.wire)
    (hs : s'.snd = s.snd) : Spoken s' :=
  (Told.of_frame hn hw hs h).spoken

variable {s s' : TcpSock} {b : SkBuff}

lemma tcpRetransmitEnqueue_synOk {heard : Bool} {q : List SkBuff} (mss : ℕ) (h : QueueOk heard q)
    (hb : SynOk heard b.flag) : QueueOk heard (tcpRetransmitEnqueue q mss b) := by
  rcases tcpRetransmitEnqueue_cases q mss b with ⟨-, he⟩ | ⟨-, he | ⟨init, last, merged, rfl, -, hl, hm, he⟩⟩ <;> rw [he]
  · exact h
  · exact forall_concat h hb
  · refine forall_concat (fun c hc => h c (List.mem_append_left _ hc)) ?_
    rw [skbAppendSkb] at hm
    split at hm
    · rw [← Option.some.inj hm]
      exact synOk_plain (by rw [hl]; rfl)
    · cases hm

lemma ackQueue_synOk {heard : Bool} (ack : Seq) {q : List SkBuff} (h : QueueOk heard q) :
    QueueOk heard (ackQueue ack q).1 := by
  intro c hc
  rcases mem_ackQueue hc with hc | ⟨b, -, rfl, -⟩
  · exact h c hc
  · exact synOk_plain rfl

lemma skbDataAppend_flag {b b' : SkBuff} {chunk : List UInt8} {pre seg : ℕ} {f f' : Fates}
    (h : skbDataAppend b chunk pre seg f = (some b', f')) : b'.flag = b.flag := by
  simp only [skbDataAppend] at h
  split at h
  · cases h
  split at h
  · cases h
  · cases h
    rfl

variable {heard : Bool} {q : SendState}

lemma writeChunk_synOk {chunk : List UInt8} {segLimit : ℕ} (room : ℕ) (f : Fates) (hfit : chunk.length ≤ segLimit)
    (h : QueueOk heard q.sendQueue) : QueueOk heard (writeChunk q chunk segLimit room f).1.sendQueue := by
  have hw := writeChunk_chunked q room f hfit
  generalize writeChunk q chunk segLimit room f = w at hw ⊢
  cases hw with
  | failed => exact h
  | put hg he =>
    obtain ⟨hinit, hb⟩ := hg.forall h (synOk_plain rfl)
    exact forall_concat hinit (by rw [skbDataAppend_flag he]; exact hb)

lemma QueueOk.append {q r : List SkBuff} (h : QueueOk heard q) (h' : QueueOk heard r) : QueueOk heard (q ++ r) := by
  intro c hc
  rcases List.mem_append.mp hc with hc | hc
  · exact h c hc
  · exact h' c hc

lemma queueOk_single (h : SynOk heard b.flag) : QueueOk heard [b] := by
  intro c hc
  rw [List.mem_singleton.mp hc]
  exact h

lemma makeTcpOptions_offers {n : Nego} {flags : Flags} (hts : n.peerTsOk = false) (hok : SynOk n.peerWndScaleOk flags)
    (now : ℕ) {w : WireSeg} (hf : w.flags = flags) (ho : w.options = (makeTcpOptions n now flags).1) : Offers w := by
  constructor
  · intro hs
    rw [hf] at hs
    have hscale : tcpShouldSendWindowScale n flags = true := by
      rw [tcpShouldSendWindowScale, hs]
      cases ha : flags.ack with
      | false => rfl
      | true => exact (hok hs).2 ha
    refine ⟨by rw [hf]; exact (hok hs).1, n.rcvMss, ?_⟩
    rw [ho, makeTcpOptions]
    simp only [hscale, hs, hts, if_true, Bool.false_eq_true, if_false, List.append_nil]
    rfl
  · intro hs
    rw [hf] at hs
    rw [ho, makeTcpOptions]
    simp [hs, hts]

lemma options_told (s : TcpSock) (now : ℕ) (flags : Flags) :
    Told s { s with nego := (makeTcpOptions s.nego now flags).2 } := by
  intro h
  rw [makeTcpOptions]
  dsimp only
  split
  · exact ⟨⟨h.quiet, h.wire, fun _ => rfl, h.peer, h.flight, h.unsent⟩, rfl, fun _ => rfl⟩
  · exact ⟨h, rfl, id⟩

lemma emitted_told (s : TcpSock) (seq ack : Seq) {flags : Flags} (payload : List UInt8)
    (h : SynOk s.nego.peerWndScaleOk flags) : Told s (emitted s seq ack flags payload) := by
  intro hs
  have hn := options_told s s.env.now flags hs
  refine ⟨⟨hn.spoken.quiet, ?_, hn.spoken.own, hn.spoken.peer, hn.spoken.flight, hn.spoken.unsent⟩, hn.heard, hn.sent⟩
  intro w hw
  rcases List.mem_append.mp hw with hw | hw
  · exact hs.wire w hw
  · rw [List.mem_singleton.mp hw]
    exact makeTcpOptions_offers hs.quiet h s.env.now rfl rfl

lemma emittedCopy_told (s : TcpSock) (budget : ℕ) (push : Bool) (h : SynOk s.nego.peerWndScaleOk b.flag) :
    Told s (emittedCopy s b budget push) := by
  have hc : SynOk s.nego.peerWndScaleOk (sendClone b budget push).flag := h
  exact emitted_told s _ _ _ hc

lemma SameView.told (h : SameView s s') : Told s s' := .of_frame h.nego h.wire h.snd

lemma Beside.told (h : Beside s s') : Told s s' := h.toSameView.told

lemma launched_told (s : TcpSock) {rest : List SkBuff} (hq : s.snd.sendQueue = b :: rest) (n : ℕ)
    (sendFin push : Bool) : Told s (launched s b rest n sendFin push) := by
  intro hs
  have hunsent := hs.unsent
  rw [hq] at hunsent
  have hb := hunsent b List.mem_cons_self
  have hcopy := emittedCopy_told s n push hb
  refine hcopy.trans (.of_queues (.refl _) rfl fun hf _ => ⟨?_, fun c hc => ?_⟩) hs
  · exact tcpRetransmitEnqueue_synOk _ hf (by rw [(hcopy hs).heard]; exact hb)
  · rw [(hcopy hs).heard]
    exact hunsent c (List.mem_cons_of_mem b hc)

lemma Parts.synOk {b head tail : SkBuff} (h : Parts b head tail) (hb : SynOk heard b.flag) :
    SynOk heard head.flag ∧ SynOk heard tail.flag := by
  rw [h.headFlag, h.tailFlag]
  exact ⟨hb, hb⟩

lemma Move.told (h : Move s s') : Told s s' := by
  cases h with
  | beside h => exact h.told
  | unrouted | faulted => exact .of_frame rfl rfl rfl
  | routed h => exact .of_same ⟨rfl, rfl, rfl, rfl, rfl⟩ rfl rfl rfl
  | offered flags => exact options_told s s.env.now flags
  | bare seq ack h => exact emitted_told s seq ack [] (synOk_plain h.1)
  | resent h budget =>
    intro hs
    exact (emittedCopy_told s budget false (hs.flight _ h)).trans (.of_frame rfl rfl rfl) hs
  | sent hq _ _ _ push => exact launched_told s hq _ _ push
  | @cut b head tail rest hq h =>
    refine .of_queues (.refl _) rfl fun hf hu => ⟨hf, fun c hc => ?_⟩
    rw [hq] at hu
    obtain ⟨hhead, htail⟩ := h.synOk (hu b List.mem_cons_self)
    rcases List.mem_cons.mp hc with rfl | hc
    · exact hhead
    rcases List.mem_cons.mp hc with rfl | hc
    · exact htail
    · exact hu c (List.mem_cons_of_mem b hc)
  | sampled v => exact .of_same ⟨rfl, rfl, rfl, rfl, rfl⟩ rfl rfl rfl
  | finLast _ _ h =>
    refine .of_queues (.refl _) rfl fun hf hu => ⟨hf, ?_⟩
    have hlast := hu _ (List.mem_of_mem_getLast? h)
    exact QueueOk.append (fun c hc => hu c (List.mem_of_mem_dropLast hc)) (queueOk_single hlast)
  | finAlone _ _ _ room => exact .of_queues (.refl _) rfl fun hf _ => ⟨hf, queueOk_single (synOk_plain rfl)⟩
  | resized v => exact .of_same (.refl _) rfl rfl rfl

lemma Moves.told (h : Moves s s') : Told s s' := by
  induction h with
  | refl => exact .refl s
  | tail _ hm ih => exact ih.trans hm.told

lemma Taken.told (h : Taken s s') : Told s s' := by
  cases h with
  | same h => exact h.told
  | acked ack v t h =>
    refine Told.trans ?_ h.told
    exact .of_queues ⟨rfl, rfl, rfl, rfl, rfl⟩ rfl fun hf hu => ⟨ackQueue_synOk _ hf, hu⟩

lemma Wrote.told (h : Wrote s s') : Told s s' := by
  cases h with
  | @chunk _ bs hc hl _ room f =>
    obtain ⟨r, e, m, he, -⟩ := writeChunk_frame s.snd room f hl
    refine .of_queues (.refl _) rfl fun hf hu => ⟨?_, writeChunk_synOk room f hl hu⟩
    rw [he]
    exact hf

lemma Writes.told (h : Writes s s') : Told s s' := by
  cases h with
  | idle h => exact h.told
  | queued hr hw h =>
    have ht := (setTcpSocketRoute_moves s).told
    rw [hr] at ht
    refine Told.trans ?_ h.told
    clear h
    induction hw with
    | refl => exact ht
    | tail _ hm ih => exact ih.trans hm.told

lemma tcpSendFlag_told (s : TcpSock) (seq ack : Seq) {flag : Flags} (h : SynOk s.nego.peerWndScaleOk flag) :
    Told s (tcpSendFlag s seq ack flag).1 := by
  have hsubmit (t : TcpSock) (ht : t.nego = s.nego) : Told t (submit t seq ack flag [] true).1 := by
    rcases submit_moves t seq ack flag [] true with ⟨-, hb⟩ | ⟨-, hb⟩
    · exact (options_told t t.env.now flag).trans hb.told
    · exact (emitted_told t seq ack [] (ht ▸ h)).trans hb.told
  rw [tcpSendFlag.eq_def]
  split
  · exact .of_frame rfl rfl rfl
  split
  · exact .of_frame rfl rfl rfl
  split
  · split
    · exact .of_frame rfl rfl rfl
    · refine Told.trans ?_ (hsubmit _ rfl)
      exact .of_queues (.refl _) rfl fun hf hq => ⟨hf.append (queueOk_single h), hq⟩
  · next f _ _ => exact (hsubmit { s with env.fates := f } rfl).after rfl rfl rfl

def Halts (s s' : TcpSock) : Prop :=
  s.core.state = .closed ∨ s.core.state = .synSent → s'.core.state = s.core.state ∨ s'.core.state = .closed

lemma Halts.of_eq (h : s'.core.state = s.core.state) : Halts s s' := fun _ => .inl h

lemma Halts.trans {a b c : TcpSock} (h : Halts a b) (h' : Halts b c) : Halts a c := by
  intro ha
  rcases h ha with hb | hb
  · have hc := h' (by rw [hb]; exact ha)
    rwa [hb] at hc
  · rcases h' (.inl hb) with hc | hc
    · exact .inr (hc.trans hb)
    · exact .inr hc

lemma Halts.after {s s₁ s' : TcpSock} (h : Halts s₁ s') (hc : s₁.core.state = s.core.state) : Halts s s' :=
  .trans (.of_eq hc) h

lemma Away.halts {ends : Prop} (h : Away ends s s') : Halts s s' := by
  intro hst
  rcases h.state with hs | hs | ⟨-, hs⟩
  · exact .inl hs
  · left
    rw [hs]
    rcases hst with hst | hst
    · rw [hst]
      rfl
    · rw [hst]
      rfl
  · exact .inr hs

lemma Halts.of_keeps (h : Keeps s s') : Halts s s' := .of_eq (by rw [h.core])

lemma act_halts (s : TcpSock) {a : Action} (h : a.segment? = none) : Halts s (act s a) := by
  cases a with
  | input g => cases h
  | timer => exact (tcpTimerCb_away _).halts.after rfl
  | accept => exact .of_eq rfl
  | write buf expired => exact (tcpWrite_spares s buf expired).halts
  | read len expired =>
    obtain ⟨er, r, t, he⟩ := tcpRead_frame s len expired
    simp only [act, he]
    exact .of_eq rfl
  | shutdown how => exact (tcpShutdown_spares s how).halts
  | setsockopt o => exact .of_eq (tcpSetsockopt_state s o)
  | close => exact (closeFd_spares s).halts
  | icmp quoted err => exact (tcpIcmpProcess_spares s quoted err).halts

structure Calls (s s' : TcpSock) : Prop where
  told : Told s s'
  halts : Halts s s'

lemma Calls.refl (s : TcpSock) : Calls s s := ⟨.refl s, .of_eq rfl⟩

lemma Calls.trans {a b c : TcpSock} (h : Calls a b) (h' : Calls b c) : Calls a c :=
  ⟨h.told.trans h'.told, h.halts.trans h'.halts⟩

lemma Calls.of_frame (hn : s'.nego = s.nego) (hw : s'.env.wire = s.env.wire) (hs : s'.snd = s.snd)
    (hc : s'.core.state = s.core.state) : Calls s s' :=
  ⟨.of_frame hn hw hs, .of_eq hc⟩

lemma act_calls (s : TcpSock) {a : Action} (h : a.segment? = none) : Calls s (act s a) :=
  ⟨(act_writes s h).told, act_halts s h⟩

lemma tcpSendFlag_calls (s : TcpSock) (seq ack : Seq) {flag : Flags} (h : flag.syn = false) :
    Calls s (tcpSendFlag s seq ack flag).1 :=
  ⟨tcpSendFlag_told s seq ack (synOk_plain h), .of_keeps (tcpSendFlag_keeps s seq ack flag h)⟩

end Netfast.Tcp
