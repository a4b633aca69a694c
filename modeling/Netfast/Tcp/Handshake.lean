import Netfast.Tcp.SendRun
import Netfast.Tcp.Wire

/-! What a connection sends before it is established. -/

namespace Netfast.Tcp

open Serial Skbuff Run

variable {s s' : TcpSock}

/-- The segment carries neither text nor FIN. -/
def Control (w : WireSeg) : Prop := w.payload = [] ∧ w.flags.fin = false

structure Unsent (q : SendState) : Prop where
  head : ∀ b, q.sendQueue.head? = some b → b.seq = q.sndNxt
  none : q.sendQueue = [] → q.sndEnd = q.sndNxt
  owns : ∀ b ∈ q.sendQueue, b.ownsSlot

structure Grown (q q' : SendState) (more : List UInt8) : Prop where
  flight : q'.retransmitQueue = q.retransmitQueue
  una : q'.sndUna = q.sndUna
  nxt : q'.sndNxt = q.sndNxt
  bytes : queueBytes q'.sendQueue = queueBytes q.sendQueue ++ more
  unsent : Unsent q'

lemma Grown.refl {q : SendState} (h : Unsent q) : Grown q q [] := ⟨rfl, rfl, rfl, (List.append_nil _).symm, h⟩

lemma Grown.trans {a b c : SendState} {xs ys : List UInt8} (h : Grown a b xs) (h' : Grown b c ys) :
    Grown a c (xs ++ ys) :=
  ⟨h'.flight.trans h.flight, h'.una.trans h.una, h'.nxt.trans h.nxt, by rw [h'.bytes, h.bytes, List.append_assoc], h'.unsent⟩

variable {q : SendState} {chunk : List UInt8} {segLimit : ℕ}

lemma writeChunk_grown (room : ℕ) (f : Fates) (hu : Unsent q) (hfit : chunk.length ≤ segLimit) :
    ∃ more, more.length ≤ chunk.length ∧ Grown q (writeChunk q chunk segLimit room f).1 more ∧
      (q.sendQueue.length ≤ 1 → (queueBytes q.sendQueue).length + chunk.length ≤ segLimit →
        (writeChunk q chunk segLimit room f).1.sendQueue.length ≤ 1) := by
  have hw := writeChunk_chunked q room f hfit
  generalize writeChunk q chunk segLimit room f = w at hw ⊢
  cases hw with
  | failed => exact ⟨[], Nat.zero_le _, .refl hu, fun h _ => h⟩
  | @put init b b' f f' hg he =>
    obtain ⟨hinit, hown⟩ := hg.forall hu.owns (List.cons_ne_nil _ _)
    obtain ⟨hp, hseq, -, hown'⟩ := skbDataAppend_spec hown he
    have hhead : ∀ c, (init ++ [b]).head? = some c → c.seq = q.sndNxt := by
      cases hg with
      | last hq =>
        rw [← hq]
        exact hu.head
      | fresh =>
        cases hq : q.sendQueue with
        | nil =>
          rintro c ⟨⟩
          exact hu.none hq
        | cons a rest =>
          rintro c ⟨⟩
          exact hu.head a (by rw [hq]; rfl)
    refine ⟨chunk, le_rfl, ⟨rfl, rfl, rfl, by simp [hg.bytes, hp], fun c hc => ?_, by simp, forall_concat hinit hown'⟩,
      fun hlen hle => ?_⟩
    · cases init with
      | nil =>
        rw [← Option.some.inj hc, hseq]
        exact hhead b rfl
      | cons => exact hhead c hc
    · cases hg with
      | last hq => simpa [hq] using hlen
      | fresh h =>
        rcases q.sendQueue.eq_nil_or_concat with hq | ⟨init, last, hq⟩
        · simp [hq]
        · have hbig := h last (by simp [hq])
          simp only [hq, List.concat_eq_append, queueBytes_append, List.length_append, queueBytes_cons] at hle
          rw [skbDataLen] at hbig
          omega

lemma writeLoop_grown (segLimit room k : ℕ) (bs : List UInt8) (n : ℕ) (f : Fates) (hu : Unsent q) :
    ∃ more, more.length ≤ bs.length ∧ Grown q (writeLoop segLimit room k bs q n f).1 more ∧
      (q.sendQueue.length ≤ 1 → (queueBytes q.sendQueue).length + bs.length ≤ segLimit →
        (writeLoop segLimit room k bs q n f).1.sendQueue.length ≤ 1) := by
  induction k generalizing bs q n f with
  | zero => exact ⟨[], Nat.zero_le _, .refl hu, fun h _ => h⟩
  | succ k ih =>
    cases bs with
    | nil => exact ⟨[], Nat.zero_le _, .refl hu, fun h _ => h⟩
    | cons b bs =>
      have htake : ((b :: bs).take segLimit).length = min segLimit (b :: bs).length := List.length_take
      obtain ⟨more, hm, hg, hlen⟩ := writeChunk_grown room f hu (htake ▸ Nat.min_le_left _ _)
      simp only [writeLoop]
      split
      · next q' f' he =>
        rw [he] at hg hlen
        exact ⟨more, by omega, hg, fun h hle => hlen h (by omega)⟩
      · next q' f' he =>
        rw [he] at hg hlen
        obtain ⟨more', hm', hg', hlen'⟩ := ih ((b :: bs).drop segLimit) (n + min segLimit (bs.length + 1)) f' hg.unsent
        rw [List.length_drop] at hm' hlen'
        have hb := congrArg List.length hg.bytes
        rw [List.length_append] at hb
        refine ⟨more ++ more', by rw [List.length_append]; omega, hg.trans hg', fun h hle => ?_⟩
        have hb' : (queueBytes q'.sendQueue).length = (queueBytes q.sendQueue).length + more.length := hb
        exact hlen' (hlen h (by omega)) (show (queueBytes q'.sendQueue).length + _ ≤ _ by omega)

structure Held (s : TcpSock) : Prop where
  syn : ∀ b ∈ s.snd.retransmitQueue, b.payload = [] ∧ b.flag.fin = false
  unsent : Unsent s.snd
  orphan : s.snd.retransmitQueue = [] →
    s.snd.sendQueue = [] ∧ s.core.fdEntry = false ∧ s.core.state = .synReceived

lemma Held.head (h : Held s) {o : Option SkBuff} (ho : s.snd.retransmitQueue.head? = o) :
    ∀ b, o = some b → b.payload = [] ∧ b.flag.fin = false := by
  rintro b rfl
  exact h.syn b (List.mem_of_mem_head? ho)

structure Gates (s s' : TcpSock) : Prop where
  emits : Emits Control s s'
  bytes : queueBytes s.snd.sendQueue <+: queueBytes s'.snd.sendQueue
  held : s'.core.state.opening = true → Held s'

structure SameQueues (q q' : SendState) : Prop where
  flight : q'.retransmitQueue = q.retransmitQueue
  queue : q'.sendQueue = q.sendQueue
  nxt : q'.sndNxt = q.sndNxt
  sndEnd : q'.sndEnd = q.sndEnd

lemma SameQueues.of_eq {q q' : SendState} (h : q' = q) : SameQueues q q' := by
  rw [h]
  exact ⟨rfl, rfl, rfl, rfl⟩

structure Idle (s s' : TcpSock) : Prop where
  emits : Emits Control s s'
  snd : SameQueues s.snd s'.snd
  fd : s'.core.state.opening = true → s'.core.fdEntry = s.core.fdEntry
  state : Settles s s'

lemma Idle.refl (s : TcpSock) : Idle s s := ⟨.of_eq rfl, .of_eq rfl, fun _ => rfl, .of_eq rfl⟩

lemma Idle.of_frame (hw : s'.env.wire = s.env.wire) (hsnd : s'.snd = s.snd) (hc : s'.core = s.core) : Idle s s' :=
  ⟨.of_eq hw, .of_eq hsnd, fun _ => by rw [hc], .of_eq (by rw [hc])⟩

lemma Idle.of_keeps (h : Keeps s s') (hw : Emits Control s s') : Idle s s' :=
  ⟨hw, .of_eq h.snd, fun _ => by rw [h.core], .of_eq (by rw [h.core])⟩

lemma Idle.ended (hw : s'.env.wire = s.env.wire) (hsnd : s'.snd = s.snd) (hs : s'.core.state.opening = false) :
    Idle s s' :=
  ⟨.of_eq hw, .of_eq hsnd, fun h => (by rw [hs] at h; cases h), Or.inr hs⟩

lemma Idle.after {s₁ : TcpSock} (h : Idle s₁ s') (hw : s₁.env.wire = s.env.wire) (hsnd : s₁.snd = s.snd)
    (hc : s₁.core = s.core) : Idle s s' :=
  ⟨.trans (.of_eq hw) h.emits, hsnd ▸ h.snd, fun hs => (h.fd hs).trans (by rw [hc]),
    .trans (.of_eq (by rw [hc])) h.state⟩

lemma Idle.held (h : Idle s s') (hh : Held s) (hs : s'.core.state.opening = true) : Held s' := by
  have hst : s'.core.state = s.core.state := by
    rcases h.state with he | he
    · exact he
    · rw [he] at hs
      cases hs
  refine ⟨?_, ⟨?_, ?_, ?_⟩, ?_⟩
  · rw [h.snd.flight]
    exact hh.syn
  · rw [h.snd.queue, h.snd.nxt]
    exact hh.unsent.head
  · rw [h.snd.queue, h.snd.sndEnd, h.snd.nxt]
    exact hh.unsent.none
  · rw [h.snd.queue]
    exact hh.unsent.owns
  · rw [h.snd.flight, h.snd.queue, h.fd hs, hst]
    exact hh.orphan

lemma Idle.gates (h : Idle s s') (hh : Held s) : Gates s s' :=
  ⟨h.emits, by rw [h.snd.queue], h.held hh⟩

lemma Gates.after {s₁ : TcpSock} (h : Gates s₁ s') (hw : s₁.env.wire = s.env.wire) (hsnd : s₁.snd = s.snd) :
    Gates s s' :=
  ⟨.trans (.of_eq hw) h.emits, by rw [← hsnd]; exact h.bytes, h.held⟩

lemma Gates.over (hw : s'.env.wire = s.env.wire) (hq : s'.snd.sendQueue = s.snd.sendQueue)
    (hs : s'.core.state.opening = false) : Gates s s' :=
  ⟨.of_eq hw, by rw [hq], fun h => (by rw [hs] at h; cases h)⟩

lemma tcpSendFlag_idle (s : TcpSock) (seq ack : Seq) (flag : Flags) (hsyn : flag.syn = false)
    (hfin : flag.fin = false) : Idle s (tcpSendFlag s seq ack flag).1 := by
  refine .of_keeps (tcpSendFlag_keeps s seq ack flag hsyn) (tcpSendFlag_emits s seq ack flag ?_)
  rintro w rfl hp
  exact ⟨hp, hfin⟩

lemma tcpRetransmitSkb_idle (b : Option SkBuff) (probe : Bool)
    (h : ∀ a, b = some a → a.payload = [] ∧ a.flag.fin = false) : Idle s (tcpRetransmitSkb s b probe).1 := by
  refine .of_keeps (tcpRetransmitSkb_keeps s b probe) (tcpRetransmitSkb_emits s b probe ?_)
  intro a ha w _ hfin hpay
  obtain ⟨hp, hf⟩ := h a ha
  rw [hp] at hpay
  refine ⟨List.prefix_nil.mp hpay, ?_⟩
  cases hw : w.flags.fin with
  | false => rfl
  | true =>
    have := hfin hw
    rw [hf] at this
    cases this

lemma destroyTcpSocket_idle (hw : s'.env.wire = s.env.wire) (hsnd : s'.snd = s.snd) :
    Idle s (destroyTcpSocket s') := by
  obtain ⟨fr, no, he⟩ := destroyTcpSocket_frame s'
  rw [he]
  exact .ended hw hsnd rfl

lemma Held.of_flight (hh : Held s) (hq : s.snd.retransmitQueue ≠ []) (hsnd : s'.snd = s.snd) : Held s' :=
  ⟨hsnd ▸ hh.syn, hsnd ▸ hh.unsent, fun h => absurd (hsnd ▸ h) hq⟩

lemma Gates.of_flight (hh : Held s) (hq : s.snd.retransmitQueue ≠ []) (hw : s'.env.wire = s.env.wire)
    (hsnd : s'.snd = s.snd) : Gates s s' :=
  ⟨.of_eq hw, by rw [hsnd], fun _ => hh.of_flight hq hsnd⟩

lemma synSentSyn_gates (hh : Held s) (hq : s.snd.retransmitQueue ≠ []) (hdr : TcpHdr) :
    Gates s (synSentSyn s hdr) := by
  obtain ⟨w, re, t, -, ⟨-, no, he⟩ | ⟨-, hn, -⟩ | ⟨-, b, bs, hb, he⟩⟩ := synSentSyn_cases s hdr
  · rw [he]
    exact .over rfl rfl rfl
  · exact absurd hn hq
  · have hsyn := hh.syn
    rw [hb, List.forall_mem_cons] at hsyn
    rw [he]
    refine ⟨.of_eq rfl, List.prefix_refl _, fun _ => ⟨?_, ⟨hh.unsent.head, hh.unsent.none, hh.unsent.owns⟩, ?_⟩⟩
    · exact List.forall_mem_cons.mpr hsyn
    · intro h
      cases h

-- a reset closes the socket, its options are still parsed and its SYN still processed
lemma tcpProcessSynSent_gates (hh : Held s) (hs : s.core.state = .synSent) (hdr : TcpHdr) :
    Gates s (tcpProcessSynSent s hdr) := by
  have hq : s.snd.retransmitQueue ≠ [] := by
    intro hq
    have ho := (hh.orphan hq).2.2
    rw [hs] at ho
    cases ho
  rcases tcpProcessSynSent_cases s hdr with ⟨-, he | ⟨-, he⟩⟩ | ⟨-, s₁, hs₁, he⟩
  · rw [he]
    exact (Idle.refl s).gates hh
  · rw [he]
    exact (tcpSendFlag_idle s _ _ _ rfl rfl).gates hh
  have hd : s₁.env.wire = s.env.wire ∧ s₁.snd = s.snd := by
    rcases hs₁ with ⟨rfl, -⟩ | ⟨-, -, fr, no, rfl⟩ <;> exact ⟨rfl, rfl⟩
  obtain ⟨hw, hsnd⟩ := hd
  obtain ⟨c, hp, -⟩ := parseTcpOptions_frame s₁ hdr
  rw [hp] at he
  rcases he with he | ⟨-, he⟩ | ⟨-, he⟩ <;> rw [he]
  · exact .of_flight hh hq hw hsnd
  · exact .of_flight hh hq hw hsnd
  · have h₂ : Held { s₁ with nego := (parsedOptions s₁ hdr).1, cong := c } := hh.of_flight hq hsnd
    refine (synSentSyn_gates h₂ ?_ hdr).after hw hsnd
    rw [show ({ s₁ with nego := (parsedOptions s₁ hdr).1, cong := c } : TcpSock).snd = s.snd from hsnd]
    exact hq

lemma inputRst_idle (s : TcpSock) : Idle s (inputRst s) := by
  rcases inputRst_cases s with he | ⟨er, he⟩ <;> rw [he]
  · exact .refl s
  · exact destroyTcpSocket_idle rfl rfl

lemma inputFin_fd (s : TcpSock) (g : Segment) : (inputFin s g).core.fdEntry = s.core.fdEntry := by
  have hfin (t : TcpSock) : (finState t).core.fdEntry = t.core.fdEntry := by
    obtain ⟨st, tm, no, he⟩ := finState_frame t
    rw [he]
  have hlast (t : TcpSock) : (if t.core.state = .established then restartKeepalive t else t).core = t.core := by
    obtain ⟨re, tm, he⟩ := restartKeepalive_frame t
    split
    · rw [he]
    · rfl
  simp only [inputFin]
  split
  · rfl
  split
  · rfl
  rw [hlast]
  split
  · exact hfin _
  · rfl

lemma afterAck_idle (s : TcpSock) (b : Bool) (g : Segment) : Idle s (if b then s else inputFin (inputText s g) g) := by
  have hb := afterAck_beside s b g
  refine ⟨.of_eq hb.wire, .of_eq hb.snd, fun _ => ?_, hb.core.settles⟩
  split
  · rfl
  rw [inputFin_fd]
  simp only [inputText]
  split
  · split
    · rfl
    · split <;> rfl
  · rfl

lemma inputSynchronized_gates (hh : Held s) (hs : s.core.state = .synReceived) (g : Segment) :
    Gates s (inputSynchronized s g) := by
  have hnow : Idle s s.ackNow := .of_frame rfl rfl rfl
  have hrest {s₁ : TcpSock} (b : Bool) (hg : Gates s s₁) :
      Gates s (if b then s₁ else inputFin (inputText s₁ g) g) := by
    have hi := afterAck_idle s₁ b g
    refine ⟨hg.emits.trans hi.emits, by rw [hi.snd.queue]; exact hg.bytes, fun h => hi.held (hg.held ?_) h⟩
    exact (afterAck_beside s₁ b g).core.opening h
  rcases inputSynchronized_cases s g with he | he | he | he | ⟨-, he⟩ <;> rw [he]
  · exact hnow.gates hh
  · exact (inputRst_idle s).gates hh
  · rw [inputSyn]
    split
    · exact (destroyTcpSocket_idle rfl rfl).gates hh
    · exact hnow.gates hh
  · exact (Idle.refl s).gates hh
  · apply hrest
    simp only [inputAck, hs]
    rcases ackSynReceived_spec s g.hdr with ⟨-, -, w, re, t, no, he, -⟩ | ⟨-, he⟩ | he <;> rw [he]
    · exact .over rfl rfl rfl
    · exact (tcpSendFlag_idle s _ _ _ rfl rfl).gates hh
    · exact (Idle.refl s).gates hh

lemma tcpInput_gates (hh : Held s) (hs : s.core.state.opening = true) (g : Segment) : Gates s (tcpInput s g) := by
  obtain ⟨c, hp, -⟩ := parseTcpOptions_frame s g.hdr
  have hi : Idle s (parseTcpOptions s g.hdr).1 := by
    rw [hp]
    exact .of_frame rfl rfl rfl
  rcases tcpInput_cases s g with ⟨hst, he⟩ | ⟨hst, -⟩ | ⟨⟨-, -, hst⟩, ⟨-, he⟩ | ⟨-, he⟩⟩
  · rw [he]
    exact tcpProcessSynSent_gates hh hst g.hdr
  · rcases hst with hst | hst <;> rw [hst] at hs <;> cases hs
  · rw [he]
    exact hi.gates hh
  · rw [hp] at hi he
    rw [he]
    exact (inputSynchronized_gates (hi.held hh hs) ((opening_cases hs).resolve_left hst) g).after rfl rfl

lemma retransmitTimeout_idle (hh : Held s) (hs : s.core.state.opening = true) : Idle s (retransmitTimeout s) := by
  simp only [retransmitTimeout, if_pos (opening_cases hs)]
  split
  · exact .refl s
  split
  · exact destroyTcpSocket_idle rfl rfl
  · exact .after (tcpRetransmitSkb_idle _ false (hh.head rfl)) rfl rfl rfl

lemma persistTimeout_idle (hh : Held s) : Idle s (persistTimeout s) := by
  simp only [persistTimeout]
  split
  · next hq =>
    split
    · exact destroyTcpSocket_idle rfl rfl
    · simp only [tcpSendProbe]
      split
      · next b bs hb => exact .after (tcpRetransmitSkb_idle _ true (hh.head (by rw [hb]; rfl))) rfl rfl rfl
      · next hn =>
        rcases hq.2 with hne | hne
        · exact absurd hn hne
        · exact absurd (hh.orphan hn).1 hne
  · exact .refl s

lemma tcpTimerCb_idle (hh : Held s) (hs : s.core.state.opening = true)
    (h : s.due .nagle = true → HeadShut s) : Idle s (tcpTimerCb s) := by
  have hc (d : Deadline) : Idle s (s.clearDeadline d) := .of_frame rfl rfl rfl
  have hdestroy (d : Deadline) : Idle s (destroyTcpSocket (s.clearDeadline d)) := destroyTcpSocket_idle rfl rfl
  simp only [tcpTimerCb]
  split
  · next hd =>
    split
    · exact hc .nagle
    · obtain ⟨t, ht⟩ := tcpWriteXmit_shut (s := s.clearDeadline .nagle) true (h hd)
      rw [ht]
      exact .of_frame rfl rfl rfl
  split
  · exact (retransmitTimeout_idle ((hc .retransmit).held hh hs) hs).after rfl rfl rfl
  split
  · exact (tcpSendFlag_idle (s.clearDeadline .ack) _ _ .ackOnly rfl rfl).after rfl rfl rfl
  split
  · exact (persistTimeout_idle ((hc .persist).held hh hs)).after rfl rfl rfl
  split
  · exact hdestroy .timewait
  split
  · split
    · exact hdestroy .finwait2
    · exact hc .finwait2
  split
  · simp only [keepaliveTimeout]
    rw [if_pos]
    · exact .of_frame rfl rfl rfl
    · rw [show (s.clearDeadline .keepalive).core = s.core from rfl]
      rcases opening_cases hs with hst | hst
      · simp [hst]
      · simp [hst]
  · exact .refl s

def WindowShut (s : TcpSock) : Prop := s.winMin = 0 ∨ geq s.snd.sndNxt (windowEnd s) = true
deriving Decidable

def FillsSegment (s : TcpSock) (buf : List UInt8) : Prop :=
  1 < s.snd.sendQueue.length ∨
    tcpDataMss s.nego ≤ (queueBytes s.snd.sendQueue).length +
      min (s.snd.sendBufferLenMax - s.snd.sendBufferLen) buf.length
deriving Decidable

lemma writeQueued_idle (segLimit n : ℕ) (h : s.snd.sendQueue.length ≤ 1 ∧
    (queueBytes s.snd.sendQueue).length < segLimit ∨ HeadShut s) : Idle s (writeQueued s segLimit n).1 := by
  simp only [writeQueued]
  split
  · exact .refl s
  split
  · next hx =>
    rcases h with ⟨hlen, hfit⟩ | hshut
    · rw [Bool.or_eq_true, decide_eq_true_eq] at hx
      rcases hx with hx | hx
      · cases hq : s.snd.sendQueue with
        | nil =>
          rw [hq] at hx
          cases hx
        | cons b rest =>
          rw [hq] at hx hfit
          simp only [List.head?_cons, Option.any_some, decide_eq_true_eq] at hx
          simp only [queueBytes, List.flatMap_cons, List.length_append] at hfit
          rw [skbDataLen] at hx
          omega
      · omega
    · obtain ⟨t, ht⟩ := tcpWriteXmit_shut false hshut
      rw [ht]
      exact .of_frame rfl rfl rfl
  · exact .of_frame rfl rfl rfl

lemma writeBytes_gates (hh : Held s) (hq : s.snd.retransmitQueue ≠ []) (r : Route) (buf : List UInt8)
    (h : FillsSegment s buf → WindowShut s) : Gates s (writeBytes s r buf).1 := by
  simp only [writeBytes]
  split
  · exact .of_flight hh hq rfl rfl
  split
  · exact .of_flight hh hq rfl rfl
  obtain ⟨more, hm, hg, hlen⟩ := writeLoop_grown (tcpDataMss s.nego) (headerRoom s r)
    (buf.take (s.snd.sendBufferLenMax - s.snd.sendBufferLen)).length
    (buf.take (s.snd.sendBufferLenMax - s.snd.sendBufferLen)) 0 s.env.fates hh.unsent
  revert hg hlen
  generalize writeLoop (tcpDataMss s.nego) (headerRoom s r)
    (buf.take (s.snd.sendBufferLenMax - s.snd.sendBufferLen)).length
    (buf.take (s.snd.sendBufferLenMax - s.snd.sendBufferLen)) s.snd 0 s.env.fates = w
  intro hg hlen
  rw [List.length_take] at hm hlen
  have hb := congrArg List.length hg.bytes
  rw [List.length_append] at hb
  let s₁ : TcpSock := { s with snd := w.1, env.fates := w.2.2 }
  have hfull : s₁.snd.sendQueue.length ≤ 1 ∧ (queueBytes s₁.snd.sendQueue).length < tcpDataMss s.nego ∨
      HeadShut s₁ := by
    by_cases hf : FillsSegment s buf
    · right
      intro b hb
      have hend : windowEnd s₁ = windowEnd s := by
        rw [windowEnd, windowEnd, show s₁.snd.sndUna = s.snd.sndUna from hg.una]
        rfl
      rw [hg.unsent.head b hb, hg.nxt, hend]
      exact h hf
    · left
      rw [FillsSegment, not_or, Nat.not_lt, Nat.not_le] at hf
      exact ⟨hlen hf.1 (by omega), show (queueBytes w.1.sendQueue).length < _ by omega⟩
  have hh₁ : Held s₁ := by
    refine ⟨?_, hg.unsent, fun hn => absurd ?_ hq⟩
    · rw [show s₁.snd.retransmitQueue = s.snd.retransmitQueue from hg.flight]
      exact hh.syn
    · rw [← hg.flight]
      exact hn
  have hw := (writeQueued_idle (tcpDataMss s.nego) w.2.1 hfull).gates hh₁
  refine ⟨.trans (.of_eq rfl) hw.emits, .trans ?_ hw.bytes, hw.held⟩
  rw [show s₁.snd = w.1 from rfl, hg.bytes]
  exact List.prefix_append _ _

lemma writeOnRoute_gates (hh : Held s) (hq : s.snd.retransmitQueue ≠ []) (buf : List UInt8)
    (h : FillsSegment (setTcpSocketRoute s).1 buf → WindowShut (setTcpSocketRoute s).1) :
    Gates s (writeOnRoute s buf).1 := by
  obtain ⟨ro, n, c, re, f, as, hr, -⟩ := setTcpSocketRoute_frame s
  have hw : (setTcpSocketRoute s).1.env.wire = s.env.wire := by rw [hr]
  have hsnd : (setTcpSocketRoute s).1.snd = s.snd := by rw [hr]
  rcases writeOnRoute_cases s buf with he | ⟨r, -, he⟩ <;> rw [he]
  · exact .of_flight hh hq hw hsnd
  · refine (writeBytes_gates (hh.of_flight hq hsnd) ?_ _ buf h).after hw hsnd
    rw [hsnd]
    exact hq

lemma tcpWrite_gates (hh : Held s) (hfd : s.core.fdEntry = true) (buf : List UInt8) (expired : Bool)
    (h : FillsSegment (setTcpSocketRoute s).1 buf → WindowShut (setTcpSocketRoute s).1) :
    Gates s (tcpWrite s buf expired).1 := by
  have hq : s.snd.retransmitQueue ≠ [] := by
    intro hq
    have ho := (hh.orphan hq).2.1
    rw [hfd] at ho
    cases ho
  rcases tcpWrite_cases s buf expired with ⟨er, o, he, -⟩ | ⟨-, -, -, he⟩ <;> rw [he]
  · exact .of_flight hh hq rfl rfl
  · exact writeOnRoute_gates hh hq buf h

lemma tcpShutdown_handshake (hs : s.core.state.opening = true) (how : How) : (tcpShutdown s how).1 = s := by
  simp only [tcpShutdown]
  rw [if_pos]
  rcases opening_cases hs with hst | hst
  · simp [hst]
  · simp [hst]

lemma tcpSetsockopt_idle (s : TcpSock) (o : SockOpt) : Idle s (tcpSetsockopt s o) := by
  cases o with
  | rcvbuf v hv =>
    simp only [tcpSetsockopt, setRcvbuf]
    split
    · exact .of_frame rfl rfl rfl
    · exact .of_frame rfl rfl rfl
  | _ => exact ⟨.of_eq rfl, ⟨rfl, rfl, rfl, rfl⟩, fun _ => rfl, .of_eq rfl⟩

-- a descriptor closed in the handshake takes the connection with it
lemma closeFd_idle (hs : s.core.state.opening = true) : Idle s (closeFd s).1 := by
  have hd (t : TcpSock) (ht : Idle { s with core.fdEntry := false } t) : Idle s (destroyTcpSocket t) := by
    obtain ⟨fr, no, he⟩ := destroyTcpSocket_frame t
    rw [he]
    exact ⟨.trans (.of_eq rfl) (.trans ht.emits (.of_eq rfl)), ht.snd, fun h => (by cases h), Or.inr rfl⟩
  have hr : releaseState { s with core.fdEntry := false } = destroyTcpSocket { s with core.fdEntry := false } := by
    rcases opening_cases hs with hst | hst
    · simp only [releaseState, hst]
    · simp only [releaseState, hst]
  simp only [closeFd, tcpRelease, hr]
  split
  · apply hd
    split
    · exact tcpSendFlag_idle _ _ _ _ rfl rfl
    · exact .refl _
  split
  · split
    · exact hd _ (.refl _)
    · exact hd _ (.refl _)
  · exact hd _ (.refl _)

lemma tcpIcmpProcess_idle (hs : s.core.state.opening = true) (quoted : Option Seq) (err : Errno) :
    Idle s (tcpIcmpProcess s quoted err) := by
  rw [tcpIcmpProcess]
  split
  · exact .refl s
  split
  · exact .refl s
  rcases opening_cases hs with hst | hst
  · simp only [hst]
    exact destroyTcpSocket_idle rfl rfl
  · simp only [hst]
    exact destroyTcpSocket_idle rfl rfl

def GatedAct (s : TcpSock) : Action → Prop
  | .timer => s.due .nagle = true → HeadShut s
  | .write buf _ => FillsSegment (setTcpSocketRoute s).1 buf → WindowShut (setTcpSocketRoute s).1
  | _ => True

lemma act_gates (hh : Held s) (hs : s.core.state.opening = true) (a : Action) (hen : a.enabled s = true)
    (h : GatedAct s a) : Gates s (act s a) := by
  cases a with
  | input g => exact tcpInput_gates hh hs g
  | timer =>
    have ht : Idle s { s with tm.registered := false } := .of_frame rfl rfl rfl
    exact ((tcpTimerCb_idle (ht.held hh hs) hs h).gates (ht.held hh hs)).after rfl rfl
  | accept =>
    -- a connection that waits to be accepted is past the handshake
    simp only [Action.enabled, Bool.and_eq_true, bne_iff_ne] at hen
    have hq : s.snd.retransmitQueue ≠ [] := fun hq => hen.2 (hh.orphan hq).2.2
    exact .of_flight hh hq rfl rfl
  | write buf expired =>
    simp only [Action.enabled, Bool.and_eq_true] at hen
    exact tcpWrite_gates hh hen.2 buf expired h
  | read len expired =>
    obtain ⟨er, r, t, he⟩ := tcpRead_frame s len expired
    have hi : Idle s (tcpRead s len expired).1 := by
      rw [he]
      exact .of_frame rfl rfl rfl
    exact hi.gates hh
  | shutdown how =>
    simp only [act, tcpShutdown_handshake hs]
    exact (Idle.refl s).gates hh
  | setsockopt o => exact (tcpSetsockopt_idle s o).gates hh
  | close => exact (closeFd_idle hs).gates hh
  | icmp quoted err => exact (tcpIcmpProcess_idle hs quoted err).gates hh

def Gated (s : TcpSock) (e : Event) : Prop :=
  s.core.state.opening = true → GatedAct (s.withInputs e.inputs) e.action

lemma step_gates (hh : Held s) (hs : s.core.state.opening = true) (e : Event) (h : Gated s e) :
    Gates s (step s e) := by
  have hi : Idle s (s.withInputs e.inputs) := .of_frame rfl rfl rfl
  rw [step]
  split
  · next hen => exact (act_gates (hi.held hh hs) hs e.action hen (h hs)).after rfl rfl
  · exact (Idle.refl s).gates hh

/-- A connection begins when `connect` has sent its SYN, or when a listener's child was made for one. -/
inductive Started : TcpSock → Prop
  | active {s s' : TcpSock} (h : Fresh s) (hs : connectSyn s = (s', none)) : Started s'
  | passive {s : TcpSock} (hdr : TcpHdr) (h : Fresh s) : Started (childSyn s hdr)

lemma Fresh.held_syn (h : Fresh s) (seq : Seq) (flag : Flags) (room : ℕ) (hfin : flag.fin = false)
    (hsnd : s'.snd = synQueued s.snd seq flag room) : Held s' := by
  have hq : s'.snd.retransmitQueue = [skbAlloc seq flag room room] := by rw [hsnd, synQueued, h.flight, List.nil_append]
  have hs : s'.snd.sendQueue = [] := by rw [hsnd, synQueued, h.unsent]
  refine ⟨?_, ⟨?_, ?_, ?_⟩, ?_⟩
  · rw [hq]
    intro b hb
    rw [List.mem_singleton.mp hb]
    exact ⟨rfl, hfin⟩
  · rw [hs]
    intro b hb
    cases hb
  · intro _
    rw [hsnd, synQueued, h.fin, h.nxt]
  · rw [hs]
    intro b hb
    cases hb
  · rw [hq]
    intro hn
    cases hn

lemma Fresh.held_orphan (h : Fresh s) (hsnd : s'.snd = s.snd) (hfd : s'.core.fdEntry = false)
    (hst : s'.core.state = .synReceived) : Held s' := by
  refine ⟨?_, ⟨?_, ?_, ?_⟩, fun _ => ⟨by rw [hsnd, h.unsent], hfd, hst⟩⟩
  · rw [hsnd, h.flight]
    intro b hb
    cases hb
  · rw [hsnd, h.unsent]
    intro b hb
    cases hb
  · intro _
    rw [hsnd, h.fin, h.nxt]
  · rw [hsnd, h.unsent]
    intro b hb
    cases hb

lemma connectSyn_held (h : Fresh s) (hs : connectSyn s = (s', none)) : Held s' := by
  obtain ⟨s₁, room, rfl, -, hk⟩ := connectSyn_ok hs
  exact h.held_syn s.snd.sndNxt { syn := true } room rfl hk.snd

lemma childSyn_held (h : Fresh s) (hdr : TcpHdr) : Held (childSyn s hdr) := by
  obtain ⟨s₁, hr, he | he⟩ := childSyn_ready s hdr <;> rw [he]
  · exact h.held_orphan hr.snd (by rw [hr.core]) (by rw [hr.core])
  rcases tcpSendFlag_syn s₁ s₁.snd.sndUna s₁.rcv.rcvNxt { syn := true, ack := true } rfl with ⟨hk, -⟩ | ⟨room, hk⟩
  · exact h.held_orphan (hk.snd.trans hr.snd) (by rw [hk.core, hr.core]) (by rw [hk.core, hr.core])
  · exact h.held_syn s₁.snd.sndUna { syn := true, ack := true } room rfl (hk.snd.trans (by rw [← hr.snd]))

lemma Started.held (h : Started s) : Held s := by
  cases h with
  | active hf hs => exact connectSyn_held hf hs
  | passive hdr hf => exact childSyn_held hf hdr

/-- As long as what reaches `tcp_write_xmit` in the handshake finds the window shut, neither text nor FIN
goes out before the connection is established, and what was written waits. -/
theorem handshake_gated {s : TcpSock} (h : Started s) (es : List Event) (e : Event)
    (hm : Meets step Gated s (es ++ [e])) (hs : (run step s es).core.state.opening = true) :
    Emits Control (run step s es) (step (run step s es) e) ∧
      queueBytes (run step s es).snd.sendQueue <+: queueBytes (step (run step s es) e).snd.sendQueue := by
  obtain ⟨hes, he⟩ := hm.concat
  have hinv : (run step s es).core.state.opening = true → Held (run step s es) := by
    refine run_invariant (I := fun t : TcpSock => t.core.state.opening = true → Held t) ?_ (fun _ => h.held) hes
    intro t a ht ha hst
    cases hb : t.core.state.opening with
    | true => exact (step_gates (ht hb) hb a ha).held hst
    | false =>
      rw [step_settled a hb] at hst
      cases hst
  have hg := step_gates (hinv hs) hs e he
  exact ⟨hg.emits, hg.bytes⟩

def earlyWrite : List Event := [{ action := .write [7] false, inputs := { now := 1 } }]

def earlyNagle : Event := { action := .timer, inputs := { now := 11 } }

theorem text_before_established :
    (run step openSock earlyWrite).core.state = .synSent ∧
      (step (run step openSock earlyWrite) earlyNagle).core.state = .synSent ∧
      (step (run step openSock earlyWrite) earlyNagle).env.wire.map (·.payload) =
        (run step openSock earlyWrite).env.wire.map (·.payload) ++ [[7]] ∧
      (step (run step openSock earlyWrite) earlyNagle).snd.sendQueue = [] := by
  decide

def synAnswered : Event :=
  { action := .input (bareSegment (plainHdr 500 1 { syn := true, ack := true })), inputs := { now := 5 } }

theorem handshake_gated_early_write :
    Emits Control (run step openSock earlyWrite) (step (run step openSock earlyWrite) synAnswered) ∧
      queueBytes (run step openSock earlyWrite).snd.sendQueue <+:
        queueBytes (step (run step openSock earlyWrite) synAnswered).snd.sendQueue := by
  refine handshake_gated (.active boundSock_fresh rfl) earlyWrite synAnswered ⟨fun _ hf => ?_, fun _ => trivial, trivial⟩ rfl
  revert hf
  decide

end Netfast.Tcp
