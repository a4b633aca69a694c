import Netfast.Tcp.Moves

/-! What a step puts on the wire, and the states it can lead to. -/

namespace Netfast.Tcp

open Serial Skbuff

/-- What went out between the two states all satisfies `P`. -/
def Emits (P : WireSeg → Prop) (s s' : TcpSock) : Prop :=
  ∃ ws, s'.env.wire = s.env.wire ++ ws ∧ ∀ w ∈ ws, P w

variable {P Q : WireSeg → Prop} {s : TcpSock}

lemma Emits.of_eq {s s' : TcpSock} (h : s'.env.wire = s.env.wire) : Emits P s s' :=
  ⟨[], by rw [h, List.append_nil], fun w hw => by cases hw⟩

lemma Emits.trans {a b c : TcpSock} (h : Emits P a b) (h' : Emits P b c) : Emits P a c := by
  obtain ⟨ws, he, hw⟩ := h
  obtain ⟨ws', he', hw'⟩ := h'
  refine ⟨ws ++ ws', by rw [he', he, List.append_assoc], ?_⟩
  intro w hmem
  rcases List.mem_append.mp hmem with hmem | hmem
  · exact hw w hmem
  · exact hw' w hmem

lemma ipOutput_emits (s : TcpSock) (w : WireSeg) (h : P w) : Emits P s (ipOutput s w).1 := by
  rw [ipOutput]
  split
  · exact .of_eq rfl
  · refine ⟨[w], rfl, ?_⟩
    intro w' hw'
    rw [List.mem_singleton.mp hw']
    exact h

lemma submit_emits (s : TcpSock) (seq ack : Seq) (flags : Flags) (payload : List UInt8) (o : Bool)
    (h : ∀ w : WireSeg, w.flags = flags → w.payload = payload → P w) :
    Emits P s (submit s seq ack flags payload o).1 := by
  let w : WireSeg := {
    seq, ack, flags, payload
    window := tcpEncodeWindow (makeTcpOptions s.nego s.env.now flags).2 s.rcv.rcvWnd flags
    options := (makeTcpOptions s.nego s.env.now flags).1 }
  have hw := ipOutput_emits { s with nego := (makeTcpOptions s.nego s.env.now flags).2 } w (h w rfl rfl)
  rw [submit]
  dsimp only
  split
  · next s₁ he =>
    rw [he] at hw
    exact .trans (.of_eq rfl) hw
  · next s₁ he =>
    rw [he] at hw
    split
    · exact .trans (.of_eq rfl) (.trans hw (.of_eq rfl))
    · exact .trans (.of_eq rfl) hw

lemma tcpSendFlag_emits (s : TcpSock) (seq ack : Seq) (flag : Flags)
    (h : ∀ w : WireSeg, w.flags = flag → w.payload = [] → P w) : Emits P s (tcpSendFlag s seq ack flag).1 := by
  rw [tcpSendFlag.eq_def]
  split
  · exact .of_eq rfl
  split
  · exact .of_eq rfl
  split
  · split
    · exact .of_eq rfl
    · exact .trans (.of_eq rfl) (submit_emits _ _ _ _ _ _ h)
  · exact .trans (.of_eq rfl) (submit_emits _ _ _ _ _ _ h)

lemma submit_failed {seq ack : Seq} {flags : Flags} {payload : List UInt8} {o : Bool}
    (h : (submit s seq ack flags payload o).2 ≠ none) : (submit s seq ack flags payload o).1.env.wire = s.env.wire := by
  cases hd : draw s.env.fates with
  | mk ok f =>
    cases ok with
    | false => simp only [submit, ipOutput, hd]
    | true =>
      simp only [submit, ipOutput, hd] at h
      split at h <;> exact absurd rfl h

lemma tcpSendFlag_failed {seq ack : Seq} {flag : Flags} :
    (tcpSendFlag s seq ack flag).2 ≠ none → (tcpSendFlag s seq ack flag).1.env.wire = s.env.wire := by
  rw [tcpSendFlag.eq_def]
  split
  · exact fun _ => rfl
  split
  · exact fun _ => rfl
  split
  · split
    · exact fun _ => rfl
    · exact submit_failed
  · exact submit_failed

lemma sendClone_spec (b : SkBuff) (budget : ℕ) (push : Bool) :
    (sendClone b budget push).flag.syn = b.flag.syn ∧
      ((sendClone b budget push).flag.fin = true → b.flag.fin = true) ∧
      (sendClone b budget push).payload <+: b.payload := by
  refine ⟨rfl, ?_, ?_⟩
  · intro h
    simp only [sendClone, Bool.and_eq_true] at h
    exact h.1
  · simp only [sendClone]
    split
    · have hp := skbTruncate_payload b (min (skbDataLen b) (min budget (tcpSkbSeqLen b) - b.flag.syn.toNat))
      simp only [SkBuff.payload] at hp ⊢
      rw [hp]
      exact List.take_prefix _ _
    · exact List.prefix_refl _

lemma tcpXmitSegment_emits (s : TcpSock) (b : SkBuff) (budget : ℕ) (push : Bool)
    (h : ∀ w : WireSeg, w.flags.syn = b.flag.syn → (w.flags.fin = true → b.flag.fin = true) →
      w.payload <+: b.payload → P w) : Emits P s (tcpXmitSegment s b budget push).1 := by
  rw [tcpXmitSegment.eq_def]
  split
  · exact .of_eq rfl
  next f _ =>
  split
  · exact .of_eq rfl
  obtain ⟨ro, n, c, re, f', as, hr, -⟩ := setTcpSocketRoute_frame { s with env.fates := f }
  have hw : (setTcpSocketRoute { s with env.fates := f }).1.env.wire = s.env.wire := by rw [hr]
  split
  · next s₁ he =>
    rw [he] at hw
    exact .of_eq hw
  · next s₁ he =>
    rw [he] at hw
    simp only
    split
    · exact .of_eq hw
    · obtain ⟨hsyn, hfin, hpay⟩ := sendClone_spec b budget push
      refine .trans (.of_eq hw) (submit_emits _ _ _ _ _ _ ?_)
      intro w hf hp
      exact h w (by rw [hf, hsyn]) (by rw [hf]; exact hfin) (by rw [hp]; exact hpay)

lemma tcpRetransmitSkb_emits (s : TcpSock) (b : Option SkBuff) (probe : Bool)
    (h : ∀ a, b = some a → ∀ w : WireSeg, w.flags.syn = a.flag.syn → (w.flags.fin = true → a.flag.fin = true) →
      w.payload <+: a.payload → P w) : Emits P s (tcpRetransmitSkb s b probe).1 := by
  rcases tcpRetransmitSkb_cases s b probe with he | he | ⟨a, n, hb, he⟩ <;> rw [he]
  · exact .of_eq rfl
  · exact .of_eq rfl
  · exact .trans (.of_eq rfl) (tcpXmitSegment_emits _ a n false (h a hb))

def HeadShut (s : TcpSock) : Prop :=
  ∀ b, s.snd.sendQueue.head? = some b → s.winMin = 0 ∨ geq b.seq (windowEnd s) = true

instance (s : TcpSock) : Decidable (HeadShut s) :=
  decidable_of_iff (∀ b ∈ s.snd.sendQueue.head?, s.winMin = 0 ∨ geq b.seq (windowEnd s) = true) Iff.rfl

lemma tcpWriteXmit_shut (flushPartial : Bool) (h : HeadShut s) : OnlyTimers s (tcpWriteXmit s flushPartial).1 := by
  rw [tcpWriteXmit, show tcpOutputBurstMax = 63 + 1 from rfl, writeXmitLoop]
  cases hq : s.snd.sendQueue with
  | nil => exact ⟨s.tm, rfl⟩
  | cons b rest =>
    have hb : s.winMin = 0 ∨ geq b.seq (windowEnd s) = true := h b (by rw [hq]; rfl)
    simp only [if_pos hb]
    exact tcpArmPersist_timers s

/-- The state is kept, or it is none of the handshake. -/
def Settles (s s' : TcpSock) : Prop := s'.core.state = s.core.state ∨ s'.core.state.opening = false

lemma Settles.of_eq {s s' : TcpSock} (h : s'.core.state = s.core.state) : Settles s s' := Or.inl h

lemma Settles.trans {a b c : TcpSock} (h : Settles a b) (h' : Settles b c) : Settles a c := by
  rcases h' with h' | h'
  · rcases h with h | h
    · exact Or.inl (h'.trans h)
    · exact Or.inr (by rw [h']; exact h)
  · exact Or.inr h'

lemma opening_cases {st : TcpState} (h : st.opening = true) : st = .synSent ∨ st = .synReceived := by
  cases st with
  | synSent => exact Or.inl rfl
  | synReceived => exact Or.inr rfl
  | _ => cases h

lemma tcpSetsockopt_state (s : TcpSock) (o : SockOpt) : (tcpSetsockopt s o).core.state = s.core.state := by
  cases o with
  | rcvbuf v hv =>
    simp only [tcpSetsockopt, setRcvbuf]
    split <;> rfl
  | _ => rfl

lemma Move.opening (h : Move s s') (ho : s'.core.state.opening = true) : s.core.state.opening = true := by
  cases h with
  | beside hb => exact hb.core.opening ho
  | sent => exact launched_opening ho
  | _ => exact ho

lemma Moves.opening (h : Moves s s') (ho : s'.core.state.opening = true) : s.core.state.opening = true := by
  induction h with
  | refl => exact ho
  | tail _ hm ih => exact ih (hm.opening ho)

lemma Writes.opening (h : Writes s s') (ho : s'.core.state.opening = true) : s.core.state.opening = true := by
  cases h with
  | idle hm => exact hm.opening ho
  | @queued t t' hr hw hm =>
    have hk := (setTcpSocketRoute_keeps s).core
    rw [hr] at hk
    obtain ⟨q, rfl⟩ := wrote_frame hw
    rw [← hk]
    exact hm.opening ho

lemma Reads.opening {g : Segment} {t : TcpSock} (h : Reads s g t)
    (ho : (parseTcpOptions t g.hdr).1.core.state.opening = true) : s.core.state.opening = true := by
  obtain ⟨c, hp, -⟩ := parseTcpOptions_frame t g.hdr
  rw [hp] at ho
  rcases h with rfl | ⟨-, hb, -⟩
  · exact ho
  · exact hb.core.opening ho

lemma tcpInput_opening (g : Segment) (ho : (tcpInput s g).core.state.opening = true) : s.core.state.opening = true := by
  cases tcpInput_arrival s g with
  | unread hm => exact hm.opening ho
  | read ht hm => exact ht.opening (hm.opening ho)
  | opened hs => exact hs
  | crossed hs => rw [hs]; rfl
  | renewed _ _ _ hb =>
    obtain ⟨-, -, -, hcore⟩ := acknowledge_view (parseTcpOptions s g.hdr).1 g.hdr
    refine Reads.opening (g := g) (.inl rfl) ?_
    rw [← hcore]
    exact (renewed_moves hb).opening ho
  | repeated _ _ hc hm =>
    refine Reads.opening (g := g) (.inl rfl) ?_
    rw [← hc.core]
    exact hm.opening ho

lemma step_settled (e : Event) (h : s.core.state.opening = false) : (step s e).core.state.opening = false := by
  rw [← Bool.not_eq_true] at h ⊢
  refine fun ho => h ?_
  rw [step] at ho
  split at ho
  · cases hs : e.action.segment? with
    | none => exact (act_writes (s.withInputs e.inputs) hs).opening ho
    | some g =>
      rw [Action.eq_input hs] at ho
      exact tcpInput_opening (s := s.withInputs e.inputs) g ho
  · exact ho

end Netfast.Tcp
