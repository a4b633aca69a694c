import Netfast.Tcp.Output

/-! What transmission leaves alone. Submitting a packet may look up the route, sample metrics and rearm
timers; the queues, the windows and the state of the connection are its callers' business. -/

namespace Netfast.Tcp

open Serial Skbuff

def CaKeeps (c c' : CongState) : Prop :=
  c'.caState = .open ∨ (c'.caState = c.caState ∧ c'.caRecoverySeq = c.caRecoverySeq)

variable (s : TcpSock)

lemma CaKeeps.refl (c : CongState) : CaKeeps c c := Or.inr ⟨rfl, rfl⟩

lemma CaKeeps.of_restart {c c' : CongState} {p : Prop} {n : Nego} (h : c' = c ∨ p ∧ c' = tcpCongestionInit n) :
    CaKeeps c c' := by
  rcases h with rfl | ⟨-, rfl⟩
  · exact .refl _
  · exact Or.inl rfl

lemma CaKeeps.trans {a b c : CongState} (h : CaKeeps a b) (h' : CaKeeps b c) : CaKeeps a c := by
  rcases h' with h' | ⟨h', hs'⟩
  · exact Or.inl h'
  rcases h with h | ⟨h, hs⟩
  · exact Or.inl (h'.trans h)
  · exact Or.inr ⟨h'.trans h, hs'.trans hs⟩

structure Keeps (s s' : TcpSock) : Prop where
  core : s'.core = s.core
  snd : s'.snd = s.snd
  rcv : s'.rcv = s.rcv
  win : s'.win = s.win
  scale : s'.nego.sndWndScale = s.nego.sndWndScale
  cong : CaKeeps s.cong s'.cong

lemma Keeps.refl : Keeps s s := ⟨rfl, rfl, rfl, rfl, rfl, .refl _⟩

lemma Keeps.trans {a b c : TcpSock} (h : Keeps a b) (h' : Keeps b c) : Keeps a c :=
  ⟨h'.core.trans h.core, h'.snd.trans h.snd, h'.rcv.trans h.rcv, h'.win.trans h.win, h'.scale.trans h.scale,
    h.cong.trans h'.cong⟩

lemma Keeps.of_frame (ro : Option Route) (er : Option Errno) (re : Retry) (t : Timers) (e : Env) :
    Keeps s { s with route := ro, error := er, retry := re, tm := t, env := e } :=
  ⟨rfl, rfl, rfl, rfl, rfl, .refl _⟩

def Adds (P : Fault → Prop) (s s' : TcpSock) : Prop := ∀ f ∈ s'.env.faults, f ∈ s.env.faults ∨ P f

variable {P : Fault → Prop}

lemma Adds.of_eq {s s' : TcpSock} (h : s'.env.faults = s.env.faults) : Adds P s s' :=
  fun _ hf => Or.inl (h ▸ hf)

lemma Adds.trans {a b c : TcpSock} (h : Adds P a b) (h' : Adds P b c) : Adds P a c := by
  intro f hf
  rcases h' f hf with hb | hp
  · exact h f hb
  · exact Or.inr hp

lemma Adds.fault (f : Fault) (h : P f) : Adds P s (s.fault f) := by
  intro g hg
  rcases List.mem_append.mp hg with hg | hg
  · exact Or.inl hg
  · rw [List.mem_singleton] at hg
    exact Or.inr (hg ▸ h)

def Retry.SameRtt (a b : Retry) : Prop := b.rttMeasTime = a.rttMeasTime ∧ b.rttMeasSeq = a.rttMeasSeq

lemma Retry.SameRtt.trans {a b c : Retry} (h : a.SameRtt b) (h' : b.SameRtt c) : a.SameRtt c :=
  ⟨h'.1.trans h.1, h'.2.trans h.2⟩

lemma takeMetrics_frame (r : Route) :
    ∃ re f, takeMetrics s r = { s with retry := re, env.fates := f } ∧ re.retriesOut = s.retry.retriesOut := by
  simp only [takeMetrics]
  split
  · exact ⟨s.retry, s.env.fates, rfl, rfl⟩
  · exact ⟨_, _, rfl, rfl⟩

lemma setTcpSocketRoute_frame :
    ∃ ro n c re f as, (setTcpSocketRoute s).1 =
        { s with route := ro, nego := n, cong := c, retry := re, env.fates := f, env.routes := as } ∧
      n.sndWndScale = s.nego.sndWndScale ∧
      (c = s.cong ∨ (s.core.state = .closed ∨ s.core.state = .synSent ∨ s.core.state = .synReceived) ∧
        c = tcpCongestionInit n) ∧
      re.retriesOut = s.retry.retriesOut ∧ (setTcpSocketRoute s).2 = ro.isSome := by
  have hr : (setSocketRoute s).2 = (setSocketRoute s).1.route.isSome := rfl
  unfold setTcpSocketRoute
  split
  · next s₁ h =>
    rw [h] at hr
    have h₁ : s₁ = (setSocketRoute s).1 := by rw [h]
    exact ⟨(setSocketRoute s).1.route, s.nego, s.cong, s.retry, s.env.fates, _, h₁, rfl, .inl rfl, rfl,
      by rw [h]; exact hr⟩
  · next s₁ h =>
    have h₁ : s₁ = (setSocketRoute s).1 := by rw [h]
    split
    · next hn => rw [h] at hr; simp [hn] at hr
    · next r hs =>
      split
      · exact ⟨none, s.nego, s.cong, s.retry, s.env.fates, _, by rw [h₁]; rfl, rfl, .inl rfl, rfl, rfl⟩
      · obtain ⟨re, f, hm, hre⟩ := takeMetrics_frame s₁ r
        rw [h₁] at hre
        rw [hm, h₁]
        simp only
        split
        · exact ⟨_, _, s.cong, re, f, _, rfl, rfl, .inl rfl, hre, by rw [h₁] at hs; rw [hs]; rfl⟩
        · obtain ⟨c, hc, hcc⟩ := tcpCongestionMssChanged_frame
            { (setSocketRoute s).1 with
              retry := re
              env.fates := f
              nego.rcvMss := routeMss { (setSocketRoute s).1 with retry := re, env.fates := f } r
              nego.sndMss := min (setSocketRoute s).1.nego.peerMss
                (routeMss { (setSocketRoute s).1 with retry := re, env.fates := f } r) }
          exact ⟨_, _, c, re, f, _, hc, rfl, hcc, hre, by rw [h₁] at hs; rw [hs]; rfl⟩

lemma setTcpSocketRoute_keeps : Keeps s (setTcpSocketRoute s).1 := by
  obtain ⟨ro, n, c, re, f, as, h, hn, hc, -⟩ := setTcpSocketRoute_frame s
  rw [h]
  exact ⟨rfl, rfl, rfl, rfl, hn, .of_restart hc⟩

lemma setTcpSocketRoute_route : (setTcpSocketRoute s).2 = (setTcpSocketRoute s).1.route.isSome := by
  obtain ⟨ro, n, c, re, f, as, h, -, -, -, hr⟩ := setTcpSocketRoute_frame s
  rw [h, hr]

lemma ipOutput_frame (w : WireSeg) : ∃ f ws, (ipOutput s w).1 = { s with env.fates := f, env.wire := ws } := by
  unfold ipOutput
  split <;> exact ⟨_, _, rfl⟩

lemma makeTcpOptions_scale (n : Nego) (now : ℕ) (flags : Flags) :
    (makeTcpOptions n now flags).2.sndWndScale = n.sndWndScale := by
  simp only [makeTcpOptions]
  split <;> rfl

lemma submit_cases (seq ack : Seq) (flags : Flags) (payload : List UInt8) (o : Bool) :
    ∃ n f ws, n.sndWndScale = s.nego.sndWndScale ∧
      ((submit s seq ack flags payload o).1 = { s with nego := n, env.fates := f, env.wire := ws } ∨
        (submit s seq ack flags payload o).1 = { s with
          nego := n, retry.ackPendingSegments := 0, tm := tcpUpdateTimer s.tm .ack timerStop o
          env.fates := f, env.wire := ws }) := by
  have hn := makeTcpOptions_scale s.nego s.env.now flags
  simp only [submit]
  obtain ⟨f, ws, h⟩ := ipOutput_frame { s with nego := (makeTcpOptions s.nego s.env.now flags).2 }
    { seq, ack, flags, payload
      window := tcpEncodeWindow (makeTcpOptions s.nego s.env.now flags).2 s.rcv.rcvWnd flags
      options := (makeTcpOptions s.nego s.env.now flags).1 }
  refine ⟨_, f, ws, hn, ?_⟩
  split
  · next s₁ he => exact Or.inl ((congrArg Prod.fst he).symm.trans h)
  · next s₁ he =>
    obtain rfl : s₁ = _ := (congrArg Prod.fst he).symm.trans h
    split
    · exact Or.inr rfl
    · exact Or.inl rfl

lemma submit_frame (seq ack : Seq) (flags : Flags) (payload : List UInt8) (o : Bool) :
    ∃ n re t f ws, (submit s seq ack flags payload o).1 =
        { s with nego := n, retry := re, tm := t, env.fates := f, env.wire := ws } ∧
      n.sndWndScale = s.nego.sndWndScale := by
  obtain ⟨n, f, ws, hn, h | h⟩ := submit_cases s seq ack flags payload o
  · exact ⟨n, s.retry, s.tm, f, ws, h, hn⟩
  · exact ⟨n, _, _, f, ws, h, hn⟩

lemma submit_keeps (seq ack : Seq) (flags : Flags) (payload : List UInt8) (o : Bool) :
    Keeps s (submit s seq ack flags payload o).1 := by
  obtain ⟨n, re, t, f, ws, h, hn⟩ := submit_frame s seq ack flags payload o
  rw [h]
  exact ⟨rfl, rfl, rfl, rfl, hn, .refl _⟩

lemma tcpSendFlag_keeps (seq ack : Seq) (flag : Flags) (h : flag.syn = false) :
    Keeps s (tcpSendFlag s seq ack flag).1 := by
  unfold tcpSendFlag
  split
  · exact .of_frame s s.route s.error s.retry s.tm _
  split
  · exact .of_frame s s.route s.error s.retry s.tm _
  rw [h]
  exact .trans (.of_frame s s.route s.error s.retry s.tm _) (submit_keeps _ _ _ _ _ _)

lemma tcpXmitSegment_keeps (skb : SkBuff) (budget : ℕ) (push : Bool) :
    Keeps s (tcpXmitSegment s skb budget push).1 := by
  unfold tcpXmitSegment
  split
  · exact .of_frame s s.route s.error s.retry s.tm _
  next f _ =>
  split
  · exact .of_frame s s.route s.error s.retry s.tm _
  have hk : Keeps s (setTcpSocketRoute { s with env.fates := f }).1 :=
    .trans (.of_frame s s.route s.error s.retry s.tm _) (setTcpSocketRoute_keeps _)
  split
  · next s₁ h =>
    rw [h] at hk
    exact hk.trans (.of_frame s₁ s₁.route _ s₁.retry s₁.tm _)
  · next s₁ h =>
    rw [h] at hk
    simp only
    split
    · exact hk.trans (.of_frame s₁ s₁.route s₁.error s₁.retry s₁.tm _)
    · exact hk.trans (submit_keeps _ _ _ _ _ _)

lemma sendClone_ownsSlot (skb : SkBuff) (budget : ℕ) (push : Bool) (h : skb.ownsSlot)
    (hb : skbDataLen skb = 0 ∨ skb.flag.syn.toNat < budget) : (sendClone skb budget push).ownsSlot := by
  simp only [sendClone, SkBuff.ownsSlot]
  split
  · next hlt =>
    -- the clone is cut short, but at least one byte of it is left
    intro hempty
    have hp := skbTruncate_payload skb
      (min (skbDataLen skb) (min budget (tcpSkbSeqLen skb) - skb.flag.syn.toNat))
    rw [SkBuff.payload, hempty, flatten_nil] at hp
    have hl := congrArg List.length hp
    simp only [List.length_nil, List.length_take] at hl
    rw [show skb.payload.length = skbDataLen skb from rfl] at hl
    unfold tcpSkbSeqLen at hlt hl
    omega
  · exact h

lemma tcpRetransmitSkb_cases (b : Option SkBuff) (probe : Bool) :
    (tcpRetransmitSkb s b probe).1 = s.fault .nullSkb ∨ (tcpRetransmitSkb s b probe).1 = s ∨ ∃ a n, b = some a ∧
      (tcpRetransmitSkb s b probe).1 = (tcpXmitSegment { s with retry.rttMeasTime := 0 } a n false).1 := by
  cases b with
  | none => exact .inl rfl
  | some a =>
    simp only [tcpRetransmitSkb]
    split_ifs
    · exact .inr (.inr ⟨a, _, rfl, rfl⟩)
    · exact .inr (.inr ⟨a, _, rfl, rfl⟩)
    · exact .inr (.inl rfl)
    · exact .inr (.inr ⟨a, _, rfl, rfl⟩)

lemma tcpRetransmitSkb_keeps (skb : Option SkBuff) (probe : Bool) : Keeps s (tcpRetransmitSkb s skb probe).1 := by
  rcases tcpRetransmitSkb_cases s skb probe with he | he | ⟨b, n, -, he⟩ <;> rw [he]
  · exact .of_frame s s.route s.error s.retry s.tm _
  · exact .refl s
  · exact .trans (.of_frame s s.route s.error _ s.tm s.env) (tcpXmitSegment_keeps _ _ _ _)

lemma tcpRetransmitNow_keeps : Keeps s (tcpRetransmitNow s) :=
  .trans (tcpRetransmitSkb_keeps s _ false) (.of_frame _ _ _ _ _ _)

structure Resendable (b : SkBuff) : Prop where
  owns : b.ownsSlot
  pos : 0 < tcpSkbSeqLen b
  syn : b.flag.syn = true → skbDataLen b = 0

end Netfast.Tcp
