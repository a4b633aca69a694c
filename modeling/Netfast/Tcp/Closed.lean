import Netfast.Req.Life

/-! A connection torn down while the application still holds its descriptor: the pcb stays, with its
queues and its deadlines, until a `connect` opens the next one. -/

namespace Netfast.Tcp

open Skbuff Run Req

variable {s : TcpSock}

/-- The segment takes no sequence number: no text, no SYN, no FIN. -/
def Bare (w : WireSeg) : Prop := w.payload = [] ∧ w.flags.syn = false ∧ w.flags.fin = false

-- a bound socket whose connection is gone can still listen
def Torn (s : TcpSock) : Prop := s.core.state = .closed ∨ s.core.state = .listen

def Silent (s s' : TcpSock) : Prop :=
  Emits Bare s s' ∧ (s'.core.state = s.core.state ∨ s'.core.state = .closed)

lemma Silent.of_eq {s s' : TcpSock} (hw : s'.env.wire = s.env.wire) (hs : s'.core.state = s.core.state) :
    Silent s s' :=
  ⟨.of_eq hw, Or.inl hs⟩

lemma Silent.trans {a b c : TcpSock} (h : Silent a b) (h' : Silent b c) : Silent a c := by
  refine ⟨h.1.trans h'.1, ?_⟩
  rcases h'.2 with hc | hc
  · rw [hc]
    exact h.2
  · exact Or.inr hc

lemma tcpSendFlag_silent (s : TcpSock) (seq ack : Seq) (flag : Flags) (hsyn : flag.syn = false)
    (hfin : flag.fin = false) : Silent s (tcpSendFlag s seq ack flag).1 := by
  refine ⟨tcpSendFlag_emits s seq ack flag ?_, Or.inl ?_⟩
  · rintro w rfl hp
    exact ⟨hp, hsyn, hfin⟩
  · rw [(tcpSendFlag_keeps s seq ack flag hsyn).core]

lemma destroyTcpSocket_silent (s : TcpSock) : Silent s (destroyTcpSocket s) := by
  obtain ⟨fr, no, he⟩ := destroyTcpSocket_frame s
  rw [he]
  exact ⟨.of_eq rfl, Or.inr rfl⟩

def resends (s : TcpSock) : Bool :=
  decide (s.retry.retriesOut < s.retry.retriesMax) &&
    s.snd.retransmitQueue.head?.any fun b => b.flag.syn || s.win.sndWnd != 0

def probes (s : TcpSock) : Bool :=
  decide (s.retry.retriesOut < s.retry.retriesMax) && s.win.sndWnd == 0 &&
    (!s.snd.retransmitQueue.isEmpty || !s.snd.sendQueue.isEmpty)

def TimerSpeaks (s : TcpSock) : Prop :=
  if s.due .nagle then ¬HeadShut s
  else if s.due .retransmit then resends s = true
  else if s.due .ack then False
  else s.due .persist = true ∧ probes s = true

instance (s : TcpSock) : Decidable (TimerSpeaks s) := by
  unfold TimerSpeaks
  infer_instance

-- the SYN branch of the callback is for the handshake states only
lemma retransmitTimeout_torn (hs : Torn s) (h : resends s = false) :
    Silent s (retransmitTimeout s) := by
  simp only [retransmitTimeout]
  split
  · exact .of_eq rfl rfl
  next hq =>
  rw [if_neg (by rcases hs with hs | hs <;> simp [hs])]
  split
  · exact .trans (.of_eq rfl rfl) (destroyTcpSocket_silent _)
  next hlt =>
  obtain ⟨b, bs, hb⟩ := List.exists_cons_of_ne_nil hq
  have hshut : b.flag.syn = false ∧ s.win.sndWnd = 0 := by
    simpa [resends, hb, Nat.lt_of_not_le hlt] using h
  obtain ⟨c, t, hc, -⟩ := tcpCongestionOnTimeout_spec { s with retry.retriesOut := s.retry.retriesOut + 1 }
  simp only [hc, hb, List.head?_cons, tcpRetransmitSkb, Bool.false_eq_true, if_false, hshut.1]
  rw [if_pos (Or.inl (by rw [TcpSock.winMin, hshut.2, Nat.zero_min]))]
  exact .of_eq rfl rfl

lemma persistTimeout_silent (h : probes s = false) : Silent s (persistTimeout s) := by
  simp only [persistTimeout]
  split
  · next hq =>
    split
    · exact .trans (.of_eq rfl rfl) (destroyTcpSocket_silent _)
    · next hlt =>
      have hp : probes s = true := by
        simp only [probes, Nat.lt_of_not_le hlt, hq.1, decide_true, Bool.true_and, beq_self_eq_true,
          Bool.or_eq_true, Bool.not_eq_true', List.isEmpty_eq_false_iff]
        exact hq.2
      rw [hp] at h
      cases h
  · exact .of_eq rfl rfl

lemma tcpTimerCb_torn (hs : Torn s) (h : ¬TimerSpeaks s) : Silent s (tcpTimerCb s) := by
  rw [TimerSpeaks] at h
  simp only [tcpTimerCb]
  split
  · next hd =>
    rw [if_pos hd, not_not] at h
    split
    · exact .of_eq rfl rfl
    · obtain ⟨t, ht⟩ := tcpWriteXmit_shut (s := s.clearDeadline .nagle) true h
      rw [ht]
      exact .of_eq rfl rfl
  next hd =>
  rw [if_neg hd] at h
  split
  · next hd =>
    rw [if_pos hd, Bool.not_eq_true] at h
    exact .trans (.of_eq rfl rfl) (retransmitTimeout_torn (s := s.clearDeadline .retransmit) hs h)
  next hd =>
  rw [if_neg hd] at h
  split
  · exact .trans (.of_eq rfl rfl) (tcpSendFlag_silent _ _ _ _ rfl rfl)
  next hd =>
  rw [if_neg hd] at h
  split
  · next hd =>
    rw [not_and, Bool.not_eq_true] at h
    exact .trans (.of_eq rfl rfl) (persistTimeout_silent (s := s.clearDeadline .persist) (h hd))
  split
  · exact .trans (.of_eq rfl rfl) (destroyTcpSocket_silent _)
  split
  · split
    · exact .trans (.of_eq rfl rfl) (destroyTcpSocket_silent _)
    · exact .of_eq rfl rfl
  split
  · simp only [keepaliveTimeout]
    rw [if_pos (by rcases hs with hs | hs <;> simp [TcpSock.clearDeadline, hs])]
    exact .of_eq rfl rfl
  · exact .of_eq rfl rfl

lemma tcpInput_torn (hs : Torn s) (g : Segment) : Silent s (tcpInput s g) := by
  rcases hs with hs | hs <;> simp only [tcpInput, hs, inputClosed, inputListen]
  · split_ifs
    · exact .of_eq rfl rfl
    · exact tcpSendFlag_silent _ _ _ _ rfl rfl
    · exact tcpSendFlag_silent _ _ _ _ rfl rfl
  · split_ifs
    · exact .of_eq rfl rfl
    · exact tcpSendFlag_silent _ _ _ _ rfl rfl
    · exact .of_eq rfl rfl

lemma tcpWrite_torn (hs : Torn s) (buf : List UInt8) (expired : Bool) :
    ∃ er, (tcpWrite s buf expired).1 = { s with error := er } := by
  rw [tcpWrite]
  split
  · exact ⟨none, rfl⟩
  · refine ⟨s.error, ?_⟩
    rcases hs with hs | hs <;> simp only [hs] <;> split_ifs <;> rfl

lemma tcpShutdown_torn (hs : Torn s) (how : How) : (tcpShutdown s how).1 = s := by
  simp only [tcpShutdown]
  rw [if_pos (by rcases hs with hs | hs <;> simp [hs])]

lemma closeFd_torn (hs : Torn s) : Silent s (closeFd s).1 := by
  have hr : releaseState { s with core.fdEntry := false } = destroyTcpSocket { s with core.fdEntry := false } := by
    rcases hs with hs | hs <;> simp only [releaseState, hs]
  have hd : Silent s (destroyTcpSocket { s with core.fdEntry := false }) :=
    .trans (.of_eq rfl rfl) (destroyTcpSocket_silent _)
  simp only [closeFd, tcpRelease, hr]
  rw [if_neg (by rcases hs with hs | hs <;> simp [hs])]
  split
  · split
    · exact hd
    · exact hd
  · exact hd

lemma tcpIcmpProcess_torn (hs : Torn s) (quoted : Option Seq) (err : Errno) :
    Silent s (tcpIcmpProcess s quoted err) := by
  rw [tcpIcmpProcess]
  split
  · exact .of_eq rfl rfl
  split
  · exact .of_eq rfl rfl
  · rcases hs with hs | hs <;> simp only [hs] <;> exact .of_eq rfl rfl

lemma tcpSetsockopt_wire (s : TcpSock) (o : SockOpt) : (tcpSetsockopt s o).env.wire = s.env.wire := by
  cases o with
  | rcvbuf v hv =>
    simp only [tcpSetsockopt, setRcvbuf]
    split <;> rfl
  | _ => rfl

lemma act_torn (hs : Torn s) (a : Action) (h : a = .timer → ¬TimerSpeaks s) : Silent s (act s a) := by
  cases a with
  | input g => exact tcpInput_torn hs g
  | timer => exact .trans (.of_eq rfl rfl) (tcpTimerCb_torn (s := { s with tm.registered := false }) hs (h rfl))
  | accept => exact .of_eq rfl rfl
  | write buf expired =>
    obtain ⟨er, he⟩ := tcpWrite_torn hs buf expired
    simp only [act, he]
    exact .of_eq rfl rfl
  | read len expired =>
    obtain ⟨er, r, t, he⟩ := tcpRead_frame s len expired
    simp only [act, he]
    exact .of_eq rfl rfl
  | shutdown how =>
    simp only [act, tcpShutdown_torn hs]
    exact .of_eq rfl rfl
  | setsockopt o => exact .of_eq (tcpSetsockopt_wire s o) (tcpSetsockopt_state s o)
  | close => exact closeFd_torn hs
  | icmp quoted err => exact tcpIcmpProcess_torn hs quoted err

lemma step_torn (hs : Torn s) (e : Event) (h : e.action = .timer → ¬TimerSpeaks (s.withInputs e.inputs)) :
    Silent s (step s e) := by
  rw [step]
  split
  · exact .trans (.of_eq rfl rfl) (act_torn (s := s.withInputs e.inputs) hs e.action h)
  · exact .of_eq rfl rfl

lemma step_stays_closed (hs : s.core.state = .closed) (e : Event) : (step s e).core.state = .closed := by
  rw [step]
  split
  · cases ha : e.action with
    | timer => exact (tcpTimerCb_away { s.withInputs e.inputs with tm.registered := false }).state.closed hs
    | _ =>
      rcases (act_torn (s := s.withInputs e.inputs) (.inl hs) e.action (fun h => by rw [ha] at h; cases h)).2 with h | h
      · rw [← ha, h]
        exact hs
      · rw [← ha]
        exact h
  · exact hs

/-! The calls that are left. -/

inductive LaterCall
  | life (e : LifeEvent)
  | bind (ok : Bool)
  | listen (installs : Bool)
  | setfl (nonblock : Bool)

def laterStep (l : Lifetime) (c : LaterCall) : Lifetime :=
  match c with
  | .life e => lifeStep l e
  | .bind ok => if held then { l with sock.core.isBound := l.sock.core.isBound || ok } else l
  | .listen installs => if held then { l with sock := (tcpListen l.sock installs).1 } else l
  | .setfl nonblock => if held then { l with sock.core.nonblock := nonblock } else l
where held : Bool := !l.sock.core.freed && l.sock.core.fdEntry

/-- The queues hold nothing but the SYN of the next connection. -/
structure Renewed (s s' : TcpSock) : Prop where
  state : s'.core.state = .synSent
  unsent : s'.snd.sendQueue = []
  unacked : ∃ room, s'.snd.retransmitQueue = [skbAlloc s.snd.sndNxt { syn := true } room room]
  wire : Emits (fun w => w.payload = [] ∧ w.flags = { syn := true }) s s'

/-- No deadline of the dead connection finds something to put out, and a `connect` finds the queues empty. -/
def Spent (l : Lifetime) (c : LaterCall) : Prop :=
  Torn l.sock →
    match c with
    | .life (.io e) => e.action = .timer → ¬TimerSpeaks (l.sock.withInputs e.inputs)
    | .life (.connect _) =>
      l.sock.core.isConnected = false → l.sock.snd.sendQueue = [] ∧ l.sock.snd.retransmitQueue = []
    | _ => True

variable {l : Lifetime}

lemma renewed_of_began {s' : TcpSock} (h : Began s s') (hq : s.snd.sendQueue = [] ∧ s.snd.retransmitQueue = []) :
    Renewed s s' := by
  obtain ⟨-, -, u, hu, hs⟩ := h
  have hst := connectSyn_state hs
  have hwire := tcpSendFlag_emits (P := fun w => w.payload = [] ∧ w.flags = { syn := true })
    { u with core.state := .synSent } u.snd.sndNxt 0 { syn := true } fun w hf hp => ⟨hp, hf⟩
  obtain ⟨t, room, rfl, he, hk⟩ := connectSyn_ok hs
  rw [he] at hwire
  have hsnd : t.snd = synQueued s.snd s.snd.sndNxt { syn := true } room := by rw [hk.snd, hu.snd]
  refine ⟨hst, ?_, ⟨room, ?_⟩, .trans (.of_eq hu.wire) hwire⟩
  · exact (congrArg SendState.sendQueue hsnd).trans hq.1
  · refine (congrArg SendState.retransmitQueue hsnd).trans ?_
    rw [synQueued, hq.2]
    rfl

lemma Silent.torn {s s' : TcpSock} (h : Silent s s') (hs : Torn s) : Torn s' := by
  rcases h.2 with h | h
  · rw [Torn, h]
    exact hs
  · exact .inl h

lemma tcpListen_torn (hs : Torn s) (installs : Bool) :
    (tcpListen s installs).1.env.wire = s.env.wire ∧ Torn (tcpListen s installs).1 := by
  rw [tcpListen]
  split
  · exact ⟨rfl, hs⟩
  split
  · exact ⟨rfl, hs⟩
  · exact ⟨rfl, .inr rfl⟩

lemma laterStep_torn (hl : Torn l.sock) (c : LaterCall) (h : Spent l c) :
    (Emits Bare l.sock (laterStep l c).sock ∧ Torn (laterStep l c).sock) ∨
      ∃ call, c = .life (.connect call) ∧ Renewed l.sock (laterStep l c).sock := by
  have hkeep {s' : TcpSock} (hw : s'.env.wire = l.sock.env.wire) (ht : Torn s') :
      Emits Bare l.sock s' ∧ Torn s' := ⟨.of_eq hw, ht⟩
  cases c with
  | life e =>
    change (Emits Bare l.sock (lifeStep l e).sock ∧ Torn (lifeStep l e).sock) ∨
      ∃ call, LaterCall.life e = .life (.connect call) ∧ Renewed l.sock (lifeStep l e).sock
    have ht := lifeStep_turn l e
    generalize (lifeStep l e).sock = s' at ht ⊢
    cases ht with
    | event ev =>
      have hq := step_torn hl ev (h hl)
      exact .inl ⟨hq.1, hq.torn hl⟩
    | rests hr => exact .inl (hkeep hr.wire (by rw [Torn, hr.state]; exact hl))
    | failed hn ha => exact .inl (hkeep ha.wire (.inl ha.state))
    | gaveUp hg ha => exact .inl (hkeep ha.wire (.inl ha.state))
    | began hb => exact .inr ⟨_, rfl, renewed_of_began hb (h hl hb.unconnected)⟩
  | bind ok =>
    simp only [laterStep]
    split <;> exact .inl (hkeep rfl hl)
  | listen installs =>
    obtain ⟨hw, ht⟩ := tcpListen_torn hl installs
    simp only [laterStep]
    split
    · exact .inl (hkeep hw ht)
    · exact .inl (hkeep rfl hl)
  | setfl nonblock =>
    simp only [laterStep]
    split <;> exact .inl (hkeep rfl hl)

/-- As long as neither a deadline of the dead connection nor the next connection finds something of it in the queues,
nothing of it is sent. -/
theorem closed_connection_silent {l : Lifetime} (hl : Torn l.sock) (cs : List LaterCall)
    (h : Meets laterStep Spent l cs) :
    (Emits Bare l.sock (run laterStep l cs).sock ∧ Torn (run laterStep l cs).sock) ∨
      ∃ before call after, cs = before ++ .life (.connect call) :: after ∧
        Emits Bare l.sock (run laterStep l before).sock ∧
        Renewed (run laterStep l before).sock (laterStep (run laterStep l before) (.life (.connect call))).sock := by
  -- up to the first connection that is opened
  induction cs generalizing l with
  | nil => exact .inl ⟨.of_eq rfl, hl⟩
  | cons c cs ih =>
    rcases laterStep_torn hl c h.1 with ⟨hw, ht⟩ | ⟨call, rfl, hr⟩
    · rcases ih ht h.2 with ⟨hw', ht'⟩ | ⟨before, call, after, rfl, hw', hr⟩
      · exact .inl ⟨hw.trans hw', ht'⟩
      · exact .inr ⟨c :: before, call, after, rfl, hw.trans hw', hr⟩
    · exact .inr ⟨[], call, cs, rfl, .of_eq rfl, hr⟩

def resetRun : List Event :=
  [{ action := .input (bareSegment (plainHdr 500 1 { syn := true, ack := true })), inputs := { now := 1 } },
    { action := .write [7] false, inputs := { now := 2 } },
    { action := .input (bareSegment (plainHdr 501 1 { rst := true })), inputs := { now := 3 } }]

def refusedRun (buf : List UInt8) : List LaterCall :=
  [.life (.connect { io := { now := 1 } }),
    .life (.io { action := .write buf false, inputs := { now := 2 } }),
    .life (.io { action := .input (bareSegment (plainHdr 0 1 { rst := true, ack := true })), inputs := { now := 3 } })]

def connectAgain : List LaterCall := [.life (.retry { now := 4 }), .life (.connect { io := { now := 5 } })]

def nextAnswered : List LaterCall :=
  [.life (.io { action := .input (bareSegment (plainHdr 500 1 { syn := true, ack := true })), inputs := { now := 6 } }),
    .life (.io { action := .timer, inputs := { now := 12 } })]

/-- The timer sends the byte of a connection that was reset; a byte of a connection that was refused goes out on the
next one. -/
theorem reset_connection_sends :
    ((run step openSock resetRun).core.state = .closed ∧ (run step openSock resetRun).core.fdEntry = true ∧
      (step (run step openSock resetRun) { action := .timer, inputs := { now := 12 } }).env.wire.map (·.payload) =
        (run step openSock resetRun).env.wire.map (·.payload) ++ [[7]]) ∧
    (run laterStep { sock := boundSock } (refusedRun [7])).sock.core.state = .closed ∧
      (run laterStep { sock := boundSock } (refusedRun [7] ++ connectAgain ++ nextAnswered)).sock.env.wire.map
        (fun w => (w.flags.syn, w.payload)) = [(true, []), (true, []), (false, [7])] := by
  decide

def emptiedSock : TcpSock :=
  run step openSock
    [{ action := .input (bareSegment (plainHdr 500 1 { syn := true, ack := true })), inputs := { now := 1 } },
      { action := .write [7] false, inputs := { now := 2 } },
      { action := .timer, inputs := { now := 12 } },
      { action := .input (bareSegment (plainHdr 501 2 { ack := true })), inputs := { now := 13 } },
      { action := .input (bareSegment (plainHdr 501 2 { rst := true })), inputs := { now := 14 } }]

def spentRun : List LaterCall :=
  [.life (.io { action := .timer, inputs := { now := 50 } }),
    .life (.io { action := .write [8] false, inputs := { now := 51 } }),
    .listen true,
    .life (.io { action := .close, inputs := { now := 52 } })]

def refusedLife : Lifetime := run laterStep { sock := boundSock } (refusedRun [])

theorem closed_connection_silent_emptied :
    Emits Bare emptiedSock (run laterStep { sock := emptiedSock } spentRun).sock ∧
    ∃ before call after, connectAgain = before ++ .life (.connect call) :: after ∧
      Renewed (run laterStep refusedLife before).sock
        (laterStep (run laterStep refusedLife before) (.life (.connect call))).sock := by
  constructor
  · have hspent : Meets laterStep Spent { sock := emptiedSock } spentRun := by
      refine ⟨fun _ _ => ?_, fun _ h => ?_, fun _ => trivial, fun _ h => ?_, trivial⟩
      · decide
      · cases h
      · cases h
    rcases closed_connection_silent (l := { sock := emptiedSock }) (.inl (by decide)) spentRun hspent with h | h
    · exact h.1
    · obtain ⟨before, call, after, he, -⟩ := h
      have hmem : .life (.connect call) ∈ spentRun := by simp [he]
      simp [spentRun] at hmem
  · have hspent : Meets laterStep Spent refusedLife connectAgain :=
      ⟨fun _ => trivial, fun _ _ => ⟨by decide, by decide⟩, trivial⟩
    rcases closed_connection_silent (l := refusedLife) (.inl (by decide)) connectAgain hspent with h | h
    · rcases h.2 with h | h
      · exact absurd h (by decide)
      · exact absurd h (by decide)
    · obtain ⟨before, call, after, he, -, hr⟩ := h
      exact ⟨before, call, after, he, hr⟩

end Netfast.Tcp
