import Netfast.Req.Ops
import Netfast.Tcp.Diagram
import Netfast.Tcp.SendRun

/-! A TCP socket over its whole life: the connects it is told to make, the re-runs of a connect that waits, and the
events of its connections in between. -/

namespace Netfast.Req

open Tcp

structure Lifetime where
  sock : TcpSock
  -- the request that waits in `tcp_connect`, with the time its wait ends
  waiting : Option (Option ℕ) := none

structure ConnectCall where
  badAddr : Option Errno := none
  io : Inputs := {}
  bindErr : Option Errno := none
  here : Bool := true
  installs : Bool := true

def thisWorker : Fin 2 := ⟨0, Nat.zero_lt_two⟩

def otherWorker : Fin 2 := ⟨1, Nat.one_lt_two⟩

def ConnectCall.answers (c : ConnectCall) : Answers 2 :=
  { io := c.io, target := if c.here then thisWorker else otherWorker, bindErr := c.bindErr, installs := c.installs }

inductive LifeEvent
  | io (e : Event)
  | connect (c : ConnectCall)
  | retry (i : Inputs)

def Reply.waits (w : Option (Option ℕ)) : Reply 2 → Option (Option ℕ)
  | .wait _ => some none
  | .waitUntil _ t => some (some t)
  | _ => w

def Reply.keepsWaiting (w : Option (Option ℕ)) : Reply 2 → Option (Option ℕ)
  | .pending => w
  | _ => none

def callConnect (l : Lifetime) (c : ConnectCall) : TcpSock × Reply 2 :=
  tcpConnect (l.sock.withInputs c.io) c.badAddr false false thisWorker c.answers

def rerunConnect (l : Lifetime) (deadline : Option ℕ) (i : Inputs) : TcpSock × Reply 2 :=
  tcpConnect (l.sock.withInputs i) none true (deadline.any (· ≤ i.now)) thisWorker { io := i, target := thisWorker }

def lifeStep (l : Lifetime) : LifeEvent → Lifetime
  | .io e => { l with sock := step l.sock e }
  | .connect c =>
    if l.sock.core.freed || !l.sock.core.fdEntry then l
    else { sock := (callConnect l c).1, waiting := (callConnect l c).2.waits l.waiting }
  | .retry i =>
    match l.waiting with
    | none => l
    | some deadline =>
      if l.sock.core.freed then l
      else { sock := (rerunConnect l deadline i).1, waiting := (rerunConnect l deadline i).2.keepsWaiting l.waiting }

structure Rests (s s' : TcpSock) : Prop where
  snd : s'.snd = s.snd
  rcv : s'.rcv = s.rcv
  win : s'.win = s.win
  scale : s'.nego.sndWndScale = s.nego.sndWndScale
  cong : CaKeeps s.cong s'.cong
  core : s'.core = { s.core with isBound := s'.core.isBound }
  notified : s'.env.notified = s.env.notified
  wire : s'.env.wire = s.env.wire

lemma Rests.refl (s : TcpSock) : Rests s s := ⟨rfl, rfl, rfl, rfl, .refl _, rfl, rfl, rfl⟩

lemma Rests.trans {a b c : TcpSock} (h : Rests a b) (h' : Rests b c) : Rests a c := by
  refine ⟨h'.snd.trans h.snd, h'.rcv.trans h.rcv, h'.win.trans h.win, h'.scale.trans h.scale, h.cong.trans h'.cong, ?_,
    h'.notified.trans h.notified, h'.wire.trans h.wire⟩
  rw [h'.core, h.core]

variable {s s' : TcpSock}

lemma Rests.state (h : Rests s s') : s'.core.state = s.core.state := by rw [h.core]

lemma Rests.recvFin (h : Rests s s') : s'.core.recvFin = s.core.recvFin := by rw [h.core]

lemma Rests.fins (h : Rests s s') : finsTaken s' = finsTaken s := by rw [finsTaken, h.notified, finsTaken]

lemma setTcpSocketRoute_rests (s : TcpSock) : Rests s (setTcpSocketRoute s).1 := by
  obtain ⟨ro, n, c, re, f, as, h, hn, hc, -⟩ := setTcpSocketRoute_frame s
  rw [h]
  exact ⟨rfl, rfl, rfl, hn, .of_restart hc, rfl, rfl, rfl⟩

structure Aborted (s s' : TcpSock) : Prop where
  state : s'.core.state = .closed
  snd : s'.snd = { s.snd with retransmitQueue := [], sndNxt := s.snd.sndUna, sndEnd := s.snd.sndUna }
  rcv : s'.rcv = s.rcv
  recvFin : s'.core.recvFin = s.core.recvFin
  fins : finsTaken s' = finsTaken s
  wire : s'.env.wire = s.env.wire

structure Began (s s' : TcpSock) : Prop where
  closed : s.core.state = .closed
  unconnected : s.core.isConnected = false
  syn : ∃ u, Rests s u ∧ connectSyn u = (s', none)

def Lifetime.givesUp (l : Lifetime) (i : Inputs) : Bool :=
  l.sock.error.isSome ||
    match l.sock.core.state with
    | .established | .closeWait => false
    | .synSent | .synReceived => l.waiting.join.any (· ≤ i.now)
    | _ => true

/-- Whatever happens to the socket is an event of its connection or one of the rest. -/
inductive Turn (l : Lifetime) : LifeEvent → TcpSock → Prop
  | event (ev : Event) : Turn l (.io ev) (step l.sock ev)
  | rests {e : LifeEvent} {s : TcpSock} (h : Rests l.sock s) : Turn l e s
  | failed {c : ConnectCall} {s : TcpSock} (hn : l.sock.core.isConnected = false) (h : Aborted l.sock s) :
      Turn l (.connect c) s
  | gaveUp {i : Inputs} {s : TcpSock} (hg : l.givesUp i = true) (h : Aborted l.sock s) : Turn l (.retry i) s
  | began {c : ConnectCall} {s : TcpSock} (h : Began l.sock s) : Turn l (.connect c) s

lemma Rests.aborted {s u : TcpSock} (h : Rests s u) (er : Option Errno) :
    Aborted s (tcpAbortConnect { u with error := er, core.state := .closed }) := by
  refine ⟨rfl, ?_, h.rcv, h.recvFin, h.fins, h.wire⟩
  change { u.snd with retransmitQueue := [], sndNxt := u.snd.sndUna, sndEnd := u.snd.sndUna } = _
  rw [h.snd]

lemma connectSyn_failed {u t : TcpSock} {e : Errno} (h : connectSyn u = (t, some e)) :
    Aborted u (tcpAbortConnect { t with core.state := .closed }) := by
  have hap := tcpSendFlag_spares { u with core.state := .synSent } u.snd.sndNxt 0 { syn := true }
  have hsyn := tcpSendFlag_syn { u with core.state := .synSent } u.snd.sndNxt 0 { syn := true } rfl
  have hwire := @tcpSendFlag_failed { u with core.state := .synSent } u.snd.sndNxt 0 { syn := true }
  rw [connectSyn] at h
  split at h
  · cases h
  next t₁ e₁ he =>
  rw [he] at hap hsyn hwire
  obtain ⟨rfl, -⟩ := Prod.mk.inj h
  refine ⟨rfl, ?_, hap.rcv, hap.recvFin, hap.fins, hwire (by simp)⟩
  change { t₁.snd with retransmitQueue := [], sndNxt := t₁.snd.sndUna, sndEnd := t₁.snd.sndUna } = _
  rcases hsyn with ⟨hk, -⟩ | ⟨room, hk⟩
  · rw [hk.snd]
  · rw [hk.snd]
    rfl

lemma Aborted.after {s u u' : TcpSock} (h : Aborted u u') (hr : Rests s u) : Aborted s u' := by
  refine ⟨h.state, ?_, h.rcv.trans hr.rcv, h.recvFin.trans hr.recvFin, h.fins.trans hr.fins, h.wire.trans hr.wire⟩
  rw [h.snd, hr.snd]

lemma rerunConnect_turn (l : Lifetime) {deadline : Option ℕ} (hw : l.waiting = some deadline) (i : Inputs) :
    Turn l (.retry i) (rerunConnect l deadline i).1 := by
  have hi : Rests l.sock (l.sock.withInputs i) := ⟨rfl, rfl, rfl, rfl, .refl _, rfl, rfl, rfl⟩
  have hfail (hg : l.givesUp i = true) (er : Option Errno) (no : Errno) :
      Turn l (.retry i) (connectFail (n := 2) { l.sock.withInputs i with error := er } no).1 :=
    .gaveUp hg (hi.aborted er)
  rw [rerunConnect, tcpConnect.eq_def, if_pos rfl, connectRetry]
  rw [Lifetime.givesUp, hw, Option.join_some] at hfail
  split
  · next e he =>
    refine hfail ?_ none _
    change l.sock.error = some e at he
    rw [he]
    rfl
  next he =>
  change l.sock.error = none at he
  rw [he, Option.isSome_none, Bool.false_or] at hfail
  split
  · exact .rests hi
  · exact .rests hi
  · next hst =>
    change l.sock.core.state = _ at hst
    rw [hst] at hfail
    split
    · next hex => exact hfail hex l.sock.error _
    · exact .rests hi
  · next hst =>
    change l.sock.core.state = _ at hst
    rw [hst] at hfail
    split
    · next hex => exact hfail hex l.sock.error _
    · exact .rests hi
  · next h₁ h₂ h₃ h₄ =>
    refine hfail ?_ l.sock.error _
    cases hst : l.sock.core.state with
    | established => exact absurd hst h₁
    | closeWait => exact absurd hst h₂
    | synSent => exact absurd hst h₃
    | synReceived => exact absurd hst h₄
    | _ => rfl

lemma connectSend_turn {l : Lifetime} {u : TcpSock} (hr : Rests l.sock u) (hc : l.sock.core.state = .closed)
    (hn : l.sock.core.isConnected = false) (expired : Bool) {a : Answers 2} (hl : a.looped = none) (c : ConnectCall) :
    Turn l (.connect c) (connectSend u expired a).1 := by
  rw [connectSend]
  cases hs : connectSyn u with
  | mk t ret =>
    cases ret with
    | some e => exact .failed hn ((connectSyn_failed hs).after hr)
    | none =>
      have hbegan : Turn l (.connect c) t := .began ⟨hc, hn, u, hr, hs⟩
      have hst : t.core.state = .synSent := connectSyn_state hs
      simp only [hl, Option.getD_none]
      rw [if_neg (by rw [hst]; simp)]
      split
      · exact hbegan
      · split <;> exact hbegan

lemma callConnect_turn (l : Lifetime) (c : ConnectCall) : Turn l (.connect c) (callConnect l c).1 := by
  have hi : Rests l.sock (l.sock.withInputs c.io) := ⟨rfl, rfl, rfl, rfl, .refl _, rfl, rfl, rfl⟩
  rw [callConnect, tcpConnect.eq_def, if_neg Bool.false_ne_true]
  split
  · exact .rests hi
  split
  · exact .rests hi
  split
  · exact .rests hi
  next hn =>
  have hn' : l.sock.core.isConnected = false := by simpa using hn
  have hfail {u : TcpSock} (hu : Rests l.sock u) (e : Errno) : Turn l (.connect c) (connectFail (n := 2) u e).1 :=
    .failed hn' (hu.aborted u.error)
  split
  · exact .rests hi
  next hc =>
  have hr := hi.trans (setTcpSocketRoute_rests (l.sock.withInputs c.io))
  split
  · next u he =>
    rw [he] at hr
    exact hfail hr _
  next u he =>
  rw [he] at hr
  split
  · exact hfail hr _
  have hb : Rests l.sock { u with core.isBound := true } := hr.trans ⟨rfl, rfl, rfl, rfl, .refl _, rfl, rfl, rfl⟩
  dsimp only
  split
  · exact .rests hb
  split
  · exact hfail hb _
  · exact connectSend_turn hb (not_not.mp hc) hn' false rfl c

lemma lifeStep_turn (l : Lifetime) (e : LifeEvent) : Turn l e (lifeStep l e).sock := by
  cases e with
  | io ev => exact .event ev
  | connect c =>
    rw [lifeStep]
    split
    · exact .rests (.refl _)
    · exact callConnect_turn l c
  | retry i =>
    rw [lifeStep]
    split
    · exact .rests (.refl _)
    · next deadline hw =>
      split
      · exact .rests (.refl _)
      · exact rerunConnect_turn l hw i

end Netfast.Req
