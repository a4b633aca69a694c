import Netfast.Lib.Run
import Netfast.Tcp.SendUser

/-! The send queues over whole runs of a connection, from its SYN on. -/

namespace Netfast.Tcp

open Serial Skbuff Run

/-- A socket nothing was sent or queued on, as `tcp_pcb_init` leaves it. -/
structure Fresh (s : TcpSock) : Prop where
  flight : s.snd.retransmitQueue = []
  unsent : s.snd.sendQueue = []
  nxt : s.snd.sndNxt = s.snd.sndUna
  fin : s.snd.sndEnd = s.snd.sndUna
  len : s.snd.sendBufferLen = 0
  max : s.snd.sendBufferLenMax < 2 ^ 31
  wnd : s.win.sndWnd < 2 ^ 30
  scale : s.nego.sndWndScale ≤ 14
  ca : s.cong.caState = .open

/-- The SYN of a connection is out: `connect` succeeded, or the child of a listener queued its answer. -/
inductive Opened : Seq → TcpSock → Prop
  | active {s s' : TcpSock} (h : Fresh s) (hs : connectSyn s = (s', none)) : Opened s.snd.sndUna s'
  | passive {s : TcpSock} (hdr : TcpHdr) (h : Fresh s) (hq : (childSyn s hdr).snd.retransmitQueue ≠ []) :
      Opened s.snd.sndUna (childSyn s hdr)

def synQueued (q : SendState) (seq : Seq) (flag : Flags) (room : ℕ) : SendState :=
  { q with
    retransmitQueue := q.retransmitQueue ++ [skbAlloc seq flag room room]
    sndNxt := q.sndNxt + 1
    sndEnd := q.sndEnd + 1 }

lemma tcpSendFlag_syn (s : TcpSock) (seq ack : Seq) (flag : Flags) (h : flag.syn = true) :
    (Keeps s (tcpSendFlag s seq ack flag).1 ∧ (tcpSendFlag s seq ack flag).2 ≠ none) ∨
      ∃ room, Keeps { s with snd := synQueued s.snd seq flag room } (tcpSendFlag s seq ack flag).1 := by
  unfold tcpSendFlag
  split
  · exact Or.inl ⟨.of_frame s s.route s.error s.retry s.tm _, by simp⟩
  next r _ =>
  split
  · exact Or.inl ⟨.of_frame s s.route s.error s.retry s.tm _, by simp⟩
  rw [h]
  simp only [if_true]
  split
  · exact Or.inl ⟨.of_frame s s.route s.error s.retry s.tm _, by simp⟩
  · right
    refine ⟨headerRoom s r, .trans ?_ (submit_keeps _ _ _ _ _ _)⟩
    exact .of_frame { s with snd := synQueued s.snd seq flag (headerRoom s r) } s.route s.error s.retry _ _

variable {own : Prop} {iss : Seq} {data : List UInt8} {s s' : TcpSock}

lemma Fresh.syn (h : Fresh s) (flag : Flags) (room : ℕ) (hsyn : flag.syn = true)
    (hfin : flag.fin = false) (hsnd : s'.snd = synQueued s.snd s.snd.sndUna flag room) (hwnd : s'.win.sndWnd < 2 ^ 30)
    (hscale : s'.nego.sndWndScale ≤ 14) (hca : s'.cong.caState = .open) :
    ConnAt own s.snd.sndUna [] false 0 1 s' := by
  have hlen : tcpSkbSeqLen (skbAlloc s.snd.sndUna flag room room) = 1 := by
    simp [tcpSkbSeqLen, skbDataLen, SkBuff.payload, skbAlloc, hsyn, hfin]
  have hrtx : s'.snd.retransmitQueue = [skbAlloc s.snd.sndUna flag room room] := by
    rw [hsnd, synQueued, h.flight, List.nil_append]
  have hinv : SendInv s.snd.sndUna (sendStream [] false) 0 1 s'.snd := by
    refine ⟨by rw [hsnd, label_zero]; rfl, ?_, ?_, ?_, ?_, ?_, ?_, ?_, le_refl 1, ?_⟩
    · rw [hsnd, synQueued, h.nxt]
      rfl
    · rw [hsnd, synQueued, h.fin]
      rfl
    · rw [hrtx]
      exact ⟨(label_zero _).symm, by rw [hlen]; exact Nat.one_pos, by rw [hlen]; rfl⟩
    · rw [hsnd, synQueued, h.unsent]
      rfl
    · rw [hrtx, hsnd, synQueued, h.unsent]
      simp [syms, skbAlloc, SkBuff.payload, hsyn, hfin, sendStream]
    · rw [hsnd, synQueued, h.len]
      rfl
    · rw [hsnd, synQueued, h.len]
      exact Nat.two_pow_pos 31
    · rw [hsnd, synQueued, h.unsent]
      intro b hb
      cases hb
  refine ⟨⟨hinv, by simp, by omega, hwnd, hscale, by rw [hsnd]; exact h.max⟩, fun _ => rfl, fun _ => ⟨hca, rfl⟩,
    fun hne => absurd hca hne, ?_, ?_⟩
  · rw [hrtx]
    intro b hb _
    rw [List.mem_singleton.mp hb]
    rfl
  · rw [hrtx]
    intro _ b hb
    rw [List.mem_singleton.mp hb]
    exact List.cons_ne_nil _ _

lemma CaKeeps.open {c c' : CongState} (h : CaKeeps c c') (hc : c.caState = .open) : c'.caState = .open := by
  rcases h with h | ⟨h, -⟩
  · exact h
  · exact h.trans hc

lemma connectSyn_ok (h : connectSyn s = (s', none)) : ∃ s₁ room, s' = { s₁ with core.isConnected := true } ∧
      tcpSendFlag { s with core.state := .synSent } s.snd.sndNxt 0 { syn := true } = (s₁, none) ∧
      Keeps { s with core.state := .synSent, snd := synQueued s.snd s.snd.sndNxt { syn := true } room } s₁ := by
  have hsyn := tcpSendFlag_syn { s with core.state := .synSent } s.snd.sndNxt 0 { syn := true } rfl
  rw [connectSyn] at h
  split at h
  · next s₁ he =>
    rw [he] at hsyn
    rcases hsyn with ⟨-, hne⟩ | ⟨room, hk⟩
    · exact absurd rfl hne
    · exact ⟨s₁, room, (Prod.mk.inj h).1.symm, he, hk⟩
  · cases h

lemma connectSyn_inv (h : Fresh s) (hs : connectSyn s = (s', none)) : ConnAt own s.snd.sndUna [] false 0 1 s' := by
  obtain ⟨s₁, room, rfl, -, hk⟩ := connectSyn_ok hs
  refine h.syn { syn := true } room rfl rfl (hk.snd.trans ?_) ?_ ?_ (hk.cong.open h.ca)
  · rw [h.nxt]
  · exact Nat.lt_of_le_of_lt (Nat.le_of_eq (congrArg SndWin.sndWnd hk.win)) h.wnd
  · exact (Nat.le_of_eq hk.scale).trans h.scale

lemma connectSyn_state {t t₁ : TcpSock} (h : connectSyn t = (t₁, none)) : t₁.core.state = .synSent := by
  obtain ⟨s₁, room, rfl, -, hk⟩ := connectSyn_ok h
  exact congrArg SockCore.state hk.core

structure ChildReady (s s₁ : TcpSock) : Prop where
  snd : s₁.snd = s.snd
  rcv : s₁.rcv = { s.rcv with rcvNxt := s₁.rcv.rcvNxt }
  core : s₁.core = { s.core with state := .synReceived, parentSock := true, fdEntry := false, isConnected := true }
  wire : s₁.env.wire = s.env.wire

lemma childSyn_frame (s : TcpSock) (hdr : TcpHdr) : ∃ s₁ n c r w re t, s₁ = { s with
      core := { s.core with state := .synReceived, parentSock := true, fdEntry := false, isConnected := true }
      nego := n
      cong := c
      rcv.rcvNxt := r
      win.sndWnd := w
      retry := re
      tm := t } ∧
    (s.nego.sndWndScale ≤ 14 → n.sndWndScale ≤ 14) ∧ (c = s.cong ∨ c = tcpCongestionInit n) ∧
    (w = s.win.sndWnd ∨ w = tcpDecodeWindow n hdr.window hdr.flags) ∧
    (childSyn s hdr = s₁ ∨
      childSyn s hdr = (tcpSendFlag s₁ s₁.snd.sndUna s₁.rcv.rcvNxt { syn := true, ack := true }).1) := by
  let s₀ : TcpSock := { s with
    core := { s.core with state := .synReceived, parentSock := true, fdEntry := false, isConnected := true } }
  obtain ⟨c, hp, hc⟩ := parseTcpOptions_frame s₀ hdr
  have hscale := parsedOptions_scale s₀ hdr
  rw [childSyn]
  dsimp only
  split
  · next s₁ he =>
    obtain rfl : s₁ = _ := (congrArg Prod.fst he).symm.trans hp
    exact ⟨_, _, c, s.rcv.rcvNxt, s.win.sndWnd, s.retry, s.tm, rfl, hscale, hc, .inl rfl, .inl rfl⟩
  · next s₁ he =>
    obtain rfl : s₁ = _ := (congrArg Prod.fst he).symm.trans hp
    obtain ⟨re, t, hw⟩ := tcpSndWinChange_frame
      { s₀ with nego := (parsedOptions s₀ hdr).1, cong := c, rcv.rcvNxt := hdr.seq + 1 }
      (tcpDecodeWindow (parsedOptions s₀ hdr).1 hdr.window hdr.flags)
    exact ⟨_, _, c, hdr.seq + 1, _, re, t, hw, hscale, hc, .inr rfl, .inr rfl⟩

lemma childSyn_ready (s : TcpSock) (hdr : TcpHdr) : ∃ s₁, ChildReady s s₁ ∧ (childSyn s hdr = s₁ ∨
    childSyn s hdr = (tcpSendFlag s₁ s₁.snd.sndUna s₁.rcv.rcvNxt { syn := true, ack := true }).1) := by
  obtain ⟨s₁, n, c, r, w, re, t, rfl, -, -, -, he⟩ := childSyn_frame s hdr
  exact ⟨{ s with core := _, nego := n, cong := c, rcv.rcvNxt := r, win.sndWnd := w, retry := re, tm := t },
    ⟨rfl, rfl, rfl, rfl⟩, he⟩

lemma childSyn_cases (h : Fresh s) (hdr : TcpHdr) : ConnAt own s.snd.sndUna [] false 0 1 (childSyn s hdr) ∨
      ((childSyn s hdr).snd = s.snd ∧ (childSyn s hdr).core.state = .synReceived ∧
        (childSyn s hdr).win.sndWnd < 2 ^ 30 ∧ (childSyn s hdr).nego.sndWndScale ≤ 14 ∧
        (childSyn s hdr).cong.caState = .open) := by
  obtain ⟨s₁, n, c, r, w, re, t, hs₁, hn, hc, hw, he⟩ := childSyn_frame s hdr
  have hscale := hn h.scale
  have hopen : c.caState = .open := by
    rcases hc with rfl | rfl
    · exact h.ca
    · rfl
  have hwnd : w < 2 ^ 30 := by
    rcases hw with rfl | rfl
    · exact h.wnd
    · exact tcpDecodeWindow_lt _ hscale hdr.windowLt hdr.flags
  rcases he with he | he
  · rw [he, hs₁]
    exact Or.inr ⟨rfl, rfl, hwnd, hscale, hopen⟩
  · subst hs₁
    rw [he]
    rcases tcpSendFlag_syn _ s.snd.sndUna r { syn := true, ack := true } rfl with ⟨hk, -⟩ | ⟨room, hk⟩
    · exact Or.inr ⟨hk.snd, by rw [hk.core], by rw [hk.win]; exact hwnd, by rw [hk.scale]; exact hscale,
        hk.cong.open hopen⟩
    · refine Or.inl (h.syn { syn := true, ack := true } room rfl rfl hk.snd ?_ ?_ (hk.cong.open hopen))
      · rw [hk.win]
        exact hwnd
      · rw [hk.scale]
        exact hscale

lemma Opened.start (h : Opened iss s) : ConnAt own iss [] false 0 1 s := by
  cases h with
  | active hf hs => exact connectSyn_inv hf hs
  | passive hdr hf hq =>
    rcases childSyn_cases hf hdr with hinv | ⟨hsnd, -⟩
    · exact hinv
    · rw [hsnd] at hq
      exact absurd hf.flight hq

lemma Opened.inv (h : Opened iss s) : ConnInv own iss [] s := ⟨false, 0, 1, h.start⟩

def writtenBy (s : TcpSock) (e : Event) : List UInt8 :=
  if e.action.enabled s then
    match e.action with
    | .write buf expired => acceptedBy buf (tcpWrite (s.withInputs e.inputs) buf expired).2
    | _ => []
  else []

/-- A segment that arrives does not acknowledge just the text of a segment with text and FIN. -/
def StepClean (s : TcpSock) (e : Event) : Prop :=
  match e.action with
  | .input g => AckClean s g
  | _ => True

lemma step_inv (h : ConnInv own iss data s) (e : Event) (hc : own → StepClean s e) :
    Preserves own iss (data ++ writtenBy s e) s (step s e) := by
  obtain ⟨fin, u, x, h⟩ := h
  have h₁ : ConnAt own iss data fin u x (s.withInputs e.inputs) := h.quiet _ _ _ _ _
  have hf₁ : own → Adds Benign s (s.withInputs e.inputs) := fun _ => .of_eq rfl
  have hnone {s' : TcpSock} (hp : Preserves own iss data (s.withInputs e.inputs) s') :
      Preserves own iss (data ++ []) s s' := by
    rw [List.append_nil]
    exact Preserves.trans hf₁ hp
  obtain ⟨action, inputs⟩ := e
  simp only [step, writtenBy]
  split
  · cases action with
    | input g => exact hnone (tcpInput_inv h₁ g hc)
    | write buf expired => exact Preserves.trans hf₁ (tcpWrite_inv h₁ buf expired)
    | _ => exact hnone ((act_moves _ rfl fun _ _ h => by cases h).preserves h₁)
  · rw [List.append_nil]
    exact h.same rfl

structure Sender where
  sock : TcpSock
  accepted : List UInt8 := []

def sendStep (p : Sender) (e : Event) : Sender :=
  { sock := step p.sock e, accepted := p.accepted ++ writtenBy p.sock e }

lemma run_inv (h : Opened iss s) (es : List Event) :
    ConnInv False iss (run sendStep { sock := s } es).accepted (run sendStep { sock := s } es).sock := by
  apply run_always (I := fun p : Sender => ConnInv False iss p.accepted p.sock)
  · intro p e hp
    exact (step_inv hp e False.elim).1
  · exact h.inv

/-- The retransmit queue tiles `[u, x)` and the send queue the rest; together they hold the bytes taken
and not yet acknowledged (position 0 is the SYN), and the FIN is the last number if there is one. -/
structure QueuesTile (iss : Seq) (p : Sender) (u x : ℕ) (fin : Bool) : Prop where
  una : p.sock.snd.sndUna = label iss u
  nxt : p.sock.snd.sndNxt = label iss x
  sndEnd : p.sock.snd.sndEnd = label iss (p.accepted.length + 1 + fin.toNat)
  flight : SegTiles iss u p.sock.snd.retransmitQueue x
  unsent : SegTiles iss x p.sock.snd.sendQueue (p.accepted.length + 1 + fin.toNat)
  oneLap : p.accepted.length + 1 + fin.toNat < u + 2 ^ 32
  payload : queueBytes (p.sock.snd.retransmitQueue ++ p.sock.snd.sendQueue) = p.accepted.drop (u - 1)
  finLast : ∀ pre b post, p.sock.snd.retransmitQueue ++ p.sock.snd.sendQueue = pre ++ b :: post →
    b.flag.fin = true → post = []

theorem send_queues_tile {iss : Seq} {s : TcpSock} (h : Opened iss s) (es : List Event) :
    ∃ u x fin, QueuesTile iss (run sendStep { sock := s } es) u x fin := by
  obtain ⟨fin, u, x, hc⟩ := run_inv h es
  have hs := hc.send
  have hlen := sendStream_length (run sendStep { sock := s } es).accepted fin
  have hone : fin.toNat ≤ 1 := Bool.toNat_le fin
  refine ⟨u, x, fin, hs.una, hs.nxt, hlen ▸ hs.fin, hs.flight, hlen ▸ hs.unsent, ?_, ?_, ?_⟩
  · have hb := hs.bytes
    have hlt := hs.bound
    rw [bytesOf_sendStream_drop, List.length_drop] at hb
    omega
  · rw [← bytesOf_queueSyms, hs.stream, bytesOf_sendStream_drop]
  · intro pre b post hq hfin
    exact hs.fin_last hq hfin

lemma boundSock_fresh : Fresh boundSock := by
  constructor <;> simp [boundSock, tcpPcbInit, tcpCongestionInit]

lemma openSock_opened : Opened 0 openSock := .active boundSock_fresh rfl

def shortRun : List Event :=
  [{ action := .input (bareSegment (plainHdr 500 1 { syn := true, ack := true })), inputs.now := 1000 },
   { action := .write [1, 2, 3] false, inputs.now := 1001 },
   { action := .shutdown .wr, inputs.now := 1002 },
   { action := .timer, inputs.now := 1010 }]

theorem send_queues_tile_short_run :
    ∃ u x fin, QueuesTile 0 (run sendStep { sock := openSock } shortRun) u x fin :=
  send_queues_tile openSock_opened shortRun

end Netfast.Tcp
