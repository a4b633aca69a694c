import Netfast.Tcp.Scale
import Netfast.Tcp.SendRun

/-! Two sockets of this stack open a connection with each other: they agree on window scaling. -/

namespace Netfast.Tcp

open Serial Skbuff Run

structure Copies (w : WireSeg) (h : TcpHdr) : Prop where
  seq : h.seq = w.seq
  ack : h.ackSeq = w.ack
  flags : h.flags = w.flags
  window : h.window = w.window
  options : h.options = w.options

instance (w : WireSeg) (h : TcpHdr) : Decidable (Copies w h) :=
  decidable_of_iff (h.seq = w.seq ∧ h.ackSeq = w.ack ∧ h.flags = w.flags ∧ h.window = w.window ∧ h.options = w.options)
    ⟨fun ⟨a, b, c, d, e⟩ => ⟨a, b, c, d, e⟩, fun ⟨a, b, c, d, e⟩ => ⟨a, b, c, d, e⟩⟩

/-- `n'` is what is remembered after an offer may have been heard in state `n`. -/
structure Heard (n n' : Nego) : Prop where
  sent : n'.wndScaleSent = n.wndScaleSent
  own : n'.rcvWndScale = n.rcvWndScale
  ts : n'.peerTsOk = n.peerTsOk
  offer : (n'.peerWndScaleOk = true ∧ n'.sndWndScale = tcpRcvWndScaleDefault) ∨
    (n'.peerWndScaleOk = n.peerWndScaleOk ∧ n'.sndWndScale = n.sndWndScale)

variable {n : Nego} {s' : TcpSock} {w : WireSeg}

lemma applyOption_mss (syn hs : Bool) (now : ℕ) (body : List UInt8) (n : Nego) :
    ∃ n₁, applyOption syn hs now 2 4 body n = some n₁ ∧ SameScale n n₁ := by
  cases hs with
  | false => exact ⟨n, by simp [applyOption], .refl n⟩
  | true =>
    simp only [applyOption, and_self, if_true]
    split
    · exact ⟨n, rfl, .refl n⟩
    · exact ⟨_, rfl, ⟨rfl, rfl, rfl, rfl, rfl⟩⟩

lemma applyOption_scale (syn hs : Bool) (now : ℕ) (n : Nego) :
    ∃ n₁, applyOption syn hs now 3 3 [UInt8.ofNat tcpRcvWndScaleDefault] n = some n₁ ∧ Heard n n₁ ∧
      (hs = true → n₁.peerWndScaleOk = true) := by
  cases hs with
  | false => exact ⟨n, by simp [applyOption], ⟨rfl, rfl, rfl, .inr ⟨rfl, rfl⟩⟩, fun h => by cases h⟩
  | true =>
    refine ⟨{ n with sndWndScale := tcpRcvWndScaleDefault, peerWndScaleOk := true }, ?_,
      ⟨rfl, rfl, rfl, .inl ⟨rfl, rfl⟩⟩, fun _ => rfl⟩
    simp [applyOption, ntoh, tcpRcvWndScaleDefault]

lemma Heard.after {n₁ n' : Nego} (h : Heard n₁ n') (h₁ : SameScale n n₁) : Heard n n' := by
  refine ⟨h.sent.trans h₁.sent, h.own.trans h₁.own, h.ts.trans h₁.ts, h.offer.imp_right ?_⟩
  rintro ⟨hok, hshift⟩
  exact ⟨hok.trans h₁.heard, hshift.trans h₁.shift⟩

lemma optionLoop_offer (syn hs : Bool) (now mss : ℕ) (n : Nego) :
    ∃ n', optionLoop syn hs now 8 ([2, 4] ++ hton16 mss ++ [1, 3, 3, UInt8.ofNat tcpRcvWndScaleDefault]) n = (n', true) ∧
      Heard n n' ∧ (hs = true → n'.peerWndScaleOk = true) := by
  obtain ⟨n₁, hmss, h₁⟩ := applyOption_mss syn hs now
    (hton16 mss ++ [1, 3, 3, UInt8.ofNat tcpRcvWndScaleDefault]) n
  obtain ⟨n', hscale, h', hok⟩ := applyOption_scale syn hs now n₁
  refine ⟨n', ?_, h'.after h₁, hok⟩
  rw [hton16] at hmss ⊢
  generalize UInt8.ofNat (mss / 2 ^ 8) = high at hmss ⊢
  simp only [List.cons_append, List.nil_append] at hmss ⊢
  simp [optionLoop, hmss, hscale]

lemma parseTcpOptions_offer (s : TcpSock) {h : TcpHdr} (hw : Offers w) (hc : Copies w h) :
    ∃ n c, parseTcpOptions s h = ({ s with nego := n, cong := c }, true) ∧ Heard s.nego n ∧
      (isHandshake s h.flags = true → n.peerWndScaleOk = true) ∧ (h.flags.syn = false → n = s.nego) := by
  have hparsed : ∃ n, parsedOptions s h = (n, true) ∧ Heard s.nego n ∧
      (isHandshake s h.flags = true → n.peerWndScaleOk = true) ∧ (h.flags.syn = false → n = s.nego) := by
    rw [parsedOptions]
    cases hs : h.flags.syn with
    | false =>
      have ho : h.options = [] := by
        rw [hc.options]
        exact hw.plain (by rw [← hc.flags]; exact hs)
      rw [ho]
      refine ⟨s.nego, rfl, ⟨rfl, rfl, rfl, .inr ⟨rfl, rfl⟩⟩, fun hh => ?_, fun _ => rfl⟩
      rw [isHandshake, hs] at hh
      cases hh
    | true =>
      obtain ⟨-, mss, ho⟩ := hw.syn (by rw [← hc.flags]; exact hs)
      obtain ⟨n, hloop, hn, hok⟩ := optionLoop_offer true (isHandshake s h.flags) s.env.now mss s.nego
      rw [hc.options, ho]
      exact ⟨n, hloop, hn, hok, fun hf => by cases hf⟩
  obtain ⟨n, he, hn, hok, hplain⟩ := hparsed
  obtain ⟨c, hf, -⟩ := parseTcpOptions_frame s h
  refine ⟨n, c, Prod.ext ?_ ?_, hn, hok, hplain⟩
  · rw [hf, he]
  · rw [parseTcpOptions_ok, he]

lemma synOk_mono {heard heard' : Bool} {q : List SkBuff} (hh : heard = true → heard' = true) (h : QueueOk heard q) :
    QueueOk heard' q :=
  fun b hb hs => ⟨(h b hb hs).1, fun ha => hh ((h b hb hs).2 ha)⟩

lemma Heard.peer {n' : Nego} (h : Heard n n') (hp : n.peerWndScaleOk = true) : n'.peerWndScaleOk = true := by
  rcases h.offer with ⟨ho, -⟩ | ⟨ho, -⟩
  · exact ho
  · exact ho.trans hp

lemma Spoken.heard {s : TcpSock} (h : Spoken s) (hn : Heard s.nego n) (c : CongState) :
    Spoken { s with nego := n, cong := c } := by
  refine ⟨hn.ts.trans h.quiet, h.wire, ?_, ?_, synOk_mono hn.peer h.flight, synOk_mono hn.peer h.unsent⟩
  · change n.wndScaleSent = true → n.rcvWndScale = _
    rw [hn.sent, hn.own]
    exact h.own
  · change n.peerWndScaleOk = true → n.sndWndScale = _
    rcases hn.offer with ⟨-, hs⟩ | ⟨hp, hs⟩
    · exact fun _ => hs
    · rw [hp, hs]
      exact h.peer

structure Blank (s : TcpSock) : Prop where
  flight : s.snd.retransmitQueue = []
  unsent : s.snd.sendQueue = []
  nxt : s.snd.sndNxt = s.snd.sndUna
  sent : s.nego.wndScaleSent = false
  heard : s.nego.peerWndScaleOk = false
  ts : s.nego.peerTsOk = false

lemma boundSock_blank : Blank boundSock := ⟨rfl, rfl, rfl, rfl, rfl, rfl⟩

structure Mute (s : TcpSock) : Prop where
  state : s.core.state = .synReceived
  flight : s.snd.retransmitQueue = []
  unsent : s.snd.sendQueue = []
  nxt : s.snd.sndNxt = s.snd.sndUna
  fd : s.core.fdEntry = false
  wnd : s.win.sndWnd < 2 ^ 31

def Both (s : TcpSock) : Prop := s.nego.wndScaleSent = true ∧ s.nego.peerWndScaleOk = true

inductive Opening (s : TcpSock) : Prop
  | both (h : Both s)
  | closed (h : s.core.state = .closed)
  | synSent (h : s.core.state = .synSent) (hs : s.nego.wndScaleSent = true)
  | mute (h : Mute s)

structure ScaleInv (s : TcpSock) : Prop where
  spoken : Spoken s
  opening : Opening s

variable {s : TcpSock}

lemma Told.inv_both (h : Spoken s) (hb : Both s) (ht : Told s s') : ScaleInv s' :=
  ⟨(ht h).spoken, .both ⟨(ht h).sent hb.1, (ht h).heard.trans hb.2⟩⟩

lemma Calls.inv (h : ScaleInv s) (hc : Calls s s') (hm : Mute s → Mute s' ∨ s'.core.state = .closed) :
    ScaleInv s' := by
  have hsp := hc.told h.spoken
  cases h.opening with
  | both hb => exact hc.told.inv_both h.spoken hb
  | closed hs => exact ⟨hsp.spoken, .closed (by rcases hc.halts (.inl hs) with he | he <;> simp [he, hs])⟩
  | synSent hs hsent =>
    rcases hc.halts (.inr hs) with he | he
    · exact ⟨hsp.spoken, .synSent (he.trans hs) (hsp.sent hsent)⟩
    · exact ⟨hsp.spoken, .closed he⟩
  | mute hm' =>
    rcases hm hm' with hm' | hs
    · exact ⟨hsp.spoken, .mute hm'⟩
    · exact ⟨hsp.spoken, .closed hs⟩

lemma tcpSendFlag_offers (s : TcpSock) (seq ack : Seq) (flag : Flags) (hsyn : flag.syn = true)
    (h : tcpShouldSendWindowScale s.nego flag = true) :
    (tcpSendFlag s seq ack flag).1.nego.wndScaleSent = true ∨
      Keeps s (tcpSendFlag s seq ack flag).1 ∧ (tcpSendFlag s seq ack flag).2 ≠ none := by
  have hsubmit (t : TcpSock) (ht : t.nego = s.nego) : (submit t seq ack flag [] true).1.nego.wndScaleSent = true := by
    have hopt : (makeTcpOptions t.nego t.env.now flag).2.wndScaleSent = true := by
      rw [makeTcpOptions, ht]
      simp only [h, if_true]
    obtain ⟨f, ws, he⟩ := ipOutput_frame { t with nego := (makeTcpOptions t.nego t.env.now flag).2 } {
      seq, ack, flags := flag, payload := []
      window := tcpEncodeWindow (makeTcpOptions t.nego t.env.now flag).2 t.rcv.rcvWnd flag
      options := (makeTcpOptions t.nego t.env.now flag).1 }
    rw [submit]
    dsimp only
    split
    · next s₁ hs =>
      rw [hs] at he
      rw [show s₁ = _ from he]
      exact hopt
    · next s₁ hs =>
      rw [hs] at he
      rw [show s₁ = _ from he]
      split
      · exact hopt
      · exact hopt
  rw [tcpSendFlag.eq_def]
  split
  · exact .inr ⟨.of_frame s s.route s.error s.retry s.tm _, by simp⟩
  split
  · exact .inr ⟨.of_frame s s.route s.error s.retry s.tm _, by simp⟩
  rw [if_pos hsyn]
  split
  · exact .inr ⟨.of_frame s s.route s.error s.retry s.tm _, by simp⟩
  · exact .inl (hsubmit _ rfl)

lemma connectSyn_scale (h : Spoken s) : ScaleInv (connectSyn s).1 := by
  have ht : Told s (tcpSendFlag { s with core.state := .synSent } s.snd.sndNxt 0 { syn := true }).1 :=
    (tcpSendFlag_told { s with core.state := .synSent } s.snd.sndNxt 0 (fun _ => ⟨rfl, fun ha => by cases ha⟩)).after
      rfl rfl rfl
  have hsent := tcpSendFlag_offers { s with core.state := .synSent } s.snd.sndNxt 0 { syn := true } rfl rfl
  have hstate := tcpSendFlag_syn { s with core.state := .synSent } s.snd.sndNxt 0 { syn := true } rfl
  rw [connectSyn]
  split
  · next s₁ he =>
    rw [he] at ht hsent hstate
    have hs₁ : s₁.core.state = .synSent := by
      rcases hstate with ⟨-, hne⟩ | ⟨room, hk⟩
      · exact absurd rfl hne
      · rw [hk.core]
    refine ⟨(ht h).spoken.congr rfl rfl rfl, .synSent hs₁ ?_⟩
    rcases hsent with hsent | ⟨-, hne⟩
    · exact hsent
    · exact absurd rfl hne
  · next s₁ e he =>
    rw [he] at ht
    exact ⟨(ht h).spoken.congr rfl rfl rfl, .closed rfl⟩

variable {hdr : TcpHdr}

lemma childSyn_scale (h : Spoken s) (hb : Blank s) (hw : Offers w) (hc : Copies w hdr)
    (hsyn : hdr.flags.syn = true) : ScaleInv (childSyn s hdr) := by
  let s₀ : TcpSock := { s with
    core.state := .synReceived
    core.parentSock := true
    core.fdEntry := false
    core.isConnected := true }
  have h₀ : Spoken s₀ := h.congr rfl rfl rfl
  obtain ⟨n, c, hp, hn, hok, -⟩ := parseTcpOptions_offer s₀ hw hc
  have hheard : n.peerWndScaleOk = true := hok (by rw [isHandshake, hsyn]; rfl)
  have h₁ := h₀.heard hn c
  rw [childSyn]
  dsimp only
  rw [hp]
  dsimp only
  obtain ⟨re, t, hwin⟩ := tcpSndWinChange_frame
    { s₀ with nego := n, cong := c, rcv.rcvNxt := hdr.seq + 1 } (tcpDecodeWindow n hdr.window hdr.flags)
  rw [hwin]
  generalize hs₂ : ({ s₀ with
    nego := n, cong := c, rcv.rcvNxt := hdr.seq + 1, win.sndWnd := tcpDecodeWindow n hdr.window hdr.flags
    retry := re, tm := t } : TcpSock) = s₂
  have hsame : s₂.nego = n ∧ s₂.win.sndWnd = hdr.window ∧ s₂.snd = s₀.snd ∧ s₂.core = s₀.core := by
    rw [← hs₂]
    refine ⟨rfl, ?_, rfl, rfl⟩
    change tcpDecodeWindow n hdr.window hdr.flags = hdr.window
    rw [tcpDecodeWindow, hsyn, Bool.true_or, if_pos rfl]
  have h₂ : Spoken s₂ := by
    rw [← hs₂]
    exact h₁.congr rfl rfl rfl
  have hheard₂ : s₂.nego.peerWndScaleOk = true := by
    rw [hsame.1]
    exact hheard
  have ht : Says s₂ (tcpSendFlag s₂ s₂.snd.sndUna s₂.rcv.rcvNxt { syn := true, ack := true }).1 :=
    tcpSendFlag_told s₂ s₂.snd.sndUna s₂.rcv.rcvNxt (fun _ => ⟨rfl, fun _ => hheard₂⟩) h₂
  refine ⟨ht.spoken, ?_⟩
  rcases tcpSendFlag_offers s₂ s₂.snd.sndUna s₂.rcv.rcvNxt { syn := true, ack := true } rfl hheard₂ with
    hsent | ⟨hk, -⟩
  · exact .both ⟨hsent, ht.heard.trans hheard₂⟩
  · refine .mute ⟨?_, ?_, ?_, ?_, ?_, ?_⟩
    · rw [hk.core, hsame.2.2.2]
    · rw [hk.snd, hsame.2.2.1]
      exact hb.flight
    · rw [hk.snd, hsame.2.2.1]
      exact hb.unsent
    · rw [hk.snd, hsame.2.2.1]
      exact hb.nxt
    · rw [hk.core, hsame.2.2.2]
    · have := hdr.windowLt
      rw [hk.win, hsame.2.1]
      omega

lemma Mute.frame (h : Mute s) (hc : s'.core = s.core) (hs : s'.snd = s.snd) (hw : s'.win = s.win) : Mute s' := by
  refine ⟨?_, ?_, ?_, ?_, ?_, ?_⟩
  · rw [hc, h.state]
  · rw [hs, h.flight]
  · rw [hs, h.unsent]
  · rw [hs, h.nxt]
  · rw [hc, h.fd]
  · rw [hw]
    exact h.wnd

lemma Mute.keeps (h : Mute s) (hk : Keeps s s') : Mute s' := h.frame hk.core hk.snd hk.win

lemma destroyTcpSocket_state (s : TcpSock) : (destroyTcpSocket s).core.state = .closed := by
  obtain ⟨fr, no, he⟩ := destroyTcpSocket_frame s
  rw [he]

lemma Mute.timer (h : Mute s) : Mute (tcpTimerCb s) ∨ (tcpTimerCb s).core.state = .closed := by
  have hclear (d : Deadline) : Mute (s.clearDeadline d) := h.frame rfl rfl rfl
  simp only [tcpTimerCb]
  split
  · left
    rw [if_pos (hclear .nagle).unsent]
    exact hclear .nagle
  split
  · left
    rw [retransmitTimeout, if_pos (hclear .retransmit).flight]
    exact hclear .retransmit
  split
  · exact .inl ((hclear .ack).keeps (tcpSendFlag_keeps _ _ _ _ rfl))
  split
  · left
    have hno : ¬((s.clearDeadline .persist).win.sndWnd = 0 ∧
        ((s.clearDeadline .persist).snd.retransmitQueue ≠ [] ∨ (s.clearDeadline .persist).snd.sendQueue ≠ [])) := by
      rintro ⟨-, hq | hq⟩
      · exact hq h.flight
      · exact hq h.unsent
    rw [persistTimeout, if_neg hno]
    exact hclear .persist
  split
  · exact .inr (destroyTcpSocket_state _)
  split
  · split
    · exact .inr (destroyTcpSocket_state _)
    · exact .inl (hclear .finwait2)
  split
  · left
    rw [keepaliveTimeout, if_pos (by simp [TcpSock.clearDeadline, h.state])]
    exact (hclear .keepalive).frame rfl rfl rfl
  · exact .inl h

lemma Mute.icmp (h : Mute s) (quoted : Option Seq) (err : Errno) :
    Mute (tcpIcmpProcess s quoted err) ∨ (tcpIcmpProcess s quoted err).core.state = .closed := by
  rw [tcpIcmpProcess]
  split
  · exact .inl h
  split
  · exact .inl h
  · simp only [h.state]
    exact .inr (destroyTcpSocket_state _)

lemma Mute.ack (h : Mute s) (hr : ackInRange s hdr.ackSeq = true) :
    ackSynReceived s hdr = ((tcpSendFlag s hdr.ackSeq 0 { rst := true }).1, true) := by
  have hwnd := h.wnd
  rw [ackInRange, Bool.and_eq_true, Bool.not_eq_true', Bool.not_eq_true', h.nxt, ← Bool.not_eq_true,
    ← Bool.not_eq_true, lt_iff, gt_iff] at hr
  -- the window keeps the acknowledgement away from the far side of the sequence space
  have hle : leq hdr.ackSeq s.snd.sndUna = true := by
    rw [leq_iff]
    omega
  have hlt : lt s.snd.sndUna hdr.ackSeq = false := by
    rw [← Bool.not_eq_true, lt_iff]
    bv_omega
  rw [ackSynReceived, hlt, Bool.false_and, if_neg Bool.false_ne_true, if_pos hle]

lemma Mute.input (h : Mute s) (g : Segment) :
    Mute (inputSynchronized s g) ∨ (inputSynchronized s g).core.state = .closed := by
  have hack : Mute s.ackNow := h.frame rfl rfl rfl
  rw [inputSynchronized]
  split
  · exact .inl hack
  split
  · split
    · right
      rw [inputRst]
      simp only [h.state]
      split
      · exact destroyTcpSocket_state _
      · exact destroyTcpSocket_state _
    · exact .inl hack
  split
  · rw [inputSyn]
    split
    · exact .inr (destroyTcpSocket_state _)
    · exact .inl hack
  split
  · exact .inl h
  split
  · exact .inl hack
  next hr =>
  rw [Bool.not_eq_true, Bool.not_eq_false'] at hr
  left
  simp only [inputAck, h.state, h.ack hr]
  exact h.keeps (tcpSendFlag_keeps s _ _ _ rfl)

lemma Mute.act (h : Mute s) {a : Action} (he : a.enabled s = true) : Mute (act s a) ∨ (act s a).core.state = .closed := by
  have huser (hfd : (!s.core.freed && s.core.fdEntry) = true) : Mute (Tcp.act s a) ∨ (Tcp.act s a).core.state = .closed := by
    rw [h.fd, Bool.and_false] at hfd
    cases hfd
  cases a with
  | input g =>
    obtain ⟨c, hp, -⟩ := parseTcpOptions_frame s g.hdr
    have hm : Mute (parseTcpOptions s g.hdr).1 := by
      rw [hp]
      exact h.frame rfl rfl rfl
    simp only [Tcp.act, tcpInput, h.state]
    split
    · next s₁ hs =>
      rw [hs] at hm
      exact .inl hm
    · next s₁ hs =>
      rw [hs] at hm
      exact hm.input g
  | timer => exact Mute.timer (s := { s with tm.registered := false }) (h.frame rfl rfl rfl)
  | accept =>
    simp only [Action.enabled, Bool.and_eq_true, bne_iff_ne] at he
    exact absurd h.state he.2
  | icmp quoted err => exact h.icmp quoted err
  | write buf expired => exact huser he
  | read len expired => exact huser he
  | shutdown how => exact huser he
  | setsockopt o => exact huser he
  | close => exact huser he

lemma synSentSyn_told (h : s.nego.peerWndScaleOk = true) (hdr : TcpHdr) : Told s (synSentSyn s hdr) := by
  obtain ⟨w, re, t, -, ⟨-, no, he⟩ | ⟨-, -, he⟩ | ⟨-, b, bs, hb, he⟩⟩ := synSentSyn_cases s hdr <;> rw [he]
  · exact .of_queues (.refl _) rfl fun hf hq => ⟨ackQueue_synOk hdr.ackSeq hf, hq⟩
  · exact .of_frame rfl rfl rfl
  · refine .of_queues (.refl _) rfl fun hf hq => ⟨?_, hq⟩
    rw [hb] at hf
    intro c hc
    rcases List.mem_cons.mp hc with rfl | hc
    · exact fun hs => ⟨(hf b List.mem_cons_self hs).1, fun _ => h⟩
    · exact hf c (List.mem_cons_of_mem b hc)

lemma tcpProcessSynSent_scale (h : Spoken s) (hs : s.core.state = .synSent) (hsent : s.nego.wndScaleSent = true)
    (hw : Offers w) (hc : Copies w hdr) : ScaleInv (tcpProcessSynSent s hdr) := by
  have hcall {t : TcpSock} (ht : Calls s t) : ScaleInv t := by
    refine ht.inv ⟨h, .synSent hs hsent⟩ fun hm => ?_
    rw [hm.state] at hs
    cases hs
  rcases tcpProcessSynSent_cases s hdr with ⟨-, he | ⟨-, he⟩⟩ | ⟨-, s₁, hs₁, he⟩
  · rw [he]
    exact hcall (.refl s)
  · rw [he]
    exact hcall (tcpSendFlag_calls s _ _ rfl)
  have hd : Calls s s₁ := by
    rcases hs₁ with ⟨rfl, -⟩ | ⟨-, rfl, -⟩
    · exact .refl s₁
    · exact ⟨(destroyed_beside ⟨rfl, rfl⟩).told, (destroyTcpSocket_spares _).halts.after rfl⟩
  obtain ⟨n, c, hp, hn, hok, hsame⟩ := parseTcpOptions_offer s₁ hw hc
  rw [hp] at he
  rcases he with he | ⟨hsyn, he⟩ | ⟨hsyn, he⟩
  · rw [he]
    exact hcall (hd.trans (.of_frame rfl rfl rfl rfl))
  · rw [he, hsame (hsyn rfl)]
    exact hcall (hd.trans (.of_frame rfl rfl rfl rfl))
  · -- no offer carries a reset as well
    obtain ⟨rfl, -⟩ : s₁ = s ∧ hdr.flags.rst = false := by
      refine hs₁.resolve_right fun hr => ?_
      have := (hw.syn (by rw [← hc.flags]; exact hsyn)).1
      rw [← hc.flags, hr.1] at this
      cases this
    have hheard : n.peerWndScaleOk = true := hok (by rw [isHandshake, hsyn, hs]; rfl)
    rw [he]
    exact (synSentSyn_told (s := { s₁ with nego := n, cong := c }) hheard hdr).inv_both (h.heard hn c)
      ⟨hn.sent.trans hsent, hheard⟩

lemma inputSynchronized_scale (h : ScaleInv s) (hs : s.core.state ≠ .closed ∧ s.core.state ≠ .synSent)
    (hn : Heard s.nego n) (c : CongState) (g : Segment) :
    ScaleInv (inputSynchronized { s with nego := n, cong := c } g) := by
  have hsp := h.spoken.heard hn c
  obtain ⟨d, hd, hm⟩ := inputSynchronized_view { s with nego := n, cong := c } g
  have ht := hd.told.trans hm.told
  cases h.opening with
  | both hb => exact ht.inv_both hsp ⟨hn.sent.trans hb.1, hn.peer hb.2⟩
  | closed hc => exact absurd hc hs.1
  | synSent hc _ => exact absurd hc hs.2
  | mute hm =>
    have hm' : Mute { s with nego := n, cong := c } := hm.frame rfl rfl rfl
    rcases hm'.input g with hm' | hcl
    · exact ⟨(ht hsp).spoken, .mute hm'⟩
    · exact ⟨(ht hsp).spoken, .closed hcl⟩

lemma tcpInput_scale (h : ScaleInv s) {g : Segment} (hw : Offers w) (hc : Copies w g.hdr) :
    ScaleInv (tcpInput s g) := by
  obtain ⟨n, c, hp, hn, -⟩ := parseTcpOptions_offer s hw hc
  rcases tcpInput_cases s g with ⟨hs, he⟩ | ⟨hs, he | ⟨seq, ack, fl, hfl, -, he⟩⟩ | ⟨hs, ⟨ho, -⟩ | ⟨-, he⟩⟩
  · have hsent : s.nego.wndScaleSent = true := by
      cases h.opening with
      | both hb => exact hb.1
      | closed hcl => rw [hs] at hcl; cases hcl
      | synSent _ hsent => exact hsent
      | mute hm => rw [hm.state] at hs; cases hs
    rw [he]
    exact tcpProcessSynSent_scale h.spoken hs hsent hw hc
  · rw [he]
    exact h
  · rw [he]
    refine (tcpSendFlag_calls s _ _ hfl).inv h fun hm => ?_
    rw [hm.state] at hs
    simp at hs
  · rw [hp] at ho
    cases ho
  · rw [he, hp]
    exact inputSynchronized_scale h ⟨hs.1, hs.2.2⟩ hn c g

def Genuine (peer : List WireSeg) : Action → Prop
  | .input g => ∃ w ∈ peer, Copies w g.hdr
  | _ => True

instance (peer : List WireSeg) : (a : Action) → Decidable (Genuine peer a)
  | .input g => inferInstanceAs (Decidable (∃ w ∈ peer, Copies w g.hdr))
  | .timer | .accept | .write _ _ | .read _ _ | .shutdown _ | .setsockopt _ | .close | .icmp _ _ => isTrue trivial

lemma act_scale (h : ScaleInv s) {a : Action} (he : a.enabled s = true) {peer : List WireSeg} (hp : ∀ w ∈ peer, Offers w)
    (hg : Genuine peer a) : ScaleInv (act s a) := by
  cases hs : a.segment? with
  | some g =>
    obtain rfl := a.eq_input hs
    obtain ⟨w, hmem, hc⟩ := hg
    exact tcpInput_scale h (hp w hmem) hc
  | none => exact (act_calls s hs).inv h fun hm => hm.act he

lemma ScaleInv.inputs (h : ScaleInv s) (i : Inputs) : ScaleInv (s.withInputs i) := by
  refine ⟨h.spoken.congr rfl rfl rfl, ?_⟩
  cases h.opening with
  | both hb => exact .both hb
  | closed hs => exact .closed hs
  | synSent hs hsent => exact .synSent hs hsent
  | mute hm => exact .mute (hm.frame rfl rfl rfl)

lemma step_scale (h : ScaleInv s) {e : Event} {peer : List WireSeg} (hp : ∀ w ∈ peer, Offers w)
    (hg : Genuine peer e.action) : ScaleInv (step s e) := by
  rw [step]
  split
  · next he => exact act_scale (h.inputs e.inputs) he hp hg
  · exact h

abbrev Ends := Bool → TcpSock

abbrev Child := { c : TcpSock // Blank c }

inductive EndEvent
  | connect (side : Bool) (i : Inputs)
  | answer (side : Bool) (child : Child) (h : TcpHdr) (i : Inputs)
  | act (side : Bool) (e : Event)

def Child.onWire (c : Child) (env : Env) (i : Inputs) : TcpSock := { c.1 with env := env }.withInputs i

def endStep (p : Ends) : EndEvent → Ends
  | .connect x i =>
    if (p x).core.state = .closed ∧ (p x).core.freed = false then
      Function.update p x (connectSyn ((p x).withInputs i)).1
    else p
  | .answer x c h i =>
    if (p x).core.state = .closed then Function.update p x (childSyn (c.onWire (p x).env i) h) else p
  | .act x e => Function.update p x (step (p x) e)

/-- Every segment that arrives was sent by the other end; a listener answers a SYN. -/
def FromPeer (p : Ends) : EndEvent → Prop
  | .connect _ _ => True
  | .answer x _ h _ => (h.flags.syn = true ∧ h.flags.ack = false) ∧ ∃ w ∈ (p !x).env.wire, Copies w h
  | .act x e => Genuine (p !x).env.wire e.action

instance (p : Ends) : (e : EndEvent) → Decidable (FromPeer p e)
  | .connect _ _ => isTrue trivial
  | .answer x _ h _ =>
    inferInstanceAs (Decidable ((h.flags.syn = true ∧ h.flags.ack = false) ∧ ∃ w ∈ (p !x).env.wire, Copies w h))
  | .act x e => inferInstanceAs (Decidable (Genuine (p !x).env.wire e.action))

lemma forall_update {p : Ends} (hp : ∀ x, ScaleInv (p x)) {x : Bool} {t : TcpSock} (ht : ScaleInv t) (y : Bool) :
    ScaleInv (Function.update p x t y) := by
  by_cases hxy : y = x
  · subst hxy
    rw [Function.update_self]
    exact ht
  · rw [Function.update_of_ne hxy]
    exact hp y

lemma endStep_scale (p : Ends) (e : EndEvent) (hp : ∀ x, ScaleInv (p x)) (he : FromPeer p e) :
    ∀ x, ScaleInv (endStep p e x) := by
  cases e with
  | connect x i =>
    rw [endStep]
    split
    · exact forall_update hp (connectSyn_scale ((hp x).inputs i).spoken)
    · exact hp
  | answer x c h i =>
    obtain ⟨⟨hsyn, -⟩, w, hmem, hc⟩ := he
    rw [endStep]
    split
    · refine forall_update hp (childSyn_scale ?_ ?_ ((hp !x).spoken.wire w hmem) hc hsyn)
      · have hb := c.2
        refine ⟨hb.ts, (hp x).spoken.wire, fun hs => ?_, fun hs => ?_, fun b hmem => ?_, fun b hmem => ?_⟩
        · rw [show (c.onWire (p x).env i).nego = c.1.nego from rfl, hb.sent] at hs
          cases hs
        · rw [show (c.onWire (p x).env i).nego = c.1.nego from rfl, hb.heard] at hs
          cases hs
        · rw [show (c.onWire (p x).env i).snd = c.1.snd from rfl, hb.flight] at hmem
          cases hmem
        · rw [show (c.onWire (p x).env i).snd = c.1.snd from rfl, hb.unsent] at hmem
          cases hmem
      · exact ⟨c.2.flight, c.2.unsent, c.2.nxt, c.2.sent, c.2.heard, c.2.ts⟩
    · exact hp
  | act x e => exact forall_update hp (step_scale (hp x) (hp !x).spoken.wire he)

/-- Two sockets before any of them spoke. -/
structure Silence (s : TcpSock) : Prop where
  blank : Blank s
  state : s.core.state = .closed
  wire : s.env.wire = []

lemma Silence.scale (h : Silence s) : ScaleInv s := by
  refine ⟨⟨h.blank.ts, ?_, fun hs => ?_, fun hs => ?_, ?_, ?_⟩, .closed h.state⟩
  · rw [h.wire]
    exact fun w hw => by cases hw
  · rw [h.blank.sent] at hs
    cases hs
  · rw [h.blank.heard] at hs
    cases hs
  · rw [h.blank.flight]
    exact fun b hb => by cases hb
  · rw [h.blank.unsent]
    exact fun b hb => by cases hb

lemma ScaleInv.established (h : ScaleInv s) (hs : s.core.state = .established) :
    tcpWindowScaleNegotiated s.nego = true ∧ s.nego.rcvWndScale = tcpRcvWndScaleDefault ∧
      s.nego.sndWndScale = tcpRcvWndScaleDefault := by
  cases h.opening with
  | both hb =>
    refine ⟨?_, h.spoken.own hb.1, h.spoken.peer hb.2⟩
    rw [tcpWindowScaleNegotiated, hb.1, hb.2]
    rfl
  | closed hc => rw [hs] at hc; cases hc
  | synSent hc _ => rw [hs] at hc; cases hc
  | mute hm => rw [hm.state] at hs; cases hs

lemma decode_encode {m : Nego} (hn : tcpWindowScaleNegotiated n = true) (hm : tcpWindowScaleNegotiated m = true)
    (hshift : n.rcvWndScale = m.sndWndScale) {flags : Flags} (hf : flags.syn = false) {w : ℕ}
    (hw : w ≤ 65535 * 2 ^ n.rcvWndScale) :
    tcpDecodeWindow m (tcpEncodeWindow n w flags) flags ≤ w ∧
      w < tcpDecodeWindow m (tcpEncodeWindow n w flags) flags + 2 ^ n.rcvWndScale := by
  have hle : w / 2 ^ n.rcvWndScale ≤ 65535 := Nat.div_le_of_le_mul (by rw [Nat.mul_comm]; exact hw)
  rw [tcpDecodeWindow, tcpEncodeWindow, hf, hn, hm, ← hshift]
  simp only [Bool.not_false, Bool.and_self, Bool.not_true, Bool.or_self, Bool.false_eq_true, if_true, if_false]
  rw [Nat.shiftRight_eq_div_pow, Nat.min_eq_left hle, Nat.shiftLeft_eq]
  have hdiv := Nat.div_add_mod' w (2 ^ n.rcvWndScale)
  have hmod := Nat.mod_lt w (Nat.two_pow_pos n.rcvWndScale)
  omega

/-- `x` sends scaled windows, the other end reads them with the same shift. -/
theorem window_scale_agrees {p : Ends} (hp : ∀ x, Silence (p x)) (es : List EndEvent) (hes : Meets endStep FromPeer p es)
    (x : Bool) (hx : (run endStep p es x).core.state = .established)
    (hy : (run endStep p es !x).core.state = .established) :
    (tcpWindowScaleNegotiated (run endStep p es x).nego = true ↔
      tcpWindowScaleNegotiated (run endStep p es !x).nego = true) ∧
    (run endStep p es x).nego.rcvWndScale = (run endStep p es !x).nego.sndWndScale ∧
    ∀ (flags : Flags) (w : ℕ), flags.syn = false → w ≤ 65535 * 2 ^ (run endStep p es x).nego.rcvWndScale →
      tcpDecodeWindow (run endStep p es !x).nego (tcpEncodeWindow (run endStep p es x).nego w flags) flags ≤ w ∧
      w < tcpDecodeWindow (run endStep p es !x).nego (tcpEncodeWindow (run endStep p es x).nego w flags) flags +
        2 ^ (run endStep p es x).nego.rcvWndScale := by
  have h : ∀ x, ScaleInv (run endStep p es x) :=
    run_invariant (I := fun q : Ends => ∀ x, ScaleInv (q x)) endStep_scale (fun x => (hp x).scale) hes
  obtain ⟨hnx, hown, -⟩ := (h x).established hx
  obtain ⟨hny, -, hpeer⟩ := (h !x).established hy
  have hshift := hown.trans hpeer.symm
  exact ⟨iff_of_true hnx hny, hshift, fun flags w hf hw => decode_encode hnx hny hshift hf hw⟩

def offerBytes : List UInt8 := [2, 4, 2, 24, 1, 3, 3, 6]

def synHdr (ackSeq : Seq) (ack : Bool) : TcpHdr :=
  { plainHdr 0 ackSeq { syn := true, ack } with options := offerBytes, optionsLe := by decide }

def ackHdr : TcpHdr := { plainHdr 1 1 { ack := true } with window := 4096, windowLt := by decide }

def handshake : List EndEvent :=
  [.connect false { now := 1 },
    .answer true ⟨boundSock, boundSock_blank⟩ (synHdr 0 false) { now := 2 },
    .act false { action := .input (bareSegment (synHdr 1 true)), inputs := { now := 3 } },
    .act false { action := .timer, inputs := { now := 3 } },
    .act true { action := .input (bareSegment ackHdr), inputs := { now := 4 } }]

theorem window_scale_agrees_handshake :
    (run endStep (fun _ => boundSock) handshake false).nego.rcvWndScale =
      (run endStep (fun _ => boundSock) handshake true).nego.sndWndScale :=
  (window_scale_agrees (p := fun _ => boundSock) (fun _ => ⟨boundSock_blank, rfl, rfl⟩)
    handshake ⟨trivial, by decide, by decide, trivial, by decide, trivial⟩ false
    (by decide) (by decide)).2.1

end Netfast.Tcp
