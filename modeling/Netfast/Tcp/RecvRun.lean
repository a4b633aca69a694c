import Netfast.Lib.Run
import Netfast.Tcp.Branches
import Netfast.Tcp.Stream

/-! Receive-stream integrity: what `tcp_read` has returned and what is queued is a prefix of the stream. -/

namespace Netfast.Tcp

open Serial Skbuff Run

def Receiving (s : TcpSock) : Prop := s.core.state ≠ .listen ∧ s.core.state ≠ .synSent

variable {p : Reader} (s : TcpSock)

lemma inputAck_rcv (g : Segment) (h : Receiving s) : (inputAck s g).1.rcv = s.rcv ∧ Receiving (inputAck s g).1 := by
  have hkept {t s₁ : TcpSock} (hl : Local s s₁) (hk : Keeps s₁ t) : t.rcv = s.rcv ∧ Receiving t := by
    refine ⟨hk.rcv.trans hl.rcv, ?_⟩
    rw [Receiving, hk.core.trans hl.core]
    exact h
  rcases inputAck_cases s g with ⟨-, he⟩ | ⟨-, ⟨-, he⟩ | he⟩ | he <;> rw [he]
  · rcases ackSynReceived_spec s g.hdr with ⟨-, -, w, re, t, no, hs, -⟩ | ⟨-, hs⟩ | hs <;> rw [hs]
    · exact ⟨rfl, by simp [Receiving]⟩
    · exact hkept (.refl s) (tcpSendFlag_keeps s g.hdr.ackSeq 0 { rst := true } rfl)
    · exact ⟨rfl, h⟩
  · obtain ⟨s₁, hl, -, -, -, hs⟩ := ackNewData_spec s g.hdr
    obtain ⟨hr, hrec⟩ := hkept (t := ackNewData s g.hdr) hl <| by
      rcases hs with hs | ⟨-, hs⟩
      · exact hs ▸ .refl s₁
      · exact hs ▸ tcpRetransmitNow_keeps s₁
    obtain ⟨st, fr, t, no, ho, hst⟩ := ackOwnFin_frame (ackNewData s g.hdr)
    rw [ho]
    refine ⟨hr, ?_⟩
    rcases hst with rfl | rfl | rfl | rfl
    · exact hrec
    all_goals exact ⟨by simp, by simp⟩
  · obtain ⟨s₁, -, hl, -, -, -, hs⟩ := ackDuplicate_spec s g
    apply hkept hl
    rcases hs with hs | ⟨-, hs⟩
    · exact hs ▸ .refl s₁
    · exact hs ▸ tcpRetransmitNow_keeps s₁
  · exact ⟨rfl, h⟩

lemma inputText_rcv (g : Segment) :
    (inputText s g).core = s.core ∧
      ((inputText s g).rcv = s.rcv ∨ (inputText s g).rcv = (tcpRecvData s.rcv g.skb).1) := by
  unfold inputText
  split
  · split
    · next r hr => exact ⟨rfl, Or.inr (by rw [hr])⟩
    · next r hr =>
      simp only
      split <;> exact ⟨rfl, Or.inr (by rw [hr])⟩
  · exact ⟨rfl, Or.inl rfl⟩

lemma inputFin_noFin (g : Segment) (h : g.hdr.flags.fin = false) :
    (inputFin s g).core = s.core ∧ (inputFin s g).rcv = s.rcv := by
  obtain ⟨re, t, hk⟩ := restartKeepalive_frame s
  simp only [inputFin, h, Bool.false_eq_true, false_and, if_false]
  split
  · exact ⟨rfl, rfl⟩
  · split
    · rw [hk]
      exact ⟨rfl, rfl⟩
    · exact ⟨rfl, rfl⟩

lemma destroyTcpSocket_receiving : (destroyTcpSocket s).rcv = s.rcv ∧ Receiving (destroyTcpSocket s) := by
  obtain ⟨fr, no, h⟩ := destroyTcpSocket_frame s
  rw [h]
  exact ⟨rfl, by simp [Receiving]⟩

lemma inputSynchronized_rcv (g : Segment) (hs : Receiving s) (hf : g.hdr.flags.fin = false) :
    Receiving (inputSynchronized s g) ∧ ((inputSynchronized s g).rcv = s.rcv ∨
      (segAllow s.rcv g.hdr.seq g.segLen = true ∧ g.hdr.flags.syn = false ∧
        (inputSynchronized s g).rcv = (tcpRecvData s.rcv g.skb).1)) := by
  have htw : timeWaitFin s g = false := by simp [timeWaitFin, hf]
  rcases inputSynchronized_cases s g with he | he | he | he | ⟨⟨hseq, -, hsyn, -⟩, he⟩ <;> rw [he]
  · exact ⟨hs, Or.inl rfl⟩
  · have hrst : (inputRst s).rcv = s.rcv ∧ Receiving (inputRst s) := by
      unfold inputRst
      split
      · split <;> exact destroyTcpSocket_receiving _
      all_goals first
        | exact destroyTcpSocket_receiving _
        | exact ⟨rfl, hs⟩
    exact ⟨hrst.2, Or.inl hrst.1⟩
  · unfold inputSyn
    split
    · exact ⟨(destroyTcpSocket_receiving s).2, Or.inl (destroyTcpSocket_receiving s).1⟩
    · exact ⟨hs, Or.inl rfl⟩
  · exact ⟨hs, Or.inl rfl⟩
  rw [htw, Bool.or_false] at hseq
  obtain ⟨hr, hr'⟩ := inputAck_rcv s g hs
  split
  · exact ⟨hr', Or.inl hr⟩
  · obtain ⟨hfc, hfr⟩ := inputFin_noFin (inputText (inputAck s g).1 g) g hf
    obtain ⟨htc, htr⟩ := inputText_rcv (inputAck s g).1 g
    refine ⟨by unfold Receiving; rw [hfc, htc]; exact hr', ?_⟩
    rw [hr] at htr
    rcases htr with htr | htr
    · exact Or.inl (hfr.trans htr)
    · exact Or.inr ⟨hseq, hsyn, hfr.trans htr⟩

lemma tcpInput_rcv (g : Segment) (hs : Receiving s) (hf : g.hdr.flags.fin = false) :
    Receiving (tcpInput s g) ∧ ((tcpInput s g).rcv = s.rcv ∨
      (segAllow s.rcv g.hdr.seq g.segLen = true ∧ g.hdr.flags.syn = false ∧
        (tcpInput s g).rcv = (tcpRecvData s.rcv g.skb).1)) := by
  obtain ⟨c, hp, -⟩ := parseTcpOptions_frame s g.hdr
  rcases tcpInput_cases s g with ⟨h, -⟩ | ⟨-, he | ⟨seq, ack, fl, hfl, -, he⟩⟩ | ⟨-, ⟨-, he⟩ | ⟨-, he⟩⟩
  · exact absurd h hs.2
  · rw [he]
    exact ⟨hs, Or.inl rfl⟩
  · have hk := tcpSendFlag_keeps s seq ack fl hfl
    rw [he]
    exact ⟨by unfold Receiving; rw [hk.core]; exact hs, Or.inl hk.rcv⟩
  · rw [he, hp]
    exact ⟨hs, Or.inl rfl⟩
  · rw [he, hp]
    exact inputSynchronized_rcv _ g hs hf

inductive RecvAction
  | segment (a : ℕ) (g : Segment)
  | read (len : ℕ) (expired : Bool)

structure RecvEvent where
  action : RecvAction
  inputs : Inputs := {}

structure Reader where
  sock : TcpSock
  out : List UInt8 := []

def recvStep (p : Reader) (e : RecvEvent) : Reader :=
  let s := p.sock.withInputs e.inputs
  if s.core.freed then p
  else
    match e.action with
    | .segment _ g => { p with sock := tcpInput s g }
    | .read len expired =>
      match tcpRead s len expired with
      | (s, .done bs) => { sock := s, out := p.out ++ bs }
      | (s, _) => { p with sock := s }

/-- A segment event carries the bytes of `S` at its position, under the label of the position. -/
def RecvAction.CarriesSlice (S : List UInt8) (init : Seq) : RecvAction → Prop
  | .segment a g => g.hdr.seq = label init a ∧ flatten g.infos = (S.drop a).take g.dataLen ∧
      a + g.dataLen ≤ S.length ∧ g.hdr.flags.fin = false
  | .read _ _ => True

def Reader.received (p : Reader) : ℕ := p.out.length + (queueBytes p.sock.rcv.recvQueue).length

/-- An acceptable segment either is wholly old, or starts no earlier than the receive position, or has an
old part at least as long as the new part the window admits. -/
def RecvCleanStep (p : Reader) (e : RecvEvent) : Prop :=
  match e.action with
  | .segment a g => 0 < g.dataLen → segAllow p.sock.rcv g.hdr.seq g.segLen = true →
      RecvClean p.received p.sock.rcv.rcvWnd p.sock.rcv.recvBufferLenMax a g.dataLen
  | .read _ _ => True

/-- A socket about to receive the first byte of a stream. -/
structure RecvStart (init : Seq) (s : TcpSock) : Prop where
  receiving : Receiving s
  nxt : s.rcv.rcvNxt = init
  queue : s.rcv.recvQueue = []
  unordered : s.rcv.unorderedSkbList = []
  max : s.rcv.recvBufferLenMax < 2 ^ 31
  wnd : s.rcv.rcvWnd ≤ s.rcv.recvBufferLenMax

def ReaderInv (S : List UInt8) (init : Seq) (p : Reader) : Prop :=
  Receiving p.sock ∧ ∃ n, StreamInv S init p.out n p.sock.rcv

variable {S : List UInt8} {init : Seq}

lemma RecvStart.inv {s : TcpSock} (h : RecvStart init s) : ReaderInv S init { sock := s } := by
  refine ⟨h.receiving, 0, Nat.zero_le _, ?_, ?_, ?_, h.max, h.wnd⟩
  · rw [h.nxt, label_zero]
  · simp [h.queue]
  · rw [h.unordered]
    trivial

lemma StreamInv.received {n : ℕ} (h : StreamInv S init p.out n p.sock.rcv) : p.received = n := by
  have hl := congrArg List.length h.bytes
  rw [List.length_append, List.length_take, Nat.min_eq_left h.bound] at hl
  exact hl

lemma segment_step (h : ReaderInv S init p) {a : ℕ} {g : Segment} {i : Inputs}
    (hg : (RecvAction.segment a g).CarriesSlice S init) (hc : RecvCleanStep p { action := .segment a g, inputs := i }) :
    ReaderInv S init { p with sock := tcpInput (p.sock.withInputs i) g } := by
  obtain ⟨hrecv, n, hn⟩ := h
  obtain ⟨hseq, hpay, hfit, hfin⟩ := hg
  obtain ⟨hrecv', hrcv⟩ := tcpInput_rcv (p.sock.withInputs i) g hrecv hfin
  refine ⟨hrecv', ?_⟩
  rcases hrcv with hrcv | ⟨hallow, hsyn, hrcv⟩
  · exact ⟨n, by simpa only [hrcv] using hn⟩
  rcases Nat.eq_zero_or_pos g.dataLen with hz | hpos
  · -- no text: tcp_recv_data returns at once
    have h₀ : tcpRecvData p.sock.rcv g.skb = (p.sock.rcv, false) := by
      simp only [tcpRecvData]
      rw [if_pos (show skbDataLen g.skb = 0 from hz)]
    exact ⟨n, by simpa only [hrcv, h₀] using hn⟩
  · have hslice : SliceAt S init g.skb a := ⟨hseq, hpay, hfit, g.lenLt⟩
    have hlen : g.segLen = skbDataLen g.skb := by
      change g.dataLen + g.hdr.flags.syn.toNat + g.hdr.flags.fin.toNat = g.dataLen
      rw [hsyn, hfin]
      rfl
    have hclean := hc hpos hallow
    rw [hn.received] at hclean
    obtain ⟨m, -, hm⟩ := tcpRecvData_stream hn hslice (hlen ▸ hallow) hclean
    exact ⟨m, by simpa only [hrcv] using hm⟩

lemma tcpRead_spec (len : ℕ) (expired : Bool) :
    (tcpRead s len expired).1.core = s.core ∧
      (((tcpRead s len expired).1.rcv = s.rcv ∧
          ((tcpRead s len expired).2 = .done [] ∨ ∀ bs, (tcpRead s len expired).2 ≠ .done bs)) ∨
        ((tcpRead s len expired).1.rcv = (readQueue s.rcv len).2 ∧
          (tcpRead s len expired).2 = .done (readQueue s.rcv len).1)) := by
  unfold tcpRead
  split
  · exact ⟨rfl, Or.inl ⟨rfl, Or.inr (by simp)⟩⟩
  split_ifs
  · exact ⟨rfl, Or.inl ⟨rfl, Or.inl rfl⟩⟩
  · exact ⟨rfl, Or.inl ⟨rfl, Or.inl rfl⟩⟩
  · exact ⟨rfl, Or.inl ⟨rfl, Or.inr (by simp)⟩⟩
  · exact ⟨rfl, Or.inl ⟨rfl, Or.inr (by simp)⟩⟩
  · exact ⟨rfl, Or.inl ⟨rfl, Or.inr (by simp)⟩⟩
  · simp only
    split <;> exact ⟨rfl, Or.inr ⟨rfl, trivial⟩⟩

lemma read_step (h : ReaderInv S init p) (len : ℕ) (expired : Bool) (i : Inputs) :
    ReaderInv S init (match tcpRead (p.sock.withInputs i) len expired with
      | (s, .done bs) => { sock := s, out := p.out ++ bs }
      | (s, _) => { p with sock := s }) := by
  obtain ⟨hrecv, n, hn⟩ := h
  obtain ⟨hcore, hr⟩ := tcpRead_spec (p.sock.withInputs i) len expired
  generalize tcpRead (p.sock.withInputs i) len expired = res at hcore hr
  obtain ⟨s, o⟩ := res
  simp only at hcore hr
  have hs : Receiving s := by
    unfold Receiving
    rw [hcore]
    exact hrecv
  rcases hr with ⟨hr, ho⟩ | ⟨hr, rfl⟩
  · cases o with
    | done bs =>
      obtain rfl : bs = [] := by
        rcases ho with ho | ho
        · exact Outcome.done.inj ho
        · exact absurd rfl (ho bs)
      exact ⟨hs, n, by simpa only [hr, List.append_nil] using hn⟩
    | fail e => exact ⟨hs, n, by simpa only [hr] using hn⟩
    | wait x => exact ⟨hs, n, by simpa only [hr] using hn⟩
  · exact ⟨hs, n, by simpa only [hr] using readQueue_stream hn len⟩

lemma recvStep_inv {e : RecvEvent} (h : ReaderInv S init p) (hg : e.action.CarriesSlice S init)
    (hc : RecvCleanStep p e) : ReaderInv S init (recvStep p e) := by
  simp only [recvStep]
  split
  · exact h
  obtain ⟨action, i⟩ := e
  cases action with
  | segment a g => exact segment_step h hg hc
  | read len expired => exact read_step h len expired i

/-- In every run of data segments of `S`, in any order, and of reads, in which every acceptable segment
is clean, the bytes read and the bytes queued are together the prefix of `S` that `rcv_nxt` counts. -/
theorem received_prefix (S : List UInt8) (init : Seq) (s : TcpSock) (hs : RecvStart init s)
    (es : List RecvEvent) (hes : ∀ e ∈ es, e.action.CarriesSlice S init)
    (hclean : Meets recvStep RecvCleanStep { sock := s } es) :
    ∃ n, n ≤ S.length ∧ (run recvStep { sock := s } es).sock.rcv.rcvNxt = label init n ∧
      (run recvStep { sock := s } es).out ++ queueBytes (run recvStep { sock := s } es).sock.rcv.recvQueue =
        S.take n := by
  have hrun : ReaderInv S init (run recvStep { sock := s } es) :=
    run_invariant (fun p e hp he => recvStep_inv hp he.1 he.2) hs.inv (hclean.and_mem hes)
  obtain ⟨-, n, hn⟩ := hrun
  exact ⟨n, hn.bound, hn.nxt, hn.bytes⟩

def countingBytes (n : ℕ) : List UInt8 := (List.range n).map UInt8.ofNat

def overlapRun : List RecvEvent :=
  [{ action := .segment 0
      (textSegment (plainHdr 1000 500 .ackOnly) ((countingBytes 30).take 10) (by decide)) },
   { action := .segment 5
      (textSegment (plainHdr 1005 500 .ackOnly) ((countingBytes 30).drop 5) (by decide)) }]

lemma establishedSock_recvStart (snd rcv : Seq) : RecvStart rcv (establishedSock snd rcv) := by
  refine ⟨⟨?_, ?_⟩, rfl, rfl, rfl, ?_, ?_⟩ <;> simp [establishedSock, tcpPcbInit]

/-- The second segment overlaps by five: its trimmed rest is trimmed again, and bytes `[10, 15)` are lost. -/
theorem overlap_loses_bytes :
    RecvStart 1000 (establishedSock 500 1000) ∧
      (∀ e ∈ overlapRun, e.action.CarriesSlice (countingBytes 30) 1000) ∧
      (run recvStep { sock := establishedSock 500 1000 } overlapRun).sock.rcv.rcvNxt = label 1000 25 ∧
      queueBytes (run recvStep { sock := establishedSock 500 1000 } overlapRun).sock.rcv.recvQueue =
        (countingBytes 30).take 10 ++ (countingBytes 30).drop 15 ∧
      ¬ ∃ n, n ≤ (countingBytes 30).length ∧
        (run recvStep { sock := establishedSock 500 1000 } overlapRun).sock.rcv.rcvNxt = label 1000 n ∧
        (run recvStep { sock := establishedSock 500 1000 } overlapRun).out ++
          queueBytes (run recvStep { sock := establishedSock 500 1000 } overlapRun).sock.rcv.recvQueue =
            (countingBytes 30).take n := by
  have hout : (run recvStep { sock := establishedSock 500 1000 } overlapRun).out = [] := by decide
  have hnxt : (run recvStep { sock := establishedSock 500 1000 } overlapRun).sock.rcv.rcvNxt = label 1000 25 := by
    decide
  have hq : queueBytes (run recvStep { sock := establishedSock 500 1000 } overlapRun).sock.rcv.recvQueue =
      (countingBytes 30).take 10 ++ (countingBytes 30).drop 15 := by
    decide
  refine ⟨establishedSock_recvStart _ _, ?_, hnxt, hq, ?_⟩
  · intro e he
    simp only [overlapRun, List.mem_cons, List.not_mem_nil, or_false] at he
    rcases he with rfl | rfl
    · exact ⟨by decide, by decide, by decide, rfl⟩
    · exact ⟨by decide, by decide, by decide, rfl⟩
  · rintro ⟨n, hn, -, hbytes⟩
    rw [hout, hq, List.nil_append] at hbytes
    have hn' : n = 25 := by
      have hl := congrArg List.length hbytes
      rw [List.length_take, Nat.min_eq_left hn] at hl
      exact hl.symm.trans (by decide)
    subst hn'
    exact absurd hbytes (by decide)

/-- The same stream in order and then read. -/
theorem received_prefix_in_order :
    ∃ n, n ≤ (countingBytes 30).length ∧
      (run recvStep { sock := establishedSock 500 1000 }
        (overlapRun.take 1 ++ [{ action := .read 4 false }])).sock.rcv.rcvNxt = label 1000 n ∧
      (run recvStep { sock := establishedSock 500 1000 }
        (overlapRun.take 1 ++ [{ action := .read 4 false }])).out ++
        queueBytes (run recvStep { sock := establishedSock 500 1000 }
          (overlapRun.take 1 ++ [{ action := .read 4 false }])).sock.rcv.recvQueue = (countingBytes 30).take n := by
  refine received_prefix _ _ _ (establishedSock_recvStart _ _) _ ?_ ⟨?_, trivial, trivial⟩
  · intro e he
    simp only [overlapRun, List.take_succ_cons, List.take_zero, List.cons_append, List.nil_append,
      List.mem_cons, List.not_mem_nil, or_false] at he
    rcases he with rfl | rfl
    · exact ⟨by decide, by decide, by decide, rfl⟩
    · trivial
  · exact fun _ _ => Or.inr (Or.inl ⟨by decide, by decide⟩)

end Netfast.Tcp
