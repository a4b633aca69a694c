import Netfast.Tcp.Segmentation

/-! `xdp_tx_submit`: a packet's data_infos become descriptors of the TX ring, and TCP's segments with them. -/

namespace Netfast.Xdp

open Skbuff Tcp Run

structure TxDesc where
  data : List UInt8
  contd : Bool
  metadata : Bool
deriving DecidableEq

def txDescs (csum : Bool) : List DataInfo → List TxDesc
  | [] => []
  | d :: ds => { data := d.data, contd := false, metadata := csum } :: txDescs false ds

-- none is -EAGAIN: the ring has fewer than data_num free descriptors
def xdpTxSubmit (free : ℕ) (csum : Bool) (skb : SkBuff) : Option (List TxDesc) :=
  if free < skb.infos.length then none else some (txDescs csum skb.infos)

def packets (begun : List UInt8) : List TxDesc → List (List UInt8)
  | [] => []
  | d :: ds => if d.contd then packets (begun ++ d.data) ds else (begun ++ d.data) :: packets [] ds

lemma packets_txDescs (csum : Bool) (ds : List DataInfo) : packets [] (txDescs csum ds) = ds.map DataInfo.data := by
  induction ds generalizing csum with
  | nil => rfl
  | cons d ds ih => simp [txDescs, packets, ih]

lemma one_packet_iff {free : ℕ} {csum : Bool} {skb : SkBuff} {descs : List TxDesc}
    (h : xdpTxSubmit free csum skb = some descs) :
    packets [] descs = [skb.payload] ↔ skb.infos.length = 1 := by
  rw [xdpTxSubmit] at h
  split at h
  · cases h
  obtain rfl := Option.some.inj h
  rw [packets_txDescs]
  constructor
  · intro hp
    simpa using congrArg List.length hp
  · intro hl
    obtain ⟨d, hd⟩ := List.length_eq_one_iff.mp hl
    simp [hd, SkBuff.payload]

/-- The headers in the order of the packet; the last is pushed first. -/
def pushHeaders (b : SkBuff) (f : Fates) : List (List UInt8) → Option SkBuff × Fates
  | [] => (some b, f)
  | hdr :: hdrs =>
    match pushHeaders b f hdrs with
    | (none, f) => (none, f)
    | (some b, f) => skbDataPush b hdr f

/-- With the headers pushed, what is sent of the segment is one packet. -/
def OnePacket (b : SkBuff) : Prop :=
  ∀ (budget : ℕ) (push : Bool) (hdrs : List (List UInt8)) (f : Fates) (free : ℕ) (csum : Bool),
    (sendClone b budget push).infos ≠ [] → hdrs.flatten.length ≤ 120 → 0 < free →
    ∃ skb descs, pushHeaders (sendClone b budget push) f hdrs = (some skb, f) ∧
      xdpTxSubmit free csum skb = some descs ∧
      packets [] descs = [hdrs.flatten ++ (sendClone b budget push).payload]

/-! The segments of TCP have one data_info, with room for the headers before it, as long as no write finds the
segment limit above the space of the packet it adds to. -/

def Slim : List DataInfo → Prop
  | [] => True
  | d :: ds => ds = [] ∧ 120 ≤ d.headroom

variable {b : SkBuff} {s s' t : TcpSock}

lemma Slim.cut {ds head tail : List DataInfo} (h : Slim ds) (hc : CutSlots ds head tail) : Slim head ∧ Slim tail := by
  cases hc with
  | inside pre d cut rest =>
    cases pre with
    | nil => exact ⟨⟨rfl, h.2⟩, h.1, h.2⟩
    | cons e pre => exact absurd h.1 (by simp)
  | boundary =>
    cases head with
    | nil => exact ⟨trivial, h⟩
    | cons e pre =>
      obtain ⟨hpre, rfl⟩ := List.append_eq_nil_iff.mp h.1
      exact ⟨⟨hpre, h.2⟩, trivial⟩
  | alone _ room hroom => exact ⟨h, rfl, hroom⟩

lemma slim_shape : Shape Slim Slim where
  flight h := h
  cut h hc := h.cut hc
  header h := ⟨rfl, h⟩
  merge {ds _} h _ := by
    cases ds with
    | nil => trivial
    | cons d ds =>
      obtain ⟨rfl, hd⟩ := h
      exact ⟨rfl, hd⟩
  consume {ds} h n := by
    cases ds with
    | nil => trivial
    | cons d ds =>
      obtain ⟨rfl, hd⟩ := h
      rw [consumeInfos]
      split_ifs
      · exact ⟨rfl, hd⟩
      · exact ⟨rfl, hd.trans (Nat.le_add_right _ _)⟩
      · trivial

lemma sendClone_slim (h : Slim b.infos) (budget : ℕ) (push : Bool) : Slim (sendClone b budget push).infos := by
  simp only [sendClone, skbTruncate]
  split_ifs
  any_goals first | exact h | trivial
  cases hb : b.infos with
  | nil => trivial
  | cons d ds =>
    rw [hb] at h
    obtain ⟨rfl, hd⟩ := h
    simp only [truncateInfos]
    split <;> exact ⟨rfl, hd⟩

lemma pushHeaders_one {d : DataInfo} (hb : b.infos = [d]) (f : Fates) (hdrs : List (List UInt8))
    (h : hdrs.flatten.length ≤ d.headroom) :
    pushHeaders b f hdrs = (some { b with infos := [{ d with
      headroom := d.headroom - hdrs.flatten.length
      data := hdrs.flatten ++ d.data }] }, f) := by
  induction hdrs with
  | nil =>
    cases b
    cases hb
    rfl
  | cons hdr hdrs ih =>
    rw [List.flatten_cons, List.length_append] at h ⊢
    rw [pushHeaders, ih (by omega)]
    simp only [skbDataPush]
    rw [if_pos (by omega), Nat.sub_sub, Nat.add_comm hdrs.flatten.length, List.append_assoc]

lemma Slim.onePacket (h : Slim b.infos) : OnePacket b := by
  intro budget push hdrs f free csum hne hlen hfree
  have hs := sendClone_slim h budget push
  obtain ⟨d, ds, hd⟩ := List.exists_cons_of_ne_nil hne
  rw [hd] at hs
  obtain ⟨rfl, hroom⟩ := hs
  refine ⟨_, _, pushHeaders_one hd f hdrs (hlen.trans hroom), if_neg (Nat.not_lt.mpr hfree), ?_⟩
  rw [packets_txDescs]
  simp [SkBuff.payload, hd]

def Wide (s : TcpSock) : Prop :=
  ∀ last, s.snd.sendQueue.getLast? = some last → tcpDataMss s.nego ≤ room last.infos

instance (s : TcpSock) : Decidable (Wide s) :=
  decidable_of_iff (∀ last ∈ s.snd.sendQueue.getLast?, tcpDataMss s.nego ≤ room last.infos) Iff.rfl

lemma room_one (d : DataInfo) : room [d] = d.data.length + d.endSpace := by
  simp [room, endSpace]

lemma chunk_slim (hw : Tcp.Wrote s s') (h : Shaped Slim Slim s.snd) (hr : Wide s) :
    Shaped Slim Slim s'.snd ∧ Wide s' := by
  cases hw with
  | @chunk _ bs hc hl _ n f hn =>
    have hw := writeChunk_chunked s.snd n f hl
    simp only [Wide]
    generalize writeChunk s.snd bs (tcpDataMss s.nego) n f = w at hw ⊢
    cases hw with
    | failed => exact ⟨h, hr⟩
    | @put init b b' f f' hg he =>
      obtain ⟨hinit, hb⟩ := hg.forall (P := fun c => Slim c.infos) h.unsent ⟨rfl, hn⟩
      obtain ⟨d, hi, hd, hfit, hwide⟩ : ∃ d, b.infos = [d] ∧ 120 ≤ d.headroom ∧
          d.data.length + bs.length ≤ tcpDataMss s.nego ∧ tcpDataMss s.nego ≤ d.data.length + d.endSpace := by
        cases hg with
        | fresh => exact ⟨_, rfl, hn, by simpa using hl, by simp [DataInfo.endSpace]⟩
        | last hq hfit =>
          have hpos := List.length_pos_iff.mpr hc
          have hwide := hr b (by rw [hq, List.getLast?_concat])
          cases hi : b.infos with
          | nil =>
            rw [hi] at hwide
            exact absurd hwide (by simp [room, endSpace]; omega)
          | cons d ds =>
            rw [hi] at hwide hb
            obtain ⟨rfl, hd⟩ := hb
            rw [room_one] at hwide
            refine ⟨d, rfl, hd, ?_, hwide⟩
            simpa [skbDataLen, SkBuff.payload, hi] using hfit
      rw [skbDataAppend_one hi (by omega)] at he
      obtain rfl := Option.some.inj (Prod.mk.inj he).1
      refine ⟨⟨forall_concat hinit ⟨rfl, hd⟩, h.flight⟩, fun last hlast => ?_⟩
      rw [List.getLast?_concat] at hlast
      rw [← Option.some.inj hlast, room_one]
      rw [DataInfo.endSpace] at hwide ⊢
      simp only [List.length_append]
      omega

lemma wrote_slim (hw : Relation.ReflTransGen Tcp.Wrote s s') (h : Shaped Slim Slim s.snd)
    (hr : s.core.closeSend = false → Wide s) : Shaped Slim Slim s'.snd := by
  rcases hw.cases_head with rfl | ⟨t, ⟨ho⟩, -⟩
  · exact h
  · have hboth : Shaped Slim Slim s'.snd ∧ Wide s' := by
      induction hw with
      | refl => exact ⟨h, hr ho⟩
      | tail _ hw ih => exact chunk_slim hw ih.1 ih.2
    exact hboth.1

/-- The states an action goes through: it queues text or takes an acknowledgment, and then the output moves. -/
inductive Passes (s : TcpSock) : Action → TcpSock → Prop
  | start (a : Action) : Passes s a s
  | wrote {t t' : TcpSock} (hr : setTcpSocketRoute s = (t, true)) (hw : Relation.ReflTransGen Tcp.Wrote t t')
      (buf : List UInt8) (expired : Bool) : Passes s (.write buf expired) t'
  | taken {g : Segment} {t c : TcpSock} (ht : Tcp.Reads s g t) (hc : Taken (parseTcpOptions t g.hdr).1 c) :
      Passes s (.input g) c
  | crossed {g : Segment} {t : TcpSock} (ht : Tcp.Reads s g t) :
      Passes s (.input g) (answered (parseTcpOptions t g.hdr).1)
  | move {a : Action} {t t' : TcpSock} (h : Passes s a t) (hm : Move t t') : Passes s a t'

lemma Passes.moves {a : Action} (h : Passes s a t) (hm : Moves t s') : Passes s a s' := by
  induction hm with
  | refl => exact h
  | tail _ hm ih => exact ih.move hm

lemma act_passes (s : TcpSock) (a : Action) : Passes s a (act s a) := by
  cases a with
  | input g =>
    rcases (tcpInput_arrival s g).plain with hm | ⟨t, c, ht, hc, hm⟩ | ⟨t, ht, hm⟩
    · exact (Passes.start _).moves hm
    · exact (Passes.taken ht hc).moves hm
    · exact (Passes.crossed ht).moves hm
  | write buf expired =>
    cases tcpWrite_writes s buf expired with
    | idle hm => exact (Passes.start _).moves hm
    | queued hr hw hm => exact (Passes.wrote hr hw buf expired).moves hm
  | timer => exact (Passes.start _).moves (.head (.beside (OnlyTimers.beside ⟨_, rfl⟩)) (tcpTimerCb_moves _))
  | accept => exact (Passes.start _).moves (Beside.moves (.of_same rfl rfl rfl ⟨rfl, rfl⟩))
  | read len expired => exact (Passes.start _).moves (tcpRead_beside s len expired).moves
  | shutdown how => exact (Passes.start _).moves (tcpShutdown_moves s how)
  | setsockopt o => exact (Passes.start _).moves (tcpSetsockopt_moves s o)
  | close => exact (Passes.start _).moves (closeFd_moves s)
  | icmp quoted err => exact (Passes.start _).moves (tcpIcmpProcess_beside s quoted err).moves

/-- No text is added to a packet allocated for a smaller segment limit. -/
def LimitKept (s : TcpSock) (e : Event) : Prop :=
  ∀ buf expired, e.action = .write buf expired → s.core.closeSend = false →
    (setTcpSocketRoute (s.withInputs e.inputs)).2 = true → Wide (setTcpSocketRoute (s.withInputs e.inputs)).1

lemma parsed_snd {g : Segment} (ht : Tcp.Reads s g t) : (parseTcpOptions t g.hdr).1.snd = s.snd := by
  obtain ⟨c, hp, -⟩ := parseTcpOptions_frame t g.hdr
  rw [hp]
  exact ht.snd

lemma Passes.slim {e : Event} (hp : Passes (s.withInputs e.inputs) e.action t) (h : Shaped Slim Slim s.snd)
    (hk : LimitKept s e) : Shaped Slim Slim t.snd := by
  generalize ha : e.action = a at hp
  induction hp with
  | start => exact h
  | @wrote t t' hr hw buf expired =>
    have hkeep := setTcpSocketRoute_keeps (s.withInputs e.inputs)
    have hwide := hk buf expired ha
    rw [hr] at hkeep hwide
    refine wrote_slim hw (by rw [hkeep.snd]; exact h) fun ho => hwide ?_ rfl
    rw [hkeep.core] at ho
    exact ho
  | taken ht hc => exact slim_shape.taken hc (by rw [parsed_snd ht]; exact h)
  | crossed ht => exact Shaped.answered (by rw [parsed_snd ht]; exact h)
  | move _ hm ih => exact slim_shape.move hm (ih ha)

lemma step_slim {e : Event} (h : Shaped Slim Slim s.snd) (hk : LimitKept s e) : Shaped Slim Slim (step s e).snd := by
  rw [step]
  split
  · exact (act_passes (s.withInputs e.inputs) e.action).slim h hk
  · exact h

/-- What the output hands down: packets of the queues, and segments without text. -/
inductive Hands (t : TcpSock) : SkBuff → Prop
  | unsent {b : SkBuff} (h : b ∈ t.snd.sendQueue) : Hands t b
  | flight {b : SkBuff} (h : b ∈ t.snd.retransmitQueue) : Hands t b
  | control (seq : Seq) (flag : Flags) (r : Route) : Hands t (skbAlloc seq flag (headerRoom t r) (headerRoom t r))

lemma Hands.slim (hb : Hands t b) (h : Shaped Slim Slim t.snd) : Slim b.infos := by
  cases hb with
  | unsent hb => exact h.unsent b hb
  | flight hb => exact h.flight b hb
  | control seq flag r => exact ⟨rfl, headerRoom_ge t r⟩

lemma emitted_handed {seq ack : Seq} {flags : Flags} {w : WireSeg} (budget : ℕ) (push : Bool) (hb : Hands t b)
    (hw : w ∈ (emitted t seq ack flags (sendClone b budget push).payload).env.wire) :
    w ∈ t.env.wire ∨ ∃ b budget push, Hands t b ∧ w.payload = (sendClone b budget push).payload := by
  rcases List.mem_append.mp hw with hw | hw
  · exact .inl hw
  · rw [List.mem_singleton.mp hw]
    exact .inr ⟨b, budget, push, hb, rfl⟩

lemma Move.handed (hm : Move t s') {w : WireSeg} (hw : w ∈ s'.env.wire) :
    w ∈ t.env.wire ∨ ∃ b budget push, Hands t b ∧ w.payload = (sendClone b budget push).payload := by
  cases hm with
  | beside hb => exact .inl (hb.wire ▸ hw)
  | bare => exact emitted_handed 0 false (.control 0 {} plainRoute) hw
  | resent hb => exact emitted_handed _ _ (.flight hb) hw
  | sent hq => exact emitted_handed _ _ (.unsent (by rw [hq]; exact List.mem_cons_self)) hw
  | _ => exact .inl hw

/-- Nothing else leaves. -/
lemma Passes.handed {a : Action} (hp : Passes s a t) {w : WireSeg} (hw : w ∈ t.env.wire) :
    w ∈ s.env.wire ∨
      ∃ u b budget push, Passes s a u ∧ Hands u b ∧ w.payload = (sendClone b budget push).payload := by
  have hread {g : Segment} {t : TcpSock} (ht : Tcp.Reads s g t) : (parseTcpOptions t g.hdr).1.env.wire = s.env.wire := by
    obtain ⟨c, hp, -⟩ := parseTcpOptions_frame t g.hdr
    rw [hp]
    rcases ht with rfl | ⟨-, hb, -⟩
    · rfl
    · exact hb.wire
  induction hp with
  | start => exact .inl hw
  | @wrote t t' hr hwr =>
    obtain ⟨ro, n, c, re, f, as, he, -⟩ := setTcpSocketRoute_frame s
    obtain ⟨q, rfl⟩ := wrote_frame hwr
    rw [hr] at he
    obtain rfl : t = _ := he
    exact .inl hw
  | taken ht hc =>
    rw [← hread ht]
    cases hc with
    | same hc => exact .inl (hc.wire ▸ hw)
    | acked _ _ _ hc => exact .inl (hc.wire ▸ hw)
  | crossed ht => exact .inl (hread ht ▸ hw)
  | move h hm ih =>
    rcases Move.handed hm hw with hw | ⟨b, budget, push, hb, hp⟩
    · exact ih hw
    · exact .inr ⟨_, b, budget, push, h, hb, hp⟩

/-- The descriptors of a packet that is accepted are one packet exactly where it has one data_info. Every segment that
TCP hands down has one, in any run in which no text is added to a packet allocated for a smaller segment limit. -/
theorem submitted_as_one_packet (free : ℕ) (csum : Bool) (skb : SkBuff) :
    (∀ descs, xdpTxSubmit free csum skb = some descs → (packets [] descs = [skb.payload] ↔ skb.infos.length = 1)) ∧
    ∀ (s : TcpSock) (es : List Event) (e : Event), Shaped Slim Slim s.snd → Meets step LimitKept s (es ++ [e]) →
      ∀ t b, Passes ((run step s es).withInputs e.inputs) e.action t → Hands t b → OnePacket b := by
  refine ⟨fun _ => one_packet_iff, fun s es e hs h t b ht hb => ?_⟩
  obtain ⟨hes, he, -⟩ := h.append
  have hrun : Shaped Slim Slim (run step s es).snd :=
    run_invariant (I := fun s => Shaped Slim Slim s.snd) (fun _ _ h hk => step_slim h hk) hs hes
  exact (hb.slim (ht.slim hrun he)).onePacket

def writtenTwice : List Event :=
  [{ action := .input (bareSegment (plainHdr 500 1 { syn := true, ack := true })), inputs := { now := 1 } },
    { action := .write [1, 2, 3] false, inputs := { now := 2 } },
    { action := .write [4, 5] false, inputs := { now := 3 } }]

theorem submitted_as_one_packet_written :
    ∃ b, (run step openSock writtenTwice).snd.sendQueue = [b] ∧ b.payload = [1, 2, 3, 4, 5] ∧ OnePacket b := by
  refine ⟨_, rfl, rfl, ?_⟩
  refine (submitted_as_one_packet 64 false (skbAlloc 0 {} 0 0)).2 openSock writtenTwice { action := .timer, inputs := { now := 12 } } ?_ ?_ _ _
    (.start _) (.unsent List.mem_cons_self)
  · refine ⟨fun _ hb => absurd hb (List.not_mem_nil), fun b hb => ?_⟩
    rw [List.mem_singleton.mp hb]
    exact ⟨rfl, by decide⟩
  · refine ⟨fun _ _ h => ?_, fun _ _ _ _ _ => ?_, fun _ _ _ _ _ => ?_, fun _ _ h => ?_, trivial⟩
    · cases h
    · decide
    · decide
    · cases h

def beforeSynAck : SendState :=
  (writeLoop 536 134 100 (List.replicate 100 1) { sndUna := 1, sndNxt := 1, sndEnd := 1, sendBufferLenMax := 65536 }
    0 []).1

def afterSynAck : SendState := (writeLoop 1448 134 600 (List.replicate 600 2) beforeSynAck 0 []).1

def tcpHeaded : Option SkBuff :=
  afterSynAck.sendQueue.head?.bind fun skb => (skbDataPush skb (List.replicate 66 0) []).1

/-- One segment of 700 bytes, 100 of them written before the peer's MSS was known, leaves as two packets. -/
theorem one_segment_two_packets :
    (tcpHeaded.bind (xdpTxSubmit 64 false)).map (fun ds => (packets [] ds).map List.length) = some [602, 164] := by
  decide +kernel

end Netfast.Xdp
