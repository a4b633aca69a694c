import Netfast.Tcp.Closed
import Netfast.Tcp.PeerFin
import Netfast.Tcp.RttSample
import Netfast.Tcp.ScaleAgree

/-! Our own FIN: in which states it waits, is in flight, or is acknowledged. -/

namespace Netfast.Tcp

open Serial Skbuff

def FinGone (data : List UInt8) (fin : Bool) (x : ℕ) : Prop := fin = true ∧ x = (sendStream data fin).length

def Stage (settled : Prop) (fin : Bool) (u x e : ℕ) : FinPhase → Prop
  | .asked | .opening => fin = false
  | .flowing => fin = true → x < e
  | .finSent => fin = true ∧ x = e ∧ (settled → u < e)
  | .finAcked => fin = true ∧ u = e
  | .ended => True

/-- The own FIN from `mark` on. Between an acknowledgement and the change of state it calls for, the connection is not
settled. -/
structure Own (settled : Prop) (mark : ℕ) (iss : Seq) (data : List UInt8) (fin : Bool) (u x : ℕ) (s : TcpSock) : Prop
    extends Laid iss data fin u x s where
  stage : Stage settled fin u x (sendStream data fin).length s.core.state.phase
  out : ∀ w ∈ s.env.wire.drop mark, w.flags.fin = true → FinGone data fin x
  mark : mark ≤ s.env.wire.length

def OwnInv (mark : ℕ) (s : TcpSock) : Prop := ∃ iss data fin u x, Own True mark iss data fin u x s

variable {settled : Prop} {mark : ℕ} {iss : Seq} {data : List UInt8} {fin : Bool} {u x : ℕ} {s s' : TcpSock} {q : SendState}

variable {rest : List SkBuff} {b : SkBuff} {st : TcpState} {p p' : FinPhase} {e : ℕ}

lemma SendInv.finGone (h : SendInv iss (sendStream data fin) u x q) (hb : b ∈ q.retransmitQueue)
    (hf : b.flag.fin = true) : FinGone data fin x := by
  constructor
  · cases fin with
    | true => rfl
    | false =>
      have hm := mem_queueSyms (List.mem_append_left q.sendQueue hb) ((mem_syms_fin b).mpr hf)
      rw [h.stream] at hm
      exact absurd (List.mem_of_mem_drop hm) (fin_notMem_stream data)
  · obtain ⟨pre, post, hq⟩ := List.append_of_mem hb
    have hsplit : q.retransmitQueue ++ q.sendQueue = pre ++ b :: (post ++ q.sendQueue) := by
      rw [hq, List.append_assoc, List.cons_append]
    have hlast := h.fin_last hsplit hf
    have hu := h.unsent
    rw [(List.append_eq_nil_iff.mp hlast).2] at hu
    exact hu

lemma SendInv.before_fin (h : SendInv iss (sendStream data true) u x q)
    (hq : q.sendQueue = b :: rest) (hf : b.flag.fin = false) : x + tcpSkbSeqLen b < (sendStream data true).length := by
  have hu := h.unsent
  rw [hq] at hu
  obtain ⟨-, hpos, hrest⟩ := hu
  refine lt_of_le_of_ne hrest.le fun he => ?_
  obtain rfl : rest = [] := by
    by_contra hne
    exact absurd (hrest.lt hne) (by omega)
  have hs := h.unsent_syms
  have hlen := sendStream_length data false
  have hlen' := sendStream_length data true
  rw [Bool.toNat_false] at hlen
  rw [Bool.toNat_true] at hlen'
  rw [hq, sendStream_fin, List.drop_append_of_le_length (by omega)] at hs
  have hm : Sym.fin ∈ queueSyms [b] := by
    rw [hs]
    exact List.mem_append_right _ (List.mem_singleton_self _)
  rw [queueSyms_cons, queueSyms_nil, List.append_nil, mem_syms_fin, hf] at hm
  cases hm

lemma SendInv.fin_with (h : SendInv iss (sendStream data fin) u x q)
    (hq : q.sendQueue = b :: rest) (hf : b.flag.fin = true) : FinGone data fin (x + tcpSkbSeqLen b) := by
  constructor
  · cases fin with
    | true => rfl
    | false =>
      rw [h.unsent_noFin (by rw [hq]; exact List.mem_cons_self)] at hf
      cases hf
  · have hsplit : q.retransmitQueue ++ q.sendQueue = q.retransmitQueue ++ b :: rest := by rw [hq]
    have hu := h.unsent
    rw [hq, h.fin_last hsplit hf] at hu
    exact hu.2.2

lemma SendInv.next_le (h : SendInv iss (sendStream data fin) u x q) : x ≤ (sendStream data fin).length := h.unsent.le

lemma SendInv.one_lap (h : SendInv iss (sendStream data fin) u x q) : (sendStream data fin).length < u + 2 ^ 31 + 2 := by
  have hb := h.bytes
  have hlt := h.bound
  have hlen := sendStream_length data fin
  have hone := Bool.toNat_le fin
  rw [bytesOf_sendStream_drop, List.length_drop] at hb
  omega

lemma Laid.all_acked (h : Laid iss data fin u x s) :
    s.snd.sndUna = s.snd.sndEnd ↔ u = (sendStream data fin).length := by
  have hux := h.le
  have hle := h.send.next_le
  have hlap := h.send.one_lap
  rw [h.send.una, h.send.fin]
  exact label_inj iss (by omega) (by omega)

namespace Stage

lemma step (h : Stage settled fin u x e p) {acked : Prop} (ha : acked → u = e) (ht : PhaseStep acked p p') :
    Stage settled fin u x e p' := by
  cases ht with
  | same => exact h
  | ended => trivial
  | opened =>
    intro hf
    cases h.symm.trans hf
  | acked hk => exact ⟨h.1, ha hk⟩

lemma sent {x' : ℕ} (h : Stage settled fin u x e st.phase) (hux : u ≤ x) (hlt : x < x') (hle : x' ≤ e)
    {sendFin : Bool} (hgone : sendFin = true → fin = true ∧ x' = e) (hstay : sendFin = false → fin = true → x' < e) :
    Stage settled fin u x' e (if sendFin then st.finSent else st).phase := by
  cases sendFin with
  | true =>
    obtain ⟨hfin, hx⟩ := hgone rfl
    have hsent : fin = true ∧ x' = e ∧ (settled → u < e) := ⟨hfin, hx, fun _ => by omega⟩
    cases st with
    | synReceived | synSent => cases h.symm.trans hfin
    | established | closeWait => exact hsent
    | finWait1 | closing | lastAck => exact hsent
    | finWait2 | timeWait =>
      have hu : u = e := h.2
      omega
    | closed | listen => trivial
  | false =>
    have hbefore := hstay rfl
    cases st with
    | synReceived | synSent => exact h
    | established | closeWait => exact hbefore
    | finWait1 | closing | lastAck =>
      have hx : x = e := h.2.1
      omega
    | finWait2 | timeWait =>
      have hu : u = e := h.2
      omega
    | closed | listen => trivial

lemma queued (h : Stage settled false u x e p) (hx : x ≤ e) (hp : ¬(p = .asked ∨ p = .opening)) :
    Stage settled true u x (e + 1) p := by
  cases p with
  | asked => exact absurd (.inl rfl) hp
  | opening => exact absurd (.inr rfl) hp
  | flowing => exact fun _ => Nat.lt_succ_of_le hx
  | finSent | finAcked => cases h.1
  | ended => trivial

lemma grown (h : Stage settled false u x e p) (e' : ℕ) : Stage settled false u x e' p := by
  cases p with
  | asked | opening => rfl
  | flowing => exact fun hf => by cases hf
  | finSent | finAcked => cases h.1
  | ended => trivial

lemma acked {a : ℕ} (h : Stage settled fin u x e p) (hua : u < a) (hax : a ≤ x) (hxe : x ≤ e) :
    Stage False fin a x e p := by
  cases p with
  | asked | opening | flowing => exact h
  | finSent => exact ⟨h.1, h.2.1, False.elim⟩
  | finAcked =>
    have hu : u = e := h.2
    omega
  | ended => trivial

lemma settle (h : Stage settled fin u x e p) (hlt : p = .finSent → u < e) : Stage True fin u x e p := by
  cases p with
  | finSent => exact ⟨h.1, h.2.1, fun _ => hlt rfl⟩
  | _ => exact h

end Stage

namespace Own

lemma relaid (h : Own settled mark iss data fin u x s) (hl : Laid iss data fin u x s') (hs : s'.core.state = s.core.state)
    (hw : s'.env.wire = s.env.wire) : Own settled mark iss data fin u x s' :=
  ⟨hl, by rw [hs]; exact h.stage, by rw [hw]; exact h.out, by rw [hw]; exact h.mark⟩

lemma sends {x' : ℕ} {w : WireSeg} (h : Own settled mark iss data fin u x s) (hl : Laid iss data fin u x' s')
    (hs : Stage settled fin u x' (sendStream data fin).length s'.core.state.phase)
    (hw : s'.env.wire = s.env.wire ++ [w]) (hx : FinGone data fin x → FinGone data fin x')
    (hf : w.flags.fin = true → FinGone data fin x') : Own settled mark iss data fin u x' s' := by
  have hmark := h.mark
  refine ⟨hl, hs, fun v hv hvf => ?_, by rw [hw, List.length_append]; omega⟩
  rw [hw, List.drop_append_of_le_length hmark] at hv
  rcases List.mem_append.mp hv with hv | hv
  · exact hx (h.out v hv hvf)
  · obtain rfl := List.mem_singleton.mp hv
    exact hf hvf

lemma noFin (h : Own settled mark iss data false u x s) {w : WireSeg} (hm : w ∈ s.env.wire.drop mark)
    (hf : w.flags.fin = true) : False := by
  cases (h.out w hm hf).1

lemma finQueued (h : Own settled mark iss data false u x s) (hl : Laid iss data true u x s')
    (ho : s.core.state.opening = false) (hs : s'.core.state = s.core.state) (hw : s'.env.wire = s.env.wire) :
    Own settled mark iss data true u x s' := by
  have he : (sendStream data true).length = (sendStream data false).length + 1 := by
    rw [sendStream_length, sendStream_length, Bool.toNat_true, Bool.toNat_false]
  refine ⟨hl, ?_, fun w hm hf => (h.noFin (by rw [← hw]; exact hm) hf).elim, by rw [hw]; exact h.mark⟩
  rw [hs, he]
  refine h.stage.queued h.send.next_le fun hp => ?_
  rw [(opening_iff _).mpr hp] at ho
  cases ho

lemma wrote (h : Own settled mark iss data fin u x s) (hw : Wrote s s') :
    ∃ data', Own settled mark iss data' fin u x s' := by
  obtain ⟨⟨data', hl⟩, -, -, -⟩ := h.toLaid.wrote hw
  cases hw with
  | chunk ho =>
    obtain rfl := h.unfinished ho
    exact ⟨data', hl, h.stage.grown _, fun w hm hf => (h.noFin hm hf).elim, h.mark⟩

lemma opening_fin (h : Own settled mark iss data fin u x s) (hs : s.core.state.opening = true) : fin = false := by
  have hst := h.stage
  rcases (opening_iff _).mp hs with hp | hp <;> rw [hp] at hst <;> exact hst

end Own

lemma Beside.own (hb : Beside s s') (h : Own settled mark iss data fin u x s) : Own settled mark iss data fin u x s' where
  toLaid := h.toLaid.sameView hb.toSameView hb.core
  stage := h.stage.step h.toLaid.all_acked.mp hb.core.turn
  out := by rw [hb.wire]; exact h.out
  mark := by rw [hb.wire]; exact h.mark

lemma Move.own (hm : Move s s') (h : Own settled mark iss data fin u x s) :
    ∃ fin' x', Own settled mark iss data fin' u x' s' := by
  have hopt (flags : Flags) := (makeTcpOptions_scale s.nego s.env.now flags).le.trans h.scale
  cases hm with
  | beside hb => exact ⟨fin, x, hb.own h⟩
  | unrouted | routed | faulted => exact ⟨fin, x, h.relaid (h.toLaid.same rfl h.wnd h.scale (.refl _)) rfl rfl⟩
  | offered flags => exact ⟨fin, x, h.relaid (h.toLaid.same rfl h.wnd (hopt flags) (.refl _)) rfl rfl⟩
  | bare seq ack hf =>
    refine ⟨fin, x, h.sends (h.toLaid.emitted seq ack _ []) h.stage rfl id fun hw => ?_⟩
    cases hf.2.symm.trans hw
  | @resent b hb budget =>
    obtain ⟨w, hw, -, hwf, -⟩ := emittedCopy_wire s b budget false
    refine ⟨fin, x, h.sends (h.toLaid.same rfl h.wnd (hopt _) (.refl _)) h.stage hw id fun hf => ?_⟩
    rw [hwf] at hf
    exact h.send.finGone hb ((sendClone_spec b budget false).2.1 hf)
  | @sent b rest hq n hn hr sendFin hf push =>
    obtain ⟨-, hpos, hsyn⟩ := h.head hq
    obtain rfl := hn hsyn
    obtain ⟨w, hw, -, hwf, -⟩ := emittedCopy_wire s b (tcpSkbSeqLen b) push
    have hu := h.send.unsent
    rw [hq] at hu
    have hle := hu.2.2.le
    have hgone := h.send.fin_with hq
    refine ⟨fin, x + tcpSkbSeqLen b, h.sends (h.toLaid.launched hq hr sendFin push) ?_ hw (fun hg => ?_) fun hwfin => ?_⟩
    · refine h.stage.sent h.le (by omega) hle (fun hs => hgone (by rw [← hf hsyn, hs])) fun hs hfin => ?_
      subst hfin
      exact h.send.before_fin hq (by rw [← hf hsyn, hs])
    · have hx := hg.2
      omega
    · rw [hwf] at hwfin
      exact hgone ((sendClone_spec b _ push).2.1 hwfin)
  | cut hq hp => exact ⟨fin, x, h.relaid (h.toLaid.cut hq hp) rfl rfl⟩
  | sampled v => exact ⟨fin, x, h.relaid (h.toLaid.same rfl h.wnd h.scale (.refl _)) rfl rfl⟩
  | finLast ho hs hl =>
    obtain rfl := h.unfinished ho
    exact ⟨true, x, h.finQueued (h.toLaid.finLast hl) hs rfl rfl⟩
  | finAlone ho hs hnil room =>
    obtain rfl := h.unfinished ho
    exact ⟨true, x, h.finQueued (h.toLaid.finAlone hnil room) hs rfl rfl⟩
  | resized hv => exact ⟨fin, x, h.relaid (h.toLaid.resized hv) rfl rfl⟩

lemma Moves.own (hm : Moves s s') (h : Own settled mark iss data fin u x s) :
    ∃ fin' x', Own settled mark iss data fin' u x' s' := by
  induction hm with
  | refl => exact ⟨fin, x, h⟩
  | tail _ hm ih =>
    obtain ⟨_, _, h₁⟩ := ih
    exact hm.own h₁

lemma Moves.ownInv (hm : Moves s s') (h : Own True mark iss data fin u x s) : OwnInv mark s' := by
  obtain ⟨fin', x', h'⟩ := hm.own h
  exact ⟨iss, data, fin', u, x', h'⟩

lemma Writes.own (hw : Writes s s') (h : Own True mark iss data fin u x s) : OwnInv mark s' := by
  cases hw with
  | idle hm => exact hm.ownInv h
  | @queued t t' hr hwr hm =>
    have hroute := setTcpSocketRoute_moves s
    rw [hr] at hroute
    obtain ⟨fin₁, x₁, h₁⟩ := hroute.own h
    have hwritten : ∃ data', Own True mark iss data' fin₁ u x₁ t' := by
      clear hm
      induction hwr with
      | refl => exact ⟨data, h₁⟩
      | tail _ hw ih =>
        obtain ⟨_, h₂⟩ := ih
        exact h₂.wrote hw
    obtain ⟨data', h₂⟩ := hwritten
    exact hm.ownInv h₂

lemma Reads.own {g : Segment} {t : TcpSock} (ht : Reads s g t) (h : Own settled mark iss data fin u x s) :
    Own settled mark iss data fin u x (parseTcpOptions t g.hdr).1 := by
  have h₁ : Own settled mark iss data fin u x t := by
    rcases ht with rfl | ⟨-, hb, -⟩
    · exact h
    · exact hb.own h
  have hl := h₁.toLaid.parsed g.hdr
  obtain ⟨c, hp, -⟩ := parseTcpOptions_frame t g.hdr
  exact h₁.relaid hl (by rw [hp]) (by rw [hp])

lemma ackOwnFin_own (h : Own settled mark iss data fin u x s) : Own True mark iss data fin u x (ackOwnFin s).1 := by
  have hb := (ackOwnFin_beside s).own h
  refine ⟨hb.toLaid, hb.stage.settle fun hp => ?_, hb.out, hb.mark⟩
  rw [ackOwnFin_state] at hp
  split at hp
  · revert hp
    cases s.core.state <;> simp [TcpState.finAcked, TcpState.phase]
  · next ha =>
    have hne : u ≠ (sendStream data fin).length := fun hu => ha (h.toLaid.all_acked.mpr hu)
    have hux := h.le
    have hle := h.send.next_le
    omega

lemma tcpInput_own (h : Own True mark iss data fin u x s) (g : Segment) : OwnInv mark (tcpInput s g) := by
  cases tcpInput_arrival s g with
  | unread hm => exact hm.ownInv h
  | read ht hm => exact hm.ownInv (ht.own h)
  | opened hs ht hc hm =>
    obtain rfl := h.opening_fin hs
    have hp := ht.own h
    obtain ⟨a, ha, hua, hax⟩ := hp.position hc.takes
    have hl := hp.toLaid.acked hua hax (by rw [hc.snd, ha]) (hp.window hc.wnd) (by rw [hc.nego]; exact hp.scale)
      hc.closeSend (by rw [hc.state]; rfl)
    refine hm.ownInv ⟨hl, ?_, by rw [hc.wire]; exact hp.out, by rw [hc.wire]; exact hp.mark⟩
    rw [hc.state]
    exact fun hf => by cases hf
  | crossed hs ht hm =>
    have hp := ht.own h
    have ho : s.core.state.opening = true := by rw [hs]; rfl
    exact hm.ownInv ⟨hp.toLaid.answered (h.opening ho), h.opening_fin ho, hp.out, hp.mark⟩
  | renewed hok ht hlt hb =>
    have hp := Reads.own (.inl rfl) h (g := g)
    obtain ⟨hst, -, -, -, -, hr⟩ := takesUp_iff.mp ht
    obtain ⟨a, ha, hua, hax⟩ := hp.position (.inr ⟨hlt, hr⟩)
    obtain ⟨v, hv, -, hcore⟩ := acknowledge_view (parseTcpOptions s g.hdr).1 g.hdr
    have hl : Laid iss data fin a x (acknowledge (parseTcpOptions s g.hdr).1 g.hdr) :=
      hp.toLaid.acked hua hax (by rw [hv.snd, ← ha]; rfl) (hp.window hv.wnd) (by rw [hv.nego]; exact hp.scale)
        (by rw [hcore]) (by rw [hcore]; exact opening_of_takesAcks hst)
    -- the state follows only after the retransmission this acknowledgement may cause
    have hc : Own False mark iss data fin a x (acknowledge (parseTcpOptions s g.hdr).1 g.hdr) := by
      refine ⟨hl, ?_, by rw [hv.wire]; exact hp.out, by rw [hv.wire]; exact hp.mark⟩
      rw [hcore]
      exact hp.stage.acked hua hax hp.send.next_le
    obtain ⟨fin', x', h₁⟩ := (ackNewData_moves _ g.hdr).own hc
    exact ⟨iss, data, fin', a, x', hb.own (ackOwnFin_own h₁)⟩
  | repeated _ _ hc hm =>
    have hp := Reads.own (.inl rfl) h (g := g)
    have hl := hp.toLaid.sameView hc.toSameView (by rw [hc.core]; exact .refl _)
    exact hm.ownInv (hp.relaid hl (by rw [hc.core]) hc.wire)

lemma step_own (h : OwnInv mark s) (e : Event) : OwnInv mark (step s e) := by
  obtain ⟨iss, data, fin, u, x, h⟩ := h
  have h₁ : Own True mark iss data fin u x (s.withInputs e.inputs) :=
    h.relaid (h.toLaid.same rfl h.wnd h.scale (.refl _)) rfl rfl
  rw [step]
  split
  · cases hs : e.action.segment? with
    | none => exact (act_writes _ hs).own h₁
    | some g =>
      rw [Action.eq_input hs]
      exact tcpInput_own h₁ g
  · exact ⟨iss, data, fin, u, x, h⟩

lemma step_mute (h : Mute s) (e : Event) : Mute (step s e) ∨ (step s e).core.state = .closed := by
  rw [step]
  split
  · next he =>
    have hi : Mute (s.withInputs e.inputs) := h.frame rfl rfl rfl
    exact hi.act he
  · exact .inl h

def KnowsFin (s : TcpSock) : Prop := s.core.state.late = true → s.core.state = .closed ∨ s.core.recvFin = true

lemma Arrow.late_of {a b : TcpState} (h : Arrow a b) (hb : b.late = true) (hne : b ≠ .closed) :
    a.late = true ∧ a ≠ .closed := by
  cases h with
  | lastFinSent | closingAcked => exact ⟨rfl, by decide⟩
  | ended => exact absurd rfl hne
  | _ => cases hb

lemma Arrows.late_of {a b : TcpState} (h : Arrows a b) (hb : b.late = true) (hne : b ≠ .closed) :
    a.late = true ∧ a ≠ .closed := by
  induction h with
  | refl => exact ⟨hb, hne⟩
  | tail _ hc ih =>
    obtain ⟨hl, hn⟩ := hc.late_of hb hne
    exact ih hl hn

lemma Apart.knowsFin (h : Apart s s') (hk : KnowsFin s) : KnowsFin s' := by
  intro hl
  by_cases hne : s'.core.state = .closed
  · exact .inl hne
  · obtain ⟨hl', hn⟩ := h.arrows.late_of hl hne
    right
    rw [h.recvFin]
    exact (hk hl').resolve_left hn

lemma tcpInput_knowsFin (h : KnowsFin s) (g : Segment) : KnowsFin (tcpInput s g) := by
  cases tcpInput_arrives s g with
  | apart ha => exact ha.knowsFin h
  | synced _ ha =>
    intro hl
    rcases ha.state with hs | hs
    · rw [hs] at hl
      cases hl
    · rw [hs] at hl
      cases hl
  | passed hp he =>
    have ha := (acknowledged_apart s g).knowsFin h
    have ht := inputText_taken (acknowledged s g) g
    rw [he]
    rcases inputFin_cases (inputText (acknowledged s g) g) g with ⟨-, hf⟩ | ⟨-, -, hc, -⟩
    · exact fun _ => .inr hf.recvFin
    · rw [KnowsFin, hc, ht.core]
      exact ha

lemma act_knowsFin (h : KnowsFin s) (a : Action) : KnowsFin (act s a) := by
  cases hg : a.segment? with
  | some g =>
    rw [a.eq_input hg]
    exact tcpInput_knowsFin h g
  | none =>
    have ht := act_touches s hg
    generalize act s a = s' at ht ⊢
    cases ht with
    | apart ha => exact ha.knowsFin h
    | read _ hc _ | resized _ hc _ =>
      rw [KnowsFin, hc]
      exact h

lemma step_knowsFin (h : KnowsFin s) (e : Event) : KnowsFin (step s e) := by
  rw [step]
  split
  · exact act_knowsFin (s := s.withInputs e.inputs) h e.action
  · exact h

end Netfast.Tcp

namespace Netfast.Req

open Tcp Serial Skbuff Run

structure Traced where
  life : Lifetime
  mark : ℕ := 0

def Traced.sock (t : Traced) : TcpSock := t.life.sock

def traceStep (t : Traced) (e : LifeEvent) : Traced :=
  { life := lifeStep t.life e
    mark := if t.sock.core.state = .closed ∧ (lifeStep t.life e).sock.core.state = .synSent then t.sock.env.wire.length
      else t.mark }

/-- What the state says about the two FINs. -/
structure FinConsistent (t : Traced) : Prop where
  sent : t.sock.core.state = .finWait1 ∨ t.sock.core.state = .closing ∨ t.sock.core.state = .lastAck →
    t.sock.snd.sndNxt = t.sock.snd.sndEnd ∧ lt t.sock.snd.sndUna t.sock.snd.sndEnd = true
  acked : t.sock.core.state = .finWait2 ∨ t.sock.core.state = .timeWait → t.sock.snd.sndUna = t.sock.snd.sndEnd
  unsent : t.sock.core.state = .established ∨ t.sock.core.state = .closeWait →
    ∀ w ∈ t.sock.env.wire.drop t.mark, w.flags.fin = false
  peer : t.sock.core.state ∈ [TcpState.finWait1, .closing, .lastAck, .finWait2, .timeWait, .established, .closeWait] →
    (t.sock.core.recvFin = true ↔
      t.sock.core.state ∈ [TcpState.closeWait, .closing, .lastAck, .timeWait])

/-- Sockets as `socket` and a listener make them. -/
inductive Started : Traced → Prop
  | socket {s : TcpSock} (m : ℕ) (hc : s.core.state = .closed) : Started { life := { sock := s }, mark := m }
  | child {s : TcpSock} (hdr : TcpHdr) (hf : Fresh s) (hr : s.core.recvFin = false) :
      Started { life := { sock := childSyn s hdr }, mark := s.env.wire.length }

/-- A connect that is not refused at once finds nothing left of an earlier attempt. -/
def ConnectsFresh (t : Traced) : LifeEvent → Prop
  | .connect _ => t.sock.core.isConnected = false → Fresh t.sock ∧ t.sock.core.recvFin = false
  | _ => True

inductive Stand (mark : ℕ) (s : TcpSock) : Prop
  | closed (h : s.core.state = .closed)
  | mute (h : Mute s)
  | live (h : OwnInv mark s) (hb : StaysLate s) (hk : KnowsFin s)

variable {t : Traced}

lemma Stand.consistent (h : Stand t.mark t.sock) : FinConsistent t := by
  cases h with
  | closed h =>
    refine ⟨?_, ?_, ?_, ?_⟩
    all_goals
      rw [h]
      intro hs
      simp at hs
  | mute h =>
    refine ⟨?_, ?_, ?_, ?_⟩
    all_goals
      rw [h.state]
      intro hs
      simp at hs
  | live h hb hk =>
    obtain ⟨iss, data, fin, u, x, h⟩ := h
    have hst := h.stage
    have hfl := h.flightLe
    refine ⟨fun hs => ?_, fun hs => ?_, fun hs w hm => ?_, fun hs => ?_⟩
    · have hg : fin = true ∧ x = (sendStream data fin).length ∧ (True → u < (sendStream data fin).length) := by
        rcases hs with hs | hs | hs <;> rw [hs] at hst <;> exact hst
      have hlt := hg.2.2 trivial
      rw [h.send.nxt, h.send.fin, h.send.una, ← hg.2.1]
      exact ⟨rfl, (lt_label _ (by omega) (by omega)).mpr (hg.2.1 ▸ hlt)⟩
    · have hg : fin = true ∧ u = (sendStream data fin).length := by
        rcases hs with hs | hs <;> rw [hs] at hst <;> exact hst
      rw [h.send.una, h.send.fin, ← hg.2]
    · have hg : fin = true → x < (sendStream data fin).length := by
        rcases hs with hs | hs <;> rw [hs] at hst <;> exact hst
      rw [← Bool.not_eq_true]
      intro hf
      obtain ⟨hfin, hx⟩ := h.out w hm hf
      exact absurd hx (hg hfin).ne
    · constructor
      · intro hf
        have hlate := hb hf
        revert hs hlate
        cases t.sock.core.state <;> simp [TcpState.late]
      · intro hl
        have hlate : t.sock.core.state.late = true := by
          revert hl
          cases t.sock.core.state <;> simp [TcpState.late]
        refine (hk hlate).resolve_left fun hc => ?_
        rw [hc] at hl
        simp at hl

variable {mark : ℕ} {s s' : TcpSock}

lemma Rests.own (h : Rests s s') (ho : OwnInv mark s) : OwnInv mark s' := by
  obtain ⟨iss, data, fin, u, x, ho⟩ := ho
  refine ⟨iss, data, fin, u, x, ho.relaid (ho.toLaid.same h.snd ?_ ?_ ?_) h.state h.wire⟩
  · rw [h.win]
    exact ho.wnd
  · rw [h.scale]
    exact ho.scale
  · exact .of_state (by rw [h.state]; exact .same _) (by rw [h.core])

lemma Rests.mute (h : Rests s s') (hm : Mute s) : Mute s' := by
  refine ⟨h.state.trans hm.state, ?_, ?_, ?_, ?_, ?_⟩
  · rw [h.snd, hm.flight]
  · rw [h.snd, hm.unsent]
  · rw [h.snd, hm.nxt]
  · rw [h.core]
    exact hm.fd
  · rw [h.win]
    exact hm.wnd

lemma Rests.fresh (h : Rests s s') (hf : Fresh s) : Fresh s' := by
  refine ⟨?_, ?_, ?_, ?_, ?_, ?_, ?_, ?_, h.cong.open hf.ca⟩
  · rw [h.snd, hf.flight]
  · rw [h.snd, hf.unsent]
  · rw [h.snd, hf.nxt]
  · rw [h.snd, hf.fin]
  · rw [h.snd, hf.len]
  · rw [h.snd]
    exact hf.max
  · rw [h.win]
    exact hf.wnd
  · rw [h.scale]
    exact hf.scale

lemma stand_of_syn {iss : Seq} {s : TcpSock} (hc : ConnAt False iss [] false 0 1 s)
    (hs : s.core.state = .synSent ∨ s.core.state = .synReceived) (hf : s.core.recvFin = false)
    (hm : mark ≤ s.env.wire.length) (hw : ∀ w ∈ s.env.wire.drop mark, w.flags.fin = false) : Stand mark s := by
  refine .live ⟨iss, [], false, 0, 1, hc.laid, ?_, fun w hw' h => ?_, hm⟩ (fun h => ?_) (fun h => ?_)
  · rcases hs with hs | hs <;> rw [hs] <;> rfl
  · exact absurd h (by rw [hw w hw']; decide)
  · exact absurd h (by rw [hf]; decide)
  · rcases hs with hs | hs <;> rw [hs] at h <;> cases h

lemma connectSyn_sends {u s : TcpSock} (h : connectSyn u = (s, none)) :
    Emits (fun w => w.flags.fin = false) u s ∧ s.core.recvFin = u.core.recvFin := by
  have hem := tcpSendFlag_emits (P := fun w => w.flags.fin = false) { u with core.state := .synSent } u.snd.sndNxt 0
    { syn := true } fun w hw _ => by rw [hw]
  obtain ⟨s₁, room, rfl, he, hk⟩ := connectSyn_ok h
  rw [he] at hem
  exact ⟨hem, (congrArg SockCore.recvFin hk.core :)⟩

lemma Began.stand (h : Began s s') (hf : Fresh s) (hr : s.core.recvFin = false) : Stand s.env.wire.length s' := by
  obtain ⟨u, hu, hs⟩ := h.syn
  obtain ⟨⟨ws, hw, hfin⟩, hrf⟩ := connectSyn_sends hs
  rw [hu.wire] at hw
  refine stand_of_syn (connectSyn_inv (hu.fresh hf) hs) (.inl (connectSyn_state hs)) ?_ ?_ ?_
  · exact (hrf.trans hu.recvFin).trans hr
  · rw [hw, List.length_append]
    exact Nat.le_add_right _ _
  · rw [hw, List.drop_left]
    exact hfin

lemma Stand.step {s : TcpSock} (h : Stand mark s) (e : Event) : Stand mark (Tcp.step s e) := by
  cases h with
  | closed h => exact .closed (step_stays_closed h e)
  | mute h =>
    rcases step_mute h e with hm | hc
    · exact .mute hm
    · exact .closed hc
  | live h hb hk => exact .live (step_own h e) ((step_finStep s e).behind hb) (step_knowsFin hk e)

lemma Stand.rests (h : Stand mark s) (hr : Rests s s') : Stand mark s' := by
  cases h with
  | closed h => exact .closed (hr.state.trans h)
  | mute h => exact .mute (hr.mute h)
  | live h hb hk =>
    refine .live (hr.own h) (fun hf => ?_) (fun hl => ?_)
    · rw [hr.state]
      exact hb (hr.recvFin.symm.trans hf)
    · rw [hr.state, hr.recvFin]
      exact hk (hr.state ▸ hl)

lemma traceStep_stand {e : LifeEvent} (h : Stand t.mark t.sock) (hok : ConnectsFresh t e) :
    Stand (traceStep t e).mark (traceStep t e).sock := by
  have hturn := lifeStep_turn t.life e
  have hmark : (traceStep t e).mark =
      if t.sock.core.state = .closed ∧ (traceStep t e).sock.core.state = .synSent then t.sock.env.wire.length else t.mark :=
    rfl
  change Turn t.life e (traceStep t e).sock at hturn
  rw [hmark]
  generalize (traceStep t e).sock = s' at hturn ⊢
  -- the mark moves only when a closed socket sends its SYN
  have hsame (hs : t.sock.core.state = .closed → s'.core.state = .closed) : (if t.sock.core.state = .closed ∧
      s'.core.state = .synSent then t.sock.env.wire.length else t.mark) = t.mark := by
    refine if_neg ?_
    rintro ⟨hc, hn⟩
    rw [hs hc] at hn
    cases hn
  cases hturn with
  | event ev =>
    rw [hsame fun hc => step_stays_closed hc ev]
    exact h.step ev
  | rests hr =>
    rw [hsame fun hc => hr.state.trans hc]
    exact h.rests hr
  | failed _ ha => exact .closed ha.state
  | gaveUp _ ha => exact .closed ha.state
  | began hb =>
    obtain ⟨hf, hr⟩ := hok hb.unconnected
    have hst : s'.core.state = .synSent := by
      obtain ⟨u, -, hs⟩ := hb.syn
      exact connectSyn_state hs
    rw [if_pos ⟨hb.closed, hst⟩]
    exact Began.stand hb hf hr

lemma childSyn_emits (s : TcpSock) (hdr : TcpHdr) : Emits (fun w => w.flags.fin = false) s (childSyn s hdr) ∧
    (childSyn s hdr).core = { s.core with state := .synReceived, parentSock := true, fdEntry := false, isConnected := true } := by
  obtain ⟨s₁, hr, he⟩ := childSyn_ready s hdr
  rcases he with he | he
  · rw [he]
    exact ⟨.of_eq hr.wire, hr.core⟩
  · rw [he]
    refine ⟨.trans (.of_eq hr.wire) (tcpSendFlag_emits s₁ _ _ _ fun w hw _ => by rw [hw]), ?_⟩
    rcases tcpSendFlag_syn s₁ s₁.snd.sndUna s₁.rcv.rcvNxt { syn := true, ack := true } rfl with ⟨hk, -⟩ | ⟨room, hk⟩
    · exact hk.core.trans hr.core
    · exact hk.core.trans hr.core

lemma Started.stand (h : Started t) : Stand t.mark t.sock := by
  cases h with
  | socket m hc => exact .closed hc
  | @child s hdr hf hr =>
    obtain ⟨⟨ws, hw, hfin⟩, hcore⟩ := childSyn_emits s hdr
    have hcases : ConnAt False s.snd.sndUna [] false 0 1 (childSyn s hdr) ∨ _ := childSyn_cases hf hdr
    rcases hcases with hc | ⟨hsnd, hst, hwnd, -, -⟩
    · refine stand_of_syn hc (.inr (congrArg SockCore.state hcore)) ((congrArg SockCore.recvFin hcore).trans hr) ?_ ?_
      · change _ ≤ (childSyn s hdr).env.wire.length
        rw [hw, List.length_append]
        exact Nat.le_add_right _ _
      · change ∀ w ∈ (childSyn s hdr).env.wire.drop _, _
        rw [hw, List.drop_left]
        exact hfin
    · refine .mute ⟨hst, ?_, ?_, ?_, congrArg SockCore.fdEntry hcore, hwnd.trans (by decide)⟩
      · exact (congrArg SendState.retransmitQueue hsnd).trans hf.flight
      · exact (congrArg SendState.sendQueue hsnd).trans hf.unsent
      · change (childSyn s hdr).snd.sndNxt = (childSyn s hdr).snd.sndUna
        rw [hsnd, hf.nxt]

/-- The states and the FINs agree in every run in which a connect finds nothing left of an earlier attempt. -/
theorem fin_states_consistent {t : Traced} (h : Started t) {es : List LifeEvent} (hok : Meets traceStep ConnectsFresh t es) :
    ∀ es₁ es₂, es = es₁ ++ es₂ → FinConsistent (run traceStep t es₁) := by
  rintro es₁ es₂ rfl
  have hrun : Stand (run traceStep t es₁).mark (run traceStep t es₁).sock :=
    run_invariant (I := fun t : Traced => Stand t.mark t.sock) (fun t e ht he => traceStep_stand ht he) h.stand hok.append.1
  exact hrun.consistent

def leftoverRun : List LifeEvent :=
  [.io { action := .setsockopt (.sndtimeo (some 500)) },
    .connect {},
    .io { action := .write [7] false, inputs := { now := 100 } },
    .retry { now := 500 },
    .connect { io := { now := 600 } },
    .io { action := .input (bareSegment (plainHdr 500 1 { syn := true, ack := true })), inputs := { now := 700 } },
    .io { action := .shutdown .wr, inputs := { now := 701 } },
    .io { action := .timer, inputs := { now := 1500 } }]

lemma boundSock_started : Started { life := { sock := boundSock } } := .socket 0 rfl

theorem leftover_byte_moves_fin :
    Started { life := { sock := boundSock } } ∧
      (run traceStep { life := { sock := boundSock } } leftoverRun).sock.core.state = .finWait1 ∧
      (run traceStep { life := { sock := boundSock } } leftoverRun).sock.snd.sndNxt = 3 ∧
      (run traceStep { life := { sock := boundSock } } leftoverRun).sock.snd.sndEnd = 2 ∧
      ¬FinConsistent (run traceStep { life := { sock := boundSock } } leftoverRun) := by
  have hst : (run traceStep { life := { sock := boundSock } } leftoverRun).sock.core.state = .finWait1 := by decide
  have hnxt : (run traceStep { life := { sock := boundSock } } leftoverRun).sock.snd.sndNxt = 3 := by decide +kernel
  have hend : (run traceStep { life := { sock := boundSock } } leftoverRun).sock.snd.sndEnd = 2 := by decide
  refine ⟨boundSock_started, hst, hnxt, hend, fun h => ?_⟩
  have hsent := (h.sent (.inl hst)).1
  rw [hnxt, hend] at hsent
  revert hsent
  decide

/-- Nothing is written before the attempt times out, and the second one is closed in order. -/
theorem fin_states_consistent_second_try :
    FinConsistent (run traceStep { life := { sock := boundSock } } (leftoverRun.eraseIdx 2)) := by
  have hok : Meets traceStep ConnectsFresh { life := { sock := boundSock } } (leftoverRun.eraseIdx 2) := by
    refine ⟨trivial, fun _ => ⟨?_, rfl⟩, trivial, fun _ => ⟨?_, ?_⟩, trivial, trivial, trivial, trivial⟩
    · constructor <;> decide
    · constructor <;> decide
    · decide
  exact fin_states_consistent boundSock_started hok _ [] (List.append_nil _).symm

end Netfast.Req
