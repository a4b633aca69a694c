import Netfast.Lib.Run
import Netfast.Tcp.Limits

/-! The size of data segments. Text is cut when it is written and never cut again for its size: what leaves is
within `tcp_data_mss` as long as that limit stays what it was while text is queued. -/

namespace Netfast.Tcp

open Skbuff Run

def room (ds : List DataInfo) : ℕ := (flatten ds).length + endSpace ds

variable {ds : List DataInfo} {b : SkBuff}

lemma endSpace_concat (pre : List DataInfo) (d : DataInfo) : endSpace (pre ++ [d]) = d.endSpace := by
  simp [endSpace]

def Dead (d : DataInfo) : Prop := d.data = [] ∧ d.size ≤ d.headroom

variable {d : DataInfo}

lemma Dead.endSpace (h : Dead d) : d.endSpace = 0 := by
  have := h.2
  rw [DataInfo.endSpace]
  omega

lemma flatten_dead (h : ∀ d ∈ ds, Dead d) : flatten ds = [] := by
  rw [flatten, List.flatMap_eq_nil_iff]
  exact fun d hd => (h d hd).1

lemma room_dead (h : ∀ d ∈ ds, Dead d) : room ds = 0 := by
  rw [room, flatten_dead h, List.length_nil, Nat.zero_add]
  rcases List.eq_nil_or_concat ds with rfl | ⟨pre, d, rfl⟩
  · rfl
  · rw [List.concat_eq_append, endSpace_concat]
    exact (h d (by simp)).endSpace

inductive Cast (lim : ℕ) : List DataInfo → Prop
  | bare {ds : List DataInfo} (h : ∀ d ∈ ds, Dead d) : Cast lim ds
  | text {pre : List DataInfo} {d : DataInfo} (h : ∀ e ∈ pre, Dead e) (hsize : d.size = d.headroom + lim)
      (hle : d.data.length ≤ lim) : Cast lim (pre ++ [d])

variable {lim : ℕ}

lemma Cast.room_le (h : Cast lim ds) : room ds ≤ lim := by
  cases h with
  | bare h =>
    rw [room_dead h]
    exact Nat.zero_le lim
  | @text pre d h hsize hle =>
    rw [room, flatten_append, flatten_dead h, endSpace_concat, DataInfo.endSpace]
    simp only [flatten_cons, flatten_nil, List.append_nil, List.nil_append]
    omega

lemma putLast_concat (pre : List DataInfo) (d : DataInfo) (bs : List UInt8) :
    putLast (pre ++ [d]) bs = pre ++ [{ d with data := d.data ++ bs }] := by
  induction pre with
  | nil => rfl
  | cons e pre ih =>
    cases pre with
    | nil => rfl
    | cons e' pre =>
      rw [List.cons_append, List.cons_append, putLast]
      rw [List.cons_append] at ih
      rw [ih]
      rfl

lemma putLast_nil_dead (h : ∀ d ∈ ds, Dead d) : putLast ds [] = ds := by
  rcases List.eq_nil_or_concat ds with rfl | ⟨pre, d, rfl⟩
  · rfl
  · rw [List.concat_eq_append, putLast_concat, List.append_nil]

lemma appendLoop_nil (segLen k : ℕ) (f : Fates) : appendLoop 0 segLen k [] f = (some [], f) := by
  cases k <;> rfl

variable {chunk : List UInt8}

lemma skbDataAppend_infos {b' : SkBuff} {f f' : Fates} (h : skbDataAppend b chunk 0 lim f = (some b', f')) :
    ∃ ds, b'.infos = putLast b.infos (chunk.take (endSpace b.infos)) ++ ds ∧
      appendLoop 0 lim chunk.length (chunk.drop (endSpace b.infos)) f = (some ds, f') := by
  simp only [skbDataAppend] at h
  split at h
  · cases h
  split at h
  · cases h
  · next ds f'' hl =>
    obtain ⟨hb, rfl⟩ := Prod.mk.inj h
    obtain rfl := Option.some.inj hb
    exact ⟨ds, rfl, hl⟩

lemma Cast.append {b' : SkBuff} {f f' : Fates} (h : Cast lim b.infos) (hc : chunk ≠ [])
    (hfit : skbDataLen b + chunk.length ≤ lim) (he : skbDataAppend b chunk 0 lim f = (some b', f')) :
    Cast lim b'.infos := by
  obtain ⟨ds, hinfos, hl⟩ := skbDataAppend_infos he
  rw [skbDataLen, SkBuff.payload] at hfit
  rw [hinfos]
  generalize b.infos = is at h hfit hl ⊢
  cases h with
  | bare hd =>
    have hroom : endSpace is = 0 := by
      have := room_dead hd
      rw [room] at this
      omega
    rw [hroom, List.drop_zero] at hl
    rw [hroom, List.take_zero, putLast_nil_dead hd]
    have hlen : chunk.length ≤ lim := by omega
    cases chunk with
    | nil => exact absurd rfl hc
    | cons c cs =>
      simp only [List.length_cons, appendLoop, Nat.sub_zero, List.drop_eq_nil_of_le hlen, List.take_of_length_le hlen,
        appendLoop_nil] at hl
      split at hl
      · cases hl
      obtain rfl := Option.some.inj (Prod.mk.inj hl).1
      exact .text hd (Nat.zero_add lim).symm hlen
  | @text pre d hpre hsize hle =>
    have hroom : chunk.length ≤ endSpace (pre ++ [d]) := by
      simp only [flatten_append, flatten_dead hpre, flatten_cons, flatten_nil, List.append_nil, List.nil_append] at hfit
      rw [endSpace_concat, DataInfo.endSpace]
      omega
    rw [List.drop_eq_nil_of_le hroom, appendLoop_nil] at hl
    obtain rfl := Option.some.inj (Prod.mk.inj hl).1
    rw [List.take_of_length_le hroom, putLast_concat, List.append_nil]
    refine .text hpre hsize ?_
    simp only [flatten_append, flatten_dead hpre, flatten_cons, flatten_nil, List.append_nil, List.nil_append] at hfit
    rw [List.length_append]
    exact hfit

lemma Cast.single (hsize : d.size = d.headroom + lim) (hle : d.data.length ≤ lim) : Cast lim [d] := by
  have hnil : ∀ e ∈ ([] : List DataInfo), Dead e := fun e he => (List.not_mem_nil he).elim
  exact .text hnil hsize hle

lemma Cast.alloc (seq : Seq) (flag : Flags) (headroom : ℕ) :
    Cast lim (skbAlloc seq flag headroom (headroom + lim)).infos :=
  .single rfl (Nat.zero_le lim)

lemma Cast.header (headroom : ℕ) : Cast lim [{ headroom, data := [], size := headroom }] :=
  .bare fun d hd => by rw [List.mem_singleton.mp hd]; exact ⟨rfl, le_rfl⟩

lemma Cast.of_append {p r : List DataInfo} (h : Cast lim (p ++ r)) (hr : r ≠ []) : (∀ d ∈ p, Dead d) ∧ Cast lim r := by
  generalize hds : p ++ r = ds at h
  cases h with
  | bare h =>
    rw [← hds] at h
    exact ⟨fun d hd => h d (List.mem_append_left r hd), .bare fun d hd => h d (List.mem_append_right p hd)⟩
  | @text pre d h hsize hle =>
    rcases List.eq_nil_or_concat r with rfl | ⟨r', d', rfl⟩
    · exact absurd rfl hr
    · rw [List.concat_eq_append, ← List.append_assoc] at hds
      obtain ⟨rfl, hd⟩ := List.append_inj' hds rfl
      obtain rfl := List.singleton_inj.mp hd
      rw [List.concat_eq_append]
      exact ⟨fun e he => h e (List.mem_append_left r' he), .text (fun e he => h e (List.mem_append_right p he)) hsize hle⟩

lemma Cast.behind {p r : List DataInfo} (hp : ∀ d ∈ p, Dead d) (h : Cast lim r) : Cast lim (p ++ r) := by
  have happend {q : List DataInfo} (hq : ∀ d ∈ q, Dead d) : ∀ d ∈ p ++ q, Dead d := by
    intro d hd
    rcases List.mem_append.mp hd with hd | hd
    · exact hp d hd
    · exact hq d hd
  cases h with
  | bare h => exact .bare (happend h)
  | text h hsize hle =>
    rw [← List.append_assoc]
    exact .text (happend h) hsize hle

lemma Cast.fewer (h : Cast lim [d]) {bs : List UInt8} (hle : bs.length ≤ d.data.length) :
    Cast lim [{ d with data := bs }] := by
  generalize hds : [d] = ds at h
  cases h with
  | bare h =>
    have hd := h d (by rw [← hds]; exact List.mem_singleton_self d)
    rw [hd.1, List.length_nil, Nat.le_zero, List.length_eq_zero_iff] at hle
    refine .bare fun e he => ?_
    rw [List.mem_singleton.mp he]
    exact ⟨hle, hd.2⟩
  | @text pre e h hsize hle' =>
    rw [← List.nil_append [d]] at hds
    obtain ⟨-, he⟩ := List.append_inj' hds rfl
    obtain rfl := List.singleton_inj.mp he
    exact .single hsize (hle.trans hle')

lemma Cast.cut {hs ts : List DataInfo} (h : Cast lim ds) (hc : CutSlots ds hs ts) : Cast lim hs ∧ Cast lim ts := by
  cases hc with
  | alone _ n => exact ⟨h, .header n⟩
  | boundary =>
    by_cases ht : ts = []
    · rw [ht, List.append_nil] at h
      rw [ht]
      exact ⟨h, .bare (by simp)⟩
    · obtain ⟨hd, h⟩ := h.of_append ht
      exact ⟨.bare hd, h⟩
  | inside pre d cut rest =>
    obtain ⟨hpre, h⟩ := h.of_append (List.cons_ne_nil d rest)
    have htake : (d.data.take cut).length ≤ d.data.length := List.length_take_le' cut d.data
    have hdrop : (d.data.drop cut).length ≤ d.data.length := by rw [List.length_drop]; exact Nat.sub_le _ _
    by_cases hr : rest = []
    · rw [hr] at h ⊢
      exact ⟨.behind hpre (h.fewer htake), h.fewer hdrop⟩
    · rw [← List.singleton_append] at h
      obtain ⟨hd, h⟩ := h.of_append hr
      have hone : Cast lim [d] := .bare hd
      refine ⟨.behind hpre (hone.fewer htake), ?_⟩
      rw [← List.singleton_append]
      refine .behind (fun e he => ?_) h
      rw [List.mem_singleton.mp he]
      have hdead := hd d (List.mem_singleton_self d)
      exact ⟨by rw [hdead.1, List.drop_nil], hdead.2⟩

lemma room_putLast {bs : List UInt8} (h : bs.length ≤ endSpace ds) : room (putLast ds bs) ≤ room ds := by
  rcases List.eq_nil_or_concat ds with rfl | ⟨pre, d, rfl⟩
  · exact le_rfl
  · rw [List.concat_eq_append] at h ⊢
    rw [endSpace_concat, DataInfo.endSpace] at h
    rw [putLast_concat, room, room, endSpace_concat, endSpace_concat, DataInfo.endSpace, DataInfo.endSpace]
    simp only [flatten_append, flatten_cons, flatten_nil, List.append_nil, List.length_append]
    omega

lemma endSpace_cons_le (d : DataInfo) (ds : List DataInfo) : endSpace ds ≤ endSpace (d :: ds) := by
  cases ds with
  | nil => exact Nat.zero_le _
  | cons e ds => simp [endSpace]

lemma room_consumeInfos (ds : List DataInfo) (n : ℕ) : room (consumeInfos ds n) ≤ room ds := by
  induction ds generalizing n with
  | nil => exact le_rfl
  | cons d ds ih =>
    rw [consumeInfos]
    split
    · exact le_rfl
    split
    · next hn =>
      cases ds with
      | nil =>
        simp only [room, flatten_cons, flatten_nil, List.append_nil, endSpace, List.getLast?_singleton, Option.map_some,
          Option.getD_some, DataInfo.endSpace, List.length_drop]
        omega
      | cons e ds =>
        have hend : endSpace ({ d with headroom := d.headroom + n, data := d.data.drop n } :: e :: ds) =
            endSpace (d :: e :: ds) := by simp [endSpace]
        rw [room, room, hend, flatten_cons, flatten_cons d, List.length_append, List.length_append, List.length_drop]
        omega
    · have hrec := ih (n - d.data.length)
      have hend := endSpace_cons_le d ds
      rw [room] at hrec ⊢
      rw [room, flatten_cons, List.length_append]
      rw [room] at hrec
      omega

/-- A property of the packets that wait and one of those in flight that hold whatever the output does with them. -/
structure Shape (P Q : List DataInfo → Prop) : Prop where
  flight {ds : List DataInfo} (h : P ds) : Q ds
  cut {ds head tail : List DataInfo} (h : P ds) (hc : CutSlots ds head tail) : P head ∧ P tail
  header {n : ℕ} (h : 120 ≤ n) : P [{ headroom := n, data := [], size := n }]
  merge {ds : List DataInfo} {bs : List UInt8} (h : Q ds) (hb : bs.length ≤ endSpace ds) : Q (putLast ds bs)
  consume {ds : List DataInfo} (h : Q ds) (n : ℕ) : Q (consumeInfos ds n)

structure Shaped (P Q : List DataInfo → Prop) (q : SendState) : Prop where
  unsent : ∀ b ∈ q.sendQueue, P b.infos
  flight : ∀ b ∈ q.retransmitQueue, Q b.infos

section Shape

variable {P Q : List DataInfo → Prop} {q : List SkBuff} {s s' : TcpSock}

variable (h : Shape P Q)
include h

lemma Shape.enqueue {mss : ℕ} (hq : ∀ c ∈ q, Q c.infos) (hb : Q b.infos) :
    ∀ c ∈ tcpRetransmitEnqueue q mss b, Q c.infos := by
  rcases tcpRetransmitEnqueue_cases q mss b with ⟨-, he⟩ | ⟨-, he | ⟨init, last, merged, rfl, -, -, hm, he⟩⟩ <;> rw [he]
  · exact hq
  · exact forall_concat hq hb
  · refine forall_concat (fun c hc => hq c (List.mem_append_left _ hc)) ?_
    rw [skbAppendSkb] at hm
    split at hm
    · next hroom =>
      rw [← Option.some.inj hm]
      exact h.merge (hq last (by simp)) hroom
    · cases hm

lemma Shape.acked {ack : Seq} (hq : ∀ c ∈ q, Q c.infos) : ∀ c ∈ (ackQueue ack q).1, Q c.infos := by
  intro c hc
  rcases mem_ackQueue hc with hc | ⟨b, hb, rfl, -⟩
  · exact hq c hc
  · exact h.consume (hq b hb) _

lemma Shape.move (hm : Move s s') (hs : Shaped P Q s.snd) : Shaped P Q s'.snd := by
  cases hm with
  | beside hb =>
    rw [hb.snd]
    exact hs
  | resized => exact ⟨hs.unsent, hs.flight⟩
  | @sent b rest hq =>
    have hunsent := hs.unsent
    rw [hq] at hunsent
    exact ⟨fun c hc => hunsent c (List.mem_cons_of_mem b hc),
      h.enqueue hs.flight (h.flight (hunsent b List.mem_cons_self))⟩
  | @cut b head tail rest hq hparts =>
    have hunsent := hs.unsent
    rw [hq] at hunsent
    obtain ⟨hhead, htail⟩ := h.cut (hunsent b List.mem_cons_self) hparts.slots
    refine ⟨fun c hc => ?_, hs.flight⟩
    rcases List.mem_cons.mp hc with rfl | hc
    · exact hhead
    rcases List.mem_cons.mp hc with rfl | hc
    · exact htail
    · exact hunsent c (List.mem_cons_of_mem b hc)
  | @finLast _ _ last hl =>
    exact ⟨forall_concat (fun c hc => hs.unsent c (List.mem_of_mem_dropLast hc))
      (hs.unsent last (List.mem_of_mem_getLast? hl)), hs.flight⟩
  | finAlone _ _ _ n hn =>
    refine ⟨fun c hc => ?_, hs.flight⟩
    rw [List.mem_singleton.mp hc]
    exact h.header hn
  | _ => exact hs

lemma Shape.taken (ht : Taken s s') (hs : Shaped P Q s.snd) : Shaped P Q s'.snd := by
  cases ht with
  | same ht =>
    rw [ht.snd]
    exact hs
  | acked ack v t ht =>
    rw [ht.snd]
    exact ⟨hs.unsent, h.acked hs.flight⟩

omit h in
lemma Shaped.answered (hs : Shaped P Q s.snd) : Shaped P Q (answered s).snd := by
  refine ⟨hs.unsent, fun c hc => ?_⟩
  change c ∈ ackHead s.snd.retransmitQueue at hc
  cases hq : s.snd.retransmitQueue with
  | nil =>
    rw [hq] at hc
    cases hc
  | cons b bs =>
    rw [hq] at hc
    rcases List.mem_cons.mp hc with rfl | hc
    · exact hs.flight b (by rw [hq]; exact List.mem_cons_self)
    · exact hs.flight c (by rw [hq]; exact List.mem_cons_of_mem b hc)

end Shape

/-- No packet that waits, or may be sent again, can come to hold more than `lim` bytes. -/
abbrev Rooms (lim : ℕ) (q : SendState) : Prop := Shaped (Cast lim) (fun ds => room ds ≤ lim) q

lemma cast_shape (lim : ℕ) : Shape (Cast lim) fun ds => room ds ≤ lim where
  flight h := h.room_le
  cut h hc := h.cut hc
  header _ := .header _
  merge h hb := (room_putLast hb).trans h
  consume h n := (room_consumeInfos _ n).trans h

lemma Rooms.of_bare {q : SendState} (h : Rooms 0 q) : Rooms lim q := by
  refine ⟨fun b hb => ?_, fun b hb => (h.flight b hb).trans (Nat.zero_le lim)⟩
  have hc := h.unsent b hb
  generalize b.infos = ds at hc ⊢
  cases hc with
  | bare h => exact .bare h
  | @text pre d h hsize hle =>
    refine .bare fun e he => ?_
    rcases List.mem_append.mp he with he | he
    · exact h e he
    · rw [List.mem_singleton.mp he]
      exact ⟨List.length_eq_zero_iff.mp (Nat.le_zero.mp hle), hsize.le⟩

structure Fits (lim : ℕ) (before : List WireSeg) (s : TcpSock) : Prop where
  rooms : Rooms lim s.snd
  wire : ∃ ws, s.env.wire = before ++ ws ∧ ∀ w ∈ ws, w.payload.length ≤ lim

variable {s s' : TcpSock} {before : List WireSeg}

lemma skbDataLen_le_room (b : SkBuff) : skbDataLen b ≤ room b.infos := Nat.le_add_right _ _

lemma sendClone_le (b : SkBuff) (k : ℕ) (push : Bool) : (sendClone b k push).payload.length ≤ skbDataLen b := by
  simp only [sendClone]
  split
  · have hp := skbTruncate_payload b (min (skbDataLen b) (min k (tcpSkbSeqLen b) - b.flag.syn.toNat))
    simp only [SkBuff.payload] at hp ⊢
    rw [hp]
    exact List.length_take_le' _ _
  · exact le_rfl

lemma Fits.emitted {seq ack : Seq} {flags : Flags} {payload : List UInt8} (h : Fits lim before s)
    (hp : payload.length ≤ lim) : Fits lim before (emitted s seq ack flags payload) := by
  obtain ⟨w₀, hw₀, hp₀⟩ : ∃ w₀ : WireSeg, (Tcp.emitted s seq ack flags payload).env.wire = s.env.wire ++ [w₀] ∧
      w₀.payload = payload := ⟨_, rfl, rfl⟩
  obtain ⟨ws, hw, hle⟩ := h.wire
  refine ⟨h.rooms, ws ++ [w₀], by rw [hw₀, hw, List.append_assoc], fun w hmem => ?_⟩
  rcases List.mem_append.mp hmem with hmem | hmem
  · exact hle w hmem
  · rw [List.mem_singleton.mp hmem, hp₀]
    exact hp

lemma Move.fits (hm : Move s s') (h : Fits lim before s) : Fits lim before s' := by
  refine ⟨(cast_shape lim).move hm h.rooms, ?_⟩
  cases hm with
  | beside hb =>
    rw [hb.wire]
    exact h.wire
  | @bare seq ack flags _ =>
    have he : Fits lim before (Tcp.emitted s seq ack flags []) := h.emitted (Nat.zero_le lim)
    exact he.wire
  | @resent b hb budget =>
    have hlen := ((sendClone_le b budget false).trans (skbDataLen_le_room b)).trans (h.rooms.flight b hb)
    have he : Fits lim before (emittedCopy s b budget false) := h.emitted hlen
    exact he.wire
  | @sent b rest hq n _ _ _ _ push =>
    have hb := (h.rooms.unsent b (by rw [hq]; exact List.mem_cons_self)).room_le
    have hlen := ((sendClone_le b n push).trans (skbDataLen_le_room b)).trans hb
    have he : Fits lim before (emittedCopy s b n push) := h.emitted hlen
    exact he.wire
  | _ => exact h.wire

lemma Moves.fits (hm : Moves s s') (h : Fits lim before s) : Fits lim before s' :=
  hm.invariant (fun _ _ hs hm => hm.fits hs) h

lemma Wrote.fits (hw : Wrote s s') (h : Fits (tcpDataMss s.nego) before s) :
    s'.nego = s.nego ∧ Fits (tcpDataMss s'.nego) before s' := by
  cases hw with
  | @chunk _ bs hc hl _ n f =>
    have hw := writeChunk_chunked s.snd n f hl
    refine ⟨rfl, ?_, h.wire⟩
    change Rooms _ (writeChunk s.snd bs (tcpDataMss s.nego) n f).1
    generalize writeChunk s.snd bs (tcpDataMss s.nego) n f = w at hw ⊢
    cases hw with
    | failed => exact h.rooms
    | @put init b b' f f' hg he =>
      have hfit : skbDataLen b + bs.length ≤ tcpDataMss s.nego := by
        cases hg with
        | last _ hfit => exact hfit
        | fresh => exact (Nat.zero_add _).trans_le hl
      obtain ⟨hinit, hb⟩ := hg.forall h.rooms.unsent (Cast.alloc _ _ n)
      exact ⟨forall_concat hinit (hb.append hc hfit he), h.rooms.flight⟩

lemma wrote_fits (hw : Relation.ReflTransGen Wrote s s') (h : Fits (tcpDataMss s.nego) before s) :
    s'.nego = s.nego ∧ Fits (tcpDataMss s'.nego) before s' := by
  induction hw with
  | refl => exact ⟨rfl, h⟩
  | tail _ hw ih =>
    obtain ⟨hn, hf⟩ := hw.fits ih.2
    exact ⟨hn.trans ih.1, hf⟩

structure Answers (m : ℕ) (s : TcpSock) : Prop where
  next : ∀ a ∈ s.env.routes, ∀ r, a.cached = some r ∨ a.found = some r → routeMss s r = m
  kept : s.env.routes = [] → ∀ r, s.route = some r → routeMss s r = m

lemma Answers.found {m : ℕ} (h : Answers m s) {r : Route} (hr : (setSocketRoute s).1.route = some r) :
    routeMss s r = m := by
  simp only [setSocketRoute, nextAnswer] at hr
  cases hq : s.env.routes with
  | nil =>
    rw [hq] at hr
    cases ho : s.route with
    | none =>
      rw [ho] at hr
      cases hr
    | some o =>
      rw [ho] at hr
      exact h.kept hq r (ho.trans hr)
  | cons a as =>
    rw [hq] at hr
    refine h.next a (by rw [hq]; exact List.mem_cons_self) r ?_
    dsimp only at hr
    split at hr
    · next hc =>
      left
      rw [hc]
      exact hr
    · exact .inr hr

lemma routeMss_congr (hv : s'.core.isV6 = s.core.isV6) (r : Route) : routeMss s' r = routeMss s r := by
  rw [routeMss, routeMss, headerRoom, headerRoom, maxIpHdrLen, maxIpHdrLen, hv]

lemma Answers.step {m : ℕ} (h : Answers m s) (hv : s'.core.isV6 = s.core.isV6) (hq : s'.env.routes = s.env.routes.tail)
    (hr : ∀ r, s'.route = some r → routeMss s r = m) : Answers m s' := by
  refine ⟨fun a ha r har => ?_, fun _ r hroute => (routeMss_congr hv r).trans (hr r hroute)⟩
  rw [routeMss_congr hv]
  exact h.next a (List.mem_of_mem_tail (hq ▸ ha)) r har

lemma Answers.same {m : ℕ} (h : Answers m s) (hv : s'.core.isV6 = s.core.isV6) (hq : s'.env.routes = s.env.routes)
    (hr : s'.route = s.route) : Answers m s' :=
  ⟨fun a ha r har => (routeMss_congr hv r).trans (h.next a (hq ▸ ha) r har),
    fun hnil r hroute => (routeMss_congr hv r).trans (h.kept (hq ▸ hnil) r (hr ▸ hroute))⟩

structure Pinned (peer : ℕ) (ts : Bool) (m : ℕ) (s : TcpSock) : Prop where
  answers : Answers m s
  peer : s.nego.peerMss = peer
  ts : s.nego.peerTsOk = ts
  snd : s.nego.sndMss = min s.nego.peerMss s.nego.rcvMss

variable {peer m : ℕ} {ts : Bool}

lemma Pinned.same (h : Pinned peer ts m s) (hv : s'.core.isV6 = s.core.isV6) (hq : s'.env.routes = s.env.routes)
    (hr : s'.route = s.route) (hp : s'.nego.peerMss = s.nego.peerMss) (ht : s'.nego.peerTsOk = s.nego.peerTsOk)
    (hs : s'.nego.sndMss = s.nego.sndMss) (hm : s'.nego.rcvMss = s.nego.rcvMss) :
    Pinned peer ts m s' ∧ (s.nego.rcvMss = m → s'.nego.rcvMss = m) :=
  ⟨⟨h.answers.same hv hq hr, hp.trans h.peer, ht.trans h.ts, by rw [hs, hp, hm]; exact h.snd⟩, fun he => hm.trans he⟩

lemma makeTcpOptions_sizes (n : Nego) (now : ℕ) (flags : Flags) :
    (makeTcpOptions n now flags).2.peerMss = n.peerMss ∧ (makeTcpOptions n now flags).2.peerTsOk = n.peerTsOk ∧
      (makeTcpOptions n now flags).2.sndMss = n.sndMss ∧ (makeTcpOptions n now flags).2.rcvMss = n.rcvMss := by
  simp only [makeTcpOptions]
  split <;> exact ⟨rfl, rfl, rfl, rfl⟩

lemma Move.pinned (hm : Move s s') (h : Pinned peer ts m s) :
    Pinned peer ts m s' ∧ (s.nego.rcvMss = m → s'.nego.rcvMss = m) := by
  have hopt (flags : Flags) := makeTcpOptions_sizes s.nego s.env.now flags
  cases hm with
  | beside hb =>
    exact h.same hb.isV6 hb.routes hb.route (by rw [hb.nego]) (by rw [hb.nego]) (by rw [hb.nego]) (by rw [hb.nego])
  | unrouted => exact ⟨⟨h.answers.step rfl rfl (by simp), h.peer, h.ts, h.snd⟩, id⟩
  | @routed r hr =>
    have hmss := h.answers.found hr
    refine ⟨⟨h.answers.step rfl rfl fun r' hr' => ?_, h.peer, h.ts, rfl⟩, fun _ => hmss⟩
    rw [← Option.some.inj hr']
    exact hmss
  | offered flags => exact h.same rfl rfl rfl (hopt flags).1 (hopt flags).2.1 (hopt flags).2.2.1 (hopt flags).2.2.2
  | bare seq ack _ => exact h.same rfl rfl rfl (hopt _).1 (hopt _).2.1 (hopt _).2.2.1 (hopt _).2.2.2
  | resent _ budget => exact h.same rfl rfl rfl (hopt _).1 (hopt _).2.1 (hopt _).2.2.1 (hopt _).2.2.2
  | sent _ _ _ _ push => exact h.same rfl rfl rfl (hopt _).1 (hopt _).2.1 (hopt _).2.2.1 (hopt _).2.2.2
  | _ => exact h.same rfl rfl rfl rfl rfl rfl rfl

lemma Moves.pinned (hm : Moves s s') (h : Pinned peer ts m s) :
    Pinned peer ts m s' ∧ (s.nego.rcvMss = m → s'.nego.rcvMss = m) := by
  induction hm with
  | refl => exact ⟨h, id⟩
  | tail _ hm ih =>
    obtain ⟨hh, hr⟩ := hm.pinned ih.1
    exact ⟨hh, fun he => hr (ih.2 he)⟩

def pinnedMss (peer : ℕ) (ts : Bool) (m : ℕ) : ℕ := subU32 (min peer m) (if ts then 12 else 0)

lemma Pinned.dataMss (h : Pinned peer ts m s) (hm : s.nego.rcvMss = m) : tcpDataMss s.nego = pinnedMss peer ts m := by
  rw [tcpDataMss, pinnedMss, h.snd, h.peer, h.ts, hm]

structure Sized (s : TcpSock) : Prop where
  mss : MssInv s.nego
  rooms : Rooms (tcpDataMss s.nego) s.snd

/-- While text is queued the limit stays: the routes found in the step agree on the MSS there is, and the options
of a segment that arrives leave it alone. Without text they need only agree with each other. -/
def Steady (s : TcpSock) (e : Event) : Prop :=
  ∃ m, Answers m (s.withInputs e.inputs) ∧
    (Rooms 0 s.snd ∨ s.nego.rcvMss = m ∧ ∀ g, e.action = .input g → ∀ t, Reads (s.withInputs e.inputs) g t →
      tcpDataMss (parsedOptions t g.hdr).1 = tcpDataMss s.nego)

/-- What a step does for data segments: those it sends are within the limit in force when they leave, which is
still in force afterwards. -/
def Complies (s s' : TcpSock) : Prop :=
  ∃ ws, s'.env.wire = s.env.wire ++ ws ∧ ∀ w ∈ ws, w.payload.length ≤ tcpDataMss s'.nego

lemma Fits.start (h : Rooms lim s.snd) : Fits lim s.env.wire s := ⟨h, [], (List.append_nil _).symm, by simp⟩

lemma Moves.complies {s₀ : TcpSock} (hmv : Moves s s') (h : Pinned peer ts m s) (hp : 64 ≤ s.nego.peerMss)
    (hf : Fits 0 s₀.env.wire s ∨ s.nego.rcvMss = m ∧ Fits (tcpDataMss s.nego) s₀.env.wire s) :
    Sized s' ∧ Complies s₀ s' := by
  obtain ⟨h', hr⟩ := hmv.pinned h
  have hinv : MssInv s'.nego := ⟨by rw [h'.peer, ← h.peer]; exact hp, h'.snd⟩
  rcases hf with hf | ⟨hm, hf⟩
  · have hf' := hmv.fits hf
    obtain ⟨ws, hw, hle⟩ := hf'.wire
    exact ⟨⟨hinv, hf'.rooms.of_bare⟩, ws, hw, fun w hmem => (hle w hmem).trans (Nat.zero_le _)⟩
  · have hf' := hmv.fits hf
    rw [h.dataMss hm, ← h'.dataMss (hr hm)] at hf'
    exact ⟨⟨hinv, hf'.rooms⟩, hf'.wire⟩

lemma Writes.complies (hw : Writes s s') (h : Pinned peer ts m s) (hp : 64 ≤ s.nego.peerMss)
    (hf : Rooms 0 s.snd ∨ s.nego.rcvMss = m ∧ Rooms (tcpDataMss s.nego) s.snd) : Sized s' ∧ Complies s s' := by
  cases hw with
  | idle hmv => exact hmv.complies h hp (hf.imp .start (And.imp_right .start))
  | @queued t t' hr hw hmv =>
    obtain ⟨r, re, f, hroute, -, ht⟩ := setTcpSocketRoute_routed hr
    have hmss := h.answers.found hroute
    have ht' := (setTcpSocketRoute_moves s).pinned h
    rw [hr] at ht'
    have hrcv : t.nego.rcvMss = m := by
      rw [ht]
      exact hmss
    have hpeer : t.nego.peerMss = s.nego.peerMss := by rw [ht]; rfl
    -- the limit that the text is cut for is the one of the route just found
    have hrooms : Rooms (tcpDataMss t.nego) t.snd := by
      rcases hf with hf | ⟨hm, hf⟩
      · rw [ht]
        exact hf.of_bare
      · rw [ht'.1.dataMss hrcv, ← h.dataMss hm, ht]
        exact hf
    have hfits : Fits (tcpDataMss t.nego) s.env.wire t := by
      refine ⟨hrooms, [], ?_, by simp⟩
      rw [ht, List.append_nil]
    obtain ⟨hn, hfits'⟩ := wrote_fits hw hfits
    obtain ⟨q, rfl⟩ := wrote_frame hw
    have hpin := (ht'.1.same rfl rfl rfl rfl rfl rfl rfl : Pinned peer ts m { t with snd := q } ∧ _).1
    refine hmv.complies hpin ?_ (.inr ⟨by rw [hn]; exact hrcv, hfits'⟩)
    rw [hn, hpeer]
    exact hp

lemma Reads.parsed {t : TcpSock} {g : Segment} (hr : Reads s g t) (h : MssInv s.nego) (ha : Answers m s) :
    Pinned (parseTcpOptions t g.hdr).1.nego.peerMss (parseTcpOptions t g.hdr).1.nego.peerTsOk m
        (parseTcpOptions t g.hdr).1 ∧
      64 ≤ (parseTcpOptions t g.hdr).1.nego.peerMss ∧
      (parseTcpOptions t g.hdr).1.nego.rcvMss = s.nego.rcvMss ∧
      (parseTcpOptions t g.hdr).1.nego = (parsedOptions t g.hdr).1 ∧
      (parseTcpOptions t g.hdr).1.snd = s.snd ∧ (parseTcpOptions t g.hdr).1.env.wire = s.env.wire := by
  have hb : Beside s t := by
    rcases hr with rfl | ⟨-, hb, -⟩
    · exact .refl _
    · exact hb
  have hn : MssInv t.nego := by
    rw [hb.nego]
    exact h
  obtain ⟨hinv, hrcv⟩ := parseTcpOptions_mssInv hn g.hdr
  obtain ⟨c, hp, -⟩ := parseTcpOptions_frame t g.hdr
  have hans : Answers m (parseTcpOptions t g.hdr).1 := by
    rw [hp]
    exact (ha.same hb.isV6 hb.routes hb.route).same rfl rfl rfl
  refine ⟨⟨hans, rfl, rfl, hinv.snd⟩, hinv.peer, by rw [hrcv, hb.nego], by rw [hp], ?_, ?_⟩
  · rw [hp]
    exact hb.snd
  · rw [hp]
    exact hb.wire

lemma Taken.pinned {c : TcpSock} (h : Taken s c) (hp : Pinned peer ts m s) :
    Pinned peer ts m c ∧ c.env.wire = s.env.wire ∧ c.nego.rcvMss = s.nego.rcvMss ∧
      tcpDataMss c.nego = tcpDataMss s.nego ∧ c.nego.peerMss = s.nego.peerMss := by
  cases h with
  | same h =>
    refine ⟨(hp.same h.isV6 h.routes h.route ?_ ?_ ?_ ?_).1, h.wire, ?_, ?_, ?_⟩
    all_goals rw [h.nego]
  | acked ack v t h =>
    refine ⟨(hp.same h.isV6 h.routes h.route ?_ ?_ ?_ ?_).1, h.wire, ?_, ?_, ?_⟩
    all_goals
      rw [h.nego]
      try rfl

lemma tcpInput_complies (g : Segment) (h : Sized s) (ha : Answers m s)
    (hf : Rooms 0 s.snd ∨ s.nego.rcvMss = m ∧
      ∀ t, Reads s g t → tcpDataMss (parsedOptions t g.hdr).1 = tcpDataMss s.nego) :
    Sized (tcpInput s g) ∧ Complies s (tcpInput s g) := by
  -- what is queued fits the limit that holds once the options are read
  have hfit {t : TcpSock} (ht : Reads s g t) {p : TcpSock} (hn : p.nego.rcvMss = (parseTcpOptions t g.hdr).1.nego.rcvMss)
      (hd : tcpDataMss p.nego = tcpDataMss (parseTcpOptions t g.hdr).1.nego)
      (hw : p.env.wire = s.env.wire) (hs : ∀ lim, Rooms lim s.snd → Rooms lim p.snd) :
      Fits 0 s.env.wire p ∨ p.nego.rcvMss = m ∧ Fits (tcpDataMss p.nego) s.env.wire p := by
    obtain ⟨-, -, hrcv, hparsed, -, -⟩ := ht.parsed h.mss ha
    rcases hf with hf | ⟨hm, hf⟩
    · rw [← hw]
      exact .inl (.start (hs 0 hf))
    · refine .inr ⟨by rw [hn, hrcv, hm], ?_⟩
      rw [← hw, hd, hparsed, hf t ht]
      exact .start (hs _ h.rooms)
  rcases (tcpInput_arrival s g).plain with hmv | ⟨t, c, ht, hc, hmv⟩ | ⟨t, ht, hmv⟩
  · refine hmv.complies ⟨ha, rfl, rfl, h.mss.snd⟩ h.mss.peer ?_
    exact hf.imp .start fun hf => ⟨hf.1, .start h.rooms⟩
  · obtain ⟨hpin, hpeer, -, -, hsnd, hwire⟩ := ht.parsed h.mss ha
    obtain ⟨hpin', hwire', hrcv', hdata, hpeer'⟩ := hc.pinned hpin
    refine hmv.complies hpin' (by rw [hpeer']; exact hpeer) (hfit ht hrcv' hdata (hwire'.trans hwire) fun lim hr => ?_)
    exact (cast_shape lim).taken hc (by rw [hsnd]; exact hr)
  · obtain ⟨hpin, hpeer, -, -, hsnd, hwire⟩ := ht.parsed h.mss ha
    have hpin' : Pinned _ _ m (answered (parseTcpOptions t g.hdr).1) :=
      ⟨hpin.answers.same rfl rfl rfl, rfl, rfl, hpin.snd⟩
    refine hmv.complies hpin' hpeer (hfit ht rfl rfl hwire fun lim hr => ?_)
    rw [← hsnd] at hr
    exact hr.answered

lemma step_complies {e : Event} (h : Sized s) (he : Steady s e) : Sized (step s e) ∧ Complies s (step s e) := by
  obtain ⟨m, ha, hf⟩ := he
  rw [step]
  split
  · cases hs : e.action.segment? with
    | none =>
      refine (act_writes (s.withInputs e.inputs) hs).complies ⟨ha, rfl, rfl, h.mss.snd⟩ h.mss.peer ?_
      exact hf.imp_right fun hf => ⟨hf.1, h.rooms⟩
    | some g =>
      have hact := Action.eq_input hs
      rw [hact]
      have hsized : Sized (s.withInputs e.inputs) := ⟨h.mss, h.rooms⟩
      exact tcpInput_complies g hsized ha (hf.imp_right fun hf => ⟨hf.1, hf.2 g hact⟩)
  · exact ⟨h, [], (List.append_nil _).symm, by simp⟩

/-- From a connection without text on, as long as every step is steady, each data segment is within the limit in
force when it leaves. A single transmission is within it exactly when what it takes of the packet is. -/
theorem data_within_mss_iff {s : TcpSock} (hmss : MssInv s.nego) (hbare : Rooms 0 s.snd) {es : List Event}
    (hes : Meets step Steady s es) :
    (∀ pre e post, es = pre ++ e :: post → Complies (run step s pre) (step (run step s pre) e)) ∧
      ∀ (t : TcpSock) (b : SkBuff) (k : ℕ) (push : Bool), b.flag.syn = false →
        Leaves (fun w => ∃ r, (tcpXmitSegment t b k push).1.route = some r ∧
          (w.payload.length ≤ tcpDataMss (tcpXmitSegment t b k push).1.nego ↔
            min (skbDataLen b) k ≤ tcpDataMss (Nego.onRoute t r))) t (tcpXmitSegment t b k push).1 := by
  refine ⟨fun pre e post he => ?_, fun t b k push hsyn => ?_⟩
  · rw [he] at hes
    obtain ⟨hpre, hlast, -⟩ := hes.append
    have hstart : Sized s := ⟨hmss, hbare.of_bare⟩
    have hsized : Sized (run step s pre) :=
      run_invariant (I := Sized) (fun _ _ hs he => (step_complies hs he).1) hstart hpre
    exact (step_complies hsized hlast).2
  · rcases tcpXmitSegment_departs t b k push with hw | ⟨w, hd, -, -, hp⟩
    · exact .inl hw
    · obtain ⟨r, hr, -, hm⟩ := hd.route
      refine .inr ⟨w, hd.wire, r, hr, ?_⟩
      have hlim : tcpDataMss (tcpXmitSegment t b k push).1.nego = tcpDataMss (Nego.onRoute t r) := by
        rw [tcpDataMss, tcpDataMss, hm, hd.ts]
        rfl
      rw [hp, (sendClone_len hsyn k push).1, hlim]

def hundredWritten : Event := { action := .write (List.replicate 100 0) false, inputs := { now := 1 } }

def nagleFires (mtu : ℕ) : Event :=
  { action := .timer, inputs := { now := 300, routes := [{ cached := some { plainRoute with mtu }, found := none }] } }

def hundredQueued : TcpSock := run step (establishedSock 1 1) [hundredWritten]

lemma establishedSock_bare (a b : Seq) : Rooms 0 (establishedSock a b).snd :=
  ⟨by simp [establishedSock, tcpPcbInit], by simp [establishedSock, tcpPcbInit]⟩

lemma hundredWritten_steady : Meets step Steady (establishedSock 1 1) [hundredWritten, nagleFires 1500] := by
  refine ⟨⟨1460, ⟨by simp [hundredWritten], fun _ r hr => ?_⟩, .inl (establishedSock_bare 1 1)⟩,
    ⟨1460, ⟨?_, by simp [nagleFires]⟩, .inr ⟨by decide, fun g hg => by cases hg⟩⟩, trivial⟩
  · rw [← Option.some.inj hr]
    decide
  · intro a ha r hr
    rw [List.mem_singleton.mp ha] at hr
    rcases hr with hr | hr
    · rw [← Option.some.inj hr]
      decide
    · cases hr

theorem hundred_within_mss :
    Complies hundredQueued (step hundredQueued (nagleFires 1500)) ∧
      ((step hundredQueued (nagleFires 1500)).env.wire.map fun w => w.payload.length) = [100] := by
  have hmss : MssInv (establishedSock 1 1).nego := ⟨by decide, by decide⟩
  have h := (data_within_mss_iff hmss (establishedSock_bare 1 1) hundredWritten_steady).1 [hundredWritten] (nagleFires 1500) [] rfl
  exact ⟨h, by decide⟩

/-- The MTU falls to 68 before the timer fires: the segment cut for 1460 bytes leaves whole. -/
theorem hundred_exceed_mss :
    hundredQueued.env.wire = [] ∧
      ((step hundredQueued (nagleFires 68)).env.wire.map fun w => w.payload.length) = [100] ∧
      tcpDataMss (step hundredQueued (nagleFires 68)).nego = 28 ∧
      ¬Complies hundredQueued (step hundredQueued (nagleFires 68)) := by
  have hwire : hundredQueued.env.wire = [] := by decide
  have hlen : ((step hundredQueued (nagleFires 68)).env.wire.map fun w => w.payload.length) = [100] := by decide
  have hlim : tcpDataMss (step hundredQueued (nagleFires 68)).nego = 28 := by decide
  refine ⟨hwire, hlen, hlim, ?_⟩
  rintro ⟨ws, hw, hle⟩
  rw [hwire, List.nil_append] at hw
  rw [hw] at hlen
  obtain ⟨w, rfl, hw100⟩ := List.map_eq_singleton_iff.mp hlen
  have := hle w (List.mem_singleton_self w)
  omega

end Netfast.Tcp
