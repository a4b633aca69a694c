import Netfast.Lib.Run
import Netfast.Tcp.Moves
import Netfast.Tcp.Unacceptable

/-! Whether the route that a transmission reads is there. -/

namespace Netfast.Tcp

open Serial Skbuff Run

/-- TCP takes every route but, for IPv4, one to a group. -/
def Route.serves (isV6 : Bool) (r : Route) : Bool := isV6 || !(r.isBroadcast || r.isMulticast)

/-- The table has a route when it is asked: the cached one still holds, or there is another. -/
def RouteAnswer.finds (isV6 : Bool) (a : RouteAnswer) : Bool := (a.cached.or a.found).any (Route.serves isV6)

structure Linked (s : TcpSock) : Prop where
  route : s.route.any (Route.serves s.core.isV6) = true
  unread : .nullRoute ∉ s.env.faults

structure Routed (s : TcpSock) : Prop extends Linked s where
  answers : ∀ a ∈ s.env.routes, a.finds s.core.isV6 = true

variable {s s' : TcpSock}

lemma Routed.isSome (h : Routed s) : s.route.isSome := by
  obtain ⟨r, hr, -⟩ : ∃ r, s.route = some r ∧ r.serves s.core.isV6 = true := by
    simpa [Option.any_eq_true] using h.route
  rw [hr]
  rfl

lemma Routed.same (h : Routed s) (hv : s'.core.isV6 = s.core.isV6) (hr : s'.route = s.route)
    (ha : s'.env.routes = s.env.routes) (hf : s'.env.faults = s.env.faults) : Routed s' :=
  ⟨⟨by rw [hv, hr]; exact h.route, by rw [hf]; exact h.unread⟩, by rw [hv, ha]; exact h.answers⟩

lemma Routed.view (h : Routed s) (hv : SameView s s') : Routed s' := h.same hv.isV6 hv.route hv.routes hv.faults

lemma Routed.found (h : Routed s) : ∃ r, (setSocketRoute s).1.route = some r ∧ r.serves s.core.isV6 = true := by
  obtain ⟨o, ho, hs⟩ : ∃ o, s.route = some o ∧ o.serves s.core.isV6 = true := by
    simpa [Option.any_eq_true] using h.route
  cases ha : s.env.routes with
  | nil => exact ⟨o, by simp [setSocketRoute, nextAnswer, ha, ho], hs⟩
  | cons a as =>
    have hf := h.answers a (by rw [ha]; exact List.mem_cons_self)
    obtain ⟨r, hr, hrs⟩ : ∃ r, a.cached.or a.found = some r ∧ r.serves s.core.isV6 = true := by
      simpa [RouteAnswer.finds, Option.any_eq_true] using hf
    refine ⟨r, ?_, hrs⟩
    cases hc : a.cached <;> simp_all [setSocketRoute, nextAnswer]

lemma Routed.lookup (h : Routed s) : (setTcpSocketRoute s).2 = true := by
  obtain ⟨r, hr, hs⟩ := h.found
  cases ho : setSocketRoute s with
  | mk t ok =>
    have hok : ok = (setSocketRoute s).1.route.isSome := by
      change _ = (setSocketRoute s).2
      rw [ho]
    rw [hr] at hok
    obtain rfl : ok = true := hok
    have hv : t.core.isV6 = s.core.isV6 := by
      change (t, true).1.core.isV6 = _
      rw [← ho]
      rfl
    rw [ho] at hr
    simp only [setTcpSocketRoute, ho, show t.route = some r from hr]
    rw [if_neg]
    revert hs
    rw [hv]
    cases s.core.isV6 <;> simp [Route.serves]

lemma Move.routes (hm : Move s s') (h : Routed s) : Routed s' := by
  cases hm with
  | beside hb => exact h.view hb.toSameView
  | unrouted hl =>
    rw [h.lookup] at hl
    cases hl
  | @routed r hr =>
    obtain ⟨r', hr', hs⟩ := h.found
    obtain rfl := Option.some.inj (hr'.symm.trans hr)
    exact ⟨⟨by simpa using hs, h.unread⟩, fun a ha => h.answers a (List.mem_of_mem_tail ha)⟩
  | faulted hc =>
    refine ⟨⟨h.route, fun hmem => ?_⟩, h.answers⟩
    rcases List.mem_append.mp hmem with hmem | hmem
    · exact h.unread hmem
    · obtain rfl := List.mem_singleton.mp hmem
      have hsome := h.isSome
      rw [show s.route = none from hc] at hsome
      cases hsome
  | _ => exact h.same rfl rfl rfl rfl

lemma Moves.routes (hm : Moves s s') (h : Routed s) : Routed s' :=
  hm.invariant (fun _ _ hs hm => hm.routes hs) h

lemma Writes.routes (hw : Writes s s') (h : Routed s) : Routed s' := by
  cases hw with
  | idle hm => exact hm.routes h
  | @queued t t' hr hw hm =>
    have ht : Routed t := by
      have := (setTcpSocketRoute_moves s).routes h
      rwa [hr] at this
    refine hm.routes ?_
    clear hm
    induction hw with
    | refl => exact ht
    | tail _ hw ih =>
      cases hw with
      | chunk => exact ih.same rfl rfl rfl rfl

lemma tcpInput_routes (g : Segment) (h : Routed s) : Routed (tcpInput s g) := by
  have hparse {t : TcpSock} (ht : Reads s g t) : Routed (parseTcpOptions t g.hdr).1 := by
    obtain ⟨c, hp, -⟩ := parseTcpOptions_frame t g.hdr
    have hts : Routed t := by
      rcases ht with rfl | ⟨-, hb, -⟩
      · exact h
      · exact h.view hb.toSameView
    rw [hp]
    exact hts.same rfl rfl rfl rfl
  rcases (tcpInput_arrival s g).plain with hm | ⟨t, c, ht, hc, hm⟩ | ⟨t, ht, hm⟩
  · exact hm.routes h
  · refine hm.routes ?_
    cases hc with
    | same hv => exact (hparse ht).view hv
    | acked ack v t hv => exact (hparse ht).same hv.isV6 hv.route hv.routes hv.faults
  · refine hm.routes ⟨⟨(hparse ht).route, fun hmem => ?_⟩, (hparse ht).answers⟩
    simp only [answered] at hmem
    split at hmem
    · rcases List.mem_append.mp hmem with hmem | hmem
      · exact (hparse ht).unread hmem
      · cases List.mem_singleton.mp hmem
    · exact (hparse ht).unread hmem

lemma act_routes (a : Action) (h : Routed s) : Routed (act s a) := by
  cases hs : a.segment? with
  | none => exact (act_writes s hs).routes h
  | some g =>
    rw [Action.eq_input hs]
    exact tcpInput_routes g h

/-- Whenever the route table is asked in this step, it has a route to the peer. -/
def Reachable (s : TcpSock) (e : Event) : Prop := ∀ a ∈ e.inputs.routes, a.finds s.core.isV6 = true

lemma Linked.step {e : Event} (h : Linked s) (he : Reachable s e) : Linked (step s e) := by
  rw [Tcp.step]
  split
  · have hr : Routed (s.withInputs e.inputs) := ⟨⟨h.route, h.unread⟩, he⟩
    exact (act_routes e.action hr).toLinked
  · exact h

/-! Once it is lost, two segments of the peer are enough to have it read. -/

def strayEvent : Event := { action := .input (bareSegment (plainHdr 0 0 {})) }

lemma closed_reads (hn : s.route = none) (hf : s.core.freed = false) (hc : s.core.state = .closed) :
    .nullRoute ∈ (step s strayEvent).env.faults := by
  simp [step, strayEvent, Action.enabled, act, tcpInput, inputClosed, tcpSendFlag, bareSegment, plainHdr, hn, hf, hc]

lemma reset_closes {i : Inputs} (hfd : s.core.fdEntry = true) (hc : s.core.state ≠ .closed ∧ s.core.state ≠ .listen ∧
    s.core.state ≠ .synSent) :
    ∃ er no, tcpInput (s.withInputs i) (bareSegment (plainHdr s.rcv.rcvNxt 0 { rst := true })) =
      { s.withInputs i with core.state := .closed, error := er, env.notified := no } := by
  obtain ⟨h₁, h₂, h₃⟩ := hc
  have hd (er : Option Errno) : ∃ no, destroyTcpSocket { s.withInputs i with error := er } =
      { s.withInputs i with core.state := .closed, error := er, env.notified := no } := by
    simp only [destroyTcpSocket, hfd, if_true]
    exact ⟨_, rfl⟩
  have hin : tcpInput (s.withInputs i) (bareSegment (plainHdr s.rcv.rcvNxt 0 { rst := true })) =
      inputRst (s.withInputs i) := by
    cases hs : s.core.state <;>
      simp_all [tcpInput, parseTcpOptions, parsedOptions, optionLoop, inputSynchronized, bareSegment, plainHdr]
  rw [hin]
  cases hs : s.core.state with
  | closed => exact absurd hs h₁
  | listen => exact absurd hs h₂
  | synSent => exact absurd hs h₃
  | synReceived =>
    simp only [inputRst, hs]
    split
    · exact ⟨_, hd s.error⟩
    · exact ⟨_, hd _⟩
  | established | finWait1 | finWait2 | closeWait =>
    simp only [inputRst, hs]
    exact ⟨_, hd _⟩
  | closing | lastAck | timeWait =>
    simp only [inputRst, hs]
    exact ⟨_, hd s.error⟩

lemma lost_route_read (hn : s.route = none) (hfd : s.core.fdEntry = true) (hf : s.core.freed = false) :
    ∃ later, .nullRoute ∈ (run step s later).env.faults := by
  by_cases hc : s.core.state = .closed
  · exact ⟨[strayEvent], closed_reads hn hf hc⟩
  by_cases hl : s.core.state = .listen ∨ s.core.state = .synSent
  · refine ⟨[{ action := .input (bareSegment (plainHdr 0 s.snd.sndUna .ackOnly)) }], ?_⟩
    have hle : leq s.snd.sndUna s.snd.sndUna = true := by simp [leq]
    rcases hl with hl | hl <;>
      simp [run, step, Action.enabled, act, tcpInput, inputListen, tcpProcessSynSent, tcpSendFlag, bareSegment, plainHdr,
        Flags.ackOnly, hn, hf, hl, hle]
  · rw [not_or] at hl
    obtain ⟨er, no, hr⟩ := reset_closes (i := {}) hfd ⟨hc, hl⟩
    refine ⟨[{ action := .input (bareSegment (plainHdr s.rcv.rcvNxt 0 { rst := true })) }, strayEvent], ?_⟩
    have hs : step s { action := .input (bareSegment (plainHdr s.rcv.rcvNxt 0 { rst := true })) } =
        { s.withInputs {} with core.state := .closed, error := er, env.notified := no } := by
      rw [step, if_pos (by simp [Action.enabled, hf])]
      exact hr
    change _ ∈ (step (step s _) strayEvent).env.faults
    rw [hs]
    exact closed_reads hn hf rfl

/-- As long as the table has a route to the peer whenever it is asked, no missing route is read. It is enough that
it has none once: while the descriptor is held, the peer can then have the missing route read. -/
theorem route_present_when_read {s : TcpSock} (hr : s.route.any (Route.serves s.core.isV6) = true)
    (hs : .nullRoute ∉ s.env.faults) (es : List Event) :
    (Meets step Reachable s es → .nullRoute ∉ (run step s es).env.faults) ∧
      ((run step s es).route = none → (run step s es).core.fdEntry = true → (run step s es).core.freed = false →
        ∃ later, .nullRoute ∈ (run step s (es ++ later)).env.faults) := by
  refine ⟨fun h => (run_invariant (I := Linked) (fun _ _ ht he => ht.step he) ⟨hr, hs⟩ h).unread, fun hn hfd hf => ?_⟩
  obtain ⟨later, hl⟩ := lost_route_read hn hfd hf
  exact ⟨later, by rw [run_append]; exact hl⟩

def routeWithdrawn : List Event :=
  [{ action := .input (bareSegment (plainHdr 500 1 { syn := true, ack := true })), inputs := { now := 1 } },
    { action := .write [1] false, inputs := { now := 2, routes := [{ cached := none, found := none }] } },
    { action := .timer, inputs := { now := 3 } }]

theorem lost_route_is_read : .nullRoute ∉ openSock.env.faults ∧
    (run step openSock routeWithdrawn).env.faults = [.nullRoute] := by
  decide

/-- The cached route is withdrawn while a byte is in flight; the table has another. -/
def routeReplaced : List Event :=
  [{ action := .input (bareSegment (plainHdr 500 1 { syn := true, ack := true })), inputs := { now := 1 } },
    { action := .write [1] false, inputs := { now := 3, routes := [{ cached := none, found := some plainRoute }] } },
    { action := .timer, inputs := { now := 13, routes := [{ cached := none, found := some { plainRoute with ifindex := 2 } }] } },
    { action := .input (bareSegment (plainHdr 501 2 { rst := true })), inputs := { now := 14 } }]

theorem route_present_when_read_replaced : .nullRoute ∉ (run step openSock routeReplaced).env.faults ∧
    (run step openSock routeReplaced).route.map (·.ifindex) = some 2 := by
  refine ⟨(route_present_when_read (by decide) (by decide) routeReplaced).1 ?_, by decide⟩
  refine ⟨?_, ?_, ?_, ?_, trivial⟩
  all_goals
    intro a ha
    revert a
    decide

end Netfast.Tcp
