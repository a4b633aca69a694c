import Netfast.Req.Ops
import Netfast.Socket.Listen
import Netfast.Socket.Table
import Netfast.Tcp.Branches

/-! The two lists of a listener, the order in which `tcp_accept` takes children from the second, and the deadlines
of the calls that block. -/

namespace Netfast.Accept

open Tcp Run

-- right behind the node given, here the head of the list
def addListNode (l : List ℕ) (c : ℕ) : List ℕ := c :: l

def removeListNode (l : List ℕ) (c : ℕ) : List ℕ := l.filter (· ≠ c)

structure Listener extends Socket.TcpPcb where
  acceptList : List ℕ := []

-- the child opened is a new socket
def processListen (l : Listener) (c : ℕ) : Listener :=
  if c ∈ l.synList ++ l.acceptList ∨ 0 < l.backlog ∧ l.backlog ≤ l.synListNum + l.acceptListNum then l
  else { l with synList := addListNode l.synList c, synListNum := l.synListNum + 1 }

section Socket

open Socket

variable {A : Type} [DecidableEq A] [InetAddr A] {st : Stack A TcpPcb}

/-- On a stack, `tcp_process_listen` leaves the lists of the listener or opens the next socket as its child. -/
lemma tcpProcessListen_lists {i : SockId} (hi : i ≠ st.fresh) {l : List ℕ} (hl : st.fresh ∉ (st.socks i).pcb.synList ++ l)
    (p : TcpPacket A) (w : Worker) (f : Supply) :
    (∃ conn, ((tcpProcessListen st i p w f).socks i).pcb = { (st.socks i).pcb with conn }) ∨
      ((tcpProcessListen st i p w f).socks i).pcb = (processListen ⟨(st.socks i).pcb, l⟩ st.fresh).toTcpPcb := by
  simp only [tcpProcessListen]
  split
  · exact .inl ⟨_, rfl⟩
  split
  · refine .inl ⟨(tcpSendFlag (st.socks i).pcb.conn p.body.hdr.ackSeq 0 { rst := true }).1, ?_⟩
    simp [Stack.setPcb, Stack.set]
  iterate 2
    split
    · exact .inl ⟨_, rfl⟩
  split
  · exact .inl ⟨_, rfl⟩
  next hfull =>
  simp only [openChild]
  iterate 3
    split
    · exact .inl ⟨_, rfl⟩
  next conn _ =>
  have hlink := installTuple_link (child_entry st p w conn).1 f.entry
  split
  · exact .inl ⟨_, rfl⟩
  next st₁ hst =>
  have hother : st₁.socks i = st.socks i := by
    rw [hst] at hlink
    rcases hlink with h | ⟨k, h⟩
    · exact (congrFun h i).trans (create_other st _ hi)
    · exact (congrFun h i).trans ((Function.update_of_ne hi ..).trans (create_other st _ hi))
  have hroom : ¬(0 < (st.socks i).pcb.backlog ∧
      (st.socks i).pcb.backlog ≤ (st.socks i).pcb.synListNum + (st.socks i).pcb.acceptListNum) := by
    simpa [backlogFull] using hfull
  right
  rw [processListen, if_neg (not_or.mpr ⟨hl, hroom⟩)]
  simp [adoptChild, Stack.setPcb, Stack.set, hi, hother, addListNode]

end Socket

-- the SYN_RECEIVED branch of `tcp_input`, taken by a child of this listener
def handshakeDone (l : Listener) (c : ℕ) : Listener :=
  if c ∈ l.synList then
    { l with
      synList := removeListNode l.synList c
      synListNum := l.synListNum - 1
      acceptList := addListNode l.acceptList c
      acceptListNum := l.acceptListNum + 1 }
  else l

def clearAssociatedSocket (l : Listener) (c : ℕ) : Listener :=
  if c ∈ l.synList then { l with synList := removeListNode l.synList c, synListNum := l.synListNum - 1 }
  else if c ∈ l.acceptList then { l with acceptList := removeListNode l.acceptList c, acceptListNum := l.acceptListNum - 1 }
  else l

structure Call where
  now : ℕ
  expired : Bool := false
  addr : Bool := false
  addrlen : Bool := false
  entry : Bool := true

def tcpAccept (l : Listener) (a : Call) : Listener × Outcome ℕ :=
  if l.conn.core.state ≠ .listen then (l, .fail .einval)
  else if l.acceptListNum = 0 then
    if l.conn.core.nonblock || a.expired then (l, .fail .eagain)
    else (l, .wait (l.conn.core.recvTimeout.map (a.now + ·)))
  else
    match l.acceptList with
    -- a child is read behind NULL: the count says there is one
    | [] => (l, .fail .efault)
    | child :: rest =>
      if a.addr && !a.addrlen then (l, .fail .efault)
      else if !a.entry then (l, .fail .emfile)
      else ({ l with acceptList := rest, acceptListNum := l.acceptListNum - 1 }, .done child)

inductive Event
  | syn (c : ℕ)
  | handshake (c : ℕ)
  | failure (c : ℕ)
  | accept (a : Call)

/-- A listener with the children that wait, in the order in which their handshakes were completed. -/
structure Watched where
  listener : Listener
  waiting : List ℕ := []

def step (w : Watched) : Event → Watched
  | .syn c => { w with listener := processListen w.listener c }
  | .handshake c =>
    ⟨handshakeDone w.listener c, if c ∈ w.listener.synList then w.waiting ++ [c] else w.waiting⟩
  | .failure c => ⟨clearAssociatedSocket w.listener c, w.waiting.filter (· ≠ c)⟩
  | .accept a =>
    match tcpAccept w.listener a with
    | (l, .done c) => ⟨l, w.waiting.filter (· ≠ c)⟩
    | (l, _) => ⟨l, w.waiting⟩

def Takes (w : Watched) (e : Event) (c : ℕ) : Prop := ∃ a, e = .accept a ∧ (tcpAccept w.listener a).2 = .done c

/-- The child taken is the one whose handshake was completed first. -/
def TakesFirst (w : Watched) (e : Event) : Prop := ∀ c, Takes w e c → w.waiting.head? = some c

def TakesOnly (w : Watched) (e : Event) : Prop := ∀ c, Takes w e c → w.waiting = [c]

structure Listed (w : Watched) : Prop where
  order : w.listener.acceptList = w.waiting.reverse
  nodup : (w.listener.synList ++ w.listener.acceptList).Nodup

variable {w : Watched}

lemma tcpAccept_cases (l : Listener) (a : Call) :
    (∃ o, tcpAccept l a = (l, o) ∧ ∀ c, o ≠ .done c) ∨
      ∃ c rest, l.acceptList = c :: rest ∧
        tcpAccept l a = ({ l with acceptList := rest, acceptListNum := l.acceptListNum - 1 }, .done c) := by
  simp only [tcpAccept]
  split
  · exact .inl ⟨_, rfl, by simp⟩
  split
  · split <;> exact .inl ⟨_, rfl, by simp⟩
  split
  · exact .inl ⟨_, rfl, by simp⟩
  next c rest hl =>
  split
  · exact .inl ⟨_, rfl, by simp⟩
  split
  · exact .inl ⟨_, rfl, by simp⟩
  · exact .inr ⟨c, rest, hl, rfl⟩

lemma Listed.takes (h : Listed w) {e : Event} {c : ℕ} (ht : Takes w e c) :
    ∃ older, w.waiting = older ++ [c] ∧ c ∉ older := by
  obtain ⟨a, rfl, ha⟩ := ht
  rcases tcpAccept_cases w.listener a with ⟨o, he, hn⟩ | ⟨c', rest, hl, he⟩ <;> rw [he] at ha
  · exact absurd ha (hn c)
  · obtain rfl : c' = c := by simpa using ha
    have hw : w.waiting = rest.reverse ++ [c'] := by
      rw [← List.reverse_cons, ← hl, h.order, List.reverse_reverse]
    have hnd := (List.nodup_append.mp h.nodup).2.1
    rw [hl, List.nodup_cons] at hnd
    exact ⟨rest.reverse, hw, by simpa using hnd.1⟩

lemma removeListNode_reverse (l : List ℕ) (c : ℕ) : removeListNode l.reverse c = (l.filter (· ≠ c)).reverse :=
  List.filter_reverse ..

lemma removeListNode_of_notMem {l : List ℕ} {c : ℕ} (h : c ∉ l) : removeListNode l c = l :=
  List.filter_eq_self.mpr fun d hd => by simpa using ne_of_mem_of_not_mem hd h

lemma removeListNode_sublist (l : List ℕ) (c : ℕ) : (removeListNode l c).Sublist l := List.filter_sublist

lemma Listed.step (h : Listed w) (e : Event) : Listed (step w e) := by
  cases e with
  | syn c =>
    simp only [Accept.step, processListen]
    split
    · exact h
    · next hc => exact ⟨h.order, List.nodup_cons.mpr ⟨fun hm => hc (.inl hm), h.nodup⟩⟩
  | handshake c =>
    simp only [Accept.step, handshakeDone]
    split
    · next hc =>
      have hn := List.nodup_append.mp h.nodup
      refine ⟨by simp [addListNode, h.order], List.nodup_middle.mpr (List.nodup_cons.mpr ⟨?_, ?_⟩)⟩
      · rw [List.mem_append, not_or]
        exact ⟨by simp [removeListNode], fun ha => hn.2.2 c hc c ha rfl⟩
      · exact h.nodup.sublist ((removeListNode_sublist _ c).append_right _)
    · exact h
  | failure c =>
    have hn := List.nodup_append.mp h.nodup
    have hkeep (hc : c ∉ w.listener.acceptList) : w.waiting.filter (· ≠ c) = w.waiting := by
      rw [h.order, List.mem_reverse] at hc
      exact removeListNode_of_notMem hc
    simp only [Accept.step, clearAssociatedSocket]
    split
    · next hc =>
      refine ⟨?_, h.nodup.sublist ((removeListNode_sublist _ c).append_right _)⟩
      rw [hkeep fun ha => hn.2.2 c hc c ha rfl]
      exact h.order
    split
    · refine ⟨?_, h.nodup.sublist ((removeListNode_sublist _ c).append_left _)⟩
      rw [h.order]
      exact removeListNode_reverse _ c
    · next hc => exact ⟨by rw [hkeep hc]; exact h.order, h.nodup⟩
  | accept a =>
    rcases tcpAccept_cases w.listener a with ⟨o, he, hn⟩ | ⟨c, rest, hl, he⟩
    · simp only [Accept.step, he]
      cases o with
      | done c => exact absurd rfl (hn c)
      | _ => exact h
    · obtain ⟨older, hw, hc⟩ := h.takes ⟨a, rfl, by rw [he]⟩
      have hr : older.filter (· ≠ c) = older := removeListNode_of_notMem hc
      have ho := h.order
      have hn := h.nodup
      rw [hl, hw, List.reverse_concat, List.cons.injEq] at ho
      rw [hl] at hn
      simp only [Accept.step, he]
      refine ⟨?_, hn.sublist ((List.sublist_cons_self c rest).append_left _)⟩
      rw [hw, List.filter_append, hr]
      simpa using ho.2

/-- A child is put before those that wait, so the first of them is taken only where it waits alone. -/
theorem accept_takes_first_iff (conn : TcpSock) (backlog : ℕ) (es : List Event) :
    Meets step TakesFirst { listener := { conn, backlog } } es ↔
      Meets step TakesOnly { listener := { conn, backlog } } es := by
  have hes : Meets step (fun _ _ => True) { listener := { conn, backlog } } es := .of_mem fun _ _ => trivial
  refine meets_iff (I := Listed) ?_ (fun _ e h _ _ => h.step e) ⟨rfl, List.nodup_nil⟩ hes
  refine fun w e h _ => forall₂_congr fun c ht => ?_
  obtain ⟨older, hw, hc⟩ := h.takes ht
  cases older with
  | nil => simp [hw]
  | cons b bs =>
    have hb : b ≠ c := ne_of_mem_of_not_mem List.mem_cons_self hc
    simp [hw, hb]

theorem second_child_accepted_first : ∃ conn : TcpSock,
    ¬Meets step TakesFirst { listener := { conn, backlog := 8 } }
      [.syn 0, .syn 1, .handshake 0, .handshake 1, .accept { now := 0 }] := by
  refine ⟨{ tcpPcbInit false {} with core.state := .listen }, fun h => ?_⟩
  have hc := h.2.2.2.2.1 1 ⟨{ now := 0 }, rfl, rfl⟩
  exact absurd hc (by decide)

structure Counted (n : ℕ) (l : Listener) : Prop where
  backlog : l.backlog = n
  syns : l.synListNum = l.synList.length
  accepts : l.acceptListNum = l.acceptList.length
  room : 0 < n → l.synListNum + l.acceptListNum ≤ n

lemma length_removeListNode {l : List ℕ} {c : ℕ} (hn : l.Nodup) (hc : c ∈ l) :
    (removeListNode l c).length = l.length - 1 := by
  rw [← List.length_erase_of_mem hc, hn.erase_eq_filter]
  simp [removeListNode, bne, beq_eq_decide]

lemma Counted.step {n : ℕ} (h : Counted n w.listener) (hl : Listed w) (e : Event) : Counted n (step w e).listener := by
  obtain ⟨hb, hs, ha, hroom⟩ := h
  obtain ⟨hns, hna, -⟩ := List.nodup_append.mp hl.nodup
  cases e with
  | syn c =>
    simp only [Accept.step, processListen, addListNode]
    split <;> constructor <;> grind
  | handshake c =>
    simp only [Accept.step, handshakeDone, addListNode]
    split <;> constructor <;> grind [length_removeListNode]
  | failure c =>
    simp only [Accept.step, clearAssociatedSocket]
    split_ifs <;> constructor <;> grind [length_removeListNode]
  | accept a =>
    simp only [Accept.step]
    rcases tcpAccept_cases w.listener a with ⟨o, he, -⟩ | ⟨c, rest, hr, he⟩ <;> rw [he]
    · cases o <;> exact ⟨hb, hs, ha, hroom⟩
    · rw [hr] at ha
      constructor <;> grind

lemma Counted.no_efault {n l a} (h : Counted n l)
    (he : (tcpAccept l a).2 = .fail .efault) : a.addr && !a.addrlen := by
  have ha := h.accepts
  simp only [tcpAccept] at he
  grind

/-- The waiting children are those of completed handshakes, each once; the counts are right and within the
backlog; no call reads a missing child. -/
theorem listener_accounts (conn : TcpSock) (backlog : ℕ) (es : List Event) :
    let w := run step { listener := { conn, backlog } } es
    Listed w ∧ Counted backlog w.listener ∧
      ∀ a, (tcpAccept w.listener a).2 = .fail .efault → a.addr && !a.addrlen := by
  have h := run_always (I := fun w => Listed w ∧ Counted backlog w.listener)
    (fun _ e h => ⟨h.1.step e, h.2.step h.1 e⟩)
    (s := { listener := { conn, backlog } }) ⟨⟨rfl, List.nodup_nil⟩, rfl, rfl, rfl, fun _ => Nat.zero_le _⟩ es
  exact ⟨h.1, h.2, fun _ => h.2.no_efault⟩

/-- The `tcp_accept` of a request, which holds the children themselves, answers as this one. -/
lemma tcpAccept_request {n : ℕ} {l : Listener} {kids : List TcpSock} (hl : l.acceptList.length = kids.length)
    (hn : l.acceptListNum = l.acceptList.length) (expired free : Bool) (a : Req.Answers n) :
    let r := tcpAccept l { now := l.conn.env.now, expired, entry := free }
    (Req.tcpAccept l.conn kids expired free a).2.1 = Req.reply .waitingAccept (fun _ => .ok a.slot) r.2 ∧
      (Req.tcpAccept l.conn kids expired free a).1.length = r.1.acceptList.length := by
  simp only [Req.tcpAccept, tcpAccept]
  cases kids with
  | nil => grind [Req.reply]
  | cons child rest => grind [Req.reply]

/-- A `timeval` that `valid_timeval` accepts. -/
structure Timeval where
  sec : ℕ
  usec : ℕ
  valid : usec < 1000000

def Timeval.millis (tv : Timeval) : ℕ := tv.sec * 1000 + tv.usec / 1000

def getTime (tv : Timeval) : ℕ := tv.millis % 2 ^ 32

-- `options.recv_timeout` and `options.send_timeout` are clear for the zero
def Timeval.timeout (tv : Timeval) : Option ℕ := if tv.sec = 0 ∧ tv.usec = 0 then none else some (getTime tv)

inductive Blocking
  | read (len : ℕ)
  | write (buf : List UInt8)
  | accept (a : Call)

def answered {α : Type} : Outcome α → Outcome Unit
  | .done _ => .done ()
  | .fail e => .fail e
  | .wait expires => .wait expires

def Blocking.serve (l : Listener) (expired : Bool) : Blocking → Outcome Unit
  | .read len => answered (tcpRead l.conn len expired).2
  | .write buf => answered (tcpWrite l.conn buf expired).2
  | .accept a => answered (tcpAccept l { a with now := l.conn.env.now, expired }).2

def timed (tv : Timeval) (l : Listener) : Listener :=
  { l with conn := tcpSetsockopt (tcpSetsockopt l.conn (.rcvtimeo tv.timeout)) (.sndtimeo tv.timeout) }

/-- A wake-up, of the timeout task too, finds the socket in any state, with the timeouts it had at the call. -/
def wake (op : Blocking) (tv : Timeval) (r : Outcome Unit) (l : Listener) : Outcome Unit :=
  match r with
  | .wait deadline => op.serve (timed tv l) (deadline.any (· ≤ l.conn.env.now))
  | r => r

/-- Where the request waits, its deadline is `t`. -/
def Due (t : ℕ) (r : Outcome Unit) : Prop := ∀ d, r = .wait d → d = some t

variable (op : Blocking) (tv : Timeval) (l : Listener)

variable {tv}

end Netfast.Accept
