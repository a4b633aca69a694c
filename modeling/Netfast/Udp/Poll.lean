import Netfast.Lib.Run
import Netfast.Udp.Sock
import Mathlib.Algebra.Order.BigOperators.Group.List

/-! `udp_poll` against `recvfrom`: the byte counter that the one reads and the queue that the other reads. -/

namespace Netfast

structure PollMask where
  epollerr : Bool := false
  epollin : Bool := false
  epollout : Bool := false
  epollrdhup : Bool := false
  epollhup : Bool := false
deriving DecidableEq

end Netfast

namespace Netfast.Udp

open Tcp Run

def udpPoll (u : UdpSock) : PollMask :=
  { epollerr := u.error.isSome
    epollin := decide (0 < u.recvBufferLen) && !u.closeRecv
    epollout := !u.closeSend }

inductive Received
  | datagram (d : List UInt8) (len : ℕ)
  | shut
  | fail (e : Errno)
  | wait (expires : Option ℕ)
deriving DecidableEq

def received : Outcome (List UInt8 × ℕ) → Received
  | .done d => .datagram d.1 d.2
  | .fail e => .fail e
  | .wait t => .wait t

def recvfrom (u : UdpSock) (len : ℕ) (flags : MsgFlags) (expired : Bool) (now : ℕ) : UdpSock × Received :=
  if u.closeRecv then (u, .shut)
  else
    let (u, out) := udpRecvfrom u len flags expired now
    (u, received out)

inductive SockEvent
  | datagram (payload : List UInt8)
  | recvfrom (len : ℕ) (flags : MsgFlags) (expired : Bool) (now : ℕ)
  | read (len : ℕ) (expired : Bool) (now : ℕ)
  | icmp (err : Errno)
  | shutdown (how : How)
  | setfl (nonblock : Bool)
  | rcvbuf (max : ℕ)
  | rcvtimeo (timeout : Option ℕ)

def sockStep (u : UdpSock) : SockEvent → UdpSock
  | .datagram payload => (socketRecvSkb u payload).1
  | .recvfrom len flags expired now => (recvfrom u len flags expired now).1
  | .read len expired now => (udpRecvfrom u len {} expired now).1
  | .icmp err => (udpIcmpProcess u err).1
  | .shutdown how =>
    { u with
      closeRecv := u.closeRecv || how = .rd || how = .rdwr
      closeSend := u.closeSend || how = .wr || how = .rdwr }
  | .setfl nonblock => { u with nonblock }
  | .rcvbuf max => { u with recvBufferLenMax := max }
  | .rcvtimeo timeout => { u with recvTimeout := timeout }

def queued (q : List (List UInt8)) : ℕ := (q.map List.length).sum

structure SockInv (u : UdpSock) : Prop where
  bound : u.isBound = true
  installed : u.isHash = true
  counted : u.recvBufferLen = queued u.recvQueue

/-- Nothing has been received yet. -/
structure Opened (u : UdpSock) : Prop where
  bound : u.isBound = true
  installed : u.isHash = true
  queue : u.recvQueue = []
  counter : u.recvBufferLen = 0

lemma Opened.inv {u : UdpSock} (h : Opened u) : SockInv u :=
  ⟨h.bound, h.installed, by rw [h.counter, h.queue]; rfl⟩

lemma udpRecvfrom_cases (u : UdpSock) (len : ℕ) (flags : MsgFlags) (expired : Bool) (now : ℕ) :
    (∃ er, (udpRecvfrom u len flags expired now).1 = { u with error := er }) ∨
      ∃ d rest, u.recvQueue = d :: rest ∧ (udpRecvfrom u len flags expired now).1 =
        { u with recvQueue := rest, recvBufferLen := u.recvBufferLen - d.length } := by
  rw [udpRecvfrom.eq_def]
  split
  · exact .inl ⟨u.error, rfl⟩
  split
  · exact .inl ⟨none, rfl⟩
  · split
    · exact .inl ⟨u.error, rfl⟩
    · split
      · exact .inl ⟨u.error, rfl⟩
      · split <;> exact .inl ⟨u.error, rfl⟩
  · next _ _ d rest hq =>
    cases hp : flags.peek with
    | true => exact .inl ⟨u.error, by simp [takeDatagram, hp]⟩
    | false => exact .inr ⟨d, rest, hq, by simp [takeDatagram, hp]⟩

lemma SockInv.read {u : UdpSock} (h : SockInv u) (len : ℕ) (flags : MsgFlags) (expired : Bool) (now : ℕ) :
    SockInv (udpRecvfrom u len flags expired now).1 := by
  rcases udpRecvfrom_cases u len flags expired now with ⟨er, he⟩ | ⟨d, rest, hq, he⟩
  · rw [he]
    exact ⟨h.bound, h.installed, h.counted⟩
  · rw [he]
    refine ⟨h.bound, h.installed, ?_⟩
    have hc := h.counted
    rw [hq] at hc
    simp only [queued, List.map_cons, List.sum_cons] at hc ⊢
    omega

lemma sockStep_inv (u : UdpSock) (e : SockEvent) (h : SockInv u) : SockInv (sockStep u e) := by
  cases e with
  | datagram payload =>
    simp only [sockStep, socketRecvSkb]
    split
    · exact h
    · exact ⟨h.bound, h.installed, by simp [queued, h.counted]⟩
  | recvfrom len flags expired now =>
    simp only [sockStep, Udp.recvfrom]
    split
    · exact h
    · exact h.read len flags expired now
  | read len expired now => exact h.read len {} expired now
  | icmp err =>
    simp only [sockStep, udpIcmpProcess]
    split
    · exact h
    · exact ⟨h.bound, h.installed, h.counted⟩
  | shutdown how => exact ⟨h.bound, h.installed, h.counted⟩
  | setfl nonblock => exact ⟨h.bound, h.installed, h.counted⟩
  | rcvbuf max => exact ⟨h.bound, h.installed, h.counted⟩
  | rcvtimeo timeout => exact ⟨h.bound, h.installed, h.counted⟩

/-- A call that may not wait returns a datagram if `EPOLLIN` is reported, and otherwise `EAGAIN`, or 0 once
reading is shut down. -/
def Agrees (u : UdpSock) : Prop :=
  ∀ (len : ℕ) (flags : MsgFlags) (expired : Bool) (now : ℕ), flags.dontwait = true →
    ((udpPoll u).epollin = true → ∃ d n, (recvfrom u len flags expired now).2 = .datagram d n) ∧
      ((udpPoll u).epollin = false →
        (recvfrom u len flags expired now).2 = if u.closeRecv then .shut else .fail .eagain)

/-- Some queued datagram has a byte, unless none is queued. -/
def Heard (u : UdpSock) : Prop := u.closeRecv = true ∨ u.recvQueue = [] ∨ ∃ d ∈ u.recvQueue, d ≠ []

lemma queued_pos_iff (q : List (List UInt8)) : 0 < queued q ↔ ∃ d ∈ q, d ≠ [] := by
  induction q with
  | nil => simp [queued]
  | cons d q ih =>
    have hd : 0 < d.length ↔ d ≠ [] := List.length_pos_iff
    have hs : queued (d :: q) = d.length + queued q := by simp [queued]
    rw [hs, List.exists_mem_cons_iff, ← hd, ← ih]
    omega

section Answers

variable {u : UdpSock} (h : SockInv u)
include h

lemma recvfrom_queued (hc : u.closeRecv = false) (hq : u.recvQueue ≠ []) (len : ℕ) (flags : MsgFlags)
    (expired : Bool) (now : ℕ) :
    ∃ d n, (recvfrom u len flags expired now).2 = .datagram d n := by
  obtain ⟨d, rest, hd⟩ := List.exists_cons_of_ne_nil hq
  simp [recvfrom, hc, udpRecvfrom, h.bound, h.installed, hd, takeDatagram, received]

lemma recvfrom_empty (herr : u.error = none) (hc : u.closeRecv = false) (hq : u.recvQueue = []) (len : ℕ)
    {flags : MsgFlags} (hw : flags.dontwait = true) (expired : Bool) (now : ℕ) :
    (recvfrom u len flags expired now).2 = .fail .eagain := by
  simp [recvfrom, hc, udpRecvfrom, h.bound, h.installed, hq, herr, hw, received]

lemma epollin_iff : (udpPoll u).epollin = true ↔ (∃ d ∈ u.recvQueue, d ≠ []) ∧ u.closeRecv = false := by
  simp [udpPoll, h.counted, queued_pos_iff]

lemma SockInv.agrees (hh : Heard u) (herr : u.error = none) : Agrees u := by
  intro len flags expired now hw
  constructor
  · intro hin
    obtain ⟨⟨d, hd, -⟩, hc⟩ := (epollin_iff h).mp hin
    exact recvfrom_queued h hc (List.ne_nil_of_mem hd) len flags expired now
  · intro hin
    have hout : ¬((∃ d ∈ u.recvQueue, d ≠ []) ∧ u.closeRecv = false) := by
      rw [← epollin_iff h, hin]
      exact Bool.false_ne_true
    cases hc : u.closeRecv with
    | true => simp [recvfrom, hc]
    | false =>
      rcases hh with hs | hq | hd
      · rw [hc] at hs
        cases hs
      · exact recvfrom_empty h herr hc hq len hw expired now
      · exact absurd ⟨hd, hc⟩ hout

lemma SockInv.heard (ha : Agrees u) : Heard u := by
  by_cases hc : u.closeRecv = true
  · exact .inl hc
  by_cases hq : u.recvQueue = []
  · exact .inr (.inl hq)
  have hc' : u.closeRecv = false := by simpa using hc
  obtain ⟨-, hout⟩ := ha 0 { dontwait := true } false 0 rfl
  by_contra hh
  have hin : (udpPoll u).epollin = false := by
    rw [Bool.eq_false_iff]
    intro hin
    exact hh (.inr (.inr ((epollin_iff h).mp hin).1))
  obtain ⟨d, n, hd⟩ := recvfrom_queued h hc' hq 0 { dontwait := true } false 0
  rw [hout hin, if_neg hc] at hd
  cases hd

end Answers

def Voiced : SockEvent → Prop
  | .datagram d => d ≠ []
  | _ => True

def AllVoiced (u : UdpSock) : Prop := ∀ d ∈ u.recvQueue, d ≠ []

lemma udpRecvfrom_voiced {u : UdpSock} (h : AllVoiced u) (len : ℕ) (flags : MsgFlags) (expired : Bool) (now : ℕ) :
    AllVoiced (udpRecvfrom u len flags expired now).1 := by
  rcases udpRecvfrom_cases u len flags expired now with ⟨er, he⟩ | ⟨d, rest, hq, he⟩
  · rw [he]
    exact h
  · rw [he]
    intro d' hd'
    exact h d' (by rw [hq]; exact List.mem_cons_of_mem d hd')

lemma sockStep_voiced (u : UdpSock) (e : SockEvent) (h : AllVoiced u) (he : Voiced e) : AllVoiced (sockStep u e) := by
  cases e with
  | datagram payload =>
    simp only [sockStep, socketRecvSkb]
    split
    · exact h
    · intro d hd
      rcases List.mem_append.mp hd with hd | hd
      · exact h d hd
      · rw [List.mem_singleton.mp hd]
        exact he
  | recvfrom len flags expired now =>
    simp only [sockStep, Udp.recvfrom]
    split
    · exact h
    · exact udpRecvfrom_voiced h len flags expired now
  | read len expired now => exact udpRecvfrom_voiced h len {} expired now
  | icmp err =>
    simp only [sockStep, udpIcmpProcess]
    split <;> exact h
  | shutdown how => exact h
  | setfl nonblock => exact h
  | rcvbuf max => exact h
  | rcvtimeo timeout => exact h

lemma AllVoiced.heard {u : UdpSock} (h : AllVoiced u) : Heard u := by
  cases hq : u.recvQueue with
  | nil => exact .inr (.inl hq)
  | cons d rest =>
    have hd : d ∈ u.recvQueue := by rw [hq]; exact List.mem_cons_self
    exact .inr (.inr ⟨d, hd, h d hd⟩)

/-- In every state of every run the two agree exactly when some queued datagram has a byte; so they always do
in a run that receives no empty datagram. -/
theorem poll_agrees_iff {u : UdpSock} (h : Opened u) (es : List SockEvent)
    (herr : (run sockStep u es).error = none) :
    (Agrees (run sockStep u es) ↔ Heard (run sockStep u es)) ∧
      ((∀ d, SockEvent.datagram d ∈ es → d ≠ []) → Agrees (run sockStep u es)) := by
  have hinv : SockInv (run sockStep u es) := run_always sockStep_inv h.inv es
  refine ⟨⟨hinv.heard, fun hh => hinv.agrees hh herr⟩, fun hes => hinv.agrees (AllVoiced.heard ?_) herr⟩
  have hempty : AllVoiced u := by
    intro d hd
    rw [h.queue] at hd
    cases hd
  refine run_invariant sockStep_voiced hempty (Meets.of_mem ?_)
  intro e he
  cases e with
  | datagram d => exact hes d he
  | _ => trivial

def openedSock : UdpSock := { isBound := true, isHash := true, nonblock := true }

theorem poll_agrees_iff_one_byte :
    Agrees (run sockStep openedSock [.datagram [1], .recvfrom 4 { peek := true } false 0]) :=
  (poll_agrees_iff ⟨rfl, rfl, rfl, rfl⟩ [.datagram [1], .recvfrom 4 { peek := true } false 0] rfl).2
    fun d hd => by
      obtain rfl : d = [1] := by simpa using hd
      simp

/-- An empty datagram is queued and nothing is reported, though the next call would return it. -/
theorem empty_datagram_unreported :
    (udpPoll (run sockStep openedSock [.datagram []])).epollin = false ∧
      (recvfrom (run sockStep openedSock [.datagram []]) 4 { dontwait := true } false 0).2 = .datagram [] 0 ∧
      (run sockStep openedSock [.datagram []]).error = none := by
  decide

end Netfast.Udp
