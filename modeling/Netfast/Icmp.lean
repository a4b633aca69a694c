import Netfast.Ip.Header
import Netfast.Ip6.Header
import Netfast.Socket.Listen
import Netfast.Udp.Sock

/-! ICMP and ICMPv6 errors: the packet they quote, and the socket they are delivered to. -/

namespace Netfast.Icmp

open Bytes Skbuff Serial Ip Ip6 Tcp Udp Socket

structure ErrorInfo (A : Type) where
  protocol : UInt8
  srcIp : A
  dstIp : A
  srcPort : Port
  dstPort : Port
  tcpSeq : Option Seq

def ipprotoTcp : UInt8 := 6
def ipprotoUdp : UInt8 := 17

def ipv4At (bs : List UInt8) (i : ℕ) : Ipv4 := BitVec.ofNat 32 (be32 bs i)

def ipv6At (bs : List UInt8) (i : ℕ) : Ipv6 := Vector.ofFn fun k => bs.getD (i + k.val) 0

def portAt (bs : List UInt8) (i : ℕ) : Port := BitVec.ofNat 16 (be16 bs i)

def quotedSeq (quote : List UInt8) (off : ℕ) : Option Seq :=
  if off + 8 ≤ quote.length then some (BitVec.ofNat 32 (be32 quote (off + 4))) else none

def quotedL4 {A : Type} (quote : List UInt8) (protocol : UInt8) (srcIp dstIp : A) (off : ℕ) : Option (ErrorInfo A) :=
  if (protocol ≠ ipprotoUdp ∧ protocol ≠ ipprotoTcp) ∨ quote.length < off + 4 then none
  else some {
    protocol, srcIp, dstIp
    srcPort := portAt quote off
    dstPort := portAt quote (off + 2)
    tcpSeq := if protocol = ipprotoTcp then quotedSeq quote off else none }

def icmpExtractInner4 (quote : List UInt8) : Option (ErrorInfo Ipv4) :=
  if quote.length < 20 then none
  else if (quote.getD 0 0).toNat / 16 ≠ 4 then none
  else if ipv4Hl quote < 20 ∨ quote.length < ipv4Hl quote then none
  else quotedL4 quote (quote.getD 9 0) (ipv4At quote 12) (ipv4At quote 16) (ipv4Hl quote)

def nexthdrAh : UInt8 := 51
def fragOffsetMask : ℕ := 0xFFF8

inductive Hop
  | stop
  | jump (len : ℕ)
  | fragment (field : ℕ)
  | short

def hopAt (quote : List UInt8) (next : UInt8) (off : ℕ) : Hop :=
  if isVariableExtHeader next then
    let len := ((quote.getD (off + 1) 0).toNat + 1) * 8
    if quote.length - off < 2 ∨ quote.length - off < len then .short else .jump len
  else if next = nexthdrFrag then
    if quote.length - off < fragHdrLen then .short else .fragment (be16 quote (off + 2))
  else if next = nexthdrAh then
    let len := ((quote.getD (off + 1) 0).toNat + 2) * 4
    if quote.length - off < 2 ∨ quote.length - off < len then .short else .jump len
  else .stop

def innerLoop (quote : List UInt8) : ℕ → UInt8 → ℕ → Option (UInt8 × ℕ)
  | 0, next, off => some (next, off)
  | k + 1, next, off =>
    match hopAt quote next off with
    | .stop => some (next, off)
    | .short => none
    | .jump len => innerLoop quote k (quote.getD off 0) (off + len)
    | .fragment field => if field &&& fragOffsetMask ≠ 0 then none else innerLoop quote k (quote.getD off 0) (off + fragHdrLen)

def innerL4 (quote : List UInt8) : Option (UInt8 × ℕ) := innerLoop quote 8 (ipv6NextHdr quote) ipv6HdrLen

def icmpExtractInner6 (quote : List UInt8) : Option (ErrorInfo Ipv6) :=
  if quote.length < ipv6HdrLen then none
  else if (quote.getD 0 0).toNat / 16 ≠ 6 then none
  else (innerL4 quote).bind fun l4 => quotedL4 quote l4.1 (ipv6At quote 8) (ipv6At quote 24) l4.2

structure IcmpMsg where
  skb : SkBuff
  checksumOk : Bool

def icmpHdrLen : ℕ := 8

def IcmpMsg.type (m : IcmpMsg) : ℕ := (m.skb.data0.getD 0 0).toNat
def IcmpMsg.code (m : IcmpMsg) : ℕ := (m.skb.data0.getD 1 0).toNat

-- at most `max` bytes of the quoted packet are looked at
def IcmpMsg.copyQuote (m : IcmpMsg) (max : ℕ) : Option (List UInt8) :=
  copyBits m.skb icmpHdrLen (min (skbDataLen m.skb - icmpHdrLen) max)

def IcmpMsg.quote (m : IcmpMsg) (max : ℕ) : List UInt8 :=
  (m.skb.payload.drop icmpHdrLen).take (min (skbDataLen m.skb - icmpHdrLen) max)

def icmpCodeToErrno : ℕ → Errno
  | 0 => .enetunreach
  | 1 => .ehostunreach
  | 3 => .econnrefused
  | 2 => .eprotonosupport
  | _ => .ehostunreach

def icmp6ErrorToErrno (type code : ℕ) : Option Errno :=
  match type with
  | 1 =>
    match code with
    | 0 => some .enetunreach
    | 1 | 5 | 6 => some .eacces
    | 4 => some .econnrefused
    | _ => some .ehostunreach
  | 2 => some .emsgsize
  | 3 => some .ehostunreach
  | 4 => some .eproto
  | _ => none

def quoteMax4 : ℕ := 68
def quoteMax6 : ℕ := 1280

def icmpError4 (m : IcmpMsg) : Option (ErrorInfo Ipv4 × Errno) :=
  if m.skb.data0.length < icmpHdrLen then none
  else if !m.checksumOk then none
  else if m.type ≠ 3 then none
  else if skbDataLen m.skb < icmpHdrLen + 20 + 8 then none
  else ((m.copyQuote quoteMax4).bind icmpExtractInner4).map fun info => (info, icmpCodeToErrno m.code)

def icmpError6 (m : IcmpMsg) : Option (ErrorInfo Ipv6 × Errno) :=
  if m.skb.data0.length < icmpHdrLen then none
  else if !m.checksumOk then none
  else
    match icmp6ErrorToErrno m.type m.code with
    | none => none
    | some err =>
      if skbDataLen m.skb - icmpHdrLen < ipv6HdrLen + 4 then none
      else ((m.copyQuote quoteMax6).bind icmpExtractInner6).map fun info => (info, err)

structure Stacks (A : Type) where
  tcp : Stack A TcpPcb
  udp : Stack A UdpSock

section Deliver

variable {A : Type} [DecidableEq A]

def icmpDeliverError (st : Stacks A) (info : ErrorInfo A) (err : Errno) (w : Socket.Worker) : Stacks A × Option Socket.Worker :=
  if info.protocol = ipprotoUdp then
    match searchSocketByTuple st.udp info.srcIp info.srcPort info.dstIp info.dstPort with
    | none => (st, none)
    | some e =>
      if st.udp.owner e.sockets ≠ w then (st, some (st.udp.owner e.sockets))
      else
        let sock := st.udp.socks e.sockets
        ({ st with udp := st.udp.set e.sockets { sock with pcb := (udpIcmpProcess sock.pcb err).1 } }, none)
  else if info.protocol = ipprotoTcp then
    match searchSocketByTuple st.tcp info.srcIp info.srcPort info.dstIp info.dstPort with
    | none => (st, none)
    | some e =>
      if st.tcp.owner e.sockets ≠ w then (st, some (st.tcp.owner e.sockets))
      else
        let pcb := (st.tcp.socks e.sockets).pcb
        ({ st with tcp := st.tcp.setPcb e.sockets { pcb with conn := tcpIcmpProcess pcb.conn info.tcpSeq err } }, none)
  else (st, none)

def deliverParsed (st : Stacks A) (w : Socket.Worker) : Option (ErrorInfo A × Errno) → Stacks A × Option Socket.Worker
  | none => (st, none)
  | some (info, err) => icmpDeliverError st info err w

end Deliver

def icmpRecv (st : Stacks Ipv4) (m : IcmpMsg) (w : Socket.Worker) : Stacks Ipv4 × Option Socket.Worker :=
  deliverParsed st w (icmpError4 m)

def icmp6Recv (st : Stacks Ipv6) (m : IcmpMsg) (w : Socket.Worker) : Stacks Ipv6 × Option Socket.Worker :=
  deliverParsed st w (icmpError6 m)

def Stacks.conn {A : Type} (st : Stacks A) (i : SockId) : TcpSock := (st.tcp.socks i).pcb.conn

/-- The error field or the state of the connection is another one. -/
def Touched {A : Type} (st st' : Stacks A) (i : SockId) : Prop :=
  (st'.conn i).error ≠ (st.conn i).error ∨ (st'.conn i).core.state ≠ (st.conn i).core.state

variable {m : IcmpMsg}

lemma not_touched {A : Type} (st : Stacks A) (i : SockId) : ¬ Touched st st i := by
  rintro (h | h)
  · exact h rfl
  · exact h rfl

def InFlight (c : TcpSock) (q : Seq) : Prop := leq c.snd.sndUna q = true ∧ lt q c.snd.sndNxt = true

-- what the errors about TCP segments are parsed to
def tcpInfo {A : Type} (quote : List UInt8) (srcIp dstIp : A) (off : ℕ) : ErrorInfo A where
  protocol := ipprotoTcp
  srcIp := srcIp
  dstIp := dstIp
  srcPort := portAt quote off
  dstPort := portAt quote (off + 2)
  tcpSeq := quotedSeq quote off

section Deliver

variable {A : Type} [DecidableEq A] {st : Stacks A} {info : ErrorInfo A} {err : Errno} {w : Socket.Worker} {i : SockId}

def Matching (st : Stacks A) (info : ErrorInfo A) (i : SockId) : Prop :=
  ∃ e, searchSocketByTuple st.tcp info.srcIp info.srcPort info.dstIp info.dstPort = some e ∧ e.sockets = i

lemma tcpIcmpProcess_inFlight {c : TcpSock} {seq : Option Seq} {q : Seq} (hq : seq = some q)
    (h : tcpIcmpProcess c seq err ≠ c) : InFlight c q := by
  rw [tcpIcmpProcess] at h
  split at h
  · exact absurd rfl h
  split at h
  · exact absurd rfl h
  · next hin =>
    rw [hq] at hin
    simpa [InFlight] using hin

omit [DecidableEq A] in
lemma conn_setPcb (e j : SockId) (pcb : TcpPcb) :
    ({ st with tcp := st.tcp.setPcb e pcb } : Stacks A).conn j = if j = e then pcb.conn else st.conn j := by
  rw [Stacks.conn]
  simp only [Stack.setPcb, Stack.set]
  split
  · next h => rw [h, Function.update_self]
  · next h => rw [Function.update_of_ne h, Stacks.conn]

lemma deliver_touched (h : Touched st (icmpDeliverError st info err w).1 i) :
    info.protocol = ipprotoTcp ∧ Matching st info i ∧ ∀ q, info.tcpSeq = some q → InFlight (st.conn i) q := by
  have hsame := not_touched st i
  rw [icmpDeliverError] at h
  split at h
  · exfalso
    split at h
    · exact hsame h
    split at h
    · exact hsame h
    · exact hsame h
  split at h
  · next htcp =>
    split at h
    · exact absurd h hsame
    next e he =>
    split at h
    · exact absurd h hsame
    · rw [Touched, conn_setPcb] at h
      split at h
      · next hi =>
        subst hi
        refine ⟨htcp, ⟨e, he, rfl⟩, fun q hq => ?_⟩
        have hne : tcpIcmpProcess (st.conn e.sockets) info.tcpSeq err ≠ st.conn e.sockets := by
          intro heq
          rw [Stacks.conn] at heq
          simp only [Stacks.conn, heq] at h
          exact h.elim (fun h => h rfl) fun h => h rfl
        exact tcpIcmpProcess_inFlight hq hne
      · exact absurd h hsame
  · exact absurd h hsame

def victimConn (una : Seq) : TcpSock :=
  let c := establishedSock una 0
  { c with
    snd := { c.snd with
      retransmitQueue := [{ seq := una, flag := .ackOnly, infos := [{ headroom := 54, data := [0], size := 55 }] }]
      sndNxt := una + 1
      sndEnd := una + 1
      sendBufferLen := 1 } }

def ErrorInfo.key (info : ErrorInfo A) : TupleKey A := ⟨info.srcIp, info.srcPort, info.dstIp, info.dstPort⟩

def victimSock (info : ErrorInfo A) (c : TcpSock) : Sock A TcpPcb :=
  { sip := info.srcIp, sport := info.srcPort, dip := info.dstIp, dport := info.dstPort, pcb := { conn := c } }

def victimStacks (info : ErrorInfo A) (c : TcpSock) : Stacks A where
  tcp := {
    socks := Function.update (fun _ => victimSock info c) 0 ((victimSock info c).linkTo (some info.key))
    tuples := AList.insert info.key { sockets := 0 } ∅
    fresh := 1 }
  udp := {
    socks := fun _ => { sip := info.srcIp, sport := 0, dip := info.dstIp, dport := 0, pcb := {} }
    tuples := ∅
    fresh := 0 }

lemma victim_conn (c : TcpSock) : (victimStacks info c).conn 0 = c := by
  simp only [Stacks.conn, victimStacks, Function.update_self, Sock.linkTo, victimSock]

lemma deliver_victim (una : Seq) (htcp : info.protocol = ipprotoTcp) (hseq : ∀ q, info.tcpSeq = some q → q = una) :
    Touched (victimStacks info (victimConn una)) (icmpDeliverError (victimStacks info (victimConn una)) info err 0).1 0 := by
  have hfound : searchSocketByTuple (victimStacks info (victimConn una)).tcp info.srcIp info.srcPort info.dstIp
      info.dstPort = some { sockets := 0 } := AList.lookup_insert (a := info.key) ∅
  have howner : (victimStacks info (victimConn una)).tcp.owner 0 = 0 := by
    simp [Stack.owner, victimStacks, Sock.linkTo, victimSock]
  have hpcb : ((victimStacks info (victimConn una)).tcp.socks 0).pcb.conn = victimConn una := victim_conn _
  have hin : (info.tcpSeq.any fun q => !(leq una q && lt q (una + 1))) = false := by
    cases hs : info.tcpSeq with
    | none => rfl
    | some q =>
      obtain rfl := hseq q hs
      have hle : leq q q = true := by simp [leq_iff]
      have hlt : lt q (q + 1) = true := by
        rw [lt_iff, sub_add_cancel_left]
        decide
      simp only [Option.any_some, hle, hlt, Bool.and_self, Bool.not_true]
  rw [icmpDeliverError, if_neg (by rw [htcp]; decide), if_pos htcp, hfound]
  simp only [howner, ne_eq, not_true, if_false, Touched, conn_setPcb, if_true, victim_conn]
  refine .inl ?_
  rw [hpcb, tcpIcmpProcess, if_neg (by simp [victimConn, establishedSock]), if_neg (by rw [Bool.not_eq_true]; exact hin)]
  simp [victimConn, establishedSock, tcpPcbInit]

structure Vouched (st : Stacks A) (i : SockId) (info : ErrorInfo A) (first : Prop) : Prop where
  first : first
  matching : Matching st info i
  seq : ∃ q, info.tcpSeq = some q ∧ InFlight (st.conn i) q

lemma deliver_vouched_iff {first : Prop} (htcp : info.protocol = ipprotoTcp) :
    (∀ st w i, Touched st (icmpDeliverError st info err w).1 i → Vouched st i info first) ↔
      first ∧ info.tcpSeq.isSome := by
  constructor
  · intro h
    have hv := h _ _ _ (deliver_victim (info.tcpSeq.getD 0) htcp fun q hq => by rw [hq, Option.getD_some])
    obtain ⟨q, hq, -⟩ := hv.seq
    exact ⟨hv.first, by rw [hq, Option.isSome_some]⟩
  · rintro ⟨hfirst, hsome⟩ st w i h
    obtain ⟨-, hm, hin⟩ := deliver_touched h
    obtain ⟨q, hq⟩ := Option.isSome_iff_exists.mp hsome
    exact ⟨hfirst, hm, q, hq, hin q hq⟩

end Deliver

lemma copyQuote_some (h : icmpHdrLen ≤ skbDataLen m.skb) (max : ℕ) : m.copyQuote max = some (m.quote max) := by
  rw [IcmpMsg.copyQuote, copyBits_eq (by omega), IcmpMsg.quote]

lemma quotedL4_tcp {A : Type} {quote : List UInt8} {protocol : UInt8} {src dst : A} {off : ℕ} {info : ErrorInfo A}
    (h : quotedL4 quote protocol src dst off = some info) (htcp : info.protocol = ipprotoTcp) :
    protocol = ipprotoTcp ∧ off + 4 ≤ quote.length ∧ info = tcpInfo quote src dst off := by
  rw [quotedL4] at h
  split at h
  · cases h
  next hok =>
  push Not at hok
  obtain rfl := Option.some.inj h
  replace htcp : protocol = ipprotoTcp := htcp
  subst htcp
  exact ⟨rfl, hok.2, rfl⟩

lemma quotedL4_of_tcp {A : Type} {quote : List UInt8} {src dst : A} {off : ℕ} (h : off + 4 ≤ quote.length) :
    quotedL4 quote ipprotoTcp src dst off = some (tcpInfo quote src dst off) := by
  rw [quotedL4, if_neg (by simp only [ne_eq, not_true, and_false, false_or]; omega), tcpInfo, if_pos rfl]

lemma quotedSeq_isSome {quote : List UInt8} {off : ℕ} : (quotedSeq quote off).isSome ↔ off + 8 ≤ quote.length := by
  rw [quotedSeq]
  split
  · next h => simp [h]
  · next h => simp [h]

lemma data0_le (h : icmpHdrLen ≤ m.skb.data0.length) : icmpHdrLen ≤ skbDataLen m.skb :=
  h.trans (data0_isPrefix m.skb).length_le

/-- A destination-unreachable message whose quote gets as far as the ports of a TCP header. -/
structure TcpQuote4 (m : IcmpMsg) : Prop where
  header : icmpHdrLen ≤ m.skb.data0.length
  checksum : m.checksumOk = true
  type : m.type = 3
  length : icmpHdrLen + 20 + 8 ≤ skbDataLen m.skb
  version : ((m.quote quoteMax4).getD 0 0).toNat / 16 = 4
  ihl : 20 ≤ ipv4Hl (m.quote quoteMax4)
  protocol : (m.quote quoteMax4).getD 9 0 = ipprotoTcp
  ports : ipv4Hl (m.quote quoteMax4) + 4 ≤ (m.quote quoteMax4).length

def tcpInfo4 (quote : List UInt8) : ErrorInfo Ipv4 := tcpInfo quote (ipv4At quote 12) (ipv4At quote 16) (ipv4Hl quote)

lemma icmpError4_of (h : TcpQuote4 m) :
    icmpError4 m = some (tcpInfo4 (m.quote quoteMax4), icmpCodeToErrno m.code) := by
  have hl := h.ports
  have hi := h.ihl
  rw [icmpError4, if_neg (Nat.not_lt.mpr h.header), if_neg (by simp [h.checksum]), if_neg (not_not.mpr h.type),
    if_neg (Nat.not_lt.mpr h.length), copyQuote_some (data0_le h.header), Option.bind_some, icmpExtractInner4,
    if_neg (by omega), if_neg (not_not.mpr h.version), if_neg (by omega), h.protocol, quotedL4_of_tcp hl, Option.map_some,
    tcpInfo4]

lemma icmpError4_inv {info : ErrorInfo Ipv4} {err : Errno} (h : icmpError4 m = some (info, err))
    (htcp : info.protocol = ipprotoTcp) : TcpQuote4 m := by
  rw [icmpError4] at h
  split at h
  · cases h
  next hheader =>
  split at h
  · cases h
  next hsum =>
  split at h
  · cases h
  next htype =>
  split at h
  · cases h
  next hlength =>
  rw [copyQuote_some (data0_le (by omega)), Option.bind_some] at h
  obtain ⟨inner, hinner, heq⟩ := Option.map_eq_some_iff.mp h
  obtain rfl := (Prod.mk.inj heq).1
  rw [icmpExtractInner4] at hinner
  split at hinner
  · cases hinner
  split at hinner
  · cases hinner
  next hver =>
  split at hinner
  · cases hinner
  next hihl =>
  obtain ⟨hprot, hports, -⟩ := quotedL4_tcp hinner htcp
  exact ⟨by omega, by simpa using hsum, by simpa using htype, by omega, by simpa using hver, by omega, hprot, hports⟩

/-- Every error about a TCP segment that this message can cause is vouched for. -/
def Resists4 (m : IcmpMsg) : Prop :=
  ∀ st w i, Touched st (icmpRecv st m w).1 i →
    Vouched st i (tcpInfo4 (m.quote quoteMax4)) (fragOff (ipv4FragField (m.quote quoteMax4)) = 0)

/-- The quoted header ends eight bytes before the quote does, and is no later fragment's. -/
def Whole4 (quote : List UInt8) : Prop := fragOff (ipv4FragField quote) = 0 ∧ ipv4Hl quote + 8 ≤ quote.length

lemma resists4_iff (m : IcmpMsg) : Resists4 m ↔ (TcpQuote4 m → Whole4 (m.quote quoteMax4)) := by
  by_cases hq : TcpQuote4 m
  · rw [Resists4]
    simp only [icmpRecv, deliverParsed, icmpError4_of hq, hq, forall_const]
    rw [deliver_vouched_iff rfl, Whole4]
    exact and_congr_right fun _ => quotedSeq_isSome
  · refine ⟨fun _ h => absurd h hq, fun _ st w i ht => ?_⟩
    exfalso
    cases hp : icmpError4 m with
    | none =>
      rw [icmpRecv, hp] at ht
      exact not_touched st i ht
    | some p =>
      rw [icmpRecv, hp] at ht
      exact hq (icmpError4_inv hp (deliver_touched ht).1)

inductive Chain (quote : List UInt8) : UInt8 → ℕ → List Hop → UInt8 → ℕ → Prop
  | here {next : UInt8} {off : ℕ} (h : hopAt quote next off = .stop) : Chain quote next off [] next off
  | jump {next last : UInt8} {off len fin : ℕ} {hs : List Hop} (h : hopAt quote next off = .jump len)
      (hc : Chain quote (quote.getD off 0) (off + len) hs last fin) : Chain quote next off (.jump len :: hs) last fin
  | fragment {next last : UInt8} {off field fin : ℕ} {hs : List Hop} (h : hopAt quote next off = .fragment field)
      (hc : Chain quote (quote.getD off 0) (off + fragHdrLen) hs last fin) :
      Chain quote next off (.fragment field :: hs) last fin

section Chain

variable {quote : List UInt8} {next last : UInt8} {off fin : ℕ} {hs : List Hop}

lemma Chain.unique (hc : Chain quote next off hs last fin) :
    ∀ {hs' last' fin'}, Chain quote next off hs' last' fin' → last' = last ∧ fin' = fin := by
  induction hc with
  | here h =>
    intro hs' last' fin' hc'
    cases hc' with
    | here _ => exact ⟨rfl, rfl⟩
    | jump h' _ => rw [h] at h'; cases h'
    | fragment h' _ => rw [h] at h'; cases h'
  | jump h _ ih =>
    intro hs' last' fin' hc'
    cases hc' with
    | here h' => rw [h] at h'; cases h'
    | jump h' hc' =>
      rw [h] at h'
      obtain rfl := Hop.jump.inj h'
      exact ih hc'
    | fragment h' _ => rw [h] at h'; cases h'
  | fragment h _ ih =>
    intro hs' last' fin' hc'
    cases hc' with
    | here h' => rw [h] at h'; cases h'
    | jump h' _ => rw [h] at h'; cases h'
    | fragment h' hc' => exact ih hc'

def FirstFragment (hs : List Hop) : Prop := ∀ field, Hop.fragment field ∈ hs → field &&& fragOffsetMask = 0

lemma firstFragment_cons {hop : Hop} :
    FirstFragment (hop :: hs) ↔ (∀ field, hop = .fragment field → field &&& fragOffsetMask = 0) ∧ FirstFragment hs := by
  simp only [FirstFragment, List.mem_cons, or_imp, forall_and, eq_comm]

lemma hopAt_tcp : hopAt quote ipprotoTcp off = .stop := rfl

lemma innerLoop_of_chain {k : ℕ} (hc : Chain quote next off hs last fin) (hk : hs.length ≤ k) (hf : FirstFragment hs) :
    innerLoop quote k next off = some (last, fin) := by
  induction hc generalizing k with
  | here h =>
    cases k with
    | zero => rfl
    | succ k => rw [innerLoop, h]
  | jump h _ ih =>
    cases k with
    | zero => simp at hk
    | succ k =>
      rw [innerLoop, h]
      exact ih (by simpa using hk) (firstFragment_cons.mp hf).2
  | fragment h _ ih =>
    cases k with
    | zero => simp at hk
    | succ k =>
      obtain ⟨h0, hf⟩ := firstFragment_cons.mp hf
      rw [innerLoop, h]
      simp only [h0 _ rfl, ne_eq, not_true, if_false]
      exact ih (by simpa using hk) hf

lemma chain_of_innerLoop {k : ℕ} (h : innerLoop quote k next off = some (ipprotoTcp, fin)) :
    ∃ hs, Chain quote next off hs ipprotoTcp fin ∧ hs.length ≤ k ∧ FirstFragment hs := by
  induction k generalizing next off with
  | zero =>
    obtain ⟨rfl, rfl⟩ := Prod.mk.inj (Option.some.inj h)
    exact ⟨[], .here hopAt_tcp, le_rfl, fun _ hm => by cases hm⟩
  | succ k ih =>
    rw [innerLoop] at h
    cases hh : hopAt quote next off with
    | stop =>
      rw [hh] at h
      obtain ⟨rfl, rfl⟩ := Prod.mk.inj (Option.some.inj h)
      exact ⟨[], .here hh, Nat.zero_le _, fun _ hm => by cases hm⟩
    | short => rw [hh] at h; cases h
    | jump len =>
      rw [hh] at h
      obtain ⟨hs, hc, hk, hf⟩ := ih h
      exact ⟨_, .jump hh hc, Nat.succ_le_succ hk, firstFragment_cons.mpr ⟨fun _ he => (by cases he), hf⟩⟩
    | fragment field =>
      rw [hh] at h
      simp only [ne_eq, ite_not] at h
      split at h
      · next h0 =>
        obtain ⟨hs, hc, hk, hf⟩ := ih h
        refine ⟨_, .fragment hh hc, Nat.succ_le_succ hk, firstFragment_cons.mpr ⟨fun f he => ?_, hf⟩⟩
        obtain rfl := Hop.fragment.inj he
        exact h0
      · cases h

end Chain

/-- An ICMPv6 error whose quote leads, over at most eight extension headers, to the ports of a TCP header at `off`. -/
structure TcpQuote6 (m : IcmpMsg) (err : Errno) (hs : List Hop) (off : ℕ) : Prop where
  header : icmpHdrLen ≤ m.skb.data0.length
  checksum : m.checksumOk = true
  type : icmp6ErrorToErrno m.type m.code = some err
  length : icmpHdrLen + ipv6HdrLen + 4 ≤ skbDataLen m.skb
  version : ((m.quote quoteMax6).getD 0 0).toNat / 16 = 6
  chain : Chain (m.quote quoteMax6) (ipv6NextHdr (m.quote quoteMax6)) ipv6HdrLen hs ipprotoTcp off
  hops : hs.length ≤ 8
  first : FirstFragment hs
  ports : off + 4 ≤ (m.quote quoteMax6).length

def tcpInfo6 (quote : List UInt8) (off : ℕ) : ErrorInfo Ipv6 := tcpInfo quote (ipv6At quote 8) (ipv6At quote 24) off

lemma quote_length (h : icmpHdrLen + ipv6HdrLen + 4 ≤ skbDataLen m.skb) :
    ipv6HdrLen ≤ (m.quote quoteMax6).length := by
  simp only [skbDataLen, icmpHdrLen, ipv6HdrLen] at h
  simp only [IcmpMsg.quote, List.length_take, List.length_drop, skbDataLen, icmpHdrLen, ipv6HdrLen, quoteMax6]
  omega

lemma icmpError6_of {err : Errno} {hs : List Hop} {off : ℕ} (h : TcpQuote6 m err hs off) :
    icmpError6 m = some (tcpInfo6 (m.quote quoteMax6) off, err) := by
  have hl := h.length
  rw [icmpError6, if_neg (Nat.not_lt.mpr h.header), if_neg (by simp [h.checksum]), h.type]
  simp only
  rw [if_neg (by omega), copyQuote_some (data0_le h.header), Option.bind_some, icmpExtractInner6,
    if_neg (Nat.not_lt.mpr (quote_length hl)), if_neg (not_not.mpr h.version), innerL4,
    innerLoop_of_chain h.chain h.hops h.first, Option.bind_some, quotedL4_of_tcp h.ports, Option.map_some, tcpInfo6]

lemma icmpError6_inv {info : ErrorInfo Ipv6} {err : Errno} (h : icmpError6 m = some (info, err))
    (htcp : info.protocol = ipprotoTcp) : ∃ hs off, TcpQuote6 m err hs off := by
  rw [icmpError6] at h
  split at h
  · cases h
  next hheader =>
  split at h
  · cases h
  next hsum =>
  split at h
  · cases h
  next e htype =>
  split at h
  · cases h
  next hlength =>
  have hlen := data0_le (m := m) (by omega)
  rw [copyQuote_some hlen, Option.bind_some] at h
  obtain ⟨inner, hinner, heq⟩ := Option.map_eq_some_iff.mp h
  obtain ⟨rfl, rfl⟩ := Prod.mk.inj heq
  rw [icmpExtractInner6] at hinner
  split at hinner
  · cases hinner
  split at hinner
  · cases hinner
  next hver =>
  obtain ⟨⟨next, off⟩, hloop, hl4⟩ := Option.bind_eq_some_iff.mp hinner
  obtain ⟨rfl, hports, -⟩ := quotedL4_tcp hl4 htcp
  obtain ⟨hs, hc, hk, hf⟩ := chain_of_innerLoop hloop
  exact ⟨hs, off, by omega, by simpa using hsum, htype, by omega, by simpa using hver, hc, hk, hf, hports⟩

/-- Every error about a TCP segment that this message can cause is vouched for. -/
def Resists6 (m : IcmpMsg) : Prop :=
  ∀ st w i, Touched st (icmp6Recv st m w).1 i →
    ∃ hs off, Chain (m.quote quoteMax6) (ipv6NextHdr (m.quote quoteMax6)) ipv6HdrLen hs ipprotoTcp off ∧
      Vouched st i (tcpInfo6 (m.quote quoteMax6) off) (FirstFragment hs)

lemma resists6_iff (m : IcmpMsg) :
    Resists6 m ↔ ∀ err hs off, TcpQuote6 m err hs off → off + 8 ≤ (m.quote quoteMax6).length := by
  constructor
  · intro hr err hs off hq
    have hv : ∀ st w i, Touched st (icmpDeliverError st (tcpInfo6 (m.quote quoteMax6) off) err w).1 i →
        Vouched st i (tcpInfo6 (m.quote quoteMax6) off) True := by
      intro st w i ht
      obtain ⟨hs', off', hc', hv⟩ := hr st w i (by rwa [icmp6Recv, icmpError6_of hq])
      obtain rfl := (hq.chain.unique hc').2
      exact ⟨trivial, hv.matching, hv.seq⟩
    exact quotedSeq_isSome.mp ((deliver_vouched_iff rfl).mp hv).2
  · intro hc st w i ht
    cases hp : icmpError6 m with
    | none =>
      rw [icmp6Recv, hp] at ht
      exact absurd ht (not_touched st i)
    | some p =>
      obtain ⟨info, err⟩ := p
      rw [icmp6Recv, hp] at ht
      obtain ⟨hs, off, hq⟩ := icmpError6_inv hp (deliver_touched ht).1
      obtain ⟨rfl, -⟩ := Prod.mk.inj (Option.some.inj (hp.symm.trans (icmpError6_of hq)))
      exact ⟨hs, off, hq.chain, (deliver_vouched_iff rfl).mpr ⟨hq.first, quotedSeq_isSome.mpr (hc _ _ _ hq)⟩ st w i ht⟩

/-- An error message resists a blind sender exactly when its quote, if it shows the ports of a TCP header, also shows
the sequence number and, over IPv4, is not of a later fragment. -/
theorem icmp_errors_vouched_iff (m : IcmpMsg) :
    (Resists4 m ↔ (TcpQuote4 m → Whole4 (m.quote quoteMax4))) ∧
      (Resists6 m ↔ ∀ err hs off, TcpQuote6 m err hs off → off + 8 ≤ (m.quote quoteMax6).length) :=
  ⟨resists4_iff m, resists6_iff m⟩

def portUnreachable (vhl off : UInt8) (rest : List UInt8) : IcmpMsg where
  skb := {
    seq := 0
    flag := {}
    infos := [{
      headroom := 34
      data := [3, 3, 0, 0, 0, 0, 0, 0] ++
        [vhl, 0, 0, 60, 0, 0, 0, off, 64, 6, 0, 0, 10, 0, 0, 1, 10, 0, 0, 2] ++ rest
      size := 2048 }] }
  checksumOk := true

-- four bytes of options and the ports, then the quote ends
def optionsQuote : IcmpMsg := portUnreachable 0x46 0 [1, 1, 1, 1, 0x0F, 0xA0, 0, 80]

-- the payload of a later fragment in the place of the header
def fragmentQuote : IcmpMsg := portUnreachable 0x45 185 [0x0F, 0xA0, 0, 80, 0, 0, 3, 232]

instance {A : Type} (st st' : Stacks A) (i : SockId) : Decidable (Touched st st' i) := inferInstanceAs (Decidable (_ ∨ _))

def quotedInfo : ErrorInfo Ipv4 where
  protocol := ipprotoTcp
  srcIp := 0x0A000001
  dstIp := 0x0A000002
  srcPort := 4000
  dstPort := 80
  tcpSeq := none

def quotedStacks (c : TcpSock) : Stacks Ipv4 := victimStacks quotedInfo c

/-- An idle connection gets an error without a sequence number, a busy one an error read off a later fragment. -/
theorem blind_error_reaches_socket :
    (Touched (quotedStacks (establishedSock 1000 1)) (icmpRecv (quotedStacks (establishedSock 1000 1)) optionsQuote 0).1 0 ∧
      quotedSeq (optionsQuote.quote quoteMax4) (ipv4Hl (optionsQuote.quote quoteMax4)) = none) ∧
    (Touched (quotedStacks (victimConn 1000)) (icmpRecv (quotedStacks (victimConn 1000)) fragmentQuote 0).1 0 ∧
      fragOff (ipv4FragField (fragmentQuote.quote quoteMax4)) = 185) := by
  decide

end Netfast.Icmp
