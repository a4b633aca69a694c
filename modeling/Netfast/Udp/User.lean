import Netfast.If
import Netfast.Rss
import Netfast.Socket.Hijack
import Netfast.Socket.Table
import Netfast.Udp.Sock

/-! `udp_sendto`: the length check, and the datagram built once route, source address and worker are
settled. -/

namespace Netfast.Udp

open Skbuff Bytes

def udpHdrSize : ℕ := 8

-- UINT16_MAX - sizeof(udp_hdr) - (is_v6 ? 0 : sizeof(ipv4_hdr))
def udpMaxPayload (isV6 : Bool) : ℕ := 65535 - udpHdrSize - if isV6 then 0 else 20

def udpHdrLen (isV6 : Bool) (l2Len : ℕ) : ℕ := udpHdrSize + (if isV6 then 64 else 60) + l2Len

def makeUdpHdr (sport dport len check : ℕ) : List UInt8 :=
  putBe16 (putBe16 (putBe16 (putBe16 (List.replicate udpHdrSize 0) 0 sport) 2 dport) 4 len) 6 check

inductive BuildErr
  | emsgsize | enomem
deriving DecidableEq

structure BuildArgs where
  isV6 : Bool
  mtu : ℕ
  l2Len : ℕ
  sport : ℕ
  dport : ℕ
  check : ℕ

def BuildArgs.hdrLen (a : BuildArgs) : ℕ := udpHdrLen a.isV6 a.l2Len

def BuildArgs.segLen (a : BuildArgs) : ℕ := (a.mtu + a.l2Len) / 8 * 8

def BuildArgs.preSize (a : BuildArgs) : ℕ := (if a.isV6 then 48 else 20) + a.l2Len

def BuildArgs.udpHdr (a : BuildArgs) (len : ℕ) : List UInt8 :=
  makeUdpHdr a.sport a.dport (udpHdrSize + len) a.check

-- skb_alloc and skb_reserve
def allocReserved (size reserve : ℕ) (f : Fates) : Option SkBuff × Fates :=
  match draw f with
  | (false, f) => (none, f)
  | (true, f) =>
    match frameSlotAlloc size with
    | none => (none, f)
    | some slot =>
      match draw f with
      | (false, f) => (none, f)
      | (true, f) => (some (skbAlloc 0 {} reserve (if size = 0 then slot else size)), f)

def udpBuild (a : BuildArgs) (buf : List UInt8) (f : Fates) : Except BuildErr SkBuff :=
  if udpMaxPayload a.isV6 < buf.length then .error .emsgsize
  else
    match allocReserved (a.hdrLen + buf.length) a.hdrLen f with
    | (none, _) => .error .enomem
    | (some skb, f) =>
      match skbDataPush skb (a.udpHdr buf.length) f with
      | (none, _) => .error .enomem
      | (some skb, f) =>
        match skbDataAppend skb buf a.preSize a.segLen f with
        | (none, _) => .error .enomem
        | (some skb, _) => .ok skb

@[simp] lemma udpHdr_length (a : BuildArgs) (len : ℕ) : (a.udpHdr len).length = udpHdrSize := by
  simp [BuildArgs.udpHdr, makeUdpHdr]

lemma hdrSize_le_hdrLen (a : BuildArgs) : udpHdrSize ≤ a.hdrLen := by
  rw [BuildArgs.hdrLen, udpHdrLen]
  omega

def headed (a : BuildArgs) (n : ℕ) : SkBuff :=
  { seq := 0, flag := {},
    infos := [{ headroom := a.hdrLen - udpHdrSize, data := a.udpHdr n, size := a.hdrLen + n }] }

lemma allocReserved_of_le {size reserve : ℕ} (hpos : size ≠ 0) (h : size ≤ frameSlotMaxSize) :
    allocReserved size reserve [] = (some (skbAlloc 0 {} reserve size), []) := by
  obtain ⟨slot, hslot⟩ := Option.isSome_iff_exists.mp ((frameSlotAlloc_isSome size).mpr h)
  simp only [allocReserved, draw, hslot, if_neg hpos]

lemma allocReserved_of_lt {size reserve : ℕ} (f : Fates) (h : frameSlotMaxSize < size) :
    (allocReserved size reserve f).1 = none := by
  have hslot : frameSlotAlloc size = none := by
    have hn : ¬ (frameSlotAlloc size).isSome := fun hs => by
      have := (frameSlotAlloc_isSome size).mp hs
      omega
    simpa using hn
  rw [allocReserved]
  split
  · rfl
  · rw [hslot]

lemma skbDataPush_reserved (a : BuildArgs) (n : ℕ) (f : Fates) :
    skbDataPush (skbAlloc 0 {} a.hdrLen (a.hdrLen + n)) (a.udpHdr n) f = (some (headed a n), f) := by
  simp only [skbDataPush, skbAlloc, udpHdr_length, List.append_nil, if_pos (hdrSize_le_hdrLen a), headed]

lemma headed_endSpace (a : BuildArgs) (n : ℕ) : endSpace (headed a n).infos = n := by
  have := hdrSize_le_hdrLen a
  simp only [endSpace, headed, List.getLast?_singleton, Option.map_some, Option.getD_some, DataInfo.endSpace,
    udpHdr_length]
  omega

lemma skbDataAppend_headed (a : BuildArgs) (buf : List UInt8) (f : Fates) :
    ∃ skb, skbDataAppend (headed a buf.length) buf a.preSize a.segLen f = (some skb, f) := by
  have hl : appendLoop a.preSize a.segLen buf.length [] f = (some [], f) := by cases buf.length <;> rfl
  simp only [skbDataAppend, headed_endSpace, List.drop_length, hl]
  rw [if_neg (by omega)]
  exact ⟨_, rfl⟩

section Admitted

variable (a : BuildArgs) (buf : List UInt8) (hadm : buf.length ≤ udpMaxPayload a.isV6)

include hadm

lemma udpBuild_of_le (h : a.hdrLen + buf.length ≤ frameSlotMaxSize) :
    ∃ skb, udpBuild a buf [] = .ok skb ∧ skb.payload = a.udpHdr buf.length ++ buf := by
  have hpos : a.hdrLen + buf.length ≠ 0 := by
    have h8 : 0 < udpHdrSize := by decide
    have := hdrSize_le_hdrLen a
    omega
  obtain ⟨skb, hskb⟩ := skbDataAppend_headed a buf []
  obtain ⟨hpay, -⟩ := skbDataAppend_spec (by simp [SkBuff.ownsSlot, headed]) hskb
  refine ⟨skb, ?_, by simpa [headed, SkBuff.payload] using hpay⟩
  rw [udpBuild, if_neg (Nat.not_lt.mpr hadm)]
  simp only [allocReserved_of_le hpos h, skbDataPush_reserved, hskb]

lemma udpBuild_of_lt (f : Fates) (h : frameSlotMaxSize < a.hdrLen + buf.length) :
    udpBuild a buf f = .error .enomem := by
  have hnone : (allocReserved (a.hdrLen + buf.length) a.hdrLen f).1 = none := allocReserved_of_lt f h
  rw [udpBuild, if_neg (Nat.not_lt.mpr hadm)]
  split
  · rfl
  · next skb f' hs =>
    rw [hs] at hnone
    cases hnone

/-- With every allocation granted, an admitted payload travels behind the UDP header exactly when headers
and payload fit the largest slot. -/
theorem admitted_payload_built :
    (∃ skb, udpBuild a buf [] = .ok skb ∧ skb.payload.drop udpHdrSize = buf) ↔
      udpHdrLen a.isV6 a.l2Len + buf.length ≤ frameSlotMaxSize := by
  constructor
  · rintro ⟨skb, hskb, -⟩
    by_contra hlt
    rw [udpBuild_of_lt a buf hadm [] (Nat.lt_of_not_le hlt)] at hskb
    cases hskb
  · intro hle
    obtain ⟨skb, hskb, hpay⟩ := udpBuild_of_le a buf hadm hle
    refine ⟨skb, hskb, ?_⟩
    rw [hpay, List.drop_left' (udpHdr_length a buf.length)]

end Admitted

def ethernet : BuildArgs := { isV6 := false, mtu := 1500, l2Len := 14, sport := 1024, dport := 53, check := 0 }

theorem admitted_payload_built_query :
    ∃ skb, udpBuild ethernet [1, 2, 3] [] = .ok skb ∧ skb.payload.drop udpHdrSize = [1, 2, 3] :=
  (admitted_payload_built ethernet [1, 2, 3] (by decide)).mpr (by decide)

/-- `len` is admitted and every allocation would be granted, yet no slot is large enough. -/
theorem admitted_payload_refused :
    (List.replicate 4000 (0 : UInt8)).length ≤ udpMaxPayload ethernet.isV6 ∧
      udpBuild ethernet (List.replicate 4000 0) [] = .error .enomem := by
  have hadm : (List.replicate 4000 (0 : UInt8)).length ≤ udpMaxPayload ethernet.isV6 := by
    rw [List.length_replicate]
    decide
  refine ⟨hadm, udpBuild_of_lt _ _ hadm _ ?_⟩
  rw [List.length_replicate]
  decide

/-! The calls on a UDP socket that bind, route and send: `udp_bind`, `udp_connect`, `udp_sendto`. -/

open Tcp Socket Route If Rss

structure UdpPcb where
  sock : UdpSock := {}
  sipScope : BitVec 32 := 0
  dipScope : BitVec 32 := 0
  reuseaddr : Bool := false
  broadcast : Bool := false
  reservation : Option AddrKey := none
  route : Option RouteInfo := none
  sipChosen : Bool := false

structure Peer (A : Type) where
  addr : A
  port : Port
  scope : BitVec 32 := 0
deriving DecidableEq

structure Sent (A : Type) where
  src : A
  sport : Port
  dst : Peer A
  route : RouteInfo
  srcChosen : Bool
  skb : SkBuff

structure Host (A : Type) [Family A] where
  tables : RouteTables
  usable : RouteInfo → Bool
  ifs : ℕ → IfInfo A
  isLocal : A → BitVec 32 → Bool
  rssKey : List UInt8
  workers : ℕ
  cur : Worker
  curLt : cur < workers
  first : ℕ
  slotAlloc : Port → Bool
  entryAlloc : Bool
  entryAgain : Bool
  fates : Fates
  check : ℕ
  output : Option Errno

structure UdpStack (A : Type) where
  st : Stack A UdpPcb
  binds : BindTable
  wire : List (Sent A) := []

variable {A : Type} [Family A]

def UdpStack.sock (u : UdpStack A) (i : SockId) : Sock A UdpPcb := u.st.socks i

def UdpStack.put (u : UdpStack A) (i : SockId) (s : Sock A UdpPcb) : UdpStack A := { u with st := u.st.set i s }

inductive Reply
  | done (n : ℕ)
  | fail (e : Errno)
  | moved (w : Worker)
deriving DecidableEq

-- route_key: only IPv6 looks at the scope
def routeKey (d : Peer A) : RouteKey :=
  { isV6 := Family.isV6 A, ifindex := if Family.isV6 A then d.scope.toNat else 0, dip := ipOf d.addr }

def Host.lookup (h : Host A) (d : Peer A) : Option RouteInfo := searchRouteTable h.tables (routeKey d)

def setSocketRoute (h : Host A) (cached : Option RouteInfo) (d : Peer A) : Option RouteInfo :=
  match cached with
  | some r => if h.usable r then some r else h.lookup d
  | none => h.lookup d

def Host.worker (h : Host A) (src : A) (sport : Port) (d : Peer A) : Worker :=
  (selectWorkerByTuple h.rssKey h.workers ⟨Family.bytes src, portBytes sport.toNat⟩
    ⟨Family.bytes d.addr, portBytes d.port.toNat⟩).getD h.cur

def Host.saddr (h : Host A) (r : RouteInfo) (d : A) : Option A := ifSearchBestSaddrByDaddr (h.ifs r.ifindex) d

def setBindReservation (s : Sock A UdpPcb) (addr : A) (key slot : AddrKey) : Sock A UdpPcb :=
  { s with
    sip := addr
    sport := key.port
    pcb := { s.pcb with
      sock := { s.pcb.sock with isBound := true }
      sipScope := if Family.isV6 A then key.scopeId else 0
      reservation := some slot } }

def reuse (s : Sock A UdpPcb) : Bool := s.pcb.reuseaddr || s.reuseport

-- an IPv4 key has no scope
def addrKey (addr : A) (port : Port) (scope : BitVec 32) : AddrKey :=
  { addr := Family.bind addr, port, scopeId := if Family.isV6 A then scope else 0 }

def autoBindPeer (t : BindTable) (h : Host A) (s : Sock A UdpPcb) (d : Peer A) : BindTable × Option (Sock A UdpPcb) :=
  if s.pcb.reservation.isSome then (t, none)
  else
    match setSocketRoute h s.pcb.route d with
    | none => (t, none)
    | some r =>
      match h.saddr r d.addr with
      | none => (t, none)
      | some addr =>
        match autoBindPorts t (fun p => addrKey addr p d.scope) (fun p => h.worker addr p d = h.cur) (reuse s)
          h.slotAlloc (ephemeralPorts h.first) with
        | (t, none) => (t, none)
        | (t, some (key, slot)) =>
          let s := setBindReservation s addr key slot
          let scope := if Family.isV6 A then if d.scope ≠ 0 then d.scope else BitVec.ofNat 32 r.ifindex
            else s.pcb.sipScope
          (t, some { s with pcb := { s.pcb with route := some r, sipScope := scope, sipChosen := true } })

def autoBindLocal (t : BindTable) (h : Host A) (s : Sock A UdpPcb) (loc : Peer A) : BindTable × Option (Sock A UdpPcb) :=
  if s.pcb.reservation.isSome then (t, none)
  else
    match autoBindPorts t (fun p => addrKey loc.addr p loc.scope) (fun _ => true) false h.slotAlloc
      (ephemeralPorts h.first) with
    | (t, none) => (t, none)
    | (t, some (key, slot)) => (t, some (setBindReservation s loc.addr key slot))

def bindSaddrUdp (t : BindTable) (h : Host A) (s : Sock A UdpPcb) (loc : Peer A) : BindTable × Option (Sock A UdpPcb) :=
  if s.pcb.reservation.isSome then (t, none)
  else
    match bindReserve t (addrKey loc.addr loc.port loc.scope) (reuse s) (h.slotAlloc loc.port) with
    | (t, none) => (t, none)
    | (t, some slot) => (t, some (setBindReservation s loc.addr (addrKey loc.addr loc.port loc.scope) slot))

def unbindSaddrUdp (t : BindTable) (s : Sock A UdpPcb) : BindTable × Sock A UdpPcb :=
  match s.pcb.reservation with
  | none => (t, s)
  | some slot =>
    (bindRelease t slot,
      { s with
        sip := InetAddr.any
        sport := 0
        pcb := { s.pcb with
          sock := { s.pcb.sock with isBound := false }
          reservation := none
          sipScope := 0
          sipChosen := false } })

def bindExist (t : BindTable) (key : AddrKey) : Bool := (bindFind t key).any fun slot => slot.count != 0

/-! `udp_sendto`. -/

structure SendArgs (A : Type) where
  buf : List UInt8
  dest : Option (Peer A)
  lenOk : Bool := true
  familyOk : Bool := true

variable [DecidableEq A]

-- the scope of an IPv4 socket is not touched
def peerOf (s : Sock A UdpPcb) : Peer A := ⟨s.dip, s.dport, s.pcb.dipScope⟩

def pointAt (s : Sock A UdpPcb) (d : Peer A) : Sock A UdpPcb :=
  { s with
    dip := d.addr
    dport := d.port
    pcb := { s.pcb with dipScope := if Family.isV6 A then d.scope else s.pcb.dipScope } }

def otherPeer (s : Sock A UdpPcb) (d : Peer A) : Bool :=
  d.port ≠ s.dport || (Family.isV6 A && d.scope ≠ s.pcb.dipScope) || d.addr ≠ s.dip

def sendTarget (s : Sock A UdpPcb) (a : SendArgs A) : Except Errno (Sock A UdpPcb) :=
  if udpMaxPayload (Family.isV6 A) < a.buf.length then .error .emsgsize
  else if a.dest.isSome && !a.lenOk then .error .einval
  else if a.dest.isSome && !a.familyOk then .error .eafnosupport
  else if s.pcb.sock.isConnected then
    if a.dest.any (otherPeer s) then .error .eisconn else .ok s
  else
    match a.dest with
    | none => .error .edestaddrreq
    | some d => .ok (pointAt s d)

def sendSource (t : BindTable) (h : Host A) (s : Sock A UdpPcb) (r : RouteInfo) :
    BindTable × Except Errno (Sock A UdpPcb) :=
  if !s.pcb.sock.isBound then
    match autoBindPeer t h s (peerOf s) with
    | (t, none) => (t, .error .eaddrinuse)
    | (t, some s) => (t, .ok s)
  else if s.sip = InetAddr.any then
    match h.saddr r s.dip with
    | none => (t, .error .eaddrnotavail)
    | some addr =>
      if bindExist t (addrKey addr s.sport s.pcb.sipScope) then (t, .error .eaddrinuse)
      else (t, .ok { s with sip := addr, pcb := { s.pcb with sipChosen := true } })
  else (t, .ok s)

inductive Stage (A : Type)
  | early (e : Errno)
  | exit (s : Sock A UdpPcb) (e : Errno)
  | move (s : Sock A UdpPcb) (w : Worker)
  | send (s : Sock A UdpPcb) (r : RouteInfo)

def withRoute (s : Sock A UdpPcb) (r : Option RouteInfo) : Sock A UdpPcb := { s with pcb := { s.pcb with route := r } }

def tupleStage (h : Host A) (s₁ : Sock A UdpPcb) (r : RouteInfo) : Except Errno (Sock A UdpPcb) → Stage A
  | .error e => .exit s₁ e
  | .ok s =>
    let w := h.worker s.sip s.sport (peerOf s)
    if w ≠ h.cur then .move { s with owner := w } w else .send s r

def sendStage (t : BindTable) (h : Host A) (s : Sock A UdpPcb) (a : SendArgs A) : BindTable × Stage A :=
  match sendTarget s a with
  | .error e => (t, .early e)
  | .ok s =>
    match s.pcb.sock.error with
    | some e => (t, .exit { s with pcb := { s.pcb with sock := { s.pcb.sock with error := none } } } e)
    | none =>
      match setSocketRoute h s.pcb.route (peerOf s) with
      | none => (t, .exit (withRoute s none) .ehostunreach)
      | some r =>
        let (t, source) := sendSource t h (withRoute s (some r)) r
        (t, tupleStage h (withRoute s (some r)) r source)

def rtnBroadcast : ℕ := 3

def getRouteMtu (h : Host A) (r : RouteInfo) : ℕ := if r.mtu ≠ 0 then r.mtu else (h.ifs r.ifindex).mtu

-- set_skb_route
def setSkbRoute (h : Host A) (r : RouteInfo) (d : Peer A) : Option RouteInfo :=
  if h.usable r then some r else h.lookup d

def outputReply (n : ℕ) : Option Errno → Reply
  | none => .done n
  | some .eagain => .fail .enobufs
  | some .enetdown => .fail .enetdown
  | some _ => .fail .ehostunreach

def buildArgs (h : Host A) (s : Sock A UdpPcb) (r : RouteInfo) : BuildArgs where
  isV6 := Family.isV6 A
  mtu := getRouteMtu h r
  l2Len := (h.ifs r.ifindex).l2Len
  sport := s.sport.toNat
  dport := s.dport.toNat
  check := h.check

def sendDatagram (h : Host A) (s : Sock A UdpPcb) (r : RouteInfo) (buf : List UInt8) : Option (Sent A) × Reply :=
  if !Family.isV6 A && r.type = rtnBroadcast && !s.pcb.broadcast then (none, .fail .eacces)
  else
    match udpBuild (buildArgs h s r) buf h.fates with
    | .error _ => (none, .fail .enomem)
    | .ok skb =>
      match setSkbRoute h r (peerOf s) with
      | none => (none, .fail .ehostunreach)
      | some route =>
        let sent := { src := s.sip, sport := s.sport, dst := peerOf s, route, srcChosen := s.pcb.sipChosen, skb }
        (if h.output.isNone then some sent else none, outputReply buf.length h.output)

def sendExit (s₀ s : Sock A UdpPcb) : Sock A UdpPcb :=
  { s with
    sip := if s₀.pcb.sock.isBound then s₀.sip else s.sip
    dip := s₀.dip
    dport := s₀.dport
    pcb := { s.pcb with
      sipScope := if s₀.pcb.sock.isBound then s₀.pcb.sipScope else s.pcb.sipScope
      dipScope := s₀.pcb.dipScope
      sipChosen := if s₀.pcb.sock.isBound then s₀.pcb.sipChosen else s.pcb.sipChosen } }

def udpSendto (u : UdpStack A) (h : Host A) (i : SockId) (a : SendArgs A) : UdpStack A × Reply :=
  match sendStage u.binds h (u.sock i) a with
  | (_, .early e) => (u, .fail e)
  | (t, .exit s e) => ({ u with binds := t }.put i (sendExit (u.sock i) s), .fail e)
  | (t, .move s w) => ({ u with binds := t }.put i s, .moved w)
  | (t, .send s r) =>
    ({ u with binds := t, wire := u.wire ++ (sendDatagram h s r a.buf).1.toList }.put i (sendExit (u.sock i) s),
      (sendDatagram h s r a.buf).2)

/-! `udp_connect` and `udp_bind`. -/

def UdpStack.install (u : UdpStack A) (i : SockId) (alloc : Bool) : UdpStack A × Bool :=
  ({ u with st := (installTuple u.st i alloc).1 }, (installTuple u.st i alloc).2)

def UdpStack.uninstall (u : UdpStack A) (i : SockId) : UdpStack A × Bool :=
  ({ u with st := (uninstallTuple u.st i).1 }, (uninstallTuple u.st i).2)

def UdpStack.update (u : UdpStack A) (i : SockId) (f : Sock A UdpPcb → Sock A UdpPcb) : UdpStack A := u.put i (f (u.sock i))

def isHash (s : Sock A UdpPcb) : Bool := s.tupleEntry.isSome

structure AddrArgs (A : Type) where
  addr : Peer A
  lenOk : Bool := true
  familyOk : Bool := true

def connectBound (t : BindTable) (h : Host A) (s : Sock A UdpPcb) (d : Peer A) :
    BindTable × Option (Sock A UdpPcb) :=
  if s.pcb.sock.isBound then (t, some s) else autoBindPeer t h s d

def setConnected (s : Sock A UdpPcb) : Sock A UdpPcb :=
  { s with pcb := { s.pcb with sock := { s.pcb.sock with isConnected := true } } }

def restorePeer (old s : Sock A UdpPcb) : Sock A UdpPcb :=
  { s with
    dip := old.dip
    dport := old.dport
    pcb := { s.pcb with
      dipScope := old.pcb.dipScope
      sock := { s.pcb.sock with isConnected := old.pcb.sock.isConnected } } }

def connectInstall (u : UdpStack A) (h : Host A) (i : SockId) (old : Sock A UdpPcb) : UdpStack A × Reply :=
  match u.install i h.entryAlloc with
  | (u, true) => (u.update i setConnected, .done 0)
  | (u, false) =>
    let u := u.update i (restorePeer old)
    (if isHash old then (u.install i h.entryAgain).1 else u, .fail .eaddrinuse)

def udpConnect (u : UdpStack A) (h : Host A) (i : SockId) (a : AddrArgs A) : UdpStack A × Reply :=
  if !a.lenOk then (u, .fail .einval)
  else if !a.familyOk then (u, .fail .eafnosupport)
  else
    let old := u.sock i
    match setSocketRoute h old.pcb.route a.addr with
    | none => (u.put i (withRoute old none), .fail .ehostunreach)
    | some r =>
      let s := withRoute old (some r)
      match connectBound u.binds h s a.addr with
      | (t, none) => ({ u with binds := t }.put i s, .fail .eaddrinuse)
      | (t, some s) =>
        let u := { u with binds := t }.put i s
        match if isHash old then u.uninstall i else (u, true) with
        | (u, false) => (u, .fail .eio)
        | (u, true) =>
          let u := u.update i (pointAt · a.addr)
          let s := u.sock i
          let w := h.worker s.sip s.sport (peerOf s)
          if w ≠ h.cur then (u.update i ({ · with owner := w }), .moved w)
          else connectInstall u h i old

def isLinkLocal (a : A) : Bool :=
  Family.isV6 A && (Family.bytes a).getD 0 0 = 0xFE && (Family.bytes a).getD 1 0 &&& 0xC0 = 0x80

def localPeer (a : AddrArgs A) : Peer A := { a.addr with scope := if Family.isV6 A then a.addr.scope else 0 }

def socketBindLocal (t : BindTable) (h : Host A) (s : Sock A UdpPcb) (a : Option (AddrArgs A)) :
    BindTable × Except Errno (Sock A UdpPcb) :=
  match a with
  | none => (t, .error .efault)
  | some a =>
    let loc := localPeer a
    if s.pcb.sock.isBound then (t, .error .einval)
    else if !a.lenOk then (t, .error .einval)
    else if !a.familyOk then (t, .error .eafnosupport)
    else if isLinkLocal loc.addr && loc.scope = 0 then (t, .error .einval)
    else if loc.addr ≠ InetAddr.any ∧ !h.isLocal loc.addr loc.scope then (t, .error .eaddrnotavail)
    else
      match if loc.port = 0 then autoBindLocal t h s loc else bindSaddrUdp t h s loc with
      | (t, none) => (t, .error (if loc.port = 0 ∧ s.pcb.reservation.isSome then .einval else .eaddrinuse))
      | (t, some s) => (t, .ok s)

def udpBind (u : UdpStack A) (h : Host A) (i : SockId) (a : Option (AddrArgs A)) : UdpStack A × Reply :=
  match socketBindLocal u.binds h (u.sock i) a with
  | (t, .error e) => ({ u with binds := t }, .fail e)
  | (t, .ok s) =>
    match ({ u with binds := t }.put i s).install i h.entryAlloc with
    | (u, true) => (u, .done 0)
    | (u, false) =>
      let (t, s) := unbindSaddrUdp u.binds (u.sock i)
      ({ u with binds := t }.put i s, .fail .eaddrinuse)

end Netfast.Udp
