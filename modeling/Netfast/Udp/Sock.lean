import Netfast.Tcp.User

/-! The receiving side of a UDP socket. -/

namespace Netfast.Udp

open Tcp

structure UdpSock where
  isBound : Bool := false
  isHash : Bool := false
  isConnected : Bool := false
  closeRecv : Bool := false
  closeSend : Bool := false
  nonblock : Bool := false
  recvTimeout : Option ℕ := none
  error : Option Errno := none
  recvQueue : List (List UInt8) := []
  recvBufferLen : ℕ := 0
  recvBufferLenMax : ℕ := 262144
  freed : Bool := false

structure MsgFlags where
  dontwait : Bool := false
  peek : Bool := false
  trunc : Bool := false

def socketRecvSkb (u : UdpSock) (payload : List UInt8) : UdpSock × List Notify :=
  if u.recvBufferLenMax - u.recvBufferLen < payload.length then (u, [])
  else
    ({ u with
      recvQueue := u.recvQueue ++ [payload]
      recvBufferLen := u.recvBufferLen + payload.length }, [.dataRead])

def udpIcmpProcess (u : UdpSock) (err : Errno) : UdpSock × List Notify :=
  if !u.isBound || !u.isConnected then (u, []) else ({ u with error := some err }, [.err])

def takeDatagram (u : UdpSock) (skb : List UInt8) (rest : List (List UInt8)) (len : ℕ) (flags : MsgFlags) :
    UdpSock × Outcome (List UInt8 × ℕ) :=
  let u := if flags.peek then u else
    { u with recvQueue := rest, recvBufferLen := u.recvBufferLen - skb.length }
  (u, .done (skb.take len, if flags.trunc then skb.length else min skb.length len))

def udpRecvfrom (u : UdpSock) (len : ℕ) (flags : MsgFlags) (expired : Bool) (now : ℕ) :
    UdpSock × Outcome (List UInt8 × ℕ) :=
  if !u.isBound || !u.isHash then (u, .fail .enotconn)
  else
    match u.recvQueue, u.error with
    | [], some e => ({ u with error := none }, .fail e)
    | [], none =>
      if flags.dontwait || u.nonblock then (u, .fail .eagain)
      else
        match u.recvTimeout with
        | none => (u, .wait none)
        | some d => if expired then (u, .fail .eagain) else (u, .wait (some (now + d)))
    | skb :: rest, _ => takeDatagram u skb rest len flags

end Netfast.Udp
