import Netfast.Tcp.Types

/-! The receive side: the reorder list filled by `tcp_recv_data` and the queue drained by `tcp_read`. -/

namespace Netfast.Tcp

open Serial Skbuff

def addListNodeCompare {α : Type*} (cmp : α → α → Ordering) : List α → α → Option (List α)
  | [], x => some [x]
  | y :: ys, x =>
    match cmp y x with
    | .gt => some (x :: y :: ys)
    | .lt => (addListNodeCompare cmp ys x).map (y :: ·)
    | .eq => none

def tcpSeqCmp (a b : SkBuff) : Ordering :=
  if lt a.seq b.seq then .lt else if gt a.seq b.seq then .gt else .eq

def useableRecvBuff (r : RecvState) : ℕ :=
  min (if r.recvBufferLen < r.recvBufferLenMax then r.recvBufferLenMax - r.recvBufferLen else 0)
    r.recvBufferLenMax

def deliver (r : RecvState) (it : SkBuff) : RecvState :=
  { r with
    recvQueue := r.recvQueue ++ [it]
    recvBufferLen := (r.recvBufferLen + skbDataLen it) % 2 ^ 32
    rcvNxt := r.rcvNxt + BitVec.ofNat 32 (skbDataLen it) }

def drainUnordered : List SkBuff → RecvState → RecvState
  | [], r => { r with unorderedSkbList := [] }
  | it :: rest, r =>
    if gt it.seq r.rcvNxt then { r with unorderedSkbList := it :: rest }
    else if lt it.seq r.rcvNxt then
      let overlap := (r.rcvNxt - it.seq).toNat
      if skbDataLen it ≤ overlap then drainUnordered rest r
      else drainUnordered rest (deliver r { skbConsume it overlap with seq := r.rcvNxt })
    else drainUnordered rest (deliver r it)

def queueSegment (r : RecvState) (skb : SkBuff) : RecvState × Bool :=
  match addListNodeCompare tcpSeqCmp r.unorderedSkbList skb with
  | none => (r, false)
  | some list =>
    let r' := drainUnordered list r
    ({ r' with rcvWnd := useableRecvBuff r' }, true)

def tcpRecvData (r : RecvState) (skb : SkBuff) : RecvState × Bool :=
  if skbDataLen skb = 0 then (r, false)
  else
    let old := lt skb.seq r.rcvNxt
    let overlap := (r.rcvNxt - skb.seq).toNat
    if old && decide (skbDataLen skb ≤ overlap) then (r, false)
    else
      -- the bytes are cut off, the sequence number recorded in the packet stays
      let skb₁ := if old then skbConsume skb overlap else skb
      let seq := if old then r.rcvNxt else skb.seq
      let segEnd := seq + BitVec.ofNat 32 (skbDataLen skb₁)
      let edge := r.rcvNxt + BitVec.ofNat 32 r.rcvWnd
      let beyond := (segEnd - edge).toNat
      if gt segEnd edge && decide (skbDataLen skb₁ ≤ beyond) then (r, false)
      else queueSegment r (if gt segEnd edge then skbTruncate skb₁ (skbDataLen skb₁ - beyond) else skb₁)

def readLoop : List SkBuff → ℕ → List UInt8 × List SkBuff
  | [], _ => ([], [])
  | skb :: rest, n =>
    if n = 0 then ([], skb :: rest)
    else if skbDataLen skb = 0 then readLoop rest n
    else if skbDataLen skb ≤ n then
      let (bs, q) := readLoop rest (n - skbDataLen skb)
      (skbCopyBits skb 0 (skbDataLen skb) ++ bs, q)
    else (skbCopyBits skb 0 n, skbConsume skb n :: rest)

def readQueue (r : RecvState) (len : ℕ) : List UInt8 × RecvState :=
  let (bs, q) := readLoop r.recvQueue len
  let r' := { r with recvQueue := q, recvBufferLen := subU32 r.recvBufferLen bs.length }
  (bs, { r' with rcvWnd := useableRecvBuff r' })

def segAllow (r : RecvState) (seq : Seq) (segLen : ℕ) : Bool :=
  let edge := r.rcvNxt + BitVec.ofNat 32 r.rcvWnd
  let last := seq + BitVec.ofNat 32 segLen - 1
  if segLen = 0 then
    if r.rcvWnd = 0 then r.rcvNxt == seq else leq r.rcvNxt seq && lt seq edge
  else if r.rcvWnd = 0 then false
  else (leq r.rcvNxt seq && lt seq edge) || (leq r.rcvNxt last && lt last edge)

end Netfast.Tcp
