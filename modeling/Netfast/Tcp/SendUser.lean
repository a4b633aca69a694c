import Netfast.Tcp.SendInput

/-! The connection invariant through `tcp_write`. -/

namespace Netfast.Tcp

open Serial Skbuff

variable {own : Prop} {iss : Seq} {data : List UInt8} {fin : Bool} {u x : ℕ} {s s' : TcpSock}

def acceptedBy (buf : List UInt8) : Outcome ℕ → List UInt8
  | .done n => buf.take n
  | _ => []

lemma writeQueued_outcome (s : TcpSock) (segLimit n : ℕ) (buf : List UInt8) :
    acceptedBy buf (writeQueued s segLimit n).2 = buf.take n := by
  unfold writeQueued
  split
  · next hn => rw [hn]; rfl
  split <;> rfl

lemma ConnAt.written (h : ConnAt own iss data false u x s) (room : ℕ) (buf : List UInt8)
    (hlim : tcpDataMss s.nego ≠ 0) (hroom : s.snd.sendBufferLen < s.snd.sendBufferLenMax) :
    ∃ m q e l, writeLoop (tcpDataMss s.nego) room (buf.take (s.snd.sendBufferLenMax - s.snd.sendBufferLen)).length
        (buf.take (s.snd.sendBufferLenMax - s.snd.sendBufferLen)) s.snd 0 s.env.fates =
          ({ s.snd with sendQueue := q, sndEnd := e, sendBufferLen := l }, m,
            (writeLoop (tcpDataMss s.nego) room (buf.take (s.snd.sendBufferLenMax - s.snd.sendBufferLen)).length
              (buf.take (s.snd.sendBufferLenMax - s.snd.sendBufferLen)) s.snd 0 s.env.fates).2.2) ∧
      m ≤ buf.length ∧ ∀ f, ConnAt own iss (data ++ buf.take m) false u x
        { s with snd := { s.snd with sendQueue := q, sndEnd := e, sendBufferLen := l }, env.fates := f } := by
  have hmax := h.max
  have hlen : (buf.take (s.snd.sendBufferLenMax - s.snd.sendBufferLen)).length ≤
      s.snd.sendBufferLenMax - s.snd.sendBufferLen := by simp
  obtain ⟨m, hm, hn, hinv⟩ := writeLoop_spec room
    (buf.take (s.snd.sendBufferLenMax - s.snd.sendBufferLen)).length
    (buf.take (s.snd.sendBufferLenMax - s.snd.sendBufferLen)) 0 s.env.fates (Nat.pos_of_ne_zero hlim) h.send (by omega)
  obtain ⟨q, e, l, hq⟩ := writeLoop_frame (tcpDataMss s.nego) room
    (buf.take (s.snd.sendBufferLenMax - s.snd.sendBufferLen)).length
    (buf.take (s.snd.sendBufferLenMax - s.snd.sendBufferLen)) s.snd 0 s.env.fates
  have htake : (buf.take (s.snd.sendBufferLenMax - s.snd.sendBufferLen)).take m = buf.take m := by
    rw [List.take_take, Nat.min_eq_left (hm.trans hlen)]
  rw [Nat.zero_add] at hn
  rw [htake, hq] at hinv
  refine ⟨m, q, e, l, Prod.ext hq (Prod.ext hn rfl), hm.trans (by simp), fun f => ?_⟩
  exact ⟨⟨hinv, h.closeSend, h.flightLe, h.wnd, h.scale, h.max⟩, h.synSent, h.opening, h.recovery, h.synBare, h.owned⟩

lemma writeBytes_inv (h : ConnAt own iss data false u x s) (r : Route) (buf : List UInt8)
    (hroom : s.snd.sendBufferLen < s.snd.sendBufferLenMax) :
    Preserves own iss (data ++ acceptedBy buf (writeBytes s r buf).2) s (writeBytes s r buf).1 := by
  have hfault (f : Fault) (hf : Benign f) : Preserves own iss (data ++ []) s (s.fault f) := by
    rw [List.append_nil]
    exact ⟨⟨false, u, x, h.quiet _ _ _ _ _⟩, fun _ => .fault s f hf⟩
  simp only [writeBytes]
  split
  · exact hfault _ ⟨by simp, by simp⟩
  next hlim =>
  split
  · exact hfault _ ⟨by simp, by simp⟩
  obtain ⟨m, q, e, l, hq, -, h₁⟩ := h.written (headerRoom s r) buf hlim hroom
  rw [hq]
  dsimp only
  rw [writeQueued_outcome]
  exact Preserves.trans (fun _ => .of_eq rfl) ((writeQueued_moves _ (tcpDataMss s.nego) m).preserves (h₁ _))

lemma writeOnRoute_inv (h : ConnAt own iss data false u x s) (buf : List UInt8)
    (hroom : s.snd.sendBufferLen < s.snd.sendBufferLenMax) :
    Preserves own iss (data ++ acceptedBy buf (writeOnRoute s buf).2) s (writeOnRoute s buf).1 := by
  have hk := setTcpSocketRoute_keeps s
  have hm := (setTcpSocketRoute_moves s).preserves h
  rcases writeOnRoute_cases s buf with he | ⟨r, -, he⟩ <;> rw [he]
  · simpa [acceptedBy] using hm
  · refine Preserves.trans hm.2 (writeBytes_inv (h.keeps hk) r buf ?_)
    rw [hk.snd]
    exact hroom

lemma tcpWrite_inv (h : ConnAt own iss data fin u x s) (buf : List UInt8) (expired : Bool) :
    Preserves own iss (data ++ acceptedBy buf (tcpWrite s buf expired).2) s (tcpWrite s buf expired).1 := by
  rcases tcpWrite_cases s buf expired with ⟨er, o, he, ho⟩ | ⟨hc, -, hroom, he⟩ <;> rw [he]
  · have hnone : acceptedBy buf o = [] := by
      cases o with
      | done n => rw [ho n rfl]; rfl
      | _ => rfl
    rw [hnone, List.append_nil]
    exact (h.quiet _ _ _ _ _).same rfl
  · -- the FIN is queued only after the sending side was closed
    obtain rfl : fin = false := h.unfinished hc
    exact writeOnRoute_inv h buf hroom

end Netfast.Tcp
