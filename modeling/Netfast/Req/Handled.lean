import Netfast.Req.Frame
import Netfast.Tcp.SendRun

/-! Everything one run of a handler can do, and everything one step of the system can do. -/

namespace Netfast.Req

open Tcp Udp

variable {n : ℕ} {s s' s₁ s₂ : Sys n} {r x : ReqId} {i : SockId} {w : Fin n} {a : Answers n}

def Op.isClose : Op → Bool
  | .close => true
  | _ => false

def Unsettled (t : TcpSock) : Prop := t.error = none ∧ (t.core.state = .synSent ∨ t.core.state = .synReceived)

variable {p : Proto} (t : TcpSock)

lemma connectRetry_reply (ex : Bool) :
    (∃ ret, (connectRetry (n := n) t ex).2 = .notify ret) ∨
      ((connectRetry (n := n) t ex).2 = .pending ∧ ex = false ∧ Unsettled t) := by
  rw [connectRetry]
  cases he : t.error with
  | some e => exact .inl ⟨_, rfl⟩
  | none =>
    cases hst : t.core.state with
    | synSent =>
      cases ex with
      | true => exact .inl ⟨_, rfl⟩
      | false => exact .inr ⟨rfl, rfl, he, .inl hst⟩
    | synReceived =>
      cases ex with
      | true => exact .inl ⟨_, rfl⟩
      | false => exact .inr ⟨rfl, rfl, he, .inr hst⟩
    | _ => exact .inl ⟨_, rfl⟩

lemma connectSend_reply (ex : Bool) (a : Answers n) :
    (∃ ret, (connectSend t ex a).2 = .notify ret) ∨ (∃ st e, (connectSend t ex a).2 = .waitUntil st e) ∨
      (∃ st, (connectSend t ex a).2 = .wait st) ∨
      ((connectSend t ex a).2 = .pending ∧ a.looped = some .synReceived) := by
  rw [connectSend]
  rcases hc : connectSyn t with ⟨t₁, _ | e⟩
  · dsimp only
    split
    · next hne =>
      rcases connectRetry_reply (n := n) { t₁ with core.state := a.looped.getD t₁.core.state } ex with h | ⟨h, -, -, hu⟩
      · exact .inl h
      · refine .inr (.inr (.inr ⟨h, ?_⟩))
        have hr := hu.resolve_left hne
        cases hl : a.looped with
        | some st =>
          rw [hl] at hr
          exact congrArg some hr
        | none =>
          -- a SYN that did not come back leaves the socket in SYN_SENT
          exfalso
          have hst : t₁.core.state = .synSent := connectSyn_state hc
          rw [hl] at hne
          exact hne hst
    · split
      · exact .inl ⟨_, rfl⟩
      · split
        · exact .inr (.inl ⟨_, _, rfl⟩)
        · exact .inr (.inr (.inl ⟨_, rfl⟩))
  · exact .inl ⟨_, rfl⟩

def Addressed (q : Req n) : Proto → Prop
  | .tcp _ _ => (∃ b, q.op = .connect b) ∧ q.status ≠ .waitingConnect
  | .udp _ => (∃ b, q.op = .connect b) ∨ (∃ b, q.op = .sendto b) ∨ ∃ b, q.op = .write b

def Stalls (q : Req n) (a : Answers n) : Proto → Prop
  | .tcp t _ => (∃ b, q.op = .connect b) ∧
    ((q.status = .waitingConnect ∧ expired q a.io.now = false ∧ Unsettled t) ∨ a.looped = some .synReceived)
  | .udp _ => False

def Replies (q : Req n) (w : Fin n) (a : Answers n) (p : Proto) : Reply n → Prop
  | .notify _ => True
  | .wait _ => q.op.isClose = false
  | .waitUntil st _ => q.op.isClose = true → st = .waitingClose
  | .move dst => dst = a.target ∧ dst ≠ w ∧ Addressed q p
  | .pending => Stalls q a p

variable {q : Req n}

lemma replies_reply {α : Type} (st : Status) (f : α → Result) (out : Outcome α)
    (hc : q.op.isClose = false) : Replies q w a p (reply st f out) := by
  rcases out with _ | _ | (_ | t)
  · trivial
  · trivial
  · exact hc
  · intro h
    rw [hc] at h
    cases h

lemma tcpConnect_reply {t : TcpSock} {l : List TcpSock} {b b' : Option Errno} (hq : q.op = .connect b') :
    Replies q w a (.tcp t l)
      (tcpConnect (t.withInputs a.io) b (q.status = .waitingConnect) (expired q a.io.now) w a).2 := by
  have hc : q.op.isClose = false := by rw [hq]; rfl
  rw [tcpConnect.eq_def]
  by_cases hst : q.status = .waitingConnect
  · rw [if_pos (decide_eq_true hst)]
    rcases connectRetry_reply (n := n) (t.withInputs a.io) (expired q a.io.now) with ⟨ret, h⟩ | ⟨h, hx, hu⟩
    · rw [h]
      trivial
    · rw [h]
      exact ⟨⟨_, hq⟩, .inl ⟨hst, hx, hu⟩⟩
  · rw [if_neg (by simpa using hst)]
    split
    · trivial
    split
    · trivial
    split
    · trivial
    split
    · trivial
    split
    · trivial
    split
    · trivial
    dsimp only
    split
    · next hne => exact ⟨rfl, hne, ⟨_, hq⟩, hst⟩
    split
    · trivial
    rcases connectSend_reply (n := n) _ (expired q a.io.now) a with ⟨ret, h⟩ | ⟨st, e, h⟩ | ⟨st, h⟩ | ⟨h, hl⟩
    · rw [h]
      trivial
    · rw [h]
      intro hcl
      rw [hc] at hcl
      cases hcl
    · rw [h]
      exact hc
    · rw [h]
      exact ⟨⟨_, hq⟩, .inr hl⟩

lemma tcpAccept_reply (l : List TcpSock) (ex free : Bool) (hq : q.op = .accept) :
    Replies q w a p (tcpAccept t l ex free a).2.1 := by
  have hc : q.op.isClose = false := by rw [hq]; rfl
  rw [tcpAccept.eq_def]
  split
  · trivial
  split
  · split
    · trivial
    split
    · intro h
      rw [hc] at h
      cases h
    · exact hc
  · split <;> trivial

lemma closeFd_reply (f : Unit → Result) : Replies q w a p (reply .waitingClose f (closeFd t).2) := by
  have h : (closeFd t).2 ≠ .wait none := by
    rw [closeFd, tcpRelease]
    dsimp only
    split
    · simp
    · split
      · split <;> simp
      · simp
  rcases hc : (closeFd t).2 with _ | _ | (_ | e)
  · trivial
  · trivial
  · exact absurd hc h
  · exact fun _ => rfl

lemma tcpServe_reply (q : Req n) (t : TcpSock) (l : List TcpSock) (free : Bool) :
    Replies q w a (.tcp t l) (tcpServe q w (expired q a.io.now) free a (t.withInputs a.io) l).2.1 := by
  rw [tcpServe]
  cases hq : q.op with
  | connect b => exact tcpConnect_reply hq
  | accept => exact tcpAccept_reply _ _ _ _ hq
  | write buf =>
    dsimp only
    split
    · trivial
    split
    · trivial
    · exact replies_reply _ _ _ (by rw [hq]; rfl)
  | read len =>
    dsimp only
    split
    · trivial
    · exact replies_reply _ _ _ (by rw [hq]; rfl)
  | shutdown how => exact replies_reply _ _ _ (by rw [hq]; rfl)
  | close => exact closeFd_reply _ _
  | _ => trivial

lemma tcpServe_child {ex free : Bool} {t child : TcpSock} {l : List TcpSock}
    (h : (tcpServe q w ex free a t l).2.2 = some child) : free = true ∧ q.op.isClose = false := by
  rw [tcpServe] at h
  cases hq : q.op with
  | accept =>
    rw [hq] at h
    refine ⟨?_, rfl⟩
    dsimp only [tcpAccept] at h
    split at h
    · cases h
    split at h
    · split at h
      · cases h
      split at h <;> cases h
    · split at h
      · cases h
      · next hf => simpa using hf
  | write buf =>
    rw [hq] at h
    dsimp only at h
    split at h
    · cases h
    split at h <;> cases h
  | read len =>
    rw [hq] at h
    dsimp only at h
    split at h <;> cases h
  | _ =>
    rw [hq] at h
    cases h

lemma udpSettled_reply {u : UdpSock} (hq : Addressed q (.udp u)) : Replies q w a (.udp u) (udpSettled w a) := by
  rw [udpSettled]
  split
  · trivial
  split
  · next h => exact ⟨rfl, h, hq⟩
  · trivial

lemma udpServe_reply (q : Req n) (u : UdpSock) (ex : Bool) : Replies q w a (.udp u) (udpServe q w ex a u).2 := by
  rw [udpServe]
  cases hq : q.op with
  | connect b =>
    cases b with
    | none => exact udpSettled_reply (.inl ⟨_, hq⟩)
    | some e => trivial
  | sendto b =>
    dsimp only
    split
    · trivial
    split
    · trivial
    · exact udpSettled_reply (.inr (.inl ⟨_, hq⟩))
  | write b =>
    dsimp only
    split
    · trivial
    split
    · trivial
    · exact udpSettled_reply (.inr (.inr ⟨_, hq⟩))
  | read len =>
    dsimp only
    split
    · trivial
    · exact replies_reply _ _ _ (by rw [hq]; rfl)
  | recvfrom len flags =>
    dsimp only
    split
    · trivial
    · exact replies_reply _ _ _ (by rw [hq]; rfl)
  | setsockopt o => cases o <;> trivial
  | _ => trivial

lemma setReq_setReq (f g : Req n → Req n) : (s.setReq r f).setReq r g = s.setReq r (g ∘ f) := by
  simp [Function.update_idem]

lemma detach_setReq (f : Req n → Req n) (he : (f (s.reqs r)).entry = (s.reqs r).entry) :
    detach (s.setReq r f) r = (detach s r).setReq r f := by
  simp only [detach, Function.update_self, he]
  split <;> rfl

lemma reqNotify_setReq (f : Req n → Req n) (ret : Result) (hd : (s.reqs r).done = false)
    (he : (f (s.reqs r)).entry = (s.reqs r).entry) (hfd : (f (s.reqs r)).done = (s.reqs r).done)
    (hfin : (f (s.reqs r)).finish ret = (s.reqs r).finish ret) :
    reqNotify (s.setReq r f) r ret = reqNotify s r ret := by
  have hset : (detach s r).setReq r ((·.finish ret) ∘ f) = (detach s r).setReq r (·.finish ret) := by
    simp [Sys.setReq, hfin]
  rw [reqNotify, reqNotify, if_neg (by simp [hfd, hd]), if_neg (by simp [hd]), detach_setReq f he, setReq_setReq,
    hset]

def OtherWaiter (s : Sys n) (r x : ReqId) : Prop := x ≠ r ∧ ∃ i, x ∈ (s.socks i).pending

inductive Prepared (s : Sys n) (r : ReqId) : Sys n → Prop
  | plain {s₁ : Sys n} (h : Eases (OtherWaiter s r) s s₁) : Prepared s r s₁
  | placed {s₁ : Sys n} (h : Eases (OtherWaiter s r) s s₁) (slot : SockId) (p : Proto) (dst : Fin n)
    (hs : (s₁.socks slot).entryWorker = none) : Prepared s r (place s₁ slot p dst)

lemma Eases.self (h : Eases (OtherWaiter s r) s s₁) : s₁.reqs r = s.reqs r := by
  rcases h.each r with h | h
  · exact h.1
  · exact absurd rfl h.1.1

lemma Prepared.self (h : Prepared s r s₁) : s₁.reqs r = s.reqs r := by
  cases h with
  | plain h => exact h.self
  | placed h slot p dst hs => exact h.self

lemma Prepared.moving (h : Prepared s r s₁) : s₁.moving = s.moving := by
  cases h with
  | plain h => exact h.moving
  | placed h slot p dst hs => exact h.moving

lemma Prepared.entryWorker (h : Prepared s r s₁) (hi : (s.socks i).entryWorker = some w) :
    (s₁.socks i).entryWorker = some w := by
  cases h with
  | plain h => rw [h.entryWorker, hi]
  | placed h slot p dst hs =>
    have hne : i ≠ slot := by
      rintro rfl
      rw [h.entryWorker, hi] at hs
      cases hs
    simpa [place, hne, h.entryWorker] using hi

def arm (s : Sys n) (i : SockId) (r : ReqId) (status : Status) (t : Task n) : Sys n :=
  attach (s.setReq r fun q => { q with status, timeoutTask := some t }) i r

inductive Handled (s : Sys n) (w : Fin n) (r : ReqId) (a : Answers n) : Sys n → Prop
  | finished {s₁ s' : Sys n} (hp : Prepared s r s₁) (h : Eases (· = r) s₁ s')
    (hd : (s'.reqs r).done = true) : Handled s w r a s'
  | spent {s₁ : Sys n} (hp : Prepared s r s₁) (hd : (s.reqs r).done = true) (st : Status) (t : Option (Task n))
    (hst : (s.reqs r).op.isClose = true → st = .waitingClose) :
    Handled s w r a (s₁.setReq r fun q => { q with status := st, timeoutTask := t })
  | handed {i : SockId} {dst : Fin n} (hc : (s.reqs r).asyncCancel = false) (he : (s.reqs r).entry = some i)
    (hw : (s.socks i).entryWorker = some dst) (hne : dst ≠ w) : Handled s w r a (beginMove s w r dst)
  | rehomed {s₁ : Sys n} {i : SockId} (hp : Prepared s r s₁) (hc : (s.reqs r).asyncCancel = false)
    (he : (s.reqs r).entry = some i) (hw : (s.socks i).entryWorker = some w)
    (hfd : (s₁.socks i).fdEntry = true) (hq : Addressed (s.reqs r) (s.socks i).proto) (hne : a.target ≠ w) :
    Handled s w r a (beginMove (s₁.setSock i (setSocketWorker · a.target)) w r a.target)
  | waits {s₁ : Sys n} {i : SockId} {st : Status} (hp : Prepared s r s₁) (hc : (s.reqs r).asyncCancel = false)
    (he : (s.reqs r).entry = some i) (hw : (s.socks i).entryWorker = some w)
    (hcl : (s.reqs r).op.isClose = false) : Handled s w r a (wait s₁ i r st)
  | armed {s₁ : Sys n} {i : SockId} {st : Status} {e : ℕ} {dst : Fin n} (hp : Prepared s r s₁)
    (hc : (s.reqs r).asyncCancel = false) (he : (s.reqs r).entry = some i)
    (hw : (s.socks i).entryWorker = some w) (hdst : (s.reqs r).worker = some dst)
    (hcl : (s.reqs r).op.isClose = true → st = .waitingClose ∧ (s₁.socks i).fdEntry = false) :
    Handled s w r a (arm s₁ i r st ⟨e, dst, true⟩)
  | early (hc : (s.reqs r).asyncCancel = false) (hcl : (s.reqs r).op.isClose = true)
    (hst : (s.reqs r).status = .waitingClose) (hx : expired (s.reqs r) a.io.now = false) : Handled s w r a s
  | stalled {s₁ : Sys n} {i : SockId} (hp : Prepared s r s₁) (hc : (s.reqs r).asyncCancel = false)
    (he : (s.reqs r).entry = some i) (hw : (s.socks i).entryWorker = some w)
    (hq : Stalls (s.reqs r) a (s.socks i).proto) : Handled s w r a s₁

lemma Handled.notify (hp : Prepared s r s₁) (ret : Result) : Handled s w r a (reqNotify s₁ r ret) :=
  .finished hp (reqNotify_eases (P := (· = r)) rfl ret) (reqNotify_done s₁ r ret)

lemma waitUntil_handled {st : Status} {e : ℕ} {alloc : Bool} (hp : Prepared s r s₁)
    (hc : (s.reqs r).asyncCancel = false) (he : (s.reqs r).entry = some i)
    (hw : (s.socks i).entryWorker = some w)
    (hcl : (s.reqs r).op.isClose = true → st = .waitingClose ∧ (s₁.socks i).fdEntry = false) :
    Handled s w r a (waitUntil s₁ i r st e alloc) := by
  -- without a task or a worker the request fails, unless it was done before
  have hfail (t : Option (Task n)) (ret : Result) :
      Handled s w r a (reqNotify (s₁.setReq r fun q => { q with status := st, timeoutTask := t }) r ret) := by
    cases hd : (s.reqs r).done with
    | false =>
      rw [← hp.self] at hd
      rw [reqNotify_setReq _ ret hd rfl rfl rfl]
      exact .notify hp ret
    | true =>
      rw [reqNotify, if_pos (by simp [hp.self, hd])]
      exact .spent hp hd st t fun h => (hcl h).1
  rw [waitUntil]
  dsimp only
  split
  · have hset : (s₁.setReq r fun q => { q with status := st }) =
        s₁.setReq r fun q => { q with status := st, timeoutTask := (s₁.reqs r).timeoutTask } := by
      simp [Sys.setReq]
    rw [hset]
    exact hfail _ _
  simp only [Function.update_self]
  cases hdst : (s₁.reqs r).worker with
  | none =>
    rw [setReq_setReq]
    exact hfail none _
  | some dst =>
    dsimp only
    rw [setReq_setReq]
    change Handled s w r a (arm s₁ i r st ⟨e, dst, true⟩)
    exact .armed hp hc he hw (hp.self ▸ hdst) hcl

lemma Addressed.not_close (h : Addressed q p) : q.op.isClose = false := by
  cases p with
  | tcp t l =>
    obtain ⟨⟨b, h⟩, -⟩ := h
    rw [h]
    rfl
  | udp u => rcases h with ⟨b, h⟩ | ⟨b, h⟩ | ⟨b, h⟩ <;> rw [h] <;> rfl

lemma Stalls.not_close (h : Stalls q a p) : q.op.isClose = false := by
  cases p with
  | tcp t l =>
    obtain ⟨⟨b, h⟩, -⟩ := h
    rw [h]
    rfl
  | udp u => exact h.elim

lemma answer_handled {alloc : Bool} {rep : Reply n} (hp : Prepared s r s₁) (hc : (s.reqs r).asyncCancel = false)
    (he : (s.reqs r).entry = some i) (hw : (s.socks i).entryWorker = some w)
    (hr : Replies (s.reqs r) w a (s.socks i).proto rep) (hfd : (s₁.socks i).fdEntry = !(s.reqs r).op.isClose) :
    Handled s w r a (answer s₁ w r i alloc rep) := by
  cases rep with
  | notify ret => exact .notify hp ret
  | wait st => exact .waits hp hc he hw hr
  | waitUntil st e => exact waitUntil_handled hp hc he hw fun h => ⟨hr h, by rw [hfd, h]; rfl⟩
  | move dst =>
    obtain ⟨rfl, hne, hq⟩ := hr
    exact .rehomed hp hc he hw (by rw [hfd, hq.not_close]; rfl) hq hne
  | pending => exact .stalled hp hc he hw hr

lemma lingersOn_other (h : r ∉ (s.socks i).pending ∨ (s.reqs r).op.isClose = false) (hx : LingersOn s i x) :
    OtherWaiter s r x := by
  refine ⟨?_, i, hx.1⟩
  rintro rfl
  rcases h with h | h
  · exact h hx.1
  · have hl := hx.2
    rw [lingers] at hl
    cases hop : (s.reqs x).op <;> simp [hop, Op.isClose] at h hl

lemma serve_handled {s₀ : Sys n} (h₀ : Eases (OtherWaiter s r) s s₀) (hc : (s.reqs r).asyncCancel = false)
    (he : (s.reqs r).entry = some i) (hw : (s.socks i).entryWorker = some w)
    (hproto : (s₀.socks i).proto = (s.socks i).proto)
    (hr : r ∉ (s₀.socks i).pending ∨ (s.reqs r).op.isClose = false)
    (hfd : (s₀.socks i).fdEntry = !(s.reqs r).op.isClose) : Handled s w r a (serve s₀ w r i a) := by
  have hlo {x} (hx : LingersOn s₀ i x) : OtherWaiter s r x := by
    have ho := lingersOn_other (hr.imp_right fun h => h₀.self ▸ h) hx
    exact ⟨ho.1, i, (h₀.sub i).subset hx.1⟩
  rw [serve, hproto]
  cases hp : (s.socks i).proto with
  | tcp t l =>
    dsimp only
    rw [h₀.self]
    have hrep := tcpServe_reply (w := w) (a := a) (s.reqs r) t l (freeSlot s₀ a)
    rw [← hp] at hrep
    generalize hout : tcpServe (s.reqs r) w (expired (s.reqs r) a.io.now) (freeSlot s₀ a) a (t.withInputs a.io) l =
      out at hrep ⊢
    have hset : Eases (OtherWaiter s r) s₀ (settleTcp s₀ i out.1.1 out.1.2 a.alloc) :=
      (settle_eases ..).mono fun _ => hlo
    have hfd' : ((settleTcp s₀ i out.1.1 out.1.2 a.alloc).socks i).fdEntry = !(s.reqs r).op.isClose :=
      (settle_fdEntry ..).trans hfd
    cases hch : out.2.2 with
    | none => exact answer_handled (.plain (h₀.trans hset)) hc he hw hrep hfd'
    | some child =>
      obtain ⟨hfree, -⟩ := tcpServe_child ((congrArg (·.2.2) hout).trans hch)
      have hslot : (s₀.socks a.slot).entryWorker = none := by
        rw [freeSlot, Bool.and_eq_true] at hfree
        simpa using hfree.2
      -- the new socket is another one
      have hne : i ≠ a.slot := by
        rintro rfl
        rw [h₀.entryWorker, hw] at hslot
        cases hslot
      refine answer_handled (.placed (h₀.trans hset) a.slot _ _ ?_) hc he hw hrep ?_
      · rw [hset.entryWorker, hslot]
      · simpa [place, hne] using hfd'
  | udp u =>
    dsimp only
    rw [h₀.self]
    have hrep := udpServe_reply (w := w) (a := a) (s.reqs r) u (expired (s.reqs r) a.io.now)
    rw [← hp] at hrep
    generalize udpServe (s.reqs r) w (expired (s.reqs r) a.io.now) a u = out at hrep ⊢
    have hset : Eases (OtherWaiter s r) s₀ (settle s₀ i (.udp out.1) [] out.1.freed a.alloc) :=
      (settle_eases ..).mono fun _ => hlo
    exact answer_handled (.plain (h₀.trans hset)) hc he hw hrep ((settle_fdEntry ..).trans hfd)

def FreshClose (s : Sys n) (r : ReqId) : Prop :=
  (s.reqs r).op.isClose = true → (s.reqs r).status ≠ .waitingClose → ∀ i, r ∉ (s.socks i).pending

lemma closeReq_handled (hr : FreshClose s r) (hop : (s.reqs r).op.isClose = true)
    (he : (s.reqs r).entry = some i) (hw : (s.socks i).entryWorker = some w)
    (hc : (s.reqs r).asyncCancel = false) : Handled s w r a (closeReq s w r i a) := by
  have h₀ : Prepared s r s := .plain (.refl s)
  rw [closeReq]
  split
  · next hst =>
    split
    · exact .notify h₀ _
    · next hx => exact .early hc hop hst (by simpa using hx)
  next hst =>
  split
  · exact .notify h₀ _
  have hwait := hr hop hst
  refine serve_handled (detachFdEntry_eases fun x hx => ⟨?_, i, hx⟩) hc he hw (detachFdEntry_proto s i)
    (.inl (detachFdEntry_pending s i (hwait i))) ?_
  · rintro rfl
    exact hwait i hx
  · rw [detachFdEntry_fdEntry, hop]
    rfl

lemma handle_handled (hr : FreshClose s r) (he : (s.reqs r).entry = some i)
    (hw : (s.socks i).entryWorker = some w) (hc : (s.reqs r).asyncCancel = false) :
    Handled s w r a (handle s w r i a) := by
  have h₀ : Prepared s r s := .plain (.refl s)
  rw [handle]
  split
  · next hop => exact closeReq_handled hr (by rw [hop]; rfl) he hw hc
  next hop =>
  have hncl : (s.reqs r).op.isClose = false := by
    cases h : (s.reqs r).op <;> first | rfl | exact absurd h hop
  split
  · exact .notify h₀ _
  next hfd =>
  exact serve_handled (.refl s) hc he hw rfl (.inr hncl) (by simpa [hncl] using hfd)

theorem processRequest_handled (hr : FreshClose s r) : Handled s w r a (processRequest s w r a) := by
  have h₀ : Prepared s r s := .plain (.refl s)
  rw [processRequest]
  split
  · exact .notify h₀ _
  next hc =>
  split
  · next he =>
    split
    · split
      · next hfree =>
        rw [freeSlot, Bool.and_eq_true] at hfree
        exact .notify (.placed (.refl s) a.slot _ w (by simpa using hfree.2)) _
      · exact .notify h₀ _
    · exact .notify h₀ _
  next i he =>
  split
  · exact .notify h₀ _
  next dst hw =>
  split
  · next hne => exact .handed (by simpa using hc) he hw hne
  next heq =>
  obtain rfl : dst = w := not_not.1 heq
  exact handle_handled hr he hw (by simpa using hc)

end Netfast.Req
