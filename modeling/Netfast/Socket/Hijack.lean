import Netfast.Socket.Bind

/-! Who may bind where: sockets of one protocol and family, their reuse options and their reservations. -/

namespace Netfast.Socket

open Run

structure BindOptions where
  reuseaddr : Bool := false
  reuseport : Bool := false

def BindOptions.reuse (o : BindOptions) : Bool := o.reuseaddr || o.reuseport

structure Holder where
  sock : SockId
  key : AddrKey
  reuse : Bool
deriving DecidableEq

structure BindSys where
  table : BindTable
  options : SockId → BindOptions
  holders : List Holder

def BindSys.holds (s : BindSys) (i : SockId) : Bool := s.holders.any fun h => h.sock = i

def BindSys.keep (s : BindSys) (i : SockId) (reuse : Bool) : BindTable × Option AddrKey → BindSys
  | (t, none) => { s with table := t }
  | (t, some r) => { s with table := t, holders := { sock := i, key := r, reuse } :: s.holders }

def reserveFor (s : BindSys) (i : SockId) (key : AddrKey) (reuse alloc : Bool) : BindSys :=
  if s.holds i then s else s.keep i reuse (bindReserve s.table key reuse alloc)

def bindSaddr (s : BindSys) (i : SockId) (key : AddrKey) (alloc : Bool) : BindSys :=
  reserveFor s i key (s.options i).reuse alloc

def ephemeralPorts (first : ℕ) : List Port :=
  (List.range 64512).map fun i => BitVec.ofNat 16 (1024 + (first + i) % 64512)

structure AutoBind where
  addr : BindAddr
  scopeId : BitVec 32
  hasLocal : Bool
  first : ℕ
  here : Port → Bool
  alloc : Port → Bool

def AutoBind.key (a : AutoBind) (p : Port) : AddrKey := { addr := a.addr, port := p, scopeId := a.scopeId }

def AutoBind.admits (a : AutoBind) (p : Port) : Bool := a.hasLocal || a.here p

def AutoBind.reuse (a : AutoBind) (o : BindOptions) : Bool := !a.hasLocal && o.reuse

def autoBindPorts (t : BindTable) (key : Port → AddrKey) (here : Port → Bool) (reuse : Bool) (alloc : Port → Bool) :
    List Port → BindTable × Option (AddrKey × AddrKey)
  | [] => (t, none)
  | p :: ps =>
    if !here p then autoBindPorts t key here reuse alloc ps
    else
      match bindReserve t (key p) reuse (alloc p) with
      | (t, none) => autoBindPorts t key here reuse alloc ps
      | (t, some slot) => (t, some (key p, slot))

def socketAutoBind (s : BindSys) (i : SockId) (a : AutoBind) : BindSys :=
  if s.holds i then s
  else
    s.keep i (a.reuse (s.options i)) (Prod.map id (Option.map Prod.snd)
      (autoBindPorts s.table a.key a.admits (a.reuse (s.options i)) a.alloc (ephemeralPorts a.first)))

def unbindSaddr (s : BindSys) (i : SockId) : BindSys :=
  match s.holders.find? fun h => h.sock = i with
  | none => s
  | some h => { s with table := bindRelease s.table h.key, holders := s.holders.erase h }

inductive SysEvent
  | setopt (i : SockId) (o : BindOptions)
  | bind (i : SockId) (key : AddrKey) (alloc : Bool)
  | autoBind (i : SockId) (a : AutoBind)
  | unbind (i : SockId)

def sysStep (s : BindSys) : SysEvent → BindSys
  | .setopt i o => { s with options := Function.update s.options i o }
  | .bind i key alloc => bindSaddr s i key alloc
  | .autoBind i a => socketAutoBind s i a
  | .unbind i => unbindSaddr s i

/-! Every operation is a sequence of single calls of `bind_reserve`. -/

inductive Call
  | setopt (i : SockId) (o : BindOptions)
  | reserve (i : SockId) (key : AddrKey) (strict alloc : Bool)
  | unbind (i : SockId)

def callStep (s : BindSys) : Call → BindSys
  | .setopt i o => { s with options := Function.update s.options i o }
  | .reserve i key strict alloc => reserveFor s i key (!strict && (s.options i).reuse) alloc
  | .unbind i => unbindSaddr s i

def SysEvent.calls : SysEvent → List Call
  | .setopt i o => [.setopt i o]
  | .bind i key alloc => [.reserve i key false alloc]
  | .autoBind i a =>
    ((ephemeralPorts a.first).filter a.admits).map fun p => .reserve i (a.key p) a.hasLocal (a.alloc p)
  | .unbind i => [.unbind i]

lemma keep_holds (s : BindSys) (i : SockId) (reuse : Bool) (t : BindTable) (r : AddrKey) :
    (s.keep i reuse (t, some r)).holds i = true := by
  simp [BindSys.keep, BindSys.holds]

variable {s : BindSys} {i : SockId}

lemma reserve_bound (h : s.holds i = true) {cs : List Call}
    (hcs : ∀ c ∈ cs, ∃ key strict alloc, c = .reserve i key strict alloc) : run callStep s cs = s := by
  induction cs with
  | nil => rfl
  | cons c cs ih =>
    obtain ⟨key, strict, alloc, rfl⟩ := hcs c List.mem_cons_self
    have hstep : callStep s (.reserve i key strict alloc) = s := by rw [callStep, reserveFor, if_pos h]
    rw [run, List.foldl_cons, hstep]
    exact ih fun c hc => hcs c (List.mem_cons_of_mem _ hc)

lemma autoBindPorts_calls (s : BindSys) (i : SockId) (a : AutoBind) (ps : List Port) (h : s.holds i = false) :
    s.keep i (a.reuse (s.options i)) (Prod.map id (Option.map Prod.snd)
        (autoBindPorts s.table a.key a.admits (a.reuse (s.options i)) a.alloc ps)) =
      run callStep s ((ps.filter a.admits).map fun p => .reserve i (a.key p) a.hasLocal (a.alloc p)) := by
  induction ps generalizing s with
  | nil => rfl
  | cons p ps ih =>
    rw [autoBindPorts]
    cases hp : a.admits p with
    | false =>
      rw [if_pos (by simp), List.filter_cons_of_neg (by simp [hp])]
      exact ih s h
    | true =>
      rw [if_neg (by simp), List.filter_cons_of_pos hp, List.map_cons, run, List.foldl_cons, callStep,
        reserveFor, if_neg (by simp [h]), AutoBind.reuse]
      split
      · next t hres =>
        rw [hres]
        exact ih { s with table := t } h
      · next t r hres =>
        rw [hres]
        refine (reserve_bound (keep_holds s i _ t r) fun c hc => ?_).symm
        obtain ⟨q, -, rfl⟩ := List.mem_map.mp hc
        exact ⟨_, _, _, rfl⟩

lemma sysStep_calls (s : BindSys) (e : SysEvent) : sysStep s e = run callStep s e.calls := by
  cases e with
  | setopt i o => rfl
  | bind i key alloc => rfl
  | unbind i => rfl
  | autoBind i a =>
    rw [sysStep, socketAutoBind, SysEvent.calls]
    cases h : s.holds i with
    | false =>
      rw [if_neg (by simp)]
      exact autoBindPorts_calls s i a _ h
    | true =>
      rw [if_pos rfl]
      refine (reserve_bound h fun c hc => ?_).symm
      obtain ⟨q, -, rfl⟩ := List.mem_map.mp hc
      exact ⟨_, _, _, rfl⟩

lemma run_calls (s : BindSys) (es : List SysEvent) :
    run sysStep s es = run callStep s (es.flatMap SysEvent.calls) := by
  induction es generalizing s with
  | nil => rfl
  | cons e es ih =>
    rw [List.flatMap_cons, run, run, List.foldl_append, List.foldl_cons, sysStep_calls]
    exact ih _

def BindAddr.sameFamily : BindAddr → BindAddr → Bool
  | .v4 _, .v4 _ => true
  | .v6 _, .v6 _ => true
  | _, _ => false

def Conflict (a b : AddrKey) : Prop :=
  a.port = b.port ∧ a.addr.sameFamily b.addr ∧ (a.addr = b.addr ∨ bindKeyIsAny a ∨ bindKeyIsAny b)

lemma bindReserve_strict {t : BindTable} {live : List AddrKey} (h : Accounts t live) (hfew : FewLive live)
    {key r : AddrKey} {alloc : Bool} (hr : (bindReserve t key false alloc).2 = some r) :
    ∀ k ∈ live, k.port = key.port → bindKeyIsAny key = false ∧ bindKeyIsAny k = false ∧ k.canon ≠ key.canon := by
  have hsum := liveAny_add_liveSpecific live key.port
  have hlt := hfew key.port
  have hfree : portTaken t key = false := by
    by_contra ht
    rw [bindReserve, bindPortReserve] at hr
    simp [Bool.not_eq_false _ ▸ ht] at hr
  have hnokey : liveKey live key = 0 := by
    rw [bindReserve] at hr
    split at hr
    · cases hr
    next t' hres =>
    obtain rfl := bindPortReserve_eq hres
    rw [← h.counts, BindTable.slotCount]
    split at hr
    · next slot hslot =>
      rw [show bindFind t key = some slot from hslot]
      split at hr
      · cases hr
      · next hc => simpa using hc
    · next hnone =>
      rw [show bindFind t key = none from hnone]
      rfl
  rw [portTaken, h.ports, portWord] at hfree
  intro k hk hport
  have hcanon : k.canon ≠ key.canon := by
    intro he
    have hpos : 0 < liveKey live key := List.countP_pos_iff.mpr ⟨k, hk, (bindKeyEqual_iff _ _).mpr he⟩
    omega
  have hon : 0 < liveOn live key.port := List.countP_pos_iff.mpr ⟨k, hk, by simpa using hport⟩
  cases hkey : bindKeyIsAny key with
  | true =>
    rw [hkey, if_pos rfl] at hfree
    simp only [bne_eq_false_iff_eq] at hfree
    omega
  | false =>
    rw [hkey, if_neg (by simp)] at hfree
    refine ⟨rfl, ?_, hcanon⟩
    by_contra hany
    have hpos : 0 < liveAny live key.port :=
      List.countP_pos_iff.mpr ⟨k, hk, by simpa [hport] using hany⟩
    simp only [bne_eq_false_iff_eq] at hfree
    omega

lemma Conflict.symm {a b : AddrKey} (h : Conflict a b) : Conflict b a := by
  obtain ⟨hp, hf, ha⟩ := h
  refine ⟨hp.symm, ?_, ?_⟩
  · cases hx : a.addr <;> cases hy : b.addr <;> simp_all [BindAddr.sameFamily]
  · rcases ha with ha | ha | ha
    · exact .inl ha.symm
    · exact .inr (.inr ha)
    · exact .inr (.inl ha)

lemma conflict_congr {a b c : AddrKey} (h : a.canon = b.canon) : Conflict a c ↔ Conflict b c := by
  have haddr : a.addr = b.addr := by rw [← canon_addr a, h, canon_addr]
  rw [Conflict, Conflict, port_congr h, isAny_congr h, haddr]

section Users

variable (isChild : SockId → Bool)

/-- Conflicting reservations of two sockets, none of them made by a listener for a connection, were both
made with reuse. -/
def NoHijack (s : BindSys) : Prop :=
  ∀ h ∈ s.holders, ∀ h' ∈ s.holders, h.sock ≠ h'.sock → isChild h.sock = false → isChild h'.sock = false →
    Conflict h.key h'.key → h.reuse = true ∧ h'.reuse = true

/-- Whoever reserves with reuse meets only holders with reuse, whoever reserves without meets none that
has its address under another scope. -/
def Consents (s : BindSys) : Call → Prop
  | .reserve i key strict _ => s.holds i = false → isChild i = false → ∀ h ∈ s.holders, isChild h.sock = false →
      Conflict key h.key →
      if !strict && (s.options i).reuse then h.reuse = true else key.addr = h.key.addr → key.canon = h.key.canon
  | _ => True

def BindSys.live (s : BindSys) : List AddrKey := s.holders.map Holder.key

structure BindSysInv (s : BindSys) : Prop where
  accounts : Accounts s.table s.live
  few : FewLive s.live
  safe : NoHijack isChild s

variable {isChild}

lemma NoHijack.keep (h : NoHijack isChild s) {r : AddrKey} {reuse : Bool} (t : BindTable)
    (hnew : isChild i = false → ∀ h ∈ s.holders, isChild h.sock = false → Conflict r h.key →
      reuse = true ∧ h.reuse = true) : NoHijack isChild (s.keep i reuse (t, some r)) := by
  intro a ha b hb hab hca hcb hconf
  rcases List.mem_cons.mp ha with rfl | ha <;> rcases List.mem_cons.mp hb with rfl | hb
  · exact absurd rfl hab
  · exact hnew hca b hb hcb hconf
  · exact (hnew hcb a ha hca hconf.symm).symm
  · exact h a ha b hb hab hca hcb hconf

lemma reserveFor_inv (h : BindSysInv isChild s) {key : AddrKey} {strict alloc : Bool}
    (hok : Consents isChild s (.reserve i key strict alloc))
    (hfew : FewLive (callStep s (.reserve i key strict alloc)).live) :
    BindSysInv isChild (callStep s (.reserve i key strict alloc)) := by
  rw [callStep, reserveFor] at hfew ⊢
  cases hheld : s.holds i with
  | true => exact h
  | false =>
    rw [hheld, if_neg (by simp)] at hfew
    rw [if_neg (by simp)]
    have hok := hok hheld
    revert hok hfew
    generalize (!strict && (s.options i).reuse) = reuse
    intro hfew hok
    rcases bindReserve_spec h.accounts h.few key reuse alloc with hn | ⟨r, hr, hcanon, hacc⟩
    · rw [hn]
      exact h
    obtain ⟨t, hres⟩ : ∃ t, bindReserve s.table key reuse alloc = (t, some r) := ⟨_, Prod.ext rfl hr⟩
    rw [hres] at hfew hacc ⊢
    refine ⟨hacc hfew, hfew, h.safe.keep t fun hi b hb hcb hconf => ?_⟩
    have hconf := (conflict_congr hcanon).mp hconf
    have hb' := hok hi b hb hcb hconf
    cases reuse with
    | true => exact ⟨rfl, hb'⟩
    | false =>
      have hstrict := bindReserve_strict h.accounts h.few hr b.key (List.mem_map_of_mem hb) hconf.1.symm
      obtain ⟨hany, hbany, hne⟩ := hstrict
      rcases hconf.2.2 with ha | ha | ha
      · exact absurd (hb' ha).symm hne
      · simp [hany] at ha
      · simp [hbany] at ha

lemma unbindSaddr_inv (h : BindSysInv isChild s) (i : SockId) : BindSysInv isChild (unbindSaddr s i) := by
  rw [unbindSaddr]
  split
  · exact h
  next hd hfind =>
  have hperm : s.live.Perm (hd.key :: (s.holders.erase hd).map Holder.key) :=
    (List.perm_cons_erase (List.mem_of_find?_eq_some hfind)).map Holder.key
  have hfew : FewLive (hd.key :: (s.holders.erase hd).map Holder.key) := by
    intro p
    rw [liveOn, ← hperm.countP_eq]
    exact h.few p
  refine ⟨bindRelease_spec (h.accounts.perm hperm) hfew, fun p => ?_, fun a ha b hb => ?_⟩
  · refine lt_of_le_of_lt ?_ (hfew p)
    rw [liveOn, liveOn, List.countP_cons]
    exact Nat.le_add_right _ _
  · exact h.safe a (List.mem_of_mem_erase ha) b (List.mem_of_mem_erase hb)

lemma callStep_inv (s : BindSys) (c : Call) (h : BindSysInv isChild s)
    (hok : Consents isChild s c ∧ FewLive (callStep s c).live) : BindSysInv isChild (callStep s c) := by
  cases c with
  | setopt i o => exact ⟨h.accounts, h.few, h.safe⟩
  | reserve i key strict alloc => exact reserveFor_inv h hok.1 hok.2
  | unbind i => exact unbindSaddr_inv h i

def emptySys (options : SockId → BindOptions) : BindSys :=
  { table := emptyBinds.table, options, holders := [] }

/-- Over runs of bind, automatic bind, option changes and close in which every call of `bind_reserve` has
the consent of the holders it conflicts with. -/
theorem no_port_hijack (isChild : SockId → Bool) (options : SockId → BindOptions) (es : List SysEvent)
    (hes : Meets callStep (fun s c => Consents isChild s c ∧ FewLive (callStep s c).live) (emptySys options)
      (es.flatMap SysEvent.calls)) : NoHijack isChild (run sysStep (emptySys options) es) := by
  have hinit : BindSysInv isChild (emptySys options) :=
    ⟨bindInv_empty.1, bindInv_empty.2, fun a ha => (List.not_mem_nil ha).elim⟩
  rw [run_calls]
  exact (run_invariant callStep_inv hinit hes).safe

end Users

theorem no_port_hijack_consenting :
    NoHijack (fun _ => false) (run sysStep (emptySys fun _ => { reuseport := true })
      [.bind 0 httpAny true, .bind 1 httpAny true]) := by
  have hheld : (callStep (emptySys fun _ => { reuseport := true }) (.reserve 0 httpAny false true)).holders =
      [⟨0, httpAny, true⟩] := by decide
  refine no_port_hijack (fun _ => false) (fun _ => { reuseport := true }) [.bind 0 httpAny true, .bind 1 httpAny true]
    ⟨⟨fun _ _ h hh => (List.not_mem_nil hh).elim, fewLive_of_length (by decide)⟩,
      ⟨fun _ _ h hh _ _ => ?_, fewLive_of_length (by decide)⟩, trivial⟩
  rw [hheld] at hh
  rw [List.mem_singleton.mp hh]
  rfl

def hijackRun : List SysEvent := [.bind 0 httpAny true, .setopt 1 { reuseaddr := true }, .bind 1 httpAny true]

theorem port_hijacked : ¬ NoHijack (fun _ => false) (run sysStep (emptySys fun _ => {}) hijackRun) := by
  intro h
  have hheld : (run sysStep (emptySys fun _ => {}) hijackRun).holders =
      [{ sock := 1, key := httpAny, reuse := true }, { sock := 0, key := httpAny, reuse := false }] := by
    decide
  have := h ⟨1, httpAny, true⟩ (by simp [hheld]) ⟨0, httpAny, false⟩ (by simp [hheld]) (by simp) rfl rfl
    ⟨rfl, rfl, .inl rfl⟩
  exact absurd this.2 (by simp)

end Netfast.Socket
