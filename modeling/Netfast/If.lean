import Mathlib.Data.List.Perm.Basic
import Netfast.Route
import Netfast.Socket.Bind

/-! The addresses of an interface, and the one `if_search_best_saddr_by_daddr` takes as a source. -/

namespace Netfast.If

open Route Socket

class Family (A : Type) extends InetAddr A where
  isV6 : Bool
  bytes : A → List UInt8
  bind : A → BindAddr

instance : Family Ipv4 where
  isV6 := false
  bytes a := [24, 16, 8, 0].map fun s => UInt8.ofNat (a.toNat / 2 ^ s)
  bind := .v4

instance : Family Ipv6 where
  isV6 := true
  bytes a := a.toList
  bind := .v6

variable {A : Type} [Family A]

def ipOf (a : A) : Ip := Vector.ofFn fun k => (Family.bytes a).getD k.val 0

structure IfAddr (A : Type) [Family A] where
  addr : A
  prefixLen : ℕ
  scope : ℕ := 0
  primary : Bool := false

structure IfInfo (A : Type) [Family A] where
  addrs : List (IfAddr A)
  mtu : ℕ
  l2Len : ℕ
  specified : ∀ a ∈ addrs, a.addr ≠ InetAddr.any

def scopeHost : ℕ := 254
def scopeLink : ℕ := 253
def scopeGlobal : ℕ := 0

def ipToScope (a : A) : ℕ :=
  let b := Family.bytes a
  if Family.isV6 A then
    if b.getD 0 0 = 0xFE ∧ b.getD 1 0 &&& 0xC0 = 0x80 then scopeLink
    else if b = List.replicate 15 0 ++ [1] then scopeHost
    else scopeGlobal
  else
    if b.getD 0 0 = 127 then scopeHost
    else if b.getD 0 0 = 169 ∧ b.getD 1 0 = 254 then scopeLink
    else scopeGlobal

-- the masks of both families leave the first `n` bits
def isSubnetMatch (n : ℕ) (s d : A) : Bool :=
  n ≤ maxDepth (Family.isV6 A) && netBits (Family.isV6 A) (ipOf s) n = netBits (Family.isV6 A) (ipOf d) n

def ifAddrBetter (candidate : IfAddr A) (current : Option (IfAddr A)) (scope : ℕ) : Bool :=
  match current with
  | none => true
  | some c =>
    if candidate.primary ≠ c.primary then candidate.primary
    else if (candidate.scope == scope) != (c.scope == scope) then candidate.scope == scope
    else c.prefixLen < candidate.prefixLen

def skipped (a : IfAddr A) : Bool :=
  !Family.isV6 A && ((Family.bytes a.addr).all (· == 0) || decide (maxDepth (Family.isV6 A) < a.prefixLen))

def bestLoop (d : A) : List (IfAddr A) → Option (IfAddr A) → Option (IfAddr A) → Option (IfAddr A)
  | [], best, fallback => best.or fallback
  | a :: as, best, fallback =>
    if skipped a then bestLoop d as best fallback
    else if isSubnetMatch a.prefixLen a.addr d then
      if ifAddrBetter a best (ipToScope d) then
        if a.prefixLen = maxDepth (Family.isV6 A) then some a else bestLoop d as (some a) fallback
      else bestLoop d as best fallback
    else if ifAddrBetter a fallback (ipToScope d) then bestLoop d as best (some a)
    else bestLoop d as best fallback

def ifSearchBestSaddrByDaddr (info : IfInfo A) (d : A) : Option A := (bestLoop d info.addrs none none).map IfAddr.addr

lemma bestLoop_mem {d : A} {as : List (IfAddr A)} {best fallback : Option (IfAddr A)} {a : IfAddr A}
    (h : bestLoop d as best fallback = some a) : a ∈ as ∨ best = some a ∨ fallback = some a := by
  induction as generalizing best fallback with
  | nil =>
    rw [bestLoop, Option.or_eq_some_iff] at h
    exact .inr (h.imp_right And.right)
  | cons b as ih =>
    have hb (h : some b = some a) : a ∈ b :: as := Option.some.inj h ▸ List.mem_cons_self
    rw [bestLoop] at h
    split_ifs at h
    · exact (ih h).imp_left (List.mem_cons_of_mem b)
    · exact .inl (hb h)
    · rcases ih h with ha | ha | ha
      · exact .inl (List.mem_cons_of_mem b ha)
      · exact .inl (hb ha)
      · exact .inr (.inr ha)
    · exact (ih h).imp_left (List.mem_cons_of_mem b)
    · rcases ih h with ha | ha | ha
      · exact .inl (List.mem_cons_of_mem b ha)
      · exact .inr (.inl ha)
      · exact .inl (hb ha)
    · exact (ih h).imp_left (List.mem_cons_of_mem b)

lemma bestSaddr_ne_any {info : IfInfo A} {d s : A} (h : ifSearchBestSaddrByDaddr info d = some s) : s ≠ InetAddr.any := by
  obtain ⟨a, ha, rfl⟩ := Option.map_eq_some_iff.mp h
  rcases bestLoop_mem ha with ha | ha | ha
  · exact info.specified a ha
  · cases ha
  · cases ha

/-! The source address of a packet and the order in which the addresses were added. -/

-- `none` from the search for the address: it is new, and goes in front
def ifAddAddr (l : List (IfAddr A)) (a : IfAddr A) (alloc : Bool) : List (IfAddr A) × Bool :=
  match l.findIdx? fun b => Family.bytes b.addr == Family.bytes a.addr with
  | some i => (l.modify i fun b => { a with addr := b.addr }, true)
  | none => if alloc then (a :: l, true) else (l, false)

def added (as : List (IfAddr A)) : List (IfAddr A) := as.foldl (fun l a => (ifAddAddr l a true).1) []

def usable (l : List (IfAddr A)) : List (IfAddr A) := l.filter fun a => !skipped a

def onLink (d : A) (l : List (IfAddr A)) : List (IfAddr A) :=
  (usable l).filter fun a => isSubnetMatch a.prefixLen a.addr d

def offLink (d : A) (l : List (IfAddr A)) : List (IfAddr A) :=
  (usable l).filter fun a => !isSubnetMatch a.prefixLen a.addr d

def candidates (d : A) (l : List (IfAddr A)) : List (IfAddr A) := if onLink d l = [] then usable l else onLink d l

def IsBest (scope : ℕ) (l : List (IfAddr A)) : Option (IfAddr A) → Prop
  | none => l = []
  | some a => a ∈ l ∧ ∀ b ∈ l, ifAddrBetter b (some a) scope = false

/-- Whatever the order in which `as` were added, a maximum is chosen, and two orders choose alike. -/
structure OrderFree (d : A) (as : List (IfAddr A)) : Prop where
  best : ∀ as₁, as₁.Perm as → IsBest (ipToScope d) (candidates d (added as₁)) (bestLoop d (added as₁) none none)
  alike : ∀ as₁ as₂ a₁ a₂, as₁.Perm as → as₂.Perm as → bestLoop d (added as₁) none none = some a₁ →
    bestLoop d (added as₂) none none = some a₂ → ifAddrBetter a₁ (some a₂) (ipToScope d) = false

variable {d : A} {as l : List (IfAddr A)} {a b c : IfAddr A} {best fallback : Option (IfAddr A)} {scope : ℕ}

lemma ifAddrBetter_irrefl (a : IfAddr A) : ifAddrBetter a (some a) scope = false := by
  simp [ifAddrBetter]

lemma not_better_trans (ha : ifAddrBetter a (some c) scope = true) (hb : ifAddrBetter b (some c) scope = false) :
    ifAddrBetter b (some a) scope = false := by
  simp only [ifAddrBetter] at ha hb ⊢
  generalize (a.scope == scope) = sa at ha hb ⊢
  generalize (b.scope == scope) = sb at ha hb ⊢
  generalize (c.scope == scope) = sc at ha hb ⊢
  generalize a.primary = pa at ha hb ⊢
  generalize b.primary = pb at ha hb ⊢
  generalize c.primary = pc at ha hb ⊢
  cases pa <;> cases pb <;> cases pc <;> cases sa <;> cases sb <;> cases sc <;> simp at ha hb ⊢ <;> omega

lemma IsBest.better (h : IsBest scope l best) (ha : ifAddrBetter a best scope = true) : IsBest scope (l ++ [a]) (some a) := by
  refine ⟨List.mem_append_right _ (List.mem_singleton_self a), fun b hb => ?_⟩
  rcases List.mem_append.mp hb with hb | hb
  · cases best with
    | none =>
      rw [show l = [] from h] at hb
      cases hb
    | some c => exact not_better_trans ha (h.2 b hb)
  · rw [List.mem_singleton.mp hb]
    exact ifAddrBetter_irrefl a

lemma IsBest.worse (h : IsBest scope l best) (ha : ¬ifAddrBetter a best scope = true) : IsBest scope (l ++ [a]) best := by
  cases best with
  | none => exact absurd rfl ha
  | some c =>
    refine ⟨List.mem_append_left _ h.1, fun b hb => ?_⟩
    rcases List.mem_append.mp hb with hb | hb
    · exact h.2 b hb
    · rw [List.mem_singleton.mp hb]
      exact (Bool.not_eq_true _).mp ha

lemma usable_of_onLink (h : onLink d l = []) : usable l = offLink d l := by
  rw [offLink, List.filter_eq_self.mpr]
  intro a ha
  simpa using List.filter_eq_nil_iff.mp h a ha

lemma IsBest.or (h : IsBest scope (onLink d l) best) (h' : IsBest scope (offLink d l) fallback) :
    IsBest scope (candidates d l) (best.or fallback) := by
  cases best with
  | none =>
    have hnil : onLink d l = [] := h
    rw [candidates, if_pos hnil, usable_of_onLink hnil]
    exact h'
  | some a =>
    rw [candidates, if_neg (List.ne_nil_of_mem h.1)]
    exact h

/-- No address with a host prefix stops the search in front of a better one. -/
def HostBest (d : A) (l : List (IfAddr A)) : Prop :=
  ∀ a ∈ onLink d l, a.prefixLen = maxDepth (Family.isV6 A) → ∀ b ∈ onLink d l, ifAddrBetter b (some a) (ipToScope d) = false

-- the induction carries the best of what was seen on the link and off it
lemma bestLoop_best {seen : List (IfAddr A)} (hb : IsBest (ipToScope d) (onLink d seen) best)
    (hf : IsBest (ipToScope d) (offLink d seen) fallback) (hh : HostBest d (seen ++ as)) :
    IsBest (ipToScope d) (candidates d (seen ++ as)) (bestLoop d as best fallback) := by
  induction as generalizing seen best fallback with
  | nil =>
    rw [List.append_nil, bestLoop]
    exact hb.or hf
  | cons a as ih =>
    have hsplit : seen ++ a :: as = (seen ++ [a]) ++ as := by rw [List.append_assoc, List.singleton_append]
    have hin (hs : ¬skipped a = true) (hm : isSubnetMatch a.prefixLen a.addr d = true) :
        onLink d (seen ++ [a]) = onLink d seen ++ [a] ∧ offLink d (seen ++ [a]) = offLink d seen := by
      simp [onLink, offLink, usable, hs, hm]
    have hout (hs : ¬skipped a = true) (hm : ¬isSubnetMatch a.prefixLen a.addr d = true) :
        onLink d (seen ++ [a]) = onLink d seen ∧ offLink d (seen ++ [a]) = offLink d seen ++ [a] := by
      simp [onLink, offLink, usable, hs, hm]
    rw [bestLoop]
    split_ifs with hs hm hbet hfull hbet
    · rw [hsplit] at hh ⊢
      refine ih ?_ ?_ hh
      · simpa [onLink, usable, hs] using hb
      · simpa [offLink, usable, hs] using hf
    · have hmem : a ∈ onLink d (seen ++ a :: as) := by simp [onLink, usable, hs, hm]
      rw [candidates, if_neg (List.ne_nil_of_mem hmem)]
      exact ⟨hmem, hh a hmem hfull⟩
    · rw [hsplit] at hh ⊢
      obtain ⟨ho, hf'⟩ := hin hs hm
      refine ih ?_ ?_ hh
      · rw [ho]
        exact hb.better hbet
      · rwa [hf']
    · rw [hsplit] at hh ⊢
      obtain ⟨ho, hf'⟩ := hin hs hm
      refine ih ?_ ?_ hh
      · rw [ho]
        exact hb.worse hbet
      · rwa [hf']
    · rw [hsplit] at hh ⊢
      obtain ⟨ho, hf'⟩ := hout hs hm
      refine ih ?_ ?_ hh
      · rwa [ho]
      · rw [hf']
        exact hf.better hbet
    · rw [hsplit] at hh ⊢
      obtain ⟨ho, hf'⟩ := hout hs hm
      refine ih ?_ ?_ hh
      · rwa [ho]
      · rw [hf']
        exact hf.worse hbet

def Distinct (as : List (IfAddr A)) : Prop := as.Pairwise fun a b => Family.bytes a.addr ≠ Family.bytes b.addr

lemma added_eq (h : Distinct as) : added as = as.reverse := by
  have hfold (l : List (IfAddr A)) (hl : ∀ a ∈ as, ∀ b ∈ l, Family.bytes b.addr ≠ Family.bytes a.addr) :
      as.foldl (fun l a => (ifAddAddr l a true).1) l = as.reverse ++ l := by
    induction as generalizing l with
    | nil => rfl
    | cons a as ih =>
      obtain ⟨ha, has⟩ := List.pairwise_cons.mp h
      have hnew : l.findIdx? (fun b => Family.bytes b.addr == Family.bytes a.addr) = none := by
        rw [List.findIdx?_eq_none_iff]
        intro b hb
        simpa using hl a List.mem_cons_self b hb
      rw [List.foldl_cons, ifAddAddr, hnew, List.reverse_cons, List.append_assoc, List.singleton_append]
      refine ih has (a :: l) fun b hb c hc => ?_
      rcases List.mem_cons.mp hc with rfl | hc
      · exact ha b hb
      · exact hl b (List.mem_cons_of_mem a hb) c hc
  rw [added, hfold [] (by simp), List.append_nil]

lemma Distinct.perm {as' : List (IfAddr A)} (h : Distinct as) (hp : as'.Perm as) : Distinct as' :=
  hp.symm.pairwise h fun hab => hab.symm

lemma added_perm {as' : List (IfAddr A)} (h : Distinct as) (hp : as'.Perm as) : (added as').Perm as := by
  rw [added_eq (h.perm hp)]
  exact as'.reverse_perm.trans hp

variable {l' : List (IfAddr A)}

lemma onLink_perm (h : l.Perm l') : (onLink d l).Perm (onLink d l') := (h.filter _).filter _

lemma candidates_perm (h : l.Perm l') : (candidates d l).Perm (candidates d l') := by
  have ho : onLink d l = [] ↔ onLink d l' = [] := by
    rw [← List.length_eq_zero_iff, ← List.length_eq_zero_iff, (onLink_perm h).length_eq]
  rw [candidates, candidates]
  split_ifs with h₁ h₂ h₂
  · exact h.filter _
  · exact absurd (ho.mp h₁) h₂
  · exact absurd (ho.mpr h₂) h₁
  · exact onLink_perm h

lemma HostBest.perm (h : HostBest d l) (hp : l'.Perm l) : HostBest d l' := by
  intro a ha hfull b hb
  exact h a ((onLink_perm hp).mem_iff.mp ha) hfull b ((onLink_perm hp).mem_iff.mp hb)

/-- The choice depends on the order exactly when an address on the link with a host prefix is not the best one there. -/
theorem source_address_order_free_iff (d : A) (as : List (IfAddr A)) (h : Distinct as) : OrderFree d as ↔ HostBest d as := by
  constructor
  · intro hfree a ha hfull b hb
    have hmem := List.mem_filter.mp (List.mem_filter.mp ha).1
    obtain ⟨pre, post, rfl⟩ := List.append_of_mem hmem.1
    -- the address that stops the search is added last and so looked at first
    have hp : (pre ++ post ++ [a]).Perm (pre ++ a :: post) := by
      rw [List.append_assoc]
      have hswap : (post ++ [a]).Perm ([a] ++ post) := List.perm_append_comm
      exact hswap.append_left pre
    have hbest := hfree.best _ hp
    have hcand := (candidates_perm (d := d) (added_perm h hp)).mem_iff (a := b)
    rw [show candidates d (pre ++ a :: post) = onLink d (pre ++ a :: post) from if_neg (List.ne_nil_of_mem ha)] at hcand
    have hpick : bestLoop d (added (pre ++ post ++ [a])) none none = some a := by
      have hs : skipped a = false := by simpa using hmem.2
      have hm := (List.mem_filter.mp ha).2
      have hfirst : ifAddrBetter a none (ipToScope d) = true := rfl
      rw [added_eq (h.perm hp), List.reverse_concat, bestLoop, if_neg (by simp [hs]), if_pos hm, if_pos hfirst, if_pos hfull]
    rw [hpick] at hbest
    exact hbest.2 b (hcand.mpr hb)
  · intro hhost
    have hall (as₁ : List (IfAddr A)) (hp : as₁.Perm as) :
        IsBest (ipToScope d) (candidates d (added as₁)) (bestLoop d (added as₁) none none) :=
      bestLoop_best (show IsBest (ipToScope d) (onLink d []) none from rfl) rfl (hhost.perm (added_perm h hp))
    refine ⟨hall, fun as₁ as₂ a₁ a₂ hp₁ hp₂ h₁ h₂ => ?_⟩
    have hb₁ := hall as₁ hp₁
    have hb₂ := hall as₂ hp₂
    rw [h₁] at hb₁
    rw [h₂] at hb₂
    have hperm := candidates_perm (d := d) ((added_perm h hp₁).trans (added_perm h hp₂).symm)
    exact hb₂.2 a₁ (hperm.mem_iff.mp hb₁.1)

def secondaryHost : IfAddr Ipv4 := { addr := 0x0A000005, prefixLen := 32 }

def primaryNet : IfAddr Ipv4 := { addr := 0x0A000001, prefixLen := 24, primary := true }

/-- The primary address is preferred, and chosen only if it was added last. -/
theorem host_address_stops_search :
    ifAddrBetter primaryNet (some secondaryHost) (ipToScope secondaryHost.addr) = true ∧
      bestLoop secondaryHost.addr (added [primaryNet, secondaryHost]) none none = some secondaryHost ∧
      bestLoop secondaryHost.addr (added [secondaryHost, primaryNet]) none none = some primaryNet := by
  refine ⟨by decide, ?_, ?_⟩
  · rfl
  · rfl

theorem source_address_order_free_two : OrderFree (0x0A000009 : Ipv4) [primaryNet, secondaryHost] := by
  refine (source_address_order_free_iff _ _ ?_).mpr ?_
  · exact List.pairwise_pair.mpr (by decide)
  · have ho : onLink (0x0A000009 : Ipv4) [primaryNet, secondaryHost] = [primaryNet] := by rfl
    intro a ha hfull
    rw [ho, List.mem_singleton] at ha
    rw [ha] at hfull
    cases hfull

end Netfast.If
