import Mathlib.Algebra.Ring.Nat
import Netfast.Lib.Run
import Netfast.Trie

/-! The route tables of `main/route_arp_ndp.c`: one trie per family with a list of routes at each prefix. -/

namespace Netfast.Route

open Run Prefix Trie

abbrev Ip := Vector UInt8 16

structure RouteInfo where
  isV6 : Bool
  type : ℕ := 1
  dstMask : ℕ
  dstIp : Ip
  gwIp : Ip := Vector.replicate 16 0
  ifName : String := ""
  ifindex : ℕ
  metric : ℕ := 0
  mtu : ℕ := 0
  prefsrc : Ip := Vector.replicate 16 0
deriving DecidableEq

structure RouteKey where
  isV6 : Bool
  ifindex : ℕ := 0
  dip : Ip

def maxDepth (isV6 : Bool) : ℕ := if isV6 then 128 else 32

def netHost (ip : Ip) : ℕ := (ip.toList.take 4).foldl (fun n b => n * 256 + b.toNat) 0

def netBit (isV6 : Bool) (ip : Ip) (i : ℕ) : Bool :=
  if isV6 then (ip.toList.getD (i / 8) 0).toNat / 2 ^ (7 - i % 8) % 2 = 1
  else netHost ip / 2 ^ (31 - i) % 2 = 1

def netBits (isV6 : Bool) (ip : Ip) (mask : ℕ) : List Bool := (List.range mask).map (netBit isV6 ip)

def sameAddr (isV6 : Bool) (a b : Ip) : Bool := if isV6 then a = b else a.toList.take 4 = b.toList.take 4

def routeSame (a b : RouteInfo) : Bool :=
  a.isV6 = b.isV6 && a.type = b.type && a.dstMask = b.dstMask && sameAddr a.isV6 a.dstIp b.dstIp &&
    sameAddr a.isV6 a.gwIp b.gwIp && a.ifindex = b.ifindex && (a.ifindex != 0 || a.ifName = b.ifName) &&
    a.metric = b.metric

def routeCopyAttr (dst src : RouteInfo) : RouteInfo := { dst with mtu := src.mtu, prefsrc := src.prefsrc }

def updateFirst (p : RouteInfo → Bool) (f : RouteInfo → RouteInfo) : List RouteInfo → List RouteInfo
  | [] => []
  | r :: rs => if p r then f r :: rs else r :: updateFirst p f rs

def routeAddCb (info : RouteInfo) (headOk routeOk : Bool) : Option (List RouteInfo) → Option (List RouteInfo) × Bool
  | none => if headOk && routeOk then (some [info], true) else (none, false)
  | some rs =>
    if rs.any (routeSame · info) then (some (updateFirst (routeSame · info) (routeCopyAttr · info) rs), true)
    else if routeOk then (some (info :: rs), true)
    else (some rs, false)

def listElement : List RouteInfo → Option (List RouteInfo)
  | [] => none
  | r :: rs => some (r :: rs)

def routeDeleteCb (info : RouteInfo) : Option (List RouteInfo) → Option (List RouteInfo)
  | none => none
  | some rs => listElement (rs.eraseP (routeSame · info))

def uint32Max : ℕ := 2 ^ 32 - 1

def eligible (key : RouteKey) (r : RouteInfo) : Bool := !key.isV6 || key.ifindex = 0 || r.ifindex = key.ifindex

def selectRoute (ok : RouteInfo → Bool) : List RouteInfo → Option RouteInfo → ℕ → Option RouteInfo
  | [], selected, _ => selected
  | r :: rs, selected, minMetric =>
    if ok r && decide (r.metric < minMetric) then selectRoute ok rs (some r) r.metric
    else selectRoute ok rs selected minMetric

structure RouteTables where
  v4 : Table (List RouteInfo) := {}
  v6 : Table (List RouteInfo) := {}

def RouteTables.of (t : RouteTables) (isV6 : Bool) : Table (List RouteInfo) := if isV6 then t.v6 else t.v4

def RouteTables.set (t : RouteTables) (isV6 : Bool) (table : Table (List RouteInfo)) : RouteTables :=
  if isV6 then { t with v6 := table } else { t with v4 := table }

def RouteInfo.path (r : RouteInfo) : List Bool := netBits r.isV6 r.dstIp r.dstMask

def routeAddEntry (t : RouteTables) (info : RouteInfo) (budget : ℕ) (headOk routeOk : Bool) : RouteTables × Bool :=
  if maxDepth info.isV6 < info.dstMask then (t, false)
  else
    let (table, ok) := addTrieElement (t.of info.isV6) info.path (routeAddCb info headOk routeOk) budget
    (t.set info.isV6 table, ok)

def routeDeleteEntry (t : RouteTables) (info : RouteInfo) : RouteTables :=
  if maxDepth info.isV6 < info.dstMask then t
  else t.set info.isV6 (deleteTrieElement (t.of info.isV6) info.path (routeDeleteCb info))

def searchRouteTable (t : RouteTables) (key : RouteKey) : Option RouteInfo :=
  searchTrieElement (t.of key.isV6) (netBits key.isV6 key.dip (maxDepth key.isV6)) fun rs =>
    selectRoute (eligible key) rs none uint32Max

def install (routes : List RouteInfo) (info : RouteInfo) : List RouteInfo :=
  if routes.any (routeSame · info) then updateFirst (routeSame · info) (routeCopyAttr · info) routes
  else info :: routes

def uninstall (routes : List RouteInfo) (info : RouteInfo) : List RouteInfo := routes.eraseP (routeSame · info)

def Covers (r : RouteInfo) (dip : Ip) : Prop := ∀ i < r.dstMask, netBit r.isV6 r.dstIp i = netBit r.isV6 dip i

def atNode (isV6 : Bool) (p : List Bool) (r : RouteInfo) : Bool := r.isV6 = isV6 && r.path = p

structure Refines (t : RouteTables) (routes : List RouteInfo) : Prop where
  nodes : ∀ isV6 p, (t.of isV6).elemAt p = listElement (routes.filter (atNode isV6 p))
  depth : ∀ r ∈ routes, r.dstMask ≤ maxDepth r.isV6

variable {routes : List RouteInfo} {r info : RouteInfo} {t : RouteTables}

lemma netBits_congr {isV6 : Bool} {a b : Ip} (h : sameAddr isV6 a b = true) (mask : ℕ) :
    netBits isV6 a mask = netBits isV6 b mask := by
  rw [sameAddr] at h
  cases isV6 with
  | true =>
    have hab : a = b := by simpa using h
    rw [hab]
  | false =>
    have h4 : a.toList.take 4 = b.toList.take 4 := by simpa using h
    have hn : netHost a = netHost b := by rw [netHost, h4, netHost]
    simp [netBits, netBit, hn]

lemma routeSame_atNode (h : routeSame r info = true) : atNode info.isV6 info.path r = true := by
  simp only [routeSame, Bool.and_eq_true, decide_eq_true_eq] at h
  obtain ⟨⟨⟨⟨⟨⟨⟨hf, -⟩, hm⟩, hd⟩, -⟩, -⟩, -⟩, -⟩ := h
  simp only [atNode, Bool.and_eq_true, decide_eq_true_eq]
  refine ⟨hf, ?_⟩
  rw [RouteInfo.path, RouteInfo.path, hm, netBits_congr hd, hf]

lemma routeCopyAttr_atNode (r info : RouteInfo) (isV6 : Bool) (p : List Bool) :
    atNode isV6 p (routeCopyAttr r info) = atNode isV6 p r := rfl

section Lists

variable {s q : RouteInfo → Bool} {f : RouteInfo → RouteInfo}

lemma any_filter (h : ∀ r, s r = true → q r = true) (rs : List RouteInfo) : (rs.filter q).any s = rs.any s := by
  rw [List.any_filter]
  congr 1
  funext r
  cases hs : s r with
  | false => simp
  | true => simp [h r hs]

lemma updateFirst_filter (k : Bool) (h : ∀ r, s r = true → q r = k) (hf : ∀ r, q (f r) = q r) (rs : List RouteInfo) :
    (updateFirst s f rs).filter q = if k then updateFirst s f (rs.filter q) else rs.filter q := by
  induction rs with
  | nil => cases k <;> rfl
  | cons r rs ih =>
    rw [updateFirst]
    cases hs : s r with
    | true => cases k <;> simp [h r hs, hf, hs, updateFirst]
    | false => cases k <;> cases hq : q r <;> simp [hq, hs, ih, updateFirst]

lemma eraseP_filter (k : Bool) (h : ∀ r, s r = true → q r = k) (rs : List RouteInfo) :
    (rs.eraseP s).filter q = if k then (rs.filter q).eraseP s else rs.filter q := by
  induction rs with
  | nil => cases k <;> rfl
  | cons r rs ih =>
    cases hs : s r with
    | true => cases k <;> simp [hs, h r hs]
    | false => cases k <;> cases hq : q r <;> simp [hq, hs, ih]

lemma updateFirst_ne_nil {rs : List RouteInfo} (h : rs ≠ []) : updateFirst s f rs ≠ [] := by
  cases rs with
  | nil => exact absurd rfl h
  | cons r rs =>
    rw [updateFirst]
    split <;> simp

lemma mem_updateFirst {rs : List RouteInfo} (h : r ∈ updateFirst s f rs) : r ∈ rs ∨ ∃ r' ∈ rs, r = f r' := by
  induction rs with
  | nil => exact .inl h
  | cons a rs ih =>
    rw [updateFirst] at h
    split at h
    · rcases List.mem_cons.mp h with rfl | h
      · exact .inr ⟨a, List.mem_cons_self, rfl⟩
      · exact .inl (List.mem_cons_of_mem a h)
    · rcases List.mem_cons.mp h with rfl | h
      · exact .inl List.mem_cons_self
      · rcases ih h with h | ⟨r', hr', he⟩
        · exact .inl (List.mem_cons_of_mem a h)
        · exact .inr ⟨r', List.mem_cons_of_mem a hr', he⟩

end Lists

@[simp] lemma listElement_ne_nil {rs : List RouteInfo} (h : rs ≠ []) : listElement rs = some rs := by
  cases rs with
  | nil => exact absurd rfl h
  | cons r rs => rfl

@[simp] lemma of_set (t : RouteTables) (f f' : Bool) (table : Table (List RouteInfo)) :
    (t.set f table).of f' = if f' = f then table else t.of f' := by
  cases f <;> cases f' <;> rfl

lemma atNode_other {f : Bool} {p : List Bool} (hne : ¬(f = info.isV6 ∧ p = info.path))
    (h : routeSame r info = true) : atNode f p r = false := by
  have hr := routeSame_atNode h
  simp only [atNode, Bool.and_eq_true, decide_eq_true_eq] at hr
  by_contra hc
  rw [Bool.not_eq_false] at hc
  simp only [atNode, Bool.and_eq_true, decide_eq_true_eq] at hc
  exact hne ⟨hc.1.symm.trans hr.1, hc.2.symm.trans hr.2⟩

lemma atNode_info (info : RouteInfo) (f : Bool) (p : List Bool) :
    atNode f p info = decide (f = info.isV6 ∧ p = info.path) := by
  rw [atNode, ← Bool.decide_and, decide_eq_decide, eq_comm, @eq_comm _ info.path]

lemma install_filter (routes : List RouteInfo) (info : RouteInfo) (f : Bool) (p : List Bool) :
    (install routes info).filter (atNode f p) =
      if f = info.isV6 ∧ p = info.path then install (routes.filter (atNode f p)) info
      else routes.filter (atNode f p) := by
  split
  · next hp =>
    obtain ⟨rfl, rfl⟩ := hp
    have hsame : ∀ r, routeSame r info = true → atNode info.isV6 info.path r = true := fun r h => routeSame_atNode h
    rw [install, install, any_filter hsame]
    split
    · exact updateFirst_filter true hsame (fun r => routeCopyAttr_atNode r info _ _) routes
    · rw [List.filter_cons_of_pos (by rw [atNode_info]; simp)]
  · next hp =>
    rw [install]
    split
    · exact updateFirst_filter false (fun r h => atNode_other hp h) (fun r => routeCopyAttr_atNode r info _ _) routes
    · rw [List.filter_cons_of_neg (by rw [atNode_info]; simpa using hp)]

lemma uninstall_filter (routes : List RouteInfo) (info : RouteInfo) (f : Bool) (p : List Bool) :
    (uninstall routes info).filter (atNode f p) =
      if f = info.isV6 ∧ p = info.path then uninstall (routes.filter (atNode f p)) info
      else routes.filter (atNode f p) := by
  split
  · next hp =>
    obtain ⟨rfl, rfl⟩ := hp
    exact eraseP_filter true (fun r h => routeSame_atNode h) routes
  · next hp => exact eraseP_filter false (fun r h => atNode_other hp h) routes

lemma routeAddCb_cases (info : RouteInfo) (headOk routeOk : Bool) (rs : List RouteInfo) :
    routeAddCb info headOk routeOk (listElement rs) = (listElement (install rs info), true) ∨
      routeAddCb info headOk routeOk (listElement rs) = (listElement rs, false) := by
  cases rs with
  | nil =>
    rw [listElement, routeAddCb]
    split
    · exact .inl rfl
    · exact .inr rfl
  | cons r rs =>
    rw [listElement, routeAddCb, install]
    split
    · left
      rw [listElement_ne_nil (updateFirst_ne_nil (List.cons_ne_nil r rs))]
    · split
      · exact .inl rfl
      · exact .inr rfl

lemma routeDeleteCb_eq (info : RouteInfo) (rs : List RouteInfo) :
    routeDeleteCb info (listElement rs) = listElement (uninstall rs info) := by
  cases rs <;> rfl

lemma mem_install (h : r ∈ install routes info) :
    r = info ∨ r ∈ routes ∨ ∃ r' ∈ routes, r = routeCopyAttr r' info := by
  rw [install] at h
  split at h
  · exact .inr (mem_updateFirst h)
  · rcases List.mem_cons.mp h with h | h
    · exact .inl h
    · exact .inr (.inl h)

lemma forall_install {P : RouteInfo → Prop}
    (hcopy : ∀ r, P r → P (routeCopyAttr r info)) (hinfo : P info) (h : ∀ r ∈ routes, P r) :
    ∀ r ∈ install routes info, P r := by
  intro r hr
  rcases mem_install hr with rfl | hr | ⟨r', hr', rfl⟩
  · exact hinfo
  · exact h r hr
  · exact hcopy r' (h r' hr')

lemma routeAddEntry_refines (h : Refines t routes) (info : RouteInfo)
    (budget : ℕ) (headOk routeOk : Bool) :
    Refines (routeAddEntry t info budget headOk routeOk).1
      (if (routeAddEntry t info budget headOk routeOk).2 then install routes info else routes) := by
  rw [routeAddEntry]
  split
  · exact h
  · next hmask =>
    have hdepth : ∀ r ∈ install routes info, r.dstMask ≤ maxDepth r.isV6 :=
      forall_install (fun _ hr => hr) (not_lt.mp hmask) h.depth
    -- the element of the node either becomes that of the routes installed there or stays as it is
    have hkeep : ∀ table : Table (List RouteInfo), (∀ p, table.elemAt p = (t.of info.isV6).elemAt p) →
        Refines (t.set info.isV6 table) routes := by
      refine fun table htable => ⟨fun f p => ?_, h.depth⟩
      rw [of_set]
      split
      · next hf => rw [htable, hf, h.nodes]
      · exact h.nodes f p
    rcases addTrieElement_elemAt (t.of info.isV6) info.path (routeAddCb info headOk routeOk) budget with
      ⟨hp, hok⟩ | ⟨hp, hok⟩
    · rw [h.nodes] at hp hok
      rcases routeAddCb_cases info headOk routeOk (routes.filter (atNode info.isV6 info.path)) with hcb | hcb
      · rw [hcb] at hp hok
        simp only [hok, if_true]
        refine ⟨fun f p => ?_, hdepth⟩
        rw [of_set, install_filter]
        by_cases hf : f = info.isV6
        · subst hf
          rw [if_pos rfl, hp]
          by_cases hpath : p = info.path
          · subst hpath
            rw [if_pos rfl, if_pos ⟨rfl, rfl⟩]
          · rw [if_neg hpath, if_neg (fun hc => hpath hc.2), h.nodes]
        · rw [if_neg hf, if_neg (fun hc => hf hc.1), h.nodes]
      · rw [hcb] at hp hok
        simp only [hok]
        refine hkeep _ fun p => ?_
        rw [hp]
        split
        · next hpath => rw [hpath, h.nodes]
        · rfl
    · simp only [hok]
      exact hkeep _ hp

lemma routeDeleteEntry_refines (h : Refines t routes)
    (info : RouteInfo) (hmask : info.dstMask ≤ maxDepth info.isV6) :
    Refines (routeDeleteEntry t info) (uninstall routes info) := by
  rw [routeDeleteEntry, if_neg (not_lt.mpr hmask)]
  refine ⟨fun f p => ?_, fun r hr => h.depth r (List.mem_of_mem_eraseP hr)⟩
  rw [of_set, uninstall_filter]
  by_cases hf : f = info.isV6
  · subst hf
    rw [if_pos rfl, deleteTrieElement_elemAt _ _ rfl]
    by_cases hpath : p = info.path
    · subst hpath
      rw [if_pos rfl, if_pos ⟨rfl, rfl⟩, h.nodes, routeDeleteCb_eq]
    · rw [if_neg hpath, if_neg (fun hc => hpath hc.2), h.nodes]
  · rw [if_neg hf, if_neg (fun hc => hf hc.1), h.nodes]

lemma uninstall_too_long (h : Refines t routes) (info : RouteInfo)
    (hmask : maxDepth info.isV6 < info.dstMask) : uninstall routes info = routes := by
  refine List.eraseP_of_forall_not fun r hr hsame => ?_
  simp only [routeSame, Bool.and_eq_true, decide_eq_true_eq] at hsame
  obtain ⟨⟨⟨⟨⟨⟨⟨hf, -⟩, hm⟩, -⟩, -⟩, -⟩, -⟩, -⟩ := hsame
  have := h.depth r hr
  rw [hf, hm] at this
  omega

lemma selectRoute_cases (ok : RouteInfo → Bool) (rs : List RouteInfo) (selected : Option RouteInfo) (bound : ℕ) :
    (selectRoute ok rs selected bound = selected ∧ ∀ r ∈ rs, ok r = true → bound ≤ r.metric) ∨
      ∃ r ∈ rs, ok r = true ∧ selectRoute ok rs selected bound = some r ∧ r.metric < bound ∧
        ∀ r' ∈ rs, ok r' = true → r.metric ≤ r'.metric := by
  induction rs generalizing selected bound with
  | nil => exact .inl ⟨rfl, by simp⟩
  | cons a rs ih =>
    rw [selectRoute]
    split
    · next ha =>
      simp only [Bool.and_eq_true, decide_eq_true_eq] at ha
      right
      rcases ih (some a) a.metric with ⟨he, hle⟩ | ⟨r, hr, hok, he, hlt, hle⟩
      · exact ⟨a, List.mem_cons_self, ha.1, he, ha.2, List.forall_mem_cons.mpr ⟨fun _ => le_rfl, hle⟩⟩
      · exact ⟨r, List.mem_cons_of_mem a hr, hok, he, Nat.lt_trans hlt ha.2,
          List.forall_mem_cons.mpr ⟨fun _ => Nat.le_of_lt hlt, hle⟩⟩
    · next ha =>
      simp only [Bool.and_eq_true, decide_eq_true_eq, not_and, not_lt] at ha
      rcases ih selected bound with ⟨he, hle⟩ | ⟨r, hr, hok, he, hlt, hle⟩
      · exact .inl ⟨he, List.forall_mem_cons.mpr ⟨ha, hle⟩⟩
      · exact .inr ⟨r, List.mem_cons_of_mem a hr, hok, he, hlt,
          List.forall_mem_cons.mpr ⟨fun hoka => Nat.le_trans (Nat.le_of_lt hlt) (ha hoka), hle⟩⟩

@[simp] lemma netBits_length (isV6 : Bool) (ip : Ip) (mask : ℕ) : (netBits isV6 ip mask).length = mask := by
  simp [netBits]

lemma path_isPrefix_iff (hmask : r.dstMask ≤ maxDepth r.isV6) (dip : Ip) :
    r.path <+: netBits r.isV6 dip (maxDepth r.isV6) ↔ Covers r dip := by
  rw [RouteInfo.path, List.prefix_iff_eq_take, netBits_length, netBits, netBits, ← List.map_take,
    List.take_range, min_eq_left hmask, List.map_inj_left]
  simp [Covers]

structure BestRoute (routes : List RouteInfo) (key : RouteKey) (r : RouteInfo) : Prop where
  installed : r ∈ routes
  family : r.isV6 = key.isV6
  eligible : eligible key r = true
  covers : Covers r key.dip
  best : ∀ r' ∈ routes, r'.isV6 = key.isV6 → Route.eligible key r' = true → Covers r' key.dip →
    r'.dstMask < r.dstMask ∨ r'.dstMask = r.dstMask ∧ r.metric ≤ r'.metric

lemma Refines.node_search (h : Refines t routes) (key : RouteKey)
    (p : List Bool) :
    (((t.of key.isV6).elemAt p).bind fun rs => selectRoute (eligible key) rs none uint32Max) =
      selectRoute (eligible key) (routes.filter (atNode key.isV6 p)) none uint32Max := by
  rw [h.nodes]
  cases routes.filter (atNode key.isV6 p) <;> rfl

lemma mem_atNode {f : Bool} {p : List Bool} :
    r ∈ routes.filter (atNode f p) ↔ r ∈ routes ∧ r.isV6 = f ∧ r.path = p := by
  simp [atNode]

variable {key : RouteKey}

lemma Refines.node_some (h : Refines t routes)
    (hm : ∀ r ∈ routes, r.metric < uint32Max) (hr : r ∈ routes)
    (hf : r.isV6 = key.isV6) (hok : eligible key r = true) (hc : Covers r key.dip) :
    r.path <+: netBits key.isV6 key.dip (maxDepth key.isV6) ∧
      selectRoute (eligible key) (routes.filter (atNode key.isV6 r.path)) none uint32Max ≠ none := by
  constructor
  · rw [← hf]
    exact (path_isPrefix_iff (h.depth r hr) key.dip).mpr hc
  · rcases selectRoute_cases (eligible key) (routes.filter (atNode key.isV6 r.path)) none uint32Max with
      ⟨-, hle⟩ | ⟨r', -, -, he, -⟩
    · exact absurd (hm r hr) (not_lt.mpr (hle r (mem_atNode.mpr ⟨hr, hf, rfl⟩) hok))
    · rw [he]
      exact Option.some_ne_none r'

lemma Refines.search_best (h : Refines t routes)
    (hm : ∀ r ∈ routes, r.metric < uint32Max)
    (hs : searchRouteTable t key = some r) : BestRoute routes key r := by
  rw [searchRouteTable, searchTrieElement_eq] at hs
  obtain ⟨p, hp, hat, hlonger⟩ := longest_eq_some hs
  simp only [h.node_search] at hat hlonger
  rcases selectRoute_cases (eligible key) (routes.filter (atNode key.isV6 p)) none uint32Max with
    ⟨he, -⟩ | ⟨r₁, hr₁, hok, he, -, hle⟩
  · rw [hat] at he
    cases he
  · rw [hat] at he
    cases he
    obtain ⟨hr, hf, hpath⟩ := mem_atNode.mp hr₁
    have hlen : p.length = r.dstMask := by rw [← hpath, RouteInfo.path, netBits_length]
    refine ⟨hr, hf, hok, ?_, fun r' hr' hf' hok' hc' => ?_⟩
    · rw [← path_isPrefix_iff (h.depth r hr), hpath, hf]
      exact hp
    · obtain ⟨hp', hsome⟩ := h.node_some hm hr' hf' hok' hc'
      have hlen' : r'.path.length = r'.dstMask := by rw [RouteInfo.path, netBits_length]
      rcases Nat.lt_trichotomy r'.dstMask r.dstMask with hlt | heq | hgt
      · exact .inl hlt
      · -- two prefixes of one address with one length are one node
        have hsame : r'.path = p := by
          rw [List.prefix_iff_eq_take.mp hp', List.prefix_iff_eq_take.mp hp, hlen, hlen', heq]
        exact .inr ⟨heq, hle r' (mem_atNode.mpr ⟨hr', hf', hsame⟩) hok'⟩
      · exact absurd (hlonger r'.path hp' (by omega)) hsome

lemma Refines.search_isSome (h : Refines t routes)
    (hm : ∀ r ∈ routes, r.metric < uint32Max) (hr : r ∈ routes)
    (hf : r.isV6 = key.isV6) (hok : eligible key r = true) (hc : Covers r key.dip) :
    (searchRouteTable t key).isSome := by
  obtain ⟨hp, hsome⟩ := h.node_some hm hr hf hok hc
  rw [Option.isSome_iff_ne_none, searchRouteTable, searchTrieElement_eq]
  intro hnone
  have hat := longest_eq_none.mp hnone r.path hp
  rw [h.node_search] at hat
  exact hsome hat

inductive RouteEvent
  | add (info : RouteInfo) (budget : ℕ) (headOk routeOk : Bool)
  | delete (info : RouteInfo)

/-- The metric of a route that is added. -/
def RouteEvent.BelowMax : RouteEvent → Prop
  | .add info _ _ _ => info.metric < uint32Max
  | .delete _ => True

structure RouteSys where
  tables : RouteTables := {}
  installed : List RouteInfo := []

def routeStep (s : RouteSys) : RouteEvent → RouteSys
  | .add info budget headOk routeOk =>
    let (tables, ok) := routeAddEntry s.tables info budget headOk routeOk
    { tables, installed := if ok then install s.installed info else s.installed }
  | .delete info =>
    { tables := routeDeleteEntry s.tables info, installed := uninstall s.installed info }

structure RouteInv (s : RouteSys) : Prop where
  refines : Refines s.tables s.installed
  metrics : ∀ r ∈ s.installed, r.metric < uint32Max

lemma RouteInv.init : RouteInv {} where
  refines := {
    nodes := fun f p => by cases f <;> exact elemAt_emptyNode p
    depth := by simp }
  metrics := by simp

lemma RouteInv.step (s : RouteSys) (e : RouteEvent) (h : RouteInv s) (he : e.BelowMax) : RouteInv (routeStep s e) := by
  cases e with
  | add info budget headOk routeOk =>
    refine ⟨routeAddEntry_refines h.refines info budget headOk routeOk, ?_⟩
    change ∀ r ∈ (if (routeAddEntry s.tables info budget headOk routeOk).2 then _ else _), _
    split
    · exact forall_install (fun _ hr => hr) he h.metrics
    · exact h.metrics
  | delete info =>
    refine ⟨?_, fun r hr => h.metrics r (List.mem_of_mem_eraseP hr)⟩
    by_cases hmask : maxDepth info.isV6 < info.dstMask
    · rw [routeStep, routeDeleteEntry, if_pos hmask, uninstall_too_long h.refines info hmask]
      exact h.refines
    · exact routeDeleteEntry_refines h.refines info (not_lt.mp hmask)

theorem longest_prefix_searched (es : List RouteEvent) (hes : ∀ e ∈ es, e.BelowMax) (key : RouteKey) :
    let s := run routeStep {} es
    ((searchRouteTable s.tables key).isSome ↔
      ∃ r ∈ s.installed, r.isV6 = key.isV6 ∧ eligible key r = true ∧ Covers r key.dip) ∧
    ∀ r, searchRouteTable s.tables key = some r → BestRoute s.installed key r := by
  intro s
  have h : RouteInv s := run_invariant RouteInv.step RouteInv.init (Meets.of_mem hes)
  refine ⟨⟨fun hs => ?_, fun ⟨r, hr, hf, hok, hc⟩ => h.refines.search_isSome h.metrics hr hf hok hc⟩,
    fun r hs => h.refines.search_best h.metrics hs⟩
  obtain ⟨r, hr⟩ := Option.isSome_iff_exists.mp hs
  have hbest := h.refines.search_best h.metrics hr
  exact ⟨r, hbest.installed, hbest.family, hbest.eligible, hbest.covers⟩

def defaultRoute : RouteInfo := { isV6 := false, dstMask := 0, dstIp := Vector.replicate 16 0, ifindex := 2 }

def resolverKey : RouteKey := { isV6 := false, dip := Vector.replicate 16 8 }

def resolverRoute (mask : ℕ) : RouteInfo := { isV6 := false, dstMask := mask, dstIp := resolverKey.dip, ifindex := 2 }

def resolverRun : List RouteEvent :=
  [.add defaultRoute 0 true true, .add (resolverRoute 16) 16 true true, .add (resolverRoute 8) 0 true true,
    .delete (resolverRoute 16)]

theorem longest_prefix_searched_deleted :
    searchRouteTable (run routeStep {} (resolverRun.take 3)).tables resolverKey = some (resolverRoute 16) ∧
      BestRoute (run routeStep {} resolverRun).installed resolverKey (resolverRoute 8) := by
  have hmax : ∀ e ∈ resolverRun, e.BelowMax := by
    simp only [resolverRun, List.forall_mem_cons, RouteEvent.BelowMax]
    exact ⟨by decide, by decide, by decide, trivial, List.forall_mem_nil _⟩
  exact ⟨by decide, (longest_prefix_searched resolverRun hmax resolverKey).2 _ (by decide)⟩

end Netfast.Route
