import Netfast.Tcp.Conn

/-! The options a pcb writes are the ones its peer reads, and the reader stays inside the option area whatever is
in it. -/

namespace Netfast.Tcp

open Skbuff

def tcpPredictOptionsLen (n : Nego) (flags : Flags) : ℕ :=
  (if flags.syn then 8 else 0) + if n.peerTsOk then 12 else 0

variable (v : ℕ) (mem : ℕ → UInt8)

lemma makeTcpOptions_length (n : Nego) (now : ℕ) (flags : Flags) :
    (makeTcpOptions n now flags).1.length = tcpPredictOptionsLen n flags := by
  simp only [makeTcpOptions, tcpPredictOptionsLen, List.length_append]
  congr 1
  · split
    · split <;> rfl
    · rfl
  · split <;> rfl

lemma tcpPredictOptionsLen_aligned (n : Nego) (flags : Flags) :
    4 ∣ tcpPredictOptionsLen n flags ∧ tcpPredictOptionsLen n flags ≤ 40 := by
  rw [tcpPredictOptionsLen]
  cases flags.syn <;> cases n.peerTsOk <;> decide

lemma toNat_ofNat_byte : (UInt8.ofNat v).toNat = v % 256 := by simp

lemma hton16_length : (hton16 v).length = 2 := rfl

lemma hton32_length : (hton32 v).length = 4 := rfl

lemma ntoh_hton16 : ntoh (hton16 v) = v % 2 ^ 16 := by
  simp only [ntoh, hton16, List.foldl_cons, List.foldl_nil, toNat_ofNat_byte]
  omega

lemma ntoh_hton32 : ntoh (hton32 v) = v % 2 ^ 32 := by
  simp only [ntoh, hton32, List.foldl_cons, List.foldl_nil, toNat_ofNat_byte]
  omega

section Loop

variable {syn hs : Bool} {now k : ℕ} {n n' : Nego} {rest : List UInt8}

lemma optionLoop_nil : optionLoop syn hs now k [] n = (n, true) := by
  cases k <;> rfl

lemma optionLoop_nop : optionLoop syn hs now (k + 1) (1 :: rest) n = optionLoop syn hs now k rest n := by
  rw [optionLoop.eq_def]
  dsimp only
  rw [if_neg (by decide), if_pos rfl]

lemma optionLoop_option (k : ℕ) (kind len : UInt8) (body : List UInt8) (h0 : kind ≠ 0) (h1 : kind ≠ 1)
    (hlen : len.toNat = body.length + 2)
    (h : applyOption syn hs now kind.toNat len.toNat (body ++ rest) n = some n') :
    optionLoop syn hs now (k + 1) (kind :: len :: (body ++ rest)) n = optionLoop syn hs now k rest n' := by
  rw [optionLoop, if_neg h0, if_neg h1, if_neg (by rw [List.length_append]; omega), h]
  dsimp only
  rw [hlen, Nat.add_sub_cancel, List.drop_left]

end Loop

structure SynRead (n m m' : Nego) (scale : Bool) : Prop where
  mss : 64 ≤ n.rcvMss % 2 ^ 16 → m'.peerMss = n.rcvMss % 2 ^ 16
  scale : scale = true → m'.peerWndScaleOk = true ∧ m'.sndWndScale = tcpRcvWndScaleDefault
  quiet : m'.peerTsOk = m.peerTsOk

lemma applyOption_mss_hton16 (syn : Bool) (now mss : ℕ) (rest : List UInt8) (m : Nego) :
    ∃ m', applyOption syn true now 2 4 (hton16 mss ++ rest) m = some m' ∧
      (64 ≤ mss % 2 ^ 16 → m'.peerMss = mss % 2 ^ 16) ∧ m'.peerTsOk = m.peerTsOk := by
  have hread : ntoh ((hton16 mss ++ rest).take 2) = mss % 2 ^ 16 := by
    rw [List.take_left' (hton16_length mss), ntoh_hton16]
  simp only [applyOption, and_self, if_true, hread]
  split
  · next h => exact ⟨m, rfl, fun hge => absurd h (Nat.not_lt.mpr hge), rfl⟩
  · exact ⟨_, rfl, fun _ => rfl, rfl⟩

lemma optionLoop_syn (n m : Nego) (syn : Bool) (now k : ℕ) (scale : Bool) (rest : List UInt8) :
    ∃ m', optionLoop syn true now (k + 5)
        ([2, 4] ++ hton16 n.rcvMss ++ (if scale then [1, 3, 3, 6] else [1, 1, 1, 1]) ++ rest) m =
          optionLoop syn true now (if scale then k + 2 else k) rest m' ∧ SynRead n m m' scale := by
  obtain ⟨m₁, happ, hmss, hts⟩ := applyOption_mss_hton16 syn now n.rcvMss
    ((if scale then [1, 3, 3, 6] else [1, 1, 1, 1]) ++ rest) m
  have hfirst := optionLoop_option (k + 4) 2 4 (hton16 n.rcvMss) (by decide) (by decide) rfl happ
  simp only [List.cons_append, List.nil_append, List.append_assoc] at hfirst ⊢
  rw [hfirst]
  cases scale with
  | false =>
    refine ⟨m₁, ?_, hmss, fun h => absurd h Bool.false_ne_true, hts⟩
    simp only [Bool.false_eq_true, if_false, List.cons_append, List.nil_append, optionLoop_nop]
  | true =>
    refine ⟨{ m₁ with sndWndScale := tcpRcvWndScaleDefault, peerWndScaleOk := true }, ?_, hmss, fun _ => ⟨rfl, rfl⟩, hts⟩
    have hscale : applyOption syn true now 3 3 ([6] ++ rest) m₁ =
        some { m₁ with sndWndScale := tcpRcvWndScaleDefault, peerWndScaleOk := true } := by
      simp [applyOption, ntoh, tcpRcvWndScaleDefault]
    simp only [if_true, List.cons_append, List.nil_append, optionLoop_nop]
    exact optionLoop_option (k + 2) 3 3 [6] (by decide) (by decide) rfl hscale

lemma optionLoop_stamps (m : Nego) (syn hs : Bool) (now k tsval tsecr : ℕ) (hm : m.peerTsOk = false) :
    optionLoop syn hs now (k + 3) ([8, 10] ++ hton32 tsval ++ hton32 tsecr ++ [1, 1]) m =
      ({ m with
        peerTsOk := syn
        tsRecent := tsval % 2 ^ 32
        tsRecentAgeMs := now % 2 ^ 32
        tsLastTsecr := tsecr % 2 ^ 32 }, true) := by
  have happ : applyOption syn hs now 8 10 ((hton32 tsval ++ hton32 tsecr) ++ [1, 1]) m = some { m with
      peerTsOk := syn
      tsRecent := tsval % 2 ^ 32
      tsRecentAgeMs := now % 2 ^ 32
      tsLastTsecr := tsecr % 2 ^ 32 } := by
    have hval : ntoh (((hton32 tsval ++ hton32 tsecr) ++ [1, 1]).take 4) = tsval % 2 ^ 32 := by
      rw [List.append_assoc, List.take_left' (hton32_length tsval), ntoh_hton32]
    have hecr : ntoh ((((hton32 tsval ++ hton32 tsecr) ++ [1, 1]).drop 4).take 4) = tsecr % 2 ^ 32 := by
      rw [List.append_assoc, List.drop_left' (hton32_length tsval), List.take_left' (hton32_length tsecr), ntoh_hton32]
    simp only [applyOption, hval, hecr, hm, Bool.false_or, Bool.false_eq_true, false_and, if_false]
    rfl
  have hopt := optionLoop_option (k + 2) 8 10 (hton32 tsval ++ hton32 tsecr) (by decide) (by decide) rfl happ
  simp only [List.cons_append, List.nil_append, List.append_assoc] at hopt ⊢
  rw [hopt, optionLoop_nop, optionLoop_nop, optionLoop_nil]

/-- What `m'` knows after the options of `n` were read. -/
structure Recovered (n : Nego) (now : ℕ) (flags : Flags) (m' : Nego) : Prop where
  mss : flags.syn = true → 64 ≤ n.rcvMss % 2 ^ 16 → m'.peerMss = n.rcvMss % 2 ^ 16
  scale : tcpShouldSendWindowScale n flags = true →
    m'.peerWndScaleOk = true ∧ m'.sndWndScale = (makeTcpOptions n now flags).2.rcvWndScale
  ts : n.peerTsOk = true → m'.tsRecent = now % 2 ^ 32 ∧ m'.tsLastTsecr = n.tsRecent % 2 ^ 32

lemma makeTcpOptions_scaled {n : Nego} {flags : Flags} (now : ℕ) (h : tcpShouldSendWindowScale n flags = true) :
    (makeTcpOptions n now flags).2.rcvWndScale = tcpRcvWndScaleDefault := by
  simp only [makeTcpOptions, h, if_true]

lemma optionLoop_made (n m : Nego) (now t : ℕ) (flags : Flags) (hs : Bool) (hh : flags.syn = true → hs = true)
    (hm : m.peerTsOk = false) :
    ∃ m', optionLoop flags.syn hs t (makeTcpOptions n now flags).1.length (makeTcpOptions n now flags).1 m = (m', true) ∧
      Recovered n now flags m' := by
  rw [makeTcpOptions_length, tcpPredictOptionsLen]
  cases hsyn : flags.syn with
  | false =>
    have hno : tcpShouldSendWindowScale n flags = false := by
      simp only [tcpShouldSendWindowScale, hsyn, Bool.not_false, if_true]
    simp only [makeTcpOptions, hsyn, Bool.false_eq_true, if_false, List.nil_append]
    cases hts : n.peerTsOk with
    | false =>
      refine ⟨m, optionLoop_nil, ⟨fun h => ?_, fun h => ?_, fun h => ?_⟩⟩
      · exact absurd (hsyn.symm.trans h) Bool.false_ne_true
      · exact absurd (hno.symm.trans h) Bool.false_ne_true
      · exact absurd (hts.symm.trans h) Bool.false_ne_true
    | true =>
      refine ⟨_, optionLoop_stamps m false hs t 9 now n.tsRecent hm, ⟨fun h => ?_, fun h => ?_, fun _ => ⟨rfl, rfl⟩⟩⟩
      · exact absurd (hsyn.symm.trans h) Bool.false_ne_true
      · exact absurd (hno.symm.trans h) Bool.false_ne_true
  | true =>
    obtain rfl := hh hsyn
    simp only [makeTcpOptions, hsyn, if_true]
    cases hts : n.peerTsOk with
    | false =>
      obtain ⟨m', hloop, hread⟩ := optionLoop_syn n m true t 3 (tcpShouldSendWindowScale n flags) []
      rw [optionLoop_nil] at hloop
      refine ⟨m', hloop, ⟨fun _ => hread.mss, fun h => ?_, fun h => ?_⟩⟩
      · rw [makeTcpOptions_scaled now h]
        exact hread.scale h
      · exact absurd (hts.symm.trans h) Bool.false_ne_true
    | true =>
      obtain ⟨m', hloop, hread⟩ := optionLoop_syn n m true t 15 (tcpShouldSendWindowScale n flags)
        ([8, 10] ++ hton32 now ++ hton32 n.tsRecent ++ [1, 1])
      have hmore : ∃ k, (if tcpShouldSendWindowScale n flags = true then 15 + 2 else 15) = k + 3 := by
        split <;> exact ⟨_, rfl⟩
      obtain ⟨k, hk⟩ := hmore
      rw [hk, optionLoop_stamps m' true true t k now n.tsRecent (hread.quiet.trans hm)] at hloop
      refine ⟨_, hloop, ⟨fun _ => hread.mss, fun h => ?_, fun _ => ⟨rfl, rfl⟩⟩⟩
      rw [makeTcpOptions_scaled now h]
      exact hread.scale h

/-! The reader as it goes over memory: `mem i` is the byte at `opt + i`, of which only the first `optionsLen` belong
to the segment. The result comes with the places that were read; `none` stands for a loop that goes on. -/

def bytesFrom (mem : ℕ → UInt8) (i n : ℕ) : List UInt8 := (List.range n).map fun j => mem (i + j)

lemma bytesFrom_succ (i n : ℕ) : bytesFrom mem i (n + 1) = mem i :: bytesFrom mem (i + 1) n := by
  simp only [bytesFrom, List.range_succ_eq_map, List.map_cons, List.map_map, Nat.add_zero]
  congr 1
  refine List.map_congr_left fun j _ => ?_
  rw [Function.comp_apply, Nat.succ_eq_add_one, Nat.add_assoc, Nat.add_comm 1 j]

lemma bytesFrom_length (i n : ℕ) : (bytesFrom mem i n).length = n := by
  rw [bytesFrom, List.length_map, List.length_range]

lemma bytesFrom_drop (i n k : ℕ) : (bytesFrom mem i n).drop k = bytesFrom mem (i + k) (n - k) := by
  induction k generalizing i n with
  | zero => rfl
  | succ k ih =>
    cases n with
    | zero => rw [Nat.zero_sub]; rfl
    | succ n => rw [bytesFrom_succ, List.drop_succ_cons, ih, Nat.succ_sub_succ, Nat.add_assoc, Nat.add_comm 1 k]

lemma bytesFrom_take (i : ℕ) {n k : ℕ} (h : k ≤ n) : (bytesFrom mem i n).take k = bytesFrom mem i k := by
  rw [bytesFrom, ← List.map_take, List.take_range, Nat.min_eq_left h, bytesFrom]

def optionReads (hs : Bool) (kind len i : ℕ) : List ℕ :=
  if (kind = 2 ∧ len = 4 ∧ hs = true) ∨ (kind = 3 ∧ len = 3 ∧ hs = true) ∨ (kind = 8 ∧ len = 10) then
    (List.range (len - 2)).map fun j => i + 2 + j
  else []

def optionWalk (mem : ℕ → UInt8) (optionsLen : ℕ) (syn hs : Bool) (now : ℕ) :
    ℕ → ℕ → Nego → Option ((Nego × Bool) × List ℕ)
  | 0, _, _ => none
  | k + 1, i, n =>
    if optionsLen ≤ i then some ((n, true), [])
    else if mem i = 0 then some ((n, true), [i])
    else if mem i = 1 then (optionWalk mem optionsLen syn hs now k (i + 1) n).map fun r => (r.1, i :: r.2)
    else if optionsLen ≤ i + 1 then some ((n, true), [i])
    else
      let len := (mem (i + 1)).toNat
      if len < 2 ∨ optionsLen < i + len then some ((n, true), [i, i + 1])
      else
        let reads := i :: (i + 1) :: optionReads hs (mem i).toNat len i
        match applyOption syn hs now (mem i).toNat len (bytesFrom mem (i + 2) (len - 2)) n with
        | none => some ((n, false), reads)
        | some n' => (optionWalk mem optionsLen syn hs now k (i + len) n').map fun r => (r.1, reads ++ r.2)

lemma applyOption_take (syn hs : Bool) (now kind len : ℕ) (body : List UInt8) (n : Nego) :
    applyOption syn hs now kind len (body.take (len - 2)) n = applyOption syn hs now kind len body n := by
  simp only [applyOption]
  split
  · next h => simp [h.2.1, List.take_take]
  split
  · next h => simp [h.2.1, List.take_take]
  split
  · next h => simp [h.2, List.take_take, List.drop_take]
  · rfl

lemma optionReads_lt {hs : Bool} {kind len i j : ℕ} (h2 : 2 ≤ len) (h : j ∈ optionReads hs kind len i) : j < i + len := by
  rw [optionReads] at h
  split at h
  · obtain ⟨m, hm, rfl⟩ := List.mem_map.mp h
    rw [List.mem_range] at hm
    omega
  · cases h

lemma optionWalk_spec (optionsLen : ℕ) (syn hs : Bool) (now k f i : ℕ) (n : Nego)
    (hk : optionsLen - i < k) (hf : optionsLen - i ≤ f) :
    ∃ reads, optionWalk mem optionsLen syn hs now k i n =
        some (optionLoop syn hs now f (bytesFrom mem i (optionsLen - i)) n, reads) ∧
      ∀ j ∈ reads, j < optionsLen := by
  induction k generalizing f i n with
  | zero => omega
  | succ k ih =>
    rw [optionWalk]
    split
    · next hle =>
      rw [Nat.sub_eq_zero_of_le hle]
      exact ⟨[], by rw [show bytesFrom mem i 0 = [] from rfl, optionLoop_nil], fun j hj => (List.not_mem_nil hj).elim⟩
    next hlt =>
    obtain ⟨m, hm⟩ : ∃ m, optionsLen - i = m + 1 := ⟨optionsLen - i - 1, by omega⟩
    obtain ⟨f, rfl⟩ : ∃ f', f = f' + 1 := ⟨f - 1, by omega⟩
    have hnext : optionsLen - (i + 1) = m := by omega
    have hone (reads : List ℕ) (hr : ∀ j ∈ reads, j < optionsLen) : ∀ j ∈ i :: reads, j < optionsLen := by
      intro j hj
      rcases List.mem_cons.mp hj with rfl | hj
      · omega
      · exact hr j hj
    rw [hm, bytesFrom_succ, optionLoop.eq_def]
    dsimp only
    split
    · exact ⟨[i], rfl, hone [] fun j hj => (List.not_mem_nil hj).elim⟩
    split
    · obtain ⟨reads, hw, hr⟩ := ih f (i + 1) n (by omega) (by omega)
      rw [hw, hnext]
      exact ⟨i :: reads, rfl, hone reads hr⟩
    split
    · next hend =>
      obtain rfl : m = 0 := by omega
      exact ⟨[i], rfl, hone [] fun j hj => (List.not_mem_nil hj).elim⟩
    next hmore =>
    obtain ⟨m, rfl⟩ : ∃ m', m = m' + 1 := ⟨m - 1, by omega⟩
    rw [bytesFrom_succ]
    dsimp only
    rw [bytesFrom_length]
    have htwo : ∀ j ∈ [i + 1], j < optionsLen := by
      intro j hj
      rw [List.mem_singleton.mp hj]
      omega
    by_cases hbad : (mem (i + 1)).toNat < 2 ∨ optionsLen < i + (mem (i + 1)).toNat
    · rw [if_pos hbad, if_pos (by omega)]
      exact ⟨[i, i + 1], rfl, hone [i + 1] htwo⟩
    rw [if_neg hbad, if_neg (by omega)]
    have hreads : ∀ j ∈ i :: (i + 1) :: optionReads hs (mem i).toNat (mem (i + 1)).toNat i, j < optionsLen := by
      refine hone _ fun j hj => ?_
      rcases List.mem_cons.mp hj with rfl | hj
      · omega
      · have := optionReads_lt (by omega) hj
        omega
    have happ : applyOption syn hs now (mem i).toNat (mem (i + 1)).toNat
        (bytesFrom mem (i + 2) ((mem (i + 1)).toNat - 2)) n =
          applyOption syn hs now (mem i).toNat (mem (i + 1)).toNat (bytesFrom mem (i + 1 + 1) m) n := by
      rw [← applyOption_take, ← bytesFrom_take mem (i + 2) (show (mem (i + 1)).toNat - 2 ≤ m by omega), List.take_take,
        Nat.min_self, applyOption_take]
    rw [happ]
    cases applyOption syn hs now (mem i).toNat (mem (i + 1)).toNat (bytesFrom mem (i + 1 + 1) m) n with
    | none => exact ⟨_, rfl, hreads⟩
    | some n' =>
      obtain ⟨reads, hw, hr⟩ := ih f (i + (mem (i + 1)).toNat) n' (by omega) (by omega)
      dsimp only
      rw [hw, bytesFrom_drop]
      have hat : i + 1 + 1 + ((mem (i + 1)).toNat - 2) = i + (mem (i + 1)).toNat := by omega
      have hrest : m - ((mem (i + 1)).toNat - 2) = optionsLen - (i + (mem (i + 1)).toNat) := by omega
      rw [hat, hrest]
      refine ⟨_, rfl, fun j hj => ?_⟩
      rcases List.mem_append.mp hj with hj | hj
      · exact hreads j hj
      · exact hr j hj

/-- A pcb in the handshake that has seen no timestamps of the peer. -/
structure Awaiting (s : TcpSock) : Prop where
  state : s.core.state = .synSent ∨ s.core.state = .synReceived
  quiet : s.nego.peerTsOk = false

/-- What is written has the predicted length and is read back by a pcb in the handshake; and whatever bytes lie in
the option area and behind it, the reader ends there and reads nothing behind it. -/
theorem tcp_options_round_trip :
    (∀ (n : Nego) (now : ℕ) (flags : Flags),
      (makeTcpOptions n now flags).1.length = tcpPredictOptionsLen n flags ∧ 4 ∣ tcpPredictOptionsLen n flags ∧
        tcpPredictOptionsLen n flags ≤ 40 ∧
        ∀ (s : TcpSock) (hdr : TcpHdr), Awaiting s → hdr.flags = flags → hdr.options = (makeTcpOptions n now flags).1 →
          (parseTcpOptions s hdr).2 = true ∧ Recovered n now flags (parseTcpOptions s hdr).1.nego) ∧
    ∀ (mem : ℕ → UInt8) (s : TcpSock) (hdr : TcpHdr), hdr.options = bytesFrom mem 0 hdr.options.length →
      ∃ reads, optionWalk mem hdr.options.length hdr.flags.syn (isHandshake s hdr.flags) s.env.now
          (hdr.options.length + 1) 0 s.nego = some (parsedOptions s hdr, reads) ∧
        ∀ j ∈ reads, j < hdr.options.length := by
  refine ⟨fun n now flags => ⟨makeTcpOptions_length n now flags, tcpPredictOptionsLen_aligned n flags |>.1,
    tcpPredictOptionsLen_aligned n flags |>.2, fun s hdr hs hf ho => ?_⟩, fun mem s hdr ho => ?_⟩
  · have hh : flags.syn = true → isHandshake s hdr.flags = true := by
      intro hsyn
      rw [isHandshake, hf, hsyn, Bool.true_and, Bool.or_eq_true, decide_eq_true_eq, decide_eq_true_eq]
      exact hs.state
    obtain ⟨m', hloop, hrec⟩ := optionLoop_made n s.nego now s.env.now flags _ hh hs.quiet
    have hparsed : parsedOptions s hdr = (m', true) := by
      rw [parsedOptions, ho, ← hloop]
      rw [hf]
    obtain ⟨c, hp, -⟩ := parseTcpOptions_frame s hdr
    refine ⟨by rw [parseTcpOptions_ok, hparsed], ?_⟩
    rw [hp, hparsed]
    exact hrec
  · obtain ⟨reads, hw, hr⟩ := optionWalk_spec mem hdr.options.length hdr.flags.syn (isHandshake s hdr.flags) s.env.now
      (hdr.options.length + 1) hdr.options.length 0 s.nego (by omega) (by omega)
    rw [Nat.sub_zero, ← ho] at hw
    exact ⟨reads, hw, hr⟩

def offering : Nego := { peerMss := 536, sndMss := 536, rcvMss := 1460, peerTsOk := true, tsRecent := 9 }

def offerHdr : TcpHdr where
  seq := 500
  ackSeq := 0
  flags := { syn := true }
  window := 0
  windowLt := Nat.two_pow_pos 16
  options := (makeTcpOptions offering 5 { syn := true }).1
  optionsLe := (makeTcpOptions_length offering 5 { syn := true }).le.trans (tcpPredictOptionsLen_aligned _ _).2

lemma openSock_awaiting : Awaiting openSock := ⟨.inl rfl, rfl⟩

theorem offered_options_recovered :
    Awaiting openSock ∧ (parseTcpOptions openSock offerHdr).2 = true ∧
      Recovered offering 5 { syn := true } (parseTcpOptions openSock offerHdr).1.nego :=
  ⟨openSock_awaiting,
    (tcp_options_round_trip.1 offering 5 { syn := true }).2.2.2 openSock offerHdr openSock_awaiting rfl rfl⟩

end Netfast.Tcp
