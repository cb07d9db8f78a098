/-
  MmIotEsp32.Mmrc.RetryChains

  Which rates the retry chains hold.
-/
import MmIotEsp32.Mmrc.Mmrc
import MmIotEsp32.Mmrc.RateIndex
import Mathlib.Data.List.TakeWhile

namespace MmIotEsp32.Mmrc

open Lib

/-! ## Rates that a chain may hold -/

/-- The rate is in the capabilities, is valid, and has its own index. -/
structure RateOk (caps : MmrcStaCapabilities) (rate : MmrcRate) : Prop where
  supports : caps.Supports rate
  valid : validateRate caps rate = true
  index : rate.index = rateIndex caps rate

/-- Every bit below one that is set is set. -/
def DownwardClosed {w : Nat} (input : BitVec w) : Prop :=
  ∀ i j, i ≤ j → input.getLsbD j = true → input.getLsbD i = true

/-- What the steps down to the next rate, and the first guess, rely on. -/
structure RetrySafe (caps : MmrcStaCapabilities) (rssi : Int) : Prop where
  rates : DownwardClosed caps.rates
  bandwidth : DownwardClosed caps.bandwidth
  /-- a bandwidth with the short guard interval has it at every lower bandwidth -/
  sgi : ∀ i j, i ≤ j → caps.bandwidth.getLsbD j = true → caps.sgiPerBw.getLsbD j = true →
    caps.sgiPerBw.getLsbD i = true
  guess : caps.rates.getLsbD (initialMcs (mmrcMaxBw caps.bandwidth) rssi) = true

/-- Capabilities with which rates are chosen: the first stream and, where some bandwidth has
it, the short guard interval. -/
structure MmrcStaCapabilities.Negotiated (caps : MmrcStaCapabilities) : Prop where
  usable : caps.Usable
  stream : caps.spatialStreams.getLsbD mmrcSpatialStream1 = true
  guardShort : ∀ bw, caps.sgiPerBw.getLsbD bw = true → caps.guard.getLsbD mmrcGuardShort = true
  maxRates : caps.maxRates = mmrcMaxChainLength

theorem validateRate_iff (caps : MmrcStaCapabilities) (rate : MmrcRate) :
    validateRate caps rate = true
      ↔ (rate.rate = mmrcMcs10 → rate.bw = mmrcBw1mhz ∧ rate.ss = mmrcSpatialStream1)
        ∧ ¬ (rate.rate = mmrcMcs9 ∧ rate.bw = mmrcBw2mhz ∧ rate.ss ≠ mmrcSpatialStream3)
        ∧ (rate.guard = mmrcGuardShort → caps.sgiPerBw.getLsbD rate.bw = true) := by
  unfold validateRate
  split_ifs with hmcs10 hmcs9 hshort
  · simp only [Bool.and_eq_true, Bool.or_eq_true, decide_eq_true_eq] at hmcs10
    constructor
    · intro h
      cases h
    · rintro ⟨h, -, -⟩
      obtain ⟨hbw, hss⟩ := h hmcs10.1
      exact absurd hmcs10.2 (by simp [hbw, hss])
  · simp only [Bool.and_eq_true, decide_eq_true_eq] at hmcs9
    constructor
    · intro h
      cases h
    · rintro ⟨-, h, -⟩
      exact absurd ⟨hmcs9.1.1, hmcs9.1.2, hmcs9.2⟩ h
  · simp only [Bool.and_eq_true, decide_eq_true_eq, Bool.not_eq_true'] at hshort
    constructor
    · intro h
      cases h
    · rintro ⟨-, -, h⟩
      rw [h hshort.1] at hshort
      cases hshort.2
  refine ⟨fun _ => ⟨fun h => ?_, fun h => ?_, fun h => ?_⟩, fun _ => rfl⟩
  · by_contra hnot
    apply hmcs10
    simp only [Bool.and_eq_true, Bool.or_eq_true, decide_eq_true_eq]
    exact ⟨h, by tauto⟩
  · apply hmcs9
    simp only [Bool.and_eq_true, decide_eq_true_eq]
    exact ⟨⟨h.1, h.2.1⟩, h.2.2⟩
  by_contra hnot
  apply hshort
  simp only [Bool.and_eq_true, decide_eq_true_eq, Bool.not_eq_true']
  exact ⟨h, by simpa using hnot⟩

variable {caps : MmrcStaCapabilities}

theorem supports_of_sameRate {a b : MmrcRate} (h : a.SameRate b)
    (hb : caps.Supports b) : caps.Supports a :=
  ⟨h.rate ▸ hb.rates, h.bw ▸ hb.bandwidth, h.ss ▸ hb.spatialStreams, h.guard ▸ hb.guard⟩

theorem validateRate_of_sameRate (caps : MmrcStaCapabilities) {a b : MmrcRate}
    (h : a.SameRate b) : validateRate caps a = validateRate caps b := by
  unfold validateRate
  rw [h.rate, h.bw, h.ss, h.guard]

variable {rate : MmrcRate}

theorem RateOk.of_supports (h : caps.Usable)
    (hsupports : caps.Supports rate) (hvalid : validateRate caps rate = true) :
    RateOk caps (rateUpdateIndex caps rate) := by
  rw [rateUpdateIndex_eq h]
  exact ⟨⟨hsupports.rates, hsupports.bandwidth, hsupports.spatialStreams, hsupports.guard⟩,
    hvalid, rfl⟩

theorem RateOk.of_row (h : caps.Usable) {index : Nat} (hindex : index < rowsFromStaCaps caps)
    (hvalid : validateRate caps (getRateRow caps index) = true) :
    RateOk caps (getRateRow caps index) := by
  obtain ⟨hsupports, _, hrow⟩ := getRateRow_supports h hindex
  exact ⟨hsupports, hvalid, hrow⟩

theorem RateOk.row (h : caps.Usable)
    (hrate : RateOk caps rate) : RateOk caps (getRateRow caps rate.index) := by
  rw [hrate.index, getRateRow_rateIndex h hrate.supports
    ((validateRate_iff caps rate).mp hrate.valid).2.2]
  obtain ⟨hrates, hbandwidth, hstreams, hguard⟩ := hrate.supports
  exact ⟨⟨hrates, hbandwidth, hstreams, hguard⟩, hrate.valid, rfl⟩

theorem RateOk.index_lt (h : caps.Usable)
    (hrate : RateOk caps rate) : rate.index < rowsFromStaCaps caps :=
  hrate.index ▸ rateIndex_lt h rate

theorem RateOk.rate_le (hcaps : caps.Usable) (h : RateOk caps rate) : rate.rate ≤ mmrcMcs9 := by
  have hlt := lt_of_set h.supports.rates
  have hne : rate.rate ≠ mmrcMcs10 := by
    intro hmcs10
    have hset := h.supports.rates
    rw [hmcs10, hcaps.noMcs10] at hset
    cases hset
  unfold mmrcMcs10 at hne
  unfold mmrcMcs9
  omega

/-! ## Steps down -/

section Down

variable {caps : MmrcStaCapabilities} {rssi : Int} (hcaps : caps.Negotiated)
  (hsafe : RetrySafe caps rssi)

include hcaps hsafe

variable {rate : MmrcRate}

theorem RateOk.lowerMcs (h : RateOk caps rate) {mcs : Nat}
    (hmcs : mcs < rate.rate) : RateOk caps (rateUpdateIndex caps { rate with rate := mcs }) := by
  have hle := h.rate_le hcaps.usable
  unfold mmrcMcs9 at hle
  apply RateOk.of_supports hcaps.usable
  · exact ⟨hsafe.rates mcs rate.rate (Nat.le_of_lt hmcs) h.supports.rates, h.supports.bandwidth,
      h.supports.spatialStreams, h.supports.guard⟩
  rw [validateRate_iff]
  refine ⟨fun hmcs10 => ?_, fun hmcs9 => ?_, ((validateRate_iff caps rate).mp h.valid).2.2⟩
  · change mcs = 10 at hmcs10
    omega
  · have : mcs = 9 := hmcs9.1
    omega

theorem RateOk.lowerBw (h : RateOk caps rate) (hmcs : rate.rate = mmrcMcs0) :
    RateOk caps (rateUpdateIndex caps { rate with bw := rate.bw - 1 }) := by
  apply RateOk.of_supports hcaps.usable
  · exact ⟨h.supports.rates, hsafe.bandwidth _ _ (Nat.sub_le rate.bw 1) h.supports.bandwidth,
      h.supports.spatialStreams, h.supports.guard⟩
  rw [validateRate_iff]
  refine ⟨fun hmcs10 => ?_, fun hmcs9 => ?_, fun hshort => ?_⟩
  · exact absurd (hmcs.symm.trans hmcs10) (by decide)
  · exact absurd (hmcs.symm.trans hmcs9.1) (by decide)
  · exact hsafe.sgi _ _ (Nat.sub_le rate.bw 1) h.supports.bandwidth
      (((validateRate_iff caps rate).mp h.valid).2.2 hshort)

theorem RateOk.nextRetryRate (h : RateOk caps rate) (unconverged : Bool)
    (cap : Nat) : RateOk caps (nextRetryRate caps unconverged cap rate) := by
  unfold Mmrc.nextRetryRate
  by_cases hmcs : rate.rate ≠ mmrcMcs0
  · rw [if_pos hmcs]
    apply h.lowerMcs hcaps hsafe
    unfold mmrcMcs0 at hmcs
    by_cases hcap : (unconverged && decide (cap < rate.rate - 1)) = true
    · rw [if_pos hcap]
      rw [Bool.and_eq_true, decide_eq_true_iff] at hcap
      omega
    · rw [if_neg hcap]
      omega
  rw [if_neg hmcs]
  split
  · exact h.lowerBw hcaps hsafe (not_not.mp hmcs)
  · exact h

theorem RateOk.lastRetryRate (h : RateOk caps rate) : RateOk caps (lastRetryRate caps rate) := by
  unfold Mmrc.lastRetryRate
  by_cases hmcs : rate.rate ≠ mmrcMcs0
  · rw [if_pos hmcs]
    exact h.lowerMcs hcaps hsafe (Nat.pos_of_ne_zero hmcs)
  rw [if_neg hmcs]
  split
  · exact h.lowerBw hcaps hsafe (not_not.mp hmcs)
  · exact h

end Down

/-! ## The rates of a table -/

/-- Every rate that the next chain is made of is one that a chain may hold. -/
structure ChainRatesOk (caps : MmrcStaCapabilities) (tb : MmrcTable) : Prop where
  ofCaps : tb.caps = caps
  bestTp : RateOk caps tb.bestTp
  secondTp : RateOk caps tb.secondTp
  bestProb : RateOk caps tb.bestProb
  baseline : RateOk caps tb.baseline
  notFixed : tb.fixedRate.rate = mmrcMcsUnused
  lookaround : tb.currentLookaroundRateIndex < rowsFromStaCaps caps

/-- The two tables have the same rates. -/
structure SameChainRates (tb tb' : MmrcTable) : Prop where
  caps : tb'.caps = tb.caps
  bestTp : tb'.bestTp = tb.bestTp
  secondTp : tb'.secondTp = tb.secondTp
  bestProb : tb'.bestProb = tb.bestProb
  baseline : tb'.baseline = tb.baseline
  fixedRate : tb'.fixedRate = tb.fixedRate
  lookaround : tb'.currentLookaroundRateIndex = tb.currentLookaroundRateIndex

theorem SameChainRates.refl (tb : MmrcTable) : SameChainRates tb tb :=
  ⟨rfl, rfl, rfl, rfl, rfl, rfl, rfl⟩

theorem SameChainRates.trans {tb tb' tb'' : MmrcTable} (h : SameChainRates tb tb')
    (h' : SameChainRates tb' tb'') : SameChainRates tb tb'' :=
  ⟨h'.caps.trans h.caps, h'.bestTp.trans h.bestTp, h'.secondTp.trans h.secondTp,
    h'.bestProb.trans h.bestProb, h'.baseline.trans h.baseline, h'.fixedRate.trans h.fixedRate,
    h'.lookaround.trans h.lookaround⟩

theorem ChainRatesOk.of_same {tb tb' : MmrcTable}
    (h : ChainRatesOk caps tb) (hsame : SameChainRates tb tb') : ChainRatesOk caps tb' where
  ofCaps := hsame.caps.trans h.ofCaps
  bestTp := hsame.bestTp ▸ h.bestTp
  secondTp := hsame.secondTp ▸ h.secondTp
  bestProb := hsame.bestProb ▸ h.bestProb
  baseline := hsame.baseline ▸ h.baseline
  notFixed := hsame.fixedRate ▸ h.notFixed
  lookaround := hsame.lookaround ▸ h.lookaround

theorem sameChainRates_modifyRow (tb : MmrcTable) (index : Nat)
    (f : MmrcStatsTable → MmrcStatsTable) : SameChainRates tb (tb.modifyRow index f) :=
  ⟨rfl, rfl, rfl, rfl, rfl, rfl, rfl⟩

theorem SameChainRates.modifyRow {tb tb' : MmrcTable} (h : SameChainRates tb tb') (index : Nat)
    (f : MmrcStatsTable → MmrcStatsTable) : SameChainRates tb (tb'.modifyRow index f) :=
  h.trans (sameChainRates_modifyRow tb' index f)

theorem sameChainRates_mmrcFeedbackLoop (wasAggregated : Bool) (rates : List MmrcRate)
    (ind : Int) (tb : MmrcTable) :
    SameChainRates tb (mmrcFeedbackLoop wasAggregated rates ind tb) := by
  induction rates generalizing ind tb with
  | nil => exact SameChainRates.refl tb
  | cons rate rates ih =>
    unfold mmrcFeedbackLoop
    dsimp only
    split
    · exact ((sameChainRates_modifyRow tb _ _).modifyRow _ _).trans (ih _ _)
    · exact (sameChainRates_modifyRow tb _ _).modifyRow _ _

theorem sameChainRates_mmrcProcessVariation (tb : MmrcTable) (currentSuccess : U16)
    (index : Nat) : SameChainRates tb (mmrcProcessVariation tb currentSuccess index) := by
  unfold mmrcProcessVariation
  split_ifs
  all_goals exact ⟨rfl, rfl, rfl, rfl, rfl, rfl, rfl⟩

theorem sameChainRates_updateStability (tb : MmrcTable) (prevBestRow prevBestRate bestRow : Nat) :
    SameChainRates tb (updateStability tb prevBestRow prevBestRate bestRow) := by
  unfold updateStability
  dsimp only
  split
  all_goals exact ⟨rfl, rfl, rfl, rfl, rfl, rfl, rfl⟩

section Update

variable (beyond : MmrcRate → U32)

theorem sameChainRates_mmrcUpdateRow (minStats : U32) (state : MmrcTable × Bool) (i : Nat) :
    SameChainRates state.1 (mmrcUpdateRow beyond minStats state i).1 := by
  unfold mmrcUpdateRow
  dsimp only
  apply SameChainRates.modifyRow
  split
  · apply SameChainRates.modifyRow
    split
    · exact (sameChainRates_modifyRow state.1 _ _).trans (sameChainRates_mmrcProcessVariation _ _ _)
    · exact sameChainRates_modifyRow state.1 _ _
  · exact sameChainRates_modifyRow state.1 _ _

theorem sameChainRates_mmrcUpdateRows (minStats : U32) (rows : List Nat)
    (state : MmrcTable × Bool) :
    SameChainRates state.1 (rows.foldl (mmrcUpdateRow beyond minStats) state).1 := by
  induction rows generalizing state with
  | nil => exact SameChainRates.refl state.1
  | cons row rows ih =>
    exact (sameChainRates_mmrcUpdateRow beyond minStats state row).trans (ih _)

/-! ## Initialisation and update -/

theorem rowsFromStaCaps_pos {caps : MmrcStaCapabilities} (h : caps.Usable) :
    0 < rowsFromStaCaps caps :=
  Nat.lt_of_le_of_lt (Nat.zero_le _) (rateIndex_lt h zeroRate)

theorem mmrcMaxBw_mem {bandwidth : BitVec 5} (h : bandwidth ≠ 0) :
    bandwidth.getLsbD (mmrcMaxBw bandwidth) = true := by
  have hall : ∀ bandwidth : BitVec 5, bandwidth ≠ 0 →
      bandwidth.getLsbD (mmrcMaxBw bandwidth) = true := by decide
  exact hall bandwidth h

theorem initialMcs_le (bw : Nat) (rssi : Int) : initialMcs bw rssi ≤ mmrcMcs7 := by
  unfold initialMcs
  split_ifs <;> decide

variable {caps : MmrcStaCapabilities} {rssi : Int} (hcaps : caps.Negotiated)
  (hsafe : RetrySafe caps rssi)

include hcaps hsafe

variable {tb : MmrcTable}

theorem chainRatesOk_mmrcFillRetryRates (htb : tb.caps = caps)
    (hbest : RateOk caps tb.bestTp) (hfixed : tb.fixedRate.rate = mmrcMcsUnused)
    (hlookaround : tb.currentLookaroundRateIndex < rowsFromStaCaps caps) :
    ChainRatesOk caps (mmrcFillRetryRates tb) := by
  subst htb
  have hsecond := hbest.nextRetryRate hcaps hsafe tb.unconverged mmrcMcs4
  have hprob := hsecond.nextRetryRate hcaps hsafe tb.unconverged mmrcMcs2
  exact ⟨rfl, hbest, hsecond, hprob, hprob.lastRetryRate hcaps hsafe, hfixed, hlookaround⟩

theorem chainRatesOk_mmrcStaInit : ChainRatesOk caps (mmrcStaInit beyond caps rssi) := by
  have hguess := initialMcs_le (mmrcMaxBw caps.bandwidth) rssi
  unfold mmrcMcs7 at hguess
  have hbw := mmrcMaxBw_mem hcaps.usable.bandwidth
  apply chainRatesOk_mmrcFillRetryRates hcaps hsafe rfl _ rfl (rowsFromStaCaps_pos hcaps.usable)
  apply RateOk.of_supports hcaps.usable
  · refine ⟨hsafe.guess, hbw, hcaps.stream, ?_⟩
    show caps.guard.getLsbD (if _ then _ else _) = true
    split
    · next hshort => exact hcaps.guardShort _ hshort
    · exact hcaps.usable.guardLong
  rw [validateRate_iff]
  refine ⟨fun hmcs10 => ?_, fun hmcs9 => ?_, fun hshort => ?_⟩
  · change initialMcs (mmrcMaxBw caps.bandwidth) rssi = 10 at hmcs10
    omega
  · have : initialMcs (mmrcMaxBw caps.bandwidth) rssi = 9 := hmcs9.1
    omega
  change (if caps.sgiPerBw.getLsbD (mmrcMaxBw caps.bandwidth) then _ else _) = _ at hshort
  split at hshort
  · next hset => exact hset
  · cases hshort

omit hsafe in
theorem prioritySearch_bestRow (h : ChainRatesOk caps tb) :
    ∃ rate, RateOk caps rate ∧ (prioritySearch beyond tb).bestRow = rate.index := by
  unfold prioritySearch
  refine List.foldlRecOn (motive := fun search : PrioritySearch =>
    ∃ rate, RateOk caps rate ∧ search.bestRow = rate.index) _ _ ⟨tb.bestTp, h.bestTp, rfl⟩ ?_
  intro search hsearch i hi
  have hlt : i < rowsFromStaCaps tb.caps := List.mem_range.mp hi
  unfold prioritySearchStep
  dsimp only
  split
  · exact hsearch
  next hvalid =>
    rw [h.ofCaps] at hvalid hlt ⊢
    have hrow := RateOk.of_row hcaps.usable hlt (by simpa using hvalid)
    split_ifs
    · exact hsearch
    · exact ⟨_, hrow, rfl⟩
    · exact ⟨_, hrow, rfl⟩
    all_goals exact hsearch

theorem chainRatesOk_generateTablePriority (h : ChainRatesOk caps tb)
    (newStats : Bool) : ChainRatesOk caps (generateTablePriority beyond tb newStats) := by
  obtain ⟨rate, hrate, hrow⟩ := prioritySearch_bestRow beyond hcaps h
  unfold generateTablePriority
  rw [if_neg (not_not.mpr h.notFixed)]
  dsimp only
  split
  · exact h
  refine ChainRatesOk.of_same ?_ (sameChainRates_updateStability _ _ _ _)
  refine chainRatesOk_mmrcFillRetryRates hcaps hsafe h.ofCaps ?_ h.notFixed h.lookaround
  rw [hrow, h.ofCaps]
  have hbest := hrate.row hcaps.usable
  dsimp only
  split
  · next hdrop =>
      rw [Bool.and_eq_true, decide_eq_true_iff, decide_eq_true_iff] at hdrop
      have hpos : 0 < (getRateRow caps rate.index).rate := hdrop.2
      exact hbest.lowerMcs hcaps hsafe (by omega)
  · exact hbest

theorem chainRatesOk_mmrcUpdate (h : ChainRatesOk caps tb) :
    ChainRatesOk caps (mmrcUpdate beyond tb) := by
  unfold mmrcUpdate
  dsimp only
  have hcycle : SameChainRates tb { tb with cycleCnt := tb.cycleCnt + 1 } :=
    ⟨rfl, rfl, rfl, rfl, rfl, rfl, rfl⟩
  have hrows := sameChainRates_mmrcUpdateRows beyond
    (if tb.lookaroundWrap ≠ lookaroundRateInit then statsMinNormal else statsMinInit)
    (List.range (rowsFromStaCaps tb.caps)) ({ tb with cycleCnt := tb.cycleCnt + 1 }, false)
  generalize List.foldl (mmrcUpdateRow beyond _) _ _ = state at hrows ⊢
  have hnext := chainRatesOk_generateTablePriority beyond hcaps hsafe
    (h.of_same (hcycle.trans hrows)) state.2
  generalize generateTablePriority beyond state.1 state.2 = next at hnext ⊢
  split
  all_goals exact hnext.of_same ⟨rfl, rfl, rfl, rfl, rfl, rfl, rfl⟩

end Update

/-! ## The chain -/

/-- Every rate before the first unused one is in the capabilities, is valid, and is
attempted between once and twice. -/
def RespectsCapabilities (caps : MmrcStaCapabilities) (rates : List MmrcRate) : Prop :=
  ∀ rate ∈ rates.takeWhile fun rate => rate.rate ≠ mmrcMcsUnused,
    caps.Supports rate ∧ validateRate caps rate = true
      ∧ mmrcMinChainAttempts ≤ rate.attempts.toNat ∧ rate.attempts.toNat ≤ mmrcMaxChainAttempts

theorem sameChainRates_lookaroundDue (tb : MmrcTable) :
    SameChainRates tb (lookaroundDue tb).2 := by
  unfold lookaroundDue
  dsimp only
  split_ifs
  all_goals exact ⟨rfl, rfl, rfl, rfl, rfl, rfl, rfl⟩

section GetRates

variable (beyond : MmrcRate → U32)

theorem MmrcRate.SameRate.refl (rate : MmrcRate) : rate.SameRate rate := ⟨rfl, rfl, rfl, rfl⟩

theorem MmrcRate.SameRate.trans {a b c : MmrcRate} (h : a.SameRate b) (h' : b.SameRate c) :
    a.SameRate c :=
  ⟨h.rate.trans h'.rate, h.bw.trans h'.bw, h.ss.trans h'.ss, h.guard.trans h'.guard⟩

theorem sameRate_mapIdx {f : Nat → MmrcRate → MmrcRate} (hf : ∀ i rate, (f i rate).SameRate rate)
    (rates : List MmrcRate) : List.Forall₂ MmrcRate.SameRate (rates.mapIdx f) rates := by
  induction rates generalizing f with
  | nil => exact List.Forall₂.nil
  | cons rate rates ih =>
    rw [List.mapIdx_cons]
    exact List.Forall₂.cons (hf 0 rate) (ih fun i rate => hf (i + 1) rate)

theorem sameRate_modify {f : MmrcRate → MmrcRate} (hf : ∀ rate, (f rate).SameRate rate)
    (rates : List MmrcRate) (i : Nat) :
    List.Forall₂ MmrcRate.SameRate (rates.modify i f) rates := by
  induction rates generalizing i with
  | nil =>
    rw [List.modify_nil]
    exact List.Forall₂.nil
  | cons rate rates ih =>
    cases i with
    | zero =>
      rw [List.modify_zero_cons]
      exact List.Forall₂.cons (hf rate) (List.forall₂_same.mpr fun _ _ => .refl _)
    | succ i =>
      rw [List.modify_succ_cons]
      exact List.Forall₂.cons (.refl rate) (ih i)

theorem sameRate_allocateInitialAttempts (size : U32) (rates : List MmrcRate) (remTime : U32) :
    List.Forall₂ MmrcRate.SameRate (allocateInitialAttempts size rates remTime).1 rates := by
  induction rates generalizing remTime with
  | nil => exact List.Forall₂.nil
  | cons rate rates ih =>
    unfold allocateInitialAttempts
    split
    · exact List.forall₂_same.mpr fun _ _ => .refl _
    · dsimp only
      split
      all_goals exact List.Forall₂.cons ⟨rfl, rfl, rfl, rfl⟩ (ih _)

theorem sameRate_remainingAttempts (tb : MmrcTable) (size remTime : U32) (i : Nat)
    (rate : MmrcRate) : (remainingAttempts beyond tb size remTime i rate).SameRate rate := by
  unfold remainingAttempts
  dsimp only
  split_ifs
  all_goals exact ⟨rfl, rfl, rfl, rfl⟩

theorem sameRate_calculateRemainingAttempts (tb : MmrcTable) (size remTime : U32)
    (rates : List MmrcRate) :
    List.Forall₂ MmrcRate.SameRate (calculateRemainingAttempts beyond tb size remTime rates)
      rates := by
  have hfrom : ∀ i, List.Forall₂ MmrcRate.SameRate
      (remainingAttemptsFrom beyond tb size remTime i rates) rates := by
    induction rates with
    | nil => exact fun _ => List.Forall₂.nil
    | cons rate rates ih =>
      intro i
      unfold remainingAttemptsFrom
      split
      · exact List.forall₂_same.mpr fun _ _ => .refl _
      · exact List.Forall₂.cons (sameRate_remainingAttempts beyond tb size remTime i rate)
          (ih (i + 1))
  unfold calculateRemainingAttempts
  split
  · exact List.forall₂_same.mpr fun _ _ => .refl _
  · exact hfrom 0

theorem sameRate_limitAttempts (tb : MmrcTable) (lookaroundIndex : Option Nat) (i : Nat)
    (rate : MmrcRate) : (limitAttempts tb lookaroundIndex i rate).SameRate rate := by
  unfold limitAttempts
  dsimp only
  split
  all_goals exact ⟨rfl, rfl, rfl, rfl⟩

theorem sameRate_bestRateAttempts (rate : MmrcRate) : (bestRateAttempts rate).SameRate rate := by
  unfold bestRateAttempts
  split_ifs
  all_goals exact ⟨rfl, rfl, rfl, rfl⟩

theorem sameRate_chainAttempts (tb : MmrcTable) (size : U32) (isLookaround : Bool)
    (rates : List MmrcRate) :
    List.Forall₂ MmrcRate.SameRate (chainAttempts beyond tb size isLookaround rates) rates := by
  have htrans : ∀ {as bs cs : List MmrcRate}, List.Forall₂ MmrcRate.SameRate as bs →
      List.Forall₂ MmrcRate.SameRate bs cs → List.Forall₂ MmrcRate.SameRate as cs := by
    intro as bs cs hab
    induction hab generalizing cs with
    | nil => exact id
    | cons hhead _ ih =>
      intro hbc
      cases hbc with
      | cons hhead' htail => exact .cons (hhead.trans hhead') (ih htail)
  unfold chainAttempts
  dsimp only
  refine htrans (sameRate_modify sameRate_bestRateAttempts _ _) ?_
  refine htrans (sameRate_mapIdx (fun i rate => sameRate_limitAttempts tb _ i rate) _) ?_
  refine htrans (sameRate_calculateRemainingAttempts beyond tb size _ _) ?_
  refine htrans (sameRate_allocateInitialAttempts size _ _) ?_
  refine sameRate_mapIdx (fun i rate => ?_) rates
  split
  all_goals exact ⟨rfl, rfl, rfl, rfl⟩

/-- Between one and two attempts, unless the rate is unused. -/
def AttemptsOk (rate : MmrcRate) : Prop :=
  rate.rate ≠ mmrcMcsUnused →
    mmrcMinChainAttempts ≤ rate.attempts.toNat ∧ rate.attempts.toNat ≤ mmrcMaxChainAttempts

theorem attemptsOk_limitAttempts (tb : MmrcTable) (lookaroundIndex : Option Nat) (i : Nat)
    (rate : MmrcRate) : AttemptsOk (limitAttempts tb lookaroundIndex i rate) := by
  have hbounds : ∀ attempts : BitVec 3, ∀ once : Bool,
      mmrcMinChainAttempts ≤ BitVec.toNat
          (if once then 1 else if 2 < (if attempts = 0 then 1 else attempts) then 2
            else if attempts = 0 then 1 else attempts)
        ∧ BitVec.toNat
          (if once then 1 else if 2 < (if attempts = 0 then 1 else attempts) then 2
            else if attempts = 0 then 1 else attempts) ≤ mmrcMaxChainAttempts := by decide
  unfold limitAttempts
  dsimp only
  split
  · next hunused => exact fun hused => absurd hunused hused
  · exact fun _ => hbounds rate.attempts _

theorem attemptsOk_bestRateAttempts {rate : MmrcRate} (h : AttemptsOk rate) :
    AttemptsOk (bestRateAttempts rate) := by
  unfold bestRateAttempts
  split_ifs
  · exact fun _ => (by decide : mmrcMinChainAttempts ≤ 2 ∧ 2 ≤ mmrcMaxChainAttempts)
  · exact fun _ => (by decide : mmrcMinChainAttempts ≤ 1 ∧ 1 ≤ mmrcMaxChainAttempts)
  · exact h

theorem attemptsOk_chainAttempts (tb : MmrcTable) (size : U32) (isLookaround : Bool)
    (rates : List MmrcRate) :
    ∀ rate ∈ chainAttempts beyond tb size isLookaround rates, AttemptsOk rate := by
  have hmodify : ∀ (entries : List MmrcRate) (i : Nat), (∀ rate ∈ entries, AttemptsOk rate) →
      ∀ rate ∈ entries.modify i bestRateAttempts, AttemptsOk rate := by
    intro entries i hentries rate hrate
    obtain ⟨k, hk, rfl⟩ := List.mem_iff_getElem.mp hrate
    rw [List.getElem_modify]
    split
    · exact attemptsOk_bestRateAttempts (hentries _ (List.getElem_mem _))
    · exact hentries _ (List.getElem_mem _)
  unfold chainAttempts
  dsimp only
  apply hmodify
  intro rate hrate
  obtain ⟨i, hi, rfl⟩ := List.mem_mapIdx.mp hrate
  exact attemptsOk_limitAttempts tb _ i _

theorem respectsCapabilities_chainAttempts {caps : MmrcStaCapabilities} (tb : MmrcTable)
    (size : U32) (isLookaround : Bool) {rates : List MmrcRate}
    (hrates : ∀ rate ∈ rates, RateOk caps rate) :
    RespectsCapabilities caps (chainAttempts beyond tb size isLookaround rates) := by
  have hsame := sameRate_chainAttempts beyond tb size isLookaround rates
  have hattempts := attemptsOk_chainAttempts beyond tb size isLookaround rates
  generalize chainAttempts beyond tb size isLookaround rates = chain at hsame hattempts
  have hall : ∀ rate ∈ chain, caps.Supports rate ∧ validateRate caps rate = true := by
    clear hattempts
    induction hsame with
    | nil => exact fun _ h => absurd h List.not_mem_nil
    | cons hhead _ ih =>
      intro rate hrate
      rcases List.mem_cons.mp hrate with rfl | hrate
      · have hok := hrates _ (List.mem_cons_self ..)
        exact ⟨supports_of_sameRate hhead hok.supports,
          (validateRate_of_sameRate caps hhead).trans hok.valid⟩
      · exact ih (fun r hr => hrates r (List.mem_cons_of_mem _ hr)) rate hrate
  intro rate hrate
  have hused : rate.rate ≠ mmrcMcsUnused := by simpa using List.mem_takeWhile_imp hrate
  have hmem := List.takeWhile_subset _ hrate
  exact ⟨(hall rate hmem).1, (hall rate hmem).2, hattempts rate hmem hused⟩

variable {caps : MmrcStaCapabilities} (hcaps : caps.Negotiated)

include hcaps

variable {tb : MmrcTable}

theorem rateOk_chainRates (h : ChainRatesOk caps tb) (isLookaround : Bool)
    {lookaround0 lookaround1 : MmrcRate} (h₀ : RateOk caps lookaround0)
    (h₁ : RateOk caps lookaround1) :
    ∀ rate ∈ chainRates tb isLookaround lookaround0 lookaround1, RateOk caps rate := by
  have hfour : tb.caps.maxRates = 4 := h.ofCaps ▸ hcaps.maxRates
  unfold chainRates
  dsimp only
  rw [if_neg (by omega), if_neg (by omega), if_neg (by omega)]
  intro rate hrate
  simp only [List.mem_cons, List.not_mem_nil, or_false] at hrate
  rcases hrate with rfl | rfl | rfl | rfl
  · split
    · exact h₀
    · exact h.bestTp
  · split
    · exact h₁
    · exact h.secondTp
  · exact h.bestProb
  · exact h.baseline

theorem lookaroundSearch_ok (h : ChainRatesOk caps tb) (bestTp : U32)
    (random : Nat → Nat) (tries : Nat) (tryCurrent : Bool) {rate : MmrcRate} {tb' : MmrcTable}
    (hfound : lookaroundSearch beyond tb bestTp random tries tryCurrent = some (rate, tb')) :
    RateOk caps rate ∧ ChainRatesOk caps tb' := by
  have hpos := rowsFromStaCaps_pos hcaps.usable
  induction tries generalizing tryCurrent with
  | zero => cases hfound
  | succ tries ih =>
    unfold lookaroundSearch at hfound
    dsimp only at hfound
    have hindex : (if tryCurrent then tb.currentLookaroundRateIndex
        else random tries % rowsFromStaCaps tb.caps) < rowsFromStaCaps caps := by
      split
      · exact h.lookaround
      · rw [h.ofCaps]
        exact Nat.mod_lt _ hpos
    generalize (if tryCurrent then tb.currentLookaroundRateIndex
      else random tries % rowsFromStaCaps tb.caps) = randomIndex at hindex hfound
    rw [h.ofCaps] at hfound
    generalize (if 0 < (tb.table randomIndex).evidence then _ else _) = randomTp at hfound
    split_ifs at hfound with hvalid
    · exact ih false hfound
    · exact ih false hfound
    · exact ih false hfound
    · exact ih false hfound
    · cases hfound
      have hrow := RateOk.of_row hcaps.usable hindex (by simpa using hvalid)
      exact ⟨hrow, rfl, h.bestTp, h.secondTp, h.bestProb, h.baseline, h.notFixed,
        h.lookaround⟩
    · cases hfound
      have hrow := RateOk.of_row hcaps.usable hindex (by simpa using hvalid)
      exact ⟨hrow, rfl, h.bestTp, h.secondTp, h.bestProb, h.baseline, h.notFixed, hindex⟩

theorem lookaround_ok (h : ChainRatesOk caps tb) (random : Nat → Nat) :
    (∀ rate ∈ (lookaround beyond tb random).1, RateOk caps rate)
      ∧ ChainRatesOk caps (lookaround beyond tb random).2 := by
  unfold lookaround
  dsimp only
  split
  · refine ⟨fun rate hrate => (by cases hrate), ?_⟩
    exact ⟨h.ofCaps, h.bestTp, h.secondTp, h.bestProb, h.baseline, h.notFixed,
      h.bestTp.index_lt hcaps.usable⟩
  next rate tb' hfound =>
    have hcounted : ChainRatesOk caps
        { tb with
          totalLookaround := tb.totalLookaround + 1
          forcedLookaround := (tb.forcedLookaround + 1) % lookaroundRateNormal
          lastLookaroundCycle := tb.cycleCnt } :=
      h.of_same ⟨rfl, rfl, rfl, rfl, rfl, rfl, rfl⟩
    obtain ⟨hrate, htb⟩ := lookaroundSearch_ok beyond hcaps hcounted _ _ _ _ hfound
    refine ⟨fun found hfound => ?_, htb⟩
    cases hfound
    exact hrate

theorem mmrcGetRates_ok (h : ChainRatesOk caps tb) (size : U32) (random : Nat → Nat) :
    ChainRatesOk caps (mmrcGetRates beyond tb size random).1
      ∧ RespectsCapabilities caps (mmrcGetRates beyond tb size random).2.rates := by
  have hdue := h.of_same (sameChainRates_lookaroundDue tb)
  have hlook := lookaround_ok beyond hcaps hdue random
  show ChainRatesOk caps (mmrcGetRatesList beyond tb size random).1
    ∧ RespectsCapabilities caps (mmrcGetRatesList beyond tb size random).2
  unfold mmrcGetRatesList
  dsimp only
  -- Whether the search ran or not, what it found and the table are as they have to be.
  generalize hstate : (if (lookaroundDue tb).1 = true
    then lookaround beyond (lookaroundDue tb).2 random else (none, (lookaroundDue tb).2)) = state
  have hstateOk : (∀ rate ∈ state.1, RateOk caps rate) ∧ ChainRatesOk caps state.2 := by
    rw [← hstate]
    split
    · exact hlook
    · exact ⟨fun rate hrate => (by cases hrate), hdue⟩
  obtain ⟨hfound, htb⟩ := hstateOk
  split
  · next rate hrate =>
      exact ⟨htb, respectsCapabilities_chainAttempts beyond _ size true
        (rateOk_chainRates hcaps htb true (hfound rate hrate) htb.bestTp)⟩
  · exact ⟨htb, respectsCapabilities_chainAttempts beyond _ size false
      (rateOk_chainRates hcaps htb false htb.bestTp htb.secondTp)⟩

end GetRates

end MmIotEsp32.Mmrc
