/-
  MmIotEsp32.Umac.Rc.UmacRc

  The rate control of a station record (`umac/rc/umac_rc.c`).

  `umac_rc_start` negotiates the capabilities of the table, the chains of frames are taken
  from it and changed by the overrides and the MCS10 mode, and the transmit status is fed
  back to it.
-/
import MmIotEsp32.Lib.Transition
import MmIotEsp32.Mmrc.RetryChains

namespace MmIotEsp32.Umac.Rc

open Mmrc Lib

/-! ## Start -/

def supportedMaxRates : Nat := 4

/-- The capabilities of the chip that are looked at. -/
structure MorseCaps where
  mhz2 : Bool
  mhz4 : Bool
  mhz8 : Bool
  mhz16 : Bool
  mcs8 : Bool
  mcs9 : Bool

def umacInterfaceMaxSupportedBw (caps : MorseCaps) : Nat :=
  if caps.mhz16 then 16
  else if caps.mhz8 then 8
  else if caps.mhz4 then 4
  else if caps.mhz2 then 2
  else 1

/-- What `umac_rc_start` reads: its arguments, the configuration and the operation of the
network. -/
structure RcStart where
  morseCaps : MorseCaps
  sgiEnabled : Bool
  subbandsEnabled : Bool
  operationChannelWidthMhz : U8
  sgiFlags : U8
  maxMcs : U8

/-- The bandwidths up to the one that is supported, by the cases that fall through. -/
def bandwidthsUpTo (maxBw : Nat) : BitVec 5 :=
  (if 16 ≤ maxBw then 0b10000 else 0) ||| (if 8 ≤ maxBw then 0b01000 else 0)
    ||| (if 4 ≤ maxBw then 0b00100 else 0) ||| (if 2 ≤ maxBw then 0b00010 else 0) ||| 0b00001

def localCapabilities (start : RcStart) : MmrcStaCapabilities :=
  let maxBw := umacInterfaceMaxSupportedBw start.morseCaps
  { maxRates := 0
    maxRetries := 0
    bandwidth := bandwidthsUpTo maxBw
    spatialStreams := 0b0001
    rates := 0b00011111111 ||| (if start.morseCaps.mcs8 then 0b00100000000 else 0)
      ||| (if start.morseCaps.mcs9 then 0b01000000000 else 0)
    guard := if start.sgiEnabled then 0b11 else 0b01
    sgiPerBw := if start.sgiEnabled then bandwidthsUpTo maxBw else 0 }

/-- `capabilities`: what both sides have. -/
def negotiatedCapabilities (start : RcStart) : MmrcStaCapabilities :=
  let ours := localCapabilities start
  let width : U16 := start.operationChannelWidthMhz.setWidth 16
  let supportedBws := if start.subbandsEnabled then width ||| (width - 1) else width
  let mask : U32 := (1 : U32) <<< start.maxMcs.toNat
  let sgiPerBw := ours.sgiPerBw &&& start.sgiFlags.setWidth 5
  { ours with
    bandwidth := ours.bandwidth &&& supportedBws.setWidth 5
    rates := ours.rates &&& (mask ||| (mask - 1)).setWidth 11
    sgiPerBw := sgiPerBw
    guard := if sgiPerBw = 0 then ours.guard &&& ~~~0b10 else ours.guard
    maxRates := supportedMaxRates
    maxRetries := mmrcMaxChainAttempts }

/-- `umac_rc_start`: the capabilities of the table, `none` when it gives up. -/
def umacRcStart (start : RcStart) : Option MmrcStaCapabilities :=
  let capabilities := negotiatedCapabilities start
  if capabilities.bandwidth = 0 || capabilities.rates = 0 then none else some capabilities

/-! ## Chains -/

inductive MmwlanGi where
  | short
  | long
  deriving DecidableEq

inductive MmwlanMcs10Mode where
  | disabled
  | forced
  | auto
  deriving DecidableEq

/-- `struct umac_config_rc_override`, where `none` is `MMWLAN_MCS_NONE` and the like. -/
structure UmacConfigRcOverride where
  txRate : Option (Fin 10)
  guardInterval : Option MmwlanGi
  /-- an `enum mmrc_bw` up to 8 MHz -/
  bandwidth : Option (Fin 4)

/-- `apply_rate_table_overrides` for one rate. -/
def UmacConfigRcOverride.apply (override : UmacConfigRcOverride) (rate : MmrcRate) : MmrcRate :=
  { rate with
    rate := match override.txRate with
      | none => rate.rate
      | some mcs => mcs.val
    guard := match override.guardInterval with
      | none => rate.guard
      | some .short => mmrcGuardShort
      | some .long => mmrcGuardLong
    bw := match override.bandwidth with
      | none => rate.bw
      | some bw => bw.val }

/-- MCS 0 at 1 MHz becomes MCS10. -/
def toMcs10 (rate : MmrcRate) : MmrcRate :=
  if rate.rate = mmrcMcs0 && rate.bw = mmrcBw1mhz then { rate with rate := mmrcMcs10 } else rate

/-- `apply_mcs10_mode` for the rate with the number `i`. -/
def applyMcs10Mode (mode : MmwlanMcs10Mode) (i : Nat) (rate : MmrcRate) : MmrcRate :=
  match mode with
  | .disabled => rate
  | .forced => toMcs10 rate
  | .auto => if i = 0 then rate else toMcs10 rate

/-- Both, for the whole chain. -/
def applyConfig (override : UmacConfigRcOverride) (mode : MmwlanMcs10Mode)
    (table : MmrcRateTable) : MmrcRateTable :=
  { rates := (table.rates.map override.apply).mapIdx (applyMcs10Mode mode)
    length_rates := by rw [List.length_mapIdx, List.length_map, table.length_rates] }

/-- `umac_rc_init_rate_table_mgmt`, over what the table held before. -/
def umacRcInitRateTableMgmt (override : UmacConfigRcOverride) (mode : MmwlanMcs10Mode)
    (primaryChannelWidthMhz : U8) (table : MmrcRateTable) (rtsRequired : Bool) : MmrcRateTable :=
  let first (rate : MmrcRate) : MmrcRate :=
    { rate with
      attempts := 5
      rate := mmrcMcs0
      bw := if primaryChannelWidthMhz = 1 then mmrcBw1mhz else mmrcBw2mhz
      guard := mmrcGuardLong
      ss := mmrcSpatialStream1
      flags := if rtsRequired then mmrcFlagsCtsRts else 0 }
  applyConfig override mode
    { rates := table.rates.mapIdx fun i rate =>
        if i = 0 then first rate else { rate with rate := mmrcMcsUnused }
      length_rates := by rw [List.length_mapIdx, table.length_rates] }

structure UmacRcStaData where
  referenceTable : Option MmrcTable
  nextUpdateTimeMs : U32

variable (beyond : MmrcRate → U32)

def umacRcInitRateTableData (staData : UmacRcStaData) (override : UmacConfigRcOverride)
    (mode : MmwlanMcs10Mode) (primaryChannelWidthMhz : U8) (table : MmrcRateTable)
    (rtsRequired : Bool) (frameSize : U32) (random : Nat → Nat) : UmacRcStaData × MmrcRateTable :=
  match staData.referenceTable with
  | none =>
    (staData, umacRcInitRateTableMgmt override mode primaryChannelWidthMhz table rtsRequired)
  | some tb =>
    let (tb, chain) := mmrcGetRates beyond tb frameSize random
    let chain : MmrcRateTable :=
      { rates := chain.rates.map fun rate => if rtsRequired then rate.withRtsCts else rate
        length_rates := by rw [List.length_map, chain.length_rates] }
    ({ staData with referenceTable := some tb }, applyConfig override mode chain)

/-! ## Feedback -/

def umacRcUpdate (staData : UmacRcStaData) (now : U32) : UmacRcStaData :=
  { referenceTable := staData.referenceTable.map (mmrcUpdate beyond)
    nextUpdateTimeMs := now + 100 }

/-- `umac_rc_feedback` of a transmit status: the chain, the attempts, and whether the frame
was aggregated. -/
def umacRcFeedback (staData : UmacRcStaData) (rateTable : MmrcRateTable) (attempts : U8)
    (wasAggregated : Bool) (now : U32) : UmacRcStaData :=
  if (rateTable.rates.head?.map fun rate => rate.attempts) = some 0 then staData
  else if attempts = 0 then staData
  else
    let staData :=
      { staData with
        referenceTable := staData.referenceTable.map fun tb =>
          mmrcFeedback tb rateTable attempts.toNat wasAggregated }
    if mmosalTimeHasPassed staData.nextUpdateTimeMs now then umacRcUpdate beyond staData now
    else staData

/-! ## The capabilities that are negotiated -/

variable {caps : MmrcStaCapabilities} {start : RcStart}

theorem umacRcStart_eq_some (h : umacRcStart start = some caps) :
    caps = negotiatedCapabilities start ∧ caps.bandwidth ≠ 0 ∧ caps.rates ≠ 0 := by
  unfold umacRcStart at h
  dsimp only at h
  by_cases hnone : (negotiatedCapabilities start).bandwidth = 0
      ∨ (negotiatedCapabilities start).rates = 0
  · rw [if_pos (by simpa using hnone)] at h
    cases h
  rw [if_neg (by simpa using hnone)] at h
  cases h
  rw [not_or] at hnone
  exact ⟨rfl, hnone⟩

theorem localCapabilities_mcs10 (start : RcStart) :
    (localCapabilities start).rates.getLsbD mmrcMcs10 = false := by
  have hbits : ∀ mcs8 mcs9 : Bool,
      ((0b00011111111 : BitVec 11) ||| (if mcs8 then 0b00100000000 else 0)
        ||| (if mcs9 then 0b01000000000 else 0)).getLsbD mmrcMcs10 = false := by decide
  exact hbits start.morseCaps.mcs8 start.morseCaps.mcs9

theorem negotiatedCapabilities_guardLong (start : RcStart) :
    (negotiatedCapabilities start).guard.getLsbD mmrcGuardLong = true := by
  have hbits : ∀ enabled dropped : Bool,
      (if dropped then (if enabled then (0b11 : BitVec 2) else 0b01) &&& ~~~0b10
        else if enabled then 0b11 else 0b01).getLsbD mmrcGuardLong = true := by decide
  have h := hbits start.sgiEnabled (decide ((negotiatedCapabilities start).sgiPerBw = 0))
  simp only [decide_eq_true_eq] at h
  exact h

theorem umacRcStart_usable (h : umacRcStart start = some caps) : caps.Usable := by
  obtain ⟨rfl, hbandwidth, hrates⟩ := umacRcStart_eq_some h
  refine ⟨?_, hrates, hbandwidth, ?_, negotiatedCapabilities_guardLong start⟩
  · show ((localCapabilities start).rates &&& _).getLsbD mmrcMcs10 = false
    rw [BitVec.getLsbD_and, localCapabilities_mcs10, Bool.false_and]
  · show (0b0001 : BitVec 4) ≠ 0
    decide

theorem negotiatedCapabilities_guardShort {bw : Nat}
    (h : (negotiatedCapabilities start).sgiPerBw.getLsbD bw = true) :
    (negotiatedCapabilities start).guard.getLsbD mmrcGuardShort = true := by
  have hsome : (negotiatedCapabilities start).sgiPerBw ≠ 0 := by
    intro hzero
    rw [hzero] at h
    simp at h
  have hours : (localCapabilities start).sgiPerBw.getLsbD bw = true := by
    change ((localCapabilities start).sgiPerBw &&& _).getLsbD bw = true at h
    rw [BitVec.getLsbD_and, Bool.and_eq_true] at h
    exact h.1
  have henabled : start.sgiEnabled = true := by
    by_contra hdisabled
    change (if start.sgiEnabled then _ else (0 : BitVec 5)).getLsbD bw = true at hours
    rw [if_neg hdisabled] at hours
    simp at hours
  show (if (negotiatedCapabilities start).sgiPerBw = 0 then _
    else (if start.sgiEnabled then (0b11 : BitVec 2) else 0b01)).getLsbD mmrcGuardShort = true
  rw [if_neg hsome, henabled]
  rfl

theorem umacRcStart_negotiated (h : umacRcStart start = some caps) : caps.Negotiated := by
  have husable := umacRcStart_usable h
  obtain ⟨rfl, -, -⟩ := umacRcStart_eq_some h
  refine ⟨husable, ?_, fun _ => negotiatedCapabilities_guardShort, rfl⟩
  show (0b0001 : BitVec 4).getLsbD mmrcSpatialStream1 = true
  decide

/-- What happens to a table. -/
inductive RcEvent where
  | feedback (rates : MmrcRateTable) (retryCount : Int) (wasAggregated : Bool)
  | update
  | getRates (size : U32) (random : Nat → Nat)

def rcStep (tb : MmrcTable) : RcEvent → Option MmrcTable
  | .feedback rates retryCount wasAggregated =>
    some (mmrcFeedback tb rates retryCount wasAggregated)
  | .update => some (mmrcUpdate beyond tb)
  | .getRates size random => some (mmrcGetRates beyond tb size random).1

/-- A chain for a frame that is not empty respects the capabilities of the table. -/
def ChainRespects (tb : MmrcTable) : RcEvent → Prop
  | .getRates size random =>
    size ≠ 0 → RespectsCapabilities tb.caps (mmrcGetRates beyond tb size random).2.rates
  | _ => True

section Safe

variable {caps : MmrcStaCapabilities} {rssi : Int} (hcaps : caps.Negotiated)
  (hsafe : RetrySafe caps rssi)

include hcaps hsafe

theorem chainRatesOk_rcStep {tb tb' : MmrcTable} {event : RcEvent} (h : ChainRatesOk caps tb)
    (hstep : rcStep beyond tb event = some tb') : ChainRatesOk caps tb' := by
  cases event with
  | feedback rates retryCount wasAggregated =>
    cases hstep
    exact h.of_same (sameChainRates_mmrcFeedbackLoop wasAggregated rates.rates retryCount tb)
  | update =>
    cases hstep
    exact chainRatesOk_mmrcUpdate beyond hcaps hsafe h
  | getRates size random =>
    cases hstep
    exact (mmrcGetRates_ok beyond hcaps h size random).1

theorem chainRatesOk_throughout (events : List RcEvent) :
    Throughout (rcStep beyond) (ChainRatesOk caps) (mmrcStaInit beyond caps rssi) events :=
  throughout_of_invariant (fun _ _ _ h hstep => chainRatesOk_rcStep beyond hcaps hsafe h hstep)
    (chainRatesOk_mmrcStaInit beyond hcaps hsafe) events

omit hsafe in
theorem chainRespects_of_chainRatesOk {tb : MmrcTable} (h : ChainRatesOk caps tb)
    (event : RcEvent) : ChainRespects beyond tb event := by
  cases event with
  | feedback rates retryCount wasAggregated | update => trivial
  | getRates size random =>
    intro _
    rw [h.ofCaps]
    exact (mmrcGetRates_ok beyond hcaps h size random).2

end Safe

/-- Of a table that `umac_rc_start` has started with capabilities that go all the way down:
in every run every chain respects the capabilities. -/
theorem getRates_respectsCapabilities {start : RcStart} {caps : MmrcStaCapabilities}
    (hstart : umacRcStart start = some caps) {rssi : Int} (hsafe : RetrySafe caps rssi)
    (events : List RcEvent) :
    Along (rcStep beyond) (ChainRespects beyond) (mmrcStaInit beyond caps rssi) events := by
  have hcaps := umacRcStart_negotiated hstart
  exact (chainRatesOk_throughout beyond hcaps hsafe events).along_of
    fun _ event h => chainRespects_of_chainRatesOk beyond hcaps h event

instance (caps : MmrcStaCapabilities) (rate : MmrcRate) : Decidable (caps.Supports rate) :=
  decidable_of_iff
    (caps.rates.getLsbD rate.rate = true ∧ caps.bandwidth.getLsbD rate.bw = true
      ∧ caps.spatialStreams.getLsbD rate.ss = true ∧ caps.guard.getLsbD rate.guard = true)
    ⟨fun h => ⟨h.1, h.2.1, h.2.2.1, h.2.2.2⟩,
      fun h => ⟨h.rates, h.bandwidth, h.spatialStreams, h.guard⟩⟩

instance (caps : MmrcStaCapabilities) (rates : List MmrcRate) :
    Decidable (RespectsCapabilities caps rates) :=
  inferInstanceAs (Decidable (∀ rate ∈ rates.takeWhile fun rate => rate.rate ≠ mmrcMcsUnused,
    caps.Supports rate ∧ validateRate caps rate = true
      ∧ mmrcMinChainAttempts ≤ rate.attempts.toNat
      ∧ rate.attempts.toNat ≤ mmrcMaxChainAttempts))

/-- A network of 4 MHz with sub-bands, whose access point receives up to `maxMcs`. -/
def subbandsStart (maxMcs : U8) : RcStart :=
  ⟨⟨true, true, true, false, false, false⟩, true, true, 4, 0, maxMcs⟩

def subbandsCaps (rates : BitVec 11) : MmrcStaCapabilities :=
  ⟨4, 2, 0b00111, 0b0001, rates, 0b01, 0⟩

theorem getRates_respectsCapabilities_mcs7 :
    umacRcStart (subbandsStart 7) = some (subbandsCaps 0b00011111111)
      ∧ Along (rcStep fun _ => 0) (ChainRespects fun _ => 0)
        (mmrcStaInit (fun _ => 0) (subbandsCaps 0b00011111111) (-60))
        [.getRates 1200 fun _ => 0, .update, .getRates 100 fun _ => 0] := by
  have hstart : umacRcStart (subbandsStart 7) = some (subbandsCaps 0b00011111111) := by decide
  have hclosed : ∀ {w : Nat} {input : BitVec w}, (∀ i j : Fin w, i ≤ j →
      input.getLsbD j = true → input.getLsbD i = true) → DownwardClosed input := by
    intro w input h i j hij hj
    have hlt := lt_of_set hj
    exact h ⟨i, Nat.lt_of_le_of_lt hij hlt⟩ ⟨j, hlt⟩ hij hj
  have hsafe : RetrySafe (subbandsCaps 0b00011111111) (-60) := by
    refine ⟨hclosed (by decide), hclosed (by decide), fun i j _ _ hsgi => ?_, by decide⟩
    change (0 : BitVec 5).getLsbD j = true at hsgi
    simp at hsgi
  exact ⟨hstart, getRates_respectsCapabilities _ hstart hsafe _⟩

/-- A peer that receives no more than MCS 2 is sent MCS 7 when its signal is strong. -/
theorem getRates_exceeds_maxMcs :
    umacRcStart (subbandsStart 2) = some (subbandsCaps 0b00000000111)
      ∧ ¬ Along (rcStep fun _ => 0) (ChainRespects fun _ => 0)
        (mmrcStaInit (fun _ => 0) (subbandsCaps 0b00000000111) (-60))
        [.getRates 1200 fun _ => 0] := by
  refine ⟨by decide, fun h => ?_⟩
  have hchain : RespectsCapabilities (subbandsCaps 0b00000000111) _ := h.1 (by decide)
  exact absurd hchain (by decide +kernel)

end MmIotEsp32.Umac.Rc
