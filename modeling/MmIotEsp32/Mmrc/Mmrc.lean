/-
  MmIotEsp32.Mmrc.Mmrc

  The rate control (`mmrc/src/core/mmrc.c`).
-/
import MmIotEsp32.Common.Mmosal
import MmIotEsp32.Mmrc.Rates

namespace MmIotEsp32.Mmrc

/-! ## The table -/

def defaultPacketSizeBits : U32 := 9600
def defaultPacketSizeBytes : U32 := 1200
def lookaroundRateInit : U8 := 5
def lookaroundRateNormal : U8 := 50
def lookaroundRateStable : U8 := 100
def stabilityCntThresholdInit : U32 := 20
def stabilityCntThresholdNormal : U32 := 50
def stabilityCntThresholdStable : U32 := 100
def stabilityBackoffStep : U32 := 2
def lookaroundMaxRcCycles : U32 := 5
def lookaroundRateAttempts : U8 := 4
def lookaroundFailMax : Nat := 200
def ampduStatsMin : U32 := 2
def statsMinNormal : U32 := 2
def statsMinInit : U32 := 1
def probabilityDipMin : U8 := 20
def probabilityDipRecoveryMin : U8 := 40
def maxWindowAttemptTime : U32 := 4000
def rateWindowMicroseconds : U32 := 24000
def ewma : U32 := 75
def evidenceScale : U32 := 5
def evidenceMax : U16 := 100
def fp8Mult1 : U32 := 256
def fp84mhz : U32 := 537
def fp88mhz : U32 := 1152
def fp816mhz : U32 := 2301
def fp8LongGuardSymbolTime : U32 := 1024
def fp8ShortGuardSymbolTime : U32 := 921
def maxVariationDirection : Int := 5
def variationDirectionThreshold : Int := 3
def variationEwma : U32 := 95
def minorVariationThreshold : U8 := 1
def moderateVariationThreshold : U8 := 3
def significantVariationThreshold : U8 := 5
def bestRateUnstableThreshold : Int := 4
def bestRateConvergedThreshold : Int := 10
def mmrcShortRangeRssiLimit : Int := -70
def mmrcMidRangeRssiLimit : Int := -85

/-- `MMRC_MASK(MMRC_FLAGS_CTS_RTS)`. -/
def mmrcFlagsCtsRts : Nat := 1

structure MmrcRateTable where
  rates : List MmrcRate
  length_rates : rates.length = mmrcMaxChainLength

structure MmrcStatsTable where
  avgThroughputCounter : U32
  sumThroughput : U32
  maxThroughput : U32
  sent : U16
  sentSuccess : U16
  backMpduSuccess : U16
  backMpduFailure : U16
  totalSent : U32
  totalSuccess : U32
  evidence : U16
  prob : U8
  haveSentAmpdus : Bool

/-- `struct mmrc_table`.  The signed counters are integers; they stay far from the bounds of
their types. -/
structure MmrcTable where
  caps : MmrcStaCapabilities
  bestTp : MmrcRate
  secondTp : MmrcRate
  baseline : MmrcRate
  bestProb : MmrcRate
  fixedRate : MmrcRate
  cycleCnt : U32
  lastLookaroundCycle : U32
  lookaroundCnt : U8
  lookaroundWrap : U8
  forcedLookaround : U8
  currentLookaroundRateAttempts : U8
  currentLookaroundRateIndex : Nat
  totalLookaround : U32
  stabilityCnt : U32
  stabilityCntThreshold : U32
  probabilityVariation : U8
  bestRateDiff : Int × Int
  probabilityVariationDirection : Int
  interferenceLikely : Bool
  unconverged : Bool
  newlyUnconverged : Bool
  bestRateCycleCount : Int
  table : Nat → MmrcStatsTable

def MmrcTable.modifyRow (tb : MmrcTable) (index : Nat) (f : MmrcStatsTable → MmrcStatsTable) :
    MmrcTable :=
  { tb with table := fun k => if k = index then f (tb.table k) else tb.table k }

/-! ## Throughput and transmit time -/

def symTable : List U32 := [24, 36, 48, 72, 96, 144, 192, 216, 256, 288]

def calculateBitsPerSymbol (rate : MmrcRate) : U32 :=
  if rate.rate = mmrcMcs10 then 6
  else if mmrcMcsUnused ≤ rate.rate then 1
  else
    let sym := symTable.getD rate.rate 0
    let bps :=
      if rate.bw = mmrcBw4mhz then sym * fp84mhz
      else if rate.bw = mmrcBw8mhz then sym * fp88mhz
      else if rate.bw = mmrcBw16mhz then sym * fp816mhz
      else if rate.bw = mmrcBw1mhz then sym * 24 / 52 * fp8Mult1
      else sym * fp8Mult1
    (BitVec.ofNat 32 (rate.ss + 1) * bps) >>> 8

def getTxTime (rate : MmrcRate) : U32 :=
  let nSym := calculateBitsPerSymbol rate
  let nSym := if nSym = 0 then symTable.getD 0 0 else nSym
  let nSym := defaultPacketSizeBits / nSym
  if rate.guard = mmrcGuardLong then (nSym * fp8LongGuardSymbolTime * 10) >>> 8
  else if rate.guard = mmrcGuardShort then (nSym * fp8ShortGuardSymbolTime * 10) >>> 8
  else 0

def s1gTptLgi : List (List U32) :=
  [[300, 600, 900, 1200, 1800, 2400, 2700, 3000, 3600, 4000, 150],
   [650, 1300, 1950, 2600, 3900, 5200, 5850, 6500, 7800, 0, 0],
   [1350, 2700, 4050, 5400, 8100, 10800, 12150, 13500, 16200, 18000, 0],
   [2925, 5850, 8775, 11700, 17550, 23400, 26325, 29250, 35100, 39000, 0]]

def s1gTptSgi : List (List U32) :=
  [[333, 666, 1000, 1333, 2000, 2666, 3000, 3333, 4000, 4444, 166],
   [722, 1444, 2166, 2888, 4333, 5777, 6500, 7222, 8666, 0, 0],
   [1500, 3000, 4500, 6000, 9000, 12000, 13500, 15000, 18000, 20000, 0],
   [3250, 6500, 9750, 13000, 19500, 26000, 29250, 32500, 39000, 43333, 0]]

-- The tables have no row for 16 MHz; `beyond` is what is read behind them.
variable (beyond : MmrcRate → U32)

def mmrcCalculateTheoreticalThroughput (rate : MmrcRate) : U32 :=
  let tpt := if rate.guard ≠ 0 then s1gTptSgi else s1gTptLgi
  let entry := if rate.bw < 4 then (tpt.getD rate.bw []).getD rate.rate 0 else beyond rate
  entry * 1000 * BitVec.ofNat 32 (rate.ss + 1)

/-- `calculate_throughput`, which takes the index as an octet. -/
def calculateThroughput (tb : MmrcTable) (index : Nat) : U32 :=
  let rate := getRateRow tb.caps (index % 256)
  let prob := (tb.table rate.index).prob
  if prob < 10 then 0
  else if rate.index = tb.bestTp.index && tb.interferenceLikely then
    mmrcCalculateTheoreticalThroughput beyond rate / 100
      * (prob.setWidth 32 + tb.probabilityVariation.setWidth 32)
  else mmrcCalculateTheoreticalThroughput beyond rate / 100 * prob.setWidth 32

/-- One turn of the loop of `find_baseline_index`. -/
def findBaselineStep (caps : MmrcStaCapabilities) (found : U32 × Nat) (i : Nat) : U32 × Nat :=
  let rate := getRateRow caps i
  if !validateRate caps rate then found
  else
    let theoreticalTp := mmrcCalculateTheoreticalThroughput beyond rate
    if theoreticalTp < found.1 then (theoreticalTp, rate.index) else found

def findBaselineIndex (caps : MmrcStaCapabilities) : Nat :=
  if caps.rates.getLsbD mmrcMcs10 then 0
  else
    ((List.range (rowsFromStaCaps caps)).foldl (findBaselineStep beyond caps)
      (mmrcCalculateTheoreticalThroughput beyond (getRateRow caps 0), 0)).2

/-! ## The rates to fall back to -/

/-- The step from one rate to the next of the chain: one MCS lower, or `cap` as long as the
rates have not converged; at MCS 0, one bandwidth lower. -/
def nextRetryRate (caps : MmrcStaCapabilities) (unconverged : Bool) (cap : Nat)
    (rate : MmrcRate) : MmrcRate :=
  if rate.rate ≠ mmrcMcs0 then
    let lower := rate.rate - 1
    let lower := if unconverged && cap < lower then cap else lower
    rateUpdateIndex caps { rate with rate := lower }
  else if mmrcBw1mhz < rate.bw then rateUpdateIndex caps { rate with bw := rate.bw - 1 }
  else rate

/-- The last rate of the chain: MCS 0, or one bandwidth lower. -/
def lastRetryRate (caps : MmrcStaCapabilities) (rate : MmrcRate) : MmrcRate :=
  if rate.rate ≠ mmrcMcs0 then rateUpdateIndex caps { rate with rate := mmrcMcs0 }
  else if mmrcBw1mhz < rate.bw then rateUpdateIndex caps { rate with bw := rate.bw - 1 }
  else rate

def mmrcFillRetryRates (tb : MmrcTable) : MmrcTable :=
  let secondTp := nextRetryRate tb.caps tb.unconverged mmrcMcs4 tb.bestTp
  let bestProb := nextRetryRate tb.caps tb.unconverged mmrcMcs2 secondTp
  let baseline := lastRetryRate tb.caps bestProb
  { tb with secondTp := secondTp, bestProb := bestProb, baseline := baseline }

/-- The MCS that `mmrc_init_rates` guesses from the signal. -/
def initialMcs (bw : Nat) (rssi : Int) : Nat :=
  if mmrcShortRangeRssiLimit ≤ rssi then mmrcMcs7
  else if mmrcMidRangeRssiLimit ≤ rssi then mmrcMcs3
  else if bw = mmrcBw1mhz || bw = mmrcBw2mhz then mmrcMcs3
  else mmrcMcs0

def mmrcMaxBw (bandwidth : BitVec 5) : Nat :=
  if bandwidth.getLsbD mmrcBw16mhz then mmrcBw16mhz
  else if bandwidth.getLsbD mmrcBw8mhz then mmrcBw8mhz
  else if bandwidth.getLsbD mmrcBw4mhz then mmrcBw4mhz
  else if bandwidth.getLsbD mmrcBw2mhz then mmrcBw2mhz
  else mmrcBw1mhz

def mmrcInitRates (tb : MmrcTable) (rssi : Int) : MmrcTable :=
  let bw := mmrcMaxBw tb.caps.bandwidth
  let guard := if tb.caps.sgiPerBw.getLsbD bw then mmrcGuardShort else mmrcGuardLong
  let bestTp := rateUpdateIndex tb.caps
    { tb.bestTp with
      bw := bw, guard := guard, rate := initialMcs bw rssi, ss := mmrcSpatialStream1 }
  mmrcFillRetryRates
    { tb with bestTp := bestTp, secondTp := bestTp, bestProb := bestTp, baseline := bestTp }

def emptyStats : MmrcStatsTable := ⟨0, 0, 0, 0, 0, 0, 0, 0, 0, 0, 0, false⟩

def zeroRate : MmrcRate := ⟨0, 0, 0, 0, 0, 0, 0⟩

def mmrcStaInit (caps : MmrcStaCapabilities) (rssi : Int) : MmrcTable :=
  mmrcInitRates
    { caps := caps
      bestTp := zeroRate
      secondTp := zeroRate
      baseline := getRateRow caps (findBaselineIndex beyond caps)
      bestProb := zeroRate
      fixedRate := { zeroRate with rate := mmrcMcsUnused }
      cycleCnt := 0
      lastLookaroundCycle := 0
      lookaroundCnt := 0
      lookaroundWrap := lookaroundRateInit
      forcedLookaround := 0
      currentLookaroundRateAttempts := 0
      currentLookaroundRateIndex := 0
      totalLookaround := 0
      stabilityCnt := 0
      stabilityCntThreshold := stabilityCntThresholdInit
      probabilityVariation := 0
      bestRateDiff := (0, 0)
      probabilityVariationDirection := 0
      interferenceLikely := false
      unconverged := true
      newlyUnconverged := true
      bestRateCycleCount := 0
      table := fun _ => emptyStats }
    rssi

/-! ## Feedback -/

/-- The loop of `mmrc_feedback` over the chain, with `ind` attempts left. -/
def mmrcFeedbackLoop (wasAggregated : Bool) : List MmrcRate → Int → MmrcTable → MmrcTable
  | [], _, tb => tb
  | rate :: rates, ind, tb =>
    let index := (rateUpdateIndex tb.caps rate).index
    let tb := tb.modifyRow index fun row =>
      { row with haveSentAmpdus := row.haveSentAmpdus || wasAggregated }
    if (rate.attempts.toNat : Int) < ind then
      let tb := tb.modifyRow index fun row =>
        { row with
          sent := row.sent + rate.attempts.setWidth 16
          backMpduFailure :=
            if wasAggregated then row.backMpduFailure + rate.attempts.setWidth 16
            else row.backMpduFailure }
      mmrcFeedbackLoop wasAggregated rates (ind - rate.attempts.toNat) tb
    else
      tb.modifyRow index fun row =>
        { row with
          sent := row.sent + BitVec.ofInt 16 ind
          sentSuccess := row.sentSuccess + 1
          backMpduSuccess :=
            if wasAggregated then row.backMpduSuccess + 1 else row.backMpduSuccess
          backMpduFailure :=
            if wasAggregated then
              row.backMpduFailure + (if 1 < ind then BitVec.ofInt 16 (ind - 1) else 0)
            else row.backMpduFailure }

def mmrcFeedback (tb : MmrcTable) (rates : MmrcRateTable) (retryCount : Int)
    (wasAggregated : Bool) : MmrcTable :=
  mmrcFeedbackLoop wasAggregated rates.rates retryCount tb

/-! ## The update -/

def calcEwmaAverage (avg latest weight : U32) : U32 :=
  if avg = 0 then latest else (latest * (100 - weight) + avg * weight) / 100

/-- The direction in which the probability of the best rate moves. -/
def variationDirection (direction current prob : Int) : Int :=
  if (current - prob) * direction < 0 then 0
  else if prob < current then min (direction + 1) maxVariationDirection
  else if current < prob then max (direction - 1) (-maxVariationDirection)
  else direction

/-- `mmrc_process_variation` behind its early returns. -/
def mmrcProcessBestVariation (tb : MmrcTable) (currentSuccess : U16) (prob : U8) : MmrcTable :=
  let currentVariation : Nat := ((currentSuccess.toNat : Int) - prob.toNat).natAbs
  let variation :=
    (calcEwmaAverage (tb.probabilityVariation.setWidth 32) (BitVec.ofNat 32 currentVariation)
      variationEwma).setWidth 8
  let direction :=
    if moderateVariationThreshold ≤ variation || tb.interferenceLikely then
      variationDirection tb.probabilityVariationDirection currentSuccess.toNat prob.toNat
    else tb.probabilityVariationDirection
  let interference :=
    if variationDirectionThreshold < tb.bestRateCycleCount
        && significantVariationThreshold ≤ variation then
      if (direction.natAbs : Int) ≤ variationDirectionThreshold && !tb.interferenceLikely then true
      else tb.interferenceLikely
    else if tb.interferenceLikely
        && (variation ≤ minorVariationThreshold
          || (direction.natAbs : Int) = maxVariationDirection) then false
    else tb.interferenceLikely
  { tb with
    probabilityVariation := variation
    probabilityVariationDirection := direction
    interferenceLikely := interference }

def mmrcProcessVariation (tb : MmrcTable) (currentSuccess : U16) (index : Nat) : MmrcTable :=
  if index ≠ tb.bestTp.index then tb
  else if currentSuccess = 0 then
    if !tb.unconverged then { tb with unconverged := true, newlyUnconverged := true } else tb
  else if (tb.table index).prob = 0 then tb
  else if tb.lookaroundWrap = lookaroundRateInit then tb
  else mmrcProcessBestVariation tb currentSuccess (tb.table index).prob

def enoughStats (tb : MmrcTable) (minStats : U32) (index : Nat) (attemptsForStats : U32) : Bool :=
  minStats ≤ attemptsForStats || (0 < attemptsForStats && 0 < (tb.table index).prob)

/-- The attempts and successes that a row has for the probability. -/
def statsOfRow (tb : MmrcTable) (row : MmrcStatsTable) : U32 × U32 :=
  let sent := row.sent.setWidth 32
  let attempts := row.backMpduSuccess.setWidth 32 + row.backMpduFailure.setWidth 32
  if !row.haveSentAmpdus || tb.unconverged || attempts < ampduStatsMin
      || sent - attempts < attempts / 2 then
    (sent, row.sentSuccess.setWidth 32)
  else (attempts, row.backMpduSuccess.setWidth 32)

/-- `scale * EWMA / 100`. -/
def scaledEwma (row : MmrcStatsTable) : U32 :=
  let evidence := row.evidence.setWidth 32
  let scale :=
    if row.evidence = 0 then 0
    else evidence * 2 * 100 / (row.sent.setWidth 32 * evidenceScale + evidence)
  let scale := if 100 < scale then 100 else scale
  scale * ewma / 100

/-- The evidence of a row after the cycle. -/
def nextEvidence (row : MmrcStatsTable) (processThisRate : Bool) : U16 :=
  let evidenceSent : U32 := if processThisRate then row.sent.setWidth 32 else 0
  let evidence := (calcEwmaAverage (row.evidence.setWidth 32) (evidenceSent * evidenceScale)
    (scaledEwma row)).setWidth 16
  if evidenceMax < evidence then evidenceMax else evidence

/-- The row after its statistics went into the probability. -/
def MmrcStatsTable.processed (row : MmrcStatsTable) (thisSuccess : U16) (weight : U32) :
    MmrcStatsTable :=
  { row with
    prob := (calcEwmaAverage (row.prob.setWidth 32) (thisSuccess.setWidth 32) weight).setWidth 8
    totalSent := row.totalSent + row.sent.setWidth 32
    sent := 0
    totalSuccess := row.totalSuccess + row.sentSuccess.setWidth 32
    sentSuccess := 0
    backMpduFailure := 0
    backMpduSuccess := 0
    haveSentAmpdus := false }

/-- The row with the throughput of the cycle in its maximum and its running average. -/
def MmrcStatsTable.withThroughput (row : MmrcStatsTable) (throughput : U32) : MmrcStatsTable :=
  let maxThroughput := if row.maxThroughput < throughput then throughput else row.maxThroughput
  let overflows := 0xffffffff - throughput < row.sumThroughput
  let sum := if overflows then row.sumThroughput / row.avgThroughputCounter else row.sumThroughput
  let counter := if overflows then 1 else row.avgThroughputCounter
  { row with
    maxThroughput := maxThroughput
    sumThroughput := sum + throughput
    avgThroughputCounter := counter + 1 }

/-- One turn of the loop of `mmrc_update`, with `new_stats`. -/
def mmrcUpdateRow (minStats : U32) (state : MmrcTable × Bool) (i : Nat) : MmrcTable × Bool :=
  let (tb, newStats) := state
  let row := tb.table i
  let weight := scaledEwma row
  let (attempts, success) := statsOfRow tb row
  let processThisRate := enoughStats tb minStats i attempts
  let tb := tb.modifyRow i fun row => { row with evidence := nextEvidence row processThisRate }
  let tb :=
    if processThisRate then
      let thisSuccess := (100 * success / attempts).setWidth 16
      let tb := if weight ≠ 0 then mmrcProcessVariation tb thisSuccess i else tb
      tb.modifyRow i fun row => row.processed thisSuccess weight
    else tb
  let throughput := calculateThroughput beyond tb i
  (tb.modifyRow i fun row => row.withThroughput throughput, newStats || processThisRate)

/-- The variables of the loop of `generate_table_priority`. -/
structure PrioritySearch where
  bestRow : Nat
  secondBestRow : Nat
  bestTp : U32
  secondBestTp : U32
  lastNonzeroProb : Nat

/-- One turn of that loop. -/
def prioritySearchStep (tb : MmrcTable) (prevBestRow : Nat) (search : PrioritySearch) (i : Nat) :
    PrioritySearch :=
  let tmp := getRateRow tb.caps i
  if !validateRate tb.caps tmp then search
  else if (tb.table tmp.index).evidence = 0 then search
  else
    let row := tb.table tmp.index
    let last := tb.table search.lastNonzeroProb
    let tmpTp := calculateThroughput beyond tb tmp.index
    let lastNonzeroProb :=
      if probabilityDipMin ≤ row.prob && last.maxThroughput ≤ row.maxThroughput then tmp.index
      else search.lastNonzeroProb
    if search.bestTp < tmpTp
        || (row.maxThroughput ≤ (tb.table prevBestRow).maxThroughput
          && probabilityDipRecoveryMin ≤ row.prob && last.prob < row.prob) then
      { bestRow := tmp.index, secondBestRow := search.bestRow, bestTp := tmpTp,
        secondBestTp := search.bestTp, lastNonzeroProb := lastNonzeroProb }
    else if search.secondBestTp < tmpTp && search.bestRow ≠ tmp.index then
      { search with
        secondBestRow := tmp.index, secondBestTp := tmpTp, lastNonzeroProb := lastNonzeroProb }
    else { search with lastNonzeroProb := lastNonzeroProb }

def prioritySearch (tb : MmrcTable) : PrioritySearch :=
  (List.range (rowsFromStaCaps tb.caps)).foldl (prioritySearchStep beyond tb tb.bestTp.index)
    { bestRow := tb.bestTp.index
      secondBestRow := tb.secondTp.index
      bestTp := calculateThroughput beyond tb tb.bestTp.index
      secondBestTp := calculateThroughput beyond tb tb.secondTp.index
      lastNonzeroProb := 0 }

/-- The end of `generate_table_priority`: how stable the best rate is. -/
def updateStability (tb : MmrcTable) (prevBestRow prevBestRate bestRow : Nat) : MmrcTable :=
  let tb :=
    { tb with
      stabilityCnt :=
        if mmrcMcs1 < tb.bestTp.rate && prevBestRow = bestRow then tb.stabilityCnt + 1
        else if stabilityBackoffStep < tb.stabilityCnt then tb.stabilityCnt - stabilityBackoffStep
        else 0 }
  let tb :=
    if prevBestRow ≠ bestRow then
      let latest : Int := (prevBestRate : Int) - tb.bestTp.rate
      let total := (tb.bestRateDiff.1 + tb.bestRateDiff.2 + latest).natAbs
      let unstable := !tb.interferenceLikely && !tb.unconverged
        && tb.bestRateCycleCount ≤ bestRateUnstableThreshold && 2 ≤ total
      let newlyUnconverged := unstable || tb.newlyUnconverged
      { tb with
        probabilityVariation := if !tb.interferenceLikely then 0 else tb.probabilityVariation
        newlyUnconverged := newlyUnconverged
        unconverged := (unstable || tb.unconverged) && !(!newlyUnconverged && total < 2)
        probabilityVariationDirection := 0
        bestRateCycleCount := 0
        bestRateDiff := (tb.bestRateDiff.2, latest) }
    else
      let cycles := tb.bestRateCycleCount + 1
      { tb with
        bestRateCycleCount := cycles
        unconverged :=
          tb.unconverged && !(!tb.newlyUnconverged && bestRateConvergedThreshold ≤ cycles) }
  { tb with newlyUnconverged := false }

def generateTablePriority (tb : MmrcTable) (newStats : Bool) : MmrcTable :=
  if tb.fixedRate.rate ≠ mmrcMcsUnused then
    { tb with bestTp := tb.fixedRate, secondTp := tb.fixedRate, bestProb := tb.fixedRate }
  else
    let search := prioritySearch beyond tb
    if !newStats then tb
    else
      let bestTp := getRateRow tb.caps search.bestRow
      let bestTp :=
        -- Drop one rate, as the best throughput is zero.
        if search.bestTp = 0 && mmrcMcs0 < bestTp.rate then
          rateUpdateIndex tb.caps { bestTp with rate := bestTp.rate - 1 }
        else bestTp
      let filled := mmrcFillRetryRates
        { tb with bestTp := bestTp, secondTp := getRateRow tb.caps search.secondBestRow }
      updateStability filled tb.bestTp.index tb.bestTp.rate search.bestRow

def mmrcUpdate (tb : MmrcTable) : MmrcTable :=
  let tb := { tb with cycleCnt := tb.cycleCnt + 1 }
  let minStats := if tb.lookaroundWrap ≠ lookaroundRateInit then statsMinNormal else statsMinInit
  let (tb, newStats) :=
    (List.range (rowsFromStaCaps tb.caps)).foldl (mmrcUpdateRow beyond minStats) (tb, false)
  let tb := generateTablePriority beyond tb newStats
  let tb :=
    if tb.lookaroundWrap ≠ lookaroundRateInit
        && (tb.unconverged || (tb.bestTp.bw = mmrcBw1mhz && tb.bestTp.rate ≤ mmrcMcs2)) then
      { tb with
        lookaroundCnt := 0
        lookaroundWrap := lookaroundRateInit
        stabilityCntThreshold := stabilityCntThresholdInit }
    else tb
  { tb with
    currentLookaroundRateAttempts :=
      if tb.currentLookaroundRateAttempts ≤ lookaroundRateAttempts / 2 then lookaroundRateAttempts
      else tb.currentLookaroundRateAttempts }

/-! ## Retry chains -/

/-- `calculate_attempt_time`; `size` is not zero. -/
def calculateAttemptTime (rate : MmrcRate) (size : U32) : U32 :=
  let time := getTxTime rate
  if defaultPacketSizeBytes < size then time * (size * 1000 / defaultPacketSizeBytes) / 1000
  else time * 1000 / (defaultPacketSizeBytes * 1000 / size)

/-- `allocate_initial_attempts`: the chain and what is left of the time. -/
def allocateInitialAttempts (size : U32) : List MmrcRate → U32 → List MmrcRate × U32
  | [], remTime => ([], remTime)
  | rate :: rates, remTime =>
    if rate.rate = mmrcMcsUnused then (rate :: rates, remTime)
    else
      let attemptTime := calculateAttemptTime rate size
      if maxWindowAttemptTime < attemptTime then
        let (rates, left) := allocateInitialAttempts size rates (remTime - attemptTime)
        ({ rate with attempts := 1 } :: rates, left)
      else
        let (rates, left) := allocateInitialAttempts size rates (remTime - attemptTime * 2)
        ({ rate with attempts := 2 } :: rates, left)

/-- The entry of `calculate_remaining_attempts` with the number `i`. -/
def remainingAttempts (tb : MmrcTable) (size remTime : U32) (i : Nat) (rate : MmrcRate) :
    MmrcRate :=
  if (tb.table rate.index).prob < 20 then rate
  else if i = 0 && calculateThroughput beyond tb rate.index
      < calculateThroughput beyond tb tb.bestProb.index then rate
  else
    let attemptTime := calculateAttemptTime rate size
    if attemptTime = 0 then rate
    else
      let attempt := remTime.sdiv (BitVec.ofNat 32 tb.caps.maxRates) / attemptTime
        + rate.attempts.setWidth 32
      { rate with attempts := if 2 < attempt then 2 else attempt.setWidth 3 }

/-- The loop of `calculate_remaining_attempts`. -/
def remainingAttemptsFrom (tb : MmrcTable) (size remTime : U32) : Nat → List MmrcRate →
    List MmrcRate
  | _, [] => []
  | i, rate :: rates =>
    if rate.rate = mmrcMcsUnused then rate :: rates
    else remainingAttempts beyond tb size remTime i rate
      :: remainingAttemptsFrom tb size remTime (i + 1) rates

def calculateRemainingAttempts (tb : MmrcTable) (size remTime : U32) (rates : List MmrcRate) :
    List MmrcRate :=
  if remTime.sle 0 then rates else remainingAttemptsFrom beyond tb size remTime 0 rates

/-- The limits on the attempts of the entry with the number `i`. -/
def limitAttempts (tb : MmrcTable) (lookaroundIndex : Option Nat) (i : Nat) (rate : MmrcRate) :
    MmrcRate :=
  if rate.rate = mmrcMcsUnused then rate
  else
    let attempts := if rate.attempts = 0 then 1 else rate.attempts
    let attempts := if 2 < attempts then 2 else attempts
    let attempts :=
      if lookaroundIndex = some i && tb.lookaroundWrap ≠ lookaroundRateInit then 1 else attempts
    { rate with attempts := attempts }

/-- The last word on the attempts of the best rate. -/
def bestRateAttempts (rate : MmrcRate) : MmrcRate :=
  if rate.attempts = 1 && mmrcMcs1 < rate.rate then { rate with attempts := 2 }
  else if rate.rate ≤ mmrcMcs1 then { rate with attempts := 1 }
  else rate

/-- The rates that `mmrc_get_rates` sends with before it allocates attempts. -/
def chainRates (tb : MmrcTable) (isLookaround : Bool) (lookaround0 lookaround1 : MmrcRate) :
    List MmrcRate :=
  let unused := { zeroRate with rate := mmrcMcsUnused }
  let first := if isLookaround then lookaround0 else tb.bestTp
  if tb.caps.maxRates = 1 then [first, unused, unused, unused]
  else if tb.caps.maxRates = 2 then
    [first, if isLookaround then lookaround1 else tb.bestProb, unused, unused]
  else if tb.caps.maxRates = 3 then
    [first, if isLookaround then lookaround1 else tb.secondTp, tb.bestProb, unused]
  else [first, if isLookaround then lookaround1 else tb.secondTp, tb.bestProb, tb.baseline]

/-- For fallback rates, set RTS/CTS. -/
def MmrcRate.withRtsCts (rate : MmrcRate) : MmrcRate :=
  { rate with flags := rate.flags ||| mmrcFlagsCtsRts }

/-- The chain with its attempts. -/
def chainAttempts (tb : MmrcTable) (size : U32) (isLookaround : Bool) (rates : List MmrcRate) :
    List MmrcRate :=
  let rates := rates.mapIdx fun i rate => if i = 0 then rate else rate.withRtsCts
  let (rates, remTime) := allocateInitialAttempts size rates rateWindowMicroseconds
  let rates := calculateRemainingAttempts beyond tb size remTime rates
  let rates := rates.mapIdx (limitAttempts tb (if isLookaround then some 0 else none))
  rates.modify (if isLookaround then 1 else 0) bestRateAttempts

/-- The search for a rate to look around at, with the tries that are left; `random` is the
stream of random numbers, which `osal_mmrc_random_u32` brings below the number of rows. -/
def lookaroundSearch (tb : MmrcTable) (bestTp : U32) (random : Nat → Nat) :
    Nat → Bool → Option (MmrcRate × MmrcTable)
  | 0, _ => none
  | tries + 1, tryCurrentLookaround =>
    let randomIndex :=
      if tryCurrentLookaround then tb.currentLookaroundRateIndex
      else random tries % rowsFromStaCaps tb.caps
    let rate := getRateRow tb.caps randomIndex
    let next := lookaroundSearch tb bestTp random tries false
    if !validateRate tb.caps rate then next
    else if rate.rate = mmrcMcs10 then next
    else
      let randomTp :=
        if 0 < (tb.table randomIndex).evidence then calculateThroughput beyond tb randomIndex
        else mmrcCalculateTheoreticalThroughput beyond rate
      -- Skip rates that can only be worse than the current best.
      if randomTp.sle bestTp then next
      -- Look no more than one step up.
      else if tb.bestTp.rate + 1 < rate.rate || tb.bestTp.bw + 1 < rate.bw
          || (tb.bestTp.rate < rate.rate && tb.bestTp.bw < rate.bw) then next
      else if tb.currentLookaroundRateIndex = randomIndex then
        some (rate, { tb with
          currentLookaroundRateAttempts := tb.currentLookaroundRateAttempts + 1 })
      else
        some (rate, { tb with
          currentLookaroundRateAttempts := 0, currentLookaroundRateIndex := randomIndex })

/-- Whether `mmrc_get_rates` looks around, and the table with its counters. -/
def lookaroundDue (tb : MmrcTable) : Bool × MmrcTable :=
  let tb := { tb with lookaroundCnt := (tb.lookaroundCnt + 1) % tb.lookaroundWrap }
  let due := tb.fixedRate.rate = mmrcMcsUnused
    && (tb.lookaroundCnt = 0 || tb.lastLookaroundCycle + lookaroundMaxRcCycles ≤ tb.cycleCnt)
    && (tb.table tb.bestTp.index).evidence ≠ 0
  if tb.lookaroundWrap ≠ lookaroundRateStable then
    if tb.stabilityCntThreshold ≤ tb.stabilityCnt then
      (false, { tb with
        lookaroundWrap := lookaroundRateStable
        stabilityCntThreshold := stabilityCntThresholdStable
        stabilityCnt := stabilityCntThresholdStable * 2 })
    else (due, tb)
  else if tb.stabilityCnt < tb.stabilityCntThreshold then
    (due, { tb with
      stabilityCntThreshold := stabilityCntThresholdNormal
      lookaroundWrap := lookaroundRateNormal
      stabilityCnt := 0 })
  else (due, tb)

/-- The lookaround of `mmrc_get_rates`: the rate found, if any, and the table. -/
def lookaround (tb : MmrcTable) (random : Nat → Nat) : Option MmrcRate × MmrcTable :=
  let tb :=
    { tb with
      totalLookaround := tb.totalLookaround + 1
      forcedLookaround := (tb.forcedLookaround + 1) % lookaroundRateNormal
      lastLookaroundCycle := tb.cycleCnt }
  let bestTp := calculateThroughput beyond tb tb.bestTp.index
  match lookaroundSearch beyond tb bestTp random lookaroundFailMax
      (tb.currentLookaroundRateAttempts < lookaroundRateAttempts) with
  | none => (none, { tb with currentLookaroundRateIndex := tb.bestTp.index })
  | some (rate, tb) => (some rate, tb)

/-- `mmrc_get_rates`, without the proof that the chain has its length. -/
def mmrcGetRatesList (tb : MmrcTable) (size : U32) (random : Nat → Nat) :
    MmrcTable × List MmrcRate :=
  let (due, tb) := lookaroundDue tb
  let (found, tb) := if due then lookaround beyond tb random else (none, tb)
  match found with
  | some rate => (tb, chainAttempts beyond tb size true (chainRates tb true rate tb.bestTp))
  | none => (tb, chainAttempts beyond tb size false (chainRates tb false tb.bestTp tb.secondTp))

theorem length_allocateInitialAttempts (size : U32) (rates : List MmrcRate) (remTime : U32) :
    (allocateInitialAttempts size rates remTime).1.length = rates.length := by
  induction rates generalizing remTime with
  | nil => rfl
  | cons rate rates ih =>
    unfold allocateInitialAttempts
    split
    · rfl
    dsimp only
    split <;> exact congrArg Nat.succ (ih _)

theorem length_remainingAttemptsFrom (tb : MmrcTable) (size remTime : U32) (i : Nat)
    (rates : List MmrcRate) :
    (remainingAttemptsFrom beyond tb size remTime i rates).length = rates.length := by
  induction rates generalizing i with
  | nil => rfl
  | cons rate rates ih =>
    unfold remainingAttemptsFrom
    split
    · rfl
    · exact congrArg Nat.succ (ih _)

theorem length_calculateRemainingAttempts (tb : MmrcTable) (size remTime : U32)
    (rates : List MmrcRate) :
    (calculateRemainingAttempts beyond tb size remTime rates).length = rates.length := by
  unfold calculateRemainingAttempts
  split
  · rfl
  · exact length_remainingAttemptsFrom beyond tb size remTime 0 rates

theorem length_chainRates (tb : MmrcTable) (isLookaround : Bool) (rate₀ rate₁ : MmrcRate) :
    (chainRates tb isLookaround rate₀ rate₁).length = mmrcMaxChainLength := by
  unfold chainRates
  dsimp only
  split_ifs <;> rfl

theorem length_chainAttempts (tb : MmrcTable) (size : U32) (isLookaround : Bool)
    (rates : List MmrcRate) :
    (chainAttempts beyond tb size isLookaround rates).length = rates.length := by
  unfold chainAttempts
  dsimp only
  rw [List.length_modify, List.length_mapIdx, length_calculateRemainingAttempts,
    length_allocateInitialAttempts, List.length_mapIdx]

theorem length_mmrcGetRatesList (tb : MmrcTable) (size : U32) (random : Nat → Nat) :
    (mmrcGetRatesList beyond tb size random).2.length = mmrcMaxChainLength := by
  unfold mmrcGetRatesList
  dsimp only
  split <;> rw [length_chainAttempts, length_chainRates]

def mmrcGetRates (tb : MmrcTable) (size : U32) (random : Nat → Nat) : MmrcTable × MmrcRateTable :=
  ((mmrcGetRatesList beyond tb size random).1,
    ⟨(mmrcGetRatesList beyond tb size random).2, length_mmrcGetRatesList beyond tb size random⟩)

end MmIotEsp32.Mmrc
