/-
  MmIotEsp32.Mmrc.RateStatistics

  The ranges of the statistics, through an update.

  A row's probability is an average of percentages, which needs as many attempts as
  successes; its evidence is cut off; the window of its throughput is counted by a word that
  is not zero as long as the window has something in it.
-/
import MmIotEsp32.Mmrc.RetryChains

namespace MmIotEsp32.Mmrc

open Lib

/-! ## Averages -/

theorem calcEwmaAverage_le {avg latest weight : U32} {b : Nat} (hb : b * 100 < 2 ^ 32)
    (havg : avg.toNat ≤ b) (hlatest : latest.toNat ≤ b) (hweight : weight.toNat ≤ 100) :
    (calcEwmaAverage avg latest weight).toNat ≤ b := by
  unfold calcEwmaAverage
  split
  · exact hlatest
  have hrest : (100 - weight).toNat = 100 - weight.toNat := BitVec.toNat_sub_of_le hweight
  have hnew : latest.toNat * (100 - weight.toNat) ≤ b * (100 - weight.toNat) :=
    Nat.mul_le_mul_right _ hlatest
  have hold : avg.toNat * weight.toNat ≤ b * weight.toNat := Nat.mul_le_mul_right _ havg
  have hparts : b * (100 - weight.toNat) + b * weight.toNat = b * 100 := by
    rw [← Nat.mul_add, Nat.sub_add_cancel hweight]
  rw [BitVec.toNat_udiv, BitVec.toNat_add, BitVec.toNat_mul, BitVec.toNat_mul, hrest,
    Nat.mod_eq_of_lt (show latest.toNat * (100 - weight.toNat) < 2 ^ 32 by omega),
    Nat.mod_eq_of_lt (show avg.toNat * weight.toNat < 2 ^ 32 by omega),
    Nat.mod_eq_of_lt (show _ < 2 ^ 32 by omega)]
  apply Nat.div_le_of_le_mul
  show _ ≤ 100 * b
  omega

theorem scaledEwma_le (row : MmrcStatsTable) : (scaledEwma row).toNat ≤ 75 := by
  have hcut : ∀ scale : U32, ((if 100 < scale then 100 else scale) * ewma / 100).toNat ≤ 75 := by
    intro scale
    have hle : (if 100 < scale then 100 else scale : U32).toNat ≤ 100 := by
      split
      · exact Nat.le_refl 100
      · next hnot => exact BitVec.not_lt.mp hnot
    rw [BitVec.toNat_udiv, BitVec.toNat_mul]
    show _ * 75 % 2 ^ 32 / 100 ≤ 75
    rw [Nat.mod_eq_of_lt (by omega)]
    omega
  exact hcut _

theorem percentage_le {attempts success : U32} (hle : success.toNat ≤ attempts.toNat)
    (hsmall : attempts.toNat < 2 ^ 24) :
    ((100 * success / attempts).setWidth 16).toNat ≤ 100 := by
  have hmul : (100 * success : U32).toNat = 100 * success.toNat := by
    rw [BitVec.toNat_mul]
    show 100 * success.toNat % 2 ^ 32 = _
    omega
  have hdiv : (100 * success / attempts).toNat ≤ 100 := by
    rw [BitVec.toNat_udiv, hmul]
    apply Nat.div_le_of_le_mul
    omega
  rw [BitVec.toNat_setWidth]
  exact Nat.le_trans (Nat.mod_le _ _) hdiv

/-! ## The statistics that a row offers -/

theorem toNat_setWidth_le {v w : Nat} (x : BitVec v) (b : Nat) (h : x.toNat ≤ b) :
    (x.setWidth w).toNat ≤ b := by
  rw [BitVec.toNat_setWidth]
  exact Nat.le_trans (Nat.mod_le _ _) h

theorem toNat_setWidth_32 (x : U16) : (x.setWidth 32).toNat = x.toNat := by
  rw [BitVec.toNat_setWidth]
  have := x.isLt
  omega

variable {row : MmrcStatsTable}

theorem statsOfRow_le (tb : MmrcTable) (hsuccess : row.sentSuccess ≤ row.sent) :
    (statsOfRow tb row).2.toNat ≤ (statsOfRow tb row).1.toNat
      ∧ (statsOfRow tb row).1.toNat < 2 ^ 24 := by
  have hsent := row.sent.isLt
  have hacked := row.backMpduSuccess.isLt
  have hlost := row.backMpduFailure.isLt
  unfold statsOfRow
  dsimp only
  split
  · dsimp only
    rw [toNat_setWidth_32, toNat_setWidth_32]
    exact ⟨hsuccess, by omega⟩
  · dsimp only
    rw [BitVec.toNat_add, toNat_setWidth_32, toNat_setWidth_32]
    omega

variable {tb : MmrcTable} {minStats : U32}

theorem attempts_ne_zero_of_enoughStats (hmin : minStats ≠ 0)
    {index : Nat} {attempts : U32} (h : enoughStats tb minStats index attempts = true) :
    attempts ≠ 0 := by
  rintro rfl
  unfold enoughStats at h
  simp at h
  exact hmin h

theorem nextEvidence_le (row : MmrcStatsTable) (processThisRate : Bool) :
    (nextEvidence row processThisRate).toNat ≤ 100 := by
  have hcut : ∀ evidence : U16,
      (if evidenceMax < evidence then evidenceMax else evidence).toNat ≤ 100 := by
    intro evidence
    split
    · exact Nat.le_refl 100
    · next hnot => exact BitVec.not_lt.mp hnot
  exact hcut _

/-! ## One turn -/

/-- The ranges: of the probability and the evidence of every row, of the variation, and of the
successes of the rows of the table. -/
structure StatsInRange (tb : MmrcTable) : Prop where
  prob : ∀ k, (tb.table k).prob.toNat ≤ 100
  evidence : ∀ k, (tb.table k).evidence.toNat ≤ 100
  variation : tb.probabilityVariation.toNat ≤ 100
  success : ∀ k < rowsFromStaCaps tb.caps, (tb.table k).sentSuccess ≤ (tb.table k).sent

/-- The table after the turn of the row `i`, but for the throughput. -/
def updateRowTable (minStats : U32) (tb : MmrcTable) (i : Nat) : MmrcTable :=
  let row := tb.table i
  let weight := scaledEwma row
  let (attempts, success) := statsOfRow tb row
  let processThisRate := enoughStats tb minStats i attempts
  let tb := tb.modifyRow i fun row => { row with evidence := nextEvidence row processThisRate }
  if processThisRate then
    let thisSuccess := (100 * success / attempts).setWidth 16
    let tb := if weight ≠ 0 then mmrcProcessVariation tb thisSuccess i else tb
    tb.modifyRow i fun row => row.processed thisSuccess weight
  else tb

@[simp]
theorem table_modifyRow (tb : MmrcTable) (index : Nat) (f : MmrcStatsTable → MmrcStatsTable)
    (k : Nat) :
    (tb.modifyRow index f).table k = if k = index then f (tb.table k) else tb.table k := rfl

variable (beyond : MmrcRate → U32)

theorem mmrcUpdateRow_eq (minStats : U32) (state : MmrcTable × Bool) (i : Nat) :
    (mmrcUpdateRow beyond minStats state i).1
      = (updateRowTable minStats state.1 i).modifyRow i fun row =>
          row.withThroughput (calculateThroughput beyond (updateRowTable minStats state.1 i) i) :=
  rfl

theorem table_mmrcProcessVariation (tb : MmrcTable) (currentSuccess : U16) (index : Nat) :
    (mmrcProcessVariation tb currentSuccess index).table = tb.table := by
  unfold mmrcProcessVariation
  split_ifs
  all_goals rfl

theorem variation_mmrcProcessVariation_le {currentSuccess : U16} {index : Nat}
    (hvariation : tb.probabilityVariation.toNat ≤ 100) (hsuccess : currentSuccess.toNat ≤ 100)
    (hprob : (tb.table index).prob.toNat ≤ 100) :
    (mmrcProcessVariation tb currentSuccess index).probabilityVariation.toNat ≤ 100 := by
  unfold mmrcProcessVariation
  split_ifs
  · exact hvariation
  · exact hvariation
  · exact hvariation
  · exact hvariation
  · exact hvariation
  apply toNat_setWidth_le
  apply calcEwmaAverage_le (by norm_num)
  · exact toNat_setWidth_le _ _ hvariation
  · rw [BitVec.toNat_ofNat]
    omega
  · exact (by decide : variationEwma.toNat ≤ 100)

theorem table_updateRowTable (minStats : U32) (tb : MmrcTable) (i k : Nat) :
    (updateRowTable minStats tb i).table k
      = if k = i then
          let row := tb.table i
          let stats := statsOfRow tb row
          if enoughStats tb minStats i stats.1 then
            { row with evidence := nextEvidence row true }.processed
              ((100 * stats.2 / stats.1).setWidth 16) (scaledEwma row)
          else { row with evidence := nextEvidence row false }
        else tb.table k := by
  unfold updateRowTable
  dsimp only
  by_cases henough : enoughStats tb minStats i (statsOfRow tb (tb.table i)).1 = true
  · rw [if_pos henough, if_pos henough, henough]
    have hvariation : ∀ t : MmrcTable, ∀ s, (if scaledEwma (tb.table i) ≠ 0 then
        mmrcProcessVariation t s i else t).table = t.table := by
      intro t s
      split
      · exact table_mmrcProcessVariation t s i
      · rfl
    rw [table_modifyRow, hvariation, table_modifyRow]
    by_cases hk : k = i
    · rw [if_pos hk, if_pos hk, if_pos hk, hk]
    · rw [if_neg hk, if_neg hk, if_neg hk]
  rw [if_neg henough, if_neg henough, table_modifyRow, Bool.eq_false_iff.mpr henough]
  by_cases hk : k = i
  · rw [if_pos hk, if_pos hk, hk]
  · rw [if_neg hk, if_neg hk]

theorem caps_updateRowTable (minStats : U32) (tb : MmrcTable) (i : Nat) :
    (updateRowTable minStats tb i).caps = tb.caps :=
  (sameChainRates_mmrcUpdateRow (fun _ => 0) minStats (tb, false) i).caps

theorem statsInRange_updateRowTable
    (h : StatsInRange tb) {i : Nat} (hi : i < rowsFromStaCaps tb.caps) :
    StatsInRange (updateRowTable minStats tb i) := by
  obtain ⟨hle, hsmall⟩ := statsOfRow_le tb (h.success i hi)
  have hthis := percentage_le hle hsmall
  have hweight := scaledEwma_le (tb.table i)
  refine ⟨fun k => ?_, fun k => ?_, ?_, fun k hk => ?_⟩
  · rw [table_updateRowTable]
    split
    · dsimp only
      split
      · apply toNat_setWidth_le
        apply calcEwmaAverage_le (by norm_num)
        · exact toNat_setWidth_le _ _ (h.prob i)
        · exact toNat_setWidth_le _ _ hthis
        · omega
      · exact h.prob i
    · exact h.prob k
  · rw [table_updateRowTable]
    split
    · dsimp only
      split <;> exact nextEvidence_le _ _
    · exact h.evidence k
  · unfold updateRowTable
    dsimp only
    split
    · show (if scaledEwma (tb.table i) ≠ 0 then _ else _ : MmrcTable).probabilityVariation.toNat
        ≤ 100
      split
      · apply variation_mmrcProcessVariation_le _ hthis
        · rw [table_modifyRow, if_pos rfl]
          exact h.prob i
        · exact h.variation
      · exact h.variation
    · exact h.variation
  rw [caps_updateRowTable] at hk
  rw [table_updateRowTable]
  split
  · dsimp only
    split
    · exact BitVec.le_refl _
    · exact h.success i hi
  · exact h.success k hk

theorem StatsInRange.modifyRow (h : StatsInRange tb) (index : Nat)
    {f : MmrcStatsTable → MmrcStatsTable} (hprob : ∀ row, (f row).prob = row.prob)
    (hevidence : ∀ row, (f row).evidence = row.evidence)
    (hsuccess : ∀ row, (f row).sentSuccess = row.sentSuccess)
    (hsent : ∀ row, (f row).sent = row.sent) : StatsInRange (tb.modifyRow index f) := by
  refine ⟨fun k => ?_, fun k => ?_, h.variation, fun k hk => ?_⟩
  all_goals
    rw [table_modifyRow]
    split
  · rw [hprob]
    exact h.prob k
  · exact h.prob k
  · rw [hevidence]
    exact h.evidence k
  · exact h.evidence k
  · rw [hsuccess, hsent]
    exact h.success k hk
  · exact h.success k hk

theorem withThroughput_eq (row : MmrcStatsTable) (throughput : U32) :
    ∃ most sum counter, row.withThroughput throughput
      = { row with
          maxThroughput := most, sumThroughput := sum, avgThroughputCounter := counter } :=
  ⟨_, _, _, rfl⟩

theorem StatsInRange.withThroughput (h : StatsInRange tb) (index : Nat) (throughput : U32) :
    StatsInRange (tb.modifyRow index fun row => row.withThroughput throughput) := by
  apply h.modifyRow index
  all_goals
    intro row
    obtain ⟨most, sum, counter, hrow⟩ := withThroughput_eq row throughput
    rw [hrow]

theorem statsInRange_mmrcUpdateRow {state : MmrcTable × Bool}
    (h : StatsInRange state.1) {i : Nat} (hi : i < rowsFromStaCaps state.1.caps) :
    StatsInRange (mmrcUpdateRow beyond minStats state i).1 := by
  rw [mmrcUpdateRow_eq]
  exact (statsInRange_updateRowTable h hi).withThroughput i _

/-! ## The window of the throughput -/

/-- After `n` updates the counter is at most `n`, and it is not zero while the window has
something in it; a word counts `2 ^ 32 - 1` updates. -/
structure MmrcStatsTable.WindowOk (n : Nat) (row : MmrcStatsTable) : Prop where
  counter : row.avgThroughputCounter.toNat ≤ n
  started : n < 2 ^ 32 → row.sumThroughput ≠ 0 → row.avgThroughputCounter ≠ 0

theorem MmrcStatsTable.WindowOk.succ {n : Nat} (h : row.WindowOk n) : row.WindowOk (n + 1) :=
  ⟨Nat.le_succ_of_le h.counter, fun hn hsum => h.started (by omega) hsum⟩

theorem sum_ne_zero_of_overflow {sum throughput : U32} (h : 0xffffffff - throughput < sum) :
    sum ≠ 0 := by
  rintro rfl
  exact Nat.not_lt_zero _ h

theorem windowOk_withThroughput {n : Nat} (h : row.WindowOk n)
    (hn : n < 2 ^ 32) (throughput : U32) : (row.withThroughput throughput).WindowOk (n + 1) := by
  have hone : ∀ c : U32, (c + 1).toNat = (c.toNat + 1) % 2 ^ 32 := fun c => BitVec.toNat_add c 1
  have hnext : ∀ c : U32, c.toNat ≤ n →
      (c + 1).toNat ≤ n + 1 ∧ (n + 1 < 2 ^ 32 → c + 1 ≠ 0) := by
    intro c hc
    refine ⟨?_, fun hsmall hzero => ?_⟩
    · rw [hone]
      omega
    · have hnat := congrArg BitVec.toNat hzero
      rw [hone, Nat.mod_eq_of_lt (by omega)] at hnat
      exact absurd hnat (Nat.succ_ne_zero _)
  have hcounter : (if 0xffffffff - throughput < row.sumThroughput then 1
      else row.avgThroughputCounter : U32).toNat ≤ n := by
    split
    · next hoverflow =>
        have hne := h.started hn (sum_ne_zero_of_overflow hoverflow)
        have hpos : row.avgThroughputCounter.toNat ≠ 0 := fun hz => hne (BitVec.eq_of_toNat_eq hz)
        have hle := h.counter
        show 1 ≤ n
        omega
    · exact h.counter
  obtain ⟨hle, hne⟩ := hnext _ hcounter
  exact ⟨hle, fun hsmall _ => hne hsmall⟩

/-! ## The throughput -/

/-- The products of `mmrc_calculate_theoretical_throughput`. -/
def theoreticalProducts (rate : MmrcRate) : List Nat :=
  let tpt := if rate.guard ≠ 0 then s1gTptSgi else s1gTptLgi
  let entry := if rate.bw < 4 then (tpt.getD rate.bw []).getD rate.rate 0 else beyond rate
  [entry.toNat * 1000, entry.toNat * 1000 * (rate.ss + 1)]

/-- The products of `calculate_throughput`. -/
def throughputProducts (tb : MmrcTable) (index : Nat) : List Nat :=
  let rate := getRateRow tb.caps (index % 256)
  let prob := (tb.table rate.index).prob
  if prob < 10 then []
  else
    let percent := (mmrcCalculateTheoreticalThroughput beyond rate / 100).toNat
    theoreticalProducts beyond rate
      ++ [percent * (if rate.index = tb.bestTp.index && tb.interferenceLikely then
            prob.toNat + tb.probabilityVariation.toNat else prob.toNat)]

theorem nthBit_eq_or_set {w : Nat} (input : BitVec w) (index : Nat) :
    input.getLsbD (nthBit input index) = true ∨ nthBit input index = w := by
  have hloop : ∀ fuel i count, i + fuel = w + 1 →
      (count = index + 1 → 0 < i ∧ input.getLsbD (i - 1) = true) → count ≤ index + 1 →
      input.getLsbD (nthBitFrom input index fuel i count) = true
        ∨ nthBitFrom input index fuel i count = w := by
    intro fuel
    induction fuel with
    | zero =>
      intro i count hi _ _
      right
      show i - 1 = w
      omega
    | succ fuel ih =>
      intro i count hi hfound hle
      unfold nthBitFrom
      by_cases hcount : count = index + 1
      · rw [if_neg (not_not.mpr hcount)]
        exact Or.inl (hfound hcount).2
      rw [if_pos hcount]
      apply ih
      · omega
      · intro hnext
        refine ⟨Nat.succ_pos i, ?_⟩
        by_contra hclear
        rw [Nat.add_sub_cancel] at hclear
        rw [if_neg hclear] at hnext
        exact hcount hnext
      · split <;> omega
  exact hloop (w + 1) 0 0 (Nat.zero_add _) (fun h => absurd h (Nat.succ_ne_zero index).symm)
    (Nat.zero_le _)

theorem getRateRow_bw_lt {caps : MmrcStaCapabilities}
    (hbw : caps.bandwidth.getLsbD mmrcBw16mhz = false) (index : Nat) :
    (getRateRow caps index).bw < 4 ∧ (getRateRow caps index).ss < 4 := by
  have hbits : ∀ j, (if mmrcBwMax ≤ nthBit caps.bandwidth j then mmrcBw1mhz
      else nthBit caps.bandwidth j) % 8 < 4 := by
    intro j
    split
    · exact (by decide : 0 % 8 < 4)
    next hlt =>
      have hne : nthBit caps.bandwidth j ≠ 4 := by
        intro heq
        rcases nthBit_eq_or_set caps.bandwidth j with hset | hend
        · rw [heq] at hset
          exact absurd (hset.symm.trans hbw) (by decide)
        · omega
      change ¬ 5 ≤ _ at hlt
      omega
  exact ⟨hbits _, Nat.mod_lt _ (by decide)⟩

theorem getD_of_forall {α : Type*} {P : α → Prop} {l : List α} {d : α} {i : Nat}
    (h : ∀ x ∈ l, P x) (hd : P d) : P (l.getD i d) := by
  rw [List.getD_eq_getElem?_getD]
  cases hget : l[i]? with
  | none => exact hd
  | some x => exact h x (List.mem_of_getElem? hget)

theorem tptEntry_le (bw mcs : Nat) (guard : Bool) :
    (((if guard then s1gTptSgi else s1gTptLgi).getD bw []).getD mcs 0).toNat ≤ 43333 := by
  have hboth : ∀ tpt ∈ [s1gTptSgi, s1gTptLgi],
      (tpt.all fun row => row.all fun entry => decide (entry.toNat ≤ 43333)) = true := by
    decide +kernel
  have htpt : (if guard then s1gTptSgi else s1gTptLgi) ∈ [s1gTptSgi, s1gTptLgi] := by
    cases guard with
    | false | true => simp
  generalize (if guard then s1gTptSgi else s1gTptLgi) = tpt at htpt ⊢
  have hrow : ((tpt.getD bw []).all fun entry => decide (entry.toNat ≤ 43333)) = true :=
    getD_of_forall (P := fun row : List U32 =>
      (row.all fun entry => decide (entry.toNat ≤ 43333)) = true)
      (List.all_eq_true.mp (hboth tpt htpt)) rfl
  exact getD_of_forall (P := fun entry : U32 => entry.toNat ≤ 43333)
    (fun entry hentry => of_decide_eq_true (List.all_eq_true.mp hrow entry hentry)) (Nat.zero_le _)

theorem theoreticalThroughput_le {rate : MmrcRate} (hbw : rate.bw < 4) (hss : rate.ss < 4) :
    (∀ p ∈ theoreticalProducts beyond rate, p < 2 ^ 32)
      ∧ (mmrcCalculateTheoreticalThroughput beyond rate).toNat ≤ 173332000 := by
  have hentry := tptEntry_le rate.bw rate.rate (decide (rate.guard ≠ 0))
  simp only [decide_eq_true_eq] at hentry
  unfold theoreticalProducts mmrcCalculateTheoreticalThroughput
  dsimp only
  rw [if_pos hbw]
  generalize ((if rate.guard ≠ 0 then s1gTptSgi else s1gTptLgi).getD rate.bw []).getD rate.rate 0
    = entry at hentry ⊢
  have hlast : entry.toNat * 1000 * (rate.ss + 1) ≤ 43333 * 1000 * 4 :=
    Nat.mul_le_mul (Nat.mul_le_mul_right 1000 hentry) hss
  constructor
  · intro p hp
    rcases List.mem_cons.mp hp with rfl | hp
    · omega
    · rw [List.mem_singleton.mp hp]
      omega
  rw [BitVec.toNat_mul, BitVec.toNat_mul, BitVec.toNat_ofNat]
  show entry.toNat * 1000 % 2 ^ 32 * ((rate.ss + 1) % 2 ^ 32) % 2 ^ 32 ≤ _
  rw [Nat.mod_eq_of_lt (show entry.toNat * 1000 < 2 ^ 32 by omega),
    Nat.mod_eq_of_lt (show rate.ss + 1 < 2 ^ 32 by omega)]
  omega

theorem throughputProducts_lt (h : StatsInRange tb)
    (hbw : tb.caps.bandwidth.getLsbD mmrcBw16mhz = false) (index : Nat) :
    ∀ p ∈ throughputProducts beyond tb index, p < 2 ^ 32 := by
  obtain ⟨hbw4, hss⟩ := getRateRow_bw_lt hbw (index % 256)
  obtain ⟨hproducts, hle⟩ := theoreticalThroughput_le beyond hbw4 hss
  unfold throughputProducts
  dsimp only
  split
  · exact fun _ hp => absurd hp List.not_mem_nil
  intro p hp
  rcases List.mem_append.mp hp with hp | hp
  · exact hproducts p hp
  have hprob := h.prob (getRateRow tb.caps (index % 256)).index
  have hvariation := h.variation
  have hpercent : (mmrcCalculateTheoreticalThroughput beyond
      (getRateRow tb.caps (index % 256)) / 100).toNat ≤ 1733320 := by
    have hhundred : (100 : U32).toNat = 100 := rfl
    rw [BitVec.toNat_udiv, hhundred]
    omega
  rw [List.mem_singleton.mp hp]
  apply Nat.lt_of_le_of_lt (Nat.mul_le_mul hpercent (_ : _ ≤ 200)) (by norm_num)
  split <;> omega

/-! ## The update -/

/-- The divisors of `calc_ewma_average`. -/
def calcEwmaAverageDivisors (avg : U32) : List U32 := if avg = 0 then [] else [100]

/-- The divisors of `mmrc_process_variation`. -/
def mmrcProcessVariationDivisors (tb : MmrcTable) (currentSuccess : U16) (index : Nat) :
    List U32 :=
  if index ≠ tb.bestTp.index || currentSuccess = 0 || (tb.table index).prob = 0
      || tb.lookaroundWrap = lookaroundRateInit then []
  else calcEwmaAverageDivisors (tb.probabilityVariation.setWidth 32)

/-- The divisors of the turn of the row `i`, in the order of the divisions. -/
def mmrcUpdateRowDivisors (minStats : U32) (tb : MmrcTable) (i : Nat) : List U32 :=
  let row := tb.table i
  let evidence := row.evidence.setWidth 32
  let (attempts, success) := statsOfRow tb row
  let thisSuccess : U16 := (100 * success / attempts).setWidth 16
  let throughput := calculateThroughput beyond (updateRowTable minStats tb i) i
  (if row.evidence = 0 then [] else [row.sent.setWidth 32 * evidenceScale + evidence])
    ++ calcEwmaAverageDivisors evidence
    ++ (if enoughStats tb minStats i attempts then
          attempts
            :: (if scaledEwma row ≠ 0 then mmrcProcessVariationDivisors tb thisSuccess i else [])
            ++ calcEwmaAverageDivisors (row.prob.setWidth 32)
        else [])
    ++ (if 0xffffffff - throughput < row.sumThroughput then [row.avgThroughputCounter] else [])

/-- The turns of the loop: the rows, each with the table before its turn. -/
def mmrcUpdateTurns (minStats : U32) : List Nat → MmrcTable × Bool → List (MmrcTable × Nat)
  | [], _ => []
  | i :: rows, state =>
    (state.1, i) :: mmrcUpdateTurns minStats rows (mmrcUpdateRow beyond minStats state i)

/-- `min_stats`. -/
def minStatsOf (tb : MmrcTable) : U32 :=
  if tb.lookaroundWrap ≠ lookaroundRateInit then statsMinNormal else statsMinInit

/-- The state in which the loop of `mmrc_update` starts. -/
def updateStart (tb : MmrcTable) : MmrcTable × Bool :=
  ({ tb with cycleCnt := tb.cycleCnt + 1 }, false)

def updateTurns (tb : MmrcTable) : List (MmrcTable × Nat) :=
  mmrcUpdateTurns beyond (minStatsOf tb) (List.range (rowsFromStaCaps tb.caps)) (updateStart tb)

/-- The table behind the loop, with which the best rate is chosen. -/
def updatedRows (tb : MmrcTable) : MmrcTable :=
  ((List.range (rowsFromStaCaps tb.caps)).foldl (mmrcUpdateRow beyond (minStatsOf tb))
    (updateStart tb)).1

def mmrcUpdateDivisors (tb : MmrcTable) : List U32 :=
  (updateTurns beyond tb).flatMap fun turn =>
    mmrcUpdateRowDivisors beyond (minStatsOf tb) turn.1 turn.2

/-- The tables for which `mmrc_update` computes throughputs. -/
def mmrcUpdateTables (tb : MmrcTable) : List MmrcTable :=
  ((updateTurns beyond tb).map fun turn => updateRowTable (minStatsOf tb) turn.1 turn.2)
    ++ [updatedRows beyond tb]

/-- An update divides by nothing that is zero, and its throughputs fit in a word. -/
structure UpdateSafe (tb : MmrcTable) : Prop where
  divisors : ∀ d ∈ mmrcUpdateDivisors beyond tb, d ≠ 0
  products : ∀ t ∈ mmrcUpdateTables beyond tb, ∀ index, ∀ p ∈ throughputProducts beyond t index,
    p < 2 ^ 32

theorem calcEwmaAverageDivisors_ne_zero (avg : U32) : ∀ d ∈ calcEwmaAverageDivisors avg, d ≠ 0 := by
  unfold calcEwmaAverageDivisors
  intro d hd
  split at hd
  · exact absurd hd List.not_mem_nil
  · rw [List.mem_singleton.mp hd]
    decide

theorem mmrcUpdateRowDivisors_ne_zero (hmin : minStats ≠ 0)
    {n : Nat} (hn : n < 2 ^ 32) {i : Nat} (hwindow : (tb.table i).WindowOk n) :
    ∀ d ∈ mmrcUpdateRowDivisors beyond minStats tb i, d ≠ 0 := by
  intro d hd
  unfold mmrcUpdateRowDivisors at hd
  dsimp only at hd
  rcases List.mem_append.mp hd with hd | hd
  · rcases List.mem_append.mp hd with hd | hd
    · rcases List.mem_append.mp hd with hd | hd
      · -- The evidence alone keeps the sum above zero.
        split at hd
        · exact absurd hd List.not_mem_nil
        next hevidence =>
          rw [List.mem_singleton.mp hd]
          intro hzero
          have hnat := congrArg BitVec.toNat hzero
          have hsent := (tb.table i).sent.isLt
          have hlt := (tb.table i).evidence.isLt
          rw [BitVec.toNat_add, BitVec.toNat_mul, toNat_setWidth_32, toNat_setWidth_32] at hnat
          change ((tb.table i).sent.toNat * 5 % 2 ^ 32 + (tb.table i).evidence.toNat) % 2 ^ 32
            = 0 at hnat
          rw [Nat.mod_eq_of_lt (show (tb.table i).sent.toNat * 5 < 2 ^ 32 by omega),
            Nat.mod_eq_of_lt (by omega)] at hnat
          apply hevidence
          apply BitVec.eq_of_toNat_eq
          show (tb.table i).evidence.toNat = 0
          omega
      · exact calcEwmaAverageDivisors_ne_zero _ d hd
    split at hd
    · next henough =>
        rcases List.mem_append.mp hd with hd | hd
        · rcases List.mem_cons.mp hd with rfl | hd
          · exact attempts_ne_zero_of_enoughStats hmin henough
          unfold mmrcProcessVariationDivisors at hd
          split at hd
          · split at hd
            · exact absurd hd List.not_mem_nil
            · exact calcEwmaAverageDivisors_ne_zero _ d hd
          · exact absurd hd List.not_mem_nil
        · exact calcEwmaAverageDivisors_ne_zero _ d hd
    · exact absurd hd List.not_mem_nil
  split at hd
  · next hoverflow =>
      rw [List.mem_singleton.mp hd]
      exact hwindow.started hn (sum_ne_zero_of_overflow hoverflow)
  · exact absurd hd List.not_mem_nil

theorem windowOk_mmrcUpdateRow {state : MmrcTable × Bool} {i k n : Nat}
    (hn : n < 2 ^ 32) (hturn : k = i → (state.1.table k).WindowOk n)
    (hrest : k ≠ i → (state.1.table k).WindowOk (n + 1)) :
    ((mmrcUpdateRow beyond minStats state i).1.table k).WindowOk (n + 1) := by
  rw [mmrcUpdateRow_eq, table_modifyRow]
  split
  · next hk =>
      apply windowOk_withThroughput _ hn
      rw [table_updateRowTable, if_pos hk]
      have hrow := hturn hk
      rw [hk] at hrow
      dsimp only
      split <;> exact ⟨hrow.counter, hrow.started⟩
  · next hk =>
      rw [table_updateRowTable, if_neg hk]
      exact hrest hk

theorem table_mmrcUpdateRow_of_ne {state : MmrcTable × Bool} {i k : Nat} (hk : k ≠ i) :
    (mmrcUpdateRow beyond minStats state i).1.table k = state.1.table k := by
  rw [mmrcUpdateRow_eq, table_modifyRow, if_neg hk, table_updateRowTable, if_neg hk]

/-- The statistics after `n` updates. -/
structure StatsOk (n : Nat) (tb : MmrcTable) : Prop where
  inRange : StatsInRange tb
  window : ∀ k, (tb.table k).WindowOk n

/-- The loop over rows that have not had their turn. -/
theorem statsOk_mmrcUpdateRows {rows : List Nat} (hnodup : rows.Nodup)
    {state : MmrcTable × Bool} (hrows : ∀ k ∈ rows, k < rowsFromStaCaps state.1.caps) {n : Nat}
    (hn : n < 2 ^ 32) (hinRange : StatsInRange state.1)
    (hwindow : ∀ k, (state.1.table k).WindowOk (n + 1))
    (hturns : ∀ k ∈ rows, (state.1.table k).WindowOk n) :
    StatsOk (n + 1) (rows.foldl (mmrcUpdateRow beyond minStats) state).1
      ∧ ∀ turn ∈ mmrcUpdateTurns beyond minStats rows state,
        turn.1.caps = state.1.caps ∧ StatsInRange turn.1 ∧ turn.2 < rowsFromStaCaps turn.1.caps
          ∧ (turn.1.table turn.2).WindowOk n := by
  induction rows generalizing state with
  | nil => exact ⟨⟨hinRange, hwindow⟩, fun _ h => absurd h List.not_mem_nil⟩
  | cons i rows ih =>
    obtain ⟨hnot, hnodup⟩ := List.nodup_cons.mp hnodup
    have hi := hrows i (List.mem_cons_self ..)
    have hcaps := (sameChainRates_mmrcUpdateRow beyond minStats state i).caps
    have hother : ∀ k ∈ rows, k ≠ i := fun k hk heq => hnot (heq ▸ hk)
    have hrest := @ih hnodup (mmrcUpdateRow beyond minStats state i)
      (fun k hk => by rw [hcaps]; exact hrows k (List.mem_cons_of_mem _ hk))
      (statsInRange_mmrcUpdateRow beyond hinRange hi)
      (fun k => windowOk_mmrcUpdateRow beyond hn
        (fun hk => by rw [hk]; exact hturns i (List.mem_cons_self ..)) fun _ => hwindow k)
      (fun k hk => by
        rw [table_mmrcUpdateRow_of_ne beyond (hother k hk)]
        exact hturns k (List.mem_cons_of_mem _ hk))
    refine ⟨hrest.1, fun turn hturn => ?_⟩
    rcases List.mem_cons.mp hturn with rfl | hturn
    · exact ⟨rfl, hinRange, hi, hturns i (List.mem_cons_self ..)⟩
    · obtain ⟨hsame, hok⟩ := hrest.2 turn hturn
      exact ⟨hsame.trans hcaps, hok⟩

/-- The same statistics, with no more variation. -/
structure SameStats (tb tb' : MmrcTable) : Prop where
  caps : tb'.caps = tb.caps
  table : tb'.table = tb.table
  variation : tb'.probabilityVariation = tb.probabilityVariation ∨ tb'.probabilityVariation = 0

theorem SameStats.trans {tb tb' tb'' : MmrcTable} (h : SameStats tb tb')
    (h' : SameStats tb' tb'') : SameStats tb tb'' := by
  refine ⟨h'.caps.trans h.caps, h'.table.trans h.table, ?_⟩
  rcases h'.variation with heq | hzero
  · rw [heq]
    exact h.variation
  · exact Or.inr hzero

theorem StatsInRange.of_same {tb tb' : MmrcTable} (h : StatsInRange tb)
    (hsame : SameStats tb tb') : StatsInRange tb' := by
  refine ⟨fun k => ?_, fun k => ?_, ?_, fun k hk => ?_⟩
  · rw [hsame.table]
    exact h.prob k
  · rw [hsame.table]
    exact h.evidence k
  · rcases hsame.variation with heq | hzero
    · rw [heq]
      exact h.variation
    · rw [hzero]
      exact Nat.zero_le _
  · rw [hsame.caps] at hk
    rw [hsame.table]
    exact h.success k hk

theorem sameStats_updateStability (tb : MmrcTable) (prevBestRow prevBestRate bestRow : Nat) :
    SameStats tb (updateStability tb prevBestRow prevBestRate bestRow) := by
  unfold updateStability
  dsimp only
  split
  · refine ⟨rfl, rfl, ?_⟩
    dsimp only
    split
    · exact Or.inr rfl
    · exact Or.inl rfl
  · exact ⟨rfl, rfl, Or.inl rfl⟩

theorem sameStats_generateTablePriority (tb : MmrcTable) (newStats : Bool) :
    SameStats tb (generateTablePriority beyond tb newStats) := by
  unfold generateTablePriority
  split
  · exact ⟨rfl, rfl, Or.inl rfl⟩
  dsimp only
  split
  · exact ⟨rfl, rfl, Or.inl rfl⟩
  · refine SameStats.trans ?_ (sameStats_updateStability _ _ _ _)
    exact ⟨rfl, rfl, Or.inl rfl⟩

theorem sameStats_mmrcUpdate (tb : MmrcTable) :
    SameStats (updatedRows beyond tb) (mmrcUpdate beyond tb) := by
  unfold mmrcUpdate updatedRows minStatsOf updateStart
  dsimp only
  generalize List.foldl _ _ _ = state
  refine (sameStats_generateTablePriority beyond state.1 state.2).trans ?_
  generalize generateTablePriority beyond state.1 state.2 = chosen
  split <;> exact ⟨rfl, rfl, Or.inl rfl⟩

theorem caps_updatedRows (tb : MmrcTable) : (updatedRows beyond tb).caps = tb.caps :=
  (sameChainRates_mmrcUpdateRows beyond (minStatsOf tb)
    (List.range (rowsFromStaCaps tb.caps)) (updateStart tb)).caps

theorem caps_mmrcUpdate (tb : MmrcTable) : (mmrcUpdate beyond tb).caps = tb.caps :=
  (sameStats_mmrcUpdate beyond tb).caps.trans (caps_updatedRows beyond tb)

theorem minStatsOf_ne_zero (tb : MmrcTable) : minStatsOf tb ≠ 0 := by
  unfold minStatsOf
  split <;> decide

section Update

variable {tb : MmrcTable} {n : Nat} (h : StatsOk n tb) (hn : n < 2 ^ 32)

include h hn

theorem statsOk_updatedRows : StatsOk (n + 1) (updatedRows beyond tb)
    ∧ ∀ turn ∈ updateTurns beyond tb, turn.1.caps = tb.caps ∧ StatsInRange turn.1
      ∧ turn.2 < rowsFromStaCaps turn.1.caps ∧ (turn.1.table turn.2).WindowOk n :=
  statsOk_mmrcUpdateRows beyond List.nodup_range (fun _ => List.mem_range.mp) hn
    ⟨h.inRange.prob, h.inRange.evidence, h.inRange.variation, h.inRange.success⟩
    (fun k => (h.window k).succ) (fun k _ => h.window k)

theorem statsOk_mmrcUpdate : StatsOk (n + 1) (mmrcUpdate beyond tb) := by
  have hrows := (statsOk_updatedRows beyond h hn).1
  have hsame := sameStats_mmrcUpdate beyond tb
  refine ⟨hrows.inRange.of_same hsame, fun k => ?_⟩
  rw [hsame.table]
  exact hrows.window k

theorem updateSafe (hbw : tb.caps.bandwidth.getLsbD mmrcBw16mhz = false) :
    UpdateSafe beyond tb := by
  obtain ⟨hrows, hturns⟩ := statsOk_updatedRows beyond h hn
  constructor
  · intro d hd
    obtain ⟨turn, hturn, hd⟩ := List.mem_flatMap.mp hd
    obtain ⟨-, -, -, hwindow⟩ := hturns turn hturn
    exact mmrcUpdateRowDivisors_ne_zero beyond (minStatsOf_ne_zero tb) hn hwindow d hd
  intro t ht index
  rcases List.mem_append.mp ht with ht | ht
  · obtain ⟨turn, hturn, rfl⟩ := List.mem_map.mp ht
    obtain ⟨hcaps, hinRange, hlt, -⟩ := hturns turn hturn
    apply throughputProducts_lt beyond (statsInRange_updateRowTable hinRange hlt)
    rw [caps_updateRowTable, hcaps]
    exact hbw
  rw [List.mem_singleton.mp ht]
  apply throughputProducts_lt beyond hrows.inRange
  rw [caps_updatedRows]
  exact hbw

end Update

/-! ## Chains -/

/-- The divisors of `calculate_attempt_time`. -/
def calculateAttemptTimeDivisors (size : U32) : List U32 :=
  if defaultPacketSizeBytes < size then [defaultPacketSizeBytes, 1000]
  else [size, defaultPacketSizeBytes * 1000 / size]

theorem calculateAttemptTimeDivisors_ne_zero {size : U32} (hsize : size ≠ 0) :
    ∀ d ∈ calculateAttemptTimeDivisors size, d ≠ 0 := by
  intro d hd
  unfold calculateAttemptTimeDivisors at hd
  split at hd
  · rcases List.mem_cons.mp hd with rfl | hd
    · decide
    · rw [List.mem_singleton.mp hd]
      decide
  next hle =>
    rcases List.mem_cons.mp hd with rfl | hd
    · exact hsize
    rw [List.mem_singleton.mp hd]
    intro hzero
    have hnat := congrArg BitVec.toNat hzero
    have hpos : 0 < size.toNat := Nat.pos_of_ne_zero fun h => hsize (BitVec.eq_of_toNat_eq h)
    have hsmall : size.toNat ≤ 1200 := BitVec.not_lt.mp hle
    rw [BitVec.toNat_udiv] at hnat
    change 1200000 / size.toNat = 0 at hnat
    have hquotient : 1 ≤ 1200000 / size.toNat := (Nat.one_le_div_iff hpos).mpr (by omega)
    omega

theorem lookaroundSearch_sameStats (bestTp : U32) (random : Nat → Nat)
    (tries : Nat) (tryCurrent : Bool) {rate : MmrcRate} {tb' : MmrcTable}
    (hfound : lookaroundSearch beyond tb bestTp random tries tryCurrent = some (rate, tb')) :
    SameStats tb tb' := by
  induction tries generalizing tryCurrent with
  | zero => cases hfound
  | succ tries ih =>
    unfold lookaroundSearch at hfound
    dsimp only at hfound
    generalize (if tryCurrent then tb.currentLookaroundRateIndex
      else random tries % rowsFromStaCaps tb.caps) = randomIndex at hfound
    generalize (if 0 < (tb.table randomIndex).evidence then _ else _) = randomTp at hfound
    split_ifs at hfound
    · exact ih false hfound
    · exact ih false hfound
    · exact ih false hfound
    · exact ih false hfound
    · obtain ⟨-, rfl⟩ := Prod.mk.inj (Option.some.inj hfound)
      exact ⟨rfl, rfl, Or.inl rfl⟩
    · obtain ⟨-, rfl⟩ := Prod.mk.inj (Option.some.inj hfound)
      exact ⟨rfl, rfl, Or.inl rfl⟩

theorem lookaroundDue_sameStats (tb : MmrcTable) : SameStats tb (lookaroundDue tb).2 := by
  unfold lookaroundDue
  dsimp only
  split_ifs
  all_goals exact ⟨rfl, rfl, Or.inl rfl⟩

theorem mmrcGetRates_sameStats (tb : MmrcTable) (size : U32) (random : Nat → Nat) :
    SameStats tb (mmrcGetRates beyond tb size random).1 := by
  have hdue := lookaroundDue_sameStats tb
  have hlook : SameStats (lookaroundDue tb).2 (lookaround beyond (lookaroundDue tb).2 random).2 := by
    unfold lookaround
    dsimp only
    split
    · exact ⟨rfl, rfl, Or.inl rfl⟩
    · next rate tb' hfound =>
        refine SameStats.trans ?_ (lookaroundSearch_sameStats beyond _ _ _ _ hfound)
        exact ⟨rfl, rfl, Or.inl rfl⟩
  show SameStats tb (mmrcGetRatesList beyond tb size random).1
  unfold mmrcGetRatesList
  dsimp only
  generalize hstate : (if (lookaroundDue tb).1 = true
    then lookaround beyond (lookaroundDue tb).2 random else (none, (lookaroundDue tb).2)) = state
  have hsame : SameStats tb state.2 := by
    rw [← hstate]
    split
    · exact hdue.trans hlook
    · exact hdue
  split <;> exact hsame

/-! ## The start -/

theorem statsOk_mmrcStaInit (caps : MmrcStaCapabilities) (rssi : Int) :
    StatsOk 0 (mmrcStaInit beyond caps rssi) :=
  ⟨⟨fun _ => Nat.zero_le _, fun _ => Nat.zero_le _, Nat.zero_le _, fun _ _ => BitVec.le_refl _⟩,
    fun _ => ⟨Nat.zero_le _, fun _ hsum => absurd rfl hsum⟩⟩

end MmIotEsp32.Mmrc
