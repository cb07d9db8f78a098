/-
  MmIotEsp32.Umac.Rc.StatisticsRange

  The ranges of the statistics over the whole life of a table.
-/
import MmIotEsp32.Mmrc.RateStatistics
import MmIotEsp32.Umac.Rc.FailedFrames

namespace MmIotEsp32.Umac.Rc

open Lib Mmrc

/-! ## The ranges -/

/-- The ranges of a row. -/
structure RowInRange (row : MmrcStatsTable) : Prop where
  sentSuccess : row.sentSuccess ≤ row.sent
  prob : row.prob ≤ 100
  evidence : row.evidence ≤ evidenceMax

/-- Every row of the table is in range. -/
def RowsInRange (tb : MmrcTable) : Prop :=
  ∀ k < rowsFromStaCaps tb.caps, RowInRange (tb.table k)

variable (beyond : MmrcRate → U32)

/-- The tables for which `mmrc_get_rates` computes throughputs, but for the counters of the
lookaround. -/
def mmrcGetRatesTables (tb : MmrcTable) (size : U32) (random : Nat → Nat) : List MmrcTable :=
  [(lookaroundDue tb).2, (mmrcGetRates beyond tb size random).1]

/-- A chain is computed without a division by zero, with throughputs that fit in a word. -/
structure GetRatesSafe (tb : MmrcTable) (size : U32) (random : Nat → Nat) : Prop where
  divisors : ∀ d ∈ calculateAttemptTimeDivisors size, d ≠ 0
  theoretical : ∀ index, ∀ p ∈ theoreticalProducts beyond (getRateRow tb.caps index), p < 2 ^ 32
  products : ∀ t ∈ mmrcGetRatesTables beyond tb size random, ∀ index,
    ∀ p ∈ throughputProducts beyond t index, p < 2 ^ 32

/-- What is computed on the way. -/
def CallSafe (tb : MmrcTable) : RcEvent → Prop
  | .feedback .. => True
  | .update => UpdateSafe beyond tb
  | .getRates size random => GetRatesSafe beyond tb size random

/-- The statistics stay in range: every row after every call, and every call on its way. -/
structure StatisticsInRange (tb : MmrcTable) (events : List RcEvent) : Prop where
  rows : Throughout (rcStep beyond) RowsInRange tb events
  calls : Along (rcStep beyond) (CallSafe beyond) tb events

/-! ## The attempts of a row -/

/-- The attempts that a call gives to the row `k`. -/
def attemptsFor (caps : MmrcStaCapabilities) (k : Nat) : RcEvent → Nat
  | .feedback rates retryCount _ =>
    sentFor k ((attempted rates.rates retryCount).map (withIndex caps))
  | _ => 0

/-- A call, with the attempts that the rows have accumulated since the last update, and what is
`kept` of those from before it. -/
def countedStep (kept : MmrcStatsTable → Nat) :
    MmrcTable × (Nat → Nat) → RcEvent → Option (MmrcTable × (Nat → Nat))
  | (tb, accumulated), event =>
    (rcStep beyond tb event).map fun tb' =>
      (tb', fun k =>
        match event with
        | .update => kept (tb'.table k)
        | _ => accumulated k + attemptsFor tb.caps k event)

/-- No row of the table ever accumulates more than 65535 attempts. -/
def FewAttempts (kept : MmrcStatsTable → Nat) (tb : MmrcTable) (events : List RcEvent) : Prop :=
  Throughout (countedStep beyond kept)
    (fun state => ∀ k < rowsFromStaCaps state.1.caps, state.2 k ≤ 65535) (tb, fun _ => 0) events

/-- The attempts that an update leaves in a row. -/
def leftInRow (row : MmrcStatsTable) : Nat := row.sent.toNat

/-- The call is one that the callers make: feedback about some attempt, a chain for some
octet. -/
def WellCalled : RcEvent → Prop
  | .feedback _ retryCount _ => 0 < retryCount
  | .update => True
  | .getRates size _ => size ≠ 0

def RcEvent.isUpdate : RcEvent → Bool
  | .update => true
  | _ => false

/-! ## Feedback -/

theorem successFor_le_sentFor {k : Nat} {entries : List (Attempted × Option Nat)}
    (hpos : ∀ entry ∈ entries, 0 < entry.1.sent) : successFor k entries ≤ sentFor k entries := by
  induction entries with
  | nil => exact Nat.le_refl 0
  | cons entry entries ih =>
    have hrest := ih fun e he => hpos e (List.mem_cons_of_mem _ he)
    have hfirst := hpos entry (List.mem_cons_self ..)
    have hcount : successFor k (entry :: entries) = successFor k entries
        + if (entry.2 = some k && entry.1.success) = true then 1 else 0 := List.countP_cons
    have hsent : sentFor k (entry :: entries)
        = (if entry.2 = some k then entry.1.sent else 0) + sentFor k entries := rfl
    rw [hcount, hsent]
    by_cases hrow : entry.2 = some k
    · rw [if_pos hrow]
      split <;> omega
    · rw [if_neg hrow, decide_eq_false hrow, Bool.false_and, if_neg (by simp)]
      omega

/-- The averages of a row. -/
structure SameAverages (row row' : MmrcStatsTable) : Prop where
  prob : row'.prob = row.prob
  evidence : row'.evidence = row.evidence
  sum : row'.sumThroughput = row.sumThroughput
  counter : row'.avgThroughputCounter = row.avgThroughputCounter

theorem SameAverages.trans {a b c : MmrcStatsTable} (h : SameAverages a b)
    (h' : SameAverages b c) : SameAverages a c :=
  ⟨h'.prob.trans h.prob, h'.evidence.trans h.evidence, h'.sum.trans h.sum,
    h'.counter.trans h.counter⟩

theorem sameAverages_modifyRow (tb : MmrcTable) (index k : Nat)
    {f : MmrcStatsTable → MmrcStatsTable} (hf : ∀ row, SameAverages row (f row)) :
    SameAverages (tb.table k) ((tb.modifyRow index f).table k) := by
  rw [table_modifyRow]
  split
  · exact hf _
  · exact ⟨rfl, rfl, rfl, rfl⟩

theorem sameAverages_mmrcFeedbackLoop (wasAggregated : Bool) (rates : List MmrcRate) (ind : Int)
    (tb : MmrcTable) (k : Nat) :
    SameAverages (tb.table k) ((mmrcFeedbackLoop wasAggregated rates ind tb).table k)
      ∧ (mmrcFeedbackLoop wasAggregated rates ind tb).probabilityVariation
        = tb.probabilityVariation := by
  induction rates generalizing ind tb with
  | nil => exact ⟨⟨rfl, rfl, rfl, rfl⟩, rfl⟩
  | cons rate rates ih =>
    unfold mmrcFeedbackLoop
    dsimp only
    have hfirst := sameAverages_modifyRow tb (rateUpdateIndex tb.caps rate).index k
      (f := fun row => { row with haveSentAmpdus := row.haveSentAmpdus || wasAggregated })
      fun _ => ⟨rfl, rfl, rfl, rfl⟩
    split
    · refine ⟨(hfirst.trans ?_).trans (ih _ _).1, (ih _ _).2⟩
      exact sameAverages_modifyRow _ _ k fun _ => ⟨rfl, rfl, rfl, rfl⟩
    · refine ⟨hfirst.trans ?_, rfl⟩
      exact sameAverages_modifyRow _ _ k fun _ => ⟨rfl, rfl, rfl, rfl⟩

/-- Feedback about some attempt adds no more successes than attempts. -/
theorem counters_mmrcFeedback (tb : MmrcTable) (rates : MmrcRateTable) {retryCount : Int}
    (hcount : 0 < retryCount) (wasAggregated : Bool) (k : Nat) :
    ∃ successes ≤ attemptsFor tb.caps k (.feedback rates retryCount wasAggregated),
      ((mmrcFeedback tb rates retryCount wasAggregated).table k).sent
          = (tb.table k).sent
            + BitVec.ofNat 16 (attemptsFor tb.caps k (.feedback rates retryCount wasAggregated))
        ∧ ((mmrcFeedback tb rates retryCount wasAggregated).table k).sentSuccess
          = (tb.table k).sentSuccess + BitVec.ofNat 16 successes := by
  have hcounters := rowCounters_mmrcFeedbackLoop wasAggregated k rates.rates retryCount hcount tb
  refine ⟨successFor k ((attempted rates.rates retryCount).map (withIndex tb.caps)), ?_, ?_, ?_⟩
  · apply successFor_le_sentFor
    intro entry hentry
    obtain ⟨e, he, rfl⟩ := List.mem_map.mp hentry
    exact (attempted_sent hcount e he).1
  · exact (congrArg RowCounters.sent hcounters).trans (sent_earned ..)
  · exact (congrArg RowCounters.sentSuccess hcounters).trans (sentSuccess_earned ..)

/-! ## A run -/

/-- The statistics after `n` updates, with the attempts that the rows have accumulated. -/
structure RunOk (caps : MmrcStaCapabilities) (n : Nat) (tb : MmrcTable)
    (accumulated : Nat → Nat) : Prop where
  ofCaps : tb.caps = caps
  stats : StatsOk n tb
  accumulated : ∀ k < rowsFromStaCaps tb.caps, (tb.table k).sent.toNat = accumulated k

variable {tb : MmrcTable} {accumulated : Nat → Nat} {caps : MmrcStaCapabilities} {n : Nat}

theorem RunOk.rowsInRange (h : RunOk caps n tb accumulated) : RowsInRange tb :=
  fun k hk => ⟨h.stats.inRange.success k hk, h.stats.inRange.prob k, h.stats.inRange.evidence k⟩

theorem counters_le {sent sentSuccess : U16} {attempts successes : Nat}
    (hle : sentSuccess ≤ sent) (hfew : sent.toNat + attempts ≤ 65535)
    (hsuccesses : successes ≤ attempts) :
    (sent + BitVec.ofNat 16 attempts).toNat = sent.toNat + attempts
      ∧ sentSuccess + BitVec.ofNat 16 successes ≤ sent + BitVec.ofNat 16 attempts := by
  have hnat : sentSuccess.toNat ≤ sent.toNat := hle
  have hadd : ∀ (c : U16) (m : Nat), c.toNat + m ≤ 65535 →
      (c + BitVec.ofNat 16 m).toNat = c.toNat + m := by
    intro c m hsmall
    rw [BitVec.toNat_add, BitVec.toNat_ofNat, Nat.mod_eq_of_lt (show m < 2 ^ 16 by omega),
      Nat.mod_eq_of_lt (by omega)]
  refine ⟨hadd sent attempts hfew, ?_⟩
  show (sentSuccess + BitVec.ofNat 16 successes).toNat ≤ (sent + BitVec.ofNat 16 attempts).toNat
  rw [hadd sent attempts hfew, hadd sentSuccess successes (by omega)]
  omega

theorem runOk_feedback (h : RunOk caps n tb accumulated) (rates : MmrcRateTable)
    {retryCount : Int} (hcount : 0 < retryCount) (wasAggregated : Bool)
    (hfew : ∀ k < rowsFromStaCaps tb.caps,
      accumulated k + attemptsFor tb.caps k (.feedback rates retryCount wasAggregated) ≤ 65535) :
    RunOk caps n (mmrcFeedback tb rates retryCount wasAggregated) fun k =>
      accumulated k + attemptsFor tb.caps k (.feedback rates retryCount wasAggregated) := by
  have hcaps : (mmrcFeedback tb rates retryCount wasAggregated).caps = tb.caps :=
    (sameChainRates_mmrcFeedbackLoop wasAggregated rates.rates retryCount tb).caps
  have haverages := sameAverages_mmrcFeedbackLoop wasAggregated rates.rates retryCount tb
  have hrows : ∀ k < rowsFromStaCaps tb.caps,
      ((mmrcFeedback tb rates retryCount wasAggregated).table k).sent.toNat
          = accumulated k + attemptsFor tb.caps k (.feedback rates retryCount wasAggregated)
        ∧ ((mmrcFeedback tb rates retryCount wasAggregated).table k).sentSuccess
          ≤ ((mmrcFeedback tb rates retryCount wasAggregated).table k).sent := by
    intro k hk
    obtain ⟨successes, hsuccesses, hsent, hsentSuccess⟩ :=
      counters_mmrcFeedback tb rates hcount wasAggregated k
    have hsmall := hfew k hk
    rw [← h.accumulated k hk] at hsmall ⊢
    rw [hsent, hsentSuccess]
    exact counters_le (h.stats.inRange.success k hk) hsmall hsuccesses
  refine ⟨hcaps.trans h.ofCaps, ⟨⟨fun k => ?_, fun k => ?_, ?_, fun k hk => ?_⟩, fun k => ?_⟩,
    fun k hk => ?_⟩
  · have hprob : ((mmrcFeedback tb rates retryCount wasAggregated).table k).prob
        = (tb.table k).prob := (haverages k).1.prob
    rw [hprob]
    exact h.stats.inRange.prob k
  · have hevidence : ((mmrcFeedback tb rates retryCount wasAggregated).table k).evidence
        = (tb.table k).evidence := (haverages k).1.evidence
    rw [hevidence]
    exact h.stats.inRange.evidence k
  · have hvariation : (mmrcFeedback tb rates retryCount wasAggregated).probabilityVariation
        = tb.probabilityVariation := (haverages 0).2
    rw [hvariation]
    exact h.stats.inRange.variation
  · rw [hcaps] at hk
    exact (hrows k hk).2
  · have hwindow := h.stats.window k
    have hcounter : ((mmrcFeedback tb rates retryCount wasAggregated).table k).avgThroughputCounter
        = (tb.table k).avgThroughputCounter := (haverages k).1.counter
    have hsum : ((mmrcFeedback tb rates retryCount wasAggregated).table k).sumThroughput
        = (tb.table k).sumThroughput := (haverages k).1.sum
    constructor
    · rw [hcounter]
      exact hwindow.counter
    · rw [hcounter, hsum]
      exact hwindow.started
  · rw [hcaps] at hk
    exact (hrows k hk).1

theorem callSafe_of_runOk (hbw : caps.bandwidth.getLsbD mmrcBw16mhz = false)
    (h : RunOk caps n tb accumulated) {event : RcEvent}
    (hcall : WellCalled event) (hn : event.isUpdate = true → n < 2 ^ 32) :
    CallSafe beyond tb event := by
  have hbwTable : tb.caps.bandwidth.getLsbD mmrcBw16mhz = false := by
    rw [h.ofCaps]
    exact hbw
  cases event with
  | feedback rates retryCount wasAggregated => trivial
  | update => exact updateSafe beyond h.stats (hn rfl) hbwTable
  | getRates size random =>
    refine ⟨calculateAttemptTimeDivisors_ne_zero hcall, fun index => ?_, fun t ht index => ?_⟩
    · obtain ⟨hlt, hss⟩ := getRateRow_bw_lt hbwTable index
      exact (theoreticalThroughput_le beyond hlt hss).1
    have hsame : SameStats tb t := by
      rcases List.mem_cons.mp ht with rfl | ht
      · exact lookaroundDue_sameStats tb
      · rw [List.mem_singleton.mp ht]
        exact mmrcGetRates_sameStats beyond tb size random
    apply throughputProducts_lt beyond (h.stats.inRange.of_same hsame)
    rw [hsame.caps]
    exact hbwTable

theorem inRange_of_runOk (hbw : caps.bandwidth.getLsbD mmrcBw16mhz = false) {events : List RcEvent}
    (h : RunOk caps n tb accumulated)
    (hcalls : ∀ e ∈ events, WellCalled e) (hupdates : n + events.countP RcEvent.isUpdate ≤ 2 ^ 32)
    (hfew : Throughout (countedStep beyond leftInRow)
      (fun state => ∀ k < rowsFromStaCaps state.1.caps, state.2 k ≤ 65535) (tb, accumulated)
      events) : StatisticsInRange beyond tb events := by
  induction events generalizing n tb accumulated with
  | nil => exact ⟨h.rowsInRange, trivial⟩
  | cons event events ih =>
    have hcall := hcalls event (List.mem_cons_self ..)
    have hrest := fun e he => hcalls e (List.mem_cons_of_mem _ he)
    have hcount : (event :: events).countP RcEvent.isUpdate
        = events.countP RcEvent.isUpdate + if event.isUpdate = true then 1 else 0 :=
      List.countP_cons
    rw [hcount] at hupdates
    have hn : event.isUpdate = true → n < 2 ^ 32 := by
      intro hupdate
      rw [if_pos hupdate] at hupdates
      omega
    have hsafe := callSafe_of_runOk beyond hbw h hcall hn
    -- What each call leaves is in range, so that the rest of the run is.
    have hnext : ∀ tb', rcStep beyond tb event = some tb' →
        StatisticsInRange beyond tb' events := by
      cases event with
      | feedback rates retryCount wasAggregated =>
        intro tb' hstep
        cases hstep
        have hfew' := hfew.2 _ rfl
        apply ih (runOk_feedback h rates hcall wasAggregated fun k hk => ?_) hrest hupdates hfew'
        apply hfew'.head k
        show k < rowsFromStaCaps (mmrcFeedbackLoop wasAggregated rates.rates retryCount tb).caps
        rw [(sameChainRates_mmrcFeedbackLoop wasAggregated rates.rates retryCount tb).caps]
        exact hk
      | update =>
        intro tb' hstep
        cases hstep
        have hupdates' : n + 1 + events.countP RcEvent.isUpdate ≤ 2 ^ 32 := by
          change n + (events.countP RcEvent.isUpdate + 1) ≤ 2 ^ 32 at hupdates
          omega
        refine ih ⟨?_, statsOk_mmrcUpdate beyond h.stats (hn rfl), fun k _ => ?_⟩ hrest hupdates'
          (hfew.2 _ rfl)
        · exact (caps_mmrcUpdate beyond tb).trans h.ofCaps
        · rfl
      | getRates size random =>
        intro tb' hstep
        cases hstep
        have hsame := mmrcGetRates_sameStats beyond tb size random
        refine ih ⟨hsame.caps.trans h.ofCaps, ⟨h.stats.inRange.of_same hsame, fun k => ?_⟩,
          fun k hk => ?_⟩ hrest hupdates (hfew.2 _ rfl)
        · rw [hsame.table]
          exact h.stats.window k
        · rw [hsame.caps] at hk
          rw [hsame.table]
          exact h.accumulated k hk
    exact ⟨⟨h.rowsInRange, fun tb' hstep => (hnext tb' hstep).rows⟩,
      ⟨hsafe, fun tb' hstep => (hnext tb' hstep).calls⟩⟩

/-- From the start, for every run of at most `2 ^ 32` updates in which the callers call as they
do and no row accumulates more than 65535 attempts: the statistics stay in range. -/
theorem statistics_in_range {caps : MmrcStaCapabilities}
    (hbw : caps.bandwidth.getLsbD mmrcBw16mhz = false) (rssi : Int) {events : List RcEvent}
    (hcalls : ∀ e ∈ events, WellCalled e) (hupdates : events.countP RcEvent.isUpdate ≤ 2 ^ 32)
    (hfew : FewAttempts beyond leftInRow (mmrcStaInit beyond caps rssi) events) :
    StatisticsInRange beyond (mmrcStaInit beyond caps rssi) events := by
  have hstart : RunOk caps 0 (mmrcStaInit beyond caps rssi) fun _ => 0 :=
    ⟨rfl, statsOk_mmrcStaInit beyond caps rssi, fun _ _ => rfl⟩
  exact inRange_of_runOk beyond hbw hstart hcalls (by omega) hfew

instance (kept : MmrcStatsTable → Nat) (tb : MmrcTable) (events : List RcEvent) :
    Decidable (FewAttempts beyond kept tb events) :=
  inferInstanceAs (Decidable (Throughout _ _ _ _))

/-- One row: MCS 7 at one bandwidth. -/
def oneRowCaps (bandwidth : BitVec 5) : MmrcStaCapabilities :=
  ⟨4, 2, bandwidth, 0b0001, 0b00010000000, 0b01, 0⟩

/-- A chain of one attempt. -/
def oneAttempt : MmrcRateTable :=
  ⟨[⟨7, 1, 0, 0, 0, 0, 0⟩, ⟨7, 0, 0, 0, 0, 0, 0⟩, ⟨7, 0, 0, 0, 0, 0, 0⟩, ⟨7, 0, 0, 0, 0, 0, 0⟩],
    rfl⟩

theorem statistics_in_range_short :
    StatisticsInRange (fun _ => 0) (mmrcStaInit (fun _ => 0) (oneRowCaps 1) (-60))
      [.feedback oneAttempt 2 true, .getRates 1200 fun _ => 0, .update,
        .feedback oneAttempt 1 false, .update] := by
  apply statistics_in_range (fun _ => 0) (by decide) (-60) _ (by decide) (by decide +kernel)
  intro e he
  simp only [List.mem_cons, List.not_mem_nil, or_false] at he
  rcases he with rfl | rfl | rfl | rfl | rfl
  all_goals
    unfold WellCalled
    decide

/-! ## Runs that leave the ranges -/

/-- The run has few attempts between updates, and leaves the ranges. -/
def LeavesRange (caps : MmrcStaCapabilities) (events : List RcEvent) : Prop :=
  FewAttempts beyond (fun _ => 0) (mmrcStaInit beyond caps (-60)) events
    ∧ ¬ StatisticsInRange beyond (mmrcStaInit beyond caps (-60)) events

theorem leavesRange_no_attempt :
    LeavesRange (fun _ => 0) (oneRowCaps 1) [.feedback oneAttempt 0 false] := by
  refine ⟨by decide +kernel, fun h => ?_⟩
  have hrow := (h.rows.2 _ rfl : RowsInRange _) 0 (by decide +kernel)
  exact absurd hrow.sentSuccess (by decide +kernel)

theorem leavesRange_no_octet :
    LeavesRange (fun _ => 0) (oneRowCaps 1) [.getRates 0 fun _ => 0] := by
  refine ⟨by decide +kernel, fun h => ?_⟩
  exact h.calls.1.divisors 0 (by decide +kernel) rfl

theorem leavesRange_16mhz :
    LeavesRange (fun _ => 0xffffffff) (oneRowCaps 0b10000)
      [.feedback oneAttempt 1 false, .update] := by
  refine ⟨by decide +kernel, fun h => ?_⟩
  have hsafe : UpdateSafe (fun _ => 0xffffffff) _ := (h.calls.2 _ rfl).1
  have hlt := hsafe.products _ (List.mem_append_right _ (List.mem_singleton_self _)) 0
    (0xffffffff * 1000) (by decide +kernel)
  omega


theorem counters_failed_attempt (hcaps : tb.caps = oneRowCaps 1) :
    ((mmrcFeedback tb oneAttempt 2 false).table 0).sent = (tb.table 0).sent + 1
      ∧ ((mmrcFeedback tb oneAttempt 2 false).table 0).sentSuccess = (tb.table 0).sentSuccess := by
  have hrow := rowCounters_mmrcFeedbackLoop false 0 oneAttempt.rates 2 (by decide) tb
  rw [hcaps] at hrow
  exact ⟨congrArg RowCounters.sent hrow, congrArg RowCounters.sentSuccess hrow⟩

theorem attemptsFor_failed_attempt :
    attemptsFor (oneRowCaps 1) 0 (.feedback oneAttempt 2 false) = 1 := by decide

theorem rows_oneRowCaps : rowsFromStaCaps (oneRowCaps 1) = 1 := by decide +kernel

theorem caps_failed_attempt (tb : MmrcTable) : (mmrcFeedback tb oneAttempt 2 false).caps = tb.caps :=
  (sameChainRates_mmrcFeedbackLoop false oneAttempt.rates 2 tb).caps

theorem failed_attempts (n : Nat) (hcaps : tb.caps = oneRowCaps 1) :
    ∃ tb', runFrom (rcStep beyond) tb (List.replicate n (.feedback oneAttempt 2 false)) = some tb'
      ∧ tb'.caps = oneRowCaps 1 ∧ (tb'.table 0).sent = (tb.table 0).sent + BitVec.ofNat 16 n
      ∧ (tb'.table 0).sentSuccess = (tb.table 0).sentSuccess := by
  induction n generalizing tb with
  | zero => exact ⟨tb, rfl, hcaps, (BitVec.add_zero _).symm, rfl⟩
  | succ n ih =>
    obtain ⟨hsent, hsuccess⟩ := counters_failed_attempt hcaps
    obtain ⟨tb', hrun, hcaps', hsent', hsuccess'⟩ := ih ((caps_failed_attempt tb).trans hcaps)
    refine ⟨tb', ?_, hcaps', ?_, hsuccess'.trans hsuccess⟩
    · exact (runFrom_cons rfl).trans hrun
    · rw [hsent', hsent, BitVec.add_assoc, Nat.add_comm n 1, BitVec.ofNat_add]
      rfl

theorem few_of_sum {events : List RcEvent}
    (hcaps : tb.caps = caps) (hsum : ∀ k < rowsFromStaCaps caps,
      accumulated k + (events.map (attemptsFor caps k)).sum ≤ 65535) :
    Throughout (countedStep beyond fun _ => 0)
      (fun state => ∀ k < rowsFromStaCaps state.1.caps, state.2 k ≤ 65535) (tb, accumulated)
      events := by
  have hnow : ∀ k < rowsFromStaCaps tb.caps, accumulated k ≤ 65535 := by
    intro k hk
    rw [hcaps] at hk
    exact Nat.le_trans (Nat.le_add_right _ _) (hsum k hk)
  induction events generalizing tb accumulated with
  | nil => exact hnow
  | cons event events ih =>
    refine ⟨hnow, fun state hstate => ?_⟩
    have hnext : state.1.caps = caps ∧ ∀ k < rowsFromStaCaps caps,
        state.2 k + (events.map (attemptsFor caps k)).sum ≤ 65535 := by
      cases event with
      | feedback rates retryCount wasAggregated =>
        cases hstate
        have hsame := sameChainRates_mmrcFeedbackLoop wasAggregated rates.rates retryCount tb
        refine ⟨hsame.caps.trans hcaps, fun k hk => ?_⟩
        have hk' := hsum k hk
        rw [List.map_cons, List.sum_cons] at hk'
        show accumulated k + attemptsFor tb.caps k _ + _ ≤ 65535
        rw [hcaps]
        omega
      | update =>
        cases hstate
        refine ⟨(caps_mmrcUpdate beyond tb).trans hcaps, fun k hk => ?_⟩
        have hk' := hsum k hk
        rw [List.map_cons, List.sum_cons] at hk'
        show 0 + _ ≤ 65535
        omega
      | getRates size random =>
        cases hstate
        refine ⟨(mmrcGetRates_sameStats beyond tb size random).caps.trans hcaps,
          fun k hk => ?_⟩
        have hk' := hsum k hk
        rw [List.map_cons, List.sum_cons] at hk'
        show accumulated k + 0 + _ ≤ 65535
        omega
    refine ih hnext.1 hnext.2 fun k hk => ?_
    rw [hnext.1] at hk
    exact Nat.le_trans (Nat.le_add_right _ _) (hnext.2 k hk)

theorem few_failed_attempts (hcaps : tb.caps = oneRowCaps 1)
    (hfew : accumulated 0 + n ≤ 65535) : Throughout (countedStep beyond fun _ => 0)
      (fun state => ∀ k < rowsFromStaCaps state.1.caps, state.2 k ≤ 65535) (tb, accumulated)
      (List.replicate n (.feedback oneAttempt 2 false)) := by
  apply few_of_sum beyond hcaps
  intro k hk
  rw [rows_oneRowCaps] at hk
  obtain rfl : k = 0 := by omega
  rw [List.map_replicate, List.sum_replicate_nat, attemptsFor_failed_attempt, Nat.mul_one]
  exact hfew

/-- Twenty updates of failures, a lookaround, and an attempt that an update leaves behind. -/
def leftoverStart : List RcEvent :=
  (List.replicate 20 [RcEvent.feedback oneAttempt 2 false, RcEvent.update]).flatten
    ++ [.getRates 1200 fun _ => 0, .feedback oneAttempt 1 false, .update]

set_option maxRecDepth 20000 in
theorem leftoverStart_leaves :
    (runFrom (rcStep fun _ => 0) (mmrcStaInit (fun _ => 0) (oneRowCaps 1) (-60)) leftoverStart).all
      (fun tb => decide (tb.caps = oneRowCaps 1 ∧ rowCounters (tb.table 0) = ⟨1, 1, 0, 0⟩))
      = true := by decide +kernel

set_option maxRecDepth 20000 in
theorem leftoverStart_counted :
    (runFrom (countedStep (fun _ => 0) fun _ => 0)
      (mmrcStaInit (fun _ => 0) (oneRowCaps 1) (-60), fun _ => 0) leftoverStart).all
      (fun state => decide (state.1.caps = oneRowCaps 1 ∧ state.2 0 = 0)) = true := by
  decide +kernel

theorem leftoverStart_few :
    FewAttempts (fun _ => 0) (fun _ => 0) (mmrcStaInit (fun _ => 0) (oneRowCaps 1) (-60))
      leftoverStart := by
  have hcaps : (mmrcStaInit (fun _ => 0) (oneRowCaps 1) (-60)).caps = oneRowCaps 1 := rfl
  apply few_of_sum (fun _ => 0) hcaps
  intro k hk
  rw [rows_oneRowCaps] at hk
  obtain rfl : k = 0 := by omega
  decide +kernel

theorem rcStep_isSome (tb : MmrcTable) (event : RcEvent) :
    ∃ tb', rcStep beyond tb event = some tb' := by
  cases event with
  | feedback rates retryCount wasAggregated | update | getRates size random => exact ⟨_, rfl⟩

theorem runFrom_rcStep (tb : MmrcTable) (events : List RcEvent) :
    ∃ tb', runFrom (rcStep beyond) tb events = some tb' := by
  induction events generalizing tb with
  | nil => exact ⟨tb, rfl⟩
  | cons event events ih =>
    obtain ⟨t, ht⟩ := rcStep_isSome beyond tb event
    obtain ⟨tb', hrun⟩ := ih t
    exact ⟨tb', by rw [runFrom, ht]; exact hrun⟩

theorem leavesRange_leftover :
    LeavesRange (fun _ => 0) (oneRowCaps 1)
      (leftoverStart ++ List.replicate 65535 (.feedback oneAttempt 2 false)) := by
  constructor
  · apply leftoverStart_few.append
    intro state hrun
    have hall := leftoverStart_counted
    rw [hrun] at hall
    obtain ⟨hcaps, hzero⟩ := of_decide_eq_true hall
    exact few_failed_attempts (fun _ => 0) hcaps (by rw [hzero])
  intro h
  obtain ⟨tb, hrun⟩ := runFrom_rcStep (fun _ => 0)
    (mmrcStaInit (fun _ => 0) (oneRowCaps 1) (-60)) leftoverStart
  have hall := leftoverStart_leaves
  rw [hrun] at hall
  obtain ⟨hcaps, hrow⟩ := of_decide_eq_true hall
  obtain ⟨tb', hrun', hcaps', hsent', hsuccess'⟩ := failed_attempts (fun _ => 0) 65535 hcaps
  have hsent : (tb.table 0).sent = 1 := congrArg RowCounters.sent hrow
  have hsuccess : (tb.table 0).sentSuccess = 1 := congrArg RowCounters.sentSuccess hrow
  have hend := h.rows.of_runFrom ((runFrom_append hrun).trans hrun')
  have hle := (hend 0 (by rw [hcaps', rows_oneRowCaps]; exact Nat.one_pos)).sentSuccess
  rw [hsent', hsuccess', hsent, hsuccess] at hle
  exact absurd hle (by decide)

/-- What the choice of the best rate leaves alone. -/
structure SameMode (tb tb' : MmrcTable) : Prop where
  fixedRate : tb'.fixedRate = tb.fixedRate
  interferenceLikely : tb'.interferenceLikely = tb.interferenceLikely
  lookaroundWrap : tb'.lookaroundWrap = tb.lookaroundWrap

theorem SameMode.trans {a b c : MmrcTable} (h : SameMode a b) (h' : SameMode b c) :
    SameMode a c :=
  ⟨h'.fixedRate.trans h.fixedRate, h'.interferenceLikely.trans h.interferenceLikely,
    h'.lookaroundWrap.trans h.lookaroundWrap⟩

theorem sameMode_modifyRow (tb : MmrcTable) (i : Nat) (f : MmrcStatsTable → MmrcStatsTable) :
    SameMode tb (tb.modifyRow i f) := ⟨rfl, rfl, rfl⟩

theorem sameMode_generateTablePriority (tb : MmrcTable) (newStats : Bool) :
    SameMode tb (generateTablePriority beyond tb newStats) := by
  have hstability : ∀ (t : MmrcTable) a b c, SameMode t (updateStability t a b c) := by
    intro t a b c
    unfold updateStability
    dsimp only
    split <;> exact ⟨rfl, rfl, rfl⟩
  unfold generateTablePriority
  split
  · exact ⟨rfl, rfl, rfl⟩
  dsimp only
  split
  · exact ⟨rfl, rfl, rfl⟩
  · refine SameMode.trans ?_ (hstability _ _ _ _)
    exact ⟨rfl, rfl, rfl⟩

theorem mode_mmrcUpdate (hwrap : (updatedRows beyond tb).lookaroundWrap = lookaroundRateInit) :
    SameMode (updatedRows beyond tb) (mmrcUpdate beyond tb) := by
  unfold mmrcUpdate
  unfold updatedRows minStatsOf updateStart at hwrap ⊢
  dsimp only at hwrap ⊢
  generalize List.foldl _ _ _ = state at hwrap ⊢
  have hmode := sameMode_generateTablePriority beyond state.1 state.2
  generalize generateTablePriority beyond state.1 state.2 = chosen at hmode ⊢
  have hsame : chosen.lookaroundWrap = lookaroundRateInit := hmode.lookaroundWrap.trans hwrap
  split
  · next hback =>
      rw [Bool.and_eq_true, decide_eq_true_eq] at hback
      exact absurd hsame hback.1
  · exact hmode.trans ⟨rfl, rfl, rfl⟩

/-- The table of one row, which nobody sends with: its window has `counter` updates and the
sum `sum`. -/
structure Quiet (counter : Nat) (sum : U32) (prob : U8) (tb : MmrcTable) : Prop where
  caps : tb.caps = oneRowCaps 1
  notFixed : tb.fixedRate.rate = mmrcMcsUnused
  calm : tb.interferenceLikely = false
  wrap : tb.lookaroundWrap = lookaroundRateInit
  counters : rowCounters (tb.table 0) = ⟨0, 0, 0, 0⟩
  prob : (tb.table 0).prob = prob
  sum : (tb.table 0).sumThroughput = sum
  counter : (tb.table 0).avgThroughputCounter = BitVec.ofNat 32 counter

/-- The throughput of the row. -/
def rowThroughput (prob : U8) : U32 :=
  if prob < 10 then 0 else 3000 * 1000 * 1 / 100 * prob.setWidth 32

theorem calculateThroughput_oneRow (hcaps : tb.caps = oneRowCaps 1)
    (hcalm : tb.interferenceLikely = false) :
    calculateThroughput beyond tb 0 = rowThroughput (tb.table 0).prob := by
  have hrow : getRateRow (oneRowCaps 1) (0 % 256) = ⟨7, 0, 0, 0, 0, 0, 0⟩ := by decide +kernel
  unfold calculateThroughput rowThroughput
  rw [hcaps, hrow, hcalm]
  dsimp only
  split
  · rfl
  · rw [Bool.and_false]
    rfl

theorem updatedRows_oneRow (hcaps : tb.caps = oneRowCaps 1) :
    updatedRows beyond tb = (mmrcUpdateRow beyond (minStatsOf tb) (updateStart tb) 0).1 := by
  unfold updatedRows
  rw [hcaps, rows_oneRowCaps]
  rfl

theorem sameMode_updateRowTable {minStats : U32}
    (hwrap : tb.lookaroundWrap = lookaroundRateInit) (i : Nat) :
    SameMode tb (updateRowTable minStats tb i) := by
  have hvariation : ∀ (t : MmrcTable) s, t.lookaroundWrap = lookaroundRateInit →
      SameMode t (mmrcProcessVariation t s i) := by
    intro t s ht
    unfold mmrcProcessVariation
    split_ifs
    all_goals exact ⟨rfl, rfl, rfl⟩
  unfold updateRowTable
  dsimp only
  split
  · split
    · exact ((sameMode_modifyRow tb i _).trans (hvariation _ _ hwrap)).trans
        (sameMode_modifyRow _ i _)
    · exact (sameMode_modifyRow tb i _).trans (sameMode_modifyRow _ i _)
  · exact sameMode_modifyRow tb i _

theorem withThroughput_of_fits {row : MmrcStatsTable} {throughput : U32}
    (hfits : ¬ 0xffffffff - throughput < row.sumThroughput) :
    (row.withThroughput throughput).sumThroughput = row.sumThroughput + throughput
      ∧ (row.withThroughput throughput).avgThroughputCounter = row.avgThroughputCounter + 1 := by
  unfold MmrcStatsTable.withThroughput
  dsimp only
  rw [if_neg (by simpa using hfits), if_neg (by simpa using hfits)]
  exact ⟨rfl, rfl⟩

variable {counter : Nat}

/-- An update of the table of one row, whose counters it empties. -/
theorem quiet_of_turn (hcaps : tb.caps = oneRowCaps 1)
    (hfixed : tb.fixedRate.rate = mmrcMcsUnused) (hcalm : tb.interferenceLikely = false)
    (hwrap : tb.lookaroundWrap = lookaroundRateInit) {row : MmrcStatsTable}
    (hrow : (updateRowTable (minStatsOf tb) (updateStart tb).1 0).table 0 = row)
    (hcounters : rowCounters row = ⟨0, 0, 0, 0⟩)
    (hfits : ¬ 0xffffffff - rowThroughput row.prob < row.sumThroughput)
    (hcounter : row.avgThroughputCounter = BitVec.ofNat 32 counter) :
    Quiet (counter + 1) (row.sumThroughput + rowThroughput row.prob) row.prob
      (mmrcUpdate beyond tb) := by
  have hstart : (updateStart tb).1.lookaroundWrap = lookaroundRateInit := hwrap
  have hturn : SameMode (updateStart tb).1 (updateRowTable (minStatsOf tb) (updateStart tb).1 0) :=
    sameMode_updateRowTable hstart 0
  have hthroughput := calculateThroughput_oneRow beyond
    ((caps_updateRowTable (minStatsOf tb) (updateStart tb).1 0).trans hcaps)
    (hturn.interferenceLikely.trans hcalm)
  rw [hrow] at hthroughput
  have hrows : updatedRows beyond tb
      = (updateRowTable (minStatsOf tb) (updateStart tb).1 0).modifyRow 0 fun row' =>
          row'.withThroughput (rowThroughput row.prob) := by
    rw [updatedRows_oneRow beyond hcaps, mmrcUpdateRow_eq, hthroughput]
  have hmodeRows : SameMode tb (updatedRows beyond tb) := by
    rw [hrows]
    exact ⟨hturn.fixedRate, hturn.interferenceLikely, hturn.lookaroundWrap⟩
  have hmode := hmodeRows.trans (mode_mmrcUpdate beyond (hmodeRows.lookaroundWrap.trans hwrap))
  have htable : (mmrcUpdate beyond tb).table 0 = row.withThroughput (rowThroughput row.prob) := by
    rw [(sameStats_mmrcUpdate beyond tb).table, hrows, table_modifyRow, if_pos rfl, hrow]
  obtain ⟨hsum, hcount⟩ := withThroughput_of_fits hfits
  obtain ⟨most, sum, count, hsame⟩ := withThroughput_eq row (rowThroughput row.prob)
  refine ⟨(caps_mmrcUpdate beyond tb).trans hcaps, ?_, hmode.interferenceLikely.trans hcalm,
    hmode.lookaroundWrap.trans hwrap, ?_, ?_, ?_, ?_⟩
  · rw [hmode.fixedRate]
    exact hfixed
  · rw [htable, hsame]
    exact hcounters
  · rw [htable, hsame]
  · rw [htable, hsum]
  · rw [htable, hcount, hcounter, BitVec.ofNat_add]
    rfl

theorem quiet_turn {sum : U32} {prob : U8} (h : Quiet counter sum prob tb) :
    (updateRowTable (minStatsOf tb) (updateStart tb).1 0).table 0
      = { tb.table 0 with evidence := nextEvidence (tb.table 0) false } := by
  have hcounters := h.counters
  have hsent : (tb.table 0).sent = 0 := congrArg RowCounters.sent hcounters
  have hacked : (tb.table 0).backMpduSuccess = 0 := congrArg RowCounters.backMpduSuccess hcounters
  have hlost : (tb.table 0).backMpduFailure = 0 := congrArg RowCounters.backMpduFailure hcounters
  have hstats : (statsOfRow (updateStart tb).1 ((updateStart tb).1.table 0)).1 = 0 := by
    show (statsOfRow (updateStart tb).1 (tb.table 0)).1 = 0
    unfold statsOfRow
    rw [hsent, hacked, hlost]
    simp [ampduStatsMin]
  have henough : ¬ enoughStats (updateStart tb).1 (minStatsOf tb) 0
      (statsOfRow (updateStart tb).1 ((updateStart tb).1.table 0)).1 = true := by
    intro h'
    rw [hstats] at h'
    exact attempts_ne_zero_of_enoughStats (minStatsOf_ne_zero tb) h' rfl
  have hrow := table_updateRowTable (minStatsOf tb) (updateStart tb).1 0 0
  rw [if_pos rfl] at hrow
  dsimp only at hrow
  rw [if_neg henough] at hrow
  exact hrow

theorem quiet_mmrcUpdate {sum : U32} {prob : U8}
    (h : Quiet counter sum prob tb) (hfits : ¬ 0xffffffff - rowThroughput prob < sum) :
    Quiet (counter + 1) (sum + rowThroughput prob) prob (mmrcUpdate beyond tb) := by
  have hrow := quiet_turn h
  have hquiet := quiet_of_turn beyond h.caps h.notFixed h.calm h.wrap hrow h.counters
    (by
      show ¬ 0xffffffff - rowThroughput (tb.table 0).prob < (tb.table 0).sumThroughput
      rw [h.prob, h.sum]
      exact hfits) h.counter
  have hprob : (tb.table 0).prob = prob := h.prob
  have hsum : (tb.table 0).sumThroughput = sum := h.sum
  rw [← hprob, ← hsum]
  exact hquiet

theorem quiet_updates (n : Nat) {sum : Nat} {prob : U8}
    (h : Quiet counter (BitVec.ofNat 32 sum) prob tb)
    (hfits : sum + n * (rowThroughput prob).toNat < 2 ^ 32) :
    ∃ tb', runFrom (rcStep beyond) tb (List.replicate n .update) = some tb'
      ∧ Quiet (counter + n) (BitVec.ofNat 32 (sum + n * (rowThroughput prob).toNat)) prob tb' := by
  induction n generalizing counter sum tb with
  | zero =>
    rw [Nat.zero_mul]
    exact ⟨tb, rfl, h⟩
  | succ n ih =>
    have hsplit : (n + 1) * (rowThroughput prob).toNat
        = n * (rowThroughput prob).toNat + (rowThroughput prob).toNat := Nat.succ_mul _ _
    have hlt := (rowThroughput prob).isLt
    have hnot : ¬ 0xffffffff - rowThroughput prob < BitVec.ofNat 32 sum := by
      intro hover
      have hnat : (0xffffffff - rowThroughput prob : U32).toNat < (BitVec.ofNat 32 sum).toNat :=
        hover
      have hsub : (0xffffffff - rowThroughput prob : U32).toNat
          = 0xffffffff - (rowThroughput prob).toNat := by
        apply BitVec.toNat_sub_of_le
        show (rowThroughput prob).toNat ≤ 4294967295
        omega
      rw [hsub, BitVec.toNat_ofNat, Nat.mod_eq_of_lt (by omega)] at hnat
      omega
    have hnext := quiet_mmrcUpdate beyond h hnot
    have hsum : BitVec.ofNat 32 sum + rowThroughput prob
        = BitVec.ofNat 32 (sum + (rowThroughput prob).toNat) := by
      rw [BitVec.ofNat_add, BitVec.ofNat_toNat, BitVec.setWidth_eq]
    rw [hsum] at hnext
    obtain ⟨tb', hrun, hquiet⟩ := ih hnext (by omega)
    refine ⟨tb', (runFrom_cons rfl).trans hrun, ?_⟩
    have hcounter : counter + 1 + n = counter + (n + 1) := by omega
    rw [hsplit, ← hcounter, Nat.add_comm (n * _), ← Nat.add_assoc]
    exact hquiet

theorem rowThroughput_zero : rowThroughput 0 = 0 := by decide

theorem rowThroughput_hundred : rowThroughput 100 = 3000000 := by decide

theorem sameMode_mmrcFeedbackLoop (wasAggregated : Bool) (rates : List MmrcRate) (ind : Int)
    (tb : MmrcTable) : SameMode tb (mmrcFeedbackLoop wasAggregated rates ind tb) := by
  induction rates generalizing ind tb with
  | nil => exact ⟨rfl, rfl, rfl⟩
  | cons rate rates ih =>
    unfold mmrcFeedbackLoop
    dsimp only
    split
    · exact ((sameMode_modifyRow tb _ _).trans (sameMode_modifyRow _ _ _)).trans (ih _ _)
    · exact (sameMode_modifyRow tb _ _).trans (sameMode_modifyRow _ _ _)

theorem quiet_first_success (h : Quiet counter 0 0 tb) :
    Quiet (counter + 1) 3000000 100 (mmrcUpdate beyond (mmrcFeedback tb oneAttempt 1 false)) := by
  have hfed := rowCounters_mmrcFeedbackLoop false 0 oneAttempt.rates 1 (by decide) tb
  rw [h.caps, h.counters] at hfed
  have hcaps := (sameChainRates_mmrcFeedbackLoop false oneAttempt.rates 1 tb).caps.trans h.caps
  have hmode := sameMode_mmrcFeedbackLoop false oneAttempt.rates 1 tb
  have haverages := (sameAverages_mmrcFeedbackLoop false oneAttempt.rates 1 tb 0).1
  change rowCounters ((mmrcFeedback tb oneAttempt 1 false).table 0) = ⟨1, 1, 0, 0⟩ at hfed
  change (mmrcFeedback tb oneAttempt 1 false).caps = _ at hcaps
  change SameMode tb (mmrcFeedback tb oneAttempt 1 false) at hmode
  change SameAverages (tb.table 0) ((mmrcFeedback tb oneAttempt 1 false).table 0) at haverages
  generalize mmrcFeedback tb oneAttempt 1 false = fed at hfed hcaps hmode haverages ⊢
  have hwrap := hmode.lookaroundWrap.trans h.wrap
  have hprob : (fed.table 0).prob = 0 := haverages.prob.trans h.prob
  have hsum : (fed.table 0).sumThroughput = 0 := haverages.sum.trans h.sum
  have hstats : statsOfRow (updateStart fed).1 ((updateStart fed).1.table 0) = (1, 1) := by
    have hsent : (fed.table 0).sent = 1 := congrArg RowCounters.sent hfed
    have hsuccess : (fed.table 0).sentSuccess = 1 := congrArg RowCounters.sentSuccess hfed
    have hacked : (fed.table 0).backMpduSuccess = 0 := congrArg RowCounters.backMpduSuccess hfed
    have hlost : (fed.table 0).backMpduFailure = 0 := congrArg RowCounters.backMpduFailure hfed
    show statsOfRow (updateStart fed).1 (fed.table 0) = (1, 1)
    unfold statsOfRow
    rw [hsent, hsuccess, hacked, hlost]
    simp [ampduStatsMin]
  have henough : enoughStats (updateStart fed).1 (minStatsOf fed) 0 1 = true := by
    unfold enoughStats minStatsOf
    rw [hwrap]
    simp [statsMinInit]
  have hrow := table_updateRowTable (minStatsOf fed) (updateStart fed).1 0 0
  rw [if_pos rfl] at hrow
  dsimp only at hrow
  rw [hstats, if_pos henough] at hrow
  -- The row that is processed: empty, with the probability of the one success.
  generalize hprocessed : MmrcStatsTable.processed _ _ _ = row at hrow
  have hcounters : rowCounters row = ⟨0, 0, 0, 0⟩ := by
    rw [← hprocessed]
    rfl
  have hprobRow : row.prob = 100 := by
    rw [← hprocessed]
    show (calcEwmaAverage ((fed.table 0).prob.setWidth 32) _ _).setWidth 8 = 100
    rw [hprob]
    rfl
  have hsumRow : row.sumThroughput = 0 := by
    rw [← hprocessed]
    exact hsum
  have hcounterRow : row.avgThroughputCounter = BitVec.ofNat 32 counter := by
    rw [← hprocessed]
    exact haverages.counter.trans h.counter
  have hnot : ¬ 0xffffffff - rowThroughput row.prob < row.sumThroughput := by
    rw [hsumRow]
    exact Nat.not_lt_zero _
  have hquiet := quiet_of_turn beyond hcaps (by rw [hmode.fixedRate]; exact h.notFixed)
    (hmode.interferenceLikely.trans h.calm) hwrap hrow hcounters hnot hcounterRow
  rw [hsumRow, hprobRow, rowThroughput_hundred] at hquiet
  exact hquiet

theorem not_updateSafe_of_quiet {sum : U32}
    (h : Quiet counter sum 100 tb) (hcounter : BitVec.ofNat 32 counter = 0)
    (hover : 0xffffffff - rowThroughput 100 < sum) : ¬ UpdateSafe beyond tb := by
  intro hsafe
  have hrow := quiet_turn h
  have hthroughput := calculateThroughput_oneRow beyond
    ((caps_updateRowTable (minStatsOf tb) (updateStart tb).1 0).trans h.caps)
    ((sameMode_updateRowTable (show (updateStart tb).1.lookaroundWrap = _ from h.wrap)
      0).interferenceLikely.trans h.calm)
  rw [hrow] at hthroughput
  have hprob : (tb.table 0).prob = 100 := h.prob
  have hsum : (tb.table 0).sumThroughput = sum := h.sum
  have hzero : (tb.table 0).avgThroughputCounter = 0 := h.counter.trans hcounter
  apply hsafe.divisors 0 _ rfl
  have hturns : updateTurns beyond tb = [((updateStart tb).1, 0)] := by
    unfold updateTurns
    rw [h.caps, rows_oneRowCaps]
    rfl
  unfold mmrcUpdateDivisors
  rw [hturns, List.flatMap_singleton]
  apply List.mem_append_right
  rw [hthroughput]
  show (0 : U32) ∈ if 0xffffffff - rowThroughput (tb.table 0).prob < (tb.table 0).sumThroughput
    then [(tb.table 0).avgThroughputCounter] else []
  rw [hprob, hsum, if_pos hover, hzero]
  exact List.mem_singleton_self _

/-- Updates of an empty row, a success, and the updates that fill its window. -/
def longRun (idle : Nat) : List RcEvent :=
  List.replicate idle .update ++ ([.feedback oneAttempt 1 false, .update]
    ++ List.replicate 1430 .update) ++ [.update]

theorem leavesRange_long {idle : Nat} (hidle : idle + 1431 = 2 ^ 32) :
    LeavesRange (fun _ => 0) (oneRowCaps 1) (longRun idle) := by
  constructor
  · have hcaps : (mmrcStaInit (fun _ => 0) (oneRowCaps 1) (-60)).caps = oneRowCaps 1 := rfl
    apply few_of_sum (fun _ => 0) hcaps
    intro k _
    have hone : attemptsFor (oneRowCaps 1) k (.feedback oneAttempt 1 false) ≤ 1 := by
      have hle := sentFor_le_sentTotal k ((attempted oneAttempt.rates 1).map
        (withIndex (oneRowCaps 1)))
      exact Nat.le_trans hle (by decide)
    have hupdate : attemptsFor (oneRowCaps 1) k .update = 0 := rfl
    unfold longRun
    simp only [List.map_append, List.map_cons, List.map_nil, List.map_replicate, List.sum_append,
      List.sum_cons, List.sum_nil, List.sum_replicate_nat, hupdate, Nat.mul_zero]
    omega
  intro h
  have hstart : Quiet 0 (BitVec.ofNat 32 0) 0 (mmrcStaInit (fun _ => 0) (oneRowCaps 1) (-60)) :=
    ⟨rfl, rfl, rfl, rfl, rfl, rfl, rfl, rfl⟩
  have hnothing : 0 + idle * (rowThroughput 0).toNat = 0 := by
    rw [rowThroughput_zero]
    exact Nat.mul_zero idle
  obtain ⟨empty, hempty, hquiet⟩ := quiet_updates (fun _ => 0) idle hstart (by
    rw [hnothing]
    exact Nat.two_pow_pos 32)
  rw [hnothing, Nat.zero_add] at hquiet
  have hfirst := quiet_first_success (fun _ => 0) hquiet
  have hsum : 3000000 + 1430 * (rowThroughput 100).toNat = 4293000000 := by
    rw [rowThroughput_hundred]
    rfl
  obtain ⟨full, hfull, hwindow⟩ := quiet_updates (fun _ => 0) 1430 hfirst (by
    rw [hsum]
    norm_num)
  rw [hsum] at hwindow
  have hone : rcStep (fun _ => 0) empty (.feedback oneAttempt 1 false)
      = some (mmrcFeedback empty oneAttempt 1 false) := rfl
  have htwo : rcStep (fun _ => 0) (mmrcFeedback empty oneAttempt 1 false) .update
      = some (mmrcUpdate (fun _ => 0) (mmrcFeedback empty oneAttempt 1 false)) := rfl
  have hrun := (runFrom_append hempty).trans
    ((runFrom_cons hone).trans ((runFrom_cons htwo).trans hfull))
  have hsafe : UpdateSafe (fun _ => 0) full := h.calls.last hrun
  apply not_updateSafe_of_quiet (fun _ => 0) hwindow _ _ hsafe
  · have hcounter : idle + 1 + 1430 = 2 ^ 32 := by omega
    rw [hcounter]
    rfl
  · rw [rowThroughput_hundred]
    decide

/-- The ranges are left by feedback about no attempt, an empty frame, 16 MHz, an attempt that an
update leaves behind, and after `2 ^ 32` updates. -/
theorem statistics_leave_range :
    LeavesRange (fun _ => 0) (oneRowCaps 1) [.feedback oneAttempt 0 false]
      ∧ LeavesRange (fun _ => 0) (oneRowCaps 1) [.getRates 0 fun _ => 0]
      ∧ LeavesRange (fun _ => 0xffffffff) (oneRowCaps 0b10000)
        [.feedback oneAttempt 1 false, .update]
      ∧ LeavesRange (fun _ => 0) (oneRowCaps 1)
        (leftoverStart ++ List.replicate 65535 (.feedback oneAttempt 2 false))
      ∧ LeavesRange (fun _ => 0) (oneRowCaps 1) (longRun (2 ^ 32 - 1431)) :=
  ⟨leavesRange_no_attempt, leavesRange_no_octet, leavesRange_16mhz, leavesRange_leftover,
    leavesRange_long (by norm_num)⟩

end MmIotEsp32.Umac.Rc
