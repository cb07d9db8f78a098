/-
  MmIotEsp32.Mmrc.RateRows

  The rows of the table and the rates of the capabilities, one to one.
-/
import MmIotEsp32.Mmrc.RetryChains

namespace MmIotEsp32.Mmrc

open Lib

/-! ## Rows and rates -/

/-- `get_rate_row` and `rate_update_index` are inverse to each other. -/
structure RowsAreRates (caps : MmrcStaCapabilities) : Prop where
  ofRow : ∀ index < rowsFromStaCaps caps, caps.Supports (getRateRow caps index)
    ∧ (getRateRow caps index).index = index
    ∧ (rateUpdateIndex caps (getRateRow caps index)).index = index
  ofRate : ∀ rate, caps.Supports rate → rateIndex caps rate < rowsFromStaCaps caps
    ∧ (getRateRow caps (rateUpdateIndex caps rate).index).SameRate rate

/-- A short guard interval that the bandwidth does not have falls back to the row of the long
one; every other row is its own. -/
def FallsBackToLong (caps : MmrcStaCapabilities) : Prop :=
  ∀ index < rowsFromStaCaps caps, ∃ rate, caps.Supports rate ∧ rateIndex caps rate = index
    ∧ if rate.guard = mmrcGuardShort ∧ caps.sgiPerBw.getLsbD rate.bw = false then
        caps.Supports { rate with guard := mmrcGuardLong }
          ∧ (getRateRow caps index).SameRate { rate with guard := mmrcGuardLong }
          ∧ (getRateRow caps index).index = rateIndex caps { rate with guard := mmrcGuardLong }
      else (getRateRow caps index).SameRate rate ∧ (getRateRow caps index).index = index

/-- The last two rows belong to MCS10 at 1 MHz. -/
def ExtraRowsOfMcs10 (caps : MmrcStaCapabilities) : Prop :=
  ∀ index < rowsFromStaCaps caps, rowsFromStaCaps caps ≤ index + 2 →
    (getRateRow caps index).rate = mmrcMcs10 ∧ (getRateRow caps index).bw = mmrcBw1mhz

/-- The assertion of `rate_update_index` holds for every rate that is valid, and for what
`get_rate_row` makes of a row. -/
structure IndexInTable (caps : MmrcStaCapabilities) : Prop where
  ofRate : ∀ rate, caps.Supports rate → validateRate caps rate = true →
    rateIndex caps rate < rowsFromStaCaps caps
  ofRow : ∀ index < rowsFromStaCaps caps,
    rateIndex caps (getRateRow caps index) < rowsFromStaCaps caps

/-! ## Without MCS10 -/

section NoMcs10

variable {caps : MmrcStaCapabilities} (hmcs10 : caps.rates.getLsbD mmrcMcs10 = false)

include hmcs10

theorem exists_rate_of_row {index : Nat} (hindex : index < rowsFromStaCaps caps) :
    ∃ rate, caps.Supports rate ∧ rateIndex caps rate = index := by
  obtain ⟨g, b, s, r, hg, hb, hs, hr, rfl⟩ := exists_packIndex hmcs10 hindex
  have hsupports : caps.Supports
      { zeroRate with
        rate := nthBit caps.rates r, guard := nthBit caps.guard g,
        ss := nthBit caps.spatialStreams s, bw := nthBit caps.bandwidth b } :=
    ⟨(nthBit_set hr).1, (nthBit_set hb).1, (nthBit_set hs).1, (nthBit_set hg).1⟩
  refine ⟨_, hsupports, ?_⟩
  rw [packIndex_of_supports hsupports]
  show packIndex caps (rank caps.guard (nthBit caps.guard g)) _ _ _ = _
  rw [(nthBit_set hg).2, (nthBit_set hb).2, (nthBit_set hs).2, (nthBit_set hr).2]

theorem getRateRow_of_allowed {rate : MmrcRate} (hrate : caps.Supports rate)
    (hguard : rate.guard = mmrcGuardShort → caps.sgiPerBw.getLsbD rate.bw = true) :
    getRateRow caps (rateIndex caps rate)
      = { rate with attempts := 0, flags := 0, index := rateIndex caps rate } := by
  rw [getRateRow_of_supports hrate, allowedGuard_of_allowed hguard,
    rateUpdateIndex_of_lt (rateIndex_lt_of_filled hrate.filled hmcs10 _)]
  rfl

theorem rowsAreRates_of_sgi
    (hsgi : ∀ bw, caps.bandwidth.getLsbD bw = true → caps.sgiPerBw.getLsbD bw = true) :
    RowsAreRates caps := by
  constructor
  · intro index hindex
    obtain ⟨rate, hrate, rfl⟩ := exists_rate_of_row hmcs10 hindex
    have hrow := getRateRow_of_allowed hmcs10 hrate fun _ => hsgi _ hrate.bandwidth
    have hsame : rateIndex caps (getRateRow caps (rateIndex caps rate)) = rateIndex caps rate := by
      rw [hrow]
      rfl
    refine ⟨?_, ?_, ?_⟩
    · rw [hrow]
      exact ⟨hrate.rates, hrate.bandwidth, hrate.spatialStreams, hrate.guard⟩
    · rw [hrow]
    · rw [rateUpdateIndex_of_lt (Nat.lt_of_le_of_lt (Nat.le_of_eq hsame) hindex)]
      exact hsame
  intro rate hrate
  have hlt := rateIndex_lt_of_filled hrate.filled hmcs10 rate
  refine ⟨hlt, ?_⟩
  rw [rateUpdateIndex_of_lt hlt]
  show (getRateRow caps (rateIndex caps rate)).SameRate rate
  rw [getRateRow_of_allowed hmcs10 hrate fun _ => hsgi _ hrate.bandwidth]
  exact ⟨rfl, rfl, rfl, rfl⟩

theorem fallsBackToLong (hlong : caps.guard.getLsbD mmrcGuardLong = true) :
    FallsBackToLong caps := by
  intro index hindex
  obtain ⟨rate, hrate, rfl⟩ := exists_rate_of_row hmcs10 hindex
  refine ⟨rate, hrate, rfl, ?_⟩
  by_cases hshort : rate.guard = mmrcGuardShort ∧ caps.sgiPerBw.getLsbD rate.bw = false
  · rw [if_pos hshort]
    have hfallback : allowedGuard caps rate.bw rate.guard = mmrcGuardLong := by
      unfold allowedGuard
      rw [hshort.1, hshort.2]
      rfl
    rw [getRateRow_of_supports hrate, hfallback,
      rateUpdateIndex_of_lt (rateIndex_lt_of_filled hrate.filled hmcs10 _)]
    exact ⟨⟨hrate.rates, hrate.bandwidth, hrate.spatialStreams, hlong⟩, ⟨rfl, rfl, rfl, rfl⟩, rfl⟩
  rw [if_neg hshort, getRateRow_of_allowed hmcs10 hrate]
  · exact ⟨⟨rfl, rfl, rfl, rfl⟩, rfl⟩
  · intro hguard
    rw [not_and, Bool.not_eq_false] at hshort
    exact hshort hguard

end NoMcs10

/-! ## With MCS10 -/

/-- The rows of the other rates. -/
def otherRows (caps : MmrcStaCapabilities) : Nat :=
  bitCount caps.guard * bitCount caps.bandwidth * bitCount caps.spatialStreams
    * (bitCount caps.rates - 1)

theorem rank_zero {w : Nat} (v : BitVec w) : rank v 0 = 0 := Nat.count_zero _

theorem bitCount_guards : ∀ guard : BitVec 2, guard.getLsbD mmrcGuardLong = true →
    guard.getLsbD mmrcGuardShort = true → bitCount guard = 2 := by
  decide

section Mcs10

variable {caps : MmrcStaCapabilities} (hmcs10 : caps.rates.getLsbD mmrcMcs10 = true)

include hmcs10

theorem rowsFromStaCaps_mcs10 : rowsFromStaCaps caps = otherRows caps + 2 := by
  unfold rowsFromStaCaps otherRows
  rw [hmcs10]
  simp only [if_true]
  ring

theorem rank_mcs10 : rank caps.rates mmrcMcs10 + 1 = bitCount caps.rates :=
  (rank_succ_of_set hmcs10).symm

theorem rateIndex_other {rate : MmrcRate} (hrate : caps.Supports rate)
    (hother : rate.rate ≠ mmrcMcs10) : rateIndex caps rate < otherRows caps := by
  have hcount := rank_mcs10 hmcs10
  have hlt := lt_of_set hrate.rates
  have hbelow : rate.rate + 1 ≤ mmrcMcs10 := by
    unfold mmrcMcs10 at hother ⊢
    omega
  have hmono := rank_mono caps.rates hbelow
  rw [rank_succ_of_set hrate.rates] at hmono
  rw [packIndex_of_supports hrate]
  unfold packIndex otherRows
  apply packed_lt (packed_lt (packed_lt (rank_lt hrate.guard) (rank_lt hrate.bandwidth))
    (rank_lt hrate.spatialStreams))
  omega

theorem rateIndex_mcs10 {rate : MmrcRate} (hrate : caps.Supports rate)
    (hmcs : rate.rate = mmrcMcs10) (hbw : rank caps.bandwidth rate.bw = 0)
    (hss : rank caps.spatialStreams rate.ss = 0) :
    rateIndex caps rate = otherRows caps + rank caps.guard rate.guard := by
  have hcount := rank_mcs10 hmcs10
  have hrank : rank caps.rates mmrcMcs10 = bitCount caps.rates - 1 := by omega
  rw [packIndex_of_supports hrate, hmcs, hbw, hss, hrank]
  unfold packIndex otherRows
  ring

variable (hmhz1 : caps.bandwidth.getLsbD mmrcBw1mhz = true)
  (hlong : caps.guard.getLsbD mmrcGuardLong = true)
  (hshort : caps.guard.getLsbD mmrcGuardShort = true)

include hmhz1 hlong hshort

theorem exists_rate_of_row_mcs10 {index : Nat} (hindex : index < rowsFromStaCaps caps)
    (hstreams : caps.spatialStreams ≠ 0) :
    ∃ rate, caps.Supports rate ∧ rateIndex caps rate = index
      ∧ (rate.rate = mmrcMcs10 → rate.bw = mmrcBw1mhz
          ∧ rank caps.spatialStreams rate.ss = 0)
      ∧ (rate.rate = mmrcMcs10 ↔ otherRows caps ≤ index) := by
  have hcount := rank_mcs10 hmcs10
  have hguards := bitCount_guards caps.guard hlong hshort
  have hstream := rank_pos_of_ne_zero hstreams
  rw [rowsFromStaCaps_mcs10 hmcs10] at hindex
  by_cases hother : index < otherRows caps
  · unfold otherRows at hother
    obtain ⟨gbs, r, hgbs, hr, rfl⟩ := exists_packed hother
    obtain ⟨gb, s, hgb, hs, rfl⟩ := exists_packed hgbs
    obtain ⟨g, b, hg, hb, rfl⟩ := exists_packed hgb
    have hr' : r < bitCount caps.rates := by omega
    have hsupports : caps.Supports
        { zeroRate with
          rate := nthBit caps.rates r, guard := nthBit caps.guard g,
          ss := nthBit caps.spatialStreams s, bw := nthBit caps.bandwidth b } :=
      ⟨(nthBit_set hr').1, (nthBit_set hb).1, (nthBit_set hs).1, (nthBit_set hg).1⟩
    have hne : nthBit caps.rates r ≠ mmrcMcs10 := by
      intro heq
      have hrank := (nthBit_set hr').2
      rw [heq] at hrank
      omega
    refine ⟨_, hsupports, ?_, fun heq => absurd heq hne, fun heq => absurd heq hne, fun hle => ?_⟩
    · rw [packIndex_of_supports hsupports]
      show packIndex caps (rank caps.guard (nthBit caps.guard g)) _ _ _ = _
      rw [(nthBit_set hg).2, (nthBit_set hb).2, (nthBit_set hs).2, (nthBit_set hr').2]
      rfl
    · unfold otherRows at hle
      omega
  -- The guard interval of the last two rows is the offset from the others.
  have hg : index - otherRows caps < bitCount caps.guard := by omega
  have hsupports : caps.Supports
      { zeroRate with
        rate := mmrcMcs10, guard := nthBit caps.guard (index - otherRows caps),
        ss := nthBit caps.spatialStreams 0, bw := mmrcBw1mhz } :=
    ⟨hmcs10, hmhz1, (nthBit_set hstream).1, (nthBit_set hg).1⟩
  refine ⟨_, hsupports, ?_, fun _ => ⟨rfl, (nthBit_set hstream).2⟩, fun _ => by omega,
    fun _ => rfl⟩
  rw [rateIndex_mcs10 hmcs10 hsupports rfl (rank_zero _) (nthBit_set hstream).2]
  show otherRows caps + rank caps.guard (nthBit caps.guard _) = index
  rw [(nthBit_set hg).2]
  omega

theorem extraRowsOfMcs10 (hstreams : caps.spatialStreams ≠ 0) : ExtraRowsOfMcs10 caps := by
  intro index hindex hlast
  rw [rowsFromStaCaps_mcs10 hmcs10] at hlast
  obtain ⟨rate, hrate, hrow, hmcs, hiff⟩ :=
    exists_rate_of_row_mcs10 hmcs10 hmhz1 hlong hshort hindex hstreams
  have hrate10 := hiff.mpr (by omega)
  rw [← hrow, getRateRow_of_supports hrate]
  exact ⟨hrate10, (hmcs hrate10).1⟩

theorem indexInTable (hstreams : caps.spatialStreams ≠ 0) : IndexInTable caps := by
  have hguards := bitCount_guards caps.guard hlong hshort
  have hrows := rowsFromStaCaps_mcs10 hmcs10
  constructor
  · intro rate hrate hvalid
    by_cases hmcs : rate.rate = mmrcMcs10
    · obtain ⟨hbw, hss⟩ := ((validateRate_iff caps rate).mp hvalid).1 hmcs
      have hindex := rateIndex_mcs10 hmcs10 hrate hmcs (by rw [hbw]; exact rank_zero _)
        (by rw [hss]; exact rank_zero _)
      have hlt : rank caps.guard rate.guard < bitCount caps.guard := rank_lt hrate.guard
      omega
    · have hlt := rateIndex_other hmcs10 hrate hmcs
      omega
  intro index hindex
  obtain ⟨rate, hrate, hrow, hmcs, hiff⟩ :=
    exists_rate_of_row_mcs10 hmcs10 hmhz1 hlong hshort hindex hstreams
  rw [← hrow, getRateRow_of_supports hrate]
  -- What the row falls back to is a rate of the capabilities too.
  have hguard : caps.guard.getLsbD (allowedGuard caps rate.bw rate.guard) = true := by
    unfold allowedGuard
    split
    · exact hlong
    · exact hrate.guard
  have hfallback : caps.Supports
      { rate with
        attempts := 0, guard := allowedGuard caps rate.bw rate.guard, flags := 0, index := 0 } :=
    ⟨hrate.rates, hrate.bandwidth, hrate.spatialStreams, hguard⟩
  show rateIndex caps
    { rate with
      attempts := 0, guard := allowedGuard caps rate.bw rate.guard, flags := 0, index := 0 } < _
  by_cases h10 : rate.rate = mmrcMcs10
  · obtain ⟨hbw, hss⟩ := hmcs h10
    rw [rateIndex_mcs10 hmcs10 hfallback h10 (by rw [hbw]; exact rank_zero _) hss]
    have hlt : rank caps.guard (allowedGuard caps rate.bw rate.guard) < bitCount caps.guard :=
      rank_lt hguard
    show otherRows caps + rank caps.guard (allowedGuard caps rate.bw rate.guard) < _
    omega
  · have hlt := rateIndex_other hmcs10 hfallback h10
    omega

end Mcs10

/-! ## The three together -/

/-- Rows and rates are the same with SGI at every bandwidth; without it a short guard interval
falls back to the long one; and MCS10 at 1 MHz has two rows of its own, so that no valid rate
is behind the table. -/
theorem rows_match_rates (caps : MmrcStaCapabilities) :
    (caps.rates.getLsbD mmrcMcs10 = false →
        (∀ bw, caps.bandwidth.getLsbD bw = true → caps.sgiPerBw.getLsbD bw = true) →
          RowsAreRates caps)
      ∧ (caps.rates.getLsbD mmrcMcs10 = false → caps.guard.getLsbD mmrcGuardLong = true →
          FallsBackToLong caps)
      ∧ (caps.rates.getLsbD mmrcMcs10 = true → caps.bandwidth.getLsbD mmrcBw1mhz = true →
          caps.guard.getLsbD mmrcGuardLong = true → caps.guard.getLsbD mmrcGuardShort = true →
            caps.spatialStreams ≠ 0 → ExtraRowsOfMcs10 caps ∧ IndexInTable caps) :=
  ⟨rowsAreRates_of_sgi, fallsBackToLong, fun hmcs10 hmhz1 hlong hshort hstreams =>
    ⟨extraRowsOfMcs10 hmcs10 hmhz1 hlong hshort hstreams,
      indexInTable hmcs10 hmhz1 hlong hshort hstreams⟩⟩

/-- MCS 0 and MCS10 on one stream. -/
def twoMcsCaps (bandwidth : BitVec 5) (guard : BitVec 2) (sgiPerBw : BitVec 5) :
    MmrcStaCapabilities :=
  ⟨4, 2, bandwidth, 0b0001, 0b10000000001, guard, sgiPerBw⟩

/-- MCS 0 to MCS 7 on one stream. -/
def eightMcsCaps (guard : BitVec 2) (sgiPerBw : BitVec 5) : MmrcStaCapabilities :=
  ⟨4, 2, 0b01111, 0b0001, 0b00011111111, guard, sgiPerBw⟩

theorem rows_match_rates_eight :
    RowsAreRates (eightMcsCaps 0b11 0b01111) ∧ FallsBackToLong (eightMcsCaps 0b11 0b00011)
      ∧ ExtraRowsOfMcs10 (twoMcsCaps 0b01111 0b11 0b00011)
      ∧ IndexInTable (twoMcsCaps 0b01111 0b11 0b00011) := by
  refine ⟨(rows_match_rates (eightMcsCaps 0b11 0b01111)).1 (by decide) (fun _ h => h),
    (rows_match_rates (eightMcsCaps 0b11 0b00011)).2.1 (by decide) (by decide), ?_⟩
  exact (rows_match_rates (twoMcsCaps 0b01111 0b11 0b00011)).2.2 (by decide) (by decide)
    (by decide) (by decide) (by decide)

/-- With one guard interval the last row is MCS10 at 2 MHz, and so are the last two without
1 MHz; without a stream they are not MCS10; MCS10 at 2 MHz has an index behind the table; and
without the long guard interval there is no row to fall back to. -/
theorem rows_without_rates :
    ¬ ExtraRowsOfMcs10 (twoMcsCaps 0b00011 0b01 0) ∧ ¬ ExtraRowsOfMcs10 (twoMcsCaps 0b00010 0b11 0)
      ∧ ¬ ExtraRowsOfMcs10 { twoMcsCaps 0b00001 0b11 0 with spatialStreams := 0 }
      ∧ (∃ rate, (twoMcsCaps 0b00011 0b11 0).Supports rate
          ∧ rowsFromStaCaps (twoMcsCaps 0b00011 0b11 0)
              ≤ rateIndex (twoMcsCaps 0b00011 0b11 0) rate)
      ∧ ¬ FallsBackToLong (eightMcsCaps 0b10 0) := by
  refine ⟨fun h => ?_, fun h => ?_, fun h => ?_, ?_, fun h => ?_⟩
  · exact absurd (h 3 (by decide) (by decide)).2 (by decide)
  · exact absurd (h 3 (by decide) (by decide)).2 (by decide)
  · exact absurd (h 1 (by decide) (by decide)).1 (by decide)
  · exact ⟨{ zeroRate with rate := mmrcMcs10, bw := mmrcBw2mhz },
      ⟨by decide, by decide, by decide, by decide⟩, by decide⟩
  obtain ⟨rate, hrate, -, hrow⟩ := h 0 (by decide)
  have hguard : rate.guard = mmrcGuardShort := by
    have hset := hrate.guard
    have hlt := lt_of_set hset
    have hbits : ∀ i < 2, (0b10 : BitVec 2).getLsbD i = true → i = mmrcGuardShort := by decide
    exact hbits rate.guard hlt hset
  rw [if_pos ⟨hguard, BitVec.getLsbD_zero⟩] at hrow
  have hlong : (0b10 : BitVec 2).getLsbD mmrcGuardLong = true := hrow.1.guard
  exact absurd hlong (by decide)

end MmIotEsp32.Mmrc
