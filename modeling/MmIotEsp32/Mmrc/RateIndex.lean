/-
  MmIotEsp32.Mmrc.RateIndex

  Rows and supported rates.

  The row of a rate that the capabilities have, taken apart again, is that rate
  (`getRateRow_rateIndex`), and every row is a rate that the capabilities have
  (`getRateRow_supports`).
-/
import MmIotEsp32.Mmrc.Rates

namespace MmIotEsp32.Mmrc

open Lib

/-! ## Capabilities -/

/-- Something of everything. -/
structure MmrcStaCapabilities.Filled (caps : MmrcStaCapabilities) : Prop where
  rates : caps.rates ≠ 0
  bandwidth : caps.bandwidth ≠ 0
  spatialStreams : caps.spatialStreams ≠ 0
  guard : caps.guard ≠ 0

/-- Capabilities without MCS10, with something of everything and the long guard interval. -/
structure MmrcStaCapabilities.Usable (caps : MmrcStaCapabilities) : Prop where
  noMcs10 : caps.rates.getLsbD mmrcMcs10 = false
  rates : caps.rates ≠ 0
  bandwidth : caps.bandwidth ≠ 0
  spatialStreams : caps.spatialStreams ≠ 0
  guardLong : caps.guard.getLsbD mmrcGuardLong = true

/-- The rate is made of what the capabilities have. -/
structure MmrcStaCapabilities.Supports (caps : MmrcStaCapabilities) (rate : MmrcRate) : Prop where
  rates : caps.rates.getLsbD rate.rate = true
  bandwidth : caps.bandwidth.getLsbD rate.bw = true
  spatialStreams : caps.spatialStreams.getLsbD rate.ss = true
  guard : caps.guard.getLsbD rate.guard = true

/-- The two rates have the same MCS, bandwidth, stream and guard interval. -/
structure MmrcRate.SameRate (a b : MmrcRate) : Prop where
  rate : a.rate = b.rate
  bw : a.bw = b.bw
  ss : a.ss = b.ss
  guard : a.guard = b.guard

theorem ne_zero_of_set {w : Nat} {v : BitVec w} {i : Nat} (h : v.getLsbD i = true) : v ≠ 0 := by
  intro hzero
  rw [hzero] at h
  simp at h

variable {caps : MmrcStaCapabilities}

theorem MmrcStaCapabilities.Usable.filled (h : caps.Usable) : caps.Filled :=
  ⟨h.rates, h.bandwidth, h.spatialStreams, ne_zero_of_set h.guardLong⟩

variable {rate : MmrcRate}

theorem MmrcStaCapabilities.Supports.filled (h : caps.Supports rate) : caps.Filled :=
  ⟨ne_zero_of_set h.rates, ne_zero_of_set h.bandwidth, ne_zero_of_set h.spatialStreams,
    ne_zero_of_set h.guard⟩

theorem MmrcStaCapabilities.Filled.bitCount_pos (h : caps.Filled) :
    0 < bitCount caps.guard ∧ 0 < bitCount caps.bandwidth ∧ 0 < bitCount caps.spatialStreams
      ∧ 0 < bitCount caps.rates :=
  ⟨rank_pos_of_ne_zero h.guard, rank_pos_of_ne_zero h.bandwidth,
    rank_pos_of_ne_zero h.spatialStreams, rank_pos_of_ne_zero h.rates⟩

theorem rowsFromStaCaps_eq (h : caps.rates.getLsbD mmrcMcs10 = false) :
    rowsFromStaCaps caps = bitCount caps.guard * bitCount caps.bandwidth
      * bitCount caps.spatialStreams * bitCount caps.rates := by
  unfold rowsFromStaCaps
  rw [h]
  simp only [Bool.false_eq_true, if_false, Nat.zero_add]
  ring

/-! ## Packing and unpacking -/

theorem rateIndex_eq (caps : MmrcStaCapabilities) (rate : MmrcRate) :
    rateIndex caps rate
      = bitIndex caps.guard rate.guard + bitIndex caps.bandwidth rate.bw * bitCount caps.guard
        + bitIndex caps.spatialStreams rate.ss * (bitCount caps.guard * bitCount caps.bandwidth)
        + bitIndex caps.rates rate.rate
          * (bitCount caps.guard * bitCount caps.bandwidth * bitCount caps.spatialStreams) := by
  unfold rateIndex
  ring

theorem rateIndex_lt_of_filled (h : caps.Filled)
    (hmcs10 : caps.rates.getLsbD mmrcMcs10 = false) (rate : MmrcRate) :
    rateIndex caps rate < rowsFromStaCaps caps := by
  rw [rateIndex_eq, rowsFromStaCaps_eq hmcs10]
  have hguard := bitIndex_lt h.guard rate.guard
  have hbw := bitIndex_lt h.bandwidth rate.bw
  have hss := bitIndex_lt h.spatialStreams rate.ss
  have hrate := bitIndex_lt h.rates rate.rate
  exact packed_lt (packed_lt (packed_lt hguard hbw) hss) hrate

theorem rateIndex_lt (h : caps.Usable) (rate : MmrcRate) :
    rateIndex caps rate < rowsFromStaCaps caps :=
  rateIndex_lt_of_filled h.filled h.noMcs10 rate

theorem rateUpdateIndex_of_lt (h : rateIndex caps rate < rowsFromStaCaps caps) :
    rateUpdateIndex caps rate = { rate with index := rateIndex caps rate } := by
  unfold rateUpdateIndex
  dsimp only
  rw [if_neg (by omega)]

theorem rateUpdateIndex_eq (h : caps.Usable) (rate : MmrcRate) :
    rateUpdateIndex caps rate = { rate with index := rateIndex caps rate } :=
  rateUpdateIndex_of_lt (rateIndex_lt h rate)

/-- The index of the ranks `g` of the guard interval, `b` of the bandwidth, `s` of the
stream and `r` of the MCS. -/
def packIndex (caps : MmrcStaCapabilities) (g b s r : Nat) : Nat :=
  g + b * bitCount caps.guard + s * (bitCount caps.guard * bitCount caps.bandwidth)
    + r * (bitCount caps.guard * bitCount caps.bandwidth * bitCount caps.spatialStreams)

/-- The guard interval that a bandwidth really has. -/
def allowedGuard (caps : MmrcStaCapabilities) (bw guard : Nat) : Nat :=
  if guard = mmrcGuardShort && !caps.sgiPerBw.getLsbD bw then mmrcGuardLong else guard

/-- The rate at the ranks, without its index. -/
def rateAt (caps : MmrcStaCapabilities) (g b s r : Nat) : MmrcRate :=
  { rate := nthBit caps.rates r, attempts := 0,
    guard := allowedGuard caps (nthBit caps.bandwidth b) (nthBit caps.guard g),
    ss := nthBit caps.spatialStreams s, bw := nthBit caps.bandwidth b, flags := 0, index := 0 }

theorem exists_packIndex {index : Nat}
    (h : caps.rates.getLsbD mmrcMcs10 = false) (hindex : index < rowsFromStaCaps caps) :
    ∃ g b s r, g < bitCount caps.guard ∧ b < bitCount caps.bandwidth
      ∧ s < bitCount caps.spatialStreams ∧ r < bitCount caps.rates
      ∧ index = packIndex caps g b s r := by
  rw [rowsFromStaCaps_eq h] at hindex
  obtain ⟨gbs, r, hgbs, hr, hindex⟩ := exists_packed hindex
  obtain ⟨gb, s, hgb, hs, hgbs⟩ := exists_packed hgbs
  obtain ⟨g, b, hg, hb, hgb⟩ := exists_packed hgb
  refine ⟨g, b, s, r, hg, hb, hs, hr, ?_⟩
  rw [hindex, hgbs, hgb]
  rfl

theorem getRateRow_packIndex (h : caps.Filled) {g b s r : Nat}
    (hg : g < bitCount caps.guard) (hb : b < bitCount caps.bandwidth)
    (hs : s < bitCount caps.spatialStreams) (hr : r < bitCount caps.rates) :
    getRateRow caps (packIndex caps g b s r) = rateUpdateIndex caps (rateAt caps g b s r) := by
  obtain ⟨hG, hB, hS, hR⟩ := h.bitCount_pos
  have hgb := packed_lt hg hb
  have hgbs := packed_lt hgb hs
  -- The divisions of `get_rate_row`.
  have hrows : bitCount caps.rates * bitCount caps.bandwidth * bitCount caps.spatialStreams
      * bitCount caps.guard / bitCount caps.rates
        = bitCount caps.guard * bitCount caps.bandwidth * bitCount caps.spatialStreams := by
    apply Nat.div_eq_of_eq_mul_right hR
    ring
  have hstreams : bitCount caps.guard * bitCount caps.bandwidth * bitCount caps.spatialStreams
      / bitCount caps.spatialStreams = bitCount caps.guard * bitCount caps.bandwidth :=
    Nat.mul_div_cancel _ hS
  have hguards : bitCount caps.guard * bitCount caps.bandwidth / bitCount caps.bandwidth
      = bitCount caps.guard := Nat.mul_div_cancel _ hB
  have hmcs : packIndex caps g b s r / (bitCount caps.guard * bitCount caps.bandwidth
      * bitCount caps.spatialStreams) = r := packed_div hgbs
  have hinner : packIndex caps g b s r % (bitCount caps.guard * bitCount caps.bandwidth
      * bitCount caps.spatialStreams) = g + b * bitCount caps.guard
        + s * (bitCount caps.guard * bitCount caps.bandwidth) := packed_mod hgbs
  have hss : packIndex caps g b s r % (bitCount caps.guard * bitCount caps.bandwidth)
      = g + b * bitCount caps.guard := by
    rw [← Nat.mod_mod_of_dvd _ (Nat.dvd_mul_right (bitCount caps.guard * bitCount caps.bandwidth)
      (bitCount caps.spatialStreams)), hinner, packed_mod hgb]
  have hguard : packIndex caps g b s r % bitCount caps.guard = g := by
    rw [← Nat.mod_mod_of_dvd _ (Nat.dvd_mul_right (bitCount caps.guard) (bitCount caps.bandwidth)),
      hss, packed_mod hg]
  -- The fields are wide enough for what is found.
  have hbit : ∀ {w : Nat} {input : BitVec w} {k : Nat}, k < bitCount input →
      nthBit input k < w := fun hk => lt_of_set (nthBit_set hk).1
  have hmcsLt := hbit hr
  have hbwLt := hbit hb
  have hssLt := hbit hs
  have hguardLt := hbit hg
  have hallowed : allowedGuard caps (nthBit caps.bandwidth b) (nthBit caps.guard g) < 2 := by
    unfold allowedGuard
    split
    · exact Nat.zero_lt_two
    · exact hguardLt
  unfold getRateRow
  dsimp only
  rw [hrows, hstreams, hguards, hmcs, hinner, hss, hguard, packed_div hgb, packed_div hg]
  rw [if_neg (show ¬ mmrcBwMax ≤ nthBit caps.bandwidth b from Nat.not_le_of_lt hbwLt),
    if_neg (show ¬ mmrcGuardMax ≤ nthBit caps.guard g from Nat.not_le_of_lt hguardLt)]
  rw [Nat.mod_eq_of_lt (show nthBit caps.rates r < 16 by omega),
    Nat.mod_eq_of_lt (show nthBit caps.spatialStreams s < 4 from hssLt),
    Nat.mod_eq_of_lt (show nthBit caps.bandwidth b < 8 by omega)]
  congr 2
  exact Nat.mod_eq_of_lt hallowed

/-! ## Rows and rates -/

theorem allowedGuard_supported {caps : MmrcStaCapabilities} (h : caps.Usable) {bw guard : Nat}
    (hguard : caps.guard.getLsbD guard = true) :
    caps.guard.getLsbD (allowedGuard caps bw guard) = true
      ∧ (allowedGuard caps bw guard = mmrcGuardShort → caps.sgiPerBw.getLsbD bw = true) := by
  unfold allowedGuard
  by_cases hdrop : (guard = mmrcGuardShort && !caps.sgiPerBw.getLsbD bw) = true
  · rw [if_pos hdrop]
    exact ⟨h.guardLong, fun hshort => by cases hshort⟩
  rw [if_neg hdrop]
  refine ⟨hguard, fun hshort => ?_⟩
  rw [hshort] at hdrop
  simpa using hdrop

theorem getRateRow_supports (h : caps.Usable) {index : Nat}
    (hindex : index < rowsFromStaCaps caps) : caps.Supports (getRateRow caps index)
      ∧ ((getRateRow caps index).guard = mmrcGuardShort →
          caps.sgiPerBw.getLsbD (getRateRow caps index).bw = true)
      ∧ (getRateRow caps index).index = rateIndex caps (getRateRow caps index) := by
  obtain ⟨g, b, s, r, hg, hb, hs, hr, hpack⟩ := exists_packIndex h.noMcs10 hindex
  rw [hpack, getRateRow_packIndex h.filled hg hb hs hr, rateUpdateIndex_eq h]
  obtain ⟨hguard, hshort⟩ := @allowedGuard_supported _ h (nthBit caps.bandwidth b) _ (nthBit_set hg).1
  exact ⟨⟨(nthBit_set hr).1, (nthBit_set hb).1, (nthBit_set hs).1, hguard⟩, hshort, rfl⟩

theorem packIndex_of_supports (h : caps.Supports rate) :
    rateIndex caps rate = packIndex caps (rank caps.guard rate.guard)
      (rank caps.bandwidth rate.bw) (rank caps.spatialStreams rate.ss)
      (rank caps.rates rate.rate) := by
  rw [rateIndex_eq, bitIndex_of_set h.rates, bitIndex_of_set h.bandwidth,
    bitIndex_of_set h.spatialStreams, bitIndex_of_set h.guard]
  rfl

theorem allowedGuard_of_allowed {bw guard : Nat}
    (h : guard = mmrcGuardShort → caps.sgiPerBw.getLsbD bw = true) :
    allowedGuard caps bw guard = guard := by
  unfold allowedGuard
  rw [if_neg]
  intro hdrop
  rw [Bool.and_eq_true, decide_eq_true_iff, Bool.not_eq_true'] at hdrop
  rw [h hdrop.1] at hdrop
  cases hdrop.2

theorem getRateRow_of_supports (h : caps.Supports rate) :
    getRateRow caps (rateIndex caps rate) = rateUpdateIndex caps { rate with
            attempts := 0, guard := allowedGuard caps rate.bw rate.guard, flags := 0,
            index := 0 } := by
  have hat : rateAt caps (rank caps.guard rate.guard) (rank caps.bandwidth rate.bw)
      (rank caps.spatialStreams rate.ss) (rank caps.rates rate.rate)
        = { rate with
            attempts := 0, guard := allowedGuard caps rate.bw rate.guard, flags := 0,
            index := 0 } := by
    unfold rateAt
    rw [nthBit_rank h.rates, nthBit_rank h.bandwidth, nthBit_rank h.spatialStreams,
      nthBit_rank h.guard]
  rw [packIndex_of_supports h, getRateRow_packIndex h.filled (rank_lt h.guard)
    (rank_lt h.bandwidth) (rank_lt h.spatialStreams) (rank_lt h.rates), hat]

theorem getRateRow_rateIndex (h : caps.Usable) (hrate : caps.Supports rate)
    (hguard : rate.guard = mmrcGuardShort → caps.sgiPerBw.getLsbD rate.bw = true) :
    getRateRow caps (rateIndex caps rate)
      = { rate with attempts := 0, flags := 0, index := rateIndex caps rate } := by
  rw [getRateRow_of_supports hrate, rateUpdateIndex_eq h, allowedGuard_of_allowed hguard]
  rfl

end MmIotEsp32.Mmrc
