/-
  MmIotEsp32.Mmrc.Rates

  Rates and their rows in the table of the rate control (`mmrc/src/core/mmrc.c`).

  A row of the table stands for an MCS, a bandwidth, a spatial stream and a guard interval.
  Its index is computed from the ranks of these four among the capabilities
  (`rate_update_index`) and taken apart again by `get_rate_row`.
-/
import MmIotEsp32.Lib.BitFields

namespace MmIotEsp32.Mmrc

open Lib

/-! ## Rates and capabilities -/

def mmrcMaxChainLength : Nat := 4
def mmrcMinChainAttempts : Nat := 1
def mmrcMaxChainAttempts : Nat := 2

-- `enum mmrc_mcs_rate`
def mmrcMcs0 : Nat := 0
def mmrcMcs1 : Nat := 1
def mmrcMcs2 : Nat := 2
def mmrcMcs3 : Nat := 3
def mmrcMcs4 : Nat := 4
def mmrcMcs7 : Nat := 7
def mmrcMcs9 : Nat := 9
def mmrcMcs10 : Nat := 10
def mmrcMcsUnused : Nat := 11

-- `enum mmrc_bw`
def mmrcBw1mhz : Nat := 0
def mmrcBw2mhz : Nat := 1
def mmrcBw4mhz : Nat := 2
def mmrcBw8mhz : Nat := 3
def mmrcBw16mhz : Nat := 4
def mmrcBwMax : Nat := 5

-- `enum mmrc_spatial_stream`
def mmrcSpatialStream1 : Nat := 0
def mmrcSpatialStream3 : Nat := 2

-- `enum mmrc_guard`
def mmrcGuardLong : Nat := 0
def mmrcGuardShort : Nat := 1
def mmrcGuardMax : Nat := 2

structure MmrcRate where
  rate : Nat
  attempts : BitVec 3
  guard : Nat
  ss : Nat
  bw : Nat
  flags : Nat
  index : Nat
  deriving DecidableEq

/-- `struct mmrc_sta_capabilities`, each a set of bits except for the first two. -/
structure MmrcStaCapabilities where
  maxRates : Nat
  maxRetries : Nat
  bandwidth : BitVec 5
  spatialStreams : BitVec 4
  rates : BitVec 11
  guard : BitVec 2
  sgiPerBw : BitVec 5
  deriving DecidableEq

/-! ## The index of a rate -/

/-- The loop of `nth_bit`: `count` bits are set below `i`.  The source leaves it only at the
bit it looks for; the model also at the end of the word. -/
def nthBitFrom {w : Nat} (input : BitVec w) (index : Nat) : Nat → Nat → Nat → Nat
  | 0, i, _ => i - 1
  | fuel + 1, i, count =>
    if count ≠ index + 1 then
      nthBitFrom input index fuel (i + 1) (if input.getLsbD i then count + 1 else count)
    else i - 1

def nthBit {w : Nat} (input : BitVec w) (index : Nat) : Nat :=
  nthBitFrom input index (w + 1) 0 0

/-- The loop of `bit_index` from `i` on, with `n` positions left. -/
def bitIndexFrom {w : Nat} (input : BitVec w) : Nat → Nat → Nat → Nat
  | 0, _, index => index
  | n + 1, i, index =>
    bitIndexFrom input n (i + 1) (if input.getLsbD i then index + 1 else index)

def bitIndex {w : Nat} (input : BitVec w) (bitPos : Nat) : Nat :=
  let index := bitIndexFrom input (bitPos + 1) 0 0
  -- Could not match the position to the capabilities.
  if index = 0 then 0 else index - 1

def bitCount {w : Nat} (input : BitVec w) : Nat := rank input w

def rowsFromStaCaps (caps : MmrcStaCapabilities) : Nat :=
  let mcs10 := caps.rates.getLsbD mmrcMcs10
  let nRates := if mcs10 then bitCount caps.rates - 1 else bitCount caps.rates
  (if mcs10 then 2 else 0)
    + bitCount caps.bandwidth * nRates * bitCount caps.guard * bitCount caps.spatialStreams

/-- The sum in `rate_update_index`. -/
def rateIndex (caps : MmrcStaCapabilities) (rate : MmrcRate) : Nat :=
  bitIndex caps.guard rate.guard
    + bitIndex caps.bandwidth rate.bw * bitCount caps.guard
    + bitIndex caps.spatialStreams rate.ss * bitCount caps.guard * bitCount caps.bandwidth
    + bitIndex caps.rates rate.rate * bitCount caps.bandwidth * bitCount caps.spatialStreams
      * bitCount caps.guard

/-- `rate_update_index`.  Its assertion that the index is below the number of rows never
fails without MCS10 (`rateIndex_lt`). -/
def rateUpdateIndex (caps : MmrcStaCapabilities) (rate : MmrcRate) : MmrcRate :=
  let index := rateIndex caps rate
  { rate with index := if rowsFromStaCaps caps ≤ index then 0 else index }

def getRateRow (caps : MmrcStaCapabilities) (index : Nat) : MmrcRate :=
  let mcs := bitCount caps.rates
  let bw := bitCount caps.bandwidth
  let streams := bitCount caps.spatialStreams
  let guard := bitCount caps.guard
  let totalCaps := mcs * bw * streams * guard
  let rows := totalCaps / mcs
  let mcsIndex := index / rows
  let mcsModulo := index % rows
  let mcs := nthBit caps.rates mcsIndex
  let rows := rows / streams
  let streams := nthBit caps.spatialStreams (mcsModulo / rows)
  let ssIndex := index % rows
  let rows := rows / bw
  let bw := nthBit caps.bandwidth (ssIndex / rows)
  let guard := nthBit caps.guard (index % guard)
  let bw := if mmrcBwMax ≤ bw then mmrcBw1mhz else bw
  let guard := if mmrcGuardMax ≤ guard then mmrcGuardLong else guard
  -- A short guard interval that the bandwidth does not have becomes a long one.
  let guard :=
    if guard = mmrcGuardShort && !caps.sgiPerBw.getLsbD bw then mmrcGuardLong else guard
  rateUpdateIndex caps
    { rate := mcs % 16, attempts := 0, guard := guard % 2, ss := streams % 4, bw := bw % 8,
      flags := 0, index := 0 }

def validateRate (caps : MmrcStaCapabilities) (rate : MmrcRate) : Bool :=
  if rate.rate = mmrcMcs10 && (rate.bw ≠ mmrcBw1mhz || rate.ss ≠ mmrcSpatialStream1) then false
  else if rate.rate = mmrcMcs9 && rate.bw = mmrcBw2mhz && rate.ss ≠ mmrcSpatialStream3 then false
  else if rate.guard = mmrcGuardShort && !caps.sgiPerBw.getLsbD rate.bw then false
  else true

/-! ## Bits and ranks -/

variable {w : Nat}

theorem bitIndexFrom_eq (input : BitVec w) (n i : Nat) :
    bitIndexFrom input n i (rank input i) = rank input (i + n) := by
  induction n generalizing i with
  | zero => rfl
  | succ n ih =>
    unfold bitIndexFrom
    have hnext : (if input.getLsbD i then rank input i + 1 else rank input i)
        = rank input (i + 1) := by
      by_cases hset : input.getLsbD i = true
      · rw [if_pos hset, rank_succ_of_set hset]
      · rw [if_neg hset, rank_succ_of_clear hset]
    rw [hnext, ih (i + 1)]
    congr 1
    omega

theorem bitIndex_eq (input : BitVec w) (bitPos : Nat) :
    bitIndex input bitPos = rank input (bitPos + 1) - 1 := by
  have hcount : bitIndexFrom input (bitPos + 1) 0 0 = rank input (bitPos + 1) := by
    have h := bitIndexFrom_eq input (bitPos + 1) 0
    rw [Nat.zero_add] at h
    exact h
  unfold bitIndex
  rw [hcount]
  dsimp only
  split <;> omega

variable {input : BitVec w}

theorem bitIndex_of_set {bitPos : Nat}
    (h : input.getLsbD bitPos = true) : bitIndex input bitPos = rank input bitPos := by
  rw [bitIndex_eq, rank_succ_of_set h, Nat.add_sub_cancel]

theorem bitIndex_lt (h : input ≠ 0) (bitPos : Nat) : bitIndex input bitPos < bitCount input := by
  have hpos := rank_pos_of_ne_zero h
  have hle : rank input (bitPos + 1) ≤ rank input (max (bitPos + 1) w) :=
    rank_mono input (Nat.le_max_left _ _)
  have hall : ∀ n, rank input (w + n) = rank input w := by
    intro n
    induction n with
    | zero => rfl
    | succ n ih =>
      have hclear : ¬ input.getLsbD (w + n) = true := by
        rw [BitVec.getLsbD_of_ge input (w + n) (Nat.le_add_right w n)]
        simp
      rw [← Nat.add_assoc, rank_succ_of_clear hclear, ih]
  have hmax : rank input (max (bitPos + 1) w) = rank input w := by
    have h := hall (max (bitPos + 1) w - w)
    rw [Nat.add_sub_cancel' (Nat.le_max_right _ _)] at h
    exact h
  rw [bitIndex_eq]
  show _ < rank input w
  omega

theorem nthBitFrom_eq {j fuel i : Nat}
    (hj : input.getLsbD j = true) (hi : i ≤ j + 1) (hfuel : j + 1 - i < fuel) :
    nthBitFrom input (rank input j) fuel i (rank input i) = j := by
  induction fuel generalizing i with
  | zero => omega
  | succ fuel ih =>
    unfold nthBitFrom
    by_cases hend : i = j + 1
    · rw [hend, rank_succ_of_set hj, if_neg (by simp)]
      exact Nat.add_sub_cancel j 1
    have hle : rank input i ≤ rank input j := rank_mono input (by omega)
    have hnext : (if input.getLsbD i then rank input i + 1 else rank input i)
        = rank input (i + 1) := by
      by_cases hset : input.getLsbD i = true
      · rw [if_pos hset, rank_succ_of_set hset]
      · rw [if_neg hset, rank_succ_of_clear hset]
    rw [if_pos (by omega), hnext]
    exact ih (by omega) (by omega)

theorem nthBit_rank {j : Nat} (h : input.getLsbD j = true) : nthBit input (rank input j) = j := by
  have hlt := lt_of_set h
  exact nthBitFrom_eq h (Nat.zero_le _) (by omega)

theorem nthBit_set {index : Nat} (h : index < bitCount input) :
    input.getLsbD (nthBit input index) = true ∧ rank input (nthBit input index) = index := by
  obtain ⟨j, hset, hrank⟩ := exists_rank_eq h
  rw [← hrank, nthBit_rank hset]
  exact ⟨hset, rfl⟩

end MmIotEsp32.Mmrc
