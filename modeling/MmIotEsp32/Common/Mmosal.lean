/-
  MmIotEsp32.Common.Mmosal

  The machine words of the firmware and the millisecond clock comparisons of
  `mmosal.h`.
-/
import MmIotEsp32.Lib.SerialNumber

namespace MmIotEsp32

open Lib

abbrev U8 := BitVec 8
abbrev U16 := BitVec 16
abbrev U32 := BitVec 32
abbrev U64 := BitVec 64

/-- `FAST_ROUND_UP` (`common.h`). -/
def fastRoundUp (x m : U32) : U32 := ((x - 1) ||| (m - 1)) + 1

/-! ## Clock comparisons -/

/-- `mmosal_time_lt`: `((int32_t)(a - b)) < 0`. -/
def mmosalTimeLt (a b : U32) : Bool := serialLt a b

/-- `mmosal_time_le`: `((int32_t)(a - b)) <= 0`. -/
def mmosalTimeLe (a b : U32) : Bool := serialLe a b

/-- `mmosal_time_has_passed`, with the clock reading `now`. -/
def mmosalTimeHasPassed (t now : U32) : Bool := mmosalTimeLe t now

-- The rows of the tables in `mmosal.h`.
example : mmosalTimeLt 0xffffffff 0 = true ∧ mmosalTimeLt 0 0xffffffff = false
    ∧ mmosalTimeLe 0 0 = true := by decide

end MmIotEsp32
