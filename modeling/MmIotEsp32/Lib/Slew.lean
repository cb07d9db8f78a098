/-
  MmIotEsp32.Lib.Slew

  A value that follows a target, by a bounded amount in each step.

  `slew δ target x` is the next value.  Its distance to the target shrinks by `δ` until it
  is zero (`abs_target_sub_slew`), so it has arrived when the target has been at rest for
  long enough; `Rest` keeps the books on that (`Rest.Leads`).
-/
import Mathlib.Algebra.Order.Group.Abs
import Mathlib.Order.Interval.Set.Basic
import Mathlib.Tactic.Linarith
import Mathlib.Tactic.Ring

namespace MmIotEsp32.Lib

variable {K : Type*} [Field K] [LinearOrder K] [IsStrictOrderedRing K]

/-! ## One step -/

/-- One step from `x` towards the target, by at most `δ`. -/
def slew (δ target x : K) : K :=
  if δ < target - x then x + δ else if target - x < -δ then x - δ else target

variable {δ target x : K}

theorem abs_slew_sub_le (hδ : 0 ≤ δ) : |slew δ target x - x| ≤ δ := by
  unfold slew
  rw [abs_le]
  split_ifs with hup hdown
  · constructor <;> linarith
  · constructor <;> linarith
  · exact ⟨not_lt.mp hdown, not_lt.mp hup⟩

/-- The distance that is left. -/
theorem abs_target_sub_slew (hδ : 0 ≤ δ) :
    |target - slew δ target x| = max 0 (|target - x| - δ) := by
  unfold slew
  split_ifs with hup hdown
  · rw [abs_of_pos (show 0 < target - (x + δ) by linarith),
      abs_of_pos (show 0 < target - x by linarith), max_eq_right (by linarith)]
    ring
  · rw [abs_of_neg (show target - (x - δ) < 0 by linarith),
      abs_of_neg (show target - x < 0 by linarith), max_eq_right (by linarith)]
    ring
  · have hnear : |target - x| ≤ δ := abs_le.mpr ⟨not_lt.mp hdown, not_lt.mp hup⟩
    rw [sub_self, abs_zero, max_eq_left (by linarith)]

/-- It stays in an interval with the target. -/
theorem slew_mem_Icc {a b : K} (hδ : 0 ≤ δ) (hx : x ∈ Set.Icc a b)
    (htarget : target ∈ Set.Icc a b) : slew δ target x ∈ Set.Icc a b := by
  obtain ⟨hxa, hxb⟩ := hx
  obtain ⟨hta, htb⟩ := htarget
  unfold slew
  split_ifs with hup hdown
  · constructor <;> linarith
  · constructor <;> linarith
  · exact ⟨hta, htb⟩

/-! ## A target at rest -/

/-- The target that was followed last, where the value stood when the target came to rest
there, and how far the steps since then reach. -/
structure Rest (K : Type*) where
  target : K
  origin : K
  reach : K

/-- One more step, from `x`. -/
def Rest.next (r : Rest K) (δ target x : K) : Rest K :=
  if target = r.target then { r with reach := r.reach + δ } else ⟨target, x, δ⟩

/-- The value is as near to the target as the steps since it came to rest allow. -/
def Rest.Leads (r : Rest K) (x : K) : Prop :=
  |r.target - x| ≤ max 0 (|r.target - r.origin| - r.reach)

theorem Rest.Leads.next {r : Rest K} (h : r.Leads x) (hδ : 0 ≤ δ) :
    (r.next δ target x).Leads (slew δ target x) := by
  unfold Rest.Leads Rest.next at *
  split_ifs with hrest
  · rw [hrest, abs_target_sub_slew hδ]
    dsimp only
    refine max_le (le_max_left _ _) ?_
    rcases le_max_iff.mp h with hzero | hleft
    · exact le_max_of_le_left (by linarith)
    · exact le_max_of_le_right (by linarith)
  · rw [abs_target_sub_slew hδ]

/-- It has arrived once the steps reach as far as the way was. -/
theorem Rest.Leads.arrived {r : Rest K} (h : r.Leads x) (hreach : |r.target - r.origin| ≤ r.reach) :
    x = r.target := by
  unfold Rest.Leads at h
  rw [max_eq_left (by linarith)] at h
  have hzero : r.target - x = 0 := abs_eq_zero.mp (le_antisymm h (abs_nonneg _))
  linarith

end MmIotEsp32.Lib
