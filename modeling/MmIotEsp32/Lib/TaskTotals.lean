/-
  MmIotEsp32.Lib.TaskTotals

  What the tasks of a system hold, all together.

  Each task is at some place of its code, and `w` says how much a task holds at each place;
  `total w` is the sum over the tasks.  When one task goes to another place, the total changes by
  what it has taken and given back.
-/
import Mathlib.Algebra.BigOperators.Group.Finset.Piecewise
import Mathlib.Algebra.Order.BigOperators.Group.Finset

namespace MmIotEsp32.Lib

open Function

variable {ι γ : Type*} [Fintype ι]

def total (w : γ → Nat) (places : ι → γ) : Nat := ∑ k, w (places k)

section Update

variable [DecidableEq ι] {w : γ → Nat} {places : ι → γ} {k : ι} {c : γ}

/-- One task goes to another place. -/
theorem total_update (w : γ → Nat) (places : ι → γ) (k : ι) (c : γ) :
    total w (update places k c) + w (places k) = total w places + w c := by
  have hcomp : (fun j => w (update places k c j))
      = update (fun j => w (places j)) k (w c) := by
    funext j
    exact apply_update (fun _ => w) places k c j
  have hold := Finset.sum_erase_add Finset.univ (fun j => w (places j)) (Finset.mem_univ k)
  unfold total
  rw [hcomp, Finset.sum_update_of_mem (Finset.mem_univ k), Finset.sdiff_singleton_eq_erase]
  omega

end Update

variable {w : γ → Nat} {places : ι → γ}

/-- A task holds at most what all of them hold. -/
theorem le_total (w : γ → Nat) (places : ι → γ) (k : ι) : w (places k) ≤ total w places :=
  Finset.single_le_sum (f := fun j => w (places j)) (fun _ _ => Nat.zero_le _) (Finset.mem_univ k)

theorem total_eq_zero (h : ∀ k, w (places k) = 0) : total w places = 0 :=
  Finset.sum_eq_zero fun k _ => h k

/-- Whoever holds less at each place holds less all together. -/
theorem total_mono {v w : γ → Nat} (h : ∀ c, v c ≤ w c) (places : ι → γ) :
    total v places ≤ total w places :=
  Finset.sum_le_sum fun k _ => h (places k)

end MmIotEsp32.Lib
