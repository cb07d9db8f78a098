/-
  MmIotEsp32.Lib.Places

  Numbered things, each of which is in one place.

  Things are handed out in the order of their numbers, and put somewhere: on a list, in the slot
  of a table, in somebody's hand.  `Accounted` says that none of them is lost and none is in two
  places, by counting the places of each.
-/
import Mathlib.Data.Fintype.Card
import Mathlib.Data.List.Count
import Mathlib.Logic.Function.Basic

namespace MmIotEsp32.Lib

open Function

/-! ## Accounts -/

/-- Every thing that was handed out is in one place, and no other thing is in any; `held a` counts
the places of `a`. -/
def Accounted (held : Nat → Nat) (issued : Nat) : Prop :=
  ∀ a, held a = if a < issued then 1 else 0

variable {held held' : Nat → Nat} {issued : Nat}

/-- Things may change their places. -/
theorem Accounted.move (h : Accounted held issued) (hmove : ∀ a, held' a = held a) :
    Accounted held' issued := fun a => (hmove a).trans (h a)

/-- The next thing is handed out. -/
theorem Accounted.issue (h : Accounted held issued)
    (hnew : ∀ a, held' a = [issued].count a + held a) : Accounted held' (issued + 1) := by
  intro a
  rw [hnew a, h a]
  by_cases ha : a = issued
  · subst ha
    simp
  have hcount : [issued].count a = 0 := List.count_eq_zero.mpr (by simpa using ha)
  rw [hcount, Nat.zero_add]
  by_cases hlt : a < issued
  · rw [if_pos hlt, if_pos (by omega)]
  · rw [if_neg hlt, if_neg (by omega)]

theorem count_cons_eq {α : Type*} [DecidableEq α] (a b : α) (l : List α) :
    (b :: l).count a = [b].count a + l.count a := by
  rw [← List.singleton_append, List.count_append]

/-! ## Tables -/

section Slots

variable {ι α : Type*} [Fintype ι] [DecidableEq ι] [DecidableEq α]

/-- The number of slots that `a` is in. -/
def slotCount (slots : ι → Option α) (a : α) : Nat :=
  (Finset.univ.filter fun i => slots i = some a).card

/-- An empty slot takes a thing. -/
theorem slotCount_fill {slots : ι → Option α} {i : ι} (hempty : slots i = none) (a b : α) :
    slotCount (update slots i (some b)) a = [b].count a + slotCount slots a := by
  unfold slotCount
  by_cases hab : b = a
  · subst hab
    have hfilter : (Finset.univ.filter fun j => update slots i (some b) j = some b)
        = insert i (Finset.univ.filter fun j => slots j = some b) := by
      ext j
      by_cases hji : j = i
      · subst hji
        simp
      · simp [hji]
    rw [hfilter, Finset.card_insert_of_notMem (by simp [hempty]), List.count_singleton_self]
    omega
  have hfilter : (Finset.univ.filter fun j => update slots i (some b) j = some a)
      = Finset.univ.filter fun j => slots j = some a := by
    ext j
    by_cases hji : j = i
    · subst hji
      simp [hempty, hab]
    · simp [hji]
  rw [hfilter, List.count_eq_zero.mpr (by simpa using Ne.symm hab), Nat.zero_add]

/-- A slot gives its thing away. -/
theorem slotCount_clear {slots : ι → Option α} {i : ι} {b : α} (hfull : slots i = some b) (a : α) :
    slotCount slots a = [b].count a + slotCount (update slots i none) a := by
  have hfill := @slotCount_fill ι α _ _ _ (update slots i none) i
    (update_self ..) a b
  rw [update_idem, ← hfull, update_eq_self] at hfill
  exact hfill

omit [DecidableEq ι] in
theorem slotCount_empty (a : α) : slotCount (fun _ : ι => none) a = 0 := by
  unfold slotCount
  simp

end Slots

end MmIotEsp32.Lib
