/-
  MmIotEsp32.Lib.FirstOccurrences

  Tables that list each value once, in the order of the first occurrences.

  `List.eraseDups l` is the table of the values of `l`.  It only grows at its end when
  `l` does, so the index of a value is settled as soon as the value has occurred.
-/
import Mathlib.Data.Finset.Card
import Mathlib.Data.List.Basic

namespace MmIotEsp32.Lib

variable {α : Type} [DecidableEq α]

/-- One more value is added to the table unless it is there. -/
theorem eraseDups_concat (l : List α) (a : α) :
    (l ++ [a]).eraseDups = if a ∈ l then l.eraseDups else l.eraseDups ++ [a] := by
  rw [List.eraseDups_append]
  by_cases h : a ∈ l
  · have hnone : [a].removeAll l = [] := by simp [List.removeAll, h]
    rw [hnone, if_pos h, List.eraseDups_nil, List.append_nil]
  · have hself : [a].removeAll l = [a] := by simp [List.removeAll, h]
    rw [hself, if_neg h]
    rfl

theorem nodup_eraseDups (l : List α) : l.eraseDups.Nodup := by
  induction l using List.reverseRecOn with
  | nil => exact List.nodup_nil
  | append_singleton l a ih =>
    rw [eraseDups_concat]
    split_ifs with h
    · exact ih
    · have hnot : a ∉ l.eraseDups := fun hmem => h (List.mem_eraseDups.mp hmem)
      rw [← List.concat_eq_append]
      exact ih.concat hnot

/-- The table has as many entries as there are values. -/
theorem length_eraseDups (l : List α) : l.eraseDups.length = l.toFinset.card := by
  have hsame : l.eraseDups.toFinset = l.toFinset := by
    ext a
    rw [List.mem_toFinset, List.mem_toFinset, List.mem_eraseDups]
  rw [← List.toFinset_card_of_nodup (nodup_eraseDups l), hsame]

/-- The index a value has, or is about to get, is the one it has in every longer table. -/
theorem idxOf_eraseDups_append (l : List α) (a : α) (m : List α) :
    (l ++ a :: m).eraseDups.idxOf a = l.eraseDups.idxOf a := by
  rw [← List.singleton_append, ← List.append_assoc, List.eraseDups_append, eraseDups_concat]
  by_cases h : a ∈ l
  · rw [if_pos h, List.idxOf_append_of_mem (List.mem_eraseDups.mpr h)]
  · have hnot : a ∉ l.eraseDups := fun hmem => h (List.mem_eraseDups.mp hmem)
    rw [if_neg h, List.append_assoc, List.idxOf_append_of_notMem hnot, List.singleton_append,
      List.idxOf_cons_self, List.idxOf_eq_length hnot, Nat.add_zero]

end MmIotEsp32.Lib
