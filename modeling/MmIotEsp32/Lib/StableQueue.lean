/-
  MmIotEsp32.Lib.StableQueue

  Stable insertion into a queue ordered by a strict "due before" test.

  `List.orderedInsert before x` puts `x` in front of the first element that is
  due strictly after it, so behind every element it ties with.  The lemmas here
  ask nothing of `before` in general, only how it relates to the elements at
  hand: a wrapping clock is an order on the pending expiries only.
-/
import Mathlib.Data.List.Sort
import Mathlib.Data.List.TakeDrop

namespace MmIotEsp32.Lib

variable {α : Type*} {before : α → α → Prop} [DecidableRel before]

/-- Stable insertion keeps any ranking that puts the new element in front of what
is due after it and behind the rest. -/
theorem pairwise_orderedInsert {R : α → α → Prop} {x : α} {l : List α} (hl : l.Pairwise R)
    (hafter : ∀ y ∈ l, before x y → R x y) (hbehind : ∀ y ∈ l, ¬ before x y → R y x)
    (hmono : ∀ y ∈ l, ∀ z ∈ l, R y z → before x y → before x z) :
    (l.orderedInsert before x).Pairwise R := by
  induction l with
  | nil => simp
  | cons y l ih =>
    obtain ⟨hy, hl'⟩ := List.pairwise_cons.mp hl
    by_cases hxy : before x y
    · rw [List.orderedInsert_cons_of_le _ _ hxy]
      refine List.pairwise_cons.mpr ⟨fun z hz => ?_, hl⟩
      rcases List.mem_cons.mp hz with rfl | hz'
      · exact hafter z hz hxy
      · exact hafter z hz (hmono y (List.mem_cons_self ..) z hz (hy z hz') hxy)
    rw [List.orderedInsert_of_not_le _ _ hxy]
    refine List.pairwise_cons.mpr ⟨fun z hz => ?_, ?_⟩
    · rcases (List.mem_orderedInsert _).mp hz with rfl | hz'
      · exact hbehind y (List.mem_cons_self ..) hxy
      · exact hy z hz'
    · exact ih hl' (fun z hz => hafter z (List.mem_cons_of_mem _ hz))
        (fun z hz => hbehind z (List.mem_cons_of_mem _ hz))
        (fun z hz w hw => hmono z (List.mem_cons_of_mem _ hz) w (List.mem_cons_of_mem _ hw))

/-- Where an element goes back between its neighbours. -/
theorem orderedInsert_append {x : α} {pre post : List α} (hpre : ∀ y ∈ pre, ¬ before x y)
    (hpost : ∀ z ∈ post.head?, before x z) :
    (pre ++ post).orderedInsert before x = pre ++ x :: post := by
  induction pre with
  | nil =>
    cases post with
    | nil => rfl
    | cons z post => exact List.orderedInsert_cons_of_le _ _ (hpost z rfl)
  | cons y pre ih =>
    rw [List.cons_append, List.orderedInsert_of_not_le _ _ (hpre y (List.mem_cons_self ..)),
      ih fun z hz => hpre z (List.mem_cons_of_mem _ hz)]
    rfl

/-- The first element that satisfies a test, with what stands before and behind it. -/
theorem takeWhile_append_dropWhile_cons (p : α → Bool) {l : List α} {x : α} {post : List α}
    (h : l.dropWhile (fun y => !p y) = x :: post) :
    l = l.takeWhile (fun y => !p y) ++ x :: post ∧ p x = true := by
  refine ⟨by rw [← h, List.takeWhile_append_dropWhile], ?_⟩
  have hne : l.dropWhile (fun y => !p y) ≠ [] := by
    rw [h]
    simp
  simpa [h] using List.head_dropWhile_not (fun y => !p y) hne

end MmIotEsp32.Lib
