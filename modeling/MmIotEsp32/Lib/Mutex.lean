/-
  MmIotEsp32.Lib.Mutex

  Tasks that share a mutex.

  Each task is at some place of its code; `holds` says which places lie between the taking and
  the giving of the mutex.  `HeldBy` is what a mutex guarantees: the tasks at such a place are
  its owner, and nobody when it is free.
-/
import Mathlib.Logic.Function.Basic

namespace MmIotEsp32.Lib

open Function

variable {ι γ : Type*}

/-- The tasks between the taking and the giving of the mutex are its owner. -/
def HeldBy (holds : γ → Prop) (calls : ι → γ) (mutex : Option ι) : Prop :=
  ∀ k, holds (calls k) ↔ mutex = some k

namespace HeldBy

variable {holds : γ → Prop} {calls : ι → γ} {mutex : Option ι} {k : ι}

theorem of_free (h : ∀ k, ¬ holds (calls k)) : HeldBy holds calls none := by
  intro k
  exact ⟨fun hk => absurd hk (h k), fun hk => by cases hk⟩

/-- Mutual exclusion. -/
theorem unique (h : HeldBy holds calls mutex) {j k : ι} (hj : holds (calls j))
    (hk : holds (calls k)) : j = k :=
  Option.some.inj (((h j).mp hj).symm.trans ((h k).mp hk))

theorem owner (h : HeldBy holds calls mutex) (hk : holds (calls k)) : mutex = some k :=
  (h k).mp hk

theorem not_of_free (h : HeldBy holds calls none) (k : ι) : ¬ holds (calls k) := by
  intro hk
  cases (h k).mp hk

variable [DecidableEq ι]

/-- A task that goes on without taking or giving the mutex. -/
theorem keep (h : HeldBy holds calls mutex) {c : γ} (hc : holds c ↔ holds (calls k)) :
    HeldBy holds (update calls k c) mutex := by
  intro j
  by_cases hj : j = k
  · subst hj
    rw [update_self]
    exact hc.trans (h j)
  · rw [update_of_ne hj]
    exact h j

/-- A task that takes the free mutex. -/
theorem take (h : HeldBy holds calls none) {c : γ} (hc : holds c) :
    HeldBy holds (update calls k c) (some k) := by
  intro j
  by_cases hj : j = k
  · subst hj
    rw [update_self]
    exact ⟨fun _ => rfl, fun _ => hc⟩
  · rw [update_of_ne hj]
    refine ⟨fun hholds => absurd hholds (h.not_of_free j), fun heq => ?_⟩
    exact absurd (Option.some.inj heq).symm hj

/-- The owner gives the mutex back. -/
theorem give (h : HeldBy holds calls mutex) (hk : holds (calls k)) {c : γ} (hc : ¬ holds c) :
    HeldBy holds (update calls k c) none := by
  refine of_free fun j hj => ?_
  by_cases hjk : j = k
  · subst hjk
    rw [update_self] at hj
    exact hc hj
  · rw [update_of_ne hjk] at hj
    exact hjk (h.unique hj hk)

end HeldBy

end MmIotEsp32.Lib
