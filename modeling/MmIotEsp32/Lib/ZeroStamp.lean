/-
  MmIotEsp32.Lib.ZeroStamp

  A timer that is a stamp of 32 bits, in milliseconds, where zero means "not running".

  The clock behind it counts microseconds in 64 bits and never goes back.  A stamp of exactly
  zero starts again at the next look, and the difference of two stamps is taken modulo 2^32:
  both make the timer late and never early.  `StandsSince.elapsed` is that fact.
-/
import Mathlib.Data.BitVec

namespace MmIotEsp32.Lib

/-- `(uint32_t)(us / 1000)`. -/
def msOf (us : BitVec 64) : BitVec 32 := (us / 1000).setWidth 32

/-- The stamp at a look: it is set when the timer does not run. -/
def stampAt (stamp : BitVec 32) (now : BitVec 64) : BitVec 32 :=
  if stamp = 0 then msOf now else stamp

/-- The stamp stands for a moment that is no earlier than `since`, and `last` is past it. -/
structure StandsSince (stamp : BitVec 32) (since : Option (BitVec 64)) (last : BitVec 64) :
    Prop where
  past : ∀ t ∈ since, t.toNat ≤ last.toNat
  stands : stamp ≠ 0 → ∃ t ∈ since, ∃ moment : BitVec 64,
    t.toNat ≤ moment.toNat ∧ moment.toNat ≤ last.toNat ∧ stamp = msOf moment

theorem StandsSince.stopped (last : BitVec 64) : StandsSince 0 none last :=
  ⟨fun _ ht => (nomatch ht), fun h => absurd rfl h⟩

variable {stamp : BitVec 32} {since : Option (BitVec 64)}

theorem StandsSince.later {last now : BitVec 64}
    (h : StandsSince stamp since last) (hnow : last.toNat ≤ now.toNat) :
    StandsSince stamp since now := by
  refine ⟨fun t ht => Nat.le_trans (h.past t ht) hnow, fun hrunning => ?_⟩
  obtain ⟨t, ht, moment, hafter, hbefore, heq⟩ := h.stands hrunning
  exact ⟨t, ht, moment, hafter, Nat.le_trans hbefore hnow, heq⟩

variable {now : BitVec 64}

/-- A look at the timer: what it stood for, it stands for; a new stamp stands for now. -/
theorem StandsSince.look (h : StandsSince stamp since now) :
    StandsSince (stampAt stamp now) (some (since.getD now)) now := by
  have hpast : (since.getD now).toNat ≤ now.toNat := by
    cases since with
    | none => exact Nat.le_refl _
    | some t => exact h.past t rfl
  refine ⟨fun t ht => ?_, fun _ => ?_⟩
  · cases ht
    exact hpast
  unfold stampAt
  split
  · exact ⟨since.getD now, rfl, now, hpast, Nat.le_refl _, rfl⟩
  next hrunning =>
    obtain ⟨t, ht, moment, hafter, hbefore, heq⟩ := h.stands hrunning
    refine ⟨since.getD now, rfl, moment, ?_, hbefore, heq⟩
    obtain rfl : since = some t := ht
    exact hafter

theorem msOf_sub_le {now moment : BitVec 64} (h : moment.toNat ≤ now.toNat) :
    (msOf now - msOf moment).toNat ≤ now.toNat / 1000 - moment.toNat / 1000 := by
  have hdiv : moment.toNat / 1000 ≤ now.toNat / 1000 := Nat.div_le_div_right h
  simp only [msOf, BitVec.toNat_sub, BitVec.toNat_setWidth, BitVec.toNat_udiv]
  have hthousand : (1000 : BitVec 64).toNat = 1000 := rfl
  rw [hthousand]
  generalize now.toNat / 1000 = a at hdiv ⊢
  generalize moment.toNat / 1000 = b at hdiv ⊢
  omega

/-- A stamp of zero shows that no time has passed since the look at which it was set. -/
theorem stampAt_eq_zero (h : stampAt stamp now = 0) : msOf now = 0 := by
  unfold stampAt at h
  split at h
  · exact h
  · contradiction

/-- What the timer says has passed at a look, has passed since then. -/
theorem StandsSince.elapsed
    {ms : Nat} (h : StandsSince stamp since now) (hms : ms < (msOf now - stampAt stamp now).toNat) :
    ms * 1000 < now.toNat - (since.getD now).toNat := by
  have hrunning : stampAt stamp now ≠ 0 := by
    intro hzero
    rw [hzero, stampAt_eq_zero hzero] at hms
    exact absurd hms (by simp)
  obtain ⟨t, ht, moment, hafter, hbefore, heq⟩ := h.look.stands hrunning
  cases ht
  rw [heq] at hms
  have hle := msOf_sub_le hbefore
  omega

end MmIotEsp32.Lib
