/-
  MmIotEsp32.Lib.Mirrors

  Fallible functions on a state with more in it than another.

  `Mirrors proj I o u` says that `o` stops when `u` does, that it gives the same result seen through
  `proj`, and that this result satisfies `I`.
-/
import Mathlib.Data.Option.Basic

namespace MmIotEsp32.Lib

structure Mirrors {τ σ : Type*} (proj : τ → σ) (I : τ → Prop) (o : Option τ) (u : Option σ) :
    Prop where
  proj_eq : o.map proj = u
  inv : ∀ t ∈ o, I t

namespace Mirrors

variable {τ σ τ' σ' : Type*} {proj : τ → σ} {I : τ → Prop} {proj' : τ' → σ'} {J : τ' → Prop}

theorem none : Mirrors proj I none none := ⟨rfl, nofun⟩

theorem some {t : τ} (h : I t) : Mirrors proj I (some t) (some (proj t)) := by
  refine ⟨rfl, fun t' ht' => ?_⟩
  cases ht'
  exact h

variable {o : Option τ} {u : Option σ}

theorem bind {f : τ → Option τ'} {g : σ → Option σ'}
    (h : Mirrors proj I o u) (hf : ∀ t, I t → Mirrors proj' J (f t) (g (proj t))) :
    Mirrors proj' J (o.bind f) (u.bind g) := by
  obtain ⟨rfl, hinv⟩ := h
  cases o with
  | none => exact .none
  | some t => exact hf t (hinv t rfl)

theorem map {f : τ → τ'} {g : σ → σ'} (h : Mirrors proj I o u)
    (hproj : ∀ t, proj' (f t) = g (proj t)) (hf : ∀ t, I t → J (f t)) :
    Mirrors proj' J (o.map f) (u.map g) := by
  obtain ⟨rfl, hinv⟩ := h
  cases o with
  | none => exact .none
  | some t =>
    refine ⟨congrArg Option.some (hproj t), fun t' ht' => ?_⟩
    cases ht'
    exact hf t (hinv t rfl)

/-- A result is mirrored by the result of the other function. -/
theorem of_some {t : τ} (h : Mirrors proj I o u)
    (ht : o = Option.some t) : u = Option.some (proj t) ∧ I t := by
  obtain ⟨rfl, hinv⟩ := h
  subst ht
  exact ⟨rfl, hinv t rfl⟩

theorem of_none (h : Mirrors proj I o u) (ho : o = Option.none) : u = Option.none := by
  obtain ⟨rfl, hinv⟩ := h
  subst ho
  rfl

theorem weaken {I' : τ → Prop} (h : Mirrors proj I o u)
    (hI : ∀ t ∈ o, I t → I' t) : Mirrors proj I' o u :=
  ⟨h.proj_eq, fun t ht => hI t ht (h.inv t ht)⟩

end Mirrors

end MmIotEsp32.Lib
