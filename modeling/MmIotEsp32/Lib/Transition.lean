/-
  MmIotEsp32.Lib.Transition

  Runs of a deterministic machine that may stop.

  A machine is a step function `step : σ → ε → Option σ`; `none` means that the
  step does not come back (an assertion handler, a wild pointer), so no later
  state of the run exists.  Two predicates on a run are used throughout:

  `throughout_of_step` is the invariant rule; `throughout_iff_along` is its
  exact form, for an `I` that one step keeps precisely when `C` holds of it.
-/
import Mathlib.Data.List.Infix
import Mathlib.Logic.Basic

namespace MmIotEsp32.Lib

variable {σ ε : Type*}

/-! ## The two predicates -/

/-- Every state visited by running the events from `s` satisfies `I`. -/
def Throughout (step : σ → ε → Option σ) (I : σ → Prop) (s : σ) : List ε → Prop
  | [] => I s
  | e :: es => I s ∧ ∀ s', step s e = some s' → Throughout step I s' es

/-- Every step of the run from `s` satisfies `C` in the state it starts in. -/
def Along (step : σ → ε → Option σ) (C : σ → ε → Prop) (s : σ) : List ε → Prop
  | [] => True
  | e :: es => C s e ∧ ∀ s', step s e = some s' → Along step C s' es

/-- The state after all the events, if every step comes back. -/
def runFrom (step : σ → ε → Option σ) (s : σ) : List ε → Option σ
  | [] => some s
  | e :: es => (step s e).bind fun s' => runFrom step s' es

-- Both can be evaluated on a run.

instance decidableThroughout (step : σ → ε → Option σ) (I : σ → Prop) [DecidablePred I] :
    (s : σ) → (es : List ε) → Decidable (Throughout step I s es)
  | s, [] => inferInstanceAs (Decidable (I s))
  | s, e :: es =>
    match h : step s e with
    | none => decidable_of_iff (I s) (by simp [Throughout, h])
    | some s' =>
      have := decidableThroughout step I s' es
      decidable_of_iff (I s ∧ Throughout step I s' es) (by simp [Throughout, h])

instance decidableAlong (step : σ → ε → Option σ) (C : σ → ε → Prop) [∀ s e, Decidable (C s e)] :
    (s : σ) → (es : List ε) → Decidable (Along step C s es)
  | _, [] => isTrue trivial
  | s, e :: es =>
    match h : step s e with
    | none => decidable_of_iff (C s e) (by simp [Along, h])
    | some s' =>
      have := decidableAlong step C s' es
      decidable_of_iff (C s e ∧ Along step C s' es) (by simp [Along, h])

/-! ## The invariant rules -/

section Rules

variable {step : σ → ε → Option σ} {I J : σ → Prop} {C : σ → ε → Prop} {es : List ε} {s : σ}

theorem Throughout.head (h : Throughout step I s es) : I s := by
  cases es with
  | nil => exact h
  | cons e es => exact h.1

theorem Throughout.mono (hIJ : ∀ s, I s → J s)
    (h : Throughout step I s es) : Throughout step J s es := by
  induction es generalizing s with
  | nil => exact hIJ s h
  | cons e es ih => exact ⟨hIJ s h.1, fun s' hs' => ih (h.2 s' hs')⟩

theorem Throughout.and (hI : Throughout step I s es)
    (hJ : Throughout step J s es) : Throughout step (fun s => I s ∧ J s) s es := by
  induction es generalizing s with
  | nil => exact ⟨hI, hJ⟩
  | cons e es ih => exact ⟨⟨hI.1, hJ.1⟩, fun s' hs' => ih (hI.2 s' hs') (hJ.2 s' hs')⟩

variable {D : σ → ε → Prop}

theorem Along.and (hC : Along step C s es)
    (hD : Along step D s es) : Along step (fun s e => C s e ∧ D s e) s es := by
  induction es generalizing s with
  | nil => trivial
  | cons e es ih => exact ⟨⟨hC.1, hD.1⟩, fun s' hs' => ih (hC.2 s' hs') (hD.2 s' hs')⟩

theorem Along.mono (hCD : ∀ s e, C s e → D s e) (h : Along step C s es) : Along step D s es := by
  induction es generalizing s with
  | nil => trivial
  | cons e es ih => exact ⟨hCD s e h.1, fun s' hs' => ih (h.2 s' hs')⟩

/-- Conditions that agree at every step of the run. -/
theorem Along.congr
    (h : Along step (fun s e => C s e ↔ D s e) s es) : Along step C s es ↔ Along step D s es :=
  ⟨fun hC => (h.and hC).mono fun _ _ hboth => hboth.1.mp hboth.2,
    fun hD => (h.and hD).mono fun _ _ hboth => hboth.1.mpr hboth.2⟩

/-- A condition on the events alone. -/
theorem along_of_forall_mem (h : ∀ e ∈ es, ∀ s, C s e) : Along step C s es := by
  induction es generalizing s with
  | nil => trivial
  | cons e es ih =>
    refine ⟨h e (List.mem_cons_self ..) s, fun s' _ => ?_⟩
    exact ih fun e' he' => h e' (List.mem_cons_of_mem _ he')

/-- What holds of every state holds of the one each step leads to. -/
theorem Throughout.along_next (h : Throughout step I s es) :
    Along step (fun s e => ∀ s', step s e = some s' → I s') s es := by
  induction es generalizing s with
  | nil => trivial
  | cons e es ih =>
    exact ⟨fun s' hs' => (h.2 s' hs').head, fun s' hs' => ih (h.2 s' hs')⟩

/-- The invariant rule: what each step keeps under its condition holds in every
state of a run whose steps all meet the condition. -/
theorem throughout_of_step (hstep : ∀ s e s', I s → C s e → step s e = some s' → I s')
    (hs : I s) (hC : Along step C s es) : Throughout step I s es := by
  induction es generalizing s with
  | nil => exact hs
  | cons e es ih =>
    refine ⟨hs, fun s' hs' => ?_⟩
    exact ih (hstep s e s' hs hC.1 hs') (hC.2 s' hs')

/-- An invariant that every step keeps unconditionally. -/
theorem throughout_of_invariant (hstep : ∀ s e s', I s → step s e = some s' → I s')
    (hs : I s) (es : List ε) : Throughout step I s es := by
  induction es generalizing s with
  | nil => exact hs
  | cons e es ih => exact ⟨hs, fun s' hs' => ih (hstep s e s' hs hs')⟩

/-- The exact invariant rule.  Under a background invariant `J`, where each step
comes back and keeps `I` precisely when `C` holds of it, `I` holds throughout a
run if and only if every step of the run meets `C`. -/
theorem throughout_iff_along (hJ : ∀ s e s', J s → step s e = some s' → J s')
    (hstep : ∀ s e, J s → I s → ∃ s', step s e = some s' ∧ (I s' ↔ C s e))
    (hs : I s) (hsJ : J s) (es : List ε) : Throughout step I s es ↔ Along step C s es := by
  induction es generalizing s with
  | nil => exact ⟨fun _ => trivial, fun _ => hs⟩
  | cons e es ih =>
    obtain ⟨s', hs', hiff⟩ := hstep s e hsJ hs
    constructor
    · intro h
      have hI' : I s' := (h.2 s' hs').head
      refine ⟨hiff.mp hI', fun t ht => ?_⟩
      obtain rfl : s' = t := Option.some.inj (hs'.symm.trans ht)
      exact (ih hI' (hJ s e s' hsJ hs')).mp (h.2 s' hs')
    intro h
    have hI' : I s' := hiff.mpr h.1
    refine ⟨hs, fun t ht => ?_⟩
    obtain rfl : s' = t := Option.some.inj (hs'.symm.trans ht)
    exact (ih hI' (hJ s e s' hsJ hs')).mpr (h.2 s' hs')

/-- What the state a step starts in says about the step. -/
theorem Throughout.along_of (hC : ∀ s e, I s → C s e)
    (h : Throughout step I s es) : Along step C s es := by
  induction es generalizing s with
  | nil => trivial
  | cons e es ih => exact ⟨hC s e h.1, fun s' hs' => ih (h.2 s' hs')⟩

/-- What the state a step leads to says about the step. -/
theorem Throughout.along (hstep : ∀ s e, (∀ s', step s e = some s' → I s') → C s e)
    (h : Throughout step I s es) : Along step C s es := by
  induction es generalizing s with
  | nil => trivial
  | cons e es ih =>
    exact ⟨hstep s e fun s' hs' => (h.2 s' hs').head, fun s' hs' => ih (h.2 s' hs')⟩

/-- The exact invariant rule for steps that may not come back: under a background
invariant `J` and a discipline `D` of the caller, every state satisfies `I` and every step
`P` if and only if every step meets `C`. -/
theorem throughout_and_along_iff {D P : σ → ε → Prop}
    (hJ : ∀ s e s', J s → D s e → step s e = some s' → J s') (hstep : ∀ s e, J s → I s → D s e →
      ((P s e ∧ ∀ s', step s e = some s' → I s') ↔ C s e))
    (hs : I s) (hsJ : J s) (hD : Along step D s es) :
    (Throughout step I s es ∧ Along step P s es) ↔ Along step C s es := by
  induction es generalizing s with
  | nil => exact ⟨fun _ => trivial, fun _ => ⟨hs, trivial⟩⟩
  | cons e es ih =>
    have hiff := hstep s e hsJ hs hD.1
    constructor
    · intro ⟨hI, hP⟩
      refine ⟨hiff.mp ⟨hP.1, fun s' hs' => (hI.2 s' hs').head⟩, fun s' hs' => ?_⟩
      exact (ih (hI.2 s' hs').head (hJ s e s' hsJ hD.1 hs') (hD.2 s' hs')).mp
        ⟨hI.2 s' hs', hP.2 s' hs'⟩
    intro h
    obtain ⟨hP, hI⟩ := hiff.mpr h.1
    have hrest : ∀ s', step s e = some s' →
        Throughout step I s' es ∧ Along step P s' es := by
      intro s' hs'
      exact (ih (hI s' hs') (hJ s e s' hsJ hD.1 hs') (hD.2 s' hs')).mpr (h.2 s' hs')
    exact ⟨⟨hs, fun s' hs' => (hrest s' hs').1⟩, ⟨hP, fun s' hs' => (hrest s' hs').2⟩⟩

/-- The exact invariant rule for steps that may not come back, when a step keeps `I`
precisely when it meets `C`. -/
theorem throughout_iff_along_of_keeps
    (hstep : ∀ s e, I s → ((∀ s', step s e = some s' → I s') ↔ C s e))
    (hs : I s) (es : List ε) : Throughout step I s es ↔ Along step C s es := by
  constructor
  · intro h
    induction es generalizing s with
    | nil => trivial
    | cons e es ih =>
      refine ⟨(hstep s e hs).mp fun s' hs' => (h.2 s' hs').head, fun s' hs' => ?_⟩
      exact ih (h.2 s' hs').head (h.2 s' hs')
  · intro h
    exact throughout_of_step (fun s e s' hI hC hs' => (hstep s e hI).mpr hC s' hs') hs h

/-- What holds throughout a run holds where the run ends. -/
theorem Throughout.of_runFrom {s t : σ}
    (h : Throughout step I s es) (hrun : runFrom step s es = some t) : I t := by
  induction es generalizing s with
  | nil =>
    obtain rfl : s = t := Option.some.inj hrun
    exact h
  | cons e es ih =>
    obtain ⟨s', hs', ht⟩ := Option.bind_eq_some_iff.mp hrun
    exact ih (h.2 s' hs') ht

/-- What every step of a run satisfies, the last one satisfies. -/
theorem Along.last {s t : σ} {es : List ε} {e : ε} (h : Along step C s (es ++ [e]))
    (hrun : runFrom step s es = some t) : C t e := by
  induction es generalizing s with
  | nil =>
    obtain rfl : s = t := Option.some.inj hrun
    exact h.1
  | cons e' es ih =>
    obtain ⟨s', hs', ht⟩ := Option.bind_eq_some_iff.mp hrun
    exact ih (h.2 s' hs') ht

/-- A run comes to its end precisely when every step comes back. -/
theorem runFrom_isSome_iff_along :
    (runFrom step s es).isSome ↔ Along step (fun s e => (step s e).isSome) s es := by
  induction es generalizing s with
  | nil => exact iff_of_true rfl trivial
  | cons e es ih =>
    rw [runFrom, Along]
    cases hstep : step s e with
    | none => simp
    | some t =>
      rw [Option.bind_some, ih]
      constructor
      · intro h
        refine ⟨rfl, fun s' hs' => ?_⟩
        cases hs'
        exact h
      · intro h
        exact h.2 t rfl

/-- The unwinding rule: when the events outside `p` do not change what is seen, and those in `p`
do the same to states that look alike, a run looks like the one of its events in `p`. -/
theorem runFrom_filter {R : σ → σ → Prop} {p : ε → Bool}
    (hin : ∀ s t e s', R s t → p e = true → step s e = some s' → ∃ t', step t e = some t' ∧ R s' t')
    (hout : ∀ s t e s', R s t → p e = false → step s e = some s' → R s' t)
    {s t s' : σ} (hR : R s t) (hrun : runFrom step s es = some s') :
    ∃ t', runFrom step t (es.filter p) = some t' ∧ R s' t' := by
  induction es generalizing s t with
  | nil =>
    obtain rfl : s = s' := Option.some.inj hrun
    exact ⟨t, rfl, hR⟩
  | cons e es ih =>
    obtain ⟨s₁, hs₁, hrest⟩ := Option.bind_eq_some_iff.mp hrun
    cases hp : p e with
    | true =>
      obtain ⟨t₁, ht₁, hR₁⟩ := hin s t e s₁ hR hp hs₁
      obtain ⟨t', ht', hR'⟩ := ih hR₁ hrest
      refine ⟨t', ?_, hR'⟩
      rw [List.filter_cons_of_pos hp]
      show (step t e).bind _ = some t'
      rw [ht₁]
      exact ht'
    | false =>
      rw [List.filter_cons_of_neg (by rw [hp]; decide)]
      exact ih (hout s t e s₁ hR hp hs₁) hrest

/-- A run of one step and a rest. -/
theorem runFrom_cons {s t : σ} {e : ε} (h : step s e = some t) :
    runFrom step s (e :: es) = runFrom step t es := by
  show (step s e).bind _ = _
  rw [h]
  rfl

/-- A run of two parts. -/
theorem runFrom_append {s t : σ} {es fs : List ε} (h : runFrom step s es = some t) :
    runFrom step s (es ++ fs) = runFrom step t fs := by
  induction es generalizing s with
  | nil =>
    cases h
    rfl
  | cons e es ih =>
    obtain ⟨s', hs', ht⟩ := Option.bind_eq_some_iff.mp h
    show (step s e).bind _ = _
    rw [hs']
    exact ih ht

/-- What holds throughout both parts of a run holds throughout the run. -/
theorem Throughout.append {es fs : List ε} (h : Throughout step I s es)
    (hrest : ∀ t, runFrom step s es = some t → Throughout step I t fs) :
    Throughout step I s (es ++ fs) := by
  induction es generalizing s with
  | nil => exact hrest s rfl
  | cons e es ih =>
    refine ⟨h.1, fun s' hs' => ih (h.2 s' hs') fun t ht => hrest t ?_⟩
    rw [runFrom_cons hs']
    exact ht

/-- The states of a run are the ends of its initial parts. -/
theorem throughout_of_inits
    (h : ∀ part ∈ es.inits, ∀ t ∈ runFrom step s part, I t) : Throughout step I s es := by
  induction es generalizing s with
  | nil => exact h [] (by simp) s rfl
  | cons e es ih =>
    refine ⟨h [] (by simp) s rfl, fun s' hs' => ih fun part hpart t ht => ?_⟩
    apply h (e :: part) (by simpa using hpart) t
    show (step s e).bind _ = some t
    rw [hs']
    exact ht

end Rules

end MmIotEsp32.Lib
