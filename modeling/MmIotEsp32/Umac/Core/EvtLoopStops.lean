/-
  MmIotEsp32.Umac.Core.EvtLoopStops

  When the event loop of a system with many tasks leaves nothing behind.
-/
import Mathlib.Data.Fintype.Basic
import MmIotEsp32.Umac.Core.EvtLoopRuns

namespace MmIotEsp32.Umac.Core

open Lib Function

variable {T : Type*}

/-! ## The sections -/

/-- What the place of a task means for the others. -/
inductive TaskKind where
  | plain
  /-- `umac_core_start`, before `evtloop_has_finished` is reset. -/
  | resets
  /-- `umac_core_start`, before the loop task exists. -/
  | creates
  /-- `umac_core_start`, before `evtloop_task` is set. -/
  | assigns (loop : Nat)
  /-- `umac_core_evt_queue`, between its checks. -/
  | checks
  /-- `umac_core_evt_queue`, after its checks. -/
  | queues
  /-- `umac_core_evt_queue`, before the loop is woken. -/
  | gives
  /-- `umac_core_stop`, before the loop has finished. -/
  | stops
  /-- `umac_core_stop`, after the loop has finished. -/
  | clears
  deriving DecidableEq, Repr

def TaskPc.kind : TaskPc → TaskKind
  | .startResets _ => .resets
  | .startMakes _ | .startCreates _ => .creates
  | .startAssigns _ loop => .assigns loop
  | .checksTask _ => .checks
  | .queues _ => .queues
  | .gives .. => .gives
  | .stopWakes _ | .stopGives _ | .stopPolls _ => .stops
  | .stopClears _ => .clears
  | _ => .plain

/-- `umac_core_start` has found no loop and is about to set one up. -/
def TaskPc.setsUp : TaskPc → Bool
  | .startWrites _ => true
  | _ => false

/-- `umac_core_stop` is about to set `evtloop_shutting_down`. -/
def TaskPc.setsDown : TaskPc → Bool
  | .stopSets _ => true
  | _ => false

/-- It starts or stops a loop. -/
def TaskKind.InSection : TaskKind → Bool
  | .resets | .creates | .assigns _ | .stops | .clears => true
  | _ => false

/-- The loop task exists and has not told that it has finished. -/
def LoopPc.busy : LoopPc T → Bool
  | .absent | .finished => false
  | _ => true

theorem LoopPc.InLoop.busy {c : LoopPc T} (h : c.InLoop) : c.busy = true := by
  cases c <;> first | rfl | exact h.elim

/-- What the sections and the queueing have to do with. -/
structure LoopView (T : Type*) where
  kinds : T → TaskKind
  loops : Nat → LoopPc T
  created : Nat
  task : Option Nat
  semb : Option Bool
  down : Bool
  finished : Bool
  evtq : List (Evt T)

def EvtLoopState.view (s : EvtLoopState T) : LoopView T where
  kinds := TaskPc.kind ∘ s.tasks
  loops := s.loops
  created := s.created
  task := s.evtloopTask
  semb := s.evtloopSemb
  down := s.shuttingDown
  finished := s.hasFinished
  evtq := s.evtq

/-- A loop comes to another place. -/
def LoopView.setLoop (v : LoopView T) (l : Nat) (pc : LoopPc T) : LoopView T :=
  { v with loops := fun j => if j = l then pc else v.loops j }

/-- A task comes to another place. -/
def LoopView.goTo [DecidableEq T] (v : LoopView T) (k : T) (c : TaskKind) : LoopView T :=
  { v with kinds := fun j => if j = k then c else v.kinds j }

/-! ## The invariant -/

/-- At most one loop exists, it is the one that was created last, and events are queued for it
only while it has not been told to stop. -/
structure LoopView.Orderly (v : LoopView T) : Prop where
  unique : ∀ j k, (v.kinds j).InSection = true → (v.kinds k).InSection = true → j = k
  busy : ∀ l, (v.loops l).busy = true →
    l = v.created ∧ (v.task = some l ∨ ∃ k, v.kinds k = .assigns l)
  current : ∀ l, v.task = some l → l = v.created
  up : v.down = false → ∀ l, v.task = some l → (v.loops l).InLoop ∧ v.finished = false
  assigns : ∀ k l, v.kinds k = .assigns l → l = v.created ∧ (v.loops l).InLoop
    ∧ v.down = false ∧ v.finished = false ∧ v.task = none
  resets : ∀ k, v.kinds k = .resets → v.down = false ∧ v.task = none
  creates : ∀ k, v.kinds k = .creates → v.down = false ∧ v.finished = false ∧ v.task = none
  pending : v.evtq ≠ [] → v.down = false ∧ v.task = some v.created
  queues : ∀ k, v.kinds k = .queues → v.down = false ∧ v.task = some v.created
  runs : ∀ e ∈ v.evtq, e.run = v.created
  checks : ∀ k, v.kinds k = .checks → v.down = false ∨ v.task = none
  stops : ∀ k, v.kinds k = .stops → v.down = true
  clears : ∀ k, v.kinds k = .clears → v.down = true ∧ v.finished = true
  finished : v.finished = true → ∀ l, (v.loops l).busy = false
  wakes : v.evtq ≠ [] → v.loops v.created = .sleeps → v.semb = some true ∨ ∃ k, v.kinds k = .gives

namespace LoopView.Orderly

variable {v : LoopView T}

theorem init : (EvtLoopState.init : EvtLoopState T).view.Orderly := by
  constructor <;> intros <;> contradiction

theorem inLoop (h : v.Orderly) {e : Evt T} (he : e ∈ v.evtq) : (v.loops e.run).InLoop := by
  obtain ⟨hdown, htask⟩ := h.pending (List.ne_nil_of_mem he)
  rw [h.runs e he]
  exact (h.up hdown _ htask).1

end LoopView.Orderly

/-! ### Tasks. -/

/-- What a task relies on at its place. -/
def LoopView.Fits (v : LoopView T) : TaskKind → Prop
  | .assigns l => l = v.created ∧ (v.loops l).InLoop ∧ v.down = false ∧ v.finished = false
      ∧ v.task = none
  | .resets => v.down = false ∧ v.task = none
  | .creates => v.down = false ∧ v.finished = false ∧ v.task = none
  | .queues => v.down = false ∧ v.task = some v.created
  | .checks => v.down = false ∨ v.task = none
  | .stops => v.down = true
  | .clears => v.down = true ∧ v.finished = true
  | .plain | .gives => True

theorem LoopView.Fits.of_outside {v w : LoopView T} {c : TaskKind} (h : v.Fits c)
    (hc : c.InSection = false)
    (hchecks : v.down = false ∨ v.task = none → w.down = false ∨ w.task = none)
    (hqueues : v.down = false ∧ v.task = some v.created →
      w.down = false ∧ w.task = some w.created) : w.Fits c := by
  cases c with
  | checks => exact hchecks h
  | queues => exact hqueues h
  | plain | gives => trivial
  | assigns l | resets | creates | stops | clears => cases hc

namespace LoopView.Orderly

variable {v : LoopView T}

theorem fits (h : v.Orderly) (k : T) : v.Fits (v.kinds k) := by
  cases hk : v.kinds k with
  | assigns l => exact h.assigns k l hk
  | resets => exact h.resets k hk
  | creates => exact h.creates k hk
  | queues => exact h.queues k hk
  | checks => exact h.checks k hk
  | stops => exact h.stops k hk
  | clears => exact h.clears k hk
  | plain | gives => trivial

theorem idle (h : v.Orderly) (htask : v.task = none) (hnobody : ∀ k l, v.kinds k ≠ .assigns l)
    (l : Nat) : (v.loops l).busy = false := by
  apply Bool.eq_false_iff.mpr
  intro hbusy
  rcases (h.busy l hbusy).2 with hl | ⟨k, hk⟩
  · rw [htask] at hl
    cases hl
  · exact hnobody k l hk

theorem empty (h : v.Orderly) (htask : v.task = none) : v.evtq = [] := by
  by_contra hevtq
  have hcreated := (h.pending hevtq).2
  rw [htask] at hcreated
  cases hcreated

theorem alone (h : v.Orderly) {k : T} (hk : (v.kinds k).InSection = true) (j : T) (hj : j ≠ k) :
    (v.kinds j).InSection = false :=
  Bool.eq_false_iff.mpr fun hin => hj (h.unique j k hin hk)

theorem notAssigns {k : T} (h : (v.kinds k).InSection = false) (l : Nat) :
    v.kinds k ≠ .assigns l := by
  intro hk
  rw [hk] at h
  cases h

/-- What `fits` says of the tasks, and the rest. -/
theorem of_fits
    (unique : ∀ j k, (v.kinds j).InSection = true → (v.kinds k).InSection = true → j = k)
    (fits : ∀ k, v.Fits (v.kinds k))
    (busy : ∀ l, (v.loops l).busy = true →
      l = v.created ∧ (v.task = some l ∨ ∃ k, v.kinds k = .assigns l))
    (current : ∀ l, v.task = some l → l = v.created)
    (up : v.down = false → ∀ l, v.task = some l → (v.loops l).InLoop ∧ v.finished = false)
    (pending : v.evtq ≠ [] → v.down = false ∧ v.task = some v.created)
    (runs : ∀ e ∈ v.evtq, e.run = v.created)
    (finished : v.finished = true → ∀ l, (v.loops l).busy = false)
    (wakes : v.evtq ≠ [] → v.loops v.created = .sleeps →
      v.semb = some true ∨ ∃ k, v.kinds k = .gives) : v.Orderly := by
  have hfits : ∀ {k : T} {c : TaskKind}, v.kinds k = c → v.Fits c := fun hk => hk ▸ fits _
  exact ⟨unique, busy, current, up, fun _ _ hk => hfits hk, fun _ hk => hfits hk,
    fun _ hk => hfits hk, pending, fun _ hk => hfits hk, runs, fun _ hk => hfits hk,
    fun _ hk => hfits hk, fun _ hk => hfits hk, finished, wakes⟩

variable [DecidableEq T] {k : T} {c : TaskKind}

theorem forall_goTo {P : TaskKind → Prop} (hk : P c) (hothers : ∀ j, j ≠ k → P (v.kinds j)) :
    ∀ j, P ((v.goTo k c).kinds j) := by
  intro j
  show P (if j = k then c else v.kinds j)
  split
  · exact hk
  · next hj => exact hothers j hj

theorem unique_out (h : v.Orderly) (hc : c.InSection = false) :
    ∀ i j, ((v.goTo k c).kinds i).InSection = true → ((v.goTo k c).kinds j).InSection = true →
      i = j := by
  have hold : ∀ j, ((v.goTo k c).kinds j).InSection = true → (v.kinds j).InSection = true := by
    intro j hin
    by_cases hj : j = k
    · rw [show (v.goTo k c).kinds j = c from if_pos hj, hc] at hin
      cases hin
    · rwa [show (v.goTo k c).kinds j = v.kinds j from if_neg hj] at hin
  intro i j hi hj
  exact h.unique i j (hold i hi) (hold j hj)

theorem unique_in (hothers : ∀ j, j ≠ k → (v.kinds j).InSection = false) :
    ∀ i j, ((v.goTo k c).kinds i).InSection = true → ((v.goTo k c).kinds j).InSection = true →
      i = j := by
  have hself : ∀ j, ((v.goTo k c).kinds j).InSection = true → j = k := by
    intro j hin
    by_contra hj
    have hkind : (v.goTo k c).kinds j = v.kinds j := if_neg hj
    rw [hkind, hothers j hj] at hin
    cases hin
  intro i j hi hj
  rw [hself i hi, hself j hj]

theorem busy_goTo (h : v.Orderly) (hassigns : ∀ l, v.kinds k ≠ .assigns l) :
    ∀ l, (v.loops l).busy = true →
      l = v.created ∧ (v.task = some l ∨ ∃ j, (v.goTo k c).kinds j = .assigns l) := by
  intro l hbusy
  obtain ⟨hcreated, htask | ⟨j, hj⟩⟩ := h.busy l hbusy
  · exact ⟨hcreated, Or.inl htask⟩
  · have hne : j ≠ k := fun heq => hassigns l (heq ▸ hj)
    exact ⟨hcreated, Or.inr ⟨j, (if_neg hne).trans hj⟩⟩

theorem wakes_goTo (h : v.Orderly) (hgives : v.kinds k ≠ .gives) :
    v.evtq ≠ [] → v.loops v.created = .sleeps →
      v.semb = some true ∨ ∃ j, (v.goTo k c).kinds j = .gives := by
  intro hevtq hsleeps
  rcases h.wakes hevtq hsleeps with hsemb | ⟨j, hj⟩
  · exact Or.inl hsemb
  · have hne : j ≠ k := fun heq => hgives (heq ▸ hj)
    exact Or.inr ⟨j, (if_neg hne).trans hj⟩

theorem leaves (h : v.Orderly) (hassigns : ∀ l, v.kinds k ≠ .assigns l)
    (hgives : v.kinds k ≠ .gives) : (v.goTo k .plain).Orderly :=
  of_fits (h.unique_out rfl) (forall_goTo trivial fun j _ => h.fits j) (h.busy_goTo hassigns)
    h.current h.up h.pending h.runs h.finished (h.wakes_goTo hgives)

theorem stays (h : v.Orderly) (hk : v.kinds k = c) :
    (v.goTo k c).Orderly := by
  have hsame : (fun j => if j = k then c else v.kinds j) = v.kinds := by
    funext j
    split
    · next heq => rw [heq, hk]
    · rfl
  unfold LoopView.goTo
  rw [hsame]
  exact h

/-! ### `umac_core_start`. -/

theorem startWrites (h : v.Orderly) (htask : v.task = none)
    (hnobody : ∀ j, (v.kinds j).InSection = false) :
    LoopView.Orderly ({ v with down := false }.goTo k .resets) := by
  have hidle := h.idle htask fun j => notAssigns (hnobody j)
  have hempty := h.empty htask
  apply of_fits
  · exact unique_in fun j _ => hnobody j
  · refine forall_goTo ⟨rfl, htask⟩ fun j _ => ?_
    exact (h.fits j).of_outside (hnobody j) (fun _ => Or.inl rfl) fun hq => ⟨rfl, hq.2⟩
  · exact fun l hbusy => absurd hbusy (Bool.eq_false_iff.mp (hidle l))
  · exact h.current
  · exact fun _ l hl => nomatch htask.symm.trans hl
  · exact fun hevtq => absurd hempty hevtq
  · exact h.runs
  · exact fun _ => hidle
  · exact fun hevtq => absurd hempty hevtq

theorem startResets (h : v.Orderly) (hk : v.kinds k = .resets) :
    LoopView.Orderly ({ v with finished := false }.goTo k .creates) := by
  obtain ⟨hdown, htask⟩ := h.resets k hk
  have hothers := h.alone (k := k) (by rw [hk]; rfl)
  have hassigns : ∀ l, v.kinds k ≠ .assigns l := fun l => by rw [hk]; exact nofun
  apply of_fits
  · exact unique_in hothers
  · refine forall_goTo ⟨hdown, rfl, htask⟩ fun j hj => ?_
    exact (h.fits j).of_outside (hothers j hj) id id
  · exact h.busy_goTo hassigns
  · exact h.current
  · exact fun _ l hl => nomatch htask.symm.trans hl
  · exact h.pending
  · exact h.runs
  · exact nofun
  · exact fun hevtq => absurd (h.empty htask) hevtq

theorem startMakes (h : v.Orderly) (hk : v.kinds k = .creates) :
    LoopView.Orderly ({ v with semb := some false }.goTo k .creates) := by
  have hfits := h.creates k hk
  have hothers := h.alone (k := k) (by rw [hk]; rfl)
  have hassigns : ∀ l, v.kinds k ≠ .assigns l := fun l => by rw [hk]; exact nofun
  exact of_fits (unique_in hothers) (forall_goTo hfits fun j _ => h.fits j) (h.busy_goTo hassigns)
    h.current h.up h.pending h.runs h.finished fun hevtq => absurd (h.empty hfits.2.2) hevtq

theorem startCreates (h : v.Orderly) (hk : v.kinds k = .creates) :
    LoopView.Orderly ({ v with created := v.created + 1 }.setLoop (v.created + 1) .tests
      |>.goTo k (.assigns (v.created + 1))) := by
  obtain ⟨hdown, hfinished, htask⟩ := h.creates k hk
  have hothers := h.alone (k := k) (by rw [hk]; rfl)
  have hidle := h.idle htask fun j l => by
    by_cases hj : j = k
    · rw [hj, hk]
      exact nofun
    · exact notAssigns (hothers j hj) l
  have hempty := h.empty htask
  have hnew : (if v.created + 1 = v.created + 1 then .tests else v.loops (v.created + 1))
      = (.tests : LoopPc T) := if_pos rfl
  apply of_fits
  · exact unique_in hothers
  · refine forall_goTo ⟨rfl, ?_, hdown, hfinished, htask⟩ fun j hj => ?_
    · show LoopPc.InLoop (if _ then _ else _)
      rw [hnew]
      trivial
    · refine (h.fits j).of_outside (hothers j hj) id fun hq => ?_
      exact nomatch htask.symm.trans hq.2
  · intro l hbusy
    by_cases hl : l = v.created + 1
    · exact ⟨hl, Or.inr ⟨k, (if_pos rfl).trans (hl ▸ rfl)⟩⟩
    -- it was there before
    have hbusy : (if l = v.created + 1 then .tests else v.loops l).busy = true := hbusy
    rw [if_neg hl, hidle l] at hbusy
    cases hbusy
  · exact fun l hl => nomatch htask.symm.trans hl
  · exact fun _ l hl => nomatch htask.symm.trans hl
  · exact fun hevtq => absurd hempty hevtq
  · intro e he
    have hnil : e ∈ v.evtq := he
    rw [hempty] at hnil
    cases hnil
  · exact fun hf => nomatch hfinished.symm.trans hf
  · exact fun hevtq => absurd hempty hevtq

theorem startFails (h : v.Orderly) (hk : v.kinds k = .creates) (semb : Option Bool) :
    LoopView.Orderly ({ v with semb := semb }.goTo k .plain) := by
  have hassigns : ∀ l, v.kinds k ≠ .assigns l := fun l => by rw [hk]; exact nofun
  have hempty := h.empty (h.creates k hk).2.2
  exact of_fits (h.unique_out rfl) (forall_goTo trivial fun j _ => h.fits j)
    (h.busy_goTo hassigns) h.current h.up h.pending h.runs h.finished
    fun hevtq => absurd hempty hevtq

variable {l : Nat}

theorem startAssigns (h : v.Orderly) (hk : v.kinds k = .assigns l) :
    LoopView.Orderly ({ v with task := some l }.goTo k .plain) := by
  obtain ⟨hl, hin, hdown, hfinished, htask⟩ := h.assigns k l hk
  have hothers := h.alone (k := k) (by rw [hk]; rfl)
  have hempty := h.empty htask
  apply of_fits
  · exact h.unique_out rfl
  · refine forall_goTo trivial fun j hj => ?_
    exact (h.fits j).of_outside (hothers j hj) (fun _ => Or.inl hdown)
      fun _ => ⟨hdown, congrArg some hl⟩
  · intro l' hbusy
    have hcreated := (h.busy l' hbusy).1
    exact ⟨hcreated, Or.inl (congrArg some (hl.trans hcreated.symm))⟩
  · intro l' hl'
    exact (Option.some.inj hl').symm.trans hl
  · intro _ l' hl'
    cases hl'
    exact ⟨hin, hfinished⟩
  · exact fun hevtq => absurd hempty hevtq
  · exact h.runs
  · exact h.finished
  · exact fun hevtq => absurd hempty hevtq

/-! ### `umac_core_evt_queue`. -/

theorem checks_down (h : v.Orderly) (hk : v.kinds k = .plain) (hdown : v.down = false) :
    (v.goTo k .checks).Orderly :=
  of_fits (h.unique_out rfl) (forall_goTo (Or.inl hdown) fun j _ => h.fits j)
    (h.busy_goTo fun l => by rw [hk]; exact nofun) h.current h.up h.pending h.runs h.finished
    (h.wakes_goTo (by rw [hk]; exact nofun))

theorem checks_task (h : v.Orderly) (hk : v.kinds k = .checks) (htask : v.task ≠ none) :
    (v.goTo k .queues).Orderly := by
  obtain ⟨l, hl⟩ := Option.ne_none_iff_exists'.mp htask
  -- the handle is that of the loop that was created last
  have hcreated : v.task = some v.created := hl.trans (congrArg some (h.current l hl))
  have hdown : v.down = false := (h.checks k hk).resolve_right htask
  exact of_fits (h.unique_out rfl) (forall_goTo ⟨hdown, hcreated⟩ fun j _ => h.fits j)
    (h.busy_goTo fun l => by rw [hk]; exact nofun) h.current h.up h.pending h.runs h.finished
    (h.wakes_goTo (by rw [hk]; exact nofun))

theorem queued (h : v.Orderly) (hk : v.kinds k = .queues) {evtq : List (Evt T)}
    (hevtq : ∀ e ∈ evtq, e ∈ v.evtq ∨ e.run = v.created) :
    LoopView.Orderly ({ v with evtq := evtq }.goTo k .gives) := by
  have hup := h.queues k hk
  apply of_fits
  · exact h.unique_out rfl
  · exact forall_goTo trivial fun j _ => h.fits j
  · exact h.busy_goTo fun l => by rw [hk]; exact nofun
  · exact h.current
  · exact h.up
  · exact fun _ => hup
  · intro e he
    exact (hevtq e he).elim (h.runs e) id
  · exact h.finished
  · exact fun _ _ => Or.inr ⟨k, if_pos rfl⟩

theorem gives (h : v.Orderly) (hk : v.kinds k = .gives) :
    LoopView.Orderly ({ v with semb := some true }.goTo k .plain) :=
  of_fits (h.unique_out rfl) (forall_goTo trivial fun j _ => h.fits j)
    (h.busy_goTo fun l => by rw [hk]; exact nofun) h.current h.up h.pending h.runs h.finished
    fun _ _ => Or.inl rfl

/-! ### `umac_core_stop`. -/

theorem stopSets (h : v.Orderly)
    (hnobody : ∀ j, (v.kinds j).InSection = false)
    (hquiet : v.task ≠ none → v.evtq = [] ∧ ∀ j, v.kinds j ≠ .checks ∧ v.kinds j ≠ .queues) :
    LoopView.Orderly ({ v with down := true }.goTo k .stops) := by
  have hempty : v.evtq = [] := by
    by_cases htask : v.task = none
    · exact h.empty htask
    · exact (hquiet htask).1
  apply of_fits
  · exact unique_in fun j _ => hnobody j
  · refine forall_goTo rfl fun j _ => ?_
    by_cases htask : v.task = none
    · exact (h.fits j).of_outside (hnobody j) (fun _ => Or.inr htask)
        fun hq => nomatch htask.symm.trans hq.2
    -- nobody is in `umac_core_evt_queue`
    obtain ⟨hchecks, hqueues⟩ := (hquiet htask).2 j
    have hout := hnobody j
    cases hj : v.kinds j with
    | checks => exact absurd hj hchecks
    | queues => exact absurd hj hqueues
    | plain | gives => trivial
    | stops => rfl
    | assigns l => exact absurd hj (notAssigns hout l)
    | resets | creates | clears => rw [hj] at hout; cases hout
  · exact h.busy_goTo (notAssigns (hnobody k))
  · exact h.current
  · exact nofun
  · exact fun hevtq => absurd hempty hevtq
  · exact h.runs
  · exact h.finished
  · exact fun hevtq => absurd hempty hevtq

theorem stopGives (h : v.Orderly) (hk : v.kinds k = .stops) :
    LoopView.Orderly ({ v with semb := some true }.goTo k .stops) :=
  of_fits (unique_in (h.alone (by rw [hk]; rfl))) (forall_goTo (h.stops k hk) fun j _ => h.fits j)
    (h.busy_goTo fun l => by rw [hk]; exact nofun) h.current h.up h.pending h.runs h.finished
    fun _ _ => Or.inl rfl

theorem stopPolls (h : v.Orderly) (hk : v.kinds k = .stops) (hfinished : v.finished = true) :
    (v.goTo k .clears).Orderly :=
  of_fits (unique_in (h.alone (by rw [hk]; rfl)))
    (forall_goTo ⟨h.stops k hk, hfinished⟩ fun j _ => h.fits j)
    (h.busy_goTo fun l => by rw [hk]; exact nofun) h.current h.up h.pending h.runs h.finished
    (h.wakes_goTo (by rw [hk]; exact nofun))

theorem stopClears (h : v.Orderly) (hk : v.kinds k = .clears) :
    LoopView.Orderly ({ v with task := none }.goTo k .plain) := by
  obtain ⟨hdown, hfinished⟩ := h.clears k hk
  have hothers := h.alone (k := k) (by rw [hk]; rfl)
  have hidle := h.finished hfinished
  have hempty : v.evtq = [] := by
    by_contra hevtq
    exact nomatch hdown.symm.trans (h.pending hevtq).1
  apply of_fits
  · exact h.unique_out rfl
  · refine forall_goTo trivial fun j hj => ?_
    exact (h.fits j).of_outside (hothers j hj) (fun _ => Or.inr rfl)
      fun hq => nomatch hdown.symm.trans hq.1
  · exact fun l hbusy => absurd hbusy (Bool.eq_false_iff.mp (hidle l))
  · exact nofun
  · exact fun _ => nofun
  · exact fun hevtq => absurd hempty hevtq
  · exact h.runs
  · exact h.finished
  · exact fun hevtq => absurd hempty hevtq

/-! ### `evtloop_main`. -/

omit [DecidableEq T] in
theorem fits_setLoop (h : v.Orderly) {pc : LoopPc T}
    (hassigns : ∀ k, v.kinds k = .assigns l → pc.InLoop) (k : T) :
    (v.setLoop l pc).Fits (v.kinds k) := by
  cases hk : v.kinds k with
  | assigns l' =>
    obtain ⟨hcreated, hin, hrest⟩ := h.assigns k l' hk
    refine ⟨hcreated, ?_, hrest⟩
    show LoopPc.InLoop (if l' = l then pc else v.loops l')
    split
    · next heq => exact hassigns k (heq ▸ hk)
    · exact hin
  | resets => exact h.resets k hk
  | creates => exact h.creates k hk
  | queues => exact h.queues k hk
  | checks => exact h.checks k hk
  | stops => exact h.stops k hk
  | clears => exact h.clears k hk
  | plain | gives => trivial

omit [DecidableEq T] in
theorem busy_setLoop (h : v.Orderly) {pc : LoopPc T} (hl : (v.loops l).busy = true) :
    ∀ l', ((v.setLoop l pc).loops l').busy = true →
      l' = v.created ∧ (v.task = some l' ∨ ∃ k, v.kinds k = .assigns l') := by
  intro l' hbusy
  by_cases heq : l' = l
  · exact heq ▸ h.busy l hl
  · exact h.busy l' (by rwa [show (v.setLoop l pc).loops l' = v.loops l' from if_neg heq] at hbusy)

omit [DecidableEq T] in
theorem known (h : v.Orderly) (hbusy : (v.loops l).busy = true)
    (hout : ¬ (v.loops l).InLoop) : v.task = some v.created ∧ v.evtq = [] := by
  obtain ⟨rfl, htask | ⟨k, hk⟩⟩ := h.busy l hbusy
  · refine ⟨htask, ?_⟩
    by_contra hevtq
    exact hout (h.up (h.pending hevtq).1 _ htask).1
  · exact absurd (h.assigns k _ hk).2.1 hout

omit [DecidableEq T] in
theorem loops (h : v.Orderly) {pc : LoopPc T} {evtq : List (Evt T)} {semb : Option Bool}
    (hl : (v.loops l).InLoop) (hpc : pc.InLoop) (hevtq : evtq ⊆ v.evtq)
    (hsleeps : pc = .sleeps → v.evtq = []) :
    LoopView.Orderly ({ v with evtq := evtq, semb := semb }.setLoop l pc) := by
  -- the loop only takes from the queue
  have hempty : v.evtq = [] → evtq = [] := fun hnil => List.subset_nil.mp (hnil ▸ hevtq)
  have hcreated : l = v.created := (h.busy l hl.busy).1
  apply of_fits
  · exact h.unique
  · exact fun k => h.fits_setLoop (fun _ _ => hpc) k
  · exact h.busy_setLoop hl.busy
  · exact h.current
  · intro hdown l' htask
    obtain ⟨hin, hfinished⟩ := h.up hdown l' htask
    refine ⟨?_, hfinished⟩
    show LoopPc.InLoop (if l' = l then pc else v.loops l')
    split
    · exact hpc
    · exact hin
  · exact fun hne => h.pending fun hnil => hne (hempty hnil)
  · exact fun e he => h.runs e (hevtq he)
  · intro hfinished l'
    exact nomatch hl.busy.symm.trans (h.finished hfinished l)
  · intro hne hsleep
    have hpc' : pc = .sleeps := (if_pos hcreated.symm).symm.trans hsleep
    exact absurd (hempty (hsleeps hpc')) hne

omit [DecidableEq T] in
theorem loopLeaves (h : v.Orderly) (hl : v.loops l = .tests) (hdown : v.down = true) :
    (v.setLoop l .deletes).Orderly := by
  have hbusy : (v.loops l).busy = true := by rw [hl]; rfl
  have hempty : v.evtq = [] := by
    by_contra hevtq
    exact nomatch hdown.symm.trans (h.pending hevtq).1
  apply of_fits
  · exact h.unique
  · exact h.fits_setLoop fun k hk => nomatch hdown.symm.trans (h.assigns k l hk).2.2.1
  · exact h.busy_setLoop hbusy
  · exact h.current
  · exact fun hup => nomatch hdown.symm.trans hup
  · exact h.pending
  · exact h.runs
  · exact fun hfinished => nomatch hbusy.symm.trans (h.finished hfinished l)
  · exact fun hevtq => absurd hempty hevtq

omit [DecidableEq T] in
theorem loopDeletes (h : v.Orderly) (hl : v.loops l = .deletes) :
    LoopView.Orderly ({ v with semb := none }.setLoop l .finishes) := by
  have hbusy : (v.loops l).busy = true := by rw [hl]; rfl
  have hout : ¬ (v.loops l).InLoop := by rw [hl]; exact id
  have hcreated : l = v.created := (h.busy l hbusy).1
  obtain ⟨htask, hempty⟩ := h.known hbusy hout
  apply of_fits
  · exact h.unique
  · exact fun k => h.fits_setLoop (fun k hk => absurd (h.assigns k l hk).2.1 hout) k
  · exact h.busy_setLoop hbusy
  · exact h.current
  · intro hup
    exact absurd (h.up hup _ htask).1 (hcreated ▸ hout)
  · exact h.pending
  · exact h.runs
  · exact fun hfinished => nomatch hbusy.symm.trans (h.finished hfinished l)
  · exact fun hevtq => absurd hempty hevtq

omit [DecidableEq T] in
theorem loopFinishes (h : v.Orderly) (hl : v.loops l = .finishes) :
    LoopView.Orderly ({ v with finished := true }.setLoop l .finished) := by
  have hbusy : (v.loops l).busy = true := by rw [hl]; rfl
  have hout : ¬ (v.loops l).InLoop := by rw [hl]; exact id
  have hcreated : l = v.created := (h.busy l hbusy).1
  obtain ⟨htask, hempty⟩ := h.known hbusy hout
  -- every loop that exists was created last, as this one was
  have hnone : ∀ l', ((v.setLoop l .finished).loops l').busy = false := by
    intro l'
    apply Bool.eq_false_iff.mpr
    intro hbusy'
    have heq : l' = l := ((h.busy_setLoop hbusy l' hbusy').1).trans hcreated.symm
    rw [show (v.setLoop l .finished).loops l' = .finished from if_pos heq] at hbusy'
    cases hbusy'
  apply of_fits
  · exact h.unique
  · intro k
    show LoopView.Fits _ (v.kinds k)
    cases hk : v.kinds k with
    | assigns l' => exact nomatch htask.symm.trans (h.assigns k l' hk).2.2.2.2
    | resets => exact h.resets k hk
    | creates => exact nomatch htask.symm.trans (h.creates k hk).2.2
    | queues => exact h.queues k hk
    | checks => exact h.checks k hk
    | stops => exact h.stops k hk
    | clears => exact ⟨(h.clears k hk).1, rfl⟩
    | plain | gives => trivial
  · exact fun l' hbusy' => nomatch hbusy'.symm.trans (hnone l')
  · exact h.current
  · intro hup
    exact absurd (h.up hup _ htask).1 (hcreated ▸ hout)
  · exact h.pending
  · exact h.runs
  · exact fun _ => hnone
  · exact fun hevtq => absurd hempty hevtq

end LoopView.Orderly

/-! ## The steps -/

/-- A start or a stop acts on what it has tested while no other one is under way, and a loop is
told to stop when no event is queued or on its way to the queue. -/
def EvtLoopState.InTurn (s : EvtLoopState T) : EvtLoopEvent T → Prop
  | .task k _ =>
    ((s.tasks k).setsUp = true → s.evtloopTask = none ∧ ∀ j, (s.tasks j).kind.InSection = false)
      ∧ ((s.tasks k).setsDown = true → (∀ j, (s.tasks j).kind.InSection = false)
        ∧ (s.evtloopTask ≠ none → s.evtq = []
          ∧ ∀ j, (s.tasks j).kind ≠ .checks ∧ (s.tasks j).kind ≠ .queues))
  | _ => True

@[simp] theorem afterQueue_kind (api : ApiCall) (id : Option Nat) :
    (afterQueue api id).kind = .plain := by
  unfold afterQueue
  split
  · rfl
  · rfl
  · split <;> rfl
  · split <;> rfl

@[simp] theorem afterEntry_kind (api : ApiCall) : (afterEntry api).kind = .plain := by
  unfold afterEntry
  split
  · rfl
  · exact afterQueue_kind api none

@[simp] theorem afterFailedStart_kind (api : ApiCall) : (afterFailedStart api).kind = .plain := by
  unfold afterFailedStart
  split
  · rfl
  · exact afterEntry_kind api

section

variable [DecidableEq T] {s s' : EvtLoopState T} {k : T}

theorem view_goTo (s : EvtLoopState T) (k : T) (pc : TaskPc) :
    (s.goTo k pc).view = s.view.goTo k pc.kind := by
  unfold EvtLoopState.view EvtLoopState.goTo LoopView.goTo
  congr
  funext j
  show (update s.tasks k pc j).kind = _
  rw [update_apply]
  split <;> rfl

omit [DecidableEq T] in
theorem view_setLoop (s : EvtLoopState T) (l : Nat) (pc : LoopPc T) :
    (s.setLoop l pc).view = s.view.setLoop l pc := by
  unfold EvtLoopState.view EvtLoopState.setLoop LoopView.setLoop
  congr
  funext j
  exact update_apply ..

theorem orderly_goTo (h : s.view.Orderly) {pc : TaskPc} (hk : (s.tasks k).kind = .plain)
    (hpc : pc.kind = .plain) : (s.goTo k pc).view.Orderly := by
  have hkind : s.view.kinds k = .plain := hk
  rw [view_goTo, hpc]
  exact h.leaves (fun l => by rw [hkind]; simp) (by rw [hkind]; simp)

variable {ok : Bool} {api : ApiCall}

theorem orderly_startMakes (h : s.view.Orderly)
    (hk : s.tasks k = .startMakes api) (hs' : s.runTask k ok = some s') : s'.view.Orderly := by
  have hkind : s.view.kinds k = .creates := congrArg TaskPc.kind hk
  simp only [EvtLoopState.runTask, hk] at hs'
  split at hs'
  · cases hs'
    rw [view_goTo]
    exact h.startMakes hkind
  · cases hs'
    rw [view_goTo, afterFailedStart_kind]
    exact h.startFails hkind none

theorem orderly_startCreates (h : s.view.Orderly)
    (hk : s.tasks k = .startCreates api) (hs' : s.runTask k ok = some s') : s'.view.Orderly := by
  have hkind : s.view.kinds k = .creates := congrArg TaskPc.kind hk
  simp only [EvtLoopState.runTask, hk] at hs'
  split at hs'
  · cases hs'
    have hview : EvtLoopState.view { s with
        created := s.created + 1
        loops := update s.loops (s.created + 1) .tests }
        = { s.view with created := s.created + 1 }.setLoop (s.created + 1) .tests :=
      view_setLoop { s with created := s.created + 1 } (s.created + 1) .tests
    rw [view_goTo, hview]
    exact h.startCreates hkind
  split at hs'
  · cases hs'
  · cases hs'
    rw [view_goTo, afterFailedStart_kind]
    exact h.startFails hkind none

theorem orderly_checks (h : s.view.Orderly)
    (hk : s.tasks k = .checks api) (hs' : s.runTask k ok = some s') : s'.view.Orderly := by
  have hkind : (s.tasks k).kind = .plain := congrArg TaskPc.kind hk
  simp only [EvtLoopState.runTask, hk] at hs'
  split at hs'
  · cases hs'
    exact orderly_goTo h hkind (afterQueue_kind ..)
  -- the semaphore of the caller is its own
  generalize hsembs : (if api.waits = true then update s.sembs k false else s.sembs)
    = sembs at hs'
  have hsame : EvtLoopState.view { s with sembs } = s.view := rfl
  split at hs'
  · cases hs'
    exact orderly_goTo (s := { s with sembs }) h hkind (afterQueue_kind ..)
  next hdown =>
    cases hs'
    rw [view_goTo]
    exact h.checks_down hkind (Bool.eq_false_iff.mpr hdown)

theorem orderly_queues (h : s.view.Orderly)
    (hk : s.tasks k = .queues api) (hs' : s.runTask k ok = some s') : s'.view.Orderly := by
  have hkind : s.view.kinds k = .queues := congrArg TaskPc.kind hk
  obtain rfl | ⟨evtq, hevtq, rfl⟩ := queues_cases hk hs'
  · rw [view_goTo]
    exact h.queued hkind fun e he => .inl he
  rw [view_goTo]
  refine h.queued hkind fun e he => ?_
  rcases List.mem_cons.mp (hevtq.mem_iff.mp he) with rfl | hold
  · exact .inr rfl
  · exact .inl hold

theorem orderly_runTask (h : s.view.Orderly) (hturn : s.InTurn (.task k ok))
    (hs' : s.runTask k ok = some s') : s'.view.Orderly := by
  have hkind : s.view.kinds k = (s.tasks k).kind := rfl
  cases hk : s.tasks k with
  | startWrites api =>
    -- the handle is still `NULL`, and nobody else starts or stops a loop
    obtain ⟨htask, hnobody⟩ := hturn.1 (by rw [hk]; rfl)
    simp only [EvtLoopState.runTask, hk] at hs'
    cases hs'
    rw [view_goTo]
    exact h.startWrites htask hnobody
  | startResets api =>
    simp only [EvtLoopState.runTask, hk] at hs'
    cases hs'
    rw [view_goTo]
    exact h.startResets (hkind.trans (congrArg TaskPc.kind hk))
  | startMakes api => exact orderly_startMakes h hk hs'
  | startCreates api => exact orderly_startCreates h hk hs'
  | checks api => exact orderly_checks h hk hs'
  | queues api => exact orderly_queues h hk hs'
  | returned id | awaitsInactive id =>
    simp only [EvtLoopState.runTask, hk] at hs'
    cases hs'
    exact h
  | begins api =>
    have hplain : (s.tasks k).kind = .plain := congrArg TaskPc.kind hk
    simp only [EvtLoopState.runTask, hk] at hs'
    split at hs' <;> cases hs' <;> refine orderly_goTo h hplain ?_
    · exact afterEntry_kind api
    · split
      · rfl
      · exact afterEntry_kind api
    · split
      · rfl
      · exact afterEntry_kind api
    · split
      · rfl
      · exact afterEntry_kind api
  | startAssigns api l =>
    simp only [EvtLoopState.runTask, hk] at hs'
    cases hs'
    rw [view_goTo, afterEntry_kind]
    exact h.startAssigns (hkind.trans (congrArg TaskPc.kind hk))
  | checksTask api =>
    rw [hk] at hkind
    simp only [EvtLoopState.runTask, hk] at hs'
    cases hs'
    rw [view_goTo]
    split
    · rw [afterQueue_kind]
      exact h.leaves (fun l hno => by cases hkind.symm.trans hno)
        (fun hno => by cases hkind.symm.trans hno)
    next htask => exact h.checks_task hkind fun hnone => htask (by
      show s.evtloopTask.isNone = true
      rw [show s.evtloopTask = none from hnone]
      rfl)
  | gives api id =>
    rw [hk] at hkind
    simp only [EvtLoopState.runTask, hk] at hs'
    split at hs'
    · cases hs'
    split at hs' <;> cases hs' <;> rw [view_goTo]
    · rw [afterQueue_kind]
      exact h.gives hkind
    split
    · exact h.gives hkind
    · rw [afterQueue_kind]
      exact h.gives hkind
  | waits api id =>
    have hplain : (s.tasks k).kind = .plain := congrArg TaskPc.kind hk
    simp only [EvtLoopState.runTask, hk] at hs'
    split at hs' <;> cases hs'
    · exact orderly_goTo (s := { s with sembs := _ }) h hplain (afterQueue_kind ..)
    · exact h
  | stopTests id | stopEnters id =>
    simp only [EvtLoopState.runTask, hk] at hs'
    cases hs'
    refine orderly_goTo h (congrArg TaskPc.kind hk) ?_
    split <;> rfl
  | stopSets id =>
    -- nothing is queued, and nobody is past the checks
    obtain ⟨hnobody, hquiet⟩ := hturn.2 (by rw [hk]; rfl)
    rw [hk] at hkind
    simp only [EvtLoopState.runTask, hk] at hs'
    cases hs'
    rw [view_goTo]
    exact h.stopSets hnobody hquiet
  | stopWakes id =>
    rw [hk] at hkind
    simp only [EvtLoopState.runTask, hk] at hs'
    cases hs'
    rw [view_goTo]
    split
    · exact h.leaves (fun l hno => by cases hkind.symm.trans hno)
        (fun hno => by cases hkind.symm.trans hno)
    · exact h.stays hkind
  | stopGives id =>
    rw [hk] at hkind
    simp only [EvtLoopState.runTask, hk] at hs'
    split at hs'
    · cases hs'
    · cases hs'
      rw [view_goTo]
      exact h.stopGives hkind
  | stopPolls id =>
    rw [hk] at hkind
    simp only [EvtLoopState.runTask, hk] at hs'
    cases hs'
    split
    · next hfinished =>
        rw [view_goTo]
        exact h.stopPolls hkind hfinished
    · exact h
  | stopClears id =>
    rw [hk] at hkind
    simp only [EvtLoopState.runTask, hk] at hs'
    cases hs'
    rw [view_goTo]
    exact h.stopClears hkind

omit [DecidableEq T] in
theorem orderly_loop (h : s.view.Orderly) {l : Nat} {c pc : LoopPc T} (hl : s.loops l = c)
    (hc : c.InLoop) (hpc : pc.InLoop) (hsleeps : pc = .sleeps → s.evtq = []) :
    (s.setLoop l pc).view.Orderly := by
  rw [view_setLoop]
  refine h.loops ?_ hpc (List.Subset.refl _) hsleeps
  show (s.loops l).InLoop
  rw [hl]
  exact hc

theorem orderly_runLoop (h : s.view.Orderly) {l : Nat} {active flag : Bool}
    (hs' : s.runLoop l active flag = some s') : s'.view.Orderly := by
  have hloop : s.view.loops l = s.loops l := rfl
  cases hl : s.loops l with
  | absent | finished =>
    simp only [EvtLoopState.runLoop, hl] at hs'
    cases hs'
    exact h
  | tests =>
    simp only [EvtLoopState.runLoop, hl] at hs'
    cases hs'
    split
    · next hdown =>
        rw [view_setLoop]
        exact h.loopLeaves (hloop.trans hl) hdown
    · exact orderly_loop h hl trivial trivial (fun heq => by cases heq)
  | iterates ii =>
    have hin : (s.loops l).InLoop := by
      rw [hl]
      trivial
    simp only [EvtLoopState.runLoop, hl] at hs'
    split at hs'
    · split at hs'
      · cases hs'
        exact orderly_loop h hl trivial trivial (fun heq => by cases heq)
      next evt evts hevtq =>
        cases hs'
        rw [view_setLoop]
        refine h.loops hin trivial ?_ (fun heq => by cases heq)
        show evts ⊆ s.evtq
        rw [hevtq]
        exact List.subset_cons_self evt evts
    · cases hs'
      exact orderly_loop h hl trivial trivial (fun heq => by cases heq)
  | handles ii evt =>
    simp only [EvtLoopState.runLoop, hl] at hs'
    cases hs'
    exact orderly_loop (s := { s with ifaceActive := active, sembs := _ }) h
      hl trivial trivial (fun heq => by cases heq)
  | frees ii =>
    simp only [EvtLoopState.runLoop, hl] at hs'
    cases hs'
    exact orderly_loop (s := { s with free := s.free + 1 }) h
      hl trivial trivial (fun heq => by cases heq)
  | timeouts =>
    simp only [EvtLoopState.runLoop, hl] at hs'
    cases hs'
    split
    · next hsleep =>
        -- it has found the queue empty in the same step
        refine orderly_loop h hl trivial trivial fun _ => ?_
        exact List.isEmpty_iff.mp (Bool.and_eq_true_iff.mp hsleep).1
    · exact orderly_loop h hl trivial trivial (fun heq => by cases heq)
  | sleeps =>
    have hin : (s.loops l).InLoop := by
      rw [hl]
      trivial
    simp only [EvtLoopState.runLoop, hl] at hs'
    split at hs'
    · cases hs'
    · cases hs'
      rw [view_setLoop]
      exact h.loops hin trivial (List.Subset.refl _) (fun heq => by cases heq)
    cases hs'
    split
    · exact orderly_loop h hl trivial trivial (fun heq => by cases heq)
    · exact h
  | deletes =>
    simp only [EvtLoopState.runLoop, hl] at hs'
    split at hs'
    · cases hs'
    · cases hs'
      rw [view_setLoop]
      exact h.loopDeletes (hloop.trans hl)
  | finishes =>
    simp only [EvtLoopState.runLoop, hl] at hs'
    cases hs'
    rw [view_setLoop]
    exact h.loopFinishes (hloop.trans hl)

theorem orderly_step (h : s.view.Orderly) {e : EvtLoopEvent T} (hturn : s.InTurn e)
    (hs' : evtLoopStep s e = some s') : s'.view.Orderly := by
  cases e with
  | call k api | inactive k =>
    simp only [evtLoopStep] at hs'
    split at hs'
    · next hk =>
        cases hs'
        exact orderly_goTo h (congrArg TaskPc.kind hk) rfl
    · cases hs'
      exact h
  | task k ok => exact orderly_runTask h hturn hs'
  | loop l active flag => exact orderly_runLoop h hs'
  | interface active =>
    cases hs'
    exact h

/-! ## Accepted events are executed -/

/-- What accepted events and their callers are owed. -/
structure EvtLoopState.Executed (s : EvtLoopState T) : Prop where
  /-- Each one is pending or was dispatched, once. -/
  once : (s.evtq.map Evt.id ++ s.dispatched.map Dispatch.id).Perm (List.range s.accepted)
  /-- The run that a pending one was queued in has not ended. -/
  pendingInRun : s.PendingInRun
  /-- Nor had it when one was dispatched. -/
  dispatchedInRun : ∀ d ∈ s.dispatched, d.inRun = true
  /-- A caller that is blocked has its event pending or in its handler, or is woken. -/
  woken : ∀ k id, (s.tasks k).awaits = some id → s.Answered k id
  /-- A loop that sleeps while an event is pending is woken. -/
  wakes : ∀ e ∈ s.evtq, s.loops e.run = .sleeps →
    s.evtloopSemb = some true ∨ ∃ k, (s.tasks k).kind = .gives

/-- In a run whose starts and stops are in turn, and whose stops find no event queued or on its
way, every accepted event is executed. -/
theorem accepted_executed (es : List (EvtLoopEvent T))
    (hturn : Along evtLoopStep EvtLoopState.InTurn EvtLoopState.init es) :
    Throughout evtLoopStep EvtLoopState.Executed EvtLoopState.init es := by
  have horderly : Throughout evtLoopStep
      (fun s => s.view.Orderly ∧ ∀ d ∈ s.dispatched, d.inRun = true) EvtLoopState.init es := by
    refine throughout_of_step (fun s e s' h hturn hs' => ?_) ⟨LoopView.Orderly.init, ?_⟩ hturn
    · exact ⟨orderly_step h.1 hturn hs',
        dispatchedInRun_step (fun e he => h.1.inLoop he) h.2 hs'⟩
    · exact fun d hd => absurd hd List.not_mem_nil
  -- once each, from the bookkeeping; and in time, from the order of the sections
  refine ((recorded_throughout es).and horderly).mono fun s h => ?_
  obtain ⟨hrecorded, hview, hdispatched⟩ := h
  exact {
    once := hrecorded.once
    pendingInRun := fun e he => hview.inLoop he
    dispatchedInRun := hdispatched
    woken := hrecorded.woken
    wakes := by
      intro e he hsleeps
      -- a pending event is for the loop that was created last
      have hrun : e.run = s.created := hview.runs e he
      rw [hrun] at hsleeps
      exact hview.wakes (List.ne_nil_of_mem he) hsleeps }

instance [Fintype T] (s : EvtLoopState T) : (e : EvtLoopEvent T) → Decidable (s.InTurn e)
  | .task _ _ => inferInstanceAs (Decidable (_ ∧ _))
  | .call _ _ | .loop _ _ _ | .interface _ | .inactive _ => isTrue trivial

/-- One task connects and waits for it, and another one disconnects, which stops the loop. -/
theorem accepted_executed_enable_disable :
    let run (k : Fin 2) : EvtLoopEvent (Fin 2) := .task k true
    let loop : EvtLoopEvent (Fin 2) := .loop 1 true true
    let ends : EvtLoopEvent (Fin 2) := .loop 1 false true
    Throughout evtLoopStep EvtLoopState.Executed EvtLoopState.init
      ([.call 0 mmwlanStaEnable, run 0, run 0, run 0, run 0, run 0, run 0, run 0, run 0, run 0,
        run 0, loop, loop, loop, loop, loop, run 0, run 0]
      ++ [.call 1 mmwlanStaDisable, run 1, run 1, run 1, run 1, run 1,
        loop, loop, loop, ends, loop, loop, run 1, run 1, run 1, run 1, run 1, run 1,
        loop, loop, loop, loop, loop, run 1, run 1]) :=
  accepted_executed _ (by decide)

/-- A task connects and does not wait for it; the loop is told to stop, as no interface is active
yet, before it has tested anything. -/
def connectAndStop : List (EvtLoopEvent Unit) :=
  .call () mmwlanStaEnableNowait :: List.replicate 15 (.task () true)
    ++ List.replicate 3 (.loop 1 false true) ++ List.replicate 2 (.task () true)

/-- `mmwlan_sta_enable_nowait` returns `MMWLAN_SUCCESS`, and the event stays in the queue. -/
theorem connect_request_is_left :
    ¬ ∀ es : List (EvtLoopEvent Unit),
      Throughout evtLoopStep EvtLoopState.Executed EvtLoopState.init es := by
  intro h
  -- the function has returned with an event accepted, and the loop has left without it
  obtain ⟨t, hrun, hdone, e, he, hleft⟩ :
      ∃ t, runFrom evtLoopStep EvtLoopState.init connectAndStop = some t
        ∧ t.tasks () = .returned (some 0) ∧ ∃ e ∈ t.evtq, ¬ t.InLoop e.run :=
    ⟨_, rfl, rfl, ⟨0, 1, none⟩, List.mem_singleton.mpr rfl, fun h => h⟩
  exact hleft (((h connectAndStop).of_runFrom hrun).pendingInRun e he)

/-- The next loop handles it. -/
example : ((runFrom evtLoopStep EvtLoopState.init
    (connectAndStop ++ .call () mmwlanBoot :: List.replicate 6 (.task () true)
      ++ List.replicate 2 (.loop 2 false true))).map EvtLoopState.dispatched)
        = some [⟨0, false⟩] := by
  decide

end

end MmIotEsp32.Umac.Core
