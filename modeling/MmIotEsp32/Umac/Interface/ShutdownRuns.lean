/-
  MmIotEsp32.Umac.Interface.ShutdownRuns

  A shutdown shuts down as long as the inactive callback is called in order and nobody boots the
  chip while the event loop is being stopped.
-/
import MmIotEsp32.Umac.Interface.ShutdownHandlers

namespace MmIotEsp32.Umac.Interface

open Lib Scan

section System

variable {R : Type} {dwellOnHomeMs : R → U32}

/-! ## The invariant -/

/-- What holds between two steps. -/
structure SysInv (s : ShutdownSys R) : Prop where
  root : RootWf s.root
  interface : InterfaceWf s.root.interface
  /-- Without a loop there is no interface. -/
  stopped : s.evtloopTask = false → s.root.interface.activeInterfaceTypes = ∅
  stopping : s.Stopping → s.root.interface.activeInterfaceTypes = ∅
  /-- A loop that is told to stop is waited for. -/
  joined : s.evtloopTask = true → s.evtloopShuttingDown = true → ∃ b, s.pc = .stopJoins b
  returned : s.pc = .returned (some true) → s.evtloopTask = false

theorem shutdownSysInit_inv : SysInv (shutdownSysInit R) where
  root := ⟨umacScanInit_wf, fun h => absurd rfl h⟩
  interface := umacInterfaceInit_wf
  stopped := fun _ => rfl
  stopping := fun h => absurd h id
  joined := fun h => by cases h
  returned := fun h => by cases h

variable {s : ShutdownSys R}

theorem SysInv.shutDown (hi : SysInv s) : ShutDown s := by
  refine ⟨hi.interface.once, hi.interface.inactive, fun hreturned => ?_⟩
  have htask := hi.returned hreturned
  have hnone := hi.stopped htask
  exact ⟨hnone, hi.interface.stopped hnone, htask⟩

/-! ## The application -/

theorem SysInv.goTo {s : ShutdownSys R} (hi : SysInv s) {pc : AppPc}
    (hjoins : ∀ b, s.pc ≠ .stopJoins b)
    (hstopping : { s with pc := pc }.Stopping → s.root.interface.activeInterfaceTypes = ∅)
    (hreturned : pc = .returned (some true) → s.evtloopTask = false) :
    SysInv { s with pc := pc } where
  root := hi.root
  interface := hi.interface
  stopped := hi.stopped
  stopping := hstopping
  joined := fun htask hflag => by
    obtain ⟨b, hb⟩ := hi.joined htask hflag
    exact absurd hb (hjoins b)
  returned := hreturned

theorem SysInv.withEvtq (hi : SysInv s) (evtq : List (LoopEvt R)) :
    SysInv { s with evtq := evtq } :=
  ⟨hi.root, hi.interface, hi.stopped, hi.stopping, hi.joined, hi.returned⟩

theorem SysInv.evtQueue (hi : SysInv s) (evt : LoopEvt R) (atStart ok : Bool) :
    SysInv (s.evtQueue evt atStart ok).2 ∧ (s.evtQueue evt atStart ok).2.pc = s.pc
      ∧ (s.evtQueue evt atStart ok).2.root = s.root := by
  unfold ShutdownSys.evtQueue
  split
  · exact ⟨hi.withEvtq _, rfl, rfl⟩
  · exact ⟨hi, rfl, rfl⟩

theorem runApp_inv (hi : SysInv s) (ok : Bool) : SysInv (runApp s ok) := by
  have hstopping := hi.stopping
  unfold ShutdownSys.Stopping at hstopping
  unfold runApp
  cases hpc : s.pc with
  | returned shutdown => exact hi
  | queues nowait n =>
    obtain ⟨hqueued, hsame, hroot⟩ := hi.evtQueue .shutdown false ok
    have hjoins : ∀ b, (s.evtQueue .shutdown false ok).2.pc ≠ .stopJoins b := by
      intro b
      rw [hsame, hpc]
      exact AppPc.noConfusion
    rw [hpc] at hstopping
    dsimp only
    split
    · exact hqueued.goTo hjoins (fun h => absurd h id) nofun
    next hwait =>
      split
      · refine hqueued.goTo hjoins (fun hgiven => ?_) nofun
        obtain rfl : nowait = false := by simpa using hwait
        change n ∈ (s.evtQueue .shutdown false ok).2.root.interface.invoked.map Prod.fst at hgiven
        rw [hroot] at hgiven ⊢
        exact hstopping hgiven
      · exact hqueued.goTo hjoins (fun h => absurd h id) nofun
  | awaits n =>
    rw [hpc] at hstopping
    dsimp only
    split
    · next hgiven =>
        exact hi.goTo (fun b => by rw [hpc]; exact AppPc.noConfusion)
          (fun _ => hstopping hgiven) nofun
    · exact hi
  | stopTests shutdown =>
    rw [hpc] at hstopping
    have hjoins : ∀ b, s.pc ≠ .stopJoins b := fun b => by rw [hpc]; exact AppPc.noConfusion
    dsimp only
    split
    · next hactive =>
        cases shutdown with
        | true => exact absurd (hstopping trivial) hactive
        | false => exact hi.goTo hjoins (fun h => absurd h id) nofun
    · next hnone => exact hi.goTo hjoins (fun _ => not_not.mp hnone) nofun
  | stopSets shutdown =>
    rw [hpc] at hstopping
    have hjoins : ∀ b, s.pc ≠ .stopJoins b := fun b => by rw [hpc]; exact AppPc.noConfusion
    dsimp only
    split
    · next hflag =>
        refine hi.goTo hjoins (fun h => absurd h id) (fun _ => ?_)
        by_contra htask
        obtain ⟨b, hb⟩ := hi.joined (by simpa using htask) hflag
        exact absurd hb (hjoins b)
    split
    · exact ⟨hi.root, hi.interface, hi.stopped, fun _ => hstopping trivial,
        fun _ _ => ⟨shutdown, rfl⟩, nofun⟩
    · next htask =>
        exact ⟨hi.root, hi.interface, hi.stopped, fun h => absurd h id,
          fun h => absurd h htask, fun _ => by simpa using htask⟩
  | stopJoins shutdown =>
    rw [hpc] at hstopping
    dsimp only
    split
    · exact ⟨hi.root, hi.interface, fun _ => hstopping trivial, fun h => absurd h id, nofun,
        fun _ => rfl⟩
    · exact hi

/-! ## The steps -/

variable [DecidableEq R]

theorem dispatch_inv {root : UmacRoot R} {env : HandlerEnv} {evt : LoopEvt R}
    {rest : List (LoopEvt R)} (hi : SysInv s) (hrunning : s.running = true)
    (horder : CallsInOrder env s.root evt) (hboots : s.Stopping → ¬ Boots env s.root evt)
    (h : handleEvt dwellOnHomeMs env s.root evt = some root) :
    SysInv { s with root := root, evtq := rest } := by
  have hsound := handleEvt_sound hi.root hi.interface horder h
  have htask : s.evtloopTask = true := by
    unfold ShutdownSys.running at hrunning
    simp only [Bool.and_eq_true] at hrunning
    exact hrunning.1
  refine ⟨hsound.root, hsound.interface.wf, fun hnone => ?_, fun hstopping => ?_, hi.joined,
    hi.returned⟩
  · change s.evtloopTask = false at hnone
    rw [htask] at hnone
    cases hnone
  -- it was stopping before, or the handler has called the callback
  by_cases hbefore : s.Stopping
  · exact handleEvt_empty hi.root hi.interface (hi.stopping hbefore) (hboots hbefore) h
  have hcalled : ∀ n, n ∈ root.interface.invoked.map Prod.fst →
      n ∉ s.root.interface.invoked.map Prod.fst →
      root.interface.activeInterfaceTypes = ∅ := by
    intro n hmem hnew
    obtain ⟨call, hcall, rfl⟩ := List.mem_map.mp hmem
    refine (hsound.interface.called call hcall).resolve_left fun hold => ?_
    exact hnew (List.mem_map.mpr ⟨call, hold, rfl⟩)
  unfold ShutdownSys.Stopping at hstopping hbefore
  dsimp only at hstopping
  split at hstopping
  · exact absurd hstopping id
  · exact absurd hstopping id
  · exact absurd hstopping id
  · next n hpc =>
      rw [hpc] at hbefore
      exact hcalled n hstopping hbefore
  · next n hpc =>
      rw [hpc] at hbefore
      exact hcalled n hstopping hbefore
  · next hpc =>
      rw [hpc] at hbefore
      exact absurd trivial hbefore
  · next b hpc =>
      rw [hpc] at hbefore
      exact absurd trivial hbefore
  · next b hpc =>
      rw [hpc] at hbefore
      exact absurd trivial hbefore

omit [DecidableEq R] in
theorem register_inv (hi : SysInv s) (hjoins : ∀ b, s.pc ≠ .stopJoins b)
    (nowait : Bool) : SysInv (s.register nowait) where
  root := ⟨hi.root.scan, hi.root.busy⟩
  interface := umacInterfaceRegisterInactiveCb_wf hi.interface
  stopped := hi.stopped
  stopping := by
    intro hstopping
    cases nowait with
    | true => exact absurd hstopping id
    | false =>
      obtain ⟨call, hcall, hn⟩ := List.mem_map.mp hstopping
      have hlt := hi.interface.old call hcall
      rw [hn] at hlt
      exact absurd hlt (Nat.lt_irrefl _)
  joined := by
    intro htask hflag
    obtain ⟨b, hb⟩ := hi.joined htask hflag
    exact absurd hb (hjoins b)
  returned := nofun

theorem sysInv_step {s s' : ShutdownSys R} {step : ShutdownStep R} (hi : SysInv s)
    (horder : StopsInOrder s step) (h : shutdownStep dwellOnHomeMs s step = some s') :
    SysInv s' := by
  unfold shutdownStep at h
  split at h
  · next ok shutdown hpc =>
      cases h
      split
      · exact hi.goTo (fun b => by rw [hpc]; exact AppPc.noConfusion) (fun h => absurd h id) nofun
      next htask =>
        have hnone := hi.stopped (by simpa using htask)
        exact ⟨hi.root, hi.interface, fun _ => hnone, fun h => absurd h id,
          (fun _ hflag => by cases hflag), nofun⟩
  · cases h
    exact (hi.evtQueue _ _ _).1
  · next hpc =>
      cases h
      exact hi.goTo (fun b => by rw [hpc]; exact AppPc.noConfusion) (fun h => absurd h id) nofun
  · next sembOk shutdown hpc =>
      cases h
      have hjoins : ∀ b, s.pc ≠ .stopJoins b := fun b => by rw [hpc]; exact AppPc.noConfusion
      split
      · next htask => exact hi.goTo hjoins (fun h => absurd h id) (fun _ => by simpa using htask)
      · split
        · exact hi.goTo hjoins (fun h => absurd h id) nofun
        · exact register_inv hi hjoins false
  · next shutdown hpc =>
      cases h
      have hjoins : ∀ b, s.pc ≠ .stopJoins b := fun b => by rw [hpc]; exact AppPc.noConfusion
      split
      · exact hi.goTo hjoins (fun h => absurd h id) nofun
      · exact register_inv hi hjoins true
  · cases h
    exact runApp_inv hi _
  · split at h
    · next hrunning =>
        split at h
        · cases h
          exact hi
        next evt rest hevtq =>
          obtain ⟨root, hhandled, rfl⟩ := Option.map_eq_some_iff.mp h
          obtain ⟨hcalls, hboots⟩ := horder evt (by rw [hevtq]; rfl) hrunning
          exact dispatch_inv hi hrunning hcalls hboots hhandled
    · cases h
      exact hi
  · cases h
    split
    · exact ⟨hi.root, hi.interface, hi.stopped, hi.stopping, hi.joined, hi.returned⟩
    · exact hi
  · cases h
    exact hi

/-! ## The run -/

/-- In every run in order a shutdown shuts down. -/
theorem shutdown_is_down (dwellOnHomeMs : R → U32) (steps : List (ShutdownStep R))
    (horder : Along (shutdownStep dwellOnHomeMs) StopsInOrder (shutdownSysInit R) steps) :
    Throughout (shutdownStep dwellOnHomeMs) ShutDown (shutdownSysInit R) steps := by
  have hrun : Throughout (shutdownStep dwellOnHomeMs) SysInv (shutdownSysInit R) steps :=
    throughout_of_step (fun _ _ _ hi horder h => sysInv_step hi horder h) shutdownSysInit_inv horder
  exact hrun.mono fun _ hi => hi.shutDown

end System

-- Scan requests are numbers here, and everything that is asked for succeeds.

def allOk : HandlerEnv := ⟨⟨true, true, true⟩, true, true, true, true, true⟩

/-- An event that is queued and handled. -/
def queueAndHandle (evt : LoopEvt Nat) : List (ShutdownStep Nat) :=
  [.queueEvt evt false true, .dispatch allOk]

/-- `mmwlan_shutdown`, with its event handled, up to its end. -/
def shutdownCall (chip : List (LoopEvt Nat)) : List (ShutdownStep Nat) :=
  [.callShutdown true, .app true, .dispatch allOk] ++ chip.flatMap queueAndHandle
    ++ [.app true, .app true, .app true, .loopEnds, .app true]

/-- The device is booted, connected and scanning; the scan ends late. -/
theorem shutdown_is_down_scanning :
    Throughout (shutdownStep fun _ => 0) ShutDown (shutdownSysInit Nat)
      (.coreStart true :: [.boot, .connectionStart, .requestScan 1].flatMap queueAndHandle
        ++ shutdownCall [.hwScanDone .terminated]) :=
  shutdown_is_down _ _ (by decide)

/-- A shutdown while a scan is in progress and the device was not booted before; and one of an
access point. -/
theorem shutdown_leaves_scan :
    ¬ Throughout (shutdownStep fun _ => 0) ShutDown (shutdownSysInit Nat)
        (.coreStart true :: queueAndHandle (.requestScan 1) ++ shutdownCall [])
      ∧ ¬ Throughout (shutdownStep fun _ => 0) ShutDown (shutdownSysInit Nat)
        (.coreStart true :: queueAndHandle .apStart ++ shutdownCall []) := by
  constructor
  · intro h
    have hdown := h.of_runFrom rfl
    exact absurd (hdown.returned rfl).2.2 (by decide)
  · intro h
    have hdown := h.of_runFrom rfl
    exact absurd (hdown.returned rfl).2.2 (by decide)

end MmIotEsp32.Umac.Interface
