/-
  MmIotEsp32.HeliFc.Agents.AutonomousPhases

  What the return to home and the mission start from.
-/
import MmIotEsp32.HeliFc.Agents.FlightCtrlFrame

namespace MmIotEsp32.HeliFc

open Lib

variable {F D : Type*} [CFloat F] [CFloat D] [CFormats F D]

/-! ## Stretches of a mode -/

/-- The iteration takes the navigating branch of the mode that it finds. -/
def Navigates (s : FlightCtrl F D) (e : FlightInput F D) : Bool :=
  decide ((flightRead s e).status.armState = .armed)
    && match (flightRead s e).status.flightMode with
      | .rth => !(flightRead s e).rthFallsBack
      | .mission => !(flightRead s e).missionFallsBack e.mission
      | _ => false

/-- The branch initializes what it uses. -/
def Initializes (s : FlightCtrl F D) (e : FlightInput F D) : Bool :=
  Navigates s e && decide ((flightRead s e).Enters (flightRead s e).status.flightMode)

/-- The vehicle was armed and in the same mode in the last iteration. -/
def StaysIn (s : FlightCtrl F D) (e : FlightInput F D) : Bool :=
  decide ((flightRead s e).status.armState = .armed) && decide (s.status.armState = .armed)
    && decide (s.status.flightMode = (flightRead s e).status.flightMode)

/-- The loop with two notes about the mode it is in, made since the mode was entered. -/
structure PhaseRun (F D : Type*) where
  ctrl : FlightCtrl F D
  /-- The phase, or the waypoint and the altitude, have been initialized. -/
  initialized : Bool
  /-- The first iteration navigated, and the one before it was in another mode. -/
  begunAfresh : Bool

def phaseInit (params : Params F) (nowUs : U64) : PhaseRun F D :=
  ⟨flightCtrlInit params nowUs, false, false⟩

/-- The notes after an iteration. -/
def initializedAfter (g : PhaseRun F D) (e : FlightInput F D) : Bool :=
  Initializes g.ctrl e || (StaysIn g.ctrl e && g.initialized)

def begunAfreshAfter (g : PhaseRun F D) (e : FlightInput F D) : Bool :=
  if StaysIn g.ctrl e then g.begunAfresh
  else Navigates g.ctrl e
    && decide (g.ctrl.status.flightMode ≠ (flightRead g.ctrl e).status.flightMode)

def phaseStep (passes : Nat) (g : PhaseRun F D) (e : FlightInput F D) : Option (PhaseRun F D) :=
  (flightStep passes g.ctrl e).map fun ctrl =>
    ⟨ctrl, initializedAfter g e, begunAfreshAfter g e⟩

/-- What the navigating branch uses was initialized since the mode was entered. -/
def StartsFresh (g : PhaseRun F D) (e : FlightInput F D) : Prop :=
  Navigates g.ctrl e = true → initializedAfter g e = true

/-- The navigating branch is taken only where the stretch began with it, in an iteration that
followed one in another mode. -/
def BegunNavigating (g : PhaseRun F D) (e : FlightInput F D) : Prop :=
  Navigates g.ctrl e = true → begunAfreshAfter g e = true

/-! ## What initializing means -/

section

omit [CFloat D] [CFormats F D]

end

/-! ## The two notes agree -/

/-- The invariant of the loop, and the notes. -/
structure PhaseOk (g : PhaseRun F D) : Prop where
  ctrl : FlightOk g.ctrl
  notes : g.initialized = g.begunAfresh

omit [CFloat F] [CFloat D] [CFormats F D] in
theorem initializedAfter_eq {g : PhaseRun F D} {e : FlightInput F D} (hok : PhaseOk g) :
    initializedAfter g e = begunAfreshAfter g e := by
  have henters : decide ((flightRead g.ctrl e).Enters (flightRead g.ctrl e).status.flightMode)
      = decide (g.ctrl.status.flightMode ≠ (flightRead g.ctrl e).status.flightMode) := by
    refine decide_eq_decide.mpr ?_
    unfold FlightCtrl.Enters
    rw [(flightRead_keepsModes g.ctrl e).prevMode, hok.ctrl.prevMode]
  unfold initializedAfter begunAfreshAfter Initializes
  rw [henters, hok.notes]
  cases hstays : StaysIn g.ctrl e with
  | true =>
    have hsame : g.ctrl.status.flightMode = (flightRead g.ctrl e).status.flightMode := by
      simp only [StaysIn, Bool.and_eq_true, decide_eq_true_eq] at hstays
      exact hstays.2
    simp [hsame]
  | false => simp

theorem phaseStep_ok {passes : Nat} {g g' : PhaseRun F D} {e : FlightInput F D} (hok : PhaseOk g)
    (h : phaseStep passes g e = some g') : PhaseOk g' := by
  obtain ⟨ctrl, hstep, rfl⟩ := Option.map_eq_some_iff.mp h
  exact ⟨flightStep_ok hstep, initializedAfter_eq hok⟩

/-- An iteration that hears of the vehicle's status and of the GPS. -/
def heardGps (nowUs : U64) (armState : ArmState) (mode : FlightMode) (fixType : U8) :
    FlightInput ℚ ℚ where
  nowUs := nowUs
  params := paramInit fun _ => none
  mission := missionMgrInit
  att := none
  pos := none
  rc := none
  status := some { VehicleStatus.zero with armState := armState, flightMode := mode }
  gps := some ⟨nowUs, 47, 8, 400, fixType, 8⟩
  arspd := none

end MmIotEsp32.HeliFc
