/-
  MmIotEsp32.HeliFc.Agents.Setpoints

  The setpoints that a mode captures when it is entered.
-/
import MmIotEsp32.HeliFc.Agents.FlightCtrlFrame

namespace MmIotEsp32.HeliFc

open Lib

variable {F D : Type*} [CFloat F] [CFloat D] [CFormats F D]

/-! ## What is captured -/

/-- The modes that go through `compute_stabilized_controls`. -/
def FlightMode.stabilized : FlightMode → Bool
  | .manual => false
  | .acro => false
  | _ => true

/-- The yaw stick as a stabilized mode passes it on. -/
def yawStick (c : FlightCycle F) : FlightMode → F
  | .stabilize => c.rcYaw
  | .altHold => c.rcYaw
  | .loiter => c.rcYaw
  | _ => lit 0

/-- The modes that hold an altitude which they capture on entry. -/
def FlightMode.captures : FlightMode → Bool
  | .altHold => true
  | .loiter => true
  | .land => true
  | _ => false

/-- The state with what the mode captures taken from another state. -/
def FlightCtrl.withSetpoints (s old : FlightCtrl F D) : FlightMode → FlightCtrl F D
  | .altHold => { s with altHoldSp := old.altHoldSp }
  | .loiter =>
    { s with
      altHoldSp := old.altHoldSp, loiterLat := old.loiterLat, loiterLon := old.loiterLon }
  | .land =>
    { s with
      altHoldSp := old.altHoldSp
      landLowAltStartMs := old.landLowAltStartMs
      landDetected := old.landDetected }
  | _ => s

/-- The first armed iteration in the mode after being disarmed or in another mode. -/
def FirstIn (s : FlightCtrl F D) (e : FlightInput F D) (mode : FlightMode) : Prop :=
  (flightRead s e).status.armState = .armed ∧ (flightRead s e).status.flightMode = mode
    ∧ ¬ (s.status.armState = .armed ∧ s.status.flightMode = mode)

instance (s : FlightCtrl F D) (e : FlightInput F D) (mode : FlightMode) :
    Decidable (FirstIn s e mode) :=
  inferInstanceAs (Decidable (_ ∧ _ ∧ ¬ _))

/-- The first stabilized iteration after `MANUAL`, `ACRO` or being disarmed. -/
def FirstStabilized (s : FlightCtrl F D) (e : FlightInput F D) : Prop :=
  (flightRead s e).status.armState = .armed
    ∧ (flightRead s e).status.flightMode.stabilized = true
    ∧ (s.status.armState ≠ .armed ∨ s.status.flightMode.stabilized = false)

/-- The setpoints after a first iteration. -/
structure SetpointsCaptured (passes : Nat) (s : FlightCtrl F D) (e : FlightInput F D)
    (s' : FlightCtrl F D) : Prop where
  /-- What was there before has no influence on the iteration. -/
  fresh : ∀ mode, FirstIn s e mode → ∀ old,
    flightStep passes (s.withSetpoints old mode) e = flightStep passes s e
  altHold : FirstIn s e .altHold → s'.altHoldSp = stickAltitude (cycleOf passes s e) s'.pos.alt
  loiter : FirstIn s e .loiter →
    s'.altHoldSp = stickAltitude (cycleOf passes s e) s'.pos.alt
      ∧ s'.loiterLat = s'.gps.latitude ∧ s'.loiterLon = s'.gps.longitude
  land : FirstIn s e .land →
    s'.altHoldSp = s'.pos.alt - landDescent (cycleOf passes s e)
      ∧ s'.landLowAltStartMs = (if s'.low then nowMsOf e.nowUs else 0)
      ∧ s'.landDetected = false
  yaw : FirstStabilized s e →
    s'.yawSp = s'.att.yaw + yawStick (cycleOf passes s e) s'.status.flightMode
      * degToRad D (paramGet e.params .maxYawRateDeg) * ctrlDtOf e.nowUs s.prevUs

def CapturesSetpoints (passes : Nat) (s : FlightCtrl F D) (e : FlightInput F D) : Prop :=
  ∀ s', flightStep passes s e = some s' → SetpointsCaptured passes s e s'

/-- An arming in one of the modes finds another mode before it; and a vehicle that comes back
from `MANUAL` or `ACRO` has not been stabilized since it was armed. -/
def FreshEntry (s : FlightCtrl F D) (e : FlightInput F D) : Prop :=
  (flightRead s e).status.armState = .armed →
    ((flightRead s e).status.flightMode.captures = true → s.status.armState ≠ .armed →
      s.status.flightMode ≠ (flightRead s e).status.flightMode)
    ∧ ((flightRead s e).status.flightMode.stabilized = true → s.status.armState = .armed →
      s.status.flightMode.stabilized = false → s.yawSpInitialized = false)

instance (s : FlightCtrl F D) (e : FlightInput F D) : Decidable (FreshEntry s e) :=
  inferInstanceAs (Decidable (_ → _ ∧ _))

/-! ## An entry captures -/

section

variable {c : FlightCycle F} {s : FlightCtrl F D}

omit [CFloat D] [CFormats F D]

theorem altHoldSetpoint_enters (h : s.Enters .altHold) :
    altHoldSetpoint c s = { s.resetPos with altHoldSp := stickAltitude c s.pos.alt } := by
  unfold altHoldSetpoint
  rw [if_pos h]

theorem loiterSetpoint_enters (h : s.Enters .loiter) :
    loiterSetpoint c s = { captureLoiter s with altHoldSp := stickAltitude c s.pos.alt } := by
  unfold loiterSetpoint
  rw [if_pos h]
  rfl

theorem landSetpoint_enters (h : s.Enters .land) :
    landSetpoint c s = { s.resetPos with
      altHoldSp := s.pos.alt - landDescent c, landDetected := false, landLowAltStartMs := 0 } := by
  unfold landSetpoint
  rw [if_pos h]

end

omit [CFloat D] [CFormats F D] in
theorem touchdownDetection_start {s : FlightCtrl F D} {nowMs : U32}
    (hstart : s.landLowAltStartMs = 0) (hdetected : s.landDetected = false) :
    (touchdownDetection s nowMs).1.landLowAltStartMs = (if s.low then nowMs else 0)
      ∧ (touchdownDetection s nowMs).1.landDetected = false := by
  cases hlow : s.low with
  | true =>
    have hsince : lowSince s nowMs = nowMs := if_pos hstart
    have hzero : ¬ landDetectTimeMs < (nowMs - nowMs).toNat := by simp [landDetectTimeMs]
    rw [touchdownDetection_low s hlow, hsince, if_neg hzero]
    exact ⟨rfl, hdetected⟩
  | false =>
    rw [touchdownDetection_high s hlow]
    exact ⟨rfl, hdetected⟩

theorem flightModeControls_withSetpoints {c : FlightCycle F} {s old : FlightCtrl F D}
    {m : MissionMgr} {act : ActuatorControls F} (henters : s.Enters s.status.flightMode) :
    flightModeControls c (s.withSetpoints old s.status.flightMode) m act
      = flightModeControls c s m act := by
  cases hmode : s.status.flightMode with
  | altHold =>
    rw [hmode] at henters
    have hentersOld : (s.withSetpoints old .altHold).Enters .altHold := henters
    have hsame : altHoldSetpoint c (s.withSetpoints old .altHold) = altHoldSetpoint c s := by
      rw [altHoldSetpoint_enters henters, altHoldSetpoint_enters hentersOld]
      rfl
    simp only [flightModeControls, FlightCtrl.withSetpoints, hmode, flightAltHold] at hsame ⊢
    rw [hsame]
  | loiter =>
    rw [hmode] at henters
    have hentersOld : (s.withSetpoints old .loiter).Enters .loiter := henters
    have hsame : loiterSetpoint c (s.withSetpoints old .loiter) = loiterSetpoint c s := by
      rw [loiterSetpoint_enters henters, loiterSetpoint_enters hentersOld]
      rfl
    simp only [flightModeControls, FlightCtrl.withSetpoints, hmode, flightLoiter] at hsame ⊢
    rw [hsame]
  | land =>
    rw [hmode] at henters
    have hentersOld : (s.withSetpoints old .land).Enters .land := henters
    have hsame : landSetpoint c (s.withSetpoints old .land) = landSetpoint c s := by
      rw [landSetpoint_enters henters, landSetpoint_enters hentersOld]
      rfl
    simp only [flightModeControls, FlightCtrl.withSetpoints, hmode, flightLand] at hsame ⊢
    rw [hsame]
  | manual | stabilize | rth | acro | mission => rfl

omit [CFloat F] [CFloat D] [CFormats F D] in
theorem flightRead_withSetpoints (s old : FlightCtrl F D) (e : FlightInput F D)
    (mode : FlightMode) :
    flightRead (s.withSetpoints old mode) e = (flightRead s e).withSetpoints old mode := by
  have hcopy : copyTopics (s.withSetpoints old mode) e
      = (copyTopics s e).withSetpoints old mode := by cases mode <;> rfl
  unfold flightRead
  rw [hcopy]
  cases mode <;>
    first
    | rfl
    | (unfold captureFlightHome FlightCtrl.withSetpoints
       dsimp only
       split <;> rfl)

theorem flightStep_withSetpoints {passes : Nat} {s old : FlightCtrl F D} {e : FlightInput F D}
    (harm : (flightRead s e).status.armState = .armed)
    (henters : s.Enters (flightRead s e).status.flightMode) :
    flightStep passes (s.withSetpoints old (flightRead s e).status.flightMode) e
      = flightStep passes s e := by
  generalize hmode : (flightRead s e).status.flightMode = mode at henters ⊢
  have hread := flightRead_withSetpoints s old e mode
  have hstatus : (flightRead (s.withSetpoints old mode) e).status = (flightRead s e).status := by
    rw [hread]
    cases mode <;> rfl
  have hcycle : cycleOf passes (s.withSetpoints old mode) e = cycleOf passes s e := by
    unfold cycleOf
    rw [hread]
    cases mode <;> rfl
  have hready : readyState passes (s.withSetpoints old mode) e
      = (readyState passes s e).withSetpoints old mode := by
    unfold readyState
    rw [hcycle, hread]
    cases mode <;> rfl
  have hmode' : (readyState passes s e).status.flightMode = mode := hmode
  have hprev : (readyState passes s e).prevMode = s.prevMode :=
    (flightRead_keepsModes s e).prevMode
  have hsame : flightModeControls (cycleOf passes s e)
      ((readyState passes s e).withSetpoints old mode) e.mission (blankControls e)
      = flightModeControls (cycleOf passes s e) (readyState passes s e) e.mission
        (blankControls e) := by
    rw [← hmode']
    refine flightModeControls_withSetpoints ?_
    rw [hmode']
    show (readyState passes s e).prevMode ≠ mode
    rw [hprev]
    exact henters
  unfold flightStep
  rw [flightIterate_armed (by rw [hstatus]; exact harm), flightIterate_armed harm, hcycle, hready,
    hsame, hstatus]

theorem ModeMove.yawSp {c : FlightCycle F} {s s' : FlightCtrl F D} {m m' : MissionMgr}
    {mode : FlightMode} {flag : Bool} (h : ModeMove c s m mode s' flag m')
    (hmode : mode.stabilized = true) : s'.yawSp = stabilizedYaw D c s (yawStick c mode) := by
  cases h with
  | manual | acro => cases hmode
  | stabilize hs => rw [hs]; rfl
  | altHold hs => rw [hs, altHoldSetpoint_frame]; rfl
  | loiter hs => rw [hs, loiterSetpoint_frame]; rfl
  | rthHolds _ hs => rw [hs, rthHold_frame]; rfl
  | rth _ hs => rw [hs, rthAdvance_frame, rthStart_frame]; rfl
  | land hs => rw [touchdownDetection_frame, hs, landSetpoint_frame]; rfl
  | missionHolds _ hs => rw [hs, missionHold_frame]; rfl
  | missionDone _ _ hs | missionSkips _ _ _ hs | missionFlies _ _ _ hs =>
    rw [hs, missionEntered_frame]; rfl
  | missionNext _ _ _ hs =>
    dsimp only
    rw [hs, missionEntered_frame]
    rfl

theorem capturesSetpoints_of_fresh {passes : Nat} {s : FlightCtrl F D} {e : FlightInput F D}
    (hok : FlightOk s) (hfresh : FreshEntry s e) : CapturesSetpoints passes s e := by
  intro s' h
  have hreadings := flightStep_readings h
  have hprev : (readyState passes s e).prevMode = s.prevMode :=
    (flightRead_keepsModes s e).prevMode
  -- a first iteration finds another mode in `prev_mode`
  have henters : ∀ mode, mode.captures = true → FirstIn s e mode → s.prevMode ≠ mode := by
    intro mode hcaptures ⟨harm, hmode, hfirst⟩ heq
    rw [hok.prevMode] at heq
    by_cases harmed : s.status.armState = .armed
    · exact hfirst ⟨harmed, heq⟩
    · refine (hfresh harm).1 ?_ harmed (heq.trans hmode.symm)
      rw [hmode]
      exact hcaptures
  have hmove : ∀ mode, FirstIn s e mode → ∃ t act flag m,
      ModeMove (cycleOf passes s e) (readyState passes s e) e.mission mode t flag m
        ∧ s' = { t with prevMode := mode, act := act } := by
    intro mode ⟨harm, hmode, _⟩
    obtain ⟨t, act, m, hmove, hs'⟩ := flightStep_move harm h
    rw [hmode] at hmove hs'
    exact ⟨t, act, act.landDetected, m, hmove, hs'⟩
  refine ⟨fun mode hfirst old => ?_, fun hfirst => ?_, fun hfirst => ?_, fun hfirst => ?_,
    fun ⟨harm, hstabilized, hbefore⟩ => ?_⟩
  · cases hcaptures : mode.captures with
    | false => cases mode <;> first | rfl | cases hcaptures
    | true =>
      have hne := henters mode hcaptures hfirst
      obtain ⟨harm, rfl, -⟩ := hfirst
      exact flightStep_withSetpoints harm hne
  · obtain ⟨t, act, flag, m, hmode, rfl⟩ := hmove .altHold hfirst
    have hne : (readyState passes s e).Enters .altHold := fun heq =>
      henters .altHold rfl hfirst (hprev.symm.trans heq)
    have hpos := hmode.keepsReadings.pos
    cases hmode with
    | altHold hs =>
      show t.altHoldSp = stickAltitude _ t.pos.alt
      rw [hpos, hs, altHoldSetpoint_enters hne]
  · obtain ⟨t, act, flag, m, hmode, rfl⟩ := hmove .loiter hfirst
    have hne : (readyState passes s e).Enters .loiter := fun heq =>
      henters .loiter rfl hfirst (hprev.symm.trans heq)
    have hpos := hmode.keepsReadings.pos
    have hgps := hmode.keepsReadings.gps
    cases hmode with
    | loiter hs =>
      show t.altHoldSp = stickAltitude _ t.pos.alt ∧ t.loiterLat = t.gps.latitude
        ∧ t.loiterLon = t.gps.longitude
      rw [hpos, hgps, hs, loiterSetpoint_enters hne]
      exact ⟨rfl, rfl, rfl⟩
  · obtain ⟨t, act, flag, m, hmode, rfl⟩ := hmove .land hfirst
    have hne : (readyState passes s e).Enters .land := fun heq =>
      henters .land rfl hfirst (hprev.symm.trans heq)
    have hpos := hmode.keepsReadings.pos
    cases hmode with
    | @land t hs =>
      have hstart : t.landLowAltStartMs = 0 := by rw [hs, landSetpoint_enters hne]
      have hdetected : t.landDetected = false := by rw [hs, landSetpoint_enters hne]
      have halt : t.altHoldSp
          = (readyState passes s e).pos.alt - landDescent (cycleOf passes s e) := by
        rw [hs, landSetpoint_enters hne]
      obtain ⟨hstamp, hflag⟩ := @touchdownDetection_start F D _ t
        (nowMsOf (cycleOf passes s e).nowUs) hstart hdetected
      generalize hd : (touchdownDetection t (nowMsOf (cycleOf passes s e).nowUs)).1 = d at *
      have hframe := touchdownDetection_frame t (nowMsOf (cycleOf passes s e).nowUs)
      rw [hd] at hframe
      refine ⟨?_, ?_, hflag⟩
      · show d.altHoldSp = d.pos.alt - _
        rw [hpos, hframe]
        exact halt
      show d.landLowAltStartMs = if d.low then _ else 0
      have hlow : d.low = t.low := by rw [hframe]; rfl
      rw [hlow]
      exact hstamp
  obtain ⟨t, act, m, hmode, rfl⟩ := flightStep_move harm h
  have hatt := hmode.keepsReadings.att
  have hcleared : (readyState passes s e).yawSpInitialized = false := by
    show (flightRead s e).yawSpInitialized = false
    rw [(flightRead_keepsModes s e).yawSpInitialized]
    by_cases harmed : s.status.armState = .armed
    · have hother := hbefore.resolve_left fun hnot => hnot harmed
      exact (hfresh harm).2 hstabilized harmed hother
    · exact hok.yaw harmed
  have hflown := hmode.yawSp hstabilized
  show t.yawSp = t.att.yaw
    + yawStick _ t.status.flightMode * degToRad D (paramGet e.params .maxYawRateDeg) * _
  rw [hflown, hatt, hmode.keepsReadings.status]
  unfold stabilizedYaw
  rw [if_neg (by rw [hcleared]; decide)]
  rfl

/-- In every run whose entries are seen, the setpoints are captured. -/
theorem setpoints_captured {passes : Nat} {params : Params F} {nowUs : U64}
    {events : List (FlightInput F D)}
    (h : Along (flightStep passes) FreshEntry (flightCtrlInit params nowUs) events) :
    Along (flightStep passes) (CapturesSetpoints passes) (flightCtrlInit params nowUs) events := by
  have hok : Throughout (flightStep passes) FlightOk
      (flightCtrlInit params nowUs : FlightCtrl F D) events :=
    throughout_of_invariant (fun _ _ _ _ hstep => flightStep_ok hstep)
      (flightCtrlInit_ok params nowUs) events
  have halong : Along (flightStep passes) (fun s _ => FlightOk s)
      (flightCtrlInit params nowUs : FlightCtrl F D) events := by
    refine Throughout.along_of ?_ hok
    intro s e hs
    exact hs
  exact (halong.and h).mono fun s e hboth => capturesSetpoints_of_fresh hboth.1 hboth.2

/-! ## Two flights -/

/-- An iteration that hears of the vehicle's status and of its altitude. -/
def heard (nowUs : U64) (armState : ArmState) (mode : FlightMode) (alt : ℚ) : FlightInput ℚ ℚ where
  nowUs := nowUs
  params := paramInit fun _ => none
  mission := missionMgrInit
  att := none
  pos := some ⟨alt, 0⟩
  rc := none
  status := some { VehicleStatus.zero with armState := armState, flightMode := mode }
  gps := none
  arspd := none

theorem setpoints_captured_in_flight :
    Along (flightStep 8) (CapturesSetpoints 8) (flightCtrlInit (paramInit fun _ => none) 0)
      [heard 2000 .disarmed .stabilize 5, heard 4000 .armed .altHold 5] :=
  setpoints_captured (by decide +kernel)

/-- Armed with `ALT_HOLD` selected, the vehicle is sent to an altitude of 0. -/
theorem preselected_mode_not_captured :
    ¬ ∀ events : List (FlightInput ℚ ℚ),
      Along (flightStep 8) (CapturesSetpoints 8) (flightCtrlInit (paramInit fun _ => none) 0)
        events := by
  intro h
  have hrun : (runFrom (flightStep 8) (flightCtrlInit (paramInit fun _ => none) 0)
      [heard 2000 .disarmed .altHold 5]).any (fun s =>
        decide (FirstIn s (heard 4000 .armed .altHold 5) .altHold)
          && (flightStep 8 s (heard 4000 .armed .altHold 5)).any fun s' =>
            !decide (s'.altHoldSp
              = stickAltitude (cycleOf 8 s (heard 4000 .armed .altHold 5)) s'.pos.alt)) = true := by
    decide +kernel
  obtain ⟨s, hs, hlast⟩ := (Option.any_eq_true _ _).mp hrun
  simp only [Bool.and_eq_true, decide_eq_true_eq] at hlast
  obtain ⟨s', hs', hother⟩ := (Option.any_eq_true _ _).mp hlast.2
  have hcaptures : CapturesSetpoints 8 s (heard 4000 .armed .altHold 5) :=
    (h ([heard 2000 .disarmed .altHold 5] ++ [heard 4000 .armed .altHold 5])).last hs
  rw [(hcaptures s' hs').altHold hlast.1] at hother
  simp at hother

end MmIotEsp32.HeliFc
