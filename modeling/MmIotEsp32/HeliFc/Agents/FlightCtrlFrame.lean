/-
  MmIotEsp32.HeliFc.Agents.FlightCtrlFrame

  What an iteration of the flight loop changes.

  The controllers at the end of a branch change their own state, the yaw setpoint and its
  flag (`Stabilized`); everything else that a mode does, it does before them or after them.
-/
import MmIotEsp32.HeliFc.Agents.FlightCtrlAgent

namespace MmIotEsp32.HeliFc

open Lib

variable {F D : Type*} [CFloat F] [CFloat D] [CFormats F D]

/-! ## The controllers -/

/-- `s'` is `s` after the altitude controller and `compute_stabilized_controls`. -/
def Stabilized (c : FlightCycle F) (s : FlightCtrl F D) (rcYaw : F) (s' : FlightCtrl F D) : Prop :=
  s' = { s with
    posCtrl := s'.posCtrl
    rateCtrl := s'.rateCtrl
    yawSp := stabilizedYaw D c s rcYaw
    yawSpInitialized := true }

variable {s s' : FlightCtrl F D} {act act' : ActuatorControls F} {c : FlightCycle F}

theorem computeStabilizedControls_frame {attSpRoll attSpPitch rcYaw : F}
    (h : computeStabilizedControls c s attSpRoll attSpPitch rcYaw act = some (s', act')) :
    Stabilized c s rcYaw s' ∧ s'.posCtrl = s.posCtrl
      ∧ act' = { act with roll := act'.roll, pitch := act'.pitch, yaw := act'.yaw } := by
  simp only [computeStabilizedControls, Option.map_eq_some_iff] at h
  obtain ⟨rateSp, -, heq⟩ := h
  cases heq
  exact ⟨rfl, rfl, rfl⟩

variable {altSp rcYaw : F}

theorem Stabilized.of_altitude
    (h : Stabilized c (altitudeControl s altSp).2 rcYaw s') : Stabilized c s rcYaw s' := h

theorem holdAt_frame {attSp : F × F} (h : holdAt c s altSp attSp rcYaw act = some (s', act')) :
    Stabilized c s rcYaw s' ∧ act'.landDetected = act.landDetected := by
  simp only [holdAt, Option.map_eq_some_iff] at h
  obtain ⟨⟨t, act₁⟩, hcompute, heq⟩ := h
  cases heq
  obtain ⟨hstabilized, -, hact⟩ := computeStabilizedControls_frame hcompute
  refine ⟨hstabilized.of_altitude, ?_⟩
  rw [hact]
  rfl

variable {m m' : MissionMgr}

theorem holdAt_only {attSp : F × F} (hact : act.landDetected = false)
    (h : ((holdAt c s altSp attSp rcYaw act).map fun t => (t, m)) = some ((s', act'), m')) :
    Stabilized c s rcYaw s' ∧ act'.landDetected = false ∧ m' = m := by
  obtain ⟨t, hhold, heq⟩ := Option.map_eq_some_iff.mp h
  cases heq
  obtain ⟨hstabilized, hflag⟩ := holdAt_frame hhold
  exact ⟨hstabilized, hflag.trans hact, rfl⟩

/-! ## The parts of an iteration -/

section

variable (passes : Nat) (s : FlightCtrl F D) (e : FlightInput F D)

/-- The locals of the iteration. -/
def cycleOf : FlightCycle F := flightCycle passes (flightRead s e) e (ctrlDtOf e.nowUs s.prevUs)

/-- The state in which the mode is looked at. -/
def readyState : FlightCtrl F D :=
  { flightRead s e with prevCollective := (cycleOf passes s e).rcColl }

/-- The controls before the mode has set any. -/
def blankControls : ActuatorControls F := { ActuatorControls.zero with timestampUs := e.nowUs }

end

omit [CFloat F] [CFloat D] [CFormats F D] in
theorem captureFlightHome_frame (s : FlightCtrl F D) :
    captureFlightHome s = { s with
      homeLat := (captureFlightHome s).homeLat
      homeLon := (captureFlightHome s).homeLon
      homeAlt := (captureFlightHome s).homeAlt
      homeSet := (captureFlightHome s).homeSet } := by
  unfold captureFlightHome
  split <;> rfl

omit [CFloat F] [CFloat D] [CFormats F D] in
theorem flightRead_frame (s : FlightCtrl F D) (e : FlightInput F D) :
    flightRead s e = { copyTopics s e with
      homeLat := (flightRead s e).homeLat
      homeLon := (flightRead s e).homeLon
      homeAlt := (flightRead s e).homeAlt
      homeSet := (flightRead s e).homeSet } :=
  captureFlightHome_frame (copyTopics s e)

/-- What the loop keeps for the modes from one iteration to the next. -/
structure KeepsModes (s s' : FlightCtrl F D) : Prop where
  prevMode : s'.prevMode = s.prevMode
  yawSpInitialized : s'.yawSpInitialized = s.yawSpInitialized
  landLowAltStartMs : s'.landLowAltStartMs = s.landLowAltStartMs
  landDetected : s'.landDetected = s.landDetected
  missionWpSeq : s'.missionWpSeq = s.missionWpSeq

omit [CFloat F] [CFloat D] [CFormats F D] in
theorem flightRead_keepsModes (s : FlightCtrl F D) (e : FlightInput F D) :
    KeepsModes s (flightRead s e) := by
  rw [flightRead_frame]
  exact ⟨rfl, rfl, rfl, rfl, rfl⟩

variable {e : FlightInput F D} {passes : Nat} {s : FlightCtrl F D}

theorem flightIterate_disarmed (harm : (flightRead s e).status.armState ≠ .armed) :
    flightIterate passes s e = some (flightDisarmed (flightRead s e) e.nowUs, e.mission) := by
  simp only [flightIterate, if_pos harm]

theorem flightStep_disarmed
    (harm : (flightRead s e).status.armState ≠ .armed) (h : flightStep passes s e = some s') :
    s' = flightDisarmed (flightRead s e) e.nowUs := by
  simp only [flightStep, flightIterate_disarmed harm, Option.map_some, Option.some.injEq] at h
  exact h.symm

theorem flightIterate_armed
    (harm : (flightRead s e).status.armState = .armed) : flightIterate passes s e =
      (flightModeControls (cycleOf passes s e) (readyState passes s e) e.mission
          (blankControls e)).map fun t =>
        ({ t.1.1 with prevMode := (flightRead s e).status.flightMode, act := t.1.2 }, t.2) := by
  simp only [flightIterate, ne_eq, harm, not_true_eq_false, if_false]
  rfl

theorem flightStep_armed
    (harm : (flightRead s e).status.armState = .armed) (h : flightStep passes s e = some s') :
    ∃ t act m, flightModeControls (cycleOf passes s e) (readyState passes s e) e.mission
        (blankControls e) = some ((t, act), m)
      ∧ s' = { t with prevMode := (flightRead s e).status.flightMode, act := act } := by
  simp only [flightStep, flightIterate_armed harm, Option.map_map, Option.map_eq_some_iff] at h
  obtain ⟨⟨⟨t, act⟩, m⟩, hmode, rfl⟩ := h
  exact ⟨t, act, m, hmode, rfl⟩

/-! ## The modes -/

/-- `FLIGHT_MODE_RTH` when it falls back. -/
def rthHold (s : FlightCtrl F D) : FlightCtrl F D :=
  if s.Enters .rth then { s.resetPos with altHoldSp := s.pos.alt } else s

/-- `FLIGHT_MODE_RTH` when it navigates, before its state machine. -/
def rthStart (s : FlightCtrl F D) : FlightCtrl F D :=
  if s.Enters .rth then { s.resetPos with rthPhase := .climb } else s

/-- `FLIGHT_MODE_MISSION` when it falls back. -/
def missionHold (s : FlightCtrl F D) : FlightCtrl F D :=
  if s.Enters .mission then captureLoiter s else s

/-- `FLIGHT_MODE_MISSION` when it navigates, before it looks for the waypoint. -/
def missionEntered (s : FlightCtrl F D) (m : MissionMgr) : FlightCtrl F D :=
  if s.Enters .mission then missionStart s m else s

/-- What a mode has done to the state when the controllers are through: its setpoints before
them, and in two modes something after them. -/
inductive ModeMove (c : FlightCycle F) (s : FlightCtrl F D) (m : MissionMgr) :
    FlightMode → FlightCtrl F D → Bool → MissionMgr → Prop where
  | manual : ModeMove c s m .manual s false m
  | acro {rateCtrl : RateController F} :
      ModeMove c s m .acro { s with rateCtrl := rateCtrl } false m
  | stabilize {s' : FlightCtrl F D} (hs : Stabilized c s c.rcYaw s') :
      ModeMove c s m .stabilize s' false m
  | altHold {s' : FlightCtrl F D} (hs : Stabilized c (altHoldSetpoint c s) c.rcYaw s') :
      ModeMove c s m .altHold s' false m
  | loiter {s' : FlightCtrl F D} (hs : Stabilized c (loiterSetpoint c s) c.rcYaw s') :
      ModeMove c s m .loiter s' false m
  | rthHolds {s' : FlightCtrl F D} (hback : s.rthFallsBack = true)
      (hs : Stabilized c (rthHold s) (lit 0) s') : ModeMove c s m .rth s' false m
  | rth {s' : FlightCtrl F D} (hback : s.rthFallsBack = false)
      (hs : Stabilized c (rthAdvance c (rthStart s)) (lit 0) s') : ModeMove c s m .rth s' false m
  | land {t : FlightCtrl F D} (hs : Stabilized c (landSetpoint c s) (lit 0) t) :
      ModeMove c s m .land (touchdownDetection t (nowMsOf c.nowUs)).1
        (touchdownDetection t (nowMsOf c.nowUs)).1.landDetected m
  | missionHolds {s' : FlightCtrl F D} (hback : s.missionFallsBack m = true)
      (hs : Stabilized c (missionHold s) (lit 0) s') : ModeMove c s m .mission s' false m
  | missionDone {s' : FlightCtrl F D} (hback : s.missionFallsBack m = false)
      (hdone : missionMgrIsComplete m = true)
      (hs : Stabilized c (missionEntered s m) (lit 0) s') : ModeMove c s m .mission s' false m
  | missionSkips {s' : FlightCtrl F D} (hback : s.missionFallsBack m = false)
      (hdone : missionMgrIsComplete m = false)
      (hitem : missionMgrGetItem m (missionEntered s m).missionWpSeq = none)
      (hs : Stabilized c { missionEntered s m with missionWpSeq := (missionMgrAdvance m).current }
        (lit 0) s') : ModeMove c s m .mission s' false (missionMgrAdvance m)
  | missionFlies {s' : FlightCtrl F D} {wp : MissionItem} (hback : s.missionFallsBack m = false)
      (hdone : missionMgrIsComplete m = false)
      (hitem : missionMgrGetItem m (missionEntered s m).missionWpSeq = some wp)
      (hs : Stabilized c { missionEntered s m with
        missionAltSp := rampAltitude c (missionEntered s m).missionAltSp (CFormats.ofBits D wp.z) }
        (lit 0) s')
      (hgoes : ¬ ((missionEntered s m).reached wp ∧ wp.autocontinue ≠ 0)) :
      ModeMove c s m .mission s' false m
  | missionNext {s' : FlightCtrl F D} {wp : MissionItem} (hback : s.missionFallsBack m = false)
      (hdone : missionMgrIsComplete m = false)
      (hitem : missionMgrGetItem m (missionEntered s m).missionWpSeq = some wp)
      (hs : Stabilized c { missionEntered s m with
        missionAltSp := rampAltitude c (missionEntered s m).missionAltSp (CFormats.ofBits D wp.z) }
        (lit 0) s')
      (hgoes : (missionEntered s m).reached wp ∧ wp.autocontinue ≠ 0) :
      ModeMove c s m .mission { s' with missionWpSeq := (missionMgrAdvance m).current } false
        (missionMgrAdvance m)

theorem flightLand_eq_some (h : flightLand c s act = some (s', act')) :
    ∃ t act₁, Stabilized c (landSetpoint c s) (lit 0) t
      ∧ s' = (touchdownDetection t (nowMsOf c.nowUs)).1
      ∧ act' = landControls act₁ (touchdownDetection t (nowMsOf c.nowUs)).2 s'.landDetected
        (altitudeControl (landSetpoint c s) (landSetpoint c s).altHoldSp).1
      ∧ act₁ = { act with roll := act₁.roll, pitch := act₁.pitch, yaw := act₁.yaw } := by
  simp only [flightLand, Option.map_eq_some_iff] at h
  obtain ⟨⟨t, act₁⟩, hcompute, heq⟩ := h
  cases heq
  obtain ⟨hstabilized, -, hact⟩ := computeStabilizedControls_frame hcompute
  exact ⟨t, act₁, hstabilized.of_altitude, rfl, rfl, hact⟩

theorem landControls_landDetected (act : ActuatorControls F) (touchdown landDetected : Bool)
    (collectiveOut : F) :
    (landControls act touchdown landDetected collectiveOut).landDetected = landDetected := by
  unfold landControls
  split <;> split <;> rfl

theorem flightModeControls_move
    (hact : act.landDetected = false) (h : flightModeControls c s m act = some ((s', act'), m')) :
    ModeMove c s m s.status.flightMode s' act'.landDetected m' := by
  unfold flightModeControls at h
  cases hmode : s.status.flightMode with
  | manual =>
    simp only [hmode, flightManual, Option.some.injEq, Prod.mk.injEq] at h
    obtain ⟨⟨rfl, rfl⟩, rfl⟩ := h
    show ModeMove c s m .manual s act.landDetected m
    rw [hact]
    exact .manual
  | acro =>
    simp only [hmode, flightAcro, Option.some.injEq, Prod.mk.injEq] at h
    obtain ⟨⟨rfl, rfl⟩, rfl⟩ := h
    show ModeMove c s m .acro _ act.landDetected m
    rw [hact]
    exact .acro
  | stabilize =>
    simp only [hmode, flightStabilize, Option.map_map, Option.map_eq_some_iff] at h
    obtain ⟨⟨t, act₁⟩, hcompute, heq⟩ := h
    simp only [Function.comp_apply, Prod.mk.injEq] at heq
    obtain ⟨⟨rfl, rfl⟩, rfl⟩ := heq
    obtain ⟨hstabilized, -, hact₁⟩ := computeStabilizedControls_frame hcompute
    have hflag : (stickCollective c t act₁).landDetected = false := by
      show act₁.landDetected = false
      rw [hact₁]
      exact hact
    rw [show (stickCollective c s act₁).landDetected = false from hflag]
    exact .stabilize hstabilized
  | altHold =>
    rw [hmode] at h
    obtain ⟨hstabilized, hflag, rfl⟩ := holdAt_only hact h
    rw [hflag]
    exact .altHold hstabilized
  | loiter =>
    rw [hmode] at h
    obtain ⟨hstabilized, hflag, rfl⟩ := holdAt_only hact h
    rw [hflag]
    exact .loiter hstabilized
  | rth =>
    simp only [hmode, flightRth] at h
    split at h
    · next hback =>
        obtain ⟨hstabilized, hflag, rfl⟩ := holdAt_only hact h
        rw [hflag]
        exact .rthHolds hback hstabilized
    next hback =>
      obtain ⟨hstabilized, hflag, rfl⟩ := holdAt_only hact h
      rw [hflag]
      exact .rth (Bool.eq_false_of_not_eq_true hback) hstabilized
  | land =>
    simp only [hmode, Option.map_eq_some_iff] at h
    obtain ⟨⟨t, act₁⟩, hland, heq⟩ := h
    simp only [Prod.mk.injEq] at heq
    obtain ⟨⟨rfl, rfl⟩, rfl⟩ := heq
    obtain ⟨t', act₂, hstabilized, rfl, rfl, -⟩ := flightLand_eq_some hland
    rw [landControls_landDetected]
    exact .land hstabilized
  | mission =>
    simp only [hmode, flightMission] at h
    split at h
    · next hback =>
        obtain ⟨hstabilized, hflag, rfl⟩ := holdAt_only hact h
        rw [hflag]
        exact .missionHolds hback hstabilized
    next hback =>
      have hback := Bool.eq_false_of_not_eq_true hback
      simp only [missionNavigate] at h
      split at h
      · next hdone =>
          obtain ⟨hstabilized, hflag, rfl⟩ := holdAt_only hact h
          rw [hflag]
          exact .missionDone hback hdone hstabilized
      next hdone =>
        have hdone := Bool.eq_false_of_not_eq_true hdone
        split at h
        · next hitem =>
            obtain ⟨hstabilized, hflag, rfl⟩ := holdAt_only hact h
            rw [hflag]
            exact .missionSkips hback hdone hitem hstabilized
        next wp hitem =>
          simp only [Option.map_eq_some_iff] at h
          obtain ⟨⟨t, act₁⟩, hhold, heq⟩ := h
          obtain ⟨hstabilized, hflag⟩ := holdAt_frame hhold
          by_cases hgoes : (missionEntered s m).reached wp ∧ wp.autocontinue ≠ 0
          · have heq := (if_pos hgoes).symm.trans heq
            simp only [Prod.mk.injEq] at heq
            obtain ⟨⟨rfl, rfl⟩, rfl⟩ := heq
            rw [hflag, hact]
            exact .missionNext hback hdone hitem hstabilized hgoes
          have heq := (if_neg hgoes).symm.trans heq
          simp only [Prod.mk.injEq] at heq
          obtain ⟨⟨rfl, rfl⟩, rfl⟩ := heq
          rw [hflag, hact]
          exact .missionFlies hback hdone hitem hstabilized hgoes

/-! ## What the setpoints change -/

section

variable (c : FlightCycle F) (s : FlightCtrl F D)

omit [CFloat D] [CFormats F D] in
theorem altHoldSetpoint_frame : altHoldSetpoint c s = { s with
    posCtrl := (altHoldSetpoint c s).posCtrl
    altHoldSp := (altHoldSetpoint c s).altHoldSp } := by
  unfold altHoldSetpoint
  split <;> rfl

omit [CFloat D] [CFormats F D] in
theorem loiterSetpoint_frame : loiterSetpoint c s = { s with
    posCtrl := (loiterSetpoint c s).posCtrl
    altHoldSp := (loiterSetpoint c s).altHoldSp
    loiterLat := (loiterSetpoint c s).loiterLat
    loiterLon := (loiterSetpoint c s).loiterLon } := by
  unfold loiterSetpoint
  split <;> rfl

omit [CFloat D] [CFormats F D] in
theorem rthHold_frame : rthHold s = { s with
    posCtrl := (rthHold s).posCtrl
    altHoldSp := (rthHold s).altHoldSp } := by
  unfold rthHold
  split <;> rfl

omit [CFloat D] [CFormats F D] in
theorem rthStart_frame : rthStart s = { s with
    posCtrl := (rthStart s).posCtrl
    rthPhase := (rthStart s).rthPhase } := by
  unfold rthStart
  split <;> rfl

theorem rthAdvance_frame : rthAdvance c s = { s with
    altHoldSp := (rthAdvance c s).altHoldSp
    rthPhase := (rthAdvance c s).rthPhase } := by
  unfold rthAdvance
  split
  · dsimp only
    split <;> rfl
  · dsimp only
    split <;> rfl
  · dsimp only
    split <;> rfl
  · rfl

omit [CFloat D] [CFormats F D] in
theorem landSetpoint_frame : landSetpoint c s = { s with
    posCtrl := (landSetpoint c s).posCtrl
    altHoldSp := (landSetpoint c s).altHoldSp
    landLowAltStartMs := (landSetpoint c s).landLowAltStartMs
    landDetected := (landSetpoint c s).landDetected } := by
  unfold landSetpoint
  split <;> rfl

omit [CFloat D] [CFormats F D] in
theorem touchdownDetection_frame (nowMs : U32) : (touchdownDetection s nowMs).1 = { s with
    landLowAltStartMs := (touchdownDetection s nowMs).1.landLowAltStartMs
    landDetected := (touchdownDetection s nowMs).1.landDetected } := by
  unfold touchdownDetection
  split
  · dsimp only
    split <;> split <;> rfl
  · rfl

/-- The stamp of the detection while the altitude is low. -/
def lowSince (nowMs : U32) : U32 :=
  if s.landLowAltStartMs = 0 then nowMs else s.landLowAltStartMs

omit [CFloat D] [CFormats F D] in
theorem touchdownDetection_low {nowMs : U32} (h : s.low = true) :
    touchdownDetection s nowMs =
      if landDetectTimeMs < (nowMs - lowSince s nowMs).toNat then
        ({ s with landLowAltStartMs := lowSince s nowMs, landDetected := true }, true)
      else ({ s with landLowAltStartMs := lowSince s nowMs }, false) := by
  unfold touchdownDetection lowSince
  rw [if_pos h]
  by_cases hzero : s.landLowAltStartMs = 0
  · simp only [if_pos hzero]
  · simp only [if_neg hzero]

omit [CFloat D] [CFormats F D] in
theorem touchdownDetection_high {nowMs : U32} (h : s.low = false) :
    touchdownDetection s nowMs = ({ s with landLowAltStartMs := 0 }, false) := by
  unfold touchdownDetection
  rw [if_neg (by rw [h]; decide)]

omit [CFloat D] [CFormats F D] in
theorem missionHold_frame : missionHold s = { s with
    posCtrl := (missionHold s).posCtrl
    altHoldSp := (missionHold s).altHoldSp
    loiterLat := (missionHold s).loiterLat
    loiterLon := (missionHold s).loiterLon } := by
  unfold missionHold
  split <;> rfl

theorem missionEntered_frame (m : MissionMgr) : missionEntered s m = { s with
    posCtrl := (missionEntered s m).posCtrl
    missionWpSeq := (missionEntered s m).missionWpSeq
    missionAltSp := (missionEntered s m).missionAltSp } := by
  unfold missionEntered
  split <;> rfl

end

/-- What the sensors and the other tasks have told stays. -/
structure KeepsReadings (s s' : FlightCtrl F D) : Prop where
  att : s'.att = s.att
  pos : s'.pos = s.pos
  status : s'.status = s.status
  gps : s'.gps = s.gps
  homeLat : s'.homeLat = s.homeLat
  homeLon : s'.homeLon = s.homeLon
  homeSet : s'.homeSet = s.homeSet

theorem ModeMove.keepsReadings
    {mode : FlightMode} {flag : Bool} (h : ModeMove c s m mode s' flag m') : KeepsReadings s s' := by
  cases h with
  | manual | acro => exact ⟨rfl, rfl, rfl, rfl, rfl, rfl, rfl⟩
  | stabilize hs => constructor <;> rw [hs]
  | altHold hs => constructor <;> rw [hs, altHoldSetpoint_frame]
  | loiter hs => constructor <;> rw [hs, loiterSetpoint_frame]
  | rthHolds _ hs => constructor <;> rw [hs, rthHold_frame]
  | rth _ hs => constructor <;> rw [hs, rthAdvance_frame, rthStart_frame]
  | land hs => constructor <;> rw [touchdownDetection_frame, hs, landSetpoint_frame]
  | missionHolds _ hs => constructor <;> rw [hs, missionHold_frame]
  | missionDone _ _ hs | missionSkips _ _ _ hs | missionFlies _ _ _ hs =>
    constructor <;> rw [hs, missionEntered_frame]
  | missionNext _ _ _ hs =>
    constructor <;> dsimp only <;> rw [hs, missionEntered_frame]

/-! ## The step -/

theorem flightIterate_move
    {r : FlightCtrl F D × MissionMgr} (harm : (flightRead s e).status.armState = .armed)
    (h : flightIterate passes s e = some r) :
    ∃ t act, ModeMove (cycleOf passes s e) (readyState passes s e) e.mission
        (flightRead s e).status.flightMode t act.landDetected r.2
      ∧ r.1 = { t with prevMode := (flightRead s e).status.flightMode, act := act } := by
  simp only [flightIterate_armed harm, Option.map_eq_some_iff] at h
  obtain ⟨⟨⟨t, act⟩, m⟩, hmode, rfl⟩ := h
  exact ⟨t, act, flightModeControls_move rfl hmode, rfl⟩

theorem flightStep_move
    (harm : (flightRead s e).status.armState = .armed) (h : flightStep passes s e = some s') :
    ∃ t act m, ModeMove (cycleOf passes s e) (readyState passes s e) e.mission
        (flightRead s e).status.flightMode t act.landDetected m
      ∧ s' = { t with prevMode := (flightRead s e).status.flightMode, act := act } := by
  obtain ⟨r, hiterate, rfl⟩ := Option.map_eq_some_iff.mp h
  obtain ⟨t, act, hmove, heq⟩ := flightIterate_move harm hiterate
  exact ⟨t, act, r.2, hmove, heq⟩

theorem flightStep_readings
    (h : flightStep passes s e = some s') : KeepsReadings (flightRead s e) s' := by
  by_cases harm : (flightRead s e).status.armState = .armed
  · obtain ⟨t, act, m, hmove, rfl⟩ := flightStep_move harm h
    obtain ⟨hatt, hpos, hstatus, hgps, hlat, hlon, hset⟩ := hmove.keepsReadings
    exact ⟨hatt, hpos, hstatus, hgps, hlat, hlon, hset⟩
  · rw [flightStep_disarmed harm h]
    exact ⟨rfl, rfl, rfl, rfl, rfl, rfl, rfl⟩

/-- What the loop keeps between two iterations. -/
structure FlightOk (s : FlightCtrl F D) : Prop where
  prevMode : s.prevMode = s.status.flightMode
  yaw : s.status.armState ≠ .armed → s.yawSpInitialized = false

omit [CFormats F D] in
theorem flightCtrlInit_ok (params : Params F) (nowUs : U64) :
    FlightOk (flightCtrlInit params nowUs : FlightCtrl F D) := ⟨rfl, fun _ => rfl⟩

theorem flightStep_ok (h : flightStep passes s e = some s') : FlightOk s' := by
  by_cases harm : (flightRead s e).status.armState = .armed
  · have hstatus := (flightStep_readings h).status
    obtain ⟨t, act, m, hmove, rfl⟩ := flightStep_move harm h
    refine ⟨(congrArg VehicleStatus.flightMode hstatus).symm, fun hnot => absurd ?_ hnot⟩
    rw [hstatus]
    exact harm
  · rw [flightStep_disarmed harm h]
    exact ⟨rfl, fun _ => rfl⟩

end MmIotEsp32.HeliFc
