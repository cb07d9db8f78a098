/-
  MmIotEsp32.HeliFc.Agents.FlightCtrlAgent

  One iteration of the flight control loop (`agents/flight_ctrl_agent.c`).
-/
import MmIotEsp32.HeliFc.Agents.SysmonTask
import MmIotEsp32.HeliFc.Control.Controllers

namespace MmIotEsp32.HeliFc

open Lib

/-! ## The state of the loop -/

/-- The phases of the return to home. -/
inductive RthPhase where
  | climb
  | transit
  | descend
  | land
  deriving Repr, DecidableEq

/-- The locals of `flight_ctrl_task` that live from one iteration to the next, and what it has
published last. -/
structure FlightCtrl (F D : Type*) where
  attCtrl : AttitudeController F
  rateCtrl : RateController F
  posCtrl : PosController F
  att : VehicleAttitude F
  pos : VehicleLocalPosition F
  rc : RcChannels F
  status : VehicleStatus
  gps : GpsData F D
  arspd : Airspeed F
  altHoldSp : F
  yawSp : F
  yawSpInitialized : Bool
  prevMode : FlightMode
  homeLat : D
  homeLon : D
  homeAlt : F
  homeSet : Bool
  loiterLat : D
  loiterLon : D
  landLowAltStartMs : U32
  landDetected : Bool
  prevCollective : F
  rthPhase : RthPhase
  missionWpSeq : U16
  missionAltSp : F
  prevUs : U64
  act : ActuatorControls F

/-- What an iteration finds: the clock, the parameters, the mission, and in each copy the new
sample if there is one. -/
structure FlightInput (F D : Type*) where
  nowUs : U64
  params : Params F
  mission : MissionMgr
  att : Option (VehicleAttitude F)
  pos : Option (VehicleLocalPosition F)
  rc : Option (RcChannels F)
  status : Option VehicleStatus
  gps : Option (GpsData F D)
  arspd : Option (Airspeed F)

/-- The locals of an iteration; `passes` is what a loop of `wrap_pi` is given. -/
structure FlightCycle (F : Type*) where
  passes : Nat
  params : Params F
  nowUs : U64
  ctrlDt : F
  rcRoll : F
  rcPitch : F
  rcColl : F
  rcYaw : F

section

variable {F D : Type*} [CFloat F] [CFloat D] [CFormats F D]

def ctrlDtNominal : F := lit 0.002

/-- The task when its loop begins. -/
def flightCtrlInit (params : Params F) (nowUs : U64) : FlightCtrl F D where
  attCtrl := attitudeControlInit params
  rateCtrl := rateControlInit params ctrlDtNominal
  posCtrl := posControlInit params ctrlDtNominal
  att := .zero
  pos := .zero
  rc := .zero
  status := .zero
  gps := .zero
  arspd := .zero
  altHoldSp := lit 0
  yawSp := lit 0
  yawSpInitialized := false
  prevMode := .manual
  homeLat := lit 0
  homeLon := lit 0
  homeAlt := lit 0
  homeSet := false
  loiterLat := lit 0
  loiterLon := lit 0
  landLowAltStartMs := 0
  landDetected := false
  prevCollective := lit (-1)
  rthPhase := .climb
  missionWpSeq := 0
  missionAltSp := lit 0
  prevUs := nowUs
  act := .zero

/-! ## Helpers -/

def applyDeadzone (input dz : F) : F :=
  if CFloat.lt (CFloat.abs input) dz then lit 0
  else
    let sign : F := if CFloat.lt (lit 0) input then lit 1 else lit (-1)
    sign * (CFloat.abs input - dz) / (lit 1 - dz)

variable (D) in
/-- The yaw setpoint that `compute_stabilized_controls` makes. -/
def stabilizedYaw (c : FlightCycle F) (s : FlightCtrl F D) (rcYaw : F) : F :=
  (if s.yawSpInitialized then s.yawSp else s.att.yaw)
    + rcYaw * degToRad D (paramGet c.params .maxYawRateDeg) * c.ctrlDt

/-- The last element of `att_sp` is not read. -/
def computeStabilizedControls (c : FlightCycle F) (s : FlightCtrl F D)
    (attSpRoll attSpPitch rcYaw : F) (act : ActuatorControls F) :
    Option (FlightCtrl F D × ActuatorControls F) :=
  let s := { s with yawSp := stabilizedYaw D c s rcYaw, yawSpInitialized := true }
  (attitudeControlUpdate D c.passes s.attCtrl ⟨attSpRoll, attSpPitch, s.yawSp⟩
      ⟨s.att.roll, s.att.pitch, s.att.yaw⟩).map fun rateSp =>
    let r := rateControlUpdate s.rateCtrl rateSp
      ⟨s.att.rollspeed, s.att.pitchspeed, s.att.yawspeed⟩
    ({ s with rateCtrl := r.2 },
      { act with roll := r.1.roll, pitch := r.1.pitch, yaw := r.1.yaw })

/-- `gps_distance_ne`: north and east, in metres. -/
def gpsDistanceNe (lat1 lon1 lat2 lon2 : D) : F × F :=
  let latRad := lat1 * mPi / lit 180
  let mPerDegLat := lit 111132
  let mPerDegLon := lit 111132 * CFloat.cos latRad
  (CFormats.narrow ((lat2 - lat1) * mPerDegLat), CFormats.narrow ((lon2 - lon1) * mPerDegLon))

/-- The distance to a place, to the north and to the east. -/
def FlightCtrl.errorTo (s : FlightCtrl F D) (lat lon : D) : F × F :=
  gpsDistanceNe s.gps.latitude s.gps.longitude lat lon

def FlightCtrl.distanceTo (s : FlightCtrl F D) (lat lon : D) : F :=
  let e := s.errorTo lat lon
  CFloat.sqrt (e.1 * e.1 + e.2 * e.2)

def posKp : F := lit 0.5

variable (D) in
def posMaxAngle : F := degToRad D (lit 15)

/-- The attitude (roll, pitch) that leads to a place: its distance, turned into the body frame. -/
def FlightCtrl.steerTo (s : FlightCtrl F D) (lat lon : D) : F × F :=
  let e := s.errorTo lat lon
  let cosYaw := CFloat.cos s.att.yaw
  let sinYaw := CFloat.sin s.att.yaw
  let bodyFwd := cosYaw * e.1 + sinYaw * e.2
  let bodyRight := -sinYaw * e.1 + cosYaw * e.2
  (constrainF (bodyRight * posKp) (-posMaxAngle D) (posMaxAngle D),
    constrainF (-bodyFwd * posKp) (-posMaxAngle D) (posMaxAngle D))

/-- `gps.fix_type >= 3`. -/
def FlightCtrl.hasFix (s : FlightCtrl F D) : Bool := decide (3 ≤ s.gps.fixType.toNat)

/-- `prev_mode != mode`. -/
def FlightCtrl.Enters (s : FlightCtrl F D) (mode : FlightMode) : Prop := s.prevMode ≠ mode

instance (s : FlightCtrl F D) (mode : FlightMode) : Decidable (s.Enters mode) :=
  inferInstanceAs (Decidable (_ ≠ _))

/-- `pos_control_reset(&pos_ctrl)`. -/
def FlightCtrl.resetPos (s : FlightCtrl F D) : FlightCtrl F D :=
  { s with posCtrl := posControlReset s.posCtrl }

/-- `pos_control_update_altitude` with the estimate of the position. -/
def altitudeControl (s : FlightCtrl F D) (altSp : F) : F × FlightCtrl F D :=
  let r := posControlUpdateAltitude s.posCtrl altSp s.pos.alt s.pos.climbRate
  (r.1, { s with posCtrl := r.2 })

/-- The collective and the throttle, from the altitude controller. -/
def setCollective (act : ActuatorControls F) (collectiveOut : F) : ActuatorControls F :=
  { act with
    collective := constrainF collectiveOut (lit (-1)) (lit 1)
    throttle := constrainF ((collectiveOut + lit 1) * lit 0.5) (lit 0) (lit 1) }

/-- The collective and the throttle, from the stick. -/
def stickCollective (c : FlightCycle F) (s : FlightCtrl F D) (act : ActuatorControls F) :
    ActuatorControls F :=
  { act with
    collective := constrainF c.rcColl (lit (-1)) (lit 1)
    throttle := constrainF (s.rc.channels 2) (lit 0) (lit 1) }

/-- An altitude and an attitude are held. -/
def holdAt (c : FlightCycle F) (s : FlightCtrl F D) (altSp : F) (attSp : F × F) (rcYaw : F)
    (act : ActuatorControls F) : Option (FlightCtrl F D × ActuatorControls F) :=
  let r := altitudeControl s altSp
  (computeStabilizedControls c r.2 attSp.1 attSp.2 rcYaw act).map fun t =>
    (t.1, setCollective t.2 r.1)

/-- `att_sp = {0.0f, 0.0f, 0.0f}`. -/
def level : F × F := (lit 0, lit 0)

/-- The attitude that the sticks ask for. -/
def stickAttitude (c : FlightCycle F) : F × F :=
  (c.rcRoll * degToRad D (paramGet c.params .maxRollDeg),
    c.rcPitch * degToRad D (paramGet c.params .maxPitchDeg))

/-- The altitude setpoint follows the stick outside its dead zone. -/
def stickAltitude (c : FlightCycle F) (altHoldSp : F) : F :=
  if CFloat.lt (lit 0.1) (CFloat.abs c.rcColl) then
    altHoldSp + c.rcColl * paramGet c.params .maxClimbRate * c.ctrlDt
  else altHoldSp

/-- `LAND_DESCENT_RATE * ctrl_dt`. -/
def landDescent (c : FlightCycle F) : F := lit 0.5 * c.ctrlDt

/-! ## The modes -/

def flightManual (c : FlightCycle F) (s : FlightCtrl F D) (act : ActuatorControls F) :
    FlightCtrl F D × ActuatorControls F :=
  (s, stickCollective c s { act with
    roll := constrainF c.rcRoll (lit (-1)) (lit 1)
    pitch := constrainF c.rcPitch (lit (-1)) (lit 1)
    yaw := constrainF c.rcYaw (lit (-1)) (lit 1) })

def flightAcro (c : FlightCycle F) (s : FlightCtrl F D) (act : ActuatorControls F) :
    FlightCtrl F D × ActuatorControls F :=
  let r := rateControlUpdate s.rateCtrl
    ⟨c.rcRoll * degToRad D (paramGet c.params .maxRollRateDeg),
      c.rcPitch * degToRad D (paramGet c.params .maxPitchRateDeg),
      c.rcYaw * degToRad D (paramGet c.params .maxYawRateDeg)⟩
    ⟨s.att.rollspeed, s.att.pitchspeed, s.att.yawspeed⟩
  ({ s with rateCtrl := r.2 },
    stickCollective c s { act with roll := r.1.roll, pitch := r.1.pitch, yaw := r.1.yaw })

def flightStabilize (c : FlightCycle F) (s : FlightCtrl F D) (act : ActuatorControls F) :
    Option (FlightCtrl F D × ActuatorControls F) :=
  (computeStabilizedControls c s (stickAttitude (D := D) c).1 (stickAttitude (D := D) c).2
    c.rcYaw act).map fun t => (t.1, stickCollective c s t.2)

/-- The setpoint of `FLIGHT_MODE_ALT_HOLD`. -/
def altHoldSetpoint (c : FlightCycle F) (s : FlightCtrl F D) : FlightCtrl F D :=
  let s := if s.Enters .altHold then { s.resetPos with altHoldSp := s.pos.alt } else s
  { s with altHoldSp := stickAltitude c s.altHoldSp }

def flightAltHold (c : FlightCycle F) (s : FlightCtrl F D) (act : ActuatorControls F) :
    Option (FlightCtrl F D × ActuatorControls F) :=
  let s := altHoldSetpoint c s
  holdAt c s s.altHoldSp (stickAttitude (D := D) c) c.rcYaw act

/-- The position and the altitude are captured. -/
def captureLoiter (s : FlightCtrl F D) : FlightCtrl F D :=
  { s.resetPos with
    loiterLat := s.gps.latitude, loiterLon := s.gps.longitude, altHoldSp := s.pos.alt }

/-- The setpoints of `FLIGHT_MODE_LOITER`. -/
def loiterSetpoint (c : FlightCycle F) (s : FlightCtrl F D) : FlightCtrl F D :=
  let s := if s.Enters .loiter then captureLoiter s else s
  { s with altHoldSp := stickAltitude c s.altHoldSp }

/-- The attitude that holds the loiter position. -/
def loiterAttitude (s : FlightCtrl F D) : F × F :=
  if s.hasFix then s.steerTo s.loiterLat s.loiterLon else level

def flightLoiter (c : FlightCycle F) (s : FlightCtrl F D) (act : ActuatorControls F) :
    Option (FlightCtrl F D × ActuatorControls F) :=
  let s := loiterSetpoint c s
  let attSp := loiterAttitude s
  -- the sticks come on top
  holdAt c s s.altHoldSp
    (attSp.1 + c.rcRoll * degToRad D (lit 10), attSp.2 + c.rcPitch * degToRad D (lit 10))
    c.rcYaw act

/-- `RTH_ALTITUDE` above home. -/
def rthAltitude (s : FlightCtrl F D) : F := s.homeAlt + lit 20

/-- The state machine of the return to home. -/
def rthAdvance (c : FlightCycle F) (s : FlightCtrl F D) : FlightCtrl F D :=
  match s.rthPhase with
  | .climb =>
    let s := { s with altHoldSp := rthAltitude s }
    if CFloat.le (s.altHoldSp - lit 1) s.pos.alt then { s with rthPhase := .transit } else s
  | .transit =>
    let s := { s with altHoldSp := rthAltitude s }
    if CFloat.lt (s.distanceTo s.homeLat s.homeLon) (lit 5) then { s with rthPhase := .descend }
    else s
  | .descend =>
    let s := { s with altHoldSp := s.altHoldSp - landDescent c }
    if CFloat.lt s.pos.alt (s.homeAlt + lit 2) then { s with rthPhase := .land } else s
  | .land => { s with altHoldSp := s.altHoldSp - landDescent c }

/-- `FLIGHT_MODE_RTH` without a home position or without a fix. -/
def FlightCtrl.rthFallsBack (s : FlightCtrl F D) : Bool := !s.homeSet || !s.hasFix

/-- The attitude in `FLIGHT_MODE_RTH`: it navigates on the way and while it descends. -/
def rthAttitude (s : FlightCtrl F D) : F × F :=
  if s.rthPhase = .transit ∨ s.rthPhase = .descend then s.steerTo s.homeLat s.homeLon else level

def flightRth (c : FlightCycle F) (s : FlightCtrl F D) (act : ActuatorControls F) :
    Option (FlightCtrl F D × ActuatorControls F) :=
  if s.rthFallsBack then
    let s := if s.Enters .rth then { s.resetPos with altHoldSp := s.pos.alt } else s
    holdAt c s s.altHoldSp level (lit 0) act
  else
    let s := if s.Enters .rth then { s.resetPos with rthPhase := .climb } else s
    let s := rthAdvance c s
    holdAt c s s.altHoldSp (rthAttitude s) (lit 0) act

/-- `pos.alt < LAND_DETECT_ALT`. -/
def FlightCtrl.low (s : FlightCtrl F D) : Bool := CFloat.lt s.pos.alt (lit 0.3)

def landDetectTimeMs : Nat := 2000

/-- The setpoint of `FLIGHT_MODE_LAND`. -/
def landSetpoint (c : FlightCycle F) (s : FlightCtrl F D) : FlightCtrl F D :=
  let s :=
    if s.Enters .land then
      { s.resetPos with altHoldSp := s.pos.alt, landDetected := false, landLowAltStartMs := 0 }
    else s
  { s with altHoldSp := s.altHoldSp - landDescent c }

/-- The touchdown detection; the flag says that the controls are those of a touchdown. -/
def touchdownDetection (s : FlightCtrl F D) (nowMs : U32) : FlightCtrl F D × Bool :=
  if s.low then
    let s := if s.landLowAltStartMs = 0 then { s with landLowAltStartMs := nowMs } else s
    if landDetectTimeMs < (nowMs - s.landLowAltStartMs).toNat then
      ({ s with landDetected := true }, true)
    else (s, false)
  else ({ s with landLowAltStartMs := 0 }, false)

/-- The controls after the detection: only an undetected landing sets the collective of the
altitude controller. -/
def landControls (act : ActuatorControls F) (touchdown landDetected : Bool) (collectiveOut : F) :
    ActuatorControls F :=
  let act := if touchdown then { act with collective := lit (-1), throttle := lit 0 } else act
  let act := { act with landDetected := landDetected }
  if landDetected then act else setCollective act collectiveOut

def flightLand (c : FlightCycle F) (s : FlightCtrl F D) (act : ActuatorControls F) :
    Option (FlightCtrl F D × ActuatorControls F) :=
  let s := landSetpoint c s
  let r := altitudeControl s s.altHoldSp
  (computeStabilizedControls c r.2 (lit 0) (lit 0) (lit 0) act).map fun t =>
    let d := touchdownDetection t.1 (nowMsOf c.nowUs)
    (d.1, landControls t.2 d.2 d.1.landDetected r.1)

/-- `FLIGHT_MODE_MISSION` without a mission or without a fix. -/
def FlightCtrl.missionFallsBack (s : FlightCtrl F D) (m : MissionMgr) : Bool :=
  decide (missionMgrGetCount m = 0) || !s.hasFix

/-- The waypoint and the altitude are initialized. -/
def missionStart (s : FlightCtrl F D) (m : MissionMgr) : FlightCtrl F D :=
  { s.resetPos with
    missionWpSeq := m.current
    missionAltSp :=
      match missionMgrGetItem m m.current with
      | some wp => CFormats.ofBits D wp.z
      | none => s.pos.alt }

/-- The altitude setpoint moves towards that of the waypoint, by `MISSION_CLIMB_RATE`. -/
def rampAltitude (c : FlightCycle F) (altSp wpAlt : F) : F :=
  if CFloat.lt altSp wpAlt then
    let up := altSp + lit 2 * c.ctrlDt
    if CFloat.lt wpAlt up then wpAlt else up
  else if CFloat.lt wpAlt altSp then
    let down := altSp - lit 2 * c.ctrlDt
    if CFloat.lt down wpAlt then wpAlt else down
  else altSp

/-- `(double)wp->x / 1e7` and `(double)wp->y / 1e7`. -/
def MissionItem.place (wp : MissionItem) : D × D :=
  (CFloat.ofInt wp.x.toInt / lit 1e7, CFloat.ofInt wp.y.toInt / lit 1e7)

/-- The waypoint is reached, within `MISSION_WP_RADIUS`. -/
def FlightCtrl.reached (s : FlightCtrl F D) (wp : MissionItem) : Bool :=
  CFloat.lt (s.distanceTo wp.place.1 wp.place.2) (lit 3)
    && CFloat.lt (CFloat.abs (s.pos.alt - CFormats.ofBits D wp.z)) (lit 3)

/-- The rest of `FLIGHT_MODE_MISSION`, once the waypoint is initialized. -/
def missionNavigate (c : FlightCycle F) (s : FlightCtrl F D) (m : MissionMgr)
    (act : ActuatorControls F) : Option ((FlightCtrl F D × ActuatorControls F) × MissionMgr) :=
  if missionMgrIsComplete m then
    (holdAt c s s.missionAltSp level (lit 0) act).map fun t => (t, m)
  else
    match missionMgrGetItem m s.missionWpSeq with
    | none =>
      let m := missionMgrAdvance m
      let s := { s with missionWpSeq := m.current }
      (holdAt c s s.missionAltSp level (lit 0) act).map fun t => (t, m)
    | some wp =>
      let s := { s with missionAltSp := rampAltitude c s.missionAltSp (CFormats.ofBits D wp.z) }
      (holdAt c s s.missionAltSp (s.steerTo wp.place.1 wp.place.2) (lit 0) act).map fun t =>
        -- without autocontinue the waypoint is held
        if s.reached wp ∧ wp.autocontinue ≠ 0 then
          let m := missionMgrAdvance m
          (({ t.1 with missionWpSeq := m.current }, t.2), m)
        else (t, m)

def flightMission (c : FlightCycle F) (s : FlightCtrl F D) (m : MissionMgr)
    (act : ActuatorControls F) : Option ((FlightCtrl F D × ActuatorControls F) × MissionMgr) :=
  if s.missionFallsBack m then
    let s := if s.Enters .mission then captureLoiter s else s
    (holdAt c s s.altHoldSp (loiterAttitude s) (lit 0) act).map fun t => (t, m)
  else missionNavigate c (if s.Enters .mission then missionStart s m else s) m act

/-! ## An iteration -/

/-- The time since the last iteration, or the nominal one. -/
def ctrlDtOf (nowUs prevUs : U64) : F :=
  let dt := CFloat.ofInt (nowUs - prevUs).toNat * lit 1e-6
  if CFloat.le dt (lit 0) || CFloat.lt (lit 0.02) dt then ctrlDtNominal else dt

/-- The copies. -/
def copyTopics (s : FlightCtrl F D) (e : FlightInput F D) : FlightCtrl F D :=
  { s with
    prevUs := e.nowUs
    att := e.att.getD s.att
    pos := e.pos.getD s.pos
    rc := e.rc.getD s.rc
    status := e.status.getD s.status
    gps := e.gps.getD s.gps
    arspd := e.arspd.getD s.arspd }

/-- `Capture home on first arm with GPS 3D fix`. -/
def captureFlightHome (s : FlightCtrl F D) : FlightCtrl F D :=
  if s.status.armState = .armed ∧ s.homeSet = false ∧ s.gps.homeFix = true then
    { s with
      homeLat := s.gps.latitude
      homeLon := s.gps.longitude
      homeAlt := s.pos.alt
      homeSet := true }
  else s

/-- What is published while disarmed. -/
def disarmedControls (nowUs : U64) : ActuatorControls F :=
  ⟨nowUs, lit 0, lit 0, lit 0, lit (-1), lit 0, false⟩

/-- The iteration of a vehicle that is not armed. -/
def flightDisarmed (s : FlightCtrl F D) (nowUs : U64) : FlightCtrl F D :=
  { s.resetPos with
    rateCtrl := rateControlReset s.rateCtrl
    yawSpInitialized := false
    landDetected := false
    prevMode := s.status.flightMode
    act := disarmedControls nowUs }

/-- The collective of the stick, at most `COLL_RATE_LIMIT` away from the last one. -/
def limitCollective (ctrlDt rcColl prevCollective : F) : F :=
  let maxDelta := lit 1 * ctrlDt
  let delta := rcColl - prevCollective
  if CFloat.lt maxDelta delta then prevCollective + maxDelta
  else if CFloat.lt delta (-maxDelta) then prevCollective - maxDelta
  else rcColl

/-- A nose-down pitch is reduced from `AIRSPEED_WARN` on. -/
def limitPitch (arspd : Airspeed F) (rcPitch : F) : F :=
  if arspd.valid && CFloat.lt (lit 15) arspd.indicatedAirspeed then
    let limit := lit 1 - (arspd.indicatedAirspeed - lit 15) / (lit 20 - lit 15)
    let limit := if CFloat.lt limit (lit 0) then lit 0 else limit
    if CFloat.lt (lit 0) rcPitch then rcPitch * limit else rcPitch
  else rcPitch

/-- The sticks of the iteration. -/
def flightCycle (passes : Nat) (s : FlightCtrl F D) (e : FlightInput F D) (ctrlDt : F) :
    FlightCycle F :=
  let dz := paramGet e.params .rcDeadzone
  { passes
    params := e.params
    nowUs := e.nowUs
    ctrlDt
    rcRoll := applyDeadzone (s.rc.channels 0) dz
    rcPitch := limitPitch s.arspd (applyDeadzone (s.rc.channels 1) dz)
    rcColl := limitCollective ctrlDt (rcCollective s.rc) s.prevCollective
    rcYaw := applyDeadzone (s.rc.channels 3) dz }

/-- The `switch` over the flight mode. -/
def flightModeControls (c : FlightCycle F) (s : FlightCtrl F D) (m : MissionMgr)
    (act : ActuatorControls F) : Option ((FlightCtrl F D × ActuatorControls F) × MissionMgr) :=
  match s.status.flightMode with
  | .manual => some (flightManual c s act, m)
  | .acro => some (flightAcro c s act, m)
  | .stabilize => (flightStabilize c s act).map fun t => (t, m)
  | .altHold => (flightAltHold c s act).map fun t => (t, m)
  | .loiter => (flightLoiter c s act).map fun t => (t, m)
  | .rth => (flightRth c s act).map fun t => (t, m)
  | .land => (flightLand c s act).map fun t => (t, m)
  | .mission => flightMission c s m act

/-- The iteration of an armed vehicle. -/
def flightArmed (c : FlightCycle F) (s : FlightCtrl F D) (m : MissionMgr) :
    Option (FlightCtrl F D × MissionMgr) :=
  let s := { s with prevCollective := c.rcColl }
  (flightModeControls c s m { ActuatorControls.zero with timestampUs := c.nowUs }).map fun t =>
    ({ t.1.1 with prevMode := s.status.flightMode, act := t.1.2 }, t.2)

/-- What the iteration knows before it decides anything. -/
def flightRead (s : FlightCtrl F D) (e : FlightInput F D) : FlightCtrl F D :=
  captureFlightHome (copyTopics s e)

/-- One iteration: the state afterwards, with what it publishes, and the mission. -/
def flightIterate (passes : Nat) (s : FlightCtrl F D) (e : FlightInput F D) :
    Option (FlightCtrl F D × MissionMgr) :=
  let ctrlDt := ctrlDtOf e.nowUs s.prevUs
  let s := flightRead s e
  if s.status.armState ≠ .armed then some (flightDisarmed s e.nowUs, e.mission)
  else flightArmed (flightCycle passes s e ctrlDt) s e.mission

/-- The loop, seen alone: the mission is whatever the other task has made of it. -/
def flightStep (passes : Nat) (s : FlightCtrl F D) (e : FlightInput F D) :
    Option (FlightCtrl F D) :=
  (flightIterate passes s e).map Prod.fst

end

end MmIotEsp32.HeliFc
