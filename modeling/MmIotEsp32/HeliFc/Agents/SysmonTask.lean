/-
  MmIotEsp32.HeliFc.Agents.SysmonTask

  The cycle of the system monitor (`agents/sysmon_agent.c`).
-/
import MmIotEsp32.HeliFc.Agents.SysmonAgent
import MmIotEsp32.HeliFc.Common.Param
import MmIotEsp32.HeliFc.Uorb.Topics

namespace MmIotEsp32.HeliFc

open Lib

/-! ## Messages -/

/-- The texts that the task sends to the ground station. -/
inductive StatusText where
  | failsafeCleared
  | rcSignalLost
  | batteryLow
  | batteryCritical
  | sensorFailure
  | emergencyLanding
  | baroLost
  | magLost
  | gpsLost
  | disarmedLanding
  | armNoImu
  | armNoRc
  | armFailsafe
  | armCollHigh
  | armedRc
  | disarmedRc
  | gcsLinkLost
  | armed
  | disarmed
  | paramsSaved
  | rebooting
  | missionCleared
  | homeNotSet
  deriving Repr, DecidableEq

/-- `MAV_SEVERITY_*`, and the text. -/
def StatusText.statustext : StatusText → Nat × String
  | .failsafeCleared => (6, "Failsafe cleared")
  | .rcSignalLost => (2, "RC signal lost")
  | .batteryLow => (4, "Battery low")
  | .batteryCritical => (2, "Battery critical - landing")
  | .sensorFailure => (0, "Sensor failure - disarming")
  | .emergencyLanding => (0, "Sensor failure - emergency landing")
  | .baroLost => (4, "Baro lost - fallback STABILIZE")
  | .magLost => (4, "Mag lost - heading unreliable")
  | .gpsLost => (4, "GPS lost - mode fallback")
  | .disarmedLanding => (6, "Vehicle disarmed (landing)")
  | .armNoImu => (4, "ARM fail: no IMU")
  | .armNoRc => (4, "ARM fail: no RC")
  | .armFailsafe => (4, "ARM fail: failsafe")
  | .armCollHigh => (4, "ARM fail: coll high")
  | .armedRc => (6, "Vehicle armed (RC)")
  | .disarmedRc => (6, "Vehicle disarmed (RC)")
  | .gcsLinkLost => (4, "GCS link lost")
  | .armed => (6, "Vehicle armed")
  | .disarmed => (6, "Vehicle disarmed")
  | .paramsSaved => (6, "Params saved to flash")
  | .rebooting => (4, "Rebooting...")
  | .missionCleared => (6, "Mission cleared")
  | .homeNotSet => (4, "Home position not set")

/-- The text that reports a failsafe transition; the ground station is never in
`new_failsafe`. -/
def failsafeText : FailsafeState → List StatusText
  | .none => [.failsafeCleared]
  | .rcLost => [.rcSignalLost]
  | .batteryLow => [.batteryLow]
  | .batteryCritical => [.batteryCritical]
  | .sensorFailure => [.sensorFailure]
  | .gcsLost => []

/-- What the task hands to `rpc_send_telemetry`. -/
inductive SysmonMsg (F : Type*) where
  | statustext (text : StatusText)
  | homePosition (lat lon alt : U32)
  | paramValue (id : ParamId) (value : F)
  | mission (msg : RpcTelemetryMsg)
  deriving DecidableEq

/-- `rpc_command_msg_t`, as the task reads it. -/
inductive SysmonCommand (F : Type*) where
  | arm (arm : U8)
  | disarm
  | setMode (mode : U8)
  | rcOverride (channels : Fin 8 → U16)
  | paramRequestRead (name : String) (index : U16)
  | paramRequestList
  | paramSet (name : String) (value : F)
  | paramSave
  | reboot
  | mission (cmd : RpcCommandMsg)
  | requestHomePosition
  | unknown

/-- `battery_status_t`. -/
structure BatteryStatus (F : Type*) where
  timestampUs : U64
  voltageV : F
  voltageFiltered : F
  cellCount : U8
  voltagePerCell : F
  warning : Bool
  critical : Bool
  deriving DecidableEq

/-! ## The state -/

/-- Where the task is in its cycle. -/
inductive SysmonPhase where
  | idle
  | sensed
  | switched
  | polling
  deriving Repr, DecidableEq

structure Sysmon (F D : Type*) where
  phase : SysmonPhase
  params : Params F
  mission : MissionMgr
  armState : ArmState
  flightMode : FlightMode
  failsafe : FailsafeState
  battFiltered : F
  battFirst : Bool
  lastTs : SensorTopic → U64
  lastGcsCmdTs : U64
  lastRc : RcChannels F
  rcArmPrev : Bool
  prevBaroOk : Bool
  prevMagOk : Bool
  homeLat : D
  homeLon : D
  homeAltMsl : F
  homeSet : Bool
  homeSent : Bool
  landDetectedStartMs : U32
  /-- The locals of the cycle. -/
  nowUs : U64
  batt : BatteryStatus F
  ok : SensorTopic → Bool
  /-- The messages of the cycle, oldest first. -/
  sent : List (SysmonMsg F)
  /-- The status that was published last. -/
  status : VehicleStatus

/-- What the copies of a cycle find: `none` where there is no new sample. -/
structure SysmonSamples (F D : Type*) where
  imu : Option SensorSample
  baro : Option SensorSample
  mag : Option SensorSample
  gps : Option (GpsData F D)
  rc : Option (RcChannels F)
  act : Option (ActuatorControls F)

inductive SysmonEvent (F D : Type*) where
  /-- The cycle begins, with the clock, the voltage of the battery, and the copies. -/
  | sense (nowUs : U64) (battV : F) (samples : SysmonSamples F D)
  | switches
  | gcsTimeout
  | command (cmd : SysmonCommand F)
  | publish

section

variable {F D : Type*} [CFloat F] [CFloat D]

/-- The task when it starts, with the parameters that were loaded. -/
def sysmonInit (params : Params F) : Sysmon F D where
  phase := .idle
  params := params
  mission := missionMgrInit
  armState := .disarmed
  flightMode := .stabilize
  failsafe := .none
  battFiltered := lit 0
  battFirst := true
  lastTs := fun _ => 0
  lastGcsCmdTs := 0
  lastRc := .zero
  rcArmPrev := false
  prevBaroOk := false
  prevMagOk := false
  homeLat := lit 0
  homeLon := lit 0
  homeAltMsl := lit 0
  homeSet := false
  homeSent := false
  landDetectedStartMs := 0
  nowUs := 0
  batt := ⟨0, lit 0, lit 0, 0, lit 0, false, false⟩
  ok := fun _ => false
  sent := []
  status := .zero

/-- `(uint32_t)(now_us / 1000)`. -/
def nowMsOf (nowUs : U64) : U32 := (nowUs / 1000).setWidth 32

/-- `rpc_send_telemetry`. -/
def Sysmon.send (s : Sysmon F D) (msgs : List (SysmonMsg F)) : Sysmon F D :=
  { s with sent := s.sent ++ msgs }

def sendStatustextRpc (s : Sysmon F D) (text : StatusText) : Sysmon F D :=
  s.send [.statustext text]

def sendParamValueRpc (s : Sysmon F D) (id : ParamId) : Sysmon F D :=
  s.send [.paramValue id (paramGet s.params id)]

/-- `param_get(PARAM_*_MS) * 1000.0f`, as microseconds. -/
def timeoutUsOf (params : Params F) (id : ParamId) : U64 :=
  CFloat.toU64 (paramGet params id * lit 1000)

/-! ## The steps of `sense` -/

/-- The number of cells, from the voltage. -/
def cellCount (filtered : F) : Nat :=
  if CFloat.lt (lit 16.8) filtered then 6
  else if CFloat.lt (lit 12.6) filtered then 4
  else if CFloat.lt (lit 8.4) filtered then 3
  else if CFloat.lt (lit 4.2) filtered then 2
  else 1

/-- Step 1. -/
def monitorBattery (s : Sysmon F D) (battV : F) : Sysmon F D :=
  let s :=
    if s.battFirst && CFloat.lt (lit 1) battV then { s with battFiltered := battV, battFirst := false }
    else if CFloat.lt (lit 1) battV then
      { s with battFiltered := s.battFiltered + lit 0.05 * (battV - s.battFiltered) }
    else s
  { s with
    batt := {
      timestampUs := s.nowUs
      voltageV := battV
      voltageFiltered := s.battFiltered
      cellCount := BitVec.ofNat 8 (cellCount s.battFiltered)
      voltagePerCell := s.battFiltered / CFloat.ofInt (cellCount s.battFiltered)
      warning := CFloat.lt s.battFiltered (paramGet s.params .battLowV)
        && CFloat.lt (lit 1) s.battFiltered
      critical := CFloat.lt s.battFiltered (paramGet s.params .battCritV)
        && CFloat.lt (lit 1) s.battFiltered } }

/-- The stamp of a topic after its copy. -/
def SysmonSamples.lastTs (samples : SysmonSamples F D) (last : SensorTopic → U64) :
    SensorTopic → U64
  | .imu => (samples.imu.map SensorSample.timestampUs).getD (last .imu)
  | .baro => (samples.baro.map SensorSample.timestampUs).getD (last .baro)
  | .mag => (samples.mag.map SensorSample.timestampUs).getD (last .mag)
  | .gps => (samples.gps.map GpsData.timestampUs).getD (last .gps)
  | .rc => (samples.rc.map RcChannels.timestampUs).getD (last .rc)

/-- Step 2, up to the copies. -/
def copySensors (s : Sysmon F D) (samples : SysmonSamples F D) : Sysmon F D :=
  { s with
    lastTs := samples.lastTs s.lastTs
    lastRc := samples.rc.getD s.lastRc }

/-- `RPC_MSG_HOME_POSITION`. -/
def homePositionMsg (s : Sysmon F D) : SysmonMsg F :=
  .homePosition (CFloat.toI32 (s.homeLat * lit 1e7)) (CFloat.toI32 (s.homeLon * lit 1e7))
    (CFloat.toI32 (s.homeAltMsl * lit 1000))

/-- The fix is good enough for a home position. -/
def GpsData.homeFix (gps : GpsData F D) : Bool :=
  decide (3 ≤ gps.fixType.toNat) && decide (6 ≤ gps.satellites.toNat)

/-- Home is captured on the first fix that comes while armed. -/
def captureHome (s : Sysmon F D) (gpsData : Option (GpsData F D)) : Sysmon F D :=
  match gpsData with
  | none => s
  | some gps =>
    if s.armState = .armed ∧ s.homeSet = false ∧ gps.homeFix = true then
      let s := { s with
        homeLat := gps.latitude
        homeLon := gps.longitude
        homeAltMsl := gps.altitudeMsl
        homeSet := true
        homeSent := true }
      s.send [homePositionMsg s]
    else s

/-- `Clear home on disarm so it re-captures on next arm`. -/
def clearHome (s : Sysmon F D) : Sysmon F D :=
  if s.armState = .disarmed ∧ s.homeSet = true then { s with homeSet := false, homeSent := false }
  else s

/-- The timeout of a topic. -/
def sensorTimeoutUs (params : Params F) : SensorTopic → U64
  | .rc => rcTimeoutUs
  | _ => timeoutUsOf params .sensorTimeoutMs

/-- The rest of step 2. -/
def checkSensors (s : Sysmon F D) : Sysmon F D :=
  { s with ok := fun topic => sensorOk s.nowUs (s.lastTs topic) (sensorTimeoutUs s.params topic) }

/-- Step 3. -/
def determineFailsafe (s : Sysmon F D) : Sysmon F D :=
  let new := newFailsafe s.batt.warning s.batt.critical (decide (s.armState = .armed)) s.ok
  let s :=
    if new ≠ s.failsafe ∧ s.armState = .armed then s.send ((failsafeText new).map .statustext)
    else s
  { s with failsafe := new }

/-- Step 4. -/
def failsafeActions (s : Sysmon F D) : Sysmon F D :=
  if s.armState = .armed then
    match s.failsafe with
    | .rcLost =>
      if s.flightMode ≠ .rth ∧ s.flightMode ≠ .land then
        { s with flightMode := if s.ok .gps then .rth else .land }
      else s
    | .batteryCritical => { s with flightMode := .land }
    | .sensorFailure =>
      if s.flightMode ≠ .land then
        sendStatustextRpc { s with flightMode := .land } .emergencyLanding
      else s
    | _ => s
  else s

/-- Baro lost while in a mode that needs the altitude. -/
def baroDegradation (s : Sysmon F D) : Sysmon F D :=
  if s.prevBaroOk = true ∧ s.ok .baro = false
      ∧ (s.flightMode = .altHold ∨ s.flightMode = .loiter) then
    sendStatustextRpc { s with flightMode := .stabilize } .baroLost
  else s

def magDegradation (s : Sysmon F D) : Sysmon F D :=
  if s.prevMagOk = true ∧ s.ok .mag = false then sendStatustextRpc s .magLost else s

/-- GPS lost in a mode that needs the position. -/
def gpsDegradation (s : Sysmon F D) : Sysmon F D :=
  if s.ok .gps = false ∧ s.flightMode = .loiter then
    sendStatustextRpc { s with flightMode := if s.ok .baro then .altHold else .stabilize } .gpsLost
  else s

/-- Step 4b. -/
def sensorDegradation (s : Sysmon F D) : Sysmon F D :=
  let s := if s.armState = .armed then gpsDegradation (magDegradation (baroDegradation s)) else s
  { s with prevBaroOk := s.ok .baro, prevMagOk := s.ok .mag }

def landDisarmConfirmMs : U32 := 3000

/-- When the landing was first seen; zero stands for "not yet". -/
def Sysmon.landStartMs (s : Sysmon F D) : U32 :=
  if s.landDetectedStartMs = 0 then nowMsOf s.nowUs else s.landDetectedStartMs

/-- Step 4c; without a new sample `land_detected` is false. -/
def autoDisarm (s : Sysmon F D) (act : Option (ActuatorControls F)) : Sysmon F D :=
  if s.armState = .armed ∧ (act.map ActuatorControls.landDetected).getD false = true then
    if landDisarmConfirmMs < nowMsOf s.nowUs - s.landStartMs then
      sendStatustextRpc { s with armState := .disarmed, landDetectedStartMs := 0 } .disarmedLanding
    else { s with landDetectedStartMs := s.landStartMs }
  else { s with landDetectedStartMs := 0 }

/-- Steps 1 and 2. -/
def sysmonCheck (s : Sysmon F D) (nowUs : U64) (battV : F) (samples : SysmonSamples F D) :
    Sysmon F D :=
  let s := { s with nowUs := nowUs, sent := [] }
  let s := copySensors (monitorBattery s battV) samples
  checkSensors (clearHome (captureHome s samples.gps))

/-- Steps 3 to 4b. -/
def sysmonJudge (s : Sysmon F D) : Sysmon F D :=
  sensorDegradation (failsafeActions (determineFailsafe s))

/-- The cycle up to the automatic disarm. -/
def sysmonSense (s : Sysmon F D) (nowUs : U64) (battV : F) (samples : SysmonSamples F D) :
    Sysmon F D :=
  { autoDisarm (sysmonJudge (sysmonCheck s nowUs battV samples)) samples.act with
    phase := .sensed }

/-! ## The switches -/

/-- `failsafe != FAILSAFE_NONE && failsafe != FAILSAFE_BATTERY_LOW`, negated. -/
def FailsafeState.permitsArming : FailsafeState → Bool
  | .none => true
  | .batteryLow => true
  | _ => false

/-- The collective, normalized as the flight controller does it. -/
def rcCollective (rc : RcChannels F) : F := rc.channels 2 * lit 2 - lit 1

/-- `arm_ch > arm_threshold`. -/
def rcArmNow (params : Params F) (rc : RcChannels F) : Bool :=
  CFloat.lt (paramGet params .rcArmThreshold) (rc.channels 5)

/-- `Attempt arm via RC switch`. -/
def armAttempt (s : Sysmon F D) : Sysmon F D :=
  if s.ok .imu = false then sendStatustextRpc s .armNoImu
  else if s.failsafe.permitsArming = false then sendStatustextRpc s .armFailsafe
  else if CFloat.lt (paramGet s.params .rcCollArmMax) (rcCollective s.lastRc) then
    sendStatustextRpc s .armCollHigh
  else sendStatustextRpc { s with armState := .armed } .armedRc

/-- The arm switch. -/
def armSwitch (s : Sysmon F D) : Sysmon F D :=
  { (if rcArmNow s.params s.lastRc = true ∧ s.rcArmPrev = false ∧ s.armState = .disarmed then
      armAttempt s
    else if rcArmNow s.params s.lastRc = false ∧ s.rcArmPrev = true ∧ s.armState = .armed then
      sendStatustextRpc { s with armState := .disarmed } .disarmedRc
    else s) with rcArmPrev := rcArmNow s.params s.lastRc }

/-- The mode of the position of the mode switch. -/
def rcMode (rc : RcChannels F) : FlightMode :=
  if CFloat.lt (rc.channels 4) (lit (-0.3)) then .stabilize
  else if CFloat.lt (lit 0.3) (rc.channels 4) then .altHold
  else .loiter

/-- The mode switch. -/
def modeSwitch (s : Sysmon F D) : Sysmon F D :=
  if s.failsafe.permitsArming = true ∧ rcMode s.lastRc ≠ s.flightMode
      ∧ ¬ (rcMode s.lastRc = .loiter ∧ s.ok .gps = false) then
    { s with flightMode := rcMode s.lastRc }
  else s

/-- The switches are judged in this cycle. -/
def Sysmon.rcJudged (s : Sysmon F D) : Bool := s.ok .rc && decide (6 ≤ s.lastRc.channelCount.toNat)

/-- Step 4d. -/
def sysmonSwitches (s : Sysmon F D) : Sysmon F D :=
  { (if s.rcJudged then modeSwitch (armSwitch s) else s) with phase := .switched }

/-! ## The ground station -/

/-- `!gcs_ok`, once a command has come. -/
def Sysmon.gcsTimedOut (s : Sysmon F D) : Bool :=
  decide (0 < s.lastGcsCmdTs.toNat)
    && !decide ((s.nowUs - s.lastGcsCmdTs).toNat < (timeoutUsOf s.params .gcsTimeoutMs).toNat)

/-- Step 6b. -/
def sysmonGcsTimeout (s : Sysmon F D) : Sysmon F D :=
  { (if s.gcsTimedOut = true ∧ s.failsafe ≠ .gcsLost ∧ s.armState = .armed then
      sendStatustextRpc { s with failsafe := .gcsLost } .gcsLinkLost
    else s) with phase := .polling }

/-- `RPC_CMD_ARM`. -/
def commandArm (s : Sysmon F D) (arm : U8) : Sysmon F D :=
  if arm = 0 then s
  else if s.ok .imu = false then sendStatustextRpc s .armNoImu
  else if s.ok .rc = false then sendStatustextRpc s .armNoRc
  else if s.failsafe.permitsArming = false then sendStatustextRpc s .armFailsafe
  else if CFloat.lt (paramGet s.params .rcCollArmMax) (rcCollective s.lastRc) then
    sendStatustextRpc s .armCollHigh
  else sendStatustextRpc { s with armState := .armed } .armed

/-- `RPC_CMD_SET_MODE`. -/
def commandSetMode (s : Sysmon F D) (mode : U8) : Sysmon F D :=
  match flightModeOf mode with
  | none => s
  | some mode => { s with flightMode := mode }

/-- What `RPC_CMD_RC_OVERRIDE` publishes on the RC topic. -/
def rcOverrideMsg (nowUs : U64) (channels : Fin 8 → U16) : RcChannels F where
  timestampUs := nowUs
  channels := fun i =>
    if h : i.val < 8 then CFloat.ofInt (channels ⟨i.val, h⟩).toInt / lit 1000 else lit 0
  channelCount := 8
  signalLost := false

/-- `RPC_CMD_PARAM_REQUEST_READ`. -/
def commandParamRequestRead (s : Sysmon F D) (name : String) (index : U16) : Sysmon F D :=
  let pid :=
    if 0 ≤ index.toInt ∧ index.toInt < paramIds.length then paramIds[index.toNat]?
    else paramFind name
  match pid with
  | none => s
  | some pid => sendParamValueRpc s pid

/-- `RPC_CMD_PARAM_SET`. -/
def commandParamSet (s : Sysmon F D) (name : String) (value : F) : Sysmon F D :=
  match paramFind name with
  | none => s
  | some pid => sendParamValueRpc { s with params := paramSet s.params pid value } pid

/-- The answers to a command about the mission, as `sysmonCommand` sends them. -/
def missionAnswers (m : MissionMgr) : RpcCommandMsg → List RpcTelemetryMsg
  | .missionCount _ => [.missionAck 0]
  | .missionItem _ => [.missionAck 0]
  | .missionRequestList =>
    .missionCount (BitVec.ofNat 16 (missionMgrGetCount m))
      :: (List.range (missionMgrGetCount m)).filterMap fun i =>
        (missionMgrGetItem m (BitVec.ofNat 16 i)).map (missionItemTelemetry m)
  | .missionClearAll => [.missionAck 0, .other]
  | .missionSetCurrent seq => [.missionCurrent (missionMgrSetCurrent m seq).current]
  | .other => []

/-- What a message about the mission is here; the text after a clear is its own message. -/
def SysmonMsg.ofMission : RpcTelemetryMsg → SysmonMsg F
  | .other => .statustext .missionCleared
  | msg => .mission msg

/-- A command about the mission. -/
def commandMission (s : Sysmon F D) (cmd : RpcCommandMsg) : Sysmon F D :=
  { s with mission := (sysmonCommand s.mission rpcInit cmd).1 }.send
    ((missionAnswers s.mission cmd).map .ofMission)

/-- The body of the command loop; `none` is the restart. -/
def sysmonTaskCommand (s : Sysmon F D) : SysmonCommand F → Option (Sysmon F D)
  | .arm arm => some (commandArm s arm)
  | .disarm => some (sendStatustextRpc { s with armState := .disarmed } .disarmed)
  | .setMode mode => some (commandSetMode s mode)
  | .rcOverride _ => some s
  | .paramRequestRead name index => some (commandParamRequestRead s name index)
  | .paramRequestList => some (paramIds.foldl sendParamValueRpc s)
  | .paramSet name value => some (commandParamSet s name value)
  | .paramSave => some (sendStatustextRpc s .paramsSaved)
  | .reboot => if s.armState = .armed then some s else none
  | .mission cmd => some (commandMission s cmd)
  | .requestHomePosition =>
    some (if s.homeSet then s.send [homePositionMsg s] else sendStatustextRpc s .homeNotSet)
  | .unknown => some s

/-- Step 5: the status of the cycle. -/
def vehicleStatusMsg (s : Sysmon F D) : VehicleStatus where
  timestampUs := s.nowUs
  armState := s.armState
  flightMode := s.flightMode
  failsafe := s.failsafe
  sensorImuOk := s.ok .imu
  sensorBaroOk := s.ok .baro
  sensorMagOk := s.ok .mag
  sensorGpsOk := s.ok .gps
  rcOk := s.ok .rc
  batteryOk := !s.batt.warning && !s.batt.critical

/-! ## The task -/

def sysmonTaskStep (s : Sysmon F D) : SysmonEvent F D → Option (Sysmon F D)
  | .sense nowUs battV samples =>
    if s.phase = .idle then some (sysmonSense s nowUs battV samples) else none
  | .switches => if s.phase = .sensed then some (sysmonSwitches s) else none
  | .gcsTimeout => if s.phase = .switched then some (sysmonGcsTimeout s) else none
  | .command cmd =>
    if s.phase = .polling then sysmonTaskCommand { s with lastGcsCmdTs := s.nowUs } cmd else none
  | .publish =>
    if s.phase = .polling then some { s with phase := .idle, status := vehicleStatusMsg s }
    else none

end

end MmIotEsp32.HeliFc
