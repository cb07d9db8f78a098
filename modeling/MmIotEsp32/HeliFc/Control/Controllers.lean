/-
  MmIotEsp32.HeliFc.Control.Controllers

  The controllers of the flight loop (`control/pid.c`, `attitude_control.c`, `rate_control.c`,
  `pos_control.c`) and the helpers of `math_utils.h` that they use.
-/
import MmIotEsp32.HeliFc.Common.Param

namespace MmIotEsp32.HeliFc

open Lib

section

variable {F D : Type*} [CFloat F] [CFloat D] [CFormats F D]

/-! ## `math_utils.h` -/

def constrainF (val minVal maxVal : F) : F :=
  if CFloat.lt val minVal then minVal
  else if CFloat.lt maxVal val then maxVal
  else val

def mPi : D := lit 3.14159265358979323846

variable (D) in
def degToRad (deg : F) : F := deg * CFormats.narrow (mPi / lit 180 : D)

variable (D) in
/-- The first loop of `wrap_pi`, with the passes it is given. -/
def wrapDown : Nat → F → Option F
  | 0, _ => none
  | passes + 1, angle =>
    if CFloat.lt (CFormats.narrow (mPi : D)) angle then
      wrapDown passes (angle - lit 2 * CFormats.narrow (mPi : D))
    else some angle

variable (D) in
/-- The second loop. -/
def wrapUp : Nat → F → Option F
  | 0, _ => none
  | passes + 1, angle =>
    if CFloat.lt angle (-CFormats.narrow (mPi : D)) then
      wrapUp passes (angle + lit 2 * CFormats.narrow (mPi : D))
    else some angle

variable (D) in
def wrapPi (passes : Nat) (angle : F) : Option F := (wrapDown D passes angle).bind (wrapUp D passes)

end

section

variable {F : Type*} [CFloat F]

/-! ## `pid.c` -/

/-- `pid_controller_t`. -/
structure PidController (F : Type*) where
  kp : F
  ki : F
  kd : F
  integral : F
  prevError : F
  prevMeasurement : F
  dFiltered : F
  dFilterAlpha : F
  hasPrevMeasurement : Bool
  outputMin : F
  outputMax : F
  integralMax : F
  dt : F
  ff : F

def pidInit (kp ki kd dt : F) : PidController F where
  kp := kp
  ki := ki
  kd := kd
  integral := lit 0
  prevError := lit 0
  prevMeasurement := lit 0
  dFiltered := lit 0
  dFilterAlpha := lit 0.2
  hasPrevMeasurement := false
  outputMin := lit (-1)
  outputMax := lit 1
  integralMax := lit 1
  dt := dt
  ff := lit 0

def pidSetLimits (pid : PidController F) (min max : F) : PidController F :=
  { pid with outputMin := min, outputMax := max }

def pidSetIntegralLimit (pid : PidController F) (limit : F) : PidController F :=
  { pid with integralMax := if CFloat.lt (lit 0) limit then limit else -limit }

def pidSetFeedforward (pid : PidController F) (ff : F) : PidController F := { pid with ff := ff }

/-- The output, and the controller afterwards. -/
def pidUpdate (pid : PidController F) (setpoint measurement : F) : F × PidController F :=
  let error := setpoint - measurement
  let pTerm := pid.kp * error
  let ffTerm := pid.ff * setpoint
  let integral :=
    constrainF (pid.integral + error * pid.dt) (-pid.integralMax) pid.integralMax
  let iTerm := pid.ki * integral
  let differentiates := CFloat.lt (lit 0) pid.dt && pid.hasPrevMeasurement
  let dFiltered :=
    if differentiates then
      pid.dFiltered + pid.dFilterAlpha
        * (-(measurement - pid.prevMeasurement) / pid.dt - pid.dFiltered)
    else pid.dFiltered
  let dTerm := pid.kd * (if differentiates then dFiltered else lit 0)
  let pid := { pid with
    integral, dFiltered, prevError := error, prevMeasurement := measurement
    hasPrevMeasurement := true }
  let output := pTerm + iTerm + dTerm + ffTerm
  -- a saturated output is not integrated any further
  if CFloat.lt pid.outputMax output then
    (pid.outputMax,
      if CFloat.lt (lit 0) error && CFloat.lt (lit 0) pid.ki then
        { pid with integral := pid.integral - error * pid.dt }
      else pid)
  else if CFloat.lt output pid.outputMin then
    (pid.outputMin,
      if CFloat.lt error (lit 0) && CFloat.lt (lit 0) pid.ki then
        { pid with integral := pid.integral - error * pid.dt }
      else pid)
  else (output, pid)

def pidReset (pid : PidController F) : PidController F :=
  { pid with
    integral := lit 0
    prevError := lit 0
    prevMeasurement := lit 0
    dFiltered := lit 0
    hasPrevMeasurement := false }

/-! ## Attitude, rates, altitude -/

/-- A `float[3]`: roll, pitch, yaw. -/
structure Axes (F : Type*) where
  roll : F
  pitch : F
  yaw : F

structure AttitudeController (F : Type*) where
  kpRoll : F
  kpPitch : F
  kpYaw : F

def attitudeControlInit (params : Params F) : AttitudeController F where
  kpRoll := paramGet params .attRollKp
  kpPitch := paramGet params .attPitchKp
  kpYaw := paramGet params .attYawKp

section

variable (D : Type*) [CFloat D] [CFormats F D]

/-- The rate setpoints; none when `wrap_pi` does not come back. -/
def attitudeControlUpdate (passes : Nat) (ac : AttitudeController F) (attSp attMeas : Axes F) :
    Option (Axes F) :=
  (wrapPi D passes (attSp.yaw - attMeas.yaw)).map fun yawError =>
    { roll := ac.kpRoll * (attSp.roll - attMeas.roll)
      pitch := ac.kpPitch * (attSp.pitch - attMeas.pitch)
      yaw := ac.kpYaw * yawError }

end

structure RateController (F : Type*) where
  roll : PidController F
  pitch : PidController F
  yaw : PidController F

/-- One axis of `rate_control_init`. -/
def ratePidInit (params : Params F) (kp ki kd ff : ParamId) (integralLimit dt : F) :
    PidController F :=
  let k := paramGet params .rateK
  let pid := pidInit (paramGet params kp * k) (paramGet params ki * k) (paramGet params kd * k) dt
  let pid := pidSetLimits pid (lit (-1)) (lit 1)
  pidSetFeedforward (pidSetIntegralLimit pid integralLimit) (paramGet params ff)

def rateControlInit (params : Params F) (dt : F) : RateController F where
  roll := ratePidInit params .rollRateKp .rollRateKi .rollRateKd .rollRateFf (lit 0.3) dt
  pitch := ratePidInit params .pitchRateKp .pitchRateKi .pitchRateKd .pitchRateFf (lit 0.3) dt
  yaw := ratePidInit params .yawRateKp .yawRateKi .yawRateKd .yawRateFf (lit 0.5) dt

def rateControlUpdate (rc : RateController F) (rateSp rateMeas : Axes F) :
    Axes F × RateController F :=
  let roll := pidUpdate rc.roll rateSp.roll rateMeas.roll
  let pitch := pidUpdate rc.pitch rateSp.pitch rateMeas.pitch
  let yaw := pidUpdate rc.yaw rateSp.yaw rateMeas.yaw
  (⟨roll.1, pitch.1, yaw.1⟩, ⟨roll.2, pitch.2, yaw.2⟩)

def rateControlReset (rc : RateController F) : RateController F :=
  ⟨pidReset rc.roll, pidReset rc.pitch, pidReset rc.yaw⟩

structure PosController (F : Type*) where
  altKp : F
  maxClimbRate : F
  climbRatePid : PidController F

def posControlInit (params : Params F) (dt : F) : PosController F where
  altKp := paramGet params .altKp
  maxClimbRate := paramGet params .maxClimbRate
  climbRatePid :=
    let pid := pidInit (paramGet params .climbRateKp) (paramGet params .climbRateKi)
      (paramGet params .climbRateKd) dt
    pidSetIntegralLimit (pidSetLimits pid (lit (-1)) (lit 1)) (lit 0.5)

/-- The collective, and the controller afterwards. -/
def posControlUpdateAltitude (pc : PosController F) (altSp altMeas climbRate : F) :
    F × PosController F :=
  let climbRateSp :=
    constrainF (pc.altKp * (altSp - altMeas)) (-pc.maxClimbRate) pc.maxClimbRate
  let r := pidUpdate pc.climbRatePid climbRateSp climbRate
  (r.1, { pc with climbRatePid := r.2 })

def posControlReset (pc : PosController F) : PosController F :=
  { pc with climbRatePid := pidReset pc.climbRatePid }

end

end MmIotEsp32.HeliFc
