/-
  MmIotEsp32.HeliFc.Control.HeliMixer

  The swashplate mixer (`control/heli_mixer.c`).

  `asinf` is the one of the C library: a parameter.
-/
import Mathlib.Data.Fin.VecNotation
import MmIotEsp32.HeliFc.Control.Controllers
import MmIotEsp32.HeliFc.Uorb.Topics

namespace MmIotEsp32.HeliFc

open Lib

/-- `heli_mixer_output_t`. -/
structure HeliMixerOutput (F : Type*) where
  servo1Us : F
  servo2Us : F
  servo3Us : F
  tailEscUs : F
  mainEscUs : F
  deriving DecidableEq

/-- `heli_mixer_config_t`, as far as `heli_mixer_update` and its caller read it. -/
structure HeliMixerConfig (F : Type*) where
  ccpmAngleOffset : F
  collectiveRange : F
  cyclicRange : F
  servoCenterUs : F
  servoRangeUs : F
  escMinUs : F
  escMaxUs : F
  throttleCurve : Fin 5 → F
  collectiveCurve : Fin 5 → F
  tailCollFf : F
  tailCollFfOffset : F
  tailThrFf : F
  yawCcw : Bool
  servoThrowDeg : F
  spoolupTimeS : F

section

variable {F D : Type*} [CFloat F] [CFloat D] [CFormats F D]

def interpolateCurve (curve : Fin 5 → F) (input : F) : F :=
  let idxF := constrainF input (lit 0) (lit 1) * lit 4
  let idxLo := (CFloat.toI32 idxF).toInt
  if 4 ≤ idxLo then curve 4
  else
    let lower := curve (Fin.ofNat 5 idxLo.toNat)
    let upper := curve (Fin.ofNat 5 (idxLo.toNat + 1))
    lower + (idxF - CFloat.ofInt idxLo) * (upper - lower)

variable (D) in
def servoLinearize (asinf : F → F) (input throwDeg : F) : F :=
  if CFloat.lt throwDeg (lit 1) then input
  else
    let throwRad := degToRad D throwDeg
    asinf (constrainF input (lit (-1)) (lit 1) * CFloat.sin throwRad) / throwRad

def heliMixerInit (params : Params F) : HeliMixerConfig F where
  ccpmAngleOffset := paramGet params .ccpmAngleOffset
  collectiveRange := paramGet params .collectiveRange
  cyclicRange := paramGet params .cyclicRange
  servoCenterUs := paramGet params .servoCenterUs
  servoRangeUs := paramGet params .servoRangeUs
  escMinUs := paramGet params .escMinUs
  escMaxUs := paramGet params .escMaxUs
  throttleCurve := ![lit 0, lit 0.4, lit 0.55, lit 0.7, lit 0.85]
  collectiveCurve := ![lit (-1), lit (-0.5), lit 0, lit 0.5, lit 1]
  tailCollFf := paramGet params .tailCollFf
  tailCollFfOffset := paramGet params .tailCollFfOfs
  tailThrFf := paramGet params .tailThrFf
  yawCcw := CFloat.lt (lit 0.5) (paramGet params .yawCcw)
  servoThrowDeg := paramGet params .servoLinearize
  spoolupTimeS := paramGet params .spoolupTime

variable (D) in
/-- The pulse of the servo at an angle of the swashplate, before the last bound. -/
def servoUs (asinf : F → F) (config : HeliMixerConfig F) (collServo pitchServo rollServo angleDeg : F) :
    F :=
  let angle := degToRad D angleDeg + degToRad D config.ccpmAngleOffset
  let norm := collServo + pitchServo * CFloat.cos angle + rollServo * CFloat.sin angle
  let norm := constrainF (servoLinearize D asinf norm config.servoThrowDeg) (lit (-1)) (lit 1)
  config.servoCenterUs + norm * config.servoRangeUs

variable (D) in
def heliMixerUpdate (asinf : F → F) (config : HeliMixerConfig F) (controls : ActuatorControls F)
    (spoolupProgress : F) : HeliMixerOutput F :=
  let rollIn := constrainF controls.roll (lit (-1)) (lit 1)
  let pitchIn := constrainF controls.pitch (lit (-1)) (lit 1)
  let yawIn := constrainF controls.yaw (lit (-1)) (lit 1)
  let collIn := constrainF controls.collective (lit (-1)) (lit 1)
  let spoolupProgress := constrainF spoolupProgress (lit 0) (lit 1)
  let collNormalized := (collIn + lit 1) * lit 0.5
  let collective := interpolateCurve config.collectiveCurve collNormalized
  let throttle := interpolateCurve config.throttleCurve collNormalized * spoolupProgress
  let collServo := collective * config.collectiveRange
  let pitchServo := pitchIn * config.cyclicRange
  let rollServo := rollIn * config.cyclicRange
  -- the compensation of the tail rotor, turned round for a rotor that turns the other way
  let yawComp := config.tailCollFf * CFloat.abs (collective - config.tailCollFfOffset)
    + config.tailThrFf * throttle
  let yawComp := if config.yawCcw then -yawComp else yawComp
  let tailCmd := constrainF (yawIn + yawComp) (lit (-1)) (lit 1)
  let tailNormalized := (tailCmd + lit 1) * lit 0.5
  let escRange := config.escMaxUs - config.escMinUs
  let servoMin := config.servoCenterUs - config.servoRangeUs
  let servoMax := config.servoCenterUs + config.servoRangeUs
  let servo := fun angleDeg =>
    constrainF (servoUs D asinf config collServo pitchServo rollServo angleDeg) servoMin servoMax
  { servo1Us := servo (lit 0)
    servo2Us := servo (lit 120)
    servo3Us := servo (lit 240)
    tailEscUs :=
      constrainF (config.escMinUs + tailNormalized * escRange) config.escMinUs config.escMaxUs
    mainEscUs :=
      constrainF (config.escMinUs + throttle * escRange) config.escMinUs config.escMaxUs }

end

end MmIotEsp32.HeliFc
