/-
  MmIotEsp32.HeliFc.Uorb.Topics

  The samples that the agents exchange (`uorb/topics/*.h`, `common/flight_modes.h`): the
  fields that an agent reads.
-/
import MmIotEsp32.HeliFc.Agents.SensorHealth
import MmIotEsp32.Lib.CFloat

namespace MmIotEsp32.HeliFc

open Lib

/-! ## Modes -/

/-- `flight_mode_t`. -/
inductive FlightMode where
  | manual
  | stabilize
  | altHold
  | loiter
  | rth
  | land
  | acro
  | mission
  deriving Repr, DecidableEq

/-- The modes, in the order of their numbers; there are `FLIGHT_MODE_COUNT` of them. -/
def flightModes : List FlightMode :=
  [.manual, .stabilize, .altHold, .loiter, .rth, .land, .acro, .mission]

/-- `(flight_mode_t)mode`, for a number below `FLIGHT_MODE_COUNT`. -/
def flightModeOf (mode : U8) : Option FlightMode := flightModes[mode.toNat]?

/-- `arm_state_t`. -/
inductive ArmState where
  | disarmed
  | armed
  deriving Repr, DecidableEq

theorem ArmState.eq_disarmed_of_ne {a : ArmState} (h : a ≠ .armed) : a = .disarmed := by
  cases a with
  | disarmed => rfl
  | armed => exact absurd rfl h

/-! ## Samples -/

section

variable (F D : Type*)

/-- `vehicle_status_t`. -/
structure VehicleStatus where
  timestampUs : U64
  armState : ArmState
  flightMode : FlightMode
  failsafe : FailsafeState
  sensorImuOk : Bool
  sensorBaroOk : Bool
  sensorMagOk : Bool
  sensorGpsOk : Bool
  rcOk : Bool
  batteryOk : Bool
  deriving Repr, DecidableEq

/-- A status that is all zero. -/
def VehicleStatus.zero : VehicleStatus :=
  ⟨0, .disarmed, .manual, .none, false, false, false, false, false, false⟩

scoped instance neZero16 : NeZero 16 := ⟨by decide⟩

/-- `rc_channels_t`; `channels` has `RC_CHANNELS_MAX` values. -/
structure RcChannels where
  timestampUs : U64
  channels : Fin 16 → F
  channelCount : U8
  signalLost : Bool

/-- `actuator_controls_t`. -/
structure ActuatorControls where
  timestampUs : U64
  roll : F
  pitch : F
  yaw : F
  collective : F
  throttle : F
  landDetected : Bool
  deriving DecidableEq

/-- `sensor_gps_t`. -/
structure GpsData where
  timestampUs : U64
  latitude : D
  longitude : D
  altitudeMsl : F
  fixType : U8
  satellites : U8
  deriving DecidableEq

/-- `vehicle_local_position_t`. -/
structure VehicleLocalPosition where
  alt : F
  climbRate : F

/-- `vehicle_attitude_t`. -/
structure VehicleAttitude where
  roll : F
  pitch : F
  yaw : F
  rollspeed : F
  pitchspeed : F
  yawspeed : F

/-- `airspeed_t`. -/
structure Airspeed where
  indicatedAirspeed : F
  valid : Bool

end

section

variable {F D : Type*} [CFloat F] [CFloat D]

-- What the samples of a task are before the first copy.

def RcChannels.zero : RcChannels F := ⟨0, fun _ => lit 0, 0, false⟩

def ActuatorControls.zero : ActuatorControls F := ⟨0, lit 0, lit 0, lit 0, lit 0, lit 0, false⟩

def GpsData.zero : GpsData F D := ⟨0, lit 0, lit 0, lit 0, 0, 0⟩

def VehicleLocalPosition.zero : VehicleLocalPosition F := ⟨lit 0, lit 0⟩

def VehicleAttitude.zero : VehicleAttitude F := ⟨lit 0, lit 0, lit 0, lit 0, lit 0, lit 0⟩

def Airspeed.zero : Airspeed F := ⟨lit 0, false⟩

end

end MmIotEsp32.HeliFc
