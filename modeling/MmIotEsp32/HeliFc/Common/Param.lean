/-
  MmIotEsp32.HeliFc.Common.Param

  The parameter table (`common/param.c`, `common/param.h`).

  A value from flash is taken only when it is in the range of its parameter; a value that is
  set is moved into the range by two comparisons, which let a "not a number" through.
-/
import MmIotEsp32.Lib.CFloat

namespace MmIotEsp32.HeliFc

open Lib

/-- `param_id_t`, in the order of the table. -/
inductive ParamId where
  | rollRateKp
  | rollRateKi
  | rollRateKd
  | rollRateFf
  | pitchRateKp
  | pitchRateKi
  | pitchRateKd
  | pitchRateFf
  | yawRateKp
  | yawRateKi
  | yawRateKd
  | yawRateFf
  | rateK
  | attRollKp
  | attPitchKp
  | attYawKp
  | altKp
  | climbRateKp
  | climbRateKi
  | climbRateKd
  | maxClimbRate
  | maxRollDeg
  | maxPitchDeg
  | maxYawRateDeg
  | maxRollRateDeg
  | maxPitchRateDeg
  | ahrsBeta
  | altCfAlpha
  | ccpmAngleOffset
  | collectiveRange
  | cyclicRange
  | servoCenterUs
  | servoRangeUs
  | escMinUs
  | escMaxUs
  | tailCollFf
  | tailCollFfOfs
  | tailThrFf
  | yawCcw
  | servoLinearize
  | spoolupTime
  | battLowV
  | battCritV
  | battVdivRatio
  | rcDeadzone
  | rcArmThreshold
  | rcCollArmMax
  | sensorTimeoutMs
  | gcsTimeoutMs
  deriving Repr, DecidableEq

/-- `param_meta_t`. -/
structure ParamMeta where
  name : String
  defaultVal : ℚ
  minVal : ℚ
  maxVal : ℚ

/-- `s_param_table`. -/
def paramTable : ParamId → ParamMeta
  | .rollRateKp => ⟨"MC_ROLLRATE_P", 0, 0, 2⟩
  | .rollRateKi => ⟨"MC_ROLLRATE_I", 0, 0, 1⟩
  | .rollRateKd => ⟨"MC_ROLLRATE_D", 0, 0, 0.1⟩
  | .rollRateFf => ⟨"MC_ROLLRATE_FF", 0.1, 0, 2⟩
  | .pitchRateKp => ⟨"MC_PITCHRATE_P", 0, 0, 2⟩
  | .pitchRateKi => ⟨"MC_PITCHRATE_I", 0, 0, 1⟩
  | .pitchRateKd => ⟨"MC_PITCHRATE_D", 0, 0, 0.1⟩
  | .pitchRateFf => ⟨"MC_PITCHRATE_FF", 0.1, 0, 2⟩
  | .yawRateKp => ⟨"MC_YAWRATE_P", 0.3, 0, 2⟩
  | .yawRateKi => ⟨"MC_YAWRATE_I", 0.1, 0, 1⟩
  | .yawRateKd => ⟨"MC_YAWRATE_D", 0, 0, 0.1⟩
  | .yawRateFf => ⟨"MC_YAWRATE_FF", 0, 0, 2⟩
  | .rateK => ⟨"MC_RATE_K", 1, 0.1, 5⟩
  | .attRollKp => ⟨"MC_ROLL_P", 4.5, 0.5, 12⟩
  | .attPitchKp => ⟨"MC_PITCH_P", 4.5, 0.5, 12⟩
  | .attYawKp => ⟨"MC_YAW_P", 2, 0.5, 8⟩
  | .altKp => ⟨"MPC_Z_P", 1, 0.1, 5⟩
  | .climbRateKp => ⟨"MPC_Z_VEL_P", 0.5, 0.1, 2⟩
  | .climbRateKi => ⟨"MPC_Z_VEL_I", 0.1, 0, 1⟩
  | .climbRateKd => ⟨"MPC_Z_VEL_D", 0, 0, 0.5⟩
  | .maxClimbRate => ⟨"MPC_Z_VEL_MAX", 2, 0.5, 10⟩
  | .maxRollDeg => ⟨"MC_ROLL_LIM", 45, 10, 80⟩
  | .maxPitchDeg => ⟨"MC_PITCH_LIM", 45, 10, 80⟩
  | .maxYawRateDeg => ⟨"MC_YAWRATE_LIM", 180, 30, 360⟩
  | .maxRollRateDeg => ⟨"MC_ACRO_R_MAX", 360, 30, 720⟩
  | .maxPitchRateDeg => ⟨"MC_ACRO_P_MAX", 360, 30, 720⟩
  | .ahrsBeta => ⟨"EKF2_BETA", 0.1, 0.01, 1⟩
  | .altCfAlpha => ⟨"EKF2_BARO_CF", 0.98, 0.5, 0.999⟩
  | .ccpmAngleOffset => ⟨"H_CCPM_OFFSET", 0, -180, 180⟩
  | .collectiveRange => ⟨"H_COLL_RANGE", 1, 0.1, 2⟩
  | .cyclicRange => ⟨"H_CYC_RANGE", 1, 0.1, 2⟩
  | .servoCenterUs => ⟨"H_SERVO_CTR", 1500, 1000, 2000⟩
  | .servoRangeUs => ⟨"H_SERVO_RNG", 500, 100, 600⟩
  | .escMinUs => ⟨"H_ESC_MIN", 1000, 800, 1200⟩
  | .escMaxUs => ⟨"H_ESC_MAX", 2000, 1800, 2200⟩
  | .tailCollFf => ⟨"H_TAIL_FF", 0.3, 0, 2⟩
  | .tailCollFfOfs => ⟨"H_TAIL_FF_OFS", 0, -1, 1⟩
  | .tailThrFf => ⟨"H_TAIL_THR_FF", 0, 0, 2⟩
  | .yawCcw => ⟨"H_YAW_CCW", 0, 0, 1⟩
  | .servoLinearize => ⟨"H_SVO_THROW", 0, 0, 75⟩
  | .spoolupTime => ⟨"COM_SPOOLUP_T", 10, 0, 30⟩
  | .battLowV => ⟨"BAT_V_LOW", 10.5, 6, 50⟩
  | .battCritV => ⟨"BAT_V_CRIT", 9.6, 5, 48⟩
  | .battVdivRatio => ⟨"BAT_V_DIV", 11, 1, 50⟩
  | .rcDeadzone => ⟨"RC_DZ", 0.05, 0, 0.3⟩
  | .rcArmThreshold => ⟨"RC_ARM_TH", 0.5, 0.1, 0.9⟩
  | .rcCollArmMax => ⟨"RC_COLL_ARM", -0.8, -1, 0⟩
  | .sensorTimeoutMs => ⟨"SYS_SENS_TMO", 500, 100, 5000⟩
  | .gcsTimeoutMs => ⟨"SYS_GCS_TMO", 5000, 1000, 30000⟩

/-- The ids, in order; there are `PARAM_COUNT` of them. -/
def paramIds : List ParamId :=
  [.rollRateKp, .rollRateKi, .rollRateKd, .rollRateFf, .pitchRateKp, .pitchRateKi, .pitchRateKd,
   .pitchRateFf, .yawRateKp, .yawRateKi, .yawRateKd, .yawRateFf, .rateK, .attRollKp, .attPitchKp,
   .attYawKp, .altKp, .climbRateKp, .climbRateKi, .climbRateKd, .maxClimbRate, .maxRollDeg,
   .maxPitchDeg, .maxYawRateDeg, .maxRollRateDeg, .maxPitchRateDeg, .ahrsBeta, .altCfAlpha,
   .ccpmAngleOffset, .collectiveRange, .cyclicRange, .servoCenterUs, .servoRangeUs, .escMinUs,
   .escMaxUs, .tailCollFf, .tailCollFfOfs, .tailThrFf, .yawCcw, .servoLinearize, .spoolupTime,
   .battLowV, .battCritV, .battVdivRatio, .rcDeadzone, .rcArmThreshold, .rcCollArmMax,
   .sensorTimeoutMs, .gcsTimeoutMs]

theorem mem_paramIds (id : ParamId) : id ∈ paramIds := by
  cases id <;> decide

/-- `param_find`: the names are compared up to 16 characters. -/
def paramFind (name : String) : Option ParamId :=
  paramIds.find? fun id => (paramTable id).name.toList.take 16 == name.toList.take 16

section

variable {F : Type*} [CFloat F]

/-- `s_values`. -/
abbrev Params (F : Type*) := ParamId → F

def paramGet (params : Params F) (id : ParamId) : F := params id

/-- `param_init`, with what the flash has of each parameter. -/
def paramInit (nvs : ParamId → Option F) : Params F := fun id =>
  match nvs id with
  | none => lit (paramTable id).defaultVal
  | some val =>
    if CFloat.le (lit (paramTable id).minVal) val && CFloat.le val (lit (paramTable id).maxVal)
    then val
    else lit (paramTable id).defaultVal

/-- The value moved into the range of its parameter. -/
def paramClamp (id : ParamId) (value : F) : F :=
  let value :=
    if CFloat.lt value (lit (paramTable id).minVal) then lit (paramTable id).minVal else value
  if CFloat.lt (lit (paramTable id).maxVal) value then lit (paramTable id).maxVal else value

/-- `param_set`; a value that is equal to the old one is not written. -/
def paramSet (params : Params F) (id : ParamId) (value : F) : Params F :=
  if CFloat.beq (params id) (paramClamp id value) then params
  else Function.update params id (paramClamp id value)

end

/-! ## The ranges -/

/-- Every parameter is in its range. -/
def ParamsInRange (params : Params ℚ) : Prop :=
  ∀ id, (paramTable id).minVal ≤ params id ∧ params id ≤ (paramTable id).maxVal

theorem paramTable_default_inRange (id : ParamId) :
    (paramTable id).minVal ≤ (paramTable id).defaultVal
      ∧ (paramTable id).defaultVal ≤ (paramTable id).maxVal := by
  cases id <;> constructor <;> norm_num [paramTable]

theorem paramInit_inRange (nvs : ParamId → Option ℚ) : ParamsInRange (paramInit nvs) := by
  intro id
  unfold paramInit
  split
  · exact paramTable_default_inRange id
  next val _ =>
    split
    · next hrange =>
        obtain ⟨hmin, hmax⟩ := Bool.and_eq_true _ _ ▸ hrange
        exact ⟨of_decide_eq_true hmin, of_decide_eq_true hmax⟩
    · exact paramTable_default_inRange id

theorem paramClamp_inRange (id : ParamId) (value : ℚ) :
    (paramTable id).minVal ≤ paramClamp id value
      ∧ paramClamp id value ≤ (paramTable id).maxVal := by
  have hrange := paramTable_default_inRange id
  have hle := le_trans hrange.1 hrange.2
  unfold paramClamp
  simp only [CFloat.lt, CFloat.lit, decide_eq_true_eq, id_eq]
  split_ifs <;> constructor <;> linarith

theorem ParamsInRange.paramSet {params : Params ℚ} (h : ParamsInRange params) (id : ParamId)
    (value : ℚ) : ParamsInRange (paramSet params id value) := by
  intro id'
  unfold HeliFc.paramSet
  split
  · exact h id'
  by_cases hsame : id' = id
  · subst hsame
    rw [Function.update_self]
    exact paramClamp_inRange id' value
  · rw [Function.update_of_ne hsame]
    exact h id'

end MmIotEsp32.HeliFc
