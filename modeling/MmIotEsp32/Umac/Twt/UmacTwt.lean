/-
  MmIotEsp32.Umac.Twt.UmacTwt

  The target wake time of the station: the configuration the application leaves
  behind, and the agreement that is built from it when the supplicant asks for one
  (`umac_twt.c`, `morse_twt_conf`).
-/
import MmIotEsp32.Common.Mmosal
import MmIotEsp32.Lib.BitFields
import Mathlib.Order.Bounds.Basic

namespace MmIotEsp32.Umac.Twt

open Lib

/-! ## The request type word of an agreement -/

/-- A field of `enum dot11_twt_request_type_field`. -/
structure RequestTypeField where
  mask : U16
  shift : Nat

def reqTypeRequest : RequestTypeField := ⟨0x0001, 0⟩
def reqTypeSetupCommand : RequestTypeField := ⟨0x000e, 1⟩
def reqTypeImplicit : RequestTypeField := ⟨0x0020, 5⟩
def reqTypeFlowIdentifier : RequestTypeField := ⟨0x0380, 7⟩
def reqTypeWakeIntervalExp : RequestTypeField := ⟨0x7c00, 10⟩

/-- `DOT11_TWT_REQUEST_TYPE_FIELD_SET_*`, on a little-endian host. -/
def requestTypeFieldSet (f : RequestTypeField) (reqType val : U16) : U16 :=
  putMasked reqType f.mask (val <<< f.shift)

/-- `dot11_twt_request_type_field_get_*`. -/
def requestTypeFieldGet (f : RequestTypeField) (reqType : U16) : U16 :=
  (reqType &&& f.mask) >>> f.shift

/-- `DOT11_TWT_SETUP_CMD_*`, of which a requester may send the first four. -/
def isRequestorSetupCmd (twtSetupCmd : U8) : Bool :=
  twtSetupCmd = 0 || twtSetupCmd = 1 || twtSetupCmd = 2 || twtSetupCmd = 3

/-! ## The data -/

/-- `enum umac_twt_agreement_state`. -/
inductive AgreementState
  | empty
  | pendingResponse
  | pendingInstallation
  | installed
deriving DecidableEq, Repr

structure UmacTwtParams where
  reqType : U16
  twt : U64
  minTwtDur : U8
  mantissa : U16
  channel : U8
deriving DecidableEq, Repr

structure UmacTwtAgreementData where
  state : AgreementState
  wakeIntervalUs : U64
  control : U8
  params : UmacTwtParams
deriving DecidableEq, Repr

inductive MmwlanTwtMode
  | disabled
  | requester
  | responder
deriving DecidableEq, Repr

structure MmwlanTwtConfigArgs where
  twtMode : MmwlanTwtMode
  twtWakeIntervalUs : U64
  twtWakeIntervalMantissa : U16
  twtWakeIntervalExponent : U8
  twtMinWakeDurationUs : U32
  twtSetupCommand : U8
deriving DecidableEq, Repr

/-- `struct umac_twt_data`; `UMAC_TWT_NUM_AGREEMENTS` is 1. -/
structure UmacTwtData where
  vifId : U16
  requester : Bool
  responder : Bool
  agreement : UmacTwtAgreementData
  twtConfig : MmwlanTwtConfigArgs
deriving DecidableEq, Repr

/-- What an agreement is asked for with: an interval, or its mantissa and exponent. -/
inductive WakeInterval
  | us (wakeIntervalUs : U64)
  | expl (mantissa : U16) (exponent : U8)
deriving DecidableEq, Repr

/-- A `struct umac_twt_command` of one of the two configure types. -/
structure UmacTwtCommand where
  wakeInterval : WakeInterval
  minWakeDurationUs : U32
  twtSetupCommand : U8
deriving DecidableEq, Repr

structure MmdrvTwtData where
  interfaceId : U16
  flowId : U8
  control : U8
  params : UmacTwtParams
deriving DecidableEq, Repr

/-- The `enum mmwlan_status` values of these functions. -/
inductive TwtStatus
  | success
  | error
  | invalidArgument
  | unavailable
  | notInitialized
deriving DecidableEq, Repr

/-! ## The functions -/

def morseIntCeil (num div : U32) : U32 := (num + div - 1) / div

def twtWakeDurationUnit : U32 := 256

def umacTwtCalculateWakeDuration (wakeDuration : U32) : U32 :=
  morseIntCeil wakeDuration twtWakeDurationUnit

/-- `umac_twt_calculate_wake_interval`; the language gives no meaning to a shift by 64 or
more, which only an explicit exponent can ask for. -/
def umacTwtCalculateWakeInterval (mantissa : U16) (exponent : Nat) : U64 :=
  mantissa.setWidth 64 <<< exponent

/-- The loop of `umac_twt_calculate_wake_interval_fields`. -/
def wakeIntervalFieldsLoop : Nat → U64 → Nat → U64 × Nat
  | 0, m, e => (m, e)
  | fuel + 1, m, e =>
    if 0xffff < m then wakeIntervalFieldsLoop fuel (m >>> 1) (e + 1) else (m, e)

/-- `umac_twt_calculate_wake_interval_fields`: the mantissa and the exponent.  Nothing is left
of a 64-bit value after as many shifts. -/
def umacTwtCalculateWakeIntervalFields (wakeIntervalUs : U64) : U16 × Nat :=
  let (m, e) := wakeIntervalFieldsLoop 64 wakeIntervalUs 0
  (m.setWidth 16, e)

/-- The mantissa, the exponent and the interval in force that `umac_twt_handle_configure`
takes from a command. -/
def commandFields (cmd : UmacTwtCommand) : U16 × Nat × U64 :=
  match cmd.wakeInterval with
  | .expl mantissa exponent =>
    (mantissa, exponent.toNat, umacTwtCalculateWakeInterval mantissa exponent.toNat)
  | .us wakeIntervalUs =>
    let (mantissa, exponent) := umacTwtCalculateWakeIntervalFields wakeIntervalUs
    (mantissa, exponent, umacTwtCalculateWakeInterval mantissa exponent)

/-- `min_twt_dur` of a command. -/
def commandMinTwtDur (cmd : UmacTwtCommand) : U8 :=
  let minTwtDur := umacTwtCalculateWakeDuration cmd.minWakeDurationUs
  if 0xff < minTwtDur then 0xff else minTwtDur.setWidth 8

/-- `umac_twt_handle_configure`; the parameter is `mmdrv_twt_agreement_validate_req`, and `none`
the failed assertion. -/
def umacTwtHandleConfigure (validateReq : MmdrvTwtData → Int) (data : UmacTwtData)
    (cmd : UmacTwtCommand) : Option (UmacTwtData × TwtStatus) :=
  -- `umac_twt_get_empty_agreement`
  if data.agreement.state ≠ .empty then some (data, .unavailable)
  else
    let flowId : U8 := 0
    let (mantissa, exponent, wakeIntervalUs) := commandFields cmd
    let reqType := data.agreement.params.reqType
    let reqType := requestTypeFieldSet reqTypeImplicit reqType 1
    let reqType := requestTypeFieldSet reqTypeFlowIdentifier reqType (flowId.setWidth 16)
    let reqType := requestTypeFieldSet reqTypeWakeIntervalExp reqType (BitVec.ofNat 16 exponent)
    let agreement :=
      { data.agreement with
        wakeIntervalUs := wakeIntervalUs
        params := { data.agreement.params with
          mantissa := mantissa, minTwtDur := commandMinTwtDur cmd, reqType := reqType } }
    if !data.requester then none
    else if !isRequestorSetupCmd cmd.twtSetupCommand then
      some ({ data with agreement := agreement }, .invalidArgument)
    else
      let reqType := requestTypeFieldSet reqTypeRequest reqType 1
      let reqType :=
        requestTypeFieldSet reqTypeSetupCommand reqType (cmd.twtSetupCommand.setWidth 16)
      let agreement := { agreement with params := { agreement.params with reqType := reqType } }
      let mmdrvTwtData : MmdrvTwtData :=
        { interfaceId := data.vifId
          flowId := flowId
          control := agreement.control
          params := agreement.params }
      if validateReq mmdrvTwtData ≠ 0 then
        some ({ data with agreement := { agreement with state := .empty } }, .error)
      else
        some ({ data with agreement := { agreement with state := .pendingResponse } }, .success)

def umacTwtAddConfiguration (data : UmacTwtData) (args : MmwlanTwtConfigArgs) : UmacTwtData :=
  if args.twtWakeIntervalMantissa ≠ 0 ∨ args.twtWakeIntervalExponent ≠ 0 then
    let twtWakeIntervalUs :=
      umacTwtCalculateWakeInterval args.twtWakeIntervalMantissa args.twtWakeIntervalExponent.toNat
    { data with twtConfig := { args with twtWakeIntervalUs := twtWakeIntervalUs } }
  else { data with twtConfig := args }

def mmwlanTwtAddConfiguration (initialised staDisabled : Bool) (data : UmacTwtData)
    (args : MmwlanTwtConfigArgs) : UmacTwtData × TwtStatus :=
  if !initialised then (data, .notInitialized)
  else if !staDisabled then (data, .unavailable)
  else if args.twtWakeIntervalUs ≤ args.twtMinWakeDurationUs.setWidth 64 then
    (data, .invalidArgument)
  else (umacTwtAddConfiguration data args, .success)

def umacTwtInitVif (data : UmacTwtData) (vifId : U16) : UmacTwtData :=
  { data with vifId := vifId, requester := true, responder := false }

/-- `struct morse_twt`, as `config_add_network` fills it in for a requester. -/
structure MorseTwt where
  wakeIntervalUs : U64
  wakeDurationUs : U32
  setupCommand : U8
deriving DecidableEq, Repr

/-- The copy of `config_add_network`. -/
def twtConf (twtConfig : MmwlanTwtConfigArgs) : MorseTwt where
  wakeIntervalUs := twtConfig.twtWakeIntervalUs
  wakeDurationUs := twtConfig.twtMinWakeDurationUs
  setupCommand := twtConfig.twtSetupCommand

/-- `morse_twt_conf`: the data afterwards and the value it returns. -/
def morseTwtConf (validateReq : MmdrvTwtData → Int) (data : UmacTwtData) (conf : MorseTwt) :
    Option (UmacTwtData × Int) :=
  let wakeInterval :=
    if data.twtConfig.twtWakeIntervalMantissa ≠ 0 ∨ data.twtConfig.twtWakeIntervalExponent ≠ 0 then
      .expl data.twtConfig.twtWakeIntervalMantissa data.twtConfig.twtWakeIntervalExponent
    else .us conf.wakeIntervalUs
  let cmd : UmacTwtCommand :=
    { wakeInterval := wakeInterval
      minWakeDurationUs := conf.wakeDurationUs
      twtSetupCommand := conf.setupCommand }
  (umacTwtHandleConfigure validateReq data cmd).map fun (data, status) =>
    (data, if status = .success then 0 else -1)

/-! ## The interval -/

theorem wakeIntervalFieldsLoop_spec (fuel : Nat) (m : U64) (e : Nat)
    (h : m.toNat < 2 ^ (16 + fuel)) :
    ∃ k, (wakeIntervalFieldsLoop fuel m e).2 = e + k
      ∧ (wakeIntervalFieldsLoop fuel m e).1.toNat = m.toNat / 2 ^ k
      ∧ m.toNat / 2 ^ k < 2 ^ 16 ∧ ∀ j < k, 2 ^ 16 ≤ m.toNat / 2 ^ j := by
  induction fuel generalizing m e with
  | zero => exact ⟨0, rfl, (Nat.div_one _).symm, by simpa using h, by simp⟩
  | succ fuel ih =>
    rw [wakeIntervalFieldsLoop]
    by_cases hbig : 0xffff < m
    · rw [if_pos hbig]
      have hbig' : 2 ^ 16 ≤ m.toNat := BitVec.lt_def.mp hbig
      have hhalf : (m >>> 1).toNat = m.toNat / 2 := by
        rw [BitVec.toNat_ushiftRight, Nat.shiftRight_eq_div_pow]
      have hfuel : (m >>> 1).toNat < 2 ^ (16 + fuel) := by
        rw [hhalf]
        rw [← Nat.add_assoc, Nat.pow_succ] at h
        omega
      obtain ⟨k, he, hm, hfits, hmin⟩ := ih (m >>> 1) (e + 1) hfuel
      have hdiv : ∀ j, (m >>> 1).toNat / 2 ^ j = m.toNat / 2 ^ (j + 1) := by
        intro j
        rw [hhalf, Nat.div_div_eq_div_mul, Nat.pow_succ, Nat.mul_comm 2]
      refine ⟨k + 1, by rw [he]; omega, by rw [hm, hdiv], by rw [← hdiv]; exact hfits, ?_⟩
      intro j hj
      cases j with
      | zero => simpa using hbig'
      | succ j =>
        rw [← hdiv]
        exact hmin j (by omega)
    rw [if_neg hbig]
    have hsmall : m.toNat < 2 ^ 16 := by
      have : ¬ 0xffff < m.toNat := fun hlt => hbig (BitVec.lt_def.mpr hlt)
      omega
    exact ⟨0, rfl, (Nat.div_one _).symm, by simpa using hsmall, by simp⟩

theorem wakeIntervalFields_spec (wakeIntervalUs : U64) :
    let fields := umacTwtCalculateWakeIntervalFields wakeIntervalUs
    fields.1.toNat = wakeIntervalUs.toNat / 2 ^ fields.2
      ∧ ∀ e < fields.2, 2 ^ 16 ≤ wakeIntervalUs.toNat / 2 ^ e := by
  have hlt : wakeIntervalUs.toNat < 2 ^ (16 + 64) :=
    Nat.lt_of_lt_of_le wakeIntervalUs.isLt (by decide)
  obtain ⟨k, he, hm, hfits, hmin⟩ := wakeIntervalFieldsLoop_spec 64 wakeIntervalUs 0 hlt
  rw [Nat.zero_add] at he
  show ((wakeIntervalFieldsLoop 64 wakeIntervalUs 0).1.setWidth 16).toNat
      = wakeIntervalUs.toNat / 2 ^ (wakeIntervalFieldsLoop 64 wakeIntervalUs 0).2
    ∧ ∀ e < (wakeIntervalFieldsLoop 64 wakeIntervalUs 0).2, 2 ^ 16 ≤ wakeIntervalUs.toNat / 2 ^ e
  rw [he, BitVec.toNat_setWidth, hm, Nat.mod_eq_of_lt hfits]
  exact ⟨rfl, hmin⟩

theorem fields_exponent_lt_iff (wakeIntervalUs : U64) :
    (umacTwtCalculateWakeIntervalFields wakeIntervalUs).2 < 32
      ↔ wakeIntervalUs.toNat < 2 ^ 47 := by
  obtain ⟨hm, hmin⟩ := wakeIntervalFields_spec wakeIntervalUs
  generalize (umacTwtCalculateWakeIntervalFields wakeIntervalUs).2 = e at hm hmin
  generalize (umacTwtCalculateWakeIntervalFields wakeIntervalUs).1 = m at hm
  constructor
  · intro he
    have hfits : wakeIntervalUs.toNat / 2 ^ e < 2 ^ 16 := hm ▸ m.isLt
    rw [Nat.div_lt_iff_lt_mul (Nat.two_pow_pos e), ← Nat.pow_add] at hfits
    exact Nat.lt_of_lt_of_le hfits (Nat.pow_le_pow_right (by decide) (by omega))
  intro hlt
  by_contra he
  have hbig := hmin 31 (by omega)
  rw [Nat.le_div_iff_mul_le (by decide)] at hbig
  omega

/-! ## What the agreement holds -/

theorem exponentField (reqType flowId command : U16) (exponent : Nat) :
    (requestTypeFieldGet reqTypeWakeIntervalExp
      (requestTypeFieldSet reqTypeSetupCommand
        (requestTypeFieldSet reqTypeRequest
          (requestTypeFieldSet reqTypeWakeIntervalExp
            (requestTypeFieldSet reqTypeFlowIdentifier
              (requestTypeFieldSet reqTypeImplicit reqType 1) flowId)
            (BitVec.ofNat 16 exponent)) 1) command)).toNat = exponent % 32 := by
  unfold requestTypeFieldGet requestTypeFieldSet
  rw [putMasked_and_of_disjoint (by decide), putMasked_and_of_disjoint (by decide),
    putMasked_and_self]
  show (((BitVec.ofNat 16 exponent <<< 10) &&& 0x7c00#16) >>> 10).toNat = exponent % 32
  rw [toNat_maskedField _ _ (show (0x7c00#16).toNat = 2 ^ 10 * (2 ^ 5 - 1) by decide), bitsAt,
    BitVec.toNat_shiftLeft, BitVec.toNat_ofNat, Nat.shiftLeft_eq]
  omega

theorem morseTwtConf_params {validateReq : MmdrvTwtData → Int} {data data' : UmacTwtData}
    {conf : MorseTwt} (hmantissa : data.twtConfig.twtWakeIntervalMantissa = 0)
    (hexponent : data.twtConfig.twtWakeIntervalExponent = 0)
    (hrun : morseTwtConf validateReq data conf = some (data', 0)) :
    let fields := umacTwtCalculateWakeIntervalFields conf.wakeIntervalUs
    data'.agreement.params.mantissa = fields.1
      ∧ (requestTypeFieldGet reqTypeWakeIntervalExp data'.agreement.params.reqType).toNat
          = fields.2 % 32
      ∧ data'.agreement.params.minTwtDur
          = if 0xff < umacTwtCalculateWakeDuration conf.wakeDurationUs then 0xff
            else (umacTwtCalculateWakeDuration conf.wakeDurationUs).setWidth 8 := by
  unfold morseTwtConf at hrun
  rw [if_neg (by rw [hmantissa, hexponent]; simp)] at hrun
  obtain ⟨⟨data₁, status⟩, hconf, hret⟩ := Option.map_eq_some_iff.mp hrun
  simp only [Prod.mk.injEq] at hret
  obtain ⟨rfl, hstatus⟩ := hret
  have hsuccess : status = .success := by
    by_contra hne
    rw [if_neg hne] at hstatus
    omega
  subst hsuccess
  unfold umacTwtHandleConfigure at hconf
  dsimp only at hconf
  split_ifs at hconf
  · simp at hconf
  · simp at hconf
  · simp at hconf
  · obtain ⟨rfl, -⟩ := Prod.mk.inj (Option.some.inj hconf)
    exact ⟨rfl, exponentField _ _ _ _, rfl⟩

/-- The tightest encoding of an interval and a duration that the fields of an agreement allow. -/
structure EncodesTightly (wakeIntervalUs : U64) (minWakeDurationUs : U32)
    (params : UmacTwtParams) (exponent : Nat) : Prop where
  /-- the five bits hold the exponent -/
  field : (requestTypeFieldGet reqTypeWakeIntervalExp params.reqType).toNat = exponent
  lower : params.mantissa.toNat * 2 ^ exponent ≤ wakeIntervalUs.toNat
  upper : wakeIntervalUs.toNat < (params.mantissa.toNat + 1) * 2 ^ exponent
  /-- with a smaller exponent the mantissa has more than sixteen bits -/
  smallest : ∀ e < exponent, 2 ^ 16 ≤ wakeIntervalUs.toNat / 2 ^ e
  /-- the smallest number of units not below the duration, or 255 -/
  duration : ∃ units, IsLeast {n | minWakeDurationUs.toNat ≤ n * 256} units
    ∧ params.minTwtDur.toNat = min units 255

theorem isLeast_units (d : Nat) : IsLeast {n | d ≤ n * 256} ((d + 255) / 256) := by
  constructor
  · show d ≤ (d + 255) / 256 * 256
    omega
  · intro n hn
    have hn' : d ≤ n * 256 := hn
    omega

theorem minTwtDur_toNat (d : U32) :
    (if 0xff < umacTwtCalculateWakeDuration d then 0xff
        else (umacTwtCalculateWakeDuration d).setWidth 8 : U8).toNat
      = min ((d.toNat + 255) % 2 ^ 32 / 256) 255 := by
  have hunits : (umacTwtCalculateWakeDuration d).toNat = (d.toNat + 255) % 2 ^ 32 / 256 := by
    unfold umacTwtCalculateWakeDuration morseIntCeil
    show ((d + 256#32 - 1#32) / 256#32).toNat = _
    rw [BitVec.toNat_udiv, BitVec.toNat_sub, BitVec.toNat_add]
    show (2 ^ 32 - 1 + (d.toNat + 256) % 2 ^ 32) % 2 ^ 32 / 256 = _
    omega
  by_cases hbig : 0xff < umacTwtCalculateWakeDuration d
  · rw [if_pos hbig]
    have : 0xff < (umacTwtCalculateWakeDuration d).toNat := BitVec.lt_def.mp hbig
    show 255 = _
    omega
  rw [if_neg hbig, BitVec.toNat_setWidth, hunits]
  have : ¬ 0xff < (umacTwtCalculateWakeDuration d).toNat := fun hlt =>
    hbig (BitVec.lt_def.mpr hlt)
  omega

/-- **The encoding of a configuration.**  When the application has configured an interval (and
no mantissa or exponent of its own), the station's interface is up and the supplicant has made
its request, the agreement holds the tightest encoding of what was configured, with the exponent
that was computed, if and only if the interval is below `2 ^ 47` and the duration rounded up
stays in a word of 32 bits. -/
theorem configure_encodesTightly_iff (validateReq : MmdrvTwtData → Int)
    (initialised staDisabled : Bool) (data data₁ data₂ : UmacTwtData) (args : MmwlanTwtConfigArgs)
    (vifId : U16) (hmantissa : args.twtWakeIntervalMantissa = 0)
    (hexponent : args.twtWakeIntervalExponent = 0)
    (hconf : mmwlanTwtAddConfiguration initialised staDisabled data args = (data₁, .success))
    (hrun : morseTwtConf validateReq (umacTwtInitVif data₁ vifId) (twtConf data₁.twtConfig)
      = some (data₂, 0)) :
    EncodesTightly args.twtWakeIntervalUs args.twtMinWakeDurationUs data₂.agreement.params
        (umacTwtCalculateWakeIntervalFields args.twtWakeIntervalUs).2
      ↔ args.twtWakeIntervalUs.toNat < 2 ^ 47
        ∧ args.twtMinWakeDurationUs.toNat + 255 < 2 ^ 32 := by
  have hargs : data₁.twtConfig = args := by
    unfold mmwlanTwtAddConfiguration at hconf
    split_ifs at hconf
    · simp at hconf
    · simp at hconf
    · simp at hconf
    · rw [umacTwtAddConfiguration, if_neg (by rw [hmantissa, hexponent]; simp)] at hconf
      obtain ⟨rfl, -⟩ := Prod.mk.inj hconf
      rfl
  obtain ⟨hm, he, hd⟩ := morseTwtConf_params (by exact hargs ▸ hmantissa)
    (by exact hargs ▸ hexponent) hrun
  rw [show (twtConf data₁.twtConfig).wakeIntervalUs = args.twtWakeIntervalUs by rw [hargs]; rfl]
    at hm he
  rw [show (twtConf data₁.twtConfig).wakeDurationUs = args.twtMinWakeDurationUs by rw [hargs]; rfl]
    at hd
  obtain ⟨hfields, hmin⟩ := wakeIntervalFields_spec args.twtWakeIntervalUs
  rw [← fields_exponent_lt_iff]
  generalize umacTwtCalculateWakeIntervalFields args.twtWakeIntervalUs = fields at *
  have hdur := congrArg BitVec.toNat hd
  rw [minTwtDur_toNat] at hdur
  constructor
  · intro henc
    refine ⟨?_, ?_⟩
    · have hfield := henc.field
      rw [he] at hfield
      omega
    obtain ⟨units, hleast, hunits⟩ := henc.duration
    obtain rfl := hleast.unique (isLeast_units _)
    rw [hdur] at hunits
    have := args.twtMinWakeDurationUs.isLt
    omega
  rintro ⟨hexp, hround⟩
  have hpos := Nat.two_pow_pos fields.2
  refine ⟨by rw [he]; omega, ?_, ?_, hmin, _, isLeast_units _, ?_⟩
  · rw [hm, hfields]
    exact Nat.div_mul_le_self _ _
  · rw [hm, hfields, Nat.add_mul, Nat.one_mul]
    exact Nat.lt_div_mul_add hpos
  · rw [hdur, Nat.mod_eq_of_lt hround]

/-- The data of a station whose application configures an interval, before and after. -/
def clearedTwtData : UmacTwtData where
  vifId := 0
  requester := false
  responder := false
  agreement := ⟨.empty, 0, 0, ⟨0, 0, 0, 0, 0⟩⟩
  twtConfig := ⟨.disabled, 0, 0, 0, 0, 0⟩

/-- An interval and a duration, to be requested of the access point. -/
def requestArgs (wakeIntervalUs : U64) (minWakeDurationUs : U32) : MmwlanTwtConfigArgs :=
  ⟨.requester, wakeIntervalUs, 0, 0, minWakeDurationUs, 0⟩

/-- The agreement for such a configuration, if it is accepted, with a firmware that takes it. -/
def configureRun (wakeIntervalUs : U64) (minWakeDurationUs : U32) : Option UmacTwtData :=
  match mmwlanTwtAddConfiguration true true clearedTwtData
      (requestArgs wakeIntervalUs minWakeDurationUs) with
  | (data, .success) =>
    match morseTwtConf (fun _ => 0) (umacTwtInitVif data 0) (twtConf data.twtConfig) with
    | some (data, 0) => some data
    | _ => none
  | _ => none

/-- 300 ms, of which the station wakes for 65.28 ms. -/
theorem configure_encodesTightly_iff_300ms :
    EncodesTightly 300000 65280 ⟨0x0c21, 0, 255, 37500, 0⟩
      (umacTwtCalculateWakeIntervalFields 300000).2 :=
  (configure_encodesTightly_iff (fun _ => 0) true true clearedTwtData _ _
    (requestArgs 300000 65280) 0 rfl rfl rfl rfl).mpr (by decide)

/-- An interval of `2 ^ 47` µs is sent with the exponent 0, and a duration of almost `2 ^ 32` µs as
none at all. -/
theorem twt_encoding_lost :
    (∃ data, configureRun (2 ^ 47) 65536 = some data
      ∧ ¬ EncodesTightly (2 ^ 47) 65536 data.agreement.params
        (umacTwtCalculateWakeIntervalFields (2 ^ 47)).2)
    ∧ ∃ data, configureRun (2 ^ 33) 0xffffffff = some data
      ∧ ¬ EncodesTightly (2 ^ 33) 0xffffffff data.agreement.params
        (umacTwtCalculateWakeIntervalFields (2 ^ 33)).2 := by
  constructor
  · refine ⟨_, rfl, fun henc => ?_⟩
    have hfield := henc.field
    revert hfield
    decide
  refine ⟨_, rfl, fun henc => ?_⟩
  obtain ⟨units, hleast, hunits⟩ := henc.duration
  obtain rfl := hleast.unique (isLeast_units _)
  revert hunits
  decide

end MmIotEsp32.Umac.Twt
