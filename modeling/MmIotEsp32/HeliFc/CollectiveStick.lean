/-
  MmIotEsp32.HeliFc.CollectiveStick

  The collective stick, from the SBUS frame to the two agents that read it
  (`drivers/sbus.c`, `agents/sensor_agent.c`, `agents/flight_ctrl_agent.c`,
  `agents/sysmon_agent.c`).
-/
import MmIotEsp32.HeliFc.Agents.Arming
import MmIotEsp32.HeliFc.Agents.FlightCtrlFrame
import MmIotEsp32.HeliFc.Drivers.Sbus
import MmIotEsp32.Lib.Slew

namespace MmIotEsp32.HeliFc

open Lib

/-! ## From the frame to the topic -/

section

variable {F : Type*} [CFloat F]

def sbusChannelToFloat (raw : U16) : F :=
  let normalized : F := (CFloat.ofInt raw.toNat - lit 992) / lit 820
  let normalized := if CFloat.lt normalized (lit (-1)) then lit (-1) else normalized
  if CFloat.lt (lit 1) normalized then lit 1 else normalized

/-- What the sensor task publishes: the first 8 channels, the others zeroed. -/
def sbusRcMsg (nowUs : U64) (sbus : SbusData) : RcChannels F where
  timestampUs := nowUs
  channels := fun i => if i.val < 8 then sbusChannelToFloat (sbus.channels i) else lit 0
  channelCount := 8
  signalLost := sbus.frameLost

end

/-- The driver: `s_data` and `s_new_data`. -/
structure SbusDriver where
  data : SbusData
  newData : Bool

/-- `sbus_read`: what the task gets, and the driver afterwards. -/
def sbusRead (d : SbusDriver) : Option SbusData × SbusDriver :=
  if d.newData then (some d.data, { d with newData := false }) else (none, d)

/-- The poll of the sensor task: the sample that it publishes. -/
def sensorPoll (d : SbusDriver) (nowUs : U64) : Option (RcChannels ℚ) :=
  match (sbusRead d).1 with
  | none => none
  | some sbus => if sbus.failsafe then none else some (sbusRcMsg nowUs sbus)

/-! ## The system -/

/-- The receiver, the RC topic and its two readers.  `rest` only records: where the stick is
held, as the flight controller has derived it, and for how long. -/
structure StickSystem (D : Type*) where
  sbus : SbusDriver
  topic : OrbTopic (RcChannels ℚ)
  ctrl : FlightCtrl ℚ D
  sys : Sysmon ℚ D
  rest : Rest ℚ

inductive StickEvent (D : Type*) where
  /-- The reader task accepts a frame. -/
  | frame (frame : List U8)
  /-- The sensor task polls the driver. -/
  | poll (nowUs : U64)
  /-- An iteration of the flight controller; its RC sample is the one that waits. -/
  | iterate (e : FlightInput ℚ D)
  /-- A step of sysmon, the same way; the ground station overrides nothing. -/
  | sysmon (e : SysmonEvent ℚ D)

/-- The subscriptions of the readers. -/
def rcSubSysmon : Nat := 0
def rcSubFlightCtrl : Nat := 1

def collRateLimit : ℚ := 1

/-- The time of an iteration, in seconds: that since the last one, up to 20 ms. -/
def iterationTime (nowUs prevUs : U64) : ℚ :=
  let elapsed := (nowUs - prevUs).toNat
  if 0 < elapsed ∧ elapsed ≤ 20000 then elapsed / 1000000 else 1 / 500

variable {D : Type*} [CFloat D] [CFormats ℚ D]

def stickInit (params : Params ℚ) (nvs : ParamId → Option ℚ) (nowUs : U64) : StickSystem D where
  sbus := ⟨⟨fun _ => 0, false, false⟩, false⟩
  topic := ⟨true, none, [none, none]⟩
  ctrl := flightCtrlInit params nowUs
  sys := sysmonInit (paramInit nvs)
  rest := ⟨-1, -1, 0⟩

/-- What the iteration finds, with the RC sample that waits for it. -/
def StickSystem.input (s : StickSystem D) (e : FlightInput ℚ D) : FlightInput ℚ D :=
  { e with rc := s.topic.waiting rcSubFlightCtrl }

/-- The state that the iteration works with. -/
def StickSystem.read (s : StickSystem D) (e : FlightInput ℚ D) : FlightCtrl ℚ D :=
  flightRead s.ctrl (s.input e)

/-- The vehicle is armed, as far as the iteration knows. -/
def StickSystem.Flies (s : StickSystem D) (e : FlightInput ℚ D) : Prop :=
  (s.read e).status.armState = .armed

instance (s : StickSystem D) (e : FlightInput ℚ D) : Decidable (s.Flies e) :=
  inferInstanceAs (Decidable (_ = _))

/-- A step of sysmon, with the RC sample that waits for it. -/
def sysmonInput (s : StickSystem D) : SysmonEvent ℚ D → Option (SysmonEvent ℚ D)
  | .sense nowUs battV samples =>
    some (.sense nowUs battV { samples with rc := s.topic.waiting rcSubSysmon })
  | .command (.rcOverride _) => none
  | e => some e

def stickStep (passes : Nat) (s : StickSystem D) : StickEvent D → Option (StickSystem D)
  | .frame frame => some { s with sbus := ⟨sbusDecodeFrame frame, true⟩ }
  | .poll nowUs =>
    some { s with
      sbus := (sbusRead s.sbus).2
      topic :=
        match sensorPoll s.sbus nowUs with
        | none => s.topic
        | some rc => s.topic.published rc }
  | .iterate e =>
    (flightStep passes s.ctrl (s.input e)).map fun ctrl =>
      { s with
        ctrl := ctrl
        topic := s.topic.copied rcSubFlightCtrl
        rest :=
          if s.Flies e then
            s.rest.next (collRateLimit * iterationTime e.nowUs s.ctrl.prevUs)
              (rcCollective (s.read e).rc) s.ctrl.prevCollective
          else s.rest }
  | .sysmon e =>
    (sysmonInput s e).bind fun e' =>
      (sysmonTaskStep s.sys e').map fun sys =>
        { s with
          sys := sys
          topic :=
            match e' with
            | .sense _ _ _ => s.topic.copied rcSubSysmon
            | _ => s.topic }

/-! ## One channel, one iteration -/

theorem ratLit (q : ℚ) : (lit q : ℚ) = q := rfl

theorem ratLt_iff {a b : ℚ} : CFloat.lt a b = true ↔ a < b := decide_eq_true_iff

theorem ratLe_iff {a b : ℚ} : CFloat.le a b = true ↔ a ≤ b := decide_eq_true_iff

/-- The channel of the collective is on the stick's travel. -/
def InTravel (rc : RcChannels ℚ) : Prop := rc.channels 2 ∈ Set.Icc (-1 : ℚ) 1

theorem sbusChannelToFloat_mem (raw : U16) :
    (sbusChannelToFloat raw : ℚ) ∈ Set.Icc (-1 : ℚ) 1 := by
  unfold sbusChannelToFloat
  simp only [ratLt_iff, ratLit]
  split_ifs with hlow hhigh hhigh
  · constructor <;> linarith
  · constructor <;> linarith
  · constructor <;> linarith
  · exact ⟨not_lt.mp hlow, not_lt.mp hhigh⟩

theorem InTravel.zero : InTravel (RcChannels.zero : RcChannels ℚ) := by
  show (0 : ℚ) ∈ Set.Icc (-1 : ℚ) 1
  norm_num

theorem InTravel.sbusRcMsg (nowUs : U64) (sbus : SbusData) : InTravel (sbusRcMsg nowUs sbus) :=
  sbusChannelToFloat_mem _

theorem rcCollective_eq (rc : RcChannels ℚ) : rcCollective rc = rc.channels 2 * 2 - 1 := rfl

theorem limitCollective_eq_slew (ctrlDt target x : ℚ) :
    limitCollective ctrlDt target x = slew (collRateLimit * ctrlDt) target x := by
  unfold limitCollective slew
  simp only [ratLt_iff]
  rfl

theorem ctrlDtOf_eq (nowUs prevUs : U64) :
    (ctrlDtOf nowUs prevUs : ℚ) = iterationTime nowUs prevUs := by
  unfold ctrlDtOf iterationTime ctrlDtNominal
  simp only [Bool.or_eq_true, ratLt_iff, ratLe_iff, ratLit]
  have hofInt : (CFloat.ofInt (nowUs - prevUs).toNat : ℚ) = ((nowUs - prevUs).toNat : ℚ) :=
    Int.cast_natCast _
  rw [hofInt]
  generalize (nowUs - prevUs).toNat = elapsed
  have hnone : ¬ 0 < elapsed ↔ (elapsed : ℚ) ≤ 0 := by
    rw [not_lt]
    norm_cast
  have hlong : ¬ elapsed ≤ 20000 ↔ (20000 : ℚ) < elapsed := by
    rw [not_le]
    norm_cast
  have hsplit : ((elapsed : ℚ) * 1e-6 ≤ 0 ∨ 0.02 < (elapsed : ℚ) * 1e-6)
      ↔ ¬ (0 < elapsed ∧ elapsed ≤ 20000) := by
    rw [not_and_or, hnone, hlong]
    constructor
    · rintro (h | h)
      · exact Or.inl (by linarith)
      · exact Or.inr (by linarith)
    · rintro (h | h)
      · exact Or.inl (by linarith)
      · exact Or.inr (by linarith)
  by_cases hshort : 0 < elapsed ∧ elapsed ≤ 20000
  · rw [if_neg (by rw [hsplit]; exact not_not_intro hshort), if_pos hshort]
    norm_num
    ring
  · rw [if_pos (hsplit.mpr hshort), if_neg hshort]
    norm_num

theorem iterationTime_nonneg (nowUs prevUs : U64) : 0 ≤ iterationTime nowUs prevUs := by
  unfold iterationTime
  dsimp only
  split
  · exact div_nonneg (Nat.cast_nonneg _) (by norm_num)
  · norm_num

/-- What the modes leave of the stick. -/
structure KeepsStick (s s' : FlightCtrl ℚ D) : Prop where
  rc : s'.rc = s.rc
  prevCollective : s'.prevCollective = s.prevCollective

theorem ModeMove.keepsStick {c : FlightCycle ℚ} {s s' : FlightCtrl ℚ D} {m m' : MissionMgr}
    {mode : FlightMode} {flag : Bool} (h : ModeMove c s m mode s' flag m') : KeepsStick s s' := by
  cases h with
  | manual | acro => exact ⟨rfl, rfl⟩
  | stabilize hs => constructor <;> rw [hs]
  | altHold hs => constructor <;> rw [hs, altHoldSetpoint_frame]
  | loiter hs => constructor <;> rw [hs, loiterSetpoint_frame]
  | rthHolds _ hs => constructor <;> rw [hs, rthHold_frame]
  | rth _ hs => constructor <;> rw [hs, rthAdvance_frame, rthStart_frame]
  | land hs => constructor <;> rw [touchdownDetection_frame, hs, landSetpoint_frame]
  | missionHolds _ hs => constructor <;> rw [hs, missionHold_frame]
  | missionDone _ _ hs | missionSkips _ _ _ hs | missionFlies _ _ _ hs =>
    constructor <;> rw [hs, missionEntered_frame]
  | missionNext _ _ _ hs =>
    constructor <;> dsimp only <;> rw [hs, missionEntered_frame]

/-- The collective of an iteration that flies: the stick's, with the rate limited. -/
def derivedCollective (s : StickSystem D) (e : FlightInput ℚ D) : ℚ :=
  slew (collRateLimit * iterationTime e.nowUs s.ctrl.prevUs) (rcCollective (s.read e).rc)
    s.ctrl.prevCollective

omit [CFloat D] [CFormats ℚ D] in
theorem flightRead_prevCollective (s : FlightCtrl ℚ D) (e : FlightInput ℚ D) :
    (flightRead s e).prevCollective = s.prevCollective := by
  rw [flightRead_frame]
  rfl

omit [CFloat D] [CFormats ℚ D] in
theorem cycleOf_rcColl (passes : Nat) (s : StickSystem D) (e : FlightInput ℚ D) :
    (cycleOf passes s.ctrl (s.input e)).rcColl = derivedCollective s e := by
  show limitCollective (ctrlDtOf e.nowUs s.ctrl.prevUs) (rcCollective (s.read e).rc)
    (s.read e).prevCollective = _
  rw [limitCollective_eq_slew, ctrlDtOf_eq]
  unfold derivedCollective StickSystem.read
  rw [flightRead_prevCollective]

variable {s : StickSystem D} {passes : Nat}

theorem flightStep_stick {e : FlightInput ℚ D}
    {ctrl : FlightCtrl ℚ D} (h : flightStep passes s.ctrl (s.input e) = some ctrl) :
    ctrl.rc = (s.read e).rc ∧ ctrl.prevCollective =
        if s.Flies e then derivedCollective s e else s.ctrl.prevCollective := by
  by_cases hflies : s.Flies e
  · obtain ⟨t, act, m, hmove, rfl⟩ := flightStep_move hflies h
    obtain ⟨hrc, hprev⟩ := hmove.keepsStick
    refine ⟨hrc, ?_⟩
    rw [if_pos hflies, ← cycleOf_rcColl passes]
    exact hprev
  · rw [flightStep_disarmed hflies h, if_neg hflies]
    exact ⟨rfl, flightRead_prevCollective _ _⟩

/-! ## What the claimed scale asks for -/

/-- The stick is no further from its lower end than `RC_COLL_ARM` says, as parts of its
travel. -/
def InArmingPart (s : Sysmon ℚ D) : Prop :=
  (s.lastRc.channels 2 + 1) / 2 ≤ (1 + paramGet s.params .rcCollArmMax) / 2

/-- The rate limiter is on the scale, and where the stick is held for long enough it has
arrived. -/
structure LimiterOk (s : StickSystem D) : Prop where
  range : s.ctrl.prevCollective ∈ Set.Icc (-1 : ℚ) 1
  arrived : |s.rest.target - s.rest.origin| ≤ s.rest.reach →
    s.ctrl.prevCollective = s.rest.target

/-- What is asked of a step: the collective is on the scale before the rate is limited and
after, the limiter keeps its rate, and sysmon arms in the lowest part of the travel only. -/
def StickConsistent (passes : Nat) (s : StickSystem D) : StickEvent D → Prop
  | .iterate e =>
    (s.Flies e → rcCollective (s.read e).rc ∈ Set.Icc (-1 : ℚ) 1
      ∧ derivedCollective s e ∈ Set.Icc (-1 : ℚ) 1)
    ∧ ∀ s', stickStep passes s (.iterate e) = some s' →
      |s'.ctrl.prevCollective - s.ctrl.prevCollective|
        ≤ collRateLimit * iterationTime e.nowUs s.ctrl.prevUs
  | .sysmon e => ∀ s', stickStep passes s (.sysmon e) = some s' →
      s.sys.armState = .disarmed → s'.sys.armState = .armed → InArmingPart s.sys
  | _ => True

/-- The checks of sysmon without that of the collective. -/
structure OtherChecks (s : Sysmon ℚ D) : Prop where
  disarmed : s.armState = .disarmed
  imu : s.ok .imu = true
  rc : s.ok .rc = true
  failsafe : s.failsafe.permitsArming = true

/-- The stick is further up than `RC_COLL_ARM` says, but the collective that sysmon makes of it
is not. -/
def InArmingGap (s : Sysmon ℚ D) : Prop :=
  paramGet s.params .rcCollArmMax < s.lastRc.channels 2
    ∧ s.lastRc.channels 2 ≤ (1 + paramGet s.params .rcCollArmMax) / 2

/-- The stick is in its upper half when it is flown, and out of the gap when the vehicle is
to be armed. -/
def StickHigh (s : StickSystem D) : StickEvent D → Prop
  | .iterate e => s.Flies e → 0 ≤ (s.read e).rc.channels 2
  | .sysmon e => ArmingRequest s.sys e → OtherChecks s.sys → ¬ InArmingGap s.sys
  | _ => True

/-! ## One step -/

/-- Every sample is one of the receiver, and the books on the limiter are right. -/
structure StickInv (s : StickSystem D) : Prop where
  topic : ∀ rc, s.topic.Holds rc → InTravel rc
  ctrl : InTravel s.ctrl.rc
  rest : s.rest.Leads s.ctrl.prevCollective

variable {topic : OrbTopic (RcChannels ℚ)} {rc : RcChannels ℚ}

theorem holds_copied {sub : Nat} (h : (topic.copied sub).Holds rc) : topic.Holds rc := by
  unfold OrbTopic.copied at h
  cases hcopy : orbCopy topic sub with
  | none =>
    rw [hcopy] at h
    exact h
  | some copy =>
    rw [hcopy] at h
    exact (orbCopy_eq_some hcopy).2 rc h

theorem holds_waiting {sub : Nat} (h : topic.waiting sub = some rc) : topic.Holds rc := by
  obtain ⟨⟨_, topic'⟩, hcopy, rfl⟩ := Option.map_eq_some_iff.mp h
  exact (orbCopy_eq_some hcopy).1

theorem holds_published {data rc : RcChannels ℚ}
    (h : (topic.published data).Holds rc) : rc = data ∨ topic.Holds rc := by
  unfold OrbTopic.published at h
  cases hpublish : orbPublish topic data with
  | none =>
    rw [hpublish] at h
    exact Or.inr h
  | some topic' =>
    rw [hpublish] at h
    exact Or.inl (h.of_publish hpublish)

theorem sensorPoll_inTravel {d : SbusDriver} {nowUs : U64}
    (h : sensorPoll d nowUs = some rc) : InTravel rc := by
  unfold sensorPoll at h
  split at h
  · cases h
  split at h
  · cases h
  · cases h
    exact .sbusRcMsg nowUs _

omit [CFloat D] [CFormats ℚ D] in
theorem StickInv.read (h : StickInv s) (e : FlightInput ℚ D) : InTravel (s.read e).rc := by
  have hrc : (s.read e).rc = (s.topic.waiting rcSubFlightCtrl).getD s.ctrl.rc := by
    unfold StickSystem.read
    rw [flightRead_frame]
    rfl
  rw [hrc]
  cases hwaiting : s.topic.waiting rcSubFlightCtrl with
  | none => exact h.ctrl
  | some rc => exact h.topic rc (holds_waiting hwaiting)

theorem limit_nonneg (nowUs prevUs : U64) : 0 ≤ collRateLimit * iterationTime nowUs prevUs := by
  rw [collRateLimit, one_mul]
  exact iterationTime_nonneg nowUs prevUs

theorem StickInv.step {s s' : StickSystem D} {e : StickEvent D} (h : StickInv s)
    (heq : stickStep passes s e = some s') : StickInv s' := by
  cases e with
  | frame frame =>
    cases heq
    exact ⟨h.topic, h.ctrl, h.rest⟩
  | poll nowUs =>
    cases heq
    refine ⟨fun rc hrc => ?_, h.ctrl, h.rest⟩
    dsimp only at hrc
    split at hrc
    · exact h.topic rc hrc
    next data hdata =>
      rcases holds_published hrc with rfl | hold
      · exact sensorPoll_inTravel hdata
      · exact h.topic rc hold
  | iterate e =>
    obtain ⟨ctrl, hstep, rfl⟩ := Option.map_eq_some_iff.mp heq
    obtain ⟨hrc, hprev⟩ := flightStep_stick hstep
    refine ⟨fun rc hold => h.topic rc (holds_copied hold), ?_, ?_⟩
    · show InTravel ctrl.rc
      rw [hrc]
      exact h.read e
    dsimp only
    rw [hprev]
    split
    · exact h.rest.next (limit_nonneg _ _)
    · exact h.rest
  | sysmon e =>
    obtain ⟨e', -, hstep⟩ := Option.bind_eq_some_iff.mp heq
    obtain ⟨sys, -, rfl⟩ := Option.map_eq_some_iff.mp hstep
    refine ⟨fun rc hold => h.topic rc ?_, h.ctrl, h.rest⟩
    dsimp only at hold
    split at hold
    · exact holds_copied hold
    · exact hold

theorem rcCollective_mem_iff (h : InTravel rc) :
    rcCollective rc ∈ Set.Icc (-1 : ℚ) 1 ↔ 0 ≤ rc.channels 2 := by
  obtain ⟨-, htop⟩ := h
  rw [rcCollective_eq, Set.mem_Icc]
  constructor
  · rintro ⟨hlow, -⟩
    linarith
  · intro hpos
    constructor <;> linarith

theorem iterate_consistent_iff (h : StickInv s)
    (hok : LimiterOk s) (e : FlightInput ℚ D) : (StickConsistent passes s (.iterate e)
        ∧ ∀ s', stickStep passes s (.iterate e) = some s' → LimiterOk s')
      ↔ StickHigh s (.iterate e) := by
  constructor
  · rintro ⟨⟨hscale, -⟩, -⟩ hflies
    exact (rcCollective_mem_iff (h.read e)).mp (hscale hflies).1
  intro hhigh
  have hlimit := limit_nonneg e.nowUs s.ctrl.prevUs
  have hscale : s.Flies e → rcCollective (s.read e).rc ∈ Set.Icc (-1 : ℚ) 1
      ∧ derivedCollective s e ∈ Set.Icc (-1 : ℚ) 1 := by
    intro hflies
    have hbefore := (rcCollective_mem_iff (h.read e)).mpr (hhigh hflies)
    exact ⟨hbefore, slew_mem_Icc hlimit hok.range hbefore⟩
  refine ⟨⟨hscale, fun s' heq => ?_⟩, fun s' heq => ⟨?_, (h.step heq).rest.arrived⟩⟩
  · obtain ⟨ctrl, hstep, rfl⟩ := Option.map_eq_some_iff.mp heq
    dsimp only
    rw [(flightStep_stick hstep).2]
    split
    · exact abs_slew_sub_le hlimit
    · rw [sub_self, abs_zero]
      exact hlimit
  obtain ⟨ctrl, hstep, rfl⟩ := Option.map_eq_some_iff.mp heq
  dsimp only
  rw [(flightStep_stick hstep).2]
  split
  · next hflies => exact (hscale hflies).2
  · exact hok.range

omit [CFloat D] [CFormats ℚ D] in
theorem sysmonInput_request {e : SysmonEvent ℚ D}
    (h : ArmingRequest s.sys e) : sysmonInput s e = some e := by
  cases h with
  | switches | command hphase arm harm => rfl

omit [CFloat D] [CFormats ℚ D] in
theorem sysmonInput_of_request {e e' : SysmonEvent ℚ D}
    (heq : sysmonInput s e = some e') (h : ArmingRequest s.sys e') : e' = e := by
  unfold sysmonInput at heq
  split at heq
  · cases heq
    cases h
  · cases heq
  · exact (Option.some.inj heq).symm

omit [CFloat D] [CFormats ℚ D] in
theorem collectiveCheck_iff (s : Sysmon ℚ D) :
    CFloat.lt (paramGet s.params .rcCollArmMax) (rcCollective s.lastRc) = false
      ↔ s.lastRc.channels 2 ≤ (1 + paramGet s.params .rcCollArmMax) / 2 := by
  rw [← Bool.not_eq_true, ratLt_iff, rcCollective_eq, not_lt, le_div_iff₀ (by norm_num)]
  constructor
  · intro h
    linarith
  · intro h
    linarith

theorem sysmon_consistent_iff (hok : LimiterOk s) (e : SysmonEvent ℚ D) :
    (StickConsistent passes s (.sysmon e)
        ∧ ∀ s', stickStep passes s (.sysmon e) = some s' → LimiterOk s')
      ↔ StickHigh s (.sysmon e) := by
  constructor
  · rintro ⟨harms, -⟩ hrequest hother ⟨habove, hcheck⟩
    have hchecks : ArmingChecks s.sys :=
      ⟨hother.disarmed, hother.imu, hother.rc, hother.failsafe, (collectiveCheck_iff _).mpr hcheck⟩
    obtain ⟨sys, hstep, harmed⟩ :=
      (sysmonTaskStep_arms_iff hother.disarmed).mpr ⟨hrequest, hchecks⟩
    have hpart := harms _ (by
      show (sysmonInput s e).bind _ = _
      rw [sysmonInput_request hrequest, Option.bind_some, hstep]
      rfl) hother.disarmed harmed
    unfold InArmingPart at hpart
    linarith
  intro hgap
  refine ⟨fun s' heq hdisarmed harmed => ?_, fun s' heq => ?_⟩
  · obtain ⟨e', hinput, hstep⟩ := Option.bind_eq_some_iff.mp heq
    obtain ⟨sys, hsys, rfl⟩ := Option.map_eq_some_iff.mp hstep
    obtain ⟨hrequest, hchecks⟩ := (sysmonTaskStep_arms_iff hdisarmed).mp ⟨sys, hsys, harmed⟩
    obtain rfl := sysmonInput_of_request hinput hrequest
    have hnot := hgap hrequest ⟨hdisarmed, hchecks.imu, hchecks.rc, hchecks.failsafe⟩
    have hcheck := (collectiveCheck_iff _).mp hchecks.collective
    have hbelow : s.sys.lastRc.channels 2 ≤ paramGet s.sys.params .rcCollArmMax := by
      by_contra habove
      exact hnot ⟨not_le.mp habove, hcheck⟩
    unfold InArmingPart
    linarith
  · obtain ⟨e', -, hstep⟩ := Option.bind_eq_some_iff.mp heq
    obtain ⟨sys, -, rfl⟩ := Option.map_eq_some_iff.mp hstep
    exact ⟨hok.range, hok.arrived⟩

theorem stickConsistent_iff (h : StickInv s) (hok : LimiterOk s) (e : StickEvent D) :
    (StickConsistent passes s e ∧ ∀ s', stickStep passes s e = some s' → LimiterOk s')
      ↔ StickHigh s e := by
  cases e with
  | frame frame | poll nowUs =>
    refine ⟨fun _ => trivial, fun _ => ⟨trivial, fun s' heq => ?_⟩⟩
    cases heq
    exact ⟨hok.range, hok.arrived⟩
  | iterate e => exact iterate_consistent_iff h hok e
  | sysmon e => exact sysmon_consistent_iff hok e

/-! ## Whole runs -/

omit [CFormats ℚ D] in
theorem stickInit_inv (params : Params ℚ) (nvs : ParamId → Option ℚ) (nowUs : U64) :
    StickInv (stickInit params nvs nowUs : StickSystem D) := by
  refine ⟨fun rc hrc => ?_, .zero, ?_⟩
  · simp [stickInit, OrbTopic.Holds] at hrc
  · show |(-1 : ℚ) - (-1)| ≤ max 0 (|(-1 : ℚ) - (-1)| - 0)
    norm_num

omit [CFormats ℚ D] in
theorem stickInit_ok (params : Params ℚ) (nvs : ParamId → Option ℚ) (nowUs : U64) :
    LimiterOk (stickInit params nvs nowUs : StickSystem D) := by
  refine ⟨?_, fun _ => rfl⟩
  show (-1 : ℚ) ∈ Set.Icc (-1 : ℚ) 1
  norm_num

/-- The collective of the stick is on its scale in exactly the runs in which the stick is in its
upper half whenever it is flown, and out of the gap whenever the vehicle is to be armed: on the
scale before the rate is limited and after, within the rate, and where the stick rests once it
has been there for long enough; and sysmon arms in the lowest part of the travel. -/
theorem collective_consistent_iff (passes : Nat) (params : Params ℚ) (nvs : ParamId → Option ℚ)
    (nowUs : U64) (events : List (StickEvent D)) :
    (Throughout (stickStep passes) LimiterOk (stickInit params nvs nowUs) events
        ∧ Along (stickStep passes) (StickConsistent passes) (stickInit params nvs nowUs) events)
      ↔ Along (stickStep passes) StickHigh (stickInit params nvs nowUs) events := by
  have hany : Along (stickStep passes) (fun _ _ => True)
      (stickInit params nvs nowUs : StickSystem D) events := along_of_forall_mem fun _ _ _ => trivial
  exact throughout_and_along_iff (fun _ _ _ h _ heq => h.step heq)
    (fun _ e h hok _ => stickConsistent_iff h hok e) (stickInit_ok params nvs nowUs)
    (stickInit_inv params nvs nowUs) hany

/-- The frame of a stick that is all the way down, and an iteration that flies it. -/
def stickDown : List (StickEvent ℚ) :=
  [.frame ([0x0F, 0, 0, 0, 43] ++ List.replicate 20 0), .poll 2000,
    .iterate
      { nowUs := 4000
        params := paramInit fun _ => none
        mission := missionMgrInit
        att := none
        pos := none
        rc := none
        status := some { VehicleStatus.zero with armState := .armed }
        gps := none
        arspd := none }]

/-- The collective of it is -3. -/
theorem stick_down_leaves_scale :
    ¬ ∀ events : List (StickEvent ℚ),
      Throughout (stickStep 1) LimiterOk
          (stickInit (paramInit fun _ => none) (fun _ => none) 0) events
        ∧ Along (stickStep 1) (StickConsistent 1)
          (stickInit (paramInit fun _ => none) (fun _ => none) 0) events := by
  intro h
  have hdown := ((h stickDown).2.2 _ rfl).2 _ rfl
  obtain ⟨hlow, -⟩ := (hdown.1.1 (by decide +kernel)).1
  exact absurd hlow (by decide +kernel)

end MmIotEsp32.HeliFc
