/-
  MmIotEsp32.HeliFc.Agents.SysmonFrame

  What each step of the cycle of sysmon leaves as it is.
-/
import MmIotEsp32.HeliFc.Agents.SysmonTask

namespace MmIotEsp32.HeliFc

open Lib

variable {F D : Type*}

/-! ## The steps that judge the readings -/

theorem clearHome_frame (s : Sysmon F D) :
    clearHome s = { s with
      homeSet := (clearHome s).homeSet
      homeSent := (clearHome s).homeSent } := by
  unfold clearHome
  split <;> rfl

theorem determineFailsafe_frame (s : Sysmon F D) :
    determineFailsafe s = { s with
      failsafe := newFailsafe s.batt.warning s.batt.critical (decide (s.armState = .armed)) s.ok
      sent := (determineFailsafe s).sent } := by
  unfold determineFailsafe
  dsimp only
  split <;> rfl

theorem failsafeActions_frame (s : Sysmon F D) :
    failsafeActions s = { s with
      flightMode := (failsafeActions s).flightMode
      sent := (failsafeActions s).sent } := by
  unfold failsafeActions
  split
  · split
    · split <;> rfl
    · rfl
    · split <;> rfl
    · rfl
  · rfl

theorem baroDegradation_frame (s : Sysmon F D) :
    baroDegradation s = { s with
      flightMode := (baroDegradation s).flightMode
      sent := (baroDegradation s).sent } := by
  unfold baroDegradation
  split_ifs <;> rfl

theorem magDegradation_frame (s : Sysmon F D) :
    magDegradation s = { s with sent := (magDegradation s).sent } := by
  unfold magDegradation
  split_ifs <;> rfl

theorem gpsDegradation_frame (s : Sysmon F D) :
    gpsDegradation s = { s with
      flightMode := (gpsDegradation s).flightMode
      sent := (gpsDegradation s).sent } := by
  unfold gpsDegradation
  split_ifs <;> rfl

theorem sensorDegradation_frame (s : Sysmon F D) :
    sensorDegradation s = { s with
      flightMode := (sensorDegradation s).flightMode
      sent := (sensorDegradation s).sent
      prevBaroOk := s.ok .baro
      prevMagOk := s.ok .mag } := by
  unfold sensorDegradation
  split_ifs
  · dsimp only
    rw [gpsDegradation_frame, magDegradation_frame, baroDegradation_frame]
  · rfl

theorem autoDisarm_frame (s : Sysmon F D) (act : Option (ActuatorControls F)) :
    autoDisarm s act = { s with
      armState := (autoDisarm s act).armState
      landDetectedStartMs := (autoDisarm s act).landDetectedStartMs
      sent := (autoDisarm s act).sent } := by
  unfold autoDisarm
  split
  · split <;> rfl
  · rfl

/-- The readings of a cycle, and what the steps that judge them leave alone. -/
structure SameReadings (s s' : Sysmon F D) : Prop where
  params : s'.params = s.params
  mission : s'.mission = s.mission
  lastTs : s'.lastTs = s.lastTs
  lastGcsCmdTs : s'.lastGcsCmdTs = s.lastGcsCmdTs
  lastRc : s'.lastRc = s.lastRc
  rcArmPrev : s'.rcArmPrev = s.rcArmPrev
  homeLat : s'.homeLat = s.homeLat
  homeLon : s'.homeLon = s.homeLon
  homeSet : s'.homeSet = s.homeSet
  nowUs : s'.nowUs = s.nowUs
  batt : s'.batt = s.batt
  ok : s'.ok = s.ok
  status : s'.status = s.status

theorem SameReadings.trans {s₁ s₂ s₃ : Sysmon F D} (h : SameReadings s₁ s₂)
    (h' : SameReadings s₂ s₃) : SameReadings s₁ s₃ where
  params := h'.params.trans h.params
  mission := h'.mission.trans h.mission
  lastTs := h'.lastTs.trans h.lastTs
  lastGcsCmdTs := h'.lastGcsCmdTs.trans h.lastGcsCmdTs
  lastRc := h'.lastRc.trans h.lastRc
  rcArmPrev := h'.rcArmPrev.trans h.rcArmPrev
  homeLat := h'.homeLat.trans h.homeLat
  homeLon := h'.homeLon.trans h.homeLon
  homeSet := h'.homeSet.trans h.homeSet
  nowUs := h'.nowUs.trans h.nowUs
  batt := h'.batt.trans h.batt
  ok := h'.ok.trans h.ok
  status := h'.status.trans h.status

theorem sameReadings_determineFailsafe (s : Sysmon F D) : SameReadings s (determineFailsafe s) := by
  rw [determineFailsafe_frame]
  constructor <;> rfl

theorem sameReadings_failsafeActions (s : Sysmon F D) : SameReadings s (failsafeActions s) := by
  rw [failsafeActions_frame]
  constructor <;> rfl

theorem sameReadings_sensorDegradation (s : Sysmon F D) :
    SameReadings s (sensorDegradation s) := by
  rw [sensorDegradation_frame]
  constructor <;> rfl

theorem sameReadings_autoDisarm (s : Sysmon F D) (act : Option (ActuatorControls F)) :
    SameReadings s { autoDisarm s act with phase := .sensed } := by
  rw [autoDisarm_frame]
  constructor <;> rfl

@[simp]
theorem determineFailsafe_armState (s : Sysmon F D) :
    (determineFailsafe s).armState = s.armState := by
  rw [determineFailsafe_frame]

@[simp]
theorem failsafeActions_armState (s : Sysmon F D) :
    (failsafeActions s).armState = s.armState := by
  rw [failsafeActions_frame]

@[simp]
theorem failsafeActions_failsafe (s : Sysmon F D) :
    (failsafeActions s).failsafe = s.failsafe := by
  rw [failsafeActions_frame]

@[simp]
theorem sensorDegradation_armState (s : Sysmon F D) :
    (sensorDegradation s).armState = s.armState := by
  rw [sensorDegradation_frame]

@[simp]
theorem sensorDegradation_failsafe (s : Sysmon F D) :
    (sensorDegradation s).failsafe = s.failsafe := by
  rw [sensorDegradation_frame]

@[simp]
theorem autoDisarm_failsafe (s : Sysmon F D) (act : Option (ActuatorControls F)) :
    (autoDisarm s act).failsafe = s.failsafe := by
  rw [autoDisarm_frame]

@[simp]
theorem sysmonJudge_armState (c : Sysmon F D) : (sysmonJudge c).armState = c.armState := by
  unfold sysmonJudge
  simp

theorem foldl_sendParamValueRpc (ids : List ParamId) (s : Sysmon F D) :
    ids.foldl sendParamValueRpc s
      = { s with sent := (ids.foldl sendParamValueRpc s).sent } := by
  induction ids generalizing s with
  | nil => rfl
  | cons id rest ih =>
    rw [List.foldl_cons, ih]
    rfl

/-! ## The battery, the switches and the ground station -/

variable [CFloat F]

theorem monitorBattery_frame (s : Sysmon F D) (battV : F) :
    monitorBattery s battV = { s with
      battFiltered := (monitorBattery s battV).battFiltered
      battFirst := (monitorBattery s battV).battFirst
      batt := (monitorBattery s battV).batt } := by
  unfold monitorBattery
  split_ifs <;> rfl

theorem armAttempt_frame (s : Sysmon F D) :
    armAttempt s = { s with
      armState := (armAttempt s).armState
      sent := (armAttempt s).sent } := by
  unfold armAttempt
  split_ifs <;> rfl

theorem armSwitch_frame (s : Sysmon F D) :
    armSwitch s = { s with
      armState := (armSwitch s).armState
      rcArmPrev := rcArmNow s.params s.lastRc
      sent := (armSwitch s).sent } := by
  unfold armSwitch
  rw [armAttempt_frame]
  split_ifs <;> rfl

theorem modeSwitch_frame (s : Sysmon F D) :
    modeSwitch s = { s with flightMode := (modeSwitch s).flightMode } := by
  unfold modeSwitch
  split <;> rfl

theorem sysmonSwitches_frame (s : Sysmon F D) :
    sysmonSwitches s = { s with
      phase := .switched
      armState := (sysmonSwitches s).armState
      flightMode := (sysmonSwitches s).flightMode
      rcArmPrev := (sysmonSwitches s).rcArmPrev
      sent := (sysmonSwitches s).sent } := by
  unfold sysmonSwitches
  split
  · rw [modeSwitch_frame, armSwitch_frame]
  · rfl

theorem sysmonGcsTimeout_frame (s : Sysmon F D) :
    sysmonGcsTimeout s = { s with
      phase := .polling
      failsafe := (sysmonGcsTimeout s).failsafe
      sent := (sysmonGcsTimeout s).sent } := by
  unfold sysmonGcsTimeout
  split <;> rfl

theorem armAttempt_arms_iff {s : Sysmon F D} (h : s.armState = .disarmed) :
    (armAttempt s).armState = .armed ↔
      s.ok .imu = true ∧ s.failsafe.permitsArming = true
        ∧ CFloat.lt (paramGet s.params .rcCollArmMax) (rcCollective s.lastRc) = false := by
  unfold armAttempt
  split_ifs <;> simp_all [sendStatustextRpc, Sysmon.send]

theorem armSwitch_arms_iff {s : Sysmon F D} (h : s.armState = .disarmed) :
    (armSwitch s).armState = .armed ↔
      rcArmNow s.params s.lastRc = true ∧ s.rcArmPrev = false ∧ s.ok .imu = true
        ∧ s.failsafe.permitsArming = true
        ∧ CFloat.lt (paramGet s.params .rcCollArmMax) (rcCollective s.lastRc) = false := by
  unfold armSwitch
  by_cases hedge : rcArmNow s.params s.lastRc = true ∧ s.rcArmPrev = false
  · rw [if_pos ⟨hedge.1, hedge.2, h⟩]
    simp only [armAttempt_arms_iff h, hedge.1, hedge.2, true_and]
  · rw [if_neg (fun hc => hedge ⟨hc.1, hc.2.1⟩), if_neg (fun hc => by simp [h] at hc)]
    refine iff_of_false (by simp [h]) fun hc => hedge ⟨hc.1, hc.2.1⟩

theorem commandArm_frame (s : Sysmon F D) (arm : U8) :
    commandArm s arm = { s with
      armState := (commandArm s arm).armState
      sent := (commandArm s arm).sent } := by
  unfold commandArm
  split_ifs <;> rfl

theorem commandArm_arms_iff {s : Sysmon F D} {arm : U8} (h : s.armState = .disarmed) :
    (commandArm s arm).armState = .armed ↔
      arm ≠ 0 ∧ s.ok .imu = true ∧ s.ok .rc = true ∧ s.failsafe.permitsArming = true
        ∧ CFloat.lt (paramGet s.params .rcCollArmMax) (rcCollective s.lastRc) = false := by
  unfold commandArm
  split_ifs <;> simp_all [sendStatustextRpc, Sysmon.send]

/-! ## `sense` and the commands -/

variable [CFloat D]

theorem captureHome_frame (s : Sysmon F D) (gpsData : Option (GpsData F D)) :
    captureHome s gpsData = { s with
      homeLat := (captureHome s gpsData).homeLat
      homeLon := (captureHome s gpsData).homeLon
      homeAltMsl := (captureHome s gpsData).homeAltMsl
      homeSet := (captureHome s gpsData).homeSet
      homeSent := (captureHome s gpsData).homeSent
      sent := (captureHome s gpsData).sent } := by
  unfold captureHome
  cases gpsData with
  | none => rfl
  | some gps =>
    dsimp only
    split <;> rfl

theorem sysmonCheck_frame (s : Sysmon F D) (nowUs : U64) (battV : F)
    (samples : SysmonSamples F D) :
    sysmonCheck s nowUs battV samples = { s with
      battFiltered := (sysmonCheck s nowUs battV samples).battFiltered
      battFirst := (sysmonCheck s nowUs battV samples).battFirst
      lastTs := samples.lastTs s.lastTs
      lastRc := samples.rc.getD s.lastRc
      homeLat := (sysmonCheck s nowUs battV samples).homeLat
      homeLon := (sysmonCheck s nowUs battV samples).homeLon
      homeAltMsl := (sysmonCheck s nowUs battV samples).homeAltMsl
      homeSet := (sysmonCheck s nowUs battV samples).homeSet
      homeSent := (sysmonCheck s nowUs battV samples).homeSent
      nowUs := nowUs
      batt := (sysmonCheck s nowUs battV samples).batt
      ok := (sysmonCheck s nowUs battV samples).ok
      sent := (sysmonCheck s nowUs battV samples).sent } := by
  unfold sysmonCheck
  dsimp only
  rw [clearHome_frame, captureHome_frame, monitorBattery_frame]
  rfl

theorem sameReadings_sysmonSense (s : Sysmon F D) (nowUs : U64) (battV : F)
    (samples : SysmonSamples F D) :
    SameReadings (sysmonCheck s nowUs battV samples) (sysmonSense s nowUs battV samples) :=
  (sameReadings_determineFailsafe _).trans <| (sameReadings_failsafeActions _).trans <|
    (sameReadings_sensorDegradation _).trans (sameReadings_autoDisarm _ _)

@[simp]
theorem sysmonCheck_armState (s : Sysmon F D) (nowUs : U64) (battV : F)
    (samples : SysmonSamples F D) :
    (sysmonCheck s nowUs battV samples).armState = s.armState := by
  rw [sysmonCheck_frame]

theorem sysmonSense_failsafe (s : Sysmon F D) (nowUs : U64) (battV : F)
    (samples : SysmonSamples F D) :
    (sysmonSense s nowUs battV samples).failsafe
      = newFailsafe (sysmonSense s nowUs battV samples).batt.warning
        (sysmonSense s nowUs battV samples).batt.critical (decide (s.armState = .armed))
        (sysmonSense s nowUs battV samples).ok := by
  have hread := sameReadings_sysmonSense s nowUs battV samples
  rw [hread.batt, hread.ok, ← sysmonCheck_armState s nowUs battV samples]
  simp only [sysmonSense, sysmonJudge]
  rw [autoDisarm_failsafe, sensorDegradation_failsafe, failsafeActions_failsafe,
    determineFailsafe_frame]

theorem sysmonSense_armState (s : Sysmon F D) (nowUs : U64) (battV : F)
    (samples : SysmonSamples F D) (h : s.armState = .disarmed) :
    (sysmonSense s nowUs battV samples).armState = .disarmed := by
  simp only [sysmonSense, autoDisarm]
  rw [if_neg (by simp [h])]
  simp [h]

/-- What a command may write, and which command writes it. -/
structure CommandWrites (s s' : Sysmon F D) (cmd : SysmonCommand F) : Prop where
  frame : s' = { s with
    params := s'.params
    mission := s'.mission
    armState := s'.armState
    flightMode := s'.flightMode
    sent := s'.sent }
  armState : s'.armState = s.armState ∨ cmd = .disarm ∨ ∃ arm, cmd = .arm arm
  flightMode : s'.flightMode = s.flightMode ∨ ∃ mode, cmd = .setMode mode
  params : s'.params = s.params ∨ ∃ id value, s'.params = paramSet s.params id value

theorem sysmonTaskCommand_writes {s s' : Sysmon F D} {cmd : SysmonCommand F}
    (h : sysmonTaskCommand s cmd = some s') : CommandWrites s s' cmd := by
  cases cmd with
  | arm arm =>
    cases h
    rw [commandArm_frame]
    exact ⟨rfl, .inr (.inr ⟨arm, rfl⟩), .inl rfl, .inl rfl⟩
  | disarm =>
    cases h
    exact ⟨rfl, .inr (.inl rfl), .inl rfl, .inl rfl⟩
  | setMode mode =>
    cases h
    unfold commandSetMode
    split <;> exact ⟨rfl, .inl rfl, .inr ⟨mode, rfl⟩, .inl rfl⟩
  | paramRequestRead name index =>
    cases h
    unfold commandParamRequestRead
    dsimp only
    split <;> exact ⟨rfl, .inl rfl, .inl rfl, .inl rfl⟩
  | paramRequestList =>
    cases h
    rw [foldl_sendParamValueRpc]
    exact ⟨rfl, .inl rfl, .inl rfl, .inl rfl⟩
  | paramSet name value =>
    cases h
    unfold commandParamSet
    split
    · exact ⟨rfl, .inl rfl, .inl rfl, .inl rfl⟩
    · next id _ => exact ⟨rfl, .inl rfl, .inl rfl, .inr ⟨id, value, rfl⟩⟩
  | reboot =>
    simp only [sysmonTaskCommand] at h
    split at h
    · cases h
      exact ⟨rfl, .inl rfl, .inl rfl, .inl rfl⟩
    · cases h
  | requestHomePosition =>
    cases h
    split <;> exact ⟨rfl, .inl rfl, .inl rfl, .inl rfl⟩
  | _ =>
    cases h
    exact ⟨rfl, .inl rfl, .inl rfl, .inl rfl⟩

/-! ## The step -/

/-- What each event does, and the phase that it waits for. -/
inductive SysmonMove (s : Sysmon F D) : SysmonEvent F D → Sysmon F D → Prop where
  | sense {nowUs : U64} {battV : F} {samples : SysmonSamples F D} (hphase : s.phase = .idle) :
      SysmonMove s (.sense nowUs battV samples) (sysmonSense s nowUs battV samples)
  | switches (hphase : s.phase = .sensed) : SysmonMove s .switches (sysmonSwitches s)
  | gcsTimeout (hphase : s.phase = .switched) : SysmonMove s .gcsTimeout (sysmonGcsTimeout s)
  | command {cmd : SysmonCommand F} {s' : Sysmon F D} (hphase : s.phase = .polling)
      (hcmd : sysmonTaskCommand { s with lastGcsCmdTs := s.nowUs } cmd = some s') :
      SysmonMove s (.command cmd) s'
  | publish (hphase : s.phase = .polling) :
      SysmonMove s .publish { s with phase := .idle, status := vehicleStatusMsg s }

theorem sysmonTaskStep_move {s s' : Sysmon F D} {e : SysmonEvent F D}
    (h : sysmonTaskStep s e = some s') : SysmonMove s e s' := by
  cases e with
  | sense nowUs battV samples =>
    simp only [sysmonTaskStep, Option.ite_none_right_eq_some] at h
    obtain ⟨hphase, heq⟩ := h
    cases heq
    exact .sense hphase
  | switches =>
    simp only [sysmonTaskStep, Option.ite_none_right_eq_some] at h
    obtain ⟨hphase, heq⟩ := h
    cases heq
    exact .switches hphase
  | gcsTimeout =>
    simp only [sysmonTaskStep, Option.ite_none_right_eq_some] at h
    obtain ⟨hphase, heq⟩ := h
    cases heq
    exact .gcsTimeout hphase
  | command cmd =>
    simp only [sysmonTaskStep, Option.ite_none_right_eq_some] at h
    exact .command h.1 h.2
  | publish =>
    simp only [sysmonTaskStep, Option.ite_none_right_eq_some] at h
    obtain ⟨hphase, heq⟩ := h
    cases heq
    exact .publish hphase

theorem sysmonTaskStep_frame {s s' : Sysmon F D} {e : SysmonEvent F D}
    (hsense : ∀ nowUs battV samples, e ≠ .sense nowUs battV samples)
    (h : sysmonTaskStep s e = some s') :
    s' = { s with
      phase := s'.phase
      params := s'.params
      mission := s'.mission
      armState := s'.armState
      flightMode := s'.flightMode
      failsafe := s'.failsafe
      rcArmPrev := s'.rcArmPrev
      lastGcsCmdTs := s'.lastGcsCmdTs
      sent := s'.sent
      status := s'.status } := by
  cases sysmonTaskStep_move h with
  | sense hphase => exact absurd rfl (hsense _ _ _)
  | switches hphase => rw [sysmonSwitches_frame]
  | gcsTimeout hphase => rw [sysmonGcsTimeout_frame]
  | command hphase hcmd => rw [(sysmonTaskCommand_writes hcmd).frame]
  | publish hphase => rfl

end MmIotEsp32.HeliFc
