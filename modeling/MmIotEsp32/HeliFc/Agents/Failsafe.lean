/-
  MmIotEsp32.HeliFc.Agents.Failsafe

  The failsafe that sysmon publishes, and the mode beside it.
-/
import MmIotEsp32.HeliFc.Agents.Arming

namespace MmIotEsp32.HeliFc

open Lib

variable {F D : Type*}

/-! ## Conditions and reports -/

/-- The severest condition of the cycle; the ground station comes last. -/
def worstFailsafe (s : Sysmon F D) (gcsLost : Bool) : FailsafeState :=
  if s.ok .imu = false then .sensorFailure
  else if s.batt.critical then .batteryCritical
  else if s.ok .rc = false then .rcLost
  else if s.batt.warning then .batteryLow
  else if gcsLost then .gcsLost
  else .none

/-- The mode fits the conditions of the cycle. -/
structure ModeOk (s : Sysmon F D) (mode : FlightMode) : Prop where
  land : s.ok .imu = false ∨ s.batt.critical = true → mode = .land
  rc : s.ok .rc = false → mode = .rth ∨ mode = .land

/-- The text reports a failsafe transition. -/
def StatusText.reportsFailsafe : StatusText → Bool
  | .failsafeCleared => true
  | .rcSignalLost => true
  | .batteryLow => true
  | .batteryCritical => true
  | .sensorFailure => true
  | .gcsLinkLost => true
  | _ => false

def SysmonMsg.reportsFailsafe : SysmonMsg F → Bool
  | .statustext text => text.reportsFailsafe
  | _ => false

/-- How many failsafe transitions the messages report. -/
def failsafeReports (sent : List (SysmonMsg F)) : Nat := sent.countP SysmonMsg.reportsFailsafe

theorem failsafeReports_append (sent more : List (SysmonMsg F)) :
    failsafeReports (sent ++ more) = failsafeReports sent + failsafeReports more :=
  List.countP_append

variable {s : Sysmon F D}

theorem failsafeReports_statustext {text : StatusText} (h : text.reportsFailsafe = false) :
    failsafeReports (sendStatustextRpc s text).sent = failsafeReports s.sent := by
  show failsafeReports (s.sent ++ [.statustext text]) = _
  rw [failsafeReports_append]
  have hnone : failsafeReports [SysmonMsg.statustext text (F := F)] = 0 := by
    simp [failsafeReports, SysmonMsg.reportsFailsafe, h]
  omega

theorem newFailsafe_ne_gcsLost (warning critical armed : Bool) (ok : SensorTopic → Bool) :
    newFailsafe warning critical armed ok ≠ .gcsLost := by
  unfold newFailsafe
  dsimp only
  split_ifs <;> simp

theorem failsafeReports_failsafeText {state : FailsafeState} (h : state ≠ .gcsLost) :
    failsafeReports ((failsafeText state).map (SysmonMsg.statustext (F := F))) = 1 := by
  cases state with
  | none | rcLost | batteryLow | batteryCritical | sensorFailure => rfl
  | gcsLost => exact absurd rfl h

theorem worstFailsafe_eq {s : Sysmon F D} {armed : Bool} (h : armed = true ∨ s.ok .rc = true)
    (gcsLost : Bool) :
    worstFailsafe s gcsLost
      = if newFailsafe s.batt.warning s.batt.critical armed s.ok = .none then
          if gcsLost then .gcsLost else .none
        else newFailsafe s.batt.warning s.batt.critical armed s.ok := by
  unfold worstFailsafe newFailsafe
  rcases h with rfl | hrc
  · cases s.ok .imu <;> cases s.batt.critical <;> cases s.ok .rc <;> cases s.batt.warning <;> simp
  · rw [hrc]
    cases s.ok .imu <;> cases s.batt.critical <;> cases s.batt.warning <;> simp

theorem critical_of_permitsArming {armed : Bool}
    (h : (newFailsafe s.batt.warning s.batt.critical armed s.ok).permitsArming = true) :
    s.batt.critical = false := by
  cases hcritical : s.batt.critical with
  | false => rfl
  | true =>
    rw [hcritical] at h
    unfold newFailsafe at h
    cases himu : s.ok .imu <;> simp [himu, FailsafeState.permitsArming] at h

theorem imu_of_permitsArming {armed : Bool}
    (h : (newFailsafe s.batt.warning s.batt.critical armed s.ok).permitsArming = true) :
    s.ok .imu = true := by
  cases himu : s.ok .imu with
  | true => rfl
  | false =>
    rw [newFailsafe_of_imu.mpr himu] at h
    cases h

theorem ModeOk.of_none (himu : s.ok .imu = true)
    (hcritical : s.batt.critical = false) (hrc : s.ok .rc = true) (mode : FlightMode) :
    ModeOk s mode where
  land := by
    rintro (h | h)
    · exact absurd (himu.symm.trans h) (by decide)
    · exact absurd (hcritical.symm.trans h) (by decide)
  rc := fun h => absurd (hrc.symm.trans h) (by decide)

theorem ModeOk.any {mode : FlightMode} (h : ModeOk s mode) (hrth : mode ≠ .rth)
    (hland : mode ≠ .land) (mode' : FlightMode) : ModeOk s mode' := by
  have himu : s.ok .imu ≠ false := fun hc => hland (h.land (Or.inl hc))
  have hcritical : s.batt.critical ≠ true := fun hc => hland (h.land (Or.inr hc))
  have hrc : s.ok .rc ≠ false := fun hc => (h.rc hc).elim hrth hland
  exact .of_none (by simpa using himu) (by simpa using hcritical) (by simpa using hrc) mode'

/-! ## What the steps do to them -/

theorem determineFailsafe_reports (s : Sysmon F D) :
    failsafeReports (determineFailsafe s).sent
      = failsafeReports s.sent
        + if (determineFailsafe s).failsafe ≠ s.failsafe ∧ s.armState = .armed then 1 else 0 := by
  rw [determineFailsafe_frame]
  unfold determineFailsafe
  dsimp only
  split
  · show failsafeReports (s.sent ++ _) = _
    rw [failsafeReports_append, failsafeReports_failsafeText (newFailsafe_ne_gcsLost _ _ _ _)]
  · rfl

theorem failsafeActions_reports (s : Sysmon F D) :
    failsafeReports (failsafeActions s).sent = failsafeReports s.sent := by
  unfold failsafeActions
  split
  · split
    · split <;> rfl
    · rfl
    · split
      · exact failsafeReports_statustext rfl
      · rfl
    · rfl
  · rfl

theorem sensorDegradation_reports (s : Sysmon F D) :
    failsafeReports (sensorDegradation s).sent = failsafeReports s.sent := by
  have hbaro : failsafeReports (baroDegradation s).sent = failsafeReports s.sent := by
    unfold baroDegradation
    split
    · exact failsafeReports_statustext rfl
    · rfl
  have hmag : ∀ t : Sysmon F D, failsafeReports (magDegradation t).sent = failsafeReports t.sent := by
    intro t
    unfold magDegradation
    split
    · exact failsafeReports_statustext rfl
    · rfl
  have hgps : ∀ t : Sysmon F D, failsafeReports (gpsDegradation t).sent = failsafeReports t.sent := by
    intro t
    unfold gpsDegradation
    split
    · exact failsafeReports_statustext rfl
    · rfl
  unfold sensorDegradation
  dsimp only
  split
  · exact (hgps _).trans ((hmag _).trans hbaro)
  · rfl

theorem autoDisarm_reports (s : Sysmon F D) (act : Option (ActuatorControls F)) :
    failsafeReports (autoDisarm s act).sent = failsafeReports s.sent := by
  unfold autoDisarm
  split
  · split
    · exact failsafeReports_statustext rfl
    · rfl
  · rfl

theorem judge_reports (c : Sysmon F D) (act : Option (ActuatorControls F)) :
    failsafeReports (autoDisarm (sysmonJudge c) act).sent
      = failsafeReports c.sent
        + if (autoDisarm (sysmonJudge c) act).failsafe ≠ c.failsafe ∧ c.armState = .armed then 1
          else 0 := by
  unfold sysmonJudge
  rw [autoDisarm_reports, sensorDegradation_reports, failsafeActions_reports,
    determineFailsafe_reports, autoDisarm_failsafe, sensorDegradation_failsafe,
    failsafeActions_failsafe]

theorem failsafeActions_modeOk (harmed : s.armState = .armed)
    (hfailsafe : s.failsafe = newFailsafe s.batt.warning s.batt.critical true s.ok) :
    ModeOk s (failsafeActions s).flightMode := by
  unfold failsafeActions
  rw [if_pos harmed, hfailsafe]
  unfold newFailsafe
  cases himu : s.ok .imu with
  | false =>
    by_cases hland : s.flightMode = .land
    · simpa [hland] using ⟨fun _ => rfl, fun _ => Or.inr rfl⟩
    · simpa [hland, sendStatustextRpc, Sysmon.send] using ⟨fun _ => rfl, fun _ => Or.inr rfl⟩
  | true =>
    cases hcritical : s.batt.critical with
    | true => simpa using ⟨fun _ => rfl, fun _ => Or.inr rfl⟩
    | false =>
      cases hrc : s.ok .rc with
      | true => exact .of_none himu hcritical hrc _
      | false =>
        have hfree : ¬ (s.ok .imu = false ∨ s.batt.critical = true) := by
          simp [himu, hcritical]
        refine ⟨fun h => absurd h hfree, fun _ => ?_⟩
        by_cases hmode : s.flightMode ≠ .rth ∧ s.flightMode ≠ .land
        · cases hgps : s.ok .gps <;> simp [hmode]
        have hkeep : s.flightMode = .rth ∨ s.flightMode = .land := by
          by_contra h
          exact hmode (not_or.mp h)
        simpa [hmode] using hkeep

theorem sensorDegradation_modeOk (h : ModeOk s s.flightMode) :
    ModeOk s (sensorDegradation s).flightMode := by
  have hbaro : ModeOk s (baroDegradation s).flightMode := by
    unfold baroDegradation
    split
    · next hlost =>
        rcases hlost.2.2 with hmode | hmode
        · exact h.any (by rw [hmode]; decide) (by rw [hmode]; decide) _
        · exact h.any (by rw [hmode]; decide) (by rw [hmode]; decide) _
    · exact h
  have hmag : ModeOk s (magDegradation (baroDegradation s)).flightMode := by
    rw [magDegradation_frame]
    exact hbaro
  unfold sensorDegradation
  dsimp only
  split
  · unfold gpsDegradation
    split
    · next hlost => exact hmag.any (by rw [hlost.2]; decide) (by rw [hlost.2]; decide) _
    · exact hmag
  · exact h

theorem foldl_sendParamValueRpc_reports (ids : List ParamId) (s : Sysmon F D) :
    failsafeReports (ids.foldl sendParamValueRpc s).sent = failsafeReports s.sent := by
  induction ids generalizing s with
  | nil => rfl
  | cons id rest ih =>
    rw [List.foldl_cons, ih]
    show failsafeReports (s.sent ++ _) = _
    rw [failsafeReports_append]
    rfl

theorem ModeOk.congr {s s' : Sysmon F D} {mode : FlightMode} (h : ModeOk s mode)
    (hok : s'.ok = s.ok) (hbatt : s'.batt = s.batt) : ModeOk s' mode where
  land := by
    rw [hok, hbatt]
    exact h.land
  rc := by
    rw [hok]
    exact h.rc

section

variable [CFloat F] [CFloat D]

theorem sysmonCheck_reports (s : Sysmon F D) (nowUs : U64) (battV : F)
    (samples : SysmonSamples F D) :
    failsafeReports (sysmonCheck s nowUs battV samples).sent = 0 := by
  unfold sysmonCheck checkSensors
  dsimp only
  rw [clearHome_frame]
  dsimp only
  have hempty : (copySensors (monitorBattery { s with nowUs := nowUs, sent := [] } battV)
      samples).sent = [] := by
    unfold copySensors
    rw [monitorBattery_frame]
  unfold captureHome
  split
  · rw [hempty]
    rfl
  split
  · show failsafeReports (_ ++ [homePositionMsg _]) = 0
    rw [failsafeReports_append]
    dsimp only
    rw [hempty]
    rfl
  · rw [hempty]
    rfl

theorem sysmonSense_reports (s : Sysmon F D) (nowUs : U64) (battV : F)
    (samples : SysmonSamples F D) :
    failsafeReports (sysmonSense s nowUs battV samples).sent
      = if (sysmonSense s nowUs battV samples).failsafe ≠ s.failsafe ∧ s.armState = .armed then 1
        else 0 := by
  have hjudge := judge_reports (sysmonCheck s nowUs battV samples) samples.act
  have hfailsafe : (sysmonCheck s nowUs battV samples).failsafe = s.failsafe := by
    rw [sysmonCheck_frame]
  rw [sysmonCheck_reports, sysmonCheck_armState, hfailsafe, Nat.zero_add] at hjudge
  have hsent : (sysmonSense s nowUs battV samples).sent
      = (autoDisarm (sysmonJudge (sysmonCheck s nowUs battV samples)) samples.act).sent := by
    simp only [sysmonSense]
  have hstate : (sysmonSense s nowUs battV samples).failsafe
      = (autoDisarm (sysmonJudge (sysmonCheck s nowUs battV samples)) samples.act).failsafe := by
    simp only [sysmonSense]
  rw [hsent, hstate, hjudge]

theorem sysmonSense_modeOk {s : Sysmon F D} (harmed : s.armState = .armed) (nowUs : U64) (battV : F)
    (samples : SysmonSamples F D) :
    ModeOk (sysmonSense s nowUs battV samples) (sysmonSense s nowUs battV samples).flightMode := by
  have hread := sameReadings_sysmonSense s nowUs battV samples
  have harm := (sysmonCheck_armState s nowUs battV samples).trans harmed
  have hmode : (sysmonSense s nowUs battV samples).flightMode
      = (sysmonJudge (sysmonCheck s nowUs battV samples)).flightMode := by
    simp only [sysmonSense]
    rw [autoDisarm_frame]
  rw [hmode]
  refine ModeOk.congr ?_ hread.ok hread.batt
  generalize sysmonCheck s nowUs battV samples = c at harm ⊢
  have hdet := sameReadings_determineFailsafe c
  have hact := sameReadings_failsafeActions (determineFailsafe c)
  have hactions : ModeOk (determineFailsafe c) (failsafeActions (determineFailsafe c)).flightMode := by
    refine failsafeActions_modeOk ((determineFailsafe_armState c).trans harm) ?_
    rw [hdet.batt, hdet.ok, determineFailsafe_frame, harm]
    rfl
  have hjudge := sensorDegradation_modeOk (hactions.congr hact.ok hact.batt)
  exact hjudge.congr (hact.ok.trans hdet.ok).symm (hact.batt.trans hdet.batt).symm

end

section

variable [CFloat F]

theorem sysmonSwitches_reports (s : Sysmon F D) :
    failsafeReports (sysmonSwitches s).sent = failsafeReports s.sent := by
  unfold sysmonSwitches
  split
  · show failsafeReports (modeSwitch (armSwitch s)).sent = _
    rw [modeSwitch_frame]
    show failsafeReports (armSwitch s).sent = _
    unfold armSwitch
    split
    · unfold armAttempt
      split_ifs <;> exact failsafeReports_statustext rfl
    · split
      · exact failsafeReports_statustext rfl
      · rfl
  · rfl

theorem sysmonSwitches_changes {s : Sysmon F D}
    (h : (sysmonSwitches s).flightMode ≠ s.flightMode
      ∨ (sysmonSwitches s).armState = .armed ∧ s.armState = .disarmed) :
    s.failsafe.permitsArming = true ∧ s.ok .rc = true := by
  rcases h with hmode | ⟨harmed, hdisarmed⟩
  · unfold sysmonSwitches at hmode
    split at hmode
    · next hjudged =>
        have hrc := (Bool.and_eq_true _ _ ▸ hjudged : _ ∧ _).1
        refine ⟨?_, hrc⟩
        by_contra hpermits
        refine hmode ?_
        show (modeSwitch (armSwitch s)).flightMode = s.flightMode
        unfold modeSwitch
        rw [armSwitch_frame, if_neg fun hc => hpermits hc.1]
    · exact absurd rfl hmode
  · have hchecks := ((sysmonSwitches_arms_iff hdisarmed).mp harmed).1
    exact ⟨hchecks.failsafe, hchecks.rc⟩

theorem sysmonGcsTimeout_reports (s : Sysmon F D) :
    failsafeReports (sysmonGcsTimeout s).sent
      = failsafeReports s.sent
        + if s.gcsTimedOut = true ∧ s.failsafe ≠ .gcsLost ∧ s.armState = .armed then 1 else 0 := by
  unfold sysmonGcsTimeout
  split
  · show failsafeReports (s.sent ++ _) = _
    rw [failsafeReports_append]
    rfl
  · rfl

end

/-! ## The task with its history -/

structure FailsafeRun (F D : Type*) where
  sys : Sysmon F D
  /-- The vehicle was armed when the cycle began. -/
  armedBefore : Bool
  /-- The ground station was found lost in this cycle, while armed. -/
  gcsLost : Bool
  /-- The mode that the ground station asked for last in this cycle. -/
  modeCmd : Option FlightMode

section

variable [CFloat F] [CFloat D]

def failsafeInit (nvs : ParamId → Option F) : FailsafeRun F D :=
  ⟨sysmonInit (paramInit nvs), false, false, none⟩

def failsafeStep (g : FailsafeRun F D) (e : SysmonEvent F D) : Option (FailsafeRun F D) :=
  (sysmonTaskStep g.sys e).map fun s' =>
    match e with
    | .sense _ _ _ => ⟨s', decide (g.sys.armState = .armed), false, none⟩
    | .gcsTimeout =>
      { g with sys := s', gcsLost := g.sys.gcsTimedOut && decide (g.sys.armState = .armed) }
    | .command (.setMode mode) => { g with sys := s', modeCmd := (flightModeOf mode).or g.modeCmd }
    | _ => { g with sys := s' }

end

/-- What step 3 of the cycle has made of the readings. -/
def FailsafeRun.verdict (g : FailsafeRun F D) : FailsafeState :=
  newFailsafe g.sys.batt.warning g.sys.batt.critical g.armedBefore g.sys.ok

/-- A published status is right: its failsafe is the severest condition, its mode fits, and the
messages of the cycle report the change of the failsafe once. -/
structure FailsafeRight (g : FailsafeRun F D) (status : VehicleStatus) : Prop where
  severest : status.failsafe = worstFailsafe g.sys g.gcsLost
  mode : ModeOk g.sys status.flightMode
  reported : failsafeReports g.sys.sent = if status.failsafe ≠ g.sys.status.failsafe then 1 else 0

/-- Nothing disturbs the verdict of step 3: the ground station is lost only when nothing else
is wrong and nothing changed, no command leaves a mode that does not fit, and the verdict does not
change in the cycle that arms. -/
structure Undisturbed (g : FailsafeRun F D) : Prop where
  gcs : g.gcsLost = true → g.verdict = .none
  command : ∀ mode, g.modeCmd = some mode → ModeOk g.sys mode
  change : g.armedBefore = true → g.gcsLost = true → g.verdict = g.sys.status.failsafe
  arming : g.armedBefore = false →
    if g.gcsLost then g.sys.status.failsafe ≠ .gcsLost else g.verdict = g.sys.status.failsafe

/-- What holds at each point of the cycle. -/
structure FailsafeInv (g : FailsafeRun F D) : Prop where
  idle : g.sys.phase = .idle → g.sys.failsafe = g.sys.status.failsafe
  early : g.sys.phase = .sensed ∨ g.sys.phase = .switched → g.gcsLost = false ∧ g.modeCmd = none
  failsafe : g.sys.phase ≠ .idle → g.sys.failsafe = if g.gcsLost then .gcsLost else g.verdict
  reports : g.sys.phase ≠ .idle → failsafeReports g.sys.sent
    = (if g.verdict ≠ g.sys.status.failsafe ∧ g.armedBefore = true then 1 else 0)
      + if g.gcsLost then 1 else 0
  rearmed : g.sys.phase ≠ .idle → g.sys.armState = .armed → g.armedBefore = false →
    g.sys.ok .rc = true
  commanded : g.sys.phase ≠ .idle → ∀ mode, g.modeCmd = some mode → g.sys.flightMode = mode
  mode : g.sys.phase ≠ .idle → g.modeCmd = none → g.sys.armState = .armed →
    ModeOk g.sys g.sys.flightMode

theorem failsafeRight_iff {g : FailsafeRun F D} (h : FailsafeInv g)
    (hphase : g.sys.phase = .polling) (harmed : g.sys.armState = .armed) :
    FailsafeRight g (vehicleStatusMsg g.sys) ↔ Undisturbed g := by
  have hidle : g.sys.phase ≠ .idle := by
    rw [hphase]
    decide
  have hfailsafe : (vehicleStatusMsg g.sys).failsafe = if g.gcsLost then .gcsLost else g.verdict :=
    h.failsafe hidle
  have hworst := @worstFailsafe_eq F D g.sys g.armedBefore
    (by
      cases hbefore : g.armedBefore with
      | true => exact Or.inl rfl
      | false => exact Or.inr (h.rearmed hidle harmed hbefore))
    g.gcsLost
  have hreports := h.reports hidle
  have hverdict : g.verdict ≠ .gcsLost := newFailsafe_ne_gcsLost _ _ _ _
  have hsevere : (vehicleStatusMsg g.sys).failsafe = worstFailsafe g.sys g.gcsLost ↔
      (g.gcsLost = true → g.verdict = .none) := by
    rw [hfailsafe, hworst]
    show _ = (if g.verdict = .none then _ else g.verdict) ↔ _
    cases g.gcsLost with
    | false => by_cases hnone : g.verdict = .none <;> simp [hnone]
    | true =>
      by_cases hnone : g.verdict = .none
      · simp [hnone]
      · simpa [hnone] using hverdict.symm
  have hmode : ModeOk g.sys (vehicleStatusMsg g.sys).flightMode ↔
      ∀ mode, g.modeCmd = some mode → ModeOk g.sys mode := by
    show ModeOk g.sys g.sys.flightMode ↔ _
    constructor
    · intro hok mode hcmd
      rw [← h.commanded hidle mode hcmd]
      exact hok
    intro hcmds
    cases hcmd : g.modeCmd with
    | none => exact h.mode hidle hcmd harmed
    | some mode =>
      rw [h.commanded hidle mode hcmd]
      exact hcmds mode hcmd
  have hreport : (failsafeReports g.sys.sent
        = if (vehicleStatusMsg g.sys).failsafe ≠ g.sys.status.failsafe then 1 else 0) ↔
      (g.armedBefore = true → g.gcsLost = true → g.verdict = g.sys.status.failsafe)
        ∧ (g.armedBefore = false → if g.gcsLost then g.sys.status.failsafe ≠ .gcsLost
            else g.verdict = g.sys.status.failsafe) := by
    rw [hreports, hfailsafe]
    cases g.gcsLost with
    | false =>
      cases g.armedBefore with
      | false => by_cases hsame : g.verdict = g.sys.status.failsafe <;> simp [hsame]
      | true => simp
    | true =>
      cases g.armedBefore with
      | false =>
        by_cases hlost : g.sys.status.failsafe = .gcsLost
        · simp [hlost]
        · simpa [hlost] using Ne.symm hlost
      | true =>
        by_cases hsame : g.verdict = g.sys.status.failsafe
        · rw [← hsame]
          simpa using hverdict.symm
        -- a second report, which no change of the published state accounts for
        refine iff_of_false (fun hcount => ?_) (fun hc => hsame (hc.1 rfl rfl))
        rw [if_pos ⟨hsame, rfl⟩, if_pos rfl] at hcount
        exact absurd hcount (by split_ifs <;> decide)
  constructor
  · intro hright
    have hchange := hreport.mp hright.reported
    exact ⟨hsevere.mp hright.severest, hmode.mp hright.mode, hchange.1, hchange.2⟩
  · intro hfree
    exact ⟨hsevere.mpr hfree.gcs, hmode.mpr hfree.command,
      hreport.mpr ⟨hfree.change, hfree.arming⟩⟩

/-! ## The invariant -/

variable [CFloat F] [CFloat D]

theorem sysmonTaskCommand_reports {s s' : Sysmon F D} {cmd : SysmonCommand F}
    (h : sysmonTaskCommand s cmd = some s') :
    failsafeReports s'.sent = failsafeReports s.sent := by
  have hsend : ∀ (t : Sysmon F D) (msgs : List (SysmonMsg F)), failsafeReports msgs = 0 →
      failsafeReports (t.send msgs).sent = failsafeReports t.sent := by
    intro t msgs hmsgs
    show failsafeReports (t.sent ++ msgs) = _
    rw [failsafeReports_append, hmsgs, Nat.add_zero]
  cases cmd with
  | arm arm =>
    cases h
    unfold commandArm
    split_ifs <;> first | rfl | exact failsafeReports_statustext rfl
  | setMode mode =>
    cases h
    unfold commandSetMode
    split <;> rfl
  | paramRequestRead name index =>
    cases h
    unfold commandParamRequestRead
    dsimp only
    split
    · rfl
    · exact hsend _ _ rfl
  | paramRequestList =>
    cases h
    exact foldl_sendParamValueRpc_reports _ _
  | paramSet name value =>
    cases h
    unfold commandParamSet
    split
    · rfl
    · exact hsend _ _ rfl
  | reboot =>
    simp only [sysmonTaskCommand] at h
    split at h
    · rw [← Option.some.inj h]
    · cases h
  | mission cmd =>
    cases h
    refine hsend { s with mission := _ } _ ?_
    -- the answers are about the mission, and the text says that it was cleared
    unfold failsafeReports
    rw [List.countP_eq_zero]
    intro msg hmsg
    obtain ⟨answer, -, rfl⟩ := List.mem_map.mp hmsg
    cases answer <;> simp [SysmonMsg.ofMission, SysmonMsg.reportsFailsafe,
      StatusText.reportsFailsafe]
  | requestHomePosition =>
    cases h
    split
    · exact hsend _ _ rfl
    · exact failsafeReports_statustext rfl
  | disarm | paramSave =>
    cases h
    exact failsafeReports_statustext rfl
  | _ =>
    cases h
    rfl

theorem FailsafeInv.sense {g : FailsafeRun F D} (h : FailsafeInv g) (hphase : g.sys.phase = .idle)
    (nowUs : U64) (battV : F) (samples : SysmonSamples F D) :
    FailsafeInv ⟨sysmonSense g.sys nowUs battV samples, decide (g.sys.armState = .armed), false,
      none⟩ := by
  have hsensed : (sysmonSense g.sys nowUs battV samples).phase = .sensed := by
    simp only [sysmonSense]
  have hstatus : (sysmonSense g.sys nowUs battV samples).status = g.sys.status := by
    rw [(sameReadings_sysmonSense g.sys nowUs battV samples).status, sysmonCheck_frame]
  have hbefore : (sysmonSense g.sys nowUs battV samples).armState = .armed →
      g.sys.armState = .armed := by
    intro harmed
    by_contra hdisarmed
    rw [sysmonSense_armState g.sys nowUs battV samples (ArmState.eq_disarmed_of_ne hdisarmed)]
      at harmed
    cases harmed
  have hverdict := sysmonSense_failsafe g.sys nowUs battV samples
  have hreports := sysmonSense_reports g.sys nowUs battV samples
  have hmode : g.sys.armState = .armed → _ := fun h => sysmonSense_modeOk h nowUs battV samples
  rw [h.idle hphase, ← hstatus] at hreports
  generalize sysmonSense g.sys nowUs battV samples = s' at *
  refine ⟨fun hidle => ?_, fun _ => ⟨rfl, rfl⟩, fun _ => ?_, fun _ => ?_,
    fun _ harmed hfalse => ?_, fun _ mode hcmd => ?_, fun _ _ harmed => ?_⟩
  · exact absurd (hsensed.symm.trans hidle) (by decide)
  · exact hverdict
  · rw [hreports, hverdict]
    simp only [decide_eq_true_eq]
    rfl
  · exact absurd (hbefore harmed) (of_decide_eq_false hfalse)
  · cases hcmd
  · exact hmode (hbefore harmed)

omit [CFloat D] in
theorem FailsafeInv.switches {g : FailsafeRun F D} (h : FailsafeInv g)
    (hphase : g.sys.phase = .sensed) : FailsafeInv { g with sys := sysmonSwitches g.sys } := by
  have hidle : g.sys.phase ≠ .idle := by
    rw [hphase]
    decide
  obtain ⟨hlost, hcmd⟩ := h.early (Or.inl hphase)
  have hframe := sysmonSwitches_frame g.sys
  have hreports := sysmonSwitches_reports g.sys
  have hchanges := @sysmonSwitches_changes F D _ g.sys
  have hverdict := h.failsafe hidle
  rw [hlost, if_neg (by decide)] at hverdict
  generalize sysmonSwitches g.sys = s' at *
  have hphase' : s'.phase = .switched := by rw [hframe]
  have hok : s'.ok = g.sys.ok := by rw [hframe]
  have hbatt : s'.batt = g.sys.batt := by rw [hframe]
  have hfailsafe : s'.failsafe = g.sys.failsafe := by rw [hframe]
  have hstatus : s'.status = g.sys.status := by rw [hframe]
  have hsame : FailsafeRun.verdict { g with sys := s' } = g.verdict := by
    unfold FailsafeRun.verdict
    rw [hok, hbatt]
  refine ⟨fun h' => ?_, fun _ => ⟨hlost, hcmd⟩, fun _ => ?_, fun _ => ?_, fun _ harmed hbefore => ?_,
    fun _ mode hcmd' => ?_, fun _ _ harmed => ?_⟩
  · exact absurd (hphase'.symm.trans h') (by decide)
  · rw [hsame, hfailsafe]
    exact h.failsafe hidle
  · rw [hsame, hstatus, hreports]
    exact h.reports hidle
  · show s'.ok .rc = true
    rw [hok]
    by_cases hwas : g.sys.armState = .armed
    · exact h.rearmed hidle hwas hbefore
    · exact (hchanges (Or.inr ⟨harmed, ArmState.eq_disarmed_of_ne hwas⟩)).2
  · exact absurd (hcmd'.symm.trans hcmd) (by simp)
  refine ModeOk.congr (s := g.sys) ?_ hok hbatt
  by_cases hkeep : s'.flightMode = g.sys.flightMode ∧ g.sys.armState = .armed
  · rw [hkeep.1]
    exact h.mode hidle hcmd hkeep.2
  -- what the switches change shows that no condition forces a mode
  obtain ⟨hpermits, hrc⟩ := hchanges (by
    by_cases hmode : s'.flightMode = g.sys.flightMode
    · exact Or.inr ⟨harmed, ArmState.eq_disarmed_of_ne fun hc => hkeep ⟨hmode, hc⟩⟩
    · exact Or.inl hmode)
  rw [hverdict] at hpermits
  exact .of_none (imu_of_permitsArming hpermits) (critical_of_permitsArming hpermits) hrc _

omit [CFloat D] in
theorem FailsafeInv.gcsTimeout {g : FailsafeRun F D} (h : FailsafeInv g)
    (hphase : g.sys.phase = .switched) :
    FailsafeInv { g with
      sys := sysmonGcsTimeout g.sys
      gcsLost := g.sys.gcsTimedOut && decide (g.sys.armState = .armed) } := by
  have hidle : g.sys.phase ≠ .idle := by
    rw [hphase]
    decide
  obtain ⟨hlost, hcmd⟩ := h.early (Or.inr hphase)
  have hverdict := h.failsafe hidle
  have hbefore := h.reports hidle
  rw [hlost] at hverdict hbefore
  simp only [Bool.false_eq_true, if_false, Nat.add_zero] at hverdict hbefore
  have hne : g.sys.failsafe ≠ .gcsLost := by
    rw [hverdict]
    exact newFailsafe_ne_gcsLost _ _ _ _
  have hframe := sysmonGcsTimeout_frame g.sys
  have hreports := sysmonGcsTimeout_reports g.sys
  have hstate : (sysmonGcsTimeout g.sys).failsafe
      = if (g.sys.gcsTimedOut && decide (g.sys.armState = .armed)) = true then .gcsLost
        else g.sys.failsafe := by
    unfold sysmonGcsTimeout
    by_cases hlostNow : (g.sys.gcsTimedOut && decide (g.sys.armState = .armed)) = true
    · have hpair := Bool.and_eq_true _ _ ▸ hlostNow
      rw [if_pos ⟨hpair.1, hne, of_decide_eq_true hpair.2⟩, if_pos hlostNow]
      rfl
    · rw [if_neg hlostNow, if_neg fun hc => hlostNow (by rw [hc.1, hc.2.2]; rfl)]
  have hcond : (g.sys.gcsTimedOut = true ∧ g.sys.failsafe ≠ .gcsLost ∧ g.sys.armState = .armed) ↔
      (g.sys.gcsTimedOut && decide (g.sys.armState = .armed)) = true := by
    rw [Bool.and_eq_true, decide_eq_true_eq]
    exact ⟨fun hc => ⟨hc.1, hc.2.2⟩, fun hc => ⟨hc.1, hne, hc.2⟩⟩
  rw [if_congr hcond rfl rfl] at hreports
  generalize sysmonGcsTimeout g.sys = s' at *
  have hphase' : s'.phase = .polling := by rw [hframe]
  have hok : s'.ok = g.sys.ok := by rw [hframe]
  have hbatt : s'.batt = g.sys.batt := by rw [hframe]
  have hstatus : s'.status = g.sys.status := by rw [hframe]
  have harm : s'.armState = g.sys.armState := by rw [hframe]
  have hmode : s'.flightMode = g.sys.flightMode := by rw [hframe]
  refine ⟨fun h' => ?_, fun h' => ?_, fun _ => ?_, fun _ => ?_, fun _ harmed hfalse => ?_,
    fun _ mode hcmd' => ?_, fun _ hnone harmed => ?_⟩
  · exact absurd (hphase'.symm.trans h') (by decide)
  · rcases h' with h' | h'
    · exact absurd (hphase'.symm.trans h') (by decide)
    · exact absurd (hphase'.symm.trans h') (by decide)
  · unfold FailsafeRun.verdict
    rw [hstate, hok, hbatt, hverdict]
    rfl
  · unfold FailsafeRun.verdict at hbefore ⊢
    dsimp only
    rw [hreports, hbefore, hok, hbatt, hstatus]
  · show s'.ok .rc = true
    rw [hok]
    exact h.rearmed hidle (harm.symm.trans harmed) hfalse
  · exact absurd (hcmd'.symm.trans hcmd) (by simp)
  · show ModeOk s' s'.flightMode
    rw [hmode]
    exact (h.mode hidle hnone (harm.symm.trans harmed)).congr hok hbatt

theorem FailsafeInv.command {g : FailsafeRun F D} {s' : Sysmon F D} {cmd : SysmonCommand F}
    {modeCmd : Option FlightMode} (h : FailsafeInv g) (hphase : g.sys.phase = .polling)
    (hstep : sysmonTaskStep g.sys (.command cmd) = some s')
    (hset : ∀ mode, modeCmd = some mode → s'.flightMode = mode)
    (hkeep : modeCmd = none → g.modeCmd = none ∧ s'.flightMode = g.sys.flightMode) :
    FailsafeInv { g with sys := s', modeCmd := modeCmd } := by
  have hidle : g.sys.phase ≠ .idle := by
    rw [hphase]
    decide
  have harms := @sysmonTaskStep_arms_iff F D _ _ g.sys (.command cmd)
  have hcmd := hstep
  simp only [sysmonTaskStep, if_pos hphase] at hcmd
  have hframe := (sysmonTaskCommand_writes hcmd).frame
  have hreports := sysmonTaskCommand_reports hcmd
  have hphase' : s'.phase = .polling := by
    rw [hframe]
    exact hphase
  have hok : s'.ok = g.sys.ok := by rw [hframe]
  have hbatt : s'.batt = g.sys.batt := by rw [hframe]
  have hfailsafe : s'.failsafe = g.sys.failsafe := by rw [hframe]
  have hstatus : s'.status = g.sys.status := by rw [hframe]
  have hsame : FailsafeRun.verdict { g with sys := s', modeCmd := modeCmd } = g.verdict := by
    unfold FailsafeRun.verdict
    rw [hok, hbatt]
  refine ⟨fun h' => ?_, fun h' => ?_, fun _ => ?_, fun _ => ?_, fun _ harmed hbefore => ?_,
    fun _ mode hmode => hset mode hmode, fun _ hnone harmed => ?_⟩
  · exact absurd (hphase'.symm.trans h') (by decide)
  · rcases h' with h' | h'
    · exact absurd (hphase'.symm.trans h') (by decide)
    · exact absurd (hphase'.symm.trans h') (by decide)
  · rw [hsame, hfailsafe]
    exact h.failsafe hidle
  · rw [hsame, hstatus, hreports]
    exact h.reports hidle
  · show s'.ok .rc = true
    rw [hok]
    by_cases hwas : g.sys.armState = .armed
    · exact h.rearmed hidle hwas hbefore
    · exact ((harms (ArmState.eq_disarmed_of_ne hwas)).mp ⟨s', hstep, harmed⟩).2.rc
  obtain ⟨hnone', hmode⟩ := hkeep hnone
  refine ModeOk.congr (s := g.sys) ?_ hok hbatt
  show ModeOk g.sys s'.flightMode
  rw [hmode]
  by_cases hwas : g.sys.armState = .armed
  · exact h.mode hidle hnone' hwas
  have hchecks := ((harms (ArmState.eq_disarmed_of_ne hwas)).mp ⟨s', hstep, harmed⟩).2
  have hpermits := hchecks.failsafe
  rw [h.failsafe hidle] at hpermits
  split at hpermits
  · cases hpermits
  · exact .of_none hchecks.imu (critical_of_permitsArming hpermits) hchecks.rc _

omit [CFloat F] [CFloat D] in
theorem failsafeInv_publish (g : FailsafeRun F D) :
    FailsafeInv { g with
      sys := { g.sys with phase := .idle, status := vehicleStatusMsg g.sys } } where
  idle := fun _ => rfl
  early := fun h' => by rcases h' with h' | h' <;> cases h'
  failsafe := fun h' => absurd rfl h'
  reports := fun h' => absurd rfl h'
  rearmed := fun h' => absurd rfl h'
  commanded := fun h' => absurd rfl h'
  mode := fun h' => absurd rfl h'

theorem FailsafeInv.step {g g' : FailsafeRun F D} {e : SysmonEvent F D} (h : FailsafeInv g)
    (hstep : failsafeStep g e = some g') : FailsafeInv g' := by
  obtain ⟨s', hsys, hg'⟩ := Option.map_eq_some_iff.mp hstep
  cases sysmonTaskStep_move hsys with
  | sense hphase => exact hg' ▸ h.sense hphase _ _ _
  | switches hphase => exact hg' ▸ h.switches hphase
  | gcsTimeout hphase => exact hg' ▸ h.gcsTimeout hphase
  | @command cmd _ hphase hcmd =>
    have hidle : g.sys.phase ≠ .idle := by
      rw [hphase]
      decide
    have hother : (∀ mode, cmd ≠ .setMode mode) → FailsafeInv { g with sys := s' } := by
      intro hnot
      have hmode : s'.flightMode = g.sys.flightMode :=
        (sysmonTaskCommand_writes hcmd).flightMode.resolve_right fun ⟨mode, hc⟩ => hnot mode hc
      refine h.command hphase hsys (fun mode hm => ?_) fun hnone => ⟨hnone, hmode⟩
      rw [hmode]
      exact h.commanded hidle mode hm
    cases cmd with
    | setMode mode =>
      cases hcmd
      subst hg'
      refine h.command hphase hsys (fun m hm => ?_) (fun hnone => ?_)
      · unfold commandSetMode
        cases hof : flightModeOf mode with
        | none =>
          rw [hof] at hm
          exact h.commanded hidle m hm
        | some m' =>
          rw [hof] at hm
          exact Option.some.inj hm
      unfold commandSetMode
      cases hof : flightModeOf mode with
      | none =>
        rw [hof] at hnone
        exact ⟨hnone, rfl⟩
      | some m' =>
        rw [hof] at hnone
        cases hnone
    | _ =>
      subst hg'
      exact hother (fun mode hc => by cases hc)
  | publish hphase => exact hg' ▸ failsafeInv_publish g

/-! ## Runs -/

/-- A status that is published while armed is right. -/
def PublishesRight (g : FailsafeRun F D) (e : SysmonEvent F D) : Prop :=
  e = .publish → ∀ s', sysmonTaskStep g.sys e = some s' → s'.status.armState = .armed →
    FailsafeRight g s'.status

/-- When a status is published while armed, nothing has disturbed the verdict of the cycle. -/
def PublishesUndisturbed (g : FailsafeRun F D) (e : SysmonEvent F D) : Prop :=
  e = .publish → g.sys.phase = .polling → g.sys.armState = .armed → Undisturbed g

theorem publishesRight_iff {g : FailsafeRun F D} (h : FailsafeInv g) (e : SysmonEvent F D) :
    PublishesRight g e ↔ PublishesUndisturbed g e := by
  constructor
  · rintro hright rfl hphase harmed
    exact (failsafeRight_iff h hphase harmed).mp (hright rfl _ (if_pos hphase) harmed)
  rintro hfree rfl s' hstep harmed
  cases sysmonTaskStep_move hstep with
  | publish hphase =>
    exact (failsafeRight_iff h hphase harmed).mpr (hfree rfl hphase harmed)

theorem failsafeInit_inv (nvs : ParamId → Option F) :
    FailsafeInv (failsafeInit nvs : FailsafeRun F D) where
  idle := fun _ => rfl
  early := fun _ => ⟨rfl, rfl⟩
  failsafe := fun h' => absurd rfl h'
  reports := fun h' => absurd rfl h'
  rearmed := fun h' => absurd rfl h'
  commanded := fun h' => absurd rfl h'
  mode := fun h' => absurd rfl h'

/-- The published failsafe is the severest, with a mode that fits it and one report of each change,
in exactly the runs in which nothing disturbs the verdict of step 3. -/
theorem failsafe_published_iff (nvs : ParamId → Option F) (events : List (SysmonEvent F D)) :
    Along failsafeStep PublishesRight (failsafeInit nvs) events ↔
      Along failsafeStep PublishesUndisturbed (failsafeInit nvs) events := by
  have hinv : Throughout failsafeStep FailsafeInv (failsafeInit nvs : FailsafeRun F D) events :=
    throughout_of_invariant (fun _ _ _ h hstep => FailsafeInv.step h hstep) (failsafeInit_inv nvs)
      events
  have hiff : ∀ (g : FailsafeRun F D) e, FailsafeInv g →
      (PublishesRight g e ↔ PublishesUndisturbed g e) := fun _ e h => publishesRight_iff h e
  exact (hinv.along_of hiff).congr

/-- A cycle with the IMU and the RC (switches low, collective low) of a clock reading. -/
def cycleWith (imu : Option SensorSample) (rcAt : U64) (cmd : SysmonCommand ℚ) :
    List (SysmonEvent ℚ ℚ) :=
  [.sense rcAt 0
    { imu := imu
      baro := none
      mag := none
      gps := none
      rc := some ⟨rcAt, fun i => if i = 4 ∨ i = 5 then -1 else 0, 8, false⟩
      act := none },
   .switches, .gcsTimeout, .command cmd]

/-- The vehicle is armed; in the next cycle the IMU has failed, and the ground station asks for
the manual mode. -/
def manualAfterImuFailure : List (SysmonEvent ℚ ℚ) :=
  cycleWith (some ⟨1000000⟩) 1000000 (.arm 1) ++ .publish :: cycleWith none 2000000 (.setMode 0)

theorem set_mode_undoes_landing :
    ¬ ∀ events : List (SysmonEvent ℚ ℚ),
      Along failsafeStep PublishesRight (failsafeInit fun _ => none) events := by
  intro h
  have hend : (runFrom failsafeStep (failsafeInit fun _ => none) manualAfterImuFailure).map
      (fun g => (g.sys.phase, g.sys.armState, g.sys.ok .imu, g.sys.flightMode))
      = some (.polling, .armed, false, .manual) := by
    decide +kernel
  obtain ⟨g, hrun, hview⟩ := Option.map_eq_some_iff.mp hend
  obtain ⟨hphase, harmed, himu, hmode⟩ : g.sys.phase = .polling ∧ g.sys.armState = .armed
      ∧ g.sys.ok .imu = false ∧ g.sys.flightMode = .manual := by
    simpa using hview
  have hlast : PublishesRight g .publish := (h (manualAfterImuFailure ++ [.publish])).last hrun
  have hright := hlast rfl _ (if_pos hphase) harmed
  exact absurd (hmode.symm.trans (hright.mode.land (Or.inl himu))) (by decide)

end MmIotEsp32.HeliFc
