/-
  MmIotEsp32.HeliFc.Agents.Arming

  When sysmon arms.
-/
import MmIotEsp32.HeliFc.Agents.SysmonFrame

namespace MmIotEsp32.HeliFc

open Lib

variable {F D : Type*} [CFloat F] [CFloat D]

/-! ## The task with its history -/

structure ArmingRun (F D : Type*) where
  sys : Sysmon F D
  /-- A frame with the switch in the low position was received since the last disarm, or since
  boot. -/
  lowSeen : Bool
  /-- Where the switch was when it was judged last. -/
  lastJudged : Option Bool

def armingInit (nvs : ParamId → Option F) : ArmingRun F D :=
  ⟨sysmonInit (paramInit nvs), false, none⟩

/-- The step brings a frame with the arm switch in the low position. -/
def bringsLow (params : Params F) : SysmonEvent F D → Bool
  | .sense _ _ samples =>
    match samples.rc with
    | none => false
    | some rc => decide (6 ≤ rc.channelCount.toNat) && !rcArmNow params rc
  | _ => false

/-- The position of the switch that the step judges, if it judges it. -/
def judgedNow (s : Sysmon F D) : SysmonEvent F D → Option Bool
  | .switches => if s.rcJudged then some (rcArmNow s.params s.lastRc) else none
  | _ => none

def armingStep (g : ArmingRun F D) (e : SysmonEvent F D) : Option (ArmingRun F D) :=
  (sysmonTaskStep g.sys e).map fun s' =>
    { sys := s'
      lowSeen :=
        if g.sys.armState = .armed ∧ s'.armState = .disarmed then false
        else g.lowSeen || bringsLow g.sys.params e
      lastJudged := (judgedNow g.sys e).or g.lastJudged }

/-- What is demanded of a step that arms. -/
structure ArmingGate (g : ArmingRun F D) (e : SysmonEvent F D) : Prop where
  imu : g.sys.ok .imu = true
  rc : g.sys.ok .rc = true
  failsafe : g.sys.failsafe.permitsArming = true
  collective : CFloat.le (rcCollective g.sys.lastRc) (paramGet g.sys.params .rcCollArmMax) = true
  switch : e = .switches → g.lowSeen = true

/-- The vehicle is armed through the gate only. -/
def ArmGated (g : ArmingRun F D) (e : SysmonEvent F D) : Prop :=
  ∀ s', sysmonTaskStep g.sys e = some s' → g.sys.armState = .disarmed → s'.armState = .armed →
    ArmingGate g e

/-! ## What arms -/

/-- The checks that the two paths share pass. -/
structure ArmingChecks (s : Sysmon F D) : Prop where
  disarmed : s.armState = .disarmed
  imu : s.ok .imu = true
  rc : s.ok .rc = true
  failsafe : s.failsafe.permitsArming = true
  collective : CFloat.lt (paramGet s.params .rcCollArmMax) (rcCollective s.lastRc) = false

/-- The steps that ask for the vehicle to be armed. -/
inductive ArmingRequest (s : Sysmon F D) : SysmonEvent F D → Prop where
  | switches (hphase : s.phase = .sensed) (hcount : 6 ≤ s.lastRc.channelCount.toNat)
      (hnow : rcArmNow s.params s.lastRc = true) (hprev : s.rcArmPrev = false) :
      ArmingRequest s .switches
  | command (hphase : s.phase = .polling) (arm : U8) (harm : arm ≠ 0) :
      ArmingRequest s (.command (.arm arm))

omit [CFloat D] in
theorem sysmonSwitches_arms_iff {s : Sysmon F D} (h : s.armState = .disarmed) :
    (sysmonSwitches s).armState = .armed ↔
      ArmingChecks s ∧ 6 ≤ s.lastRc.channelCount.toNat ∧ rcArmNow s.params s.lastRc = true
        ∧ s.rcArmPrev = false := by
  unfold sysmonSwitches Sysmon.rcJudged
  split
  · next hjudged =>
      rw [Bool.and_eq_true, decide_eq_true_eq] at hjudged
      show (modeSwitch (armSwitch s)).armState = .armed ↔ _
      rw [modeSwitch_frame]
      show (armSwitch s).armState = .armed ↔ _
      rw [armSwitch_arms_iff h]
      constructor
      · intro ⟨hnow, hprev, himu, hfailsafe, hcoll⟩
        exact ⟨⟨h, himu, hjudged.1, hfailsafe, hcoll⟩, hjudged.2, hnow, hprev⟩
      · intro ⟨hchecks, _, hnow, hprev⟩
        exact ⟨hnow, hprev, hchecks.imu, hchecks.failsafe, hchecks.collective⟩
  next hjudged =>
    refine iff_of_false (by simp [h]) fun ⟨hchecks, hcount, _⟩ => hjudged ?_
    rw [hchecks.rc, Bool.true_and]
    exact decide_eq_true hcount

theorem sysmonTaskStep_arms_iff {s : Sysmon F D} {e : SysmonEvent F D} (h : s.armState = .disarmed) :
    (∃ s', sysmonTaskStep s e = some s' ∧ s'.armState = .armed) ↔
      ArmingRequest s e ∧ ArmingChecks s := by
  constructor
  · rintro ⟨s', hstep, harmed⟩
    cases sysmonTaskStep_move hstep with
    | sense hphase =>
      rw [sysmonSense_armState _ _ _ _ h] at harmed
      cases harmed
    | switches hphase =>
      obtain ⟨hchecks, hcount, hnow, hprev⟩ := (sysmonSwitches_arms_iff h).mp harmed
      exact ⟨.switches hphase hcount hnow hprev, hchecks⟩
    | gcsTimeout hphase =>
      rw [sysmonGcsTimeout_frame] at harmed
      exact absurd (h.symm.trans harmed) (by decide)
    | command hphase hcmd =>
      rcases (sysmonTaskCommand_writes hcmd).armState with hsame | rfl | ⟨arm, rfl⟩
      · exact absurd (harmed.symm.trans (hsame.trans h)) (by decide)
      · cases hcmd
        cases harmed
      cases hcmd
      obtain ⟨harm, himu, hrc, hfailsafe, hcoll⟩ :=
        (commandArm_arms_iff (s := { s with lastGcsCmdTs := s.nowUs }) h).mp harmed
      exact ⟨.command hphase arm harm, h, himu, hrc, hfailsafe, hcoll⟩
    | publish hphase => exact absurd (h.symm.trans harmed) (by decide)
  rintro ⟨hrequest, hchecks⟩
  cases hrequest with
  | switches hsensed hcount hnow hprev =>
    exact ⟨_, if_pos hsensed,
      (sysmonSwitches_arms_iff h).mpr ⟨hchecks, hcount, hnow, hprev⟩⟩
  | command hpolling arm harm =>
    exact ⟨_, if_pos hpolling,
      (commandArm_arms_iff (s := { s with lastGcsCmdTs := s.nowUs }) h).mpr
        ⟨harm, hchecks.imu, hchecks.rc, hchecks.failsafe, hchecks.collective⟩⟩

/-! ## Runs -/

/-- The edge detector remembers where the switch was judged last. -/
def EdgeMemory (g : ArmingRun F D) : Prop := g.sys.rcArmPrev = g.lastJudged.getD false

omit [CFloat D] in
theorem sysmonSwitches_rcArmPrev (s : Sysmon F D) :
    (sysmonSwitches s).rcArmPrev
      = if s.rcJudged then rcArmNow s.params s.lastRc else s.rcArmPrev := by
  unfold sysmonSwitches
  split
  · show (modeSwitch (armSwitch s)).rcArmPrev = _
    rw [modeSwitch_frame]
    rfl
  · rfl

variable {e : SysmonEvent F D}

theorem sysmonTaskStep_rcArmPrev {s s' : Sysmon F D}
    (h : sysmonTaskStep s e = some s') : s'.rcArmPrev = (judgedNow s e).getD s.rcArmPrev := by
  cases sysmonTaskStep_move h with
  | sense hphase =>
    rw [(sameReadings_sysmonSense _ _ _ _).rcArmPrev, sysmonCheck_frame]
    rfl
  | switches hphase =>
    rw [sysmonSwitches_rcArmPrev]
    unfold judgedNow
    split <;> rfl
  | gcsTimeout hphase =>
    rw [sysmonGcsTimeout_frame]
    rfl
  | command hphase hcmd =>
    rw [(sysmonTaskCommand_writes hcmd).frame]
    rfl
  | publish hphase => rfl

theorem EdgeMemory.step {g g' : ArmingRun F D} (h : EdgeMemory g)
    (hstep : armingStep g e = some g') : EdgeMemory g' := by
  obtain ⟨s', hsys, rfl⟩ := Option.map_eq_some_iff.mp hstep
  show s'.rcArmPrev = ((judgedNow g.sys e).or g.lastJudged).getD false
  rw [sysmonTaskStep_rcArmPrev hsys, h]
  cases judgedNow g.sys e with
  | none | some now => rfl

/-- When the checks pass, the collective and its limit can be compared; and when the switch
is high, it was high the last time, or a frame has shown it low since the last disarm. -/
structure ArmedAfterLow (g : ArmingRun F D) (e : SysmonEvent F D) : Prop where
  collective : ArmingRequest g.sys e → ArmingChecks g.sys →
    CFloat.Comparable (rcCollective g.sys.lastRc) (paramGet g.sys.params .rcCollArmMax)
  switch : e = .switches → g.sys.phase = .sensed → ArmingChecks g.sys →
    6 ≤ g.sys.lastRc.channelCount.toNat → rcArmNow g.sys.params g.sys.lastRc = true →
    g.lastJudged = some true ∨ g.lowSeen = true

theorem armGated_iff {g : ArmingRun F D} (h : EdgeMemory g) : ArmGated g e ↔ ArmedAfterLow g e := by
  constructor
  · intro hgated
    have hgate : ArmingRequest g.sys e → ArmingChecks g.sys → ArmingGate g e := by
      intro hrequest hchecks
      obtain ⟨s', hstep, harmed⟩ :=
        (sysmonTaskStep_arms_iff hchecks.disarmed).mpr ⟨hrequest, hchecks⟩
      exact hgated s' hstep hchecks.disarmed harmed
    refine ⟨fun hrequest hchecks => Or.inr (hgate hrequest hchecks).collective, ?_⟩
    rintro rfl hphase hchecks hcount hnow
    -- an edge exists unless the switch was judged high before
    cases hprev : g.sys.rcArmPrev with
    | false => exact Or.inr ((hgate (.switches hphase hcount hnow hprev) hchecks).switch rfl)
    | true =>
      refine Or.inl ?_
      have hlast : g.lastJudged.getD false = true := h.symm.trans hprev
      cases hjudged : g.lastJudged with
      | none => rw [hjudged] at hlast; cases hlast
      | some now => rw [hjudged] at hlast; exact congrArg some hlast
  intro hlow s' hstep hdisarmed harmed
  obtain ⟨hrequest, hchecks⟩ := (sysmonTaskStep_arms_iff hdisarmed).mp ⟨s', hstep, harmed⟩
  refine ⟨hchecks.imu, hchecks.rc, hchecks.failsafe,
    (hlow.collective hrequest hchecks).le hchecks.collective, ?_⟩
  rintro rfl
  cases hrequest with
  | switches hphase hcount hnow hprev =>
    refine (hlow.switch rfl hphase hchecks hcount hnow).resolve_left fun hjudged => ?_
    have hmemory : g.sys.rcArmPrev = g.lastJudged.getD false := h
    rw [hprev, hjudged] at hmemory
    cases hmemory

/-- Arming is gated in exactly the runs in which a high switch has been low since the last
disarm, or was high before it. -/
theorem arming_gated_iff (nvs : ParamId → Option F) (events : List (SysmonEvent F D)) :
    Along armingStep ArmGated (armingInit nvs) events ↔
      Along armingStep ArmedAfterLow (armingInit nvs) events := by
  have hinit : EdgeMemory (armingInit nvs : ArmingRun F D) := rfl
  have hmemory : Throughout armingStep EdgeMemory (armingInit nvs : ArmingRun F D) events :=
    throughout_of_invariant (fun _ _ _ h hstep => EdgeMemory.step h hstep) hinit events
  have hiff : ∀ (g : ArmingRun F D) e, EdgeMemory g → (ArmGated g e ↔ ArmedAfterLow g e) :=
    fun _ _ => armGated_iff
  exact (hmemory.along_of hiff).congr

/-- Boot, and a first frame with the switch high and the collective low. -/
def bootHighRc : List (SysmonEvent ℚ ℚ) :=
  [.sense 1000000 0
    { imu := some ⟨1000000⟩
      baro := none
      mag := none
      gps := none
      rc := some ⟨1000000, fun i => if i = 5 then 1 else 0, 8, false⟩
      act := none },
   .switches]

theorem boot_high_switch_arms :
    ¬ ∀ events : List (SysmonEvent ℚ ℚ),
      Along armingStep ArmGated (armingInit fun _ => none) events := by
  intro h
  have hsensed := (h bootHighRc).2 _ rfl
  have hgate := hsensed.1 _ rfl (by decide +kernel) (by decide +kernel)
  exact absurd (hgate.switch rfl) (by decide +kernel)

end MmIotEsp32.HeliFc
