/-
  MmIotEsp32.HeliFc.Agents.ModeCommand

  How long a mode that the ground station commands stays in force.
-/
import MmIotEsp32.HeliFc.Agents.Failsafe

namespace MmIotEsp32.HeliFc

open Lib

variable {F D : Type*} [CFloat F]

/-! ## The scope -/

/-- The position of the mode switch can be applied: the frame has it, and the mode that it asks
for is not refused. -/
def Sysmon.modeSwitchApplies (s : Sysmon F D) : Bool :=
  decide (6 ≤ s.lastRc.channelCount.toNat)
    && !(decide (rcMode s.lastRc = .loiter) && !s.ok .gps)

theorem modeSwitch_of_permits {s : Sysmon F D} (h : s.failsafe.permitsArming = true) :
    (modeSwitch s).flightMode
      = if rcMode s.lastRc = .loiter ∧ s.ok .gps = false then s.flightMode else rcMode s.lastRc := by
  unfold modeSwitch
  rw [h]
  by_cases hrefused : rcMode s.lastRc = .loiter ∧ s.ok .gps = false
  · rw [if_pos hrefused, if_neg fun hc => hc.2.2 hrefused]
  · by_cases hsame : rcMode s.lastRc = s.flightMode
    · rw [if_neg hrefused, if_neg fun hc => hc.2.1 hsame, hsame]
    · rw [if_neg hrefused, if_pos ⟨rfl, hsame, hrefused⟩]

theorem sysmonSwitches_flightMode {s : Sysmon F D} (hrc : s.ok .rc = true)
    (hfailsafe : s.failsafe = .none) :
    (sysmonSwitches s).flightMode
      = if s.modeSwitchApplies then rcMode s.lastRc else s.flightMode := by
  unfold sysmonSwitches Sysmon.rcJudged Sysmon.modeSwitchApplies
  rw [hrc, Bool.true_and]
  by_cases hcount : 6 ≤ s.lastRc.channelCount.toNat
  · have hpermits : (armSwitch s).failsafe.permitsArming = true := by
      rw [armSwitch_frame]
      show s.failsafe.permitsArming = true
      rw [hfailsafe]
      rfl
    rw [if_pos (decide_eq_true hcount)]
    show (modeSwitch (armSwitch s)).flightMode = _
    rw [modeSwitch_of_permits hpermits, armSwitch_frame, decide_eq_true hcount, Bool.true_and]
    dsimp only
    by_cases hmode : rcMode s.lastRc = .loiter <;> cases hgps : s.ok .gps <;> simp [hmode]
  · rw [if_neg (by rw [decide_eq_false hcount]; decide), decide_eq_false hcount, Bool.false_and]
    rfl

section

variable [CFloat D]

/-- A step after which the RC is healthy and no failsafe is active, in which no rule changes the
mode, the mode switch asks for `position`, and the ground station sets no mode. -/
def quietStep (position : FlightMode) (s : Sysmon F D) (e : SysmonEvent F D) : Bool :=
  (sysmonTaskStep s e).all (fun s' => decide (s'.failsafe = .none) && s'.ok .rc)
    && match e with
      | .sense nowUs battV samples =>
        decide ((sysmonSense s nowUs battV samples).flightMode = s.flightMode)
      | .switches => decide (rcMode s.lastRc = position)
      | .command (.setMode _) => false
      | _ => true

/-! ## The task after the command -/

structure ModeRun (F D : Type*) where
  sys : Sysmon F D
  /-- The switches have been judged since the command. -/
  since : Bool

def modeStep (g : ModeRun F D) (e : SysmonEvent F D) : Option (ModeRun F D) :=
  (sysmonTaskStep g.sys e).map fun s' =>
    match e with
    | .switches => ⟨s', true⟩
    | _ => { g with sys := s' }

/-- Each status that is published carries the mode. -/
def PublishesMode (mode : FlightMode) (g : ModeRun F D) (e : SysmonEvent F D) : Prop :=
  e = .publish → ∀ s', sysmonTaskStep g.sys e = some s' → s'.status.flightMode = mode

/-- When a status is published, the mode switch asked for the mode, or did not apply, or was
not judged since the command. -/
def SwitchAgrees (position mode : FlightMode) (g : ModeRun F D) (e : SysmonEvent F D) : Prop :=
  e = .publish → g.sys.phase = .polling → g.since = true → g.sys.modeSwitchApplies = true →
    position = mode

/-- The mode in each part of the cycle. -/
structure ModeInv (position mode : FlightMode) (g : ModeRun F D) : Prop where
  before : g.sys.phase = .idle ∨ g.sys.phase = .sensed → g.sys.flightMode = mode
  after : g.sys.phase = .switched ∨ g.sys.phase = .polling →
    g.sys.flightMode = if (g.since && g.sys.modeSwitchApplies) = true then position else mode

variable {e : SysmonEvent F D} {s s' : Sysmon F D}

theorem quietStep_after {position : FlightMode}
    (h : quietStep position s e = true) (hstep : sysmonTaskStep s e = some s') :
    s'.failsafe = .none ∧ s'.ok .rc = true := by
  have hall := (Bool.and_eq_true _ _ ▸ h : _ ∧ _).1
  rw [hstep] at hall
  have hpair := (Bool.and_eq_true _ _ ▸ hall : _ ∧ _)
  exact ⟨of_decide_eq_true hpair.1, hpair.2⟩

omit [CFloat D] in
theorem modeSwitchApplies_congr (hrc : s'.lastRc = s.lastRc)
    (hok : s'.ok = s.ok) : s'.modeSwitchApplies = s.modeSwitchApplies := by
  unfold Sysmon.modeSwitchApplies
  rw [hrc, hok]

variable {position mode : FlightMode}

theorem ModeInv.step {g g' : ModeRun F D}
    (h : ModeInv position mode g) (hquiet : quietStep position g.sys e = true)
    (hpublish : PublishesMode mode g e) (hstep : modeStep g e = some g') :
    ModeInv position mode g' := by
  obtain ⟨s', hsys, hg'⟩ := Option.map_eq_some_iff.mp hstep
  obtain ⟨hfailsafe, hrc⟩ := quietStep_after hquiet hsys
  have hscope := (Bool.and_eq_true _ _ ▸ hquiet : _ ∧ _).2
  cases sysmonTaskStep_move hsys with
  | @sense nowUs battV samples hphase =>
    subst hg'
    have hphase' : (sysmonSense g.sys nowUs battV samples).phase = .sensed := by
      simp only [sysmonSense]
    refine ⟨fun _ => ?_, fun h' => ?_⟩
    · exact (of_decide_eq_true hscope).trans (h.before (Or.inl hphase))
    · rcases h' with h' | h'
      · exact absurd (hphase'.symm.trans h') (by decide)
      · exact absurd (hphase'.symm.trans h') (by decide)
  | switches hphase =>
    subst hg'
    have hframe := sysmonSwitches_frame g.sys
    have hphase' : (sysmonSwitches g.sys).phase = .switched := by rw [hframe]
    have happlies : (sysmonSwitches g.sys).modeSwitchApplies = g.sys.modeSwitchApplies :=
      modeSwitchApplies_congr (by rw [hframe]) (by rw [hframe])
    have hmode := sysmonSwitches_flightMode (s := g.sys) (by rw [hframe] at hrc; exact hrc)
      (by rw [hframe] at hfailsafe; exact hfailsafe)
    refine ⟨fun h' => ?_, fun _ => ?_⟩
    · rcases h' with h' | h'
      · exact absurd (hphase'.symm.trans h') (by decide)
      · exact absurd (hphase'.symm.trans h') (by decide)
    · show (sysmonSwitches g.sys).flightMode = _
      rw [hmode, happlies, Bool.true_and, of_decide_eq_true hscope, h.before (Or.inr hphase)]
  | gcsTimeout hphase =>
    subst hg'
    have hframe := sysmonGcsTimeout_frame g.sys
    have hphase' : (sysmonGcsTimeout g.sys).phase = .polling := by rw [hframe]
    have happlies : (sysmonGcsTimeout g.sys).modeSwitchApplies = g.sys.modeSwitchApplies :=
      modeSwitchApplies_congr (by rw [hframe]) (by rw [hframe])
    refine ⟨fun h' => ?_, fun _ => ?_⟩
    · rcases h' with h' | h'
      · exact absurd (hphase'.symm.trans h') (by decide)
      · exact absurd (hphase'.symm.trans h') (by decide)
    · show (sysmonGcsTimeout g.sys).flightMode = _
      rw [happlies, hframe]
      exact h.after (Or.inl hphase)
  | command hphase hcmd =>
    have hwrites := sysmonTaskCommand_writes hcmd
    have hframe := hwrites.frame
    have hphase' : s'.phase = .polling := by
      rw [hframe]
      exact hphase
    have happlies : s'.modeSwitchApplies = g.sys.modeSwitchApplies :=
      modeSwitchApplies_congr (by rw [hframe]) (by rw [hframe])
    have hmode : s'.flightMode = g.sys.flightMode := by
      refine hwrites.flightMode.resolve_right ?_
      rintro ⟨mode', rfl⟩
      cases hscope
    subst hg'
    refine ⟨fun h' => ?_, fun _ => ?_⟩
    · rcases h' with h' | h'
      · exact absurd (hphase'.symm.trans h') (by decide)
      · exact absurd (hphase'.symm.trans h') (by decide)
    · show s'.flightMode = _
      rw [happlies, hmode]
      exact h.after (Or.inr hphase)
  | publish hphase =>
    have hmode := hpublish rfl _ hsys
    subst hg'
    refine ⟨fun _ => hmode, fun h' => ?_⟩
    rcases h' with h' | h' <;> cases h'

/-! ## Runs -/

theorem publishesMode_and_step_iff {g : ModeRun F D} (h : ModeInv position mode g)
    (hquiet : quietStep position g.sys e = true) :
    (PublishesMode mode g e ∧ ∀ g', modeStep g e = some g' → ModeInv position mode g') ↔
      SwitchAgrees position mode g e := by
  constructor
  · rintro ⟨hpublish, -⟩ rfl hphase hsince happlies
    have hmode : g.sys.flightMode = mode := hpublish rfl _ (if_pos hphase)
    rw [h.after (Or.inr hphase), hsince, happlies] at hmode
    exact hmode
  intro hagrees
  have hpublish : PublishesMode mode g e := by
    rintro rfl s' hstep
    cases sysmonTaskStep_move hstep with
    | publish hphase =>
      show g.sys.flightMode = mode
      rw [h.after (Or.inr hphase)]
      split
      · next hboth =>
          obtain ⟨hsince, happlies⟩ := (Bool.and_eq_true _ _ ▸ hboth : _ ∧ _)
          exact hagrees rfl hphase hsince happlies
      · rfl
  exact ⟨hpublish, fun g' hstep => h.step hquiet hpublish hstep⟩

theorem commandSetMode_modeInv {number : U8} (hmode : flightModeOf number = some mode)
    (hstep : sysmonTaskStep s (.command (.setMode number)) = some s') :
    ModeInv position mode ⟨s', false⟩ := by
  cases sysmonTaskStep_move hstep with
  | command hphase hcmd =>
    cases hcmd
    unfold commandSetMode
    rw [hmode]
    refine ⟨fun h' => ?_, fun _ => rfl⟩
    rcases h' with h' | h' <;> exact absurd (hphase.symm.trans h') (by decide)

/-- In the quiet time after a mode was commanded, every published status carries it if and only
if the mode switch asks for the same mode whenever it is applied. -/
theorem commanded_mode_published_iff {number : U8} {mode : FlightMode} {s s' : Sysmon F D}
    (hmode : flightModeOf number = some mode)
    (hstep : sysmonTaskStep s (.command (.setMode number)) = some s')
    (events : List (SysmonEvent F D))
    (hquiet : Along modeStep (fun g e => quietStep (rcMode s'.lastRc) g.sys e = true) ⟨s', false⟩
      events) :
    Along modeStep (PublishesMode mode) ⟨s', false⟩ events ↔
      Along modeStep (SwitchAgrees (rcMode s'.lastRc) mode) ⟨s', false⟩ events := by
  have hinit : ModeInv (rcMode s'.lastRc) mode ⟨s', false⟩ := commandSetMode_modeInv hmode hstep
  have hrule : (Throughout modeStep (ModeInv (rcMode s'.lastRc) mode) ⟨s', false⟩ events
        ∧ Along modeStep (PublishesMode mode) ⟨s', false⟩ events) ↔
      Along modeStep (SwitchAgrees (rcMode s'.lastRc) mode) ⟨s', false⟩ events :=
    throughout_and_along_iff (J := fun _ => True) (fun _ _ _ _ _ _ => trivial)
      (fun _ _ _ h hq => publishesMode_and_step_iff h hq) hinit trivial hquiet
  constructor
  · intro hpublish
    refine hrule.mp ⟨?_, hpublish⟩
    exact throughout_of_step (fun _ _ _ h hboth hs => h.step hboth.2 hboth.1 hs) hinit
      (hpublish.and hquiet)
  · intro hagrees
    exact (hrule.mpr hagrees).2

end

/-- The first cycle after boot, up to its commands; the mode switch is in the low position. -/
def firstCycle : List (SysmonEvent ℚ ℚ) := cycleWith (some ⟨1000000⟩) 1000000 .unknown

/-- The cycle ends, and the next one reads the same switches. -/
def secondCycle : List (SysmonEvent ℚ ℚ) :=
  .publish :: cycleWith (some ⟨1100000⟩) 1100000 .unknown

/-- The command of a mode, in the first cycle, is followed by a quiet cycle. -/
def quietAfter (number : U8) (s : Sysmon ℚ ℚ) : Bool :=
  (sysmonTaskStep s (.command (.setMode number))).any fun s' =>
    decide (Along modeStep (fun g e => quietStep (rcMode s'.lastRc) g.sys e = true) ⟨s', false⟩
      (secondCycle ++ [.publish]))

theorem stabilize_command_published_iff :
    ∃ s s' : Sysmon ℚ ℚ, sysmonTaskStep s (.command (.setMode 1)) = some s'
      ∧ (Along modeStep (PublishesMode .stabilize) ⟨s', false⟩ (secondCycle ++ [.publish]) ↔
        Along modeStep (SwitchAgrees (rcMode s'.lastRc) .stabilize) ⟨s', false⟩
          (secondCycle ++ [.publish])) := by
  have hrun : (runFrom sysmonTaskStep (sysmonInit (paramInit fun _ => none)) firstCycle).any
      (quietAfter 1) = true := by
    decide +kernel
  obtain ⟨s, -, hs⟩ := (Option.any_eq_true _ _).mp hrun
  obtain ⟨s', hstep, hquiet⟩ := (Option.any_eq_true _ _).mp hs
  exact ⟨s, s', hstep,
    commanded_mode_published_iff rfl hstep (secondCycle ++ [.publish]) (of_decide_eq_true hquiet)⟩

/-- A commanded acro mode is published once; the next cycle takes the mode of the switch. -/
theorem mode_switch_overrides_command :
    ¬ ∀ (before events : List (SysmonEvent ℚ ℚ)) (number : U8) (mode : FlightMode)
        (s s' : Sysmon ℚ ℚ),
      runFrom sysmonTaskStep (sysmonInit (paramInit fun _ => none)) before = some s →
      flightModeOf number = some mode →
      sysmonTaskStep s (.command (.setMode number)) = some s' →
      Along modeStep (fun g e => quietStep (rcMode s'.lastRc) g.sys e = true) ⟨s', false⟩ events →
      Along modeStep (PublishesMode mode) ⟨s', false⟩ events := by
  intro h
  have hrun : (runFrom sysmonTaskStep (sysmonInit (paramInit fun _ => none)) firstCycle).any
      (fun s => quietAfter 6 s && (sysmonTaskStep s (.command (.setMode 6))).any fun s' =>
        (runFrom modeStep ⟨s', false⟩ secondCycle).any fun g =>
          decide (g.sys.phase = .polling) && decide (g.sys.flightMode = .stabilize)) = true := by
    decide +kernel
  obtain ⟨s, hbefore, hs⟩ := (Option.any_eq_true _ _).mp hrun
  obtain ⟨hafter, hsecond⟩ := (Bool.and_eq_true _ _ ▸ hs : _ ∧ _)
  obtain ⟨s', hstep, hquiet⟩ := (Option.any_eq_true _ _).mp hafter
  obtain ⟨s'', hstep', hend⟩ := (Option.any_eq_true _ _).mp hsecond
  obtain rfl : s' = s'' := Option.some.inj (hstep.symm.trans hstep')
  obtain ⟨g, hg, hview⟩ := (Option.any_eq_true _ _).mp hend
  obtain ⟨hphase, hmode⟩ := (Bool.and_eq_true _ _ ▸ hview : _ ∧ _)
  have hall := h firstCycle (secondCycle ++ [.publish]) 6 .acro s s' hbefore rfl hstep
    (of_decide_eq_true hquiet)
  have hlast : PublishesMode .acro g .publish := hall.last hg
  have hacro : g.sys.flightMode = .acro := hlast rfl _ (if_pos (of_decide_eq_true hphase))
  exact absurd (hacro.symm.trans (of_decide_eq_true hmode)) (by decide)

end MmIotEsp32.HeliFc
