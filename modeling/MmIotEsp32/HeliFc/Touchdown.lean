/-
  MmIotEsp32.HeliFc.Touchdown

  Touchdown: the flight controller detects it by the altitude, sysmon confirms it and disarms.
-/
import MmIotEsp32.HeliFc.Agents.Setpoints
import MmIotEsp32.HeliFc.Agents.SysmonFrame
import MmIotEsp32.Lib.ZeroStamp

namespace MmIotEsp32.HeliFc

open Lib

variable {F D : Type*} [CFloat F] [CFloat D] [CFormats F D]

/-! ## A landing of the flight controller -/

/-- The two ways to land. -/
inductive Landing where
  | land
  | rth
  deriving Repr, DecidableEq

/-- The landing that the iteration finds the vehicle in. -/
def landingOf (s : FlightCtrl F D) (e : FlightInput F D) : Option Landing :=
  let r := flightRead s e
  if r.status.armState = .armed then
    match r.status.flightMode with
    | .land => some .land
    | .rth => if r.rthFallsBack = false ∧ (rthStart r).rthPhase = .land then some .rth else none
    | _ => none
  else none

/-- The flight loop, the clock of its last iteration, and its landing. -/
structure TouchdownRun (F D : Type*) where
  ctrl : FlightCtrl F D
  clock : U64
  landing : Option Landing
  /-- Since when every iteration of this landing has found the altitude low. -/
  lowSince : Option U64
  /-- In this landing the altitude has stayed low for `LAND_DETECT_TIME_MS`. -/
  stayedLow : Bool

def touchdownInit (params : Params F) (nowUs : U64) : TouchdownRun F D :=
  ⟨flightCtrlInit params nowUs, nowUs, none, none, false⟩

/-- The landing of the last iteration goes on. -/
def goesOn (g : TouchdownRun F D) (e : FlightInput F D) : Bool :=
  (landingOf g.ctrl e).isSome && decide (g.landing = landingOf g.ctrl e)

def lowSinceBefore (g : TouchdownRun F D) (e : FlightInput F D) : Option U64 :=
  if goesOn g e then g.lowSince else none

def lowSinceAfter (g : TouchdownRun F D) (e : FlightInput F D) : Option U64 :=
  if (landingOf g.ctrl e).isSome && (flightRead g.ctrl e).low then
    some ((lowSinceBefore g e).getD e.nowUs)
  else none

/-- The altitude has been low for more than `LAND_DETECT_TIME_MS`. -/
def lowLong (g : TouchdownRun F D) (e : FlightInput F D) : Bool :=
  (lowSinceAfter g e).any fun t => decide (landDetectTimeMs * 1000 < e.nowUs.toNat - t.toNat)

def stayedLowAfter (g : TouchdownRun F D) (e : FlightInput F D) : Bool :=
  (goesOn g e && g.stayedLow) || lowLong g e

/-- The clock does not go back. -/
def touchdownStep (passes : Nat) (g : TouchdownRun F D) (e : FlightInput F D) :
    Option (TouchdownRun F D) :=
  if g.clock.toNat ≤ e.nowUs.toNat then
    (flightStep passes g.ctrl e).map fun ctrl =>
      ⟨ctrl, e.nowUs, landingOf g.ctrl e, lowSinceAfter g e, stayedLowAfter g e⟩
  else none

/-- Minimum collective and zero throttle. -/
def Grounded (act : ActuatorControls F) : Prop :=
  act.collective = lit (-1) ∧ act.throttle = lit 0

/-- What is demanded of an iteration. -/
structure TouchdownOk (g : TouchdownRun F D) (e : FlightInput F D) (ctrl : FlightCtrl F D) :
    Prop where
  detected : ctrl.act.landDetected = true → stayedLowAfter g e = true
  latched : landingOf g.ctrl e = some .land →
    (ctrl.act.landDetected = true
      ∨ g.landing = some .land ∧ g.ctrl.act.landDetected = true) → Grounded ctrl.act
  rth : landingOf g.ctrl e = some .rth → lowLong g e = true →
    ctrl.act.landDetected = true ∧ Grounded ctrl.act

def TouchdownMonotone (passes : Nat) (g : TouchdownRun F D) (e : FlightInput F D) : Prop :=
  ∀ g', touchdownStep passes g e = some g' → TouchdownOk g e g'.ctrl

/-! ## One iteration in `LAND` -/

/-- The stamp and the flag that an iteration in `LAND` goes on with. -/
def landStamp (s : FlightCtrl F D) : U32 := if s.Enters .land then 0 else s.landLowAltStartMs

def landFlag (s : FlightCtrl F D) : Bool := if s.Enters .land then false else s.landDetected

/-- The altitude is low, and the timer says for long enough. -/
def touchesDown (s : FlightCtrl F D) (e : FlightInput F D) : Bool :=
  (flightRead s e).low
    && decide (landDetectTimeMs < (msOf e.nowUs - stampAt (landStamp s) e.nowUs).toNat)

/-- When the flight controller does what is demanded: a landing that begins at a low altitude
finds the timer stopped; while the touchdown is latched the altitude stays low and the timer
goes on; and the return to home does not stay low in its last phase. -/
def TouchdownFresh (g : TouchdownRun F D) (e : FlightInput F D) : Prop :=
  (landingOf g.ctrl e = some .land → g.landing ≠ some .land →
      (flightRead g.ctrl e).low = true → landStamp g.ctrl = 0)
    ∧ (landingOf g.ctrl e = some .land → g.landing = some .land →
      g.ctrl.landDetected = true → touchesDown g.ctrl e = true)
    ∧ (landingOf g.ctrl e = some .rth → lowLong g e = false)

instance (g : TouchdownRun F D) (e : FlightInput F D) : Decidable (TouchdownFresh g e) :=
  inferInstanceAs (Decidable (_ ∧ _ ∧ _))

omit [CFloat D] [CFormats F D] in
theorem landingOf_eq_land {s : FlightCtrl F D} {e : FlightInput F D} :
    landingOf s e = some .land ↔
      (flightRead s e).status.armState = .armed
        ∧ (flightRead s e).status.flightMode = .land := by
  unfold landingOf
  dsimp only
  by_cases harm : (flightRead s e).status.armState = .armed
  · rw [if_pos harm]
    cases hmode : (flightRead s e).status.flightMode <;> simp [harm]
  · rw [if_neg harm]
    simp [harm]

omit [CFloat D] [CFormats F D] in
theorem landControls_touchdown (act : ActuatorControls F) (collectiveOut : F) :
    Grounded (landControls act true true collectiveOut) := ⟨rfl, rfl⟩

omit [CFloat D] [CFormats F D] in
theorem landSetpoint_timer (c : FlightCycle F) (s : FlightCtrl F D) :
    (landSetpoint c s).landLowAltStartMs = landStamp s
      ∧ (landSetpoint c s).landDetected = landFlag s := by
  unfold landSetpoint landStamp landFlag
  split <;> exact ⟨rfl, rfl⟩

omit [CFloat D] [CFormats F D] in
theorem readyState_timer (passes : Nat) (s : FlightCtrl F D) (e : FlightInput F D) :
    landStamp (readyState passes s e) = landStamp s
      ∧ landFlag (readyState passes s e) = landFlag s := by
  have hkeeps := flightRead_keepsModes s e
  constructor
  · show (if (flightRead s e).prevMode ≠ .land then 0 else (flightRead s e).landLowAltStartMs) = _
    rw [hkeeps.prevMode, hkeeps.landLowAltStartMs]
    rfl
  · show (if (flightRead s e).prevMode ≠ .land then false else (flightRead s e).landDetected) = _
    rw [hkeeps.prevMode, hkeeps.landDetected]
    rfl

variable {passes : Nat}

theorem flightStep_land {s s' : FlightCtrl F D} {e : FlightInput F D}
    (hland : landingOf s e = some .land) (h : flightStep passes s e = some s') :
    s'.landLowAltStartMs = (if (flightRead s e).low then stampAt (landStamp s) e.nowUs else 0)
      ∧ s'.landDetected = (landFlag s || touchesDown s e) ∧ ∃ act collectiveOut,
        s'.act = landControls act (touchesDown s e) s'.landDetected collectiveOut := by
  obtain ⟨harm, hmode⟩ := landingOf_eq_land.mp hland
  obtain ⟨t, act, m, hcontrols, rfl⟩ := flightStep_armed harm h
  have hready : (readyState passes s e).status.flightMode = .land := hmode
  simp only [flightModeControls, hready, Option.map_eq_some_iff] at hcontrols
  obtain ⟨⟨t₁, act₁⟩, hflight, heq⟩ := hcontrols
  simp only [Prod.mk.injEq] at heq
  obtain ⟨⟨rfl, rfl⟩, rfl⟩ := heq
  obtain ⟨t₂, act₂, hstabilized, rfl, rfl, -⟩ := flightLand_eq_some hflight
  have hlow : t₂.low = (flightRead s e).low := by
    rw [hstabilized, landSetpoint_frame]
    rfl
  have hstamp : t₂.landLowAltStartMs = landStamp s := by
    rw [hstabilized]
    exact (landSetpoint_timer (cycleOf passes s e) (readyState passes s e)).1.trans
      (readyState_timer passes s e).1
  have hflag : t₂.landDetected = landFlag s := by
    rw [hstabilized]
    exact (landSetpoint_timer (cycleOf passes s e) (readyState passes s e)).2.trans
      (readyState_timer passes s e).2
  have hsince : lowSince t₂ (nowMsOf (cycleOf passes s e).nowUs)
      = stampAt (landStamp s) e.nowUs := by
    rw [← hstamp]
    rfl
  unfold touchesDown
  generalize (altitudeControl (landSetpoint (cycleOf passes s e) (readyState passes s e))
    (landSetpoint (cycleOf passes s e) (readyState passes s e)).altHoldSp).1 = collectiveOut
  cases hheight : (flightRead s e).low with
  | false =>
    rw [touchdownDetection_high t₂ (hlow.trans hheight), Bool.false_and, Bool.or_false]
    exact ⟨rfl, hflag, act₂, collectiveOut, rfl⟩
  | true =>
    rw [touchdownDetection_low t₂ (hlow.trans hheight), hsince, Bool.true_and]
    by_cases helapsed :
        landDetectTimeMs < (msOf e.nowUs - stampAt (landStamp s) e.nowUs).toNat
    · have helapsed' : landDetectTimeMs
          < (nowMsOf (cycleOf passes s e).nowUs - stampAt (landStamp s) e.nowUs).toNat := helapsed
      rw [if_pos helapsed', decide_eq_true helapsed, Bool.or_true]
      exact ⟨rfl, rfl, act₂, collectiveOut, rfl⟩
    have helapsed' : ¬ landDetectTimeMs
        < (nowMsOf (cycleOf passes s e).nowUs - stampAt (landStamp s) e.nowUs).toNat := helapsed
    rw [if_neg helapsed', decide_eq_false helapsed, Bool.or_false]
    exact ⟨rfl, hflag, act₂, collectiveOut, rfl⟩

theorem flightStep_not_land {s s' : FlightCtrl F D} {e : FlightInput F D}
    (hland : landingOf s e ≠ some .land) (h : flightStep passes s e = some s') :
    s'.act.landDetected = false := by
  by_cases harm : (flightRead s e).status.armState = .armed
  · obtain ⟨t, act, m, hmove, rfl⟩ := flightStep_move harm h
    have hmode : (flightRead s e).status.flightMode ≠ .land := fun heq =>
      hland (landingOf_eq_land.mpr ⟨harm, heq⟩)
    show act.landDetected = false
    generalize (flightRead s e).status.flightMode = mode at hmove hmode
    generalize act.landDetected = flag at hmove
    cases hmove <;> first | rfl | exact absurd rfl hmode
  · rw [flightStep_disarmed harm h]
    rfl

/-! ## A run of the flight controller -/

/-- What the code keeps, and what it stands for. -/
structure TouchdownInv (g : TouchdownRun F D) : Prop where
  ctrl : FlightOk g.ctrl
  disarmed : g.ctrl.status.armState ≠ .armed → g.ctrl.landDetected = false
  act : g.ctrl.act.landDetected = true → g.ctrl.landDetected = true
  landing : g.landing = some .land ↔
    g.ctrl.status.armState = .armed ∧ g.ctrl.status.flightMode = .land
  stamp : g.landing = some .land → StandsSince g.ctrl.landLowAltStartMs g.lowSince g.clock
  latched : g.landing = some .land → g.ctrl.landDetected = true → g.stayedLow = true

omit [CFormats F D] in
theorem touchdownInit_inv (params : Params F) (nowUs : U64) :
    TouchdownInv (touchdownInit params nowUs : TouchdownRun F D) where
  ctrl := flightCtrlInit_ok params nowUs
  disarmed := fun _ => rfl
  act := fun h => by cases h
  landing := ⟨fun h => (nomatch h), fun h => (nomatch h.1)⟩
  stamp := fun h => by cases h
  latched := fun h => by cases h

omit [CFloat D] [CFormats F D] in
theorem goesOn_of_land {g : TouchdownRun F D} {e : FlightInput F D}
    (hland : landingOf g.ctrl e = some .land) :
    goesOn g e = decide (g.landing = some .land) := by
  unfold goesOn
  rw [hland]
  rfl

section

variable {g : TouchdownRun F D} {e : FlightInput F D}

omit [CFloat D] [CFormats F D]

omit [CFloat F] in
theorem landStamp_of_goesOn (hinv : TouchdownInv g) (hgoes : g.landing = some .land) :
    landStamp g.ctrl = g.ctrl.landLowAltStartMs ∧ landFlag g.ctrl = g.ctrl.landDetected := by
  have hprev : ¬ g.ctrl.Enters .land := fun hne =>
    hne (hinv.ctrl.prevMode.trans (hinv.landing.mp hgoes).2)
  exact ⟨if_neg hprev, if_neg hprev⟩

omit [CFloat F] in
theorem landing_of_landFlag (hinv : TouchdownInv g) (hflag : landFlag g.ctrl = true) :
    g.landing = some .land ∧ g.ctrl.landDetected = true := by
  unfold landFlag at hflag
  split at hflag
  · cases hflag
  next hprev =>
    have hmode : g.ctrl.status.flightMode = .land := by
      rw [← hinv.ctrl.prevMode]
      exact Decidable.of_not_not hprev
    refine ⟨hinv.landing.mpr ⟨?_, hmode⟩, hflag⟩
    by_contra harm
    rw [hinv.disarmed harm] at hflag
    cases hflag

theorem stands_before (hinv : TouchdownInv g) (hfresh : TouchdownFresh g e)
    (hclock : g.clock.toNat ≤ e.nowUs.toNat) (hland : landingOf g.ctrl e = some .land)
    (hlow : (flightRead g.ctrl e).low = true) :
    StandsSince (landStamp g.ctrl) (lowSinceBefore g e) e.nowUs := by
  unfold lowSinceBefore
  rw [goesOn_of_land hland]
  by_cases hgoes : g.landing = some .land
  · rw [decide_eq_true hgoes, if_pos rfl, (landStamp_of_goesOn hinv hgoes).1]
    exact (hinv.stamp hgoes).later hclock
  · rw [decide_eq_false hgoes, if_neg Bool.false_ne_true, hfresh.1 hland hgoes hlow]
    exact StandsSince.stopped e.nowUs

theorem lowLong_of_touchesDown (hinv : TouchdownInv g) (hfresh : TouchdownFresh g e)
    (hclock : g.clock.toNat ≤ e.nowUs.toNat) (hland : landingOf g.ctrl e = some .land)
    (htouch : touchesDown g.ctrl e = true) : lowLong g e = true := by
  unfold touchesDown at htouch
  rw [Bool.and_eq_true, decide_eq_true_eq] at htouch
  have helapsed := (stands_before hinv hfresh hclock hland htouch.1).elapsed htouch.2
  unfold lowLong lowSinceAfter
  rw [hland, htouch.1]
  exact decide_eq_true helapsed

theorem stayedLow_of_detected (hinv : TouchdownInv g) (hfresh : TouchdownFresh g e)
    (hclock : g.clock.toNat ≤ e.nowUs.toNat) (hland : landingOf g.ctrl e = some .land)
    (hdetected : (landFlag g.ctrl || touchesDown g.ctrl e) = true) :
    stayedLowAfter g e = true := by
  unfold stayedLowAfter
  rw [Bool.or_eq_true] at hdetected ⊢
  rcases hdetected with hflag | htouch
  · obtain ⟨hgoes, hup⟩ := landing_of_landFlag hinv hflag
    rw [goesOn_of_land hland, decide_eq_true hgoes, hinv.latched hgoes hup]
    exact Or.inl rfl
  · exact Or.inr (lowLong_of_touchesDown hinv hfresh hclock hland htouch)

end

theorem touchdownStep_eq_some {g g' : TouchdownRun F D} {e : FlightInput F D}
    (h : touchdownStep passes g e = some g') :
    g.clock.toNat ≤ e.nowUs.toNat ∧ ∃ ctrl, flightStep passes g.ctrl e = some ctrl
      ∧ g' = ⟨ctrl, e.nowUs, landingOf g.ctrl e, lowSinceAfter g e, stayedLowAfter g e⟩ := by
  unfold touchdownStep at h
  split at h
  · next hclock =>
      obtain ⟨ctrl, hstep, rfl⟩ := Option.map_eq_some_iff.mp h
      exact ⟨hclock, ctrl, hstep, rfl⟩
  · cases h

theorem touchdownStep_inv {g g' : TouchdownRun F D} {e : FlightInput F D}
    (hinv : TouchdownInv g) (hfresh : TouchdownFresh g e)
    (h : touchdownStep passes g e = some g') : TouchdownInv g' := by
  obtain ⟨hclock, ctrl, hstep, rfl⟩ := touchdownStep_eq_some h
  have hstatus := (flightStep_readings hstep).status
  have hlanding : landingOf g.ctrl e = some .land ↔
      ctrl.status.armState = .armed ∧ ctrl.status.flightMode = .land := by
    rw [hstatus]
    exact landingOf_eq_land
  refine ⟨flightStep_ok hstep, fun harm => ?_, fun hact => ?_, hlanding,
    fun (hland : landingOf g.ctrl e = some .land) => ?_,
    fun (hland : landingOf g.ctrl e = some .land) hdetected => ?_⟩
  · rw [hstatus] at harm
    rw [flightStep_disarmed harm hstep]
    rfl
  · by_cases hland : landingOf g.ctrl e = some .land
    · obtain ⟨-, -, act, collectiveOut, heq⟩ := flightStep_land hland hstep
      rwa [heq, landControls_landDetected] at hact
    · rw [flightStep_not_land hland hstep] at hact
      cases hact
  · obtain ⟨hstamp, -, -⟩ := flightStep_land hland hstep
    show StandsSince ctrl.landLowAltStartMs (lowSinceAfter g e) e.nowUs
    unfold lowSinceAfter
    rw [hstamp, hland]
    cases hlow : (flightRead g.ctrl e).low with
    | true => exact (stands_before hinv hfresh hclock hland hlow).look
    | false => exact StandsSince.stopped e.nowUs
  obtain ⟨-, hflag, -⟩ := flightStep_land hland hstep
  refine stayedLow_of_detected hinv hfresh hclock hland ?_
  rw [← hflag]
  exact hdetected

theorem touchdownMonotone_of_fresh {g : TouchdownRun F D} {e : FlightInput F D}
    (hinv : TouchdownInv g) (hfresh : TouchdownFresh g e) : TouchdownMonotone passes g e := by
  intro g' h
  obtain ⟨hclock, ctrl, hstep, rfl⟩ := touchdownStep_eq_some h
  refine ⟨fun hact => ?_, fun hland hpublished => ?_, fun hrth hlong => ?_⟩
  · by_cases hland : landingOf g.ctrl e = some .land
    · obtain ⟨-, hflag, act, collectiveOut, heq⟩ := flightStep_land hland hstep
      refine stayedLow_of_detected hinv hfresh hclock hland ?_
      rw [← hflag]
      rwa [heq, landControls_landDetected] at hact
    · rw [flightStep_not_land hland hstep] at hact
      cases hact
  · obtain ⟨-, hflag, act, collectiveOut, heq⟩ := flightStep_land hland hstep
    -- whoever is latched touches down again in this iteration
    have htouch : touchesDown g.ctrl e = true := by
      rcases hpublished with hnow | ⟨hgoes, hbefore⟩
      · rw [heq, landControls_landDetected, hflag, Bool.or_eq_true] at hnow
        rcases hnow with hup | htouch
        · obtain ⟨hgoes, hdetected⟩ := landing_of_landFlag hinv hup
          exact hfresh.2.1 hland hgoes hdetected
        · exact htouch
      · exact hfresh.2.1 hland hgoes (hinv.act hbefore)
    show Grounded ctrl.act
    rw [heq, hflag, htouch, Bool.or_true]
    exact landControls_touchdown act collectiveOut
  · rw [hfresh.2.2 hrth] at hlong
    cases hlong

/-! ## Sysmon's confirmation -/

/-- Sysmon, and since when every cycle has had the touchdown reported to it. -/
structure LandingWatch (F D : Type*) where
  sys : Sysmon F D
  reportedSince : Option U64

def watchInit (params : Params F) : LandingWatch F D := ⟨sysmonInit params, none⟩

/-- The cycle's copy has a touchdown. -/
def SysmonSamples.landDetected (samples : SysmonSamples F D) : Bool :=
  (samples.act.map ActuatorControls.landDetected).getD false

/-- A vehicle that is not armed is not looked at. -/
def reportedAfter (w : LandingWatch F D) : SysmonEvent F D → Option U64
  | .sense nowUs _ samples =>
    if w.sys.armState = .armed ∧ samples.landDetected = true then
      some (w.reportedSince.getD nowUs)
    else none
  | _ => w.reportedSince

/-- The clock does not go back. -/
def clockGoesOn (s : Sysmon F D) : SysmonEvent F D → Bool
  | .sense nowUs _ _ => decide (s.nowUs.toNat ≤ nowUs.toNat)
  | _ => true

def watchStep (w : LandingWatch F D) (e : SysmonEvent F D) : Option (LandingWatch F D) :=
  if clockGoesOn w.sys e then
    (sysmonTaskStep w.sys e).map fun sys => ⟨sys, reportedAfter w e⟩
  else none

/-- A cycle that disarms has had the touchdown reported for `LAND_DISARM_CONFIRM_MS`. -/
def DisarmsConfirmed (w : LandingWatch F D) (e : SysmonEvent F D) : Prop :=
  ∀ w', watchStep w e = some w' → ∀ nowUs battV samples, e = .sense nowUs battV samples →
    w.sys.armState = .armed → w'.sys.armState = .disarmed →
      ∃ t ∈ w'.reportedSince, landDisarmConfirmMs.toNat * 1000 < nowUs.toNat - t.toNat

/-- Sysmon's stamp stands for the reports. -/
def WatchInv (w : LandingWatch F D) : Prop :=
  StandsSince w.sys.landDetectedStartMs w.reportedSince w.sys.nowUs

omit [CFormats F D] in
theorem watchInit_inv (params : Params F) : WatchInv (watchInit params : LandingWatch F D) :=
  StandsSince.stopped 0

omit [CFloat F] [CFloat D] [CFormats F D] in
theorem sysmonJudge_landing (s : Sysmon F D) :
    (sysmonJudge s).landDetectedStartMs = s.landDetectedStartMs
      ∧ (sysmonJudge s).nowUs = s.nowUs := by
  unfold sysmonJudge
  rw [sensorDegradation_frame, failsafeActions_frame, determineFailsafe_frame]
  exact ⟨rfl, rfl⟩

omit [CFormats F D] in
/-- A cycle: the arming, the clock and the stamp. -/
theorem sysmonSense_landing (s : Sysmon F D) (nowUs : U64) (battV : F)
    (samples : SysmonSamples F D) :
    (sysmonSense s nowUs battV samples).nowUs = nowUs
      ∧ (if s.armState = .armed ∧ samples.landDetected = true then
          if landDisarmConfirmMs < msOf nowUs - stampAt s.landDetectedStartMs nowUs then
            (sysmonSense s nowUs battV samples).armState = .disarmed
              ∧ (sysmonSense s nowUs battV samples).landDetectedStartMs = 0
          else (sysmonSense s nowUs battV samples).armState = .armed
            ∧ (sysmonSense s nowUs battV samples).landDetectedStartMs
              = stampAt s.landDetectedStartMs nowUs
        else (sysmonSense s nowUs battV samples).armState = s.armState
          ∧ (sysmonSense s nowUs battV samples).landDetectedStartMs = 0) := by
  obtain ⟨hstamp, hnow⟩ := sysmonJudge_landing (sysmonCheck s nowUs battV samples)
  have harm := sysmonJudge_armState (sysmonCheck s nowUs battV samples)
  have hstampCheck : (sysmonCheck s nowUs battV samples).landDetectedStartMs
      = s.landDetectedStartMs := by rw [sysmonCheck_frame]
  have hnowCheck : (sysmonCheck s nowUs battV samples).nowUs = nowUs := by rw [sysmonCheck_frame]
  rw [hstampCheck] at hstamp
  rw [hnowCheck] at hnow
  rw [sysmonCheck_armState] at harm
  simp only [sysmonSense]
  generalize sysmonJudge (sysmonCheck s nowUs battV samples) = j at *
  have hstart : j.landStartMs = stampAt s.landDetectedStartMs nowUs := by
    unfold Sysmon.landStartMs
    rw [hstamp, hnow]
    rfl
  have hms : nowMsOf j.nowUs = msOf nowUs := by
    rw [hnow]
    rfl
  refine ⟨?_, ?_⟩
  · rw [autoDisarm_frame]
    exact hnow
  by_cases hreported : s.armState = .armed ∧ samples.landDetected = true
  · have hreports : j.armState = .armed
        ∧ (samples.act.map ActuatorControls.landDetected).getD false = true :=
      ⟨harm.trans hreported.1, hreported.2⟩
    rw [if_pos hreported, autoDisarm, if_pos hreports, hms, hstart]
    split
    · exact ⟨rfl, rfl⟩
    · exact ⟨hreports.1, rfl⟩
  have hreports : ¬ (j.armState = .armed
      ∧ (samples.act.map ActuatorControls.landDetected).getD false = true) :=
    fun h => hreported ⟨harm.symm.trans h.1, h.2⟩
  rw [if_neg hreported, autoDisarm, if_neg hreports]
  exact ⟨harm, rfl⟩

omit [CFormats F D] in
theorem watchStep_eq_some {w w' : LandingWatch F D} {e : SysmonEvent F D}
    (h : watchStep w e = some w') :
    clockGoesOn w.sys e = true
      ∧ ∃ sys, sysmonTaskStep w.sys e = some sys ∧ w' = ⟨sys, reportedAfter w e⟩ := by
  unfold watchStep at h
  split at h
  · next hclock =>
      obtain ⟨sys, hstep, rfl⟩ := Option.map_eq_some_iff.mp h
      exact ⟨hclock, sys, hstep, rfl⟩
  · cases h

omit [CFormats F D] in
theorem sysmonTaskStep_sense {s s' : Sysmon F D} {nowUs : U64} {battV : F}
    {samples : SysmonSamples F D} (h : sysmonTaskStep s (.sense nowUs battV samples) = some s') :
    s' = sysmonSense s nowUs battV samples := by
  cases sysmonTaskStep_move h with
  | sense hphase => rfl

omit [CFormats F D] in
theorem sysmonTaskStep_landing {s s' : Sysmon F D} {e : SysmonEvent F D}
    (he : ∀ nowUs battV samples, e ≠ .sense nowUs battV samples)
    (h : sysmonTaskStep s e = some s') :
    s'.landDetectedStartMs = s.landDetectedStartMs ∧ s'.nowUs = s.nowUs := by
  rw [sysmonTaskStep_frame he h]
  exact ⟨rfl, rfl⟩

omit [CFormats F D] in
theorem watchStep_inv {w w' : LandingWatch F D} {e : SysmonEvent F D} (hinv : WatchInv w)
    (h : watchStep w e = some w') : WatchInv w' := by
  obtain ⟨hclock, sys, hstep, rfl⟩ := watchStep_eq_some h
  by_cases he : ∃ nowUs battV samples, e = .sense nowUs battV samples
  · obtain ⟨nowUs, battV, samples, rfl⟩ := he
    have hlater : StandsSince w.sys.landDetectedStartMs w.reportedSince nowUs :=
      hinv.later (of_decide_eq_true hclock)
    obtain ⟨hnow, hlanding⟩ := sysmonSense_landing w.sys nowUs battV samples
    obtain rfl := sysmonTaskStep_sense hstep
    unfold WatchInv reportedAfter
    dsimp only
    rw [hnow]
    split at hlanding
    · next hreported =>
        rw [if_pos hreported]
        split at hlanding
        · rw [hlanding.2]
          -- the timer is stopped, the reports go on
          exact ⟨hlater.look.past, fun hrunning => absurd rfl hrunning⟩
        · rw [hlanding.2]
          exact hlater.look
    · next hreported =>
        rw [if_neg hreported, hlanding.2]
        exact StandsSince.stopped nowUs
  obtain ⟨hstamp, hnow⟩ := sysmonTaskStep_landing
    (fun nowUs battV samples heq => he ⟨nowUs, battV, samples, heq⟩) hstep
  unfold WatchInv
  dsimp only
  rw [hstamp, hnow]
  cases e with
  | sense nowUs battV samples => exact absurd ⟨nowUs, battV, samples, rfl⟩ he
  | switches | gcsTimeout | command cmd | publish => exact hinv

omit [CFormats F D] in
theorem disarmsConfirmed_of_inv {w : LandingWatch F D} {e : SysmonEvent F D} (hinv : WatchInv w) :
    DisarmsConfirmed w e := by
  intro w' h nowUs battV samples he harmed hdisarmed
  subst he
  obtain ⟨hclock, sys, hstep, rfl⟩ := watchStep_eq_some h
  have hlater : StandsSince w.sys.landDetectedStartMs w.reportedSince nowUs :=
    hinv.later (of_decide_eq_true hclock)
  obtain ⟨-, hlanding⟩ := sysmonSense_landing w.sys nowUs battV samples
  obtain rfl := sysmonTaskStep_sense hstep
  split at hlanding
  · next hreported =>
      split at hlanding
      · next hconfirmed =>
          refine ⟨w.reportedSince.getD nowUs, if_pos hreported, ?_⟩
          exact hlater.elapsed (BitVec.lt_def.mp hconfirmed)
      · rw [hlanding.1] at hdisarmed
        cases hdisarmed
  · rw [hlanding.1, harmed] at hdisarmed
    cases hdisarmed

/-! ## Touchdowns -/

/-- In every run of the flight controller whose landings go well touchdowns are as demanded, and
in every run of sysmon a landing disarms only when it is confirmed. -/
theorem touchdown_monotone {passes : Nat} {params sysParams : Params F} {nowUs : U64}
    {events : List (FlightInput F D)} (sysEvents : List (SysmonEvent F D))
    (h : Along (touchdownStep passes) TouchdownFresh (touchdownInit params nowUs) events) :
    Along (touchdownStep passes) (TouchdownMonotone passes) (touchdownInit params nowUs) events
      ∧ Along watchStep DisarmsConfirmed (watchInit sysParams : LandingWatch F D) sysEvents := by
  constructor
  · have hinv : Throughout (touchdownStep passes) TouchdownInv (touchdownInit params nowUs) events :=
      throughout_of_step (fun _ _ _ hinv hfresh hstep => touchdownStep_inv hinv hfresh hstep)
        (touchdownInit_inv params nowUs) h
    have halong : Along (touchdownStep passes) (fun g _ => TouchdownInv g)
        (touchdownInit params nowUs) events := by
      refine Throughout.along_of ?_ hinv
      intro g e hg
      exact hg
    exact (halong.and h).mono fun g e hboth => touchdownMonotone_of_fresh hboth.1 hboth.2
  have hinv : Throughout watchStep WatchInv (watchInit sysParams : LandingWatch F D) sysEvents :=
    throughout_of_invariant (fun _ _ _ hinv hstep => watchStep_inv hinv hstep)
      (watchInit_inv sysParams) sysEvents
  refine Throughout.along_of ?_ hinv
  intro w e hw
  exact disarmsConfirmed_of_inv hw

/-- A landing that stays on the ground, and a cycle of sysmon. -/
theorem touchdown_monotone_on_ground :
    Along (touchdownStep 8) (TouchdownMonotone 8) (touchdownInit (paramInit fun _ => none) 0)
        [heard 2000 .armed .stabilize 5, heard 4000 .armed .land (1 / 10),
          heard 4000000 .armed .land (1 / 10), heard 4002000 .armed .land (1 / 10)]
      ∧ Along watchStep DisarmsConfirmed
        (watchInit (paramInit fun _ => none) : LandingWatch ℚ ℚ)
        [.sense 5000 12 ⟨none, none, none, none, none, none⟩] :=
  touchdown_monotone _ (by decide +kernel)

/-- After the touchdown the estimate of the altitude rises: the collective goes to the middle. -/
theorem latched_touchdown_raises_collective :
    ¬ ∀ events : List (FlightInput ℚ ℚ),
      Along (touchdownStep 8) (TouchdownMonotone 8) (touchdownInit (paramInit fun _ => none) 0)
        events := by
  intro h
  have hrun : (runFrom (touchdownStep 8) (touchdownInit (paramInit fun _ => none) 0)
      [heard 2000 .armed .stabilize 5, heard 4000 .armed .land (1 / 10),
        heard 4000000 .armed .land (1 / 10)]).any (fun g =>
      decide (landingOf g.ctrl (heard 4002000 .armed .land 1) = some .land)
        && (touchdownStep 8 g (heard 4002000 .armed .land 1)).any fun g' =>
          g'.ctrl.act.landDetected && !decide (g'.ctrl.act.collective = lit (-1))) = true := by
    decide +kernel
  obtain ⟨g, hg, hlast⟩ := (Option.any_eq_true _ _).mp hrun
  simp only [Bool.and_eq_true, decide_eq_true_eq] at hlast
  obtain ⟨hland, hstep⟩ := hlast
  obtain ⟨g', hg', hother⟩ := (Option.any_eq_true _ _).mp hstep
  rw [Bool.and_eq_true] at hother
  have hmonotone : TouchdownMonotone 8 g (heard 4002000 .armed .land 1) :=
    (h ([heard 2000 .armed .stabilize 5, heard 4000 .armed .land (1 / 10),
      heard 4000000 .armed .land (1 / 10)] ++ [heard 4002000 .armed .land 1])).last hg
  have hgrounded := (hmonotone g' hg').latched hland (Or.inl hother.1)
  rw [hgrounded.1] at hother
  exact absurd hother.2 (by simp)

end MmIotEsp32.HeliFc
