/-
  MmIotEsp32.HeliFc.HomePosition

  The two home positions: the one that sysmon reports, the one that the flight controller
  returns to.
-/
import MmIotEsp32.HeliFc.Agents.FlightCtrlFrame
import MmIotEsp32.HeliFc.Agents.SysmonFrame

namespace MmIotEsp32.HeliFc

open Lib

variable {F D : Type*} [CFloat F] [CFloat D] [CFormats F D]

/-! ## The two tasks and their topics -/

/-- Sysmon, the flight controller, the two topics between them and the GPS, and the numbers. -/
structure HomeShare (F D : Type*) where
  sys : Sysmon F D
  ctrl : FlightCtrl F D
  /-- `ORB_ID_SENSOR_GPS`; sysmon's subscription is the first one. -/
  gps : OrbTopic (GpsData F D)
  /-- `ORB_ID_VEHICLE_STATUS`, each status with the arming of its publication. -/
  status : OrbTopic (VehicleStatus × Nat)
  /-- How often the vehicle has been armed. -/
  arming : Nat
  /-- The arming of the status that the flight controller has. -/
  heard : Nat
  sysHome : Nat
  ctrlHome : Nat

inductive HomeEvent (F D : Type*) where
  /-- The driver publishes a sample. -/
  | gps (sample : GpsData F D)
  /-- A step of sysmon; the GPS sample of a cycle is what waits in the topic. -/
  | sysmon (e : SysmonEvent F D)
  /-- An iteration of the flight controller; the status and the GPS sample likewise. -/
  | iterate (e : FlightInput F D)

def homeInit (params : Params F) (nowUs : U64) : HomeShare F D where
  sys := sysmonInit params
  ctrl := flightCtrlInit params nowUs
  gps := ⟨true, none, [none, none]⟩
  status := ⟨true, none, [none]⟩
  arming := 0
  heard := 0
  sysHome := 0
  ctrlHome := 0

/-- The step with the GPS sample that waits for sysmon. -/
def sysmonHears (g : HomeShare F D) : SysmonEvent F D → SysmonEvent F D
  | .sense nowUs battV samples => .sense nowUs battV { samples with gps := g.gps.waiting 0 }
  | e => e

def gpsAfter (g : HomeShare F D) : SysmonEvent F D → OrbTopic (GpsData F D)
  | .sense .. => g.gps.copied 0
  | _ => g.gps

def statusAfter (g : HomeShare F D) (s : Sysmon F D) :
    SysmonEvent F D → OrbTopic (VehicleStatus × Nat)
  | .publish => g.status.published (s.status, g.arming)
  | _ => g.status

/-- The sample that `captureHome` takes. -/
def homeSample (s : Sysmon F D) (gpsData : Option (GpsData F D)) : Option (GpsData F D) :=
  gpsData.filter fun gps =>
    decide (s.armState = .armed ∧ s.homeSet = false ∧ gps.homeFix = true)

/-- The sample that the step captures sysmon's home from. -/
def sysmonCaptures (g : HomeShare F D) : SysmonEvent F D → Option (GpsData F D)
  | .sense .. =>
    if g.sys.phase = .idle then homeSample g.sys (g.gps.waiting 0) else none
  | _ => none

/-- The iteration with the samples that wait for the flight controller. -/
def flightHears (g : HomeShare F D) (e : FlightInput F D) : FlightInput F D :=
  { e with gps := g.gps.waiting 1, status := (g.status.waiting 0).map Prod.fst }

/-- The arming of the status that the iteration goes by. -/
def heardAfter (g : HomeShare F D) : Nat := ((g.status.waiting 0).map Prod.snd).getD g.heard

/-- The sample that the iteration captures the flight controller's home from. -/
def flightCaptures (g : HomeShare F D) (e : FlightInput F D) : Option (GpsData F D) :=
  let s := copyTopics g.ctrl (flightHears g e)
  if s.status.armState = .armed ∧ s.homeSet = false ∧ s.gps.homeFix = true then some s.gps
  else none

def homeStep (passes : Nat) (g : HomeShare F D) : HomeEvent F D → Option (HomeShare F D)
  | .gps sample => some { g with gps := g.gps.published sample }
  | .sysmon e =>
    (sysmonTaskStep g.sys (sysmonHears g e)).map fun s =>
      { g with
        sys := s
        gps := gpsAfter g e
        status := statusAfter g s e
        arming :=
          if g.sys.armState = .disarmed ∧ s.armState = .armed then g.arming + 1 else g.arming
        sysHome := if (sysmonCaptures g e).isSome then g.arming else g.sysHome }
  | .iterate e =>
    (flightStep passes g.ctrl (flightHears g e)).map fun ctrl =>
      { g with
        ctrl
        gps := g.gps.copied 1
        status := g.status.copied 0
        heard := heardAfter g
        ctrlHome := if (flightCaptures g e).isSome then heardAfter g else g.ctrlHome }

/-- The coordinates are the same, and they are from the same arming. -/
structure SameHome (g : HomeShare F D) : Prop where
  lat : g.ctrl.homeLat = g.sys.homeLat
  lon : g.ctrl.homeLon = g.sys.homeLon
  arming : g.ctrlHome = g.sysHome

/-- What is demanded: while the vehicle is armed there is one home. -/
def OneHome (g : HomeShare F D) : Prop :=
  g.sys.armState = .armed → g.sys.homeSet = true → g.ctrl.homeSet = true → SameHome g

/-- Whoever captures second captures in the arming in which the first one did, from a sample
with the coordinates that the first one has. -/
def CapturesSame (g : HomeShare F D) : HomeEvent F D → Prop
  | .gps _ => True
  | .sysmon e => ∀ gps ∈ sysmonCaptures g e, g.ctrl.homeSet = true →
      gps.latitude = g.ctrl.homeLat ∧ gps.longitude = g.ctrl.homeLon ∧ g.arming = g.ctrlHome
  | .iterate e => ∀ gps ∈ flightCaptures g e, g.sys.homeSet = true →
      gps.latitude = g.sys.homeLat ∧ gps.longitude = g.sys.homeLon ∧ heardAfter g = g.sysHome

instance [DecidableEq D] (g : HomeShare F D) (e : HomeEvent F D) : Decidable (CapturesSame g e) :=
  match e with
  | .gps _ => inferInstanceAs (Decidable True)
  | .sysmon _ => inferInstanceAs (Decidable (∀ gps ∈ sysmonCaptures g _, _ → _))
  | .iterate _ => inferInstanceAs (Decidable (∀ gps ∈ flightCaptures g _, _ → _))

/-! ## What a step does to a home -/

/-- A home that was captured from a sample. -/
def CapturedFrom (gps : GpsData F D) (lat lon : D) : Prop :=
  lat = gps.latitude ∧ lon = gps.longitude

omit [CFormats F D] in
theorem captureHome_sample (s : Sysmon F D) (gpsData : Option (GpsData F D)) :
    match homeSample s gpsData with
    | some gps => CapturedFrom gps (captureHome s gpsData).homeLat (captureHome s gpsData).homeLon
    | none => captureHome s gpsData = s := by
  unfold homeSample captureHome
  cases gpsData with
  | none => rfl
  | some gps =>
    by_cases hcaptures : s.armState = .armed ∧ s.homeSet = false ∧ gps.homeFix = true
    · simp only [Option.filter_some, if_pos hcaptures, decide_eq_true hcaptures]
      exact ⟨rfl, rfl⟩
    · simp only [Option.filter_some, if_neg hcaptures, decide_eq_false hcaptures,
        if_neg Bool.false_ne_true]

omit [CFormats F D] in
theorem captureHome_congr {s t : Sysmon F D} (harm : t.armState = s.armState)
    (hset : t.homeSet = s.homeSet) (hlat : t.homeLat = s.homeLat) (hlon : t.homeLon = s.homeLon)
    (gpsData : Option (GpsData F D)) :
    (captureHome t gpsData).homeLat = (captureHome s gpsData).homeLat
      ∧ (captureHome t gpsData).homeLon = (captureHome s gpsData).homeLon
      ∧ (captureHome t gpsData).homeSet = (captureHome s gpsData).homeSet := by
  unfold captureHome
  rw [harm, hset]
  cases gpsData with
  | none => exact ⟨hlat, hlon, hset⟩
  | some gps =>
    dsimp only
    split
    · exact ⟨rfl, rfl, rfl⟩
    · exact ⟨hlat, hlon, hset⟩

omit [CFormats F D] in
theorem sysmonSense_home (s : Sysmon F D) (nowUs : U64) (battV : F) (samples : SysmonSamples F D) :
    (sysmonSense s nowUs battV samples).homeLat = (captureHome s samples.gps).homeLat
      ∧ (sysmonSense s nowUs battV samples).homeLon = (captureHome s samples.gps).homeLon
      ∧ ((sysmonSense s nowUs battV samples).homeSet = true →
        (captureHome s samples.gps).homeSet = true) := by
  have hread := sameReadings_sysmonSense s nowUs battV samples
  rw [hread.homeLat, hread.homeLon, hread.homeSet]
  unfold sysmonCheck
  dsimp only
  generalize hc : copySensors (monitorBattery { s with nowUs := nowUs, sent := [] } battV) samples
    = c
  have hsame : c.armState = s.armState ∧ c.homeSet = s.homeSet ∧ c.homeLat = s.homeLat
      ∧ c.homeLon = s.homeLon := by
    rw [← hc, monitorBattery_frame]
    exact ⟨rfl, rfl, rfl, rfl⟩
  obtain ⟨harm, hset, hlat, hlon⟩ := hsame
  obtain ⟨hlat', hlon', hset'⟩ := captureHome_congr harm hset hlat hlon samples.gps
  rw [clearHome_frame, ← hlat', ← hlon', ← hset']
  refine ⟨rfl, rfl, fun hkept => ?_⟩
  have hkept : (clearHome (captureHome c samples.gps)).homeSet = true := hkept
  unfold clearHome at hkept
  split at hkept
  · cases hkept
  · exact hkept

omit [CFormats F D] in
theorem sysmonTaskStep_home {s s' : Sysmon F D} {e : SysmonEvent F D}
    (hsense : ∀ nowUs battV samples, e ≠ .sense nowUs battV samples)
    (h : sysmonTaskStep s e = some s') :
    s'.homeLat = s.homeLat ∧ s'.homeLon = s.homeLon ∧ s'.homeSet = s.homeSet := by
  rw [sysmonTaskStep_frame hsense h]
  exact ⟨rfl, rfl, rfl⟩

omit [CFormats F D] in
theorem homeStep_sysmon {g : HomeShare F D} {e : SysmonEvent F D} {s : Sysmon F D}
    (h : sysmonTaskStep g.sys (sysmonHears g e) = some s) :
    match sysmonCaptures g e with
    | some gps => CapturedFrom gps s.homeLat s.homeLon
    | none => s.homeLat = g.sys.homeLat ∧ s.homeLon = g.sys.homeLon
        ∧ (s.homeSet = true → g.sys.homeSet = true) := by
  cases e with
  | sense nowUs battV samples =>
    have h : (if g.sys.phase = .idle then some (sysmonSense g.sys nowUs battV
      { samples with gps := g.gps.waiting 0 }) else none) = some s := h
    have hsample := captureHome_sample g.sys (g.gps.waiting 0)
    split at h
    · next hidle =>
        cases h
        obtain ⟨hlat, hlon, hset⟩ := sysmonSense_home g.sys nowUs battV
          { samples with gps := g.gps.waiting 0 }
        rw [hlat, hlon]
        simp only [sysmonCaptures, if_pos hidle]
        cases hcaptured : homeSample g.sys (g.gps.waiting 0) with
        | some gps =>
          rw [hcaptured] at hsample
          exact hsample
        | none =>
          rw [hcaptured] at hsample
          dsimp only at hsample hset ⊢
          rw [hsample] at hset ⊢
          exact ⟨rfl, rfl, hset⟩
    · cases h
  | switches | gcsTimeout | command cmd | publish =>
    obtain ⟨hlat, hlon, hset⟩ := sysmonTaskStep_home (by simp [sysmonHears]) h
    exact ⟨hlat, hlon, fun hkept => hset ▸ hkept⟩

theorem homeStep_iterate {passes : Nat} {g : HomeShare F D} {e : FlightInput F D}
    {ctrl : FlightCtrl F D} (h : flightStep passes g.ctrl (flightHears g e) = some ctrl) :
    match flightCaptures g e with
    | some gps => CapturedFrom gps ctrl.homeLat ctrl.homeLon
    | none => ctrl.homeLat = g.ctrl.homeLat ∧ ctrl.homeLon = g.ctrl.homeLon
        ∧ ctrl.homeSet = g.ctrl.homeSet := by
  have hread := flightStep_readings h
  rw [hread.homeLat, hread.homeLon, hread.homeSet]
  unfold flightCaptures flightRead captureFlightHome
  generalize hs : copyTopics g.ctrl (flightHears g e) = s
  dsimp only
  by_cases hcaptures : s.status.armState = .armed ∧ s.homeSet = false ∧ s.gps.homeFix = true
  · simp only [if_pos hcaptures]
    exact ⟨rfl, rfl⟩
  · simp only [if_neg hcaptures]
    rw [← hs]
    exact ⟨rfl, rfl, rfl⟩

/-! ## A run -/

/-- The homes agree whenever there are two, armed or not. -/
def HomeInv (g : HomeShare F D) : Prop :=
  g.sys.homeSet = true → g.ctrl.homeSet = true → SameHome g

theorem homeStep_inv {passes : Nat} {g g' : HomeShare F D} {e : HomeEvent F D} (hinv : HomeInv g)
    (hsame : CapturesSame g e) (h : homeStep passes g e = some g') : HomeInv g' := by
  cases e with
  | gps sample =>
    cases h
    intro hsys hctrl
    obtain ⟨hlat, hlon, harming⟩ := hinv hsys hctrl
    exact ⟨hlat, hlon, harming⟩
  | sysmon e =>
    obtain ⟨s, hstep, rfl⟩ := Option.map_eq_some_iff.mp h
    have hhome := homeStep_sysmon hstep
    intro hsys hctrl
    cases hcaptures : sysmonCaptures g e with
    | some gps =>
      rw [hcaptures] at hhome
      obtain ⟨hlat, hlon, harming⟩ := hsame gps hcaptures hctrl
      exact ⟨hlat.symm.trans hhome.1.symm, hlon.symm.trans hhome.2.symm, harming.symm⟩
    | none =>
      rw [hcaptures] at hhome
      obtain ⟨hlat, hlon, hkept⟩ := hhome
      obtain ⟨hlat', hlon', harming⟩ := hinv (hkept hsys) hctrl
      exact ⟨hlat'.trans hlat.symm, hlon'.trans hlon.symm, harming⟩
  | iterate e =>
    obtain ⟨ctrl, hstep, rfl⟩ := Option.map_eq_some_iff.mp h
    have hhome := homeStep_iterate hstep
    intro hsys hctrl
    cases hcaptures : flightCaptures g e with
    | some gps =>
      rw [hcaptures] at hhome
      obtain ⟨hlat, hlon, harming⟩ := hsame gps hcaptures hsys
      exact ⟨hhome.1.trans hlat, hhome.2.trans hlon, harming⟩
    | none =>
      rw [hcaptures] at hhome
      obtain ⟨hlat, hlon, hkept⟩ := hhome
      obtain ⟨hlat', hlon', harming⟩ := hinv hsys (hkept.symm.trans hctrl)
      exact ⟨hlat.trans hlat', hlon.trans hlon', harming⟩

/-- A cycle of sysmon with the IMU and the RC (collective low), and a command. -/
def homeCycle (nowUs : U64) (cmd : SysmonCommand ℚ) : List (HomeEvent ℚ ℚ) :=
  [.sysmon (.sense nowUs 0
    { imu := some ⟨nowUs⟩
      baro := none
      mag := none
      gps := none
      rc := some ⟨nowUs, fun _ => 0, 4, false⟩
      act := none }),
   .sysmon .switches, .sysmon .gcsTimeout, .sysmon (.command cmd), .sysmon .publish]

/-- An iteration that hears what waits in the topics. -/
def homeIterate (nowUs : U64) : HomeEvent ℚ ℚ :=
  .iterate ⟨nowUs, paramInit fun _ => none, missionMgrInit, none, none, none, none, none, none⟩

/-- The vehicle is armed, and a fix comes. -/
def firstFlight : List (HomeEvent ℚ ℚ) :=
  homeCycle 1000000 (.arm 1) ++ [homeIterate 1002000, .gps ⟨1100000, 47, 8, 400, 3, 8⟩,
    homeIterate 1102000] ++ homeCycle 2000000 .unknown

/-- It is disarmed, and armed at another place. -/
def secondFlight : List (HomeEvent ℚ ℚ) :=
  homeCycle 3000000 .disarm ++ [homeIterate 3002000] ++ homeCycle 4000000 (.arm 1)
    ++ [.gps ⟨4100000, 48, 9, 400, 3, 8⟩, homeIterate 4102000] ++ homeCycle 5000000 .unknown

end MmIotEsp32.HeliFc
