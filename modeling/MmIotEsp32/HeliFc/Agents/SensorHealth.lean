/-
  MmIotEsp32.HeliFc.Agents.SensorHealth

  The sensor task and the health check of the system monitor (`agents/sensor_agent.c`,
  `agents/sysmon_agent.c`).
-/
import MmIotEsp32.HeliFc.Uorb.Uorb
import MmIotEsp32.Lib.Transition

namespace MmIotEsp32.HeliFc

open Lib Function

/-! ## The check -/

/-- The topics whose freshness is checked, in the order in which they are copied. -/
inductive SensorTopic where
  | imu
  | baro
  | mag
  | gps
  | rc
  deriving Repr, DecidableEq

/-- What every sample has: the clock when it was made. -/
structure SensorSample where
  timestampUs : U64
  deriving Repr, DecidableEq

/-- `PARAM_SENSOR_TIMEOUT_MS` in microseconds: the parameter is kept between 100 and 5000. -/
structure SensorTimeout where
  us : U64
  min_le : 100000 ≤ us.toNat
  le_max : us.toNat ≤ 5000000

def rcTimeoutUs : U64 := 1000000

/-- The timeout that a topic is checked against. -/
def timeoutUs (timeout : SensorTopic → SensorTimeout) : SensorTopic → U64
  | .rc => rcTimeoutUs
  | topic => (timeout topic).us

/-- `(last_ts > 0) && ((now_us - last_ts) < timeout)`. -/
def sensorOk (nowUs lastTs timeout : U64) : Bool :=
  decide (0 < lastTs.toNat) && decide ((nowUs - lastTs).toNat < timeout.toNat)

/-- `failsafe_state_t`. -/
inductive FailsafeState where
  | none
  | rcLost
  | batteryLow
  | batteryCritical
  | sensorFailure
  | gcsLost
  deriving Repr, DecidableEq

/-- Step 3 of the cycle: the failsafe state, highest severity last. -/
def newFailsafe (warning critical armed : Bool) (ok : SensorTopic → Bool) : FailsafeState :=
  let state := if warning then FailsafeState.batteryLow else .none
  let state := if !ok .rc && armed then .rcLost else state
  let state := if critical then .batteryCritical else state
  if !ok .imu then .sensorFailure else state

theorem sensorOk_iff {now ts timeout : U64} :
    sensorOk now ts timeout = true ↔ 0 < ts.toNat ∧ (now - ts).toNat < timeout.toNat := by
  unfold sensorOk
  rw [Bool.and_eq_true, decide_eq_true_eq, decide_eq_true_eq]

theorem toNat_sub_of_le {now ts : U64} (h : ts.toNat ≤ now.toNat) :
    (now - ts).toNat = now.toNat - ts.toNat := by
  have hnow := now.isLt
  rw [BitVec.toNat_sub]
  omega

theorem toNat_sub_of_lt {now ts : U64} (h : now.toNat < ts.toNat) :
    (now - ts).toNat = 2 ^ 64 - (ts.toNat - now.toNat) := by
  have hts := ts.isLt
  rw [BitVec.toNat_sub]
  omega

variable {clock : Nat}

theorem sensorOk_iff_of_fresh {now ts timeout : U64} (hnow : now.toNat ≤ clock)
    (hclock : clock < 2 ^ 63) (hts : ts.toNat ≤ clock) (htimeout : timeout.toNat ≤ 5000000)
    (hfresh : clock - ts.toNat < timeout.toNat) :
    sensorOk now ts timeout = true ↔ 0 < ts.toNat ∧ ts.toNat ≤ now.toNat := by
  rw [sensorOk_iff, and_congr_right_iff]
  intro _
  by_cases hle : ts.toNat ≤ now.toNat
  · rw [toNat_sub_of_le hle]
    omega
  · rw [toNat_sub_of_lt (by omega)]
    omega

theorem newFailsafe_of_imu {warning critical armed : Bool} {ok : SensorTopic → Bool} :
    newFailsafe warning critical armed ok = .sensorFailure ↔ ok .imu = false := by
  unfold newFailsafe
  cases ok .imu with
  | false => simp
  | true =>
    dsimp only
    split_ifs <;> simp_all

/-! ## The two tasks -/

/-- Where sysmon is in its cycle. -/
inductive SysmonPc where
  | start
  /-- The clock is read; the topics are to be copied. -/
  | copying (topics : List SensorTopic)
  deriving Repr, DecidableEq

structure HealthSystem where
  /-- `esp_timer_get_time`. -/
  clock : Nat
  topics : SensorTopic → OrbTopic SensorSample
  /-- The subscription of sysmon. -/
  sub : SensorTopic → Nat
  /-- The clock as the sensor task has read it. -/
  sensorNowUs : U64
  pc : SysmonPc
  nowUs : U64
  lastTs : SensorTopic → U64
  /-- The stamps of the samples that were copied in this cycle. -/
  copied : SensorTopic → Option U64
  armed : Bool
  ok : SensorTopic → Bool
  failsafe : FailsafeState

inductive HealthEvent where
  | tick (us : Nat)
  /-- The sensor task begins its loop. -/
  | sense
  /-- The sensor task publishes a sample. -/
  | publish (topic : SensorTopic)
  /-- Sysmon begins its cycle. -/
  | begin
  /-- Sysmon copies the next topic. -/
  | copy
  /-- Sysmon judges the sensors. -/
  | check (timeout : SensorTopic → SensorTimeout) (warning critical : Bool)
  /-- A channel override of the ground station, which sysmon publishes itself. -/
  | override
  /-- The vehicle is armed or disarmed. -/
  | arm (armed : Bool)

/-- The order in which sysmon copies the topics. -/
def copyOrder : List SensorTopic := [.imu, .baro, .mag, .gps, .rc]

/-- A task publishes a sample with its own reading of the clock. -/
def publishSample (s : HealthSystem) (topic : SensorTopic) (nowUs : U64) : HealthSystem :=
  match orbPublish (s.topics topic) ⟨nowUs⟩ with
  | none => s
  | some published => { s with topics := update s.topics topic published }

/-- `if (orb_copy(sub, &data) == 0) last_ts = data.timestamp_us;` -/
def copyTopic (s : HealthSystem) (topic : SensorTopic) : HealthSystem :=
  match orbCopy (s.topics topic) (s.sub topic) with
  | none => s
  | some (data, rest) =>
    { s with
      topics := update s.topics topic rest
      lastTs := update s.lastTs topic data.timestampUs
      copied := update s.copied topic (some data.timestampUs) }

def healthStep (s : HealthSystem) : HealthEvent → Option HealthSystem
  | .tick us => if s.clock + us < 2 ^ 63 then some { s with clock := s.clock + us } else none
  | .sense => some { s with sensorNowUs := BitVec.ofNat 64 s.clock }
  | .publish topic => some (publishSample s topic s.sensorNowUs)
  | .begin =>
    if s.pc = .start then
      some { s with
        pc := .copying copyOrder
        nowUs := BitVec.ofNat 64 s.clock
        copied := fun _ => none }
    else none
  | .copy =>
    match s.pc with
    | .copying (topic :: rest) => some { copyTopic s topic with pc := .copying rest }
    | _ => none
  | .check timeout warning critical =>
    if s.pc = .copying [] then
      let ok := fun topic => sensorOk s.nowUs (s.lastTs topic) (timeoutUs timeout topic)
      some { s with
        pc := .start
        ok := ok
        failsafe := newFailsafe warning critical s.armed ok }
    else none
  | .override => if s.pc = .start then some (publishSample s .rc s.nowUs) else none
  | .arm armed => some { s with armed := armed }

/-- The system when the tasks start: one subscription to each topic, and no sample yet. -/
def healthInit (clock : Nat) : HealthSystem where
  clock := clock
  topics := fun _ => ⟨true, none, [none]⟩
  sub := fun _ => 0
  sensorNowUs := 0
  pc := .start
  nowUs := 0
  lastTs := fun _ => 0
  copied := fun _ => none
  armed := false
  ok := fun _ => false
  failsafe := .none

/-! ## The stamps -/

variable {s s' : HealthSystem} {e : HealthEvent}

/-- No stamp is ahead of the clock. -/
structure StampsOk (s : HealthSystem) : Prop where
  clock : s.clock < 2 ^ 63
  sensor : s.sensorNowUs.toNat ≤ s.clock
  now : s.nowUs.toNat ≤ s.clock
  waiting : ∀ topic sample, (s.topics topic).Holds sample → sample.timestampUs.toNat ≤ s.clock
  last : ∀ topic, (s.lastTs topic).toNat ≤ s.clock
  copied : ∀ topic ts, s.copied topic = some ts → s.lastTs topic = ts

theorem toNat_reading (h : clock < 2 ^ 63) : (BitVec.ofNat 64 clock).toNat = clock :=
  Nat.mod_eq_of_lt (Nat.lt_of_lt_of_le h (by norm_num))

theorem StampsOk.publish {nowUs : U64} (h : StampsOk s) (topic : SensorTopic)
    (hnow : nowUs.toNat ≤ s.clock) : StampsOk (publishSample s topic nowUs) := by
  unfold publishSample
  cases hpublish : orbPublish (s.topics topic) ⟨nowUs⟩ with
  | none => exact h
  | some published =>
    refine ⟨h.clock, h.sensor, h.now, fun topic' sample hholds => ?_, h.last, h.copied⟩
    by_cases hsame : topic' = topic
    · subst hsame
      have hnew : published.Holds sample := by
        simpa [update_self] using hholds
      rw [hnew.of_publish hpublish]
      exact hnow
    · refine h.waiting topic' sample ?_
      simpa [update_of_ne hsame] using hholds

theorem StampsOk.copy {rest : List SensorTopic} (h : StampsOk s) (topic : SensorTopic) :
    StampsOk { copyTopic s topic with pc := .copying rest } := by
  unfold copyTopic
  cases hcopy : orbCopy (s.topics topic) (s.sub topic) with
  | none => exact ⟨h.clock, h.sensor, h.now, h.waiting, h.last, h.copied⟩
  | some copy =>
    obtain ⟨data, remaining⟩ := copy
    obtain ⟨hheld, hrest⟩ := orbCopy_eq_some hcopy
    have hdata := h.waiting topic data hheld
    refine ⟨h.clock, h.sensor, h.now, fun topic' sample hholds => ?_, fun topic' => ?_,
      fun topic' ts hts => ?_⟩
    · by_cases hsame : topic' = topic
      · subst hsame
        refine h.waiting topic' sample (hrest sample ?_)
        simpa [update_self] using hholds
      · refine h.waiting topic' sample ?_
        simpa [update_of_ne hsame] using hholds
    · by_cases hsame : topic' = topic
      · subst hsame
        simpa [update_self] using hdata
      · simpa [update_of_ne hsame] using h.last topic'
    by_cases hsame : topic' = topic
    · subst hsame
      simpa [update_self] using hts
    · simpa [update_of_ne hsame] using h.copied topic' ts (by
        simpa [update_of_ne hsame] using hts)

theorem StampsOk.step (h : StampsOk s) (hstep : healthStep s e = some s') : StampsOk s' := by
  cases e with
  | tick us =>
    obtain ⟨hlt, rfl⟩ : s.clock + us < 2 ^ 63 ∧ { s with clock := s.clock + us } = s' := by
      simpa [healthStep] using hstep
    refine ⟨hlt, ?_, ?_, fun topic sample hholds => ?_, fun topic => ?_, h.copied⟩
    · exact Nat.le_add_right_of_le h.sensor
    · exact Nat.le_add_right_of_le h.now
    · exact Nat.le_add_right_of_le (h.waiting topic sample hholds)
    · exact Nat.le_add_right_of_le (h.last topic)
  | sense =>
    cases hstep
    exact ⟨h.clock, Nat.le_of_eq (toNat_reading h.clock), h.now, h.waiting, h.last, h.copied⟩
  | publish topic =>
    cases hstep
    exact h.publish topic h.sensor
  | begin =>
    obtain ⟨-, rfl⟩ : s.pc = .start ∧ { s with
        pc := .copying copyOrder
        nowUs := BitVec.ofNat 64 s.clock
        copied := fun _ => none } = s' := by
      simpa [healthStep] using hstep
    refine ⟨h.clock, h.sensor, Nat.le_of_eq (toNat_reading h.clock), h.waiting, h.last, ?_⟩
    intro topic ts hts
    cases hts
  | copy =>
    unfold healthStep at hstep
    dsimp only at hstep
    split at hstep
    · next topic rest hpc =>
        cases hstep
        exact h.copy topic
    · cases hstep
  | check timeout warning critical =>
    unfold healthStep at hstep
    dsimp only at hstep
    split at hstep
    · cases hstep
      exact ⟨h.clock, h.sensor, h.now, h.waiting, h.last, h.copied⟩
    · cases hstep
  | override =>
    unfold healthStep at hstep
    dsimp only at hstep
    split at hstep
    · cases hstep
      exact h.publish .rc h.now
    · cases hstep
  | arm armed =>
    cases hstep
    exact ⟨h.clock, h.sensor, h.now, h.waiting, h.last, h.copied⟩

theorem healthInit_stampsOk (hclock : clock < 2 ^ 63) : StampsOk (healthInit clock) where
  clock := hclock
  sensor := Nat.zero_le _
  now := Nat.zero_le _
  waiting := by
    intro topic sample hholds
    simp [healthInit, OrbTopic.Holds] at hholds
  last := fun _ => Nat.zero_le _
  copied := fun _ _ h => by cases h

/-! ## The verdict of a cycle -/

/-- The cycle gives every sample that it copied, and that is young enough now, its due. -/
def JudgedRight (s : HealthSystem) (timeout : SensorTopic → SensorTimeout)
    (warning critical : Bool) : Prop :=
  ∀ s', healthStep s (.check timeout warning critical) = some s' →
    ∀ topic ts, s.copied topic = some ts → s.clock - ts.toNat < (timeoutUs timeout topic).toNat →
      s'.ok topic = true ∧ (topic = .imu → s'.failsafe ≠ .sensorFailure)

theorem timeoutUs_le (timeout : SensorTopic → SensorTimeout) (topic : SensorTopic) :
    (timeoutUs timeout topic).toNat ≤ 5000000 := by
  cases topic with
  | rc =>
    show rcTimeoutUs.toNat ≤ 5000000
    decide
  | imu => exact (timeout .imu).le_max
  | baro => exact (timeout .baro).le_max
  | mag => exact (timeout .mag).le_max
  | gps => exact (timeout .gps).le_max

/-- In every reachable state, a cycle judges the samples that it copied correctly exactly
when those that are young enough were stamped by the time that it read its clock. -/
theorem freshness_judged_iff (clock : Nat) (hclock : clock < 2 ^ 63) (events : List HealthEvent)
    (s : HealthSystem) (hrun : runFrom healthStep (healthInit clock) events = some s)
    (hpc : s.pc = .copying []) (timeout : SensorTopic → SensorTimeout) (warning critical : Bool) :
    JudgedRight s timeout warning critical ↔
      ∀ topic ts, s.copied topic = some ts → s.clock - ts.toNat < (timeoutUs timeout topic).toNat →
        0 < ts.toNat ∧ ts.toNat ≤ s.nowUs.toNat := by
  have hstamps : StampsOk s :=
    (throughout_of_invariant (fun _ _ _ h hstep => StampsOk.step h hstep)
      (healthInit_stampsOk hclock) events).of_runFrom hrun
  have hok : ∀ topic ts, s.copied topic = some ts →
      s.clock - ts.toNat < (timeoutUs timeout topic).toNat →
        (sensorOk s.nowUs (s.lastTs topic) (timeoutUs timeout topic) = true
          ↔ 0 < ts.toNat ∧ ts.toNat ≤ s.nowUs.toNat) := by
    intro topic ts hcopied hfresh
    have hlast := hstamps.copied topic ts hcopied
    rw [hlast]
    exact sensorOk_iff_of_fresh hstamps.now hstamps.clock (hlast ▸ hstamps.last topic)
      (timeoutUs_le timeout topic) hfresh
  constructor
  · intro hright topic ts hcopied hfresh
    exact (hok topic ts hcopied hfresh).mp (hright _ (if_pos hpc) topic ts hcopied hfresh).1
  intro hstamped s' hstep topic ts hcopied hfresh
  have htrue := (hok topic ts hcopied hfresh).mpr (hstamped topic ts hcopied hfresh)
  obtain rfl := Option.some.inj ((if_pos hpc).symm.trans hstep)
  refine ⟨htrue, ?_⟩
  rintro rfl hfailsafe
  rw [newFailsafe_of_imu] at hfailsafe
  rw [htrue] at hfailsafe
  cases hfailsafe

/-- The default of `PARAM_SENSOR_TIMEOUT_MS`. -/
def defaultTimeout : SensorTimeout := ⟨500000, by decide, by decide⟩

/-- A cycle that the sensor task does not interrupt. -/
def quietCycle : List HealthEvent :=
  [.tick 1000, .sense, .publish .imu, .begin, .copy, .copy, .copy, .copy, .copy]

/-- The sensor task publishes a sample between the reading of the clock and the copy. -/
def interruptedCycle : List HealthEvent :=
  [.tick 1000, .begin, .tick 500, .sense, .publish .imu, .copy, .copy, .copy, .copy, .copy]

/-- What a cycle has seen, of the topics in the order of the copies. -/
structure HealthView where
  pc : SysmonPc
  clock : Nat
  nowUs : U64
  copied : List (Option U64)
  last : List U64
  deriving DecidableEq

def HealthSystem.view (s : HealthSystem) : HealthView :=
  ⟨s.pc, s.clock, s.nowUs, copyOrder.map s.copied, copyOrder.map s.lastTs⟩

theorem HealthSystem.of_view {now ts : U64}
    (hview : s.view = ⟨.copying [], clock, now, [some ts, none, none, none, none], [ts, 0, 0, 0, 0]⟩) :
    s.pc = .copying [] ∧ s.clock = clock ∧ s.nowUs = now ∧ s.copied .imu = some ts
      ∧ s.lastTs .imu = ts ∧ ∀ topic, topic ≠ .imu → s.copied topic = none := by
  have hcopied := congrArg HealthView.copied hview
  have hlast := congrArg HealthView.last hview
  simp only [HealthSystem.view, copyOrder, List.map_cons, List.map_nil, List.cons.injEq]
    at hcopied hlast
  refine ⟨congrArg HealthView.pc hview, congrArg HealthView.clock hview,
    congrArg HealthView.nowUs hview, hcopied.1, hlast.1, fun topic htopic => ?_⟩
  cases topic with
  | imu => exact absurd rfl htopic
  | baro => exact hcopied.2.1
  | mag => exact hcopied.2.2.1
  | gps => exact hcopied.2.2.2.1
  | rc => exact hcopied.2.2.2.2.1

/-- The sample of a cycle that is not interrupted is judged correctly. -/
theorem quiet_cycle_judged_right :
    ∃ s, runFrom healthStep (healthInit 0) quietCycle = some s
      ∧ s.copied .imu = some 1000 ∧ JudgedRight s (fun _ => defaultTimeout) false false := by
  have hend : (runFrom healthStep (healthInit 0) quietCycle).map HealthSystem.view
      = some ⟨.copying [], 1000, 1000, [some 1000, none, none, none, none], [1000, 0, 0, 0, 0]⟩ := by
    decide +kernel
  obtain ⟨s, hrun, hview⟩ := Option.map_eq_some_iff.mp hend
  obtain ⟨hpc, -, hnow, himu, -, hothers⟩ := HealthSystem.of_view hview
  refine ⟨s, hrun, himu, (freshness_judged_iff 0 (by decide) _ s hrun hpc _ _ _).mpr ?_⟩
  intro topic ts hcopied _
  by_cases htopic : topic = .imu
  · subst htopic
    obtain rfl := Option.some.inj (himu.symm.trans hcopied)
    rw [hnow]
    decide
  · rw [hothers topic htopic] at hcopied
    cases hcopied

/-- A sample that is made after the cycle has read its clock counts as lost. -/
theorem late_sample_fails_imu :
    ¬ ∀ (clock : Nat), clock < 2 ^ 63 → ∀ (events : List HealthEvent) (s : HealthSystem),
      runFrom healthStep (healthInit clock) events = some s → s.pc = .copying [] →
        ∀ timeout warning critical, JudgedRight s timeout warning critical := by
  intro h
  have hend : (runFrom healthStep (healthInit 0) interruptedCycle).map HealthSystem.view
      = some ⟨.copying [], 1500, 1000, [some 1500, none, none, none, none], [1500, 0, 0, 0, 0]⟩ := by
    decide +kernel
  obtain ⟨s, hrun, hview⟩ := Option.map_eq_some_iff.mp hend
  obtain ⟨hpc, hclock, hnow, himu, hlast, -⟩ := HealthSystem.of_view hview
  have hright := h 0 (by decide) _ s hrun hpc (fun _ => defaultTimeout) false false _ (if_pos hpc)
    .imu 1500 himu (by rw [hclock]; decide)
  have hok : sensorOk s.nowUs (s.lastTs .imu) (timeoutUs (fun _ => defaultTimeout) .imu) = true :=
    hright.1
  rw [hnow, hlast] at hok
  exact absurd hok (by decide)

end MmIotEsp32.HeliFc
