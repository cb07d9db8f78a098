/-
  MmIotEsp32.Driver.Health.DriverHealth

  The periodic health check of the driver: the task of `driver_health.c`, the
  calls that ask for a check or hold it off, and the waits between two checks.
-/
import MmIotEsp32.Common.Mmosal
import MmIotEsp32.Lib.Transition

namespace MmIotEsp32.Driver.Health

open Lib

/-! ## The driver's record and the calls on it -/

/-- `driver_data.health_check`.  The semaphore is `none` while the pointer is `NULL`, and
otherwise says whether it is up. -/
structure HealthCheck where
  pendingSemb : Option Bool
  lastChecked : U32
  intervalMs : U32
  taskEnabled : Bool
  taskRunning : Bool
  periodicCheckVetoes : U32
  checkDemanded : Bool
deriving DecidableEq, Repr

/-- The part of `driver_data` that the health check reads. -/
structure DriverData where
  started : Bool
  health : HealthCheck
deriving DecidableEq, Repr

/-- `driver_health_init` on the cleared `driver_data`. -/
def driverHealthInit : DriverData where
  started := false
  health :=
    { pendingSemb := some false
      lastChecked := 0
      intervalMs := 0
      taskEnabled := true
      taskRunning := true
      periodicCheckVetoes := 0
      checkDemanded := false }

def driverHealthRequestCheck (d : DriverData) : DriverData :=
  if !d.started then d
  else
    match d.health.pendingSemb with
    | none => d
    | some _ => { d with health := { d.health with lastChecked := 0, pendingSemb := some true } }

def driverHealthDemandCheck (d : DriverData) : DriverData :=
  driverHealthRequestCheck { d with health := { d.health with checkDemanded := true } }

/-- `MMWLAN_DEFAULT_MIN_HEALTH_CHECK_INTERVAL_MS`. -/
def defaultMinHealthCheckIntervalMs : U32 := 60000

/-- `MMWLAN_DEFAULT_MAX_HEALTH_CHECK_INTERVAL_MS`. -/
def defaultMaxHealthCheckIntervalMs : U32 := 120000

/-- `MMDRV_PERIODIC_HEALTH_THRESHOLD_MS`. -/
def periodicHealthThresholdMs : U32 :=
  defaultMinHealthCheckIntervalMs
    + (defaultMaxHealthCheckIntervalMs - defaultMinHealthCheckIntervalMs) / 2

def calcHealthCheckInterval (minIntervalMs maxIntervalMs : U32) : U32 :=
  if periodicHealthThresholdMs < minIntervalMs then minIntervalMs
  else if periodicHealthThresholdMs < maxIntervalMs then periodicHealthThresholdMs
  else maxIntervalMs

/-- The results of `mmdrv_set_health_check_interval`. -/
inductive IntervalResult
  | ok
  | einval
  | enodev
deriving DecidableEq, Repr

def mmdrvSetHealthCheckInterval (d : DriverData) (minIntervalMs maxIntervalMs : U32) :
    DriverData × IntervalResult :=
  if maxIntervalMs < minIntervalMs then (d, .einval)
  else if !d.started then (d, .enodev)
  else
    let interval := calcHealthCheckInterval minIntervalMs maxIntervalMs
    (driverHealthRequestCheck { d with health := { d.health with intervalMs := interval } }, .ok)

/-- `1ul << veto_id`. -/
def vetoBit (vetoId : Nat) : U32 := 1 <<< vetoId

/-- `mmdrv_set_health_check_veto`; the assertion wants `veto_id < 32`. -/
def mmdrvSetHealthCheckVeto (d : DriverData) (vetoId : Nat) : Option DriverData :=
  if vetoId < 32 then
    some (driverHealthRequestCheck
      { d with health :=
          { d.health with
            periodicCheckVetoes := d.health.periodicCheckVetoes ||| vetoBit vetoId } })
  else none

def mmdrvUnsetHealthCheckVeto (d : DriverData) (vetoId : Nat) : Option DriverData :=
  if vetoId < 32 then
    some (driverHealthRequestCheck
      { d with health :=
          { d.health with
            periodicCheckVetoes := d.health.periodicCheckVetoes &&& ~~~(vetoBit vetoId) } })
  else none

/-! ## The task -/

/-- `should_skip`, with the clock reading `now`. -/
def shouldSkip (sembTaken : Bool) (h : HealthCheck) (now : U32) : Bool :=
  if h.checkDemanded then false
  else if h.periodicCheckVetoes ≠ 0 then true
  else if !sembTaken && !mmosalTimeHasPassed (h.lastChecked + h.intervalMs) now then true
  else false

/-- `UINT32_MAX`, for which `mmosal_semb_wait` waits for ever. -/
def waitForever : U32 := 0xffffffff

/-- The wait that an iteration of `driver_health_task_main` computes. -/
def nextIntervalMs (h : HealthCheck) (now : U32) : U32 :=
  if h.intervalMs = 0 then waitForever
  else if h.periodicCheckVetoes ≠ 0 then waitForever
  else if h.lastChecked = 0 then h.intervalMs
  else h.intervalMs - now + h.lastChecked

/-- `MORSE_HEALTH_CHECK_RETRIES`. -/
def healthCheckRetries : Nat := 1

/-- What `morse_cmd_health_check` returns, as far as the task looks at it. -/
inductive CheckReturn
  | passed
  | estale
  | failed
deriving DecidableEq, Repr

/-- Where the task stands: before the condition of the loop, in `mmosal_semb_wait`, in the
attempt after so many retries, or returned. -/
inductive TaskPoint
  | loopTop
  | waiting (timeoutMs : U32)
  | checking (retries : Nat)
  | returned
deriving DecidableEq, Repr

/-- The driver, its task, the clock in milliseconds since the start of the device (of which
`mmosal_get_time_ms` shows the low word) and the number of restarts asked of the host.
`lastCheckAt` only records: when the last check was, unless one has been asked for since. -/
structure HealthSystem where
  clock : Nat
  driver : DriverData
  task : TaskPoint
  hwRestarts : Nat
  lastCheckAt : Option Nat
deriving DecidableEq, Repr

/-- What may happen: time passes, another task makes a call, the driver is started or shut
down, a frame has been received, or the health task comes to its next point. -/
inductive Event
  | tick (ms : Nat)
  | requestCheck
  | demandCheck
  | setInterval (minIntervalMs maxIntervalMs : U32)
  | setVeto (vetoId : Nat)
  | unsetVeto (vetoId : Nat)
  | start
  | deinitBegin
  | deinitEnd
  | rxFrame
  | iterate
  | sembTaken
  | sembTimeout
  | checkReturns (ret : CheckReturn)
deriving DecidableEq, Repr

namespace HealthSystem

/-- `mmosal_get_time_ms`. -/
def now (s : HealthSystem) : U32 := BitVec.ofNat 32 s.clock

/-- Whether a request would be heard. -/
def hears (s : HealthSystem) : Bool := s.driver.started && s.driver.health.pendingSemb.isSome

/-- The system after a call that ends in `driver_health_request_check`. -/
def called (s : HealthSystem) (d : DriverData) : HealthSystem :=
  { s with driver := d, lastCheckAt := if s.hears then none else s.lastCheckAt }

/-- `last_checked = mmosal_get_time_ms()`. -/
def stamp (s : HealthSystem) : HealthSystem :=
  { s with
    driver := { s.driver with health := { s.driver.health with lastChecked := s.now } }
    lastCheckAt := some s.clock }

/-- The task after the loop. -/
def leave (s : HealthSystem) : HealthSystem :=
  { s with
    driver := { s.driver with health := { s.driver.health with taskRunning := false } }
    task := .returned }

/-- The task from the return of `mmosal_semb_wait` to the next point. -/
def woken (s : HealthSystem) (sembTaken : Bool) : HealthSystem :=
  if !s.driver.health.taskEnabled then s.leave
  else if shouldSkip sembTaken s.driver.health s.now then { s with task := .loopTop }
  else
    { s with
      driver := { s.driver with health := { s.driver.health with checkDemanded := false } }
      task := .checking 0 }

/-- The semaphore taken by the task. -/
def takeSemb (s : HealthSystem) : HealthSystem :=
  { s with driver :=
      { s.driver with health := { s.driver.health with pendingSemb := some false } } }

/-- The task after an attempt of the check has returned. -/
def attempted (s : HealthSystem) (retries : Nat) (ret : CheckReturn) : HealthSystem :=
  if ret ≠ .passed ∧ retries < healthCheckRetries then { s with task := .checking (retries + 1) }
  else
    { s.stamp with
      task := .loopTop
      hwRestarts := if ret = .failed then s.hwRestarts + 1 else s.hwRestarts }

/-- The device when the health task has been created, at any reading of the clock. -/
def init (boot : Nat) : HealthSystem where
  clock := boot
  driver := driverHealthInit
  task := .loopTop
  hwRestarts := 0
  lastCheckAt := none

end HealthSystem

/-- One step; an event of the task at another point than its own changes nothing. -/
def step (s : HealthSystem) : Event → Option HealthSystem
  | .tick ms => some { s with clock := s.clock + ms }
  | .requestCheck => some (s.called (driverHealthRequestCheck s.driver))
  | .demandCheck => some (s.called (driverHealthDemandCheck s.driver))
  | .setInterval lo hi =>
    match mmdrvSetHealthCheckInterval s.driver lo hi with
    | (d, .ok) => some (s.called d)
    | (_, _) => some s
  | .setVeto vetoId => (mmdrvSetHealthCheckVeto s.driver vetoId).map s.called
  | .unsetVeto vetoId => (mmdrvUnsetHealthCheckVeto s.driver vetoId).map s.called
  | .start => some { s with driver := { s.driver with started := true } }
  | .deinitBegin =>
    some { s with driver :=
      { started := false
        health := { s.driver.health with
          taskEnabled := false
          pendingSemb := s.driver.health.pendingSemb.map fun _ => true } } }
  | .deinitEnd =>
    -- `driver_health_deinit` polls `task_running` before it deletes the semaphore
    if s.driver.health.taskRunning then some s
    else some { s with driver :=
      { s.driver with health := { s.driver.health with pendingSemb := none } } }
  | .rxFrame => some s.stamp
  | .iterate =>
    match s.task with
    | .loopTop =>
      if s.driver.health.taskEnabled then
        some { s with task := .waiting (nextIntervalMs s.driver.health s.now) }
      else some s.leave
    | _ => some s
  | .sembTaken =>
    match s.task, s.driver.health.pendingSemb with
    | .waiting _, some true => some (s.takeSemb.woken true)
    | _, _ => some s
  | .sembTimeout =>
    match s.task, s.driver.health.pendingSemb with
    | .waiting timeoutMs, some false =>
      if timeoutMs = waitForever then some s else some (s.woken false)
    | _, _ => some s
  | .checkReturns ret =>
    match s.task with
    | .checking retries => some (s.attempted retries ret)
    | _ => some s

/-! ## What `last_checked` says -/

/-- `last_checked` is the clock reading of the last check, and `0` when a check has been
asked for since. -/
def Recorded (s : HealthSystem) : Prop :=
  match s.lastCheckAt with
  | none => s.driver.health.lastChecked = 0
  | some t => t ≤ s.clock ∧ s.driver.health.lastChecked = BitVec.ofNat 32 t

variable {s : HealthSystem}

theorem Recorded.of_none (h : Recorded s) (hat : s.lastCheckAt = none) :
    s.driver.health.lastChecked = 0 := by
  unfold Recorded at h
  rwa [hat] at h

theorem Recorded.of_some {t : Nat} (h : Recorded s) (hat : s.lastCheckAt = some t) :
    t ≤ s.clock ∧ s.driver.health.lastChecked = BitVec.ofNat 32 t := by
  unfold Recorded at h
  rwa [hat] at h

theorem init_recorded (boot : Nat) : Recorded (HealthSystem.init boot) := rfl

theorem Recorded.frame {s s' : HealthSystem} (h : Recorded s)
    (hlast : s'.driver.health.lastChecked = s.driver.health.lastChecked)
    (hat : s'.lastCheckAt = s.lastCheckAt) (hclock : s.clock ≤ s'.clock) : Recorded s' := by
  unfold Recorded at h ⊢
  rw [hat, hlast]
  cases hs : s.lastCheckAt with
  | none =>
    rw [hs] at h
    exact h
  | some t =>
    rw [hs] at h
    exact ⟨Nat.le_trans h.1 hclock, h.2⟩

theorem stamp_recorded (s : HealthSystem) : Recorded s.stamp := ⟨Nat.le_refl _, rfl⟩

theorem driverHealthRequestCheck_lastChecked (d : DriverData) :
    (driverHealthRequestCheck d).health.lastChecked
      = if d.started && d.health.pendingSemb.isSome then 0 else d.health.lastChecked := by
  unfold driverHealthRequestCheck
  cases d.started with
  | false => rfl
  | true =>
    cases hsemb : d.health.pendingSemb with
    | none | some up => simp

theorem Recorded.called (h : Recorded s) {d : DriverData} (hstarted : d.started = s.driver.started)
    (hsemb : d.health.pendingSemb = s.driver.health.pendingSemb)
    (hlast : d.health.lastChecked = s.driver.health.lastChecked) :
    Recorded (s.called (driverHealthRequestCheck d)) := by
  have hreq := driverHealthRequestCheck_lastChecked d
  rw [hstarted, hsemb, hlast] at hreq
  cases hhears : s.hears with
  | true =>
    have hat : (s.called (driverHealthRequestCheck d)).lastCheckAt = none := by
      simp [HealthSystem.called, hhears]
    unfold Recorded
    rw [hat]
    show (driverHealthRequestCheck d).health.lastChecked = 0
    rw [hreq]
    exact if_pos hhears
  | false =>
    apply h.frame
    · show (driverHealthRequestCheck d).health.lastChecked = _
      rw [hreq]
      exact if_neg (by rw [← HealthSystem.hears, hhears]; decide)
    · simp [HealthSystem.called, hhears]
    · exact Nat.le_refl _

theorem woken_recorded (h : Recorded s) (sembTaken : Bool) : Recorded (s.woken sembTaken) := by
  unfold HealthSystem.woken
  split_ifs <;> exact h.frame rfl rfl (Nat.le_refl _)

theorem attempted_recorded (h : Recorded s) (retries : Nat) (ret : CheckReturn) :
    Recorded (s.attempted retries ret) := by
  unfold HealthSystem.attempted
  split_ifs
  · exact h.frame rfl rfl (Nat.le_refl _)
  · exact (stamp_recorded s).frame rfl rfl (Nat.le_refl _)
  · exact (stamp_recorded s).frame rfl rfl (Nat.le_refl _)

theorem step_recorded (s : HealthSystem) (e : Event) (s' : HealthSystem) (h : Recorded s)
    (hs' : step s e = some s') : Recorded s' := by
  cases e with
  | tick ms =>
    cases hs'
    exact h.frame rfl rfl (Nat.le_add_right _ _)
  | requestCheck | demandCheck =>
    cases hs'
    exact h.called rfl rfl rfl
  | setInterval lo hi =>
    simp only [step, mmdrvSetHealthCheckInterval] at hs'
    split_ifs at hs'
    · cases hs'
      exact h
    · cases hs'
      exact h
    · cases hs'
      exact h.called rfl rfl rfl
  | setVeto vetoId =>
    simp only [step, mmdrvSetHealthCheckVeto] at hs'
    split_ifs at hs'
    · cases hs'
      exact h.called rfl rfl rfl
    · cases hs'
  | unsetVeto vetoId =>
    simp only [step, mmdrvUnsetHealthCheckVeto] at hs'
    split_ifs at hs'
    · cases hs'
      exact h.called rfl rfl rfl
    · cases hs'
  | start | deinitBegin =>
    cases hs'
    exact h.frame rfl rfl (Nat.le_refl _)
  | deinitEnd =>
    simp only [step] at hs'
    split_ifs at hs'
    · cases hs'
      exact h
    · cases hs'
      exact h.frame rfl rfl (Nat.le_refl _)
  | rxFrame =>
    cases hs'
    exact stamp_recorded s
  | iterate =>
    simp only [step] at hs'
    split at hs'
    · split_ifs at hs'
      · cases hs'
        exact h.frame rfl rfl (Nat.le_refl _)
      · cases hs'
        exact h.frame rfl rfl (Nat.le_refl _)
    · cases hs'
      exact h
  | sembTaken =>
    simp only [step] at hs'
    split at hs'
    · cases hs'
      have htaken : Recorded s.takeSemb := h.frame rfl rfl (Nat.le_refl _)
      exact woken_recorded htaken true
    · cases hs'
      exact h
  | sembTimeout =>
    simp only [step] at hs'
    split at hs'
    · split_ifs at hs'
      · cases hs'
        exact h
      · cases hs'
        exact woken_recorded h false
    · cases hs'
      exact h
  | checkReturns ret =>
    simp only [step] at hs'
    split at hs'
    · cases hs'
      exact attempted_recorded h _ ret
    · cases hs'
      exact h

/-! ## The waits of a run -/

/-- The event starts an iteration of the loop that has an interval to keep. -/
def StartsPeriod (s : HealthSystem) (e : Event) : Prop :=
  e = .iterate ∧ s.task = .loopTop ∧ s.driver.health.taskEnabled = true
    ∧ s.driver.health.intervalMs ≠ 0 ∧ s.driver.health.periodicCheckVetoes = 0

/-- The wait is at most the interval, and `0` when the interval has already passed since the
last check. -/
def WaitBounded (s : HealthSystem) (e : Event) : Prop :=
  StartsPeriod s e →
    nextIntervalMs s.driver.health s.now ≤ s.driver.health.intervalMs
      ∧ ∀ t, s.lastCheckAt = some t → s.driver.health.intervalMs.toNat ≤ s.clock - t →
          nextIntervalMs s.driver.health s.now = 0

/-- The iteration starts before the next check is due; or its clock shows the very millisecond
at which it is, the last check not having been made at a reading of `0`. -/
def StartsInTime (s : HealthSystem) (e : Event) : Prop :=
  StartsPeriod s e → ∀ t, s.lastCheckAt = some t →
    s.clock - t < s.driver.health.intervalMs.toNat
      ∨ (t % 2 ^ 32 ≠ 0 ∧ (s.clock - t) % 2 ^ 32 = s.driver.health.intervalMs.toNat)

instance (s : HealthSystem) (e : Event) : Decidable (StartsPeriod s e) :=
  inferInstanceAs (Decidable (_ ∧ _))

theorem toNat_wait (interval : U32) {t clock : Nat} (ht : t ≤ clock) :
    (interval - BitVec.ofNat 32 clock + BitVec.ofNat 32 t).toNat
      = (interval.toNat + (2 ^ 32 - (clock - t) % 2 ^ 32)) % 2 ^ 32 := by
  rw [BitVec.toNat_add, BitVec.toNat_sub, BitVec.toNat_ofNat, BitVec.toNat_ofNat]
  omega

theorem nextIntervalMs_of_unread {h : HealthCheck} {now : U32} (hinterval : h.intervalMs ≠ 0)
    (hveto : h.periodicCheckVetoes = 0) (hlast : h.lastChecked = 0) :
    nextIntervalMs h now = h.intervalMs := by
  unfold nextIntervalMs
  rw [if_neg hinterval, if_neg (not_not.mpr hveto), if_pos hlast]

theorem nextIntervalMs_of_read {h : HealthCheck} {now : U32} (hinterval : h.intervalMs ≠ 0)
    (hveto : h.periodicCheckVetoes = 0) (hlast : h.lastChecked ≠ 0) :
    nextIntervalMs h now = h.intervalMs - now + h.lastChecked := by
  unfold nextIntervalMs
  rw [if_neg hinterval, if_neg (not_not.mpr hveto), if_neg hlast]

theorem waitBounded_iff (h : Recorded s) (e : Event) : WaitBounded s e ↔ StartsInTime s e := by
  unfold WaitBounded StartsInTime
  apply imp_congr_right
  intro ⟨_, _, _, hinterval, hveto⟩
  have hpos : 0 < s.driver.health.intervalMs.toNat := by
    apply Nat.pos_of_ne_zero
    intro hzero
    exact hinterval (BitVec.eq_of_toNat_eq hzero)
  have hlt := s.driver.health.intervalMs.isLt
  cases hat : s.lastCheckAt with
  | none =>
    -- a check was asked for: the wait is the interval, and the semaphore is what ends it
    rw [nextIntervalMs_of_unread hinterval hveto (h.of_none hat)]
    exact iff_of_true ⟨BitVec.le_refl _, by simp⟩ (by simp)
  | some t =>
    obtain ⟨ht, hlast⟩ := h.of_some hat
    simp only [Option.some.injEq, forall_eq']
    by_cases hzero : t % 2 ^ 32 = 0
    · have hlast0 : s.driver.health.lastChecked = 0 := by
        rw [hlast]
        apply BitVec.eq_of_toNat_eq
        rw [BitVec.toNat_ofNat, hzero]
        rfl
      rw [nextIntervalMs_of_unread hinterval hveto hlast0]
      constructor
      · intro hbounded
        left
        by_contra hpassed
        exact hinterval (hbounded.2 (Nat.le_of_not_lt hpassed))
      · intro hintime
        refine ⟨BitVec.le_refl _, fun hpassed => ?_⟩
        omega
    have hlast0 : s.driver.health.lastChecked ≠ 0 := by
      rw [hlast]
      intro heq
      apply hzero
      have := congrArg BitVec.toNat heq
      rwa [BitVec.toNat_ofNat] at this
    have hwait : nextIntervalMs s.driver.health s.now
        = s.driver.health.intervalMs - BitVec.ofNat 32 s.clock + BitVec.ofNat 32 t := by
      rw [nextIntervalMs_of_read hinterval hveto hlast0, hlast]
      rfl
    have hnat := toNat_wait s.driver.health.intervalMs ht
    rw [hwait, BitVec.le_def, ← BitVec.toNat_inj, hnat]
    show _ ∧ (_ → _ = 0) ↔ _
    omega

/-- **Every wait of a run is within the interval, and zero once the interval has passed, if and
only if every iteration of the run starts in time.** -/
theorem waits_bounded_iff (boot : Nat) (es : List Event) :
    Along step WaitBounded (HealthSystem.init boot) es
      ↔ Along step StartsInTime (HealthSystem.init boot) es := by
  have hrecorded : Throughout step Recorded (HealthSystem.init boot) es :=
    throughout_of_invariant step_recorded (init_recorded boot) es
  exact Along.congr (hrecorded.along_of fun s e h => waitBounded_iff h e)

/-- A check every 5 ms; after one, the task is held up until the next one is a millisecond
overdue, and then waits for ever. -/
def lateRun : List Event :=
  [.start, .setInterval 5 5, .iterate, .sembTaken, .checkReturns .passed, .tick 6, .iterate]

theorem late_iteration_waits_forever :
    ¬ Along step WaitBounded (HealthSystem.init 1000) lateRun
      ∧ (runFrom step (HealthSystem.init 1000) lateRun).map (·.task)
          = some (.waiting waitForever) := by
  constructor
  · intro h
    have hruns : Along step WaitBounded (HealthSystem.init 1000) (lateRun.dropLast ++ [.iterate]) :=
      h
    have hbound := (hruns.last rfl ⟨rfl, rfl, rfl, by decide, rfl⟩).1
    revert hbound
    decide
  · decide

end MmIotEsp32.Driver.Health
