/-
  MmIotEsp32.Driver.MorseDriver.ChipIfWork

  A pass of the driver task over the chip interface (`mm6108/pageset.c`, `mm8108/yaps.c`), with
  power save (`ps.c`) and the traffic control events of the chip (`event.c`).
-/
import MmIotEsp32.Driver.DriverTask

namespace MmIotEsp32.Driver

open Lib

/-! ## Data model -/

/-- `struct morse_ps`; `wakers` has a bit for each `enum ps_waker_id`. -/
structure MorsePs where
  initialized : Bool
  wakers : U32
  suspended : Bool
  busPsTimeout : U32
  dynamicPsTimeoutMs : U32

/-- `struct driver_data`, as far as the pass uses it.  `lastTrafficEvt` only records the last
traffic control event: whether it was a pause. -/
structure DriverData where
  task : DriverTask
  dataTxStopped : Bool
  ps : MorsePs
  lastTrafficEvt : Option Bool

/-- A driver before its first pass. -/
def driverDataInit (ps : MorsePs) : DriverData := ⟨driverTaskInit, false, ps, none⟩

/-- What an evaluation of power save sees: the clock, and the clock when it sets a timeout. -/
structure PsEnv where
  timeMs : U32
  laterMs : U32
  /-- `skbq_get_tx_buffered_count` is not 0 -/
  skbsPending : Bool
  /-- `mmhal_wlan_busy_is_asserted` -/
  busyIsAsserted : Bool

/-- What a pass sees. -/
structure WorkEnv where
  psDisable : PsEnv
  psEnable : PsEnv
  activityTimeMs : U32
  /-- the traffic control events among the received packets, as `pause_data_traffic` -/
  rxEvts : List Bool
  /-- there is more to receive -/
  rxMore : Bool
  /-- data was received -/
  rxBuffered : Bool
  /-- the queue of the event is not empty yet -/
  txMore : DrvEvt → Bool
  /-- the clock when the event is scheduled again -/
  txTimeMs : DrvEvt → U32
  /-- `chip_queue_full.is_full`, when there is no freed packet -/
  queueIsFull : Bool

def notify (d : DriverData) (evt : DrvEvt) : DriverData :=
  { d with task := driverTaskNotifyEvent d.task evt }

/-- `driver_task_schedule_notification_at`. -/
def scheduleAt (d : DriverData) (evt : DrvEvt) (timeoutAtMs : U32) : Option DriverData :=
  (driverTaskScheduleNotificationAt d.task evt timeoutAtMs).map fun task => { d with task := task }

/-- `driver_task_notification_is_pending`, for `DRV_EVT_MASK_PAGESET`. -/
def pagesetIsPending (d : DriverData) : Bool :=
  [DrvEvt.rxPend, .pageReturnPend, .txCommandPend, .txBeaconPend, .txMgmtPend, .txDataPend,
    .trafficPausePend, .trafficResumePend, .txPacketFreedUpPend].any d.task.pendingEvts

/-! ## Power save -/

def defaultBusTimeoutMs : U32 := 5

/-- The bit of `PS_WAKER_PAGESET`. -/
def psWakerPageset : U32 := 1#32 <<< 1

def driverIsDataTxAllowed (d : DriverData) : Bool :=
  !d.dataTxStopped && !driverTaskNotificationCheck d.task .trafficPausePend

def morsePsUpdateTimeout (d : DriverData) (timeMs timeoutMs : U32) : Option DriverData :=
  let newTimeout := timeMs + timeoutMs
  if mmosalTimeLt d.ps.busPsTimeout newTimeout then
    scheduleAt { d with ps := { d.ps with busPsTimeout := newTimeout } } .psBusActivityPend newTimeout
  else some d

def morsePsWakeup (d : DriverData) (timeMs : U32) : Option DriverData :=
  if !d.ps.suspended then some d
  else morsePsUpdateTimeout { d with ps := { d.ps with suspended := false } } timeMs defaultBusTimeoutMs

def morsePsSleep (d : DriverData) : DriverData := { d with ps := { d.ps with suspended := true } }

def morsePsEvaluate (env : PsEnv) (d : DriverData) : Option DriverData :=
  if !d.ps.initialized then some d
  else
    let needsWake := d.ps.wakers != 0 || pagesetIsPending d || env.skbsPending
    let bus := driverIsDataTxAllowed d && !mmosalTimeHasPassed d.ps.busPsTimeout env.timeMs
    (if bus then scheduleAt d .psBusActivityPend d.ps.busPsTimeout else some d).bind fun d =>
      if needsWake || bus then morsePsWakeup d env.laterMs
      else if env.busyIsAsserted then morsePsUpdateTimeout d env.laterMs defaultBusTimeoutMs
      else some (morsePsSleep d)

def morsePsNetworkActivity (d : DriverData) (timeMs : U32) : Option DriverData :=
  morsePsUpdateTimeout d timeMs d.ps.dynamicPsTimeoutMs

/-- `morse_ps_enable`, with the bit of the waker. -/
def morsePsEnable (env : PsEnv) (d : DriverData) (waker : U32) : Option DriverData :=
  if !d.ps.initialized then some d
  else morsePsEvaluate env { d with ps := { d.ps with wakers := d.ps.wakers &&& ~~~waker } }

/-- `morse_ps_disable`, with the bit of the waker. -/
def morsePsDisable (env : PsEnv) (d : DriverData) (waker : U32) : Option DriverData :=
  if !d.ps.initialized then some d
  else morsePsEvaluate env { d with ps := { d.ps with wakers := d.ps.wakers ||| waker } }

/-! ## Traffic control -/

def handleUmacTrafficControl (d : DriverData) (pauseDataTraffic : Bool) : DriverData :=
  let d := { d with lastTrafficEvt := some pauseDataTraffic }
  if pauseDataTraffic then notify d .trafficPausePend else notify d .trafficResumePend

def morseSkbqDataTrafficPause (d : DriverData) : DriverData := { d with dataTxStopped := true }

def morseSkbqDataTrafficResume (d : DriverData) : DriverData :=
  notify { d with dataTxStopped := false } .txDataPend

/-- `driver_task_notification_check_and_clear`. -/
def checkAndClear (d : DriverData) (evt : DrvEvt) : DriverData × Bool :=
  let (task, pending) := driverTaskNotificationCheckAndClear d.task evt
  ({ d with task := task }, pending)

/-- The traffic control part of a pass. -/
def trafficWork (d : DriverData) : DriverData :=
  let (d, pause) := checkAndClear d .trafficPausePend
  let d := if pause then morseSkbqDataTrafficPause d else d
  let (d, resume) := checkAndClear d .trafficResumePend
  if resume then morseSkbqDataTrafficResume d else d

/-! ## A pass -/

/-- The packets that are received at the start of a pass, and whether data was among them. -/
def rxWork (env : WorkEnv) (d : DriverData) : DriverData × Bool :=
  let (d, rx) := checkAndClear d .rxPend
  if rx then
    let d := env.rxEvts.foldl handleUmacTrafficControl d
    (if env.rxMore then notify d .rxPend else d, env.rxBuffered)
  else (d, false)

/-- A transmit queue: its bit, when it is scheduled again, and whether it counts as activity on
the network. -/
def txWork (env : WorkEnv) (evt : DrvEvt) (againMs : U32) (counts : Bool)
    (w : DriverData × Bool) : Option (DriverData × Bool) :=
  let (d, activity) := w
  let (d, pending) := checkAndClear d evt
  if pending then
    let activity := activity || counts
    if env.txMore evt then (scheduleAt d evt (env.txTimeMs evt + againMs)).map fun d => (d, activity)
    else some (d, activity)
  else some (d, activity)

/-- The end of a pass. -/
def endWork (env : WorkEnv) (w : DriverData × Bool) : Option DriverData :=
  let (d, activity) := w
  (if activity then morsePsNetworkActivity d env.activityTimeMs else some d).bind fun d =>
    morsePsEnable env.psEnable d psWakerPageset

/-- The command, beacon and management queues. -/
def earlyTxWork (env : WorkEnv) (w : DriverData × Bool) : Option (DriverData × Bool) :=
  (txWork env .txCommandPend 10 false w).bind fun w =>
    (txWork env .txBeaconPend 1 false w).bind fun w => txWork env .txMgmtPend 2 true w

def morsePagesetsWork (env : WorkEnv) (d : DriverData) : Option DriverData :=
  if !pagesetIsPending d then some d
  else
    (morsePsDisable env.psDisable d psWakerPageset).bind fun d =>
      let (d, activity) := rxWork env d
      let d := (checkAndClear d .pageReturnPend).1
      (earlyTxWork env (d, activity)).bind fun w =>
        (txWork env .txDataPend 2 true (trafficWork w.1, w.2)).bind fun w => endWork env w

/-- `morse_yaps_work`, with its chip interface. -/
def morseYapsWork (env : WorkEnv) (d : DriverData) : Option DriverData :=
  if !pagesetIsPending d then some d
  else
    (morsePsDisable env.psDisable d psWakerPageset).bind fun d =>
      let (d, activity) := rxWork env d
      (earlyTxWork env (d, activity)).bind fun w =>
        let (d, freedUp) := checkAndClear (trafficWork w.1) .txPacketFreedUpPend
        if !freedUp && env.queueIsFull then endWork env (d, w.2)
        else (txWork env .txDataPend 2 true (d, w.2)).bind fun w => endWork env w

/-! ## A pass that does not come back -/

/-- A suspended driver with something to send in all four transmit queues. -/
def fullQueues : DriverData :=
  [DrvEvt.txCommandPend, .txBeaconPend, .txMgmtPend, .txDataPend].foldl notify
    (driverDataInit ⟨true, 0, true, 0, 100⟩)

/-- None of the queues gets empty. -/
def fullQueuesEnv : WorkEnv :=
  ⟨⟨10, 10, true, false⟩, ⟨10, 10, true, false⟩, 10, [], false, false, fun _ => true,
    fun _ => 10, false⟩

/-- The four queues and the bus timeout are five events for four slots: both a run of the calls
and a pass of the driver reach the assertion. -/
theorem scheduled_out_of_slots :
    ¬ (Throughout taskStep (fun s => OneSlotPerEvent s.task) watchedTaskInit
          [.schedule .psBusActivityPend (by decide) 15, .schedule .txCommandPend (by decide) 20,
            .schedule .txBeaconPend (by decide) 11, .schedule .txMgmtPend (by decide) 12,
            .schedule .txDataPend (by decide) 12]
        ∧ Along taskStep InTime watchedTaskInit
          [.schedule .psBusActivityPend (by decide) 15, .schedule .txCommandPend (by decide) 20,
            .schedule .txBeaconPend (by decide) 11, .schedule .txMgmtPend (by decide) 12,
            .schedule .txDataPend (by decide) 12])
      ∧ morsePagesetsWork fullQueuesEnv fullQueues = none
      ∧ morseYapsWork fullQueuesEnv fullQueues = none := by
  refine ⟨fun h => ?_, rfl, rfl⟩
  obtain ⟨-, hcommand⟩ := h.2
  obtain ⟨-, hbeacon⟩ := hcommand _ rfl
  obtain ⟨-, hmgmt⟩ := hbeacon _ rfl
  obtain ⟨-, hdata⟩ := hmgmt _ rfl
  obtain ⟨⟨s', hs', -⟩, -⟩ := hdata _ rfl
  cases hs'

end MmIotEsp32.Driver
