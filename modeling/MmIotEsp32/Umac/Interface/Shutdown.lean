/-
  MmIotEsp32.Umac.Interface.Shutdown

  Shutting down (`mmwlan_shutdown` of `umac/umac.c`), with everything that adds or removes an
  interface: the connection (`umac/connection/umac_connection.c`), the scans
  (`umac/scan/hw_scan.c`) and the access point (`umac/ap/umac_ap.c`).
-/
import MmIotEsp32.Umac.Interface.UmacInterface
import MmIotEsp32.Umac.Scan.ScanRequests

namespace MmIotEsp32.Umac.Interface

open Lib Scan

/-! ## Data model -/

inductive UmacConnectionMode where
  | none
  | sta
  | dpp
  deriving Repr, DecidableEq

/-- The data of the root, the interfaces, the connection and the scans; `R` is a
`struct umac_scan_req *`. -/
structure UmacRoot (R : Type) where
  interface : UmacInterfaceData
  mode : UmacConnectionMode
  scan : UmacScanData R
  shutdownInProgress : Bool

/-- What a handler meets. -/
structure HandlerEnv where
  driver : DriverEnv
  /-- `umac_supp_add_sta_interface`, `umac_supp_add_ap_interface` -/
  suppAddOk : Bool
  /-- `umac_supp_connect`, `umac_supp_dpp_push_button` -/
  suppConnectOk : Bool
  /-- `hw_scan_start` -/
  scanStartOk : Bool
  /-- `umac_ap_enable_ap` comes as far as the supplicant. -/
  apAllocOk : Bool
  /-- The supplicant calls `umac_ap_start`. -/
  apStarts : Bool
  deriving Repr, DecidableEq

section Handlers

variable {R : Type} [DecidableEq R] (dwellOnHomeMs : R → U32) (env : HandlerEnv)

/-! ## Scans -/

/-- `hw_scan_fsm_in_progress_entry`. -/
def inProgressEntry (s : UmacRoot R) : Option (UmacRoot R) :=
  let raise (s : UmacRoot R) (event : HwScanFsmEvent) : Option (UmacRoot R) :=
    (Scan.raise s.scan event).map fun scan => { s with scan := scan }
  match s.scan.activeScanReq with
  | .none => raise s .completeNoPending
  | some req =>
    let s :=
      if dwellOnHomeMs req = 0 then { s with scan := { s.scan with datapathPaused := true } }
      else s
    let (status, interface) := umacInterfaceAdd env.driver s.interface .scan
    let s := { s with interface := interface }
    if status ≠ .success then raise s .abort
    else
      let s := { s with scan := { s.scan with interfaceAdded := true } }
      if !env.scanStartOk then raise s .abort else some s

/-- `hw_scan_fsm_inactive_entry`. -/
def inactiveEntry (prevState : HwScanFsmState) (s : UmacRoot R) : Option (UmacRoot R) :=
  if prevState ≠ .inactive then
    (umacInterfaceRemove env.driver s.shutdownInProgress s.interface .scan).map fun interface =>
      { s with interface := interface, scan := hwScanFsmInactiveEntry prevState s.scan }
  else some s

/-- A row of `hw_scan_fsm_table`, whose callback only changes the data of the scans. -/
def liftRow (row : FsmRow HwScanFsmState HwScanFsmEvent (UmacScanData R)) :
    FsmRow HwScanFsmState HwScanFsmEvent (UmacRoot R) :=
  { fromStates := row.fromStates
    events := row.events
    toState := row.toState
    callback := row.callback.map fun callback event s =>
      (callback event s.scan).map fun scan => { s with scan := scan } }

/-- The machine of the scans, with its interface. -/
def scanFsm : Fsm HwScanFsmState HwScanFsmEvent (UmacRoot R) where
  inst := fun s => s.scan.fsmInst
  withInst := fun inst s => { s with scan := { s.scan with fsmInst := inst } }
  table := hwScanFsmTable.map liftRow
  exit := fun _ _ s => some s
  entry := fun state prevState s =>
    match state with
    | .inactive => inactiveEntry env prevState s
    | .inProgress => inProgressEntry dwellOnHomeMs env s
    | .abortPending => some s

/-- `hw_scan_fsm_handle_event`. -/
def scanFsmHandleEvent (s : UmacRoot R) (event : HwScanFsmEvent) : Option (UmacRoot R) :=
  (scanFsm dwellOnHomeMs env).handleEvent hwScanFuel s event

/-- `umac_scan_abort`; `none` is its assertion that the request is held. -/
def abortScan (s : UmacRoot R) (scanReq : Option R) : Option (UmacRoot R) :=
  match scanReq with
  | .none => scanFsmHandleEvent dwellOnHomeMs env s .abortAll
  | some req =>
    if s.scan.activeScanReq = some req then scanFsmHandleEvent dwellOnHomeMs env s .abortActive
    else if s.scan.pendingScanReq = some req then
      some { s with
        scan := complete { s.scan with pendingScanReq := .none } (some req) .terminated }
    else .none

/-- `umac_scan_hw_scan_done`. -/
def scanDone (s : UmacRoot R) (state : MmwlanScanState) : Option (UmacRoot R) :=
  match state with
  | .terminated => scanFsmHandleEvent dwellOnHomeMs env s .abort
  | .successful => scanFsmHandleEvent dwellOnHomeMs env s .done

/-- `umac_req_scan_evt_handler`. -/
def requestScan (s : UmacRoot R) (scanReq : R) : Option (UmacRoot R) :=
  if s.scan.activeScanReq.isNone then
    scanFsmHandleEvent dwellOnHomeMs env
      { s with scan := { s.scan with activeScanReq := some scanReq } } .request
  else if s.scan.pendingScanReq.isNone then
    some { s with scan := { s.scan with pendingScanReq := some scanReq } }
  else some { s with scan := complete s.scan (some scanReq) .terminated }

/-- `umac_scan_handle_hw_restarted`. -/
def scanHandleHwRestarted (s : UmacRoot R) : Option (UmacRoot R) :=
  if s.scan.activeScanReq.isSome then scanDone dwellOnHomeMs env s .terminated else some s

/-! ## Connections and the access point -/

/-- `umac_interface_remove`. -/
def removeInterface (s : UmacRoot R) (type : UmacInterfaceType) : Option (UmacRoot R) :=
  (umacInterfaceRemove env.driver s.shutdownInProgress s.interface type).map fun interface =>
    { s with interface := interface }

def umacConnectionStartInterface (s : UmacRoot R) : Option (Bool × UmacRoot R) :=
  let (status, interface) := umacInterfaceAdd env.driver s.interface .sta
  let s := { s with interface := interface }
  if status ≠ .success then some (false, s)
  else if !env.suppAddOk then (removeInterface env s .sta).map fun s => (false, s)
  else some (true, s)

def umacConnectionStart (s : UmacRoot R) : Option (UmacRoot R) :=
  if s.mode ≠ .none ∧ s.mode ≠ .sta then some s
  else
    (umacConnectionStartInterface env s).map fun (ok, s) =>
      if !ok then s
      else if !env.suppConnectOk then s
      else { s with mode := .sta }

def umacConnectionStartDpp (s : UmacRoot R) : Option (UmacRoot R) :=
  if s.mode ≠ .none ∧ s.mode ≠ .dpp then some s
  else
    (umacConnectionStartInterface env s).map fun (ok, s) =>
      if !ok then s
      else if !env.suppConnectOk then s
      else { s with mode := .dpp }

def umacConnectionReassoc (s : UmacRoot R) : Option (UmacRoot R) :=
  if s.mode = .none then
    (umacConnectionStartInterface env s).map fun (ok, s) =>
      if !ok then s else { s with mode := .sta }
  else some s

/-- `umac_connection_stop` for the mode `sta`, and `umac_connection_stop_dpp` for `dpp`. -/
def connectionStopIn (mode : UmacConnectionMode) (s : UmacRoot R) : Option (UmacRoot R) :=
  if s.mode ≠ mode then some s
  else (removeInterface env s .sta).map fun s => { s with mode := .none }

def umacConnectionStop : UmacRoot R → Option (UmacRoot R) := connectionStopIn env .sta

def umacConnectionStopDpp : UmacRoot R → Option (UmacRoot R) := connectionStopIn env .dpp

/-- `umac_ap_enable_ap`, with the `umac_ap_start` that the supplicant calls. -/
def umacApEnableAp (s : UmacRoot R) : Option (UmacRoot R) :=
  if !env.apAllocOk then some s
  else
    let s :=
      if env.apStarts then
        { s with interface := (umacInterfaceAdd env.driver s.interface .ap).2 }
      else s
    if !env.suppAddOk then removeInterface env s .ap else some s

/-! ## Events of the loop -/

def umacShutdownEvtHandler (s : UmacRoot R) : Option (UmacRoot R) :=
  (umacConnectionStop env { s with shutdownInProgress := true }).bind fun s =>
    (abortScan dwellOnHomeMs env s .none).bind fun s =>
      removeInterface env s .none

/-- `hw_restart_evt_handler`; it cannot recover an access point. -/
def hwRestartEvtHandler (s : UmacRoot R) : Option (UmacRoot R) :=
  if .ap ∈ s.interface.activeInterfaceTypes then .none
  else if s.interface.activeInterfaceTypes ≠ ∅ then
    scanHandleHwRestarted dwellOnHomeMs env
      { s with interface := { s.interface with mmdrv := .init :: .deinit :: s.interface.mmdrv } }
  else some s

/-- The chip is powered down while the station sleeps, and booted when it wakes
(`wnm_sleep_fsm_active_entry`, `wnm_sleep_fsm_active_exit`); both assert that there is a station. -/
def wnmSleepPowerdown (wakes : Bool) (s : UmacRoot R) : Option (UmacRoot R) :=
  if .sta ∉ s.interface.activeInterfaceTypes then .none
  else
    some { s with
      interface := { s.interface with
        mmdrv := (if wakes then .init else .deinit) :: s.interface.mmdrv } }

/-- What the loop handles. -/
inductive LoopEvt (R : Type) where
  /-- of `mmwlan_boot` -/
  | boot
  | connectionStart
  | connectionStop
  | dppStart
  | dppStop
  | reassoc
  | requestScan (scanReq : R)
  | abortScan (scanReq : R)
  | hwScanDone (state : MmwlanScanState)
  | hwRestart
  | wnmSleepPowerdown (wakes : Bool)
  | apStart
  | shutdown
  deriving Repr, DecidableEq

/-- The handler of an event. -/
def handleEvt (s : UmacRoot R) : LoopEvt R → Option (UmacRoot R)
  | .boot => some { s with interface := (umacInterfaceAdd env.driver s.interface .none).2 }
  | .connectionStart => umacConnectionStart env s
  | .connectionStop => umacConnectionStop env s
  | .dppStart => umacConnectionStartDpp env s
  | .dppStop => umacConnectionStopDpp env s
  | .reassoc => umacConnectionReassoc env s
  | .requestScan scanReq => requestScan dwellOnHomeMs env s scanReq
  | .abortScan scanReq => abortScan dwellOnHomeMs env s (some scanReq)
  | .hwScanDone state => scanDone dwellOnHomeMs env s state
  | .hwRestart => hwRestartEvtHandler dwellOnHomeMs env s
  | .wnmSleepPowerdown wakes => wnmSleepPowerdown wakes s
  | .apStart => umacApEnableAp env s
  | .shutdown => umacShutdownEvtHandler dwellOnHomeMs env s

end Handlers

/-! ## The application and the loop -/

/-- Where the application is. -/
inductive AppPc where
  /-- In none of the functions below; the last one was `mmwlan_shutdown` and has returned, with
  `MMWLAN_SUCCESS` or not, or it was another one. -/
  | returned (shutdown : Option Bool)
  /-- In `mmwlan_shutdown`, or `mmwlan_shutdown_nowait`, before `umac_core_evt_queue`. -/
  | queues (nowait : Bool) (n : Nat)
  /-- In `mmosal_semb_wait`, for the callback with the number. -/
  | awaits (n : Nat)
  /-- Before `umac_interface_is_active`; `shutdown` says that `mmwlan_shutdown` has called
  `umac_stop_core_if_no_interface`. -/
  | stopTests (shutdown : Bool)
  /-- Before `evtloop_shutting_down` is tested and set. -/
  | stopSets (shutdown : Bool)
  /-- In the loop on `evtloop_has_finished`. -/
  | stopJoins (shutdown : Bool)
  deriving Repr, DecidableEq

structure ShutdownSys (R : Type) where
  root : UmacRoot R
  evtq : List (LoopEvt R)
  /-- `evtloop_task != NULL` -/
  evtloopTask : Bool
  evtloopShuttingDown : Bool
  evtloopHasFinished : Bool
  pc : AppPc

def shutdownSysInit (R : Type) : ShutdownSys R where
  root := ⟨umacInterfaceInit, .none, umacScanInit R, false⟩
  evtq := []
  evtloopTask := false
  evtloopShuttingDown := false
  evtloopHasFinished := false
  pc := .returned .none

/-- A step of the application, of anything that queues an event, or of the loop. -/
inductive ShutdownStep (R : Type) where
  /-- `umac_core_start` -/
  | coreStart (ok : Bool)
  /-- `umac_core_evt_queue`; `atStart` is `umac_core_evt_queue_at_start`. -/
  | queueEvt (evt : LoopEvt R) (atStart ok : Bool)
  /-- Another function calls `umac_stop_core_if_no_interface`. -/
  | callStop
  | callShutdown (sembOk : Bool)
  | callShutdownNowait
  /-- The application goes on. -/
  | app (ok : Bool)
  | dispatch (env : HandlerEnv)
  /-- The loop finds `evtloop_shutting_down`. -/
  | loopEnds
  deriving Repr, DecidableEq

section System

variable {R : Type} [DecidableEq R] (dwellOnHomeMs : R → U32)

/-- The loop task exists and has not left its loop. -/
def ShutdownSys.running (s : ShutdownSys R) : Bool := s.evtloopTask && !s.evtloopHasFinished

/-- `umac_core_evt_queue`. -/
def ShutdownSys.evtQueue (s : ShutdownSys R) (evt : LoopEvt R) (atStart ok : Bool) :
    Bool × ShutdownSys R :=
  if !s.evtloopShuttingDown && s.evtloopTask && ok then
    (true, { s with evtq := if atStart then evt :: s.evtq else s.evtq ++ [evt] })
  else (false, s)

def ShutdownSys.register (s : ShutdownSys R) (nowait : Bool) : ShutdownSys R :=
  { s with
    root := { s.root with interface := umacInterfaceRegisterInactiveCb s.root.interface }
    pc := .queues nowait s.root.interface.registered }

/-- The next step of the application. -/
def runApp (s : ShutdownSys R) (ok : Bool) : ShutdownSys R :=
  match s.pc with
  | .returned _ => s
  | .queues nowait n =>
    let (queued, s) := s.evtQueue .shutdown false ok
    if nowait then { s with pc := .returned .none }
    else if queued then { s with pc := .awaits n }
    else { s with pc := .returned (some false) }
  | .awaits n =>
    if n ∈ s.root.interface.invoked.map Prod.fst then { s with pc := .stopTests true } else s
  | .stopTests shutdown =>
    if s.root.interface.activeInterfaceTypes ≠ ∅ then
      { s with pc := .returned (if shutdown then some true else .none) }
    else { s with pc := .stopSets shutdown }
  | .stopSets shutdown =>
    if s.evtloopShuttingDown then
      { s with pc := .returned (if shutdown then some true else .none) }
    else if s.evtloopTask then
      { s with evtloopShuttingDown := true, pc := .stopJoins shutdown }
    else
      { s with
        evtloopShuttingDown := true
        pc := .returned (if shutdown then some true else .none) }
  | .stopJoins shutdown =>
    if s.evtloopHasFinished then
      { s with evtloopTask := false, pc := .returned (if shutdown then some true else .none) }
    else s

/-- A step; one that is not the next of the application, or of the loop, changes nothing. -/
def shutdownStep (s : ShutdownSys R) (step : ShutdownStep R) : Option (ShutdownSys R) :=
  match step, s.pc with
  | .coreStart ok, .returned _ =>
    some (
      if s.evtloopTask then { s with pc := .returned .none }
      else
        { s with
          evtloopShuttingDown := false
          evtloopHasFinished := false
          evtloopTask := ok
          pc := .returned .none })
  | .queueEvt evt atStart ok, _ => some (s.evtQueue evt atStart ok).2
  | .callStop, .returned _ => some { s with pc := .stopTests false }
  | .callShutdown sembOk, .returned _ =>
    some (
      if !s.evtloopTask then { s with pc := .returned (some true) }
      else if !sembOk then { s with pc := .returned (some false) }
      else s.register false)
  | .callShutdownNowait, .returned _ =>
    some (if !s.evtloopTask then { s with pc := .returned .none } else s.register true)
  | .app ok, _ => some (runApp s ok)
  | .dispatch env, _ =>
    if s.running then
      match s.evtq with
      | [] => some s
      | evt :: rest =>
        (handleEvt dwellOnHomeMs env s.root evt).map fun root =>
          { s with root := root, evtq := rest }
    else some s
  | .loopEnds, _ =>
    some (
      if s.running && s.evtloopShuttingDown then { s with evtloopHasFinished := true } else s)
  | _, _ => some s

/-! ## What the application relies on, and when it may -/

/-- The callback of each registration was called at most once, and with no interface active; and
when `mmwlan_shutdown` has returned `MMWLAN_SUCCESS`, no interface is active, the driver is stopped
and so is the event loop. -/
structure ShutDown (s : ShutdownSys R) : Prop where
  once : (s.root.interface.invoked.map Prod.fst).Nodup
  inactive : ∀ call ∈ s.root.interface.invoked, call.2 = ∅
  returned : s.pc = .returned (some true) →
    s.root.interface.activeInterfaceTypes = ∅ ∧ s.root.interface.mmdrv.head? ≠ some .init
      ∧ s.evtloopTask = false

/-- The handler calls the inactive callback only when no interface is active. -/
def CallsInOrder (env : HandlerEnv) (s : UmacRoot R) : LoopEvt R → Prop
  | .connectionStop => s.mode = .sta → RemovesLast s.interface .sta
  | .dppStop => s.mode = .dpp → RemovesLast s.interface .sta
  | .requestScan _ =>
    s.scan.activeScanReq = none →
      umacInterfaceTypeIsCompatibleWithActive s.interface .scan = false →
        RemovesLast s.interface .scan
  | .apStart =>
    env.apAllocOk = true → env.suppAddOk = false →
      env.apStarts = true ∧ umacInterfaceTypeIsCompatibleWithActive s.interface .ap = true
        ∨ RemovesLast s.interface .ap
  | .shutdown =>
    (s.mode = .sta → RemovesLast s.interface .sta)
      ∧ (.none ∈ s.interface.activeInterfaceTypes
        ∨ (if s.mode = .sta then s.interface.activeInterfaceTypes.erase .sta
            else s.interface.activeInterfaceTypes) = ∅
        ∨ s.interface.inactiveCallback = none)
  | _ => True

instance (env : HandlerEnv) (s : UmacRoot R) (evt : LoopEvt R) :
    Decidable (CallsInOrder env s evt) := by
  unfold CallsInOrder
  split <;> infer_instance

/-- The handler boots the chip, and leaves an interface active. -/
def Boots (env : HandlerEnv) (s : UmacRoot R) : LoopEvt R → Prop
  | .boot => env.driver.channelListSet ∧ env.driver.initOk
  | .connectionStart =>
    (s.mode = .none ∨ s.mode = .sta)
      ∧ env.driver.channelListSet ∧ env.driver.initOk ∧ env.suppAddOk
  | .dppStart =>
    (s.mode = .none ∨ s.mode = .dpp)
      ∧ env.driver.channelListSet ∧ env.driver.initOk ∧ env.suppAddOk
  | .reassoc => s.mode = .none ∧ env.driver.channelListSet ∧ env.driver.initOk ∧ env.suppAddOk
  | .requestScan _ => env.driver.channelListSet ∧ env.driver.initOk ∧ env.scanStartOk
  | .apStart =>
    env.apAllocOk ∧ env.apStarts ∧ env.driver.channelListSet ∧ env.driver.initOk ∧ env.suppAddOk
  | _ => False

instance (env : HandlerEnv) (s : UmacRoot R) (evt : LoopEvt R) : Decidable (Boots env s evt) := by
  unfold Boots
  split <;> infer_instance

/-- The application, or the loop for it, has found no interface active, and acts on it. -/
def ShutdownSys.Stopping (s : ShutdownSys R) : Prop :=
  match s.pc with
  | .returned _ | .queues true _ | .stopTests false => False
  | .queues false n | .awaits n => n ∈ s.root.interface.invoked.map Prod.fst
  | .stopTests true | .stopSets _ | .stopJoins _ => True

instance (s : ShutdownSys R) : Decidable s.Stopping := by
  unfold ShutdownSys.Stopping
  split <;> infer_instance

/-- The loop calls the inactive callback only when no interface is active, and boots the chip only
when nobody has begun to stop the loop for want of an interface. -/
def StopsInOrder (s : ShutdownSys R) : ShutdownStep R → Prop
  | .dispatch env =>
    ∀ evt ∈ s.evtq.head?, s.running = true →
      CallsInOrder env s.root evt ∧ (s.Stopping → ¬ Boots env s.root evt)
  | _ => True

instance (s : ShutdownSys R) (step : ShutdownStep R) : Decidable (StopsInOrder s step) := by
  unfold StopsInOrder
  split <;> infer_instance

end System

end MmIotEsp32.Umac.Interface
