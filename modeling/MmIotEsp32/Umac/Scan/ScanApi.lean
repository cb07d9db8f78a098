/-
  MmIotEsp32.Umac.Scan.ScanApi

  The scan functions of the application (`mmwlan_scan_request` and `mmwlan_scan_abort` of
  `umac/umac.c`) on top of the scan module.
-/
import MmIotEsp32.Umac.Scan.ScanRequests

namespace MmIotEsp32.Umac.Scan

open Lib

/-! ## Data model -/

structure MmwlanScanArgs where
  ssid : List U8
  dwellTimeMs : U32
  dwellOnHomeMs : U32
  extraIes : List U8
  deriving Repr, DecidableEq

def MmwlanScanArgs.zero : MmwlanScanArgs := ⟨[], 0, 0, []⟩

structure MmwlanScanReq (C : Type) where
  cb : C
  args : MmwlanScanArgs
  deriving Repr, DecidableEq

/-- A `struct umac_scan_req *`: `&data->scan_request`, or one of the supplicant. -/
inductive ScanReq (S : Type) where
  | api
  | supplicant (req : S)
  deriving Repr, DecidableEq

/-- The events about scans in the queue of the event loop. -/
inductive ScanEvt (S : Type) where
  /-- `umac_req_scan_evt_handler` -/
  | request (req : ScanReq S)
  /-- `umac_abort_scan_evt_handler`, of `&data->scan_request` -/
  | abort
  deriving Repr, DecidableEq

/-- `enum mmwlan_status`, as the scan functions return it. -/
inductive ScanStatus where
  | success
  | error
  | unavailable
  | channelListNotSet
  | noMem
  deriving Repr, DecidableEq

/-- Where the task of the application is. -/
inductive ApiPc (C : Type) where
  /-- In none of the two functions; the last one has returned the status. -/
  | returned (status : ScanStatus)
  /-- In `mmwlan_scan_request`, whose tests are passed and whose core is started. -/
  | requestWrites (req : MmwlanScanReq C)
  /-- Before `mmosal_malloc`. -/
  | requestAllocates (req : MmwlanScanReq C)
  /-- Before `umac_scan_queue_request`. -/
  | requestQueues (req : MmwlanScanReq C)
  /-- In `mmwlan_scan_abort`, before `umac_core_evt_queue`. -/
  | abortQueues
  deriving Repr, DecidableEq

structure ScanApi (C S : Type) where
  /-- `data->scan_complete_cb`, with `scan_rx_cb` and `scan_cb_arg`. -/
  scanCompleteCb : Option C
  /-- `data->scan_request.args`. -/
  args : MmwlanScanArgs
  scan : UmacScanData (ScanReq S)
  evtq : List (ScanEvt S)
  pc : ApiPc C
  /-- The requests for which `MMWLAN_SUCCESS` is returned, oldest first. -/
  accepted : List C
  /-- The calls of the callbacks, oldest first. -/
  called : List (C × MmwlanScanState)

def scanApiInit (C S : Type) : ScanApi C S where
  scanCompleteCb := none
  args := .zero
  scan := umacScanInit _
  evtq := []
  pc := .returned .success
  accepted := []
  called := []

/-- What `mmwlan_scan_request` meets before it writes anything. -/
structure RequestEnv where
  channelListSet : Bool
  /-- What `umac_core_start` returns. -/
  coreStatus : ScanStatus
  deriving Repr, DecidableEq

/-- A step of the application, of the supplicant, or of the event loop. -/
inductive ScanApiStep (C S : Type) where
  /-- `mmwlan_scan_request` is called. -/
  | callRequest (req : MmwlanScanReq C) (env : RequestEnv)
  /-- It writes `data`; the station is connected or not. -/
  | write (connected : Bool)
  | allocate (ok : Bool)
  | queue (ok : Bool)
  /-- `mmwlan_scan_abort` is called. -/
  | callAbort
  | queueAbort (ok : Bool)
  /-- `mmwpas_scan2`. -/
  | supplicantRequest (req : S) (ok : Bool)
  /-- The event loop handles the next event. -/
  | dispatch (env : StartEnv)
  /-- `umac_scan_abort(umacd, NULL)`. -/
  | abortAll (env : StartEnv)
  | hwScanDone (state : MmwlanScanState) (env : StartEnv)
  | hwRestarted (env : StartEnv)

section Api

variable {C S : Type} [DecidableEq S] (suppArgs : S → MmwlanScanArgs)

/-! ## The application -/

/-- `mmwlan_scan_request`, up to `umac_core_start`. -/
def mmwlanScanRequest (s : ScanApi C S) (req : MmwlanScanReq C) (env : RequestEnv) :
    ScanApi C S :=
  if s.scanCompleteCb.isSome then { s with pc := .returned .unavailable }
  else if !env.channelListSet then { s with pc := .returned .channelListNotSet }
  else if env.coreStatus ≠ .success then { s with pc := .returned env.coreStatus }
  else { s with pc := .requestWrites req }

/-- The callbacks and the arguments are written. -/
def requestWrite (s : ScanApi C S) (req : MmwlanScanReq C) (connected : Bool) : ScanApi C S :=
  { s with
    scanCompleteCb := some req.cb
    args :=
      { req.args with
        dwellOnHomeMs := if connected then req.args.dwellOnHomeMs else 0
        extraIes := [] }
    pc := if req.args.extraIes = [] then .requestQueues req else .requestAllocates req }

/-- `mmosal_malloc` for the additional elements. -/
def requestAllocate (s : ScanApi C S) (req : MmwlanScanReq C) (ok : Bool) : ScanApi C S :=
  if ok then
    { s with args := { s.args with extraIes := req.args.extraIes }, pc := .requestQueues req }
  -- what was written above stays
  else { s with pc := .returned .noMem }

/-- `umac_scan_queue_request`, for the application. -/
def requestQueue (s : ScanApi C S) (req : MmwlanScanReq C) (ok : Bool) : ScanApi C S :=
  if ok then
    { s with
      evtq := s.evtq ++ [.request .api]
      accepted := s.accepted ++ [req.cb]
      pc := .returned .success }
  else { s with pc := .returned .error }

/-- `mmwlan_scan_abort`, up to its test. -/
def mmwlanScanAbort (s : ScanApi C S) : ScanApi C S :=
  if s.scanCompleteCb.isNone then { s with pc := .returned .success }
  else { s with pc := .abortQueues }

def abortQueue (s : ScanApi C S) (ok : Bool) : ScanApi C S :=
  if ok then { s with evtq := s.evtq ++ [.abort], pc := .returned .success }
  else { s with pc := .returned .error }

/-! ## The event loop -/

/-- `umac_scan_complete_callback`; `none` is a call through `NULL`. -/
def umacScanCompleteCallback (s : ScanApi C S) (resultCode : MmwlanScanState) :
    Option (ScanApi C S) :=
  match s.scanCompleteCb with
  | none => none
  | some cb =>
    some { s with
      args := { s.args with extraIes := [] }
      scanCompleteCb := none
      called := s.called ++ [(cb, resultCode)] }

/-- The callbacks that the scan module calls, one after the other. -/
def runCallbacks (s : ScanApi C S) : List (ScanReq S × MmwlanScanState) → Option (ScanApi C S)
  | [] => some s
  | (.api, state) :: rest => (umacScanCompleteCallback s state).bind fun s => runCallbacks s rest
  | (.supplicant _, _) :: rest => runCallbacks s rest

/-- The arguments of a request. -/
def ScanApi.argsOf (s : ScanApi C S) : ScanReq S → MmwlanScanArgs
  | .api => s.args
  | .supplicant req => suppArgs req

/-- An event of the scan module, with the callbacks that are called in it. -/
def scanEvent (s : ScanApi C S) (event : ScanEvent (ScanReq S) × StartEnv) :
    Option (ScanApi C S) :=
  (scanStep (fun req => (s.argsOf suppArgs req).dwellOnHomeMs) { s.scan with completed := [] }
      event).bind fun scan =>
    runCallbacks { s with scan := scan } scan.completed.reverse

/-- The handler of the next event in the queue; a request asserts its dwell time. -/
def dispatchEvt (s : ScanApi C S) (env : StartEnv) : Option (ScanApi C S) :=
  match s.evtq with
  | [] => some s
  | .request req :: rest =>
    if (s.argsOf suppArgs req).dwellTimeMs = 0 then none
    else scanEvent suppArgs { s with evtq := rest } (.request req, env)
  | .abort :: rest => scanEvent suppArgs { s with evtq := rest } (.abort (some .api), env)

/-- A step; one that is not the next of the application changes nothing. -/
def scanApiStep (s : ScanApi C S) (step : ScanApiStep C S) : Option (ScanApi C S) :=
  match step, s.pc with
  | .callRequest req env, .returned _ => some (mmwlanScanRequest s req env)
  | .write connected, .requestWrites req => some (requestWrite s req connected)
  | .allocate ok, .requestAllocates req => some (requestAllocate s req ok)
  | .queue ok, .requestQueues req => some (requestQueue s req ok)
  | .callAbort, .returned _ => some (mmwlanScanAbort s)
  | .queueAbort ok, .abortQueues => some (abortQueue s ok)
  | .supplicantRequest req ok, _ =>
    some (if ok then { s with evtq := s.evtq ++ [.request (.supplicant req)] } else s)
  | .dispatch env, _ => dispatchEvt suppArgs s env
  | .abortAll env, _ => scanEvent suppArgs s (.abort none, env)
  | .hwScanDone state env, _ => scanEvent suppArgs s (.hwScanDone state, env)
  | .hwRestarted env, _ => scanEvent suppArgs s (.hwRestarted, env)
  | _, _ => some s

/-! ## What the application relies on -/

/-- The number of places where `&data->scan_request` is on its way: in the queue, and in the scan
module. -/
def ScanApi.onWay (s : ScanApi C S) : Nat :=
  s.evtq.count (.request .api) + (held s.scan).count .api

/-- The application is past its tests in `mmwlan_scan_request`. -/
def ApiPc.requesting : ApiPc C → Bool
  | .requestWrites _ | .requestAllocates _ | .requestQueues _ => true
  | _ => false

/-- Every accepted request has had its callback called once or is on its way, and the scan
functions are free unless one is. -/
structure ScanUsable (s : ScanApi C S) : Prop where
  once : s.onWay ≤ 1
  /-- The accepted requests, in their order: those whose callback was called, and what is on its
  way. -/
  accounted : ∃ outstanding, s.accepted = s.called.map Prod.fst ++ outstanding
    ∧ outstanding.length = s.onWay
  free : s.pc.requesting = false → s.onWay = 0 → s.scanCompleteCb = none

/-- `umac_scan_abort` does not fail its assertion. -/
def AbortFindsRequest (s : ScanApi C S) (step : ScanApiStep C S) : Prop :=
  match step, s.evtq with
  | .dispatch env, .abort :: _ =>
    umacScanAbort (fun req => (s.argsOf suppArgs req).dwellOnHomeMs) env s.scan (some .api)
      ≠ none
  | _, _ => True

/-! ## When it may -/

/-- The events that stay in the queue while a step is taken. -/
def ScanApi.queueBehind (s : ScanApi C S) : ScanApiStep C S → List (ScanEvt S)
  | .dispatch _ => s.evtq.tail
  | _ => s.evtq

/-- What an event of the scan module makes of the request of the application: it ends. -/
def EndsApi (scan : UmacScanData (ScanReq S)) : ScanEvent (ScanReq S) × StartEnv → Prop
  | (.request req, env) =>
    req = .api ∧
      (scan.fsmInst.currentState = .inactive ∧ (env.interfaceOk && env.startOk) = false
        ∨ scan.fsmInst.currentState ≠ .inactive ∧ scan.pendingScanReq ≠ none)
  | (.abort scanReq, _) =>
    scanReq = some .api ∧ scan.activeScanReq ≠ some .api ∧ scan.pendingScanReq = some .api
  | (.hwScanDone .successful, env) =>
    scan.fsmInst.currentState ≠ .inactive ∧
      (scan.activeScanReq = some .api
        ∨ scan.pendingScanReq = some .api
          ∧ (scan.abortAll = true ∨ (env.interfaceOk && env.startOk) = false))
  | (.hwScanDone .terminated, _) | (.hwRestarted, _) =>
    scan.fsmInst.currentState ≠ .inactive ∧
      (scan.activeScanReq = some .api ∨ scan.pendingScanReq = some .api ∧ scan.abortAll = true)

instance (scan : UmacScanData (ScanReq S)) :
    (event : ScanEvent (ScanReq S) × StartEnv) → Decidable (EndsApi scan event)
  | (.request _, _) => inferInstanceAs (Decidable (_ ∧ _))
  | (.abort _, _) => inferInstanceAs (Decidable (_ ∧ _))
  | (.hwScanDone .successful, _) => inferInstanceAs (Decidable (_ ∧ _))
  | (.hwScanDone .terminated, _) => inferInstanceAs (Decidable (_ ∧ _))
  | (.hwRestarted, _) => inferInstanceAs (Decidable (_ ∧ _))

/-- The event of the scan module that a step is. -/
def ScanApi.moduleEvent (s : ScanApi C S) :
    ScanApiStep C S → Option (ScanEvent (ScanReq S) × StartEnv)
  | .dispatch env =>
    match s.evtq with
    | [] => none
    | .request req :: _ => some (.request req, env)
    | .abort :: _ => some (.abort (some .api), env)
  | .abortAll env => some (.abort none, env)
  | .hwScanDone state env => some (.hwScanDone state, env)
  | .hwRestarted env => some (.hwRestarted, env)
  | _ => none

/-- A request that has passed its tests is queued, an abort is queued while its request is on its
way, and that request does not end before the abort is handled. -/
def InTurn (s : ScanApi C S) (step : ScanApiStep C S) : Prop :=
  match step, s.pc with
  | .allocate ok, .requestAllocates _ => ok = true
  | .queue ok, .requestQueues _ => ok = true
  | .queueAbort ok, .abortQueues => ok = true → s.onWay = 1
  | step, _ =>
    .abort ∈ s.queueBehind step → ∀ event ∈ s.moduleEvent step, ¬ EndsApi s.scan event

instance (s : ScanApi C S) (step : ScanApiStep C S) : Decidable (InTurn s step) := by
  unfold InTurn
  split <;> infer_instance

end Api

end MmIotEsp32.Umac.Scan
