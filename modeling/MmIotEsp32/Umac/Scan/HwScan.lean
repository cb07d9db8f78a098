/-
  MmIotEsp32.Umac.Scan.HwScan

  Scan requests (`umac/scan/umac_scan.c`) and the machine that has the chip work them off
  (`hw_scan.c`, `hw_scan_fsm.def`).
-/
import MmIotEsp32.Common.Mmosal
import MmIotEsp32.Lib.EventFsm
import MmIotEsp32.Lib.Transition

namespace MmIotEsp32.Umac.Scan

open Lib

/-! ## Data model -/

inductive HwScanFsmState where
  | inactive
  | inProgress
  | abortPending
  deriving Repr, DecidableEq

inductive HwScanFsmEvent where
  | request
  | done
  | abort
  | completeNoPending
  | abortActive
  | abortAll
  deriving Repr, DecidableEq

/-- `enum mmwlan_scan_state`, as far as scans end in it. -/
inductive MmwlanScanState where
  | successful
  | terminated
  deriving Repr, DecidableEq

/-- `struct umac_scan_data` with its `struct hw_scan_data`, for requests of type `R`.  `completed`
only records the calls of `complete_cb`, latest first. -/
structure UmacScanData (R : Type) where
  fsmInst : FsmInstance HwScanFsmState HwScanFsmEvent
  activeScanReq : Option R
  pendingScanReq : Option R
  abortAll : Bool
  /-- the scan interface is added -/
  interfaceAdded : Bool
  /-- the datapath is paused by `UMAC_DATAPATH_PAUSE_SOURCE_SCAN` -/
  datapathPaused : Bool
  completed : List (R × MmwlanScanState)

def umacScanInit (R : Type) : UmacScanData R :=
  ⟨.at .inactive, none, none, false, false, false, []⟩

/-- What starting a scan meets. -/
structure StartEnv where
  /-- `umac_interface_add` succeeds -/
  interfaceOk : Bool
  /-- `hw_scan_start` succeeds -/
  startOk : Bool

section Machine

variable {R : Type} (dwellOnHomeMs : R → U32) (env : StartEnv)

/-! ## The machine -/

/-- `complete_cb` of a request, if there is one. -/
def complete (data : UmacScanData R) (req : Option R) (state : MmwlanScanState) :
    UmacScanData R :=
  match req with
  | none => data
  | some req => { data with completed := (req, state) :: data.completed }

/-- An event that is raised by an action of the machine. -/
def raise (data : UmacScanData R) (event : HwScanFsmEvent) : Option (UmacScanData R) :=
  (data.fsmInst.keep event).map fun inst => { data with fsmInst := inst }

def hwScanFsmInProgressEntry (data : UmacScanData R) : Option (UmacScanData R) :=
  match data.activeScanReq with
  | none => raise data .completeNoPending
  | some req =>
    let data := if dwellOnHomeMs req = 0 then { data with datapathPaused := true } else data
    if !env.interfaceOk then raise data .abort
    else
      let data := { data with interfaceAdded := true }
      if !env.startOk then raise data .abort else some data

def hwScanFsmInactiveEntry (prevState : HwScanFsmState) (data : UmacScanData R) :
    UmacScanData R :=
  if prevState ≠ .inactive then { data with interfaceAdded := false, datapathPaused := false }
  else data

def hwScanFsmReqAbort (event : HwScanFsmEvent) (data : UmacScanData R) : UmacScanData R :=
  { data with abortAll := event = .abortAll }

def hwScanFsmScanAborted (data : UmacScanData R) : UmacScanData R :=
  let activeReq := data.activeScanReq
  let data := { data with activeScanReq := none }
  if data.abortAll then
    let pendingReq := data.pendingScanReq
    let data := { data with pendingScanReq := none, abortAll := false }
    complete (complete data activeReq .terminated) pendingReq .terminated
  else complete data activeReq .terminated

def hwScanFsmScanDone (data : UmacScanData R) : UmacScanData R :=
  let activeReq := data.activeScanReq
  if data.abortAll then
    let pendingReq := data.pendingScanReq
    let data := { data with activeScanReq := none, pendingScanReq := none, abortAll := false }
    complete (complete data activeReq .successful) pendingReq .terminated
  else
    complete { data with activeScanReq := data.pendingScanReq, pendingScanReq := none } activeReq
      .successful

def hwScanFsmTable : List (FsmRow HwScanFsmState HwScanFsmEvent (UmacScanData R)) :=
  [ ⟨[.inProgress], [.abortActive, .abortAll], some .abortPending,
      some fun event data => some (hwScanFsmReqAbort event data)⟩,
    ⟨[.abortPending], [.abortActive, .abortAll], some .abortPending, none⟩,
    ⟨[.abortPending, .inProgress], [.done], some .inProgress,
      some fun _ data => some (hwScanFsmScanDone data)⟩,
    ⟨[.abortPending, .inProgress], [.abort], some .inProgress,
      some fun _ data => some (hwScanFsmScanAborted data)⟩,
    ⟨[.inactive], [.request], some .inProgress, none⟩,
    ⟨[.inProgress], [.completeNoPending], some .inactive, none⟩,
    ⟨[.inactive], [.abortAll], some .inactive, none⟩ ]

def hwScanFsm : Fsm HwScanFsmState HwScanFsmEvent (UmacScanData R) where
  inst := UmacScanData.fsmInst
  withInst := fun inst data => { data with fsmInst := inst }
  table := hwScanFsmTable
  exit := fun _ _ data => some data
  entry := fun state prevState data =>
    match state with
    | .inactive => some (hwScanFsmInactiveEntry prevState data)
    | .inProgress => hwScanFsmInProgressEntry dwellOnHomeMs env data
    | .abortPending => some data

/-- The events that one event of the outside raises are at most DONE, ABORT and
COMPLETE_NO_PENDING. -/
def hwScanFuel : Nat := 3

def hwScanFsmHandleEvent (data : UmacScanData R) (event : HwScanFsmEvent) :
    Option (UmacScanData R) :=
  (hwScanFsm dwellOnHomeMs env).handleEvent hwScanFuel data event

/-! ## Requests -/

/-- `umac_scan_abort`; `none` is its assertion that the request is held. -/
def umacScanAbort [DecidableEq R] (data : UmacScanData R) (scanReq : Option R) :
    Option (UmacScanData R) :=
  match scanReq with
  | none => hwScanFsmHandleEvent dwellOnHomeMs env data .abortAll
  | some req =>
    if data.activeScanReq = some req then
      hwScanFsmHandleEvent dwellOnHomeMs env data .abortActive
    else if data.pendingScanReq = some req then
      some (complete { data with pendingScanReq := none } (some req) .terminated)
    else none

def umacScanHwScanDone (data : UmacScanData R) (state : MmwlanScanState) :
    Option (UmacScanData R) :=
  match state with
  | .terminated => hwScanFsmHandleEvent dwellOnHomeMs env data .abort
  | .successful => hwScanFsmHandleEvent dwellOnHomeMs env data .done

def umacScanHandleHwRestarted (data : UmacScanData R) : Option (UmacScanData R) :=
  if data.activeScanReq.isSome then umacScanHwScanDone dwellOnHomeMs env data .terminated
  else some data

def umacReqScanEvtHandler (data : UmacScanData R) (scanReq : R) : Option (UmacScanData R) :=
  if data.activeScanReq.isNone then
    hwScanFsmHandleEvent dwellOnHomeMs env { data with activeScanReq := some scanReq } .request
  else if data.pendingScanReq.isNone then some { data with pendingScanReq := some scanReq }
  else some (complete data (some scanReq) .terminated)

/-- What happens to the scan module. -/
inductive ScanEvent (R : Type) where
  | request (scanReq : R)
  | abort (scanReq : Option R)
  | hwScanDone (state : MmwlanScanState)
  | hwRestarted

/-- An event, with what a scan that it starts meets. -/
def scanStep [DecidableEq R] (data : UmacScanData R) (event : ScanEvent R × StartEnv) :
    Option (UmacScanData R) :=
  match event.1 with
  | .request scanReq => umacReqScanEvtHandler dwellOnHomeMs event.2 data scanReq
  | .abort scanReq => umacScanAbort dwellOnHomeMs event.2 data scanReq
  | .hwScanDone state => umacScanHwScanDone dwellOnHomeMs event.2 data state
  | .hwRestarted => umacScanHandleHwRestarted dwellOnHomeMs event.2 data

end Machine

end MmIotEsp32.Umac.Scan
