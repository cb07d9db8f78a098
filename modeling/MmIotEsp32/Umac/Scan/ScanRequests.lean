/-
  MmIotEsp32.Umac.Scan.ScanRequests

  What becomes of the scan requests.

  A scan that is done makes the pending request the active one.  A scan that is aborted does
  not: unless all are aborted, a pending request is left behind in the state INACTIVE.
-/
import MmIotEsp32.Umac.Scan.HwScan

namespace MmIotEsp32.Umac.Scan

open Lib

section Requests

variable {R : Type} {dwellOnHomeMs : R → U32} {env : StartEnv}

/-! ## What the events do -/

/-- Back in INACTIVE. -/
def endScan (data : UmacScanData R) : UmacScanData R :=
  { data with fsmInst := .at .inactive, interfaceAdded := false, datapathPaused := false }

/-- A scan in progress. -/
def beginScan (dwellOnHomeMs : R → U32) (req : R) (data : UmacScanData R) : UmacScanData R :=
  { data with
    fsmInst := .at .inProgress
    interfaceAdded := true
    datapathPaused := data.datapathPaused || dwellOnHomeMs req = 0 }

variable {data : UmacScanData R} {q : HwScanFsmState}

theorem handleEvent_abort (hinst : data.fsmInst = .at q) (hq : q ≠ .inactive) :
    hwScanFsmHandleEvent dwellOnHomeMs env data .abort
      = some (endScan (hwScanFsmScanAborted data)) := by
  obtain ⟨inst, active, pending, abortAll, interfaceAdded, datapathPaused, completed⟩ := data
  obtain rfl := hinst
  cases q with
  | inactive => exact absurd rfl hq
  | inProgress | abortPending => cases abortAll <;> cases active <;> cases pending <;> rfl

theorem inProgressEntry_some {data : UmacScanData R} {req : R}
    (hactive : data.activeScanReq = some req) (hpending : data.fsmInst.pendingEvent = none) :
    ∃ interfaceAdded datapathPaused,
      hwScanFsmInProgressEntry dwellOnHomeMs env data
        = if env.interfaceOk && env.startOk then
            some { data with
              interfaceAdded := true
              datapathPaused := data.datapathPaused || dwellOnHomeMs req = 0 }
          else
            some { data with
              fsmInst := { data.fsmInst with pendingEvent := some .abort }
              interfaceAdded := interfaceAdded
              datapathPaused := datapathPaused } := by
  obtain ⟨⟨q, inHandler, kept⟩, active, pending, abortAll, interfaceAdded, datapathPaused,
    completed⟩ := data
  obtain rfl := hactive
  obtain rfl := hpending
  obtain ⟨interfaceOk, startOk⟩ := env
  unfold hwScanFsmInProgressEntry
  dsimp only
  by_cases hdwell : dwellOnHomeMs req = 0
  · refine ⟨interfaceOk || interfaceAdded, true, ?_⟩
    simp only [if_pos hdwell, decide_eq_true hdwell, Bool.or_true]
    cases interfaceOk <;> cases startOk <;> rfl
  · refine ⟨interfaceOk || interfaceAdded, datapathPaused, ?_⟩
    simp only [if_neg hdwell, decide_eq_false hdwell, Bool.or_false]
    cases interfaceOk <;> cases startOk <;> rfl

theorem handleEvents_start {data data' : UmacScanData R} {req : R} {event : HwScanFsmEvent}
    (hinst : data'.fsmInst = ⟨.inProgress, true, none⟩) (hactive : data'.activeScanReq = some req)
    (hentry : (hwScanFsm dwellOnHomeMs env).handleEventInternal data event
      = hwScanFsmInProgressEntry dwellOnHomeMs env data') :
    ((hwScanFsm dwellOnHomeMs env).handleEvents hwScanFuel data event).map
        (fun data => { data with fsmInst := { data.fsmInst with inEventHandler := false } })
      = some (if env.interfaceOk && env.startOk then beginScan dwellOnHomeMs req data'
          else endScan (hwScanFsmScanAborted data')) := by
  obtain ⟨interfaceAdded, datapathPaused, hstart⟩ :=
    @inProgressEntry_some R dwellOnHomeMs env data' req hactive (by rw [hinst])
  rw [hstart] at hentry
  by_cases hok : (env.interfaceOk && env.startOk) = true
  · rw [if_pos hok] at hentry ⊢
    rw [show hwScanFuel = 2 + 1 from rfl, Fsm.handleEvents_of_done 2 hentry (by
      show data'.fsmInst.pendingEvent = none
      rw [hinst])]
    show some _ = some _
    unfold beginScan
    rw [hinst]
    rfl
  rw [if_neg hok] at hentry ⊢
  rw [show hwScanFuel = 2 + 1 from rfl, Fsm.handleEvents_of_kept 2 hentry rfl]
  obtain ⟨inst, active, pending, abortAll, _, _, completed⟩ := data'
  obtain rfl := hinst
  cases abortAll <;> cases active <;> cases pending <;> rfl

theorem handleEvent_request {data : UmacScanData R} {req : R} (hinst : data.fsmInst = .at .inactive)
    (hactive : data.activeScanReq = some req) :
    hwScanFsmHandleEvent dwellOnHomeMs env data .request
      = some (if env.interfaceOk && env.startOk then beginScan dwellOnHomeMs req data
          else endScan (hwScanFsmScanAborted data)) := by
  obtain ⟨inst, active, pending, abortAll, interfaceAdded, datapathPaused, completed⟩ := data
  obtain rfl := hinst
  have hstart := @handleEvents_start R dwellOnHomeMs env
    ⟨⟨.inactive, true, none⟩, active, pending, abortAll, interfaceAdded, datapathPaused, completed⟩
    ⟨⟨.inProgress, true, none⟩, active, pending, abortAll, interfaceAdded, datapathPaused, completed⟩
    req .request rfl hactive rfl
  cases abortAll <;> cases active <;> cases pending <;> cases hactive <;> exact hstart

theorem handleEvent_done (hinst : data.fsmInst = .at q) (hq : q ≠ .inactive) :
    hwScanFsmHandleEvent dwellOnHomeMs env data .done
      = some (match (hwScanFsmScanDone data).activeScanReq with
        | none => endScan (hwScanFsmScanDone data) | some req =>
          if env.interfaceOk && env.startOk then
            beginScan dwellOnHomeMs req (hwScanFsmScanDone data)
          else endScan (hwScanFsmScanAborted (hwScanFsmScanDone data))) := by
  obtain ⟨inst, active, pending, abortAll, interfaceAdded, datapathPaused, completed⟩ := data
  obtain rfl := hinst
  cases hactive : (hwScanFsmScanDone ⟨.at q, active, pending, abortAll, interfaceAdded,
      datapathPaused, completed⟩).activeScanReq with
  | none =>
    cases q with
    | inactive => exact absurd rfl hq
    | inProgress | abortPending =>
      cases abortAll <;> cases active <;> cases pending <;> cases hactive <;> rfl
  | some req =>
    have hstart := @handleEvents_start R dwellOnHomeMs env
      ⟨⟨q, true, none⟩, active, pending, abortAll, interfaceAdded, datapathPaused, completed⟩
      { hwScanFsmScanDone ⟨.at q, active, pending, abortAll, interfaceAdded, datapathPaused,
        completed⟩ with fsmInst := ⟨.inProgress, true, none⟩ } req .done rfl hactive
    cases q with
    | inactive => exact absurd rfl hq
    | inProgress | abortPending =>
      cases abortAll <;> cases active <;> cases pending <;> cases hactive <;> exact hstart rfl

variable {event : HwScanFsmEvent}

theorem handleEvent_reqAbort
    (hinst : data.fsmInst = .at .inProgress) (hevent : event = .abortActive ∨ event = .abortAll) :
    hwScanFsmHandleEvent dwellOnHomeMs env data event
      = some { hwScanFsmReqAbort event data with fsmInst := .at .abortPending } := by
  obtain ⟨inst, active, pending, abortAll, interfaceAdded, datapathPaused, completed⟩ := data
  obtain rfl := hinst
  rcases hevent with rfl | rfl <;> rfl

theorem handleEvent_ignored (hinst : data.fsmInst = .at q)
    (hq : q = .inactive ∧ event ≠ .request ∨ q = .abortPending ∧ (event = .abortActive ∨ event = .abortAll)) :
    hwScanFsmHandleEvent dwellOnHomeMs env data event = some data := by
  obtain ⟨inst, active, pending, abortAll, interfaceAdded, datapathPaused, completed⟩ := data
  obtain rfl := hinst
  rcases hq with ⟨rfl, hevent⟩ | ⟨rfl, rfl | rfl⟩
  · cases event <;> first | exact absurd rfl hevent | rfl
  · rfl
  · rfl

/-! ## Steps -/

/-- What holds between two events. -/
structure ScanWf (data : UmacScanData R) : Prop where
  inst : data.fsmInst = .at data.fsmInst.currentState
  active : data.fsmInst.currentState = .inactive ↔ data.activeScanReq = none
  abort : data.abortAll = true → data.fsmInst.currentState = .abortPending

/-- The scan starts, or ends at once. -/
def startScan (dwellOnHomeMs : R → U32) (env : StartEnv) (req : R) (data : UmacScanData R) :
    UmacScanData R :=
  if env.interfaceOk && env.startOk then beginScan dwellOnHomeMs req data
  else endScan (hwScanFsmScanAborted data)

/-- What a step can do. -/
inductive ScanMove [DecidableEq R] (dwellOnHomeMs : R → U32) (data : UmacScanData R) :
    ScanEvent R × StartEnv → UmacScanData R → Prop where
  | start (req : R) (env : StartEnv) (idle : data.fsmInst.currentState = .inactive) :
      ScanMove dwellOnHomeMs data (.request req, env)
        (startScan dwellOnHomeMs env req { data with activeScanReq := some req })
  | queue (req : R) (env : StartEnv) (busy : data.fsmInst.currentState ≠ .inactive)
      (free : data.pendingScanReq = none) :
      ScanMove dwellOnHomeMs data (.request req, env) { data with pendingScanReq := some req }
  | refuse (req : R) (env : StartEnv) (busy : data.fsmInst.currentState ≠ .inactive) :
      ScanMove dwellOnHomeMs data (.request req, env) (complete data (some req) .terminated)
  | askAbort (scanReq : Option R) (env : StartEnv) (event : HwScanFsmEvent)
      (busy : data.fsmInst.currentState = .inProgress) :
      ScanMove dwellOnHomeMs data (.abort scanReq, env)
        { hwScanFsmReqAbort event data with fsmInst := .at .abortPending }
  | cancel (req : R) (env : StartEnv) (waiting : data.pendingScanReq = some req) :
      ScanMove dwellOnHomeMs data (.abort (some req), env)
        (complete { data with pendingScanReq := none } (some req) .terminated)
  | ignoreAbort (scanReq : Option R) (env : StartEnv) :
      ScanMove dwellOnHomeMs data (.abort scanReq, env) data
  | ignoreDone (state : MmwlanScanState) (env : StartEnv)
      (idle : data.fsmInst.currentState = .inactive) :
      ScanMove dwellOnHomeMs data (.hwScanDone state, env) data
  | ignoreRestart (env : StartEnv) (idle : data.fsmInst.currentState = .inactive) :
      ScanMove dwellOnHomeMs data (.hwRestarted, env) data
  | aborted (env : StartEnv) (busy : data.fsmInst.currentState ≠ .inactive) :
      ScanMove dwellOnHomeMs data (.hwScanDone .terminated, env)
        (endScan (hwScanFsmScanAborted data))
  | restarted (env : StartEnv) (busy : data.fsmInst.currentState ≠ .inactive) :
      ScanMove dwellOnHomeMs data (.hwRestarted, env) (endScan (hwScanFsmScanAborted data))
  | last (env : StartEnv) (busy : data.fsmInst.currentState ≠ .inactive)
      (none : (hwScanFsmScanDone data).activeScanReq = none) :
      ScanMove dwellOnHomeMs data (.hwScanDone .successful, env)
        (endScan (hwScanFsmScanDone data))
  | next (req : R) (env : StartEnv) (busy : data.fsmInst.currentState ≠ .inactive)
      (some : (hwScanFsmScanDone data).activeScanReq = some req) :
      ScanMove dwellOnHomeMs data (.hwScanDone .successful, env)
        (startScan dwellOnHomeMs env req (hwScanFsmScanDone data))

variable {data data' : UmacScanData R}

theorem handleEvent_abortAny [DecidableEq R] {scanReq : Option R}
    (hd : ScanWf data) (hevent : event = .abortActive ∨ event = .abortAll)
    (h : hwScanFsmHandleEvent dwellOnHomeMs env data event = some data') :
    ScanMove dwellOnHomeMs data (.abort scanReq, env) data' := by
  cases hq : data.fsmInst.currentState with
  | inProgress =>
    rw [handleEvent_reqAbort (hd.inst.trans (congrArg _ hq)) hevent] at h
    cases h
    exact .askAbort scanReq env event hq
  | inactive =>
    have hne : event ≠ .request := by rcases hevent with rfl | rfl <;> decide
    rw [handleEvent_ignored (hd.inst.trans (congrArg _ hq)) (Or.inl ⟨rfl, hne⟩)] at h
    cases h
    exact .ignoreAbort scanReq env
  | abortPending =>
    rw [handleEvent_ignored (hd.inst.trans (congrArg _ hq)) (Or.inr ⟨rfl, hevent⟩)] at h
    cases h
    exact .ignoreAbort scanReq env

variable {event : ScanEvent R × StartEnv}

theorem scanStep_move [DecidableEq R] (hd : ScanWf data)
    (h : scanStep dwellOnHomeMs data event = some data') :
    ScanMove dwellOnHomeMs data event data' := by
  obtain ⟨event, env⟩ := event
  cases event with
  | request req =>
    change umacReqScanEvtHandler dwellOnHomeMs env data req = some data' at h
    unfold umacReqScanEvtHandler at h
    by_cases hactive : data.activeScanReq = none
    · have hidle := hd.active.mpr hactive
      have hstart := @handleEvent_request R dwellOnHomeMs env
        { data with activeScanReq := some req } req (hd.inst.trans (congrArg _ hidle)) rfl
      rw [hactive, Option.isNone_none, if_pos rfl, hstart] at h
      cases h
      exact .start req env hidle
    have hbusy : data.fsmInst.currentState ≠ .inactive := fun hidle =>
      hactive (hd.active.mp hidle)
    rw [if_neg (by simpa using hactive)] at h
    by_cases hpending : data.pendingScanReq = none
    · rw [hpending, Option.isNone_none, if_pos rfl] at h
      cases h
      exact .queue req env hbusy hpending
    · rw [if_neg (by simpa using hpending)] at h
      cases h
      exact .refuse req env hbusy
  | abort scanReq =>
    cases scanReq with
    | none => exact handleEvent_abortAny hd (Or.inr rfl) h
    | some req =>
      change umacScanAbort dwellOnHomeMs env data (some req) = some data' at h
      unfold umacScanAbort at h
      dsimp only at h
      split at h
      · exact handleEvent_abortAny hd (Or.inl rfl) h
      split at h
      · next hwaiting =>
          cases h
          exact .cancel req env hwaiting
      · cases h
  | hwScanDone state =>
    by_cases hidle : data.fsmInst.currentState = .inactive
    · have hsame : some data = some data' := by
        rw [← h]
        cases state <;>
          exact (handleEvent_ignored (hd.inst.trans (congrArg _ hidle))
            (Or.inl ⟨rfl, by decide⟩)).symm
      cases hsame
      exact .ignoreDone state env hidle
    cases state with
    | terminated =>
      change hwScanFsmHandleEvent dwellOnHomeMs env data .abort = some data' at h
      rw [handleEvent_abort hd.inst hidle] at h
      cases h
      exact .aborted env hidle
    | successful =>
      change hwScanFsmHandleEvent dwellOnHomeMs env data .done = some data' at h
      rw [handleEvent_done hd.inst hidle] at h
      cases h
      cases hactive : (hwScanFsmScanDone data).activeScanReq with
      | none => exact .last env hidle hactive
      | some req => exact .next req env hidle hactive
  | hwRestarted =>
    change umacScanHandleHwRestarted dwellOnHomeMs env data = some data' at h
    unfold umacScanHandleHwRestarted at h
    by_cases hidle : data.fsmInst.currentState = .inactive
    · rw [hd.active.mp hidle, Option.isSome_none, if_neg Bool.false_ne_true] at h
      cases h
      exact .ignoreRestart env hidle
    have hactive : data.activeScanReq.isSome = true := by
      rw [Option.isSome_iff_ne_none]
      exact fun hnone => hidle (hd.active.mpr hnone)
    rw [if_pos hactive] at h
    change hwScanFsmHandleEvent dwellOnHomeMs env data .abort = some data' at h
    rw [handleEvent_abort hd.inst hidle] at h
    cases h
    exact .restarted env hidle

/-! ## Every request is held or completed -/

/-- The requests that are held. -/
def held (data : UmacScanData R) : List R :=
  data.activeScanReq.toList ++ data.pendingScanReq.toList

/-- The requests that are held, and those whose callback was called, once for each call. -/
def accounted (data : UmacScanData R) : List R := held data ++ data.completed.map Prod.fst

/-- The requests of an event. -/
def newRequests : ScanEvent R × StartEnv → List R
  | (.request req, _) => [req]
  | _ => []

theorem scanAborted_accounted (data : UmacScanData R) :
    (accounted (hwScanFsmScanAborted data)).Perm (accounted data) := by
  obtain ⟨inst, active, pending, abortAll, interfaceAdded, datapathPaused, completed⟩ := data
  cases abortAll <;> cases active <;> cases pending <;>
    first | exact .refl _ | exact .swap _ _ _

theorem scanDone_accounted (data : UmacScanData R) :
    (accounted (hwScanFsmScanDone data)).Perm (accounted data) := by
  obtain ⟨inst, active, pending, abortAll, interfaceAdded, datapathPaused, completed⟩ := data
  cases abortAll <;> cases active <;> cases pending <;>
    first | exact .refl _ | exact .swap _ _ _

theorem startScan_accounted (env : StartEnv) (req : R) (data : UmacScanData R) :
    (accounted (startScan dwellOnHomeMs env req data)).Perm (accounted data) := by
  unfold startScan
  split
  · exact .refl _
  · exact scanAborted_accounted data

theorem scanMove_accounted [DecidableEq R] (hd : ScanWf data)
    (h : ScanMove dwellOnHomeMs data event data') :
    (accounted data').Perm (newRequests event ++ accounted data) := by
  cases h with
  | start req env idle =>
    refine (startScan_accounted env req _).trans ?_
    unfold accounted held
    rw [hd.active.mp idle]
    exact .refl _
  | queue req env busy free =>
    unfold accounted held
    rw [free]
    cases data.activeScanReq with
    | none => exact .refl _
    | some active => exact .swap _ _ _
  | refuse req env busy => exact List.perm_middle
  | askAbort scanReq env event busy | ignoreAbort scanReq env | ignoreDone state env idle
  | ignoreRestart env idle =>
    exact .refl _
  | cancel req env waiting =>
    unfold accounted held
    rw [waiting]
    cases hactive : data.activeScanReq with
    | none | some active => exact .refl _
  | aborted env busy | restarted env busy => exact scanAborted_accounted data
  | last env busy none => exact scanDone_accounted data
  | next req env busy some =>
    exact (startScan_accounted env req _).trans (scanDone_accounted data)

/-! ## Nothing is left behind -/

theorem umacScanInit_wf : ScanWf (umacScanInit R) :=
  ⟨rfl, iff_of_true rfl rfl, fun h => (by cases h)⟩

theorem scanAborted_active (data : UmacScanData R) :
    (hwScanFsmScanAborted data).activeScanReq = none ∧ (hwScanFsmScanAborted data).abortAll = false
    ∧ (hwScanFsmScanAborted data).pendingScanReq
      = if data.abortAll then none else data.pendingScanReq := by
  obtain ⟨inst, active, pending, abortAll, interfaceAdded, datapathPaused, completed⟩ := data
  cases abortAll <;> cases active <;> cases pending <;> exact ⟨rfl, rfl, rfl⟩

theorem scanDone_pending (data : UmacScanData R) :
    (hwScanFsmScanDone data).abortAll = false ∧ (hwScanFsmScanDone data).pendingScanReq = none := by
  obtain ⟨inst, active, pending, abortAll, interfaceAdded, datapathPaused, completed⟩ := data
  cases abortAll <;> cases active <;> cases pending <;> exact ⟨rfl, rfl⟩

theorem endScan_wf (hactive : data.activeScanReq = none)
    (habort : data.abortAll = false) : ScanWf (endScan data) := by
  refine ⟨rfl, iff_of_true rfl hactive, fun h => ?_⟩
  change data.abortAll = true at h
  rw [habort] at h
  cases h

theorem startScan_wf {env : StartEnv} {req : R}
    (hactive : data.activeScanReq = some req) (habort : data.abortAll = false) :
    ScanWf (startScan dwellOnHomeMs env req data) := by
  unfold startScan
  split
  · refine ⟨rfl, iff_of_false (fun h => (by cases h)) (fun h => ?_), fun h => ?_⟩
    · change data.activeScanReq = none at h
      rw [hactive] at h
      cases h
    · change data.abortAll = true at h
      rw [habort] at h
      cases h
  · exact endScan_wf (scanAborted_active data).1 (scanAborted_active data).2.1

theorem scanMove_wf [DecidableEq R] (hd : ScanWf data)
    (h : ScanMove dwellOnHomeMs data event data') : ScanWf data' := by
  have hcalm : data.fsmInst.currentState = .inactive → data.abortAll = false := by
    intro hidle
    by_contra habort
    have hpending := hd.abort (by simpa using habort)
    rw [hidle] at hpending
    cases hpending
  cases h with
  | start req env idle => exact startScan_wf rfl (hcalm idle)
  | queue req env busy free | refuse req env busy | cancel req env waiting =>
    exact ⟨hd.inst, hd.active, hd.abort⟩
  | askAbort scanReq env event busy =>
    refine ⟨rfl, iff_of_false (fun h => (by cases h)) (fun h => ?_), fun _ => rfl⟩
    have hidle := hd.active.mpr h
    rw [busy] at hidle
    cases hidle
  | ignoreAbort scanReq env | ignoreDone state env idle | ignoreRestart env idle => exact hd
  | aborted env busy | restarted env busy =>
    exact endScan_wf (scanAborted_active data).1 (scanAborted_active data).2.1
  | last env busy none => exact endScan_wf none (scanDone_pending data).1
  | next req env busy some => exact startScan_wf some (scanDone_pending data).1

/-- In the state INACTIVE no request is held. -/
def NoneStranded (data : UmacScanData R) : Prop :=
  data.fsmInst.currentState = .inactive →
    data.activeScanReq = none ∧ data.pendingScanReq = none

/-- A scan that is aborted, by the chip or by a restart, leaves no request behind: none is
pending, or all are aborted. -/
def AbortsAll (data : UmacScanData R) (event : ScanEvent R × StartEnv) : Prop :=
  match event.1 with
  | .hwScanDone .terminated | .hwRestarted =>
    data.fsmInst.currentState ≠ .inactive →
      data.abortAll = true ∨ data.pendingScanReq = none
  | _ => True

theorem startScan_noneStranded {env : StartEnv} {req : R} (hpending : data.pendingScanReq = none) :
    NoneStranded (startScan dwellOnHomeMs env req data) := by
  unfold startScan
  split
  · exact fun h => (by cases h)
  obtain ⟨hactive, -, hkept⟩ := scanAborted_active data
  refine fun _ => ⟨hactive, ?_⟩
  show (hwScanFsmScanAborted data).pendingScanReq = none
  rw [hkept, hpending, ite_self]

theorem endAborted_noneStranded_iff (data : UmacScanData R) :
    NoneStranded (endScan (hwScanFsmScanAborted data))
      ↔ data.abortAll = true ∨ data.pendingScanReq = none := by
  obtain ⟨hactive, -, hkept⟩ := scanAborted_active data
  have hpending : (endScan (hwScanFsmScanAborted data)).pendingScanReq
      = if data.abortAll then none else data.pendingScanReq := hkept
  have hiff : NoneStranded (endScan (hwScanFsmScanAborted data))
      ↔ (endScan (hwScanFsmScanAborted data)).pendingScanReq = none :=
    ⟨fun h => (h rfl).2, fun h _ => ⟨hactive, h⟩⟩
  rw [hiff, hpending]
  cases data.abortAll <;> simp

theorem scanMove_noneStranded_iff [DecidableEq R] (hs : NoneStranded data)
    (h : ScanMove dwellOnHomeMs data event data') : NoneStranded data' ↔ AbortsAll data event := by
  cases h with
  | start req env idle => exact iff_of_true (startScan_noneStranded (hs idle).2) trivial
  | queue req env busy free | refuse req env busy =>
    exact iff_of_true (fun h => absurd h busy) trivial
  | askAbort scanReq env event busy => exact iff_of_true (fun h => (by cases h)) trivial
  | cancel req env waiting =>
    refine iff_of_true (fun h => ?_) trivial
    have hpending := (hs h).2
    rw [waiting] at hpending
    cases hpending
  | ignoreAbort scanReq env => exact iff_of_true hs trivial
  | ignoreDone state env idle =>
    refine iff_of_true hs ?_
    cases state with
    | successful => exact trivial
    | terminated => exact fun busy => absurd idle busy
  | ignoreRestart env idle => exact iff_of_true hs fun busy => absurd idle busy
  | aborted env busy | restarted env busy =>
    rw [endAborted_noneStranded_iff]
    exact ⟨fun h _ => h, fun h => h busy⟩
  | last env busy none =>
    exact iff_of_true (fun _ => ⟨none, (scanDone_pending data).2⟩) trivial
  | next req env busy some =>
    exact iff_of_true (startScan_noneStranded (scanDone_pending data).2) trivial

/-! ## Runs -/

/-- No callback is called twice, and none of a request that is still held. -/
def CompletedOnce (data : UmacScanData R) : Prop := (accounted data).Nodup

-- A run can be evaluated.

instance [DecidableEq R] : DecidablePred (CompletedOnce (R := R)) := fun data =>
  inferInstanceAs (Decidable (accounted data).Nodup)

instance [DecidableEq R] : DecidablePred (NoneStranded (R := R)) := fun data =>
  inferInstanceAs (Decidable (data.fsmInst.currentState = .inactive →
    data.activeScanReq = none ∧ data.pendingScanReq = none))

theorem runFrom_accounted [DecidableEq R] {es : List (ScanEvent R × StartEnv)} (hd : ScanWf data)
    (h : runFrom (scanStep dwellOnHomeMs) data es = some data') :
    (accounted data').Perm (es.flatMap newRequests ++ accounted data) := by
  induction es generalizing data with
  | nil =>
    cases h
    exact .refl _
  | cons e es ih =>
    obtain ⟨mid, hstep, hrest⟩ := Option.bind_eq_some_iff.mp h
    have hmove := scanStep_move hd hstep
    refine (ih (scanMove_wf hd hmove) hrest).trans ?_
    refine (List.Perm.append_left _ (scanMove_accounted hd hmove)).trans ?_
    rw [List.flatMap_cons, ← List.append_assoc]
    exact List.perm_append_comm.append_right _

theorem throughout_completedOnce [DecidableEq R] {es : List (ScanEvent R × StartEnv)}
    (hdistinct : (es.flatMap newRequests).Nodup) :
    Throughout (scanStep dwellOnHomeMs) CompletedOnce (umacScanInit R) es := by
  refine throughout_of_inits fun part hpart data hrun => ?_
  have haccount := runFrom_accounted umacScanInit_wf (Option.mem_def.mp hrun)
  rw [show accounted (umacScanInit R) = [] from rfl, List.append_nil] at haccount
  obtain ⟨rest, rfl⟩ := (List.mem_inits _ _).mp hpart
  rw [List.flatMap_append] at hdistinct
  exact haccount.nodup_iff.mpr hdistinct.of_append_left

theorem abortsAll_of_none [DecidableEq R]
    (hd : ScanWf data) (h : scanStep dwellOnHomeMs data event = none) : AbortsAll data event := by
  obtain ⟨event, env⟩ := event
  cases event with
  | request req | abort scanReq => trivial
  | hwScanDone state =>
    cases state with
    | successful => trivial
    | terminated =>
      intro hbusy
      change hwScanFsmHandleEvent dwellOnHomeMs env data .abort = none at h
      rw [handleEvent_abort hd.inst hbusy] at h
      cases h
  | hwRestarted =>
    intro hbusy
    have hactive : data.activeScanReq.isSome = true := by
      rw [Option.isSome_iff_ne_none]
      exact fun hnone => hbusy (hd.active.mpr hnone)
    change umacScanHandleHwRestarted dwellOnHomeMs env data = none at h
    unfold umacScanHandleHwRestarted at h
    rw [if_pos hactive] at h
    change hwScanFsmHandleEvent dwellOnHomeMs env data .abort = none at h
    rw [handleEvent_abort hd.inst hbusy] at h
    cases h

/-- Over every run with distinct requests: each is completed at most once and not while it is
held, and none is held in the state INACTIVE, if and only if no aborted scan leaves a pending
request behind. -/
theorem requests_complete_iff [DecidableEq R] (dwellOnHomeMs : R → U32)
    (es : List (ScanEvent R × StartEnv)) (hdistinct : (es.flatMap newRequests).Nodup) :
    Throughout (scanStep dwellOnHomeMs) (fun data => CompletedOnce data ∧ NoneStranded data)
        (umacScanInit R) es
      ↔ Along (scanStep dwellOnHomeMs) AbortsAll (umacScanInit R) es := by
  have hstranded : Throughout (scanStep dwellOnHomeMs) NoneStranded (umacScanInit R) es
      ↔ Along (scanStep dwellOnHomeMs) AbortsAll (umacScanInit R) es := by
    refine Iff.trans (and_iff_left (along_of_forall_mem fun _ _ _ => trivial)).symm
      (throughout_and_along_iff (D := fun _ _ => True) (P := fun _ _ => True) (J := ScanWf)
        (fun data e data' hd _ h => scanMove_wf hd (scanStep_move hd h))
        (fun data e hd hs _ => ?_) (fun _ => ⟨rfl, rfl⟩) umacScanInit_wf
        (along_of_forall_mem fun _ _ _ => trivial))
    rw [true_and]
    constructor
    · intro h
      cases hstep : scanStep dwellOnHomeMs data e with
      | none => exact abortsAll_of_none hd hstep
      | some data' =>
        exact (scanMove_noneStranded_iff hs (scanStep_move hd hstep)).mp (h data' hstep)
    · intro h data' hstep
      exact (scanMove_noneStranded_iff hs (scanStep_move hd hstep)).mpr h
  rw [← hstranded]
  exact ⟨fun h => h.mono fun _ hd => hd.2, fun h => (throughout_completedOnce hdistinct).and h⟩

/-- Two requests, and a third that finds no room: every callback is called once. -/
theorem requests_complete_iff_all :
    Along (scanStep fun _ : Nat => 0) AbortsAll (umacScanInit Nat)
        [(.request 1, ⟨true, true⟩), (.request 2, ⟨true, true⟩), (.request 3, ⟨true, true⟩),
          (.hwScanDone .successful, ⟨true, true⟩), (.hwScanDone .terminated, ⟨true, true⟩)]
      ∧ Throughout (scanStep fun _ : Nat => 0)
        (fun data => CompletedOnce data ∧ NoneStranded data) (umacScanInit Nat)
        [(.request 1, ⟨true, true⟩), (.request 2, ⟨true, true⟩), (.request 3, ⟨true, true⟩),
          (.hwScanDone .successful, ⟨true, true⟩), (.hwScanDone .terminated, ⟨true, true⟩)] := by
  have hrun := requests_complete_iff (fun _ : Nat => 0)
    [(.request 1, ⟨true, true⟩), (.request 2, ⟨true, true⟩), (.request 3, ⟨true, true⟩),
      (.hwScanDone .successful, ⟨true, true⟩), (.hwScanDone .terminated, ⟨true, true⟩)]
    (by decide)
  exact ⟨hrun.mp (by decide), by decide⟩

/-- The active request is aborted while another one is pending; and the same when the abort of
the active request is followed by an abort of all. -/
theorem request_stranded :
    ¬ Throughout (scanStep fun _ : Nat => 0)
        (fun data => CompletedOnce data ∧ NoneStranded data) (umacScanInit Nat)
        [(.request 1, ⟨true, true⟩), (.request 2, ⟨true, true⟩), (.abort (some 1), ⟨true, true⟩),
          (.hwScanDone .terminated, ⟨true, true⟩)]
      ∧ ¬ Throughout (scanStep fun _ : Nat => 0)
        (fun data => CompletedOnce data ∧ NoneStranded data) (umacScanInit Nat)
        [(.request 1, ⟨true, true⟩), (.request 2, ⟨true, true⟩), (.abort (some 1), ⟨true, true⟩),
          (.abort none, ⟨true, true⟩), (.hwScanDone .terminated, ⟨true, true⟩)] := by
  decide

end Requests

end MmIotEsp32.Umac.Scan
