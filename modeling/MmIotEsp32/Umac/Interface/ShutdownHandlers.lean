/-
  MmIotEsp32.Umac.Interface.ShutdownHandlers

  What the handlers of the event loop do to the interfaces.
-/
import MmIotEsp32.Umac.Interface.Shutdown

namespace MmIotEsp32.Umac.Interface

open Lib Scan

section Scans

variable {R : Type} {dwellOnHomeMs : R → U32} {env : HandlerEnv}

/-! ## The machine of the scans -/

/-- The scan ends, and its interface is removed. -/
def endScanIn (env : HandlerEnv) (s : UmacRoot R) (data : UmacScanData R) :
    Option (UmacRoot R) :=
  (umacInterfaceRemove env.driver s.shutdownInProgress s.interface .scan).map fun interface =>
    { s with interface := interface, scan := endScan data }

/-- A scan that is started: its interface is added, and the chip is told. -/
def startScanIn (dwellOnHomeMs : R → U32) (env : HandlerEnv) (req : R) (s : UmacRoot R)
    (data : UmacScanData R) : Option (UmacRoot R) :=
  let (status, interface) := umacInterfaceAdd env.driver s.interface .scan
  let s := { s with interface := interface }
  if status = .success ∧ env.scanStartOk then
    some { s with scan := beginScan dwellOnHomeMs req data }
  else endScanIn env s (hwScanFsmScanAborted data)

theorem handleEvents_completeNoPending {s : UmacRoot R} (fuel : Nat)
    (hinst : s.scan.fsmInst = ⟨.inProgress, true, none⟩) :
    ((scanFsm dwellOnHomeMs env).handleEvents (fuel + 1) s .completeNoPending).map
        (fun s => { s with scan := { s.scan with
          fsmInst := { s.scan.fsmInst with inEventHandler := false } } })
      = endScanIn env s s.scan := by
  obtain ⟨interface, mode, ⟨inst, active, pending, abortAll, interfaceAdded, datapathPaused,
    completed⟩, inProgress⟩ := s
  obtain rfl := hinst
  show (Option.bind (inactiveEntry env .inProgress _) _).map _ = _
  unfold inactiveEntry endScanIn
  rw [if_pos (by decide)]
  show (Option.bind (Option.map _ (umacInterfaceRemove env.driver inProgress interface .scan))
    _).map _ = _
  cases umacInterfaceRemove env.driver inProgress interface .scan <;> rfl

theorem handleEvents_abort {s : UmacRoot R} {q : HwScanFsmState} (fuel : Nat)
    (hinst : s.scan.fsmInst = ⟨q, true, none⟩) (hq : q ≠ .inactive) :
    ((scanFsm dwellOnHomeMs env).handleEvents (fuel + 2) s .abort).map
        (fun s => { s with scan := { s.scan with
          fsmInst := { s.scan.fsmInst with inEventHandler := false } } })
      = endScanIn env s (hwScanFsmScanAborted s.scan) := by
  have hend := fun (data : UmacScanData R) (hinst : data.fsmInst = ⟨.inProgress, true, none⟩) =>
    @handleEvents_completeNoPending R dwellOnHomeMs env { s with scan := data } fuel hinst
  obtain ⟨interface, mode, ⟨inst, active, pending, abortAll, interfaceAdded, datapathPaused,
    completed⟩, inProgress⟩ := s
  obtain rfl := hinst
  cases q with
  | inactive => exact absurd rfl hq
  | inProgress | abortPending =>
    cases abortAll <;> cases active <;> cases pending <;> exact hend _ rfl

theorem inProgressEntry_request {s : UmacRoot R} {req : R}
    (hactive : s.scan.activeScanReq = some req) (hpending : s.scan.fsmInst.pendingEvent = none) :
    ∃ interfaceAdded datapathPaused,
      inProgressEntry dwellOnHomeMs env s
        = let added := umacInterfaceAdd env.driver s.interface .scan
          if added.1 = .success ∧ env.scanStartOk = true then
            some { s with
              interface := added.2
              scan := { s.scan with
                interfaceAdded := true
                datapathPaused := s.scan.datapathPaused || dwellOnHomeMs req = 0 } }
          else
            some { s with
              interface := added.2
              scan := { s.scan with
                fsmInst := { s.scan.fsmInst with pendingEvent := some .abort }
                interfaceAdded := interfaceAdded
                datapathPaused := datapathPaused } } := by
  obtain ⟨interface, mode, ⟨⟨q, inHandler, kept⟩, active, pending, abortAll, interfaceAdded,
    datapathPaused, completed⟩, inProgress⟩ := s
  obtain rfl := hactive
  obtain rfl := hpending
  unfold inProgressEntry
  dsimp only
  by_cases hdwell : dwellOnHomeMs req = 0
  · refine ⟨(umacInterfaceAdd env.driver interface .scan).1 = .success || interfaceAdded, true, ?_⟩
    simp only [if_pos hdwell, decide_eq_true hdwell, Bool.or_true]
    generalize umacInterfaceAdd env.driver interface .scan = added
    obtain ⟨status, interface'⟩ := added
    cases status <;> cases env.scanStartOk <;> rfl
  refine ⟨(umacInterfaceAdd env.driver interface .scan).1 = .success || interfaceAdded,
    datapathPaused, ?_⟩
  simp only [if_neg hdwell, decide_eq_false hdwell, Bool.or_false]
  generalize umacInterfaceAdd env.driver interface .scan = added
  obtain ⟨status, interface'⟩ := added
  cases status <;> cases env.scanStartOk <;> rfl

theorem handleEvents_startScan {s s' : UmacRoot R} {req : R} {event : HwScanFsmEvent}
    (hinst : s'.scan.fsmInst = ⟨.inProgress, true, none⟩)
    (hactive : s'.scan.activeScanReq = some req)
    (hentry : (scanFsm dwellOnHomeMs env).handleEventInternal s event
      = inProgressEntry dwellOnHomeMs env s') :
    ((scanFsm dwellOnHomeMs env).handleEvents hwScanFuel s event).map
        (fun s => { s with scan := { s.scan with
          fsmInst := { s.scan.fsmInst with inEventHandler := false } } })
      = startScanIn dwellOnHomeMs env req s' s'.scan := by
  obtain ⟨interfaceAdded, datapathPaused, hstart⟩ :=
    @inProgressEntry_request R dwellOnHomeMs env s' req hactive (by rw [hinst])
  rw [hstart] at hentry
  obtain ⟨interface, mode, ⟨inst, active, pending, abortAll, added, paused, completed⟩,
    inProgress⟩ := s'
  obtain rfl := hinst
  obtain rfl := hactive
  unfold startScanIn
  dsimp only at hentry ⊢
  by_cases hok : (umacInterfaceAdd env.driver interface .scan).1 = .success
    ∧ env.scanStartOk = true
  · rw [if_pos hok] at hentry ⊢
    rw [show hwScanFuel = 2 + 1 from rfl, Fsm.handleEvents_of_done 2 hentry rfl]
    rfl
  rw [if_neg hok] at hentry ⊢
  rw [show hwScanFuel = 2 + 1 from rfl, Fsm.handleEvents_of_kept 2 hentry rfl]
  refine Eq.trans (handleEvents_abort 0 rfl (by nofun)) ?_
  cases abortAll <;> cases pending <;> rfl

variable {s : UmacRoot R} {q : HwScanFsmState}

theorem scanFsmHandleEvent_abort (hinst : s.scan.fsmInst = .at q) (hq : q ≠ .inactive) :
    scanFsmHandleEvent dwellOnHomeMs env s .abort
      = endScanIn env s (hwScanFsmScanAborted s.scan) := by
  obtain ⟨interface, mode, ⟨inst, active, pending, abortAll, interfaceAdded, datapathPaused,
    completed⟩, inProgress⟩ := s
  obtain rfl := hinst
  have hend := @handleEvents_abort R dwellOnHomeMs env
    ⟨interface, mode, ⟨⟨q, true, none⟩, active, pending, abortAll, interfaceAdded, datapathPaused,
      completed⟩, inProgress⟩ q 1 rfl hq
  refine Eq.trans hend ?_
  cases abortAll <;> cases active <;> cases pending <;> rfl

theorem scanFsmHandleEvent_request {s : UmacRoot R} {req : R}
    (hinst : s.scan.fsmInst = .at .inactive) (hactive : s.scan.activeScanReq = some req) :
    scanFsmHandleEvent dwellOnHomeMs env s .request
      = startScanIn dwellOnHomeMs env req s s.scan := by
  obtain ⟨interface, mode, ⟨inst, active, pending, abortAll, interfaceAdded, datapathPaused,
    completed⟩, inProgress⟩ := s
  obtain rfl := hinst
  have hstart := @handleEvents_startScan R dwellOnHomeMs env
    ⟨interface, mode, ⟨⟨.inactive, true, none⟩, active, pending, abortAll, interfaceAdded,
      datapathPaused, completed⟩, inProgress⟩
    ⟨interface, mode, ⟨⟨.inProgress, true, none⟩, active, pending, abortAll, interfaceAdded,
      datapathPaused, completed⟩, inProgress⟩ req .request rfl hactive rfl
  refine Eq.trans hstart ?_
  cases abortAll <;> cases active <;> cases pending <;> rfl

theorem scanFsmHandleEvent_done (hinst : s.scan.fsmInst = .at q) (hq : q ≠ .inactive) :
    scanFsmHandleEvent dwellOnHomeMs env s .done
      = match (hwScanFsmScanDone s.scan).activeScanReq with
        | none => endScanIn env s (hwScanFsmScanDone s.scan)
        | some req => startScanIn dwellOnHomeMs env req s (hwScanFsmScanDone s.scan) := by
  obtain ⟨interface, mode, ⟨inst, active, pending, abortAll, interfaceAdded, datapathPaused,
    completed⟩, inProgress⟩ := s
  obtain rfl := hinst
  cases hactive : (hwScanFsmScanDone ⟨.at q, active, pending, abortAll, interfaceAdded,
      datapathPaused, completed⟩).activeScanReq with
  | none =>
    have hend := @handleEvents_completeNoPending R dwellOnHomeMs env
      ⟨interface, mode, { hwScanFsmScanDone ⟨.at q, active, pending, abortAll, interfaceAdded,
        datapathPaused, completed⟩ with fsmInst := ⟨.inProgress, true, none⟩ }, inProgress⟩ 1 rfl
    cases q with
    | inactive => exact absurd rfl hq
    | inProgress | abortPending =>
      cases abortAll <;> cases active <;> cases pending <;> cases hactive <;> exact hend
  | some req =>
    have hstart := @handleEvents_startScan R dwellOnHomeMs env
      ⟨interface, mode, ⟨⟨q, true, none⟩, active, pending, abortAll, interfaceAdded,
        datapathPaused, completed⟩, inProgress⟩
      ⟨interface, mode, { hwScanFsmScanDone ⟨.at q, active, pending, abortAll, interfaceAdded,
        datapathPaused, completed⟩ with fsmInst := ⟨.inProgress, true, none⟩ }, inProgress⟩
      req .done rfl hactive
    cases q with
    | inactive => exact absurd rfl hq
    | inProgress | abortPending =>
      cases abortAll <;> cases active <;> cases pending <;> cases hactive <;>
        exact hstart rfl

theorem scanFsmHandleEvent_reqAbort {event : HwScanFsmEvent}
    (hinst : s.scan.fsmInst = .at .inProgress) (hevent : event = .abortActive ∨ event = .abortAll) :
    scanFsmHandleEvent dwellOnHomeMs env s event = some { s with
          scan := { hwScanFsmReqAbort event s.scan with fsmInst := .at .abortPending } } := by
  obtain ⟨interface, mode, ⟨inst, active, pending, abortAll, interfaceAdded, datapathPaused,
    completed⟩, inProgress⟩ := s
  obtain rfl := hinst
  rcases hevent with rfl | rfl <;> rfl

theorem scanFsmHandleEvent_ignored {event : HwScanFsmEvent}
    (hinst : s.scan.fsmInst = .at q) (hq : q = .inactive ∧ event ≠ .request
      ∨ q = .abortPending ∧ (event = .abortActive ∨ event = .abortAll)) :
    scanFsmHandleEvent dwellOnHomeMs env s event = some s := by
  obtain ⟨interface, mode, ⟨inst, active, pending, abortAll, interfaceAdded, datapathPaused,
    completed⟩, inProgress⟩ := s
  obtain rfl := hinst
  rcases hq with ⟨rfl, hevent⟩ | ⟨rfl, rfl | rfl⟩
  · cases event <;> first | exact absurd rfl hevent | rfl
  · rfl
  · rfl

/-! ## What becomes of the scans -/

/-- Between two events a scan that is not inactive has its interface. -/
structure RootWf (s : UmacRoot R) : Prop where
  scan : ScanWf s.scan
  busy : s.scan.fsmInst.currentState ≠ .inactive → .scan ∈ s.interface.activeInterfaceTypes

/-- What the machine of the scan module meets. -/
def startEnv (env : HandlerEnv) (s : UmacRoot R) : StartEnv :=
  ⟨(umacInterfaceAdd env.driver s.interface .scan).1 = .success, env.scanStartOk⟩

variable {s s' : UmacRoot R}

theorem endScanIn_scan {data : UmacScanData R}
    (h : endScanIn env s data = some s') : s'.scan = endScan data := by
  obtain ⟨interface, -, rfl⟩ := Option.map_eq_some_iff.mp h
  rfl

theorem startScanIn_scan {req : R} {data : UmacScanData R}
    (h : startScanIn dwellOnHomeMs env req s data = some s') :
    s'.scan = if (startEnv env s).interfaceOk && (startEnv env s).startOk then
        beginScan dwellOnHomeMs req data else endScan (hwScanFsmScanAborted data) := by
  unfold startScanIn at h
  unfold startEnv
  dsimp only at h
  split at h
  · next hok =>
      cases h
      rw [if_pos (by simpa using hok)]
  · next hfail =>
      rw [endScanIn_scan h, if_neg (by simpa using hfail)]

theorem scanFsmHandleEvent_scan {s s' : UmacRoot R} {event : HwScanFsmEvent}
    (hinst : s.scan.fsmInst = .at s.scan.fsmInst.currentState)
    (hrequest : event = .request → s.scan.fsmInst.currentState = .inactive
      ∧ s.scan.activeScanReq ≠ none)
    (hraised : event ≠ .completeNoPending)
    (h : scanFsmHandleEvent dwellOnHomeMs env s event = some s') :
    hwScanFsmHandleEvent dwellOnHomeMs (startEnv env s) s.scan event = some s'.scan := by
  have hignored : ∀ {q : HwScanFsmState}, s.scan.fsmInst = .at q →
      (q = .inactive ∧ event ≠ .request
        ∨ q = .abortPending ∧ (event = .abortActive ∨ event = .abortAll)) →
      hwScanFsmHandleEvent dwellOnHomeMs (startEnv env s) s.scan event = some s'.scan := by
    intro q hinst hq
    rw [scanFsmHandleEvent_ignored hinst hq] at h
    cases h
    exact handleEvent_ignored hinst hq
  cases event with
  | completeNoPending => exact absurd rfl hraised
  | request =>
    obtain ⟨hidle, hactive⟩ := hrequest rfl
    obtain ⟨req, hreq⟩ := Option.ne_none_iff_exists'.mp hactive
    rw [hidle] at hinst
    rw [scanFsmHandleEvent_request hinst hreq] at h
    rw [handleEvent_request hinst hreq, startScanIn_scan h]
  | done =>
    cases hq : s.scan.fsmInst.currentState with
    | inactive => exact hignored (hinst.trans (congrArg _ hq)) (Or.inl ⟨rfl, nofun⟩)
    | _ =>
      rw [hq] at hinst
      rw [scanFsmHandleEvent_done hinst nofun] at h
      rw [handleEvent_done hinst nofun]
      cases hactive : (hwScanFsmScanDone s.scan).activeScanReq with
      | none =>
        rw [hactive] at h
        rw [endScanIn_scan h]
      | some req =>
        rw [hactive] at h
        rw [startScanIn_scan h]
  | abort =>
    cases hq : s.scan.fsmInst.currentState with
    | inactive => exact hignored (hinst.trans (congrArg _ hq)) (Or.inl ⟨rfl, nofun⟩)
    | _ =>
      rw [hq] at hinst
      rw [scanFsmHandleEvent_abort hinst nofun] at h
      rw [handleEvent_abort hinst nofun, endScanIn_scan h]
  | abortActive | abortAll =>
    cases hq : s.scan.fsmInst.currentState with
    | inactive => exact hignored (hinst.trans (congrArg _ hq)) (Or.inl ⟨rfl, nofun⟩)
    | abortPending => exact hignored (hinst.trans (congrArg _ hq)) (Or.inr ⟨rfl, by simp⟩)
    | inProgress =>
      rw [hq] at hinst
      rw [scanFsmHandleEvent_reqAbort hinst (by simp)] at h
      cases h
      exact handleEvent_reqAbort hinst (by simp)

/-! ## What becomes of the interfaces -/

/-- A handler calls the callback in order, and then leaves no interface. -/
structure InterfaceSound (data data' : UmacInterfaceData) : Prop where
  wf : InterfaceWf data'
  called : ∀ call ∈ data'.invoked, call ∈ data.invoked ∨ data'.activeInterfaceTypes = ∅

variable {data : UmacInterfaceData}

theorem InterfaceSound.refl (hd : InterfaceWf data) : InterfaceSound data data :=
  ⟨hd, fun _ h => Or.inl h⟩

theorem umacInterfaceAdd_sound (hd : InterfaceWf data) (env : DriverEnv)
    (type : UmacInterfaceType) : InterfaceSound data (umacInterfaceAdd env data type).2 := by
  refine ⟨umacInterfaceAdd_wf hd env type, fun call hcall => Or.inl ?_⟩
  obtain ⟨-, hsame⟩ | ⟨mmdrv, hadded⟩ := umacInterfaceAdd_cases env data type
  · rwa [hsame] at hcall
  · rwa [hadded] at hcall

variable {type : UmacInterfaceType} {driver : DriverEnv}

theorem InterfaceSound.remove {data mid data' : UmacInterfaceData}
    {shutdownInProgress : Bool} (hmid : InterfaceSound data mid) (hlast : RemovesLast mid type)
    (h : umacInterfaceRemove driver shutdownInProgress mid type = some data') :
    InterfaceSound data data' := by
  refine ⟨umacInterfaceRemove_wf hmid.wf hlast h, fun call hcall => ?_⟩
  obtain hsame | hnone := umacInterfaceRemove_invoked hlast h
  · rw [hsame] at hcall
    refine (hmid.called call hcall).imp_right fun hnone => ?_
    rw [umacInterfaceRemove_active h, hnone]
    rfl
  · exact Or.inr hnone

theorem removesLast_of_add
    (h : (umacInterfaceAdd driver data type).1 ≠ .success → RemovesLast data type) :
    RemovesLast (umacInterfaceAdd driver data type).2 type := by
  obtain ⟨hfail, hsame⟩ | ⟨mmdrv, hadded⟩ := umacInterfaceAdd_cases driver data type
  · rw [hsame]
    exact h hfail
  · rw [hadded]
    exact Or.inl (Finset.mem_insert_self _ _)

theorem removesLast_of_compatible
    (hcompatible : umacInterfaceTypeIsCompatibleWithActive data type = true)
    (h : (umacInterfaceAdd driver data type).1 ≠ .success) : RemovesLast data type := by
  unfold umacInterfaceAdd at h
  rw [hcompatible] at h
  by_cases hnone : data.activeInterfaceTypes = ∅
  · exact Or.inr (Or.inl hnone)
  · rw [if_neg (by decide), if_neg hnone] at h
    exact absurd rfl h

variable {base : UmacInterfaceData}

theorem endScanIn_sound {data : UmacScanData R}
    (hbase : InterfaceSound base s.interface) (hlast : RemovesLast s.interface .scan)
    (h : endScanIn env s data = some s') : InterfaceSound base s'.interface := by
  obtain ⟨interface, hremove, rfl⟩ := Option.map_eq_some_iff.mp h
  exact hbase.remove hlast hremove

theorem startScanIn_sound {s s' : UmacRoot R} {req : R} {data : UmacScanData R}
    (hd : InterfaceWf s.interface)
    (hlast : (umacInterfaceAdd env.driver s.interface .scan).1 ≠ .success →
      RemovesLast s.interface .scan)
    (h : startScanIn dwellOnHomeMs env req s data = some s') :
    InterfaceSound s.interface s'.interface
      ∧ (s'.scan.fsmInst.currentState ≠ .inactive →
        .scan ∈ s'.interface.activeInterfaceTypes) := by
  have hadd := umacInterfaceAdd_sound hd env.driver .scan
  unfold startScanIn at h
  dsimp only at h
  split at h
  · next hok =>
      cases h
      exact ⟨hadd, fun _ => umacInterfaceAdd_mem hok.1⟩
  · refine ⟨endScanIn_sound hadd (removesLast_of_add hlast) h, fun hbusy => ?_⟩
    rw [endScanIn_scan h] at hbusy
    exact absurd rfl hbusy

/-! ## The handlers -/

/-- What a handler keeps. -/
structure HandlerSound (s s' : UmacRoot R) : Prop where
  root : RootWf s'
  interface : InterfaceSound s.interface s'.interface

section Requests

variable [DecidableEq R] {s s' : UmacRoot R}

theorem scanWf_of_step {event : ScanEvent R} (hs : RootWf s)
    (h : scanStep dwellOnHomeMs s.scan (event, startEnv env s) = some s'.scan) : ScanWf s'.scan :=
  scanMove_wf hs.scan (scanStep_move hs.scan h)

theorem requestScan_scan {req : R} (hs : RootWf s)
    (h : requestScan dwellOnHomeMs env s req = some s') :
    scanStep dwellOnHomeMs s.scan (.request req, startEnv env s) = some s'.scan := by
  show umacReqScanEvtHandler dwellOnHomeMs (startEnv env s) s.scan req = some s'.scan
  unfold requestScan at h
  unfold umacReqScanEvtHandler
  split at h
  · next hnone =>
      have hidle := hs.scan.active.mpr (Option.isNone_iff_eq_none.mp hnone)
      rw [if_pos hnone]
      exact @scanFsmHandleEvent_scan R dwellOnHomeMs env
        { s with scan := { s.scan with activeScanReq := some req } } s' .request hs.scan.inst
        (fun _ => ⟨hidle, Option.some_ne_none req⟩) HwScanFsmEvent.noConfusion h
  next hsome =>
    rw [if_neg hsome]
    split at h
    · next hpending =>
        cases h
        rw [if_pos hpending]
    · next hpending =>
        cases h
        rw [if_neg hpending]

theorem requestScan_sound {req : R} (hs : RootWf s) (hd : InterfaceWf s.interface)
    (hlast : s.scan.activeScanReq = none →
      umacInterfaceTypeIsCompatibleWithActive s.interface .scan = false →
      RemovesLast s.interface .scan)
    (h : requestScan dwellOnHomeMs env s req = some s') : HandlerSound s s' := by
  have hscan := scanWf_of_step hs (requestScan_scan hs h)
  unfold requestScan at h
  split at h
  · next hnone =>
      have hactive := Option.isNone_iff_eq_none.mp hnone
      have hinst : s.scan.fsmInst = .at .inactive :=
        hs.scan.inst.trans (congrArg _ (hs.scan.active.mpr hactive))
      have hstart := (@scanFsmHandleEvent_request R dwellOnHomeMs env
        { s with scan := { s.scan with activeScanReq := some req } } req hinst rfl).symm.trans h
      have hlast' : (umacInterfaceAdd env.driver s.interface .scan).1 ≠ .success →
          RemovesLast s.interface .scan := by
        intro hfail
        cases hcompatible : umacInterfaceTypeIsCompatibleWithActive s.interface .scan with
        | true => exact removesLast_of_compatible hcompatible hfail
        | false => exact hlast hactive hcompatible
      obtain ⟨hinterface, hbusy⟩ :=
        @startScanIn_sound R dwellOnHomeMs env
          { s with scan := { s.scan with activeScanReq := some req } } s' req _ hd hlast' hstart
      exact ⟨⟨hscan, hbusy⟩, hinterface⟩
  · split at h <;> cases h
    · exact ⟨⟨hscan, hs.busy⟩, .refl hd⟩
    · exact ⟨⟨hscan, hs.busy⟩, .refl hd⟩

omit [DecidableEq R] in
theorem scanFsmHandleEvent_asksAbort {event : HwScanFsmEvent} (hs : RootWf s)
    (hd : InterfaceWf s.interface) (hevent : event = .abortActive ∨ event = .abortAll)
    (hscan : ScanWf s'.scan) (h : scanFsmHandleEvent dwellOnHomeMs env s event = some s') :
    HandlerSound s s' ∧ s'.interface = s.interface ∧ s'.mode = s.mode := by
  cases hq : s.scan.fsmInst.currentState with
  | inProgress =>
    rw [scanFsmHandleEvent_reqAbort (hs.scan.inst.trans (congrArg _ hq)) hevent] at h
    cases h
    have hbusy := hs.busy (by rw [hq]; exact HwScanFsmState.noConfusion)
    exact ⟨⟨⟨hscan, fun _ => hbusy⟩, .refl hd⟩, rfl, rfl⟩
  | inactive =>
    have hne : event ≠ .request := by rcases hevent with rfl | rfl <;> decide
    rw [scanFsmHandleEvent_ignored (hs.scan.inst.trans (congrArg _ hq)) (Or.inl ⟨rfl, hne⟩)] at h
    cases h
    exact ⟨⟨hs, .refl hd⟩, rfl, rfl⟩
  | abortPending =>
    rw [scanFsmHandleEvent_ignored (hs.scan.inst.trans (congrArg _ hq)) (Or.inr ⟨rfl, hevent⟩)]
      at h
    cases h
    exact ⟨⟨hs, .refl hd⟩, rfl, rfl⟩

theorem abortScan_sound {scanReq : Option R} (hs : RootWf s)
    (hd : InterfaceWf s.interface) (h : abortScan dwellOnHomeMs env s scanReq = some s') :
    HandlerSound s s' ∧ s'.interface = s.interface ∧ s'.mode = s.mode := by
  have hscan : scanStep dwellOnHomeMs s.scan (.abort scanReq, startEnv env s) = some s'.scan := by
    show umacScanAbort dwellOnHomeMs (startEnv env s) s.scan scanReq = some s'.scan
    unfold abortScan at h
    unfold umacScanAbort
    cases scanReq with
    | none =>
      exact scanFsmHandleEvent_scan hs.scan.inst HwScanFsmEvent.noConfusion
        HwScanFsmEvent.noConfusion h
    | some req =>
      dsimp only at h ⊢
      split at h
      · next hactive =>
          rw [if_pos hactive]
          exact scanFsmHandleEvent_scan hs.scan.inst HwScanFsmEvent.noConfusion
            HwScanFsmEvent.noConfusion h
      next hactive =>
        rw [if_neg hactive]
        split at h
        · next hpending =>
            cases h
            rw [if_pos hpending]
        · cases h
  have hwf := scanWf_of_step hs hscan
  unfold abortScan at h
  cases scanReq with
  | none => exact scanFsmHandleEvent_asksAbort hs hd (Or.inr rfl) hwf h
  | some req =>
    dsimp only at h
    split at h
    · exact scanFsmHandleEvent_asksAbort hs hd (Or.inl rfl) hwf h
    split at h
    · cases h
      exact ⟨⟨⟨hwf, hs.busy⟩, .refl hd⟩, rfl, rfl⟩
    · cases h

theorem scanDone_sound {s s' : UmacRoot R} {state : MmwlanScanState} (hs : RootWf s)
    (hd : InterfaceWf s.interface) (h : scanDone dwellOnHomeMs env s state = some s') :
    HandlerSound s s' := by
  have hscan : scanStep dwellOnHomeMs s.scan (.hwScanDone state, startEnv env s)
      = some s'.scan := by
    cases state with
    | successful | terminated =>
      exact scanFsmHandleEvent_scan hs.scan.inst HwScanFsmEvent.noConfusion
        HwScanFsmEvent.noConfusion h
  have hwf := scanWf_of_step hs hscan
  have hinst := hs.scan.inst
  by_cases hidle : s.scan.fsmInst.currentState = .inactive
  · -- nothing is to be ended
    rw [hidle] at hinst
    have hsame : s = s' := by
      cases state with
      | successful | terminated =>
        exact Option.some.inj ((scanFsmHandleEvent_ignored hinst
          (Or.inl ⟨rfl, HwScanFsmEvent.noConfusion⟩)).symm.trans h)
    subst hsame
    exact ⟨hs, .refl hd⟩
  have hlast : RemovesLast s.interface .scan := Or.inl (hs.busy hidle)
  cases state with
  | terminated =>
    have hend := (scanFsmHandleEvent_abort hinst hidle).symm.trans h
    refine ⟨⟨hwf, fun hbusy => ?_⟩, endScanIn_sound (.refl hd) hlast hend⟩
    rw [endScanIn_scan hend] at hbusy
    exact absurd rfl hbusy
  | successful =>
    have hdone := (scanFsmHandleEvent_done hinst hidle).symm.trans h
    split at hdone
    · refine ⟨⟨hwf, fun hbusy => ?_⟩, endScanIn_sound (.refl hd) hlast hdone⟩
      rw [endScanIn_scan hdone] at hbusy
      exact absurd rfl hbusy
    · obtain ⟨hinterface, hbusy⟩ := startScanIn_sound hd (fun _ => hlast) hdone
      exact ⟨⟨hwf, hbusy⟩, hinterface⟩

end Requests

/-! ## Connections and the access point -/

theorem removeInterface_sound (hs : RootWf s) (hbase : InterfaceSound base s.interface)
    (htype : type ≠ .scan) (hlast : RemovesLast s.interface type)
    (h : removeInterface env s type = some s') : RootWf s' ∧ InterfaceSound base s'.interface := by
  obtain ⟨interface, hremove, rfl⟩ := Option.map_eq_some_iff.mp h
  refine ⟨⟨hs.scan, fun hbusy => ?_⟩, hbase.remove hlast hremove⟩
  rw [umacInterfaceRemove_active hremove]
  exact Finset.mem_erase.mpr ⟨htype.symm, hs.busy hbusy⟩

theorem RootWf.add (hs : RootWf s) (env : DriverEnv) (type : UmacInterfaceType) :
    RootWf { s with interface := (umacInterfaceAdd env s.interface type).2 } := by
  refine ⟨hs.scan, fun hbusy => ?_⟩
  obtain ⟨-, hsame⟩ | ⟨mmdrv, hadded⟩ := umacInterfaceAdd_cases env s.interface type
  · rw [hsame]
    exact hs.busy hbusy
  · rw [hadded]
    exact Finset.mem_insert_of_mem (hs.busy hbusy)

theorem umacConnectionStartInterface_sound {r : Bool × UmacRoot R}
    (hs : RootWf s) (hd : InterfaceWf s.interface)
    (h : umacConnectionStartInterface env s = some r) : HandlerSound s r.2 := by
  have hadd := umacInterfaceAdd_sound hd env.driver .sta
  have hroot := hs.add env.driver .sta
  unfold umacConnectionStartInterface at h
  dsimp only at h
  split at h
  · cases h
    exact ⟨hroot, hadd⟩
  next hok =>
    have hmem := umacInterfaceAdd_mem (not_not.mp hok)
    split at h
    · obtain ⟨s', hremove, rfl⟩ := Option.map_eq_some_iff.mp h
      obtain ⟨hroot', hsound⟩ :=
        removeInterface_sound hroot hadd UmacInterfaceType.noConfusion (Or.inl hmem) hremove
      exact ⟨hroot', hsound⟩
    · cases h
      exact ⟨hroot, hadd⟩

theorem HandlerSound.withMode (h : HandlerSound s s')
    (mode : UmacConnectionMode) : HandlerSound s { s' with mode := mode } :=
  ⟨⟨h.root.scan, h.root.busy⟩, h.interface⟩

theorem connectionStopIn_sound
    {mode : UmacConnectionMode} (hs : RootWf s) (hbase : InterfaceSound base s.interface)
    (hlast : s.mode = mode → RemovesLast s.interface .sta)
    (h : connectionStopIn env mode s = some s') : RootWf s' ∧ InterfaceSound base s'.interface := by
  unfold connectionStopIn at h
  split at h
  · cases h
    exact ⟨hs, hbase⟩
  next hmode =>
    obtain ⟨s₁, hremove, rfl⟩ := Option.map_eq_some_iff.mp h
    obtain ⟨hroot, hsound⟩ :=
      removeInterface_sound hs hbase UmacInterfaceType.noConfusion (hlast (not_not.mp hmode))
        hremove
    exact ⟨⟨hroot.scan, hroot.busy⟩, hsound⟩

theorem umacApEnableAp_sound (hs : RootWf s) (hd : InterfaceWf s.interface)
    (horder : env.apAllocOk = true → env.suppAddOk = false →
      env.apStarts = true ∧ umacInterfaceTypeIsCompatibleWithActive s.interface .ap = true
        ∨ RemovesLast s.interface .ap)
    (h : umacApEnableAp env s = some s') : HandlerSound s s' := by
  unfold umacApEnableAp at h
  split at h
  · cases h
    exact ⟨hs, .refl hd⟩
  next hreached =>
    have horder := horder (by simpa using hreached)
    dsimp only at h
    cases hstarts : env.apStarts with
    | true =>
      have hadd := umacInterfaceAdd_sound hd env.driver .ap
      have hroot := hs.add env.driver .ap
      rw [if_pos hstarts] at h
      split at h
      · next hfail =>
          have hlast : RemovesLast (umacInterfaceAdd env.driver s.interface .ap).2 .ap := by
            refine removesLast_of_add fun hrefused => ?_
            obtain ⟨-, hcompatible⟩ | hlast := horder (by simpa using hfail)
            · exact removesLast_of_compatible hcompatible hrefused
            · exact hlast
          obtain ⟨hroot', hsound⟩ :=
            removeInterface_sound hroot hadd UmacInterfaceType.noConfusion hlast h
          exact ⟨hroot', hsound⟩
      · cases h
        exact ⟨hroot, hadd⟩
    | false =>
      rw [if_neg (show ¬ env.apStarts = true by rw [hstarts]; decide)] at h
      split at h
      · next hfail =>
          have hlast : RemovesLast s.interface .ap := by
            obtain ⟨hstarted, -⟩ | hlast := horder (by simpa using hfail)
            · rw [hstarts] at hstarted
              cases hstarted
            · exact hlast
          obtain ⟨hroot', hsound⟩ :=
            removeInterface_sound hs (.refl hd) UmacInterfaceType.noConfusion hlast h
          exact ⟨hroot', hsound⟩
      · cases h
        exact ⟨hs, .refl hd⟩

/-! ## Every handler -/

section Loop

variable [DecidableEq R]

omit [DecidableEq R] in
theorem connectionStopIn_interface {s s' : UmacRoot R} {mode : UmacConnectionMode}
    (h : connectionStopIn env mode s = some s') :
    s'.interface.activeInterfaceTypes
        = (if s.mode = mode then s.interface.activeInterfaceTypes.erase .sta
          else s.interface.activeInterfaceTypes)
      ∧ (s.interface.inactiveCallback = none → s'.interface.inactiveCallback = none) := by
  unfold connectionStopIn at h
  split at h
  · next hmode =>
      cases h
      exact ⟨(if_neg hmode).symm, fun hfree => hfree⟩
  next hmode =>
    obtain ⟨s₁, hstopped, rfl⟩ := Option.map_eq_some_iff.mp h
    obtain ⟨interface, hremove, rfl⟩ := Option.map_eq_some_iff.mp hstopped
    rw [if_pos (not_not.mp hmode)]
    exact ⟨umacInterfaceRemove_active hremove, umacInterfaceRemove_free hremove⟩

theorem umacShutdownEvtHandler_sound {s s' : UmacRoot R} (hs : RootWf s)
    (hd : InterfaceWf s.interface)
    (hconnection : s.mode = .sta → RemovesLast s.interface .sta)
    (hrest : .none ∈ s.interface.activeInterfaceTypes
      ∨ (if s.mode = .sta then s.interface.activeInterfaceTypes.erase .sta
          else s.interface.activeInterfaceTypes) = ∅
      ∨ s.interface.inactiveCallback = none)
    (h : umacShutdownEvtHandler dwellOnHomeMs env s = some s') : HandlerSound s s' := by
  obtain ⟨stopped, hstop, h⟩ := Option.bind_eq_some_iff.mp h
  obtain ⟨aborted, habort, hremove⟩ := Option.bind_eq_some_iff.mp h
  have hs₀ : RootWf { s with shutdownInProgress := true } := ⟨hs.scan, hs.busy⟩
  obtain ⟨hroot, hsound⟩ := connectionStopIn_sound hs₀ (.refl hd) hconnection hstop
  obtain ⟨hactive, hfree⟩ := connectionStopIn_interface hstop
  obtain ⟨hasked, hinterface, -⟩ := abortScan_sound hroot hsound.wf habort
  have hlast : RemovesLast aborted.interface .none := by
    rw [hinterface]
    obtain hnone | hempty | hunregistered := hrest
    · left
      rw [hactive]
      split
      · exact Finset.mem_erase.mpr ⟨UmacInterfaceType.noConfusion, hnone⟩
      · exact hnone
    · exact Or.inr (Or.inl (hactive.trans hempty))
    · exact Or.inr (Or.inr (hfree hunregistered))
  obtain ⟨hroot', hsound'⟩ := removeInterface_sound hasked.root
    (by rw [hinterface]; exact hsound) UmacInterfaceType.noConfusion hlast hremove
  exact ⟨hroot', hsound'⟩

theorem handleEvt_sound {s s' : UmacRoot R} {evt : LoopEvt R} (hs : RootWf s)
    (hd : InterfaceWf s.interface) (horder : CallsInOrder env s evt)
    (h : handleEvt dwellOnHomeMs env s evt = some s') : HandlerSound s s' := by
  cases evt with
  | boot =>
    cases h
    exact ⟨hs.add env.driver .none, umacInterfaceAdd_sound hd env.driver .none⟩
  | connectionStart =>
    change umacConnectionStart env s = some s' at h
    unfold umacConnectionStart at h
    split at h
    · cases h
      exact ⟨hs, .refl hd⟩
    obtain ⟨⟨ok, s₁⟩, hstart, rfl⟩ := Option.map_eq_some_iff.mp h
    have hsound := umacConnectionStartInterface_sound hs hd hstart
    dsimp only
    split
    · exact hsound
    · split
      · exact hsound
      · exact hsound.withMode .sta
  | dppStart =>
    change umacConnectionStartDpp env s = some s' at h
    unfold umacConnectionStartDpp at h
    split at h
    · cases h
      exact ⟨hs, .refl hd⟩
    obtain ⟨⟨ok, s₁⟩, hstart, rfl⟩ := Option.map_eq_some_iff.mp h
    have hsound := umacConnectionStartInterface_sound hs hd hstart
    dsimp only
    split
    · exact hsound
    · split
      · exact hsound
      · exact hsound.withMode .dpp
  | reassoc =>
    change umacConnectionReassoc env s = some s' at h
    unfold umacConnectionReassoc at h
    split at h
    · obtain ⟨⟨ok, s₁⟩, hstart, rfl⟩ := Option.map_eq_some_iff.mp h
      have hsound := umacConnectionStartInterface_sound hs hd hstart
      dsimp only
      split
      · exact hsound
      · exact hsound.withMode .sta
    · cases h
      exact ⟨hs, .refl hd⟩
  | connectionStop | dppStop =>
    obtain ⟨hroot, hsound⟩ := connectionStopIn_sound hs (.refl hd) horder h
    exact ⟨hroot, hsound⟩
  | requestScan req => exact requestScan_sound hs hd horder h
  | abortScan req =>
    have habort : abortScan dwellOnHomeMs env s (some req) = some s' := h
    exact (abortScan_sound hs hd habort).1
  | hwScanDone state => exact scanDone_sound hs hd h
  | hwRestart =>
    change hwRestartEvtHandler dwellOnHomeMs env s = some s' at h
    unfold hwRestartEvtHandler at h
    split at h
    · cases h
    split at h
    · next hactive =>
        have hd' : InterfaceWf { s.interface with
            mmdrv := .init :: .deinit :: s.interface.mmdrv } :=
          ⟨hd.once, hd.inactive, hd.old, hd.waiting, fun hnone => absurd hnone hactive⟩
        unfold scanHandleHwRestarted at h
        split at h
        · have hsound := @scanDone_sound R dwellOnHomeMs env _ { s with
            interface := { s.interface with
              mmdrv := .init :: .deinit :: s.interface.mmdrv } } s' .terminated
            ⟨hs.scan, hs.busy⟩ hd' h
          exact ⟨hsound.root, hsound.interface.wf, hsound.interface.called⟩
        · cases h
          exact ⟨⟨hs.scan, hs.busy⟩, hd', fun _ hcall => Or.inl hcall⟩
    · cases h
      exact ⟨hs, .refl hd⟩
  | wnmSleepPowerdown wakes =>
    change wnmSleepPowerdown wakes s = some s' at h
    unfold wnmSleepPowerdown at h
    split at h
    · cases h
    next hsta =>
      cases h
      refine ⟨⟨hs.scan, hs.busy⟩, ⟨hd.once, hd.inactive, hd.old, hd.waiting, ?_⟩,
        fun _ hcall => Or.inl hcall⟩
      intro hnone
      refine absurd (not_not.mp hsta) ?_
      rw [show s.interface.activeInterfaceTypes = ∅ from hnone]
      exact Finset.notMem_empty _
  | apStart => exact umacApEnableAp_sound hs hd horder h
  | shutdown => exact umacShutdownEvtHandler_sound hs hd horder.1 horder.2 h

/-! ## Handlers that find no interface -/

omit [DecidableEq R] in
theorem removeInterface_active {s s' : UmacRoot R} {type : UmacInterfaceType}
    (h : removeInterface env s type = some s') :
    s'.interface.activeInterfaceTypes = s.interface.activeInterfaceTypes.erase type := by
  obtain ⟨interface, hremove, rfl⟩ := Option.map_eq_some_iff.mp h
  exact umacInterfaceRemove_active hremove

omit [DecidableEq R] in
theorem umacConnectionStartInterface_empty {s : UmacRoot R} {r : Bool × UmacRoot R}
    (hnone : s.interface.activeInterfaceTypes = ∅)
    (hboot : ¬ (env.driver.channelListSet = true ∧ env.driver.initOk = true
      ∧ env.suppAddOk = true))
    (h : umacConnectionStartInterface env s = some r) :
    r.2.interface.activeInterfaceTypes = ∅ := by
  unfold umacConnectionStartInterface at h
  dsimp only at h
  split at h
  · next hfail =>
      cases h
      obtain ⟨-, hsame⟩ | ⟨mmdrv, hadded⟩ := umacInterfaceAdd_cases env.driver s.interface .sta
      · exact (congrArg _ hsame).trans hnone
      · rw [hadded] at hfail
        exact absurd rfl hfail
  split at h
  · obtain ⟨s₁, hremove, rfl⟩ := Option.map_eq_some_iff.mp h
    exact (removeInterface_active hremove).trans (umacInterfaceAdd_erase hnone)
  next hsupp =>
    cases h
    have hsame := umacInterfaceAdd_of_empty .sta hnone
      (fun hok => hboot ⟨hok.1, hok.2, by simpa using hsupp⟩)
    exact (congrArg _ hsame).trans hnone

omit [DecidableEq R] in
theorem connectionStopIn_empty {s s' : UmacRoot R} {mode : UmacConnectionMode}
    (hnone : s.interface.activeInterfaceTypes = ∅) (h : connectionStopIn env mode s = some s') :
    s'.interface.activeInterfaceTypes = ∅ := by
  rw [(connectionStopIn_interface h).1, hnone]
  split <;> rfl

omit [DecidableEq R] in
theorem scanDone_empty {s s' : UmacRoot R} {state : MmwlanScanState} (hs : RootWf s)
    (hnone : s.interface.activeInterfaceTypes = ∅)
    (h : scanDone dwellOnHomeMs env s state = some s') : s' = s := by
  have hidle : s.scan.fsmInst.currentState = .inactive := by
    by_contra hbusy
    have hmem := hs.busy hbusy
    rw [hnone] at hmem
    exact absurd hmem (Finset.notMem_empty _)
  have hinst := hs.scan.inst.trans (congrArg _ hidle)
  cases state with
  | successful | terminated =>
    exact Option.some.inj (h.symm.trans (scanFsmHandleEvent_ignored hinst
      (Or.inl ⟨rfl, HwScanFsmEvent.noConfusion⟩)))

theorem handleEvt_empty {s s' : UmacRoot R} {evt : LoopEvt R} (hs : RootWf s)
    (hd : InterfaceWf s.interface) (hnone : s.interface.activeInterfaceTypes = ∅)
    (hboots : ¬ Boots env s evt) (h : handleEvt dwellOnHomeMs env s evt = some s') :
    s'.interface.activeInterfaceTypes = ∅ := by
  cases evt with
  | boot =>
    cases h
    exact (congrArg _ (umacInterfaceAdd_of_empty .none hnone hboots)).trans hnone
  | connectionStart =>
    change umacConnectionStart env s = some s' at h
    unfold umacConnectionStart at h
    split at h
    · cases h
      exact hnone
    next hmode =>
      obtain ⟨⟨ok, s₁⟩, hstart, rfl⟩ := Option.map_eq_some_iff.mp h
      have hmode' : s.mode = .none ∨ s.mode = .sta := by
        cases hq : s.mode <;> simp [hq] at hmode ⊢
      have hleft := umacConnectionStartInterface_empty hnone
        (fun hok => hboots ⟨hmode', hok⟩) hstart
      dsimp only
      split
      · exact hleft
      · split <;> exact hleft
  | dppStart =>
    change umacConnectionStartDpp env s = some s' at h
    unfold umacConnectionStartDpp at h
    split at h
    · cases h
      exact hnone
    next hmode =>
      obtain ⟨⟨ok, s₁⟩, hstart, rfl⟩ := Option.map_eq_some_iff.mp h
      have hmode' : s.mode = .none ∨ s.mode = .dpp := by
        cases hq : s.mode <;> simp [hq] at hmode ⊢
      have hleft := umacConnectionStartInterface_empty hnone
        (fun hok => hboots ⟨hmode', hok⟩) hstart
      dsimp only
      split
      · exact hleft
      · split <;> exact hleft
  | reassoc =>
    change umacConnectionReassoc env s = some s' at h
    unfold umacConnectionReassoc at h
    split at h
    · next hmode =>
        obtain ⟨⟨ok, s₁⟩, hstart, rfl⟩ := Option.map_eq_some_iff.mp h
        have hleft := umacConnectionStartInterface_empty hnone
          (fun hok => hboots ⟨hmode, hok⟩) hstart
        dsimp only
        split <;> exact hleft
    · cases h
      exact hnone
  | connectionStop | dppStop => exact connectionStopIn_empty hnone h
  | requestScan req =>
    change requestScan dwellOnHomeMs env s req = some s' at h
    unfold requestScan at h
    split at h
    · next hfree =>
        have hinst : s.scan.fsmInst = .at .inactive := hs.scan.inst.trans
          (congrArg _ (hs.scan.active.mpr (Option.isNone_iff_eq_none.mp hfree)))
        have hstart := (@scanFsmHandleEvent_request R dwellOnHomeMs env
          { s with scan := { s.scan with activeScanReq := some req } } req hinst rfl).symm.trans h
        unfold startScanIn at hstart
        dsimp only at hstart
        split at hstart
        · next hok =>
            cases hstart
            have hsame := umacInterfaceAdd_of_empty .scan hnone
              (fun hboot => hboots ⟨hboot.1, hboot.2, hok.2⟩)
            exact (congrArg _ hsame).trans hnone
        · obtain ⟨interface, hremove, rfl⟩ := Option.map_eq_some_iff.mp hstart
          exact (umacInterfaceRemove_active hremove).trans (umacInterfaceAdd_erase hnone)
    · split at h <;> cases h <;> exact hnone
  | abortScan req =>
    have habort : abortScan dwellOnHomeMs env s (some req) = some s' := h
    rw [(abortScan_sound hs hd habort).2.1]
    exact hnone
  | hwScanDone state =>
    obtain rfl := scanDone_empty hs hnone h
    exact hnone
  | hwRestart =>
    change hwRestartEvtHandler dwellOnHomeMs env s = some s' at h
    unfold hwRestartEvtHandler at h
    rw [if_neg (by rw [hnone]; exact Finset.notMem_empty _), if_neg (not_not.mpr hnone)] at h
    cases h
    exact hnone
  | wnmSleepPowerdown wakes =>
    change wnmSleepPowerdown wakes s = some s' at h
    unfold wnmSleepPowerdown at h
    rw [if_pos (by rw [hnone]; exact Finset.notMem_empty _)] at h
    cases h
  | apStart =>
    change umacApEnableAp env s = some s' at h
    unfold umacApEnableAp at h
    split at h
    · cases h
      exact hnone
    next hreached =>
      dsimp only at h
      split at h
      · -- the supplicant fails, and the interface is removed
        rw [removeInterface_active h]
        split
        · exact umacInterfaceAdd_erase hnone
        · rw [hnone]
          rfl
      next hsupp =>
        cases h
        split
        · next hstarts =>
            have hsame := umacInterfaceAdd_of_empty .ap hnone fun hboot =>
              hboots ⟨by simpa using hreached, hstarts, hboot.1, hboot.2, by simpa using hsupp⟩
            exact (congrArg _ hsame).trans hnone
        · exact hnone
  | shutdown =>
    obtain ⟨stopped, hstop, h⟩ := Option.bind_eq_some_iff.mp h
    obtain ⟨aborted, habort, hremove⟩ := Option.bind_eq_some_iff.mp h
    have hs₀ : RootWf { s with shutdownInProgress := true } := ⟨hs.scan, hs.busy⟩
    obtain ⟨hroot, hsound⟩ :=
      connectionStopIn_sound hs₀ (.refl hd) (fun _ => Or.inr (Or.inl hnone)) hstop
    have hstopped : stopped.interface.activeInterfaceTypes = ∅ :=
      @connectionStopIn_empty R env { s with shutdownInProgress := true } stopped .sta hnone hstop
    rw [removeInterface_active hremove, (abortScan_sound hroot hsound.wf habort).2.1, hstopped]
    rfl

end Loop

end Scans

end MmIotEsp32.Umac.Interface
