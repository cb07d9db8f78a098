/-
  MmIotEsp32.Umac.Scan.ScanApiRuns

  The scan functions stay usable as long as nothing goes wrong between the test of
  `scan_complete_cb` and the queue.
-/
import MmIotEsp32.Umac.Scan.ScanApi

namespace MmIotEsp32.Umac.Scan

open Lib

section Api

variable {C S : Type} {suppArgs : S → MmwlanScanArgs}

/-! ## The callbacks of one event -/

theorem runCallbacks_of_not_mem (s : ScanApi C S) {l : List (ScanReq S × MmwlanScanState)}
    (h : .api ∉ l.map Prod.fst) : runCallbacks s l = some s := by
  induction l with
  | nil => rfl
  | cons call rest ih =>
    obtain ⟨req, state⟩ := call
    rw [List.map_cons, List.mem_cons, not_or] at h
    cases req with
    | api => exact absurd rfl h.1
    | supplicant req => exact ih h.2

/-- After the callback of the request of the application. -/
def afterCallback (s : ScanApi C S) (cb : C) (state : MmwlanScanState) : ScanApi C S :=
  { s with
    args := { s.args with extraIes := [] }
    scanCompleteCb := none
    called := s.called ++ [(cb, state)] }

theorem runCallbacks_of_count [DecidableEq S] (s : ScanApi C S)
    {l : List (ScanReq S × MmwlanScanState)} {cb : C}
    (hcb : s.scanCompleteCb = some cb) (h : (l.map Prod.fst).count .api = 1) :
    ∃ state, runCallbacks s l = some (afterCallback s cb state) := by
  induction l with
  | nil => cases h
  | cons call rest ih =>
    obtain ⟨req, state⟩ := call
    cases req with
    | api =>
      rw [List.map_cons, List.count_cons_self] at h
      have hrest : .api ∉ rest.map Prod.fst := List.count_eq_zero.mp (by omega)
      refine ⟨state, ?_⟩
      show (umacScanCompleteCallback s state).bind _ = _
      unfold umacScanCompleteCallback
      rw [hcb]
      exact runCallbacks_of_not_mem _ hrest
    | supplicant req =>
      rw [List.map_cons, List.count_cons_of_ne (by simp)] at h
      exact ih h

/-! ## Aborts in the queue -/

/-- Every abort in the queue will find the request of the application: it is held, or its event
comes first. -/
def AbortsMet (isHeld : Prop) : List (ScanEvt S) → Prop
  | [] => True
  | .request .api :: rest => AbortsMet True rest
  | .request (.supplicant _) :: rest => AbortsMet isHeld rest
  | .abort :: rest => isHeld ∧ AbortsMet isHeld rest

variable {l : List (ScanEvt S)}

theorem AbortsMet.mono {p q : Prop} (hpq : p → q) (h : AbortsMet p l) : AbortsMet q l := by
  induction l generalizing p q with
  | nil => trivial
  | cons evt rest ih =>
    cases evt with
    | abort => exact ⟨hpq h.1, ih hpq h.2⟩
    | request req =>
      cases req with
      | api => exact h
      | supplicant req => exact ih hpq h

theorem abortsMet_of_not_mem {p : Prop} (h : .abort ∉ l) : AbortsMet p l := by
  induction l generalizing p with
  | nil => trivial
  | cons evt rest ih =>
    rw [List.mem_cons, not_or] at h
    cases evt with
    | abort => exact absurd rfl h.1
    | request req => cases req <;> exact ih h.2

theorem AbortsMet.append_request {p : Prop} (h : AbortsMet p l)
    (req : ScanReq S) : AbortsMet p (l ++ [.request req]) := by
  induction l generalizing p with
  | nil => cases req <;> trivial
  | cons evt rest ih =>
    cases evt with
    | abort => exact ⟨h.1, ih h.2⟩
    | request first => cases first <;> exact ih h

theorem AbortsMet.append_abort {p : Prop} (h : AbortsMet p l)
    (hmet : p ∨ .request .api ∈ l) : AbortsMet p (l ++ [.abort]) := by
  induction l generalizing p with
  | nil => exact ⟨hmet.resolve_right List.not_mem_nil, trivial⟩
  | cons evt rest ih =>
    rw [List.mem_cons] at hmet
    cases evt with
    | abort => exact ⟨h.1, ih h.2 (Or.inl h.1)⟩
    | request first =>
      cases first with
      | api => exact ih h (Or.inl trivial)
      | supplicant req =>
        refine ih h (hmet.imp_right fun hmem => hmem.resolve_left ?_)
        intro hsame
        cases hsame

/-! ## Events of the scan module -/

section Moves

variable [DecidableEq S] {dwellOnHomeMs : ScanReq S → U32} {data data' : UmacScanData (ScanReq S)}

theorem scanMove_count
    {event : ScanEvent (ScanReq S) × StartEnv} (hd : ScanWf data) (hnone : data.completed = [])
    (h : ScanMove dwellOnHomeMs data event data') :
    (held data').count .api + (data'.completed.map Prod.fst).count .api
      = (newRequests event).count .api + (held data).count .api := by
  have hperm := (scanMove_accounted hd h).count_eq .api
  unfold accounted at hperm
  rw [hnone, List.map_nil, List.append_nil, List.count_append, List.count_append] at hperm
  exact hperm

omit [DecidableEq S] in
theorem mem_scanAborted {data : UmacScanData (ScanReq S)}
    (h : .api ∈ (hwScanFsmScanAborted data).completed.map Prod.fst) :
    (data.activeScanReq = some .api ∨ data.pendingScanReq = some .api ∧ data.abortAll = true)
      ∨ .api ∈ data.completed.map Prod.fst := by
  obtain ⟨inst, active, pending, abortAll, interfaceAdded, datapathPaused, completed⟩ := data
  cases abortAll <;> cases active <;> cases pending <;>
    simp_all [hwScanFsmScanAborted, complete] <;> grind

omit [DecidableEq S] in
theorem mem_scanDone {data : UmacScanData (ScanReq S)}
    (h : .api ∈ (hwScanFsmScanDone data).completed.map Prod.fst) :
    (data.activeScanReq = some .api ∨ data.pendingScanReq = some .api ∧ data.abortAll = true)
      ∨ .api ∈ data.completed.map Prod.fst := by
  obtain ⟨inst, active, pending, abortAll, interfaceAdded, datapathPaused, completed⟩ := data
  cases abortAll <;> cases active <;> cases pending <;>
    simp_all [hwScanFsmScanDone, complete] <;> grind

omit [DecidableEq S] in
theorem scanDone_active (data : UmacScanData (ScanReq S)) {req : ScanReq S}
    (h : (hwScanFsmScanDone data).activeScanReq = some req) : data.pendingScanReq = some req := by
  obtain ⟨inst, active, pending, abortAll, interfaceAdded, datapathPaused, completed⟩ := data
  cases abortAll with
  | true => cases active <;> cases pending <;> cases h
  | false => cases active <;> exact h

omit [DecidableEq S] in
theorem mem_startScan {data : UmacScanData (ScanReq S)} {env : StartEnv} {req : ScanReq S}
    (hcalm : data.abortAll = false) (hactive : data.activeScanReq = some req)
    (h : .api ∈ (startScan dwellOnHomeMs env req data).completed.map Prod.fst) :
    (req = .api ∧ (env.interfaceOk && env.startOk) = false)
      ∨ .api ∈ data.completed.map Prod.fst := by
  unfold startScan at h
  by_cases hok : (env.interfaceOk && env.startOk) = true
  · rw [if_pos hok] at h
    exact Or.inr h
  rw [if_neg hok] at h
  obtain (hapi | ⟨-, habort⟩) | hbefore := mem_scanAborted h
  · rw [hactive] at hapi
    exact Or.inl ⟨Option.some.inj hapi, by simpa using hok⟩
  · rw [hcalm] at habort
    cases habort
  · exact Or.inr hbefore

omit [DecidableEq S] in
theorem handleEvent_asksAbort {data : UmacScanData (ScanReq S)} {event : HwScanFsmEvent}
    (dwellOnHomeMs : ScanReq S → U32) (env : StartEnv) (hd : ScanWf data)
    (hevent : event = .abortActive ∨ event = .abortAll) :
    ∃ data', hwScanFsmHandleEvent dwellOnHomeMs env data event = some data'
      ∧ data'.completed = data.completed := by
  cases hq : data.fsmInst.currentState with
  | inProgress =>
    exact ⟨_, handleEvent_reqAbort (hd.inst.trans (congrArg _ hq)) hevent, rfl⟩
  | inactive =>
    have hne : event ≠ .request := by rcases hevent with rfl | rfl <;> decide
    exact ⟨_, handleEvent_ignored (hd.inst.trans (congrArg _ hq)) (Or.inl ⟨rfl, hne⟩), rfl⟩
  | abortPending =>
    exact ⟨_, handleEvent_ignored (hd.inst.trans (congrArg _ hq)) (Or.inr ⟨rfl, hevent⟩), rfl⟩

omit [DecidableEq S] in
theorem handleEvent_abort_completed {env : StartEnv}
    {event : HwScanFsmEvent} (hd : ScanWf data) (hevent : event = .abortActive ∨ event = .abortAll)
    (h : hwScanFsmHandleEvent dwellOnHomeMs env data event = some data') :
    data'.completed = data.completed := by
  obtain ⟨asked, hasked, hcompleted⟩ :=
    handleEvent_asksAbort dwellOnHomeMs env hd hevent
  obtain rfl := Option.some.inj (hasked.symm.trans h)
  exact hcompleted

theorem scanStep_ends
    {event : ScanEvent (ScanReq S) × StartEnv} (hd : ScanWf data) (hnone : data.completed = [])
    (h : scanStep dwellOnHomeMs data event = some data')
    (hapi : .api ∈ data'.completed.map Prod.fst) : EndsApi data event := by
  have hcalm : data.fsmInst.currentState ≠ .abortPending → data.abortAll = false := by
    intro hstate
    by_contra habort
    exact hstate (hd.abort (by simpa using habort))
  have hempty : .api ∉ data.completed.map Prod.fst := by rw [hnone]; exact List.not_mem_nil
  obtain ⟨event, env⟩ := event
  cases event with
  | request req =>
    change umacReqScanEvtHandler dwellOnHomeMs env data req = _ at h
    unfold umacReqScanEvtHandler at h
    split at h
    · next hactive =>
        have hidle := hd.active.mpr (Option.isNone_iff_eq_none.mp hactive)
        have hinst : { data with activeScanReq := some req }.fsmInst = .at .inactive :=
          hd.inst.trans (congrArg _ hidle)
        have hcalm' : { data with activeScanReq := some req }.abortAll = false :=
          hcalm (by rw [hidle]; decide)
        rw [handleEvent_request hinst rfl] at h
        cases h
        obtain ⟨hreq, hfail⟩ | hbefore := mem_startScan hcalm' rfl hapi
        · exact ⟨hreq, Or.inl ⟨hidle, hfail⟩⟩
        · exact absurd hbefore hempty
    next hactive =>
      have hbusy : data.fsmInst.currentState ≠ .inactive := fun hidle =>
        hactive (Option.isNone_iff_eq_none.mpr (hd.active.mp hidle))
      split at h
      · cases h
        exact absurd hapi hempty
      next hpending =>
        cases h
        change .api ∈ req :: data.completed.map Prod.fst at hapi
        rw [hnone] at hapi
        refine ⟨(List.mem_singleton.mp hapi).symm, Or.inr ⟨hbusy, fun hfree => ?_⟩⟩
        exact hpending (Option.isNone_iff_eq_none.mpr hfree)
  | abort scanReq =>
    cases scanReq with
    | none =>
      rw [handleEvent_abort_completed hd (Or.inr rfl) h] at hapi
      exact absurd hapi hempty
    | some req =>
      change umacScanAbort dwellOnHomeMs env data (some req) = _ at h
      unfold umacScanAbort at h
      dsimp only at h
      split at h
      · rw [handleEvent_abort_completed hd (Or.inl rfl) h] at hapi
        exact absurd hapi hempty
      next hactive =>
        split at h
        · next hpending =>
            cases h
            change .api ∈ req :: data.completed.map Prod.fst at hapi
            rw [hnone] at hapi
            obtain rfl := List.mem_singleton.mp hapi
            exact ⟨rfl, hactive, hpending⟩
        · cases h
  | hwScanDone state =>
    have hmove := scanStep_move hd h
    cases hmove with
    | ignoreDone state env idle => exact absurd hapi hempty
    | aborted env busy => exact ⟨busy, (mem_scanAborted hapi).resolve_right hempty⟩
    | last env busy none =>
      refine ⟨busy, ?_⟩
      obtain hactive | ⟨hpending, habort⟩ := (mem_scanDone hapi).resolve_right hempty
      · exact Or.inl hactive
      · exact Or.inr ⟨hpending, Or.inl habort⟩
    | next req env busy some =>
      refine ⟨busy, ?_⟩
      obtain ⟨hreq, hfail⟩ | hbefore := mem_startScan (scanDone_pending data).1 some hapi
      · -- the pending request is started, and fails
        subst hreq
        exact Or.inr ⟨(scanDone_active data some), Or.inr hfail⟩
      · obtain hactive | ⟨hpending, habort⟩ := (mem_scanDone hbefore).resolve_right hempty
        · exact Or.inl hactive
        · exact Or.inr ⟨hpending, Or.inl habort⟩
  | hwRestarted =>
    have hmove := scanStep_move hd h
    cases hmove with
    | ignoreRestart env idle => exact absurd hapi hempty
    | restarted env busy => exact ⟨busy, (mem_scanAborted hapi).resolve_right hempty⟩

end Moves

variable [DecidableEq S] {s s' : ScanApi C S}

theorem scanEvent_cases {event : ScanEvent (ScanReq S) × StartEnv} {n : Nat}
    (hd : ScanWf s.scan) (hn : (newRequests event).count .api + (held s.scan).count .api = n)
    (hone : n ≤ 1) (hcb : n = 1 → ∃ cb, s.scanCompleteCb = some cb)
    (h : scanEvent suppArgs s event = some s') :
    (∃ scan, s' = { s with scan := scan } ∧ ScanWf scan ∧ (held scan).count .api = n)
      ∨ ∃ scan cb state, s.scanCompleteCb = some cb
        ∧ s' = afterCallback { s with scan := scan } cb state ∧ ScanWf scan
        ∧ (held scan).count .api = 0 ∧ n = 1 ∧ EndsApi s.scan event := by
  obtain ⟨scan, hstep, hcalls⟩ := Option.bind_eq_some_iff.mp h
  have hd' : ScanWf { s.scan with completed := [] } := ⟨hd.inst, hd.active, hd.abort⟩
  have hmove := scanStep_move hd' hstep
  have hwf := scanMove_wf hd' hmove
  have hcount : (held scan).count .api + (scan.completed.map Prod.fst).count .api = n :=
    (scanMove_count hd' rfl hmove).trans hn
  have hreverse : (scan.completed.reverse.map Prod.fst).count .api
      = (scan.completed.map Prod.fst).count .api := by
    rw [List.map_reverse, List.count_reverse]
  by_cases hends : .api ∈ scan.completed.map Prod.fst
  · have hpos := List.count_pos_iff.mpr hends
    obtain ⟨cb, hcb⟩ := hcb (by omega)
    obtain ⟨state, hrun⟩ := runCallbacks_of_count { s with scan := scan } hcb
      (l := scan.completed.reverse) (by omega)
    rw [hrun] at hcalls
    refine Or.inr ⟨scan, cb, state, hcb, (Option.some.inj hcalls).symm, hwf, by omega, by omega, ?_⟩
    have hends' := scanStep_ends hd' rfl hstep hends
    obtain ⟨event, env⟩ := event
    cases event with
    | hwScanDone state => cases state <;> exact hends'
    | _ => exact hends'
  have hnot : .api ∉ scan.completed.reverse.map Prod.fst := by
    rw [List.map_reverse, List.mem_reverse]
    exact hends
  rw [runCallbacks_of_not_mem _ hnot] at hcalls
  have hzero := List.count_eq_zero.mpr hends
  exact Or.inl ⟨scan, (Option.some.inj hcalls).symm, hwf, by omega⟩

/-! ## The invariant -/

/-- What holds between two steps. -/
structure ApiInv (s : ScanApi C S) : Prop where
  wf : ScanWf s.scan
  once : s.onWay ≤ 1
  /-- `scan_complete_cb`, as the place of the application tells. -/
  busy : match s.pc with
    | .requestWrites _ => s.onWay = 0 ∧ s.scanCompleteCb = none
    | .requestAllocates req | .requestQueues req => s.onWay = 0 ∧ s.scanCompleteCb = some req.cb
    | .returned _ | .abortQueues => s.onWay = 0 ↔ s.scanCompleteCb = none
  aborts : AbortsMet ((held s.scan).count .api = 1) s.evtq
  accounted : s.accepted
    = s.called.map Prod.fst ++ (if s.onWay = 1 then s.scanCompleteCb.toList else [])

variable {s : ScanApi C S}

theorem ApiInv.cb (hi : ApiInv s) (h : s.onWay = 1) : ∃ cb, s.scanCompleteCb = some cb := by
  rw [← Option.ne_none_iff_exists']
  have hbusy := hi.busy
  intro hnone
  split at hbusy
  · omega
  · omega
  · omega
  · have hzero := hbusy.mpr hnone
    omega
  · have hzero := hbusy.mpr hnone
    omega

theorem apiInv_event {rest : List (ScanEvt S)}
    {event : ScanEvent (ScanReq S) × StartEnv} (hi : ApiInv s) (hway : rest.count (.request .api)
      + ((newRequests event).count .api + (held s.scan).count .api) = s.onWay)
    (haborts : AbortsMet ((newRequests event).count .api + (held s.scan).count .api = 1) rest)
    (hturn : EndsApi s.scan event → .abort ∉ rest)
    (h : scanEvent suppArgs { s with evtq := rest } event = some s') : ApiInv s' := by
  have honce := hi.once
  obtain ⟨n, hn⟩ : ∃ n, (newRequests event).count .api + (held s.scan).count .api = n := ⟨_, rfl⟩
  rw [hn] at hway haborts
  obtain ⟨scan, rfl, hwf, hheld⟩ | ⟨scan, cb, state, hcb, rfl, hwf, hheld, hn, hends⟩ :=
    scanEvent_cases (s := { s with evtq := rest }) hi.wf hn (by omega)
      (fun hn => hi.cb (by omega)) h
  · have hsame : ScanApi.onWay { s with evtq := rest, scan := scan } = s.onWay := by
      show rest.count _ + (held scan).count _ = _
      omega
    refine ⟨hwf, hsame.trans_le honce, ?_, ?_, ?_⟩
    · rw [hsame]
      exact hi.busy
    · show AbortsMet ((held scan).count .api = 1) rest
      rw [hheld]
      exact haborts
    · rw [hsame]
      exact hi.accounted
  have hnot := hturn hends
  have hone : s.onWay = 1 := by omega
  have hzero :
      ScanApi.onWay (afterCallback { s with evtq := rest, scan := scan } cb state) = 0 := by
    show rest.count _ + (held scan).count _ = _
    omega
  refine ⟨hwf, hzero.trans_le (Nat.zero_le 1), ?_, abortsMet_of_not_mem hnot, ?_⟩
  · have hbusy := hi.busy
    unfold afterCallback
    cases hq : s.pc with
    | returned status | abortQueues => exact iff_of_true hzero rfl
    | requestWrites req | requestAllocates req | requestQueues req => rw [hq] at hbusy; omega
  have haccounted := hi.accounted
  rw [if_pos hone, show s.scanCompleteCb = some cb from hcb] at haccounted
  rw [hzero, if_neg (by decide)]
  show s.accepted = (s.called ++ [(cb, state)]).map Prod.fst ++ []
  rw [haccounted, List.map_append, List.append_nil]
  rfl

/-! ## The steps -/

theorem mmwlanScanRequest_inv {status : ScanStatus} (hi : ApiInv s)
    (hpc : s.pc = .returned status) (req : MmwlanScanReq C) (env : RequestEnv) :
    ApiInv (mmwlanScanRequest s req env) := by
  have hbusy := hi.busy
  rw [hpc] at hbusy
  unfold mmwlanScanRequest
  split
  · exact ⟨hi.wf, hi.once, hbusy, hi.aborts, hi.accounted⟩
  next hfree =>
    have hnone : s.scanCompleteCb = none := by simpa using hfree
    split
    · exact ⟨hi.wf, hi.once, hbusy, hi.aborts, hi.accounted⟩
    · split
      · exact ⟨hi.wf, hi.once, hbusy, hi.aborts, hi.accounted⟩
      · exact ⟨hi.wf, hi.once, ⟨hbusy.mpr hnone, hnone⟩, hi.aborts, hi.accounted⟩

theorem requestWrite_inv {req : MmwlanScanReq C} (hi : ApiInv s)
    (hpc : s.pc = .requestWrites req) (connected : Bool) :
    ApiInv (requestWrite s req connected) := by
  have hbusy := hi.busy
  have haccounted := hi.accounted
  rw [hpc] at hbusy
  have hzero : (requestWrite s req connected).onWay = 0 := hbusy.1
  refine ⟨hi.wf, hi.once, ?_, hi.aborts, ?_⟩
  · unfold requestWrite at hzero ⊢
    by_cases hies : req.args.extraIes = []
    · rw [if_pos hies] at hzero ⊢
      exact ⟨hzero, rfl⟩
    · rw [if_neg hies] at hzero ⊢
      exact ⟨hzero, rfl⟩
  · rw [hbusy.1, if_neg (by decide)] at haccounted
    rw [hzero, if_neg (by decide)]
    exact haccounted

theorem requestQueue_inv {req : MmwlanScanReq C} (hi : ApiInv s)
    (hpc : s.pc = .requestQueues req) : ApiInv (requestQueue s req true) := by
  have hbusy := hi.busy
  have haccounted := hi.accounted
  rw [hpc] at hbusy
  obtain ⟨hzero, hcb⟩ := hbusy
  have hone : (requestQueue s req true).onWay = 1 := by
    show (s.evtq ++ [ScanEvt.request .api]).count _ + (held s.scan).count _ = 1
    change s.evtq.count _ + (held s.scan).count _ = 0 at hzero
    rw [List.count_append, List.count_singleton_self]
    omega
  refine ⟨hi.wf, hone.le, ?_, hi.aborts.append_request .api, ?_⟩
  · refine iff_of_false (by rw [hone]; decide) ?_
    show s.scanCompleteCb ≠ none
    rw [hcb]
    exact Option.some_ne_none _
  rw [hzero, if_neg (by decide), List.append_nil] at haccounted
  rw [hone, if_pos rfl]
  show s.accepted ++ [req.cb] = s.called.map Prod.fst ++ s.scanCompleteCb.toList
  rw [haccounted, hcb]
  rfl

theorem ApiInv.append (hi : ApiInv s) {evt : ScanEvt S} (hevt : evt ≠ .request .api)
    (haborts : AbortsMet ((held s.scan).count .api = 1) (s.evtq ++ [evt])) :
    ApiInv { s with evtq := s.evtq ++ [evt] } := by
  have hsame : ScanApi.onWay { s with evtq := s.evtq ++ [evt] } = s.onWay := by
    have hnone : [evt].count (.request .api) = 0 :=
      List.count_eq_zero.mpr (by simpa using hevt.symm)
    show (s.evtq ++ [evt]).count _ + _ = s.evtq.count _ + _
    rw [List.count_append, hnone]
    rfl
  refine ⟨hi.wf, hsame.trans_le hi.once, ?_, haborts, ?_⟩
  · rw [hsame]
    exact hi.busy
  · rw [hsame]
    exact hi.accounted

theorem abortQueue_inv {ok : Bool} (hi : ApiInv s)
    (hpc : s.pc = .abortQueues) (hturn : ok = true → s.onWay = 1) : ApiInv (abortQueue s ok) := by
  have hreturned : ∀ status, ApiInv { s with pc := .returned status } := by
    intro status
    have hbusy := hi.busy
    rw [hpc] at hbusy
    exact ⟨hi.wf, hi.once, hbusy, hi.aborts, hi.accounted⟩
  cases ok with
  | false => exact hreturned _
  | true =>
    have hone := hturn rfl
    refine (hreturned .success).append (by simp) (hi.aborts.append_abort ?_)
    -- the request is held, or its event is in the queue already
    change s.evtq.count _ + (held s.scan).count _ = 1 at hone
    rcases Nat.eq_zero_or_pos (s.evtq.count (.request .api)) with hnone | hsome
    · exact Or.inl (by omega)
    · exact Or.inr (List.count_pos_iff.mp hsome)

theorem dispatchEvt_inv {env : StartEnv} (hi : ApiInv s)
    (hturn : InTurn s (.dispatch env)) (h : dispatchEvt suppArgs s env = some s') : ApiInv s' := by
  have hway : s.onWay = s.evtq.count (.request .api) + (held s.scan).count .api := rfl
  have haborts := hi.aborts
  simp only [InTurn, ScanApi.queueBehind, ScanApi.moduleEvent] at hturn
  unfold dispatchEvt at h
  cases hevtq : s.evtq with
  | nil =>
    rw [hevtq] at h
    cases h
    exact hi
  | cons evt rest =>
    rw [hevtq] at h hturn haborts hway
    cases evt with
    | abort =>
      refine apiInv_event hi ?_ ?_ (fun hends habort =>
        hturn habort _ (Option.mem_some_self _) hends) h
      · rw [hway, List.count_cons_of_ne (by simp)]
        exact congrArg _ (Nat.zero_add _)
      · show AbortsMet (0 + _ = 1) rest
        rw [Nat.zero_add]
        exact haborts.2
    | request req =>
      dsimp only at h
      split at h
      · cases h
      refine apiInv_event hi ?_ ?_ (fun hends habort =>
        hturn habort _ (Option.mem_some_self _) hends) h
      · show rest.count _ + ([req].count .api + _) = s.onWay
        rw [hway]
        cases req with
        | api =>
          rw [List.count_cons_self, List.count_cons_self, List.count_nil]
          omega
        | supplicant req =>
          rw [List.count_cons_of_ne (by simp), List.count_cons_of_ne (by simp),
            List.count_nil, Nat.zero_add]
      show AbortsMet ([req].count .api + _ = 1) rest
      cases req with
      | api =>
        -- it is the only one
        refine AbortsMet.mono (p := True) (fun _ => ?_) haborts
        have honce := hi.once
        rw [hway, List.count_cons_self] at honce
        rw [List.count_singleton_self]
        omega
      | supplicant req =>
        rw [List.count_singleton, if_neg (by simp), Nat.zero_add]
        exact haborts

theorem apiInv_step {step : ScanApiStep C S} (hi : ApiInv s)
    (hturn : InTurn s step) (h : scanApiStep suppArgs s step = some s') : ApiInv s' := by
  -- the events that do not come through the queue
  have hnow : ∀ event : ScanEvent (ScanReq S) × StartEnv, newRequests event = [] →
      (EndsApi s.scan event → .abort ∉ s.evtq) → scanEvent suppArgs s event = some s' →
      ApiInv s' := by
    intro event hnew hends h
    refine apiInv_event hi ?_ ?_ hends h
    · rw [hnew, List.count_nil, Nat.zero_add]
      rfl
    · rw [hnew, List.count_nil, Nat.zero_add]
      exact hi.aborts
  unfold scanApiStep at h
  split at h
  · cases h
    exact mmwlanScanRequest_inv hi ‹_› _ _
  · cases h
    exact requestWrite_inv hi ‹_› _
  · next hpc =>
      cases h
      simp only [InTurn, hpc] at hturn
      subst hturn
      have hbusy := hi.busy
      rw [hpc] at hbusy
      exact ⟨hi.wf, hi.once, hbusy, hi.aborts, hi.accounted⟩
  · next hpc =>
      cases h
      simp only [InTurn, hpc] at hturn
      subst hturn
      exact requestQueue_inv hi hpc
  · next hpc =>
      cases h
      have hbusy := hi.busy
      rw [hpc] at hbusy
      unfold mmwlanScanAbort
      split <;> exact ⟨hi.wf, hi.once, hbusy, hi.aborts, hi.accounted⟩
  · next hpc =>
      cases h
      simp only [InTurn, hpc] at hturn
      exact abortQueue_inv hi hpc hturn
  · next ok =>
      cases h
      cases ok with
      | false => exact hi
      | true => exact hi.append (by simp) (hi.aborts.append_request _)
  · exact dispatchEvt_inv hi hturn h
  · exact hnow _ rfl (fun hends habort => hturn habort _ (Option.mem_some_self _) hends) h
  · exact hnow _ rfl (fun hends habort => hturn habort _ (Option.mem_some_self _) hends) h
  · exact hnow _ rfl (fun hends habort => hturn habort _ (Option.mem_some_self _) hends) h
  · cases h
    exact hi

/-! ## The run -/

theorem scanApiInit_inv : ApiInv (scanApiInit C S) :=
  ⟨umacScanInit_wf, Nat.zero_le 1, iff_of_true rfl rfl, trivial, rfl⟩

theorem ApiInv.usable (hi : ApiInv s) : ScanUsable s := by
  refine ⟨hi.once, ⟨_, hi.accounted, ?_⟩, ?_⟩
  · by_cases hone : s.onWay = 1
    · obtain ⟨cb, hcb⟩ := hi.cb hone
      rw [if_pos hone, hcb, hone]
      rfl
    · have honce := hi.once
      rw [if_neg hone, List.length_nil]
      omega
  intro hrequesting hzero
  have hbusy := hi.busy
  cases hpc : s.pc with
  | returned status | abortQueues =>
    rw [hpc] at hbusy
    exact hbusy.mp hzero
  | _ =>
    rw [hpc] at hrequesting
    cases hrequesting

theorem ApiInv.abortFindsRequest (hi : ApiInv s) (step : ScanApiStep C S) :
    AbortFindsRequest suppArgs s step := by
  have haborts := hi.aborts
  unfold AbortFindsRequest
  split
  · next env rest hevtq =>
      rw [hevtq] at haborts
      have hheld : .api ∈ held s.scan := List.count_pos_iff.mp (by rw [haborts.1]; decide)
      unfold umacScanAbort
      dsimp only
      split
      · obtain ⟨asked, hasked, -⟩ := handleEvent_asksAbort
          (fun req => (s.argsOf suppArgs req).dwellOnHomeMs) env hi.wf (Or.inl rfl)
        rw [hasked]
        exact Option.some_ne_none _
      next hactive =>
        split
        · exact Option.some_ne_none _
        · next hpending =>
            rw [held, List.mem_append, Option.mem_toList, Option.mem_toList] at hheld
            exact absurd hheld (not_or.mpr ⟨hactive, hpending⟩)
  · trivial

/-- In every run in turn the scan functions stay usable, and no abort fails its assertion. -/
theorem scan_api_usable (suppArgs : S → MmwlanScanArgs) (steps : List (ScanApiStep C S))
    (hturn : Along (scanApiStep suppArgs) InTurn (scanApiInit C S) steps) :
    Throughout (scanApiStep suppArgs) ScanUsable (scanApiInit C S) steps
      ∧ Along (scanApiStep suppArgs) (AbortFindsRequest suppArgs) (scanApiInit C S) steps := by
  have hrun : Throughout (scanApiStep suppArgs) ApiInv (scanApiInit C S) steps :=
    throughout_of_step (fun _ _ _ hi hturn h => apiInv_step hi hturn h) scanApiInit_inv hturn
  exact ⟨hrun.mono fun _ hi => hi.usable, hrun.along_of fun _ step hi => hi.abortFindsRequest step⟩

end Api

-- Callbacks are numbers here, and so are the requests of the supplicant.

def scanArgs : MmwlanScanArgs := ⟨[], 105, 0, [0xDD]⟩

def scanRun : List (ScanApiStep Nat Nat) :=
  [.callRequest ⟨1, scanArgs⟩ ⟨true, .success⟩, .write false, .allocate true, .queue true]

/-- A scan that waits behind one of the supplicant is aborted, and the next one ends. -/
theorem scan_api_usable_aborted :
    Throughout (scanApiStep fun _ => scanArgs) ScanUsable (scanApiInit Nat Nat)
        ([.supplicantRequest 7 true, .dispatch ⟨true, true⟩] ++ scanRun
          ++ [.dispatch ⟨true, true⟩, .callAbort, .queueAbort true, .dispatch ⟨true, true⟩]
          ++ scanRun ++ [.dispatch ⟨true, true⟩, .hwScanDone .successful ⟨true, true⟩,
            .hwScanDone .successful ⟨true, true⟩])
      ∧ Along (scanApiStep fun _ => scanArgs) (AbortFindsRequest fun _ => scanArgs)
        (scanApiInit Nat Nat)
        ([.supplicantRequest 7 true, .dispatch ⟨true, true⟩] ++ scanRun
          ++ [.dispatch ⟨true, true⟩, .callAbort, .queueAbort true, .dispatch ⟨true, true⟩]
          ++ scanRun ++ [.dispatch ⟨true, true⟩, .hwScanDone .successful ⟨true, true⟩,
            .hwScanDone .successful ⟨true, true⟩]) :=
  scan_api_usable _ _ (by decide +kernel)

/-- The additional elements find no memory, or the event no place: no request is accepted, and
every later one is refused.  And an abort that is queued while the scan completes. -/
theorem scan_api_stays_busy :
    (∀ s, runFrom (scanApiStep fun _ => scanArgs) (scanApiInit Nat Nat)
        (scanRun.take 2 ++ [.allocate false]) = some s → ¬ ScanUsable s
          ∧ ∀ req env, (mmwlanScanRequest s req env).pc = .returned .unavailable)
      ∧ ¬ Throughout (scanApiStep fun _ => scanArgs) ScanUsable (scanApiInit Nat Nat)
        (scanRun.take 3 ++ [.queue false])
      ∧ ¬ Along (scanApiStep fun _ => scanArgs) (AbortFindsRequest fun _ => scanArgs)
        (scanApiInit Nat Nat)
        (scanRun ++ [.dispatch ⟨true, true⟩, .callAbort, .queueAbort true,
          .hwScanDone .successful ⟨true, true⟩, .dispatch ⟨true, true⟩]) := by
  refine ⟨fun s hs => ?_, fun h => ?_, fun h => ?_⟩
  · cases hs
    exact ⟨fun h => absurd (h.free rfl rfl) (by decide), fun _ _ => rfl⟩
  · have hused := h.of_runFrom rfl
    exact absurd (hused.free rfl rfl) (by decide)
  rw [show scanRun ++ [.dispatch ⟨true, true⟩, .callAbort, .queueAbort true,
      .hwScanDone .successful ⟨true, true⟩, .dispatch ⟨true, true⟩]
    = scanRun ++ [.dispatch ⟨true, true⟩, .callAbort, .queueAbort true,
      .hwScanDone .successful ⟨true, true⟩] ++ [.dispatch ⟨true, true⟩] from rfl] at h
  exact Along.last h rfl rfl

end MmIotEsp32.Umac.Scan
