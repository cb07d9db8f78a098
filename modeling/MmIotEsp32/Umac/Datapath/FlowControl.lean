/-
  MmIotEsp32.Umac.Datapath.FlowControl

  Pausing the transmit path (`umac/datapath/umac_datapath.c`).
-/
import MmIotEsp32.Common.Mmosal
import MmIotEsp32.Lib.Transition

namespace MmIotEsp32.Umac.Datapath

open Lib Function

/-! ## Tasks -/

inductive MmwlanTxFlowControlState where
  | ready
  | paused
  deriving Repr, DecidableEq

/-- A task: 0 is that of the event loop. -/
abbrev FcTask := Nat

/-- Where a task stands: outside these functions, in `umac_datapath_update_tx_paused` behind its
critical section, or in `umac_datapath_invoke_tx_fc_callback_handler` with the value it has read. -/
inductive FcPc where
  | idle
  | updated (pauseStateChanged isPaused : Bool)
  | reporting (state : MmwlanTxFlowControlState)
  deriving Repr, DecidableEq

/-- An event of the event queue. -/
inductive FcEvt where
  | invokeTxFcCallback
  | other
  deriving Repr, DecidableEq

/-- The datapath, the event queue, and where the tasks stand.  `sources` is what each source was
last set to, `reported` the value that was last passed to the callback. -/
structure FlowControl where
  txPaused : U16
  txFlowControlCallback : Bool
  txFlowcontrolSem : Bool
  evtq : List FcEvt
  pc : FcTask → FcPc
  reported : Option MmwlanTxFlowControlState
  sources : Fin 16 → Bool

/-- A datapath with a callback. -/
def flowControlInit : FlowControl where
  txPaused := 0
  txFlowControlCallback := true
  txFlowcontrolSem := false
  evtq := []
  pc := fun _ => .idle
  reported := none
  sources := fun _ => false

/-! ## The sections -/

def umacDatapathPauseProtected (txPaused sourceMask : U16) : U16 × Bool :=
  (txPaused ||| sourceMask, txPaused == 0)

def umacDatapathUnpauseProtected (txPaused sourceMask : U16) : U16 × Bool :=
  (txPaused &&& ~~~sourceMask, txPaused != 0 && txPaused &&& ~~~sourceMask == 0)

/-- The critical section of `umac_datapath_update_tx_paused`, with what `cb` answers there. -/
def updateProtected (txPaused sourceMask : U16) (isPaused : Bool) : U16 × Bool :=
  if isPaused then umacDatapathPauseProtected txPaused sourceMask
  else umacDatapathUnpauseProtected txPaused sourceMask

/-- The value that the callback is passed. -/
def txFlowControlState (isPaused : Bool) : MmwlanTxFlowControlState :=
  if isPaused then .paused else .ready

namespace FlowControl

def setPc (data : FlowControl) (task : FcTask) (pc : FcPc) : FlowControl :=
  { data with pc := update data.pc task pc }

/-- The critical section. -/
def updateTxPaused (data : FlowControl) (task : FcTask) (sourceMask : U16) (isPaused : Bool) :
    FlowControl :=
  let (txPaused, pauseStateChanged) := updateProtected data.txPaused sourceMask isPaused
  { data.setPc task (.updated pauseStateChanged isPaused) with
    txPaused := txPaused
    sources := fun i => if sourceMask.getLsbD i then isPaused else data.sources i }

/-- What follows the critical section. -/
def reportChange (data : FlowControl) (task : FcTask) (pauseStateChanged isPaused : Bool) :
    FlowControl :=
  let data := data.setPc task .idle
  let data := { data with
    txFlowcontrolSem := data.txFlowcontrolSem || (pauseStateChanged && !isPaused) }
  if pauseStateChanged && data.txFlowControlCallback then
    if task = 0 then { data with reported := some (txFlowControlState isPaused) }
    else { data with evtq := data.evtq ++ [.invokeTxFcCallback] }
  else data

/-- `umac_datapath_invoke_tx_fc_callback_handler`, up to where it calls the callback. -/
def invokeTxFcCallbackHandler (data : FlowControl) : FlowControl :=
  if data.txFlowControlCallback then
    data.setPc 0 (.reporting (txFlowControlState (data.txPaused != 0)))
  else data

end FlowControl

/-- A section that a task executes. -/
inductive FcEvent where
  /-- a task calls `umac_datapath_update_tx_paused`, `umac_datapath_pause` or
  `umac_datapath_unpause`, and leaves its critical section -/
  | update (task : FcTask) (sourceMask : U16) (isPaused : Bool)
  /-- a task goes on -/
  | goOn (task : FcTask)
  /-- the event loop takes the next event from the queue -/
  | dispatch
  /-- something else is queued, at the end or at the start -/
  | queueOther (atStart : Bool)

def fcStep (data : FlowControl) : FcEvent → Option FlowControl
  | .update task sourceMask isPaused =>
    match data.pc task with
    | .idle => some (data.updateTxPaused task sourceMask isPaused)
    | _ => some data
  | .goOn task =>
    match data.pc task with
    | .idle => some data
    | .updated pauseStateChanged isPaused =>
      some (data.reportChange task pauseStateChanged isPaused)
    | .reporting state => some { data.setPc task .idle with reported := some state }
  | .dispatch =>
    match data.pc 0, data.evtq with
    | .idle, .invokeTxFcCallback :: evtq =>
      some ({ data with evtq := evtq }.invokeTxFcCallbackHandler)
    | .idle, .other :: evtq => some { data with evtq := evtq }
    | _, _ => some data
  | .queueOther atStart =>
    some { data with evtq := if atStart then .other :: data.evtq else data.evtq ++ [.other] }

/-! ## What flow control promises -/

/-- `tx_paused` is the union of the sources that were last set. -/
def UnionOfSources (data : FlowControl) : Prop :=
  ∀ i : Fin 16, data.txPaused.getLsbD i = data.sources i

/-- No task is in these functions, and no report is queued. -/
def Drained (data : FlowControl) : Prop :=
  (∀ task, data.pc task = .idle) ∧ .invokeTxFcCallback ∉ data.evtq

/-- When nothing is left to report, the last report was PAUSED exactly when the transmit path is
paused. -/
def ReportsFinal (data : FlowControl) : Prop :=
  Drained data → (data.reported = some .paused ↔ data.txPaused ≠ 0)

/-- The event loop does not pause the transmit path for no source while it is not paused. -/
def PausesForASource (data : FlowControl) : FcEvent → Prop
  | .update task sourceMask isPaused =>
    task = 0 → isPaused = true → data.txPaused = 0 → sourceMask ≠ 0
  | _ => True

/-! ## The invariant -/

/-- A report that is still to come will read `tx_paused` again: another task is about to queue it,
or it is queued. -/
def ReportToCome (data : FlowControl) : Prop :=
  (∃ task isPaused, task ≠ 0 ∧ data.pc task = .updated true isPaused)
    ∨ .invokeTxFcCallback ∈ data.evtq

/-- What the event loop has reported, or is about to, is right. -/
def LoopReports (data : FlowControl) : Prop :=
  match data.pc 0 with
  | .updated true isPaused => isPaused = true ↔ data.txPaused ≠ 0
  | .reporting state => state = .paused ↔ data.txPaused ≠ 0
  | _ => data.reported = some .paused ↔ data.txPaused ≠ 0

theorem loopReports_of_idle {data : FlowControl} (hpc : data.pc 0 = .idle) :
    LoopReports data ↔ (data.reported = some .paused ↔ data.txPaused ≠ 0) := by
  unfold LoopReports
  rw [hpc]

/-- Unless a report is still to come, the event loop has the right value. -/
structure FlowControlOk (data : FlowControl) : Prop where
  callback : data.txFlowControlCallback = true
  union : UnionOfSources data
  reports : ReportToCome data ∨ LoopReports data
  others : ∀ task, task ≠ 0 → ∀ state, data.pc task ≠ .reporting state

theorem flowControlOk_init : FlowControlOk flowControlInit where
  callback := rfl
  union := fun i => BitVec.getLsbD_zero
  reports := .inr (by show none = some _ ↔ (0 : U16) ≠ 0; decide)
  others := fun _ _ _ => nofun

variable {data data' : FlowControl}

theorem FlowControlOk.reportsFinal (h : FlowControlOk data) : ReportsFinal data := by
  intro ⟨hidle, hqueue⟩
  rcases h.reports with htoCome | hloop
  · rcases htoCome with ⟨task, isPaused, -, hpc⟩ | hmem
    · cases (hidle task).symm.trans hpc
    · exact absurd hmem hqueue
  · exact (loopReports_of_idle (hidle 0)).mp hloop

/-! ## The critical section -/

section Protected

variable (txPaused sourceMask : U16) (isPaused : Bool)

theorem updateProtected_getLsbD (i : Fin 16) :
    (updateProtected txPaused sourceMask isPaused).1.getLsbD i
      = if sourceMask.getLsbD i then isPaused else txPaused.getLsbD i := by
  unfold updateProtected umacDatapathPauseProtected umacDatapathUnpauseProtected
  cases isPaused with
  | true =>
    show (txPaused ||| sourceMask).getLsbD i = _
    rw [BitVec.getLsbD_or]
    cases sourceMask.getLsbD i <;> simp
  | false =>
    show (txPaused &&& ~~~sourceMask).getLsbD i = _
    rw [BitVec.getLsbD_and, BitVec.getLsbD_not]
    cases sourceMask.getLsbD i <;> simp

theorem updateProtected_unchanged (h : (updateProtected txPaused sourceMask isPaused).2 = false) :
    (updateProtected txPaused sourceMask isPaused).1 ≠ 0 ↔ txPaused ≠ 0 := by
  unfold updateProtected umacDatapathPauseProtected umacDatapathUnpauseProtected at h ⊢
  cases isPaused with
  | true =>
    have hne : txPaused ≠ 0 := by simpa using h
    refine iff_of_true ?_ hne
    show txPaused ||| sourceMask ≠ 0
    intro hzero
    exact hne (BitVec.or_eq_zero_iff.mp hzero).1
  | false =>
    have hne : txPaused ≠ 0 → txPaused &&& ~~~sourceMask ≠ 0 := by simpa using h
    refine ⟨fun hafter hzero => hafter ?_, hne⟩
    show txPaused &&& ~~~sourceMask = 0
    rw [hzero]
    exact BitVec.zero_and

theorem updateProtected_changed (hmask : isPaused = true → txPaused = 0 → sourceMask ≠ 0)
    (h : (updateProtected txPaused sourceMask isPaused).2 = true) :
    isPaused = true ↔ (updateProtected txPaused sourceMask isPaused).1 ≠ 0 := by
  unfold updateProtected umacDatapathPauseProtected umacDatapathUnpauseProtected at h ⊢
  cases isPaused with
  | true =>
    have hzero : txPaused = 0 := by simpa using h
    refine iff_of_true rfl ?_
    show txPaused ||| sourceMask ≠ 0
    intro hafter
    exact hmask rfl hzero (BitVec.or_eq_zero_iff.mp hafter).2
  | false =>
    refine iff_of_false (by decide) (not_not.mpr ?_)
    show txPaused &&& ~~~sourceMask = 0
    have hboth : txPaused ≠ 0 ∧ txPaused &&& ~~~sourceMask = 0 := by simpa using h
    exact hboth.2

end Protected

/-! ## One section -/

@[simp]
theorem FlowControl.setPc_self (data : FlowControl) (task : FcTask) (pc : FcPc) :
    (data.setPc task pc).pc task = pc := update_self ..

theorem FlowControl.setPc_of_ne (data : FlowControl) {task task' : FcTask} (pc : FcPc)
    (h : task' ≠ task) : (data.setPc task pc).pc task' = data.pc task' := update_of_ne h ..

theorem ReportToCome.of_others (h : ReportToCome data)
    (hpc : ∀ task, task ≠ 0 → ∀ isPaused, data.pc task = .updated true isPaused →
      data'.pc task = .updated true isPaused)
    (hevtq : .invokeTxFcCallback ∈ data.evtq → .invokeTxFcCallback ∈ data'.evtq) :
    ReportToCome data' := by
  rcases h with ⟨task, isPaused, htask, hupdated⟩ | hmem
  · exact .inl ⟨task, isPaused, htask, hpc task htask isPaused hupdated⟩
  · exact .inr (hevtq hmem)

theorem LoopReports.of_same (h : LoopReports data) (hpc : data'.pc 0 = data.pc 0)
    (hreported : data'.reported = data.reported)
    (hpaused : data'.txPaused ≠ 0 ↔ data.txPaused ≠ 0) : LoopReports data' := by
  unfold LoopReports at h ⊢
  rw [hpc, hreported]
  split at h
  · exact h.trans hpaused.symm
  · exact h.trans hpaused.symm
  · exact h.trans hpaused.symm

theorem FlowControlOk.update {task : FcTask} {sourceMask : U16} {isPaused : Bool}
    (h : FlowControlOk data) (hidle : data.pc task = .idle)
    (hmask : PausesForASource data (.update task sourceMask isPaused)) :
    FlowControlOk (data.updateTxPaused task sourceMask isPaused) := by
  have hunchanged := updateProtected_unchanged data.txPaused sourceMask isPaused
  have hchanged := updateProtected_changed data.txPaused sourceMask isPaused
  have hbits := updateProtected_getLsbD data.txPaused sourceMask isPaused
  unfold FlowControl.updateTxPaused
  generalize updateProtected data.txPaused sourceMask isPaused = updated at *
  obtain ⟨txPaused, pauseStateChanged⟩ := updated
  refine ⟨h.callback, fun i => ?_, ?_, fun task' htask' state => ?_⟩
  · show txPaused.getLsbD i = if sourceMask.getLsbD i then isPaused else data.sources i
    rw [hbits i, h.union i]
  · by_cases htask : task = 0
    · subst htask
      rcases h.reports with htoCome | hloop
      · refine .inl (htoCome.of_others (fun task' htask' isPaused' hpc => ?_) id)
        exact (data.setPc_of_ne _ htask').trans hpc
      refine .inr ?_
      unfold LoopReports at hloop ⊢
      rw [hidle] at hloop
      show match (data.setPc 0 _).pc 0 with
        | .updated true isPaused => isPaused = true ↔ txPaused ≠ 0
        | .reporting state => state = .paused ↔ txPaused ≠ 0
        | _ => data.reported = some .paused ↔ txPaused ≠ 0
      rw [FlowControl.setPc_self]
      cases pauseStateChanged with
      | true => exact hchanged (hmask rfl) rfl
      | false => exact hloop.trans (hunchanged rfl).symm
    cases pauseStateChanged with
    | true => exact .inl (.inl ⟨task, isPaused, htask, data.setPc_self task _⟩)
    | false =>
      rcases h.reports with htoCome | hloop
      · refine .inl (htoCome.of_others (fun task' htask' isPaused' hpc => ?_) id)
        by_cases hsame : task' = task
        · subst hsame
          cases hidle.symm.trans hpc
        · exact (data.setPc_of_ne _ hsame).trans hpc
      · exact .inr (hloop.of_same (data.setPc_of_ne _ (Ne.symm htask)) rfl (hunchanged rfl))
  show (data.setPc task _).pc task' ≠ _
  by_cases hsame : task' = task
  · subst hsame
    rw [FlowControl.setPc_self]
    exact nofun
  · rw [data.setPc_of_ne _ hsame]
    exact h.others task' htask' state

theorem FlowControlOk.others_setPc_idle (h : FlowControlOk data) (task : FcTask) :
    ∀ task', task' ≠ 0 → ∀ state, (data.setPc task .idle).pc task' ≠ .reporting state := by
  intro task' htask' state
  by_cases hsame : task' = task
  · subst hsame
    rw [FlowControl.setPc_self]
    exact nofun
  · rw [data.setPc_of_ne _ hsame]
    exact h.others task' htask' state

theorem FlowControlOk.reportChange {task : FcTask} {pauseStateChanged isPaused : Bool}
    (h : FlowControlOk data) (hpc : data.pc task = .updated pauseStateChanged isPaused) :
    FlowControlOk (data.reportChange task pauseStateChanged isPaused) := by
  have hothers := h.others_setPc_idle task
  have hif : (pauseStateChanged && (data.setPc task .idle).txFlowControlCallback)
      = pauseStateChanged := by
    show (pauseStateChanged && data.txFlowControlCallback) = _
    rw [h.callback, Bool.and_true]
  unfold FlowControl.reportChange
  dsimp only
  rw [hif]
  cases pauseStateChanged with
  | true =>
    rw [if_pos rfl]
    by_cases htask : task = 0
    · subst htask
      rw [if_pos rfl]
      refine ⟨h.callback, h.union, ?_, hothers⟩
      rcases h.reports with htoCome | hloop
      · refine .inl (htoCome.of_others (fun task' htask' isPaused' hpc' => ?_) id)
        exact (data.setPc_of_ne _ htask').trans hpc'
      refine .inr ((loopReports_of_idle ?_).mpr ?_)
      · exact data.setPc_self 0 .idle
      unfold LoopReports at hloop
      rw [hpc] at hloop
      refine Iff.trans ?_ hloop
      show some (txFlowControlState isPaused) = some .paused ↔ isPaused = true
      cases isPaused <;> decide
    · rw [if_neg htask]
      refine ⟨h.callback, h.union, .inl (.inr ?_), hothers⟩
      exact List.mem_append_right _ (List.mem_singleton_self _)
  | false =>
    -- there is nothing to report
    rw [if_neg (by decide)]
    refine ⟨h.callback, h.union, ?_, hothers⟩
    rcases h.reports with htoCome | hloop
    · refine .inl (htoCome.of_others (fun task' htask' isPaused' hpc' => ?_) id)
      by_cases hsame : task' = task
      · subst hsame
        cases hpc.symm.trans hpc'
      · exact (data.setPc_of_ne _ hsame).trans hpc'
    refine .inr ?_
    by_cases htask : task = 0
    · subst htask
      refine (loopReports_of_idle (data.setPc_self 0 .idle)).mpr ?_
      unfold LoopReports at hloop
      rwa [hpc] at hloop
    · exact hloop.of_same (data.setPc_of_ne _ (Ne.symm htask)) rfl Iff.rfl

theorem FlowControlOk.report {task : FcTask} {state : MmwlanTxFlowControlState}
    (h : FlowControlOk data) (hpc : data.pc task = .reporting state) :
    FlowControlOk { data.setPc task .idle with reported := some state } := by
  have htask : task = 0 := by
    by_contra htask
    exact h.others task htask state hpc
  subst htask
  refine ⟨h.callback, h.union, ?_, h.others_setPc_idle 0⟩
  rcases h.reports with htoCome | hloop
  · refine .inl (htoCome.of_others (fun task' htask' isPaused' hpc' => ?_) id)
    exact (data.setPc_of_ne _ htask').trans hpc'
  refine .inr ((loopReports_of_idle ?_).mpr ?_)
  · exact data.setPc_self 0 .idle
  unfold LoopReports at hloop
  rw [hpc] at hloop
  refine Iff.trans ?_ hloop
  exact ⟨fun hstate => Option.some.inj hstate, fun hstate => congrArg some hstate⟩

theorem FlowControlOk.invokeTxFcCallbackHandler (h : FlowControlOk data) (evtq : List FcEvt) :
    FlowControlOk { data with evtq := evtq }.invokeTxFcCallbackHandler := by
  unfold FlowControl.invokeTxFcCallbackHandler
  rw [if_pos h.callback]
  refine ⟨h.callback, h.union, .inr ?_, fun task htask state => ?_⟩
  · unfold LoopReports
    rw [FlowControl.setPc_self]
    show txFlowControlState (data.txPaused != 0) = .paused ↔ data.txPaused ≠ 0
    unfold txFlowControlState
    by_cases hzero : data.txPaused = 0
    · rw [hzero]
      decide
    · rw [if_pos (bne_iff_ne.mpr hzero)]
      exact iff_of_true rfl hzero
  · rw [FlowControl.setPc_of_ne _ _ htask]
    exact h.others task htask state

theorem FlowControlOk.of_evtq (h : FlowControlOk data) {evtq : List FcEvt}
    (hevtq : .invokeTxFcCallback ∈ data.evtq → .invokeTxFcCallback ∈ evtq) :
    FlowControlOk { data with evtq := evtq } := by
  refine ⟨h.callback, h.union, ?_, h.others⟩
  rcases h.reports with htoCome | hloop
  · exact .inl (htoCome.of_others (fun _ _ _ hpc => hpc) hevtq)
  · exact .inr (hloop.of_same rfl rfl Iff.rfl)

theorem FlowControlOk.step {e : FcEvent} (h : FlowControlOk data) (hmask : PausesForASource data e)
    (hstep : fcStep data e = some data') : FlowControlOk data' := by
  cases e with
  | update task sourceMask isPaused =>
    simp only [fcStep] at hstep
    split at hstep
    · next hidle =>
      cases hstep
      exact h.update hidle hmask
    · cases hstep
      exact h
  | goOn task =>
    simp only [fcStep] at hstep
    split at hstep
    · cases hstep
      exact h
    · next hpc =>
      cases hstep
      exact h.reportChange hpc
    · next hpc =>
      cases hstep
      exact h.report hpc
  | dispatch =>
    simp only [fcStep] at hstep
    split at hstep
    · cases hstep
      exact h.invokeTxFcCallbackHandler _
    · next hevtq =>
      cases hstep
      refine h.of_evtq fun hmem => ?_
      rw [hevtq] at hmem
      exact (List.mem_cons.mp hmem).resolve_left nofun
    · cases hstep
      exact h
  | queueOther atStart =>
    cases hstep
    refine h.of_evtq fun hmem => ?_
    split
    · exact List.mem_cons_of_mem _ hmem
    · exact List.mem_append_left _ hmem

/-! ## Whole runs -/

end MmIotEsp32.Umac.Datapath
