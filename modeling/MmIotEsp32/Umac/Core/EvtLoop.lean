/-
  MmIotEsp32.Umac.Core.EvtLoop

  The event loop and the tasks that queue events for it (`umac/core/umac_evtloop.c`,
  `umac_evtq.c`, `UMAC_QUEUE_EVT_AND_WAIT`, and the functions of `umac/umac.c` that use it).
-/
import Mathlib.Logic.Function.Basic
import MmIotEsp32.Lib.Transition

namespace MmIotEsp32.Umac.Core

open Function

/-! ## The functions that queue events -/

def umacEvtqMaxlen : Nat := 25

def maxEvtsDispatchedAtOnce : Nat := 5

/-- What a function does about the event loop before it queues an event. -/
inductive EvtEntry where
  | direct
  /-- It returns unless `umac_core_is_running`. -/
  | ifRunning
  /-- `umac_core_start`, whose status is not looked at. -/
  | start
  /-- `umac_core_start`; it returns unless that is successful. -/
  | startOrReturn
  deriving DecidableEq, Repr

/-- When `umac_stop_core_if_no_interface` follows. -/
inductive StopPolicy where
  | never
  | always
  | onFailure
  /-- When the event was queued, and after the callback of `umac_interface_register_inactive_cb`. -/
  | afterInactive
  deriving DecidableEq, Repr

/-- A function that queues an event. -/
structure ApiCall where
  entry : EvtEntry
  queues : Bool
  /-- `UMAC_QUEUE_EVT_AND_WAIT` -/
  waits : Bool
  /-- `umac_core_evt_queue_at_start` -/
  atStart : Bool
  stops : StopPolicy
  deriving DecidableEq, Repr

/-- A function that queues an event and goes on. -/
def ApiCall.nowait (entry : EvtEntry) (stops : StopPolicy) : ApiCall :=
  ⟨entry, true, false, false, stops⟩

/-- A function that waits for its event. -/
def ApiCall.andWait (entry : EvtEntry) (stops : StopPolicy) : ApiCall :=
  ⟨entry, true, true, false, stops⟩

def mmwlanBoot : ApiCall := .andWait .startOrReturn .always
def mmwlanStaEnable : ApiCall := .andWait .start .always
def mmwlanStaEnableNowait : ApiCall := .nowait .start .always
def mmwlanStaDisable : ApiCall := .andWait .ifRunning .always
def mmwlanStaDisableNowait : ApiCall := .nowait .ifRunning .always
def mmwlanRoam : ApiCall := .nowait .ifRunning .never
def mmwlanDppStart : ApiCall := .andWait .start .always
def mmwlanDppStop : ApiCall := .andWait .direct .never
def mmwlanApEnable : ApiCall := .andWait .startOrReturn .always
def mmwlanScanRequest : ApiCall := .nowait .startOrReturn .onFailure
def mmwlanScanAbort : ApiCall := .nowait .direct .onFailure
def mmwlanShutdown : ApiCall := .nowait .ifRunning .afterInactive
def mmwlanShutdownNowait : ApiCall := .nowait .ifRunning .never
def mmwlanSetDynamicPsTimeout : ApiCall := .andWait .ifRunning .never
def mmwlanSetPowerSaveMode : ApiCall := .nowait .direct .never
def mmwlanSetWhitelistFilter : ApiCall := .nowait .direct .never
def mmwlanStopCoreIfNoInterface : ApiCall := ⟨.direct, false, false, false, .always⟩

/-- `mmdrv_host_hw_restart_required`, a driver function. -/
def mmdrvHostHwRestartRequired : ApiCall := ⟨.direct, true, false, true, .never⟩

/-! ## Tasks and loops -/

/-- Where a task is: outside, or before the named step of a function.  `id` is the number of the
event that was accepted. -/
inductive TaskPc where
  /-- It has returned; a nowait function returns `MMWLAN_SUCCESS` when an event was accepted. -/
  | returned (id : Option Nat)
  | begins (api : ApiCall)
  /-- `umac_core_start` has found `evtloop_task == NULL`. -/
  | startWrites (api : ApiCall)
  /-- `evtloop_shutting_down` is reset, `evtloop_has_finished` is not. -/
  | startResets (api : ApiCall)
  /-- Before `evtloop_semb` is made. -/
  | startMakes (api : ApiCall)
  /-- Before the loop task is created. -/
  | startCreates (api : ApiCall)
  /-- The loop task exists; `evtloop_task` is still `NULL`. -/
  | startAssigns (api : ApiCall) (loop : Nat)
  /-- `umac_core_evt_queue`, before `evtloop_shutting_down` is read. -/
  | checks (api : ApiCall)
  /-- Before `evtloop_task` is read. -/
  | checksTask (api : ApiCall)
  /-- Before `umac_evt_queue`. -/
  | queues (api : ApiCall)
  /-- Before `mmosal_semb_give(core->evtloop_semb)`. -/
  | gives (api : ApiCall) (id : Option Nat)
  /-- In `mmosal_semb_wait(evt.args.….semb, UINT32_MAX)`. -/
  | waits (api : ApiCall) (id : Nat)
  /-- `mmwlan_shutdown` waits for the inactive callback. -/
  | awaitsInactive (id : Option Nat)
  /-- `umac_stop_core_if_no_interface`. -/
  | stopTests (id : Option Nat)
  /-- `umac_core_stop`, before `evtloop_shutting_down` is read. -/
  | stopEnters (id : Option Nat)
  /-- Before it is set. -/
  | stopSets (id : Option Nat)
  /-- Before `evtloop_task` is read. -/
  | stopWakes (id : Option Nat)
  /-- Before the loop is woken. -/
  | stopGives (id : Option Nat)
  /-- In the loop on `evtloop_has_finished`. -/
  | stopPolls (id : Option Nat)
  /-- Before `evtloop_task = NULL`. -/
  | stopClears (id : Option Nat)
  deriving DecidableEq, Repr

/-- A queued `struct umac_evt`.  The number and the run are bookkeeping: `run` is the loop task
that was created last when the event was queued. -/
structure Evt (T : Type*) where
  id : Nat
  run : Nat
  /-- The task whose semaphore the handler gives. -/
  waiter : Option T
  deriving DecidableEq, Repr

/-- Where an event loop task is. -/
inductive LoopPc (T : Type*) where
  | absent
  /-- Before `while (!core->evtloop_shutting_down)`. -/
  | tests
  /-- In `evtloop_iteration`, before the next `umac_evt_dequeue`. -/
  | iterates (ii : Nat)
  /-- In `evtloop_dispatch`. -/
  | handles (ii : Nat) (evt : Evt T)
  /-- Before `umac_evt_free`. -/
  | frees (ii : Nat)
  /-- After the events, before it is decided how long to sleep. -/
  | timeouts
  /-- In `mmosal_semb_wait(core->evtloop_semb, next_timeout)`. -/
  | sleeps
  /-- After the loop, before `mmosal_semb_delete`. -/
  | deletes
  /-- Before `evtloop_has_finished = true`. -/
  | finishes
  | finished
  deriving DecidableEq, Repr

/-- It has not found `evtloop_shutting_down` set. -/
def LoopPc.InLoop {T : Type*} : LoopPc T → Prop
  | .tests | .iterates _ | .handles .. | .frees _ | .timeouts | .sleeps => True
  | _ => False

/-- A dispatched event, and whether the run it was queued in had not ended then. -/
structure Dispatch where
  id : Nat
  inRun : Bool
  deriving DecidableEq, Repr

variable {T : Type*}

/-- `struct umac_core_data` and `active_interface_types != 0`, with the tasks and the loop tasks
that were created.  `accepted` counts the events for which `umac_core_evt_queue` returned true;
it and `dispatched` are bookkeeping. -/
structure EvtLoopState (T : Type*) where
  evtq : List (Evt T)
  free : Nat
  evtloopTask : Option Nat
  /-- Whether the semaphore is given; `none` is `NULL`. -/
  evtloopSemb : Option Bool
  shuttingDown : Bool
  hasFinished : Bool
  ifaceActive : Bool
  created : Nat
  loops : Nat → LoopPc T
  tasks : T → TaskPc
  /-- The semaphore of `UMAC_QUEUE_EVT_AND_WAIT` in each task. -/
  sembs : T → Bool
  accepted : Nat
  dispatched : List Dispatch

/-- After `umac_core_init`. -/
def EvtLoopState.init : EvtLoopState T where
  evtq := []
  free := umacEvtqMaxlen
  evtloopTask := none
  evtloopSemb := none
  shuttingDown := false
  hasFinished := false
  ifaceActive := false
  created := 0
  loops := fun _ => .absent
  tasks := fun _ => .returned none
  sembs := fun _ => false
  accepted := 0
  dispatched := []

/-- The run has not ended. -/
def EvtLoopState.InLoop (s : EvtLoopState T) (loop : Nat) : Prop := (s.loops loop).InLoop

instance (c : LoopPc T) : Decidable c.InLoop :=
  match c with
  | .tests | .iterates _ | .handles .. | .frees _ | .timeouts | .sleeps => isTrue trivial
  | .absent | .deletes | .finishes | .finished => isFalse fun h => h

instance (s : EvtLoopState T) (loop : Nat) : Decidable (s.InLoop loop) :=
  inferInstanceAs (Decidable (s.loops loop).InLoop)

/-! ## The steps of a task -/

/-- What follows the queueing. -/
def afterQueue (api : ApiCall) (id : Option Nat) : TaskPc :=
  match api.stops with
  | .never => .returned id
  | .always => .stopTests id
  | .onFailure => if id.isNone then .stopTests id else .returned id
  | .afterInactive => if id.isNone then .returned id else .awaitsInactive id

/-- What follows the part about the loop. -/
def afterEntry (api : ApiCall) : TaskPc :=
  if api.queues then .checks api else afterQueue api none

/-- What follows an `umac_core_start` that fails. -/
def afterFailedStart (api : ApiCall) : TaskPc :=
  match api.entry with
  | .startOrReturn => .returned none
  | _ => afterEntry api

variable [DecidableEq T]

def EvtLoopState.goTo (s : EvtLoopState T) (k : T) (pc : TaskPc) : EvtLoopState T :=
  { s with tasks := update s.tasks k pc }

/-- `umac_evt_queue`: whether there is an entry for the event. -/
def EvtLoopState.umacEvtQueue (s : EvtLoopState T) (evt : Evt T) (atStart : Bool) :
    Bool × EvtLoopState T :=
  if s.free = 0 then (false, s)
  else
    (true, { s with
      free := s.free - 1
      evtq := if atStart then evt :: s.evtq else s.evtq ++ [evt] })

/-- The next step of a task; `ok` says whether what it allocates is there.  `none`: a semaphore
that is `NULL`, or deleted, is given or deleted. -/
def EvtLoopState.runTask (s : EvtLoopState T) (k : T) (ok : Bool) : Option (EvtLoopState T) :=
  match s.tasks k with
  | .returned _ => some s
  | .begins api =>
    match api.entry with
    | .direct => some (s.goTo k (afterEntry api))
    | .ifRunning =>
      some (s.goTo k (if s.evtloopTask.isNone then .returned none else afterEntry api))
    | .start | .startOrReturn =>
      some (s.goTo k (if s.evtloopTask.isNone then .startWrites api else afterEntry api))
  | .startWrites api => some ({ s with shuttingDown := false }.goTo k (.startResets api))
  | .startResets api => some ({ s with hasFinished := false }.goTo k (.startMakes api))
  | .startMakes api =>
    if ok then some ({ s with evtloopSemb := some false }.goTo k (.startCreates api))
    else some ({ s with evtloopSemb := none }.goTo k (afterFailedStart api))
  | .startCreates api =>
    if ok then
      let loop := s.created + 1
      some ({ s with
        created := loop
        loops := update s.loops loop .tests }.goTo k (.startAssigns api loop))
    else
      match s.evtloopSemb with
      | none => none
      | some _ => some ({ s with evtloopSemb := none }.goTo k (afterFailedStart api))
  -- the loop may run for some time before its handle is known
  | .startAssigns api loop => some ({ s with evtloopTask := some loop }.goTo k (afterEntry api))
  | .checks api =>
    -- a function that waits makes its semaphore first
    if (api.waits || api.stops == .afterInactive) && !ok then
      some (s.goTo k (afterQueue api none))
    else
      let s' := { s with
        sembs := if api.waits then update s.sembs k false else s.sembs }
      -- the flag and the handle are read one after the other
      if s.shuttingDown then some (s'.goTo k (afterQueue api none))
      else some (s'.goTo k (.checksTask api))
  | .checksTask api =>
    some (s.goTo k (if s.evtloopTask.isNone then afterQueue api none else .queues api))
  | .queues api =>
    let evt : Evt T := ⟨s.accepted, s.created, if api.waits then some k else none⟩
    match s.umacEvtQueue evt api.atStart with
    -- the loop is woken in either case
    | (false, s') => some (s'.goTo k (.gives api none))
    | (true, s') =>
      some ({ s' with accepted := s.accepted + 1 }.goTo k (.gives api (some s.accepted)))
  | .gives api id =>
    match s.evtloopSemb with
    | none => none
    | some _ =>
      let s' := { s with evtloopSemb := some true }
      match id with
      | none => some (s'.goTo k (afterQueue api none))
      | some id =>
        some (s'.goTo k (if api.waits then .waits api id else afterQueue api (some id)))
  | .waits api id =>
    if s.sembs k then
      some ({ s with sembs := update s.sembs k false }.goTo k (afterQueue api (some id)))
    else some s
  | .awaitsInactive _ => some s
  | .stopTests id =>
    some (s.goTo k (if s.ifaceActive then .returned id else .stopEnters id))
  | .stopEnters id => some (s.goTo k (if s.shuttingDown then .returned id else .stopSets id))
  | .stopSets id => some ({ s with shuttingDown := true }.goTo k (.stopWakes id))
  | .stopWakes id =>
    some (s.goTo k (if s.evtloopTask.isNone then .returned id else .stopGives id))
  | .stopGives id =>
    match s.evtloopSemb with
    | none => none
    | some _ => some ({ s with evtloopSemb := some true }.goTo k (.stopPolls id))
  | .stopPolls id => some (if s.hasFinished then s.goTo k (.stopClears id) else s)
  | .stopClears id => some ({ s with evtloopTask := none }.goTo k (.returned id))

/-! ## The steps of a loop -/

def EvtLoopState.setLoop (s : EvtLoopState T) (loop : Nat) (pc : LoopPc T) : EvtLoopState T :=
  { s with loops := update s.loops loop pc }

/-- The next step of an event loop task: `active` is whether an interface is active after a
handler, `flag` that there is nothing else to do before it sleeps, or that its sleep is over. -/
def EvtLoopState.runLoop (s : EvtLoopState T) (loop : Nat) (active flag : Bool) :
    Option (EvtLoopState T) :=
  match s.loops loop with
  | .absent => some s
  -- the queue is not looked at
  | .tests => some (s.setLoop loop (if s.shuttingDown then .deletes else .iterates 0))
  | .iterates ii =>
    -- the time-outs have their turn after that many events
    if ii < maxEvtsDispatchedAtOnce then
      match s.evtq with
      | [] => some (s.setLoop loop .timeouts)
      | evt :: evts =>
        some ({ s with
          evtq := evts
          dispatched :=
            s.dispatched ++ [Dispatch.mk evt.id (decide (s.InLoop evt.run))] }.setLoop loop
              (.handles ii evt))
    else some (s.setLoop loop .timeouts)
  | .handles ii evt =>
    some ({ s with
      -- a handler may make an interface active, or the last one inactive
      ifaceActive := active
      sembs := match evt.waiter with
        | some k => update s.sembs k true
        | none => s.sembs }.setLoop loop (.frees ii))
  | .frees ii => some ({ s with free := s.free + 1 }.setLoop loop (.iterates (ii + 1)))
  -- events may have been queued since the queue was found empty
  | .timeouts => some (s.setLoop loop (if s.evtq.isEmpty && flag then .sleeps else .tests))
  | .sleeps =>
    match s.evtloopSemb with
    | none => none
    | some true => some ({ s with evtloopSemb := some false }.setLoop loop .tests)
    -- it goes on sleeping until its time is over
    | some false => some (if flag then s.setLoop loop .tests else s)
  | .deletes =>
    match s.evtloopSemb with
    | none => none
    | some _ => some ({ s with evtloopSemb := none }.setLoop loop .finishes)
  | .finishes => some ({ s with hasFinished := true }.setLoop loop .finished)
  | .finished => some s

/-- What happens. -/
inductive EvtLoopEvent (T : Type*) where
  /-- A task calls a function. -/
  | call (k : T) (api : ApiCall)
  /-- A task goes on. -/
  | task (k : T) (ok : Bool)
  /-- A loop task goes on. -/
  | loop (loop : Nat) (active flag : Bool)
  /-- Interfaces become active or inactive otherwise. -/
  | interface (active : Bool)
  /-- The inactive callback of a task. -/
  | inactive (k : T)
  deriving DecidableEq, Repr

/-- One step of the system. -/
def evtLoopStep (s : EvtLoopState T) : EvtLoopEvent T → Option (EvtLoopState T)
  | .call k api =>
    match s.tasks k with
    | .returned _ => some (s.goTo k (.begins api))
    | _ => some s
  | .task k ok => s.runTask k ok
  | .loop loop active flag => s.runLoop loop active flag
  | .interface active => some { s with ifaceActive := active }
  | .inactive k =>
    match s.tasks k with
    | .awaitsInactive id => some (s.goTo k (.stopTests id))
    | _ => some s

end MmIotEsp32.Umac.Core
