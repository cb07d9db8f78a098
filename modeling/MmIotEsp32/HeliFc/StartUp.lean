/-
  MmIotEsp32.HeliFc.StartUp

  The start-up of the agents (`main.c`, and each task up to its loop): who advertises a topic
  and who subscribes to it, in an order that only the delays and the scheduler decide.
-/
import Mathlib.Logic.Function.Basic
import MmIotEsp32.HeliFc.Uorb.Uorb
import MmIotEsp32.Lib.Transition

namespace MmIotEsp32.HeliFc

open Lib Function

variable {α : Type*}

/-! ## The tasks -/

/-- `app_main` and the tasks of the agents. -/
inductive TaskId where
  | appMain
  | sensor
  | sysmon
  | flightCtrl
  | actuator
  deriving Repr, DecidableEq

def taskIds : List TaskId := [.appMain, .sensor, .sysmon, .flightCtrl, .actuator]

/-- What a task does before its loop, as far as the topics are concerned. -/
inductive StartOp where
  /-- `xTaskCreatePinnedToCoreWithCaps`. -/
  | createTask (task : TaskId)
  /-- `vTaskDelay`. -/
  | taskDelay (ticks : Nat)
  /-- The initialisation that a task does not survive when it fails. -/
  | initHardware
  | advertise (topic : OrbId)
  | subscribe (topic : OrbId)
  deriving Repr, DecidableEq

/-- `app_main` from `orb_init` on, and the tasks; a tick is a millisecond. -/
def startScript : TaskId → List StartOp
  | .appMain =>
    [.createTask .sensor, .taskDelay 100, .createTask .sysmon, .createTask .flightCtrl,
      .createTask .actuator]
  | .sensor =>
    [.initHardware, .advertise .sensorImu, .advertise .sensorBaro, .advertise .sensorMag,
      .advertise .sensorGps, .advertise .vehicleAttitude, .advertise .vehicleLocalPosition,
      .advertise .rcChannels, .advertise .airspeed]
  | .sysmon =>
    [.taskDelay 1000, .advertise .batteryStatus, .advertise .vehicleStatus,
      .subscribe .sensorImu, .subscribe .sensorBaro, .subscribe .sensorMag,
      .subscribe .sensorGps, .subscribe .rcChannels, .subscribe .vehicleAttitude,
      .subscribe .vehicleLocalPosition, .subscribe .actuatorControls]
  | .flightCtrl =>
    [.taskDelay 500, .subscribe .vehicleAttitude, .subscribe .vehicleLocalPosition,
      .subscribe .rcChannels, .subscribe .vehicleStatus, .subscribe .sensorGps,
      .subscribe .airspeed, .advertise .actuatorControls]
  | .actuator =>
    [.initHardware, .taskDelay 1000, .subscribe .actuatorControls, .subscribe .vehicleStatus]

inductive TaskPhase where
  /-- Not created yet. -/
  | waiting
  | running
  /-- `vTaskDelete`. -/
  | deleted
  deriving Repr, DecidableEq

/-- A task: it does not run before `wakeTick`; `script` is what it has still to do. -/
structure StartTask where
  phase : TaskPhase
  wakeTick : Nat
  script : List StartOp

/-- The tick count, the tasks, `s_topics`, and the subscriptions that each task holds. -/
structure StartUp (α : Type*) where
  tick : Nat
  tasks : TaskId → StartTask
  topics : OrbId → OrbTopicMeta α
  handles : TaskId → OrbId → Option Nat

def startInit : StartUp α where
  tick := 0
  tasks := fun task => ⟨if task = .appMain then .running else .waiting, 0, startScript task⟩
  topics := fun _ => .zero
  handles := fun _ _ => none

/-- How the calls of a step turn out. -/
structure StartOutcome where
  taskCreated : Bool
  hardwareOk : Bool
  heap : OrbHeap
  deriving Repr, DecidableEq

inductive StartEvent (α : Type*) where
  | tick
  /-- The task makes its next call. -/
  | run (task : TaskId) (outcome : StartOutcome)
  /-- A task that is in its loop publishes. -/
  | publish (task : TaskId) (topic : OrbId) (data : α)
  /-- A task that is in its loop copies what its subscription has. -/
  | copy (task : TaskId) (topic : OrbId)

def StartUp.setTask (s : StartUp α) (task : TaskId) (t : StartTask) : StartUp α :=
  { s with tasks := update s.tasks task t }

def StartUp.setTopic (s : StartUp α) (topic : OrbId) (t : OrbTopicMeta α) : StartUp α :=
  { s with topics := update s.topics topic t }

def StartUp.setHandle (s : StartUp α) (task : TaskId) (topic : OrbId) (sub : Option Nat) :
    StartUp α :=
  { s with handles := update s.handles task (update (s.handles task) topic sub) }

/-- The task goes on to the rest of its script. -/
def StartUp.pop (s : StartUp α) (task : TaskId) (rest : List StartOp) : StartUp α :=
  s.setTask task { s.tasks task with script := rest }

/-- A call of the task. -/
def startCall (s : StartUp α) (task : TaskId) (outcome : StartOutcome) :
    StartOp → Option (StartUp α)
  | .createTask new =>
    -- without memory there is no task, and nobody looks
    if outcome.taskCreated then
      some (s.setTask new { s.tasks new with phase := .running, wakeTick := s.tick })
    else some s
  | .taskDelay ticks => some (s.setTask task { s.tasks task with wakeTick := s.tick + ticks })
  | .initHardware =>
    if outcome.hardwareOk then some s
    else some (s.setTask task { s.tasks task with phase := .deleted })
  | .advertise topic =>
    (orbAdvertise outcome.heap (s.topics topic) (orbDataSize topic)).map fun r =>
      s.setTopic topic r.2
  | .subscribe topic =>
    let r := orbSubscribe outcome.heap (s.topics topic)
    some ((s.setTopic topic r.2).setHandle task topic r.1)

/-- The task can run. -/
def StartUp.Ready (s : StartUp α) (task : TaskId) : Prop :=
  (s.tasks task).phase = .running ∧ (s.tasks task).wakeTick ≤ s.tick

instance (s : StartUp α) (task : TaskId) : Decidable (s.Ready task) :=
  inferInstanceAs (Decidable (_ ∧ _))

/-- The task is in its loop. -/
def StartUp.Started (s : StartUp α) (task : TaskId) : Prop :=
  s.Ready task ∧ (s.tasks task).script = []

instance (s : StartUp α) (task : TaskId) : Decidable (s.Started task) :=
  inferInstanceAs (Decidable (_ ∧ _))

/-- One step; none when it is not possible, or when it stops the program. -/
def startStep (s : StartUp α) : StartEvent α → Option (StartUp α)
  | .tick => some { s with tick := s.tick + 1 }
  | .run task outcome =>
    match (s.tasks task).script with
    | [] => none
    | op :: rest =>
      if s.Ready task then
        startCall (s.pop task rest) task outcome op
      else none
  | .publish task topic data =>
    if s.Started task then
      match orbPublish (s.topics topic).toOrbTopic data with
      | some t => some (s.setTopic topic { s.topics topic with toOrbTopic := t })
      | none => some s
    else none
  | .copy task topic =>
    if s.Started task then
      match (s.handles task topic).bind (orbCopy (s.topics topic).toOrbTopic) with
      | some (_, t) => some (s.setTopic topic { s.topics topic with toOrbTopic := t })
      | none => some s
    else none

/-! ## What a step changes -/

section

variable (s : StartUp α)

@[simp] theorem StartUp.setTask_self (task : TaskId) (t : StartTask) :
    (s.setTask task t).tasks task = t := update_self ..

@[simp] theorem StartUp.setTask_topics (task : TaskId) (t : StartTask) :
    (s.setTask task t).topics = s.topics := rfl

@[simp] theorem StartUp.setTopic_self (topic : OrbId) (t : OrbTopicMeta α) :
    (s.setTopic topic t).topics topic = t := update_self ..

@[simp] theorem StartUp.setHandle_topics (task : TaskId) (topic : OrbId) (sub : Option Nat) :
    (s.setHandle task topic sub).topics = s.topics := rfl

@[simp] theorem StartUp.setHandle_self (task : TaskId) (topic : OrbId) (sub : Option Nat) :
    (s.setHandle task topic sub).handles task topic = sub := by
  simp [StartUp.setHandle]

variable {s}

theorem StartUp.setTask_of_ne {task other : TaskId} {t : StartTask} (h : other ≠ task) :
    (s.setTask task t).tasks other = s.tasks other := update_of_ne h ..

theorem StartUp.setTopic_of_ne {topic other : OrbId} {t : OrbTopicMeta α} (h : other ≠ topic) :
    (s.setTopic topic t).topics other = s.topics other := update_of_ne h ..

theorem StartUp.setHandle_of_ne {task other : TaskId} {topic topic' : OrbId} {sub : Option Nat}
    (h : ¬ (other = task ∧ topic' = topic)) :
    (s.setHandle task topic sub).handles other topic' = s.handles other topic' := by
  unfold StartUp.setHandle
  by_cases htask : other = task
  · subst htask
    have htopic : topic' ≠ topic := fun heq => h ⟨rfl, heq⟩
    simp [htopic]
  · simp [htask]

end

variable {task : TaskId} {s s' : StartUp α}

theorem startStep_run {outcome : StartOutcome} (h : startStep s (.run task outcome) = some s') :
    s.Ready task ∧ ∃ op rest, (s.tasks task).script = op :: rest
      ∧ startCall (s.pop task rest) task outcome op = some s' := by
  simp only [startStep] at h
  split at h
  · cases h
  next op rest hscript =>
    split at h
    · next hready => exact ⟨hready, op, rest, hscript, h⟩
    · cases h

variable {e : StartEvent α}

theorem startStep_loop
    (hrun : ∀ task outcome, e ≠ .run task outcome) (h : startStep s e = some s') :
    s'.tasks = s.tasks ∧ s'.handles = s.handles ∧ s.tick ≤ s'.tick
      ∧ ∀ topic, (s'.topics topic).advertised = (s.topics topic).advertised
        ∧ (s'.topics topic).subscriberQueues.length = (s.topics topic).subscriberQueues.length := by
  have hset : ∀ {topic : OrbId} {t : OrbTopic α},
      (t.advertised = (s.topics topic).advertised
        ∧ t.subscriberQueues.length = (s.topics topic).subscriberQueues.length) →
      ∀ other, ((s.setTopic topic { s.topics topic with toOrbTopic := t }).topics other).advertised
          = (s.topics other).advertised
        ∧ ((s.setTopic topic { s.topics topic with toOrbTopic := t }).topics
            other).subscriberQueues.length
          = (s.topics other).subscriberQueues.length := by
    intro topic t ht other
    by_cases hother : other = topic
    · subst hother
      simpa using ht
    · rw [StartUp.setTopic_of_ne hother]
      exact ⟨rfl, rfl⟩
  cases e with
  | tick =>
    simp only [startStep, Option.some.injEq] at h
    obtain rfl := h
    exact ⟨rfl, rfl, Nat.le_succ _, fun _ => ⟨rfl, rfl⟩⟩
  | run task outcome => exact absurd rfl (hrun task outcome)
  | publish task topic data =>
    simp only [startStep] at h
    split at h
    · split at h
      · next t hpublish =>
          cases h
          refine ⟨rfl, rfl, le_refl _, hset ?_⟩
          obtain ⟨hadvertised, hlength⟩ := orbPublish_subs hpublish
          refine ⟨hadvertised.trans ?_, hlength⟩
          unfold orbPublish at hpublish
          split at hpublish
          · next hbefore => exact hbefore.symm
          · cases hpublish
      · cases h
        exact ⟨rfl, rfl, le_refl _, fun _ => ⟨rfl, rfl⟩⟩
    · cases h
  | copy task topic =>
    simp only [startStep] at h
    split at h
    · split at h
      · next data t hcopy =>
          cases h
          obtain ⟨sub, -, hsub⟩ := Option.bind_eq_some_iff.mp hcopy
          exact ⟨rfl, rfl, le_refl _, hset (orbCopy_subs hsub)⟩
      · cases h
        exact ⟨rfl, rfl, le_refl _, fun _ => ⟨rfl, rfl⟩⟩
    · cases h

/-! ## A topic has room for its subscribers -/

/-- The subscriptions to a topic that are still to be made. -/
def StartUp.toSubscribe (s : StartUp α) (topic : OrbId) : Nat :=
  (taskIds.map fun task => (s.tasks task).script.count (.subscribe topic)).sum

structure StartOk (s : StartUp α) : Prop where
  room : ∀ topic,
    (s.topics topic).subscriberQueues.length + s.toSubscribe topic ≤ orbMaxSubscribers
  handle : ∀ task topic sub, s.handles task topic = some sub →
    (s.topics topic).advertised = true ∧ sub < (s.topics topic).subscriberQueues.length

theorem startInit_ok : StartOk (startInit : StartUp α) where
  room := fun topic => by
    show 0 + (taskIds.map fun task => (startScript task).count (.subscribe topic)).sum ≤ _
    cases topic <;> decide
  handle := fun _ _ _ h => by cases h

theorem toSubscribe_setTask (s : StartUp α) (task : TaskId) (t : StartTask) (topic : OrbId) :
    (s.setTask task t).toSubscribe topic + (s.tasks task).script.count (.subscribe topic)
      = s.toSubscribe topic + t.script.count (.subscribe topic) := by
  cases task <;> simp [StartUp.toSubscribe, taskIds, StartUp.setTask] <;> omega

variable {s : StartUp α} {topic : OrbId}

theorem toSubscribe_setTask_le {t : StartTask}
    (h : t.script.count (.subscribe topic) ≤ (s.tasks task).script.count (.subscribe topic)) :
    (s.setTask task t).toSubscribe topic ≤ s.toSubscribe topic := by
  have := toSubscribe_setTask s task t topic
  omega

theorem StartOk.setTask {t : StartTask} (hok : StartOk s)
    (h : ∀ topic, t.script.count (.subscribe topic)
      ≤ (s.tasks task).script.count (.subscribe topic)) : StartOk (s.setTask task t) where
  room := fun topic => by
    have hroom := hok.room topic
    have hless := toSubscribe_setTask_le (h topic)
    simp only [StartUp.setTask_topics]
    omega
  handle := hok.handle

theorem StartOk.setTopic {t : OrbTopicMeta α} (hok : StartOk s)
    (hsame : (s.topics topic).advertised = true → t = s.topics topic)
    (hlength : t.subscriberQueues.length ≤ (s.topics topic).subscriberQueues.length) :
    StartOk (s.setTopic topic t) where
  room := fun other => by
    have hroom := hok.room other
    show ((s.setTopic topic t).topics other).subscriberQueues.length + s.toSubscribe other ≤ _
    by_cases hother : other = topic
    · subst hother
      rw [StartUp.setTopic_self]
      omega
    · rw [StartUp.setTopic_of_ne hother]
      exact hroom
  handle := fun task other sub h => by
    obtain ⟨hadvertised, hsub⟩ := hok.handle task other sub h
    by_cases hother : other = topic
    · subst hother
      rw [StartUp.setTopic_self, hsame hadvertised]
      exact ⟨hadvertised, hsub⟩
    · rw [StartUp.setTopic_of_ne hother]
      exact ⟨hadvertised, hsub⟩

variable {rest : List StartOp}

theorem toSubscribe_pop {op : StartOp}
    (hscript : (s.tasks task).script = op :: rest) (topic : OrbId) :
    (s.pop task rest).toSubscribe topic + (if op = .subscribe topic then 1 else 0)
      = s.toSubscribe topic := by
  have h : (s.pop task rest).toSubscribe topic + (s.tasks task).script.count (.subscribe topic)
      = s.toSubscribe topic + rest.count (.subscribe topic) := toSubscribe_setTask s task _ topic
  rw [hscript, List.count_cons] at h
  simp only [beq_iff_eq] at h
  omega

theorem StartOk.pop {op : StartOp}
    (hok : StartOk s) (hscript : (s.tasks task).script = op :: rest) : StartOk (s.pop task rest) :=
  hok.setTask fun topic => by
    rw [hscript]
    exact List.count_le_count_cons

theorem StartOk.subscribe {heap : OrbHeap} (hok : StartOk s)
    (hscript : (s.tasks task).script = .subscribe topic :: rest) :
    StartOk (((s.pop task rest).setTopic topic (orbSubscribe heap (s.topics topic)).2).setHandle
      task topic (orbSubscribe heap (s.topics topic)).1) := by
  have hpop : StartOk (s.pop task rest) := hok.pop hscript
  rcases orbSubscribe_cases heap (s.topics topic) with ⟨heq, -⟩ | ⟨heq, hadvertised, -⟩
  · rw [heq]
    have hsame : StartOk ((s.pop task rest).setTopic topic (s.topics topic)) :=
      hpop.setTopic (fun _ => rfl) (le_refl _)
    refine ⟨hsame.room, fun other topic' sub h => hsame.handle other topic' sub ?_⟩
    by_cases hthis : other = task ∧ topic' = topic
    · obtain ⟨rfl, rfl⟩ := hthis
      rw [StartUp.setHandle_self] at h
      cases h
    · rwa [StartUp.setHandle_of_ne hthis] at h
  rw [heq]
  refine ⟨fun other => ?_, fun other topic' sub h => ?_⟩
  · have hroom := hok.room other
    have hmoved := toSubscribe_pop hscript other
    show (((s.pop task rest).setTopic topic _).topics other).subscriberQueues.length
      + (s.pop task rest).toSubscribe other ≤ _
    by_cases hother : other = topic
    · subst hother
      rw [StartUp.setTopic_self]
      rw [if_pos rfl] at hmoved
      simp only [List.length_append, List.length_singleton]
      omega
    · rw [StartUp.setTopic_of_ne hother]
      show (s.topics other).subscriberQueues.length + _ ≤ _
      omega
  by_cases htopic : topic' = topic
  · subst htopic
    simp only [StartUp.setHandle_topics, StartUp.setTopic_self]
    refine ⟨hadvertised, ?_⟩
    rw [List.length_append, List.length_singleton]
    by_cases hthis : other = task ∧ topic' = topic'
    · obtain ⟨rfl, -⟩ := hthis
      rw [StartUp.setHandle_self] at h
      cases h
      exact Nat.lt_succ_self _
    · rw [StartUp.setHandle_of_ne hthis] at h
      exact Nat.lt_succ_of_lt (hok.handle other topic' sub h).2
  · rw [StartUp.setHandle_of_ne fun hboth => htopic hboth.2] at h
    rw [StartUp.setHandle_topics, StartUp.setTopic_of_ne htopic]
    exact hok.handle other topic' sub h

theorem StartOk.step (hok : StartOk s) (h : startStep s e = some s') : StartOk s' := by
  by_cases hrun : ∃ task outcome, e = .run task outcome
  · obtain ⟨task, outcome, rfl⟩ := hrun
    obtain ⟨-, op, rest, hscript, hcall⟩ := startStep_run h
    have hpop : StartOk (s.pop task rest) := hok.pop hscript
    cases op with
    | createTask new =>
      simp only [startCall] at hcall
      split at hcall
      · cases hcall
        exact hpop.setTask fun topic => le_refl _
      · cases hcall
        exact hpop
    | taskDelay ticks =>
      cases hcall
      exact hpop.setTask fun topic => le_refl _
    | initHardware =>
      simp only [startCall] at hcall
      split at hcall
      · cases hcall
        exact hpop
      · cases hcall
        exact hpop.setTask fun topic => le_refl _
    | advertise topic =>
      simp only [startCall, Option.map_eq_some_iff] at hcall
      obtain ⟨r, hadvertise, rfl⟩ := hcall
      obtain ⟨hsame, hlength⟩ := orbAdvertise_keeps hadvertise
      exact hpop.setTopic hsame hlength
    | subscribe topic =>
      cases hcall
      exact hok.subscribe hscript
  obtain ⟨htasks, hhandles, -, htopics⟩ :=
    startStep_loop (fun task outcome he => hrun ⟨task, outcome, he⟩) h
  refine ⟨fun topic => ?_, fun task topic sub hsub => ?_⟩
  · rw [(htopics topic).2]
    unfold StartUp.toSubscribe
    rw [htasks]
    exact hok.room topic
  · rw [hhandles] at hsub
    rw [(htopics topic).1, (htopics topic).2]
    exact hok.handle task topic sub hsub

/-! ## Handles and publications -/

/-- The `orb_subscribe` that the step calls: the task, the topic, and the memory there is. -/
def subscribeCall (s : StartUp α) : StartEvent α → Option (TaskId × OrbId × OrbHeap)
  | .run task outcome =>
    match (s.tasks task).script with
    | .subscribe topic :: _ => if s.Ready task then some (task, topic, outcome.heap) else none
    | _ => none
  | _ => none

/-- The call returns a handle. -/
def SubscribeReturns (s : StartUp α) (e : StartEvent α) : Prop :=
  ∀ task topic heap, subscribeCall s e = some (task, topic, heap) →
    ∀ s', startStep s e = some s' → (s'.handles task topic).isSome = true

/-- The task has made its call for the topic. -/
def StartUp.Subscribed (s : StartUp α) (task : TaskId) (topic : OrbId) : Prop :=
  .subscribe topic ∈ startScript task ∧ .subscribe topic ∉ (s.tasks task).script

/-- What is published waits for every task that reads the topic. -/
def PublicationReaches (s : StartUp α) (e : StartEvent α) : Prop :=
  ∀ task topic data, e = .publish task topic data → ∀ s', startStep s e = some s' →
    ∀ reader, s.Subscribed reader topic →
      ∃ sub, s'.handles reader topic = some sub
        ∧ (s'.topics topic).subscriberQueues[sub]? = some (some data)

/-- The topic has been advertised when it is subscribed to, and there is memory. -/
def AdvertisedBefore (s : StartUp α) (e : StartEvent α) : Prop :=
  ∀ task topic heap, subscribeCall s e = some (task, topic, heap) →
    (s.topics topic).advertised = true ∧ heap.sub = true ∧ heap.queue = true

/-- Every call that was made has returned a handle. -/
def HandlesHeld (s : StartUp α) : Prop :=
  ∀ task topic, s.Subscribed task topic → (s.handles task topic).isSome = true

theorem subscribeCall_eq {heap : OrbHeap} (h : subscribeCall s e = some (task, topic, heap)) :
    ∃ outcome rest, e = .run task outcome ∧ outcome.heap = heap
      ∧ (s.tasks task).script = .subscribe topic :: rest
      ∧ startStep s e = some (((s.pop task rest).setTopic topic
          (orbSubscribe heap (s.topics topic)).2).setHandle task topic
            (orbSubscribe heap (s.topics topic)).1) := by
  unfold subscribeCall at h
  split at h
  · next who outcome =>
      split at h
      · next topic' rest hscript =>
          split at h
          · next hready =>
              cases h
              refine ⟨outcome, rest, rfl, rfl, hscript, ?_⟩
              simp only [startStep, hscript, if_pos hready, startCall]
              rfl
          · cases h
      · cases h
  · cases h

theorem subscribeReturns_iff (hok : StartOk s) : SubscribeReturns s e ↔ AdvertisedBefore s e := by
  have hcall : ∀ task topic heap, subscribeCall s e = some (task, topic, heap) →
      ((∀ s', startStep s e = some s' → (s'.handles task topic).isSome = true) ↔
        (s.topics topic).advertised = true ∧ heap.sub = true ∧ heap.queue = true) := by
    intro task topic heap h
    obtain ⟨outcome, rest, -, -, hscript, hstep⟩ := subscribeCall_eq h
    -- the call itself still counts among those that are to be made
    have hroom : (s.topics topic).subscriberQueues.length < orbMaxSubscribers := by
      have hleft := toSubscribe_pop hscript topic
      rw [if_pos rfl] at hleft
      have := hok.room topic
      omega
    rw [hstep]
    simp only [Option.some.injEq, forall_eq', StartUp.setHandle_self]
    rcases orbSubscribe_cases heap (s.topics topic) with ⟨heq, hnot⟩ | ⟨heq, hyes⟩
    · rw [heq]
      exact iff_of_false Bool.false_ne_true fun h => hnot ⟨h.1, hroom, h.2⟩
    · rw [heq]
      exact iff_of_true rfl ⟨hyes.1, hyes.2.2⟩
  constructor
  · intro h task topic heap hc
    exact (hcall task topic heap hc).mp (h task topic heap hc)
  · intro h task topic heap hc
    exact (hcall task topic heap hc).mpr (h task topic heap hc)

theorem startInit_handlesHeld : HandlesHeld (startInit : StartUp α) :=
  fun _ _ h => absurd h.1 h.2

theorem startCall_handles {outcome : StartOutcome}
    {op : StartOp} (hop : ∀ topic, op ≠ .subscribe topic)
    (h : startCall s task outcome op = some s') :
    s'.handles = s.handles ∧ ∀ other, (s'.tasks other).script = (s.tasks other).script := by
  have hset : ∀ (who : TaskId) (t : StartTask), t.script = (s.tasks who).script →
      ∀ other, ((s.setTask who t).tasks other).script = (s.tasks other).script := by
    intro who t ht other
    by_cases hother : other = who
    · subst hother
      rw [StartUp.setTask_self]
      exact ht
    · rw [StartUp.setTask_of_ne hother]
  cases op with
  | createTask new =>
    simp only [startCall] at h
    split at h
    · cases h
      exact ⟨rfl, hset new _ rfl⟩
    · cases h
      exact ⟨rfl, fun _ => rfl⟩
  | taskDelay ticks =>
    cases h
    exact ⟨rfl, hset task _ rfl⟩
  | initHardware =>
    simp only [startCall] at h
    split at h
    · cases h
      exact ⟨rfl, fun _ => rfl⟩
    · cases h
      exact ⟨rfl, hset task _ rfl⟩
  | advertise topic =>
    simp only [startCall, Option.map_eq_some_iff] at h
    obtain ⟨r, -, rfl⟩ := h
    exact ⟨rfl, fun _ => rfl⟩
  | subscribe topic => exact absurd rfl (hop topic)

theorem HandlesHeld.step (hheld : HandlesHeld s)
    (hreturns : SubscribeReturns s e) (h : startStep s e = some s') : HandlesHeld s' := by
  by_cases hrun : ∃ task outcome, e = .run task outcome
  · obtain ⟨task, outcome, rfl⟩ := hrun
    obtain ⟨hready, op, rest, hscript, hcall⟩ := startStep_run h
    have hpop : ∀ other topic, .subscribe topic ∉ ((s.pop task rest).tasks other).script →
        ¬ (other = task ∧ op = .subscribe topic) → .subscribe topic ∉ (s.tasks other).script := by
      intro other topic hnot hother
      by_cases htask : other = task
      · subst htask
        rw [hscript, List.mem_cons]
        rintro (heq | hmem)
        · exact hother ⟨rfl, heq.symm⟩
        · apply hnot
          rwa [StartUp.pop, StartUp.setTask_self]
      · rwa [StartUp.pop, StartUp.setTask_of_ne htask] at hnot
    by_cases hop : ∃ topic, op = .subscribe topic
    · obtain ⟨topic, rfl⟩ := hop
      have hthis : subscribeCall s (.run task outcome) = some (task, topic, outcome.heap) := by
        simp only [subscribeCall, hscript, if_pos hready]
      have hnew := hreturns task topic outcome.heap hthis s' h
      cases hcall
      intro other topic' hsubscribed
      by_cases hsame : other = task ∧ topic' = topic
      · obtain ⟨rfl, rfl⟩ := hsame
        exact hnew
      rw [StartUp.setHandle_of_ne hsame]
      refine hheld other topic' ⟨hsubscribed.1, hpop other topic' hsubscribed.2 ?_⟩
      rintro ⟨hother, heq⟩
      exact hsame ⟨hother, (StartOp.subscribe.inj heq).symm⟩
    have hne : ∀ topic, op ≠ .subscribe topic := fun topic heq => hop ⟨topic, heq⟩
    obtain ⟨hhandles, hscripts⟩ := startCall_handles hne hcall
    intro other topic hsubscribed
    rw [hhandles]
    refine hheld other topic ⟨hsubscribed.1, hpop other topic ?_ fun h => hne topic h.2⟩
    rw [← hscripts other]
    exact hsubscribed.2
  obtain ⟨htasks, hhandles, -⟩ :=
    startStep_loop (fun task outcome he => hrun ⟨task, outcome, he⟩) h
  intro task topic hsubscribed
  rw [hhandles]
  refine hheld task topic ⟨hsubscribed.1, ?_⟩
  rw [← htasks]
  exact hsubscribed.2

theorem publicationReaches_of_held (hok : StartOk s)
    (hheld : HandlesHeld s) : PublicationReaches s e := by
  intro task topic data he s' h reader hsubscribed
  subst he
  obtain ⟨sub, hsub⟩ := Option.isSome_iff_exists.mp (hheld reader topic hsubscribed)
  obtain ⟨hadvertised, hlt⟩ := hok.handle reader topic sub hsub
  simp only [startStep] at h
  split at h
  · have hpublish : orbPublish (s.topics topic).toOrbTopic data
        = some { (s.topics topic).toOrbTopic with
            latestData := some data
            subscriberQueues := (s.topics topic).subscriberQueues.map fun _ => some data } :=
      if_pos hadvertised
    rw [hpublish] at h
    cases h
    refine ⟨sub, hsub, ?_⟩
    rw [StartUp.setTopic_self]
    simp only [List.getElem?_map, List.getElem?_eq_getElem hlt, Option.map_some]
  · cases h

/-- Every agent gets the subscriptions it asks for, and what is published afterwards, if and only
if each topic has been advertised before it is subscribed to, and there is memory for each
subscription. -/
theorem subscriptions_returned_iff (events : List (StartEvent α)) :
    (Along startStep SubscribeReturns startInit events
        ∧ Along startStep PublicationReaches startInit events) ↔
      Along startStep AdvertisedBefore startInit events := by
  have hok : Throughout startStep StartOk (startInit : StartUp α) events :=
    throughout_of_invariant (fun _ _ _ hok h => hok.step h) startInit_ok events
  have hsame : Along startStep (fun s e => SubscribeReturns s e ↔ AdvertisedBefore s e)
      (startInit : StartUp α) events := by
    refine Throughout.along_of ?_ hok
    intro s e hok
    exact subscribeReturns_iff hok
  have hcongr := Along.congr hsame
  refine ⟨fun h => hcongr.mp h.1, fun h => ⟨hcongr.mpr h, ?_⟩⟩
  have hheld : Throughout startStep HandlesHeld (startInit : StartUp α) events :=
    throughout_of_step (fun _ _ _ hheld hreturns h => hheld.step hreturns h)
      startInit_handlesHeld (hcongr.mpr h)
  refine Throughout.along_of ?_ (hok.and hheld)
  intro s e hboth
  exact publicationReaches_of_held hboth.1 hboth.2

/-! ## The flight controller is early -/

/-- Sysmon advertises after 100 and then 1000 ticks. -/
structure SysmonLate (s : StartUp α) : Prop where
  suffix : ∀ task, (s.tasks task).script <:+ startScript task
  main : .taskDelay 100 ∈ (s.tasks .appMain).script ∨ 100 ≤ (s.tasks .appMain).wakeTick
  once : .createTask .sysmon ∈ (s.tasks .appMain).script → (s.tasks .sysmon).phase = .waiting
  waiting : (s.tasks .sysmon).phase = .waiting → (s.tasks .sysmon).script = startScript .sysmon
  created : (s.tasks .sysmon).phase ≠ .waiting →
    ((s.tasks .sysmon).script = startScript .sysmon ∧ 100 ≤ (s.tasks .sysmon).wakeTick)
      ∨ 1100 ≤ (s.tasks .sysmon).wakeTick
  advertised : (s.topics .vehicleStatus).advertised = true → 1100 ≤ s.tick

-- Which task makes a call is read off the scripts.

/-- A call for which there is everything. -/
def goesWell : StartOutcome := ⟨true, true, ⟨true, true, true, true⟩⟩

/-- The start-up when nothing fails and each task runs as soon as it can, up to the flight
controller's subscription to the attitude, the position, and the sticks. -/
def nominalStart : List (StartEvent U8) :=
  [.run .appMain goesWell] ++ List.replicate 9 (.run .sensor goesWell)
    ++ [.run .appMain goesWell] ++ List.replicate 100 .tick
    ++ [.run .appMain goesWell, .run .sysmon goesWell, .run .appMain goesWell,
      .run .flightCtrl goesWell, .run .appMain goesWell, .run .actuator goesWell,
      .run .actuator goesWell]
    ++ List.replicate 500 .tick ++ List.replicate 3 (.run .flightCtrl goesWell)

/-- The flight controller never hears of the vehicle's status. -/
theorem nominal_start_loses_status :
    ¬ ∀ events : List (StartEvent U8),
      Along startStep SubscribeReturns startInit events
        ∧ Along startStep PublicationReaches startInit events := by
  intro h
  have hrun : (runFrom startStep startInit nominalStart).any (fun s =>
      (subscribeCall s (.run .flightCtrl goesWell)).any (fun c => decide (c.2.1 = .vehicleStatus))
        && (startStep s (.run .flightCtrl goesWell)).any fun s' =>
          (s'.handles .flightCtrl .vehicleStatus).isNone) = true := by decide +kernel
  obtain ⟨s, hs, hlast⟩ := (Option.any_eq_true _ _).mp hrun
  simp only [Bool.and_eq_true] at hlast
  obtain ⟨⟨task, topic, heap⟩, hcall, htopic⟩ := (Option.any_eq_true _ _).mp hlast.1
  obtain ⟨s', hs', hnone⟩ := (Option.any_eq_true _ _).mp hlast.2
  have hreturns : SubscribeReturns s (.run .flightCtrl goesWell) :=
    (h (nominalStart ++ [.run .flightCtrl goesWell])).1.last hs
  obtain ⟨outcome, rest, he, -⟩ := subscribeCall_eq hcall
  obtain ⟨rfl, -⟩ := StartEvent.run.inj he
  obtain rfl : topic = .vehicleStatus := of_decide_eq_true htopic
  have hsome := hreturns .flightCtrl .vehicleStatus heap hcall s' hs'
  rw [Option.isNone_iff_eq_none.mp hnone] at hsome
  cases hsome

end MmIotEsp32.HeliFc
