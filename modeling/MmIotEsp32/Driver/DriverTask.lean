/-
  MmIotEsp32.Driver.DriverTask

  The events of the driver task (`driver/driver_task.c`).
-/
import Mathlib.Data.Fintype.Card
import Mathlib.Data.Fintype.Pigeonhole
import Mathlib.Logic.Function.Basic
import MmIotEsp32.Common.Mmosal
import MmIotEsp32.Lib.Transition

namespace MmIotEsp32.Driver

open Lib Function

/-! ## Data model -/

/-- `enum driver_task_event`. -/
inductive DrvEvt where
  | none
  | rxPend
  | pageReturnPend
  | txCommandPend
  | txBeaconPend
  | txMgmtPend
  | txDataPend
  | txPacketFreedUpPend
  | trafficPausePend
  | trafficResumePend
  | psAsyncWakeupPend
  | psDelayedEvalPend
  | psBusActivityPend
  | staleTxStatusPend
  | shutdown
  | beaconReqPend
  deriving Repr, DecidableEq

def maxScheduledEvts : Nat := 4

/-- A slot of `scheduled_evts`. -/
abbrev EvtSlot := Fin maxScheduledEvts

structure DriverScheduledEvt where
  evt : DrvEvt
  timeoutAtMs : U32
  deriving Repr, DecidableEq

/-- `driver_task` of `struct driver_data`: a bit for each event, and the table. -/
structure DriverTask where
  pendingEvts : DrvEvt → Bool
  scheduledEvts : EvtSlot → DriverScheduledEvt

/-- `driver_task` before the task is started. -/
def driverTaskInit : DriverTask where
  pendingEvts := fun _ => false
  scheduledEvts := fun _ => ⟨.none, 0⟩

/-! ## The operations -/

def driverTaskNotifyEvent (d : DriverTask) (evt : DrvEvt) : DriverTask :=
  { d with pendingEvts := update d.pendingEvts evt true }

def driverTaskNotificationCheck (d : DriverTask) (evt : DrvEvt) : Bool := d.pendingEvts evt

def driverTaskNotificationCheckAndClear (d : DriverTask) (evt : DrvEvt) : DriverTask × Bool :=
  ({ d with pendingEvts := update d.pendingEvts evt false }, d.pendingEvts evt)

def setSlot (d : DriverTask) (i : EvtSlot) (slot : DriverScheduledEvt) : DriverTask :=
  { d with scheduledEvts := update d.scheduledEvts i slot }

/-- The first slot with an event. -/
def findSlot (d : DriverTask) (evt : DrvEvt) : Option EvtSlot :=
  (List.finRange maxScheduledEvts).find? fun i => (d.scheduledEvts i).evt = evt

/-- `driver_task_schedule_notification_at`; `none` is its assertion. -/
def driverTaskScheduleNotificationAt (d : DriverTask) (evt : DrvEvt) (timeoutAtMs : U32) :
    Option DriverTask :=
  match findSlot d evt with
  | some i => some (setSlot d i ⟨evt, timeoutAtMs⟩)
  | none => (findSlot d .none).map fun i => setSlot d i ⟨evt, timeoutAtMs⟩

/-- One slot of `driver_task_process_scheduled_evts`. -/
def processSlot (now : U32) (d : DriverTask) (i : EvtSlot) : DriverTask :=
  let slot := d.scheduledEvts i
  if slot.evt ≠ .none then
    if mmosalTimeHasPassed slot.timeoutAtMs now then
      setSlot (driverTaskNotifyEvent d slot.evt) i ⟨.none, slot.timeoutAtMs⟩
    else if driverTaskNotificationCheck d slot.evt then
      -- it came early: the slot is not needed any more
      setSlot d i ⟨.none, slot.timeoutAtMs⟩
    else d
  else d

def driverTaskProcessScheduledEvts (now : U32) (d : DriverTask) : DriverTask :=
  (List.finRange maxScheduledEvts).foldl (processSlot now) d

/-! ## The table -/

/-- At most one slot per event. -/
def OneSlotPerEvent (d : DriverTask) : Prop :=
  ∀ i j, (d.scheduledEvts i).evt ≠ .none → (d.scheduledEvts i).evt = (d.scheduledEvts j).evt → i = j

/-- The event has a slot. -/
def Scheduled (d : DriverTask) (evt : DrvEvt) : Prop := ∃ i, (d.scheduledEvts i).evt = evt

variable {evt : DrvEvt} {d : DriverTask}

theorem findSlot_eq_some {i : EvtSlot}
    (h : findSlot d evt = some i) : (d.scheduledEvts i).evt = evt := by
  have hfound := List.find?_some h
  exact of_decide_eq_true hfound

theorem findSlot_eq_none : findSlot d evt = none ↔ ¬ Scheduled d evt := by
  unfold findSlot Scheduled
  rw [List.find?_eq_none]
  constructor
  · rintro h ⟨i, hi⟩
    exact h i (List.mem_finRange i) (decide_eq_true hi)
  · intro h i _ hi
    exact h ⟨i, of_decide_eq_true hi⟩

theorem setSlot_self (d : DriverTask) (i : EvtSlot) (slot : DriverScheduledEvt) :
    (setSlot d i slot).scheduledEvts i = slot := update_self ..

theorem setSlot_of_ne (d : DriverTask) {i j : EvtSlot} (h : j ≠ i) (slot : DriverScheduledEvt) :
    (setSlot d i slot).scheduledEvts j = d.scheduledEvts j := update_of_ne h ..

theorem setSlot_oneSlotPerEvent {d : DriverTask} (h : OneSlotPerEvent d) {i : EvtSlot}
    {slot : DriverScheduledEvt}
    (hfree : slot.evt ≠ .none → ∀ j, j ≠ i → (d.scheduledEvts j).evt ≠ slot.evt) :
    OneSlotPerEvent (setSlot d i slot) := by
  intro j k hne hsame
  by_cases hj : j = i
  · by_cases hk : k = i
    · rw [hj, hk]
    · rw [hj, setSlot_self] at hne hsame
      rw [setSlot_of_ne d hk] at hsame
      exact absurd hsame.symm (hfree hne k hk)
  rw [setSlot_of_ne d hj] at hne hsame
  by_cases hk : k = i
  · rw [hk, setSlot_self] at hsame
    rw [hsame] at hne
    exact absurd hsame (hfree hne j hj)
  · rw [setSlot_of_ne d hk] at hsame
    exact h j k hne hsame

theorem driverTaskScheduleNotificationAt_cases {d d' : DriverTask} {t : U32}
    (h : driverTaskScheduleNotificationAt d evt t = some d') : ∃ i, d' = setSlot d i ⟨evt, t⟩
      ∧ ((d.scheduledEvts i).evt = evt ∨ ¬ Scheduled d evt ∧ (d.scheduledEvts i).evt = .none) := by
  unfold driverTaskScheduleNotificationAt at h
  cases hfind : findSlot d evt with
  | some i =>
    rw [hfind] at h
    cases h
    exact ⟨i, rfl, Or.inl (findSlot_eq_some hfind)⟩
  | none =>
    rw [hfind] at h
    obtain ⟨i, hfree, rfl⟩ := Option.map_eq_some_iff.mp h
    exact ⟨i, rfl, Or.inr ⟨findSlot_eq_none.mp hfind, findSlot_eq_some hfree⟩⟩

theorem driverTaskScheduleNotificationAt_oneSlot {d d' : DriverTask} (hd : OneSlotPerEvent d)
    {t : U32} (h : driverTaskScheduleNotificationAt d evt t = some d') : OneSlotPerEvent d' := by
  obtain ⟨i, rfl, hi⟩ := driverTaskScheduleNotificationAt_cases h
  refine setSlot_oneSlotPerEvent hd fun hne j hj hsame => ?_
  rcases hi with hi | ⟨hnot, -⟩
  · exact hj (hd j i (by rw [hsame]; exact hne) (hsame.trans hi.symm))
  · exact hnot ⟨j, hsame⟩

/-! ## Processing -/

/-- The slot is given up by a processing step: its time has passed, or its event is pending. -/
def Due (now : U32) (d : DriverTask) (i : EvtSlot) : Prop :=
  (d.scheduledEvts i).evt ≠ .none
    ∧ (mmosalTimeHasPassed (d.scheduledEvts i).timeoutAtMs now = true
      ∨ d.pendingEvts (d.scheduledEvts i).evt = true)

theorem processSlot_cases (now : U32) (d : DriverTask) (i : EvtSlot) :
    (Due now d i ∧ (processSlot now d i).scheduledEvts
        = update d.scheduledEvts i ⟨.none, (d.scheduledEvts i).timeoutAtMs⟩
      ∨ ¬ Due now d i ∧ (processSlot now d i).scheduledEvts = d.scheduledEvts)
    ∧ ∀ evt, (processSlot now d i).pendingEvts evt = true
      ↔ d.pendingEvts evt = true
        ∨ evt = (d.scheduledEvts i).evt ∧ evt ≠ .none
          ∧ mmosalTimeHasPassed (d.scheduledEvts i).timeoutAtMs now = true := by
  unfold processSlot Due
  dsimp only
  by_cases hnone : (d.scheduledEvts i).evt = .none
  · rw [if_neg (fun h => h hnone)]
    refine ⟨Or.inr ⟨fun h => h.1 hnone, rfl⟩, fun evt => ?_⟩
    constructor
    · exact Or.inl
    · rintro (h | ⟨rfl, hne, -⟩)
      · exact h
      · exact absurd hnone hne
  rw [if_pos hnone]
  by_cases hpassed : mmosalTimeHasPassed (d.scheduledEvts i).timeoutAtMs now = true
  · rw [if_pos hpassed]
    refine ⟨Or.inl ⟨⟨hnone, Or.inl hpassed⟩, rfl⟩, fun evt => ?_⟩
    show update d.pendingEvts _ true evt = true ↔ _
    rw [update_apply]
    by_cases hsame : evt = (d.scheduledEvts i).evt
    · rw [if_pos hsame]
      exact iff_of_true rfl (Or.inr ⟨hsame, by rw [hsame]; exact hnone, hpassed⟩)
    · rw [if_neg hsame]
      exact ⟨Or.inl, fun h => h.resolve_right fun h => hsame h.1⟩
  rw [if_neg hpassed]
  have hno : ∀ evt, d.pendingEvts evt = true
      ↔ d.pendingEvts evt = true
        ∨ evt = (d.scheduledEvts i).evt ∧ evt ≠ .none
          ∧ mmosalTimeHasPassed (d.scheduledEvts i).timeoutAtMs now = true :=
    fun evt => ⟨Or.inl, fun h => h.resolve_right fun h => hpassed h.2.2⟩
  by_cases hpending : driverTaskNotificationCheck d (d.scheduledEvts i).evt = true
  · rw [if_pos hpending]
    exact ⟨Or.inl ⟨⟨hnone, Or.inr hpending⟩, rfl⟩, hno⟩
  · rw [if_neg hpending]
    exact ⟨Or.inr ⟨fun h => h.2.elim hpassed hpending, rfl⟩, hno⟩

theorem processSlot_oneSlotPerEvent (h : OneSlotPerEvent d) (now : U32)
    (i : EvtSlot) : OneSlotPerEvent (processSlot now d i) := by
  rcases (processSlot_cases now d i).1 with ⟨-, htable⟩ | ⟨-, htable⟩
  · intro j k hne hsame
    rw [htable] at hne hsame
    exact @setSlot_oneSlotPerEvent d h i ⟨.none, (d.scheduledEvts i).timeoutAtMs⟩
      (fun hne' => absurd rfl hne') j k hne hsame
  · intro j k hne hsame
    rw [htable] at hne hsame
    exact h j k hne hsame

/-- What processing some of the slots does, when no event has two of them: the due ones are
given up, and the events whose time has passed are pending. -/
theorem foldl_processSlot {now : U32} {slots : List EvtSlot} (hnodup : slots.Nodup)
    {d : DriverTask} (h : OneSlotPerEvent d) :
    OneSlotPerEvent (slots.foldl (processSlot now) d)
    ∧ (∀ i, (i ∈ slots ∧ Due now d i
          ∧ ((slots.foldl (processSlot now) d).scheduledEvts i).evt = .none)
        ∨ (¬ (i ∈ slots ∧ Due now d i)
          ∧ (slots.foldl (processSlot now) d).scheduledEvts i = d.scheduledEvts i))
    ∧ ∀ evt, (slots.foldl (processSlot now) d).pendingEvts evt = true
      ↔ d.pendingEvts evt = true
        ∨ ∃ i ∈ slots, evt = (d.scheduledEvts i).evt ∧ evt ≠ .none
          ∧ mmosalTimeHasPassed (d.scheduledEvts i).timeoutAtMs now = true := by
  induction slots generalizing d with
  | nil =>
    refine ⟨h, fun i => Or.inr ⟨fun hi => absurd hi.1 List.not_mem_nil, rfl⟩, fun evt => ?_⟩
    constructor
    · exact Or.inl
    · rintro (hp | ⟨i, hi, -⟩)
      · exact hp
      · cases hi
  | cons i rest ih =>
    obtain ⟨hi, hnodup⟩ := List.nodup_cons.mp hnodup
    obtain ⟨htable, hpending⟩ := processSlot_cases now d i
    have hother : ∀ j, j ≠ i → (processSlot now d i).scheduledEvts j = d.scheduledEvts j := by
      intro j hj
      rcases htable with ⟨-, htable⟩ | ⟨-, htable⟩
      · rw [htable, update_of_ne hj]
      · rw [htable]
    -- the event of another slot is as pending as it was
    have hdue : ∀ j, j ≠ i → (Due now (processSlot now d i) j ↔ Due now d j) := by
      intro j hj
      unfold Due
      rw [hother j hj, hpending]
      constructor
      · rintro ⟨hne, hpassed | hp | ⟨hsame, -⟩⟩
        · exact ⟨hne, Or.inl hpassed⟩
        · exact ⟨hne, Or.inr hp⟩
        · exact absurd (h j i hne hsame) hj
      · rintro ⟨hne, hpassed | hp⟩
        · exact ⟨hne, Or.inl hpassed⟩
        · exact ⟨hne, Or.inr (Or.inl hp)⟩
    obtain ⟨hone, hslots, hevts⟩ := ih hnodup (processSlot_oneSlotPerEvent h now i)
    rw [List.foldl_cons]
    generalize rest.foldl (processSlot now) (processSlot now d i) = after at hone hslots hevts
    refine ⟨hone, fun j => ?_, fun evt => ?_⟩
    · by_cases hj : j = i
      · subst hj
        have hkept : after.scheduledEvts j = (processSlot now d j).scheduledEvts j := by
          rcases hslots j with ⟨hmem, -⟩ | ⟨-, hsame⟩
          · exact absurd hmem hi
          · exact hsame
        rcases htable with ⟨hdue, htable⟩ | ⟨hdue, htable⟩
        · refine Or.inl ⟨List.mem_cons_self .., hdue, ?_⟩
          rw [hkept, htable, update_self]
        · refine Or.inr ⟨fun hmem => hdue hmem.2, ?_⟩
          rw [hkept, htable]
      rcases hslots j with ⟨hmem, hd, hgone⟩ | ⟨hnot, hsame⟩
      · exact Or.inl ⟨List.mem_cons_of_mem _ hmem, (hdue j hj).mp hd, hgone⟩
      · refine Or.inr ⟨fun hmem => hnot ⟨?_, (hdue j hj).mpr hmem.2⟩, ?_⟩
        · exact (List.mem_cons.mp hmem.1).resolve_left hj
        · rw [hsame, hother j hj]
    rw [hevts, hpending, or_assoc]
    refine or_congr Iff.rfl ?_
    constructor
    · rintro (hhead | ⟨j, hj, hrest⟩)
      · exact ⟨i, List.mem_cons_self .., hhead⟩
      · have hji : j ≠ i := fun hji => hi (hji ▸ hj)
        rw [hother j hji] at hrest
        exact ⟨j, List.mem_cons_of_mem _ hj, hrest⟩
    rintro ⟨j, hj, hrest⟩
    rcases List.mem_cons.mp hj with rfl | hj
    · exact Or.inl hrest
    have hji : j ≠ i := fun hji => hi (hji ▸ hj)
    refine Or.inr ⟨j, hj, ?_⟩
    rw [hother j hji]
    exact hrest

/-! ## Room in the table -/

/-- The events that are ever scheduled: by the work functions of the two chip interfaces, and by
the power save functions. -/
def schedulableEvts : Finset DrvEvt :=
  {.txCommandPend, .txBeaconPend, .txMgmtPend, .txDataPend, .psBusActivityPend}

/-- The table holds such events only. -/
def OnlySchedulable (d : DriverTask) : Prop :=
  ∀ i, (d.scheduledEvts i).evt ≠ .none → (d.scheduledEvts i).evt ∈ schedulableEvts

/-- The events of the table. -/
def tableEvts (d : DriverTask) : Finset DrvEvt :=
  Finset.univ.image fun i => (d.scheduledEvts i).evt

theorem mem_tableEvts : evt ∈ tableEvts d ↔ Scheduled d evt := by
  unfold tableEvts Scheduled
  rw [Finset.mem_image]
  exact ⟨fun ⟨i, _, hi⟩ => ⟨i, hi⟩, fun ⟨i, hi⟩ => ⟨i, Finset.mem_univ i, hi⟩⟩

theorem card_tableEvts_le (d : DriverTask) : (tableEvts d).card ≤ maxScheduledEvts := by
  have hle := Finset.card_image_le (s := Finset.univ) (f := fun i => (d.scheduledEvts i).evt)
  rw [Finset.card_univ, Fintype.card_fin] at hle
  exact hle

theorem card_others (h : evt ∈ schedulableEvts) :
    (schedulableEvts.erase evt).card = maxScheduledEvts := by
  rw [Finset.card_erase_of_mem h]
  rfl

theorem driverTaskScheduleNotificationAt_isSome_iff (hone : OneSlotPerEvent d)
    (honly : OnlySchedulable d) (hevt : evt ∈ schedulableEvts) (t : U32) :
    (driverTaskScheduleNotificationAt d evt t).isSome = true
      ↔ ∃ other ∈ schedulableEvts, other ≠ evt ∧ ¬ Scheduled d other := by
  have hnone : (driverTaskScheduleNotificationAt d evt t).isSome = true
      ↔ Scheduled d evt ∨ Scheduled d .none := by
    unfold driverTaskScheduleNotificationAt
    cases hfind : findSlot d evt with
    | some i => exact iff_of_true rfl (Or.inl ⟨i, findSlot_eq_some hfind⟩)
    | none =>
      rw [or_iff_right (findSlot_eq_none.mp hfind)]
      cases hfree : findSlot d .none with
      | some i => exact iff_of_true rfl ⟨i, findSlot_eq_some hfree⟩
      | none => exact iff_of_false (by simp) (findSlot_eq_none.mp hfree)
  rw [hnone]
  constructor
  · intro hslot
    by_contra hall
    push Not at hall
    -- the other events have all the slots
    have hsub : schedulableEvts.erase evt ⊆ tableEvts d := by
      intro other hother
      obtain ⟨hne, hmem⟩ := Finset.mem_erase.mp hother
      exact mem_tableEvts.mpr (hall other hmem hne)
    have hfull := Finset.eq_of_subset_of_card_le hsub
      (by rw [card_others hevt]; exact card_tableEvts_le d)
    rcases hslot with hslot | hslot
    · have hmem := mem_tableEvts.mpr hslot
      rw [← hfull] at hmem
      exact (Finset.mem_erase.mp hmem).1 rfl
    · have hmem := mem_tableEvts.mpr hslot
      rw [← hfull] at hmem
      exact absurd (Finset.mem_erase.mp hmem).2 (by decide)
  rintro ⟨other, hother, hne, hnot⟩
  by_contra hslot
  push Not at hslot
  -- every slot has an event of its own, and there are not enough of them
  have hused : ∀ i, (d.scheduledEvts i).evt ≠ .none := fun i hi => hslot.2 ⟨i, hi⟩
  have hinj : Function.Injective fun i => (d.scheduledEvts i).evt :=
    fun i j hij => hone i j (hused i) hij
  have hcard : (tableEvts d).card = maxScheduledEvts := by
    unfold tableEvts
    rw [Finset.card_image_of_injective _ hinj, Finset.card_univ, Fintype.card_fin]
  have hsub : tableEvts d ⊆ schedulableEvts.erase evt := by
    intro e he
    obtain ⟨i, rfl⟩ := mem_tableEvts.mp he
    refine Finset.mem_erase.mpr ⟨fun hsame => hslot.1 ⟨i, hsame⟩, honly i (hused i)⟩
  have hfull := Finset.eq_of_subset_of_card_le hsub (by rw [card_others hevt, hcard])
  refine hnot (mem_tableEvts.mp ?_)
  rw [hfull]
  exact Finset.mem_erase.mpr ⟨hne, hother⟩

/-! ## Runs -/

/-- The calls that the driver makes. -/
inductive TaskCall where
  | schedule (evt : DrvEvt) (schedulable : evt ∈ schedulableEvts) (timeoutAtMs : U32)
  | notify (evt : DrvEvt)
  | checkAndClear (evt : DrvEvt)
  | process (now : U32)

/-- The driver task, and the events that are still owed: scheduled for a time, and not seen
pending by a processing step since.  `owed` only records. -/
structure WatchedTask where
  task : DriverTask
  owed : DrvEvt → Option U32

def watchedTaskInit : WatchedTask := ⟨driverTaskInit, fun _ => none⟩

/-- What is owed after a processing step. -/
def owedAfter (s : WatchedTask) (now : U32) (evt : DrvEvt) : Option U32 :=
  (s.owed evt).filter fun t => !(mmosalTimeHasPassed t now || s.task.pendingEvts evt)

def taskStep (s : WatchedTask) : TaskCall → Option WatchedTask
  | .schedule evt _ t =>
    (driverTaskScheduleNotificationAt s.task evt t).map fun task =>
      ⟨task, update s.owed evt (some t)⟩
  | .notify evt => some ⟨driverTaskNotifyEvent s.task evt, s.owed⟩
  | .checkAndClear evt => some ⟨(driverTaskNotificationCheckAndClear s.task evt).1, s.owed⟩
  | .process now => some ⟨driverTaskProcessScheduledEvts now s.task, owedAfter s now⟩

/-- The table holds what is owed. -/
structure TableOwed (s : WatchedTask) : Prop where
  oneSlot : OneSlotPerEvent s.task
  only : OnlySchedulable s.task
  slots : ∀ evt t, evt ≠ .none →
    (s.owed evt = some t ↔ ∃ i, s.task.scheduledEvts i = ⟨evt, t⟩)

theorem watchedTaskInit_tableOwed : TableOwed watchedTaskInit where
  oneSlot := fun _ _ hne => absurd rfl hne
  only := fun _ hne => absurd rfl hne
  slots := by
    intro evt t hne
    refine iff_of_false (by simp [watchedTaskInit]) ?_
    rintro ⟨i, hi⟩
    exact hne (congrArg DriverScheduledEvt.evt hi).symm

theorem schedule_tableOwed {s s' : WatchedTask} (hs : TableOwed s)
    (hevt : evt ∈ schedulableEvts) {t : U32}
    (h : taskStep s (.schedule evt hevt t) = some s') : TableOwed s' := by
  obtain ⟨task, htask, rfl⟩ := Option.map_eq_some_iff.mp h
  have hone := driverTaskScheduleNotificationAt_oneSlot hs.oneSlot htask
  obtain ⟨i, rfl, hi⟩ := driverTaskScheduleNotificationAt_cases htask
  have hne : evt ≠ .none := fun hnone => absurd (hnone ▸ hevt) (by decide)
  refine ⟨hone, fun j hj => ?_, fun evt' t' hne' => ?_⟩
  · by_cases hji : j = i
    · rw [hji, setSlot_self]
      exact hevt
    · rw [setSlot_of_ne _ hji] at hj ⊢
      exact hs.only j hj
  show update s.owed evt (some t) evt' = some t' ↔ _
  rw [update_apply]
  by_cases hsame : evt' = evt
  · rw [if_pos hsame]
    constructor
    · intro ht
      cases ht
      exact ⟨i, by rw [setSlot_self, hsame]⟩
    rintro ⟨j, hj⟩
    have hji : j = i := by
      refine hone j i ?_ ?_
      · rw [hj]
        exact hne'
      · rw [hj, setSlot_self]
        exact hsame
    rw [hji, setSlot_self] at hj
    exact congrArg (fun slot => some slot.timeoutAtMs) hj
  rw [if_neg hsame, hs.slots evt' t' hne']
  constructor
  · rintro ⟨j, hj⟩
    refine ⟨j, ?_⟩
    have hji : j ≠ i := by
      rintro rfl
      rcases hi with hi | ⟨-, hi⟩
      · rw [hj] at hi
        exact hsame hi
      · rw [hj] at hi
        exact hne' hi
    rw [setSlot_of_ne _ hji]
    exact hj
  rintro ⟨j, hj⟩
  have hji : j ≠ i := by
    rintro rfl
    rw [setSlot_self] at hj
    exact hsame (congrArg DriverScheduledEvt.evt hj).symm
  rw [setSlot_of_ne _ hji] at hj
  exact ⟨j, hj⟩

theorem process_tableOwed {s : WatchedTask} (hs : TableOwed s) (now : U32) :
    TableOwed ⟨driverTaskProcessScheduledEvts now s.task, owedAfter s now⟩ := by
  obtain ⟨hone, hslots, -⟩ := @foldl_processSlot now _ (List.nodup_finRange maxScheduledEvts) _
    hs.oneSlot
  change OneSlotPerEvent (driverTaskProcessScheduledEvts now s.task) at hone
  refine ⟨hone, fun i hi => ?_, fun evt t hne => ?_⟩
  · rcases hslots i with ⟨-, -, hgone⟩ | ⟨-, hsame⟩
    · exact absurd hgone hi
    · change (driverTaskProcessScheduledEvts now s.task).scheduledEvts i = _ at hsame
      rw [hsame] at hi ⊢
      exact hs.only i hi
  unfold owedAfter
  rw [Option.filter_eq_some_iff, hs.slots evt t hne]
  constructor
  · rintro ⟨⟨i, hi⟩, hkept⟩
    rw [Bool.not_eq_true', Bool.or_eq_false_iff] at hkept
    refine ⟨i, ?_⟩
    rcases hslots i with ⟨-, hdue, -⟩ | ⟨-, hsame⟩
    · unfold Due at hdue
      rw [hi] at hdue
      rcases hdue.2 with hpassed | hpending
      · rw [hkept.1] at hpassed
        cases hpassed
      · rw [hkept.2] at hpending
        cases hpending
    · exact hsame.trans hi
  rintro ⟨i, hi⟩
  change (List.foldl (processSlot now) s.task _).scheduledEvts i = _ at hi
  rcases hslots i with ⟨-, -, hgone⟩ | ⟨hnot, hsame⟩
  · rw [hi] at hgone
    exact absurd hgone hne
  rw [hsame] at hi
  refine ⟨⟨i, hi⟩, ?_⟩
  have hdue : ¬ Due now s.task i := fun hdue => hnot ⟨List.mem_finRange i, hdue⟩
  unfold Due at hdue
  rw [hi] at hdue
  rw [Bool.not_eq_true', Bool.or_eq_false_iff]
  constructor
  · exact Bool.eq_false_iff.mpr fun hpassed => hdue ⟨hne, Or.inl hpassed⟩
  · exact Bool.eq_false_iff.mpr fun hpending => hdue ⟨hne, Or.inr hpending⟩

theorem taskStep_tableOwed {s s' : WatchedTask} {call : TaskCall} (hs : TableOwed s)
    (h : taskStep s call = some s') : TableOwed s' := by
  cases call with
  | schedule evt hevt t => exact schedule_tableOwed hs hevt h
  | notify evt | checkAndClear evt =>
    cases h
    exact ⟨hs.oneSlot, hs.only, hs.slots⟩
  | process now =>
    cases h
    exact process_tableOwed hs now

theorem process_sets {s : WatchedTask} (hs : TableOwed s) (now : U32) {t : U32}
    (hne : evt ≠ .none) (howed : s.owed evt = some t) (hpassed : mmosalTimeHasPassed t now = true) :
    (driverTaskProcessScheduledEvts now s.task).pendingEvts evt = true := by
  obtain ⟨i, hi⟩ := (hs.slots evt t hne).mp howed
  obtain ⟨-, -, hevts⟩ := @foldl_processSlot now _ (List.nodup_finRange maxScheduledEvts) _
    hs.oneSlot
  refine (hevts evt).mpr (Or.inr ⟨i, List.mem_finRange i, ?_, hne, ?_⟩)
  · rw [hi]
  · rw [hi]
    exact hpassed

/-- A call comes back, and a processing step sets every event that is owed and whose time has
passed. -/
def InTime (s : WatchedTask) (call : TaskCall) : Prop :=
  ∃ s', taskStep s call = some s' ∧ ∀ now, call = .process now →
    ∀ evt t, evt ≠ .none → s.owed evt = some t → mmosalTimeHasPassed t now = true →
      s'.task.pendingEvts evt = true

/-- An event is scheduled while some other one is not. -/
def RoomFor (s : WatchedTask) : TaskCall → Prop
  | .schedule evt _ _ => ∃ other ∈ schedulableEvts, other ≠ evt ∧ ¬ Scheduled s.task other
  | _ => True

/-- Over every run of calls: no event has two slots, every call comes back and every scheduled
event is set in time, if and only if an event is scheduled only while some other one is not. -/
theorem scheduled_in_time_iff (calls : List TaskCall) :
    (Throughout taskStep (fun s => OneSlotPerEvent s.task) watchedTaskInit calls
        ∧ Along taskStep InTime watchedTaskInit calls)
      ↔ Along taskStep RoomFor watchedTaskInit calls := by
  refine throughout_and_along_iff (D := fun _ _ => True) (J := TableOwed)
    (fun _ _ _ hs _ h => taskStep_tableOwed hs h) (fun s call hs _ _ => ?_)
    watchedTaskInit_tableOwed.oneSlot watchedTaskInit_tableOwed
    (along_of_forall_mem fun _ _ _ => trivial)
  have hkept : ∀ s', taskStep s call = some s' → OneSlotPerEvent s'.task :=
    fun s' h => (taskStep_tableOwed hs h).oneSlot
  rw [and_iff_left hkept]
  cases call with
  | schedule evt hevt t =>
    show InTime s _ ↔ ∃ other ∈ schedulableEvts, _
    rw [← driverTaskScheduleNotificationAt_isSome_iff hs.oneSlot hs.only hevt t]
    constructor
    · rintro ⟨s', h, -⟩
      obtain ⟨task, htask, -⟩ := Option.map_eq_some_iff.mp h
      rw [htask]
      rfl
    intro hsome
    obtain ⟨task, htask⟩ := Option.isSome_iff_exists.mp hsome
    refine ⟨⟨task, update s.owed evt (some t)⟩, ?_, fun now hnow => (by cases hnow)⟩
    show Option.map _ (driverTaskScheduleNotificationAt s.task evt t) = _
    rw [htask]
    rfl
  | notify evt | checkAndClear evt =>
    exact iff_of_true ⟨_, rfl, fun now hnow => (by cases hnow)⟩ trivial
  | process now =>
    refine iff_of_true ⟨_, rfl, fun now' hnow evt t hne howed hpassed => ?_⟩ trivial
    cases hnow
    exact process_sets hs now hne howed hpassed

end MmIotEsp32.Driver
