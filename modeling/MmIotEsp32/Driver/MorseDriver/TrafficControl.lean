/-
  MmIotEsp32.Driver.MorseDriver.TrafficControl

  Traffic control by the chip: the last event against the state it leaves.

  The events are folded into two pending bits, and a pass takes the pause before the resume.
  A pause that came after a resume, in one batch, is therefore undone by it.
-/
import MmIotEsp32.Driver.MorseDriver.ChipIfWork

namespace MmIotEsp32.Driver

open Lib Function

/-! ## What has nothing to do with traffic control -/

/-- An event that is not one of traffic control. -/
structure OtherEvt (evt : DrvEvt) : Prop where
  pause : DrvEvt.trafficPausePend ≠ evt
  resume : DrvEvt.trafficResumePend ≠ evt

/-- The events of traffic control are not scheduled. -/
def NoneScheduled (d : DriverData) : Prop := ∀ i, OtherEvt (d.task.scheduledEvts i).evt

/-- Traffic control is where it was. -/
structure TrafficSame (d d' : DriverData) : Prop where
  stopped : d'.dataTxStopped = d.dataTxStopped
  last : d'.lastTrafficEvt = d.lastTrafficEvt
  pause : d'.task.pendingEvts .trafficPausePend = d.task.pendingEvts .trafficPausePend
  resume : d'.task.pendingEvts .trafficResumePend = d.task.pendingEvts .trafficResumePend
  scheduled : NoneScheduled d → NoneScheduled d'

theorem TrafficSame.refl (d : DriverData) : TrafficSame d d := ⟨rfl, rfl, rfl, rfl, id⟩

theorem TrafficSame.trans {d d' d'' : DriverData} (h : TrafficSame d d') (h' : TrafficSame d' d'') :
    TrafficSame d d'' :=
  ⟨h'.stopped.trans h.stopped, h'.last.trans h.last, h'.pause.trans h.pause,
    h'.resume.trans h.resume, fun hd => h'.scheduled (h.scheduled hd)⟩

theorem notify_trafficSame (d : DriverData) {evt : DrvEvt} (h : OtherEvt evt) :
    TrafficSame d (notify d evt) :=
  ⟨rfl, rfl, update_of_ne h.pause .., update_of_ne h.resume .., id⟩

theorem checkAndClear_trafficSame (d : DriverData) {evt : DrvEvt} (h : OtherEvt evt) :
    TrafficSame d (checkAndClear d evt).1 :=
  ⟨rfl, rfl, update_of_ne h.pause .., update_of_ne h.resume .., id⟩

/-- Only power save and the table have changed. -/
structure OnlyPs (d d' : DriverData) : Prop where
  stopped : d'.dataTxStopped = d.dataTxStopped
  last : d'.lastTrafficEvt = d.lastTrafficEvt
  pending : d'.task.pendingEvts = d.task.pendingEvts
  scheduled : NoneScheduled d → NoneScheduled d'

theorem OnlyPs.refl (d : DriverData) : OnlyPs d d := ⟨rfl, rfl, rfl, id⟩

theorem OnlyPs.trans {d d' d'' : DriverData} (h : OnlyPs d d') (h' : OnlyPs d' d'') :
    OnlyPs d d'' :=
  ⟨h'.stopped.trans h.stopped, h'.last.trans h.last, h'.pending.trans h.pending,
    fun hd => h'.scheduled (h.scheduled hd)⟩

variable {d d' : DriverData}

theorem OnlyPs.trafficSame (h : OnlyPs d d') : TrafficSame d d' :=
  ⟨h.stopped, h.last, congrFun h.pending _, congrFun h.pending _, h.scheduled⟩

theorem scheduleAt_onlyPs {evt : DrvEvt} (hevt : OtherEvt evt) {t : U32}
    (h : scheduleAt d evt t = some d') : OnlyPs d d' := by
  obtain ⟨task, htask, rfl⟩ := Option.map_eq_some_iff.mp h
  obtain ⟨i, rfl, -⟩ := driverTaskScheduleNotificationAt_cases htask
  refine ⟨rfl, rfl, rfl, fun hd j => ?_⟩
  by_cases hj : j = i
  · subst hj
    show OtherEvt ((setSlot d.task j ⟨evt, t⟩).scheduledEvts j).evt
    rw [setSlot_self]
    exact hevt
  · show OtherEvt ((setSlot d.task i ⟨evt, t⟩).scheduledEvts j).evt
    rw [setSlot_of_ne _ hj]
    exact hd j

theorem onlyPs_ps (d : DriverData) (ps : MorsePs) : OnlyPs d { d with ps := ps } :=
  ⟨rfl, rfl, rfl, id⟩

theorem morsePsUpdateTimeout_onlyPs {timeMs timeoutMs : U32}
    (h : morsePsUpdateTimeout d timeMs timeoutMs = some d') : OnlyPs d d' := by
  unfold morsePsUpdateTimeout at h
  dsimp only at h
  split at h
  · exact (onlyPs_ps d _).trans (scheduleAt_onlyPs ⟨by decide, by decide⟩ h)
  · cases h
    exact .refl d

theorem morsePsWakeup_onlyPs {timeMs : U32}
    (h : morsePsWakeup d timeMs = some d') : OnlyPs d d' := by
  unfold morsePsWakeup at h
  split at h
  · cases h
    exact .refl d
  · exact (onlyPs_ps d _).trans (morsePsUpdateTimeout_onlyPs h)

theorem morsePsEvaluate_onlyPs {env : PsEnv}
    (h : morsePsEvaluate env d = some d') : OnlyPs d d' := by
  unfold morsePsEvaluate at h
  split at h
  · cases h
    exact .refl d
  obtain ⟨d₁, hbus, hrest⟩ := Option.bind_eq_some_iff.mp h
  have hsame : OnlyPs d d₁ := by
    split at hbus
    · exact scheduleAt_onlyPs ⟨by decide, by decide⟩ hbus
    · cases hbus
      exact .refl d
  refine hsame.trans ?_
  split at hrest
  · exact morsePsWakeup_onlyPs hrest
  split at hrest
  · exact morsePsUpdateTimeout_onlyPs hrest
  · cases hrest
    exact onlyPs_ps d₁ _

theorem morsePsDisable_onlyPs {env : PsEnv} {waker : U32}
    (h : morsePsDisable env d waker = some d') : OnlyPs d d' := by
  unfold morsePsDisable at h
  split at h
  · cases h
    exact .refl d
  · exact (onlyPs_ps d _).trans (morsePsEvaluate_onlyPs h)

theorem morsePsEnable_onlyPs {env : PsEnv} {waker : U32}
    (h : morsePsEnable env d waker = some d') : OnlyPs d d' := by
  unfold morsePsEnable at h
  split at h
  · cases h
    exact .refl d
  · exact (onlyPs_ps d _).trans (morsePsEvaluate_onlyPs h)

variable {env : WorkEnv}

theorem txWork_trafficSame {evt : DrvEvt} (hevt : OtherEvt evt) {againMs : U32}
    {counts : Bool} {w w' : DriverData × Bool} (h : txWork env evt againMs counts w = some w') :
    TrafficSame w.1 w'.1 := by
  have hcheck := checkAndClear_trafficSame w.1 hevt
  unfold txWork at h
  dsimp only at h
  generalize checkAndClear w.1 evt = checked at h hcheck
  obtain ⟨d, pending⟩ := checked
  dsimp only at h hcheck
  split at h
  · split at h
    · obtain ⟨d₁, hscheduled, rfl⟩ := Option.map_eq_some_iff.mp h
      exact hcheck.trans (scheduleAt_onlyPs hevt hscheduled).trafficSame
    · cases h
      exact hcheck
  · cases h
    exact hcheck

theorem earlyTxWork_trafficSame {w w' : DriverData × Bool}
    (h : earlyTxWork env w = some w') : TrafficSame w.1 w'.1 := by
  obtain ⟨w₁, hcommand, h⟩ := Option.bind_eq_some_iff.mp h
  obtain ⟨w₂, hbeacon, hmgmt⟩ := Option.bind_eq_some_iff.mp h
  exact ((txWork_trafficSame ⟨by decide, by decide⟩ hcommand).trans
    (txWork_trafficSame ⟨by decide, by decide⟩ hbeacon)).trans
    (txWork_trafficSame ⟨by decide, by decide⟩ hmgmt)

theorem endWork_trafficSame {w : DriverData × Bool} {d' : DriverData}
    (h : endWork env w = some d') : TrafficSame w.1 d' := by
  obtain ⟨d₁, hactivity, henable⟩ := Option.bind_eq_some_iff.mp h
  refine TrafficSame.trans ?_ (morsePsEnable_onlyPs henable).trafficSame
  split at hactivity
  · exact (morsePsUpdateTimeout_onlyPs hactivity).trafficSame
  · cases hactivity
    exact .refl _

/-! ## What traffic control does -/

/-- What the pending bits and the flag say together, whatever the order of the events was: one
pending bit alone is that of the last event. -/
structure LastPending (d : DriverData) : Prop where
  pause : d.task.pendingEvts .trafficPausePend = true →
    d.task.pendingEvts .trafficResumePend = false → d.lastTrafficEvt = some true
  resume : d.task.pendingEvts .trafficPausePend = false →
    d.task.pendingEvts .trafficResumePend = true → d.lastTrafficEvt = some false

/-- With nothing pending, data is stopped exactly when the last event was a pause. -/
def LastEventWins (d : DriverData) : Prop :=
  d.task.pendingEvts .trafficPausePend = false → d.task.pendingEvts .trafficResumePend = false →
    (d.dataTxStopped = true ↔ d.lastTrafficEvt = some true)

theorem TrafficSame.lastPending (h : TrafficSame d d') (hd : LastPending d) : LastPending d' := by
  obtain ⟨-, hlast, hpause, hresume, -⟩ := h
  refine ⟨?_, ?_⟩
  · rw [hlast, hpause, hresume]
    exact hd.pause
  · rw [hlast, hpause, hresume]
    exact hd.resume

theorem TrafficSame.lastEventWins_iff (h : TrafficSame d d') :
    LastEventWins d' ↔ LastEventWins d := by
  unfold LastEventWins
  rw [h.stopped, h.last, h.pause, h.resume]

theorem handleUmacTrafficControl_pending (d : DriverData) (pause : Bool) :
    (handleUmacTrafficControl d pause).task.pendingEvts
      (bif pause then .trafficPausePend else .trafficResumePend) = true := by
  cases pause <;> simp [handleUmacTrafficControl, notify, driverTaskNotifyEvent]

theorem handleUmacTrafficControl_lastTrafficEvt (d : DriverData) (pause : Bool) :
    (handleUmacTrafficControl d pause).lastTrafficEvt = some pause := by
  cases pause <;> rfl

theorem handleUmacTrafficControl_lastPending (d : DriverData) (pause : Bool) :
    LastPending (handleUmacTrafficControl d pause) := by
  have hset := handleUmacTrafficControl_pending d pause
  have hlast := handleUmacTrafficControl_lastTrafficEvt d pause
  cases pause with
  | true =>
    rw [cond_true] at hset
    refine ⟨fun _ _ => hlast, fun hnone => ?_⟩
    rw [hset] at hnone
    cases hnone
  | false =>
    rw [cond_false] at hset
    refine ⟨fun _ hnone => ?_, fun _ _ => hlast⟩
    rw [hset] at hnone
    cases hnone

theorem handleUmacTrafficControl_lastEventWins (d : DriverData) (pause : Bool) :
    LastEventWins (handleUmacTrafficControl d pause) := by
  intro hpause hresume
  have hset := handleUmacTrafficControl_pending d pause
  cases pause with
  | true =>
    rw [cond_true] at hset
    rw [hset] at hpause
    cases hpause
  | false =>
    rw [cond_false] at hset
    rw [hset] at hresume
    cases hresume

variable {d : DriverData}

theorem foldl_lastPending (hd : LastPending d) (evts : List Bool) :
    LastPending (evts.foldl handleUmacTrafficControl d) := by
  induction evts generalizing d with
  | nil => exact hd
  | cons pause rest ih => exact ih (handleUmacTrafficControl_lastPending d pause)

theorem foldl_lastEventWins (hd : LastEventWins d) (evts : List Bool) :
    LastEventWins (evts.foldl handleUmacTrafficControl d) := by
  induction evts generalizing d with
  | nil => exact hd
  | cons pause rest ih => exact ih (handleUmacTrafficControl_lastEventWins d pause)

/-- Both bits are pending, and the last event was the pause. -/
def PauseAfterResume (d : DriverData) : Prop :=
  d.task.pendingEvts .trafficPausePend = true ∧ d.task.pendingEvts .trafficResumePend = true
    ∧ d.lastTrafficEvt = some true

theorem TrafficSame.pauseAfterResume_iff (h : TrafficSame d d') :
    PauseAfterResume d' ↔ PauseAfterResume d := by
  unfold PauseAfterResume
  rw [h.last, h.pause, h.resume]

theorem trafficWork_eq (d : DriverData) :
    (trafficWork d).task.pendingEvts .trafficPausePend = false
    ∧ (trafficWork d).task.pendingEvts .trafficResumePend = false
    ∧ (trafficWork d).lastTrafficEvt = d.lastTrafficEvt
    ∧ (trafficWork d).dataTxStopped
      = if d.task.pendingEvts .trafficResumePend then false
        else if d.task.pendingEvts .trafficPausePend then true else d.dataTxStopped := by
  cases hpause : d.task.pendingEvts .trafficPausePend <;>
    cases hresume : d.task.pendingEvts .trafficResumePend <;>
    simp [trafficWork, checkAndClear, driverTaskNotificationCheckAndClear, hpause, hresume,
      morseSkbqDataTrafficPause, morseSkbqDataTrafficResume, notify, driverTaskNotifyEvent]

theorem trafficWork_lastEventWins_iff (hp : LastPending d)
    (hd : LastEventWins d) : LastEventWins (trafficWork d) ↔ ¬ PauseAfterResume d := by
  obtain ⟨hpause', hresume', hlast, hstopped⟩ := trafficWork_eq d
  unfold LastEventWins PauseAfterResume
  rw [hpause', hresume', hlast, hstopped, forall_prop_of_true rfl, forall_prop_of_true rfl]
  cases hpause : d.task.pendingEvts .trafficPausePend with
  | false =>
    cases hresume : d.task.pendingEvts .trafficResumePend with
    | false =>
      have hidle := hd hpause hresume
      simpa using hidle
    | true =>
      have hlast := hp.resume hpause hresume
      simp [hlast]
  | true =>
    cases hresume : d.task.pendingEvts .trafficResumePend with
    | false =>
      have hlast := hp.pause hpause hresume
      simp [hlast]
    | true =>
      simp

theorem trafficWork_lastPending (d : DriverData) : LastPending (trafficWork d) := by
  obtain ⟨hpause, hresume, -, -⟩ := trafficWork_eq d
  refine ⟨fun h => ?_, fun _ h => ?_⟩
  · rw [hpause] at h
    cases h
  · rw [hresume] at h
    cases h

/-! ## A pass -/

/-- The traffic control events that a pass receives. -/
def receivedEvts (env : WorkEnv) (d : DriverData) : List Bool :=
  if d.task.pendingEvts .rxPend then env.rxEvts else []

/-- What the received packets do to traffic control. -/
def afterReceived (env : WorkEnv) (d : DriverData) : DriverData :=
  (receivedEvts env d).foldl handleUmacTrafficControl d

theorem handleUmacTrafficControl_trafficSame (h : TrafficSame d d') (pause : Bool) :
    TrafficSame (handleUmacTrafficControl d pause) (handleUmacTrafficControl d' pause) := by
  obtain ⟨hstopped, -, hpause, hresume, hscheduled⟩ := h
  cases pause <;>
    exact ⟨hstopped, rfl, by simp [handleUmacTrafficControl, notify, driverTaskNotifyEvent, hpause],
      by simp [handleUmacTrafficControl, notify, driverTaskNotifyEvent, hresume], hscheduled⟩

theorem foldl_trafficSame (h : TrafficSame d d') (evts : List Bool) :
    TrafficSame (evts.foldl handleUmacTrafficControl d)
      (evts.foldl handleUmacTrafficControl d') := by
  induction evts generalizing d d' with
  | nil => exact h
  | cons pause rest ih => exact ih (handleUmacTrafficControl_trafficSame h pause)

theorem rxWork_trafficSame (h : OnlyPs d d') (env : WorkEnv) :
    TrafficSame (afterReceived env d) (rxWork env d').1 := by
  have hsame : TrafficSame d (checkAndClear d' .rxPend).1 :=
    h.trafficSame.trans (checkAndClear_trafficSame d' ⟨by decide, by decide⟩)
  have hfold := foldl_trafficSame hsame
  unfold afterReceived receivedEvts
  rw [← h.pending]
  unfold rxWork
  show TrafficSame _ (ite (d'.task.pendingEvts .rxPend = true) _ _ : DriverData × Bool).1
  by_cases hrx : d'.task.pendingEvts .rxPend = true
  · rw [if_pos hrx, if_pos hrx]
    refine (hfold env.rxEvts).trans ?_
    dsimp only
    split
    · exact notify_trafficSame _ ⟨by decide, by decide⟩
    · exact .refl _
  · rw [if_neg hrx, if_neg hrx]
    exact hfold []

theorem morsePagesetsWork_trafficSame
    (hpending : pagesetIsPending d = true) (h : morsePagesetsWork env d = some d') :
    ∃ e, TrafficSame (afterReceived env d) e ∧ TrafficSame (trafficWork e) d' := by
  unfold morsePagesetsWork at h
  rw [hpending] at h
  obtain ⟨d₁, hdisable, h⟩ := Option.bind_eq_some_iff.mp h
  have hrx := rxWork_trafficSame (morsePsDisable_onlyPs hdisable) env
  dsimp only at h
  generalize rxWork env d₁ = received at h hrx
  obtain ⟨w, hearly, h⟩ := Option.bind_eq_some_iff.mp h
  obtain ⟨w', hdata, hend⟩ := Option.bind_eq_some_iff.mp h
  refine ⟨w.1, ?_, ?_⟩
  · have hreturn := @checkAndClear_trafficSame received.1 .pageReturnPend
      ⟨by decide, by decide⟩
    have hsent := earlyTxWork_trafficSame hearly
    exact (hrx.trans hreturn).trans hsent
  · exact (txWork_trafficSame ⟨by decide, by decide⟩ hdata).trans (endWork_trafficSame hend)

theorem morseYapsWork_trafficSame
    (hpending : pagesetIsPending d = true) (h : morseYapsWork env d = some d') :
    ∃ e, TrafficSame (afterReceived env d) e ∧ TrafficSame (trafficWork e) d' := by
  unfold morseYapsWork at h
  rw [hpending] at h
  obtain ⟨d₁, hdisable, h⟩ := Option.bind_eq_some_iff.mp h
  have hrx := rxWork_trafficSame (morsePsDisable_onlyPs hdisable) env
  dsimp only at h
  generalize rxWork env d₁ = received at h hrx
  obtain ⟨w, hearly, h⟩ := Option.bind_eq_some_iff.mp h
  have hfreed := @checkAndClear_trafficSame (trafficWork w.1) .txPacketFreedUpPend
    ⟨by decide, by decide⟩
  refine ⟨w.1, hrx.trans (earlyTxWork_trafficSame hearly), hfreed.trans ?_⟩
  split at h
  · have hend := endWork_trafficSame h
    exact hend
  · obtain ⟨w', hdata, hend⟩ := Option.bind_eq_some_iff.mp h
    exact (txWork_trafficSame ⟨by decide, by decide⟩ hdata).trans (endWork_trafficSame hend)

/-! ## Runs -/

/-- What happens to traffic control: an event of the chip, another notification, the scheduled
events, and the passes. -/
inductive TrafficEvent where
  | control (pauseDataTraffic : Bool)
  | notify (evt : DrvEvt) (other : OtherEvt evt)
  | process (now : U32)
  | pagesets (env : WorkEnv)
  | yaps (env : WorkEnv)

def trafficStep (d : DriverData) : TrafficEvent → Option DriverData
  | .control pause => some (handleUmacTrafficControl d pause)
  | .notify evt _ => some (notify d evt)
  | .process now => some { d with task := driverTaskProcessScheduledEvts now d.task }
  | .pagesets env => morsePagesetsWork env d
  | .yaps env => morseYapsWork env d

/-- A pass that has something to do does not find, after its received packets, a resume pending
together with a later pause. -/
def NoLaterPause (d : DriverData) : TrafficEvent → Prop
  | .control _ | .notify _ _ | .process _ => True
  | .pagesets env | .yaps env =>
    pagesetIsPending d = true → ¬ PauseAfterResume (afterReceived env d)

theorem trafficWork_noneScheduled (hd : NoneScheduled d) : NoneScheduled (trafficWork d) := by
  have htable : (trafficWork d).task.scheduledEvts = d.task.scheduledEvts := by
    unfold trafficWork
    dsimp only
    split <;> split <;> rfl
  intro i
  rw [htable]
  exact hd i

theorem handleUmacTrafficControl_noneScheduled (hd : NoneScheduled d)
    (pause : Bool) : NoneScheduled (handleUmacTrafficControl d pause) := by
  cases pause <;> exact hd

theorem foldl_noneScheduled (hd : NoneScheduled d) (evts : List Bool) :
    NoneScheduled (evts.foldl handleUmacTrafficControl d) := by
  induction evts generalizing d with
  | nil => exact hd
  | cons pause rest ih => exact ih (handleUmacTrafficControl_noneScheduled hd pause)

theorem processSlot_trafficSame (hd : NoneScheduled d) (now : U32)
    (i : EvtSlot) : TrafficSame d { d with task := processSlot now d.task i } := by
  obtain ⟨htable, hpending⟩ := processSlot_cases now d.task i
  have hkept : ∀ evt, evt ≠ (d.task.scheduledEvts i).evt →
      (processSlot now d.task i).pendingEvts evt = d.task.pendingEvts evt := by
    intro evt hne
    rw [Bool.eq_iff_iff, hpending]
    exact ⟨fun h => h.resolve_right fun h => hne h.1, Or.inl⟩
  refine ⟨rfl, rfl, hkept _ (hd i).pause, hkept _ (hd i).resume, fun _ j => ?_⟩
  show OtherEvt ((processSlot now d.task i).scheduledEvts j).evt
  rcases htable with ⟨-, htable⟩ | ⟨-, htable⟩
  · rw [htable, update_apply]
    split
    · exact show OtherEvt .none from ⟨by decide, by decide⟩
    · exact hd j
  · rw [htable]
    exact hd j

theorem process_trafficSame (hd : NoneScheduled d) (now : U32) :
    TrafficSame d { d with task := driverTaskProcessScheduledEvts now d.task } := by
  unfold driverTaskProcessScheduledEvts
  generalize List.finRange maxScheduledEvts = slots
  induction slots generalizing d with
  | nil => exact .refl d
  | cons i rest ih =>
    have hslot := processSlot_trafficSame hd now i
    exact hslot.trans (ih (hslot.scheduled hd))

variable {e : TrafficEvent}

theorem trafficStep_cases (hd : NoneScheduled d) (h : trafficStep d e = some d') :
    NoLaterPause d e ∧ ((∃ pause, d' = handleUmacTrafficControl d pause) ∨ TrafficSame d d')
    ∨ ∃ env mid, (NoLaterPause d e ↔ ¬ PauseAfterResume (afterReceived env d))
        ∧ TrafficSame (afterReceived env d) mid ∧ TrafficSame (trafficWork mid) d' := by
  cases e with
  | control pause =>
    cases h
    exact Or.inl ⟨trivial, Or.inl ⟨pause, rfl⟩⟩
  | notify evt other =>
    cases h
    exact Or.inl ⟨trivial, Or.inr (notify_trafficSame d other)⟩
  | process now =>
    cases h
    exact Or.inl ⟨trivial, Or.inr (process_trafficSame hd now)⟩
  | pagesets env =>
    cases hpending : pagesetIsPending d with
    | false =>
      have hidle : d' = d := by
        simpa [trafficStep, morsePagesetsWork, hpending] using h.symm
      refine Or.inl ⟨fun hp => ?_, Or.inr (hidle ▸ .refl d)⟩
      rw [hpending] at hp
      cases hp
    | true =>
      obtain ⟨mid, hreceived, hrest⟩ := morsePagesetsWork_trafficSame hpending h
      exact Or.inr ⟨env, mid, ⟨fun hno => hno hpending, fun hno _ => hno⟩, hreceived, hrest⟩
  | yaps env =>
    cases hpending : pagesetIsPending d with
    | false =>
      have hidle : d' = d := by
        simpa [trafficStep, morseYapsWork, hpending] using h.symm
      refine Or.inl ⟨fun hp => ?_, Or.inr (hidle ▸ .refl d)⟩
      rw [hpending] at hp
      cases hp
    | true =>
      obtain ⟨mid, hreceived, hrest⟩ := morseYapsWork_trafficSame hpending h
      exact Or.inr ⟨env, mid, ⟨fun hno => hno hpending, fun hno _ => hno⟩, hreceived, hrest⟩

/-- What the pending bits say, with nothing of traffic control scheduled. -/
structure TrafficWf (d : DriverData) : Prop where
  last : LastPending d
  scheduled : NoneScheduled d

theorem trafficStep_trafficWf (hd : TrafficWf d)
    (h : trafficStep d e = some d') : TrafficWf d' := by
  rcases trafficStep_cases hd.scheduled h with ⟨-, ⟨pause, rfl⟩ | hsame⟩ |
    ⟨env, mid, -, hreceived, hrest⟩
  · exact ⟨handleUmacTrafficControl_lastPending d pause,
      handleUmacTrafficControl_noneScheduled hd.scheduled pause⟩
  · exact ⟨hsame.lastPending hd.last, hsame.scheduled hd.scheduled⟩
  have hmid : NoneScheduled mid :=
    hreceived.scheduled (foldl_noneScheduled hd.scheduled (receivedEvts env d))
  exact ⟨hrest.lastPending (trafficWork_lastPending mid),
    hrest.scheduled (trafficWork_noneScheduled hmid)⟩

theorem trafficStep_lastEventWins_iff
    (hp : TrafficWf d) (hd : LastEventWins d) (h : trafficStep d e = some d') :
    LastEventWins d' ↔ NoLaterPause d e := by
  rcases trafficStep_cases hp.scheduled h with ⟨hno, ⟨pause, rfl⟩ | hsame⟩ |
    ⟨env, mid, hno, hreceived, hrest⟩
  · exact iff_of_true (handleUmacTrafficControl_lastEventWins d pause) hno
  · exact iff_of_true (hsame.lastEventWins_iff.mpr hd) hno
  have hpmid : LastPending mid := hreceived.lastPending (foldl_lastPending hp.last _)
  have hdmid : LastEventWins mid := hreceived.lastEventWins_iff.mpr (foldl_lastEventWins hd _)
  rw [hno, hrest.lastEventWins_iff, trafficWork_lastEventWins_iff hpmid hdmid,
    hreceived.pauseAfterResume_iff]

/-- Over every run: with nothing pending, the flag is set exactly when the last event was a
pause, if and only if no pass that comes back takes a pause before an earlier resume. -/
theorem last_event_wins_iff (ps : MorsePs) (es : List TrafficEvent) :
    Throughout trafficStep LastEventWins (driverDataInit ps) es
      ↔ Along trafficStep (fun d e => (trafficStep d e).isSome = true → NoLaterPause d e)
          (driverDataInit ps) es := by
  have hinit : TrafficWf (driverDataInit ps) :=
    ⟨⟨fun hset => (by cases hset), fun _ hset => (by cases hset)⟩,
      fun _ => show OtherEvt .none from ⟨by decide, by decide⟩⟩
  have hwins : LastEventWins (driverDataInit ps) :=
    fun _ _ => iff_of_false (fun hset => (by cases hset)) (fun hlast => (by cases hlast))
  refine Iff.trans (and_iff_left (along_of_forall_mem fun _ _ _ => trivial)).symm
    (throughout_and_along_iff (D := fun _ _ => True) (P := fun _ _ => True) (J := TrafficWf)
      (fun d e d' hp _ h => trafficStep_trafficWf hp h) (fun d e hp hd _ => ?_) hwins hinit
      (along_of_forall_mem fun _ _ _ => trivial))
  rw [true_and]
  constructor
  · intro h hback
    obtain ⟨d', hd'⟩ := Option.isSome_iff_exists.mp hback
    exact (trafficStep_lastEventWins_iff hp hd hd').mp (h d' hd')
  · intro h d' hd'
    exact (trafficStep_lastEventWins_iff hp hd hd').mpr (h (by rw [hd']; rfl))

/-- Power save that was not set up, and a pass without clocks or packets. -/
def idlePs : MorsePs := ⟨false, 0, false, 0, 0⟩

def quietEnv (rxEvts : List Bool) : WorkEnv :=
  ⟨⟨0, 0, false, false⟩, ⟨0, 0, false, false⟩, 0, rxEvts, false, false, fun _ => false,
    fun _ => 0, false⟩

/-- A pass receives a resume and then a pause: data is not stopped after it. -/
theorem last_event_loses :
    ¬ Throughout trafficStep LastEventWins (driverDataInit idlePs)
        [.notify .rxPend ⟨by decide, by decide⟩, .pagesets (quietEnv [false, true])] := by
  intro h
  have hlast := (h.2 _ rfl).2 _ rfl rfl rfl
  exact absurd hlast (by decide)

end MmIotEsp32.Driver
