/-
  MmIotEsp32.Umac.Core.EvtLoopRuns

  What holds of the events and their callers in every interleaving, whether or not a loop leaves
  events behind: an accepted event is pending or was dispatched, once, and a caller that waits
  for one has it pending, in its handler, or behind it.
-/
import Mathlib.Data.List.Perm.Basic
import MmIotEsp32.Umac.Core.EvtLoop

namespace MmIotEsp32.Umac.Core

open Lib Function

variable {T : Type*}

/-- The event that a task waits for, or will as soon as the loop is woken. -/
def TaskPc.awaits : TaskPc → Option Nat
  | .waits _ id => some id
  | .gives api (some id) => if api.waits then some id else none
  | _ => none

/-- The semaphore of the task is given, or a handler is to give it. -/
def EvtLoopState.Answered (s : EvtLoopState T) (k : T) (id : Nat) : Prop :=
  s.sembs k = true ∨ (∃ e ∈ s.evtq, e.id = id ∧ e.waiter = some k)
    ∨ ∃ l ii e, s.loops l = .handles ii e ∧ e.id = id ∧ e.waiter = some k

structure EvtLoopState.Recorded (s : EvtLoopState T) : Prop where
  once : (s.evtq.map Evt.id ++ s.dispatched.map Dispatch.id).Perm (List.range s.accepted)
  woken : ∀ k id, (s.tasks k).awaits = some id → s.Answered k id
  absent : ∀ l, s.created < l → s.loops l = .absent

namespace EvtLoopState.Recorded

variable {s s' : EvtLoopState T}

theorem init : (EvtLoopState.init : EvtLoopState T).Recorded where
  once := List.Perm.refl []
  woken := by
    intro k id h
    cases h
  absent := fun _ _ => rfl

variable [DecidableEq T] {k : T}

theorem goTo {pc : TaskPc} (h : s.Recorded) (htasks : s'.tasks = update s.tasks k pc)
    (hevtq : s'.evtq = s.evtq) (hdispatched : s'.dispatched = s.dispatched)
    (haccepted : s'.accepted = s.accepted) (hcreated : s'.created = s.created)
    (hloops : s'.loops = s.loops) (hsembs : ∀ j, j ≠ k → s'.sembs j = s.sembs j)
    (hpc : pc.awaits = none ∨ (pc.awaits = (s.tasks k).awaits ∧ s'.sembs k = s.sembs k)) :
    s'.Recorded where
  once := by
    rw [hevtq, hdispatched, haccepted]
    exact h.once
  woken := by
    intro j id hj
    unfold EvtLoopState.Answered
    rw [hevtq, hloops]
    rw [htasks] at hj
    by_cases hjk : j = k
    · subst hjk
      rw [update_self] at hj
      obtain hnone | ⟨hsame, hsemb⟩ := hpc
      -- it waits for nothing now, or for what it has waited for before
      · rw [hnone] at hj
        cases hj
      · rw [hsemb]
        exact h.woken j id (hsame ▸ hj)
    · rw [update_of_ne hjk] at hj
      rw [hsembs j hjk]
      exact h.woken j id hj
  absent := by
    rw [hcreated, hloops]
    exact h.absent

theorem creates (h : s.Recorded) {api : ApiCall} (hk : (s.tasks k).awaits = none) :
    EvtLoopState.Recorded ({ s with
      created := s.created + 1
      loops := update s.loops (s.created + 1) .tests }.goTo k
        (.startAssigns api (s.created + 1))) where
  once := h.once
  woken := by
    intro j id hj
    have hold : (s.tasks j).awaits = some id := by
      change (update s.tasks k _ j).awaits = some id at hj
      by_cases hjk : j = k
      · subst hjk
        rw [update_self] at hj
        cases hj
      · rwa [update_of_ne hjk] at hj
    obtain hsemb | hpending | ⟨l, ii, e, hl, hid, hwaiter⟩ := h.woken j id hold
    · exact .inl hsemb
    · exact .inr (.inl hpending)
    -- a loop that handles an event is not the new one
    refine .inr (.inr ⟨l, ii, e, ?_, hid, hwaiter⟩)
    show update s.loops (s.created + 1) .tests l = _
    rw [update_of_ne]
    · exact hl
    · rintro rfl
      rw [h.absent _ (Nat.lt_succ_self _)] at hl
      cases hl
  absent := by
    intro l hl
    show update s.loops (s.created + 1) .tests l = _
    have hlt : s.created + 1 < l := hl
    rw [update_of_ne (by omega)]
    exact h.absent l (by omega)

theorem accepts (h : s.Recorded) {api : ApiCall} {evtq : List (Evt T)} {free : Nat}
    (hevtq : evtq.Perm
      (⟨s.accepted, s.created, if api.waits then some k else none⟩ :: s.evtq)) :
    EvtLoopState.Recorded ({ s with evtq, free, accepted := s.accepted + 1 }.goTo k
      (.gives api (some s.accepted))) where
  once := by
    show (evtq.map Evt.id ++ s.dispatched.map Dispatch.id).Perm (List.range (s.accepted + 1))
    rw [List.range_succ]
    -- the new event has the next number
    refine ((hevtq.map Evt.id).append_right _).trans ?_
    rw [List.map_cons, List.cons_append]
    exact (h.once.cons s.accepted).trans (List.perm_append_singleton s.accepted _).symm
  woken := by
    intro j id hj
    change (update s.tasks k _ j).awaits = some id at hj
    by_cases hjk : j = k
    · subst hjk
      rw [update_self] at hj
      change (if api.waits then some s.accepted else none) = some id at hj
      split at hj
      · next hwaits =>
          cases hj
          -- its own event is in the queue
          refine .inr (.inl ⟨_, hevtq.symm.subset (List.mem_cons_self ..), rfl, ?_⟩)
          exact if_pos hwaits
      · cases hj
    rw [update_of_ne hjk] at hj
    obtain hsemb | ⟨e, he, hid, hwaiter⟩ | hhandles := h.woken j id hj
    · exact .inl hsemb
    · exact .inr (.inl ⟨e, hevtq.symm.subset (List.mem_cons_of_mem _ he), hid, hwaiter⟩)
    · exact .inr (.inr hhandles)
  absent := h.absent

omit [DecidableEq T] in
theorem absent_update (h : s.Recorded) {l : Nat} {pc : LoopPc T} (hl : s.loops l ≠ .absent)
    (l' : Nat) (hlt : s.created < l') : update s.loops l pc l' = .absent := by
  rw [update_of_ne]
  · exact h.absent l' hlt
  · rintro rfl
    exact hl (h.absent l' hlt)

omit [DecidableEq T] in
theorem setLoop (h : s.Recorded) {l : Nat} {pc : LoopPc T} (hl : s.loops l ≠ .absent)
    (hhandles : ∀ ii e, s.loops l ≠ .handles ii e)
    (hloops : s'.loops = update s.loops l pc) (htasks : s'.tasks = s.tasks)
    (hevtq : s'.evtq = s.evtq) (hdispatched : s'.dispatched = s.dispatched)
    (haccepted : s'.accepted = s.accepted) (hcreated : s'.created = s.created)
    (hsembs : s'.sembs = s.sembs) : s'.Recorded where
  once := by
    rw [hevtq, hdispatched, haccepted]
    exact h.once
  woken := by
    intro j id hj
    rw [htasks] at hj
    obtain hsemb | hpending | ⟨l', ii, e, hl', hid, hwaiter⟩ := h.woken j id hj
    · exact .inl (by rw [hsembs]; exact hsemb)
    · exact .inr (.inl (by rw [hevtq]; exact hpending))
    refine .inr (.inr ⟨l', ii, e, ?_, hid, hwaiter⟩)
    rw [hloops, update_of_ne]
    · exact hl'
    · rintro rfl
      exact hhandles ii e hl'
  absent := by
    rw [hloops, hcreated]
    exact h.absent_update hl

omit [DecidableEq T] in
theorem takes (h : s.Recorded) {l ii : Nat} (hl : s.loops l = .iterates ii) {evt : Evt T}
    {evts : List (Evt T)} (hevtq : s.evtq = evt :: evts) (inRun : Bool) :
    EvtLoopState.Recorded ({ s with
      evtq := evts
      dispatched := s.dispatched ++ [Dispatch.mk evt.id inRun] }.setLoop l (.handles ii evt)) where
  once := by
    show (evts.map Evt.id ++ (s.dispatched ++ [Dispatch.mk evt.id inRun]).map Dispatch.id).Perm
      (List.range s.accepted)
    have honce := h.once
    rw [hevtq, List.map_cons, List.cons_append] at honce
    rw [List.map_append, ← List.append_assoc]
    exact (List.perm_append_singleton evt.id _).trans honce
  woken := by
    intro j id hj
    obtain hsemb | ⟨e, he, hid, hwaiter⟩ | ⟨l', ii', e, hl', hid, hwaiter⟩ := h.woken j id hj
    · exact .inl hsemb
    · rw [hevtq] at he
      -- the event that was first is now in its handler
      obtain rfl | he := List.mem_cons.mp he
      · refine .inr (.inr ⟨l, ii, e, ?_, hid, hwaiter⟩)
        exact update_self ..
      · exact .inr (.inl ⟨e, he, hid, hwaiter⟩)
    refine .inr (.inr ⟨l', ii', e, ?_, hid, hwaiter⟩)
    show update s.loops l _ l' = _
    rw [update_of_ne]
    · exact hl'
    · rintro rfl
      rw [hl] at hl'
      cases hl'
  absent := h.absent_update (by rw [hl]; exact fun hno => by cases hno)

theorem handles (h : s.Recorded) {l ii : Nat} {evt : Evt T} (hl : s.loops l = .handles ii evt)
    (active : Bool) :
    EvtLoopState.Recorded ({ s with
      ifaceActive := active
      sembs := match evt.waiter with
        | some k => update s.sembs k true
        | none => s.sembs }.setLoop l (.frees ii)) where
  once := h.once
  woken := by
    intro j id hj
    have hgiven : ∀ k, s.sembs k = true → (match evt.waiter with
        | some k => update s.sembs k true
        | none => s.sembs) k = true := by
      intro k hk
      cases evt.waiter with
      | none => exact hk
      | some k' =>
        show update s.sembs k' true k = true
        rw [update_apply]
        split
        · rfl
        · exact hk
    obtain hsemb | hpending | ⟨l', ii', e, hl', hid, hwaiter⟩ := h.woken j id hj
    · exact .inl (hgiven j hsemb)
    · exact .inr (.inl hpending)
    by_cases hll : l' = l
    · subst hll
      obtain ⟨-, rfl⟩ := LoopPc.handles.inj (hl.symm.trans hl')
      -- the caller that waits for this event is woken
      refine .inl ?_
      show (match evt.waiter with
        | some k => update s.sembs k true
        | none => s.sembs) j = true
      rw [hwaiter]
      exact update_self ..
    refine .inr (.inr ⟨l', ii', e, ?_, hid, hwaiter⟩)
    show update s.loops l _ l' = _
    rw [update_of_ne hll]
    exact hl'
  absent := h.absent_update (by rw [hl]; exact fun hno => by cases hno)

end EvtLoopState.Recorded

@[simp] theorem afterQueue_awaits (api : ApiCall) (id : Option Nat) :
    (afterQueue api id).awaits = none := by
  unfold afterQueue
  split
  · rfl
  · rfl
  · split <;> rfl
  · split <;> rfl

@[simp] theorem afterEntry_awaits (api : ApiCall) : (afterEntry api).awaits = none := by
  unfold afterEntry
  split
  · rfl
  · exact afterQueue_awaits api none

@[simp] theorem afterFailedStart_awaits (api : ApiCall) : (afterFailedStart api).awaits = none := by
  unfold afterFailedStart
  split
  · rfl
  · exact afterEntry_awaits api

section

variable [DecidableEq T] {s s' : EvtLoopState T} {k : T}

theorem recorded_goTo {pc : TaskPc} (h : s.Recorded) (hpc : pc.awaits = none) :
    (s.goTo k pc).Recorded :=
  h.goTo rfl rfl rfl rfl rfl rfl (fun _ _ => rfl) (.inl hpc)

variable {ok : Bool}

theorem queues_cases {api : ApiCall} (hk : s.tasks k = .queues api)
    (hs' : s.runTask k ok = some s') : s' = s.goTo k (.gives api none) ∨ ∃ evtq : List (Evt T),
      evtq.Perm (⟨s.accepted, s.created, if api.waits then some k else none⟩ :: s.evtq)
      ∧ s' = { s with evtq, free := s.free - 1, accepted := s.accepted + 1 }.goTo k
          (.gives api (some s.accepted)) := by
  simp only [EvtLoopState.runTask, hk, EvtLoopState.umacEvtQueue] at hs'
  split at hs'
  · next heq =>
      split at heq
      · obtain ⟨-, rfl⟩ := Prod.mk.inj heq
        exact .inl (Option.some.inj hs').symm
      · cases heq
  next heq =>
    split at heq
    · cases heq
    obtain ⟨-, rfl⟩ := Prod.mk.inj heq
    refine .inr ⟨_, ?_, (Option.some.inj hs').symm⟩
    split
    · exact List.Perm.refl _
    · exact List.perm_append_singleton _ _

theorem recorded_queues (h : s.Recorded) {api : ApiCall}
    (hk : s.tasks k = .queues api) (hs' : s.runTask k ok = some s') : s'.Recorded := by
  obtain rfl | ⟨evtq, hevtq, rfl⟩ := queues_cases hk hs'
  -- without an entry the caller is told so, and waits for nothing
  · exact recorded_goTo h rfl
  · exact h.accepts hevtq

theorem recorded_gives (h : s.Recorded) {api : ApiCall} {id : Option Nat}
    (hk : s.tasks k = .gives api id) (hs' : s.runTask k ok = some s') : s'.Recorded := by
  simp only [EvtLoopState.runTask, hk] at hs'
  split at hs'
  · cases hs'
  split at hs' <;> cases hs'
  · exact h.goTo rfl rfl rfl rfl rfl rfl (fun _ _ => rfl) (.inl (afterQueue_awaits ..))
  next id =>
    refine h.goTo rfl rfl rfl rfl rfl rfl (fun _ _ => rfl) ?_
    split
    · next hwaits =>
        -- it now waits for the event that it has queued
        refine .inr ⟨?_, rfl⟩
        rw [hk]
        show some id = if api.waits then some id else none
        rw [if_pos hwaits]
    · exact .inl (afterQueue_awaits ..)

theorem recorded_runTask (h : s.Recorded) (hs' : s.runTask k ok = some s') : s'.Recorded := by
  cases hk : s.tasks k with
  | queues api => exact recorded_queues h hk hs'
  | gives api id => exact recorded_gives h hk hs'
  | returned id | awaitsInactive id =>
    simp only [EvtLoopState.runTask, hk] at hs'
    cases hs'
    exact h
  | begins api =>
    simp only [EvtLoopState.runTask, hk] at hs'
    split at hs' <;> cases hs' <;> refine recorded_goTo h ?_
    · exact afterEntry_awaits api
    · split
      · rfl
      · exact afterEntry_awaits api
    · split
      · rfl
      · exact afterEntry_awaits api
    · split
      · rfl
      · exact afterEntry_awaits api
  | startWrites api | startResets api | stopSets id | stopClears id =>
    simp only [EvtLoopState.runTask, hk] at hs'
    cases hs'
    exact h.goTo rfl rfl rfl rfl rfl rfl (fun _ _ => rfl) (.inl rfl)
  | startMakes api =>
    simp only [EvtLoopState.runTask, hk] at hs'
    split at hs' <;> cases hs'
    · exact h.goTo rfl rfl rfl rfl rfl rfl (fun _ _ => rfl) (.inl rfl)
    · exact h.goTo rfl rfl rfl rfl rfl rfl (fun _ _ => rfl) (.inl (afterFailedStart_awaits api))
  | startCreates api =>
    simp only [EvtLoopState.runTask, hk] at hs'
    split at hs'
    · cases hs'
      exact h.creates (by rw [hk]; rfl)
    split at hs'
    · cases hs'
    · cases hs'
      exact h.goTo rfl rfl rfl rfl rfl rfl (fun _ _ => rfl) (.inl (afterFailedStart_awaits api))
  | startAssigns api l =>
    simp only [EvtLoopState.runTask, hk] at hs'
    cases hs'
    exact h.goTo rfl rfl rfl rfl rfl rfl (fun _ _ => rfl) (.inl (afterEntry_awaits api))
  | checks api =>
    have hown : ∀ j, j ≠ k →
        (if api.waits then update s.sembs k false else s.sembs) j = s.sembs j := by
      intro j hj
      split
      · exact update_of_ne hj _ _
      · rfl
    simp only [EvtLoopState.runTask, hk] at hs'
    split at hs'
    · cases hs'
      exact recorded_goTo h (afterQueue_awaits ..)
    · split at hs' <;> cases hs'
      · exact h.goTo rfl rfl rfl rfl rfl rfl hown (.inl (afterQueue_awaits ..))
      · exact h.goTo rfl rfl rfl rfl rfl rfl hown (.inl rfl)
  | checksTask api =>
    simp only [EvtLoopState.runTask, hk] at hs'
    cases hs'
    refine recorded_goTo h ?_
    split
    · exact afterQueue_awaits ..
    · rfl
  | waits api id =>
    simp only [EvtLoopState.runTask, hk] at hs'
    split at hs' <;> cases hs'
    · refine h.goTo rfl rfl rfl rfl rfl rfl (fun j hj => ?_) (.inl (afterQueue_awaits ..))
      exact update_of_ne hj _ _
    · exact h
  | stopTests id | stopEnters id | stopWakes id =>
    simp only [EvtLoopState.runTask, hk] at hs'
    cases hs'
    refine recorded_goTo h ?_
    split <;> rfl
  | stopGives id =>
    simp only [EvtLoopState.runTask, hk] at hs'
    split at hs'
    · cases hs'
    · cases hs'
      exact h.goTo rfl rfl rfl rfl rfl rfl (fun _ _ => rfl) (.inl rfl)
  | stopPolls id =>
    simp only [EvtLoopState.runTask, hk] at hs'
    cases hs'
    split
    · exact recorded_goTo h rfl
    · exact h

theorem recorded_runLoop (h : s.Recorded) {l : Nat} {active flag : Bool}
    (hs' : s.runLoop l active flag = some s') : s'.Recorded := by
  -- a loop that is not at an event
  have hmoves : ∀ {t : EvtLoopState T} {pc : LoopPc T}, s.loops l ≠ .absent →
      (∀ ii e, s.loops l ≠ .handles ii e) → t.loops = update s.loops l pc →
      t.tasks = s.tasks → t.evtq = s.evtq → t.dispatched = s.dispatched →
      t.accepted = s.accepted → t.created = s.created → t.sembs = s.sembs → t.Recorded :=
    fun hl hno hloops => h.setLoop hl hno hloops
  cases hl : s.loops l with
  | absent | finished =>
    simp only [EvtLoopState.runLoop, hl] at hs'
    cases hs'
    exact h
  | tests | frees ii | timeouts | finishes =>
    simp only [EvtLoopState.runLoop, hl] at hs'
    cases hs'
    exact hmoves (by simp [hl]) (by simp [hl]) rfl rfl rfl rfl rfl rfl rfl
  | iterates ii =>
    simp only [EvtLoopState.runLoop, hl] at hs'
    split at hs'
    · split at hs'
      · cases hs'
        exact hmoves (by simp [hl]) (by simp [hl]) rfl rfl rfl rfl rfl rfl rfl
      · next evt evts hevtq =>
          cases hs'
          exact h.takes hl hevtq _
    · cases hs'
      exact hmoves (by simp [hl]) (by simp [hl]) rfl rfl rfl rfl rfl rfl rfl
  | handles ii evt =>
    simp only [EvtLoopState.runLoop, hl] at hs'
    cases hs'
    exact h.handles hl active
  | sleeps =>
    simp only [EvtLoopState.runLoop, hl] at hs'
    split at hs'
    · cases hs'
    · cases hs'
      exact hmoves (by simp [hl]) (by simp [hl]) rfl rfl rfl rfl rfl rfl rfl
    cases hs'
    split
    · exact hmoves (by simp [hl]) (by simp [hl]) rfl rfl rfl rfl rfl rfl rfl
    · exact h
  | deletes =>
    simp only [EvtLoopState.runLoop, hl] at hs'
    split at hs'
    · cases hs'
    · cases hs'
      exact hmoves (by simp [hl]) (by simp [hl]) rfl rfl rfl rfl rfl rfl rfl

theorem recorded_step (h : s.Recorded) {e : EvtLoopEvent T} (hs' : evtLoopStep s e = some s') :
    s'.Recorded := by
  cases e with
  | call k api | inactive k =>
    simp only [evtLoopStep] at hs'
    split at hs' <;> cases hs'
    · exact recorded_goTo h rfl
    · exact h
  | task k ok => exact recorded_runTask h hs'
  | loop l active flag => exact recorded_runLoop h hs'
  | interface active =>
    cases hs'
    exact ⟨h.once, h.woken, h.absent⟩

theorem recorded_throughout (es : List (EvtLoopEvent T)) :
    Throughout evtLoopStep EvtLoopState.Recorded EvtLoopState.init es :=
  throughout_of_invariant (fun _ _ _ h hs' => recorded_step h hs') .init es

/-! ## Events whose run has ended. -/

/-- No run that has ended has left an event. -/
def EvtLoopState.PendingInRun (s : EvtLoopState T) : Prop := ∀ e ∈ s.evtq, s.InLoop e.run

theorem runTask_loops (hs' : s.runTask k ok = some s') : s'.dispatched = s.dispatched
      ∧ (s'.loops = s.loops ∨ s'.loops = update s.loops (s.created + 1) .tests) := by
  unfold EvtLoopState.runTask at hs'
  grind [EvtLoopState.goTo, EvtLoopState.umacEvtQueue]

theorem runLoop_evtq {l : Nat} {active flag : Bool} (hs' : s.runLoop l active flag = some s') :
    (s'.evtq = s.evtq ∧ s'.dispatched = s.dispatched)
      ∨ ∃ evt, s.evtq = evt :: s'.evtq
        ∧ s'.dispatched = s.dispatched ++ [⟨evt.id, decide (s.InLoop evt.run)⟩] := by
  unfold EvtLoopState.runLoop at hs'
  cases hl : s.loops l with
  | iterates ii =>
    simp only [hl] at hs'
    split at hs'
    · split at hs'
      · cases hs'
        exact .inl ⟨rfl, rfl⟩
      · next evt evts hevtq =>
          cases hs'
          exact .inr ⟨evt, hevtq, rfl⟩
    · cases hs'
      exact .inl ⟨rfl, rfl⟩
  | _ =>
    simp only [hl] at hs'
    refine .inl ?_
    grind [EvtLoopState.setLoop]

theorem dispatchedInRun_step (hin : s.PendingInRun) (h : ∀ d ∈ s.dispatched, d.inRun = true)
    {e : EvtLoopEvent T} (hs' : evtLoopStep s e = some s') :
    ∀ d ∈ s'.dispatched, d.inRun = true := by
  cases e with
  | call k api | inactive k =>
    simp only [evtLoopStep] at hs'
    split at hs' <;> cases hs' <;> exact h
  | interface active =>
    cases hs'
    exact h
  | task k ok =>
    rw [(runTask_loops hs').1]
    exact h
  | loop l active flag =>
    obtain ⟨-, hsame⟩ | ⟨evt, hevtq, hdispatched⟩ := runLoop_evtq hs'
    · rw [hsame]
      exact h
    intro d hd
    rw [hdispatched] at hd
    obtain hd | hd := List.mem_append.mp hd
    · exact h d hd
    · rw [List.mem_singleton.mp hd]
      -- it was pending, so its run had not ended
      exact decide_eq_true (hin evt (by rw [hevtq]; exact List.mem_cons_self ..))

end

end MmIotEsp32.Umac.Core
