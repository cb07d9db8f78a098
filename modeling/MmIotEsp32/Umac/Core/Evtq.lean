/-
  MmIotEsp32.Umac.Core.Evtq

  The event queue (`umac/core/umac_evtq.c`, `evtloop_dispatch` of `umac_evtloop.c`).

  Every function that touches the queue runs in a critical section, so the steps of a run are whole
  calls; a handler runs between the step that dequeues its event and the one that frees it.
-/
import Mathlib.Data.Fintype.Basic
import MmIotEsp32.Lib.LinkedList
import MmIotEsp32.Umac.Core.EvtLoop

namespace MmIotEsp32.Umac.Core.Evtq

open Lib Function

/-! ## The code -/

/-- The events of `evtq->pool`. -/
abbrev EvtSlot : Type := Fin umacEvtqMaxlen

/-- `enum umac_evtq_position`. -/
inductive EvtqPosition
  | head | tail
  deriving DecidableEq

/-- `struct umac_core_evtq`; `evt` is a pool entry without its link. -/
structure UmacCoreEvtq (E : Type) where
  head : Option EvtSlot
  tail : Option EvtSlot
  free : Option EvtSlot
  evt : EvtSlot → E
  next : EvtSlot → Option EvtSlot

variable {E : Type}

def umacEvtFreeProtected (evtq : UmacCoreEvtq E) (evt : EvtSlot) : UmacCoreEvtq E :=
  { evtq with next := update evtq.next evt evtq.free, free := some evt }

/-- `umac_evtq_init`, on memory that is zero; its loop links every event as freeing does. -/
def umacEvtqInit (zero : E) : UmacCoreEvtq E :=
  (List.finRange umacEvtqMaxlen).foldl umacEvtFreeProtected
    ⟨none, none, none, fun _ => zero, fun _ => none⟩

/-- `umac_evt_queue_protected`: `none` is an assertion, `some (_, none)` the return of `false`. -/
def umacEvtQueueProtected (evtq : UmacCoreEvtq E) (evt : E) (position : EvtqPosition) :
    Option (UmacCoreEvtq E × Option EvtSlot) :=
  -- `umac_evt_alloc_protected`
  match evtq.free with
  | none => some (evtq, none)
  | some newEvt =>
    let evtq := { evtq with free := evtq.next newEvt, evt := update evtq.evt newEvt evt }
    match position with
    | .head =>
      let evtq := { evtq with next := update evtq.next newEvt evtq.head }
      if evtq.tail = none then
        if evtq.head = none then
          some ({ evtq with tail := some newEvt, head := some newEvt }, some newEvt)
        else none
      else some ({ evtq with head := some newEvt }, some newEvt)
    | .tail =>
      let evtq := { evtq with next := update evtq.next newEvt none }
      match evtq.tail with
      | none =>
        if evtq.head = none then
          some ({ evtq with head := some newEvt, tail := some newEvt }, some newEvt)
        else none
      | some tail =>
        if evtq.next tail = none then
          some ({ evtq with next := update evtq.next tail (some newEvt), tail := some newEvt },
            some newEvt)
        else none

/-- `umac_evt_dequeue_protected`; `none` is its assertion. -/
def umacEvtDequeueProtected (evtq : UmacCoreEvtq E) :
    Option (UmacCoreEvtq E × Option EvtSlot) :=
  match evtq.head with
  | none => some (evtq, none)
  | some evt =>
    if evtq.tail = none then none
    else
      let head := evtq.next evt
      some ({ evtq with
        head := head
        tail := if head = none then none else evtq.tail
        next := update evtq.next evt none }, some evt)

/-! ## Runs -/

/-- What the tasks do, in the order of their critical sections. -/
inductive EvtqOp (E : Type)
  /-- `umac_evt_queue` -/
  | queue (evt : E) (position : EvtqPosition)
  /-- `umac_evt_dequeue`, in `evtloop_iteration` -/
  | dequeue
  /-- the handler of the `k`-th event being dispatched has returned: `umac_evt_free` -/
  | release (k : Nat)

/-- The queue, the events whose `evtloop_dispatch` is under way, and what the run records: where
each event was queued last, and what was queued normally and what of that was dispatched. -/
structure EvtqRun (E : Type) where
  evtq : UmacCoreEvtq E
  dispatching : List EvtSlot
  position : EvtSlot → EvtqPosition
  queued : List E
  dispatched : List E

def EvtqRun.init (zero : E) : EvtqRun E := ⟨umacEvtqInit zero, [], fun _ => .head, [], []⟩

/-- `none` is an assertion. -/
def evtqStep (s : EvtqRun E) : EvtqOp E → Option (EvtqRun E)
  | .queue evt position =>
    (umacEvtQueueProtected s.evtq evt position).map fun
    | (evtq, none) => { s with evtq := evtq }
    | (evtq, some slot) => { s with
        evtq := evtq
        position := update s.position slot position
        queued := if position = .tail then s.queued ++ [evt] else s.queued }
  | .dequeue =>
    (umacEvtDequeueProtected s.evtq).map fun
    | (evtq, none) => { s with evtq := evtq }
    | (evtq, some slot) => { s with
        evtq := evtq
        dispatching := slot :: s.dispatching
        dispatched := if s.position slot = .tail then s.dispatched ++ [s.evtq.evt slot]
          else s.dispatched }
  | .release k =>
    match s.dispatching[k]? with
    | none => some s
    | some slot => some { s with
        evtq := umacEvtFreeProtected s.evtq slot
        dispatching := s.dispatching.eraseIdx k }

/-! ## The lists -/

/-- The queue and the free list, as sequences; `held` are the events on neither. -/
structure EvtqLists (evtq : UmacCoreEvtq E) (queue frees held : List EvtSlot) : Prop where
  chain : Chain evtq.next evtq.head queue
  tail : evtq.tail = queue.getLast?
  freeChain : Chain evtq.next evtq.free frees
  slots : (queue ++ frees ++ held).Perm (List.finRange umacEvtqMaxlen)

namespace EvtqLists

variable {evtq : UmacCoreEvtq E} {queue frees held held' : List EvtSlot} {i : EvtSlot}

theorem nodup (h : EvtqLists evtq queue frees held) : (queue ++ frees ++ held).Nodup :=
  h.slots.nodup_iff.mpr (List.nodup_finRange _)

theorem not_mem (h : EvtqLists evtq queue frees held) (hi : i ∈ held) : i ∉ queue ∧ i ∉ frees := by
  have hapart := (List.nodup_append.mp h.nodup).2.2
  exact ⟨fun hmem => hapart i (List.mem_append_left _ hmem) i hi rfl,
    fun hmem => hapart i (List.mem_append_right _ hmem) i hi rfl⟩

theorem free (h : EvtqLists evtq queue frees held) (hperm : held.Perm (i :: held')) :
    EvtqLists (umacEvtFreeProtected evtq i) queue (i :: frees) held' := by
  have hi := h.not_mem (hperm.mem_iff.mpr (List.mem_cons_self ..))
  refine ⟨Seg.update hi.1 h.chain, h.tail, h.freeChain.push hi.2, List.Perm.trans ?_ h.slots⟩
  rw [List.append_assoc, List.append_assoc]
  exact (List.perm_middle.symm.trans (hperm.symm.append_left frees)).append_left queue

theorem foldl_free (cells : List EvtSlot) (h : EvtqLists evtq queue frees (cells ++ held)) :
    ∃ frees', EvtqLists (cells.foldl umacEvtFreeProtected evtq) queue frees' held := by
  induction cells generalizing evtq frees with
  | nil => exact ⟨frees, h⟩
  | cons i cells ih => exact ih (h.free (.refl _))

theorem init (zero : E) : ∃ frees, EvtqLists (umacEvtqInit zero) [] frees [] := by
  have hzero : EvtqLists ⟨none, none, none, fun _ => zero, fun _ => none⟩ [] []
      (List.finRange umacEvtqMaxlen ++ []) := ⟨rfl, rfl, rfl, by simp⟩
  exact foldl_free _ hzero

theorem alloc (h : EvtqLists evtq queue (i :: frees) held) (evt : E) (link : Option EvtSlot) :
    EvtqLists { evtq with
      free := evtq.next i, evt := update evtq.evt i evt, next := update evtq.next i link }
      queue frees (i :: held) := by
  have hslots : (queue ++ frees ++ i :: held).Perm (queue ++ (i :: frees) ++ held) := by
    rw [List.append_assoc, List.append_assoc]
    exact List.perm_middle.append_left queue
  have hnd := hslots.nodup_iff.mpr h.nodup
  have hi : i ∉ queue ∧ i ∉ frees := by
    have hmem := (List.nodup_cons.mp (List.perm_middle.nodup_iff.mp hnd)).1
    simp only [List.mem_append, not_or] at hmem
    exact hmem.1
  exact ⟨Seg.update hi.1 h.chain, h.tail, Seg.update hi.2 h.freeChain.2, hslots.trans h.slots⟩

theorem head_eq (h : EvtqLists evtq queue frees held) : evtq.head = queue.head? := by
  cases queue with
  | nil => exact h.chain
  | cons i queue => exact h.chain.1

theorem queueEvt (h : EvtqLists evtq queue (i :: frees) held) (evt : E) (position : EvtqPosition) :
    ∃ evtq', umacEvtQueueProtected evtq evt position = some (evtq', some i)
      ∧ evtq'.evt = update evtq.evt i evt
      ∧ EvtqLists evtq' (match position with | .head => i :: queue | .tail => queue ++ [i])
          frees held := by
  have hfree : evtq.free = some i := h.freeChain.1
  have hhead := h.head_eq
  have htail := h.tail
  unfold umacEvtQueueProtected
  rw [hfree]
  cases position with
  | head =>
    have halloc := h.alloc evt evtq.head
    have hi := halloc.not_mem (List.mem_cons_self ..)
    have hslots := List.perm_middle.symm.trans halloc.slots
    have hchain := h.chain.push hi.1
    cases queue with
    | nil =>
      simp only [htail, hhead, List.getLast?_nil, List.head?_nil, if_true] at hchain halloc ⊢
      exact ⟨_, rfl, rfl, hchain, rfl, halloc.freeChain, hslots⟩
    | cons j queue =>
      have hne : evtq.tail ≠ none := by simp [htail]
      simp only [if_neg hne]
      exact ⟨_, rfl, rfl, hchain, htail, halloc.freeChain, hslots⟩
  | tail =>
    have halloc := h.alloc evt none
    have hi := halloc.not_mem (List.mem_cons_self ..)
    have hslots : ((queue ++ [i]) ++ frees ++ held).Perm (List.finRange umacEvtqMaxlen) := by
      refine List.Perm.trans ?_ halloc.slots
      rw [List.append_cons (queue ++ frees)]
      refine List.Perm.append_right held ?_
      rw [List.append_assoc, List.append_assoc]
      exact List.perm_append_comm.append_left queue
    rcases List.eq_nil_or_concat queue with rfl | ⟨queue, last, rfl⟩
    · simp only [htail, hhead, List.getLast?_nil, List.head?_nil, if_true] at halloc ⊢
      exact ⟨_, rfl, rfl, ⟨rfl, update_self ..⟩, rfl, halloc.freeChain, hslots⟩
    rw [List.concat_eq_append] at *
    have hlast : update evtq.next i none last = none := (chain_append_cons.mp halloc.chain).2
    simp only [htail, List.getLast?_concat, hlast, if_true]
    have hnd := List.nodup_append.mp (List.nodup_append.mp halloc.nodup).1
    have hlast' : last ∉ frees := fun hmem => hnd.2.2 last (by simp) last hmem rfl
    refine ⟨_, rfl, rfl, ?_, List.getLast?_concat.symm, Seg.update hlast' halloc.freeChain, hslots⟩
    have hchain := h.chain.insertAfter hnd.1 hi.1
    have hne : i ≠ last := fun heq => hi.1 (by simp [heq])
    rw [(chain_append_cons.mp h.chain).2, update_comm hne.symm] at hchain
    rw [List.append_assoc]
    exact hchain

theorem dequeue (h : EvtqLists evtq (i :: queue) frees held) :
    ∃ evtq', umacEvtDequeueProtected evtq = some (evtq', some i) ∧ evtq'.evt = evtq.evt
      ∧ EvtqLists evtq' queue frees (i :: held) := by
  have hslots : (queue ++ frees ++ i :: held).Perm (List.finRange umacEvtqMaxlen) :=
    List.perm_middle.trans h.slots
  have hi := List.nodup_cons.mp (List.perm_middle.nodup_iff.mp (hslots.nodup_iff.mpr
    (List.nodup_finRange _)))
  simp only [List.mem_append, not_or] at hi
  have htail : evtq.tail ≠ none := by simp [h.tail]
  unfold umacEvtDequeueProtected
  rw [h.head_eq]
  simp only [List.head?_cons, if_neg htail]
  refine ⟨_, rfl, rfl, Seg.update hi.1.1.1 h.chain.2, ?_, Seg.update hi.1.1.2 h.freeChain, hslots⟩
  show (if evtq.next i = none then none else evtq.tail) = _
  rw [h.tail]
  cases queue with
  | nil => exact if_pos h.chain.2
  | cons j queue => rw [if_neg (by simp [h.chain.2.1]), List.getLast?_cons_cons]

end EvtqLists

/-! ## Conservation -/

/-- The events queued normally that wait, in the order of the queue. -/
def waiting (s : EvtqRun E) (queue : List EvtSlot) : List E :=
  (queue.filter fun i => s.position i = .tail).map s.evtq.evt

/-- Each event is free, queued or being dispatched, and only that; what was queued normally has been
dispatched or waits, in the order it was queued in. -/
structure Conserved (s : EvtqRun E) (queue frees : List EvtSlot) : Prop where
  lists : EvtqLists s.evtq queue frees s.dispatching
  fifo : s.dispatched ++ waiting s queue = s.queued

variable {s : EvtqRun E} {queue frees : List EvtSlot}

theorem waiting_congr {s' : EvtqRun E} (hposition : ∀ i ∈ queue, s'.position i = s.position i)
    (hevt : ∀ i ∈ queue, s'.evtq.evt i = s.evtq.evt i) : waiting s' queue = waiting s queue := by
  unfold waiting
  rw [List.filter_congr fun i hi => by rw [hposition i hi]]
  exact List.map_congr_left fun i hi => hevt i (List.mem_of_mem_filter hi)

theorem conserved_step (h : Conserved s queue frees) (op : EvtqOp E) :
    ∃ s' queue' frees', evtqStep s op = some s' ∧ Conserved s' queue' frees' := by
  cases op with
  | queue evt position =>
    cases frees with
    | nil =>
      have hfree : s.evtq.free = none := h.lists.freeChain
      refine ⟨s, queue, [], ?_, h⟩
      rw [evtqStep, umacEvtQueueProtected, hfree]
      rfl
    | cons i frees =>
      obtain ⟨evtq', hqueue, hevt, hlists⟩ := h.lists.queueEvt evt position
      have hi : i ∉ queue := by
        have hnd := (List.nodup_append.mp (List.nodup_append.mp h.lists.nodup).1).2.2
        exact fun hmem => hnd i hmem i (List.mem_cons_self ..) rfl
      rw [evtqStep, hqueue]
      refine ⟨_, _, frees, rfl, hlists, ?_⟩
      have hne : ∀ j ∈ queue, j ≠ i := fun j hj heq => hi (heq ▸ hj)
      have hrest : waiting { s with evtq := evtq', position := update s.position i position } queue
          = waiting s queue :=
        waiting_congr (fun j hj => update_of_ne (hne j hj) ..)
          (fun j hj => by simp only [hevt, update_of_ne (hne j hj)])
      rw [← h.fifo, ← hrest]
      cases position with
      | head => simp [waiting]
      | tail => simp [waiting, hevt]
  | dequeue =>
    cases queue with
    | nil =>
      refine ⟨s, [], frees, ?_, h⟩
      rw [evtqStep, umacEvtDequeueProtected, h.lists.head_eq]
      rfl
    | cons i queue =>
      obtain ⟨evtq', hdequeue, hevt, hlists⟩ := h.lists.dequeue
      rw [evtqStep, hdequeue]
      refine ⟨_, queue, frees, rfl, hlists, ?_⟩
      rw [← h.fifo]
      by_cases hnormal : s.position i = .tail <;> simp [waiting, hevt, hnormal]
  | release k =>
    rw [evtqStep]
    cases hk : s.dispatching[k]? with
    | none => exact ⟨s, queue, frees, rfl, h⟩
    | some i =>
      obtain ⟨hlt, hget⟩ := List.getElem?_eq_some_iff.mp hk
      have hperm : s.dispatching.Perm (i :: s.dispatching.eraseIdx k) := by
        rw [← hget]
        exact (List.getElem_cons_eraseIdx_perm hlt).symm
      exact ⟨_, queue, i :: frees, rfl, h.lists.free hperm, h.fifo⟩

/-- The event queue, in every run: no assertion fails, every event of the pool is in exactly one of
the queue, the free list and the hands of a dispatcher, and the events queued normally are
dispatched in the order they were queued in. -/
theorem evtq_conserved (zero : E) (ops : List (EvtqOp E)) :
    ∃ s queue frees, runFrom evtqStep (EvtqRun.init zero) ops = some s
      ∧ Chain s.evtq.next s.evtq.head queue ∧ s.evtq.tail = queue.getLast?
      ∧ Chain s.evtq.next s.evtq.free frees
      ∧ (queue ++ frees ++ s.dispatching).Perm (List.finRange umacEvtqMaxlen)
      ∧ s.dispatched ++ waiting s queue = s.queued := by
  obtain ⟨frees, hlists⟩ := EvtqLists.init zero
  have hinit : Conserved (EvtqRun.init zero) [] frees := ⟨hlists, rfl⟩
  clear hlists
  generalize EvtqRun.init zero = s₀ at hinit ⊢
  generalize ([] : List EvtSlot) = queue₀ at hinit
  induction ops generalizing s₀ queue₀ frees with
  | nil =>
    have h := hinit.lists
    exact ⟨s₀, queue₀, frees, rfl, h.chain, h.tail, h.freeChain, h.slots, hinit.fifo⟩
  | cons op ops ih =>
    obtain ⟨s₁, queue₁, frees₁, hstep, hnext⟩ := conserved_step hinit op
    obtain ⟨s₂, queue₂, frees₂, hrun, hrest⟩ := ih frees₁ s₁ queue₁ hnext
    exact ⟨s₂, queue₂, frees₂, by rw [runFrom, hstep]; exact hrun, hrest⟩

end MmIotEsp32.Umac.Core.Evtq
