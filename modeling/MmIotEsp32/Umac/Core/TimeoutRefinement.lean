/-
  MmIotEsp32.Umac.Core.TimeoutRefinement

  The timeout queue refines the stable priority queue of `TimeoutSpec`.
-/
import MmIotEsp32.Umac.Core.TimeoutLists

namespace MmIotEsp32.Umac.Core

open Lib Function

variable {H A : Type}

/-! ## The refinement relation -/

/-- What a cell that holds this timeout says. -/
def PendingTimeout.view (e : PendingTimeout H A) : CellView H A :=
  (e.expiry, some e.handler, e.arg1, e.arg2)

def DispatchPc.map {α β : Type} (f : α → β) : DispatchPc α → DispatchPc β
  | .idle => .idle
  | .loop ii timeMs => .loop ii timeMs
  | .holding ii timeMs tmo => .holding ii timeMs (f tmo)

variable {α β : Type} {d : DispatchPc α}

theorem DispatchPc.map_congr {f g : α → β} (h : ∀ x ∈ d.held, f x = g x) : d.map f = d.map g := by
  cases d with
  | idle | loop ii timeMs => rfl
  | holding ii timeMs tmo => exact congrArg _ (h tmo (List.mem_singleton.mpr rfl))

theorem DispatchPc.map_eq_idle {f : α → β} : d.map f = .idle ↔ d = .idle := by
  cases d <;> simp [DispatchPc.map]

theorem DispatchPc.map_eq_loop {f : α → β} {ii : Nat} {t : U32} :
    d.map f = .loop ii t ↔ d = .loop ii t := by
  cases d <;> simp [DispatchPc.map]

theorem DispatchPc.map_eq_holding {f : α → β} {ii : Nat} {t : U32}
    {y : β} : d.map f = .holding ii t y ↔ ∃ x, d = .holding ii t x ∧ f x = y := by
  cases d with
  | idle | loop ii timeMs => simp [DispatchPc.map]
  | holding ii timeMs tmo =>
    simp only [DispatchPc.map, DispatchPc.holding.injEq]
    exact ⟨fun ⟨h₁, h₂, h₃⟩ => ⟨tmo, ⟨h₁, h₂, rfl⟩, h₃⟩,
      fun ⟨x, ⟨h₁, h₂, h₃⟩, hx⟩ => ⟨h₁, h₂, h₃ ▸ hx⟩⟩

theorem DispatchPc.length_held_of_map {α α' β : Type} {f : α → β} {g : α' → β} {d : DispatchPc α}
    {d' : DispatchPc α'} (h : d.map f = d'.map g) : d.held.length = d'.held.length := by
  cases d <;> cases d' <;> first | rfl | exact absurd h (by simp [DispatchPc.map])

/-- The core represents the abstract queue through these lists of cells. -/
structure Represents (core : UmacCoreData H A) (q : TimerSpec H A) (used frees : List ToSlot) :
    Prop where
  linked : Linked core.toq used frees core.dispatch.held
  pending : used.map (cellView core.toq) = q.pending.map PendingTimeout.view
  dispatch : core.dispatch.map (cellView core.toq) = q.dispatch.map PendingTimeout.view
  extraPool : core.toq.extraPool = q.extraPool
  evtloopTask : core.evtloopTask = q.evtloopTask
  evtloopShuttingDown : core.evtloopShuttingDown = q.evtloopShuttingDown
  fired : core.fired = q.fired

/-- `toq->head` and `toq->free` start finite disjoint lists that, with the cell being
dispatched, are the pool; the first tells the pending timeouts in order. -/
def ToqRefines (core : UmacCoreData H A) (q : TimerSpec H A) : Prop :=
  ∃ used frees, Represents core q used frees

namespace Represents

variable {core : UmacCoreData H A} {q : TimerSpec H A} {used frees used' frees' : List ToSlot}
  {toq' : UmacCoreTimeoutq H A} {pending' : List (PendingTimeout H A)} {stamp' : Nat}

theorem of_lists (h : Represents core q used frees)
    (hlinked : Linked toq' used' frees' core.dispatch.held)
    (hpending : used'.map (cellView toq') = pending'.map PendingTimeout.view)
    (hheld : ∀ x ∈ core.dispatch.held, cellView toq' x = cellView core.toq x)
    (hextra : toq'.extraPool = core.toq.extraPool) :
    Represents { core with toq := toq' } { q with pending := pending', stamp := stamp' }
      used' frees' where
  linked := hlinked
  pending := hpending
  dispatch := (DispatchPc.map_congr hheld).trans h.dispatch
  extraPool := hextra.trans h.extraPool
  evtloopTask := h.evtloopTask
  evtloopShuttingDown := h.evtloopShuttingDown
  fired := h.fired

theorem expiries (h : Represents core q used frees) :
    used.map (fun i => (cellView core.toq i).1) = q.expiries := by
  have := congrArg (List.map Prod.fst) h.pending
  rw [List.map_map, List.map_map] at this
  exact this

theorem length_pending (h : Represents core q used frees) : used.length = q.pending.length := by
  have := congrArg List.length h.pending
  rwa [List.length_map, List.length_map] at this

theorem split (h : Represents core q used frees) {pre rest : List (PendingTimeout H A)}
    {e : PendingTimeout H A} (hq : q.pending = pre ++ e :: rest) :
    ∃ cpre x cpost, used = cpre ++ x :: cpost
      ∧ cpre.map (cellView core.toq) = pre.map PendingTimeout.view
      ∧ cellView core.toq x = e.view
      ∧ cpost.map (cellView core.toq) = rest.map PendingTimeout.view := by
  have hmap := h.pending
  rw [hq, List.map_append, List.map_cons] at hmap
  obtain ⟨cpre, ctail, rfl, hpre, htail⟩ := List.map_eq_append_iff.mp hmap
  obtain ⟨x, cpost, rfl, hx, hpost⟩ := List.map_eq_cons_iff.mp htail
  exact ⟨cpre, x, cpost, rfl, hpre, hx, hpost⟩

end Represents

/-! ## The empty queue and the extra pool -/

variable {i : ToSlot}

theorem mem_poolCells_false : i ∈ poolCells false ↔ i.val < umacTimeoutqMaxlen := by
  simp [poolCells]

theorem length_poolCells (extraPool : Bool) : (poolCells extraPool).length
    = umacTimeoutqMaxlen + if extraPool then umacTimeoutqExtraLen else 0 := by
  cases extraPool <;> decide

variable {used frees held : List ToSlot}

theorem Linked.foldl_free {toq : UmacCoreTimeoutq H A}
    (cells : List ToSlot) (h : Linked toq used frees (cells ++ held)) :
    (∃ frees', Linked (cells.foldl umacTimeoutqFreeProtected toq) used frees' held)
      ∧ Relinked toq (cells.foldl umacTimeoutqFreeProtected toq) := by
  induction cells generalizing toq frees with
  | nil => exact ⟨⟨frees, h⟩, .refl _⟩
  | cons i cells ih =>
    obtain ⟨hlinked, hview⟩ := ih (Linked.freeProtected h)
    exact ⟨hlinked, (Relinked.freeProtected toq i).trans hview⟩

theorem umacTimeoutqInit_eq (toq : UmacCoreTimeoutq H A) :
    umacTimeoutqInit toq
      = ((List.finRange umacTimeoutqMaxlen).map poolSlot).foldl umacTimeoutqFreeProtected toq := by
  rw [List.foldl_map]
  rfl

theorem umacCoreInit_refines :
    ToqRefines (umacCoreInit : UmacCoreData H A) TimerSpec.init := by
  have hcells : ((List.finRange umacTimeoutqMaxlen).map poolSlot).Perm (poolCells false) := by
    decide
  have hzero : Linked (UmacCoreTimeoutq.zero : UmacCoreTimeoutq H A) [] []
      ((List.finRange umacTimeoutqMaxlen).map poolSlot ++ []) :=
    { chain := rfl
      freeChain := rfl
      cells := by
        rw [List.append_nil]
        exact hcells }
  obtain ⟨⟨frees, hlinked⟩, hview⟩ := hzero.foldl_free
  rw [← umacTimeoutqInit_eq] at hlinked hview
  exact ⟨[], frees, hlinked, rfl, rfl, hview.extraPool, rfl, rfl, rfl⟩

/-- The state `umac_timeoutq_alloc_extra` leaves when its loop stops at `head`. -/
def linkExtra (toq : UmacCoreTimeoutq H A) (head : ToSlot) : UmacCoreTimeoutq H A :=
  { toq.setNext (extraSlot 0) toq.free with free := some head, extraPool := true }

theorem linkExtra_setNext (toq : UmacCoreTimeoutq H A) (head : ToSlot)
    {ii : Fin umacTimeoutqExtraLen} (hii : ii ≠ 0) :
    linkExtra (toq.setNext (extraSlot ii) (some head)) (extraSlot ii)
      = umacTimeoutqFreeProtected (linkExtra toq head) (extraSlot ii) := by
  have hne : extraSlot ii ≠ extraSlot 0 := fun h => hii (Fin.natAdd_inj _ |>.mp h)
  simp only [linkExtra, umacTimeoutqFreeProtected, UmacCoreTimeoutq.setNext, UmacCoreTimeoutq.set,
    UmacCoreTimeoutq.mk.injEq, true_and, and_true]
  rw [update_of_ne hne.symm, update_of_ne hne, update_comm hne]

theorem foldl_linkExtra (idx : List (Fin umacTimeoutqExtraLen)) (hidx : 0 ∉ idx)
    (toq : UmacCoreTimeoutq H A) (head : ToSlot) :
    linkExtra (idx.foldl (fun st ii => (st.1.setNext (extraSlot ii) (some st.2), extraSlot ii))
        (toq, head)).1
      (idx.foldl (fun st ii => (st.1.setNext (extraSlot ii) (some st.2), extraSlot ii))
        (toq, head)).2
      = (idx.map extraSlot).foldl umacTimeoutqFreeProtected (linkExtra toq head) := by
  induction idx generalizing toq head with
  | nil => rfl
  | cons ii idx ih =>
    have h0 : ii ≠ 0 := fun h => hidx (h ▸ List.mem_cons_self ..)
    rw [List.foldl_cons, ih (fun h => hidx (List.mem_cons_of_mem _ h)), linkExtra_setNext _ _ h0]
    rfl

theorem umacTimeoutqAllocExtra_eq {toq : UmacCoreTimeoutq H A} (hextra : toq.extraPool = false) :
    umacTimeoutqAllocExtra toq true
      = (((List.finRange umacTimeoutqExtraLen).map extraSlot).foldl umacTimeoutqFreeProtected
          { toq with
            node := fun i => if i.val < umacTimeoutqMaxlen then toq.node i else .zero
            extraPool := true }, true) := by
  have h0 : (0 : Fin umacTimeoutqExtraLen) ∉ (List.finRange umacTimeoutqExtraLen).drop 1 := by
    decide
  unfold umacTimeoutqAllocExtra
  rw [hextra, if_neg Bool.false_ne_true, if_pos rfl]
  refine Prod.ext ?_ rfl
  exact foldl_linkExtra _ h0 _ _

theorem umacTimeoutqAllocExtra_linked {toq : UmacCoreTimeoutq H A}
    (h : Linked toq used frees held) (hextra : toq.extraPool = false) :
    (∃ frees', Linked (umacTimeoutqAllocExtra toq true).1 used frees' held)
      ∧ (∀ i ∈ used ++ frees ++ held,
          cellView (umacTimeoutqAllocExtra toq true).1 i = cellView toq i)
      ∧ (umacTimeoutqAllocExtra toq true).1.extraPool = true := by
  -- the cells in use are those of `pool[]`, which the new memory leaves alone
  have hlow : ∀ i ∈ used ++ frees ++ held, i.val < umacTimeoutqMaxlen := by
    intro i hi
    have hmem := h.cells.mem_iff.mp hi
    rw [hextra] at hmem
    exact mem_poolCells_false.mp hmem
  have hperm : (poolCells false ++ (List.finRange umacTimeoutqExtraLen).map extraSlot).Perm
      (poolCells true) := by decide
  rw [umacTimeoutqAllocExtra_eq hextra]
  generalize htoq : ({ toq with
    node := fun i => if i.val < umacTimeoutqMaxlen then toq.node i else .zero
    extraPool := true } : UmacCoreTimeoutq H A) = toq₁
  have hnode : ∀ i ∈ used ++ frees ++ held, toq₁.node i = toq.node i := by
    intro i hi
    rw [← htoq]
    exact if_pos (hlow i hi)
  have hlinked : Linked toq₁ used frees
      ((List.finRange umacTimeoutqExtraLen).map extraSlot ++ held) :=
    { chain := by
        rw [show toq₁.head = toq.head by rw [← htoq]]
        refine h.chain.congr fun i hi => ?_
        exact congrArg UmacCoreTimeout.next (hnode i (by simp [hi]))
      freeChain := by
        rw [show toq₁.free = toq.free by rw [← htoq]]
        refine h.freeChain.congr fun i hi => ?_
        exact congrArg UmacCoreTimeout.next (hnode i (by simp [hi]))
      cells := by
        rw [show toq₁.extraPool = true by rw [← htoq]]
        refine List.Perm.trans ?_ hperm
        have hcells := h.cells
        rw [hextra] at hcells
        refine List.Perm.trans ?_ (hcells.append_right _)
        rw [List.append_assoc (used ++ frees)]
        exact List.perm_append_comm.append_left _ }
  obtain ⟨hfrees, hview⟩ := hlinked.foldl_free
  refine ⟨hfrees, fun i hi => ?_, hview.extraPool.trans (by rw [← htoq])⟩
  rw [hview.view]
  simp only [cellView, hnode i hi]

/-! ## One operation -/

variable {tmo : UmacCoreTimeout H A}

theorem cellView_set_of_ne {toq : UmacCoreTimeoutq H A} {i j : ToSlot}
    (h : j ≠ i) : cellView (toq.set i tmo) j = cellView toq j := by
  simp only [cellView, UmacCoreTimeoutq.set, update_of_ne h]

theorem cellView_set_self {toq : UmacCoreTimeoutq H A} :
    cellView (toq.set i tmo) i = (tmo.timeoutAbsMs, tmo.handler, tmo.arg1, tmo.arg2) := by
  simp only [cellView, UmacCoreTimeoutq.set, update_self]

theorem Linked.ne_of_mem_used {toq : UmacCoreTimeoutq H A}
    {i j : ToSlot} (h : Linked toq used frees (i :: held)) (hj : j ∈ used) : j ≠ i :=
  fun heq => h.not_mem_used (heq ▸ hj)

theorem Linked.ne_of_mem_held {toq : UmacCoreTimeoutq H A}
    {i j : ToSlot} (h : Linked toq used frees (i :: held)) (hj : j ∈ held) : j ≠ i := by
  have hnd := h.nodup
  simp only [List.nodup_append, List.nodup_cons] at hnd
  exact fun heq => hnd.2.1.1 (heq ▸ hj)

theorem map_orderedInsert_view {toq : UmacCoreTimeoutq H A} {used : List ToSlot}
    {pending : List (PendingTimeout H A)} {e : PendingTimeout H A}
    (hused : used.map (cellView toq) = pending.map PendingTimeout.view)
    (hi : cellView toq i = e.view) : (used.orderedInsert (cellBefore toq) i).map (cellView toq)
      = (pending.orderedInsert dueBefore e).map PendingTimeout.view := by
  have hcells := List.map_orderedInsert (cellBefore toq)
    (fun v w : CellView H A => mmosalTimeLt v.1 w.1 = true) (cellView toq) used i
    (fun _ _ => Iff.rfl) (fun _ _ => Iff.rfl)
  have hspec := List.map_orderedInsert (dueBefore (H := H) (A := A))
    (fun v w : CellView H A => mmosalTimeLt v.1 w.1 = true) PendingTimeout.view pending e
    (fun _ _ => Iff.rfl) (fun _ _ => Iff.rfl)
  rw [hcells, hspec, hused, hi]

theorem Window.mmosalTimeLe {ts : List U32} (hw : Window ts) {t u : U32} (ht : t ∈ ts)
    (hu : u ∈ ts) (h : mmosalTimeLt t u ≠ true) : mmosalTimeLe u t = true := by
  obtain ⟨b, hb⟩ := hw
  rw [Ne, mmosalTimeLt_iff_dist (hb t ht) (hb u hu)] at h
  exact (serialLe_iff_dist (hb u hu) (hb t ht)).mpr (Nat.le_of_not_lt h)

/-- `umac_timeoutq_enqueue_protected` of a held cell that tells `e`. -/
theorem umacTimeoutqEnqueueProtected_refines {toq : UmacCoreTimeoutq H A}
    {pending : List (PendingTimeout H A)}
    {e : PendingTimeout H A} (h : Linked toq used frees (i :: held))
    (hused : used.map (cellView toq) = pending.map PendingTimeout.view)
    (hi : cellView toq i = e.view) (hw : Window (e.expiry :: pending.map (·.expiry)))
    (hend : cellNext toq i = none ∨ ∃ z ∈ used, cellBefore toq i z) :
    ∃ toq' used', umacTimeoutqEnqueueProtected toq i = some toq' ∧ Linked toq' used' frees held
      ∧ used'.map (cellView toq') = (pending.orderedInsert dueBefore e).map PendingTimeout.view
      ∧ Relinked toq toq' := by
  have htotal : ∀ j ∈ used, ¬ cellBefore toq i j →
      mmosalTimeLe (cellView toq j).1 (cellView toq i).1 = true := by
    intro j hj hnot
    have hmem : cellView toq j ∈ pending.map PendingTimeout.view := hused ▸ List.mem_map_of_mem hj
    obtain ⟨f, hf, hfj⟩ := List.mem_map.mp hmem
    refine hw.mmosalTimeLe ?_ ?_ hnot
    · rw [hi]
      exact List.mem_cons_self ..
    · rw [← hfj]
      exact List.mem_cons_of_mem _ (List.mem_map_of_mem hf)
  obtain ⟨toq', heq, hview, hlinked⟩ := umacTimeoutqEnqueueProtected_spec h htotal hend
  refine ⟨toq', _, heq, hlinked, ?_, hview⟩
  rw [hview.view]
  exact map_orderedInsert_view hused hi

theorem Linked.map_cellView_set {toq : UmacCoreTimeoutq H A}
    (h : Linked toq used frees (i :: held)) :
    used.map (cellView (toq.set i tmo)) = used.map (cellView toq) :=
  List.map_congr_left fun _ hj => cellView_set_of_ne (h.ne_of_mem_used hj)

variable {core : UmacCoreData H A} {q : TimerSpec H A} {used frees : List ToSlot}

theorem Represents.length_frees (h : Represents core q used frees) :
    q.pending.length + q.dispatch.held.length + frees.length = q.capacity := by
  have hlen := h.linked.cells.length_eq
  rw [length_poolCells, h.extraPool] at hlen
  simp only [List.length_append] at hlen
  rw [← h.length_pending, ← DispatchPc.length_held_of_map h.dispatch, TimerSpec.capacity]
  omega

theorem Represents.accepts_iff (h : Represents core q used frees) :
    q.accepts = true
      ↔ (core.evtloopShuttingDown || !core.evtloopTask) = false ∧ frees ≠ [] := by
  have hlen := h.length_frees
  rw [TimerSpec.accepts, h.evtloopTask, h.evtloopShuttingDown, Bool.and_eq_true,
    Bool.and_eq_true, decide_eq_true_eq, ← List.length_pos_iff]
  simp only [Bool.not_eq_true', Bool.or_eq_false_iff, Bool.not_eq_false']
  refine and_congr_right fun _ => ?_
  omega

theorem Represents.peek {toq' : UmacCoreTimeoutq H A} (h : Represents core q used frees)
    (hhead : toq'.head = core.toq.head) (hview : cellView toq' = cellView core.toq) :
    umacTimeoutqPeekNextTimeout toq' = q.expiries.head? := by
  rw [← h.expiries, umacTimeoutqPeekNextTimeout, hhead]
  cases used with
  | nil =>
    rw [show core.toq.head = none from h.linked.chain]
    rfl
  | cons w rest =>
    rw [show core.toq.head = some w from h.linked.chain.1]
    exact congrArg some (congrArg Prod.fst (congrFun hview w))

theorem umacCoreRegisterTimeout_refines (h : Represents core q used frees)
    {now deltaMs : U32} {handler : H} {arg1 arg2 : Option A}
    (hw : q.accepts = true →
      Window (registerTimeoutAbsMs q.expiries.head? now deltaMs :: q.expiries)) :
    ∃ core', umacCoreRegisterTimeout core now deltaMs handler arg1 arg2
        = some (core', (specRegister q now deltaMs handler arg1 arg2).2)
      ∧ ToqRefines core' (specRegister q now deltaMs handler arg1 arg2).1 := by
  unfold umacCoreRegisterTimeout specRegister
  by_cases hrun : (core.evtloopShuttingDown || !core.evtloopTask) = true
  · have hacc : q.accepts ≠ true := fun hacc => by
      rw [(h.accepts_iff.mp hacc).1] at hrun
      exact Bool.false_ne_true hrun
    rw [if_pos hrun, if_neg hacc]
    exact ⟨core, rfl, used, frees, h⟩
  rw [if_neg hrun]
  cases frees with
  | nil =>
    have hacc : q.accepts ≠ true := fun hacc => (h.accepts_iff.mp hacc).2 rfl
    have hfree : core.toq.free = none := h.linked.freeChain
    rw [if_neg hacc, umacTimeoutqAlloc, hfree]
    exact ⟨core, rfl, used, [], h⟩
  | cons i frees =>
    have hacc : q.accepts = true :=
      h.accepts_iff.mpr ⟨Bool.eq_false_iff.mpr hrun, by simp⟩
    have hfree : core.toq.free = some i := h.linked.freeChain.1
    rw [if_pos hacc, umacTimeoutqAlloc, hfree]
    dsimp only
    have halloc := h.linked.alloc
    have hpeek : umacTimeoutqPeekNextTimeout
        { core.toq.setNext i none with free := (core.toq.node i).next } = q.expiries.head? :=
      h.peek rfl (cellView_setNext core.toq i none)
    rw [hpeek]
    generalize habs : registerTimeoutAbsMs q.expiries.head? now deltaMs = abs at hw ⊢
    generalize hnext : ((core.toq.setNext i none).node i).next = next
    generalize htoq₁ : ({ core.toq.setNext i none with
      free := (core.toq.node i).next } : UmacCoreTimeoutq H A) = toq₁ at halloc ⊢
    have hview₁ : Relinked core.toq toq₁ := by
      rw [← htoq₁]
      exact ⟨cellView_setNext core.toq i none, rfl⟩
    -- the cell filled in, then its link cleared by `umac_timeoutq_enqueue`
    generalize htmo : (⟨next, abs, some handler, arg1, arg2⟩ : UmacCoreTimeout H A) = tmo
    have hlinked : Linked ((toq₁.set i tmo).setNext i none) used frees
        (i :: core.dispatch.held) := (halloc.set_held tmo).set_held _
    have hview₂ : Relinked (toq₁.set i tmo) ((toq₁.set i tmo).setNext i none) :=
      Relinked.setNext ..
    have hpending : used.map (cellView ((toq₁.set i tmo).setNext i none))
        = q.pending.map PendingTimeout.view := by
      rw [hview₂.view, halloc.map_cellView_set, hview₁.view, h.pending]
    have hcell : cellView ((toq₁.set i tmo).setNext i none) i
        = (⟨abs, handler, arg1, arg2, q.stamp⟩ : PendingTimeout H A).view := by
      rw [hview₂.view, cellView_set_self, ← htmo]
      rfl
    obtain ⟨toq', used', heq, hlinked', hused', hview'⟩ :=
      umacTimeoutqEnqueueProtected_refines hlinked hpending hcell (hw hacc)
        (Or.inl (by rw [cellNext_setNext, update_self]))
    rw [umacTimeoutqEnqueue, heq]
    refine ⟨_, rfl, used', frees, h.of_lists hlinked' hused' (fun x hx => ?_) ?_⟩
    · rw [hview'.view, hview₂.view, cellView_set_of_ne (halloc.ne_of_mem_held hx), hview₁.view]
    · exact hview'.extraPool.trans hview₁.extraPool

theorem umacTimeoutqDispatchStep_refines (h : Represents core q used frees) :
    ∃ core', umacTimeoutqDispatchStep core = some core' ∧ ToqRefines core' (specDispatchStep q) := by
  have hd := h.dispatch
  have hl := h.linked
  unfold umacTimeoutqDispatchStep specDispatchStep
  cases hqd : q.dispatch with
  | idle =>
    rw [hqd] at hd
    rw [DispatchPc.map_eq_idle.mp hd]
    exact ⟨core, rfl, used, frees, h⟩
  | loop ii timeMs =>
    rw [hqd] at hd
    have hcd : core.dispatch = .loop ii timeMs := DispatchPc.map_eq_loop.mp hd
    rw [hcd] at hl ⊢
    have hidle : ToqRefines { core with dispatch := .idle } { q with dispatch := .idle } :=
      ⟨used, frees, hl, h.pending, rfl, h.extraPool, h.evtloopTask, h.evtloopShuttingDown, h.fired⟩
    dsimp only
    cases hp : q.pending with
    | nil =>
      have hused : used = [] := List.map_eq_nil_iff.mp (by rw [h.pending, hp]; rfl)
      rw [hused] at hl
      rw [umacTimeoutqDequeue, show core.toq.head = none from hl.chain]
      refine ⟨_, ?_, hp ▸ hidle⟩
      split <;> rfl
    | cons e rest =>
      obtain ⟨cpre, x, cpost, rfl, hpre, hx, hpost⟩ := h.split (hp.trans (List.nil_append _).symm)
      obtain rfl : cpre = [] := List.map_eq_nil_iff.mp hpre
      have hdue : mmosalTimeLt timeMs (core.toq.node x).timeoutAbsMs
          = mmosalTimeLt timeMs e.expiry := congrArg _ (congrArg Prod.fst hx)
      rw [umacTimeoutqDequeue, show core.toq.head = some x from hl.chain.1]
      dsimp only
      rw [hdue]
      by_cases hii : ii < maxTimeoutsDispatchedAtOnce
      · rw [if_pos hii]
        by_cases hlt : mmosalTimeLt timeMs e.expiry = true
        · rw [if_pos hlt, if_neg fun hc => Bool.false_ne_true (hc.2.symm.trans hlt)]
          exact ⟨_, rfl, hp ▸ hidle⟩
        rw [if_neg hlt, if_pos ⟨hii, Bool.eq_false_iff.mpr hlt⟩]
        refine ⟨_, rfl, cpost, frees, hl.unlinkHead, hpost, ?_, h.extraPool, h.evtloopTask,
          h.evtloopShuttingDown, h.fired⟩
        exact congrArg (DispatchPc.holding ii timeMs) hx
      · rw [if_neg hii, if_neg fun hc => hii hc.1]
        exact ⟨_, rfl, hp ▸ hidle⟩
  | holding ii timeMs e =>
    rw [hqd] at hd
    obtain ⟨x, hcd, hx⟩ := DispatchPc.map_eq_holding.mp hd
    rw [hcd] at hl ⊢
    have hhandler : (core.toq.node x).handler = some e.handler := congrArg (·.2.1) hx
    have harg1 : (core.toq.node x).arg1 = e.arg1 := congrArg (·.2.2.1) hx
    have harg2 : (core.toq.node x).arg2 = e.arg2 := congrArg (·.2.2.2) hx
    have hview : ∀ i ∈ used, cellView (umacTimeoutqFree core.toq x) i = cellView core.toq i := by
      intro i hi
      rw [umacTimeoutqFree, (Relinked.freeProtected ..).view]
      exact cellView_set_of_ne (hl.ne_of_mem_used hi)
    dsimp only
    rw [hhandler]
    refine ⟨_, rfl, used, x :: frees, (hl.set_held _).freeProtected, ?_, rfl, h.extraPool,
      h.evtloopTask, h.evtloopShuttingDown, ?_⟩
    · exact (List.map_congr_left hview).trans h.pending
    · show core.fired ++ [(e.handler, (core.toq.node x).arg1, (core.toq.node x).arg2)] = _
      rw [h.fired, harg1, harg2]

theorem FiresBefore.due_of_lt {e f : PendingTimeout H A} {t : U32} {ts : List U32} (hw : Window ts)
    (ht : t ∈ ts) (he : e.expiry ∈ ts) (hf : f.expiry ∈ ts) (h : FiresBefore e f)
    (hlt : mmosalTimeLt t e.expiry = true) : mmosalTimeLt t f.expiry = true := by
  have hnot := FiresBefore.not_dueBefore hw he hf h
  unfold dueBefore at hnot
  obtain ⟨b, hb⟩ := hw
  rw [mmosalTimeLt_iff_dist (hb _ hf) (hb _ he)] at hnot
  rw [mmosalTimeLt_iff_dist (hb _ ht) (hb _ he)] at hlt
  rw [mmosalTimeLt_iff_dist (hb _ ht) (hb _ hf)]
  omega

section Matching

variable [DecidableEq H] [DecidableEq A] {handler : H} {arg1 arg2 : Option A}

theorem isFor_view (e : PendingTimeout H A) :
    CellView.isFor handler arg1 arg2 e.view = e.isFor handler arg1 arg2 := by
  unfold CellView.isFor PendingTimeout.isFor PendingTimeout.view
  simp only [Option.some.injEq]

theorem forall_cellIsFor {toq : UmacCoreTimeoutq H A} {cells : List ToSlot}
    {pending : List (PendingTimeout H A)} {b : Bool}
    (h : cells.map (cellView toq) = pending.map PendingTimeout.view)
    (hb : ∀ e ∈ pending, e.isFor handler arg1 arg2 = b) :
    ∀ i ∈ cells, cellIsFor handler arg1 arg2 toq i = b := by
  intro i hi
  have hmem : cellView toq i ∈ pending.map PendingTimeout.view := h ▸ List.mem_map_of_mem hi
  obtain ⟨e, he, hei⟩ := List.mem_map.mp hmem
  rw [cellIsFor, ← hei, isFor_view, hb e he]

variable (handler arg1 arg2) in
theorem umacCoreCancelTimeout_refines (h : Represents core q used frees) :
    ∃ core', umacCoreCancelTimeout core handler arg1 arg2
        = some (core', (specCancel q handler arg1 arg2).2)
      ∧ ToqRefines core' (specCancel q handler arg1 arg2).1 := by
  obtain ⟨toq', frees', heq, hview, hlinked⟩ := umacTimeoutqCancelProtected_spec
    handler arg1 arg2 h.linked
  have hcells : cellIsFor handler arg1 arg2 core.toq
      = CellView.isFor handler arg1 arg2 ∘ cellView core.toq := rfl
  have hspec : PendingTimeout.isFor handler arg1 arg2
      = CellView.isFor handler arg1 arg2 ∘ PendingTimeout.view (H := H) (A := A) :=
    funext fun e => (isFor_view e).symm
  have hcount : used.countP (cellIsFor handler arg1 arg2 core.toq)
      = q.pending.countP (PendingTimeout.isFor handler arg1 arg2) := by
    rw [hcells, hspec, ← List.countP_map, ← List.countP_map, h.pending]
  have hfilter : (used.filter fun i => !cellIsFor handler arg1 arg2 core.toq i).map
      (cellView core.toq) = (q.pending.filter fun e => !e.isFor handler arg1 arg2).map
        PendingTimeout.view := by
    have hf := List.filter_map (p := fun v => !CellView.isFor handler arg1 arg2 v)
      (f := cellView core.toq) (l := used)
    have hf' := List.filter_map (p := fun v => !CellView.isFor handler arg1 arg2 v)
      (f := PendingTimeout.view) (l := q.pending)
    rw [h.pending, hf'] at hf
    refine hf.symm.trans ?_
    refine congrArg _ (congrArg (List.filter · q.pending) ?_)
    exact funext fun e => congrArg _ (isFor_view e)
  unfold umacCoreCancelTimeout
  rw [heq, hcount]
  refine ⟨_, rfl, _, frees', h.of_lists hlinked ?_ ?_ hview.extraPool⟩
  · rw [hview.view]
    exact hfilter
  · intro x _
    rw [hview.view]

variable (handler arg1 arg2) in
/-- What `umac_timeoutq_remove_one_protected` does to a represented queue. -/
theorem umacTimeoutqRemoveOneProtected_refines (h : Represents core q used frees) :
    (q.fromFirst handler arg1 arg2 = [] ∧
        umacTimeoutqRemoveOneProtected core.toq handler arg1 arg2 = some (core.toq, none))
    ∨ ∃ e rest toq' cpre x cpost, q.fromFirst handler arg1 arg2 = e :: rest
        ∧ umacTimeoutqRemoveOneProtected core.toq handler arg1 arg2 = some (toq', some x)
        ∧ Linked toq' (cpre ++ cpost) frees (x :: core.dispatch.held)
        ∧ Relinked core.toq toq' ∧ cellNext toq' x = cpost.head?
        ∧ cpre.map (cellView core.toq)
          = (q.beforeFirst handler arg1 arg2).map PendingTimeout.view
        ∧ cellView core.toq x = e.view
        ∧ cpost.map (cellView core.toq) = rest.map PendingTimeout.view := by
  cases hfirst : q.fromFirst handler arg1 arg2 with
  | nil =>
    refine Or.inl ⟨rfl, umacTimeoutqRemoveOneProtected_none h.linked ?_⟩
    refine forall_cellIsFor h.pending fun e he => ?_
    have hnone := List.dropWhile_eq_nil_iff.mp hfirst e he
    simpa using hnone
  | cons e rest =>
    obtain ⟨hsplit, he⟩ := q.beforeFirst_append hfirst
    obtain ⟨cpre, x, cpost, rfl, hpre, hx, hpost⟩ := h.split hsplit
    have hskip : ∀ f ∈ q.beforeFirst handler arg1 arg2, f.isFor handler arg1 arg2 = false := by
      intro f hf
      have := List.mem_takeWhile_imp hf
      simpa using this
    have hxfor : cellIsFor handler arg1 arg2 core.toq x = true := by
      rw [cellIsFor, hx, isFor_view, he]
    obtain ⟨toq', heq, hview, hnext, hlinked⟩ := umacTimeoutqRemoveOneProtected_some h.linked
      (forall_cellIsFor hpre hskip) hxfor
    exact Or.inr ⟨e, rest, toq', cpre, x, cpost, rfl, heq, hlinked, hview, hnext, hpre, hx, hpost⟩

variable (handler arg1 arg2) in
theorem umacCoreCancelTimeoutOne_refines (h : Represents core q used frees) (now : U32) :
    ∃ core', umacCoreCancelTimeoutOne core now handler arg1 arg2
        = some (core', (specCancelOne q now handler arg1 arg2).2)
      ∧ ToqRefines core' (specCancelOne q now handler arg1 arg2).1 := by
  unfold umacCoreCancelTimeoutOne specCancelOne
  rcases umacTimeoutqRemoveOneProtected_refines handler arg1 arg2 h
    with ⟨hfirst, heq⟩ | ⟨e, rest, toq', cpre, x, cpost, hfirst, heq, hlinked, hview, _, hpre, hx, hpost⟩
  · rw [hfirst, heq]
    exact ⟨core, rfl, used, frees, h⟩
  rw [hfirst, heq]
  have hexpiry : (toq'.node x).timeoutAbsMs = e.expiry :=
    congrArg Prod.fst ((congrFun hview.view x).trans hx)
  have hkeep : ∀ i, i ≠ x → cellView (umacTimeoutqFree toq' x) i = cellView core.toq i := by
    intro i hi
    rw [umacTimeoutqFree, (Relinked.freeProtected ..).view, cellView_set_of_ne hi, hview.view]
  refine ⟨_, congrArg some (congrArg _ (congrArg some (congrArg (remainingMs · now) hexpiry))),
    cpre ++ cpost, x :: frees, h.of_lists (hlinked.set_held _).freeProtected ?_ ?_ hview.extraPool⟩
  · rw [List.map_append (f := PendingTimeout.view), ← hpre, ← hpost, ← List.map_append]
    exact List.map_congr_left fun i hi => hkeep i (hlinked.ne_of_mem_used hi)
  · exact fun i hi => hkeep i (hlinked.ne_of_mem_held hi)

theorem umacCoreDepleteTimeout_refines (h : Represents core q used frees) (hok : q.Ok)
    {now deltaMs : U32}
    (hw : WindowOk q (.deplete now deltaMs handler arg1 arg2))
    (hd : DepleteOk q (.deplete now deltaMs handler arg1 arg2)) :
    ∃ core', umacCoreDepleteTimeout core now deltaMs handler arg1 arg2
        = some (core', (specDeplete q now deltaMs handler arg1 arg2).2)
      ∧ ToqRefines core' (specDeplete q now deltaMs handler arg1 arg2).1 := by
  unfold umacCoreDepleteTimeout umacTimeoutqDepleteTimeoutProtected specDeplete
  rcases umacTimeoutqRemoveOneProtected_refines handler arg1 arg2 h
    with ⟨hfirst, heq⟩ | ⟨e, rest, toq', cpre, x, cpost, hfirst, heq, hlinked, hview, hnext, hpre, hx,
      hpost⟩
  · rw [hfirst, heq]
    exact ⟨core, rfl, used, frees, h⟩
  have hmap : (cpre ++ cpost).map (cellView toq')
      = (q.beforeFirst handler arg1 arg2 ++ rest).map PendingTimeout.view := by
    rw [hview.view, List.map_append, List.map_append, hpre, hpost]
  have hsplit := (q.beforeFirst_append hfirst).1
  have hexpiry : ∀ f ∈ q.pending, f.expiry ∈ q.expiries := fun f hf => List.mem_map_of_mem hf
  have hsub : ∀ t ∈ (q.beforeFirst handler arg1 arg2 ++ rest).map (·.expiry), t ∈ q.expiries :=
    ((q.removeFirst_sublist hfirst).map _).subset
  have hsorted : ∀ f ∈ rest, FiresBefore e f := by
    have hpw := hok.ordered.sorted
    rw [hsplit] at hpw
    exact (List.pairwise_cons.mp (List.pairwise_append.mp hpw).2.1).1
  have hmem : ∀ f ∈ rest.head?, f ∈ rest := fun f hf => List.mem_of_mem_head? hf
  -- the link left in the cell is harmless when the timeout behind it is due strictly later
  have hend : ∀ (toq₂ : UmacCoreTimeoutq H A) (t : U32), cellNext toq₂ x = cpost.head? →
      (cellView toq₂ x).1 = t → (∀ i ∈ cpost, cellView toq₂ i = cellView core.toq i) →
      (∀ f ∈ rest.head?, mmosalTimeLt t f.expiry = true) →
      cellNext toq₂ x = none ∨ ∃ z ∈ cpre ++ cpost, cellBefore toq₂ x z := by
    intro toq₂ t hnext₂ ht hkeep hdue
    cases cpost with
    | nil => exact Or.inl hnext₂
    | cons z cpost =>
      obtain ⟨f, rest', rfl, hzf, _⟩ := List.map_eq_cons_iff.mp hpost.symm
      refine Or.inr ⟨z, by simp, ?_⟩
      unfold cellBefore
      rw [ht, hkeep z (List.mem_cons_self ..), ← hzf]
      exact hdue f rfl
  rw [hfirst, heq]
  dsimp only [Option.bind_some]
  rw [show (toq'.node x).timeoutAbsMs = e.expiry from
    congrArg Prod.fst ((congrFun hview.view x).trans hx)]
  by_cases hearly : mmosalTimeLt (now + deltaMs) e.expiry = true
  · rw [if_pos hearly, if_pos hearly, if_pos hearly]
    have hwin : Window ((now + deltaMs) :: q.expiries) := hw e (by rw [hfirst]; rfl) hearly
    generalize htmo : ({ toq'.node x with timeoutAbsMs := now + deltaMs } : UmacCoreTimeout H A)
      = tmo
    have hviewx : cellView (toq'.set x tmo) x
        = (⟨now + deltaMs, e.handler, e.arg1, e.arg2, q.stamp⟩ : PendingTimeout H A).view := by
      have hx' : cellView toq' x = e.view := (congrFun hview.view x).trans hx
      rw [cellView_set_self, ← htmo]
      exact congrArg (Prod.mk (now + deltaMs)) (congrArg Prod.snd hx')
    have hnext₂ : cellNext (toq'.set x tmo) x = cpost.head? := by
      rw [cellNext_set, update_self, ← htmo]
      exact hnext
    obtain ⟨toq'', used', heq', hlinked', hused', hview'⟩ :=
      umacTimeoutqEnqueueProtected_refines (hlinked.set_held tmo)
        (hlinked.map_cellView_set.trans hmap) hviewx
        (hwin.mono fun t ht => by
          rcases List.mem_cons.mp ht with rfl | ht'
          · exact List.mem_cons_self ..
          · exact List.mem_cons_of_mem _ (hsub t ht'))
        (hend _ (now + deltaMs) hnext₂ (congrArg Prod.fst hviewx)
          (fun i hi => by
            rw [cellView_set_of_ne (hlinked.ne_of_mem_used (List.mem_append_right _ hi)),
              hview.view])
          fun f hf => (hsorted f (hmem f hf)).due_of_lt hwin (List.mem_cons_self ..)
            (List.mem_cons_of_mem _ (hexpiry e (by rw [hsplit]; simp)))
            (List.mem_cons_of_mem _ (hexpiry f (by rw [hsplit]; simp [hmem f hf]))) hearly)
    rw [heq']
    refine ⟨_, rfl, used', frees, h.of_lists hlinked' hused' (fun i hi => ?_) ?_⟩
    · rw [hview'.view, cellView_set_of_ne (hlinked.ne_of_mem_held hi), hview.view]
    · exact hview'.extraPool.trans hview.extraPool
  rw [if_neg hearly, if_neg hearly, if_neg hearly]
  have hlate : mmosalTimeLt (now + deltaMs) e.expiry = false := Bool.eq_false_iff.mpr hearly
  have hdue : ∀ f ∈ rest.head?, dueBefore e f := by
    intro f hf
    rcases hsorted f (hmem f hf) with hlt | ⟨heq, _⟩
    · exact hlt
    · exact absurd heq.symm (hd e rest hfirst hlate f hf)
  have hfront : ∀ f ∈ q.beforeFirst handler arg1 arg2, ¬ dueBefore e f := by
    intro f hf
    have hpw := hok.ordered.sorted
    rw [hsplit] at hpw
    refine FiresBefore.not_dueBefore hok.window (hexpiry f (by rw [hsplit]; simp [hf]))
      (hexpiry e (by rw [hsplit]; simp)) ?_
    exact (List.pairwise_append.mp hpw).2.2 f hf e (List.mem_cons_self ..)
  obtain ⟨toq'', used', heq', hlinked', hused', hview'⟩ :=
    umacTimeoutqEnqueueProtected_refines (e := e) hlinked hmap
      ((congrFun hview.view x).trans hx)
      (hok.window.mono fun t ht => by
        rcases List.mem_cons.mp ht with rfl | ht'
        · exact hexpiry e (by rw [hsplit]; simp)
        · exact hsub t ht')
      (hend _ e.expiry hnext (congrArg Prod.fst ((congrFun hview.view x).trans hx))
        (fun i _ => congrFun hview.view i) hdue)
  rw [orderedInsert_append hfront hdue, ← hsplit] at hused'
  rw [heq']
  refine ⟨_, rfl, used', frees, h.of_lists hlinked' hused' (fun i hi => ?_)
    ?_⟩
  · rw [hview'.view, hview.view]
  · exact hview'.extraPool.trans hview.extraPool

/-! ## Any sequence of operations -/

/-- The machine of the source: one operation, with what it returns. -/
def toqStep (core : UmacCoreData H A) : ToqOp H A → Option (UmacCoreData H A × ToqReturn)
  | .start created => some (umacCoreStart core created, .void)
  | .stop => some (umacCoreStop core, .void)
  | .allocExtra allocated =>
    some ({ core with toq := (umacTimeoutqAllocExtra core.toq allocated).1 },
      .flag (umacTimeoutqAllocExtra core.toq allocated).2)
  | .register now deltaMs handler arg1 arg2 =>
    (umacCoreRegisterTimeout core now deltaMs handler arg1 arg2).map fun r => (r.1, .flag r.2)
  | .cancel handler arg1 arg2 =>
    (umacCoreCancelTimeout core handler arg1 arg2).map fun r => (r.1, .count r.2)
  | .cancelOne now handler arg1 arg2 =>
    (umacCoreCancelTimeoutOne core now handler arg1 arg2).map fun r => (r.1, .remaining r.2)
  | .deplete now deltaMs handler arg1 arg2 =>
    (umacCoreDepleteTimeout core now deltaMs handler arg1 arg2).map fun r => (r.1, .code r.2)
  | .dispatch now =>
    some (match core.dispatch with
      | .idle => { core with dispatch := .loop 0 now }
      | _ => core, .void)
  | .dispatchStep => (umacTimeoutqDispatchStep core).map fun core' => (core', .void)

theorem toqStep_refines {op : ToqOp H A} (h : ToqRefines core q) (hok : q.Ok)
    (hw : WindowOk q op) (hd : DepleteOk q op) :
    ∃ core', toqStep core op = some (core', (specStep q op).2)
      ∧ ToqRefines core' (specStep q op).1 := by
  obtain ⟨used, frees, hrep⟩ := h
  cases op with
  | start created =>
    refine ⟨_, rfl, used, frees, ?_⟩
    show Represents (umacCoreStart core created)
      (if q.evtloopTask then q
        else { q with evtloopShuttingDown := false, evtloopTask := created }) used frees
    unfold umacCoreStart
    rw [hrep.evtloopTask]
    split
    · exact hrep
    · exact ⟨hrep.linked, hrep.pending, hrep.dispatch, hrep.extraPool, rfl, rfl, hrep.fired⟩
  | stop =>
    refine ⟨_, rfl, used, frees, ?_⟩
    show Represents (umacCoreStop core)
      (if q.evtloopShuttingDown then q
        else { q with evtloopShuttingDown := true, evtloopTask := false }) used frees
    unfold umacCoreStop
    rw [hrep.evtloopShuttingDown]
    split
    · exact hrep
    · exact ⟨hrep.linked, hrep.pending, hrep.dispatch, hrep.extraPool, rfl, rfl, hrep.fired⟩
  | allocExtra allocated =>
    show ∃ core', some (({ core with toq := (umacTimeoutqAllocExtra core.toq allocated).1 } :
        UmacCoreData H A), ToqReturn.flag (umacTimeoutqAllocExtra core.toq allocated).2)
      = some (core', .flag (q.extraPool || allocated))
        ∧ ToqRefines core' { q with extraPool := q.extraPool || allocated }
    by_cases hextra : core.toq.extraPool = true
    · have hsame : umacTimeoutqAllocExtra core.toq allocated = (core.toq, true) := if_pos hextra
      have hq : (q.extraPool || allocated) = true := by rw [← hrep.extraPool, hextra, Bool.true_or]
      rw [hsame, hq]
      exact ⟨core, rfl, used, frees, hrep.linked, hrep.pending, hrep.dispatch, hextra,
        hrep.evtloopTask, hrep.evtloopShuttingDown, hrep.fired⟩
    have hfalse : core.toq.extraPool = false := Bool.eq_false_iff.mpr hextra
    have hq : (q.extraPool || allocated) = allocated := by
      rw [← hrep.extraPool, hfalse, Bool.false_or]
    rw [hq]
    cases allocated with
    | false =>
      have hsame : umacTimeoutqAllocExtra core.toq false = (core.toq, false) := by
        rw [umacTimeoutqAllocExtra, if_neg hextra, if_neg Bool.false_ne_true]
      rw [hsame]
      exact ⟨core, rfl, used, frees, hrep.linked, hrep.pending, hrep.dispatch, hfalse,
        hrep.evtloopTask, hrep.evtloopShuttingDown, hrep.fired⟩
    | true =>
      obtain ⟨⟨frees', hlinked⟩, hview, hpool⟩ := umacTimeoutqAllocExtra_linked hrep.linked hfalse
      have hret : (umacTimeoutqAllocExtra core.toq true).2 = true :=
        congrArg Prod.snd (umacTimeoutqAllocExtra_eq hfalse)
      rw [hret]
      refine ⟨_, rfl, used, frees', hlinked, ?_, ?_, hpool, hrep.evtloopTask,
        hrep.evtloopShuttingDown, hrep.fired⟩
      · exact (List.map_congr_left fun i hi => hview i (by simp [hi])).trans hrep.pending
      · exact (DispatchPc.map_congr fun i hi => hview i (by simp [hi])).trans hrep.dispatch
  | register now deltaMs handler arg1 arg2 =>
    obtain ⟨core', heq, hrefines⟩ := umacCoreRegisterTimeout_refines hrep hw
    exact ⟨core', by rw [toqStep, heq]; rfl, hrefines⟩
  | cancel handler arg1 arg2 =>
    obtain ⟨core', heq, hrefines⟩ := umacCoreCancelTimeout_refines handler arg1 arg2 hrep
    exact ⟨core', by rw [toqStep, heq]; rfl, hrefines⟩
  | cancelOne now handler arg1 arg2 =>
    obtain ⟨core', heq, hrefines⟩ := umacCoreCancelTimeoutOne_refines handler arg1 arg2 hrep now
    exact ⟨core', by rw [toqStep, heq]; rfl, hrefines⟩
  | deplete now deltaMs handler arg1 arg2 =>
    obtain ⟨core', heq, hrefines⟩ := umacCoreDepleteTimeout_refines hrep hok hw hd
    exact ⟨core', by rw [toqStep, heq]; rfl, hrefines⟩
  | dispatch now =>
    refine ⟨_, rfl, used, frees, ?_⟩
    unfold specStep
    dsimp only
    have hdispatch := hrep.dispatch
    have hlinked := hrep.linked
    cases hqd : q.dispatch with
    | idle =>
      rw [hqd] at hdispatch
      have hcd := DispatchPc.map_eq_idle.mp hdispatch
      rw [hcd] at hlinked ⊢
      exact ⟨hlinked, hrep.pending, rfl, hrep.extraPool, hrep.evtloopTask,
        hrep.evtloopShuttingDown, hrep.fired⟩
    | loop ii timeMs =>
      rw [hqd] at hdispatch
      rw [DispatchPc.map_eq_loop.mp hdispatch]
      exact hrep
    | holding ii timeMs e =>
      rw [hqd] at hdispatch
      obtain ⟨x, hcd, _⟩ := DispatchPc.map_eq_holding.mp hdispatch
      rw [hcd]
      exact hrep
  | dispatchStep =>
    obtain ⟨core', heq, hrefines⟩ := umacTimeoutqDispatchStep_refines hrep
    exact ⟨core', by rw [toqStep, heq]; rfl, hrefines⟩

def toqRun (core : UmacCoreData H A) :
    List (ToqOp H A) → Option (UmacCoreData H A × List ToqReturn)
  | [] => some (core, [])
  | op :: ops => (toqStep core op).bind fun r =>
    (toqRun r.1 ops).map fun r' => (r'.1, r.2 :: r'.2)

def specRun (q : TimerSpec H A) : List (ToqOp H A) → TimerSpec H A × List ToqReturn
  | [] => (q, [])
  | op :: ops =>
    ((specRun (specStep q op).1 ops).1, (specStep q op).2 :: (specRun (specStep q op).1 ops).2)

/-- The abstract machine, as a step function for `Along`. -/
def specNext (q : TimerSpec H A) (op : ToqOp H A) : Option (TimerSpec H A) :=
  some (specStep q op).1

theorem toqRun_refines {ops : List (ToqOp H A)} (h : ToqRefines core q) (hok : q.Ok)
    (hops : Along specNext (fun q op => WindowOk q op ∧ DepleteOk q op) q ops) :
    ∃ core', toqRun core ops = some (core', (specRun q ops).2)
      ∧ ToqRefines core' (specRun q ops).1 ∧ (specRun q ops).1.Ok := by
  induction ops generalizing core q with
  | nil => exact ⟨core, rfl, h, hok⟩
  | cons op ops ih =>
    obtain ⟨core₁, hstep, hrefines₁⟩ := toqStep_refines h hok hops.1.1 hops.1.2
    obtain ⟨core', hrun, hrefines, hok'⟩ :=
      ih hrefines₁ (specStep_ok hok hops.1.1) (hops.2 _ rfl)
    refine ⟨core', ?_, hrefines, hok'⟩
    rw [toqRun, hstep, Option.bind_some, hrun]
    rfl

/-- In every sequence of operations whose depletions find no equal expiry behind a
timeout they do not make earlier, the timeout queue is the stable priority queue: it
returns the same, and its lists tell the pending timeouts in firing order. -/
theorem toq_refines_stable_queue (ops : List (ToqOp H A))
    (hwindow : Along specNext WindowOk TimerSpec.init ops)
    (hdeplete : Along specNext DepleteOk TimerSpec.init ops) :
    ∃ core, toqRun umacCoreInit ops = some (core, (specRun TimerSpec.init ops).2)
      ∧ ToqRefines core (specRun TimerSpec.init ops).1
      ∧ Ordered (specRun TimerSpec.init ops).1.pending (specRun TimerSpec.init ops).1.stamp := by
  obtain ⟨core, hrun, hrefines, hok⟩ :=
    toqRun_refines umacCoreInit_refines TimerSpec.init_ok (hwindow.and hdeplete)
  exact ⟨core, hrun, hrefines, hok.ordered⟩

end Matching

theorem window_of_small {ts : List U32}
    (h : ts.all (fun t => decide (t.toNat < 2147483648)) = true) : Window ts := by
  refine ⟨0#32, fun t ht => ?_⟩
  have hlt := List.all_eq_true.mp h t ht
  simp only [decide_eq_true_eq, serialDist, BitVec.sub_zero] at hlt ⊢
  omega

theorem along_specNext_cons [DecidableEq H] [DecidableEq A]
    {C : TimerSpec H A → ToqOp H A → Prop} {op : ToqOp H A} {ops : List (ToqOp H A)}
    (hop : C q op) (hops : Along specNext C (specStep q op).1 ops) :
    Along specNext C q (op :: ops) := by
  refine ⟨hop, fun q' hq' => ?_⟩
  cases hq'
  exact hops

/-- A registration, a depletion to an earlier time and the dispatch of the timeout. -/
def registerDepleteDispatch : List (ToqOp Nat Unit) :=
  [.start true, .register 0 10 0 none none, .deplete 0 5 0 none none, .dispatch 6, .dispatchStep,
    .dispatchStep]

theorem toq_refines_stable_queue_dispatch :
    ∃ core, toqRun umacCoreInit registerDepleteDispatch
        = some (core, [.void, .flag true, .code 1, .void, .void, .void])
      ∧ ToqRefines core (specRun TimerSpec.init registerDepleteDispatch).1
      ∧ Ordered (specRun TimerSpec.init registerDepleteDispatch).1.pending 2 := by
  refine toq_refines_stable_queue registerDepleteDispatch ?_ ?_
  · refine along_specNext_cons trivial (along_specNext_cons ?_ (along_specNext_cons ?_ ?_))
    · exact fun _ => window_of_small (by rfl)
    · exact fun _ _ _ => window_of_small (by rfl)
    · exact along_specNext_cons trivial (along_specNext_cons trivial
        (along_specNext_cons trivial trivial))
  refine along_specNext_cons trivial (along_specNext_cons trivial (along_specNext_cons ?_ ?_))
  · intro e rest he hlate
    cases he
    exact absurd hlate (by decide)
  · exact along_specNext_cons trivial (along_specNext_cons trivial
      (along_specNext_cons trivial trivial))

theorem not_chain_of_two_cycle {ι : Type*} {next : ι → Option ι} {i j : ι} {is : List ι}
    (hij : next i = some j) (hji : next j = some i) : ¬ Chain next (some i) is := by
  intro h
  obtain ⟨js, rfl, hjs⟩ := h.of_some
  rw [hij] at hjs
  obtain ⟨ks, rfl, hks⟩ := hjs.of_some
  rw [hji] at hks
  have hlen := congrArg List.length (h.unique hks)
  simp only [List.length_cons] at hlen
  omega

/-- Two timeouts that expire together, then the first depleted to a later time. -/
def twoEqualThenDeplete : List (ToqOp Nat Unit) :=
  [.start true, .register 0 10 0 none none, .register 0 10 1 none none,
    .deplete 0 20 0 none none]

/-- Depleting the first of two timeouts that expire together, to a time that is not
earlier, links their cells to each other. -/
theorem deplete_creates_cycle :
    ¬ ∀ ops : List (ToqOp Nat Unit), Along specNext WindowOk TimerSpec.init ops →
      ∃ core, toqRun umacCoreInit ops = some (core, (specRun TimerSpec.init ops).2)
        ∧ ToqRefines core (specRun TimerSpec.init ops).1 := by
  intro h
  have hwindow : Along specNext WindowOk TimerSpec.init twoEqualThenDeplete := by
    refine along_specNext_cons trivial (along_specNext_cons ?_ (along_specNext_cons ?_
      (along_specNext_cons ?_ trivial)))
    · exact fun _ => window_of_small (by rfl)
    · exact fun _ => window_of_small (by rfl)
    · intro e he hearly
      cases he
      exact absurd hearly (by decide)
  obtain ⟨core, hrun, used, frees, hrep⟩ := h twoEqualThenDeplete hwindow
  have hcells : (toqRun (umacCoreInit : UmacCoreData Nat Unit) twoEqualThenDeplete).map
      (fun r => (r.1.toq.head, cellNext r.1.toq 18, cellNext r.1.toq 19))
        = some (some 18, some 19, some 18) := by
    decide
  rw [hrun, Option.map_some, Option.some.injEq, Prod.mk.injEq, Prod.mk.injEq] at hcells
  have hchain := hrep.linked.chain
  rw [hcells.1] at hchain
  exact not_chain_of_two_cycle hcells.2.1 hcells.2.2 hchain

end MmIotEsp32.Umac.Core
