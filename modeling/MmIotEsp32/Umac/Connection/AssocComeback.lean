/-
  MmIotEsp32.Umac.Connection.AssocComeback

  The comeback delay of a refused association (`umac_handle_assoc_refused_temporarily`)
  and the timeout queue that keeps it.
-/
import MmIotEsp32.Umac.Connection.ConnectionTimeouts
import MmIotEsp32.Umac.Core.TimeoutRefinement

namespace MmIotEsp32.Umac.Connection.Comeback

open Lib Core Function

/-! ## The response and the queue -/

/-- The handlers that timeouts are registered with: `umac_connection_assoc_reassoc_req_retry`,
and any other. -/
inductive Handler where
  | assocReassocReqRetry
  | other (id : Nat)
  deriving DecidableEq

/-- What a handler is given a pointer to: `umacd`, or another object. -/
inductive Object where
  | umacd
  | other (id : Nat)
  deriving DecidableEq

/-- The response that a retry was registered for: when it came, and the interval it named. -/
structure Refusal where
  atMs : Nat
  interval : U32
  deriving DecidableEq

/-- The core with its clock in milliseconds.  `refusal` records, for each cell of the queue, the
response that its retry was registered for, and `dispatchedAtMs` when the dispatch that is going
on began. -/
structure CoreSystem where
  clock : Nat
  core : UmacCoreData Handler Object
  refusal : ToSlot → Option Refusal
  dispatchedAtMs : Nat

/-- `mmosal_get_time_ms`. -/
def CoreSystem.now (s : CoreSystem) : U32 := BitVec.ofNat 32 s.clock

/-- The delay of a retry. -/
def comebackMs (interval : U32) : U32 := interval * 1024 / 1000

/-- The core after an operation that registers nothing for the station: a cell that no longer holds
a retry has no response either. -/
def CoreSystem.after (s : CoreSystem) (core : UmacCoreData Handler Object) : CoreSystem :=
  { s with
    core := core
    refusal := fun i =>
      if (core.toq.node i).handler = some .assocReassocReqRetry then s.refusal i else none }

/-- `umac_handle_assoc_refused_temporarily`, with what it returns. -/
def umacHandleAssocRefusedTemporarily (s : CoreSystem) (timeoutInterval : Option Dot11IeTie) :
    Option (CoreSystem × Bool) :=
  match timeoutInterval with
  | none => some (s, false)
  | some timeoutInterval =>
    if timeoutInterval.type = dot11TieAssocComeback then
      (Core.umacCoreRegisterTimeout s.core s.now (comebackMs timeoutInterval.interval)
          .assocReassocReqRetry (some .umacd) none).map fun (core, ok) =>
        if ok then
          -- `umac_timeoutq_alloc` takes the head of the free list
          ({ s with
              core := core
              refusal := fun i => if s.core.toq.free = some i
                then some ⟨s.clock, timeoutInterval.interval⟩ else s.refusal i }, true)
        else (s, false)
    else some (s, false)

/-- What the event loop and the other tasks do. -/
inductive CoreEvent where
  | tick (ms : Nat)
  /-- an association response that refuses temporarily, with the Timeout Interval element in it -/
  | refused (timeoutInterval : Option Dot11IeTie)
  | start (created : Bool)
  | stop
  | allocExtra (allocated : Bool)
  /-- a timeout of another handler -/
  | register (deltaMs : U32) (id : Nat) (arg1 arg2 : Option Object)
  | cancel (handler : Handler) (arg1 arg2 : Option Object)
  | cancelOne (handler : Handler) (arg1 arg2 : Option Object)
  /-- `umac_core_deplete_timeout`, which only `eloop.c` calls, for its own handler -/
  | deplete (deltaMs : U32) (id : Nat) (arg1 arg2 : Option Object)
  /-- `umac_timeoutq_dispatch` begins -/
  | dispatch
  | dispatchStep

/-- One step.  A response is handled by the event loop, so not while the same task dispatches. -/
def step (s : CoreSystem) : CoreEvent → Option CoreSystem
  | .tick ms => some { s with clock := s.clock + ms }
  | .refused timeoutInterval =>
    match s.core.dispatch with
    | .idle => (umacHandleAssocRefusedTemporarily s timeoutInterval).map (·.1)
    | _ => some s
  | .start created => some (s.after (Core.umacCoreStart s.core created))
  | .stop => some (s.after (Core.umacCoreStop s.core))
  | .allocExtra allocated =>
    some (s.after { s.core with toq := (umacTimeoutqAllocExtra s.core.toq allocated).1 })
  | .register deltaMs id arg1 arg2 =>
    (Core.umacCoreRegisterTimeout s.core s.now deltaMs (.other id) arg1 arg2).map
      fun r => s.after r.1
  | .cancel handler arg1 arg2 =>
    (Core.umacCoreCancelTimeout s.core handler arg1 arg2).map fun r => s.after r.1
  | .cancelOne handler arg1 arg2 =>
    (Core.umacCoreCancelTimeoutOne s.core s.now handler arg1 arg2).map fun r => s.after r.1
  | .deplete deltaMs id arg1 arg2 =>
    (Core.umacCoreDepleteTimeout s.core s.now deltaMs (.other id) arg1 arg2).map
      fun r => s.after r.1
  | .dispatch =>
    match s.core.dispatch with
    | .idle =>
      some { s with
        core := { s.core with dispatch := .loop 0 s.now }
        dispatchedAtMs := s.clock }
    | _ => some s
  | .dispatchStep => (umacTimeoutqDispatchStep s.core).map fun core => s.after core

/-- The core after `umac_core_init`, at any reading of the clock. -/
def init (boot : Nat) : CoreSystem where
  clock := boot
  core := Core.umacCoreInit
  refusal := fun _ => none
  dispatchedAtMs := boot

/-! ## What the queue leaves in its cells -/

section Cells

variable {H A : Type} {toq toq' : UmacCoreTimeoutq H A}

theorem cellView_of_node (h : toq'.node = toq.node) : cellView toq' = cellView toq := by
  unfold cellView
  rw [h]

theorem umacTimeoutqDequeue_some {timeMs : U32} {tmo : ToSlot}
    (h : umacTimeoutqDequeue toq timeMs = (toq', some tmo)) :
    mmosalTimeLt timeMs (toq.node tmo).timeoutAbsMs = false ∧ toq'.node = toq.node := by
  unfold umacTimeoutqDequeue at h
  split at h
  · cases (Prod.mk.inj h).2
  split_ifs at h with hlt
  · cases (Prod.mk.inj h).2
  · obtain ⟨rfl, htmo⟩ := Prod.mk.inj h
    cases htmo
    exact ⟨Bool.eq_false_iff.mpr hlt, rfl⟩

theorem foldl_free_view (cells : List ToSlot) :
    cellView (cells.foldl umacTimeoutqFreeProtected toq) = cellView toq := by
  induction cells generalizing toq with
  | nil => rfl
  | cons i cells ih => rw [List.foldl_cons, ih, (Relinked.freeProtected toq i).view]

theorem umacTimeoutqAllocExtra_cells (allocated : Bool) (i : ToSlot) :
    cellView (umacTimeoutqAllocExtra toq allocated).1 i = cellView toq i
      ∨ ((umacTimeoutqAllocExtra toq allocated).1.node i).handler = none := by
  cases hextra : toq.extraPool with
  | true => exact .inl (by rw [umacTimeoutqAllocExtra, if_pos hextra])
  | false =>
    cases allocated with
    | false =>
      left
      rw [umacTimeoutqAllocExtra, if_neg (by rw [hextra]; decide), if_neg Bool.false_ne_true]
    | true =>
      rw [umacTimeoutqAllocExtra_eq hextra]
      let extended := { toq with
        node := fun i => if i.val < umacTimeoutqMaxlen then toq.node i else .zero
        extraPool := true }
      have hview : cellView (((List.finRange umacTimeoutqExtraLen).map extraSlot).foldl
          umacTimeoutqFreeProtected extended) i = cellView extended i :=
        congrFun (foldl_free_view _) i
      by_cases hi : i.val < umacTimeoutqMaxlen
      · left
        rw [hview]
        simp only [extended, cellView, if_pos hi]
      right
      have hhandler := congrArg (fun v : CellView H A => v.2.1) hview
      refine hhandler.trans ?_
      simp only [extended, cellView, if_neg hi, UmacCoreTimeout.zero]

theorem umacTimeoutqEnqueueWalk_view {fuel : Nat} {tmo walk : ToSlot}
    (h : umacTimeoutqEnqueueWalk fuel toq tmo walk = some toq') : cellView toq' = cellView toq := by
  induction fuel generalizing toq walk with
  | zero => cases h
  | succ fuel ih =>
    rw [umacTimeoutqEnqueueWalk] at h
    split at h
    · cases h
      exact cellView_setNext ..
    split_ifs at h
    · cases h
      rw [cellView_setNext, cellView_setNext]
    · exact ih h

theorem umacTimeoutqEnqueueProtected_view {tmo : ToSlot}
    (h : umacTimeoutqEnqueueProtected toq tmo = some toq') : cellView toq' = cellView toq := by
  unfold umacTimeoutqEnqueueProtected at h
  split at h
  · cases h
    rfl
  split_ifs at h
  · cases h
    exact cellView_setNext ..
  · exact umacTimeoutqEnqueueWalk_view h

section Removal

variable [DecidableEq H] [DecidableEq A] {handler : H} {arg1 arg2 : Option A}

theorem umacTimeoutqRemoveOneWalk_view {fuel : Nat} {prev : ToSlot} {r : Option ToSlot}
    (h : umacTimeoutqRemoveOneWalk handler arg1 arg2 fuel toq prev = some (toq', r)) :
    cellView toq' = cellView toq ∧ ∀ i ∈ r, (toq.node i).isFor handler arg1 arg2 = true := by
  induction fuel generalizing toq prev with
  | zero => cases h
  | succ fuel ih =>
    rw [umacTimeoutqRemoveOneWalk] at h
    split at h
    · cases h
      exact ⟨rfl, by simp⟩
    split_ifs at h with hfor
    · cases h
      refine ⟨cellView_setNext .., ?_⟩
      rintro i ⟨⟩
      exact hfor
    · exact ih h

theorem umacTimeoutqRemoveOneProtected_view {r : Option ToSlot}
    (h : umacTimeoutqRemoveOneProtected toq handler arg1 arg2 = some (toq', r)) :
    cellView toq' = cellView toq ∧ ∀ i ∈ r, (toq.node i).isFor handler arg1 arg2 = true := by
  unfold umacTimeoutqRemoveOneProtected at h
  split at h
  · cases h
    exact ⟨rfl, by simp⟩
  split_ifs at h with hfor
  · cases h
    refine ⟨rfl, ?_⟩
    rintro i ⟨⟩
    exact hfor
  · exact umacTimeoutqRemoveOneWalk_view h

theorem umacTimeoutqCancelHead_view {fuel count count' : Nat}
    (h : umacTimeoutqCancelHead handler arg1 arg2 fuel toq count = some (toq', count')) :
    cellView toq' = cellView toq := by
  induction fuel generalizing toq count with
  | zero => cases h
  | succ fuel ih =>
    rw [umacTimeoutqCancelHead] at h
    split at h
    · obtain ⟨rfl, -⟩ := Prod.mk.inj (Option.some.inj h)
      rfl
    split_ifs at h
    · rw [ih h, (Relinked.freeProtected _ _).view]
      rfl
    · obtain ⟨rfl, -⟩ := Prod.mk.inj (Option.some.inj h)
      rfl

theorem umacTimeoutqCancelWalk_view {fuel count count' : Nat} {prev : ToSlot}
    (h : umacTimeoutqCancelWalk handler arg1 arg2 fuel toq prev count = some (toq', count')) :
    cellView toq' = cellView toq := by
  induction fuel generalizing toq count prev with
  | zero => cases h
  | succ fuel ih =>
    rw [umacTimeoutqCancelWalk] at h
    split at h
    · obtain ⟨rfl, -⟩ := Prod.mk.inj (Option.some.inj h)
      rfl
    · split_ifs at h
      · rw [ih h, (Relinked.freeProtected _ _).view, cellView_setNext]
      · exact ih h

theorem umacTimeoutqCancelProtected_view {count : Nat}
    (h : umacTimeoutqCancelProtected toq handler arg1 arg2 = some (toq', count)) :
    cellView toq' = cellView toq := by
  obtain ⟨⟨toq₁, count₁⟩, hhead, hwalk⟩ := Option.bind_eq_some_iff.mp h
  rw [← umacTimeoutqCancelHead_view hhead]
  dsimp only at hwalk
  split at hwalk
  · obtain ⟨rfl, -⟩ := Prod.mk.inj (Option.some.inj hwalk)
    rfl
  · exact umacTimeoutqCancelWalk_view hwalk

end Removal

/-- What a registration does to the cells: it fails and changes nothing, or takes the first free
cell for the new timeout. -/
theorem umacCoreRegisterTimeout_cells {core core' : UmacCoreData H A} {now deltaMs : U32}
    {handler : H} {arg1 arg2 : Option A} {ok : Bool}
    (h : Core.umacCoreRegisterTimeout core now deltaMs handler arg1 arg2 = some (core', ok)) :
    (ok = false ∧ core' = core)
      ∨ (ok = true ∧ core'.dispatch = core.dispatch ∧ ∃ tmo, core.toq.free = some tmo
        ∧ cellView core'.toq = update (cellView core.toq) tmo
          (registerTimeoutAbsMs (umacTimeoutqPeekNextTimeout (umacTimeoutqAlloc core.toq).1)
            now deltaMs, some handler, arg1, arg2)) := by
  unfold Core.umacCoreRegisterTimeout umacTimeoutqAlloc at h
  split_ifs at h
  · cases h
    exact .inl ⟨rfl, rfl⟩
  cases hfree : core.toq.free with
  | none =>
    rw [hfree] at h
    cases h
    exact .inl ⟨rfl, rfl⟩
  | some tmo =>
    rw [hfree] at h
    obtain ⟨toq', henqueue, hcore⟩ := Option.map_eq_some_iff.mp h
    cases hcore
    refine .inr ⟨rfl, rfl, tmo, rfl, ?_⟩
    show cellView toq' = _
    rw [umacTimeoutqEnqueueProtected_view henqueue, cellView_setNext]
    funext i
    by_cases hi : i = tmo
    · subst hi
      rw [update_self, umacTimeoutqAlloc, hfree]
      simp [cellView, UmacCoreTimeoutq.set]
    · rw [update_of_ne hi]
      simp [cellView, UmacCoreTimeoutq.set, UmacCoreTimeoutq.setNext, update_of_ne hi]

end Cells

/-! ## The invariant -/

/-- A dispatch that read the clock as `timeMs` has begun after every response seen so far. -/
structure Begun (s : CoreSystem) (timeMs : U32) : Prop where
  reading : timeMs = BitVec.ofNat 32 s.dispatchedAtMs
  past : s.dispatchedAtMs ≤ s.clock
  came : ∀ i r, s.refusal i = some r → r.atMs ≤ s.dispatchedAtMs

/-- The timeout that a dispatch holds was due when it began. -/
def DispatchOk (s : CoreSystem) : Prop :=
  match s.core.dispatch with
  | .idle => True
  | .loop _ timeMs => Begun s timeMs
  | .holding _ timeMs i => Begun s timeMs
      ∧ ∀ r, s.refusal i = some r → r.atMs + (comebackMs r.interval).toNat ≤ s.dispatchedAtMs

/-- Each retry in the queue is recorded, and expires when the delay it was given is over. -/
structure RetriesOk (s : CoreSystem) : Prop where
  recorded : ∀ i, (s.core.toq.node i).handler = some .assocReassocReqRetry →
    ∃ r, s.refusal i = some r
  retry : ∀ i r, s.refusal i = some r →
    (s.core.toq.node i).handler = some .assocReassocReqRetry
  expiry : ∀ i r, s.refusal i = some r → comebackMs r.interval ≠ 0 →
    (s.core.toq.node i).timeoutAbsMs = BitVec.ofNat 32 r.atMs + comebackMs r.interval
  came : ∀ i r, s.refusal i = some r → r.atMs ≤ s.clock
  dispatch : DispatchOk s

theorem toNat_comebackMs (interval : U32) :
    (comebackMs interval).toNat = interval.toNat * 1024 % 2 ^ 32 / 1000 := by
  show ((interval * 1024#32) / 1000#32).toNat = _
  rw [BitVec.toNat_udiv, BitVec.toNat_mul]
  rfl

theorem due_of_not_lt {atMs dispatchedAtMs : Nat} {interval : U32} (hcame : atMs ≤ dispatchedAtMs)
    (hdue : mmosalTimeLt (BitVec.ofNat 32 dispatchedAtMs)
      (BitVec.ofNat 32 atMs + comebackMs interval) = false) :
    atMs + (comebackMs interval).toNat ≤ dispatchedAtMs := by
  by_contra hearly
  have hdelay := toNat_comebackMs interval
  have hdist : serialDist (BitVec.ofNat 32 atMs + comebackMs interval)
      (BitVec.ofNat 32 dispatchedAtMs)
        = 2 ^ 32 - (atMs + (comebackMs interval).toNat - dispatchedAtMs) := by
    unfold serialDist
    rw [BitVec.toNat_sub, BitVec.toNat_add, BitVec.toNat_ofNat, BitVec.toNat_ofNat]
    omega
  rw [mmosalTimeLt, (serialLt_iff _ _).mpr (by rw [hdist]; omega)] at hdue
  exact Bool.noConfusion hdue

theorem dispatchOk_of_idle {s : CoreSystem} (h : s.core.dispatch = .idle) : DispatchOk s := by
  unfold DispatchOk
  rw [h]
  trivial

section Keeps

variable {s : CoreSystem} {core : UmacCoreData Handler Object}

theorem after_refusal {i : ToSlot} {r : Refusal} (h : (s.after core).refusal i = some r) :
    (core.toq.node i).handler = some .assocReassocReqRetry ∧ s.refusal i = some r := by
  unfold CoreSystem.after at h
  dsimp only at h
  split_ifs at h with hretry
  exact ⟨hretry, h⟩

theorem Begun.after {timeMs : U32} (h : Begun s timeMs) : Begun (s.after core) timeMs :=
  ⟨h.reading, h.past, fun i r hr => h.came i r (after_refusal hr).2⟩

theorem RetriesOk.after (h : RetriesOk s)
    (hcells : ∀ i, (core.toq.node i).handler = some .assocReassocReqRetry →
      cellView core.toq i = cellView s.core.toq i)
    (hdispatch : DispatchOk (s.after core)) : RetriesOk (s.after core) where
  recorded := by
    intro i hi
    have hview := congrArg (fun v : CellView Handler Object => v.2.1) (hcells i hi)
    obtain ⟨r, hr⟩ := h.recorded i (hview.symm.trans hi)
    exact ⟨r, (if_pos hi).trans hr⟩
  retry i r hr := (after_refusal hr).1
  expiry i r hr hne := by
    have hview := congrArg (fun v : CellView Handler Object => v.1)
      (hcells i (after_refusal hr).1)
    exact hview.trans (h.expiry i r (after_refusal hr).2 hne)
  came i r hr := h.came i r (after_refusal hr).2
  dispatch := hdispatch

theorem DispatchOk.after (h : DispatchOk s) (hd : core.dispatch = s.core.dispatch) :
    DispatchOk (s.after core) := by
  unfold DispatchOk at h ⊢
  show match core.dispatch with
    | .idle => True
    | .loop _ timeMs => Begun (s.after core) timeMs
    | .holding _ timeMs i => Begun (s.after core) timeMs
      ∧ ∀ r, (s.after core).refusal i = some r →
        r.atMs + (comebackMs r.interval).toNat ≤ s.dispatchedAtMs
  rw [hd]
  cases hs : s.core.dispatch with
  | idle => trivial
  | loop ii timeMs =>
    rw [hs] at h
    exact h.after
  | holding ii timeMs i =>
    rw [hs] at h
    exact ⟨h.1.after, fun r hr => h.2 r (after_refusal hr).2⟩

theorem RetriesOk.after_view (h : RetriesOk s) (hview : cellView core.toq = cellView s.core.toq)
    (hd : core.dispatch = s.core.dispatch) : RetriesOk (s.after core) :=
  h.after (fun i _ => congrFun hview i) (h.dispatch.after hd)

theorem RetriesOk.registered (h : RetriesOk s) (hidle : s.core.dispatch = .idle) {tmo : ToSlot}
    {next : Option U32} {interval : U32} (hfree : s.core.toq.free = some tmo)
    (hd : core.dispatch = s.core.dispatch)
    (hview : cellView core.toq = update (cellView s.core.toq) tmo
      (registerTimeoutAbsMs next s.now (comebackMs interval), some .assocReassocReqRetry,
        some .umacd, none)) :
    RetriesOk { s with
      core := core
      refusal := fun i => if s.core.toq.free = some i then some ⟨s.clock, interval⟩
        else s.refusal i } := by
  have hrefusal : ∀ i r, (if s.core.toq.free = some i then some (⟨s.clock, interval⟩ : Refusal)
      else s.refusal i) = some r →
      (i = tmo ∧ r = ⟨s.clock, interval⟩) ∨ (i ≠ tmo ∧ s.refusal i = some r) := by
    intro i r hr
    rw [hfree] at hr
    by_cases hi : tmo = i
    · subst hi
      rw [if_pos rfl] at hr
      exact .inl ⟨rfl, (Option.some.inj hr).symm⟩
    · rw [if_neg (by simpa using hi)] at hr
      exact .inr ⟨fun heq => hi heq.symm, hr⟩
  have hcell : ∀ i, i ≠ tmo → cellView core.toq i = cellView s.core.toq i := by
    intro i hi
    rw [hview, update_of_ne hi]
  have hnew : cellView core.toq tmo = (registerTimeoutAbsMs next s.now (comebackMs interval),
      some .assocReassocReqRetry, some .umacd, none) := by
    rw [hview, update_self]
  have hhandler : ∀ i, (core.toq.node i).handler = (cellView core.toq i).2.1 := fun _ => rfl
  have hexpiry : ∀ i, (core.toq.node i).timeoutAbsMs = (cellView core.toq i).1 := fun _ => rfl
  constructor
  · intro i hi
    by_cases heq : i = tmo
    · exact ⟨_, if_pos (by rw [hfree, heq])⟩
    obtain ⟨r, hr⟩ := h.recorded i (by
      rw [hhandler, hcell i heq] at hi
      exact hi)
    refine ⟨r, (if_neg ?_).trans hr⟩
    rw [hfree]
    intro htmo
    exact heq (Option.some.inj htmo).symm
  · intro i r hr
    show (core.toq.node i).handler = _
    obtain ⟨rfl, rfl⟩ | ⟨hi, hr⟩ := hrefusal i r hr
    · rw [hhandler, hnew]
    · rw [hhandler, hcell i hi]
      exact h.retry i r hr
  · intro i r hr hne
    show (core.toq.node i).timeoutAbsMs = _
    obtain ⟨rfl, rfl⟩ | ⟨hi, hr⟩ := hrefusal i r hr
    · rw [hexpiry, hnew]
      exact if_neg hne
    · rw [hexpiry, hcell i hi]
      exact h.expiry i r hr hne
  · intro i r hr
    obtain ⟨rfl, rfl⟩ | ⟨hi, hr⟩ := hrefusal i r hr
    · exact Nat.le_refl _
    · exact h.came i r hr
  · exact dispatchOk_of_idle (hd.trans hidle)

theorem umacHandleAssocRefusedTemporarily_ok {s' : CoreSystem} {ok : Bool}
    {timeoutInterval : Option Dot11IeTie} (h : RetriesOk s) (hidle : s.core.dispatch = .idle)
    (hstep : umacHandleAssocRefusedTemporarily s timeoutInterval = some (s', ok)) :
    RetriesOk s' := by
  unfold umacHandleAssocRefusedTemporarily at hstep
  split at hstep
  · obtain ⟨rfl, -⟩ := Prod.mk.inj (Option.some.inj hstep)
    exact h
  split_ifs at hstep
  · obtain ⟨⟨core, registered⟩, hregister, hs'⟩ := Option.map_eq_some_iff.mp hstep
    obtain ⟨rfl, rfl⟩ | ⟨rfl, hd, tmo, hfree, hview⟩ := umacCoreRegisterTimeout_cells hregister
    · obtain ⟨rfl, -⟩ := Prod.mk.inj hs'
      exact h
    · obtain ⟨rfl, -⟩ := Prod.mk.inj hs'
      exact h.registered hidle hfree hd hview
  · obtain ⟨rfl, -⟩ := Prod.mk.inj (Option.some.inj hstep)
    exact h

theorem umacTimeoutqFree_cells {toq : UmacCoreTimeoutq Handler Object} {tmo : ToSlot} (i : ToSlot)
    (hi : ((umacTimeoutqFree toq tmo).node i).handler = some .assocReassocReqRetry) :
    cellView (umacTimeoutqFree toq tmo) i = cellView toq i := by
  have hview : cellView (umacTimeoutqFree toq tmo) = cellView (toq.set tmo .zero) :=
    (Relinked.freeProtected _ _).view
  have hne : i ≠ tmo := by
    rintro rfl
    have hhandler := congrArg (fun v : CellView Handler Object => v.2.1) (congrFun hview i)
    rw [cellView_set_self] at hhandler
    exact absurd (hi.symm.trans hhandler) (by simp [UmacCoreTimeout.zero])
  rw [hview, cellView_set_of_ne hne]

theorem umacTimeoutqDeplete_cells {toq toq' : UmacCoreTimeoutq Handler Object} {now deltaMs : U32}
    {handler : Handler} {arg1 arg2 : Option Object} {ret : Int}
    (h : umacTimeoutqDepleteTimeoutProtected toq now deltaMs handler arg1 arg2 = some (toq', ret))
    (i : ToSlot) :
    cellView toq' i = cellView toq i ∨ (toq'.node i).handler = some handler := by
  obtain ⟨⟨toq₁, tmo⟩, hremove, hrest⟩ := Option.bind_eq_some_iff.mp h
  obtain ⟨hview, hfor⟩ := umacTimeoutqRemoveOneProtected_view hremove
  cases tmo with
  | none =>
    obtain ⟨rfl, -⟩ := Prod.mk.inj (Option.some.inj hrest)
    exact .inl (congrFun hview i)
  | some tmo =>
    obtain ⟨toq₂, henqueue, hcore⟩ := Option.map_eq_some_iff.mp hrest
    obtain ⟨rfl, -⟩ := Prod.mk.inj hcore
    have hnode : (toq₁.node tmo).handler = some handler := by
      have hisFor := hfor tmo rfl
      simp only [UmacCoreTimeout.isFor, Bool.and_eq_true, decide_eq_true_eq] at hisFor
      exact (congrArg (fun v : CellView Handler Object => v.2.1) (congrFun hview tmo)).trans
        hisFor.1.1
    have henq := congrFun (umacTimeoutqEnqueueProtected_view henqueue) i
    have hhandler : (toq₂.node i).handler = _ :=
      congrArg (fun v : CellView Handler Object => v.2.1) henq
    by_cases hi : i = tmo
    · subst hi
      right
      rw [hhandler]
      split_ifs
      · rw [cellView_set_self]
        exact hnode
      · exact hnode
    left
    rw [henq, ← congrFun hview i]
    split_ifs
    · exact cellView_set_of_ne hi
    · rfl

theorem umacTimeoutqDispatchStep_ok (h : RetriesOk s)
    (hstep : umacTimeoutqDispatchStep s.core = some core) : RetriesOk (s.after core) := by
  have hdispatch := h.dispatch
  unfold DispatchOk at hdispatch
  unfold umacTimeoutqDispatchStep at hstep
  split at hstep
  · cases hstep
    exact h.after_view rfl rfl
  · rename_i ii timeMs hloop
    rw [hloop] at hdispatch
    have hidle : RetriesOk (s.after { s.core with dispatch := .idle }) :=
      h.after (fun _ _ => rfl) (dispatchOk_of_idle rfl)
    split_ifs at hstep
    · split at hstep
      · cases hstep
        exact hidle
      rename_i toq tmo hdequeue
      obtain ⟨hdue, hnode⟩ := umacTimeoutqDequeue_some hdequeue
      cases hstep
      refine h.after (fun i _ => congrFun (cellView_of_node hnode) i)
        ⟨hdispatch.after, fun r hr => ?_⟩
      -- the cell was due when the dispatch read the clock
      have hr' := (after_refusal hr).2
      have hcame := hdispatch.came tmo r hr'
      by_cases hzero : comebackMs r.interval = 0
      · rw [hzero]
        exact hcame
      · rw [h.expiry tmo r hr' hzero, hdispatch.reading] at hdue
        exact due_of_not_lt hcame hdue
    · cases hstep
      exact hidle
  rename_i ii timeMs tmo hholding
  rw [hholding] at hdispatch
  split at hstep
  · cases hstep
  · cases hstep
    exact h.after (fun i hi => umacTimeoutqFree_cells i hi) hdispatch.1.after

theorem step_retriesOk (s : CoreSystem) (e : CoreEvent) (s' : CoreSystem) (h : RetriesOk s)
    (hstep : step s e = some s') : RetriesOk s' := by
  cases e with
  | tick ms =>
    cases hstep
    have hle : s.clock ≤ s.clock + ms := Nat.le_add_right _ _
    refine ⟨h.recorded, h.retry, h.expiry, fun i r hr => (h.came i r hr).trans hle, ?_⟩
    have hdispatch := h.dispatch
    unfold DispatchOk at hdispatch ⊢
    dsimp only
    split at hdispatch
    · trivial
    · exact ⟨hdispatch.reading, hdispatch.past.trans hle, hdispatch.came⟩
    · exact ⟨⟨hdispatch.1.reading, hdispatch.1.past.trans hle, hdispatch.1.came⟩, hdispatch.2⟩
  | refused timeoutInterval =>
    simp only [step] at hstep
    split at hstep
    · rename_i hidle
      obtain ⟨⟨t, ok⟩, hrefused, rfl⟩ := Option.map_eq_some_iff.mp hstep
      exact umacHandleAssocRefusedTemporarily_ok h hidle hrefused
    · cases hstep
      exact h
  | start created =>
    cases hstep
    unfold Core.umacCoreStart
    split_ifs <;> exact h.after_view rfl rfl
  | stop =>
    cases hstep
    unfold Core.umacCoreStop
    split_ifs <;> exact h.after_view rfl rfl
  | allocExtra allocated =>
    cases hstep
    refine h.after (fun i hi => ?_) (h.dispatch.after rfl)
    rcases umacTimeoutqAllocExtra_cells allocated i with hview | hnone
    · exact hview
    · rw [hnone] at hi
      cases hi
  | register deltaMs id arg1 arg2 =>
    obtain ⟨⟨core, ok⟩, hregister, rfl⟩ := Option.map_eq_some_iff.mp hstep
    obtain ⟨-, rfl⟩ | ⟨-, hd, tmo, -, hview⟩ := umacCoreRegisterTimeout_cells hregister
    · exact h.after_view rfl rfl
    refine h.after (fun i hi => ?_) (h.dispatch.after hd)
    have hne : i ≠ tmo := by
      rintro rfl
      have hhandler := congrArg (fun v : CellView Handler Object => v.2.1) (congrFun hview i)
      rw [update_self] at hhandler
      exact absurd (hi.symm.trans hhandler) (by simp)
    rw [hview, update_of_ne hne]
  | cancel handler arg1 arg2 =>
    obtain ⟨⟨core, count⟩, hcancel, rfl⟩ := Option.map_eq_some_iff.mp hstep
    obtain ⟨⟨toq, count'⟩, hwalk, hcore⟩ := Option.map_eq_some_iff.mp hcancel
    obtain ⟨rfl, -⟩ := Prod.mk.inj hcore
    exact h.after_view (umacTimeoutqCancelProtected_view hwalk) rfl
  | cancelOne handler arg1 arg2 =>
    obtain ⟨⟨core, remaining⟩, hcancel, rfl⟩ := Option.map_eq_some_iff.mp hstep
    obtain ⟨⟨toq, tmo⟩, hwalk, hcore⟩ := Option.map_eq_some_iff.mp hcancel
    have hview := (umacTimeoutqRemoveOneProtected_view hwalk).1
    cases tmo with
    | none =>
      obtain ⟨rfl, -⟩ := Prod.mk.inj hcore
      exact h.after_view hview rfl
    | some tmo =>
      obtain ⟨rfl, -⟩ := Prod.mk.inj hcore
      refine h.after (fun i hi => ?_) (h.dispatch.after rfl)
      exact (umacTimeoutqFree_cells i hi).trans (congrFun hview i)
  | deplete deltaMs id arg1 arg2 =>
    obtain ⟨⟨core, ret⟩, hdeplete, rfl⟩ := Option.map_eq_some_iff.mp hstep
    obtain ⟨⟨toq, ret'⟩, hwalk, hcore⟩ := Option.map_eq_some_iff.mp hdeplete
    obtain ⟨rfl, -⟩ := Prod.mk.inj hcore
    refine h.after (fun i hi => ?_) (h.dispatch.after rfl)
    obtain hview | hother := umacTimeoutqDeplete_cells hwalk i
    · exact hview
    · exact absurd (hi.symm.trans hother) (by simp)
  | dispatch =>
    simp only [step] at hstep
    split at hstep
    · cases hstep
      exact ⟨h.recorded, h.retry, h.expiry, h.came, ⟨rfl, Nat.le_refl _, h.came⟩⟩
    · cases hstep
      exact h
  | dispatchStep =>
    obtain ⟨core, hdispatch, rfl⟩ := Option.map_eq_some_iff.mp hstep
    exact umacTimeoutqDispatchStep_ok h hdispatch

end Keeps

theorem init_retriesOk (boot : Nat) : RetriesOk (init boot) where
  recorded := by
    have hview : cellView (init boot).core.toq = cellView .zero := by
      show cellView (umacTimeoutqInit .zero) = _
      rw [umacTimeoutqInit_eq, foldl_free_view]
    intro i hi
    have hhandler := congrArg (fun v : CellView Handler Object => v.2.1) (congrFun hview i)
    rw [show ((init boot).core.toq.node i).handler = none from hhandler] at hi
    cases hi
  retry := by
    intro i r hr
    cases hr
  expiry := by
    intro i r hr
    cases hr
  came := by
    intro i r hr
    cases hr
  dispatch := dispatchOk_of_idle rfl

/-! ## When a retry is sent -/

/-- The step hands out a retry that is in cell `i`. -/
def SendsRetry (s : CoreSystem) (e : CoreEvent) (i : ToSlot) : Prop :=
  e = .dispatchStep ∧ (∃ ii timeMs, s.core.dispatch = .holding ii timeMs i)
    ∧ (s.core.toq.node i).handler = some .assocReassocReqRetry

/-- A retry is only sent for a response, and for this interval not before the access point's time:
so many time units, in milliseconds. -/
def HonoursInterval (interval : U32) (s : CoreSystem) (e : CoreEvent) : Prop :=
  ∀ i, SendsRetry s e i → ∃ r, s.refusal i = some r
    ∧ (r.interval = interval → r.atMs + interval.toNat * 1024 / 1000 ≤ s.clock)

theorem comebackMs_lt_iff (interval : U32) :
    (comebackMs interval).toNat < interval.toNat * 1024 / 1000
      ↔ 2 ^ 32 ≤ interval.toNat * 1024 := by
  rw [toNat_comebackMs]
  omega

theorem RetriesOk.sent {s : CoreSystem} (h : RetriesOk s) {e : CoreEvent} {i : ToSlot}
    (hsends : SendsRetry s e i) :
    ∃ r, s.refusal i = some r ∧ r.atMs + (comebackMs r.interval).toNat ≤ s.clock := by
  obtain ⟨-, ⟨ii, timeMs, hholding⟩, hretry⟩ := hsends
  obtain ⟨r, hr⟩ := h.recorded i hretry
  have hdispatch := h.dispatch
  unfold DispatchOk at hdispatch
  rw [hholding] at hdispatch
  exact ⟨r, hr, (hdispatch.2 r hr).trans hdispatch.1.past⟩

/-- The first timeout of an empty queue. -/
theorem umacCoreRegisterTimeout_first {core : UmacCoreData Handler Object} {tmo : ToSlot}
    (hshutting : core.evtloopShuttingDown = false) (htask : core.evtloopTask = true)
    (hhead : core.toq.head = none) (hfree : core.toq.free = some tmo) (now deltaMs : U32)
    (handler : Handler) (arg1 arg2 : Option Object) :
    ∃ core', Core.umacCoreRegisterTimeout core now deltaMs handler arg1 arg2 = some (core', true)
      ∧ core'.dispatch = core.dispatch ∧ core'.toq.head = some tmo
      ∧ (core'.toq.node tmo).timeoutAbsMs = now + deltaMs
      ∧ (core'.toq.node tmo).handler = some handler := by
  have habs : registerTimeoutAbsMs none now deltaMs = now + deltaMs := by
    unfold registerTimeoutAbsMs
    split_ifs <;> rfl
  unfold Core.umacCoreRegisterTimeout umacTimeoutqAlloc
  rw [hshutting, htask, hfree]
  dsimp only
  rw [umacTimeoutqPeekNextTimeout, head_setNext, hhead, Option.map_none, habs]
  unfold umacTimeoutqEnqueue umacTimeoutqEnqueueProtected
  rw [head_setNext]
  dsimp only [UmacCoreTimeoutq.set, UmacCoreTimeoutq.setNext]
  exact ⟨_, rfl, rfl, rfl, by simp, by simp⟩

/-- The run of one refused association, up to the step that sends the retry. -/
def refusedRun (interval : U32) : List CoreEvent :=
  [.start true, .refused (some ⟨dot11TieAssocComeback, interval⟩),
    .tick (comebackMs interval).toNat, .dispatch, .dispatchStep]

theorem refusedRun_sends (interval : U32) :
    ∃ t i, runFrom step (init 0) (refusedRun interval) = some t ∧ SendsRetry t .dispatchStep i
      ∧ t.refusal i = some ⟨0, interval⟩ ∧ t.clock = (comebackMs interval).toNat := by
  let started := (init 0).after (Core.umacCoreStart (init 0).core true)
  obtain ⟨core, hregister, hdispatch, hhead, habs, hhandler⟩ :=
    @umacCoreRegisterTimeout_first started.core (poolSlot 19) rfl rfl rfl rfl
      started.now (comebackMs interval) .assocReassocReqRetry (some .umacd) none
  let refused : CoreSystem :=
    { started with
      core := core
      refusal := fun i => if started.core.toq.free = some i
        then some ⟨started.clock, interval⟩ else started.refusal i }
  have hrefused : step started (.refused (some ⟨dot11TieAssocComeback, interval⟩))
      = some refused := by
    have hok : umacHandleAssocRefusedTemporarily started
        (some ⟨dot11TieAssocComeback, interval⟩) = some (refused, true) := by
      unfold umacHandleAssocRefusedTemporarily
      dsimp only
      rw [if_pos rfl, hregister]
      rfl
    simp only [step]
    rw [show started.core.dispatch = .idle from rfl, hok]
    rfl
  let waited : CoreSystem := { refused with clock := refused.clock + (comebackMs interval).toNat }
  let begun : CoreSystem :=
    { waited with
      core := { waited.core with dispatch := .loop 0 waited.now }
      dispatchedAtMs := waited.clock }
  have hbegun : step waited .dispatch = some begun := by
    simp only [step]
    rw [show waited.core.dispatch = .idle from hdispatch]
  have hclock : waited.clock = (comebackMs interval).toNat := Nat.zero_add _
  have hdue : mmosalTimeLt waited.now (core.toq.node (poolSlot 19)).timeoutAbsMs = false := by
    rw [habs, show waited.now = comebackMs interval by
      rw [CoreSystem.now, hclock, BitVec.ofNat_toNat, BitVec.setWidth_eq]]
    show mmosalTimeLt (comebackMs interval) (0#32 + comebackMs interval) = false
    rw [BitVec.zero_add]
    simp [mmosalTimeLt, serialLt]
  let taken : UmacCoreData Handler Object :=
    { begun.core with
      toq := { core.toq with head := (core.toq.node (poolSlot 19)).next }
      dispatch := .holding 0 waited.now (poolSlot 19) }
  have htaken : step begun .dispatchStep = some (begun.after taken) := by
    show (umacTimeoutqDispatchStep begun.core).map _ = _
    have hdequeue : umacTimeoutqDequeue begun.core.toq waited.now
        = ({ core.toq with head := (core.toq.node (poolSlot 19)).next }, some (poolSlot 19)) := by
      unfold umacTimeoutqDequeue
      rw [show begun.core.toq.head = some (poolSlot 19) from hhead]
      exact if_neg (by rw [hdue]; decide)
    have htake : umacTimeoutqDispatchStep begun.core = some taken := by
      unfold umacTimeoutqDispatchStep
      simp only [show begun.core.dispatch = .loop 0 waited.now from rfl]
      rw [if_pos (by decide), hdequeue]
    rw [htake]
    rfl
  refine ⟨begun.after taken, poolSlot 19, ?_, ⟨rfl, ⟨0, waited.now, rfl⟩, hhandler⟩, ?_, hclock⟩
  · unfold refusedRun
    rw [runFrom_cons (show step (init 0) (.start true) = some started from rfl),
      runFrom_cons hrefused,
      runFrom_cons (show step refused (.tick _) = some waited from rfl), runFrom_cons hbegun,
      runFrom_cons htaken]
    rfl
  have hfree : started.core.toq.free = some (poolSlot 19) := rfl
  have hrefusal : begun.refusal (poolSlot 19) = some ⟨0, interval⟩ := by
    show (if started.core.toq.free = some (poolSlot 19) then some (⟨0, interval⟩ : Refusal)
      else none) = some ⟨0, interval⟩
    exact if_pos hfree
  exact (if_pos hhandler).trans hrefusal

/-- **When the retry honours the access point**: for an interval, in every run of the event loop
every retry that is sent for it is sent no earlier than that many time units after the response, if
and only if the product with 1024 stays in its word of 32 bits. -/
theorem retry_in_time_iff (interval : U32) :
    (∀ boot es, Along step (HonoursInterval interval) (init boot) es)
      ↔ interval.toNat * 1024 < 2 ^ 32 := by
  constructor
  · intro h
    by_contra hbig
    obtain ⟨t, i, hrun, hsends, hr, hclock⟩ := refusedRun_sends interval
    obtain ⟨r, hr', hdue⟩ := (h 0 (refusedRun interval ++ [.dispatchStep])).last hrun i hsends
    obtain rfl := Option.some.inj (hr.symm.trans hr')
    have hlate := hdue rfl
    rw [hclock, Nat.zero_add] at hlate
    have hearly := (comebackMs_lt_iff interval).mpr (Nat.le_of_not_lt hbig)
    omega
  intro hsmall boot es
  have hok : Throughout step RetriesOk (init boot) es :=
    throughout_of_invariant step_retriesOk (init_retriesOk boot) es
  refine hok.along_of fun s e h i hsends => ?_
  obtain ⟨r, hr, hdue⟩ := h.sent hsends
  refine ⟨r, hr, ?_⟩
  rintro rfl
  rw [toNat_comebackMs, Nat.mod_eq_of_lt hsmall] at hdue
  exact hdue

/-- An interval of `2 ^ 22` time units, almost 72 minutes, is a delay of nothing: the retry is sent
in the millisecond in which the response came. -/
theorem retry_sent_at_once :
    ¬ Along step (HonoursInterval 0x400000) (init 0)
      (refusedRun 0x400000 ++ [.dispatchStep]) := by
  intro h
  obtain ⟨t, i, hrun, hsends, hr, hclock⟩ := refusedRun_sends 0x400000
  obtain ⟨r, hr', hdue⟩ := h.last hrun i hsends
  obtain rfl := Option.some.inj (hr.symm.trans hr')
  have hlate := hdue rfl
  rw [hclock] at hlate
  revert hlate
  decide

end MmIotEsp32.Umac.Connection.Comeback
