/-
  MmIotEsp32.Umac.Core.TimeoutSpec

  What the timeout queue is for: an abstract stable priority queue, without
  cells or links.
-/
import MmIotEsp32.Lib.StableQueue
import MmIotEsp32.Lib.Transition
import MmIotEsp32.Umac.Core.Timeout

namespace MmIotEsp32.Umac.Core

open Lib

/-! ## The abstract queue -/

/-- A registered timeout; `stamp` grows with every insertion. -/
structure PendingTimeout (H A : Type) where
  expiry : U32
  handler : H
  arg1 : Option A
  arg2 : Option A
  stamp : Nat

/-- The abstract state: the pending timeouts in firing order, the next stamp, the
number of timeouts that fit, and the event loop's own state. -/
structure TimerSpec (H A : Type) where
  pending : List (PendingTimeout H A)
  stamp : Nat
  extraPool : Bool
  evtloopTask : Bool
  evtloopShuttingDown : Bool
  dispatch : DispatchPc (PendingTimeout H A)
  fired : List (H × Option A × Option A)

/-- An operation on the timeout queue, with the clock readings it makes. -/
inductive ToqOp (H A : Type) where
  | start (created : Bool)
  | stop
  | allocExtra (allocated : Bool)
  | register (now deltaMs : U32) (handler : H) (arg1 arg2 : Option A)
  | cancel (handler : H) (arg1 arg2 : Option A)
  | cancelOne (now : U32) (handler : H) (arg1 arg2 : Option A)
  | deplete (now deltaMs : U32) (handler : H) (arg1 arg2 : Option A)
  | dispatch (now : U32)
  | dispatchStep

/-- What an operation returns. -/
inductive ToqReturn where
  | void
  | flag (b : Bool)
  | count (n : Nat)
  | remaining (r : Option U32)
  | code (c : Int)
  deriving DecidableEq

variable {H A : Type}

def DispatchPc.held {α : Type} : DispatchPc α → List α
  | .holding _ _ tmo => [tmo]
  | _ => []

namespace TimerSpec

def init : TimerSpec H A where
  pending := []
  stamp := 0
  extraPool := false
  evtloopTask := false
  evtloopShuttingDown := false
  dispatch := .idle
  fired := []

/-- How many timeouts fit. -/
def capacity (q : TimerSpec H A) : Nat :=
  umacTimeoutqMaxlen + if q.extraPool then umacTimeoutqExtraLen else 0

/-- A registration is accepted while the event loop runs and a timeout still fits. -/
def accepts (q : TimerSpec H A) : Bool :=
  !q.evtloopShuttingDown && q.evtloopTask
    && q.pending.length + q.dispatch.held.length < q.capacity

def expiries (q : TimerSpec H A) : List U32 := q.pending.map (·.expiry)

end TimerSpec

/-- `a` expires strictly before `b`. -/
def dueBefore (a b : PendingTimeout H A) : Prop := mmosalTimeLt a.expiry b.expiry = true

instance : DecidableRel (dueBefore (H := H) (A := A)) := fun _ _ => instDecidableEqBool _ _

/-- The firing order: by expiry, then by insertion. -/
def FiresBefore (a b : PendingTimeout H A) : Prop :=
  dueBefore a b ∨ (a.expiry = b.expiry ∧ a.stamp < b.stamp)

/-- The timeouts are listed in firing order, with stamps already given out. -/
structure Ordered (pending : List (PendingTimeout H A)) (stamp : Nat) : Prop where
  sorted : pending.Pairwise FiresBefore
  stamped : ∀ e ∈ pending, e.stamp < stamp

/-- All of these times lie within less than half the clock's range. -/
def Window (ts : List U32) : Prop := ∃ b : U32, ∀ t ∈ ts, 2 * serialDist b t < 2 ^ 32

/-! ## The operations -/

/-- Stable insertion by expiry, under the next stamp. -/
def TimerSpec.insert (q : TimerSpec H A) (expiry : U32) (handler : H) (arg1 arg2 : Option A) :
    TimerSpec H A :=
  { q with
    pending := q.pending.orderedInsert dueBefore ⟨expiry, handler, arg1, arg2, q.stamp⟩
    stamp := q.stamp + 1 }

def specRegister (q : TimerSpec H A) (now deltaMs : U32) (handler : H) (arg1 arg2 : Option A) :
    TimerSpec H A × Bool :=
  if q.accepts then
    (q.insert (registerTimeoutAbsMs q.expiries.head? now deltaMs) handler arg1 arg2, true)
  else (q, false)

/-- The head fires if its expiry has come; the one taken is then handed to its handler. -/
def specDispatchStep (q : TimerSpec H A) : TimerSpec H A :=
  match q.dispatch with
  | .idle => q
  | .loop ii timeMs =>
    match q.pending with
    | e :: rest =>
      if ii < maxTimeoutsDispatchedAtOnce ∧ mmosalTimeLt timeMs e.expiry = false
      then { q with pending := rest, dispatch := .holding ii timeMs e }
      else { q with dispatch := .idle }
    | [] => { q with dispatch := .idle }
  | .holding ii timeMs e =>
    { q with dispatch := .loop (ii + 1) timeMs, fired := q.fired ++ [(e.handler, e.arg1, e.arg2)] }

section Matching

variable [DecidableEq H] [DecidableEq A]

def PendingTimeout.isFor (handler : H) (arg1 arg2 : Option A) (e : PendingTimeout H A) : Bool :=
  decide (e.handler = handler) && decide (e.arg1 = arg1) && decide (e.arg2 = arg2)

/-- The timeouts from the first one for this handler on. -/
def TimerSpec.fromFirst (q : TimerSpec H A) (handler : H) (arg1 arg2 : Option A) :
    List (PendingTimeout H A) :=
  q.pending.dropWhile fun e => !e.isFor handler arg1 arg2

/-- The timeouts before the first one for this handler. -/
def TimerSpec.beforeFirst (q : TimerSpec H A) (handler : H) (arg1 arg2 : Option A) :
    List (PendingTimeout H A) :=
  q.pending.takeWhile fun e => !e.isFor handler arg1 arg2

/-- Every timeout for this handler goes, the others stay as they are. -/
def specCancel (q : TimerSpec H A) (handler : H) (arg1 arg2 : Option A) : TimerSpec H A × Nat :=
  ({ q with pending := q.pending.filter fun e => !e.isFor handler arg1 arg2 },
    q.pending.countP (PendingTimeout.isFor handler arg1 arg2))

/-- The first timeout for this handler goes. -/
def specCancelOne (q : TimerSpec H A) (now : U32) (handler : H) (arg1 arg2 : Option A) :
    TimerSpec H A × Option U32 :=
  match q.fromFirst handler arg1 arg2 with
  | [] => (q, none)
  | e :: rest =>
    ({ q with pending := q.beforeFirst handler arg1 arg2 ++ rest }, some (remainingMs e.expiry now))

/-- The first timeout for this handler is inserted anew if the new expiry is earlier;
otherwise nothing changes. -/
def specDeplete (q : TimerSpec H A) (now deltaMs : U32) (handler : H) (arg1 arg2 : Option A) :
    TimerSpec H A × Int :=
  match q.fromFirst handler arg1 arg2 with
  | [] => (q, -1)
  | e :: rest =>
    if mmosalTimeLt (now + deltaMs) e.expiry then
      (({ q with pending := q.beforeFirst handler arg1 arg2 ++ rest }).insert
        (now + deltaMs) e.handler e.arg1 e.arg2, 1)
    else (q, 0)

/-- The abstract machine. -/
def specStep (q : TimerSpec H A) : ToqOp H A → TimerSpec H A × ToqReturn
  | .start created =>
    (if q.evtloopTask then q else { q with evtloopShuttingDown := false, evtloopTask := created },
      .void)
  | .stop =>
    (if q.evtloopShuttingDown then q
      else { q with evtloopShuttingDown := true, evtloopTask := false }, .void)
  | .allocExtra allocated =>
    ({ q with extraPool := q.extraPool || allocated }, .flag (q.extraPool || allocated))
  | .register now deltaMs handler arg1 arg2 =>
    ((specRegister q now deltaMs handler arg1 arg2).1,
      .flag (specRegister q now deltaMs handler arg1 arg2).2)
  | .cancel handler arg1 arg2 =>
    ((specCancel q handler arg1 arg2).1, .count (specCancel q handler arg1 arg2).2)
  | .cancelOne now handler arg1 arg2 =>
    ((specCancelOne q now handler arg1 arg2).1, .remaining (specCancelOne q now handler arg1 arg2).2)
  | .deplete now deltaMs handler arg1 arg2 =>
    ((specDeplete q now deltaMs handler arg1 arg2).1,
      .code (specDeplete q now deltaMs handler arg1 arg2).2)
  | .dispatch now =>
    (match q.dispatch with
      | .idle => { q with dispatch := .loop 0 now }
      | _ => q, .void)
  | .dispatchStep => (specDispatchStep q, .void)

/-- The pending expiries, a new one included, stay within half the clock's range. -/
def WindowOk (q : TimerSpec H A) : ToqOp H A → Prop
  | .register now deltaMs _ _ _ =>
    q.accepts = true → Window (registerTimeoutAbsMs q.expiries.head? now deltaMs :: q.expiries)
  | .deplete now deltaMs handler arg1 arg2 =>
    ∀ e ∈ (q.fromFirst handler arg1 arg2).head?,
      mmosalTimeLt (now + deltaMs) e.expiry = true → Window ((now + deltaMs) :: q.expiries)
  | _ => True

/-- A depletion that finds its timeout and does not make it earlier finds no other
timeout of the same expiry right behind it. -/
def DepleteOk (q : TimerSpec H A) : ToqOp H A → Prop
  | .deplete now deltaMs handler arg1 arg2 =>
    ∀ e rest, q.fromFirst handler arg1 arg2 = e :: rest →
      mmosalTimeLt (now + deltaMs) e.expiry = false →
        ∀ f ∈ rest.head?, f.expiry ≠ e.expiry
  | _ => True

end Matching

/-! ## The order is kept -/

theorem mmosalTimeLt_iff_dist {b t u : U32} (ht : 2 * serialDist b t < 2 ^ 32)
    (hu : 2 * serialDist b u < 2 ^ 32) :
    mmosalTimeLt t u = true ↔ serialDist b t < serialDist b u := serialLt_iff_dist ht hu

theorem Window.mono {ts us : List U32} (h : Window us) (hsub : ∀ t ∈ ts, t ∈ us) : Window ts := by
  obtain ⟨b, hb⟩ := h
  exact ⟨b, fun t ht => hb t (hsub t ht)⟩

theorem FiresBefore.not_dueBefore {e f : PendingTimeout H A} {ts : List U32} (hw : Window ts)
    (he : e.expiry ∈ ts) (hf : f.expiry ∈ ts) (h : FiresBefore e f) : ¬ dueBefore f e := by
  obtain ⟨b, hb⟩ := hw
  unfold dueBefore
  rw [mmosalTimeLt_iff_dist (hb _ hf) (hb _ he)]
  rcases h with h | ⟨h, _⟩
  · have := (mmosalTimeLt_iff_dist (hb _ he) (hb _ hf)).mp h
    omega
  · rw [h]
    omega

theorem Ordered.insert {pending : List (PendingTimeout H A)} {e : PendingTimeout H A}
    (h : Ordered pending e.stamp) (hw : Window (e.expiry :: pending.map (·.expiry))) :
    Ordered (pending.orderedInsert dueBefore e) (e.stamp + 1) where
  sorted := by
    obtain ⟨b, hb⟩ := hw
    have hbe : 2 * serialDist b e.expiry < 2 ^ 32 := hb _ (List.mem_cons_self ..)
    have hbp : ∀ f ∈ pending, 2 * serialDist b f.expiry < 2 ^ 32 := fun f hf =>
      hb _ (List.mem_cons_of_mem _ (List.mem_map_of_mem hf))
    refine pairwise_orderedInsert h.sorted (fun f _ hdue => Or.inl hdue) ?_ ?_
    · -- what is not due strictly after the new timeout stays in front of it
      intro f hf hndue
      unfold dueBefore at hndue
      rw [mmosalTimeLt_iff_dist hbe (hbp f hf)] at hndue
      rcases Nat.lt_or_eq_of_le (Nat.le_of_not_lt hndue) with hlt | heq
      · exact Or.inl ((mmosalTimeLt_iff_dist (hbp f hf) hbe).mpr hlt)
      · exact Or.inr ⟨eq_of_serialDist_eq heq, h.stamped f hf⟩
    intro f hf g hg hfg hdue
    unfold dueBefore at hdue ⊢
    rw [mmosalTimeLt_iff_dist hbe (hbp f hf)] at hdue
    rw [mmosalTimeLt_iff_dist hbe (hbp g hg)]
    have hpair : Window [f.expiry, g.expiry] := ⟨b, by simpa using ⟨hbp f hf, hbp g hg⟩⟩
    have hnot := FiresBefore.not_dueBefore hpair (by simp) (by simp) hfg
    unfold dueBefore at hnot
    rw [mmosalTimeLt_iff_dist (hbp g hg) (hbp f hf)] at hnot
    omega
  stamped := by
    intro f hf
    rcases (List.mem_orderedInsert _).mp hf with rfl | hf'
    · exact Nat.lt_succ_self _
    · exact Nat.lt_succ_of_lt (h.stamped f hf')

theorem Ordered.sublist {pending pending' : List (PendingTimeout H A)} {stamp : Nat}
    (h : Ordered pending stamp) (hsub : pending'.Sublist pending) : Ordered pending' stamp where
  sorted := h.sorted.sublist hsub
  stamped := fun e he => h.stamped e (hsub.subset he)

/-- What the abstract machine keeps: the firing order, within one window. -/
structure TimerSpec.Ok (q : TimerSpec H A) : Prop where
  ordered : Ordered q.pending q.stamp
  window : Window q.expiries

theorem TimerSpec.init_ok : (init : TimerSpec H A).Ok where
  ordered := ⟨List.Pairwise.nil, by simp [init]⟩
  window := ⟨0, by simp [init, expiries]⟩

theorem TimerSpec.Ok.of_sublist {q q' : TimerSpec H A} (h : q.Ok)
    (hsub : q'.pending.Sublist q.pending) (hstamp : q'.stamp = q.stamp) : q'.Ok where
  ordered := hstamp ▸ h.ordered.sublist hsub
  window := h.window.mono fun _ ht => (hsub.map _).subset ht

theorem TimerSpec.Ok.insert {q : TimerSpec H A} (h : q.Ok) {expiry : U32} {handler : H}
    {arg1 arg2 : Option A} (hw : Window (expiry :: q.expiries)) :
    (q.insert expiry handler arg1 arg2).Ok where
  ordered := h.ordered.insert (e := ⟨expiry, handler, arg1, arg2, q.stamp⟩) hw
  window := by
    refine hw.mono fun t ht => ?_
    obtain ⟨e, he, rfl⟩ := List.mem_map.mp ht
    rcases (List.mem_orderedInsert _).mp he with rfl | he'
    · exact List.mem_cons_self ..
    · exact List.mem_cons_of_mem _ (List.mem_map_of_mem he')

section Matching

variable [DecidableEq H] [DecidableEq A] {q : TimerSpec H A}

theorem TimerSpec.beforeFirst_append {handler : H} {arg1 arg2 : Option A}
    {e : PendingTimeout H A} {rest : List (PendingTimeout H A)}
    (h : q.fromFirst handler arg1 arg2 = e :: rest) :
    q.pending = q.beforeFirst handler arg1 arg2 ++ e :: rest ∧ e.isFor handler arg1 arg2 = true :=
  takeWhile_append_dropWhile_cons _ h

theorem TimerSpec.removeFirst_sublist {handler : H} {arg1 arg2 : Option A}
    {e : PendingTimeout H A} {rest : List (PendingTimeout H A)}
    (h : q.fromFirst handler arg1 arg2 = e :: rest) :
    (q.beforeFirst handler arg1 arg2 ++ rest).Sublist q.pending := by
  rw [(q.beforeFirst_append h).1]
  exact List.Sublist.append_left (List.sublist_cons_self e rest) _

theorem specStep_ok {op : ToqOp H A} (h : q.Ok) (hw : WindowOk q op) : (specStep q op).1.Ok := by
  cases op with
  | start created =>
    show (if q.evtloopTask then q else _ : TimerSpec H A).Ok
    split
    · exact h
    · exact h.of_sublist (List.Sublist.refl _) rfl
  | stop =>
    show (if q.evtloopShuttingDown then q else _ : TimerSpec H A).Ok
    split
    · exact h
    · exact h.of_sublist (List.Sublist.refl _) rfl
  | allocExtra allocated => exact h.of_sublist (List.Sublist.refl _) rfl
  | register now deltaMs handler arg1 arg2 =>
    show (specRegister q now deltaMs handler arg1 arg2).1.Ok
    unfold specRegister
    split
    · rename_i hacc
      exact h.insert (hw hacc)
    · exact h
  | cancel handler arg1 arg2 => exact h.of_sublist List.filter_sublist rfl
  | cancelOne now handler arg1 arg2 =>
    show (specCancelOne q now handler arg1 arg2).1.Ok
    unfold specCancelOne
    split
    · exact h
    · rename_i e rest heq
      exact h.of_sublist (q.removeFirst_sublist heq) rfl
  | deplete now deltaMs handler arg1 arg2 =>
    show (specDeplete q now deltaMs handler arg1 arg2).1.Ok
    unfold specDeplete
    split
    · exact h
    rename_i e rest heq
    split
    · rename_i hearly
      have hsub := q.removeFirst_sublist heq
      have hrest : TimerSpec.Ok { q with pending := q.beforeFirst handler arg1 arg2 ++ rest } :=
        h.of_sublist hsub rfl
      refine hrest.insert ?_
      refine (hw e (by rw [heq]; rfl) hearly).mono fun t ht => ?_
      exact List.Sublist.subset ((hsub.map _).cons_cons _) ht
    · exact h
  | dispatch now =>
    show (match q.dispatch with
      | .idle => { q with dispatch := .loop 0 now }
      | _ => q : TimerSpec H A).Ok
    split
    · exact h.of_sublist (List.Sublist.refl _) rfl
    · exact h
  | dispatchStep =>
    show (specDispatchStep q).Ok
    unfold specDispatchStep
    split
    · exact h
    · split
      · rename_i heq
        split
        · exact h.of_sublist (by rw [heq]; exact List.sublist_cons_self ..) rfl
        · exact h.of_sublist (List.Sublist.refl _) rfl
      · exact h.of_sublist (List.Sublist.refl _) rfl
    · exact h.of_sublist (List.Sublist.refl _) rfl

end Matching

end MmIotEsp32.Umac.Core
