/-
  MmIotEsp32.Umac.Core.Timeout

  The timeout queue of the event loop (`umac/core/umac_timeout.c`): a singly
  linked list of pending timeouts ordered by expiry, and a free list, over the
  cells of `pool[]` and `extra_pool[]`.
-/
import Mathlib.Logic.Function.Basic
import MmIotEsp32.Common.Mmosal

namespace MmIotEsp32.Umac.Core

/-! ## Data model -/

abbrev umacTimeoutqMaxlen : Nat := 20
abbrev umacTimeoutqExtraLen : Nat := 64
def maxTimeoutsDispatchedAtOnce : Nat := 5

scoped instance neZeroExtraLen : NeZero umacTimeoutqExtraLen := ⟨by decide⟩

/-- A cell: those of `pool[]` first, then those of `extra_pool[]`. -/
abbrev ToSlot := Fin (umacTimeoutqMaxlen + umacTimeoutqExtraLen)

def poolSlot (ii : Fin umacTimeoutqMaxlen) : ToSlot := Fin.castAdd umacTimeoutqExtraLen ii
def extraSlot (ii : Fin umacTimeoutqExtraLen) : ToSlot := Fin.natAdd umacTimeoutqMaxlen ii

/-- More steps than a walk over distinct cells can take. -/
def walkFuel : Nat := umacTimeoutqMaxlen + umacTimeoutqExtraLen + 1

/-- `struct umac_core_timeout`, with handlers of type `H` and objects of type `A`
for the arguments to point to. -/
structure UmacCoreTimeout (H A : Type) where
  next : Option ToSlot
  timeoutAbsMs : U32
  handler : Option H
  arg1 : Option A
  arg2 : Option A

/-- `struct umac_core_timeoutq`; `extraPool` says whether `extra_pool` is allocated. -/
structure UmacCoreTimeoutq (H A : Type) where
  head : Option ToSlot
  free : Option ToSlot
  node : ToSlot → UmacCoreTimeout H A
  extraPool : Bool

/-- Where `umac_timeoutq_dispatch` stands: not running, about to look for the
`ii`-th timeout, or holding one that it took off the queue. -/
inductive DispatchPc (α : Type) where
  | idle
  | loop (ii : Nat) (timeMs : U32)
  | holding (ii : Nat) (timeMs : U32) (tmo : α)

/-- `struct umac_core_data`, as far as the timeout queue reads it.  `fired` lists
the handler calls made so far, with their arguments. -/
structure UmacCoreData (H A : Type) where
  toq : UmacCoreTimeoutq H A
  evtloopTask : Bool
  evtloopShuttingDown : Bool
  dispatch : DispatchPc ToSlot
  fired : List (H × Option A × Option A)

variable {H A : Type}

/-- A cell cleared by `memset`, or fresh from `mmosal_calloc`. -/
def UmacCoreTimeout.zero : UmacCoreTimeout H A where
  next := none
  timeoutAbsMs := 0
  handler := none
  arg1 := none
  arg2 := none

/-- The test every walk makes. -/
def UmacCoreTimeout.isFor [DecidableEq H] [DecidableEq A] (tmo : UmacCoreTimeout H A) (handler : H)
    (arg1 arg2 : Option A) : Bool :=
  tmo.handler = some handler && tmo.arg1 = arg1 && tmo.arg2 = arg2

namespace UmacCoreTimeoutq

def set (toq : UmacCoreTimeoutq H A) (i : ToSlot) (tmo : UmacCoreTimeout H A) :
    UmacCoreTimeoutq H A :=
  { toq with node := Function.update toq.node i tmo }

/-- The write `i->next = p`. -/
def setNext (toq : UmacCoreTimeoutq H A) (i : ToSlot) (p : Option ToSlot) :
    UmacCoreTimeoutq H A :=
  toq.set i { toq.node i with next := p }

/-- The queue of a zeroed `struct umac_core_data`. -/
def zero : UmacCoreTimeoutq H A where
  head := none
  free := none
  node := fun _ => .zero
  extraPool := false

end UmacCoreTimeoutq

/-! ## The two lists -/

def umacTimeoutqFreeProtected (toq : UmacCoreTimeoutq H A) (tmo : ToSlot) :
    UmacCoreTimeoutq H A :=
  { toq.setNext tmo toq.free with free := some tmo }

def umacTimeoutqFree (toq : UmacCoreTimeoutq H A) (tmo : ToSlot) : UmacCoreTimeoutq H A :=
  umacTimeoutqFreeProtected (toq.set tmo .zero) tmo

/-- `umac_timeoutq_init`: the loop body is that of `umac_timeoutq_free_protected`. -/
def umacTimeoutqInit (toq : UmacCoreTimeoutq H A) : UmacCoreTimeoutq H A :=
  (List.finRange umacTimeoutqMaxlen).foldl
    (fun toq ii => { toq.setNext (poolSlot ii) toq.free with free := some (poolSlot ii) }) toq

/-- `umac_timeoutq_alloc_extra`; `allocated` is whether `mmosal_calloc` succeeds. -/
def umacTimeoutqAllocExtra (toq : UmacCoreTimeoutq H A) (allocated : Bool) :
    UmacCoreTimeoutq H A × Bool :=
  if toq.extraPool then (toq, true)
  else if allocated then
    let toq := { toq with
      node := fun i => if i.val < umacTimeoutqMaxlen then toq.node i else .zero }
    let linked := ((List.finRange umacTimeoutqExtraLen).drop 1).foldl
      (fun st ii => (st.1.setNext (extraSlot ii) (some st.2), extraSlot ii)) (toq, extraSlot 0)
    ({ linked.1.setNext (extraSlot 0) linked.1.free with
        free := some linked.2, extraPool := true }, true)
  else (toq, false)

def umacTimeoutqAlloc (toq : UmacCoreTimeoutq H A) : UmacCoreTimeoutq H A × Option ToSlot :=
  match toq.free with
  | none => (toq, none)
  | some tmo => ({ toq.setNext tmo none with free := (toq.node tmo).next }, some tmo)

def umacTimeoutqDequeue (toq : UmacCoreTimeoutq H A) (timeMs : U32) :
    UmacCoreTimeoutq H A × Option ToSlot :=
  match toq.head with
  | none => (toq, none)
  | some tmo =>
    if mmosalTimeLt timeMs (toq.node tmo).timeoutAbsMs then (toq, none)
    else ({ toq with head := (toq.node tmo).next }, some tmo)

/-- The `while` loop of `umac_timeoutq_enqueue_protected`. -/
def umacTimeoutqEnqueueWalk : Nat → UmacCoreTimeoutq H A → ToSlot → ToSlot →
    Option (UmacCoreTimeoutq H A)
  | 0, _, _, _ => none
  | fuel + 1, toq, tmo, walk =>
    match (toq.node walk).next with
    | none => some (toq.setNext walk (some tmo))
    | some next =>
      if mmosalTimeLe (toq.node walk).timeoutAbsMs (toq.node tmo).timeoutAbsMs
          && mmosalTimeLt (toq.node tmo).timeoutAbsMs (toq.node next).timeoutAbsMs
      then some ((toq.setNext walk (some tmo)).setNext tmo (some next))
      else umacTimeoutqEnqueueWalk fuel toq tmo next

def umacTimeoutqEnqueueProtected (toq : UmacCoreTimeoutq H A) (tmo : ToSlot) :
    Option (UmacCoreTimeoutq H A) :=
  match toq.head with
  | none => some { toq with head := some tmo }
  | some head =>
    if mmosalTimeLt (toq.node tmo).timeoutAbsMs (toq.node head).timeoutAbsMs
    then some { toq.setNext tmo (some head) with head := some tmo }
    else umacTimeoutqEnqueueWalk walkFuel toq tmo head

def umacTimeoutqEnqueue (toq : UmacCoreTimeoutq H A) (tmo : ToSlot) :
    Option (UmacCoreTimeoutq H A) :=
  umacTimeoutqEnqueueProtected (toq.setNext tmo none) tmo

def umacTimeoutqPeekNextTimeout (toq : UmacCoreTimeoutq H A) : Option U32 :=
  toq.head.map fun tmo => (toq.node tmo).timeoutAbsMs

/-! ## Removal -/

section Removal

variable [DecidableEq H] [DecidableEq A]

/-- The `while` loop of `umac_timeoutq_remove_one_protected`, where `walk` is
`prev->next`. -/
def umacTimeoutqRemoveOneWalk (handler : H) (arg1 arg2 : Option A) :
    Nat → UmacCoreTimeoutq H A → ToSlot → Option (UmacCoreTimeoutq H A × Option ToSlot)
  | 0, _, _ => none
  | fuel + 1, toq, prev =>
    match (toq.node prev).next with
    | none => some (toq, none)
    | some walk =>
      if (toq.node walk).isFor handler arg1 arg2
      then some (toq.setNext prev (toq.node walk).next, some walk)
      else umacTimeoutqRemoveOneWalk handler arg1 arg2 fuel toq walk

def umacTimeoutqRemoveOneProtected (toq : UmacCoreTimeoutq H A) (handler : H)
    (arg1 arg2 : Option A) : Option (UmacCoreTimeoutq H A × Option ToSlot) :=
  match toq.head with
  | none => some (toq, none)
  | some walk =>
    if (toq.node walk).isFor handler arg1 arg2
    then some ({ toq with head := (toq.node walk).next }, some walk)
    else umacTimeoutqRemoveOneWalk handler arg1 arg2 walkFuel toq walk

/-- The first `while` loop of `umac_timeoutq_cancel_protected`. -/
def umacTimeoutqCancelHead (handler : H) (arg1 arg2 : Option A) :
    Nat → UmacCoreTimeoutq H A → Nat → Option (UmacCoreTimeoutq H A × Nat)
  | 0, _, _ => none
  | fuel + 1, toq, count =>
    match toq.head with
    | none => some (toq, count)
    | some walk =>
      if (toq.node walk).isFor handler arg1 arg2
      then umacTimeoutqCancelHead handler arg1 arg2 fuel
        (umacTimeoutqFreeProtected { toq with head := (toq.node walk).next } walk) (count + 1)
      else some (toq, count)

/-- The second `while` loop, where `walk` is `prev->next`. -/
def umacTimeoutqCancelWalk (handler : H) (arg1 arg2 : Option A) :
    Nat → UmacCoreTimeoutq H A → ToSlot → Nat → Option (UmacCoreTimeoutq H A × Nat)
  | 0, _, _, _ => none
  | fuel + 1, toq, prev, count =>
    match (toq.node prev).next with
    | none => some (toq, count)
    | some walk =>
      if (toq.node walk).isFor handler arg1 arg2
      then umacTimeoutqCancelWalk handler arg1 arg2 fuel
        (umacTimeoutqFreeProtected (toq.setNext prev (toq.node walk).next) walk) prev (count + 1)
      else umacTimeoutqCancelWalk handler arg1 arg2 fuel toq walk count

def umacTimeoutqCancelProtected (toq : UmacCoreTimeoutq H A) (handler : H)
    (arg1 arg2 : Option A) : Option (UmacCoreTimeoutq H A × Nat) :=
  (umacTimeoutqCancelHead handler arg1 arg2 walkFuel toq 0).bind fun (toq, count) =>
    match toq.head with
    | none => some (toq, count)
    | some prev => umacTimeoutqCancelWalk handler arg1 arg2 walkFuel toq prev count

/-- `umac_timeoutq_deplete_timeout_protected`, with the clock reading `now`. -/
def umacTimeoutqDepleteTimeoutProtected (toq : UmacCoreTimeoutq H A) (now deltaMs : U32)
    (handler : H) (arg1 arg2 : Option A) : Option (UmacCoreTimeoutq H A × Int) :=
  let newTimeout := now + deltaMs
  (umacTimeoutqRemoveOneProtected toq handler arg1 arg2).bind fun
    | (toq, none) => some (toq, -1)
    | (toq, some tmo) =>
      let earlier := mmosalTimeLt newTimeout (toq.node tmo).timeoutAbsMs
      let toq := if earlier then toq.set tmo { toq.node tmo with timeoutAbsMs := newTimeout }
        else toq
      (umacTimeoutqEnqueueProtected toq tmo).map fun toq => (toq, if earlier then 1 else 0)

end Removal

/-! ## The operations of the core -/

/-- The core of a zeroed `struct umac_core_data` after `umac_core_init`. -/
def umacCoreInit : UmacCoreData H A where
  toq := umacTimeoutqInit .zero
  evtloopTask := false
  evtloopShuttingDown := false
  dispatch := .idle
  fired := []

/-- `umac_core_start`; `created` is whether the semaphore and the task could be created. -/
def umacCoreStart (core : UmacCoreData H A) (created : Bool) : UmacCoreData H A :=
  if core.evtloopTask then core
  else { core with evtloopShuttingDown := false, evtloopTask := created }

def umacCoreStop (core : UmacCoreData H A) : UmacCoreData H A :=
  if core.evtloopShuttingDown then core
  else { core with evtloopShuttingDown := true, evtloopTask := false }

/-- The expiry `umac_core_register_timeout` gives a new timeout. -/
def registerTimeoutAbsMs (next : Option U32) (now deltaMs : U32) : U32 :=
  let abs := now + deltaMs
  if deltaMs = 0 then
    match next with
    | some next => if mmosalTimeLt next abs then next - 1 else abs
    | none => abs
  else abs

/-- `umac_core_register_timeout`, with the clock reading `now`. -/
def umacCoreRegisterTimeout (core : UmacCoreData H A) (now deltaMs : U32) (handler : H)
    (arg1 arg2 : Option A) : Option (UmacCoreData H A × Bool) :=
  if core.evtloopShuttingDown || !core.evtloopTask then some (core, false)
  else
    match umacTimeoutqAlloc core.toq with
    | (_, none) => some (core, false)
    | (toq, some tmo) =>
      let abs := registerTimeoutAbsMs (umacTimeoutqPeekNextTimeout toq) now deltaMs
      let toq := toq.set tmo
        { toq.node tmo with timeoutAbsMs := abs, handler := some handler, arg1 := arg1, arg2 := arg2 }
      (umacTimeoutqEnqueue toq tmo).map fun toq => ({ core with toq := toq }, true)

/-- One step of `umac_timeoutq_dispatch`: taking the next expired timeout off the
queue, or freeing the one taken and calling its handler. -/
def umacTimeoutqDispatchStep (core : UmacCoreData H A) : Option (UmacCoreData H A) :=
  match core.dispatch with
  | .idle => some core
  | .loop ii timeMs =>
    if ii < maxTimeoutsDispatchedAtOnce then
      match umacTimeoutqDequeue core.toq timeMs with
      | (_, none) => some { core with dispatch := .idle }
      | (toq, some tmo) => some { core with toq := toq, dispatch := .holding ii timeMs tmo }
    else some { core with dispatch := .idle }
  | .holding ii timeMs tmo =>
    -- `umac_timeoutq_dispatch_timeout`: the cell is freed first, `MMOSAL_ASSERT(handler != NULL)`
    match (core.toq.node tmo).handler with
    | none => none
    | some handler => some { core with
        toq := umacTimeoutqFree core.toq tmo
        dispatch := .loop (ii + 1) timeMs
        fired := core.fired ++ [(handler, (core.toq.node tmo).arg1, (core.toq.node tmo).arg2)] }

section Operations

variable [DecidableEq H] [DecidableEq A]

def umacCoreCancelTimeout (core : UmacCoreData H A) (handler : H) (arg1 arg2 : Option A) :
    Option (UmacCoreData H A × Nat) :=
  (umacTimeoutqCancelProtected core.toq handler arg1 arg2).map fun (toq, count) =>
    ({ core with toq := toq }, count)

/-- What `umac_core_cancel_timeout_one` stores through `remaining`. -/
def remainingMs (timeoutAbsMs now : U32) : U32 :=
  if mmosalTimeLt timeoutAbsMs now then 0 else timeoutAbsMs - now

/-- `umac_core_cancel_timeout_one`: `none` where it returns 0, `*remaining` where it
returns 1. -/
def umacCoreCancelTimeoutOne (core : UmacCoreData H A) (now : U32) (handler : H)
    (arg1 arg2 : Option A) : Option (UmacCoreData H A × Option U32) :=
  (umacTimeoutqRemoveOneProtected core.toq handler arg1 arg2).map fun
    | (toq, none) => ({ core with toq := toq }, none)
    | (toq, some tmo) =>
      ({ core with toq := umacTimeoutqFree toq tmo },
        some (remainingMs (toq.node tmo).timeoutAbsMs now))

def umacCoreDepleteTimeout (core : UmacCoreData H A) (now deltaMs : U32) (handler : H)
    (arg1 arg2 : Option A) : Option (UmacCoreData H A × Int) :=
  (umacTimeoutqDepleteTimeoutProtected core.toq now deltaMs handler arg1 arg2).map
    fun (toq, ret) => ({ core with toq := toq }, ret)

end Operations

end MmIotEsp32.Umac.Core
