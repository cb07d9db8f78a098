/-
  MmIotEsp32.Umac.SupplicantShim.Eloop

  Timeouts of the supplicant (`umac/supplicant_shim/eloop.c`).

  The remainder is reported as seconds and, in the field for the microseconds, all of its
  milliseconds times 1000.  The result of a registration is the truth value of the core.
-/
import MmIotEsp32.Umac.Core.TimeoutLists

namespace MmIotEsp32.Umac.SupplicantShim

open Lib Core

variable {H A : Type}

/-! ## The shim -/

/-- `struct os_reltime`, the words of its two fields. -/
structure OsReltime where
  sec : U32
  usec : U32

/-- `(INT32_MAX / 1000) - 1`. -/
def eloopMaxSecs : Nat := 2147483647 / 1000 - 1

/-- `eloop_register_timeout`, at the clock reading `now`. -/
def eloopRegisterTimeout (core : UmacCoreData H A) (now secs usecs : U32) (handler : H)
    (eloopData userData : Option A) : Option (UmacCoreData H A × Int) :=
  if secs.toNat > eloopMaxSecs then some (core, -1)
  else
    let deltaMs := secs * 1000 + usecs / 1000
    (umacCoreRegisterTimeout core now deltaMs handler eloopData userData).map
      fun (core, ok) => (core, if ok then 1 else 0)

section Cancel

variable [DecidableEq H] [DecidableEq A]

/-- `eloop_cancel_timeout_one`: the value returned, and what is stored through `remaining`. -/
def eloopCancelTimeoutOne (core : UmacCoreData H A) (now : U32) (handler : H)
    (eloopData userData : Option A) : Option (UmacCoreData H A × Int × Option OsReltime) :=
  (umacCoreCancelTimeoutOne core now handler eloopData userData).map fun
    | (core, none) => (core, 0, none)
    | (core, some remainingMs) => (core, 1, some ⟨remainingMs / 1000, remainingMs * 1000⟩)

end Cancel

/-! ## What the queue keeps of a cell -/

theorem umacTimeoutqEnqueueWalk_view {toq toq' : UmacCoreTimeoutq H A} {tmo walk : ToSlot}
    {fuel : Nat} (h : umacTimeoutqEnqueueWalk fuel toq tmo walk = some toq') :
    cellView toq' = cellView toq := by
  induction fuel generalizing walk with
  | zero => cases h
  | succ fuel ih =>
    rw [umacTimeoutqEnqueueWalk] at h
    split at h
    · cases h
      simp
    split at h
    · cases h
      simp
    · exact ih h

theorem umacTimeoutqEnqueue_view {toq toq' : UmacCoreTimeoutq H A} {tmo : ToSlot}
    (h : umacTimeoutqEnqueue toq tmo = some toq') : cellView toq' = cellView toq := by
  rw [← cellView_setNext toq tmo none]
  unfold umacTimeoutqEnqueue umacTimeoutqEnqueueProtected at h
  split at h
  · cases h
    rfl
  split at h
  · cases h
    exact cellView_setNext ..
  · exact umacTimeoutqEnqueueWalk_view h

theorem peek_setNext (toq : UmacCoreTimeoutq H A) (i : ToSlot) (p free : Option ToSlot) :
    umacTimeoutqPeekNextTimeout { toq.setNext i p with free := free }
      = umacTimeoutqPeekNextTimeout toq := by
  show toq.head.map (fun j => (cellView (toq.setNext i p) j).1) = _
  rw [cellView_setNext]
  rfl

section Returns

variable {toq : UmacCoreTimeoutq H A} {tmo walk : ToSlot} {used rest frees held : List ToSlot}

theorem umacTimeoutqEnqueueWalk_returns {fuel : Nat}
    (h : Chain (cellNext toq) (cellNext toq walk) rest) (hfuel : rest.length < fuel) :
    ∃ toq', umacTimeoutqEnqueueWalk fuel toq tmo walk = some toq' := by
  induction rest generalizing walk fuel with
  | nil =>
    obtain ⟨fuel, rfl⟩ := Nat.exists_eq_add_of_lt hfuel
    have hnext : (toq.node walk).next = none := h
    rw [umacTimeoutqEnqueueWalk, hnext]
    exact ⟨_, rfl⟩
  | cons z rest ih =>
    obtain ⟨fuel, rfl⟩ := Nat.exists_eq_add_of_lt hfuel
    have hnext : (toq.node walk).next = some z := h.1
    rw [umacTimeoutqEnqueueWalk, hnext]
    dsimp only
    split
    · exact ⟨_, rfl⟩
    · exact ih h.2 (by simp only [List.length_cons]; omega)

theorem umacTimeoutqEnqueue_returns (h : Linked toq used frees (tmo :: held)) :
    ∃ toq', umacTimeoutqEnqueue toq tmo = some toq' := by
  have h' : Linked (toq.setNext tmo none) used frees (tmo :: held) := h.set_held _
  unfold umacTimeoutqEnqueue umacTimeoutqEnqueueProtected
  have hlen := h.length_used_le
  have hchain := h'.chain
  cases used with
  | nil =>
    rw [show (toq.setNext tmo none).head = none from hchain]
    exact ⟨_, rfl⟩
  | cons i used =>
    rw [show (toq.setNext tmo none).head = some i from hchain.1]
    dsimp only
    split
    · exact ⟨_, rfl⟩
    · rw [List.length_cons] at hlen
      exact umacTimeoutqEnqueueWalk_returns hchain.2 (by omega)

end Returns

/-! ## A registration -/

theorem eloopRegisterTimeout_returns {core : UmacCoreData H A} {used frees held : List ToSlot}
    (h : Linked core.toq used frees held) (now secs usecs : U32) (handler : H)
    (eloopData userData : Option A) :
    ∃ core' ret, eloopRegisterTimeout core now secs usecs handler eloopData userData
      = some (core', ret) := by
  unfold eloopRegisterTimeout umacCoreRegisterTimeout umacTimeoutqAlloc
  split
  · exact ⟨_, _, rfl⟩
  split
  · exact ⟨_, _, rfl⟩
  cases frees with
  | nil =>
    rw [show core.toq.free = none from h.freeChain]
    exact ⟨_, _, rfl⟩
  | cons tmo frees =>
    rw [show core.toq.free = some tmo from h.freeChain.1]
    obtain ⟨toq', henqueue⟩ := umacTimeoutqEnqueue_returns (h.alloc.set_held _)
    dsimp only
    rw [henqueue]
    exact ⟨_, _, rfl⟩

/-- The registration is not refused: it is short enough, the loop runs and a cell is free. -/
structure Accepted (core : UmacCoreData H A) (secs : U32) (tmo : ToSlot) : Prop where
  short : secs.toNat ≤ eloopMaxSecs
  running : core.evtloopShuttingDown = false ∧ core.evtloopTask = true
  free : core.toq.free = some tmo

section Register

variable {core core' : UmacCoreData H A} {now secs usecs : U32} {handler : H}
  {eloopData userData : Option A} {ret : Int} {tmo : ToSlot}

theorem eloopRegisterTimeout_accepted (haccepted : Accepted core secs tmo)
    (h : eloopRegisterTimeout core now secs usecs handler eloopData userData = some (core', ret)) :
    ret = 1 ∧ cellView core'.toq tmo
      = (registerTimeoutAbsMs (umacTimeoutqPeekNextTimeout core.toq) now
            (secs * 1000 + usecs / 1000), some handler, eloopData, userData) := by
  obtain ⟨hshort, ⟨hstops, hruns⟩, hfree⟩ := haccepted
  unfold eloopRegisterTimeout umacCoreRegisterTimeout umacTimeoutqAlloc at h
  rw [if_neg (by omega), hstops, hruns, hfree] at h
  simp only [Bool.not_true, Bool.or_self, Bool.false_eq_true, if_false, Option.map_map,
    Option.map_eq_some_iff, Function.comp_apply, if_true, Prod.mk.injEq, peek_setNext] at h
  obtain ⟨toq', henqueue, rfl, hret⟩ := h
  refine ⟨hret.symm, ?_⟩
  show cellView toq' tmo = _
  rw [umacTimeoutqEnqueue_view henqueue]
  simp [cellView, UmacCoreTimeoutq.set]

theorem eloopRegisterTimeout_refused (hrefused : ∀ tmo, ¬ Accepted core secs tmo)
    (h : eloopRegisterTimeout core now secs usecs handler eloopData userData = some (core', ret)) :
    core' = core ∧ ret = if secs.toNat > eloopMaxSecs then -1 else 0 := by
  unfold eloopRegisterTimeout at h
  by_cases hlong : secs.toNat > eloopMaxSecs
  · rw [if_pos hlong] at h ⊢
    cases h
    exact ⟨rfl, rfl⟩
  rw [if_neg hlong] at h ⊢
  obtain ⟨⟨core'', ok⟩, hregister, heq⟩ := Option.map_eq_some_iff.mp h
  have hstays : core'' = core ∧ ok = false := by
    unfold umacCoreRegisterTimeout at hregister
    split at hregister
    · cases hregister
      exact ⟨rfl, rfl⟩
    next hruns =>
      unfold umacTimeoutqAlloc at hregister
      cases hfree : core.toq.free with
      | none =>
        rw [hfree] at hregister
        cases hregister
        exact ⟨rfl, rfl⟩
      | some tmo => exact absurd ⟨by omega, by simpa using hruns, hfree⟩ (hrefused tmo)
  obtain ⟨rfl, rfl⟩ := hstays
  cases heq
  exact ⟨rfl, rfl⟩

/-- The value that the contract of the supplicant asks for: 0 on success, -1 on failure. -/
def ReturnsRight (core : UmacCoreData H A) (secs : U32) (ret : Int) : Prop :=
  ((∃ tmo, Accepted core secs tmo) → ret = 0) ∧ ((∀ tmo, ¬ Accepted core secs tmo) → ret = -1)

theorem returnsRight_iff
    (h : eloopRegisterTimeout core now secs usecs handler eloopData userData = some (core', ret)) :
    ReturnsRight core secs ret ↔ secs.toNat > eloopMaxSecs := by
  by_cases haccepted : ∃ tmo, Accepted core secs tmo
  · obtain ⟨tmo, htmo⟩ := haccepted
    have hret := (eloopRegisterTimeout_accepted htmo h).1
    have hshort := htmo.short
    constructor
    · intro hright
      have hzero := hright.1 ⟨tmo, htmo⟩
      omega
    · intro hlong
      omega
  have hrefused : ∀ tmo, ¬ Accepted core secs tmo := not_exists.mp haccepted
  have hret := (eloopRegisterTimeout_refused hrefused h).2
  constructor
  · intro hright
    have hfails := hright.2 hrefused
    by_contra hshort
    rw [if_neg hshort] at hret
    omega
  · intro hlong
    rw [if_pos hlong] at hret
    exact ⟨fun h' => absurd h' haccepted, fun _ => hret⟩

/-- The milliseconds asked for. -/
def requestedMs (secs usecs : U32) : Nat := secs.toNat * 1000 + usecs.toNat / 1000

/-- The timeout in the cell has not expired before the requested time has passed. -/
def FiresInTime (core : UmacCoreData H A) (now secs usecs : U32) (tmo : ToSlot) : Prop :=
  ∀ x < requestedMs secs usecs,
    mmosalTimeLt (now + BitVec.ofNat 32 x) (cellView core.toq tmo).1 = true

theorem mmosalTimeLt_add_iff (now : U32) {x d : Nat} (hx : x < d) (hd : d < 2 ^ 32) :
    mmosalTimeLt (now + BitVec.ofNat 32 x) (now + BitVec.ofNat 32 d) = true ↔ d - x ≤ 2 ^ 31 := by
  have hdist : serialDist (now + BitVec.ofNat 32 x) (now + BitVec.ofNat 32 d) = d - x := by
    unfold serialDist
    rw [add_sub_add_left_eq_sub, BitVec.toNat_sub_of_le]
    · simp only [BitVec.toNat_ofNat]
      rw [Nat.mod_eq_of_lt hd, Nat.mod_eq_of_lt (by omega)]
    rw [BitVec.le_def]
    simp only [BitVec.toNat_ofNat]
    rw [Nat.mod_eq_of_lt hd, Nat.mod_eq_of_lt (by omega)]
    omega
  unfold mmosalTimeLt
  rw [serialLt_iff_dist_pos, hdist]
  omega

theorem deltaMs_eq (secs usecs : U32) :
    secs * 1000 + usecs / 1000 = BitVec.ofNat 32 (requestedMs secs usecs) := by
  have hthousand : (1000 : U32).toNat = 1000 := rfl
  apply BitVec.eq_of_toNat_eq
  simp only [BitVec.toNat_add, BitVec.toNat_mul, BitVec.toNat_udiv, BitVec.toNat_ofNat, requestedMs,
    hthousand]
  omega

theorem firesInTime_iff (haccepted : Accepted core secs tmo)
    (h : eloopRegisterTimeout core now secs usecs handler eloopData userData = some (core', ret)) :
    FiresInTime core' now secs usecs tmo ↔ requestedMs secs usecs ≤ 2 ^ 31 := by
  have hview := congrArg Prod.fst (eloopRegisterTimeout_accepted haccepted h).2
  have husecs := usecs.isLt
  have hshort := haccepted.short
  have hmax : eloopMaxSecs = 2147482 := rfl
  have hrange : requestedMs secs usecs < 2 ^ 32 := by
    unfold requestedMs
    omega
  unfold FiresInTime
  by_cases hzero : requestedMs secs usecs = 0
  · exact ⟨fun _ => by omega, fun _ x hx => by omega⟩
  have habs : (cellView core'.toq tmo).1 = now + BitVec.ofNat 32 (requestedMs secs usecs) := by
    rw [hview, deltaMs_eq]
    unfold registerTimeoutAbsMs
    refine if_neg fun heq => hzero ?_
    have htoNat := congrArg BitVec.toNat heq
    rw [BitVec.toNat_ofNat, Nat.mod_eq_of_lt hrange] at htoNat
    exact htoNat
  rw [habs]
  constructor
  · intro hall
    have hfirst := (mmosalTimeLt_add_iff now (by omega) hrange).mp (hall 0 (by omega))
    omega
  · intro hle x hx
    exact (mmosalTimeLt_add_iff now hx hrange).mpr (by omega)

end Register

/-! ## A remainder, registered again -/

section Remainder

variable [DecidableEq H] [DecidableEq A] {core : UmacCoreData H A} {now : U32} {handler : H}
  {eloopData userData : Option A} {toq : UmacCoreTimeoutq H A} {tmo : ToSlot}

/-- The remainder `r`, registered again at once, gives the same expiry: the loop runs, `r` is not
refused as too long, the field for the microseconds keeps the milliseconds of the last second,
and a remainder of zero finds no other timeout overdue. -/
structure Restorable (core : UmacCoreData H A) (now r : U32) : Prop where
  running : core.evtloopShuttingDown = false ∧ core.evtloopTask = true
  short : r.toNat < 2147483000
  millis : r * 1000 / 1000 = r % 1000
  due : r = 0 → ∀ next ∈ umacTimeoutqPeekNextTimeout core.toq, mmosalTimeLt next now = false

theorem remainder_deltaMs_iff (r : U32) :
    r / 1000 * 1000 + r * 1000 / 1000 = r ↔ r * 1000 / 1000 = r % 1000 := by
  have hsplit : r / 1000 * 1000 + r % 1000 = r := by
    apply BitVec.eq_of_toNat_eq
    have hr := r.isLt
    have hthousand : (1000 : U32).toNat = 1000 := rfl
    simp only [BitVec.toNat_add, BitVec.toNat_mul, BitVec.toNat_udiv, BitVec.toNat_umod, hthousand]
    omega
  constructor
  · intro h
    exact add_left_cancel (h.trans hsplit.symm)
  · intro h
    rw [h, hsplit]

theorem registerTimeoutAbsMs_eq_iff {next : Option U32} {d r : U32} (hr : r.toNat < 2147483000) :
    registerTimeoutAbsMs next now d = now + r
      ↔ d = r ∧ (r = 0 → ∀ x ∈ next, mmosalTimeLt x now = false) := by
  unfold registerTimeoutAbsMs
  by_cases hd : d = 0
  · subst hd
    rw [if_pos rfl, add_zero]
    have hself : now = now + r ↔ (0 : U32) = r :=
      ⟨fun h => (add_eq_left.mp h.symm).symm, fun h => by rw [← h, add_zero]⟩
    cases next with
    | none => simpa using hself
    | some x =>
      dsimp only
      by_cases hlate : mmosalTimeLt x now = true
      · -- an overdue timeout: the new one is put one millisecond before it
        have hne : x - 1 ≠ now + r := by
          intro hx
          have hdist : serialDist now x = r.toNat + 1 := by
            have hxr : x = now + (r + 1) := by
              rw [← BitVec.add_assoc, ← hx, BitVec.sub_add_cancel]
            unfold serialDist
            rw [hxr, add_sub_cancel_left, BitVec.toNat_add]
            exact Nat.mod_eq_of_lt (by simp; omega)
          have hfar := (serialLt_iff x now).mp hlate
          omega
        rw [if_pos hlate]
        constructor
        · intro h
          exact absurd h hne
        · rintro ⟨rfl, hdue⟩
          rw [hdue rfl x rfl] at hlate
          cases hlate
      · rw [if_neg hlate, hself]
        simp only [Bool.not_eq_true] at hlate
        simp [hlate]
  rw [if_neg hd, add_right_inj]
  constructor
  · rintro rfl
    exact ⟨rfl, fun h => absurd h hd⟩
  · exact fun h => h.1

theorem restored_iff {core₂ : UmacCoreData H A} {ret : Int}
    (hfor : cellIsFor handler eloopData userData core.toq tmo = true)
    (hpending : mmosalTimeLt (cellView core.toq tmo).1 now = false)
    (h : eloopRegisterTimeout { core with toq := umacTimeoutqFree toq tmo } now
        (remainingMs (cellView core.toq tmo).1 now / 1000)
        (remainingMs (cellView core.toq tmo).1 now * 1000) handler eloopData userData
      = some (core₂, ret)) :
    cellView core₂.toq tmo = cellView core.toq tmo
      ↔ Restorable { core with toq := umacTimeoutqFree toq tmo } now
          (remainingMs (cellView core.toq tmo).1 now) := by
  have hcell : cellView core.toq tmo
      = ((cellView core.toq tmo).1, some handler, eloopData, userData) := by
    simp only [cellIsFor, CellView.isFor, Bool.and_eq_true, decide_eq_true_eq] at hfor
    rw [← hfor.1.1, ← hfor.1.2, ← hfor.2]
  have hexpiry : (cellView core.toq tmo).1 = now + remainingMs (cellView core.toq tmo).1 now := by
    unfold remainingMs
    rw [hpending, if_neg Bool.false_ne_true, add_sub_cancel]
  generalize remainingMs (cellView core.toq tmo).1 now = r at *
  have hsecs : (r / 1000).toNat ≤ eloopMaxSecs ↔ r.toNat < 2147483000 := by
    have hmax : eloopMaxSecs = 2147482 := rfl
    have hthousand : (1000 : U32).toNat = 1000 := rfl
    rw [hmax, BitVec.toNat_udiv, hthousand]
    omega
  by_cases haccepted : Accepted { core with toq := umacTimeoutqFree toq tmo } (r / 1000) tmo
  · have hshort := hsecs.mp haccepted.short
    rw [(eloopRegisterTimeout_accepted haccepted h).2, hcell]
    simp only [Prod.mk.injEq, and_true]
    rw [hexpiry, registerTimeoutAbsMs_eq_iff hshort, remainder_deltaMs_iff]
    exact ⟨fun h' => ⟨haccepted.running, hshort, h'.1, h'.2⟩, fun h' => ⟨h'.millis, h'.due⟩⟩
  have hrefused : ∀ other,
      ¬ Accepted { core with toq := umacTimeoutqFree toq tmo } (r / 1000) other :=
    fun other h' => haccepted ⟨h'.short, h'.running, rfl⟩
  rw [(eloopRegisterTimeout_refused hrefused h).1, hcell]
  constructor
  · intro hsame
    have hzero : (cellView (umacTimeoutqFree toq tmo) tmo).2.1 = none := by
      simp [cellView, umacTimeoutqFree, umacTimeoutqFreeProtected, UmacCoreTimeoutq.setNext,
        UmacCoreTimeoutq.set, UmacCoreTimeout.zero]
    rw [hsame] at hzero
    cases hzero
  · intro h'
    exact absurd ⟨hsecs.mpr h'.short, h'.running, rfl⟩ haccepted

/-- Cancelling the first timeout that matches, `tmo`, and registering what `remaining` then says. -/
theorem cancel_and_register_iff {used frees held pre post : List ToSlot}
    (hlinked : Linked core.toq used frees held) (hsplit : used = pre ++ tmo :: post)
    (hpre : ∀ i ∈ pre, cellIsFor handler eloopData userData core.toq i = false)
    (hfor : cellIsFor handler eloopData userData core.toq tmo = true)
    (hpending : mmosalTimeLt (cellView core.toq tmo).1 now = false) :
    ∃ core₁ remaining core₂ ret,
      eloopCancelTimeoutOne core now handler eloopData userData = some (core₁, 1, some remaining)
      ∧ eloopRegisterTimeout core₁ now remaining.sec remaining.usec handler eloopData userData
        = some (core₂, ret)
      ∧ (cellView core₂.toq tmo = cellView core.toq tmo
        ↔ Restorable core₁ now (remainingMs (cellView core.toq tmo).1 now)) := by
  subst hsplit
  obtain ⟨toq, hremove, hview, -, hlinked'⟩ := umacTimeoutqRemoveOneProtected_some hlinked hpre hfor
  have hexpiry : (toq.node tmo).timeoutAbsMs = (cellView core.toq tmo).1 :=
    congrArg Prod.fst (congrFun hview.view tmo)
  have hfreed : Linked ({ core with toq := umacTimeoutqFree toq tmo } : UmacCoreData H A).toq
      (pre ++ post) (tmo :: frees) held := (hlinked'.set_held _).freeProtected
  obtain ⟨core₂, ret, hregister⟩ := eloopRegisterTimeout_returns hfreed now
    (remainingMs (cellView core.toq tmo).1 now / 1000)
    (remainingMs (cellView core.toq tmo).1 now * 1000) handler eloopData userData
  refine ⟨_, ⟨_, _⟩, core₂, ret, ?_, hregister, restored_iff hfor hpending hregister⟩
  unfold eloopCancelTimeoutOne umacCoreCancelTimeoutOne
  rw [hremove]
  dsimp only [Option.map_some]
  rw [hexpiry]

/-- The timeouts of the supplicant, on every linked queue: exactly the restorable remainders
restore the expiry; a registration is answered as prescribed exactly when it is too long; and one
that is accepted fires in time exactly when it asks for no more than half the clock's range. -/
theorem eloop_timeouts_exact (core : UmacCoreData H A) (used frees held : List ToSlot) (now : U32)
    (handler : H) (eloopData userData : Option A) :
    (∀ pre tmo post, Linked core.toq used frees held → used = pre ++ tmo :: post →
      (∀ i ∈ pre, cellIsFor handler eloopData userData core.toq i = false) →
      cellIsFor handler eloopData userData core.toq tmo = true →
      mmosalTimeLt (cellView core.toq tmo).1 now = false →
      ∃ core₁ remaining core₂ ret,
        eloopCancelTimeoutOne core now handler eloopData userData = some (core₁, 1, some remaining)
        ∧ eloopRegisterTimeout core₁ now remaining.sec remaining.usec handler eloopData userData
          = some (core₂, ret)
        ∧ (cellView core₂.toq tmo = cellView core.toq tmo
          ↔ Restorable core₁ now (remainingMs (cellView core.toq tmo).1 now)))
    ∧ ∀ secs usecs, Linked core.toq used frees held → ∃ core' ret,
      eloopRegisterTimeout core now secs usecs handler eloopData userData = some (core', ret)
      ∧ (ReturnsRight core secs ret ↔ secs.toNat > eloopMaxSecs)
      ∧ ∀ tmo, Accepted core secs tmo →
        (FiresInTime core' now secs usecs tmo ↔ requestedMs secs usecs ≤ 2 ^ 31) := by
  constructor
  · intro pre tmo post hlinked hsplit hpre hfor hpending
    exact cancel_and_register_iff hlinked hsplit hpre hfor hpending
  intro secs usecs hlinked
  obtain ⟨core', ret, h⟩ :=
    eloopRegisterTimeout_returns hlinked now secs usecs handler eloopData userData
  exact ⟨core', ret, h, returnsRight_iff h, fun tmo haccepted => firesInTime_iff haccepted h⟩

end Remainder

/-- A timeout of a second and a half at clock 0, cancelled and registered again with what remains,
moves from 1500 ms to 2500 ms; both registrations succeed and return 1. -/
theorem remainder_registered_late :
    let core : UmacCoreData Nat Unit := umacCoreStart umacCoreInit true
    let first := eloopRegisterTimeout core 0 1 500000 7 none none
    let second := first.bind fun (core, _) =>
      (eloopCancelTimeoutOne core 0 7 none none).bind fun (core, _, remaining) =>
        remaining.bind fun r => eloopRegisterTimeout core 0 r.sec r.usec 7 none none
    first.map (fun r => (r.2, umacTimeoutqPeekNextTimeout r.1.toq)) = some (1, some 1500)
    ∧ second.map (fun r => (r.2, umacTimeoutqPeekNextTimeout r.1.toq)) = some (1, some 2500) := by
  decide

end MmIotEsp32.Umac.SupplicantShim
