/-
  MmIotEsp32.Driver.MorseDriver.PowerSave

  The bus timeout and the sleep of the chip (`driver/morse_driver/ps.c`).

  `bus_ps_timeout` starts as 0 and is only moved to what the clock comparison takes for later.
-/
import MmIotEsp32.Common.Mmosal
import MmIotEsp32.Lib.Transition

namespace MmIotEsp32.Driver.MorseDriver.PowerSave

open Lib

/-! ## The code -/

/-- `DEFAULT_BUS_TIMEOUT_MS`. -/
def defaultBusTimeoutMs : U32 := 5

/-- `MMWLAN_DEFAULT_DYNAMIC_PS_TIMEOUT_MS`. -/
def mmwlanDefaultDynamicPsTimeoutMs : U32 := 100

/-- `driverd->ps` at the moment `now`; `due` is the moment that `bus_ps_timeout` stands for, and
`ends` are the moments it was to be moved to. -/
structure PsState where
  now : Nat
  busPsTimeout : U32
  dynamicPsTimeoutMs : U32
  wakers : U32
  suspended : Bool
  due : Nat
  ends : List Nat

/-- What the clock reads. -/
def clock (moment : Nat) : U32 := BitVec.ofNat 32 moment

/-- `morse_ps_init`; the clock last read 0 at the moment `due`. -/
def morsePsInit (start : Nat) : PsState where
  now := start
  busPsTimeout := 0
  dynamicPsTimeoutMs := mmwlanDefaultDynamicPsTimeoutMs
  wakers := 1
  suspended := false
  due := start / 2 ^ 32 * 2 ^ 32
  ends := []

/-- `morse_ps_update_timeout`. -/
def morsePsUpdateTimeout (s : PsState) (timeoutMs : U32) : PsState :=
  let newTimeout := clock s.now + timeoutMs
  let s := { s with ends := (s.now + timeoutMs.toNat) :: s.ends }
  if mmosalTimeLt s.busPsTimeout newTimeout then
    { s with busPsTimeout := newTimeout, due := s.now + timeoutMs.toNat }
  else s

/-- `morse_ps_wakeup`, which takes `delay` milliseconds. -/
def morsePsWakeup (s : PsState) (delay : Nat) : PsState :=
  if !s.suspended then s
  else morsePsUpdateTimeout { s with now := s.now + delay, suspended := false } defaultBusTimeoutMs

/-- What `morse_ps_evaluate` asks of the rest of the driver. -/
structure EvalEnv where
  blockingEvtIsPending : Bool
  skbsPending : Bool
  dataTxAllowed : Bool
  busyIsAsserted : Bool
  delay : Nat

/-- `morse_ps_evaluate`. -/
def morsePsEvaluate (s : PsState) (env : EvalEnv) : PsState :=
  let needsWake := s.wakers ≠ 0 || env.blockingEvtIsPending || env.skbsPending
    || (env.dataTxAllowed && !mmosalTimeHasPassed s.busPsTimeout (clock s.now))
  if needsWake then morsePsWakeup s env.delay
  else if env.busyIsAsserted then
    morsePsUpdateTimeout { s with now := s.now + env.delay } defaultBusTimeoutMs
  else { s with suspended := true }

/-- What happens to the record.  `morse_ps_enable` and `morse_ps_disable` evaluate behind the change
of the wakers, their `_async` forms and a timeout that is due leave that to `morse_ps_work`: an
evaluation may come at any time. -/
inductive PsOp
  | wait (ms : Nat)
  /-- `morse_ps_network_activity` -/
  | networkActivity
  /-- `morse_ps_set_dynamic_ps_timeout`, where the chip accepts it -/
  | setDynamicPsTimeout (timeoutMs : U32)
  /-- `morse_ps_enable` and `morse_ps_enable_async`, of a waker -/
  | enable (wakerId : Nat)
  /-- `morse_ps_disable` and `morse_ps_disable_async` -/
  | disable (wakerId : Nat)
  /-- `morse_ps_work`, for the wake-up that the chip asks for -/
  | asyncWakeup (delay : Nat)
  | evaluate (env : EvalEnv)

def psStep (s : PsState) : PsOp → PsState
  | .wait ms => { s with now := s.now + ms }
  | .networkActivity => morsePsUpdateTimeout s s.dynamicPsTimeoutMs
  | .setDynamicPsTimeout timeoutMs => { s with dynamicPsTimeoutMs := timeoutMs }
  | .enable wakerId => { s with wakers := s.wakers &&& ~~~BitVec.twoPow 32 wakerId }
  | .disable wakerId => { s with wakers := s.wakers ||| BitVec.twoPow 32 wakerId }
  | .asyncWakeup delay => morsePsWakeup s delay
  | .evaluate env => morsePsEvaluate s env

/-! ## What is right, and when -/

/-- The chip is put to sleep when nothing needs it and every timeout has ended, and kept awake while
one has not. -/
def EvaluatesRight (s : PsState) (env : EvalEnv) : Prop :=
  (s.wakers = 0 → env.blockingEvtIsPending = false → env.skbsPending = false →
    env.busyIsAsserted = false → (∀ moment ∈ s.ends, moment ≤ s.now) →
    (morsePsEvaluate s env).suspended = true)
  ∧ (env.dataTxAllowed = true → (∃ moment ∈ s.ends, s.now < moment) →
    (morsePsEvaluate s env).suspended = false)

/-- The timeout is not moved back, activity moves it far enough, evaluations are right. -/
structure StepRight (s : PsState) (op : PsOp) : Prop where
  later : s.due ≤ (psStep s op).due ∧ (psStep s op).busPsTimeout = clock (psStep s op).due
  activity : op = .networkActivity → s.now + s.dynamicPsTimeoutMs.toNat ≤ (psStep s op).due
  evaluates : ∀ env, op = .evaluate env → EvaluatesRight s env

/-- What the step compares lies less than half the clock's range behind the timeout. -/
def Within (s : PsState) : PsOp → Prop
  | .networkActivity => s.dynamicPsTimeoutMs.toNat < 2 ^ 31
    ∧ s.now + s.dynamicPsTimeoutMs.toNat < s.due + 2 ^ 31
  | .asyncWakeup delay => s.suspended = true → s.now + delay + 5 < s.due + 2 ^ 31
  | .evaluate env => (env.dataTxAllowed = true → s.now < s.due + 2 ^ 31)
    ∧ (s.suspended = true ∨ env.busyIsAsserted = true → s.now + env.delay + 5 < s.due + 2 ^ 31)
  | _ => True

/-- The timeout is the latest end, or has passed. -/
structure PsInv (s : PsState) : Prop where
  timeout : s.busPsTimeout = clock s.due
  ends : ∀ moment ∈ s.ends, moment ≤ s.due
  due : s.due ≤ s.now ∨ s.due ∈ s.ends
  ahead : s.due < s.now + 2 ^ 31

/-! ## Every run -/

theorem mmosalTimeLt_clock {a b : Nat} (h : a < b + 2 ^ 31) (h' : b < a + 2 ^ 31) :
    mmosalTimeLt (clock a) (clock b) = true ↔ a < b := by
  unfold mmosalTimeLt clock
  rw [serialLt_iff, serialDist, BitVec.toNat_sub, BitVec.toNat_ofNat, BitVec.toNat_ofNat]
  omega

theorem mmosalTimeHasPassed_clock {a b : Nat} (h : a < b + 2 ^ 31) (h' : b < a + 2 ^ 31) :
    mmosalTimeHasPassed (clock a) (clock b) = true ↔ a ≤ b := by
  unfold mmosalTimeHasPassed mmosalTimeLe serialLe clock
  rw [decide_eq_true_iff, BitVec.toInt_eq_toNat_cond, BitVec.toNat_sub, BitVec.toNat_ofNat,
    BitVec.toNat_ofNat]
  split <;> omega

theorem updateTimeout_kept (s : PsState) (timeoutMs : U32) :
    (morsePsUpdateTimeout s timeoutMs).wakers = s.wakers
    ∧ (morsePsUpdateTimeout s timeoutMs).suspended = s.suspended := by
  unfold morsePsUpdateTimeout
  dsimp only
  split <;> exact ⟨rfl, rfl⟩

theorem wakeup_kept (s : PsState) (delay : Nat) :
    (morsePsWakeup s delay).wakers = s.wakers ∧ (morsePsWakeup s delay).suspended = false := by
  unfold morsePsWakeup
  cases hsuspended : s.suspended with
  | false => exact ⟨rfl, hsuspended⟩
  | true => exact updateTimeout_kept ..

theorem init_inv (start : Nat) : PsInv (morsePsInit start) where
  timeout := by
    apply BitVec.eq_of_toNat_eq
    simp [morsePsInit, clock]
  ends := fun _ hmem => absurd hmem List.not_mem_nil
  due := Or.inl (Nat.div_mul_le_self ..)
  ahead := Nat.lt_of_le_of_lt (Nat.div_mul_le_self ..) (Nat.lt_add_of_pos_right (by decide))

variable {s : PsState}

theorem PsInv.wait (h : PsInv s) (ms : Nat) : PsInv { s with now := s.now + ms } where
  timeout := h.timeout
  ends := h.ends
  due := h.due.imp_left fun hle => Nat.le_trans hle (Nat.le_add_right ..)
  ahead := Nat.lt_of_lt_of_le h.ahead (Nat.add_le_add_right (Nat.le_add_right ..) _)

theorem PsInv.updateTimeout (h : PsInv s) {timeoutMs : U32} (hshort : timeoutMs.toNat < 2 ^ 31)
    (hwithin : s.now + timeoutMs.toNat < s.due + 2 ^ 31) :
    PsInv (morsePsUpdateTimeout s timeoutMs)
    ∧ s.due ≤ (morsePsUpdateTimeout s timeoutMs).due
    ∧ s.now + timeoutMs.toNat ≤ (morsePsUpdateTimeout s timeoutMs).due := by
  have hahead := h.ahead
  have hnew : clock s.now + timeoutMs = clock (s.now + timeoutMs.toNat) := by
    unfold clock
    rw [BitVec.ofNat_add, BitVec.ofNat_toNat, BitVec.setWidth_eq]
  have hlater := mmosalTimeLt_clock (show s.due < s.now + timeoutMs.toNat + 2 ^ 31 by omega) hwithin
  unfold morsePsUpdateTimeout
  simp only [hnew, h.timeout]
  by_cases hlt : s.due < s.now + timeoutMs.toNat
  · rw [if_pos (hlater.mpr hlt)]
    refine ⟨⟨rfl, fun moment hmem => ?_, Or.inr (List.mem_cons_self ..), ?_⟩, hlt.le, le_rfl⟩
    · rcases List.mem_cons.mp hmem with rfl | hmem
      · exact le_rfl
      · exact Nat.le_trans (h.ends moment hmem) hlt.le
    · exact Nat.add_lt_add_left hshort _
  · -- the timeout is no earlier than the new end, and stays
    rw [if_neg fun htrue => hlt (hlater.mp htrue)]
    refine ⟨⟨rfl, fun moment hmem => ?_, ?_, hahead⟩, le_rfl, Nat.not_lt.mp hlt⟩
    · rcases List.mem_cons.mp hmem with rfl | hmem
      · exact Nat.not_lt.mp hlt
      · exact h.ends moment hmem
    · exact h.due.imp_right fun hmem => List.mem_cons_of_mem _ hmem

theorem PsInv.wakeup (h : PsInv s) {delay : Nat}
    (hwithin : s.suspended = true → s.now + delay + 5 < s.due + 2 ^ 31) :
    PsInv (morsePsWakeup s delay) ∧ s.due ≤ (morsePsWakeup s delay).due := by
  unfold morsePsWakeup
  cases hsuspended : s.suspended with
  | false => exact ⟨h, le_rfl⟩
  | true =>
    have hawake : PsInv { s with now := s.now + delay, suspended := false } :=
      { h.wait delay with }
    obtain ⟨hinv, hle, -⟩ := hawake.updateTimeout
      (show defaultBusTimeoutMs.toNat < 2 ^ 31 by decide) (hwithin hsuspended)
    exact ⟨hinv, hle⟩

theorem PsInv.hasPassed (h : PsInv s) (hwithin : s.now < s.due + 2 ^ 31) :
    mmosalTimeHasPassed s.busPsTimeout (clock s.now) = true
      ↔ ∀ moment ∈ s.ends, moment ≤ s.now := by
  rw [h.timeout, mmosalTimeHasPassed_clock h.ahead hwithin]
  constructor
  · exact fun hle moment hmem => Nat.le_trans (h.ends moment hmem) hle
  · exact fun hall => h.due.elim id fun hmem => hall _ hmem

theorem evaluate_suspended_iff (s : PsState) (env : EvalEnv) :
    (morsePsEvaluate s env).suspended = true ↔
      s.wakers = 0 ∧ env.blockingEvtIsPending = false ∧ env.skbsPending = false
      ∧ (env.dataTxAllowed = true → mmosalTimeHasPassed s.busPsTimeout (clock s.now) = true)
      ∧ (env.busyIsAsserted = true → s.suspended = true) := by
  unfold morsePsEvaluate
  dsimp only
  split
  · rename_i hneeds
    rw [(wakeup_kept s env.delay).2]
    refine ⟨fun h => absurd h Bool.false_ne_true, ?_⟩
    rintro ⟨hwakers, hblocking, hskbs, hpassed, -⟩
    simp only [hwakers, hblocking, hskbs, ne_eq, not_true_eq_false, decide_false, Bool.or_self,
      Bool.false_or, Bool.and_eq_true, Bool.not_eq_true'] at hneeds
    exact absurd ((hpassed hneeds.1).symm.trans hneeds.2) (by decide)
  rename_i hsleep
  simp only [Bool.or_eq_true, decide_eq_true_eq, Bool.and_eq_true, Bool.not_eq_true', not_or,
    not_and, ne_eq, not_not, Bool.not_eq_true, Bool.not_eq_false] at hsleep
  obtain ⟨⟨⟨hwakers, hblocking⟩, hskbs⟩, hpassed⟩ := hsleep
  split
  · rename_i hbusy
    rw [(updateTimeout_kept ..).2]
    exact ⟨fun h => ⟨hwakers, hblocking, hskbs, hpassed, fun _ => h⟩, fun h => h.2.2.2.2 hbusy⟩
  · rename_i hidle
    exact iff_of_true rfl ⟨hwakers, hblocking, hskbs, hpassed, fun h => absurd h hidle⟩

theorem PsInv.evaluatesRight (h : PsInv s) {env : EvalEnv}
    (hwithin : env.dataTxAllowed = true → s.now < s.due + 2 ^ 31) : EvaluatesRight s env := by
  constructor
  · intro hwakers hblocking hskbs hidle hall
    exact (evaluate_suspended_iff s env).mpr ⟨hwakers, hblocking, hskbs,
      fun hallowed => (h.hasPassed (hwithin hallowed)).mpr hall,
      fun hbusy => absurd (hidle.symm.trans hbusy) (by decide)⟩
  · rintro hallowed ⟨moment, hmem, hlt⟩
    rw [← Bool.not_eq_true, evaluate_suspended_iff]
    rintro ⟨-, -, -, hpassed, -⟩
    exact Nat.not_le_of_lt hlt ((h.hasPassed (hwithin hallowed)).mp (hpassed hallowed) moment hmem)

theorem PsInv.evaluate (h : PsInv s) {env : EvalEnv} (hwithin : s.suspended = true
      ∨ env.busyIsAsserted = true → s.now + env.delay + 5 < s.due + 2 ^ 31) :
    PsInv (morsePsEvaluate s env) ∧ s.due ≤ (morsePsEvaluate s env).due := by
  unfold morsePsEvaluate
  dsimp only
  split
  · exact h.wakeup fun hsuspended => hwithin (Or.inl hsuspended)
  · split
    · rename_i hbusy
      obtain ⟨hinv, hle, -⟩ := (h.wait env.delay).updateTimeout
        (show defaultBusTimeoutMs.toNat < 2 ^ 31 by decide) (hwithin (Or.inr hbusy))
      exact ⟨hinv, hle⟩
    · exact ⟨{ h with }, le_rfl⟩

theorem psStep_right (h : PsInv s) {op : PsOp} (hwithin : Within s op) :
    StepRight s op ∧ PsInv (psStep s op) := by
  cases op with
  | wait ms => exact ⟨⟨⟨le_rfl, h.timeout⟩, nofun, nofun⟩, h.wait ms⟩
  | networkActivity =>
    obtain ⟨hinv, hle, hfar⟩ := h.updateTimeout hwithin.1 hwithin.2
    exact ⟨⟨⟨hle, hinv.timeout⟩, fun _ => hfar, nofun⟩, hinv⟩
  | setDynamicPsTimeout timeoutMs | enable wakerId | disable wakerId =>
    exact ⟨⟨⟨le_rfl, h.timeout⟩, nofun, nofun⟩, h.timeout, h.ends, h.due, h.ahead⟩
  | asyncWakeup delay =>
    obtain ⟨hinv, hle⟩ := h.wakeup hwithin
    exact ⟨⟨⟨hle, hinv.timeout⟩, nofun, nofun⟩, hinv⟩
  | evaluate env =>
    obtain ⟨hinv, hle⟩ := h.evaluate hwithin.2
    refine ⟨⟨⟨hle, hinv.timeout⟩, nofun, fun env' heq => ?_⟩, hinv⟩
    cases heq
    exact h.evaluatesRight hwithin.1

/-- Whether the last request of a waker was to keep the chip awake. -/
def holdsAwake (wakerId : Nat) (held : Bool) : List PsOp → Bool
  | [] => held
  | .enable other :: ops => holdsAwake wakerId (held && !decide (wakerId = other)) ops
  | .disable other :: ops => holdsAwake wakerId (held || decide (wakerId = other)) ops
  | _ :: ops => holdsAwake wakerId held ops

theorem evaluate_wakers (s : PsState) (env : EvalEnv) :
    (morsePsEvaluate s env).wakers = s.wakers := by
  unfold morsePsEvaluate
  dsimp only
  split
  · exact (wakeup_kept s env.delay).1
  · split
    · exact (updateTimeout_kept ..).1
    · rfl

theorem wakers_getLsbD (ops : List PsOp) (s : PsState) {wakerId : Nat} (hid : wakerId < 32) :
    (ops.foldl psStep s).wakers.getLsbD wakerId
      = holdsAwake wakerId (s.wakers.getLsbD wakerId) ops := by
  induction ops generalizing s with
  | nil => rfl
  | cons op ops ih =>
    rw [List.foldl_cons, ih]
    cases op with
    | wait | setDynamicPsTimeout => rfl
    | networkActivity =>
      rw [psStep, (updateTimeout_kept ..).1]
      rfl
    | asyncWakeup delay =>
      rw [psStep, (wakeup_kept ..).1]
      rfl
    | evaluate env =>
      rw [psStep, evaluate_wakers]
      rfl
    | enable other =>
      show holdsAwake wakerId ((s.wakers &&& ~~~BitVec.twoPow 32 other).getLsbD wakerId) ops = _
      simp [holdsAwake, hid]
    | disable other =>
      show holdsAwake wakerId ((s.wakers ||| BitVec.twoPow 32 other).getLsbD wakerId) ops = _
      simp [holdsAwake, hid]

/-- When an evaluation leaves the chip asleep, after any run. -/
theorem sleeps_iff_released (start : Nat) (ops : List PsOp) (env : EvalEnv) :
    (morsePsEvaluate (ops.foldl psStep (morsePsInit start)) env).suspended = true ↔
      (∀ wakerId < 32, holdsAwake wakerId (wakerId == 0) ops = false)
      ∧ env.blockingEvtIsPending = false ∧ env.skbsPending = false
      ∧ (env.dataTxAllowed = true → mmosalTimeHasPassed
        (ops.foldl psStep (morsePsInit start)).busPsTimeout
        (clock (ops.foldl psStep (morsePsInit start)).now) = true)
      ∧ (env.busyIsAsserted = true → (ops.foldl psStep (morsePsInit start)).suspended = true) := by
  have hwakers : (ops.foldl psStep (morsePsInit start)).wakers = 0
      ↔ ∀ wakerId < 32, holdsAwake wakerId (wakerId == 0) ops = false := by
    have hinit : ∀ wakerId < 32, (1 : U32).getLsbD wakerId = (wakerId == 0) := by decide
    constructor
    · intro hzero wakerId hid
      rw [← hinit wakerId hid]
      refine (wakers_getLsbD ops (morsePsInit start) hid).symm.trans ?_
      rw [hzero]
      exact BitVec.getLsbD_zero
    · intro hall
      refine BitVec.eq_of_getLsbD_eq fun wakerId hid => ?_
      refine (wakers_getLsbD ops (morsePsInit start) hid).trans ?_
      show holdsAwake wakerId ((1 : U32).getLsbD wakerId) ops = _
      rw [hinit wakerId hid, hall wakerId hid]
      exact BitVec.getLsbD_zero.symm
  rw [evaluate_suspended_iff, hwakers]

end MmIotEsp32.Driver.MorseDriver.PowerSave
