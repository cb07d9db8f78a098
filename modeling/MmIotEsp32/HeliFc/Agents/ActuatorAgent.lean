/-
  MmIotEsp32.HeliFc.Agents.ActuatorAgent

  The loop that drives the servos and the motors (`agents/actuator_agent.c`).
-/
import MmIotEsp32.HeliFc.Control.HeliMixer

namespace MmIotEsp32.HeliFc

open Lib

/-! ## The task -/

def servoSafeUs : ℚ := 1500

def escSafeUs : ℚ := 1000

def actuatorTimeoutUs : Nat := 100000

/-- `RPC_MSG_SERVO_OUTPUT`. -/
structure ServoOutputMsg where
  timestampMs : U32
  servoUs : Fin 5 → U16

/-- The statics and the locals of `actuator_task`. -/
structure Actuator (F : Type*) where
  actSub : Option Nat
  statSub : Option Nat
  actTopic : OrbTopic (ActuatorControls F)
  statTopic : OrbTopic VehicleStatus
  mixerConfig : HeliMixerConfig F
  act : ActuatorControls F
  status : VehicleStatus
  prevArmed : Bool
  armStartUs : U64
  cycle : U32
  /-- The compare values of the five channels. -/
  pwm : Fin 5 → U32
  /-- What the mixer gave in the last cycle, if it ran. -/
  mixOut : Option (HeliMixerOutput F)
  /-- What the last cycle sent to core 1. -/
  telem : Option ServoOutputMsg
  /-- The controls that were received, newest first. -/
  received : List (ActuatorControls F)
  /-- The states of the vehicle that were received, newest first. -/
  statuses : List VehicleStatus

/-- What happens: a publication of the controls or of the status, or a cycle of the task. -/
inductive ActuatorEvent (F : Type*) where
  | publishControls (controls : ActuatorControls F)
  | publishStatus (status : VehicleStatus)
  | cycle (nowUs : U64)

section

variable {F D : Type*} [CFloat F] [CFloat D] [CFormats F D]

/-- The compare value that `set_pwm_us` sets; a pulse in that range is the same as an `int32_t`
and as a `uint32_t`. -/
def pwmCompare (pulseUs : F) : U32 := CFloat.toI32 (constrainF pulseUs (lit 800) (lit 2200))

variable (F) in
/-- Servos at their centre, motors at their minimum. -/
def safePwm : Fin 5 → U32 := fun channel =>
  pwmCompare (if channel.val < 3 then lit servoSafeUs else lit escSafeUs : F)

/-- The pulses of the mixer, channel by channel. -/
def HeliMixerOutput.pulse (out : HeliMixerOutput F) : Fin 5 → F :=
  ![out.servo1Us, out.servo2Us, out.servo3Us, out.tailEscUs, out.mainEscUs]

/-- `actuator_task` up to its loop: `init_mcpwm`, the subscriptions and the locals. -/
def actuatorStart (params : Params F) (heap : OrbHeap) (actTopic : OrbTopicMeta (ActuatorControls F))
    (statTopic : OrbTopicMeta VehicleStatus) : Actuator F where
  actSub := (orbSubscribe heap actTopic).1
  statSub := (orbSubscribe heap statTopic).1
  actTopic := (orbSubscribe heap actTopic).2.toOrbTopic
  statTopic := (orbSubscribe heap statTopic).2.toOrbTopic
  mixerConfig := heliMixerInit params
  act := .zero
  status := .zero
  prevArmed := false
  armStartUs := 0
  cycle := 0
  pwm := safePwm F
  mixOut := none
  telem := none
  received := []
  statuses := []

/-- The two copies of a cycle. -/
def Actuator.copied (s : Actuator F) : Actuator F :=
  let act := s.actSub.bind (orbCopy s.actTopic)
  let status := s.statSub.bind (orbCopy s.statTopic)
  { s with
    act := (act.map Prod.fst).getD s.act
    actTopic := (act.map Prod.snd).getD s.actTopic
    received := (act.map Prod.fst).toList ++ s.received
    status := (status.map Prod.fst).getD s.status
    statTopic := (status.map Prod.snd).getD s.statTopic
    statuses := (status.map Prod.fst).toList ++ s.statuses }

def Actuator.armed (s : Actuator F) : Bool := decide (s.status.armState = .armed)

/-- The spoolup timer starts when the vehicle is armed. -/
def Actuator.armTransition (s : Actuator F) (nowUs : U64) : Actuator F :=
  { s with
    armStartUs := if s.armed && !s.prevArmed then nowUs else s.armStartUs
    prevArmed := s.armed }

/-- The progress of the spoolup. -/
def Actuator.spoolup (s : Actuator F) (nowUs : U64) : F :=
  if s.armed && CFloat.lt (lit 0) s.mixerConfig.spoolupTimeS then
    let elapsedS : F := CFloat.ofInt (nowUs - s.armStartUs).toNat * lit 1e-6
    constrainF (elapsedS / s.mixerConfig.spoolupTimeS) (lit 0) (lit 1)
  else lit 1

def actTimeout (nowUs timestampUs : U64) : Bool :=
  -- no stamp, no time-out: also while no controls have come
  decide (0 < timestampUs.toNat) && decide (actuatorTimeoutUs < (nowUs - timestampUs).toNat)

variable (D) in
/-- Armed, and the controls are not too old: the mixer runs, and every 50th cycle reports. -/
def Actuator.mix (asinf : F → F) (s : Actuator F) (nowUs : U64) : Actuator F :=
  let out := heliMixerUpdate D asinf s.mixerConfig s.act (s.spoolup nowUs)
  { s with
    mixOut := some out
    pwm := fun channel => pwmCompare (out.pulse channel)
    telem :=
      if s.cycle.toNat % 50 = 0 then
        some ⟨(nowUs / 1000).setWidth 32,
          fun channel => (CFloat.toI32 (out.pulse channel)).setWidth 16⟩
      else none }

/-- Disarmed, or the controls are too old. -/
def Actuator.safe (s : Actuator F) : Actuator F :=
  { s with mixOut := none, pwm := safePwm F, telem := none }

variable (D) in
/-- A pass of the loop of `actuator_task`. -/
def actuatorCycle (asinf : F → F) (s : Actuator F) (nowUs : U64) : Actuator F :=
  let s := s.copied.armTransition nowUs
  -- the copies may have brought newer controls, and the watchdog looks at those
  let s := if s.armed && !actTimeout nowUs s.act.timestampUs then s.mix D asinf nowUs else s.safe
  { s with cycle := s.cycle + 1 }

variable (D) in
def actuatorStep (asinf : F → F) (s : Actuator F) : ActuatorEvent F → Option (Actuator F)
  | .publishControls controls => some { s with actTopic := s.actTopic.published controls }
  | .publishStatus status => some { s with statTopic := s.statTopic.published status }
  | .cycle nowUs => some (actuatorCycle D asinf s nowUs)

/-! ## What is safe -/

/-- The stamp is not ahead of the clock, and not older than the time-out. -/
def StampedWithin (nowUs timestampUs : U64) : Prop :=
  timestampUs.toNat ≤ nowUs.toNat ∧ nowUs.toNat - timestampUs.toNat ≤ actuatorTimeoutUs

instance (nowUs timestampUs : U64) : Decidable (StampedWithin nowUs timestampUs) :=
  inferInstanceAs (Decidable (_ ∧ _))

/-- The last state of the vehicle that came is armed, and controls came that are stamped within
the time-out. -/
structure Live (s : Actuator F) (nowUs : U64) : Prop where
  armed : ∃ status ∈ s.statuses.head?, status.armState = .armed
  controls : ∃ controls ∈ s.received, StampedWithin nowUs controls.timestampUs

/-- What a cycle leaves: the pulses of the mixer, under live control, or safe ones. -/
def OutputsSafe (s : Actuator F) (nowUs : U64) : Prop :=
  match s.mixOut with
  | some out => Live s nowUs ∧ s.pwm = fun channel => pwmCompare (out.pulse channel)
  | none => s.pwm = safePwm F

/-- The stamp is one that the watchdog can judge: not zero, and not so far ahead of the clock
that the difference wraps below the time-out. -/
def Judgeable (nowUs timestampUs : U64) : Prop :=
  0 < timestampUs.toNat
    ∧ (nowUs.toNat < timestampUs.toNat → actuatorTimeoutUs < (nowUs - timestampUs).toNat)

/-- When the vehicle is armed, the watchdog can judge the last controls, or controls stamped
within the time-out have come. -/
def ControlsJudgeable (s : Actuator F) : ActuatorEvent F → Prop
  | .cycle nowUs =>
    s.copied.status.armState = .armed →
      Judgeable nowUs s.copied.act.timestampUs
        ∨ ∃ controls ∈ s.copied.received, StampedWithin nowUs controls.timestampUs
  | _ => True

/-- The outputs of a cycle are safe. -/
def CycleSafe (D : Type*) [CFloat D] [CFormats F D] (asinf : F → F) (s : Actuator F) :
    ActuatorEvent F → Prop
  | .cycle nowUs => OutputsSafe (actuatorCycle D asinf s nowUs) nowUs
  | _ => True

/-! ## What the task holds -/

/-- The controls are those that came last, or zero before any came; so is the status. -/
structure Copied (s : Actuator F) : Prop where
  act : s.act = .zero ∨ s.act ∈ s.received
  status : s.status = s.statuses.head?.getD .zero

theorem Copied.start (params : Params F) (heap : OrbHeap)
    (actTopic : OrbTopicMeta (ActuatorControls F)) (statTopic : OrbTopicMeta VehicleStatus) :
    Copied (actuatorStart params heap actTopic statTopic) := ⟨Or.inl rfl, rfl⟩

theorem Copied.copied {s : Actuator F} (h : Copied s) : Copied s.copied := by
  constructor
  · unfold Actuator.copied
    dsimp only
    cases s.actSub.bind (orbCopy s.actTopic) with
    | none => exact h.act
    | some copy => exact Or.inr (List.mem_cons_self ..)
  unfold Actuator.copied
  dsimp only
  cases s.statSub.bind (orbCopy s.statTopic) with
  | none => exact h.status
  | some copy => rfl

theorem actuatorCycle_holds (asinf : F → F) (s : Actuator F) (nowUs : U64) :
    (actuatorCycle D asinf s nowUs).act = s.copied.act
      ∧ (actuatorCycle D asinf s nowUs).received = s.copied.received
      ∧ (actuatorCycle D asinf s nowUs).status = s.copied.status
      ∧ (actuatorCycle D asinf s nowUs).statuses = s.copied.statuses := by
  unfold actuatorCycle
  dsimp only
  split <;> exact ⟨rfl, rfl, rfl, rfl⟩

theorem Copied.step {asinf : F → F} {s s' : Actuator F} {e : ActuatorEvent F} (h : Copied s)
    (hs' : actuatorStep D asinf s e = some s') : Copied s' := by
  cases e with
  | publishControls controls | publishStatus status =>
    cases hs'
    exact ⟨h.act, h.status⟩
  | cycle nowUs =>
    cases hs'
    obtain ⟨hact, hreceived, hstatus, hstatuses⟩ := actuatorCycle_holds (D := D) asinf s nowUs
    have hcopied := h.copied
    constructor
    · rw [hact, hreceived]
      exact hcopied.act
    · rw [hstatus, hstatuses]
      exact hcopied.status

theorem Copied.armed {s : Actuator F} (h : Copied s) (harmed : s.status.armState = .armed) :
    ∃ status ∈ s.statuses.head?, status.armState = .armed := by
  have hstatus := h.status
  -- before the first status came the vehicle counts as disarmed
  cases hhead : s.statuses.head? with
  | none =>
    rw [hstatus, hhead] at harmed
    cases harmed
  | some status =>
    rw [hstatus, hhead] at harmed
    exact ⟨status, rfl, harmed⟩

theorem Copied.act_received {s : Actuator F} (h : Copied s) (hstamp : 0 < s.act.timestampUs.toNat) :
    s.act ∈ s.received := by
  -- the zero controls, those before any came, have no stamp
  rcases h.act with hzero | hmem
  · rw [hzero] at hstamp
    cases hstamp
  · exact hmem

/-! ## A cycle, and a run -/

theorem stampedWithin_of_judgeable {nowUs timestampUs : U64} (hjudge : Judgeable nowUs timestampUs)
    (htimeout : actTimeout nowUs timestampUs = false) : StampedWithin nowUs timestampUs := by
  obtain ⟨hpos, hahead⟩ := hjudge
  -- the watchdog did not fire, so the unsigned difference is small
  have hnot : ¬ actuatorTimeoutUs < (nowUs - timestampUs).toNat := by
    intro hlt
    rw [actTimeout, decide_eq_true hpos, decide_eq_true hlt] at htimeout
    cases htimeout
  -- ahead of the clock a small difference is a wrap, which can be judged
  have hle : timestampUs.toNat ≤ nowUs.toNat := by
    apply Nat.not_lt.mp
    intro hlt
    exact hnot (hahead hlt)
  rw [BitVec.toNat_sub_of_le hle] at hnot
  exact ⟨hle, Nat.not_lt.mp hnot⟩

theorem judgeable_of_timeout {nowUs timestampUs : U64} (h : actTimeout nowUs timestampUs = true) :
    Judgeable nowUs timestampUs := by
  simp only [actTimeout, Bool.and_eq_true, decide_eq_true_eq] at h
  exact ⟨h.1, fun _ => h.2⟩

theorem cycle_safe_iff (asinf : F → F) {s : Actuator F} (h : Copied s) (nowUs : U64) :
    OutputsSafe (actuatorCycle D asinf s nowUs) nowUs ↔ ControlsJudgeable s (.cycle nowUs) := by
  have hcopied := h.copied
  unfold actuatorCycle ControlsJudgeable
  dsimp only
  by_cases harmed : s.copied.status.armState = .armed
  · have htrue : (s.copied.armTransition nowUs).armed = true := decide_eq_true harmed
    cases htimeout : actTimeout nowUs s.copied.act.timestampUs with
    | true =>
      -- the controls are too old: the outputs are safe, and the watchdog has judged
      rw [if_neg (by
        rw [htrue]
        show ¬ (true && !actTimeout nowUs s.copied.act.timestampUs) = true
        rw [htimeout]
        decide)]
      exact iff_of_true rfl fun _ => Or.inl (judgeable_of_timeout htimeout)
    | false =>
      rw [if_pos (by
        rw [htrue]
        show (true && !actTimeout nowUs s.copied.act.timestampUs) = true
        rw [htimeout]
        rfl)]
      -- the mixer runs, so its controls have to be live
      constructor
      · intro hsafe _
        exact Or.inr hsafe.1.controls
      intro hjudge
      refine ⟨⟨hcopied.armed harmed, ?_⟩, rfl⟩
      -- the controls held came, unless they are the zero ones, which cannot be judged
      rcases hjudge harmed with hjudge | hcame
      · exact ⟨_, hcopied.act_received hjudge.1, stampedWithin_of_judgeable hjudge htimeout⟩
      · exact hcame
  -- disarmed: the pulses are safe whatever came
  · have hfalse : (s.copied.armTransition nowUs).armed = false := decide_eq_false harmed
    rw [if_neg (by rw [hfalse, Bool.false_and]; decide)]
    exact iff_of_true rfl fun hyes => absurd hyes harmed

/-- In every run of the loop, over any publications and with or without subscriptions, the
outputs of every cycle are safe exactly when in every cycle that finds the vehicle armed the
watchdog can judge the last controls, or controls stamped within the time-out have come. -/
theorem outputs_safe_iff (asinf : F → F) (params : Params F) (heap : OrbHeap)
    (actTopic : OrbTopicMeta (ActuatorControls F)) (statTopic : OrbTopicMeta VehicleStatus)
    (es : List (ActuatorEvent F)) :
    Along (actuatorStep D asinf) (CycleSafe D asinf) (actuatorStart params heap actTopic statTopic) es
      ↔ Along (actuatorStep D asinf) ControlsJudgeable
          (actuatorStart params heap actTopic statTopic) es := by
  -- what the task holds came from what it received, in every state of the run
  have hcopied : Throughout (actuatorStep D asinf) Copied
      (actuatorStart params heap actTopic statTopic) es := by
    apply throughout_of_invariant
    · intro s e s' h hs'
      exact h.step hs'
    · exact Copied.start params heap actTopic statTopic
  refine Along.congr (hcopied.along_of ?_)
  intro s e h
  cases e with
  | publishControls controls | publishStatus status => exact Iff.rfl
  | cycle nowUs => exact cycle_safe_iff asinf h nowUs

end

/-- The safe values, in microseconds. -/
example : List.ofFn (safePwm ℚ) = [1500, 1500, 1500, 1000, 1000] := by decide +kernel

/-- Topics that are advertised. -/
def advertisedTopic (α : Type) : OrbTopicMeta α := ⟨⟨true, none, []⟩, 32⟩

/-- A vehicle that is armed two seconds after the start, before any controls were published. -/
theorem mixer_without_controls :
    ¬ ∀ es : List (ActuatorEvent ℚ),
      Along (actuatorStep ℚ id) (CycleSafe ℚ id)
        (actuatorStart (paramInit fun _ => none) ⟨true, true, true, true⟩ (advertisedTopic _)
          (advertisedTopic _)) es := by
  intro h
  have hrun := h ([.publishStatus { VehicleStatus.zero with armState := .armed }]
    ++ [.cycle 2000000])
  obtain ⟨s, hs, hnone⟩ : ∃ s : Actuator ℚ, runFrom (actuatorStep ℚ id)
      (actuatorStart (paramInit fun _ => none) ⟨true, true, true, true⟩ (advertisedTopic _)
        (advertisedTopic _)) [.publishStatus { VehicleStatus.zero with armState := .armed }] = some s
      ∧ (actuatorCycle ℚ id s 2000000).mixOut.isSome = true
        ∧ (actuatorCycle ℚ id s 2000000).received = [] := by
    refine ⟨_, rfl, ?_, ?_⟩
    · decide +kernel
    · rfl
  have hsafe := hrun.last hs
  obtain ⟨out, hout⟩ := Option.isSome_iff_exists.mp hnone.1
  change OutputsSafe (actuatorCycle ℚ id s 2000000) 2000000 at hsafe
  rw [OutputsSafe, hout] at hsafe
  -- the mixer ran, and nothing came
  obtain ⟨controls, hmem, -⟩ := hsafe.1.controls
  rw [hnone.2] at hmem
  cases hmem

end MmIotEsp32.HeliFc
