/-
  MmIotEsp32.Lib.EventFsm

  State machines that are driven by a table of transitions.

  A machine is part of a larger state `σ`, which its actions read and change.  An action may
  raise an event of the machine it belongs to: the event is kept, and handled when the one that
  is being handled is done.  `none` is a failed assertion of an action.
-/
import Mathlib.Data.List.Basic

namespace MmIotEsp32.Lib

/-! ## Machines -/

/-- Where a machine is, and the event it keeps for later. -/
structure FsmInstance (Q E : Type) where
  currentState : Q
  inEventHandler : Bool
  pendingEvent : Option E
  deriving Repr, DecidableEq

/-- A machine that handles no event. -/
def FsmInstance.at {E Q : Type} (q : Q) : FsmInstance Q E := ⟨q, false, none⟩

/-- A row of the table.  A row without a target state only calls its callback. -/
structure FsmRow (Q E σ : Type) where
  fromStates : List Q
  events : List E
  toState : Option Q
  callback : Option (E → σ → Option σ)

/-- A machine over `σ`: `exit` is called in the state that is left, with the event, and `entry` in
the state that is entered, with the one that was left. -/
structure Fsm (Q E σ : Type) where
  inst : σ → FsmInstance Q E
  withInst : FsmInstance Q E → σ → σ
  table : List (FsmRow Q E σ)
  exit : Q → E → σ → Option σ
  entry : Q → Q → σ → Option σ

section Engine

variable {Q E σ : Type} [DecidableEq Q] [DecidableEq E]

/-- The first row for the event in the state. -/
def Fsm.row? (m : Fsm Q E σ) (q : Q) (e : E) : Option (FsmRow Q E σ) :=
  m.table.find? fun row => row.fromStates.contains q && row.events.contains e

def Fsm.setState (m : Fsm Q E σ) (q : Q) (s : σ) : σ :=
  m.withInst { m.inst s with currentState := q } s

/-- One event.  An event without a row is only logged. -/
def Fsm.handleEventInternal (m : Fsm Q E σ) (s : σ) (e : E) : Option σ :=
  match m.row? (m.inst s).currentState e with
  | none => some s
  | some row =>
    (match row.callback with
      | none => some s
      | some callback => callback e s).bind fun s =>
    match row.toState with
    | none => some s
    | some q =>
      let prev := (m.inst s).currentState
      (m.exit prev e s).bind fun s => m.entry q prev (m.setState q s)

/-- The loop over the events that are kept, at most `fuel` of them. -/
def Fsm.handleEvents (m : Fsm Q E σ) : Nat → σ → E → Option σ
  | 0, _, _ => none
  | fuel + 1, s, e =>
    (m.handleEventInternal s e).bind fun s =>
      match (m.inst s).pendingEvent with
      | none => some s
      | some e => m.handleEvents fuel (m.withInst { m.inst s with pendingEvent := none } s) e

/-- An event that is raised while another one is handled: only one can be kept. -/
def FsmInstance.keep (i : FsmInstance Q E) (e : E) : Option (FsmInstance Q E) :=
  match i.pendingEvent with
  | some _ => none
  | none => some { i with pendingEvent := some e }

/-- An event of the machine. -/
def Fsm.handleEvent (m : Fsm Q E σ) (fuel : Nat) (s : σ) (e : E) : Option σ :=
  if (m.inst s).inEventHandler then
    ((m.inst s).keep e).map fun i => m.withInst i s
  else
    (m.handleEvents fuel (m.withInst { m.inst s with inEventHandler := true } s) e).map fun s =>
      m.withInst { m.inst s with inEventHandler := false } s

end Engine

/-! ## Rules -/

section Rules

variable {Q E σ : Type} [DecidableEq Q] [DecidableEq E] {m : Fsm Q E σ} {s s' : σ} {e : E}

/-- An event after which none is kept is the only one. -/
theorem Fsm.handleEvents_of_done (fuel : Nat) (h : m.handleEventInternal s e = some s')
    (hdone : (m.inst s').pendingEvent = none) : m.handleEvents (fuel + 1) s e = some s' := by
  show (m.handleEventInternal s e).bind _ = _
  rw [h, Option.bind_some, hdone]

/-- An event that raises another one. -/
theorem Fsm.handleEvents_of_kept (fuel : Nat) {e' : E}
    (h : m.handleEventInternal s e = some s') (hkept : (m.inst s').pendingEvent = some e') :
    m.handleEvents (fuel + 1) s e
      = m.handleEvents fuel (m.withInst { m.inst s' with pendingEvent := none } s') e' := by
  show (m.handleEventInternal s e).bind _ = _
  rw [h, Option.bind_some, hkept]

/-- An event without a row leaves a machine that handles no other and keeps none as it is. -/
theorem Fsm.handleEvent_of_no_row {p : Q} (fuel : Nat)
    (hlaw : ∀ i s, m.inst (m.withInst i s) = i)
    (hback : m.withInst (.at p) (m.withInst ⟨p, true, none⟩ s) = s) (hinst : m.inst s = .at p)
    (hrow : m.row? p e = none) : m.handleEvent (fuel + 1) s e = some s := by
  have hinternal : m.handleEventInternal (m.withInst ⟨p, true, none⟩ s) e
      = some (m.withInst ⟨p, true, none⟩ s) := by
    unfold Fsm.handleEventInternal
    rw [hlaw, hrow]
  unfold Fsm.handleEvent
  rw [hinst]
  show (m.handleEvents (fuel + 1) (m.withInst ⟨p, true, none⟩ s) e).map _ = _
  rw [Fsm.handleEvents_of_done fuel hinternal (by rw [hlaw]), Option.map_some, hlaw]
  exact congrArg some hback

/-- A row with a target state and no callback, when leaving and entering come back. -/
theorem Fsm.handleEventInternal_of_row {row : FsmRow Q E σ} {q : Q} {s₁ : σ}
    (hrow : m.row? (m.inst s).currentState e = some row) (hcallback : row.callback = none)
    (hto : row.toState = some q) (hexit : m.exit (m.inst s).currentState e s = some s₁)
    (hentry : m.entry q (m.inst s).currentState (m.setState q s₁) = some s') :
    m.handleEventInternal s e = some s' := by
  unfold Fsm.handleEventInternal
  rw [hrow]
  dsimp only
  rw [hcallback, hto]
  show (m.exit _ e s).bind _ = _
  rw [hexit]
  exact hentry

/-- The same for a whole event, of a machine that handles no other and keeps none. -/
theorem Fsm.handleEvent_of_row {row : FsmRow Q E σ} {p q : Q} {s₁ : σ} (fuel : Nat)
    (hlaw : ∀ i s, m.inst (m.withInst i s) = i) (hinst : m.inst s = .at p)
    (hrow : m.row? p e = some row) (hcallback : row.callback = none) (hto : row.toState = some q)
    (hexit : m.exit p e (m.withInst ⟨p, true, none⟩ s) = some s₁)
    (hentry : m.entry q p (m.setState q s₁) = some s')
    (hdone : (m.inst s').pendingEvent = none) :
    m.handleEvent (fuel + 1) s e
      = some (m.withInst { m.inst s' with inEventHandler := false } s') := by
  unfold Fsm.handleEvent
  rw [hinst]
  show (m.handleEvents (fuel + 1) (m.withInst ⟨p, true, none⟩ s) e).map _ = _
  have hp : (m.inst (m.withInst ⟨p, true, none⟩ s)).currentState = p := by rw [hlaw]
  rw [Fsm.handleEvents_of_done fuel (Fsm.handleEventInternal_of_row (by rw [hp]; exact hrow)
    hcallback hto (by rw [hp]; exact hexit) (by rw [hp]; exact hentry)) hdone]
  rfl

end Rules

end MmIotEsp32.Lib
