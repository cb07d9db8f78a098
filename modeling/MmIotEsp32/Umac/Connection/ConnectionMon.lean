/-
  MmIotEsp32.Umac.Connection.ConnectionMon

  The connection monitor (`umac/connection/umac_connection.c`, `connection_mon_fsm.def`), and when
  it checks the access point.
-/
import Mathlib.Tactic.Abel
import MmIotEsp32.Common.Mmosal
import MmIotEsp32.Lib.EventFsm
import MmIotEsp32.Lib.Transition

namespace MmIotEsp32.Umac.Connection

open Lib

/-! ## The monitor -/

inductive ConnectionMonFsmState where
  | disabled
  | stable
  | unstable
  | lost
  deriving Repr, DecidableEq

inductive ConnectionMonFsmEvent where
  | start
  | stop
  | beaconLoss
  | acked
  | unresponsive
  deriving Repr, DecidableEq

/-- `struct connection_mon_data`, with what it uses of the rest of the station. -/
structure ConnectionMonData where
  fsm : FsmInstance ConnectionMonFsmState ConnectionMonFsmEvent
  disabled : Bool
  failedApQueries : U8
  /-- the connection is in the state CONNECTED -/
  connected : Bool
  /-- when the timeouts of `umac_connection_monitor_check` that are registered expire -/
  checkTimeouts : List U32
  deriving Repr, DecidableEq

/-- After `umac_connection_init`. -/
def connectionMonInit : ConnectionMonData := ⟨.at .disabled, false, 0, false, []⟩

def umacConnectionMonUnstableIntervalMs : U32 := 100

def umacConnectionDeauthThresholdApQueries : Nat := 2

/-- What the surroundings of the monitor do in the course of an event: the clock, whether a frame
can be sent, and what the supplicant does when it is told that the access point is gone, if it
disconnects before it returns: WNM sleep, which ends then, may enable the monitor again. -/
structure MonEnv where
  now : U32
  txOk : Bool
  deauth : Option Bool
  deriving Repr, DecidableEq

/-- `umac_core_register_timeout`, for the check. -/
def registerMonitorCheck (env : MonEnv) (data : ConnectionMonData) : ConnectionMonData :=
  { data with checkTimeouts := data.checkTimeouts ++ [env.now + umacConnectionMonUnstableIntervalMs] }

/-! ## Starting and stopping -/

/-- How an event of the monitor is raised: it is handled, or kept while another one is. -/
abbrev RaiseMon := ConnectionMonData → ConnectionMonFsmEvent → Option ConnectionMonData

/-- `connection_mon_fsm_handle_event`, when it is called by an action of the monitor. -/
def keepMonEvent : RaiseMon := fun data event =>
  (data.fsm.keep event).map fun fsm => { data with fsm := fsm }

def umacConnectionSetMonitorDisable (raise : RaiseMon) (data : ConnectionMonData)
    (disable : Bool) : Option ConnectionMonData :=
  if data.disabled = disable then some data
  else if !data.connected then some { data with disabled := disable }
  else
    (raise data (if disable then .stop else .start)).map fun data =>
      { data with disabled := disable }

/-- `connection_fsm_connected_entry`. -/
def monConnectedEntry (raise : RaiseMon) (data : ConnectionMonData) : Option ConnectionMonData :=
  let data := { data with connected := true }
  if !data.disabled then raise data .start else some data

/-- `connection_fsm_connected_exit`; `wakes` is whether WNM sleep enables the monitor on its way
out of ACTIVE. -/
def monConnectedExit (raise : RaiseMon) (wakes : Bool) (data : ConnectionMonData) :
    Option ConnectionMonData :=
  (if wakes then umacConnectionSetMonitorDisable raise data false else some data).bind fun data =>
  (if !data.disabled then raise data .stop else some data).map fun data =>
    { data with connected := false }

/-! ## The machine -/

def connectionMonFsmStableEntry (data : ConnectionMonData) : ConnectionMonData :=
  { data with failedApQueries := 0 }

def connectionMonFsmUnstableEntry (env : MonEnv) (data : ConnectionMonData) : ConnectionMonData :=
  if data.checkTimeouts = [] then registerMonitorCheck env data else data

def connectionMonFsmUnstableExit (data : ConnectionMonData) : ConnectionMonData :=
  { data with checkTimeouts := [] }

def connectionMonFsmLostEntry (env : MonEnv) (data : ConnectionMonData) :
    Option ConnectionMonData :=
  match env.deauth with
  | some wakes => if data.connected then monConnectedExit keepMonEvent wakes data else some data
  | none => some data

def connectionMonFsmTable :
    List (FsmRow ConnectionMonFsmState ConnectionMonFsmEvent ConnectionMonData) :=
  [ ⟨[.lost, .stable, .unstable], [.stop], some .disabled, none⟩,
    ⟨[.stable, .unstable], [.acked], some .stable, none⟩,
    ⟨[.stable, .unstable], [.beaconLoss], some .unstable, none⟩,
    ⟨[.disabled], [.start], some .stable, none⟩,
    ⟨[.unstable], [.unresponsive], some .lost, none⟩ ]

def connectionMonFsm (env : MonEnv) :
    Fsm ConnectionMonFsmState ConnectionMonFsmEvent ConnectionMonData where
  inst := fun data => data.fsm
  withInst := fun fsm data => { data with fsm := fsm }
  table := connectionMonFsmTable
  exit := fun state _ data =>
    match state with
    | .unstable => some (connectionMonFsmUnstableExit data)
    | _ => some data
  entry := fun state _ data =>
    match state with
    | .stable => some (connectionMonFsmStableEntry data)
    | .unstable => some (connectionMonFsmUnstableEntry env data)
    | .lost => connectionMonFsmLostEntry env data
    | .disabled => some data

/-- `connection_mon_fsm_handle_event`.  Entering LOST may raise STOP, which is handled next. -/
def connectionMonFsmHandleEvent (env : MonEnv) : RaiseMon := (connectionMonFsm env).handleEvent 2

/-! ## Signs of life -/

def umacConnectionProcessFailedApQuery (env : MonEnv) (data : ConnectionMonData) :
    Option ConnectionMonData :=
  let data := { data with failedApQueries := data.failedApQueries + 1 }
  if umacConnectionDeauthThresholdApQueries ≤ data.failedApQueries.toNat then
    connectionMonFsmHandleEvent env data .unresponsive
  else some data

/-- The test that the handlers of acknowledgements and of beacon loss begin with. -/
def ConnectionMonData.listens (data : ConnectionMonData) : Bool :=
  (data.fsm.currentState = .stable || data.fsm.currentState = .unstable) && !data.disabled

/-- `umac_connection_handle_ack_status`, for a frame that is a QoS null frame or not. -/
def umacConnectionHandleAckStatus (env : MonEnv) (data : ConnectionMonData)
    (acked isQosNull : Bool) : Option ConnectionMonData :=
  if !data.listens then some data
  else if acked then connectionMonFsmHandleEvent env data .acked
  else if data.fsm.currentState = .unstable ∧ isQosNull then
    umacConnectionProcessFailedApQuery env data
  else some data

def umacConnectionHandleBeaconLoss (env : MonEnv) (data : ConnectionMonData) :
    Option ConnectionMonData :=
  if !data.listens then some data else connectionMonFsmHandleEvent env data .beaconLoss

def umacConnectionMonitorCheck (env : MonEnv) (data : ConnectionMonData) :
    Option ConnectionMonData :=
  if data.fsm.currentState ≠ .unstable then some data
  else
    let data := registerMonitorCheck env data
    if env.txOk then some data else umacConnectionProcessFailedApQuery env data

/-- The event loop calls the check, if its timeout has expired. -/
def monitorCheckTimeout (env : MonEnv) (data : ConnectionMonData) : Option ConnectionMonData :=
  match data.checkTimeouts with
  | [] => some data
  | expiry :: rest =>
    if mmosalTimeLt env.now expiry then some data
    else umacConnectionMonitorCheck env { data with checkTimeouts := rest }

/-! ## Events -/

/-- What the monitor sees. -/
inductive MonEvent where
  /-- the connection enters CONNECTED -/
  | connected
  /-- the connection leaves CONNECTED -/
  | disconnected (wakes : Bool)
  | setMonitorDisable (disable : Bool)
  | beaconLoss
  | ackStatus (acked isQosNull : Bool)
  | checkTimeout
  deriving Repr, DecidableEq

/-- One event, with what the surroundings do in its course; `none` is a failed assertion. -/
def monStep (data : ConnectionMonData) (x : MonEnv × MonEvent) : Option ConnectionMonData :=
  let raise := connectionMonFsmHandleEvent x.1
  match x.2 with
  | .connected => if data.connected then some data else monConnectedEntry raise data
  | .disconnected wakes =>
    if data.connected then monConnectedExit raise wakes data else some data
  | .setMonitorDisable disable => umacConnectionSetMonitorDisable raise data disable
  | .beaconLoss => umacConnectionHandleBeaconLoss x.1 data
  | .ackStatus acked isQosNull => umacConnectionHandleAckStatus x.1 data acked isQosNull
  | .checkTimeout => monitorCheckTimeout x.1 data

variable {env : MonEnv} {data data' : ConnectionMonData} {event : ConnectionMonFsmEvent}

/-! ## One check -/

/-- In UNSTABLE one check is registered, in the other states none. -/
def OneCheckPending (data : ConnectionMonData) : Prop :=
  if data.fsm.currentState = .unstable then data.checkTimeouts.length = 1
  else data.checkTimeouts = []

instance (data : ConnectionMonData) : Decidable (OneCheckPending data) :=
  inferInstanceAs (Decidable (ite ..))

/-- Between two events the monitor handles none, and its check is registered as its state says. -/
structure MonOk (data : ConnectionMonData) : Prop where
  rest : data.fsm = .at data.fsm.currentState
  check : OneCheckPending data

theorem monOk_init : MonOk connectionMonInit := ⟨rfl, rfl⟩

namespace MonOk

theorem withFlags (h : MonOk data) (disabled connected : Bool) (failedApQueries : U8) :
    MonOk { data with
      disabled := disabled, connected := connected, failedApQueries := failedApQueries } :=
  ⟨h.rest, h.check⟩

theorem eq_at (h : MonOk data) : ∃ q disabled failedApQueries connected checkTimeouts,
    data = ⟨.at q, disabled, failedApQueries, connected, checkTimeouts⟩ := by
  refine ⟨data.fsm.currentState, data.disabled, data.failedApQueries, data.connected,
    data.checkTimeouts, ?_⟩
  rw [← h.rest]

theorem noCheck (h : MonOk data) (hq : data.fsm.currentState ≠ .unstable) :
    data.checkTimeouts = [] := by
  have hcheck := h.check
  unfold OneCheckPending at hcheck
  rwa [if_neg hq] at hcheck

theorem oneCheck (h : MonOk data) (hq : data.fsm.currentState = .unstable) :
    ∃ expiry, data.checkTimeouts = [expiry] := by
  have hcheck := h.check
  unfold OneCheckPending at hcheck
  rw [if_pos hq] at hcheck
  exact List.length_eq_one_iff.mp hcheck

theorem of_noCheck {q : ConnectionMonFsmState} (hq : q ≠ .unstable) (hfsm : data.fsm = .at q)
    (hchecks : data.checkTimeouts = []) : MonOk data := by
  have hstate : data.fsm.currentState = q := congrArg FsmInstance.currentState hfsm
  refine ⟨by rw [hstate, hfsm], ?_⟩
  unfold OneCheckPending
  rw [hstate, if_neg hq]
  exact hchecks

theorem of_oneCheck {expiry : U32} (hfsm : data.fsm = .at .unstable)
    (hchecks : data.checkTimeouts = [expiry]) : MonOk data := by
  have hstate : data.fsm.currentState = .unstable := congrArg FsmInstance.currentState hfsm
  refine ⟨by rw [hstate, hfsm], ?_⟩
  unfold OneCheckPending
  rw [hstate, if_pos rfl, hchecks]
  rfl

end MonOk

/-! ## The transitions -/

theorem handleEvent_stop (h : MonOk data) (hq : data.fsm.currentState ≠ .disabled) :
    connectionMonFsmHandleEvent env data .stop
      = some { data with fsm := .at .disabled, checkTimeouts := [] } := by
  have hnoCheck := h.noCheck
  obtain ⟨q, disabled, failed, connected, checks, rfl⟩ := h.eq_at
  cases q with
  | disabled => exact absurd rfl hq
  | stable | lost =>
    obtain rfl : checks = [] := hnoCheck nofun
    rfl
  | unstable => rfl

theorem handleEvent_acked (h : MonOk data)
    (hq : data.fsm.currentState = .stable ∨ data.fsm.currentState = .unstable) :
    connectionMonFsmHandleEvent env data .acked
      = some { data with fsm := .at .stable, failedApQueries := 0, checkTimeouts := [] } := by
  have hnoCheck := h.noCheck
  obtain ⟨q, disabled, failed, connected, checks, rfl⟩ := h.eq_at
  rcases hq with hq | hq
  · obtain rfl : q = .stable := hq
    obtain rfl : checks = [] := hnoCheck nofun
    rfl
  · obtain rfl : q = .unstable := hq
    rfl

theorem handleEvent_beaconLoss (h : MonOk data)
    (hq : data.fsm.currentState = .stable ∨ data.fsm.currentState = .unstable) :
    connectionMonFsmHandleEvent env data .beaconLoss
      = some { data with
          fsm := .at .unstable
          checkTimeouts := [env.now + umacConnectionMonUnstableIntervalMs] } := by
  have hnoCheck := h.noCheck
  obtain ⟨q, disabled, failed, connected, checks, rfl⟩ := h.eq_at
  rcases hq with hq | hq
  · obtain rfl : q = .stable := hq
    obtain rfl : checks = [] := hnoCheck nofun
    rfl
  · obtain rfl : q = .unstable := hq
    rfl

theorem handleEvent_start (h : MonOk data) (hq : data.fsm.currentState = .disabled) :
    connectionMonFsmHandleEvent env data .start
      = some { data with fsm := .at .stable, failedApQueries := 0 } := by
  obtain ⟨q, disabled, failed, connected, checks, rfl⟩ := h.eq_at
  obtain rfl : q = .disabled := hq
  rfl

theorem handleEvent_unresponsive (h : MonOk data) (hq : data.fsm.currentState = .unstable)
    (hs : connectionMonFsmHandleEvent env data .unresponsive = some data') : MonOk data' := by
  obtain ⟨q, disabled, failed, connected, checks, rfl⟩ := h.eq_at
  obtain rfl : q = .unstable := hq
  obtain ⟨now, txOk, deauth⟩ := env
  cases deauth with
  | none =>
    cases hs
    exact .of_noCheck (q := .lost) (by decide) rfl rfl
  | some wakes =>
    cases connected with
    | false =>
      cases hs
      exact .of_noCheck (q := .lost) (by decide) rfl rfl
    | true =>
      cases disabled <;> cases wakes
      case true.true => cases hs
      case true.false =>
        cases hs
        exact .of_noCheck (q := .lost) (by decide) rfl rfl
      all_goals
        cases hs
        exact .of_noCheck (q := .disabled) (by decide) rfl rfl

theorem handleEvent_ignored (h : MonOk data)
    (hrow : (connectionMonFsm env).row? data.fsm.currentState event = none) :
    connectionMonFsmHandleEvent env data event = some data := by
  obtain ⟨q, disabled, failed, connected, checks, rfl⟩ := h.eq_at
  have hlaw : ∀ i s, (connectionMonFsm env).inst ((connectionMonFsm env).withInst i s) = i :=
    fun _ _ => rfl
  exact Fsm.handleEvent_of_no_row 1 hlaw rfl rfl hrow

theorem MonOk.handleEvent (h : MonOk data)
    (hs : connectionMonFsmHandleEvent env data event = some data') : MonOk data' := by
  by_cases hrow : (connectionMonFsm env).row? data.fsm.currentState event = none
  · rw [handleEvent_ignored h hrow] at hs
    exact Option.some.inj hs ▸ h
  cases hq : data.fsm.currentState <;> cases event <;> rw [hq] at hrow
  all_goals first | exact absurd rfl hrow | skip
  case disabled.start =>
    rw [handleEvent_start h hq] at hs
    cases hs
    exact .of_noCheck (q := .stable) (by decide) rfl (h.noCheck (by rw [hq]; decide))
  case unstable.unresponsive => exact handleEvent_unresponsive h hq hs
  case stable.stop | unstable.stop | lost.stop =>
    rw [handleEvent_stop h (by rw [hq]; decide)] at hs
    cases hs
    exact .of_noCheck (q := .disabled) (by decide) rfl rfl
  case stable.acked | unstable.acked =>
    rw [handleEvent_acked h (by rw [hq]; decide)] at hs
    cases hs
    exact .of_noCheck (q := .stable) (by decide) rfl rfl
  case stable.beaconLoss | unstable.beaconLoss =>
    rw [handleEvent_beaconLoss h (by rw [hq]; decide)] at hs
    cases hs
    exact .of_oneCheck rfl rfl

/-! ## One check throughout -/

theorem MonOk.setMonitorDisable {disable : Bool} (h : MonOk data)
    (hs : umacConnectionSetMonitorDisable (connectionMonFsmHandleEvent env) data disable
      = some data') : MonOk data' := by
  unfold umacConnectionSetMonitorDisable at hs
  split at hs
  · exact Option.some.inj hs ▸ h
  split at hs
  · exact Option.some.inj hs ▸ h.withFlags disable data.connected data.failedApQueries
  · obtain ⟨raised, hraised, rfl⟩ := Option.map_eq_some_iff.mp hs
    exact (h.handleEvent hraised).withFlags disable raised.connected raised.failedApQueries

theorem MonOk.connectedEntry (h : MonOk data)
    (hs : monConnectedEntry (connectionMonFsmHandleEvent env) data = some data') : MonOk data' := by
  have hconnected := h.withFlags data.disabled true data.failedApQueries
  unfold monConnectedEntry at hs
  dsimp only at hs
  split at hs
  · exact hconnected.handleEvent hs
  · exact Option.some.inj hs ▸ hconnected

theorem MonOk.connectedExit {wakes : Bool} (h : MonOk data)
    (hs : monConnectedExit (connectionMonFsmHandleEvent env) wakes data = some data') :
    MonOk data' := by
  obtain ⟨enabled, henabled, hs⟩ := Option.bind_eq_some_iff.mp hs
  obtain ⟨stopped, hstopped, rfl⟩ := Option.map_eq_some_iff.mp hs
  have h₁ : MonOk enabled := by
    split at henabled
    · exact h.setMonitorDisable henabled
    · exact Option.some.inj henabled ▸ h
  have h₂ : MonOk stopped := by
    split at hstopped
    · exact h₁.handleEvent hstopped
    · exact Option.some.inj hstopped ▸ h₁
  exact h₂.withFlags stopped.disabled false stopped.failedApQueries

theorem MonOk.processFailedApQuery (h : MonOk data)
    (hs : umacConnectionProcessFailedApQuery env data = some data') : MonOk data' := by
  have hcounted := h.withFlags data.disabled data.connected (data.failedApQueries + 1)
  unfold umacConnectionProcessFailedApQuery at hs
  dsimp only at hs
  split at hs
  · exact hcounted.handleEvent hs
  · exact Option.some.inj hs ▸ hcounted

theorem MonOk.handleAckStatus {acked isQosNull : Bool} (h : MonOk data)
    (hs : umacConnectionHandleAckStatus env data acked isQosNull = some data') : MonOk data' := by
  unfold umacConnectionHandleAckStatus at hs
  split at hs
  · exact Option.some.inj hs ▸ h
  split at hs
  · exact h.handleEvent hs
  · split at hs
    · exact h.processFailedApQuery hs
    · exact Option.some.inj hs ▸ h

theorem MonOk.handleBeaconLoss (h : MonOk data)
    (hs : umacConnectionHandleBeaconLoss env data = some data') : MonOk data' := by
  unfold umacConnectionHandleBeaconLoss at hs
  split at hs
  · exact Option.some.inj hs ▸ h
  · exact h.handleEvent hs

theorem MonOk.checkTimeout (h : MonOk data) (hs : monitorCheckTimeout env data = some data') :
    MonOk data' := by
  unfold monitorCheckTimeout at hs
  split at hs
  · exact Option.some.inj hs ▸ h
  rename_i expiry rest hchecks
  split at hs
  · exact Option.some.inj hs ▸ h
  -- a check is only registered in UNSTABLE, and it is the only one
  have hq : data.fsm.currentState = .unstable := by
    by_contra hq
    rw [h.noCheck hq] at hchecks
    cases hchecks
  obtain ⟨expiry', honly⟩ := h.oneCheck hq
  obtain ⟨-, rfl⟩ : expiry' = expiry ∧ [] = rest := by
    rw [honly] at hchecks
    injection hchecks with h₁ h₂
    exact ⟨h₁, h₂⟩
  unfold umacConnectionMonitorCheck at hs
  rw [if_neg (not_not.mpr hq)] at hs
  dsimp only at hs
  have hnext : MonOk (registerMonitorCheck env { data with checkTimeouts := [] }) :=
    .of_oneCheck (by rw [← hq]; exact h.rest) rfl
  split at hs
  · exact Option.some.inj hs ▸ hnext
  · exact hnext.processFailedApQuery hs

theorem MonOk.step {x : MonEnv × MonEvent} (h : MonOk data) (hs : monStep data x = some data') :
    MonOk data' := by
  obtain ⟨env, event⟩ := x
  cases event with
  | connected =>
    unfold monStep at hs
    dsimp only at hs
    split at hs
    · exact Option.some.inj hs ▸ h
    · exact h.connectedEntry hs
  | disconnected wakes =>
    unfold monStep at hs
    dsimp only at hs
    split at hs
    · exact h.connectedExit hs
    · exact Option.some.inj hs ▸ h
  | setMonitorDisable disable => exact h.setMonitorDisable hs
  | beaconLoss => exact h.handleBeaconLoss hs
  | ackStatus acked isQosNull => exact h.handleAckStatus hs
  | checkTimeout => exact h.checkTimeout hs

/-! ## Checks that are postponed -/

/-- A lost beacon does not move the expiry of a check that is pending to a later time. -/
def CheckNotPostponed (data : ConnectionMonData) (x : MonEnv × MonEvent) : Prop :=
  x.2 = .beaconLoss → ∀ data' ∈ monStep data x, ∀ expiry ∈ data.checkTimeouts,
    ∀ expiry' ∈ data'.checkTimeouts, mmosalTimeLt expiry expiry' = false

/-- A beacon is lost in UNSTABLE, while the monitor is enabled, only at the time at which the
check that is pending was registered. -/
def NoLateBeaconLoss (data : ConnectionMonData) (x : MonEnv × MonEvent) : Prop :=
  x.2 = .beaconLoss → data.fsm.currentState = .unstable → data.disabled = false →
    ∀ expiry ∈ data.checkTimeouts,
      mmosalTimeLt (expiry - umacConnectionMonUnstableIntervalMs) x.1.now = false

theorem mmosalTimeLt_sub_interval (expiry now : U32) :
    mmosalTimeLt (expiry - umacConnectionMonUnstableIntervalMs) now
      = mmosalTimeLt expiry (now + umacConnectionMonUnstableIntervalMs) := by
  unfold mmosalTimeLt serialLt
  congr 2
  abel

theorem checkNotPostponed_iff {x : MonEnv × MonEvent} (h : MonOk data) :
    CheckNotPostponed data x ↔ NoLateBeaconLoss data x := by
  obtain ⟨env, event⟩ := x
  unfold CheckNotPostponed NoLateBeaconLoss
  refine imp_congr_right fun hevent => ?_
  obtain rfl : event = .beaconLoss := hevent
  by_cases hq : data.fsm.currentState = .unstable
  · obtain ⟨expiry, hchecks⟩ := h.oneCheck hq
    by_cases hdisabled : data.disabled = false
    · -- the check that is pending gives way to one that is registered now
      have hstep : monStep data (env, .beaconLoss)
          = some { data with
              fsm := .at .unstable
              checkTimeouts := [env.now + umacConnectionMonUnstableIntervalMs] } := by
        show umacConnectionHandleBeaconLoss env data = _
        unfold umacConnectionHandleBeaconLoss
        rw [if_neg (by simp [ConnectionMonData.listens, hq, hdisabled])]
        exact handleEvent_beaconLoss h (.inr hq)
      rw [hstep, hchecks]
      simp [hq, hdisabled, mmosalTimeLt_sub_interval]
    -- a monitor that is disabled does not listen
    have hstep : monStep data (env, .beaconLoss) = some data := by
      show umacConnectionHandleBeaconLoss env data = _
      unfold umacConnectionHandleBeaconLoss
      rw [if_pos (by simp [ConnectionMonData.listens, hdisabled])]
    rw [hstep]
    simp [hdisabled, hchecks, mmosalTimeLt, serialLt]
  · simp [hq, h.noCheck hq]

/-- In every run, one check is pending in UNSTABLE and none elsewhere, and no lost beacon postpones
it, if and only if no beacon is lost in UNSTABLE later than the check was registered. -/
theorem beacon_loss_never_postpones_iff (xs : List (MonEnv × MonEvent)) :
    (Throughout monStep OneCheckPending connectionMonInit xs
        ∧ Along monStep CheckNotPostponed connectionMonInit xs)
      ↔ Along monStep NoLateBeaconLoss connectionMonInit xs := by
  have hok : Throughout monStep MonOk connectionMonInit xs :=
    throughout_of_invariant (fun _ _ _ h hs => h.step hs) monOk_init xs
  constructor
  · intro ⟨_, hnotPostponed⟩
    refine (hnotPostponed.and (hok.along_of fun _ _ h => h)).mono ?_
    exact fun data x h => (checkNotPostponed_iff h.2).mp h.1
  intro hlate
  refine ⟨hok.mono fun _ h => h.check, ?_⟩
  refine (hlate.and (hok.along_of fun _ _ h => h)).mono ?_
  exact fun data x h => (checkNotPostponed_iff h.2).mpr h.1

/-- A second beacon is lost 99 ms after the first one, when the check is about to expire. -/
def secondBeaconLoss : List (MonEnv × MonEvent) :=
  [(⟨0, true, none⟩, .connected), (⟨0, true, none⟩, .beaconLoss), (⟨99, true, none⟩, .beaconLoss)]

/-- The check that was to be made at 100 ms is postponed to 199 ms. -/
theorem second_beacon_loss_postpones :
    ¬ (Throughout monStep OneCheckPending connectionMonInit secondBeaconLoss
        ∧ Along monStep CheckNotPostponed connectionMonInit secondBeaconLoss) := by
  intro ⟨_, hnotPostponed⟩
  have hsecond := ((hnotPostponed.2 _ rfl).2 _ rfl).1 rfl
  have hlt : mmosalTimeLt 100 199 = false := hsecond _ rfl 100 (by decide) 199 (by decide)
  exact absurd hlt (by decide)

end MmIotEsp32.Umac.Connection
