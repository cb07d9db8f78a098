/-
  MmIotEsp32.Umac.WnmSleep.WnmSleep

  WNM sleep (`umac/wnm_sleep/umac_wnm_sleep.c`, `wnm_sleep_fsm.def`).
-/
import MmIotEsp32.Umac.Connection.ConnectionData

namespace MmIotEsp32.Umac.WnmSleep

open Lib Connection

/-! ## Requests -/

def wnmSleepMaxRetryReq : Nat := 60

def umacWnmSleepSetChipPowerdown (u : Umac) (chipPowerdownEnabled : Bool) : Umac :=
  if u.wnm.fsmInst.currentState ≠ .entryRequested ∧ u.wnm.fsmInst.currentState ≠ .active then
    { u with config := { u.config with chipPowerdownEnabled := chipPowerdownEnabled } }
  else u

def logRecord (u : Umac) (record : WnmRecord) : Umac :=
  { u with wnm := { u.wnm with log := u.wnm.log ++ [record] } }

/-- `umac_wnm_sleep_register_semb`, for a request to enter (`enabled`) or to leave sleep, with
whether it is accepted. -/
def umacWnmSleepRegisterSemb (u : Umac) (enabled : Bool) : Umac × Bool :=
  if u.wnm.callback then (logRecord u .refused, false)
  else
    (logRecord
      { u with wnm := { u.wnm with waiting := true, callback := true, retryCounter := 0 } }
      (.accepted enabled), true)

/-- `umac_wnm_sleep_request_cb`; `none` is its assertion. -/
def umacWnmSleepRequestCb (u : Umac) (event : Option WnmSleepFsmEvent) (status : MmwlanStatus) :
    Option Umac :=
  if u.wnm.waiting then
    some (logRecord { u with wnm := { u.wnm with waiting := false } } (.answered event status))
  else none

/-- The callback is called and given up, if there is one. -/
def answer (u : Umac) (event : Option WnmSleepFsmEvent) (status : MmwlanStatus) : Option Umac :=
  if u.wnm.callback then
    (umacWnmSleepRequestCb u event status).map fun u =>
      { u with wnm := { u.wnm with callback := false } }
  else some u

/-! ## The machine -/

/-- Entering one of the two states that wait for the access point, after the frame is handed to
the supplicant; `timeoutOk` is whether `umac_core_register_timeout` succeeds. -/
def requestedEntry (timeoutOk : Bool) (u : Umac) : Umac :=
  if timeoutOk then { u with wnm := { u.wnm with retryTimeouts := u.wnm.retryTimeouts + 1 } }
  else u

def wnmSleepFsmEntryRequestedEntry : Bool → Umac → Umac := requestedEntry

def wnmSleepFsmExitRequestedEntry : Bool → Umac → Umac := requestedEntry

/-- `umac_core_cancel_timeout`, for the retries. -/
def cancelRetry (u : Umac) : Umac := { u with wnm := { u.wnm with retryTimeouts := 0 } }

/-- Leaving one of the two states that wait for the access point. -/
def requestedExit (status : WnmSleepFsmEvent → MmwlanStatus) (event : WnmSleepFsmEvent)
    (u : Umac) : Option Umac :=
  let u := cancelRetry u
  if event ≠ .retryRequest then answer u (some event) (status event) else some u

def wnmSleepFsmEntryRequestedExit : WnmSleepFsmEvent → Umac → Option Umac :=
  requestedExit fun
    | .entryConfirmed => .success
    | .retriesExhausted => .timedOut
    | _ => .error

def wnmSleepFsmExitRequestedExit : WnmSleepFsmEvent → Umac → Option Umac :=
  requestedExit fun
    | .exitConfirmed | .connectionLost => .success
    | .retriesExhausted => .timedOut
    | _ => .error

/-- `wnm_sleep_fsm_active_entry`; `none` is one of its assertions. -/
def wnmSleepFsmActiveEntry (u : Umac) : Option Umac :=
  if !u.iface.staActive then none
  else
    let u := { u with txPaused := u.txPaused ||| pauseSourceWnmSleep }
    (if u.config.chipPowerdownEnabled then mmdrvDeinit u.drv
      else some (mmdrvSetChipWnmSleepEnabled u.drv true)).map fun drv =>
        { u with drv := mmdrvSetHealthCheckVeto drv }

/-- `wnm_sleep_fsm_active_exit`; `none` is one of its assertions. -/
def wnmSleepFsmActiveExit (u : Umac) : Option Umac :=
  if !u.iface.staActive then none
  else
    (if u.config.chipPowerdownEnabled then
      (umacConnectionHandleHwRestarted { u with drv := mmdrvInit }).map fun u =>
        { u with config := { u.config with chipPowerdownEnabled := false } }
      else some { u with drv := mmdrvSetChipWnmSleepEnabled u.drv false }).map fun u =>
        { u with
          txPaused := u.txPaused &&& ~~~pauseSourceWnmSleep
          drv := mmdrvUnsetHealthCheckVeto u.drv }

def wnmSleepFsmTable : List (FsmRow WnmSleepFsmState WnmSleepFsmEvent Umac) :=
  [ ⟨[.exitRequested], [.connectionLost, .exitConfirmed, .retriesExhausted], some .idle, none⟩,
    ⟨[.entryRequested], [.connectionLost, .retriesExhausted], some .idle, none⟩,
    ⟨[.exitRequested, .idle], [.enable], some .entryRequested, none⟩,
    ⟨[.active, .entryRequested], [.disable], some .exitRequested, none⟩,
    ⟨[.active], [.connectionLost], some .idle, none⟩,
    ⟨[.entryRequested], [.entryConfirmed], some .active, none⟩,
    ⟨[.entryRequested], [.retryRequest], some .entryRequested, none⟩,
    ⟨[.exitRequested], [.retryRequest], some .exitRequested, none⟩ ]

def wnmSleepFsm (timeoutOk : Bool) : Fsm WnmSleepFsmState WnmSleepFsmEvent Umac where
  inst := fun u => u.wnm.fsmInst
  withInst := fun inst u => { u with wnm := { u.wnm with fsmInst := inst } }
  table := wnmSleepFsmTable
  exit := fun state event u =>
    match state with
    | .entryRequested => wnmSleepFsmEntryRequestedExit event u
    | .active => wnmSleepFsmActiveExit u
    | .exitRequested => wnmSleepFsmExitRequestedExit event u
    | .idle => some u
  entry := fun state _ u =>
    match state with
    | .entryRequested => some (wnmSleepFsmEntryRequestedEntry timeoutOk u)
    | .active => wnmSleepFsmActiveEntry u
    | .exitRequested => some (wnmSleepFsmExitRequestedEntry timeoutOk u)
    | .idle => some u

/-- `wnm_sleep_fsm_handle_event`.  Its actions raise no events. -/
def wnmSleepFsmHandleEvent (timeoutOk : Bool) (u : Umac) (event : WnmSleepFsmEvent) :
    Option Umac :=
  (wnmSleepFsm timeoutOk).handleEvent 1 u event

/-! ## Events -/

inductive UmacWnmSleepEvent where
  | requestEntry
  | requestExit
  | connectionLost
  | hwRestarted
  | entryConfirmed
  | exitConfirmed
  deriving Repr, DecidableEq

def umacWnmSleepReportEvent (timeoutOk : Bool) (u : Umac) (event : UmacWnmSleepEvent) :
    Option Umac :=
  let state := u.wnm.fsmInst.currentState
  match event with
  | .requestEntry =>
    if state = .idle ∨ state = .exitRequested then wnmSleepFsmHandleEvent timeoutOk u .enable
    else answer u none .unavailable
  | .requestExit =>
    if state = .active ∨ state = .entryRequested then wnmSleepFsmHandleEvent timeoutOk u .disable
    else answer u none .unavailable
  | .entryConfirmed =>
    if state = .entryRequested then wnmSleepFsmHandleEvent timeoutOk u .entryConfirmed else some u
  | .exitConfirmed =>
    if state = .exitRequested then wnmSleepFsmHandleEvent timeoutOk u .exitConfirmed else some u
  | .connectionLost =>
    if state ≠ .idle then wnmSleepFsmHandleEvent timeoutOk u .connectionLost else some u
  | .hwRestarted => reportHwRestarted u

def umacWnmSleepRetryRequest (timeoutOk : Bool) (u : Umac) : Option Umac :=
  if u.wnm.retryCounter.toNat < wnmSleepMaxRetryReq then
    wnmSleepFsmHandleEvent timeoutOk
      (logRecord { u with wnm := { u.wnm with retryCounter := u.wnm.retryCounter + 1 } } .retried)
      .retryRequest
  else wnmSleepFsmHandleEvent timeoutOk u .retriesExhausted

/-- A timeout of `umac_wnm_sleep_retry_request` that has expired. -/
def retryTimeoutExpired (timeoutOk : Bool) (u : Umac) : Option Umac :=
  if u.wnm.retryTimeouts = 0 then some u
  else
    umacWnmSleepRetryRequest timeoutOk
      { u with wnm := { u.wnm with retryTimeouts := u.wnm.retryTimeouts - 1 } }

def umacSetWnmSleepEvtHandler (timeoutOk : Bool) (u : Umac) (enabled chipPowerdownEnabled : Bool) :
    Option Umac :=
  if umacConnectionIsConnected u then
    match umacWnmSleepRegisterSemb u enabled with
    | (u, false) => some u
    | (u, true) =>
      if enabled then
        umacWnmSleepReportEvent timeoutOk (umacWnmSleepSetChipPowerdown u chipPowerdownEnabled)
          .requestEntry
      else umacWnmSleepReportEvent timeoutOk u .requestExit
  else some (logRecord u .refused)

end MmIotEsp32.Umac.WnmSleep

namespace MmIotEsp32.Umac.Connection

open Lib Interface Keys

/-! ## Restoring the chip -/

/-- The channel that is set is still found in the channel list. -/
def ChannelKept (u : Umac) : Prop :=
  u.iface.currentS1gOperation ≠ .zero → ∃ cfg,
    channelCfg u.config.channelList u.config.maxSupportedBw u.iface.currentS1gOperation = some cfg
      ∧ u.iface.lastChannel = some cfg

/-- HW_RESTARTED is reported to a machine in ACTIVE. -/
def RestartsAsleep (u : Umac) : Prop :=
  u.conn.fsmInst.currentState = .connected ∧ u.wnm.fsmInst.currentState = .active

instance (u : Umac) : Decidable (RestartsAsleep u) := inferInstanceAs (Decidable (_ ∧ _))

/-- What the chip is told when it is restored. -/
def restoredChip (u : Umac) (chip : Chip) : Chip where
  sta := some ⟨u.conn.aid, u.conn.bssid,
    if u.conn.fsmInst.currentState = .connected then .authorized else .none⟩
  qosQueues := chip.qosQueues
  channel :=
    if u.iface.currentS1gOperation.operatingChannelIndex = 0 then chip.channel
    else u.iface.lastChannel
  keyCalls := (umacKeysReinstallKeys (fun _ => true) ⟨u.conn.keys, chip.keyCalls⟩).calls
  wnmSleep := if RestartsAsleep u then true else chip.wnmSleep

/-- The station after its chip is restored. -/
def restored (u : Umac) : Umac :=
  { u with
    iface := { u.iface with
      currentS1gOperation :=
        if u.iface.currentS1gOperation.operatingChannelIndex = 0 then .zero
        else u.iface.currentS1gOperation }
    drv :=
      { started := true
        periodicCheckVetoes :=
          if RestartsAsleep u then u.drv.periodicCheckVetoes ||| vetoWnmSleep
          else u.drv.periodicCheckVetoes
        chip := restoredChip u u.drv.chip } }

theorem tell_started {d : MmdrvData} (h : d.started = true) (f : Chip → Chip) :
    d.tell f = { d with chip := f d.chip } := if_pos h

theorem umacInterfaceReconfigureChannel_eq {u : Umac} (hstarted : u.drv.started = true)
    (hactive : umacInterfaceIsActive u = true) (hkept : ChannelKept u) :
    umacInterfaceReconfigureChannel u
      = (if u.iface.currentS1gOperation.operatingChannelIndex = 0 then
          { u with iface := { u.iface with currentS1gOperation := .zero } }
        else { u with drv := { u.drv with
          chip := { u.drv.chip with channel := u.iface.lastChannel } } }, true) := by
  unfold umacInterfaceReconfigureChannel
  by_cases hindex : u.iface.currentS1gOperation.operatingChannelIndex = 0
  · rw [if_neg (not_not.mpr hindex), if_pos hindex]
  rw [if_pos hindex, if_neg hindex]
  -- a channel whose number is not 0 is not the cleared one
  have hne : u.iface.currentS1gOperation ≠ .zero := by
    intro h
    rw [h] at hindex
    exact hindex rfl
  obtain ⟨cfg, hcfg, hlast⟩ := hkept hne
  unfold umacInterfaceSetChannel
  have hactive' : umacInterfaceIsActive
      { u with iface := { u.iface with currentS1gOperation := .zero } } = true := hactive
  rw [hactive', if_neg (by simp)]
  dsimp only
  rw [hcfg]
  dsimp only
  rw [if_neg (by simp [hstarted]), if_neg (Ne.symm hne)]
  unfold mmdrvSetChannel
  rw [tell_started hstarted]
  obtain ⟨conn, wnm, ⟨sta, scan, op, last⟩, config, txPaused, drv⟩ := u
  obtain rfl : last = some cfg := hlast
  rfl

theorem umacConnectionHandleHwRestarted_eq {u : Umac} (hvif : u.conn.vifValid = true)
    (hsta : u.iface.staActive = true) (hstarted : u.drv.started = true) (hkept : ChannelKept u) :
    umacConnectionHandleHwRestarted u = some (restored u) := by
  obtain ⟨conn, wnm, ⟨sta, scan, op, last⟩, config, txPaused, ⟨started, vetoes, chip⟩⟩ := u
  obtain rfl : sta = true := hsta
  obtain rfl : started = true := hstarted
  unfold umacConnectionHandleHwRestarted
  rw [if_neg (by simpa using hvif), if_neg (by simp)]
  have htold : mmdrvUpdateStaState ⟨true, vetoes, chip⟩ ⟨conn.aid, conn.bssid, .none⟩
      = ⟨true, vetoes, { chip with sta := some ⟨conn.aid, conn.bssid, .none⟩ }⟩ := rfl
  dsimp only
  rw [htold, @umacInterfaceReconfigureChannel_eq ⟨conn, wnm, ⟨true, scan, op, last⟩, config, txPaused,
    ⟨true, vetoes, { chip with sta := some ⟨conn.aid, conn.bssid, .none⟩ }⟩⟩ rfl rfl hkept]
  unfold restored restoredChip RestartsAsleep
  by_cases hconn : conn.fsmInst.currentState = .connected
  · by_cases hindex : op.operatingChannelIndex = 0#8
    · by_cases hwnm : wnm.fsmInst.currentState = .active
      · simp [hindex, hconn, hwnm, reinstallKeys, reportHwRestarted, mmdrvUpdateStaState,
          mmdrvSetChipWnmSleepEnabled, mmdrvSetHealthCheckVeto, MmdrvData.tell]
      · simp [hindex, hconn, hwnm, reinstallKeys, reportHwRestarted, mmdrvUpdateStaState,
          MmdrvData.tell]
    by_cases hwnm : wnm.fsmInst.currentState = .active
    · simp [hindex, hconn, hwnm, reinstallKeys, reportHwRestarted, mmdrvUpdateStaState,
        mmdrvSetChipWnmSleepEnabled, mmdrvSetHealthCheckVeto, MmdrvData.tell]
    · simp [hindex, hconn, hwnm, reinstallKeys, reportHwRestarted, mmdrvUpdateStaState,
        MmdrvData.tell]
  · by_cases hindex : op.operatingChannelIndex = 0#8
    · simp [hindex, hconn, reinstallKeys, MmdrvData.tell]
    · simp [hindex, hconn, reinstallKeys, MmdrvData.tell]

end MmIotEsp32.Umac.Connection

namespace MmIotEsp32.Umac.WnmSleep

open Lib Connection

/-! ## Entering and leaving ACTIVE -/

/-- The station that has entered ACTIVE, apart from the machine. -/
def asleep (u : Umac) : Umac :=
  { u with
    txPaused := u.txPaused ||| pauseSourceWnmSleep
    drv := mmdrvSetHealthCheckVeto
      (if u.config.chipPowerdownEnabled then ⟨false, 0, .reset⟩
        else { u.drv with chip := { u.drv.chip with wnmSleep := true } }) }

/-- The station that leaves ACTIVE, apart from the machine. -/
def awake (u : Umac) : Umac :=
  let u :=
    if u.config.chipPowerdownEnabled then
      let r := restored { u with drv := mmdrvInit }
      { r with config := { u.config with chipPowerdownEnabled := false } }
    else { u with drv := mmdrvSetChipWnmSleepEnabled u.drv false }
  { u with
    txPaused := u.txPaused &&& ~~~pauseSourceWnmSleep
    drv := mmdrvUnsetHealthCheckVeto u.drv }

theorem wnmSleepFsmActiveEntry_eq {u : Umac} (hsta : u.iface.staActive = true)
    (hstarted : u.drv.started = true) : wnmSleepFsmActiveEntry u = some (asleep u) := by
  unfold wnmSleepFsmActiveEntry asleep
  rw [if_neg (by simp [hsta])]
  cases hpower : u.config.chipPowerdownEnabled with
  | true => simp [hpower, mmdrvDeinit, hstarted]
  | false => simp [hpower, mmdrvSetChipWnmSleepEnabled, tell_started hstarted]

theorem wnmSleepFsmActiveExit_eq {u : Umac} (hvif : u.conn.vifValid = true)
    (hsta : u.iface.staActive = true) (hkept : ChannelKept u) :
    wnmSleepFsmActiveExit u = some (awake u) := by
  unfold wnmSleepFsmActiveExit awake
  rw [if_neg (by simp [hsta])]
  cases hpower : u.config.chipPowerdownEnabled with
  | true =>
    rw [if_pos rfl, if_pos rfl,
      @umacConnectionHandleHwRestarted_eq { u with drv := mmdrvInit } hvif hsta rfl hkept]
    rfl
  | false => simp

/-! ## The machine -/

/-- The state in which a request to enter (`enabled`) or to leave sleep waits. -/
def requestedState (enabled : Bool) : WnmSleepFsmState :=
  if enabled then .entryRequested else .exitRequested

/-- What a request to enter or to leave sleep is answered with, if the event (or, at once, none)
answers it. -/
def requestOutcome (enabled : Bool) : Option WnmSleepFsmEvent → Option MmwlanStatus
  | none => some .unavailable
  | some .connectionLost => some (if enabled then .error else .success)
  | some .retriesExhausted => some .timedOut
  | some .entryConfirmed => if enabled then some .success else none
  | some .exitConfirmed => if enabled then none else some .success
  | some _ => none

/-- A record whose request is answered. -/
def answered (w : UmacWnmSleepData) (q : WnmSleepFsmState) (event : WnmSleepFsmEvent)
    (status : MmwlanStatus) : UmacWnmSleepData where
  fsmInst := .at q
  callback := false
  retryCounter := w.retryCounter
  waiting := false
  retryTimeouts := 0
  log := w.log ++ [.answered (some event) status]

section Transitions

variable {u : Umac} {timeoutOk : Bool}

theorem handleEvent_enable (hinst : u.wnm.fsmInst = .at .idle) :
    wnmSleepFsmHandleEvent timeoutOk u .enable
      = some { u with wnm := { u.wnm with
          fsmInst := .at .entryRequested
          retryTimeouts := u.wnm.retryTimeouts + timeoutOk.toNat } } := by
  obtain ⟨conn, ⟨inst, callback, counter, waiting, timers, log⟩, iface, config, txPaused, drv⟩ := u
  obtain rfl : inst = _ := hinst
  cases timeoutOk <;> rfl

theorem handleEvent_retryRequest {enabled : Bool} (hinst : u.wnm.fsmInst = .at (requestedState enabled)) :
    wnmSleepFsmHandleEvent timeoutOk u .retryRequest
      = some { u with wnm := { u.wnm with retryTimeouts := timeoutOk.toNat } } := by
  obtain ⟨conn, ⟨inst, callback, counter, waiting, timers, log⟩, iface, config, txPaused, drv⟩ := u
  obtain rfl : inst = _ := hinst
  cases timeoutOk <;> cases enabled <;> rfl

theorem handleEvent_ends {enabled : Bool} {event : WnmSleepFsmEvent} {status : MmwlanStatus}
    (hinst : u.wnm.fsmInst = .at (requestedState enabled)) (hcallback : u.wnm.callback = true)
    (hwaiting : u.wnm.waiting = true) (hstatus : requestOutcome enabled (some event) = some status)
    (hevent : event ≠ .entryConfirmed) :
    wnmSleepFsmHandleEvent timeoutOk u event
      = some { u with wnm := answered u.wnm .idle event status } := by
  obtain ⟨conn, ⟨inst, callback, counter, waiting, timers, log⟩, iface, config, txPaused, drv⟩ := u
  obtain rfl : inst = _ := hinst
  obtain rfl : callback = true := hcallback
  obtain rfl : waiting = true := hwaiting
  cases enabled <;> cases event <;> cases hstatus <;> first | rfl | exact absurd rfl hevent

theorem handleEvent_entryConfirmed (hinst : u.wnm.fsmInst = .at .entryRequested)
    (hcallback : u.wnm.callback = true) (hwaiting : u.wnm.waiting = true)
    (hsta : u.iface.staActive = true) (hstarted : u.drv.started = true) :
    wnmSleepFsmHandleEvent timeoutOk u .entryConfirmed
      = some { asleep u with wnm := answered u.wnm .active .entryConfirmed .success } := by
  obtain ⟨conn, ⟨inst, callback, counter, waiting, timers, log⟩, iface, config, txPaused, drv⟩ := u
  obtain rfl : inst = _ := hinst
  obtain rfl : callback = true := hcallback
  obtain rfl : waiting = true := hwaiting
  have hentry := @wnmSleepFsmActiveEntry_eq
    ⟨conn, { answered ⟨.at .entryRequested, true, counter, true, timers, log⟩ .active .entryConfirmed
      .success with fsmInst := ⟨.active, true, none⟩ }, iface, config, txPaused, drv⟩ hsta hstarted
  exact Fsm.handleEvent_of_row (m := wnmSleepFsm timeoutOk) (p := .entryRequested) (q := .active)
    (s := ⟨conn, ⟨.at .entryRequested, true, counter, true, timers, log⟩, iface, config, txPaused,
      drv⟩) (e := .entryConfirmed) 0 (fun _ _ => rfl) rfl rfl rfl rfl rfl hentry rfl

theorem handleEvent_disable (hinst : u.wnm.fsmInst = .at .active) (hvif : u.conn.vifValid = true)
    (hsta : u.iface.staActive = true) (hkept : ChannelKept u) :
    wnmSleepFsmHandleEvent timeoutOk u .disable
      = some { awake u with wnm := { u.wnm with
          fsmInst := .at .exitRequested
          retryTimeouts := u.wnm.retryTimeouts + timeoutOk.toNat } } := by
  obtain ⟨conn, ⟨inst, callback, counter, waiting, timers, log⟩, iface, config, txPaused, drv⟩ := u
  obtain rfl : inst = _ := hinst
  have hexit := @wnmSleepFsmActiveExit_eq
    ⟨conn, ⟨⟨.active, true, none⟩, callback, counter, waiting, timers, log⟩, iface, config, txPaused,
      drv⟩ hvif hsta hkept
  refine (Fsm.handleEvent_of_row (m := wnmSleepFsm timeoutOk) (p := .active) (q := .exitRequested)
    (s := ⟨conn, ⟨.at .active, callback, counter, waiting, timers, log⟩, iface, config, txPaused,
      drv⟩) (e := .disable) 0 (fun _ _ => rfl) rfl rfl rfl rfl hexit rfl ?_).trans ?_
  · unfold awake
    cases config.chipPowerdownEnabled <;> cases timeoutOk <;> rfl
  · unfold awake
    cases config.chipPowerdownEnabled <;> cases timeoutOk <;> rfl

theorem handleEvent_lost (hinst : u.wnm.fsmInst = .at .active) (hvif : u.conn.vifValid = true)
    (hsta : u.iface.staActive = true) (hkept : ChannelKept u) :
    wnmSleepFsmHandleEvent timeoutOk u .connectionLost
      = some { awake u with wnm := { u.wnm with fsmInst := .at .idle } } := by
  obtain ⟨conn, ⟨inst, callback, counter, waiting, timers, log⟩, iface, config, txPaused, drv⟩ := u
  obtain rfl : inst = _ := hinst
  have hexit := @wnmSleepFsmActiveExit_eq
    ⟨conn, ⟨⟨.active, true, none⟩, callback, counter, waiting, timers, log⟩, iface, config, txPaused,
      drv⟩ hvif hsta hkept
  refine (Fsm.handleEvent_of_row (m := wnmSleepFsm timeoutOk) (p := .active) (q := .idle)
    (s := ⟨conn, ⟨.at .active, callback, counter, waiting, timers, log⟩, iface, config, txPaused,
      drv⟩) (e := .connectionLost) 0 (fun _ _ => rfl) rfl rfl rfl rfl hexit rfl ?_).trans ?_
  · unfold awake
    cases config.chipPowerdownEnabled <;> rfl
  · unfold awake
    cases config.chipPowerdownEnabled <;> rfl

end Transitions

end MmIotEsp32.Umac.WnmSleep
