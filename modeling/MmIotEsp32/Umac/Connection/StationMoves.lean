/-
  MmIotEsp32.Umac.Connection.StationMoves

  What the events do to a station, and the invariant of its runs.

  What happens to WNM sleep is one of nine moves (`WnmMove`).  Every other event is a move of the
  connection or of the interfaces, or it keeps what the moves are about (`SameStation`).
-/
import MmIotEsp32.Umac.Connection.Connection

namespace MmIotEsp32.Umac.Connection

open Lib Interface Keys WnmSleep

/-! ## The invariant -/

/-- A request waits for the access point. -/
def WnmRequested (u : Umac) : Prop :=
  u.wnm.fsmInst.currentState = .entryRequested ∨ u.wnm.fsmInst.currentState = .exitRequested

/-- The chip is powered down while the station sleeps. -/
def PoweredDown (u : Umac) : Prop :=
  u.wnm.fsmInst.currentState = .active ∧ u.config.chipPowerdownEnabled = true

theorem not_poweredDown {u : Umac} (h : u.wnm.fsmInst.currentState ≠ .active) : ¬ PoweredDown u :=
  fun h' => h h'.1

/-- No machine handles an event; a request has its callback; only a connected station sleeps; the
chip is started with the interfaces, unless it is powered down. -/
structure StationOk (u : Umac) : Prop where
  connInst : u.conn.fsmInst = .at u.conn.fsmInst.currentState
  wnmInst : u.wnm.fsmInst = .at u.wnm.fsmInst.currentState
  callback : u.wnm.callback = true ↔ WnmRequested u
  waiting : u.wnm.waiting = u.wnm.callback
  timers : u.wnm.retryTimeouts ≠ 0 → WnmRequested u
  wnmConnected : u.wnm.fsmInst.currentState ≠ .idle → u.conn.fsmInst.currentState = .connected
  connectedVif : u.conn.fsmInst.currentState = .connected → u.conn.vifValid = true
  modeSta : u.conn.modeSta = u.conn.vifValid
  staActive : u.iface.staActive = u.conn.vifValid
  started : u.drv.started = true ↔ umacInterfaceIsActive u = true ∧ ¬ PoweredDown u
  kept : ChannelKept u
  inactive : umacInterfaceIsActive u = false → u.iface.currentS1gOperation = .zero

theorem stationOk_init (config : UmacConfigData) : StationOk (umacInit config) where
  connInst := rfl
  wnmInst := rfl
  callback := ⟨(by intro h; cases h), (by rintro (h | h) <;> cases h)⟩
  waiting := rfl
  timers := fun h => absurd rfl h
  wnmConnected := fun h => absurd rfl h
  connectedVif := fun h => by cases h
  modeSta := rfl
  staActive := rfl
  started := ⟨(by intro h; cases h), fun h => h.1⟩
  kept := fun h => absurd rfl h
  inactive := fun _ => rfl

section Facts

variable {u : Umac}

theorem StationOk.vif (hok : StationOk u) (h : u.wnm.fsmInst.currentState ≠ .idle) :
    u.conn.vifValid = true := hok.connectedVif (hok.wnmConnected h)

theorem StationOk.sta (hok : StationOk u) (h : u.wnm.fsmInst.currentState ≠ .idle) :
    u.iface.staActive = true := hok.staActive.trans (hok.vif h)

theorem StationOk.drvStarted (hok : StationOk u) (hvif : u.conn.vifValid = true)
    (hawake : u.wnm.fsmInst.currentState ≠ .active) : u.drv.started = true := by
  refine hok.started.mpr ⟨?_, fun h => hawake h.1⟩
  unfold umacInterfaceIsActive
  rw [hok.staActive, hvif, Bool.true_or]

theorem StationOk.isConnected (hok : StationOk u) (h : u.wnm.fsmInst.currentState ≠ .idle) :
    umacConnectionIsConnected u = true := by
  unfold umacConnectionIsConnected
  rw [hok.modeSta, hok.vif h, hok.wnmConnected h]
  rfl

theorem StationOk.callback_of_requested (hok : StationOk u) (h : WnmRequested u) :
    u.wnm.callback = true ∧ u.wnm.waiting = true :=
  ⟨hok.callback.mpr h, hok.waiting.trans (hok.callback.mpr h)⟩

theorem StationOk.no_callback (hok : StationOk u) (h : ¬ WnmRequested u) :
    u.wnm.callback = false ∧ u.wnm.waiting = false := by
  have hcallback : u.wnm.callback = false := Bool.eq_false_iff.mpr (mt hok.callback.mp h)
  exact ⟨hcallback, hok.waiting.trans hcallback⟩

end Facts

/-! ## Settings of the chip -/

@[simp] theorem MmdrvData.tell_started (d : MmdrvData) (f : Chip → Chip) :
    (d.tell f).started = d.started := by
  unfold MmdrvData.tell
  split <;> rfl

@[simp] theorem MmdrvData.tell_periodicCheckVetoes (d : MmdrvData) (f : Chip → Chip) :
    (d.tell f).periodicCheckVetoes = d.periodicCheckVetoes := by
  unfold MmdrvData.tell
  split <;> rfl

theorem MmdrvData.tell_wnmSleep (d : MmdrvData) {f : Chip → Chip}
    (hf : (f d.chip).wnmSleep = d.chip.wnmSleep) :
    (d.tell f).chip.wnmSleep = d.chip.wnmSleep := by
  unfold MmdrvData.tell
  split
  · exact hf
  · rfl

/-- The same station, but for settings and keys of the chip and for the channel. -/
structure SameStation (u u' : Umac) : Prop where
  connInst : u'.conn.fsmInst = u.conn.fsmInst
  vifValid : u'.conn.vifValid = u.conn.vifValid
  modeSta : u'.conn.modeSta = u.conn.modeSta
  wnm : u'.wnm = u.wnm
  staActive : u'.iface.staActive = u.iface.staActive
  scanActive : u'.iface.scanActive = u.iface.scanActive
  power : u'.config.chipPowerdownEnabled = u.config.chipPowerdownEnabled
  txPaused : u'.txPaused = u.txPaused
  started : u'.drv.started = u.drv.started
  vetoes : u'.drv.periodicCheckVetoes = u.drv.periodicCheckVetoes
  wnmSleep : u'.drv.chip.wnmSleep = u.drv.chip.wnmSleep

/-- The same channel, and the same list to find it in. -/
structure SameChannel (u u' : Umac) : Prop where
  channelList : u'.config.channelList = u.config.channelList
  maxSupportedBw : u'.config.maxSupportedBw = u.config.maxSupportedBw
  operation : u'.iface.currentS1gOperation = u.iface.currentS1gOperation
  lastChannel : u'.iface.lastChannel = u.iface.lastChannel

section Same

variable {u u' : Umac}

theorem SameChannel.kept (h : SameChannel u u') (hkept : ChannelKept u) : ChannelKept u' := by
  unfold ChannelKept
  rw [h.channelList, h.maxSupportedBw, h.operation, h.lastChannel]
  exact hkept

theorem SameStation.isActive (h : SameStation u u') :
    umacInterfaceIsActive u' = umacInterfaceIsActive u := by
  unfold umacInterfaceIsActive
  rw [h.staActive, h.scanActive]

theorem SameStation.poweredDown (h : SameStation u u') : PoweredDown u' ↔ PoweredDown u := by
  unfold PoweredDown
  rw [h.wnm, h.power]

theorem SameStation.requested (h : SameStation u u') : WnmRequested u' ↔ WnmRequested u := by
  unfold WnmRequested
  rw [h.wnm]

theorem SameStation.ok (h : SameStation u u') (hok : StationOk u) (hkept : ChannelKept u')
    (hinactive : umacInterfaceIsActive u' = false → u'.iface.currentS1gOperation = .zero) :
    StationOk u' where
  connInst := by rw [h.connInst]; exact hok.connInst
  wnmInst := by rw [h.wnm]; exact hok.wnmInst
  callback := by rw [h.requested, h.wnm]; exact hok.callback
  waiting := by rw [h.wnm]; exact hok.waiting
  timers := by rw [h.requested, h.wnm]; exact hok.timers
  wnmConnected := by rw [h.wnm, h.connInst]; exact hok.wnmConnected
  connectedVif := by rw [h.connInst, h.vifValid]; exact hok.connectedVif
  modeSta := by rw [h.modeSta, h.vifValid]; exact hok.modeSta
  staActive := by rw [h.staActive, h.vifValid]; exact hok.staActive
  started := by rw [h.started, h.isActive, h.poweredDown]; exact hok.started
  kept := hkept
  inactive := hinactive

theorem SameStation.ok_of_sameChannel (h : SameStation u u') (hchannel : SameChannel u u')
    (hok : StationOk u) : StationOk u' := by
  refine h.ok hok (hchannel.kept hok.kept) fun hinactive => ?_
  rw [hchannel.operation]
  exact hok.inactive (h.isActive.symm.trans hinactive)

theorem SameStation.refl (u : Umac) : SameStation u u := ⟨rfl, rfl, rfl, rfl, rfl, rfl, rfl, rfl, rfl, rfl, rfl⟩

theorem SameStation.trans {u'' : Umac} (h : SameStation u u') (h' : SameStation u' u'') :
    SameStation u u'' where
  connInst := h'.connInst.trans h.connInst
  vifValid := h'.vifValid.trans h.vifValid
  modeSta := h'.modeSta.trans h.modeSta
  wnm := h'.wnm.trans h.wnm
  staActive := h'.staActive.trans h.staActive
  scanActive := h'.scanActive.trans h.scanActive
  power := h'.power.trans h.power
  txPaused := h'.txPaused.trans h.txPaused
  started := h'.started.trans h.started
  vetoes := h'.vetoes.trans h.vetoes
  wnmSleep := h'.wnmSleep.trans h.wnmSleep

theorem SameChannel.trans {u'' : Umac} (h : SameChannel u u') (h' : SameChannel u' u'') :
    SameChannel u u'' where
  channelList := h'.channelList.trans h.channelList
  maxSupportedBw := h'.maxSupportedBw.trans h.maxSupportedBw
  operation := h'.operation.trans h.operation
  lastChannel := h'.lastChannel.trans h.lastChannel

theorem sameStation_tell {conn : UmacConnectionData} {f : Chip → Chip}
    (hinst : conn.fsmInst = u.conn.fsmInst) (hvif : conn.vifValid = u.conn.vifValid)
    (hmode : conn.modeSta = u.conn.modeSta) (hf : (f u.drv.chip).wnmSleep = u.drv.chip.wnmSleep) :
    SameStation u { u with conn := conn, drv := u.drv.tell f } where
  connInst := hinst
  vifValid := hvif
  modeSta := hmode
  wnm := rfl
  staActive := rfl
  scanActive := rfl
  power := rfl
  txPaused := rfl
  started := u.drv.tell_started f
  vetoes := u.drv.tell_periodicCheckVetoes f
  wnmSleep := u.drv.tell_wnmSleep hf

theorem sameStation_setStaState (u : Umac) (state : MorseStaState) :
    SameStation u (umacConnectionSetStaState u state) := sameStation_tell rfl rfl rfl rfl

theorem sameStation_cfgQosQueue (u : Umac) (params : QosQueueParams) :
    SameStation u (cfgQosQueue u params) := sameStation_tell rfl rfl rfl rfl

theorem same_foldl {ι : Type} {f : Umac → ι → Umac}
    (hf : ∀ u i, SameStation u (f u i) ∧ SameChannel u (f u i)) (is : List ι) (u : Umac) :
    SameStation u (is.foldl f u) ∧ SameChannel u (is.foldl f u) := by
  induction is generalizing u with
  | nil => exact ⟨.refl u, ⟨rfl, rfl, rfl, rfl⟩⟩
  | cons i is ih =>
    obtain ⟨hsame, hchannel⟩ := hf u i
    exact ⟨hsame.trans (ih (f u i)).1, hchannel.trans (ih (f u i)).2⟩

theorem same_setDrvQosCfgDefault (u : Umac) :
    SameStation u (umacConnectionSetDrvQosCfgDefault u)
      ∧ SameChannel u (umacConnectionSetDrvQosCfgDefault u) :=
  same_foldl (fun u' _ => ⟨sameStation_cfgQosQueue u' _, ⟨rfl, rfl, rfl, rfl⟩⟩) _ u

theorem same_updateDrvQosCfg (u : Umac) (wmmIe : Aci → Dot11AcParameterRecord) :
    SameStation u (umacConnectionUpdateDrvQosCfg u wmmIe)
      ∧ SameChannel u (umacConnectionUpdateDrvQosCfg u wmmIe) := by
  refine same_foldl (fun u' aci => ?_) _ u
  split
  · exact ⟨.refl u', ⟨rfl, rfl, rfl, rfl⟩⟩
  · exact ⟨sameStation_cfgQosQueue u' _, ⟨rfl, rfl, rfl, rfl⟩⟩

theorem same_disconnectedEntry (prevState : ConnectionFsmState) (u : Umac) :
    SameStation u (connectionFsmDisconnectedEntry prevState u)
      ∧ SameChannel u (connectionFsmDisconnectedEntry prevState u) := by
  unfold connectionFsmDisconnectedEntry
  split
  · obtain ⟨v, hv⟩ : ∃ v : Umac, v = { umacConnectionSetStaState u .none with
        conn := { (umacConnectionSetStaState u .none).conn with bssid := fun _ => 0 } } := ⟨_, rfl⟩
    have hcleared : SameStation (umacConnectionSetStaState u .none) v := by
      rw [hv]
      exact ⟨rfl, rfl, rfl, rfl, rfl, rfl, rfl, rfl, rfl, rfl, rfl⟩
    have hchannel : SameChannel u v := by
      rw [hv]
      exact ⟨rfl, rfl, rfl, rfl⟩
    show SameStation u (umacConnectionSetDrvQosCfgDefault _)
      ∧ SameChannel u (umacConnectionSetDrvQosCfgDefault _)
    rw [← hv]
    obtain ⟨hsame, hqos⟩ := same_setDrvQosCfgDefault v
    exact ⟨((sameStation_setStaState u .none).trans hcleared).trans hsame, hchannel.trans hqos⟩
  · exact ⟨.refl u, ⟨rfl, rfl, rfl, rfl⟩⟩

end Same

/-! ## WNM sleep -/

/-- A record whose request is accepted, and not answered yet. -/
def accepted (w : UmacWnmSleepData) (enabled timeoutOk : Bool) : UmacWnmSleepData where
  fsmInst := .at (requestedState enabled)
  callback := true
  retryCounter := 0
  waiting := true
  retryTimeouts := w.retryTimeouts + timeoutOk.toNat
  log := w.log ++ [.accepted enabled]

/-- A record whose request is accepted and answered at once. -/
def settled (w : UmacWnmSleepData) (enabled : Bool) : UmacWnmSleepData where
  fsmInst := w.fsmInst
  callback := false
  retryCounter := 0
  waiting := false
  retryTimeouts := w.retryTimeouts
  log := w.log ++ [.accepted enabled] ++ [.answered none .unavailable]

/-- A record whose request is sent again. -/
def retried (w : UmacWnmSleepData) (timeoutOk : Bool) : UmacWnmSleepData where
  fsmInst := w.fsmInst
  callback := w.callback
  retryCounter := w.retryCounter + 1
  waiting := w.waiting
  retryTimeouts := timeoutOk.toNat
  log := w.log ++ [.retried]

/-- What can happen to WNM sleep in one event; `timeoutOk` is whether a retry timeout that it
registers is registered. -/
inductive WnmMove (timeoutOk : Bool) (u : Umac) : Umac → Prop
  | ignored : WnmMove timeoutOk u u
  | refused : WnmMove timeoutOk u (logRecord u .refused)
  | settled (enabled : Bool) (h : ¬ WnmRequested u) :
      WnmMove timeoutOk u { u with wnm := settled u.wnm enabled }
  | enter (power : Bool) (h : u.wnm.fsmInst.currentState = .idle)
      (hconn : u.conn.fsmInst.currentState = .connected) :
      WnmMove timeoutOk u { u with
        config := { u.config with chipPowerdownEnabled := power }
        wnm := accepted u.wnm true timeoutOk }
  | leave (h : u.wnm.fsmInst.currentState = .active) :
      WnmMove timeoutOk u { awake u with wnm := accepted u.wnm false timeoutOk }
  | sleep (h : u.wnm.fsmInst.currentState = .entryRequested) :
      WnmMove timeoutOk u
        { asleep u with wnm := answered u.wnm .active .entryConfirmed .success }
  | retried (enabled : Bool) (h : u.wnm.fsmInst.currentState = requestedState enabled)
      (hretries : u.wnm.retryCounter.toNat < wnmSleepMaxRetryReq) :
      WnmMove timeoutOk u { u with wnm := retried u.wnm timeoutOk }
  | ended (enabled : Bool) (event : WnmSleepFsmEvent) (status : MmwlanStatus)
      (h : u.wnm.fsmInst.currentState = requestedState enabled)
      (hstatus : requestOutcome enabled (some event) = some status) :
      WnmMove timeoutOk u { u with wnm := answered u.wnm .idle event status }
  | woken (h : u.wnm.fsmInst.currentState = .active) :
      WnmMove timeoutOk u { awake u with wnm := { u.wnm with fsmInst := .at .idle } }

/-- The retry timeouts that the event registers are registered. -/
def UmacEvent.timeoutOk : UmacEvent → Bool
  | .setWnmSleep _ _ timeoutOk | .wnmConfirmed _ timeoutOk | .retryTimeout timeoutOk => timeoutOk
  | _ => true

section Requests

variable {u : Umac} {timeoutOk : Bool}

/-- The station whose request has just been accepted. -/
def asked (u : Umac) (enabled : Bool) : Umac :=
  { u with wnm := { u.wnm with
    waiting := true
    callback := true
    retryCounter := 0
    log := u.wnm.log ++ [.accepted enabled] } }

theorem awake_asked (enabled : Bool) :
    awake (asked u enabled) = { awake u with wnm := (asked u enabled).wnm } := by
  unfold awake
  cases hpower : u.config.chipPowerdownEnabled <;> simp only [asked, hpower] <;> rfl

theorem register_free (enabled : Bool) (hfree : u.wnm.callback = false) :
    umacWnmSleepRegisterSemb u enabled = (asked u enabled, true) := by
  unfold umacWnmSleepRegisterSemb
  rw [if_neg (by simp [hfree])]
  rfl

theorem setWnmSleep_refused (enabled power : Bool)
    (h : umacConnectionIsConnected u = false ∨ u.wnm.callback = true) :
    umacSetWnmSleepEvtHandler timeoutOk u enabled power = some (logRecord u .refused) := by
  unfold umacSetWnmSleepEvtHandler
  by_cases hconn : umacConnectionIsConnected u = true
  · rw [if_pos hconn]
    unfold umacWnmSleepRegisterSemb
    rw [if_pos (h.resolve_left (by simp [hconn]))]
  · rw [if_neg hconn]

theorem setWnmSleep_enable (power : Bool) (hconn : umacConnectionIsConnected u = true)
    (hfree : u.wnm.callback = false) :
    umacSetWnmSleepEvtHandler timeoutOk u true power
      = umacWnmSleepReportEvent timeoutOk (umacWnmSleepSetChipPowerdown (asked u true) power)
          .requestEntry := by
  unfold umacSetWnmSleepEvtHandler
  rw [if_pos hconn, register_free true hfree]
  rfl

theorem setWnmSleep_disable (power : Bool) (hconn : umacConnectionIsConnected u = true)
    (hfree : u.wnm.callback = false) :
    umacSetWnmSleepEvtHandler timeoutOk u false power
      = umacWnmSleepReportEvent timeoutOk (asked u false) .requestExit := by
  unfold umacSetWnmSleepEvtHandler
  rw [if_pos hconn, register_free false hfree]
  rfl

theorem setChipPowerdown_idle (power : Bool) (h : u.wnm.fsmInst.currentState = .idle) :
    umacWnmSleepSetChipPowerdown u power
      = { u with config := { u.config with chipPowerdownEnabled := power } } :=
  if_pos (by rw [h]; decide)

theorem setChipPowerdown_active (power : Bool) (h : u.wnm.fsmInst.currentState = .active) :
    umacWnmSleepSetChipPowerdown u power = u := if_neg fun h' => h'.2 h

theorem report_requestEntry_idle (h : u.wnm.fsmInst.currentState = .idle) :
    umacWnmSleepReportEvent timeoutOk u .requestEntry
      = wnmSleepFsmHandleEvent timeoutOk u .enable := if_pos (.inl h)

theorem report_requestEntry_active (h : u.wnm.fsmInst.currentState = .active) :
    umacWnmSleepReportEvent timeoutOk u .requestEntry = answer u none .unavailable :=
  if_neg (by rw [h]; decide)

theorem report_requestExit_idle (h : u.wnm.fsmInst.currentState = .idle) :
    umacWnmSleepReportEvent timeoutOk u .requestExit = answer u none .unavailable :=
  if_neg (by rw [h]; decide)

theorem report_requestExit_active (h : u.wnm.fsmInst.currentState = .active) :
    umacWnmSleepReportEvent timeoutOk u .requestExit
      = wnmSleepFsmHandleEvent timeoutOk u .disable := if_pos (.inl h)

theorem answer_asked (enabled : Bool) :
    answer (asked u enabled) none .unavailable = some { u with wnm := settled u.wnm enabled } := rfl

theorem setWnmSleep_moves (hok : StationOk u) (enabled power : Bool) :
    ∃ u', umacSetWnmSleepEvtHandler timeoutOk u enabled power = some u' ∧ WnmMove timeoutOk u u'
      ∧ (u.wnm.fsmInst.currentState = .active →
          (u'.wnm.fsmInst.currentState = .active ↔ enabled = true)) := by
  by_cases hrefused : umacConnectionIsConnected u = false ∨ u.wnm.callback = true
  · refine ⟨_, setWnmSleep_refused enabled power hrefused, .refused, fun hactive => ?_⟩
    rcases hrefused with hconn | hcallback
    · rw [hok.isConnected (by rw [hactive]; decide)] at hconn
      cases hconn
    · rcases hok.callback.mp hcallback with h | h <;> rw [hactive] at h <;> cases h
  obtain ⟨hconn, hfree⟩ := not_or.mp hrefused
  have hquiet : ¬ WnmRequested u := mt hok.callback.mpr hfree
  rw [Bool.not_eq_false] at hconn
  rw [Bool.not_eq_true] at hfree
  have hinst := hok.wnmInst
  cases hq : u.wnm.fsmInst.currentState with
  | entryRequested => exact absurd (.inl hq) hquiet
  | exitRequested => exact absurd (.inr hq) hquiet
  | idle =>
    rw [hq] at hinst
    cases enabled with
    | true =>
      have hconnected : u.conn.fsmInst.currentState = .connected := by
        unfold umacConnectionIsConnected at hconn
        simpa using (Bool.and_eq_true_iff.mp hconn).2
      refine ⟨_, ?_, .enter power hq hconnected, fun h => by cases h⟩
      rw [setWnmSleep_enable power hconn hfree,
        setChipPowerdown_idle (u := asked u true) power hq,
        report_requestEntry_idle (by exact hq)]
      exact handleEvent_enable hinst
    | false =>
      refine ⟨_, ?_, .settled false hquiet, fun h => by cases h⟩
      rw [setWnmSleep_disable power hconn hfree,
        report_requestExit_idle (u := asked u false) hq]
      exact answer_asked false
  | active =>
    rw [hq] at hinst
    have hne : u.wnm.fsmInst.currentState ≠ .idle := by rw [hq]; decide
    cases enabled with
    | true =>
      refine ⟨_, ?_, .settled true hquiet, fun _ => by simp [settled, hq]⟩
      rw [setWnmSleep_enable power hconn hfree,
        setChipPowerdown_active (u := asked u true) power hq,
        report_requestEntry_active (u := asked u true) hq]
      exact answer_asked true
    | false =>
      refine ⟨_, ?_, .leave hq,
        fun _ => by simp [accepted, requestedState, FsmInstance.at]⟩
      rw [setWnmSleep_disable power hconn hfree,
        report_requestExit_active (u := asked u false) hq,
        handleEvent_disable (u := asked u false) hinst (hok.vif hne) (hok.sta hne) hok.kept,
        awake_asked]
      rfl

theorem wnmConfirmed_moves (hok : StationOk u) (enabled : Bool) :
    ∃ u', umacWnmSleepReportEvent timeoutOk u (if enabled then .entryConfirmed else .exitConfirmed)
        = some u' ∧ WnmMove timeoutOk u u' ∧ (u.wnm.fsmInst.currentState = .active → u' = u) := by
  have hinst := hok.wnmInst
  cases enabled with
  | true =>
    by_cases hq : u.wnm.fsmInst.currentState = .entryRequested
    · rw [hq] at hinst
      obtain ⟨hcallback, hwaiting⟩ := hok.callback_of_requested (.inl hq)
      have hne : u.wnm.fsmInst.currentState ≠ .idle := by rw [hq]; decide
      refine ⟨_, ?_, .sleep hq, fun h => by rw [hq] at h; cases h⟩
      refine (if_pos hq).trans ?_
      exact handleEvent_entryConfirmed hinst hcallback hwaiting (hok.sta hne)
        (hok.drvStarted (hok.vif hne) (by rw [hq]; decide))
    · exact ⟨u, if_neg hq, .ignored, fun _ => rfl⟩
  | false =>
    by_cases hq : u.wnm.fsmInst.currentState = .exitRequested
    · rw [hq] at hinst
      obtain ⟨hcallback, hwaiting⟩ := hok.callback_of_requested (.inr hq)
      refine ⟨_, ?_, .ended false .exitConfirmed .success hq rfl, fun h => by rw [hq] at h; cases h⟩
      refine (if_pos hq).trans ?_
      exact @handleEvent_ends u timeoutOk false _ _ hinst hcallback hwaiting rfl (by decide)
    · exact ⟨u, if_neg hq, .ignored, fun _ => rfl⟩

theorem WnmRequested.state (h : WnmRequested u) :
    ∃ enabled, u.wnm.fsmInst.currentState = requestedState enabled := by
  rcases h with h | h
  · exact ⟨true, h⟩
  · exact ⟨false, h⟩

theorem wnmRequested_of_state {enabled : Bool}
    (h : u.wnm.fsmInst.currentState = requestedState enabled) : WnmRequested u := by
  cases enabled with
  | true => exact .inl h
  | false => exact .inr h

theorem retryTimeoutExpired_eq (hok : StationOk u) (htimers : u.wnm.retryTimeouts ≠ 0) :
    retryTimeoutExpired timeoutOk u
      = some (if u.wnm.retryCounter.toNat < wnmSleepMaxRetryReq then
          { u with wnm := retried u.wnm timeoutOk }
        else { u with wnm := answered u.wnm .idle .retriesExhausted .timedOut }) := by
  have hrequested := hok.timers htimers
  obtain ⟨enabled, hq⟩ := hrequested.state
  obtain ⟨hcallback, hwaiting⟩ := hok.callback_of_requested hrequested
  have hinst := hok.wnmInst
  rw [hq] at hinst
  unfold retryTimeoutExpired
  rw [if_neg htimers]
  unfold umacWnmSleepRetryRequest
  by_cases hretries : u.wnm.retryCounter.toNat < wnmSleepMaxRetryReq
  · rw [if_pos (show u.wnm.retryCounter.toNat < wnmSleepMaxRetryReq from hretries), if_pos hretries]
    exact handleEvent_retryRequest hinst
  · rw [if_neg (show ¬ u.wnm.retryCounter.toNat < wnmSleepMaxRetryReq from hretries), if_neg hretries]
    exact handleEvent_ends hinst hcallback hwaiting rfl (by decide)

theorem retryTimeout_moves (hok : StationOk u) :
    ∃ u', retryTimeoutExpired timeoutOk u = some u' ∧ WnmMove timeoutOk u u'
      ∧ (u.wnm.fsmInst.currentState = .active → u' = u) := by
  by_cases hnone : u.wnm.retryTimeouts = 0
  · exact ⟨u, if_pos hnone, .ignored, fun _ => rfl⟩
  obtain ⟨enabled, hq⟩ := (hok.timers hnone).state
  have hactive : u.wnm.fsmInst.currentState ≠ .active := by
    rw [hq]
    cases enabled <;> decide
  refine ⟨_, retryTimeoutExpired_eq hok hnone, ?_, fun h => absurd h hactive⟩
  by_cases hretries : u.wnm.retryCounter.toNat < wnmSleepMaxRetryReq
  · rw [if_pos hretries]
    exact .retried enabled hq hretries
  · rw [if_neg hretries]
    exact .ended enabled .retriesExhausted .timedOut hq rfl

theorem connectionLost_moves (hok : StationOk u) {inst : FsmInstance ConnectionFsmState ConnectionFsmEvent}
    (hconn : u.conn.fsmInst.currentState = .connected) (hinst : inst.currentState = .connected) :
    ∃ v, WnmMove timeoutOk u v ∧ v.wnm.fsmInst.currentState = .idle
      ∧ umacWnmSleepReportEvent timeoutOk { u with conn := { u.conn with fsmInst := inst } }
          .connectionLost = some { v with conn := { u.conn with fsmInst := inst } } := by
  have hwnm := hok.wnmInst
  by_cases hq : u.wnm.fsmInst.currentState = .idle
  · exact ⟨u, .ignored, hq, if_neg (not_not.mpr hq)⟩
  by_cases hactive : u.wnm.fsmInst.currentState = .active
  · rw [hactive] at hwnm
    refine ⟨_, .woken hactive, rfl, ?_⟩
    refine (if_pos hq).trans ?_
    rw [handleEvent_lost (u := { u with conn := { u.conn with fsmInst := inst } }) hwnm
      (hok.vif hq) (hok.sta hq) hok.kept]
    unfold awake restored restoredChip RestartsAsleep
    cases hpower : u.config.chipPowerdownEnabled <;> simp [hconn, hinst]
  have hrequested : WnmRequested u := by
    cases hstate : u.wnm.fsmInst.currentState with
    | idle => exact absurd hstate hq
    | active => exact absurd hstate hactive
    | entryRequested => exact .inl hstate
    | exitRequested => exact .inr hstate
  obtain ⟨enabled, hstate⟩ := hrequested.state
  obtain ⟨hcallback, hwaiting⟩ := hok.callback_of_requested hrequested
  rw [hstate] at hwnm
  refine ⟨_, .ended enabled .connectionLost (if enabled then .error else .success) hstate rfl,
    rfl, ?_⟩
  refine (if_pos hq).trans ?_
  exact handleEvent_ends (u := { u with conn := { u.conn with fsmInst := inst } }) hwnm hcallback
    hwaiting rfl (by decide)

end Requests

/-! ## The connection -/

/-- The station in another state of the connection. -/
def inState (u : Umac) (q : ConnectionFsmState) : Umac :=
  { u with conn := { u.conn with fsmInst := .at q } }

/-- What can happen to the connection in one event of its machine. -/
inductive ConnMove (u : Umac) : Umac → Prop
  | ignored : ConnMove u u
  | authenticating (h : u.conn.fsmInst.currentState ≠ .connected) :
      ConnMove u (inState u .authenticating)
  | connecting (h : u.conn.fsmInst.currentState = .authenticating) :
      ConnMove u (connectionFsmConnectingEntry (inState u .connecting))
  | connected (h : u.conn.fsmInst.currentState = .connecting) :
      ConnMove u (connectionFsmConnectedEntry (inState u .connected))
  | disconnected (h : u.conn.fsmInst.currentState ≠ .connected)
      (hne : u.conn.fsmInst.currentState ≠ .disconnected) :
      ConnMove u
        (connectionFsmDisconnectedEntry u.conn.fsmInst.currentState (inState u .disconnected))
  | lost (v : Umac) (h : u.conn.fsmInst.currentState = .connected) (hmove : WnmMove true u v)
      (hidle : v.wnm.fsmInst.currentState = .idle) :
      ConnMove u (connectionFsmDisconnectedEntry .connected (inState v .disconnected))

section Connection

variable {u : Umac}

theorem WnmMove.conn {v : Umac} {timeoutOk : Bool} (h : WnmMove timeoutOk u v) : v.conn = u.conn := by
  have hawake : (awake u).conn = u.conn := by
    unfold awake
    cases u.config.chipPowerdownEnabled <;> rfl
  cases h <;> first | rfl | exact hawake

theorem setDrvQosCfgDefault_withInst (inst : FsmInstance ConnectionFsmState ConnectionFsmEvent)
    (u : Umac) :
    umacConnectionSetDrvQosCfgDefault (connectionFsm.withInst inst u)
      = connectionFsm.withInst inst (umacConnectionSetDrvQosCfgDefault u) :=
  @List.foldl_hom _ _ _ (connectionFsm.withInst inst)
    (fun u' aci => cfgQosQueue u' (u.config.defaultQosQueueParams aci))
    (fun u' aci => cfgQosQueue u' (u.config.defaultQosQueueParams aci)) _ _ fun _ _ => rfl

theorem connectionFsmDisconnectedEntry_withInst (prevState : ConnectionFsmState)
    (inst : FsmInstance ConnectionFsmState ConnectionFsmEvent) (u : Umac) :
    connectionFsmDisconnectedEntry prevState (connectionFsm.withInst inst u)
      = connectionFsm.withInst inst (connectionFsmDisconnectedEntry prevState u) := by
  unfold connectionFsmDisconnectedEntry
  split
  · exact setDrvQosCfgDefault_withInst inst
      { umacConnectionSetStaState u .none with
        conn := { (umacConnectionSetStaState u .none).conn with bssid := fun _ => 0 } }
  · rfl

theorem connectionFsm_lost (hok : StationOk u) (hconn : u.conn.fsmInst.currentState = .connected) :
    ∃ v, WnmMove true u v ∧ v.wnm.fsmInst.currentState = .idle
      ∧ connectionFsmHandleEvent u .disconnect
        = some (connectionFsmDisconnectedEntry .connected (inState v .disconnected)) := by
  have hinst := hok.connInst
  rw [hconn] at hinst
  obtain ⟨v, hmove, hidle, hexit⟩ := @connectionLost_moves u true hok ⟨.connected, true, none⟩ hconn rfl
  refine ⟨v, hmove, hidle, ?_⟩
  have hv : ({ v with conn := { u.conn with fsmInst := ⟨.connected, true, none⟩ } } : Umac)
      = connectionFsm.withInst ⟨.connected, true, none⟩ v := by
    rw [← hmove.conn]
    rfl
  rw [hv] at hexit
  have hentered := connectionFsmDisconnectedEntry_withInst .connected ⟨.disconnected, true, none⟩ v
  have hevent := Fsm.handleEvent_of_row (m := connectionFsm) (p := .connected) (q := .disconnected)
    (s := u) (e := .disconnect) 0 (fun _ _ => rfl) hinst rfl rfl rfl hexit (congrArg some hentered) rfl
  refine hevent.trans (congrArg some ?_)
  rw [show inState v .disconnected = connectionFsm.withInst (.at .disconnected) v from rfl,
    connectionFsmDisconnectedEntry_withInst]
  rfl

theorem connectionFsm_disconnected {p : ConnectionFsmState} (hinst : u.conn.fsmInst = .at p)
    (hp : p ≠ .connected) :
    connectionFsmHandleEvent u .disconnect
      = some (connectionFsmDisconnectedEntry p (inState u .disconnected)) := by
  have hexit : connectionFsm.exit p .disconnect (connectionFsm.withInst ⟨p, true, none⟩ u)
      = some (connectionFsm.withInst ⟨p, true, none⟩ u) := by
    cases p <;> first | rfl | exact absurd rfl hp
  have hrow : connectionFsm.row? p .disconnect = some
      ⟨[.authenticating, .connected, .connecting, .disabled, .disconnected], [.disconnect],
        some .disconnected, none⟩ := by
    cases p <;> rfl
  have hentered := connectionFsmDisconnectedEntry_withInst p ⟨.disconnected, true, none⟩ u
  have hevent := Fsm.handleEvent_of_row (m := connectionFsm) (p := p) (q := .disconnected)
    (s := u) (e := .disconnect) 0 (fun _ _ => rfl) hinst hrow rfl rfl hexit
    (congrArg some hentered) rfl
  refine hevent.trans (congrArg some ?_)
  rw [show inState u .disconnected = connectionFsm.withInst (.at .disconnected) u from rfl,
    connectionFsmDisconnectedEntry_withInst]
  rfl

theorem connectionFsm_disconnect (hok : StationOk u) :
    ∃ v, connectionFsmHandleEvent u .disconnect = some v ∧ ConnMove u v
      ∧ v.conn.fsmInst.currentState = .disconnected ∧ v.wnm.fsmInst.currentState = .idle := by
  by_cases hq : u.conn.fsmInst.currentState = .connected
  · obtain ⟨v, hmove, hidle, hlost⟩ := connectionFsm_lost hok hq
    refine ⟨_, hlost, .lost v hq hmove hidle, ?_, ?_⟩
    · rw [(same_disconnectedEntry .connected (inState v .disconnected)).1.connInst]
      rfl
    · rw [(same_disconnectedEntry .connected (inState v .disconnected)).1.wnm]
      exact hidle
  have hinst := hok.connInst
  have hidle : u.wnm.fsmInst.currentState = .idle := not_not.mp fun h => hq (hok.wnmConnected h)
  rw [connectionFsm_disconnected hinst hq]
  by_cases hp : u.conn.fsmInst.currentState = .disconnected
  · -- a self-transition, which does nothing
    refine ⟨u, ?_, .ignored, hp, hidle⟩
    rw [hp] at hinst ⊢
    unfold inState
    rw [← hinst]
    rfl
  refine ⟨_, rfl, .disconnected hq hp, ?_, ?_⟩
  · rw [(same_disconnectedEntry u.conn.fsmInst.currentState (inState u .disconnected)).1.connInst]
    rfl
  · rw [(same_disconnectedEntry u.conn.fsmInst.currentState (inState u .disconnected)).1.wnm]
    exact hidle

variable {event : ConnectionFsmEvent}

theorem connectionFsm_other (hok : StationOk u) (hq : u.conn.fsmInst.currentState ≠ .connected)
    (hevent : event ≠ .disconnect) :
    ∃ u', connectionFsmHandleEvent u event = some u' ∧ ConnMove u u'
      ∧ (u'.conn.fsmInst.currentState = .disconnected →
          u.conn.fsmInst.currentState = .disconnected) := by
  have hinst := hok.connInst
  cases event with
  | disconnect => exact absurd rfl hevent
  | suppPortOpen =>
    by_cases hp : u.conn.fsmInst.currentState = .connecting
    · refine ⟨_, ?_, .connected hp, nofun⟩
      rw [hp] at hinst
      obtain ⟨⟨inst, _, _, _, _, _, _, _⟩, wnm, iface, config, txPaused, drv⟩ := u
      obtain rfl : inst = _ := hinst
      rfl
    refine ⟨u, ?_, .ignored, id⟩
    obtain ⟨⟨inst, _, _, _, _, _, _, _⟩, wnm, iface, config, txPaused, drv⟩ := u
    obtain ⟨p, hinst⟩ : ∃ p, inst = .at p := ⟨_, hinst⟩
    obtain rfl := hinst
    cases p <;> first | rfl | exact absurd rfl hp
  | authRequest =>
    by_cases hp : u.conn.fsmInst.currentState = .disabled
    · refine ⟨u, ?_, .ignored, id⟩
      rw [hp] at hinst
      obtain ⟨⟨inst, _, _, _, _, _, _, _⟩, wnm, iface, config, txPaused, drv⟩ := u
      obtain rfl : inst = _ := hinst
      rfl
    refine ⟨_, ?_, .authenticating hq, nofun⟩
    obtain ⟨⟨inst, _, _, _, _, _, _, _⟩, wnm, iface, config, txPaused, drv⟩ := u
    obtain ⟨p, hinst⟩ : ∃ p, inst = .at p := ⟨_, hinst⟩
    obtain rfl := hinst
    cases p <;> first | rfl | exact absurd rfl hp | exact absurd rfl hq
  | assocRequest =>
    by_cases hp : u.conn.fsmInst.currentState = .authenticating
    · refine ⟨_, ?_, .connecting hp, nofun⟩
      rw [hp] at hinst
      obtain ⟨⟨inst, _, _, _, _, _, _, _⟩, wnm, iface, config, txPaused, drv⟩ := u
      obtain rfl : inst = _ := hinst
      rfl
    refine ⟨u, ?_, .ignored, id⟩
    obtain ⟨⟨inst, _, _, _, _, _, _, _⟩, wnm, iface, config, txPaused, drv⟩ := u
    obtain ⟨p, hinst⟩ : ∃ p, inst = .at p := ⟨_, hinst⟩
    obtain rfl := hinst
    cases p <;> first | rfl | exact absurd rfl hp

theorem connectionFsm_ignored (hok : StationOk u) (hq : u.conn.fsmInst.currentState = .connected)
    (hevent : event ≠ .disconnect) : connectionFsmHandleEvent u event = some u := by
  have hinst := hok.connInst
  rw [hq] at hinst
  obtain ⟨⟨inst, _, _, _, _, _, _, _⟩, wnm, iface, config, txPaused, drv⟩ := u
  obtain rfl : inst = _ := hinst
  cases event with
  | disconnect => exact absurd rfl hevent
  | suppPortOpen | authRequest | assocRequest => rfl

theorem connectionFsm_enters (hok : StationOk u) {u' : Umac}
    (h : connectionFsmHandleEvent u event = some u')
    (hq : u.conn.fsmInst.currentState ≠ .disconnected) :
    u'.conn.fsmInst.currentState = .disconnected ↔ event = .disconnect := by
  by_cases hevent : event = .disconnect
  · obtain rfl := hevent
    obtain ⟨v, hv, -, hdisconnected, -⟩ := connectionFsm_disconnect hok
    obtain rfl := Option.some.inj (hv.symm.trans h)
    exact iff_of_true hdisconnected rfl
  refine iff_of_false (fun hdisconnected => hq ?_) hevent
  by_cases hconn : u.conn.fsmInst.currentState = .connected
  · obtain rfl := Option.some.inj ((connectionFsm_ignored hok hconn hevent).symm.trans h)
    exact hdisconnected
  · obtain ⟨v, hv, -, hstays⟩ := connectionFsm_other hok hconn hevent
    obtain rfl := Option.some.inj (hv.symm.trans h)
    exact hstays hdisconnected

theorem connectionFsm_moves (hok : StationOk u) (event : ConnectionFsmEvent) :
    ∃ u', connectionFsmHandleEvent u event = some u' ∧ ConnMove u u'
      ∧ (u.wnm.fsmInst.currentState = .active →
          (u'.wnm.fsmInst.currentState = .active ↔ event ≠ .disconnect)) := by
  by_cases hevent : event = .disconnect
  · obtain rfl := hevent
    obtain ⟨v, h, hmove, -, hidle⟩ := connectionFsm_disconnect hok
    refine ⟨v, h, hmove, fun _ => ?_⟩
    rw [hidle]
    exact ⟨fun h => (by cases h), fun h => absurd rfl h⟩
  by_cases hq : u.conn.fsmInst.currentState = .connected
  · exact ⟨u, connectionFsm_ignored hok hq hevent, .ignored, fun h => by simp [h, hevent]⟩
  · obtain ⟨u', h, hmove, -⟩ := connectionFsm_other hok hq hevent
    exact ⟨u', h, hmove, fun hactive => absurd (hok.wnmConnected (by rw [hactive]; decide)) hq⟩

theorem ConnMove.vif {v : Umac} (h : ConnMove u v) : v.conn.vifValid = u.conn.vifValid := by
  cases h with
  | ignored | authenticating h | connecting h | connected h => rfl
  | disconnected h hne => exact (same_disconnectedEntry _ _).1.vifValid
  | lost w h hmove hidle =>
    rw [(same_disconnectedEntry _ _).1.vifValid]
    show w.conn.vifValid = u.conn.vifValid
    rw [hmove.conn]

end Connection

/-! ## The invariant is kept -/

section Kept

variable {u v u' : Umac}

theorem awake_flags (u : Umac) :
    (awake u).conn = u.conn ∧ (awake u).iface.staActive = u.iface.staActive
      ∧ (awake u).iface.scanActive = u.iface.scanActive
      ∧ (awake u).config.chipPowerdownEnabled = false := by
  unfold awake
  cases hpower : u.config.chipPowerdownEnabled with
  | true => exact ⟨rfl, rfl, rfl, rfl⟩
  | false => exact ⟨rfl, rfl, rfl, hpower⟩

theorem restored_kept (hkept : ChannelKept u) : ChannelKept (restored u) := by
  intro hne
  unfold restored at hne ⊢
  dsimp only at hne ⊢
  by_cases hindex : u.iface.currentS1gOperation.operatingChannelIndex = 0
  · rw [if_pos hindex] at hne
    exact absurd rfl hne
  · rw [if_neg hindex] at hne ⊢
    exact hkept hne

theorem awake_kept (hkept : ChannelKept u) : ChannelKept (awake u) := by
  unfold awake
  cases u.config.chipPowerdownEnabled with
  | true => exact restored_kept (u := { u with drv := mmdrvInit }) hkept
  | false => exact hkept

theorem awake_started (hok : StationOk u) (hactive : u.wnm.fsmInst.currentState = .active) :
    (awake u).drv.started = true := by
  unfold awake
  cases hpower : u.config.chipPowerdownEnabled with
  | true => rfl
  | false =>
    refine (u.drv.tell_started _).trans (hok.started.mpr ⟨?_, fun h => ?_⟩)
    · unfold umacInterfaceIsActive
      rw [hok.sta (by rw [hactive]; decide), Bool.true_or]
    · rw [h.2] at hpower
      cases hpower

theorem stationOk_awake (hok : StationOk u) (hactive : u.wnm.fsmInst.currentState = .active)
    {w : UmacWnmSleepData} (hinst : w.fsmInst = .at w.fsmInst.currentState)
    (hcallback : w.callback = true
      ↔ w.fsmInst.currentState = .entryRequested ∨ w.fsmInst.currentState = .exitRequested)
    (hwaiting : w.waiting = w.callback)
    (htimers : w.retryTimeouts ≠ 0 →
      w.fsmInst.currentState = .entryRequested ∨ w.fsmInst.currentState = .exitRequested) :
    StationOk { awake u with wnm := w } := by
  have hne : u.wnm.fsmInst.currentState ≠ .idle := by rw [hactive]; decide
  obtain ⟨hconn, hsta, hscan, hpower⟩ := awake_flags u
  have hisActive : umacInterfaceIsActive (awake u) = true := by
    unfold umacInterfaceIsActive
    rw [hsta, hok.sta hne, Bool.true_or]
  exact
    { connInst := by rw [hconn]; exact hok.connInst
      wnmInst := hinst
      callback := hcallback
      waiting := hwaiting
      timers := htimers
      wnmConnected := fun _ => by rw [hconn]; exact hok.wnmConnected hne
      connectedVif := by rw [hconn]; exact hok.connectedVif
      modeSta := by rw [hconn]; exact hok.modeSta
      staActive := by rw [hconn, hsta]; exact hok.staActive
      started := ⟨fun _ => ⟨hisActive, fun h => absurd (hpower.symm.trans h.2) (by decide)⟩,
        fun _ => awake_started hok hactive⟩
      kept := awake_kept hok.kept
      inactive := fun h => absurd (hisActive.symm.trans h) (by decide) }

theorem StationOk.wnmMove {timeoutOk : Bool} (hok : StationOk u) (h : WnmMove timeoutOk u v) : StationOk v := by
  cases h with
  | ignored => exact hok
  | refused => exact { hok with }
  | settled enabled h =>
    exact { hok with
      callback := ⟨(by intro h; cases h), fun h' => absurd h' h⟩
      waiting := rfl }
  | enter power h hconn =>
    exact { hok with
      wnmInst := rfl
      callback := ⟨fun _ => .inl rfl, fun _ => rfl⟩
      waiting := rfl
      timers := fun _ => .inl rfl
      wnmConnected := fun _ => hconn
      started := hok.started.trans (and_congr_right fun _ =>
        iff_of_true (not_poweredDown (by rw [h]; decide)) (not_poweredDown (by intro h; cases h))) }
  | leave h =>
    exact stationOk_awake hok h rfl ⟨fun _ => .inr rfl, fun _ => rfl⟩ rfl fun _ => .inr rfl
  | sleep h =>
    have hne : u.wnm.fsmInst.currentState ≠ .idle := by rw [h]; decide
    have hstarted := hok.drvStarted (hok.vif hne) (by rw [h]; decide)
    have hisActive := (hok.started.mp hstarted).1
    exact { hok with
      wnmInst := rfl
      callback := ⟨(by intro h; cases h), (by rintro (h | h) <;> cases h)⟩
      waiting := rfl
      timers := fun h => absurd rfl h
      wnmConnected := fun _ => hok.wnmConnected hne
      started := by
        unfold asleep PoweredDown
        cases hpower : u.config.chipPowerdownEnabled with
        | true => exact ⟨(by intro h; cases h), fun h => absurd ⟨rfl, rfl⟩ h.2⟩
        | false => exact ⟨fun _ => ⟨hisActive, fun h => by cases h.2⟩, fun _ => hstarted⟩ }
  | retried enabled h hretries =>
    exact { hok with
      timers := fun _ => wnmRequested_of_state h }
  | ended enabled event status h hstatus =>
    exact { hok with
      wnmInst := rfl
      callback := ⟨(by intro h; cases h), (by rintro (h | h) <;> cases h)⟩
      waiting := rfl
      timers := fun h => absurd rfl h
      wnmConnected := fun h => absurd rfl h
      started := hok.started.trans (and_congr_right fun _ => iff_of_true
        (not_poweredDown (by rw [h]; cases enabled <;> decide))
        (not_poweredDown (by intro h; cases h))) }
  | woken h =>
    have hquiet : ¬ WnmRequested u := by
      unfold WnmRequested
      rw [h]
      decide
    have hcallback := (hok.no_callback hquiet).1
    refine stationOk_awake hok h rfl ⟨fun h' => ?_, (by rintro (h' | h') <;> cases h')⟩ hok.waiting
      fun htimers => absurd (hok.timers htimers) hquiet
    rw [show u.wnm.callback = true from h'] at hcallback
    cases hcallback

theorem StationOk.inState (hok : StationOk u) (q : ConnectionFsmState)
    (hidle : q ≠ .connected → u.wnm.fsmInst.currentState = .idle)
    (hvif : q = .connected → u.conn.vifValid = true) : StationOk (inState u q) :=
  { hok with
    connInst := rfl
    wnmConnected := fun h => not_not.mp fun hq => h (hidle hq)
    connectedVif := hvif }

theorem StationOk.idle_of_not_connected (hok : StationOk u)
    (h : u.conn.fsmInst.currentState ≠ .connected) : u.wnm.fsmInst.currentState = .idle :=
  not_not.mp fun h' => h (hok.wnmConnected h')

theorem StationOk.connMove (hok : StationOk u) (hvif : u.conn.vifValid = true)
    (h : ConnMove u v) : StationOk v := by
  cases h with
  | ignored => exact hok
  | authenticating h =>
    exact hok.inState _ (fun _ => hok.idle_of_not_connected h) (fun h => by cases h)
  | connecting h =>
    have hidle := hok.idle_of_not_connected (by rw [h]; decide)
    exact (sameStation_setStaState _ _).ok_of_sameChannel ⟨rfl, rfl, rfl, rfl⟩
      (hok.inState .connecting (fun _ => hidle) (fun h => by cases h))
  | connected h =>
    exact (sameStation_setStaState _ _).ok_of_sameChannel ⟨rfl, rfl, rfl, rfl⟩
      (hok.inState .connected (fun h => absurd rfl h) (fun _ => hvif))
  | disconnected h hne =>
    obtain ⟨hsame, hchannel⟩ := same_disconnectedEntry u.conn.fsmInst.currentState
      (Connection.inState u .disconnected)
    exact hsame.ok_of_sameChannel hchannel
      (hok.inState .disconnected (fun _ => hok.idle_of_not_connected h) (fun h => by cases h))
  | lost w h hmove hidle =>
    obtain ⟨hsame, hchannel⟩ := same_disconnectedEntry .connected (Connection.inState w .disconnected)
    exact hsame.ok_of_sameChannel hchannel
      ((hok.wnmMove hmove).inState .disconnected (fun _ => hidle) (fun h => by cases h))

theorem ConnMove.scanActive (h : ConnMove u v) : v.iface.scanActive = u.iface.scanActive := by
  cases h with
  | ignored | authenticating h | connecting h | connected h => rfl
  | disconnected h hne => exact (same_disconnectedEntry _ _).1.scanActive
  | lost w h hmove hidle =>
    refine (same_disconnectedEntry _ _).1.scanActive.trans ?_
    show w.iface.scanActive = _
    cases hmove <;> first | rfl | exact (awake_flags u).2.2.1

/-! ### The interfaces. -/

theorem StationOk.addScan (hok : StationOk u) : StationOk (umacInterfaceAdd u false) := by
  unfold umacInterfaceAdd
  cases hactive : umacInterfaceIsActive u with
  | true =>
    have hactive' : (u.iface.staActive || true) = true := Bool.or_true _
    exact { hok with
      started := hok.started.trans (and_congr_left fun _ => iff_of_true hactive hactive')
      inactive := fun h => absurd (hactive'.symm.trans h) (by decide) }
  | false =>
    have hactive' : (u.iface.staActive || true) = true := Bool.or_true _
    have hsta : u.iface.staActive = false := (Bool.or_eq_false_iff.mp hactive).1
    have hidle : ¬ PoweredDown u := fun h => by
      rw [hok.sta (by rw [h.1]; decide)] at hsta
      cases hsta
    exact { hok with
      started := ⟨fun _ => ⟨hactive', hidle⟩, fun _ => rfl⟩
      inactive := fun h => absurd (hactive'.symm.trans h) (by decide) }

theorem StationOk.start (hok : StationOk u) : StationOk (umacConnectionStart u) := by
  unfold umacConnectionStart umacInterfaceAdd
  cases hactive : umacInterfaceIsActive u with
  | true =>
    exact { hok with
      connectedVif := fun _ => rfl
      modeSta := rfl
      staActive := rfl
      started := hok.started.trans (and_congr_left fun _ => iff_of_true hactive rfl)
      inactive := fun h => by cases h }
  | false =>
    have hsta : u.iface.staActive = false := (Bool.or_eq_false_iff.mp hactive).1
    have hidle : ¬ PoweredDown u := fun h => by
      rw [hok.sta (by rw [h.1]; decide)] at hsta
      cases hsta
    exact { hok with
      connectedVif := fun _ => rfl
      modeSta := rfl
      staActive := rfl
      started := ⟨fun _ => ⟨rfl, hidle⟩, fun _ => rfl⟩
      inactive := fun h => by cases h }

/-- The station without one of its interfaces; the chip goes with the last. -/
def removed (u : Umac) (sta : Bool) : Umac :=
  if (if sta then u.iface.scanActive else u.iface.staActive) then
    if sta then { u with iface := { u.iface with staActive := false } }
    else { u with iface := { u.iface with scanActive := false } }
  else { u with drv := ⟨false, 0, .reset⟩, iface := ⟨false, false, .zero, none⟩ }

theorem umacInterfaceRemove_eq {sta : Bool}
    (hhas : (if sta then u.iface.staActive else u.iface.scanActive) = true)
    (hlast : (if sta then u.iface.scanActive else u.iface.staActive) = false →
      u.drv.started = true) : umacInterfaceRemove u sta = some (removed u sta) := by
  obtain ⟨conn, wnm, ⟨staActive, scanActive, op, last⟩, config, txPaused, ⟨started, vetoes, chip⟩⟩ := u
  cases sta with
  | true =>
    obtain rfl : staActive = true := hhas
    cases scanActive with
    | true => rfl
    | false =>
      obtain rfl : started = true := hlast rfl
      rfl
  | false =>
    obtain rfl : scanActive = true := hhas
    cases staActive with
    | true => rfl
    | false =>
      obtain rfl : started = true := hlast rfl
      rfl

/-- A station without its STA interface. -/
def stopped (u : Umac) : Umac :=
  { removed u true with
    conn := { u.conn with vifValid := false, modeSta := false, aid := 0 } }

theorem StationOk.stopped (hok : StationOk u) (hvif : u.conn.vifValid = true)
    (hconn : u.conn.fsmInst.currentState ≠ .connected) :
    ((umacInterfaceRemove u true).map fun u =>
        { u with conn := { u.conn with vifValid := false, modeSta := false, aid := 0 } })
      = some (stopped u) ∧ StationOk (stopped u) := by
  have hidle := hok.idle_of_not_connected hconn
  have hstarted := hok.drvStarted hvif (by rw [hidle]; decide)
  rw [@umacInterfaceRemove_eq u true (hok.staActive.trans hvif) fun _ => hstarted]
  unfold Connection.stopped removed
  refine ⟨by cases u.iface.scanActive <;> rfl, ?_⟩
  cases hscan : u.iface.scanActive with
  | true =>
    exact { hok with
      wnmConnected := fun h => absurd hidle h
      connectedVif := fun h => absurd h hconn
      modeSta := rfl
      staActive := rfl
      started := iff_of_true hstarted
        ⟨hscan, not_poweredDown (by show u.wnm.fsmInst.currentState ≠ _; rw [hidle]; decide)⟩
      inactive := fun h => absurd (hscan.symm.trans h) (by decide) }
  | false =>
    exact { hok with
      wnmConnected := fun h => absurd hidle h
      connectedVif := fun h => absurd h hconn
      modeSta := rfl
      staActive := rfl
      started := iff_of_false (by intro h; cases h) fun h => by cases h.1
      kept := fun h => absurd rfl h
      inactive := fun _ => rfl }

theorem connectionStop_ignored (hok : StationOk u) (deauth : Bool)
    (hvif : u.conn.vifValid = false) : umacConnectionStop u deauth = some u := by
  unfold umacConnectionStop
  rw [if_pos (by simp [hok.modeSta, hvif])]

theorem connectionStop_eq (hok : StationOk u) (deauth : Bool) (hvif : u.conn.vifValid = true) :
    ∃ v, ConnMove u v ∧ StationOk v ∧ v.conn.vifValid = true
      ∧ v.conn.fsmInst.currentState ≠ .connected
      ∧ umacConnectionStop u deauth = some (stopped v)
      ∧ (u.conn.fsmInst.currentState ≠ .disconnected →
          (v.conn.fsmInst.currentState = .disconnected
            ↔ deauth = true ∨ u.conn.fsmInst.currentState = .connected)) := by
  have hmode : u.conn.modeSta = true := hok.modeSta.trans hvif
  unfold umacConnectionStop
  rw [if_neg (by simp [hmode])]
  by_cases hdisconnects : deauth = true ∨ u.conn.fsmInst.currentState = .connected
  · obtain ⟨v, h, hmove, hdisconnected, -⟩ := connectionFsm_disconnect hok
    have hok' := hok.connMove hvif hmove
    have hvif' := hmove.vif.trans hvif
    have hconn : v.conn.fsmInst.currentState ≠ .connected := by rw [hdisconnected]; decide
    refine ⟨v, hmove, hok', hvif', hconn, ?_, fun _ => iff_of_true hdisconnected hdisconnects⟩
    rw [if_pos hdisconnects, h, Option.bind_some]
    exact (hok'.stopped hvif' hconn).1
  obtain ⟨-, hconn⟩ := not_or.mp hdisconnects
  refine ⟨u, .ignored, hok, hvif, hconn, ?_, fun hq => iff_of_false hq hdisconnects⟩
  rw [if_neg hdisconnects, Option.bind_some]
  exact (hok.stopped hvif hconn).1

theorem removeScan_ignored (hscan : u.iface.scanActive = false) :
    umacInterfaceRemove u false = some u := by
  unfold umacInterfaceRemove
  rw [if_pos (by simp [hscan])]

theorem StationOk.removeScan (hok : StationOk u) (hscan : u.iface.scanActive = true) :
    umacInterfaceRemove u false = some (removed u false) ∧ StationOk (removed u false) := by
  have hactive : umacInterfaceIsActive u = true := by
    unfold umacInterfaceIsActive
    rw [hscan, Bool.or_true]
  have hlast : u.iface.staActive = false → ¬ PoweredDown u := fun hsta h => by
    rw [hok.sta (by rw [h.1]; decide)] at hsta
    cases hsta
  refine ⟨@umacInterfaceRemove_eq u false hscan fun hsta => hok.started.mpr ⟨hactive, hlast hsta⟩, ?_⟩
  unfold removed
  cases hsta : u.iface.staActive with
  | true =>
    have hactive' : (u.iface.staActive || false) = true := by rw [hsta]; rfl
    exact { hok with
      started := hok.started.trans (and_congr_left fun _ => iff_of_true hactive hactive')
      inactive := fun h => absurd (hactive'.symm.trans h) (by decide) }
  | false =>
    exact { hok with
      staActive := hsta.symm.trans hok.staActive
      started := iff_of_false (by intro h; cases h) fun h => by cases h.1
      kept := fun h => absurd rfl h
      inactive := fun _ => rfl }

/-! ### The channel and the chip. -/

theorem setChannel_same (u : Umac) (s1gOperation : S1gOperation) (hkept : ChannelKept u) :
    SameStation u (umacInterfaceSetChannel u s1gOperation).1
      ∧ ChannelKept (umacInterfaceSetChannel u s1gOperation).1
      ∧ (umacInterfaceIsActive u = false →
          (umacInterfaceSetChannel u s1gOperation).1.iface.currentS1gOperation
            = u.iface.currentS1gOperation) := by
  unfold umacInterfaceSetChannel
  cases hactive : umacInterfaceIsActive u with
  | false => exact ⟨.refl u, hkept, fun _ => rfl⟩
  | true =>
    rw [if_neg (by simp)]
    cases hcfg : channelCfg u.config.channelList u.config.maxSupportedBw s1gOperation with
    | none => exact ⟨.refl u, hkept, fun h => by cases h⟩
    | some cfg =>
      dsimp only
      by_cases hstarted : (!u.drv.started) = true
      · rw [if_pos hstarted]
        exact ⟨.refl u, hkept, fun h => by cases h⟩
      rw [if_neg hstarted]
      by_cases hsame : u.iface.currentS1gOperation = s1gOperation
      · rw [if_pos hsame]
        exact ⟨.refl u, hkept, fun h => by cases h⟩
      rw [if_neg hsame]
      refine ⟨?_, fun _ => ⟨cfg, hcfg, rfl⟩, fun h => by cases h⟩
      exact ⟨rfl, rfl, rfl, rfl, rfl, rfl, rfl, rfl, u.drv.tell_started _,
        u.drv.tell_periodicCheckVetoes _, u.drv.tell_wnmSleep rfl⟩

theorem StationOk.setChannel (hok : StationOk u) (s1gOperation : S1gOperation) :
    StationOk (umacInterfaceSetChannel u s1gOperation).1 := by
  obtain ⟨hsame, hkept, hinactive⟩ := setChannel_same u s1gOperation hok.kept
  refine hsame.ok hok hkept fun h => ?_
  have hactive := hsame.isActive.symm.trans h
  rw [hinactive hactive]
  exact hok.inactive hactive

theorem hwRestart_cases (hok : StationOk u) (h : hwRestartEvtHandler u = some u') :
    (umacInterfaceIsActive u = false ∧ u' = u)
      ∨ (umacInterfaceIsActive u = true ∧ u.drv.started = true
        ∧ u' = if u.conn.vifValid then restored { u with drv := mmdrvInit }
            else { u with drv := mmdrvInit }) := by
  unfold hwRestartEvtHandler at h
  cases hactive : umacInterfaceIsActive u with
  | false =>
    rw [hactive] at h
    exact .inl ⟨rfl, (Option.some.inj h).symm⟩
  | true =>
    rw [hactive, if_pos rfl] at h
    refine .inr ⟨rfl, ?_⟩
    unfold mmdrvDeinit at h
    by_cases hstarted : u.drv.started = true
    · rw [if_pos hstarted] at h
      refine ⟨hstarted, ?_⟩
      cases hvif : u.conn.vifValid with
      | true =>
        rw [if_pos rfl]
        refine (Option.some.inj (h.symm.trans ?_))
        exact umacConnectionHandleHwRestarted_eq (u := { u with drv := mmdrvInit }) hvif
          (hok.staActive.trans hvif) rfl hok.kept
      | false =>
        rw [if_neg (by simp)]
        refine (Option.some.inj (h.symm.trans ?_))
        show umacConnectionHandleHwRestarted { u with drv := mmdrvInit } = _
        unfold umacConnectionHandleHwRestarted
        rw [if_pos (by simp [hvif])]
    · rw [if_neg hstarted] at h
      cases h

theorem StationOk.hwRestart (hok : StationOk u) (h : hwRestartEvtHandler u = some u') :
    StationOk u' := by
  rcases hwRestart_cases hok h with ⟨-, rfl⟩ | ⟨hactive, hstarted, rfl⟩
  · exact hok
  have hawake := (hok.started.mp hstarted).2
  cases hvif : u.conn.vifValid with
  | true =>
    rw [if_pos rfl]
    exact { hok with
      started := iff_of_true rfl ⟨hactive, hawake⟩
      kept := restored_kept (u := { u with drv := mmdrvInit }) hok.kept
      inactive := fun h => absurd (hactive.symm.trans h) (by decide) }
  | false =>
    rw [if_neg (by simp)]
    exact { hok with started := iff_of_true rfl ⟨hactive, hawake⟩ }

/-! ### Every event. -/

theorem sameStation_withKeys (u : Umac) (w : UmacKeys) : SameStation u (withKeys u w) :=
  sameStation_tell rfl rfl rfl rfl

theorem same_assocRsp (u : Umac) (aid : U16) (wmmIe : Option (Aci → Dot11AcParameterRecord)) :
    SameStation u (umacConnectionProcessAssocRsp u aid wmmIe)
      ∧ SameChannel u (umacConnectionProcessAssocRsp u aid wmmIe) := by
  cases wmmIe with
  | none => exact ⟨⟨rfl, rfl, rfl, rfl, rfl, rfl, rfl, rfl, rfl, rfl, rfl⟩, ⟨rfl, rfl, rfl, rfl⟩⟩
  | some wmmIe =>
    obtain ⟨hsame, hchannel⟩ := same_updateDrvQosCfg u wmmIe
    exact ⟨hsame.trans ⟨rfl, rfl, rfl, rfl, rfl, rfl, rfl, rfl, rfl, rfl, rfl⟩,
      hchannel.trans ⟨rfl, rfl, rfl, rfl⟩⟩

/-- Events that are not about WNM sleep, the connection, the interfaces, the channel or the chip
as a whole. -/
def UmacEvent.isSetting : UmacEvent → Bool
  | .setDefaultQosQueueParams _ | .authResp | .assocRsp _ _ | .installKey _ | .uninstallKey _
  | .incrementTxSeq _ => true
  | _ => false

variable {e : UmacEvent}

theorem umacStep_same (hsetting : e.isSetting = true) (h : umacStep u e = some u') :
    SameStation u u' ∧ SameChannel u u' := by
  cases e with
  | setDefaultQosQueueParams params | authResp =>
    cases h
    exact ⟨⟨rfl, rfl, rfl, rfl, rfl, rfl, rfl, rfl, rfl, rfl, rfl⟩, ⟨rfl, rfl, rfl, rfl⟩⟩
  | assocRsp aid wmmIe =>
    cases h
    exact same_assocRsp u aid wmmIe
  | installKey key =>
    cases h
    exact ⟨sameStation_withKeys u _, ⟨rfl, rfl, rfl, rfl⟩⟩
  | uninstallKey keyId =>
    obtain ⟨w, -, rfl⟩ := Option.map_eq_some_iff.mp h
    exact ⟨sameStation_withKeys u w, ⟨rfl, rfl, rfl, rfl⟩⟩
  | incrementTxSeq keyId =>
    obtain ⟨keys, -, rfl⟩ := Option.map_eq_some_iff.mp h
    exact ⟨⟨rfl, rfl, rfl, rfl, rfl, rfl, rfl, rfl, rfl, rfl, rfl⟩, ⟨rfl, rfl, rfl, rfl⟩⟩
  | _ => cases hsetting

theorem umacStep_ok (u : Umac) (e : UmacEvent) (u' : Umac) (hok : StationOk u)
    (h : umacStep u e = some u') : StationOk u' := by
  by_cases hsetting : e.isSetting = true
  · obtain ⟨hsame, hchannel⟩ := umacStep_same hsetting h
    exact hsame.ok_of_sameChannel hchannel hok
  cases e with
  | setChannelList channelList =>
    change (if _ then _ else _) = _ at h
    split at h
    · cases h
      exact hok
    next hactive =>
      cases h
      have hzero := hok.inactive (Bool.eq_false_iff.mpr hactive)
      exact { hok with kept := fun h => absurd hzero h }
  | connectionStart =>
    cases h
    exact hok.start
  | connectionStop deauth =>
    cases hvif : u.conn.vifValid with
    | true =>
      obtain ⟨v, -, hokv, hvifv, hconn, hstop, -⟩ := connectionStop_eq hok deauth hvif
      obtain rfl := Option.some.inj (hstop.symm.trans h)
      exact (hokv.stopped hvifv hconn).2
    | false =>
      obtain rfl := Option.some.inj ((connectionStop_ignored hok deauth hvif).symm.trans h)
      exact hok
  | scanInterface add =>
    cases add with
    | true =>
      cases h
      exact hok.addScan
    | false =>
      cases hscan : u.iface.scanActive with
      | true =>
        obtain ⟨hremoved, hok'⟩ := hok.removeScan hscan
        obtain rfl := Option.some.inj (hremoved.symm.trans h)
        exact hok'
      | false =>
        obtain rfl := Option.some.inj ((removeScan_ignored hscan).symm.trans h)
        exact hok
  | connectionFsm event =>
    change (if _ then _ else _) = _ at h
    split at h
    · next hmode =>
        obtain ⟨v, hv, hmove, -⟩ := connectionFsm_moves hok event
        obtain rfl := Option.some.inj (hv.symm.trans h)
        exact hok.connMove (hok.modeSta.symm.trans hmode) hmove
    · cases h
      exact hok
  | setBssCfg bssid channelCfg =>
    cases h
    have hok' : StationOk { u with conn := { u.conn with bssid := bssid } } := { hok with }
    exact hok'.setChannel channelCfg
  | channelSwitch s1gOperation =>
    cases h
    exact hok.setChannel s1gOperation
  | setWnmSleep enabled power timeoutOk =>
    obtain ⟨v, hv, hmove, -⟩ := @setWnmSleep_moves u timeoutOk hok enabled power
    obtain rfl := Option.some.inj (hv.symm.trans h)
    exact hok.wnmMove hmove
  | wnmConfirmed enabled timeoutOk =>
    obtain ⟨v, hv, hmove, -⟩ := @wnmConfirmed_moves u timeoutOk hok enabled
    obtain rfl := Option.some.inj (hv.symm.trans h)
    exact hok.wnmMove hmove
  | retryTimeout timeoutOk =>
    obtain ⟨v, hv, hmove, -⟩ := @retryTimeout_moves u timeoutOk hok
    obtain rfl := Option.some.inj (hv.symm.trans h)
    exact hok.wnmMove hmove
  | hwRestarted => exact hok.hwRestart h
  | setDefaultQosQueueParams params | authResp | assocRsp aid wmmIe | installKey key
  | uninstallKey keyId | incrementTxSeq keyId =>
    exact absurd rfl hsetting

theorem throughout_stationOk (config : UmacConfigData) (es : List UmacEvent) :
    Throughout umacStep StationOk (umacInit config) es :=
  throughout_of_invariant umacStep_ok (stationOk_init config) es

/-- The events of the machine of the connection. -/
def UmacEvent.isConn : UmacEvent → Bool
  | .connectionFsm _ | .connectionStop _ => true
  | _ => false

/-- The events that take the connection to DISCONNECTED from another state. -/
def UmacDisconnects (u : Umac) : UmacEvent → Prop
  | .connectionFsm event =>
    u.conn.modeSta = true ∧ u.conn.fsmInst.currentState ≠ .disconnected ∧ event = .disconnect
  | .connectionStop deauth =>
    u.conn.modeSta = true ∧ u.conn.fsmInst.currentState ≠ .disconnected
      ∧ (deauth = true ∨ u.conn.fsmInst.currentState = .connected)
  | _ => False

theorem umacStep_conn (hok : StationOk u) (hconn : e.isConn = true) (h : umacStep u e = some u') :
    ∃ v, ConnMove u v ∧ u'.wnm = v.wnm ∧ u'.txPaused = v.txPaused ∧ u'.conn.fsmInst = v.conn.fsmInst
      ∧ (u.conn.fsmInst.currentState ≠ .disconnected →
          (v.conn.fsmInst.currentState = .disconnected ↔ UmacDisconnects u e)) := by
  cases e with
  | connectionStop deauth =>
    cases hvif : u.conn.vifValid with
    | true =>
      have hmode : u.conn.modeSta = true := hok.modeSta.trans hvif
      obtain ⟨v, hmove, -, -, -, hstop, hstate⟩ := connectionStop_eq hok deauth hvif
      obtain rfl := Option.some.inj (hstop.symm.trans h)
      refine ⟨v, hmove, ?_, ?_, rfl, fun hq => ?_⟩
      · unfold stopped removed
        cases v.iface.scanActive <;> rfl
      · unfold stopped removed
        cases v.iface.scanActive <;> rfl
      · rw [hstate hq]
        exact ⟨fun h => ⟨hmode, hq, h⟩, fun h => h.2.2⟩
    | false =>
      have hmode : u.conn.modeSta ≠ true := by rw [hok.modeSta, hvif]; decide
      obtain rfl := Option.some.inj ((connectionStop_ignored hok deauth hvif).symm.trans h)
      exact ⟨u, .ignored, rfl, rfl, rfl, fun hq => iff_of_false hq fun h => hmode h.1⟩
  | connectionFsm event =>
    change (if _ then _ else _) = _ at h
    split at h
    · next hmode =>
      obtain ⟨v, hv, hmove, -⟩ := connectionFsm_moves hok event
      obtain rfl := Option.some.inj (hv.symm.trans h)
      refine ⟨v, hmove, rfl, rfl, rfl, fun hq => ?_⟩
      rw [connectionFsm_enters hok hv hq]
      exact ⟨fun h => ⟨hmode, hq, h⟩, fun h => h.2.2⟩
    · next hmode =>
      cases h
      exact ⟨u, .ignored, rfl, rfl, rfl, fun hq => iff_of_false hq fun h => hmode h.1⟩
  | _ => cases hconn

theorem umacStep_other (hok : StationOk u) (hconn : e.isConn = false) (h : umacStep u e = some u') :
    ∃ v, WnmMove e.timeoutOk u v ∧ u'.wnm = v.wnm ∧ u'.txPaused = v.txPaused
      ∧ u'.conn.fsmInst = u.conn.fsmInst := by
  have hsame : SameStation u u' → ∃ v, WnmMove e.timeoutOk u v ∧ u'.wnm = v.wnm
      ∧ u'.txPaused = v.txPaused ∧ u'.conn.fsmInst = u.conn.fsmInst :=
    fun h => ⟨u, .ignored, h.wnm, h.txPaused, h.connInst⟩
  by_cases hsetting : e.isSetting = true
  · exact hsame (umacStep_same hsetting h).1
  cases e with
  | setChannelList channelList =>
    change (if _ then _ else _) = _ at h
    split at h <;> (cases h; exact ⟨u, .ignored, rfl, rfl, rfl⟩)
  | connectionStart =>
    cases h
    refine ⟨u, .ignored, ?_⟩
    unfold umacConnectionStart umacInterfaceAdd
    cases umacInterfaceIsActive u <;> exact ⟨rfl, rfl, rfl⟩
  | scanInterface add =>
    cases add with
    | true =>
      cases h
      refine ⟨u, .ignored, ?_⟩
      unfold umacInterfaceAdd
      cases umacInterfaceIsActive u <;> exact ⟨rfl, rfl, rfl⟩
    | false =>
      cases hscan : u.iface.scanActive with
      | true =>
        obtain rfl := Option.some.inj ((hok.removeScan hscan).1.symm.trans h)
        refine ⟨u, .ignored, ?_⟩
        unfold removed
        cases u.iface.staActive <;> exact ⟨rfl, rfl, rfl⟩
      | false =>
        obtain rfl := Option.some.inj ((removeScan_ignored hscan).symm.trans h)
        exact ⟨u, .ignored, rfl, rfl, rfl⟩
  | setBssCfg bssid channelCfg =>
    cases h
    have hset := (setChannel_same { u with conn := { u.conn with bssid := bssid } } channelCfg
      hok.kept).1
    exact ⟨u, .ignored, hset.wnm, hset.txPaused, hset.connInst⟩
  | channelSwitch s1gOperation =>
    cases h
    exact hsame (setChannel_same u s1gOperation hok.kept).1
  | setWnmSleep enabled power timeoutOk =>
    obtain ⟨v, hv, hmove, -⟩ := @setWnmSleep_moves u timeoutOk hok enabled power
    obtain rfl := Option.some.inj (hv.symm.trans h)
    exact ⟨v, hmove, rfl, rfl, by rw [hmove.conn]⟩
  | wnmConfirmed enabled timeoutOk =>
    obtain ⟨v, hv, hmove, -⟩ := @wnmConfirmed_moves u timeoutOk hok enabled
    obtain rfl := Option.some.inj (hv.symm.trans h)
    exact ⟨v, hmove, rfl, rfl, by rw [hmove.conn]⟩
  | retryTimeout timeoutOk =>
    obtain ⟨v, hv, hmove, -⟩ := @retryTimeout_moves u timeoutOk hok
    obtain rfl := Option.some.inj (hv.symm.trans h)
    exact ⟨v, hmove, rfl, rfl, by rw [hmove.conn]⟩
  | hwRestarted =>
    rcases hwRestart_cases hok h with ⟨-, rfl⟩ | ⟨-, -, rfl⟩
    · exact ⟨u', .ignored, rfl, rfl, rfl⟩
    · refine ⟨u, .ignored, ?_⟩
      cases u.conn.vifValid <;> exact ⟨rfl, rfl, rfl⟩
  | connectionFsm event | connectionStop deauth => cases hconn
  | setDefaultQosQueueParams params | authResp | assocRsp aid wmmIe | installKey key
  | uninstallKey keyId | incrementTxSeq keyId =>
    exact absurd rfl hsetting

theorem umacStep_wnm (hok : StationOk u) (h : umacStep u e = some u') :
    ∃ v, WnmMove e.timeoutOk u v ∧ u'.wnm = v.wnm := by
  cases hconn : e.isConn with
  | false =>
    obtain ⟨v, hmove, hwnm, -⟩ := umacStep_other hok hconn h
    exact ⟨v, hmove, hwnm⟩
  | true =>
    obtain ⟨v, hmove, hwnm, -⟩ := umacStep_conn hok hconn h
    have htrue : e.timeoutOk = true := by
      cases e <;> first | rfl | cases hconn
    rw [htrue]
    cases hmove with
    | lost w hq hw hidle => exact ⟨w, hw, hwnm.trans (same_disconnectedEntry _ _).1.wnm⟩
    | disconnected hq hne =>
      exact ⟨u, .ignored, hwnm.trans (same_disconnectedEntry _ _).1.wnm⟩
    | _ => exact ⟨u, .ignored, hwnm⟩

end Kept

/-! ## A station that connects -/

/-- The 1 MHz channel at 902.5 MHz. -/
def exampleChannel : S1gChannel := ⟨902500000, 68, 1, 1, 1⟩

/-- A station for networks on this channel. -/
def exampleConfig : UmacConfigData where
  channelList := [exampleChannel]
  maxSupportedBw := 8
  defaultQosQueueParams := fun aci => ⟨aci, 3, 15, 1023, 0⟩
  chipPowerdownEnabled := false

/-- It connects to one of them. -/
def exampleConnect : List UmacEvent :=
  [.connectionStart, .connectionFsm .disconnect, .connectionFsm .authRequest,
    .setBssCfg (fun _ => 2) ⟨1, 1, 0, 0, 68, 1, 1⟩, .authResp, .connectionFsm .assocRequest,
    .assocRsp 1 none, .connectionFsm .suppPortOpen]

end MmIotEsp32.Umac.Connection
