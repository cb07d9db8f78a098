/-
  MmIotEsp32.Umac.Connection.ConnectionData

  The station: its connection (`umac/connection`), its WNM sleep (`umac/wnm_sleep`), its
  interfaces (`umac/interface`), and what the chip was told of them through the driver.
-/
import MmIotEsp32.Lib.EventFsm
import MmIotEsp32.Umac.Interface.Channel
import MmIotEsp32.Umac.Keys.UmacKeys
import MmIotEsp32.Umac.UmacData

namespace MmIotEsp32.Umac.Connection

open Lib Interface Keys

/-! ## The chip and the driver -/

/-- `enum morse_sta_state`, as far as a connection sets it. -/
inductive MorseStaState where
  | none
  | authenticated
  | authorized
  deriving Repr, DecidableEq

/-- An access category index. -/
abbrev Aci := Fin 4

/-- `struct mmwlan_qos_queue_params`. -/
structure QosQueueParams where
  aci : Aci
  aifs : U8
  cwMin : U16
  cwMax : U16
  txopMaxUs : U32
  deriving Repr, DecidableEq

/-- The record of the access point that `mmdrv_update_sta_state` leaves in the chip. -/
structure ChipSta where
  aid : U16
  bssid : Dot11.MacAddr
  state : MorseStaState

/-- What the chip was told since it was started. -/
structure Chip where
  sta : Option ChipSta
  qosQueues : Aci → Option QosQueueParams
  channel : Option ChannelCfg
  keyCalls : List MmdrvKeyCall
  wnmSleep : Bool

/-- A chip that has forgotten everything. -/
def Chip.reset : Chip := ⟨none, fun _ => none, none, [], false⟩

/-- `struct driver_data` and the chip behind it. -/
structure MmdrvData where
  started : Bool
  periodicCheckVetoes : U32
  chip : Chip

def mmdrvInit : MmdrvData := ⟨true, 0, .reset⟩

/-- `mmdrv_deinit`; `none` is its assertion. -/
def mmdrvDeinit (d : MmdrvData) : Option MmdrvData :=
  if d.started then some ⟨false, 0, .reset⟩ else none

/-- A call that reaches the chip, which it only does through a driver that is started. -/
def MmdrvData.tell (d : MmdrvData) (f : Chip → Chip) : MmdrvData :=
  if d.started then { d with chip := f d.chip } else d

/-- The bit of `MMDRV_HEALTH_CHECK_VETO_ID_WNM_SLEEP`. -/
def vetoWnmSleep : U32 := 1#32 <<< 1

def mmdrvSetHealthCheckVeto (d : MmdrvData) : MmdrvData :=
  { d with periodicCheckVetoes := d.periodicCheckVetoes ||| vetoWnmSleep }

def mmdrvUnsetHealthCheckVeto (d : MmdrvData) : MmdrvData :=
  { d with periodicCheckVetoes := d.periodicCheckVetoes &&& ~~~vetoWnmSleep }

def mmdrvSetChipWnmSleepEnabled (d : MmdrvData) (enabled : Bool) : MmdrvData :=
  d.tell fun chip => { chip with wnmSleep := enabled }

def mmdrvUpdateStaState (d : MmdrvData) (sta : ChipSta) : MmdrvData :=
  d.tell fun chip => { chip with sta := some sta }

def mmdrvCfgQosQueue (d : MmdrvData) (params : QosQueueParams) : MmdrvData :=
  d.tell fun chip =>
    { chip with qosQueues := Function.update chip.qosQueues params.aci (some params) }

def mmdrvSetChannel (d : MmdrvData) (cfg : ChannelCfg) : MmdrvData :=
  d.tell fun chip => { chip with channel := some cfg }

/-! ## The station -/

inductive ConnectionFsmState where
  | disabled
  | disconnected
  | authenticating
  | connecting
  | connected
  deriving Repr, DecidableEq

inductive ConnectionFsmEvent where
  | suppPortOpen
  | authRequest
  | assocRequest
  | disconnect
  deriving Repr, DecidableEq

inductive WnmSleepFsmState where
  | idle
  | entryRequested
  | active
  | exitRequested
  deriving Repr, DecidableEq

inductive WnmSleepFsmEvent where
  | enable
  | disable
  | connectionLost
  | entryConfirmed
  | exitConfirmed
  | retryRequest
  | retriesExhausted
  deriving Repr, DecidableEq

/-- What happens to the WNM sleep requests: whether one is accepted (and what it asks for), what
its callback is called with and the event that this is for, if any, and its retries. -/
inductive WnmRecord where
  | accepted (enabled : Bool)
  | refused
  | answered (event : Option WnmSleepFsmEvent) (status : MmwlanStatus)
  | retried
  deriving Repr, DecidableEq

structure UmacWnmSleepData where
  fsmInst : FsmInstance WnmSleepFsmState WnmSleepFsmEvent
  /-- `callback` is not NULL -/
  callback : Bool
  retryCounter : U8
  /-- `semb` and `status` are not NULL -/
  waiting : Bool
  /-- the timeouts of `umac_wnm_sleep_retry_request` that are registered -/
  retryTimeouts : Nat
  log : List WnmRecord

/-- `struct umac_connection_data`, with the STA record. -/
structure UmacConnectionData where
  fsmInst : FsmInstance ConnectionFsmState ConnectionFsmEvent
  /-- `vif_id` is not `UMAC_INTERFACE_VIF_ID_INVALID` -/
  vifValid : Bool
  /-- `mode` is `UMAC_CONNECTION_MODE_STA` -/
  modeSta : Bool
  aid : U16
  bssid : Dot11.MacAddr
  keys : ConnectionKeysData
  lastStaState : Option MorseStaState
  lastQosQueues : Aci → Option QosQueueParams

structure UmacInterfaceData where
  /-- `active_interface_types` has `UMAC_INTERFACE_STA` -/
  staActive : Bool
  /-- `active_interface_types` has `UMAC_INTERFACE_SCAN` -/
  scanActive : Bool
  currentS1gOperation : S1gOperation
  lastChannel : Option ChannelCfg

/-- `struct umac_config_data`, and the capabilities of the chip. -/
structure UmacConfigData where
  channelList : List S1gChannel
  maxSupportedBw : Nat
  defaultQosQueueParams : Aci → QosQueueParams
  chipPowerdownEnabled : Bool

/-- `struct umac_data`, as far as these modules use it. -/
structure Umac where
  conn : UmacConnectionData
  wnm : UmacWnmSleepData
  iface : UmacInterfaceData
  config : UmacConfigData
  /-- `tx_paused` of the datapath -/
  txPaused : U16
  drv : MmdrvData

/-- After `mmwlan_init`. -/
def umacInit (config : UmacConfigData) : Umac where
  conn := ⟨.at .disabled, false, false, 0, fun _ => 0, connectionKeysInit, none, fun _ => none⟩
  wnm := ⟨.at .idle, false, 0, false, 0, []⟩
  iface := ⟨false, false, .zero, none⟩
  config := config
  txPaused := 0
  drv := ⟨false, 0, .reset⟩

/-- `UMAC_DATAPATH_PAUSE_SOURCE_WNM_SLEEP`. -/
def pauseSourceWnmSleep : U16 := 0x200

def umacInterfaceIsActive (u : Umac) : Bool := u.iface.staActive || u.iface.scanActive

/-- `umac_connection_get_state` is `MMWLAN_STA_CONNECTED`. -/
def umacConnectionIsConnected (u : Umac) : Bool :=
  u.conn.modeSta && u.conn.fsmInst.currentState = .connected

/-! ## Settings of the chip -/

def umacConnectionSetStaState (u : Umac) (state : MorseStaState) : Umac :=
  { u with
    conn := { u.conn with lastStaState := some state }
    drv := mmdrvUpdateStaState u.drv ⟨u.conn.aid, u.conn.bssid, state⟩ }

/-- A QoS queue is configured. -/
def cfgQosQueue (u : Umac) (params : QosQueueParams) : Umac :=
  { u with
    conn := { u.conn with
      lastQosQueues := Function.update u.conn.lastQosQueues params.aci (some params) }
    drv := mmdrvCfgQosQueue u.drv params }

def umacConnectionSetDrvQosCfgDefault (u : Umac) : Umac :=
  (List.finRange 4).foldl (fun u' aci => cfgQosQueue u' (u.config.defaultQosQueueParams aci)) u

structure Dot11AcParameterRecord where
  aciAifsn : U8
  ecwMinmax : U8
  txopLimit : U16

def dot11AciAifsnGetAci (aciAifsn : U8) : U8 := (aciAifsn &&& 0x60) >>> 5

def dot11AciAifsnGetAifsn (aciAifsn : U8) : U8 := aciAifsn &&& 0x0f

def dot11EcwMinmaxGetEcwmin (ecwMinmax : U8) : U8 := ecwMinmax &&& 0x0f

def dot11EcwMinmaxGetEcwmax (ecwMinmax : U8) : U8 := (ecwMinmax &&& 0xf0) >>> 4

/-- The parameters that a record of the WMM element gives a queue. -/
def qosQueueParams (aci : Aci) (rec : Dot11AcParameterRecord) : QosQueueParams where
  aci := aci
  aifs := dot11AciAifsnGetAifsn rec.aciAifsn
  cwMin := (1#16 <<< (dot11EcwMinmaxGetEcwmin rec.ecwMinmax).toNat) - 1
  cwMax := (1#16 <<< (dot11EcwMinmaxGetEcwmax rec.ecwMinmax).toNat) - 1
  txopMaxUs := rec.txopLimit.zeroExtend 32 * 32

def umacConnectionUpdateDrvQosCfg (u : Umac) (wmmIe : Aci → Dot11AcParameterRecord) : Umac :=
  (List.finRange 4).foldl (fun u' aci =>
    if aci.val ≠ (dot11AciAifsnGetAci (wmmIe aci).aciAifsn).toNat then u'
    else cfgQosQueue u' (qosQueueParams aci (wmmIe aci))) u

/-- `umac_interface_set_channel`, with whether it returns `MMWLAN_SUCCESS`. -/
def umacInterfaceSetChannel (u : Umac) (s1gOperation : S1gOperation) : Umac × Bool :=
  if !umacInterfaceIsActive u then (u, false)
  else
    match channelCfg u.config.channelList u.config.maxSupportedBw s1gOperation with
    | none => (u, false)
    | some cfg =>
      if !u.drv.started then (u, false)
      else if u.iface.currentS1gOperation = s1gOperation then (u, true)
      else
        ({ u with
            iface := { u.iface with
              currentS1gOperation := s1gOperation
              lastChannel := some cfg }
            drv := mmdrvSetChannel u.drv cfg }, true)

def umacInterfaceReconfigureChannel (u : Umac) : Umac × Bool :=
  let s1gOperation := u.iface.currentS1gOperation
  let u := { u with iface := { u.iface with currentS1gOperation := .zero } }
  if s1gOperation.operatingChannelIndex ≠ 0 then umacInterfaceSetChannel u s1gOperation
  else (u, true)

/-! ## Restoring the chip -/

/-- `umac_wnm_sleep_report_event`, for `UMAC_WNM_SLEEP_EVENT_HW_RESTARTED`; `none` is its
assertion. -/
def reportHwRestarted (u : Umac) : Option Umac :=
  if u.wnm.fsmInst.currentState = .active then
    if u.iface.staActive then
      some { u with
        drv := mmdrvSetChipWnmSleepEnabled (mmdrvSetHealthCheckVeto u.drv) true }
    else none
  else some u

/-- The keys that `umac_keys_reinstall_keys` gives a driver that takes them all. -/
def reinstallKeys (u : Umac) : Umac :=
  { u with
    drv := u.drv.tell fun chip =>
      { chip with
        keyCalls := (umacKeysReinstallKeys (fun _ => true) ⟨u.conn.keys, chip.keyCalls⟩).calls } }

/-- `umac_connection_handle_hw_restarted`; `none` is one of its assertions. -/
def umacConnectionHandleHwRestarted (u : Umac) : Option Umac :=
  if !u.conn.vifValid then some u
  else if !u.drv.started then none
  else
    let drv := mmdrvUpdateStaState u.drv ⟨u.conn.aid, u.conn.bssid, .none⟩
    match umacInterfaceReconfigureChannel { u with drv := drv } with
    | (_, false) => none
    | (u, true) =>
      let u := reinstallKeys u
      if u.conn.fsmInst.currentState = .connected then
        reportHwRestarted
          { u with drv := mmdrvUpdateStaState u.drv ⟨u.conn.aid, u.conn.bssid, .authorized⟩ }
      else some u

end MmIotEsp32.Umac.Connection
