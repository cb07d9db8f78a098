/-
  MmIotEsp32.Umac.Connection.Connection

  The connection of the station (`umac/connection/umac_connection.c`, `connection_fsm.def`),
  with its interfaces, and the events that the whole station sees.
-/
import MmIotEsp32.Umac.WnmSleep.WnmSleep

namespace MmIotEsp32.Umac.Connection

open Lib Interface Keys WnmSleep

/-! ## The machine -/

def connectionFsmDisconnectedEntry (prevState : ConnectionFsmState) (u : Umac) : Umac :=
  if prevState ≠ .disconnected then
    let u := umacConnectionSetStaState u .none
    umacConnectionSetDrvQosCfgDefault { u with conn := { u.conn with bssid := fun _ => 0 } }
  else u

def connectionFsmConnectingEntry (u : Umac) : Umac := umacConnectionSetStaState u .authenticated

def connectionFsmConnectedEntry (u : Umac) : Umac := umacConnectionSetStaState u .authorized

def connectionFsmConnectedExit (u : Umac) : Option Umac :=
  umacWnmSleepReportEvent true u .connectionLost

def connectionFsmTable : List (FsmRow ConnectionFsmState ConnectionFsmEvent Umac) :=
  [ ⟨[.authenticating, .connected, .connecting, .disabled, .disconnected], [.disconnect],
      some .disconnected, none⟩,
    ⟨[.authenticating, .connecting, .disconnected], [.authRequest], some .authenticating, none⟩,
    ⟨[.authenticating], [.assocRequest], some .connecting, none⟩,
    ⟨[.connecting], [.suppPortOpen], some .connected, none⟩ ]

def connectionFsm : Fsm ConnectionFsmState ConnectionFsmEvent Umac where
  inst := fun u => u.conn.fsmInst
  withInst := fun inst u => { u with conn := { u.conn with fsmInst := inst } }
  table := connectionFsmTable
  exit := fun state _ u =>
    match state with
    | .connected => connectionFsmConnectedExit u
    | _ => some u
  entry := fun state prevState u =>
    match state with
    | .disconnected => some (connectionFsmDisconnectedEntry prevState u)
    | .connecting => some (connectionFsmConnectingEntry u)
    | .connected => some (connectionFsmConnectedEntry u)
    | _ => some u

/-- `connection_fsm_handle_event`.  Its actions raise no events. -/
def connectionFsmHandleEvent (u : Umac) (event : ConnectionFsmEvent) : Option Umac :=
  connectionFsm.handleEvent 1 u event

/-! ## Interfaces -/

/-- `umac_interface_add`, for the interfaces of a station; the chip is started with the first. -/
def umacInterfaceAdd (u : Umac) (sta : Bool) : Umac :=
  let u := if umacInterfaceIsActive u then u else { u with drv := mmdrvInit }
  if sta then { u with iface := { u.iface with staActive := true } }
  else { u with iface := { u.iface with scanActive := true } }

/-- `umac_interface_remove`; the chip is stopped with the last.  `none` is an assertion. -/
def umacInterfaceRemove (u : Umac) (sta : Bool) : Option Umac :=
  if !(if sta then u.iface.staActive else u.iface.scanActive) then some u
  else
    let u :=
      if sta then { u with iface := { u.iface with staActive := false } }
      else { u with iface := { u.iface with scanActive := false } }
    if umacInterfaceIsActive u then some u
    else
      (mmdrvDeinit u.drv).map fun drv =>
        { u with drv := drv, iface := ⟨false, false, .zero, none⟩ }

/-- `umac_connection_start`, up to the events that the supplicant raises. -/
def umacConnectionStart (u : Umac) : Umac :=
  let u := umacInterfaceAdd u true
  { u with conn := { u.conn with vifValid := true, modeSta := true } }

/-- `umac_connection_stop`.  The supplicant disconnects a station that is connected; whether it
does so before, `deauth` says. -/
def umacConnectionStop (u : Umac) (deauth : Bool) : Option Umac :=
  if !u.conn.modeSta then some u
  else
    (if deauth ∨ u.conn.fsmInst.currentState = .connected then
        connectionFsmHandleEvent u .disconnect
      else some u).bind fun u =>
    (umacInterfaceRemove u true).map fun u =>
      { u with conn := { u.conn with vifValid := false, modeSta := false, aid := 0 } }

/-! ## Frames and keys -/

/-- `umac_connection_set_bss_cfg`, with a channel that is already restricted to the bandwidth of
the station. -/
def umacConnectionSetBssCfg (u : Umac) (bssid : Dot11.MacAddr) (channelCfg : S1gOperation) : Umac :=
  (umacInterfaceSetChannel { u with conn := { u.conn with bssid := bssid } } channelCfg).1

/-- `umac_connection_process_assoc_reassoc_rsp`, for a response that associates the station. -/
def umacConnectionProcessAssocRsp (u : Umac) (aid : U16)
    (wmmIe : Option (Aci → Dot11AcParameterRecord)) : Umac :=
  let u := match wmmIe with
    | none => u
    | some wmmIe => umacConnectionUpdateDrvQosCfg u wmmIe
  { u with conn := { u.conn with aid := aid } }

/-- The keys of the STA record, with the calls to the chip that go with them. -/
def withKeys (u : Umac) (w : UmacKeys) : Umac :=
  { u with
    conn := { u.conn with keys := w.keys }
    drv := u.drv.tell fun chip => { chip with keyCalls := w.calls } }

/-- `umac_keys_install_key`. -/
def installKey (u : Umac) (key : UmacKey) : Umac :=
  withKeys u (umacKeysInstallKey ⟨u.conn.keys, u.drv.chip.keyCalls⟩ key).1

/-- `umac_keys_uninstall_key`. -/
def uninstallKey (u : Umac) (keyId : U8) : Option Umac :=
  (umacKeysUninstallKey ⟨u.conn.keys, u.drv.chip.keyCalls⟩ keyId).map (withKeys u)

/-- `umac_keys_increment_tx_seq`; `none` is the assertion on the key id. -/
def incrementTxSeq (u : Umac) (keyId : U8) : Option Umac :=
  (connectionKeysIncrementTxSeq u.conn.keys keyId).map fun keys =>
    { u with conn := { u.conn with keys := keys } }

/-! ## Events -/

/-- What a station sees. -/
inductive UmacEvent where
  /-- `mmwlan_set_channel_list` -/
  | setChannelList (channelList : List S1gChannel)
  /-- `mmwlan_set_default_qos_queue_params`, for one queue -/
  | setDefaultQosQueueParams (params : QosQueueParams)
  | connectionStart
  | connectionStop (deauth : Bool)
  | scanInterface (add : Bool)
  | connectionFsm (event : ConnectionFsmEvent)
  | setBssCfg (bssid : Dot11.MacAddr) (channelCfg : S1gOperation)
  /-- `umac_connection_handle_ecsa` -/
  | channelSwitch (s1gOperation : S1gOperation)
  /-- `umac_connection_process_auth_resp` -/
  | authResp
  | assocRsp (aid : U16) (wmmIe : Option (Aci → Dot11AcParameterRecord))
  | installKey (key : UmacKey)
  | uninstallKey (keyId : U8)
  | incrementTxSeq (keyId : U8)
  | setWnmSleep (enabled chipPowerdownEnabled timeoutOk : Bool)
  /-- `mmwpas_wnm_oper`: the access point has confirmed that the station sleeps, or that it does
  not -/
  | wnmConfirmed (enabled timeoutOk : Bool)
  | retryTimeout (timeoutOk : Bool)
  /-- `hw_restart_evt_handler` -/
  | hwRestarted

/-- `hw_restart_evt_handler`; `none` is one of its assertions. -/
def hwRestartEvtHandler (u : Umac) : Option Umac :=
  if umacInterfaceIsActive u then
    (mmdrvDeinit u.drv).bind fun _ => umacConnectionHandleHwRestarted { u with drv := mmdrvInit }
  else some u

def umacStep (u : Umac) : UmacEvent → Option Umac
  | .setChannelList channelList =>
    if umacInterfaceIsActive u then some u
    else some { u with config := { u.config with channelList := channelList } }
  | .setDefaultQosQueueParams params =>
    some { u with
      config := { u.config with
        defaultQosQueueParams := Function.update u.config.defaultQosQueueParams params.aci params } }
  | .connectionStart => some (umacConnectionStart u)
  | .connectionStop deauth => umacConnectionStop u deauth
  | .scanInterface add => if add then some (umacInterfaceAdd u false) else umacInterfaceRemove u false
  | .connectionFsm event => if u.conn.modeSta then connectionFsmHandleEvent u event else some u
  | .setBssCfg bssid channelCfg => some (umacConnectionSetBssCfg u bssid channelCfg)
  | .channelSwitch s1gOperation => some (umacInterfaceSetChannel u s1gOperation).1
  | .authResp => some { u with conn := { u.conn with aid := 0 } }
  | .assocRsp aid wmmIe => some (umacConnectionProcessAssocRsp u aid wmmIe)
  | .installKey key => some (installKey u key)
  | .uninstallKey keyId => uninstallKey u keyId
  | .incrementTxSeq keyId => incrementTxSeq u keyId
  | .setWnmSleep enabled chipPowerdownEnabled timeoutOk =>
    umacSetWnmSleepEvtHandler timeoutOk u enabled chipPowerdownEnabled
  | .wnmConfirmed enabled timeoutOk =>
    umacWnmSleepReportEvent timeoutOk u (if enabled then .entryConfirmed else .exitConfirmed)
  | .retryTimeout timeoutOk => retryTimeoutExpired timeoutOk u
  | .hwRestarted => hwRestartEvtHandler u

end MmIotEsp32.Umac.Connection
