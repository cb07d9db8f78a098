/-
  MmIotEsp32.Umac.Connection.ConnectionTimeouts

  What a connection leaves for later (`umac/connection/umac_connection.c`).
-/
import MmIotEsp32.Umac.Connection.Connection

namespace MmIotEsp32.Umac.Connection

open Lib Interface Keys WnmSleep

/-! ## Frames -/

structure Dot11IeEcsa where
  channelSwitchMode : U8
  newOperatingClass : U8
  newChannelNumber : U8
  channelSwitchCount : U8
  deriving Repr, DecidableEq

structure Dot11IeWideBwChanSwitch where
  newChannelWidth : U8
  newChannelCentreFrequencySeg0 : U8
  deriving Repr, DecidableEq

/-- What `umac_connection_process_beacon_ies` finds in a beacon; of the S1G beacon compatibility
element it is the beacon interval. -/
structure BeaconIes where
  ecsaIe : Option Dot11IeEcsa
  wideBwChanSwitchIe : Option Dot11IeWideBwChanSwitch
  s1gBeaconCompat : Option U16
  deriving Repr, DecidableEq

structure Dot11IeTie where
  type : U8
  interval : U32
  deriving Repr, DecidableEq

/-- What `umac_connection_process_assoc_reassoc_rsp` finds in a response; `aid` is 0 without an AID
response element. -/
structure FrameDataAssocRsp where
  statusCode : U16
  timeoutInterval : Option Dot11IeTie
  hasS1gCaps : Bool
  aid : U16
  wmmIe : Option (Aci → Dot11AcParameterRecord)

def dot11StatusSuccess : U16 := 0

def dot11StatusRefusedTemporarily : U16 := 30

def dot11TieAssocComeback : U8 := 3

def dot11ConvertTusToMs (timeTus : U16) : U32 := timeTus.zeroExtend 32 * 1024 / 1000

def dot11S1gOpChanWidthGetPriChanWidth (width : U8) : U8 := width &&& 0x01

def dot11S1gOpChanWidthGetOpChanWidth (width : U8) : U8 := (width &&& 0x1e) >>> 1

def dot11S1gOpChanWidthGetPriChanLoc (width : U8) : U8 := (width &&& 0x20) >>> 5

def dot11S1gOpChanWidthGetNoMcs10 (width : U8) : U8 := (width &&& 0x80) >>> 7

/-! ## The station -/

/-- The station with the rest of `struct umac_connection_data`, and the timeouts that are
registered for it, each with its delay in milliseconds. -/
structure Station where
  umac : Umac
  ecsaActive : Bool
  ecsaS1gInfo : S1gOperation
  assocReqCache : Option (List U8)
  /-- of `umac_connection_handle_ecsa` -/
  ecsaTimeouts : List U32
  /-- of `umac_connection_assoc_reassoc_req_retry` -/
  retryTimeouts : List U32

/-- After `mmwlan_init`. -/
def stationInit (config : UmacConfigData) : Station := ⟨umacInit config, false, .zero, none, [], []⟩

/-- `UMAC_DATAPATH_PAUSE_SOURCE_ECSA`. -/
def pauseSourceEcsa : U16 := 0x800

namespace Station

/-- The state of the connection. -/
def state (s : Station) : ConnectionFsmState := s.umac.conn.fsmInst.currentState

/-- `umac_datapath_pause`. -/
def pause (s : Station) (sourceMask : U16) : Station :=
  { s with umac := { s.umac with txPaused := s.umac.txPaused ||| sourceMask } }

/-- `umac_datapath_unpause`. -/
def unpause (s : Station) (sourceMask : U16) : Station :=
  { s with umac := { s.umac with txPaused := s.umac.txPaused &&& ~~~sourceMask } }

end Station

/-! ## Channel switches -/

def umacConnectionHandleEcsa (s : Station) : Station :=
  let s := { s with
    umac := (umacInterfaceSetChannel s.umac s.ecsaS1gInfo).1
    ecsaActive := false }
  s.unpause pauseSourceEcsa

def umacConnectionExtractS1gInfoFromEcsa (ecsaIe : Dot11IeEcsa)
    (wideBwChanSwitchIe : Option Dot11IeWideBwChanSwitch) : S1gOperation :=
  match wideBwChanSwitchIe with
  | none =>
    { primaryChannelNumber := ecsaIe.newChannelNumber
      operatingClass := ecsaIe.newOperatingClass
      operationChannelWidthMhz := 1
      operatingChannelIndex := ecsaIe.newChannelNumber
      primaryChannelWidthMhz := 1
      primary1mhzChannelLoc := 0
      recommendNoMcs10 := 0 }
  | some ie =>
    { primaryChannelNumber := ecsaIe.newChannelNumber
      operatingClass := ecsaIe.newOperatingClass
      operatingChannelIndex := ie.newChannelCentreFrequencySeg0
      primaryChannelWidthMhz :=
        if dot11S1gOpChanWidthGetPriChanWidth ie.newChannelWidth ≠ 0 then 1 else 2
      operationChannelWidthMhz := dot11S1gOpChanWidthGetOpChanWidth ie.newChannelWidth + 1
      primary1mhzChannelLoc := dot11S1gOpChanWidthGetPriChanLoc ie.newChannelWidth
      recommendNoMcs10 := dot11S1gOpChanWidthGetNoMcs10 ie.newChannelWidth }

/-- `umac_connection_process_ecsa`; `timeoutOk` is whether `umac_core_register_timeout` succeeds. -/
def umacConnectionProcessEcsa (timeoutOk : Bool) (s : Station) (ecsaIe : Dot11IeEcsa)
    (wideBwChanSwitchIe : Option Dot11IeWideBwChanSwitch) (longBeaconIntervalMs : U32) : Station :=
  if s.ecsaActive then s
  else
    let s := { s with
      ecsaS1gInfo := umacConnectionExtractS1gInfoFromEcsa ecsaIe wideBwChanSwitchIe }
    let timeoutMs :=
      if 1 < ecsaIe.channelSwitchCount.toNat then
        longBeaconIntervalMs * (ecsaIe.channelSwitchCount.zeroExtend 32 - 1)
      else 0
    if timeoutOk then
      let s := { s with ecsaTimeouts := s.ecsaTimeouts ++ [timeoutMs] }
      let s := if ecsaIe.channelSwitchMode ≠ 0 then s.pause pauseSourceEcsa else s
      { s with ecsaActive := true }
    else s

def umacConnectionProcessBeaconIes (timeoutOk : Bool) (s : Station) (ies : BeaconIes) : Station :=
  match ies.ecsaIe, ies.s1gBeaconCompat with
  | some ecsaIe, some beaconInt =>
    umacConnectionProcessEcsa timeoutOk s ecsaIe ies.wideBwChanSwitchIe
      (dot11ConvertTusToMs beaconInt)
  | _, _ => s

def umacConnectionAddrMatchesBssid (u : Umac) (addr : Dot11.MacAddr) : Bool :=
  match u.conn.fsmInst.currentState with
  | .disabled | .disconnected => false
  | _ => decide (∀ i, u.conn.bssid i = addr i)

/-! ## Associating -/

def umacConnectionClearCacheAssocReq (s : Station) : Station := { s with assocReqCache := none }

/-- `umac_connection_assoc_reassoc_req_retry`, where a copy of the request can be made or not, and
a frame can be sent or not. -/
def umacConnectionAssocReassocReqRetry (copyOk txOk : Bool) (s : Station) : Station :=
  match s.assocReqCache with
  | none => umacConnectionClearCacheAssocReq s
  | some _ =>
    let s := if copyOk then s else { s with assocReqCache := none }
    if txOk then s else umacConnectionClearCacheAssocReq s

def umacHandleAssocRefusedTemporarily (timeoutOk : Bool) (s : Station)
    (frameData : FrameDataAssocRsp) : Station × Bool :=
  match frameData.timeoutInterval with
  | none => (s, false)
  | some timeoutInterval =>
    if timeoutInterval.type = dot11TieAssocComeback ∧ timeoutOk then
      let timeout := timeoutInterval.interval * 1024 / 1000
      ({ s with retryTimeouts := s.retryTimeouts ++ [timeout] }, true)
    else (s, false)

/-- `umac_connection_process_assoc_reassoc_rsp`; `none` is a response that is malformed. -/
def umacConnectionProcessAssocReassocRsp (timeoutOk : Bool) (s : Station)
    (frameData : Option FrameDataAssocRsp) : Station :=
  match frameData with
  | none => s
  | some frameData =>
    if frameData.statusCode = dot11StatusSuccess ∧ !frameData.hasS1gCaps then s
    else
      let (s, scheduled) :=
        if frameData.statusCode = dot11StatusRefusedTemporarily then
          umacHandleAssocRefusedTemporarily timeoutOk s frameData
        else (s, false)
      if scheduled then s
      else
        let s := umacConnectionClearCacheAssocReq s
        if frameData.statusCode = dot11StatusSuccess then
          { s with umac := umacConnectionProcessAssocRsp s.umac frameData.aid frameData.wmmIe }
        else s

/-- `umac_connection_process_assoc_req`, of a request that can be built, copied and sent or not. -/
def umacConnectionProcessAssocReq (txOk : Bool) (s : Station) (assocReq : List U8) :
    Option Station :=
  if txOk then
    (connectionFsmHandleEvent s.umac .assocRequest).map fun umac =>
      { s with assocReqCache := some assocReq, umac := umac }
  else some s

/-! ## Events -/

/-- What the station sees, with its timeouts. -/
inductive StationEvent where
  | umac (e : UmacEvent)
  | beacon (sourceAddr : Dot11.MacAddr) (ies : BeaconIes) (timeoutOk : Bool)
  /-- a timeout of `umac_connection_handle_ecsa` expires -/
  | ecsaTimeout
  | assocReq (assocReq : List U8) (txOk : Bool)
  | assocRsp (frameData : Option FrameDataAssocRsp) (timeoutOk : Bool)
  /-- the `i`th timeout of `umac_connection_assoc_reassoc_req_retry` expires -/
  | retryTimeout (i : Nat) (copyOk txOk : Bool)

def stationStep (s : Station) : StationEvent → Option Station
  | .umac e => (umacStep s.umac e).map fun umac => { s with umac := umac }
  | .beacon sourceAddr ies timeoutOk =>
    if umacConnectionAddrMatchesBssid s.umac sourceAddr then
      some (umacConnectionProcessBeaconIes timeoutOk s ies)
    else some s
  | .ecsaTimeout =>
    match s.ecsaTimeouts with
    | [] => some s
    | _ :: ecsaTimeouts =>
      some (umacConnectionHandleEcsa { s with ecsaTimeouts := ecsaTimeouts })
  | .assocReq assocReq txOk =>
    if s.umac.conn.modeSta then umacConnectionProcessAssocReq txOk s assocReq else some s
  | .assocRsp frameData timeoutOk =>
    some (umacConnectionProcessAssocReassocRsp timeoutOk s frameData)
  | .retryTimeout i copyOk txOk =>
    if i < s.retryTimeouts.length then
      some (umacConnectionAssocReassocReqRetry copyOk txOk
        { s with retryTimeouts := s.retryTimeouts.eraseIdx i })
    else some s

end MmIotEsp32.Umac.Connection
