/-
  MmIotEsp32.Umac.UmacData

  The state the receive path works on, and what it asks of the rest of the
  firmware.
-/
import MmIotEsp32.Dot11.Dot11
import MmIotEsp32.Umac.Ba.BaData
import MmIotEsp32.Umac.SupplicantShim.Ccmp

namespace MmIotEsp32.Umac

open Dot11 Keys Ba

/-! ## Sizes -/

def mmwlanMaxQosTid : Nat := 7
def mmdrvSeqNumBaseline : U8 := 8
def mmdrvSeqNumSpaces : Nat := 10
def maxFragChains : Nat := mmwlanMaxQosTid + 2

def dot11MaxPayloadLen : Nat := 2346
def fragChainMinAllocLength : Nat := 1600

/-! ## Outside code -/

inductive MmwlanSecurityType where
  | open
  | owe
  | sae
  deriving Repr, DecidableEq

inductive MmwlanPmfMode where
  | required
  | disabled
  deriving Repr, DecidableEq

inductive MmwlanStaState where
  | disabled
  | connecting
  | connected
  deriving Repr, DecidableEq

/-- `enum mmwlan_status`, the values used here. -/
inductive MmwlanStatus where
  | success
  | error
  | invalidArgument
  | unavailable
  | noMem
  | timedOut
  deriving Repr, DecidableEq

inductive MmwlanVif where
  | unspecified
  | sta
  | ap
  deriving Repr, DecidableEq

/-- A packet as `mmdrv_alloc_mmpkt_for_defrag` returns it: empty, with no space
reserved at the start and at least the smallest capacity asked for. -/
structure DefragBuffer where
  pkt : Mmpkt
  isEmpty : pkt.data = []
  atStart : pkt.startOffset = 0
  capacity : fragChainMinAllocLength ≤ pkt.tailroom

/-- The configuration and the answers of the outside code. -/
structure UmacEnv where
  /-- `umac_sta_data_get_security_type` -/
  securityType : MmwlanSecurityType
  /-- the PMF mode of the STA record -/
  pmfMode : MmwlanPmfMode
  /-- `umac_interface_peek_mac_addr` -/
  macAddr : Option MacAddr
  /-- `lookup_stad_by_peer_addr` finds the STA record -/
  hasStad : MacAddr → Bool
  /-- `data->ops` is set -/
  configured : Bool
  /-- `frames_allowed_pre_association` -/
  framesAllowedPreAssociation : List U16
  /-- `filter_beacons` -/
  filterBeacons : Bool
  /-- the AMPDU bit of `umac_interface_get_capabilities` -/
  ampduSupported : Bool
  /-- the first valid VIF of `umac_interface_get_vif_id`, STA before AP -/
  vif : MmwlanVif
  /-- `umac_interface_get_rx_pkt_ext_cb` finds a callback -/
  rxPktExtCb : Bool
  /-- `rx_pkt_callback` is set -/
  rxPktCallback : Bool
  /-- `rx_callback` is set -/
  rxCallback : Bool
  /-- `get_sta_state` -/
  staState : Nat → MmwlanStaState
  /-- `mmosal_get_time_ms` -/
  timeMs : Nat → U32
  /-- `umac_core_register_timeout` has room -/
  registerTimeout : Nat → Bool
  /-- `umac_datapath_build_and_tx_mgmt_frame` returns `MMWLAN_SUCCESS` -/
  txMgmtFrame : Nat → Bool
  /-- `mmhal_random_u32(1, UINT8_MAX)` -/
  random : Nat → U8
  /-- `mmdrv_alloc_mmpkt_for_defrag` -/
  allocMmpktForDefrag : Nat → Option DefragBuffer

/-- An open network on which every request succeeds and time stands still. -/
def openEnv : UmacEnv where
  securityType := .open
  pmfMode := .disabled
  macAddr := some fun _ => 0x02
  hasStad := fun _ => true
  configured := true
  framesAllowedPreAssociation := []
  filterBeacons := false
  ampduSupported := true
  vif := .sta
  rxPktExtCb := false
  rxPktCallback := false
  rxCallback := true
  staState := fun _ => .connected
  timeMs := fun _ => 0
  registerTimeout := fun _ => true
  txMgmtFrame := fun _ => true
  random := fun _ => 1
  allocMmpktForDefrag := fun _ => some
    { pkt :=
        { startOffset := 0
          data := []
          behind := fun _ => 0
          tailroom := dot11MaxPayloadLen + sizeofDot11DataHdr
          rx := ⟨false, 0⟩ }
      isEmpty := rfl
      atStart := rfl
      capacity := by decide }

def umacInterfaceAddrMatchesMacAddr (env : UmacEnv) (addr : MacAddr) : Bool :=
  match env.macAddr with
  | none => false
  | some macAddr => addr == macAddr

def umacStaDataPmfIsRequired (env : UmacEnv) : Bool :=
  env.securityType != .open && env.pmfMode == .required

/-! ## The STA record -/

structure DatapathDefragDataChain where
  sequenceNumber : U16
  isProtected : Bool
  buf : Option Mmpkt

/-- The chain without its buffer. -/
def DatapathDefragDataChain.release (chain : DatapathDefragDataChain) : DatapathDefragDataChain :=
  { chain with buf := none }

/-- An index of `frag_chains[]`. -/
abbrev FragChainIdx := Fin maxFragChains

/-- `struct umac_datapath_sta_data`, its receive side. -/
structure UmacDatapathStaData where
  rxSeqNumSpaces : Fin mmdrvSeqNumSpaces → U16
  fragChains : FragChainIdx → DatapathDefragDataChain
  rxReorderList : List Mmpkt
  rxReorderTid : U16

/-- The parts of `struct umac_sta_data` behind the receive path. -/
structure UmacStaData where
  keys : ConnectionKeysData
  ba : UmacBaStaData
  datapath : UmacDatapathStaData

/-- A handler with its arguments, as `umac_core_register_timeout` keeps them. -/
inductive UmacTimeout where
  | datapathDefragTimeout (chain : FragChainIdx)
  | umacDatapathRxReorderTimeoutHandler
  | umacBaAddbaReqTimeoutHandler (session : UmacBaSessionPtr)
  deriving DecidableEq

/-- What goes up the stack. -/
inductive RxUpcall where
  /-- `umac_supp_l2_sock_receive` -/
  | l2SockReceive (payload : List U8) (sa : MacAddr)
  /-- the extended packet callback -/
  | rxPktExt (frame : List U8) (vif : MmwlanVif) (tid : U8) (ta : MacAddr)
  /-- `rx_pkt_callback` -/
  | rxPkt (frame : List U8)
  /-- `rx_callback` -/
  | rx (header payload : List U8)
  deriving DecidableEq

/-- The record kept of a frame handed to
`umac_datapath_process_rx_data_frame_after_reorder`. -/
structure RxRecord where
  seqCtrl : U16
  tidIndex : U8
  /-- the packet number given to `ccmp_is_valid`, and its answer -/
  ccmp : Option (KeySlot × U64 × Bool)
  /-- none of the security checks dropped the frame -/
  passedSecurity : Bool
  /-- the value given to `umac_ba_set_expected_rx_seq_num` -/
  expected : Option U16

/-- The STA record of a peer, the timeouts pending for it and what happened so far.
`rxLog` and `outdatedDrops` only record it, latest first. -/
structure UmacData where
  stad : UmacStaData
  timeouts : List UmacTimeout
  tick : Nat
  upcalls : List RxUpcall
  rxLog : List RxRecord
  outdatedDrops : List U16

/-! ## Updates -/

namespace UmacData

/-- One more question was asked. -/
def ticked (u : UmacData) : UmacData := { u with tick := u.tick + 1 }

def setKeys (u : UmacData) (keys : ConnectionKeysData) : UmacData :=
  { u with stad := { u.stad with keys := keys } }

def setBa (u : UmacData) (ba : UmacBaStaData) : UmacData := { u with stad := { u.stad with ba := ba } }

def setFragChain (u : UmacData) (i : FragChainIdx) (chain : DatapathDefragDataChain) : UmacData :=
  { u with stad := { u.stad with datapath := { u.stad.datapath with
      fragChains := Function.update u.stad.datapath.fragChains i chain } } }

def setRxReorderList (u : UmacData) (l : List Mmpkt) : UmacData :=
  { u with stad := { u.stad with datapath := { u.stad.datapath with rxReorderList := l } } }

def setRxReorderTid (u : UmacData) (tid : U16) : UmacData :=
  { u with stad := { u.stad with datapath := { u.stad.datapath with rxReorderTid := tid } } }

def setRxSeqNumSpace (u : UmacData) (i : Fin mmdrvSeqNumSpaces) (seqCtrl : U16) : UmacData :=
  { u with stad := { u.stad with datapath := { u.stad.datapath with
      rxSeqNumSpaces := Function.update u.stad.datapath.rxSeqNumSpaces i seqCtrl } } }

def upcall (u : UmacData) (call : RxUpcall) : UmacData := { u with upcalls := call :: u.upcalls }

def log (u : UmacData) (record : RxRecord) : UmacData := { u with rxLog := record :: u.rxLog }

end UmacData

/-- `umac_core_register_timeout`, with its return value. -/
def umacCoreRegisterTimeout (env : UmacEnv) (u : UmacData) (timeout : UmacTimeout) : UmacData × Bool :=
  if env.registerTimeout u.tick then
    ({ u.ticked with timeouts := timeout :: u.timeouts }, true)
  else (u.ticked, false)

def umacCoreCancelTimeout (u : UmacData) (timeout : UmacTimeout) : UmacData :=
  { u with timeouts := u.timeouts.filter (· ≠ timeout) }

/-- A new STA record: zeroed, then `umac_datapath_stad_init` and `umac_keys_init`. -/
def umacStadInit : UmacData where
  stad :=
    { keys := connectionKeysInit
      ba := umacBaDeinit
      datapath :=
        { rxSeqNumSpaces := fun _ => 0xffff
          fragChains := fun _ => ⟨0, false, none⟩
          rxReorderList := []
          rxReorderTid := 0 } }
  timeouts := []
  tick := 0
  upcalls := []
  rxLog := []
  outdatedDrops := []

end MmIotEsp32.Umac
