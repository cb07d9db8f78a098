/-
  MmIotEsp32.Umac.Datapath.TxPath

  The transmit paths of the datapath (`umac/datapath/umac_datapath.c`), as far as they number
  and count frames.
-/
import MmIotEsp32.Umac.Datapath.AfterReorder
import MmIotEsp32.Umac.Keys.UmacKeys

namespace MmIotEsp32.Umac.Datapath

open Dot11 Keys

/-! ## Data model -/

/-- The spaces of `tx_seq_num_spaces`: one for each TID and the two of
`enum mmdrv_sequnce_num_spaces`. -/
inductive SeqNumSpace where
  | tid (tid : Fin (mmwlanMaxQosTid + 1))
  | baseline
  | qosNull
  deriving Repr, DecidableEq

/-- The index of a space. -/
def SeqNumSpace.index : SeqNumSpace → Nat
  | .tid t => t.val
  | .baseline => mmwlanMaxQosTid + 1
  | .qosNull => mmwlanMaxQosTid + 2

inductive UmacDatapathFrameEncryption where
  | auto
  | disabled
  | enabled
  deriving Repr, DecidableEq

/-- A frame as it is submitted to the driver: its sequence control and what its metadata says
about encryption. -/
structure TxFrame where
  sequenceControl : U16
  isProtected : Bool
  hwEnc : Bool
  keyIdx : U8
  deriving Repr, DecidableEq

def morseCmdSnsMaxTids : Nat := 16

/-- `struct morse_cmd_req_sequence_number_spaces`, without its header and address. -/
structure MorseCmdReqSequenceNumberSpaces where
  flags : U32
  baseline : U16
  individuallyAddrQosData : Fin morseCmdSnsMaxTids → U16
  qosNull : U16

/-- What happens on the way to the driver. -/
inductive TxRecord where
  /-- the keychain took a key -/
  | keyInstalled (keyId : U8) (txSeq : U64)
  /-- the driver was told about a key -/
  | driverKey (call : MmdrvKeyCall)
  /-- a frame took a number of a space -/
  | numbered (space : SeqNumSpace)
  /-- a frame was counted under a key -/
  | counted (keyId : U8)
  /-- a frame was submitted to the driver -/
  | submitted (frame : TxFrame)
  /-- the sequence numbers were sent to the chip -/
  | seqNumSpaces (req : MorseCmdReqSequenceNumberSpaces)

/-- The STA record as the transmit paths see it.  `log` only records, latest first. -/
structure TxData where
  keys : ConnectionKeysData
  txSeqNumSpaces : SeqNumSpace → U16
  log : List TxRecord

/-- A new STA record. -/
def txDataInit : TxData where
  keys := connectionKeysInit
  txSeqNumSpaces := fun _ => 0
  log := []

def TxData.record (s : TxData) (r : TxRecord) : TxData := { s with log := r :: s.log }

/-! ## Numbering and counting -/

/-- The sequence number of a frame, and the space moved on. -/
def takeSequenceNumber (s : TxData) (space : SeqNumSpace) : TxData × U16 :=
  ({ s with
      txSeqNumSpaces :=
        Function.update s.txSeqNumSpaces space (s.txSeqNumSpaces space + 1) }.record
      (.numbered space), s.txSeqNumSpaces space)

/-- `DOT11_SEQUENCE_CONTROL_SET_SEQUENCE_NUMBER`, on a cleared field. -/
def sequenceControlOf (sequenceNumber : U16) : U16 := sequenceNumber <<< 4 &&& 0xfff0

/-- The key id as the functions of the keychain take it. -/
def keyIdOf (keyId : Int) : U8 := BitVec.ofInt 8 keyId

/-- `umac_keys_increment_tx_seq`; `none` is the assertion on the key id. -/
def umacKeysIncrementTxSeq (s : TxData) (keyId : Int) : Option TxData :=
  (connectionKeysIncrementTxSeq s.keys (keyIdOf keyId)).map fun keys =>
    { s with keys := keys }.record (.counted (keyIdOf keyId))

/-- `mmdrv_tx_frame`, whatever it returns. -/
def mmdrvTxFrame (s : TxData) (frame : TxFrame) : TxData := s.record (.submitted frame)

/-! ## The transmit paths -/

def mmMacAddrIsZero (addr : MacAddr) : Bool :=
  addr 0 ||| addr 1 ||| addr 2 ||| addr 3 ||| addr 4 ||| addr 5 == 0

/-- A management frame, and what it meets on its way. -/
structure MgmtFrame where
  da : MacAddr
  /-- `get_sta_state` -/
  staState : MmwlanStaState
  /-- `umac_sta_data_pmf_is_required` -/
  pmfRequired : Bool
  /-- `frame_is_robust_mgmt` -/
  isRobust : Bool
  /-- `umac_datapath_wait_for_tx_ready_` succeeds -/
  txReady : Bool

/-- The end of `umac_datapath_tx_mgmt_frame`, with the key of the frame or -1. -/
def submitMgmtFrame (s : TxData) (frame : MgmtFrame) (sequenceNumber : U16) (keyId : Int) : TxData :=
  if !frame.txReady then s
  else
    mmdrvTxFrame s
      { sequenceControl := sequenceControlOf sequenceNumber
        isProtected := decide (0 ≤ keyId)
        hwEnc := decide (0 ≤ keyId)
        keyIdx := if 0 ≤ keyId then keyIdOf keyId else 0 }

/-- `umac_datapath_tx_mgmt_frame`; `none` is the assertion of the keychain. -/
def umacDatapathTxMgmtFrame (s : TxData) (frame : MgmtFrame) : Option TxData :=
  let (s, sequenceNumber) := takeSequenceNumber s .baseline
  if frame.staState = .connected ∧ frame.pmfRequired = true ∧ frame.isRobust = true then
    if mmMacAddrIsMulticast frame.da then some s
    else
      let keyId := connectionKeysGetActiveKeyId s.keys .pairwise
      if 0 ≤ keyId then
        (umacKeysIncrementTxSeq s keyId).map fun s => submitMgmtFrame s frame sequenceNumber keyId
      else some s
  else some (submitMgmtFrame s frame sequenceNumber (-1))

/-- `umac_datapath_tx_mgmt_frame_ap`, which never encrypts. -/
def umacDatapathTxMgmtFrameAp (s : TxData) (frame : MgmtFrame) : TxData :=
  let (s, sequenceNumber) := takeSequenceNumber s .baseline
  submitMgmtFrame s frame sequenceNumber (-1)

def umacDatapathTxQosNullFrame (s : TxData) : TxData :=
  let (s, sequenceNumber) := takeSequenceNumber s .qosNull
  mmdrvTxFrame s
    { sequenceControl := sequenceControlOf sequenceNumber
      isProtected := false
      hwEnc := false
      keyIdx := 0 }

/-- A data frame, with the receiver that `construct_80211_data_header` gives it. -/
structure DataFrame where
  ra : MacAddr
  ethertype : U16
  enc : UmacDatapathFrameEncryption
  tid : Fin (mmwlanMaxQosTid + 1)
  /-- `umac_sta_data_get_security_type` -/
  securityType : MmwlanSecurityType
  /-- the request that `umac_datapath_aggr_check` sends when it starts a session -/
  addbaReq : Option MgmtFrame

/-- The space that a data frame is numbered in. -/
def DataFrame.space (frame : DataFrame) : SeqNumSpace :=
  if mmMacAddrIsMulticast frame.ra then .baseline else .tid frame.tid

def umacDatapathAggrCheck (s : TxData) (frame : DataFrame) : Option TxData :=
  match frame.addbaReq with
  | none => some s
  | some req => umacDatapathTxMgmtFrame s req

/-- The end of `umac_datapath_process_tx_frame`, with the key of the frame or -1. -/
def submitDataFrame (s : TxData) (sequenceNumber : U16) (keyId : Int) : Option TxData :=
  let frame : TxFrame :=
    { sequenceControl := sequenceControlOf sequenceNumber
      isProtected := decide (0 ≤ keyId)
      hwEnc := decide (0 ≤ keyId)
      keyIdx := keyIdOf keyId }
  if 0 ≤ keyId then (umacKeysIncrementTxSeq s keyId).map fun s => mmdrvTxFrame s frame
  else some (mmdrvTxFrame s frame)

/-- `umac_datapath_process_tx_frame` once the frame has its key or is sent without one. -/
def numberDataFrame (s : TxData) (frame : DataFrame) (keyId : Int) : Option TxData :=
  let (s, sequenceNumber) := takeSequenceNumber s frame.space
  let s :=
    if !mmMacAddrIsMulticast frame.ra && frame.ethertype != ethertypeEapol then
      umacDatapathAggrCheck s frame
    else some s
  s.bind fun s => submitDataFrame s sequenceNumber keyId

/-- `umac_datapath_process_tx_frame`; `none` is an assertion of the keychain. -/
def umacDatapathProcessTxFrame (s : TxData) (frame : DataFrame) : Option TxData :=
  if mmMacAddrIsZero frame.ra then some s
  else if frame.securityType ≠ .open ∧ frame.enc ≠ .disabled then
    let keyId := connectionKeysGetActiveKeyId s.keys
      (if mmMacAddrIsMulticast frame.ra then .group else .pairwise)
    if 0 ≤ keyId then
      (connectionKeysGetKeyLen s.keys (keyIdOf keyId)).bind fun _ => numberDataFrame s frame keyId
    else if frame.enc = .enabled then some s
    else numberDataFrame s frame keyId
  else numberDataFrame s frame (-1)

/-! ## Restarts -/

/-- The octets of an array of `uint16_t`, on a little-endian host. -/
def octetOf (words : Nat → U16) (i : Nat) : U8 := ((words (i / 2)) >>> (8 * (i % 2))).setWidth 8

/-- `memcpy` of `n` octets between two arrays of `uint16_t`. -/
def memcpyWords (dst src : Nat → U16) (n : Nat) : Nat → U16 := fun j =>
  let octet := fun i => if i < n then octetOf src i else octetOf dst i
  octet (2 * j + 1) ++ octet (2 * j)

/-- The array that the spaces are. -/
def spacesArray (spaces : SeqNumSpace → U16) (i : Nat) : U16 :=
  if h : i < mmwlanMaxQosTid + 1 then spaces (.tid ⟨i, h⟩)
  else if i = mmwlanMaxQosTid + 1 then spaces .baseline
  else spaces .qosNull

/-- `mmdrv_set_seq_num_spaces`, up to the command that it sends: the flags are `SET`,
`BASELINE` and `INDIV_ADDR_QOS_DATA`. -/
def mmdrvSetSeqNumSpaces (spaces : SeqNumSpace → U16) : MorseCmdReqSequenceNumberSpaces where
  flags := 1 ||| 2 ||| 4
  baseline := spaces .baseline
  individuallyAddrQosData := fun tid =>
    memcpyWords (fun _ => 0) (spacesArray spaces) mmwlanMaxQosTid tid.val
  qosNull := spaces .qosNull

def umacDatapathHandleHwRestarted (s : TxData) : TxData :=
  s.record (.seqNumSpaces (mmdrvSetSeqNumSpaces s.txSeqNumSpaces))

/-- `umac_keys_reinstall_keys`, on the STA record. -/
def reinstallKeys (s : TxData) (driverOk : KeySlot → Bool) : TxData :=
  { s with log := (umacKeysReinstallKeys driverOk ⟨s.keys, []⟩).calls.map .driverKey ++ s.log }

/-! ## Runs -/

/-- `umac_keys_install_key`, on the STA record. -/
def installKey (s : TxData) (key : UmacKey) : TxData :=
  let (w, taken) := umacKeysInstallKey ⟨s.keys, []⟩ key
  { s with
    keys := w.keys
    log := w.calls.map .driverKey
      ++ if taken then .keyInstalled key.keyId key.txSeq :: s.log else s.log }

/-- `umac_keys_uninstall_key`, on the STA record. -/
def uninstallKey (s : TxData) (keyId : U8) : Option TxData :=
  (umacKeysUninstallKey ⟨s.keys, []⟩ keyId).map fun w =>
    { s with keys := w.keys, log := w.calls.map .driverKey ++ s.log }

/-- What happens to a STA record: keys, frames and restarts. -/
inductive TxEvent where
  | installKey (key : UmacKey)
  | uninstallKey (keyId : U8)
  | data (frame : DataFrame)
  | mgmt (frame : MgmtFrame)
  | mgmtAp (frame : MgmtFrame)
  | qosNull
  | reinstallKeys (driverOk : KeySlot → Bool)
  | handleHwRestarted

def txStep (s : TxData) : TxEvent → Option TxData
  | .installKey key => some (installKey s key)
  | .uninstallKey keyId => uninstallKey s keyId
  | .data frame => umacDatapathProcessTxFrame s frame
  | .mgmt frame => umacDatapathTxMgmtFrame s frame
  | .mgmtAp frame => some (umacDatapathTxMgmtFrameAp s frame)
  | .qosNull => some (umacDatapathTxQosNullFrame s)
  | .reinstallKeys driverOk => some (reinstallKeys s driverOk)
  | .handleHwRestarted => some (umacDatapathHandleHwRestarted s)

end MmIotEsp32.Umac.Datapath
