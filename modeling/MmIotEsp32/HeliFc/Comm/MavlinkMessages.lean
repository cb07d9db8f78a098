/-
  MmIotEsp32.HeliFc.Comm.MavlinkMessages

  The messages of the ground station, from the octets to the replies
  (`process_mavlink_message` and the handlers of `comm/mavlink_handler.c`).
-/
import MmIotEsp32.HeliFc.Comm.Mavlink.MavlinkAccess
import MmIotEsp32.HeliFc.Comm.MavlinkSend
import MmIotEsp32.HeliFc.Comm.ParamProtocol
import MmIotEsp32.HeliFc.Drivers.GpsNmea
import MmIotEsp32.HeliFc.RcOverride

namespace MmIotEsp32.HeliFc.MavlinkMsg.Handler

open Lib

/-! ## The statics -/

/-- `param_entry_t`. -/
structure ParamEntry17 where
  name : ParamId17
  value : U32

/-- What is given to `rpc_send_command`. -/
inductive HandedCommand where
  | command (cmd : RpcCommand Binary32)
  | paramSet (name : CArray 17 U8) (value : U32)
  | rcOverride (channels : CArray 8 U16)
  | mission (cmd : RpcCommandMsg)

/-- The statics that the handlers of messages use. -/
structure Statics where
  link : MavlinkLink
  attitudeHz : U8
  gpsHz : U8
  batteryHz : U8
  vfrHudHz : U8
  calState : CalState
  calStartMs : U32
  calLastProgressMs : U32
  calStep : Nat
  paramStore : CArray paramStoreMax ParamEntry17
  paramStoreCount : U16
  paramsInitialized : Bool
  paramListPending : Bool
  paramValueSendIdx : Nat
  paramLastSendMs : U32
  paramSendPass : Nat
  missionItems : CArray missionMaxItems MavlinkMissionItemInt
  missionCount : U16
  missionExpected : U16
  missionReceived : U16
  missionCurrentSeq : U16
  missionState : MissionState
  missionGcsSysid : U8
  missionGcsCompid : U8
  fenceCount : U16
  rallyCount : U16
  /-- What the surroundings will answer to the messages to come. -/
  answers : Nat → SendAnswer
  /-- The readings of the clock to come. -/
  clock : Nat → U32
  /-- What was given to `rpc_send_command`, with its time stamp, oldest first. -/
  commands : List (U32 × HandedCommand)

/-- `mavlink_handler_init`, from zeroed statics. -/
def mavlinkHandlerInit (answers : Nat → SendAnswer) (clock : Nat → U32) : Statics where
  link := mavlinkLinkZero
  attitudeHz := 4
  gpsHz := 2
  batteryHz := 2
  vfrHudHz := 2
  calState := .idle
  calStartMs := 0
  calLastProgressMs := 0
  calStep := 0
  paramStore := fun _ => ⟨fun _ => 0, 0⟩
  paramStoreCount := 0
  paramsInitialized := false
  paramListPending := false
  paramValueSendIdx := 0
  paramLastSendMs := 0
  paramSendPass := 0
  missionItems := fun _ => .zero
  missionCount := 0
  missionExpected := 0
  missionReceived := 0
  missionCurrentSeq := 0
  missionState := .idle
  missionGcsSysid := 255
  missionGcsCompid := 0
  fenceCount := 0
  rallyCount := 0
  answers := answers
  clock := clock
  commands := []

/-- Code over the statics. -/
abbrev Code (α : Type) := StateT Statics Option α

/-! ## Sending -/

def getTimeMs : Code U32 :=
  fun s => some (s.clock 0, { s with clock := fun k => s.clock (k + 1) })

/-- A message is built and given to `send_mavlink_msg`, whose buffer takes its octets. -/
def sendMessage (encode : U8 → Option MavlinkMessage) : Code Unit := do
  let s ← get
  let msg ← access (encode s.link.mavlinkSeq)
  let _ ← access (CArray.writeAll (fun _ => 0 : CArray mavlinkMaxPacketLen U8) 0 msg.octets)
  set { s with
    link := (emit s.link (s.answers 0) fun _ => msg).1
    answers := fun k => s.answers (k + 1) }

/-- `rpc_send_command`. -/
def sendCommand (nowMs : U32) (cmd : HandedCommand) : Code Unit :=
  modify fun s => { s with commands := s.commands ++ [(nowMs, cmd)] }

def sendMissionCurrent : Code Unit := do
  let s ← get
  sendMessage (missionCurrentEncode s.missionCurrentSeq)

def sendProtocolVersion : Code Unit := sendMessage (protocolVersionEncode 200 100 200)

/-- `MAV_PROTOCOL_CAPABILITY_*` of `send_autopilot_version`: bits 2, 4, 5, 9, 7, 12 and 13. -/
def capabilities : U64 := 0x32B4

def sendAutopilotVersion : Code Unit :=
  sendMessage
    (autopilotVersionEncode capabilities 0x01000000 0x01000000 0x05030000 1 (fun _ => 0) 1)

/-- The message is for another system. -/
def forAnotherSystem (targetSystem : U8) : Bool := targetSystem != 0 && targetSystem != mavSysId

/-! ## Commands -/

/-- The number of a result. -/
def mavResultNumber : MavResult → U8
  | .accepted => 0
  | .denied => 1
  | .unsupported => 3

/-- The statics that the switch of `handle_command_long` works on. -/
def Statics.commandPart (s : Statics) : CommandHandler Binary32 where
  attitudeHz := s.attitudeHz
  gpsHz := s.gpsHz
  batteryHz := s.batteryHz
  vfrHudHz := s.vfrHudHz
  calState := s.calState
  calStartMs := s.calStartMs
  calLastProgressMs := s.calLastProgressMs
  calStep := s.calStep
  cmdQueue := []
  sent := []

/-- What the switch has left. -/
def Statics.withCommandPart (s : Statics) (h : CommandHandler Binary32) : Statics :=
  { s with
    attitudeHz := h.attitudeHz
    gpsHz := h.gpsHz
    batteryHz := h.batteryHz
    vfrHudHz := h.vfrHudHz
    calState := h.calState
    calStartMs := h.calStartMs
    calLastProgressMs := h.calLastProgressMs
    calStep := h.calStep }

/-- A message behind the acknowledgement. -/
def sendDeferred : CommandReply → Code Unit
  | .autopilotVersion => sendAutopilotVersion
  | .protocolVersion => sendProtocolVersion
  | .commandAck command result targetSystem targetComponent =>
    sendMessage (commandAckEncode command (mavResultNumber result) targetSystem targetComponent)

/-- An accepted command goes to core 0. -/
def forwardCommand (nowMs : U32) (out : CommandOutcome Binary32) : Code Unit :=
  match out.result, out.rpcCmd with
  | .accepted, some cmd => sendCommand nowMs (.command cmd)
  | _, _ => pure ()

def handleCommandLong (msg : MavlinkMessage) : Code Unit := do
  let m ← access (commandLongDecode msg)
  if forAnotherSystem m.targetSystem then pure ()
  else
    let nowMs ← getTimeMs
    let s ← get
    let out := commandSwitch s.commandPart nowMs m
    set (s.withCommandPart out.handler)
    -- the acknowledgement first, then any response data
    sendMessage (commandAckEncode m.command (mavResultNumber out.result) msg.sysid msg.compid)
    (if out.result = .accepted then deferredReplies m else []).forM sendDeferred
    forwardCommand nowMs out

/-! ## Parameters -/

/-- `ADD_PARAM`: `strncpy` of 16 characters, and a NUL behind them. -/
def addParam (param : String × ℚ) : Code Unit := do
  let s ← get
  if s.paramStoreCount.toNat < paramStoreMax then
    let entry ← access (s.paramStore.read s.paramStoreCount.toNat)
    let name ← access (entry.name.writeAll 0 ((asciiText param.1 ++ List.replicate 16 0).take 16))
    let name ← access (name.write 16 0)
    let store ← access (s.paramStore.write s.paramStoreCount.toNat
      ⟨name, (Binary32.ofRat param.2).bits⟩)
    set { s with paramStore := store, paramStoreCount := s.paramStoreCount + 1 }
  else pure ()

def paramStoreInit : Code Unit := do
  let s ← get
  if s.paramsInitialized then pure ()
  else
    set { s with paramsInitialized := true, paramStoreCount := 0 }
    paramStoreDefaults.forM addParam

/-- The loop of `param_find` over the indices that are left. -/
def paramFindFrom (store : CArray paramStoreMax ParamEntry17) (name : List U8) :
    List Nat → Option (Option Nat)
  | [] => some none
  | i :: rest => do
      let entry ← store.read i
      let text ← entry.name.cstr
      if text = name then pure (some i) else paramFindFrom store name rest

/-- `param_find`; `none` is -1. -/
def paramFind (paramId : ParamId17) : Code (Option Nat) := do
  let s ← get
  let name ← access paramId.cstr
  access (paramFindFrom s.paramStore name (List.range s.paramStoreCount.toNat))

/-- The `PARAM_VALUE` of an entry is sent. -/
def sendParam : Option Nat → Code Unit
  | none => pure ()
  | some idx => do
      let s ← get
      let entry ← access (s.paramStore.read idx)
      sendMessage (paramValueEncode entry.name entry.value mavParamTypeReal32 s.paramStoreCount
        (BitVec.ofNat 16 idx))

/-- `idx` of `handle_param_request_read`. -/
def requestedParam (m : ParamRequestReadMsg) : Code (Option Nat) := do
  let s ← get
  let first ← access (m.paramId.read 0)
  if first ≠ 0 then paramFind m.paramId
  else if 0 ≤ m.paramIndex.toInt ∧ m.paramIndex.toInt < s.paramStoreCount.toNat then
    pure (some m.paramIndex.toNat)
  else pure none

def handleParamRequestRead (msg : MavlinkMessage) : Code Unit := do
  let m ← access (paramRequestReadDecode msg)
  if forAnotherSystem m.targetSystem then pure ()
  else
    paramStoreInit
    let idx ← requestedParam m
    sendParam idx

def handleParamRequestList (msg : MavlinkMessage) : Code Unit := do
  let targetSystem ← access (readU8 msg.payload 0)
  if forAnotherSystem targetSystem then pure ()
  else
    paramStoreInit
    modify fun s => { s with
      paramValueSendIdx := 0, paramLastSendMs := 0, paramSendPass := 0, paramListPending := true }

/-- `param_set_value`, when the name was found. -/
def setParam (value : U32) : Option Nat → Code Unit
  | none => pure ()
  | some idx => do
      let s ← get
      let entry ← access (s.paramStore.read idx)
      let store ← access (s.paramStore.write idx { entry with value := value })
      set { s with paramStore := store }

def handleParamSet (msg : MavlinkMessage) : Code Unit := do
  let m ← access (paramSetDecode msg)
  if forAnotherSystem m.targetSystem then pure ()
  else
    paramStoreInit
    let idx ← paramFind m.paramId
    setParam m.paramValue idx
    sendParam idx
    -- also forward to core 0
    let nowMs ← getTimeMs
    let name ← access (CArray.memcpy (fun _ => 0 : CArray 17 U8) 0 m.paramId 0 16)
    sendCommand nowMs (.paramSet name m.paramValue)

/-! ## The remote control -/

def handleRcChannelsOverride (msg : MavlinkMessage) : Code Unit := do
  let m ← access (rcChannelsOverrideDecode msg)
  if forAnotherSystem m.2.1 then pure ()
  else
    let nowMs ← getTimeMs
    sendCommand nowMs (.rcOverride fun i => rpcOverrideChannel (m.1 i))

/-! ## Missions -/

def handleMissionRequestList (msg : MavlinkMessage) : Code Unit := do
  let (targetSystem, _, missionType) ← access (missionRequestListDecode msg)
  let s ← get
  if forAnotherSystem targetSystem then pure ()
  else if missionType = mavMissionTypeFence then
    sendMessage (missionCountEncode msg.sysid msg.compid s.fenceCount mavMissionTypeFence)
  else if missionType = mavMissionTypeRally then
    sendMessage (missionCountEncode msg.sysid msg.compid s.rallyCount mavMissionTypeRally)
  else if missionType ≠ mavMissionTypeMission then pure ()
  else
    set { s with missionGcsSysid := msg.sysid, missionGcsCompid := msg.compid }
    sendMessage (missionCountEncode msg.sysid msg.compid s.missionCount mavMissionTypeMission)
    modify fun s => { s with missionState := .downloading }

/-- A `MISSION_ACK` for the sender. -/
def sendMissionAck (msg : MavlinkMessage) (result missionType : U8) : Code Unit :=
  sendMessage (missionAckEncode msg.sysid msg.compid result missionType)

/-- A `MISSION_COUNT` of the mission itself. -/
def beginUpload (msg : MavlinkMessage) (count : U16) : Code Unit := do
  modify fun s => { s with missionGcsSysid := msg.sysid, missionGcsCompid := msg.compid }
  if missionMaxItems < count.toNat then sendMissionAck msg mavMissionNoSpace mavMissionTypeMission
  else
    modify fun s => { s with
      missionExpected := count, missionReceived := 0, missionCount := 0
      missionState := .uploading }
    if 0 < count.toNat then
      sendMessage (missionRequestIntEncode msg.sysid msg.compid 0 mavMissionTypeMission)
    else
      sendMissionAck msg mavMissionAccepted mavMissionTypeMission
      modify fun s => { s with missionState := .idle }

def handleMissionCount (msg : MavlinkMessage) : Code Unit := do
  let (count, targetSystem, _, missionType) ← access (missionCountDecode msg)
  if forAnotherSystem targetSystem then pure ()
  else if missionType = mavMissionTypeFence then
    if fenceMaxItems < count.toNat then sendMissionAck msg mavMissionNoSpace mavMissionTypeFence
    else
      modify fun s => { s with fenceCount := count }
      sendMissionAck msg mavMissionAccepted mavMissionTypeFence
  else if missionType = mavMissionTypeRally then
    if rallyMaxItems < count.toNat then sendMissionAck msg mavMissionNoSpace mavMissionTypeRally
    else
      modify fun s => { s with rallyCount := count }
      sendMissionAck msg mavMissionAccepted mavMissionTypeRally
  else if missionType ≠ mavMissionTypeMission then pure ()
  else beginUpload msg count

/-- The item is stored, and forwarded to core 0. -/
def storeMissionItem (item : MavlinkMissionItemInt) : Code Unit := do
  let s ← get
  let items ← access (s.missionItems.write item.seq.toNat item)
  set { s with missionItems := items, missionReceived := s.missionReceived + 1 }
  let nowMs ← getTimeMs
  sendCommand nowMs (.mission (.missionItem item.toMissionItem))

/-- The last item is there, or the next is asked for. -/
def continueUpload (msg : MavlinkMessage) : Code Unit := do
  let s ← get
  if s.missionExpected.toNat ≤ s.missionReceived.toNat then
    set { s with
      missionCount := s.missionExpected, missionCurrentSeq := 0, missionState := .idle }
    let nowMs ← getTimeMs
    sendCommand nowMs (.mission (.missionCount s.missionExpected))
    sendMissionAck msg mavMissionAccepted mavMissionTypeMission
  else
    sendMessage (missionRequestIntEncode msg.sysid msg.compid s.missionReceived
      mavMissionTypeMission)

def handleMissionItemInt (msg : MavlinkMessage) : Code Unit := do
  let (item, targetSystem, _) ← access (missionItemIntDecode msg)
  let s ← get
  if forAnotherSystem targetSystem then pure ()
  else if s.missionState ≠ .uploading then pure ()
  else if missionMaxItems ≤ item.seq.toNat then pure ()
  else
    storeMissionItem item
    continueUpload msg

def handleMissionRequestInt (msg : MavlinkMessage) : Code Unit := do
  let (seq, targetSystem, _, _) ← access (missionRequestIntDecode msg)
  let s ← get
  if forAnotherSystem targetSystem then pure ()
  else if s.missionCount.toNat ≤ seq.toNat then pure ()
  else
    let item ← access (s.missionItems.read seq.toNat)
    sendMessage (missionItemIntEncode msg.sysid msg.compid item)

def handleMissionAck : Code Unit := modify fun s => { s with missionState := .idle }

/-- A `MISSION_CLEAR_ALL` of the mission itself. -/
def clearMission (msg : MavlinkMessage) : Code Unit := do
  modify fun s => { s with missionCount := 0, missionCurrentSeq := 0, missionState := .idle }
  let nowMs ← getTimeMs
  sendCommand nowMs (.mission .missionClearAll)
  sendMissionAck msg mavMissionAccepted mavMissionTypeMission

def handleMissionClearAll (msg : MavlinkMessage) : Code Unit := do
  let (targetSystem, _, missionType) ← access (missionClearAllDecode msg)
  if forAnotherSystem targetSystem then pure ()
  else
    modify fun s => { s with
      fenceCount :=
        if missionType = mavMissionTypeFence ∨ missionType = mavMissionTypeAll then 0
        else s.fenceCount
      rallyCount :=
        if missionType = mavMissionTypeRally ∨ missionType = mavMissionTypeAll then 0
        else s.rallyCount }
    if missionType ≠ mavMissionTypeMission ∧ missionType ≠ mavMissionTypeAll then
      sendMissionAck msg mavMissionAccepted missionType
    else clearMission msg

def handleMissionSetCurrent (msg : MavlinkMessage) : Code Unit := do
  let (seq, targetSystem, _) ← access (missionSetCurrentDecode msg)
  if forAnotherSystem targetSystem then pure ()
  else
    modify fun s => { s with missionCurrentSeq := seq }
    sendMissionCurrent
    let nowMs ← getTimeMs
    sendCommand nowMs (.mission (.missionSetCurrent seq))

/-! ## File transfers -/

/-- A refusal, with its error. -/
def ftpNak (resp : FtpPayload) (error : U8) : Option FtpPayload := do
  let resp ← resp.write 3 129
  let resp ← resp.write 4 1
  resp.write 12 error

/-- `resp` of `handle_file_transfer_protocol`. -/
def ftpResponse (payload : FtpPayload) : Option FtpPayload := do
  let seqLow ← payload.read 0
  let seqHigh ← payload.read 1
  let session ← payload.read 2
  let opcode ← payload.read 3
  let resp ← CArray.write (fun _ => 0 : FtpPayload) 0 seqLow
  let resp ← resp.write 1 seqHigh
  let resp ← resp.write 2 session
  let resp ← resp.write 5 opcode
  match opcode.toNat with
  | 1 | 2 => do
      let resp ← resp.write 3 128
      resp.write 4 0
  -- there are no files
  | 3 => ftpNak resp 7
  | 4 => ftpNak resp 6
  | 5 => ftpNak resp 7
  | _ => ftpNak resp 1

def handleFileTransferProtocol (msg : MavlinkMessage) : Code Unit := do
  let m ← access (fileTransferProtocolDecode msg)
  if forAnotherSystem m.targetSystem then pure ()
  -- the header of a transfer is 12 octets
  else if m.payloadLen.toNat < 12 then pure ()
  else
    let resp ← access (ftpResponse m.payload)
    sendMessage (fileTransferProtocolEncode 0 msg.sysid msg.compid resp 13)

/-! ## All messages -/

/-- The message is from ourselves. -/
def fromOurselves (msg : MavlinkMessage) : Bool :=
  msg.sysid == mavSysId && msg.compid == mavCompIdAutopilot

def processMavlinkMessage (msg : MavlinkMessage) : Code Unit :=
  if fromOurselves msg then pure ()
  else
    match msg.msgid.toNat with
    -- a heartbeat confirms that the link is alive
    | 0 => pure ()
    | 76 => handleCommandLong msg
    | 20 => handleParamRequestRead msg
    | 21 => handleParamRequestList msg
    | 23 => handleParamSet msg
    | 70 => handleRcChannelsOverride msg
    | 43 => handleMissionRequestList msg
    | 44 => handleMissionCount msg
    | 73 => handleMissionItemInt msg
    | 51 => handleMissionRequestInt msg
    | 47 => handleMissionAck
    | 45 => handleMissionClearAll msg
    | 41 => handleMissionSetCurrent msg
    | 110 => handleFileTransferProtocol msg
    -- a request for a data stream is accepted silently, and every other message is unknown
    | _ => pure ()

/-! ## The stream -/

/-- `mavlink_parse_byte`, with its access to the payload. -/
def parseByte (parser : MavlinkParser) (byte : U8) :
    Option (MavlinkParser × Option MavlinkMessage) :=
  if parser.state = .gotMsgid3 ∧ mavlinkMaxPayloadLen ≤ parser.payloadIdx.toNat then none
  else some (mavlinkParseByte parser byte)

/-- The parser, and the statics. -/
structure HandlerState where
  parser : MavlinkParser
  statics : Statics

/-- A message that is complete is processed. -/
def deliver (parser : MavlinkParser) (statics : Statics) : Option MavlinkMessage →
    Option HandlerState
  | none => some ⟨parser, statics⟩
  | some msg => (processMavlinkMessage msg statics).map fun out => ⟨parser, out.2⟩

/-- An octet of the ground station. -/
def receiveByte (s : HandlerState) (byte : U8) : Option HandlerState :=
  (parseByte s.parser byte).bind fun out => deliver out.1 s.statics out.2

end MmIotEsp32.HeliFc.MavlinkMsg.Handler
