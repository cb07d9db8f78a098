/-
  MmIotEsp32.HeliFc.Comm.MavlinkHandler

  The mission protocol of the MAVLink handler (`comm/mavlink_handler.c`).
-/
import MmIotEsp32.HeliFc.Rpc.RpcCore

namespace MmIotEsp32.HeliFc

/-! ## Messages -/

def mavSysId : U8 := 1

def mavCompIdAutopilot : U8 := 1

def mavMissionAccepted : U8 := 0

def mavMissionNoSpace : U8 := 5

def mavMissionTypeMission : U8 := 0

def mavMissionTypeFence : U8 := 1

def mavMissionTypeRally : U8 := 2

def mavMissionTypeAll : U8 := 255

def fenceMaxItems : Nat := 20

def rallyMaxItems : Nat := 10

/-- `mavlink_mission_item_int_t`. -/
structure MavlinkMissionItemInt extends MissionItem where
  current : U8
  missionType : U8
  deriving Repr, DecidableEq

/-- An item that is all zero. -/
def MavlinkMissionItemInt.zero : MavlinkMissionItemInt := ⟨.zero, 0, 0⟩

/-- The messages of the mission protocol; `other` is every other one. -/
inductive MavlinkPayload where
  | missionRequestList (missionType : U8)
  | missionCount (count : U16) (missionType : U8)
  | missionItemInt (item : MavlinkMissionItemInt)
  | missionRequestInt (seq : U16) (missionType : U8)
  | missionAck (type : U8) (missionType : U8)
  | missionClearAll (missionType : U8)
  | missionSetCurrent (seq : U16)
  | missionCurrent (seq : U16)
  | other
  deriving Repr, DecidableEq

/-- The messages that say nothing of the upload. -/
def MavlinkPayload.plain : MavlinkPayload → Bool
  | .missionAck result missionType =>
    result != mavMissionAccepted || missionType != mavMissionTypeMission
  | .missionRequestInt _ _ => false
  | _ => true

/-- `mavlink_message_t`, decoded: where it comes from, and whom it is for. -/
structure MavlinkMessage where
  sysid : U8
  compid : U8
  targetSystem : U8
  targetComponent : U8
  payload : MavlinkPayload
  deriving Repr, DecidableEq

/-- What an encoder makes, from this vehicle. -/
def mavlinkEncode (targetSystem targetComponent : U8) (payload : MavlinkPayload) : MavlinkMessage :=
  ⟨mavSysId, mavCompIdAutopilot, targetSystem, targetComponent, payload⟩

/-! ## The state -/

/-- `mission_state_t`. -/
inductive MissionState where
  | idle
  | uploading
  | downloading
  deriving Repr, DecidableEq

/-- An upload that the ground station began: the number of its items, and the sequence
numbers that were stored of it. -/
structure Upload where
  count : U16
  stored : List U16
  deriving Repr, DecidableEq

/-- Every item of the upload was stored. -/
def Upload.Complete (up : Upload) : Prop := ∀ k : U16, k.toNat < up.count.toNat → k ∈ up.stored

/-- A message to the ground station, and the upload under way when it was sent. -/
structure SentMessage where
  msg : MavlinkMessage
  upload : Option Upload
  deriving Repr, DecidableEq

/-- The statics of `mavlink_handler.c` that the mission protocol uses. -/
structure MavlinkHandler where
  missionItems : Nat → MavlinkMissionItemInt
  missionCount : U16
  missionExpected : U16
  missionReceived : U16
  missionCurrentSeq : U16
  missionState : MissionState
  missionGcsSysid : U8
  missionGcsCompid : U8
  fenceCount : U16
  rallyCount : U16
  rpcCtx : RpcContext
  /-- What was sent, newest first. -/
  sent : List SentMessage
  /-- The upload that was begun last, unless the ground station ended it. -/
  upload : Option Upload

/-- `mavlink_handler_init`, from zeroed statics. -/
def mavlinkHandlerInit (ctx : RpcContext) : MavlinkHandler where
  missionItems := fun _ => .zero
  missionCount := 0
  missionExpected := 0
  missionReceived := 0
  missionCurrentSeq := 0
  missionState := .idle
  missionGcsSysid := 255
  missionGcsCompid := 0
  fenceCount := 0
  rallyCount := 0
  rpcCtx := ctx
  sent := []
  upload := none

/-- `send_mavlink_msg`, for a message that is not critical. -/
def sendMavlinkMsg (h : MavlinkHandler) (txOk : Bool) (msg : MavlinkMessage) : MavlinkHandler :=
  if txOk then { h with sent := ⟨msg, h.upload⟩ :: h.sent } else h

/-- `rpc_send_command(s_rpc_ctx, …)`. -/
def sendCommand (h : MavlinkHandler) (cmd : RpcCommandMsg) : MavlinkHandler :=
  { h with rpcCtx := rpcSendCommand h.rpcCtx cmd }

def sendMissionCurrent (h : MavlinkHandler) (txOk : Bool) : MavlinkHandler :=
  sendMavlinkMsg h txOk (mavlinkEncode 0 0 (.missionCurrent h.missionCurrentSeq))

/-- The message is for another system: `target_system != 0 && target_system != MAV_SYS_ID`. -/
def forAnother (msg : MavlinkMessage) : Bool :=
  msg.targetSystem != 0 && msg.targetSystem != mavSysId

/-- An answer to the sender of a message. -/
def replyTo (msg : MavlinkMessage) (payload : MavlinkPayload) : MavlinkMessage :=
  mavlinkEncode msg.sysid msg.compid payload

/-! ## Messages of the ground station -/

def handleMissionRequestList (h : MavlinkHandler) (txOk : Bool) (msg : MavlinkMessage)
    (missionType : U8) : MavlinkHandler :=
  if forAnother msg then h
  else if missionType = mavMissionTypeFence then
    sendMavlinkMsg h txOk (replyTo msg (.missionCount h.fenceCount mavMissionTypeFence))
  else if missionType = mavMissionTypeRally then
    sendMavlinkMsg h txOk (replyTo msg (.missionCount h.rallyCount mavMissionTypeRally))
  else if missionType ≠ mavMissionTypeMission then h
  else
    let h := { h with missionGcsSysid := msg.sysid, missionGcsCompid := msg.compid }
    let h := sendMavlinkMsg h txOk (replyTo msg (.missionCount h.missionCount mavMissionTypeMission))
    { h with missionState := .downloading }

def handleMissionCount (h : MavlinkHandler) (txOk : Bool) (msg : MavlinkMessage) (count : U16)
    (missionType : U8) : MavlinkHandler :=
  if forAnother msg then h
  else if missionType = mavMissionTypeFence then
    if fenceMaxItems < count.toNat then
      sendMavlinkMsg h txOk (replyTo msg (.missionAck mavMissionNoSpace mavMissionTypeFence))
    else
      sendMavlinkMsg { h with fenceCount := count } txOk
        (replyTo msg (.missionAck mavMissionAccepted mavMissionTypeFence))
  else if missionType = mavMissionTypeRally then
    if rallyMaxItems < count.toNat then
      sendMavlinkMsg h txOk (replyTo msg (.missionAck mavMissionNoSpace mavMissionTypeRally))
    else
      sendMavlinkMsg { h with rallyCount := count } txOk
        (replyTo msg (.missionAck mavMissionAccepted mavMissionTypeRally))
  else if missionType ≠ mavMissionTypeMission then h
  else
    let h := { h with missionGcsSysid := msg.sysid, missionGcsCompid := msg.compid }
    if missionMaxItems < count.toNat then
      sendMavlinkMsg h txOk (replyTo msg (.missionAck mavMissionNoSpace mavMissionTypeMission))
    else
      let h := { h with
        missionExpected := count
        missionReceived := 0
        missionCount := 0
        missionState := .uploading
        upload := if count = 0 then none else some ⟨count, []⟩ }
      if 0 < count.toNat then
        sendMavlinkMsg h txOk (replyTo msg (.missionRequestInt 0 mavMissionTypeMission))
      else
        let h := sendMavlinkMsg h txOk
          (replyTo msg (.missionAck mavMissionAccepted mavMissionTypeMission))
        { h with missionState := .idle }

/-- The item is stored, and forwarded to core 0. -/
def storeMissionItem (h : MavlinkHandler) (item : MavlinkMissionItemInt) : MavlinkHandler :=
  let h := { h with
    missionItems := Function.update h.missionItems item.seq.toNat item
    missionReceived := h.missionReceived + 1
    upload := h.upload.map fun up => { up with stored := item.seq :: up.stored } }
  sendCommand h (.missionItem item.toMissionItem)

/-- The last item is there: core 0 is told how many there are. -/
def completeUpload (h : MavlinkHandler) : MavlinkHandler :=
  let h := { h with
    missionCount := h.missionExpected
    missionCurrentSeq := 0
    missionState := .idle }
  sendCommand h (.missionCount h.missionCount)

def handleMissionItemInt (h : MavlinkHandler) (txOk : Bool) (msg : MavlinkMessage)
    (item : MavlinkMissionItemInt) : MavlinkHandler :=
  if forAnother msg then h
  else if h.missionState ≠ .uploading then h
  else if missionMaxItems ≤ item.seq.toNat then h
  else
    let h := storeMissionItem h item
    if h.missionExpected.toNat ≤ h.missionReceived.toNat then
      sendMavlinkMsg (completeUpload h) txOk
        (replyTo msg (.missionAck mavMissionAccepted mavMissionTypeMission))
    else
      sendMavlinkMsg h txOk (replyTo msg (.missionRequestInt h.missionReceived mavMissionTypeMission))

def handleMissionRequestInt (h : MavlinkHandler) (txOk : Bool) (msg : MavlinkMessage) (seq : U16) :
    MavlinkHandler :=
  if forAnother msg then h
  else if h.missionCount.toNat ≤ seq.toNat then h
  else sendMavlinkMsg h txOk (replyTo msg (.missionItemInt (h.missionItems seq.toNat)))

def handleMissionAck (h : MavlinkHandler) : MavlinkHandler :=
  { h with missionState := .idle, upload := none }

def handleMissionClearAll (h : MavlinkHandler) (txOk : Bool) (msg : MavlinkMessage)
    (missionType : U8) : MavlinkHandler :=
  if forAnother msg then h
  else
    let h := if missionType = mavMissionTypeFence ∨ missionType = mavMissionTypeAll then
      { h with fenceCount := 0 } else h
    let h := if missionType = mavMissionTypeRally ∨ missionType = mavMissionTypeAll then
      { h with rallyCount := 0 } else h
    if missionType ≠ mavMissionTypeMission ∧ missionType ≠ mavMissionTypeAll then
      sendMavlinkMsg h txOk (replyTo msg (.missionAck mavMissionAccepted missionType))
    else
      let h := { h with
        missionCount := 0
        missionCurrentSeq := 0
        missionState := .idle
        upload := none }
      sendMavlinkMsg (sendCommand h .missionClearAll) txOk
        (replyTo msg (.missionAck mavMissionAccepted mavMissionTypeMission))

def handleMissionSetCurrent (h : MavlinkHandler) (txOk : Bool) (msg : MavlinkMessage) (seq : U16) :
    MavlinkHandler :=
  if forAnother msg then h
  else
    let h := sendMissionCurrent { h with missionCurrentSeq := seq } txOk
    sendCommand h (.missionSetCurrent seq)

def processMavlinkMessage (h : MavlinkHandler) (txOk : Bool) (msg : MavlinkMessage) :
    MavlinkHandler :=
  -- ignore messages from ourselves
  if msg.sysid = mavSysId ∧ msg.compid = mavCompIdAutopilot then h
  else
    match msg.payload with
    | .missionRequestList missionType => handleMissionRequestList h txOk msg missionType
    | .missionCount count missionType => handleMissionCount h txOk msg count missionType
    | .missionItemInt item => handleMissionItemInt h txOk msg item
    | .missionRequestInt seq _ => handleMissionRequestInt h txOk msg seq
    | .missionAck _ _ => handleMissionAck h
    | .missionClearAll missionType => handleMissionClearAll h txOk msg missionType
    | .missionSetCurrent seq => handleMissionSetCurrent h txOk msg seq
    | .missionCurrent _ => h
    | .other => h

/-! ## Telemetry of core 0 -/

/-- A message to the ground station whose mission request came last. -/
def toMissionGcs (h : MavlinkHandler) (payload : MavlinkPayload) : MavlinkMessage :=
  mavlinkEncode h.missionGcsSysid h.missionGcsCompid payload

/-- The body of the loop of `drain_rpc_telemetry`. -/
def drainRpcTelemetryMsg (h : MavlinkHandler) (txOk : Bool) (telem : RpcTelemetryMsg) :
    MavlinkHandler :=
  match telem with
  | .missionCount count =>
    sendMavlinkMsg h txOk (toMissionGcs h (.missionCount count mavMissionTypeMission))
  | .missionItem item current =>
    sendMavlinkMsg h txOk (toMissionGcs h (.missionItemInt ⟨item, current, 0⟩))
  | .missionAck result =>
    let h := sendMavlinkMsg h txOk (toMissionGcs h (.missionAck result mavMissionTypeMission))
    { h with missionState := .idle }
  | .missionCurrent seq => sendMissionCurrent { h with missionCurrentSeq := seq } txOk
  | .other => h

end MmIotEsp32.HeliFc
