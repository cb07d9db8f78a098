/-
  MmIotEsp32.HeliFc.Comm.Mavlink.MavlinkAccess

  The decoders and encoders that received messages need, with every access to a payload or a
  string checked (`comm/mavlink/mavlink_msg.c`).

  All of them read and write at places that are fixed, but one: the payload of a file transfer
  is copied at the length that the sender gave.
-/
import MmIotEsp32.HeliFc.Comm.CommandLong
import MmIotEsp32.HeliFc.Comm.Mavlink.MavlinkRoundTrip
import MmIotEsp32.Lib.CArray

namespace MmIotEsp32.HeliFc.MavlinkMsg

open Lib

/-! ## Values in a payload -/

def readU8 (buf : Payload) (offset : Nat) : Option U8 := CArray.read buf offset

def readU16 (buf : Payload) (offset : Nat) : Option U16 := do
  let low ← CArray.read buf offset
  let high ← CArray.read buf (offset + 1)
  pure (low.setWidth 16 ||| (high.setWidth 16 <<< 8))

/-- `get_float`, and an `int32_t`. -/
def readU32 (buf : Payload) (offset : Nat) : Option U32 := do
  let b0 ← CArray.read buf offset
  let b1 ← CArray.read buf (offset + 1)
  let b2 ← CArray.read buf (offset + 2)
  let b3 ← CArray.read buf (offset + 3)
  pure (b0.setWidth 32 ||| (b1.setWidth 32 <<< 8) ||| (b2.setWidth 32 <<< 16)
    ||| (b3.setWidth 32 <<< 24))

/-- An extension, which is read only if the message has it. -/
def readExtension (msg : MavlinkMessage) (offset : Nat) : Option U8 :=
  if offset < msg.len.toNat then readU8 msg.payload offset else some 0

def writeU8 (offset : Nat) (val : U8) (buf : Payload) : Option Payload :=
  CArray.write buf offset val

def writeU16 (offset : Nat) (val : U16) (buf : Payload) : Option Payload := do
  let buf ← CArray.write buf offset (val.setWidth 8)
  CArray.write buf (offset + 1) ((val >>> 8).setWidth 8)

def writeU32 (offset : Nat) (val : U32) (buf : Payload) : Option Payload := do
  let buf ← CArray.write buf offset (val.setWidth 8)
  let buf ← CArray.write buf (offset + 1) ((val >>> 8).setWidth 8)
  let buf ← CArray.write buf (offset + 2) ((val >>> 16).setWidth 8)
  CArray.write buf (offset + 3) ((val >>> 24).setWidth 8)

def writeU64 (offset : Nat) (val : U64) (buf : Payload) : Option Payload :=
  (List.range 8).foldlM
    (fun buf i => CArray.write buf (offset + i) ((val >>> (8 * i)).setWidth 8)) buf

variable {offset : Nat}

theorem readByte_eq (buf : Payload) (h : offset < mavlinkMaxPayloadLen) :
    CArray.read buf offset = some (buf.get offset) := by
  rw [CArray.read_of_lt buf h, Payload.get, dif_pos h]

theorem writeByte_eq (buf : Payload) (val : U8) (h : offset < mavlinkMaxPayloadLen) :
    CArray.write buf offset val = some (buf.set offset val) := CArray.write_of_lt buf h val

theorem readU8_eq (buf : Payload) (h : offset < mavlinkMaxPayloadLen) :
    readU8 buf offset = some (buf.getU8 offset) := readByte_eq buf h

theorem readU16_eq (buf : Payload) (h : offset + 1 < mavlinkMaxPayloadLen) :
    readU16 buf offset = some (buf.getU16 offset) := by
  unfold readU16
  rw [readByte_eq buf (by omega), readByte_eq buf h]
  rfl

theorem readU32_eq (buf : Payload) (h : offset + 3 < mavlinkMaxPayloadLen) :
    readU32 buf offset = some (buf.getFloat offset) := by
  unfold readU32
  rw [readByte_eq buf (by omega), readByte_eq buf (by omega), readByte_eq buf (by omega),
    readByte_eq buf h]
  rfl

theorem readExtension_eq (msg : MavlinkMessage) (h : offset < mavlinkMaxPayloadLen) :
    readExtension msg offset = some (msg.extension offset) := by
  unfold readExtension MavlinkMessage.extension
  split
  · exact readU8_eq msg.payload h
  · rfl

theorem writeU8_eq (buf : Payload) (val : U8) (h : offset < mavlinkMaxPayloadLen) :
    writeU8 offset val buf = some (buf.putU8 offset val) := writeByte_eq buf val h

theorem writeU16_eq (buf : Payload) (val : U16) (h : offset + 1 < mavlinkMaxPayloadLen) :
    writeU16 offset val buf = some (buf.putU16 offset val) := by
  unfold writeU16
  rw [writeByte_eq buf _ (by omega)]
  exact writeByte_eq _ _ h

theorem writeU32_eq (buf : Payload) (val : U32) (h : offset + 3 < mavlinkMaxPayloadLen) :
    writeU32 offset val buf = some (buf.putU32 offset val) := by
  unfold writeU32
  rw [writeByte_eq buf _ (by omega)]
  show (CArray.write _ (offset + 1) _).bind _ = _
  rw [writeByte_eq _ _ (by omega)]
  show (CArray.write _ (offset + 2) _).bind _ = _
  rw [writeByte_eq _ _ (by omega)]
  exact writeByte_eq _ _ h

theorem writeBytes_eq (buf : Payload) (offset : Nat) (val : U64) (l : List Nat)
    (h : ∀ i ∈ l, offset + i < mavlinkMaxPayloadLen) :
    l.foldlM (fun buf i => CArray.write buf (offset + i) ((val >>> (8 * i)).setWidth 8)) buf
      = some (l.foldl
          (fun buf i => Payload.set buf (offset + i) ((val >>> (8 * i)).setWidth 8)) buf) := by
  induction l generalizing buf with
  | nil => rfl
  | cons i l ih =>
    rw [List.foldlM_cons, writeByte_eq buf _ (h i (List.mem_cons_self ..)), List.foldl_cons]
    exact ih _ fun j hj => h j (List.mem_cons_of_mem i hj)

theorem writeU64_eq (buf : Payload) (val : U64) (h : offset + 7 < mavlinkMaxPayloadLen) :
    writeU64 offset val buf = some (buf.putU64 offset val) := by
  apply writeBytes_eq
  intro i hi
  have hlt := List.mem_range.mp hi
  omega

theorem writeAll_eq (buf : Payload) (src : List U8)
    (h : offset + src.length ≤ mavlinkMaxPayloadLen) :
    CArray.writeAll buf offset src = some (buf.copy offset src) := by
  induction src generalizing buf offset with
  | nil => rfl
  | cons b src ih =>
    rw [List.length_cons] at h
    rw [CArray.writeAll, writeByte_eq buf b (by omega)]
    exact ih _ (by omega)

/-! ## The decoders -/

def commandLongDecode (msg : MavlinkMessage) : Option (CommandLong Binary32) := do
  let param1 ← readU32 msg.payload 0
  let param2 ← readU32 msg.payload 4
  let param3 ← readU32 msg.payload 8
  let param4 ← readU32 msg.payload 12
  let param5 ← readU32 msg.payload 16
  let param6 ← readU32 msg.payload 20
  let param7 ← readU32 msg.payload 24
  let command ← readU16 msg.payload 28
  let targetSystem ← readU8 msg.payload 30
  let targetComponent ← readU8 msg.payload 31
  pure ⟨command, ⟨param1⟩, ⟨param2⟩, ⟨param3⟩, ⟨param4⟩, ⟨param5⟩, ⟨param6⟩, ⟨param7⟩, targetSystem,
    targetComponent, msg.sysid, msg.compid⟩

/-- `char param_id[17]`. -/
abbrev ParamId17 := CArray 17 U8

/-- `char param_id[17] = {0}`, into which a decoder copies the 16 characters at `offset`. -/
def readParamId (buf : Payload) (offset : Nat) : Option ParamId17 := do
  let paramId ← CArray.memcpy (fun _ => 0 : ParamId17) 0 buf offset 16
  CArray.write paramId 16 0

structure ParamSetMsg where
  paramId : ParamId17
  paramValue : U32
  paramType : U8
  targetSystem : U8
  targetComponent : U8

def paramSetDecode (msg : MavlinkMessage) : Option ParamSetMsg := do
  let paramValue ← readU32 msg.payload 0
  let targetSystem ← readU8 msg.payload 4
  let targetComponent ← readU8 msg.payload 5
  let paramId ← readParamId msg.payload 6
  let paramType ← readU8 msg.payload 22
  pure ⟨paramId, paramValue, paramType, targetSystem, targetComponent⟩

structure ParamRequestReadMsg where
  paramId : ParamId17
  paramIndex : U16
  targetSystem : U8
  targetComponent : U8

def paramRequestReadDecode (msg : MavlinkMessage) : Option ParamRequestReadMsg := do
  let paramIndex ← readU16 msg.payload 0
  let targetSystem ← readU8 msg.payload 2
  let targetComponent ← readU8 msg.payload 3
  let paramId ← readParamId msg.payload 4
  pure ⟨paramId, paramIndex, targetSystem, targetComponent⟩

/-- The eight channels, and the target. -/
def rcChannelsOverrideDecode (msg : MavlinkMessage) : Option (CArray 8 U16 × U8 × U8) := do
  let channels ← (List.range 8).foldlM
    (fun channels i => do
      let channel ← readU16 msg.payload (i * 2)
      CArray.write channels i channel)
    (fun _ => 0 : CArray 8 U16)
  let targetSystem ← readU8 msg.payload 16
  let targetComponent ← readU8 msg.payload 17
  pure (channels, targetSystem, targetComponent)

/-- A 16-bit value, the target, and the type of the mission. -/
def missionCountDecode (msg : MavlinkMessage) : Option (U16 × U8 × U8 × U8) := do
  let count ← readU16 msg.payload 0
  let targetSystem ← readU8 msg.payload 2
  let targetComponent ← readU8 msg.payload 3
  let missionType ← readExtension msg 4
  pure (count, targetSystem, targetComponent, missionType)

def missionRequestIntDecode (msg : MavlinkMessage) : Option (U16 × U8 × U8 × U8) := do
  let seq ← readU16 msg.payload 0
  let targetSystem ← readU8 msg.payload 2
  let targetComponent ← readU8 msg.payload 3
  let missionType ← readExtension msg 4
  pure (seq, targetSystem, targetComponent, missionType)

def missionItemIntDecode (msg : MavlinkMessage) : Option (MavlinkMissionItemInt × U8 × U8) := do
  let param1 ← readU32 msg.payload 0
  let param2 ← readU32 msg.payload 4
  let param3 ← readU32 msg.payload 8
  let param4 ← readU32 msg.payload 12
  let x ← readU32 msg.payload 16
  let y ← readU32 msg.payload 20
  let z ← readU32 msg.payload 24
  let seq ← readU16 msg.payload 28
  let command ← readU16 msg.payload 30
  let frame ← readU8 msg.payload 34
  let current ← readU8 msg.payload 35
  let autocontinue ← readU8 msg.payload 36
  let missionType ← readExtension msg 37
  let targetSystem ← readU8 msg.payload 32
  let targetComponent ← readU8 msg.payload 33
  pure (⟨⟨seq, frame, command, autocontinue, param1, param2, param3, param4, x, y, z⟩, current,
    missionType⟩, targetSystem, targetComponent)

/-- The target, and the type of the mission. -/
def missionRequestListDecode (msg : MavlinkMessage) : Option (U8 × U8 × U8) := do
  let targetSystem ← readU8 msg.payload 0
  let targetComponent ← readU8 msg.payload 1
  let missionType ← readExtension msg 2
  pure (targetSystem, targetComponent, missionType)

def missionClearAllDecode (msg : MavlinkMessage) : Option (U8 × U8 × U8) := do
  let targetSystem ← readU8 msg.payload 0
  let targetComponent ← readU8 msg.payload 1
  let missionType ← readExtension msg 2
  pure (targetSystem, targetComponent, missionType)

def missionSetCurrentDecode (msg : MavlinkMessage) : Option (U16 × U8 × U8) := do
  let seq ← readU16 msg.payload 0
  let targetSystem ← readU8 msg.payload 2
  let targetComponent ← readU8 msg.payload 3
  pure (seq, targetSystem, targetComponent)

/-- `uint8_t payload[251]`. -/
abbrev FtpPayload := CArray 251 U8

structure FileTransferMsg where
  targetNetwork : U8
  targetSystem : U8
  targetComponent : U8
  payload : FtpPayload
  payloadLen : U8

/-- The length of the payload of a transfer. -/
def ftpPayloadLen (msg : MavlinkMessage) : U8 := if 3 < msg.len.toNat then msg.len - 3 else 0

/-- The payload is a local array of the handler; what is not copied is never looked at. -/
def fileTransferProtocolDecode (msg : MavlinkMessage) : Option FileTransferMsg := do
  let targetNetwork ← readU8 msg.payload 0
  let targetSystem ← readU8 msg.payload 1
  let targetComponent ← readU8 msg.payload 2
  let plen := ftpPayloadLen msg
  let payload ← CArray.memcpy (fun _ => 0 : FtpPayload) 0 msg.payload 3 plen.toNat
  pure ⟨targetNetwork, targetSystem, targetComponent, payload, plen⟩

/-! ## The encoders -/

/-- `mavlink_finalize` reads as much of the payload as `len` says. -/
def finish (seq : U8) (msgid : U32) (len : U8) (payload : Payload) : Option MavlinkMessage := do
  let _ ← CArray.slice payload 0 len.toNat
  pure (encodeWith seq msgid len payload)

def commandAckEncode (command : U16) (result targetSystem targetComponent : U8) (seq : U8) :
    Option MavlinkMessage := do
  let payload ← writeU16 0 command blank
  let payload ← writeU8 2 result payload
  let payload ← writeU8 3 0xFF payload
  let payload ← writeU32 4 0 payload
  let payload ← writeU8 8 targetSystem payload
  let payload ← writeU8 9 targetComponent payload
  finish seq 77 10 payload

/-- The name is read up to its NUL, and at most 16 characters are copied. -/
def paramValueEncode (paramId : ParamId17) (paramValue : U32) (paramType : U8)
    (paramCount paramIndex : U16) (seq : U8) : Option MavlinkMessage := do
  let payload ← writeU32 0 paramValue blank
  let payload ← writeU16 4 paramCount payload
  let payload ← writeU16 6 paramIndex payload
  let text ← CArray.cstr paramId
  let payload ← CArray.writeAll payload 8 (text.take 16)
  let payload ← writeU8 24 paramType payload
  finish seq 22 25 payload

def autopilotVersionEncode (capabilities : U64) (flightSwVersion middlewareSwVersion osSwVersion
    boardVersion : U32) (flightCustomVersion : CArray 8 U8) (uid : U64) (seq : U8) :
    Option MavlinkMessage := do
  let payload ← writeU64 0 capabilities blank
  let payload ← writeU64 8 uid payload
  let payload ← writeU32 16 flightSwVersion payload
  let payload ← writeU32 20 middlewareSwVersion payload
  let payload ← writeU32 24 osSwVersion payload
  let payload ← writeU32 28 boardVersion payload
  let payload ← writeU16 32 0 payload
  let payload ← writeU16 34 0 payload
  let payload ← CArray.memcpy payload 36 flightCustomVersion 0 8
  finish seq 148 60 payload

def protocolVersionEncode (version minVersion maxVersion : U16) (seq : U8) :
    Option MavlinkMessage := do
  let payload ← writeU16 0 version blank
  let payload ← writeU16 2 minVersion payload
  let payload ← writeU16 4 maxVersion payload
  finish seq 300 22 payload

def missionCountEncode (targetSystem targetComponent : U8) (count : U16) (missionType : U8)
    (seq : U8) : Option MavlinkMessage := do
  let payload ← writeU16 0 count blank
  let payload ← writeU8 2 targetSystem payload
  let payload ← writeU8 3 targetComponent payload
  let payload ← writeU8 4 missionType payload
  finish seq 44 5 payload

def missionRequestIntEncode (targetSystem targetComponent : U8) (itemSeq : U16) (missionType : U8)
    (seq : U8) : Option MavlinkMessage := do
  let payload ← writeU16 0 itemSeq blank
  let payload ← writeU8 2 targetSystem payload
  let payload ← writeU8 3 targetComponent payload
  let payload ← writeU8 4 missionType payload
  finish seq 51 5 payload

def missionItemIntEncode (targetSystem targetComponent : U8) (item : MavlinkMissionItemInt)
    (seq : U8) : Option MavlinkMessage := do
  let payload ← writeU32 0 item.param1 blank
  let payload ← writeU32 4 item.param2 payload
  let payload ← writeU32 8 item.param3 payload
  let payload ← writeU32 12 item.param4 payload
  let payload ← writeU32 16 item.x payload
  let payload ← writeU32 20 item.y payload
  let payload ← writeU32 24 item.z payload
  let payload ← writeU16 28 item.seq payload
  let payload ← writeU16 30 item.command payload
  let payload ← writeU8 32 targetSystem payload
  let payload ← writeU8 33 targetComponent payload
  let payload ← writeU8 34 item.frame payload
  let payload ← writeU8 35 item.current payload
  let payload ← writeU8 36 item.autocontinue payload
  let payload ← writeU8 37 item.missionType payload
  finish seq 73 38 payload

def missionAckEncode (targetSystem targetComponent type missionType : U8) (seq : U8) :
    Option MavlinkMessage := do
  let payload ← writeU8 0 targetSystem blank
  let payload ← writeU8 1 targetComponent payload
  let payload ← writeU8 2 type payload
  let payload ← writeU8 3 missionType payload
  finish seq 47 4 payload

def missionCurrentEncode (itemSeq : U16) (seq : U8) : Option MavlinkMessage := do
  let payload ← writeU16 0 itemSeq blank
  finish seq 42 2 payload

def fileTransferProtocolEncode (targetNetwork targetSystem targetComponent : U8)
    (payload : FtpPayload) (payloadLen : U8) (seq : U8) : Option MavlinkMessage := do
  let buf ← writeU8 0 targetNetwork blank
  let buf ← writeU8 1 targetSystem buf
  let buf ← writeU8 2 targetComponent buf
  let copyLen := if 251 < payloadLen.toNat then 251 else payloadLen.toNat
  let buf ← CArray.memcpy buf 3 payload 0 copyLen
  finish seq 110 (ftpLen payloadLen) buf

/-! ## The decoders read inside the payload -/

theorem commandLongDecode_eq (msg : MavlinkMessage) :
    ∃ m, commandLongDecode msg = some m := by
  simp (disch := decide) only [commandLongDecode, readU32_eq, readU16_eq, readU8_eq]
  exact ⟨_, rfl⟩

theorem readParamId_eq (buf : Payload) (offset : Nat) (h : offset + 16 ≤ mavlinkMaxPayloadLen) :
    ∃ paramId, readParamId buf offset = some paramId ∧ paramId.read 16 = some 0 := by
  obtain ⟨copied, hcopied⟩ := CArray.memcpy_of_le (fun _ => 0 : ParamId17) 0 buf offset 16
    (by decide) h
  have hwrite : CArray.write copied 16 0 = some fun j => if j.val = 16 then 0 else copied j :=
    CArray.write_of_lt copied (by decide) 0
  refine ⟨fun j => if j.val = 16 then 0 else copied j, ?_, CArray.read_of_lt _ (by decide)⟩
  unfold readParamId
  rw [hcopied]
  exact hwrite

theorem paramSetDecode_eq (msg : MavlinkMessage) :
    ∃ m, paramSetDecode msg = some m ∧ m.paramId.read 16 = some 0 := by
  obtain ⟨paramId, hparamId, hnul⟩ := readParamId_eq msg.payload 6 (by decide)
  simp (disch := decide) only [paramSetDecode, readU32_eq, readU8_eq, hparamId]
  exact ⟨_, rfl, hnul⟩

theorem paramRequestReadDecode_eq (msg : MavlinkMessage) :
    ∃ m, paramRequestReadDecode msg = some m ∧ m.paramId.read 16 = some 0 := by
  obtain ⟨paramId, hparamId, hnul⟩ := readParamId_eq msg.payload 4 (by decide)
  simp (disch := decide) only [paramRequestReadDecode, readU16_eq, readU8_eq, hparamId]
  exact ⟨_, rfl, hnul⟩

theorem channels_eq (buf : Payload) (l : List Nat) (h : ∀ i ∈ l, i < 8) (channels : CArray 8 U16) :
    ∃ channels', l.foldlM
      (fun channels i => do
        let channel ← readU16 buf (i * 2)
        CArray.write channels i channel) channels = some channels' := by
  induction l generalizing channels with
  | nil => exact ⟨channels, rfl⟩
  | cons i l ih =>
    have hi : i < 8 := h i (List.mem_cons_self ..)
    have hin : i * 2 + 1 < mavlinkMaxPayloadLen := by
      show i * 2 + 1 < 255
      omega
    rw [List.foldlM_cons, readU16_eq buf hin]
    show ∃ channels', (CArray.write channels i _).bind _ = _
    rw [CArray.write_of_lt channels hi]
    exact ih (fun j hj => h j (List.mem_cons_of_mem i hj)) _

theorem rcChannelsOverrideDecode_eq (msg : MavlinkMessage) :
    ∃ m, rcChannelsOverrideDecode msg = some m := by
  obtain ⟨channels, hchannels⟩ := channels_eq msg.payload (List.range 8)
    (fun i hi => List.mem_range.mp hi) fun _ => 0
  unfold rcChannelsOverrideDecode
  rw [hchannels]
  simp (disch := decide) only [readU8_eq]
  exact ⟨_, rfl⟩

theorem missionCountDecode_eq (msg : MavlinkMessage) :
    missionCountDecode msg = some (mavlinkMsgMissionCountDecode msg) := by
  simp (disch := decide) only [missionCountDecode, readU16_eq, readU8_eq, readExtension_eq]
  rfl

theorem missionRequestIntDecode_eq (msg : MavlinkMessage) :
    missionRequestIntDecode msg = some (mavlinkMsgMissionRequestIntDecode msg) := by
  simp (disch := decide) only [missionRequestIntDecode, readU16_eq, readU8_eq, readExtension_eq]
  rfl

theorem missionItemIntDecode_eq (msg : MavlinkMessage) :
    missionItemIntDecode msg = some (mavlinkMsgMissionItemIntDecode msg) := by
  simp (disch := decide) only [missionItemIntDecode, readU32_eq, readU16_eq, readU8_eq,
    readExtension_eq]
  rfl

theorem missionRequestListDecode_eq (msg : MavlinkMessage) :
    missionRequestListDecode msg
      = some (msg.payload.getU8 0, msg.payload.getU8 1, msg.extension 2) := by
  simp (disch := decide) only [missionRequestListDecode, readU8_eq, readExtension_eq]
  rfl

theorem missionClearAllDecode_eq (msg : MavlinkMessage) :
    missionClearAllDecode msg
      = some (msg.payload.getU8 0, msg.payload.getU8 1, msg.extension 2) := by
  simp (disch := decide) only [missionClearAllDecode, readU8_eq, readExtension_eq]
  rfl

theorem missionSetCurrentDecode_eq (msg : MavlinkMessage) :
    missionSetCurrentDecode msg
      = some (msg.payload.getU16 0, msg.payload.getU8 2, msg.payload.getU8 3) := by
  simp (disch := decide) only [missionSetCurrentDecode, readU16_eq, readU8_eq]
  rfl

theorem ftpPayloadLen_toNat (msg : MavlinkMessage) :
    (ftpPayloadLen msg).toNat = msg.len.toNat - 3 := by
  unfold ftpPayloadLen
  split
  · next h =>
      have hle : (3 : U8).toNat ≤ msg.len.toNat := Nat.le_of_lt h
      rw [BitVec.toNat_sub_of_le hle]
      rfl
  · next h => exact (Nat.sub_eq_zero_of_le (Nat.le_of_not_lt h)).symm

theorem fileTransferProtocolDecode_isSome_iff (msg : MavlinkMessage) :
    (fileTransferProtocolDecode msg).isSome ↔ msg.len ≠ 255 := by
  have hcopy := CArray.memcpy_isSome_iff (fun _ => 0 : FtpPayload) 0 msg.payload 3
    (ftpPayloadLen msg).toNat
  rw [ftpPayloadLen_toNat] at hcopy
  have hlen := msg.len.isLt
  have hfull : msg.len ≠ 255 ↔ msg.len.toNat ≠ 255 := by
    rw [Ne, Ne, ← BitVec.toNat_inj]
    rfl
  have hmax : mavlinkMaxPayloadLen = 255 := rfl
  simp (disch := decide) only [fileTransferProtocolDecode, readU8_eq, Option.bind_eq_bind,
    Option.bind_some, Option.isSome_bind, ftpPayloadLen_toNat]
  rw [hfull]
  cases hmemcpy : CArray.memcpy (fun _ => 0 : FtpPayload) 0 msg.payload 3 (msg.len.toNat - 3) with
  | none =>
    rw [hmemcpy] at hcopy
    simp only [Option.isSome_none, Bool.false_eq_true, false_iff] at hcopy
    simp
    omega
  | some payload =>
    rw [hmemcpy] at hcopy
    simp only [Option.isSome_some, true_iff] at hcopy
    simp
    omega

/-! ## The encoders write inside the payload -/

theorem finish_eq (seq : U8) (msgid : U32) (len : U8) (payload : Payload) :
    finish seq msgid len payload = some (encodeWith seq msgid len payload) := by
  have hlen := len.isLt
  unfold finish
  rw [CArray.slice_of_le payload (show 0 + len.toNat ≤ 255 by omega)]
  rfl

theorem commandAckEncode_eq (command : U16) (result targetSystem targetComponent seq : U8) :
    commandAckEncode command result targetSystem targetComponent seq
      = some (mavlinkMsgCommandAckEncode seq command result targetSystem targetComponent) := by
  simp (disch := decide) only [commandAckEncode, writeU32_eq, writeU16_eq, writeU8_eq,
    Option.bind_eq_bind, Option.bind_some, finish_eq]
  rfl

theorem paramValueEncode_eq {paramId : ParamId17} {text : List U8}
    (htext : paramId.cstr = some text) (paramValue : U32) (paramType : U8)
    (paramCount paramIndex : U16) (seq : U8) :
    paramValueEncode paramId paramValue paramType paramCount paramIndex seq
      = some (mavlinkMsgParamValueEncode seq (some text) paramValue paramType paramCount
          paramIndex) := by
  have hshort : 8 + (text.take 16).length ≤ mavlinkMaxPayloadLen := by
    rw [List.length_take]
    show 8 + min 16 text.length ≤ 255
    omega
  simp (disch := decide) only [paramValueEncode, writeU32_eq, writeU16_eq, Option.bind_eq_bind,
    Option.bind_some, htext]
  rw [writeAll_eq _ _ hshort, Option.bind_some, writeU8_eq _ _ (by decide), Option.bind_some,
    finish_eq]
  rfl

theorem autopilotVersionEncode_eq (capabilities : U64) (flightSwVersion middlewareSwVersion
    osSwVersion boardVersion : U32) (flightCustomVersion : CArray 8 U8) (uid : U64) (seq : U8) :
    autopilotVersionEncode capabilities flightSwVersion middlewareSwVersion osSwVersion boardVersion
        flightCustomVersion uid seq
      = some (mavlinkMsgAutopilotVersionEncode seq capabilities flightSwVersion
          middlewareSwVersion osSwVersion boardVersion (some flightCustomVersion) uid) := by
  have hslice : flightCustomVersion.slice 0 8 = some (List.ofFn flightCustomVersion) := by
    rw [CArray.slice_of_le flightCustomVersion (Nat.le_refl 8)]
    rfl
  simp (disch := decide) only [autopilotVersionEncode, writeU64_eq, writeU32_eq, writeU16_eq,
    Option.bind_eq_bind, Option.bind_some, CArray.memcpy, hslice]
  rw [writeAll_eq _ _ (by rw [List.length_ofFn]; decide), Option.bind_some, finish_eq]
  rfl

theorem protocolVersionEncode_eq (version minVersion maxVersion : U16) (seq : U8) :
    protocolVersionEncode version minVersion maxVersion seq
      = some (mavlinkMsgProtocolVersionEncode seq version minVersion maxVersion) := by
  simp (disch := decide) only [protocolVersionEncode, writeU16_eq, Option.bind_eq_bind,
    Option.bind_some, finish_eq]
  rfl

theorem missionCountEncode_eq (targetSystem targetComponent : U8) (count : U16)
    (missionType seq : U8) :
    missionCountEncode targetSystem targetComponent count missionType seq
      = some (mavlinkMsgMissionCountEncode seq targetSystem targetComponent count missionType) := by
  simp (disch := decide) only [missionCountEncode, writeU16_eq, writeU8_eq, Option.bind_eq_bind,
    Option.bind_some, finish_eq]
  rfl

theorem missionRequestIntEncode_eq (targetSystem targetComponent : U8) (itemSeq : U16)
    (missionType seq : U8) :
    missionRequestIntEncode targetSystem targetComponent itemSeq missionType seq
      = some (mavlinkMsgMissionRequestIntEncode seq targetSystem targetComponent itemSeq
          missionType) := by
  simp (disch := decide) only [missionRequestIntEncode, writeU16_eq, writeU8_eq,
    Option.bind_eq_bind, Option.bind_some, finish_eq]
  rfl

theorem missionItemIntEncode_eq (targetSystem targetComponent : U8) (item : MavlinkMissionItemInt)
    (seq : U8) :
    missionItemIntEncode targetSystem targetComponent item seq
      = some (mavlinkMsgMissionItemIntEncode seq targetSystem targetComponent item) := by
  simp (disch := decide) only [missionItemIntEncode, writeU32_eq, writeU16_eq, writeU8_eq,
    Option.bind_eq_bind, Option.bind_some, finish_eq]
  rfl

theorem missionAckEncode_eq (targetSystem targetComponent type missionType seq : U8) :
    missionAckEncode targetSystem targetComponent type missionType seq
      = some (mavlinkMsgMissionAckEncode seq targetSystem targetComponent type missionType) := by
  simp (disch := decide) only [missionAckEncode, writeU8_eq, Option.bind_eq_bind,
    Option.bind_some, finish_eq]
  rfl

theorem missionCurrentEncode_eq (itemSeq : U16) (seq : U8) :
    missionCurrentEncode itemSeq seq = some (mavlinkMsgMissionCurrentEncode seq itemSeq) := by
  simp (disch := decide) only [missionCurrentEncode, writeU16_eq, Option.bind_eq_bind,
    Option.bind_some, finish_eq]
  rfl

theorem fileTransferProtocolEncode_eq (targetNetwork targetSystem targetComponent : U8)
    (payload : FtpPayload) {payloadLen : U8} (hlen : payloadLen.toNat ≤ 251) (seq : U8) :
    fileTransferProtocolEncode targetNetwork targetSystem targetComponent payload payloadLen seq
      = some (mavlinkMsgFileTransferProtocolEncode seq targetNetwork targetSystem targetComponent
          (some payload) payloadLen) := by
  have hcopy : (if 251 < payloadLen.toNat then 251 else payloadLen.toNat) = payloadLen.toNat :=
    if_neg (Nat.not_lt.mpr hlen)
  have hslice : payload.slice 0 payloadLen.toNat = some (ftpCopied (some payload) payloadLen) := by
    rw [CArray.slice_of_le payload (by omega), List.drop_zero, ftpCopied, Option.map_some,
      Option.getD_some]
  have hshort : 3 + (ftpCopied (some payload) payloadLen).length ≤ mavlinkMaxPayloadLen := by
    rw [CArray.length_slice hslice]
    show 3 + payloadLen.toNat ≤ 255
    omega
  simp (disch := decide) only [fileTransferProtocolEncode, writeU8_eq, Option.bind_eq_bind,
    Option.bind_some, hcopy, CArray.memcpy, hslice]
  rw [writeAll_eq _ _ hshort, Option.bind_some, finish_eq]
  rfl

end MmIotEsp32.HeliFc.MavlinkMsg
