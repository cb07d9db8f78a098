/-
  MmIotEsp32.HeliFc.Comm.Mavlink.MavlinkEncode

  The encoders of MAVLink messages, and the decoders of the mission messages
  (`comm/mavlink/mavlink_msg.c`).

  `msg_init` clears the message, so the `memset` of an encoder has nothing left to clear and is
  not written again.  A string is `NULL`, or its octets before the NUL.
-/
import MmIotEsp32.HeliFc.Comm.Mavlink.MavlinkMsg
import MmIotEsp32.HeliFc.Comm.MavlinkHandler

namespace MmIotEsp32.HeliFc.MavlinkMsg

/-! ## Values in a payload, little-endian -/

namespace Payload

def putU8 (buf : Payload) (offset : Nat) (val : U8) : Payload := buf.set offset val

def putU16 (buf : Payload) (offset : Nat) (val : U16) : Payload :=
  (buf.set offset (val.setWidth 8)).set (offset + 1) ((val >>> 8).setWidth 8)

def putU32 (buf : Payload) (offset : Nat) (val : U32) : Payload :=
  (((buf.set offset (val.setWidth 8)).set (offset + 1) ((val >>> 8).setWidth 8)).set (offset + 2)
    ((val >>> 16).setWidth 8)).set (offset + 3) ((val >>> 24).setWidth 8)

/-- The loop over the eight octets. -/
def putU64 (buf : Payload) (offset : Nat) (val : U64) : Payload :=
  (List.range 8).foldl (fun buf i => buf.set (offset + i) ((val >>> (8 * i)).setWidth 8)) buf

-- A signed value and a `float` are put as their bits.

abbrev putI8 := putU8

abbrev putI16 := putU16

abbrev putI32 := putU32

abbrev putFloat := putU32

/-- `memcpy(&buf[offset], src, …)`. -/
def copy (buf : Payload) (offset : Nat) : List U8 → Payload
  | [] => buf
  | b :: src => (buf.set offset b).copy (offset + 1) src

def getU8 (buf : Payload) (offset : Nat) : U8 := buf.get offset

def getU16 (buf : Payload) (offset : Nat) : U16 :=
  (buf.get offset).setWidth 16 ||| ((buf.get (offset + 1)).setWidth 16 <<< 8)

def getFloat (buf : Payload) (offset : Nat) : U32 :=
  (buf.get offset).setWidth 32 ||| ((buf.get (offset + 1)).setWidth 32 <<< 8)
    ||| ((buf.get (offset + 2)).setWidth 32 <<< 16) ||| ((buf.get (offset + 3)).setWidth 32 <<< 24)

/-- An `int32_t`, which `mavlink_msg_mission_item_int_decode` puts together itself. -/
abbrev getI32 := getFloat

end Payload

/-! ## The encoders -/

/-- The payload after `msg_init`. -/
def blank : Payload := fun _ => 0

/-- `msg_init`, the length and the payload, and `mavlink_finalize`. -/
def encodeWith (seq : U8) (msgid : U32) (len : U8) (payload : Payload) : MavlinkMessage :=
  mavlinkFinalize seq
    { MavlinkMessage.zero with
      sysid := mavSysId
      compid := mavCompIdAutopilot
      msgid := msgid
      len := len
      payload := payload }

def mavlinkMsgHeartbeatEncode (seq type autopilot baseMode : U8) (customMode : U32)
    (systemStatus : U8) : MavlinkMessage :=
  encodeWith seq 0 9 <|
    (((((blank.putU32 0 customMode).putU8 4 type).putU8 5 autopilot).putU8 6 baseMode).putU8 7
      systemStatus).putU8 8 3

def mavlinkMsgAttitudeEncode (seq : U8) (timeBootMs roll pitch yaw rollspeed pitchspeed
    yawspeed : U32) : MavlinkMessage :=
  encodeWith seq 30 28 <|
    ((((((blank.putU32 0 timeBootMs).putFloat 4 roll).putFloat 8 pitch).putFloat 12 yaw).putFloat 16
      rollspeed).putFloat 20 pitchspeed).putFloat 24 yawspeed

def mavlinkMsgGpsRawIntEncode (seq : U8) (timeUsec : U64) (fixType : U8) (lat lon alt : U32)
    (eph epv vel cog : U16) (satellitesVisible : U8) : MavlinkMessage :=
  encodeWith seq 24 30 <|
    (((((((((blank.putU64 0 timeUsec).putI32 8 lat).putI32 12 lon).putI32 16 alt).putU16 20
      eph).putU16 22 epv).putU16 24 vel).putU16 26 cog).putU8 28 fixType).putU8 29 satellitesVisible

def mavlinkMsgGlobalPositionIntEncode (seq : U8) (timeBootMs lat lon alt relativeAlt : U32)
    (vx vy vz hdg : U16) : MavlinkMessage :=
  encodeWith seq 33 28 <|
    ((((((((blank.putU32 0 timeBootMs).putI32 4 lat).putI32 8 lon).putI32 12 alt).putI32 16
      relativeAlt).putI16 20 vx).putI16 22 vy).putI16 24 vz).putU16 26 hdg

def mavlinkMsgSysStatusEncode (seq : U8) (sensorsPresent sensorsEnabled sensorsHealth : U32)
    (load voltageBattery currentBattery : U16) (batteryRemaining : U8) : MavlinkMessage :=
  encodeWith seq 1 31 <|
    ((((((((((((blank.putU32 0 sensorsPresent).putU32 4 sensorsEnabled).putU32 8
      sensorsHealth).putU16 12 load).putU16 14 voltageBattery).putI16 16 currentBattery).putI8 18
      batteryRemaining).putU16 19 0).putU16 21 0).putU16 23 0).putU16 25 0).putU16 27 0).putU16 29 0

def mavlinkMsgVfrHudEncode (seq : U8) (airspeed groundspeed : U32) (heading throttle : U16)
    (alt climb : U32) : MavlinkMessage :=
  encodeWith seq 74 20 <|
    (((((blank.putFloat 0 airspeed).putFloat 4 groundspeed).putFloat 8 alt).putFloat 12
      climb).putI16 16 heading).putU16 18 throttle

/-- Without voltages every cell is unused. -/
def mavlinkMsgBatteryStatusEncode (seq id function type : U8) (temperature : U16)
    (voltages : Option (Fin 10 → U16)) (currentBattery : U16) (currentConsumed energyConsumed : U32)
    (batteryRemaining : U8) : MavlinkMessage :=
  encodeWith seq 147 36 <|
    let payload := ((blank.putI32 0 currentConsumed).putI32 4 energyConsumed).putI16 8 temperature
    let payload := (List.finRange 10).foldl
      (fun payload i => payload.putU16 (10 + i.val * 2) ((voltages.map fun v => v i).getD 0xFFFF))
      payload
    ((((payload.putI16 30 currentBattery).putU8 32 id).putU8 33 function).putU8 34 type).putI8 35
      batteryRemaining

/-- The channels that are not given are unused. -/
def mavlinkMsgRcChannelsEncode (seq : U8) (timeBootMs : U32) (chancount : U8)
    (channels : Fin 18 → U16) (numChannels rssi : U8) : MavlinkMessage :=
  encodeWith seq 65 42 <|
    let payload := (List.finRange 18).foldl
      (fun payload i =>
        payload.putU16 (4 + i.val * 2) (if i.val < numChannels.toNat then channels i else 0xFFFF))
      (blank.putU32 0 timeBootMs)
    (payload.putU8 40 chancount).putU8 41 rssi

def mavlinkMsgCommandAckEncode (seq : U8) (command : U16) (result targetSystem
    targetComponent : U8) : MavlinkMessage :=
  encodeWith seq 77 10 <|
    (((((blank.putU16 0 command).putU8 2 result).putU8 3 0xFF).putU32 4 0).putU8 8
      targetSystem).putU8 9 targetComponent

def mavlinkMsgParamValueEncode (seq : U8) (paramId : Option (List U8)) (paramValue : U32)
    (paramType : U8) (paramCount paramIndex : U16) : MavlinkMessage :=
  encodeWith seq 22 25 <|
    let payload :=
      ((blank.putFloat 0 paramValue).putU16 4 paramCount).putU16 6 paramIndex
    (payload.copy 8 ((paramId.getD []).take 16)).putU8 24 paramType

def mavlinkMsgStatustextEncode (seq severity : U8) (text : Option (List U8)) : MavlinkMessage :=
  encodeWith seq 253 51 <| (blank.putU8 0 severity).copy 1 ((text.getD []).take 50)

def mavlinkMsgServoOutputRawEncode (seq : U8) (timeUsec : U32) (port : U8) (servo : Fin 8 → U16) :
    MavlinkMessage :=
  encodeWith seq 36 21 <|
    ((List.finRange 8).foldl (fun payload i => payload.putU16 (4 + i.val * 2) (servo i))
      (blank.putU32 0 timeUsec)).putU8 20 port

def mavlinkMsgNamedValueFloatEncode (seq : U8) (timeBootMs : U32) (name : Option (List U8))
    (value : U32) : MavlinkMessage :=
  encodeWith seq 251 18 <|
    ((blank.putU32 0 timeBootMs).putFloat 4 value).copy 8 ((name.getD []).take 10)

/-- `1.0f`. -/
def floatOne : U32 := 0x3F800000

/-- Without a quaternion it is the identity. -/
def mavlinkMsgHomePositionEncode (seq : U8) (lat lon alt x y z : U32) (q : Option (Fin 4 → U32))
    (approachX approachY approachZ : U32) (timeUsec : U64) : MavlinkMessage :=
  encodeWith seq 242 60 <|
    let payload := (((((blank.putI32 0 lat).putI32 4 lon).putI32 8 alt).putFloat 12 x).putFloat 16
      y).putFloat 20 z
    let payload := (List.finRange 4).foldl
      (fun payload i => payload.putFloat (24 + i.val * 4)
        ((q.map fun q => q i).getD (if i.val = 0 then floatOne else 0)))
      payload
    (((payload.putFloat 40 approachX).putFloat 44 approachY).putFloat 48 approachZ).putU64 52
      timeUsec

def mavlinkMsgExtendedSysStateEncode (seq vtolState landedState : U8) : MavlinkMessage :=
  encodeWith seq 245 2 <| (blank.putU8 0 vtolState).putU8 1 landedState

def mavlinkMsgAutopilotVersionEncode (seq : U8) (capabilities : U64) (flightSwVersion
    middlewareSwVersion osSwVersion boardVersion : U32) (flightCustomVersion : Option (Fin 8 → U8))
    (uid : U64) : MavlinkMessage :=
  encodeWith seq 148 60 <|
    let payload := ((((((blank.putU64 0 capabilities).putU64 8 uid).putU32 16
      flightSwVersion).putU32 20 middlewareSwVersion).putU32 24 osSwVersion).putU32 28
      boardVersion).putU16 32 0
    (payload.putU16 34 0).copy 36 ((flightCustomVersion.map List.ofFn).getD [])

def mavlinkMsgMissionCountEncode (seq targetSystem targetComponent : U8) (count : U16)
    (missionType : U8) : MavlinkMessage :=
  encodeWith seq 44 5 <|
    (((blank.putU16 0 count).putU8 2 targetSystem).putU8 3 targetComponent).putU8 4 missionType

def mavlinkMsgMissionRequestIntEncode (seq targetSystem targetComponent : U8) (itemSeq : U16)
    (missionType : U8) : MavlinkMessage :=
  encodeWith seq 51 5 <|
    (((blank.putU16 0 itemSeq).putU8 2 targetSystem).putU8 3 targetComponent).putU8 4 missionType

def mavlinkMsgMissionItemIntEncode (seq targetSystem targetComponent : U8)
    (item : MavlinkMissionItemInt) : MavlinkMessage :=
  encodeWith seq 73 38 <|
    ((((((((((((((blank.putFloat 0 item.param1).putFloat 4 item.param2).putFloat 8
      item.param3).putFloat 12 item.param4).putI32 16 item.x).putI32 20 item.y).putFloat 24
      item.z).putU16 28 item.seq).putU16 30 item.command).putU8 32 targetSystem).putU8 33
      targetComponent).putU8 34 item.frame).putU8 35 item.current).putU8 36
      item.autocontinue).putU8 37 item.missionType

def mavlinkMsgMissionAckEncode (seq targetSystem targetComponent type missionType : U8) :
    MavlinkMessage :=
  encodeWith seq 47 4 <|
    (((blank.putU8 0 targetSystem).putU8 1 targetComponent).putU8 2 type).putU8 3 missionType

def mavlinkMsgMissionCurrentEncode (seq : U8) (itemSeq : U16) : MavlinkMessage :=
  encodeWith seq 42 2 <| blank.putU16 0 itemSeq

def mavlinkMsgVibrationEncode (seq : U8) (timeUsec : U64) (vibrationX vibrationY vibrationZ
    clipping0 clipping1 clipping2 : U32) : MavlinkMessage :=
  encodeWith seq 241 32 <|
    ((((((blank.putU64 0 timeUsec).putFloat 8 vibrationX).putFloat 12 vibrationY).putFloat 16
      vibrationZ).putU32 20 clipping0).putU32 24 clipping1).putU32 28 clipping2

def mavlinkMsgEstimatorStatusEncode (seq : U8) (timeUsec : U64) (flags : U16) (velRatio
    posHorizRatio posVertRatio magRatio haglRatio tasRatio posHorizAccuracy posVertAccuracy : U32) :
    MavlinkMessage :=
  encodeWith seq 230 42 <|
    (((((((((blank.putU64 0 timeUsec).putFloat 8 velRatio).putFloat 12 posHorizRatio).putFloat 16
      posVertRatio).putFloat 20 magRatio).putFloat 24 haglRatio).putFloat 28 tasRatio).putFloat 32
      posHorizAccuracy).putFloat 36 posVertAccuracy).putU16 40 flags

def mavlinkMsgHighresImuEncode (seq : U8) (timeUsec : U64) (xacc yacc zacc xgyro ygyro zgyro xmag
    ymag zmag absPressure diffPressure pressureAlt temperature : U32) (fieldsUpdated : U16) :
    MavlinkMessage :=
  encodeWith seq 105 62 <|
    ((((((((((((((blank.putU64 0 timeUsec).putFloat 8 xacc).putFloat 12 yacc).putFloat 16
      zacc).putFloat 20 xgyro).putFloat 24 ygyro).putFloat 28 zgyro).putFloat 32 xmag).putFloat 36
      ymag).putFloat 40 zmag).putFloat 44 absPressure).putFloat 48 diffPressure).putFloat 52
      pressureAlt).putFloat 56 temperature).putU16 60 fieldsUpdated

def mavlinkMsgLocalPositionNedEncode (seq : U8) (timeBootMs x y z vx vy vz : U32) :
    MavlinkMessage :=
  encodeWith seq 32 28 <|
    ((((((blank.putU32 0 timeBootMs).putFloat 4 x).putFloat 8 y).putFloat 12 z).putFloat 16
      vx).putFloat 20 vy).putFloat 24 vz

/-- The length of a file transfer message: the sum is stored in an octet before it is bounded. -/
def ftpLen (payloadLen : U8) : U8 :=
  let len : U8 := 3 + payloadLen
  if 254 < len.toNat then 254 else len

/-- What is copied of the payload of a file transfer message. -/
def ftpCopied (payload : Option (Fin 251 → U8)) (payloadLen : U8) : List U8 :=
  ((payload.map List.ofFn).getD []).take payloadLen.toNat

def mavlinkMsgFileTransferProtocolEncode (seq targetNetwork targetSystem targetComponent : U8)
    (payload : Option (Fin 251 → U8)) (payloadLen : U8) : MavlinkMessage :=
  encodeWith seq 110 (ftpLen payloadLen) <|
    (((blank.putU8 0 targetNetwork).putU8 1 targetSystem).putU8 2 targetComponent).copy 3
      (ftpCopied payload payloadLen)

def mavlinkMsgProtocolVersionEncode (seq : U8) (version minVersion maxVersion : U16) :
    MavlinkMessage :=
  encodeWith seq 300 22 <|
    ((blank.putU16 0 version).putU16 2 minVersion).putU16 4 maxVersion

/-! ## The decoders of the mission messages -/

/-- An extension, which a shorter message does not have. -/
def MavlinkMessage.extension (msg : MavlinkMessage) (offset : Nat) : U8 :=
  if offset < msg.len.toNat then msg.payload.getU8 offset else 0

/-- The count, the target, and the type of the mission. -/
def mavlinkMsgMissionCountDecode (msg : MavlinkMessage) : U16 × U8 × U8 × U8 :=
  (msg.payload.getU16 0, msg.payload.getU8 2, msg.payload.getU8 3, msg.extension 4)

/-- The sequence number, the target, and the type of the mission. -/
def mavlinkMsgMissionRequestIntDecode (msg : MavlinkMessage) : U16 × U8 × U8 × U8 :=
  (msg.payload.getU16 0, msg.payload.getU8 2, msg.payload.getU8 3, msg.extension 4)

/-- The item, and the target. -/
def mavlinkMsgMissionItemIntDecode (msg : MavlinkMessage) : MavlinkMissionItemInt × U8 × U8 :=
  ({ param1 := msg.payload.getFloat 0
     param2 := msg.payload.getFloat 4
     param3 := msg.payload.getFloat 8
     param4 := msg.payload.getFloat 12
     x := msg.payload.getI32 16
     y := msg.payload.getI32 20
     z := msg.payload.getFloat 24
     seq := msg.payload.getU16 28
     command := msg.payload.getU16 30
     frame := msg.payload.getU8 34
     current := msg.payload.getU8 35
     autocontinue := msg.payload.getU8 36
     missionType := msg.extension 37 },
    msg.payload.getU8 32, msg.payload.getU8 33)

end MmIotEsp32.HeliFc.MavlinkMsg
