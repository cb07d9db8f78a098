/-
  MmIotEsp32.HeliFc.Comm.Mavlink.MavlinkRoundTrip

  Encoding, serializing and parsing messages.
-/
import MmIotEsp32.HeliFc.Comm.Mavlink.MavlinkEncode

namespace MmIotEsp32.HeliFc.MavlinkMsg

open Lib

/-! ## Calls of the encoders -/

/-- A call of an encoder, with its arguments. -/
inductive MavlinkMsgCall where
  | heartbeat (type autopilot baseMode : U8) (customMode : U32) (systemStatus : U8)
  | attitude (timeBootMs roll pitch yaw rollspeed pitchspeed yawspeed : U32)
  | gpsRawInt (timeUsec : U64) (fixType : U8) (lat lon alt : U32) (eph epv vel cog : U16)
      (satellitesVisible : U8)
  | globalPositionInt (timeBootMs lat lon alt relativeAlt : U32) (vx vy vz hdg : U16)
  | sysStatus (sensorsPresent sensorsEnabled sensorsHealth : U32)
      (load voltageBattery currentBattery : U16) (batteryRemaining : U8)
  | vfrHud (airspeed groundspeed : U32) (heading throttle : U16) (alt climb : U32)
  | batteryStatus (id function type : U8) (temperature : U16) (voltages : Option (Fin 10 → U16))
      (currentBattery : U16) (currentConsumed energyConsumed : U32) (batteryRemaining : U8)
  | rcChannels (timeBootMs : U32) (chancount : U8) (channels : Fin 18 → U16) (numChannels rssi : U8)
  | commandAck (command : U16) (result targetSystem targetComponent : U8)
  | paramValue (paramId : Option (List U8)) (value : U32) (paramType : U8)
      (paramCount paramIndex : U16)
  | statustext (severity : U8) (text : Option (List U8))
  | servoOutputRaw (timeUsec : U32) (port : U8) (servo : Fin 8 → U16)
  | namedValueFloat (timeBootMs : U32) (name : Option (List U8)) (value : U32)
  | homePosition (lat lon alt x y z : U32) (q : Option (Fin 4 → U32))
      (approachX approachY approachZ : U32) (timeUsec : U64)
  | extendedSysState (vtolState landedState : U8)
  | autopilotVersion (capabilities : U64) (flightSwVersion middlewareSwVersion osSwVersion
      boardVersion : U32) (flightCustomVersion : Option (Fin 8 → U8)) (uid : U64)
  | missionCount (targetSystem targetComponent : U8) (count : U16) (missionType : U8)
  | missionRequestInt (targetSystem targetComponent : U8) (itemSeq : U16) (missionType : U8)
  | missionItemInt (targetSystem targetComponent : U8) (item : MavlinkMissionItemInt)
  | missionAck (targetSystem targetComponent type missionType : U8)
  | missionCurrent (itemSeq : U16)
  | vibration (timeUsec : U64) (vibrationX vibrationY vibrationZ clipping0 clipping1
      clipping2 : U32)
  | estimatorStatus (timeUsec : U64) (flags : U16) (velRatio posHorizRatio posVertRatio magRatio
      haglRatio tasRatio posHorizAccuracy posVertAccuracy : U32)
  | highresImu (timeUsec : U64) (xacc yacc zacc xgyro ygyro zgyro xmag ymag zmag absPressure
      diffPressure pressureAlt temperature : U32) (fieldsUpdated : U16)
  | localPositionNed (timeBootMs x y z vx vy vz : U32)
  | fileTransferProtocol (targetNetwork targetSystem targetComponent : U8)
      (payload : Option (Fin 251 → U8)) (payloadLen : U8)
  | protocolVersion (version minVersion maxVersion : U16)

/-- The message that a call makes. -/
def MavlinkMsgCall.encode (seq : U8) : MavlinkMsgCall → MavlinkMessage
  | .heartbeat type autopilot baseMode customMode systemStatus =>
    mavlinkMsgHeartbeatEncode seq type autopilot baseMode customMode systemStatus
  | .attitude timeBootMs roll pitch yaw rollspeed pitchspeed yawspeed =>
    mavlinkMsgAttitudeEncode seq timeBootMs roll pitch yaw rollspeed pitchspeed yawspeed
  | .gpsRawInt timeUsec fixType lat lon alt eph epv vel cog satellitesVisible =>
    mavlinkMsgGpsRawIntEncode seq timeUsec fixType lat lon alt eph epv vel cog satellitesVisible
  | .globalPositionInt timeBootMs lat lon alt relativeAlt vx vy vz hdg =>
    mavlinkMsgGlobalPositionIntEncode seq timeBootMs lat lon alt relativeAlt vx vy vz hdg
  | .sysStatus present enabled health load voltageBattery currentBattery batteryRemaining =>
    mavlinkMsgSysStatusEncode seq present enabled health load voltageBattery currentBattery
      batteryRemaining
  | .vfrHud airspeed groundspeed heading throttle alt climb =>
    mavlinkMsgVfrHudEncode seq airspeed groundspeed heading throttle alt climb
  | .batteryStatus id function type temperature voltages currentBattery currentConsumed
      energyConsumed batteryRemaining =>
      mavlinkMsgBatteryStatusEncode seq id function type temperature voltages currentBattery
        currentConsumed energyConsumed batteryRemaining
  | .rcChannels timeBootMs chancount channels numChannels rssi =>
    mavlinkMsgRcChannelsEncode seq timeBootMs chancount channels numChannels rssi
  | .commandAck command result targetSystem targetComponent =>
    mavlinkMsgCommandAckEncode seq command result targetSystem targetComponent
  | .paramValue paramId value paramType paramCount paramIndex =>
    mavlinkMsgParamValueEncode seq paramId value paramType paramCount paramIndex
  | .statustext severity text => mavlinkMsgStatustextEncode seq severity text
  | .servoOutputRaw timeUsec port servo => mavlinkMsgServoOutputRawEncode seq timeUsec port servo
  | .namedValueFloat timeBootMs name value =>
    mavlinkMsgNamedValueFloatEncode seq timeBootMs name value
  | .homePosition lat lon alt x y z q approachX approachY approachZ timeUsec =>
    mavlinkMsgHomePositionEncode seq lat lon alt x y z q approachX approachY approachZ timeUsec
  | .extendedSysState vtolState landedState =>
    mavlinkMsgExtendedSysStateEncode seq vtolState landedState
  | .autopilotVersion capabilities flightSwVersion middlewareSwVersion osSwVersion boardVersion
      flightCustomVersion uid =>
      mavlinkMsgAutopilotVersionEncode seq capabilities flightSwVersion middlewareSwVersion
        osSwVersion boardVersion flightCustomVersion uid
  | .missionCount targetSystem targetComponent count missionType =>
    mavlinkMsgMissionCountEncode seq targetSystem targetComponent count missionType
  | .missionRequestInt targetSystem targetComponent itemSeq missionType =>
    mavlinkMsgMissionRequestIntEncode seq targetSystem targetComponent itemSeq missionType
  | .missionItemInt targetSystem targetComponent item =>
    mavlinkMsgMissionItemIntEncode seq targetSystem targetComponent item
  | .missionAck targetSystem targetComponent type missionType =>
    mavlinkMsgMissionAckEncode seq targetSystem targetComponent type missionType
  | .missionCurrent itemSeq => mavlinkMsgMissionCurrentEncode seq itemSeq
  | .vibration timeUsec vibrationX vibrationY vibrationZ clipping0 clipping1 clipping2 =>
    mavlinkMsgVibrationEncode seq timeUsec vibrationX vibrationY vibrationZ clipping0 clipping1
      clipping2
  | .estimatorStatus timeUsec flags velRatio posHorizRatio posVertRatio magRatio haglRatio tasRatio
      posHorizAccuracy posVertAccuracy =>
      mavlinkMsgEstimatorStatusEncode seq timeUsec flags velRatio posHorizRatio posVertRatio
        magRatio haglRatio tasRatio posHorizAccuracy posVertAccuracy
  | .highresImu timeUsec xacc yacc zacc xgyro ygyro zgyro xmag ymag zmag absPressure diffPressure
      pressureAlt temperature fieldsUpdated =>
      mavlinkMsgHighresImuEncode seq timeUsec xacc yacc zacc xgyro ygyro zgyro xmag ymag zmag
        absPressure diffPressure pressureAlt temperature fieldsUpdated
  | .localPositionNed timeBootMs x y z vx vy vz =>
    mavlinkMsgLocalPositionNedEncode seq timeBootMs x y z vx vy vz
  | .fileTransferProtocol targetNetwork targetSystem targetComponent payload payloadLen =>
    mavlinkMsgFileTransferProtocolEncode seq targetNetwork targetSystem targetComponent payload
      payloadLen
  | .protocolVersion version minVersion maxVersion =>
    mavlinkMsgProtocolVersionEncode seq version minVersion maxVersion

/-- The calls one after the other, each with the octets in front of its message: a call takes
the next sequence number. -/
def encodeAll (seq : U8) : List (List U8 × MavlinkMsgCall) → List (List U8 × MavlinkMessage)
  | [] => []
  | (noise, call) :: calls => (noise, call.encode seq) :: encodeAll (seq + 1) calls

/-! ## Where the encoders put their values -/

namespace Payload

variable {buf : Payload} {len offset : Nat}

theorem Tight.putU8 (h : buf.Tight len) (val : U8) (hoffset : offset + 1 ≤ len) :
    (buf.putU8 offset val).Tight len := h.set val hoffset

theorem Tight.putU16 (h : buf.Tight len) (val : U16) (hoffset : offset + 2 ≤ len) :
    (buf.putU16 offset val).Tight len :=
  (h.set _ (by omega)).set _ (by omega)

theorem Tight.putU32 (h : buf.Tight len) (val : U32) (hoffset : offset + 4 ≤ len) :
    (buf.putU32 offset val).Tight len :=
  (((h.set _ (by omega)).set _ (by omega)).set _ (by omega)).set _ (by omega)

theorem Tight.foldl {ι : Type*} {l : List ι} {f : Payload → ι → Payload} (h : buf.Tight len)
    (hf : ∀ buf : Payload, ∀ i ∈ l, buf.Tight len → (f buf i).Tight len) :
    (l.foldl f buf).Tight len := by
  induction l generalizing buf with
  | nil => exact h
  | cons i l ih =>
    rw [List.foldl_cons]
    apply ih (hf buf i (List.mem_cons_self ..) h)
    intro buf j hj
    exact hf buf j (List.mem_cons_of_mem i hj)

theorem Tight.putU64 (h : buf.Tight len) (val : U64) (hoffset : offset + 8 ≤ len) :
    (buf.putU64 offset val).Tight len := by
  apply h.foldl
  intro buf i hi htight
  have hlt := List.mem_range.mp hi
  exact htight.set _ (by omega)

theorem Tight.copy {src : List U8} (h : buf.Tight len) (hoffset : offset + src.length ≤ len) :
    (buf.copy offset src).Tight len := by
  induction src generalizing buf offset with
  | nil => exact h
  | cons b src ih =>
    rw [List.length_cons] at hoffset
    exact ih (h.set b (by omega)) (by omega)

theorem copy_apply (buf : Payload) (offset : Nat) (src : List U8) (i : Fin mavlinkMaxPayloadLen) :
    buf.copy offset src i
      = if offset ≤ i.val then (src[i.val - offset]?).getD (buf i) else buf i := by
  induction src generalizing buf offset with
  | nil => simp [Payload.copy]
  | cons b src ih =>
    rw [Payload.copy, ih]
    -- before, at, or behind the octet that is put first
    unfold Payload.set
    rcases Nat.lt_trichotomy i.val offset with hlt | heq | hgt
    · rw [if_neg (by omega), if_neg (by omega), if_neg (by omega)]
    · rw [if_neg (by omega), if_pos heq, if_pos (by omega), heq, Nat.sub_self]
      rfl
    obtain ⟨k, hk⟩ : ∃ k, i.val - offset = k + 1 := ⟨i.val - offset - 1, by omega⟩
    rw [if_pos (by omega), if_neg (by omega), if_pos (by omega), hk, List.getElem?_cons_succ]
    congr 2
    omega

end Payload

/-- What a file transfer message is to hold. -/
def ftpOctets (targetNetwork targetSystem targetComponent : U8) (payload : Option (Fin 251 → U8))
    (payloadLen : U8) : List U8 :=
  [targetNetwork, targetSystem, targetComponent] ++ ftpCopied payload payloadLen

/-- The length of the file transfer message does not wrap, or it holds nothing behind the length
that has wrapped. -/
def MavlinkMsgCall.Fits : MavlinkMsgCall → Prop
  | .fileTransferProtocol targetNetwork targetSystem targetComponent payload payloadLen =>
    payloadLen.toNat ≤ 252
      ∨ ∀ b ∈ (ftpOctets targetNetwork targetSystem targetComponent payload payloadLen).drop
          (payloadLen.toNat - 253), b = 0
  | _ => True

theorem ftpLen_toNat_of_le {payloadLen : U8} (h : payloadLen.toNat ≤ 252) :
    (ftpLen payloadLen).toNat = min (3 + payloadLen.toNat) 254 := by
  have hsum : (3 + payloadLen : U8).toNat = 3 + payloadLen.toNat := by
    rw [BitVec.toNat_add]
    exact Nat.mod_eq_of_lt (by simpa using (by omega : 3 + payloadLen.toNat < 256))
  unfold ftpLen
  dsimp only
  rw [hsum]
  split
  · show 254 = _
    omega
  · rw [hsum]
    omega

theorem ftpLen_toNat_of_lt {payloadLen : U8} (h : 252 < payloadLen.toNat) :
    (ftpLen payloadLen).toNat = payloadLen.toNat - 253 := by
  have hlt := payloadLen.isLt
  have hsum : (3 + payloadLen : U8).toNat = payloadLen.toNat - 253 := by
    rw [BitVec.toNat_add]
    show (3 + payloadLen.toNat) % 256 = _
    omega
  unfold ftpLen
  dsimp only
  -- too small to be cut at 254
  rw [hsum, if_neg (by omega), hsum]

theorem length_array_le {n : Nat} (array : Option (Fin n → U8)) :
    ((array.map List.ofFn).getD []).length ≤ n := by
  cases array with
  | none => exact Nat.zero_le n
  | some data => exact Nat.le_of_eq (List.length_ofFn ..)

theorem length_ftpCopied_le (payload : Option (Fin 251 → U8)) (payloadLen : U8) :
    (ftpCopied payload payloadLen).length ≤ min payloadLen.toNat 251 := by
  have harray := length_array_le payload
  unfold ftpCopied
  rw [List.length_take]
  omega

theorem ftpPayload_apply (targetNetwork targetSystem targetComponent : U8)
    (payload : Option (Fin 251 → U8)) (payloadLen : U8) (i : Fin mavlinkMaxPayloadLen) :
    ((((blank.putU8 0 targetNetwork).putU8 1 targetSystem).putU8 2 targetComponent).copy 3
        (ftpCopied payload payloadLen)) i
      = ((ftpOctets targetNetwork targetSystem targetComponent payload payloadLen)[i.val]?).getD 0
    := by
  rw [Payload.copy_apply]
  unfold ftpOctets
  obtain ⟨i, hi⟩ := i
  dsimp only
  match i with
  | 0 => rfl
  | 1 => rfl
  | 2 => rfl
  | i + 3 =>
    rw [if_pos (by omega)]
    rfl

theorem ftp_tight_iff (targetNetwork targetSystem targetComponent : U8)
    (payload : Option (Fin 251 → U8)) (payloadLen : U8) :
    (((((blank.putU8 0 targetNetwork).putU8 1 targetSystem).putU8 2 targetComponent).copy 3
        (ftpCopied payload payloadLen))).Tight (ftpLen payloadLen).toNat
      ↔ (MavlinkMsgCall.fileTransferProtocol targetNetwork targetSystem targetComponent payload
          payloadLen).Fits := by
  have hcopied := length_ftpCopied_le payload payloadLen
  have hlength : (ftpOctets targetNetwork targetSystem targetComponent payload payloadLen).length
      = 3 + (ftpCopied payload payloadLen).length := by
    simp [ftpOctets]
    omega
  unfold MavlinkMsgCall.Fits Payload.Tight
  simp only [ftpPayload_apply]
  generalize ftpOctets targetNetwork targetSystem targetComponent payload payloadLen = octets
    at hlength ⊢
  by_cases hle : payloadLen.toNat ≤ 252
  · -- the length covers what is held
    refine iff_of_true ?_ (Or.inl hle)
    intro i hi
    rw [ftpLen_toNat_of_le hle] at hi
    rw [List.getElem?_eq_none (by omega)]
    rfl
  rw [ftpLen_toNat_of_lt (by omega)]
  -- the length has wrapped, and what is held goes on behind it
  constructor
  · intro htight
    right
    intro b hb
    obtain ⟨k, hk⟩ := List.mem_iff_getElem?.mp hb
    rw [List.getElem?_drop] at hk
    have hlt : payloadLen.toNat - 253 + k < octets.length := (List.getElem?_eq_some_iff.mp hk).1
    have hzero := htight ⟨payloadLen.toNat - 253 + k, by
      show _ < 255
      omega⟩ (by simp)
    dsimp only at hzero
    rw [hk] at hzero
    exact hzero
  intro hfits i hi
  cases hget : octets[i.val]? with
  | none => rfl
  | some b =>
    apply hfits.resolve_left hle b
    apply List.mem_iff_getElem?.mpr
    refine ⟨i.val - (payloadLen.toNat - 253), ?_⟩
    rw [List.getElem?_drop, Nat.add_sub_cancel' hi]
    exact hget

theorem encodeWith_tight {seq : U8} {msgid : U32} {len : U8} {payload : Payload}
    (h : payload.Tight len.toNat) :
    (encodeWith seq msgid len payload).payload.Tight (encodeWith seq msgid len payload).len.toNat :=
  h

theorem encode_tight_iff (seq : U8) (call : MavlinkMsgCall) :
    (call.encode seq).payload.Tight (call.encode seq).len.toNat ↔ call.Fits := by
  cases call
  case fileTransferProtocol targetNetwork targetSystem targetComponent payload payloadLen =>
    -- the length of every other message is a constant
    exact ftp_tight_iff targetNetwork targetSystem targetComponent payload payloadLen
  all_goals
    refine iff_of_true ?_ trivial
    apply encodeWith_tight
  case paramValue paramId value paramType paramCount paramIndex =>
    -- a text is cut at the size of its field
    apply Payload.Tight.putU8 _ _ (by decide)
    apply Payload.Tight.copy
    · exact (((Payload.tight_zero _).putU32 _ (by decide)).putU16 _ (by decide)).putU16 _ (by decide)
    · have htake := List.length_take_le 16 (paramId.getD [])
      show 8 + _ ≤ 25
      omega
  case statustext severity text =>
    apply Payload.Tight.copy ((Payload.tight_zero _).putU8 _ (by decide))
    have htake := List.length_take_le 50 (text.getD [])
    show 1 + _ ≤ 51
    omega
  case namedValueFloat timeBootMs name value =>
    apply Payload.Tight.copy (((Payload.tight_zero _).putU32 _ (by decide)).putU32 _ (by decide))
    have htake := List.length_take_le 10 (name.getD [])
    show 8 + _ ≤ 18
    omega
  case autopilotVersion capabilities flightSw middlewareSw osSw board custom uid =>
    apply Payload.Tight.copy
    · apply Payload.Tight.putU16 _ _ (by decide)
      apply Payload.Tight.putU16 _ _ (by decide)
      exact ((((((Payload.tight_zero _).putU64 _ (by decide)).putU64 _ (by decide)).putU32 _
        (by decide)).putU32 _ (by decide)).putU32 _ (by decide)).putU32 _ (by decide)
    · have harray := length_array_le custom
      show 36 + _ ≤ 60
      omega
  -- the rest put values of a fixed size at fixed places
  all_goals
    repeat'
      first
        | apply Payload.Tight.putU8
        | apply Payload.Tight.putU16
        | apply Payload.Tight.putU32
        | apply Payload.Tight.putU64
        | exact Payload.tight_zero _
        | decide

/-! ## The decoders -/

theorem word_bytes (word : U32) :
    (word.setWidth 8).setWidth 32 ||| (((word >>> 8).setWidth 8).setWidth 32 <<< 8)
        ||| (((word >>> 16).setWidth 8).setWidth 32 <<< 16)
        ||| (((word >>> 24).setWidth 8).setWidth 32 <<< 24) = word := by
  apply BitVec.eq_of_getLsbD_eq
  intro i hi
  simp only [BitVec.getLsbD_or, BitVec.getLsbD_setWidth, BitVec.getLsbD_shiftLeft,
    BitVec.getLsbD_ushiftRight]
  grind

/-- The decoder of the message, if it is a mission message that has one here, gives back the
fields of the call. -/
def MavlinkMsgCall.DecodedFrom (msg : MavlinkMessage) : MavlinkMsgCall → Prop
  | .missionCount targetSystem targetComponent count missionType =>
    mavlinkMsgMissionCountDecode msg = (count, targetSystem, targetComponent, missionType)
  | .missionRequestInt targetSystem targetComponent itemSeq missionType =>
    mavlinkMsgMissionRequestIntDecode msg = (itemSeq, targetSystem, targetComponent, missionType)
  | .missionItemInt targetSystem targetComponent item =>
    mavlinkMsgMissionItemIntDecode msg = (item, targetSystem, targetComponent)
  | _ => True

theorem decode_encode (seq : U8) (call : MavlinkMsgCall) : call.DecodedFrom (call.encode seq) := by
  cases call
  case missionCount targetSystem targetComponent count missionType =>
    show mavlinkMsgMissionCountDecode (encodeWith seq 44 5 _) = _
    simp (disch := decide) [mavlinkMsgMissionCountDecode, encodeWith, mavlinkFinalize,
      MavlinkMessage.extension, Payload.getU16, Payload.getU8, Payload.putU16, Payload.putU8,
      Payload.get_set, checksum_bytes]
  case missionRequestInt targetSystem targetComponent itemSeq missionType =>
    show mavlinkMsgMissionRequestIntDecode (encodeWith seq 51 5 _) = _
    simp (disch := decide) [mavlinkMsgMissionRequestIntDecode, encodeWith, mavlinkFinalize,
      MavlinkMessage.extension, Payload.getU16, Payload.getU8, Payload.putU16, Payload.putU8,
      Payload.get_set, checksum_bytes]
  case missionItemInt targetSystem targetComponent item =>
    show mavlinkMsgMissionItemIntDecode (encodeWith seq 73 38 _) = _
    simp (disch := decide) [mavlinkMsgMissionItemIntDecode, encodeWith, mavlinkFinalize,
      MavlinkMessage.extension, Payload.getU16, Payload.getU8, Payload.getFloat, Payload.putU16,
      Payload.putU8, Payload.putU32, Payload.get_set, checksum_bytes, word_bytes]
  all_goals trivial

/-! ## The stream -/

def mavlinkMaxPacketLen : Nat := mavlinkMaxPayloadLen + mavlinkNumNonPayloadBytes

theorem mavlinkSerialize_max (msg : MavlinkMessage) :
    mavlinkSerialize msg mavlinkMaxPacketLen = some msg.octets := by
  have hlen := msg.len.isLt
  unfold mavlinkSerialize
  rw [if_neg]
  show ¬ 255 + 12 < msg.len.toNat + 12
  omega

theorem length_octets (msg : MavlinkMessage) :
    msg.octets.length = msg.len.toNat + mavlinkNumNonPayloadBytes := by
  simp [MavlinkMessage.octets, MavlinkMessage.header, mavlinkNumNonPayloadBytes]

/-- The serialized messages, with the octets in front of each of them and behind the last. -/
def wire (items : List (List U8 × MavlinkMessage)) (tail : List U8) : List U8 :=
  items.flatMap (fun item =>
    item.1 ++ (mavlinkSerialize item.2 mavlinkMaxPacketLen).getD []) ++ tail

/-- The octets hold no STX. -/
def NoStx (noise : List U8) : Prop := ∀ b ∈ noise, b ≠ mavlinkStxV2

theorem wire_reads {items : List (List U8 × MavlinkMessage)} {tail : List U8}
    (hnoise : ∀ item ∈ items, NoStx item.1) (htail : NoStx tail)
    (hitems : ∀ item ∈ items, item.2.OnWire ∧ item.2.checksum = item.2.crc) :
    Reads mavlinkParseByte MavlinkParser.Idle (wire items tail)
      (items.map fun item => item.2.received) := by
  have hparts : Reads mavlinkParseByte MavlinkParser.Idle
      (items.flatMap fun item => item.1 ++ (mavlinkSerialize item.2 mavlinkMaxPacketLen).getD [])
      (items.flatMap fun item => [item.2.received]) := by
    apply Reads.flatMap
    intro item hitem
    rw [mavlinkSerialize_max]
    -- each item is noise that is passed over, and then a message
    exact (noise_reads (hnoise item hitem)).append
      (octets_reads (hitems item hitem).1 (hitems item hitem).2)
  have hall := hparts.append (noise_reads htail)
  rw [List.append_nil, ← List.map_eq_flatMap] at hall
  -- the noise behind the last message adds nothing
  exact hall

theorem encode_onWire (seq : U8) (call : MavlinkMsgCall) :
    (call.encode seq).OnWire ∧ (call.encode seq).checksum = (call.encode seq).crc := by
  have hwith : ∀ {msgid : U32} {len : U8} {payload : Payload}, msgid.toNat < 2 ^ 24 →
      (encodeWith seq msgid len payload).OnWire
        ∧ (encodeWith seq msgid len payload).checksum
          = (encodeWith seq msgid len payload).crc :=
    fun hmsgid => ⟨⟨rfl, hmsgid⟩, rfl⟩
  cases call
  all_goals exact hwith (by decide)

theorem mem_encodeAll {seq : U8} {calls : List (List U8 × MavlinkMsgCall)}
    {item : List U8 × MavlinkMessage} (hitem : item ∈ encodeAll seq calls) :
    ∃ seq', ∃ call ∈ calls, item = (call.1, call.2.encode seq') := by
  induction calls generalizing seq with
  | nil => cases hitem
  | cons call calls ih =>
    rcases List.mem_cons.mp hitem with rfl | hrest
    · exact ⟨seq, call, List.mem_cons_self .., rfl⟩
    · obtain ⟨seq', call', hcall', heq⟩ := ih hrest
      exact ⟨seq', call', List.mem_cons_of_mem call hcall', heq⟩

theorem received_eq_iff (msg : MavlinkMessage) :
    msg.received = msg ↔ msg.payload.Tight msg.len.toNat := by
  rw [Payload.tight_iff]
  constructor
  · intro h
    exact congrArg MavlinkMessage.payload h
  · intro h
    unfold MavlinkMessage.received
    rw [h]

theorem encodeAll_received_iff (seq : U8) (calls : List (List U8 × MavlinkMsgCall)) :
    (encodeAll seq calls).map (fun item => item.2.received) = (encodeAll seq calls).map Prod.snd
      ↔ ∀ call ∈ calls, call.2.Fits := by
  induction calls generalizing seq with
  | nil => simp [encodeAll]
  | cons call calls ih =>
    show (call.2.encode seq).received :: (encodeAll (seq + 1) calls).map _
        = call.2.encode seq :: (encodeAll (seq + 1) calls).map _ ↔ _
    rw [List.cons.injEq, ih, received_eq_iff, encode_tight_iff, List.forall_mem_cons]

/-! ## The round trip -/

/-- The loop over `mavlink_parse`, over one buffer after the other: the messages. -/
def mavlinkParseAll (parser : MavlinkParser) (buffers : List (List U8)) : List MavlinkMessage :=
  (drainAll mavlinkParseByte parser buffers).2

theorem mavlinkParseAll_wire {parser : MavlinkParser} (hidle : parser.Idle) (seq : U8)
    {calls : List (List U8 × MavlinkMsgCall)} {tail : List U8} {buffers : List (List U8)}
    (hnoise : ∀ call ∈ calls, NoStx call.1) (htail : NoStx tail)
    (hbuffers : buffers.flatten = wire (encodeAll seq calls) tail) :
    mavlinkParseAll parser buffers = (encodeAll seq calls).map fun item => item.2.received := by
  have hreads := @wire_reads (encodeAll seq calls) tail
    (by
      intro item hitem
      obtain ⟨seq', call, hcall, rfl⟩ := mem_encodeAll hitem
      exact hnoise call hcall)
    htail
    (by
      intro item hitem
      obtain ⟨seq', call, hcall, rfl⟩ := mem_encodeAll hitem
      exact encode_onWire seq' call.2)
  unfold mavlinkParseAll
  -- how the stream is cut into buffers does not matter
  rw [drainAll_eq_feed, hbuffers]
  exact (hreads parser hidle).2

/-- Encoding, serializing and parsing are inverse: the messages come back in order, no call of
`mavlink_parse` consumes more than it was given, and the decoders give back the fields. -/
def RoundTrips (parser : MavlinkParser) (seq : U8) (calls : List (List U8 × MavlinkMsgCall))
    (buffers : List (List U8)) : Prop :=
  mavlinkParseAll parser buffers = (encodeAll seq calls).map Prod.snd
    ∧ (∀ (parser : MavlinkParser) (buf : List U8), (mavlinkParse parser buf).2.2 ≤ buf.length)
    ∧ ∀ call ∈ calls, ∀ seq : U8, call.2.DecodedFrom (call.2.encode seq)

/-- The round trip succeeds exactly when no file transfer message loses octets behind a length
that has wrapped. -/
theorem mavlinkParse_roundTrip_iff {parser : MavlinkParser} (hidle : parser.Idle) (seq : U8)
    {calls : List (List U8 × MavlinkMsgCall)} {tail : List U8} {buffers : List (List U8)}
    (hnoise : ∀ call ∈ calls, NoStx call.1) (htail : NoStx tail)
    (hbuffers : buffers.flatten = wire (encodeAll seq calls) tail) :
    RoundTrips parser seq calls buffers ↔ ∀ call ∈ calls, call.2.Fits := by
  unfold RoundTrips
  rw [mavlinkParseAll_wire hidle seq hnoise htail hbuffers, encodeAll_received_iff]
  constructor
  · intro h
    exact h.1
  intro h
  -- the other two parts hold of every sequence of calls
  refine ⟨h, ?_, ?_⟩
  · intro parser buf
    exact firstResult_le parser buf
  · intro call _ seq
    exact decode_encode seq call.2

/-- Two messages with noise between them, cut inside the first. -/
theorem mavlinkParse_roundTrip_two :
    RoundTrips mavlinkParserInit 0
      [([7], .missionCount 255 190 3 0), ([1, 2], .extendedSysState 0 1)]
      [(wire (encodeAll 0 [([7], .missionCount 255 190 3 0), ([1, 2], .extendedSysState 0 1)])
          [9]).take 5,
        (wire (encodeAll 0 [([7], .missionCount 255 190 3 0), ([1, 2], .extendedSysState 0 1)])
          [9]).drop 5] := by
  apply (@mavlinkParse_roundTrip_iff _ mavlinkParserInit_idle 0 _ [9] _ ?_ ?_ ?_).mpr
  · simp [MavlinkMsgCall.Fits]
  · simp [NoStx, mavlinkStxV2]
  · simp [NoStx, mavlinkStxV2]
  · rw [List.flatten_cons, List.flatten_cons, List.flatten_nil, List.append_nil,
      List.take_append_drop]

/-- A file transfer message of 253 octets loses all of them. -/
def wrappedCall : MavlinkMsgCall := .fileTransferProtocol 0 255 190 (some fun _ => 1) 253

/-- Not every sequence of messages comes back. -/
theorem ftp_message_is_lost :
    ¬ ∀ (parser : MavlinkParser) (seq : U8) (calls : List (List U8 × MavlinkMsgCall))
      (tail : List U8) (buffers : List (List U8)),
      parser.Idle → (∀ call ∈ calls, NoStx call.1) → NoStx tail →
      buffers.flatten = wire (encodeAll seq calls) tail → RoundTrips parser seq calls buffers := by
  intro h
  have hnoise : ∀ call ∈ [(([] : List U8), wrappedCall)], NoStx call.1 := by simp [NoStx]
  have htail : NoStx [] := by simp [NoStx]
  have hback := (h mavlinkParserInit 0 [([], wrappedCall)] []
    [wire (encodeAll 0 [([], wrappedCall)]) []] mavlinkParserInit_idle hnoise htail (by simp)).1
  rw [mavlinkParseAll_wire mavlinkParserInit_idle 0 hnoise htail (by simp), encodeAll_received_iff] at hback
  have hfits := hback ([], wrappedCall) (List.mem_cons_self ..)
  rcases hfits with hle | hzero
  · exact absurd hle (by decide)
  -- the second octet that is to be sent is 255, and the length is 0
  have hmem : (255 : U8) ∈ (ftpOctets 0 255 190 (some fun _ => 1) 253).drop 0 := by
    rw [List.drop_zero]
    exact List.mem_append_left _ (by simp)
  exact absurd (hzero 255 hmem) (by decide)

end MmIotEsp32.HeliFc.MavlinkMsg
