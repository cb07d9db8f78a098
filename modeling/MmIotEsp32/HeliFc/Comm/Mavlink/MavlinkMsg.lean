/-
  MmIotEsp32.HeliFc.Comm.Mavlink.MavlinkMsg

  MAVLink v2 on the wire (`comm/mavlink/mavlink_msg.c`, `comm/mavlink/mavlink_types.h`).
-/
import Mathlib.Data.Fintype.Pi
import MmIotEsp32.Common.Mmosal
import MmIotEsp32.Lib.StreamParser

namespace MmIotEsp32.HeliFc.MavlinkMsg

open Lib

/-! ## Messages -/

def mavlinkStxV2 : U8 := 0xFD

def mavlinkMaxPayloadLen : Nat := 255

def mavlinkNumNonPayloadBytes : Nat := 12

/-- `uint8_t payload[MAVLINK_MAX_PAYLOAD_LEN]`. -/
abbrev Payload := Fin mavlinkMaxPayloadLen → U8

/-- `mavlink_message_t`. -/
structure MavlinkMessage where
  magic : U8
  len : U8
  incompatFlags : U8
  compatFlags : U8
  seq : U8
  sysid : U8
  compid : U8
  msgid : U32
  payload : Payload
  checksum : U16
  deriving DecidableEq

/-- A message that is all zero. -/
def MavlinkMessage.zero : MavlinkMessage := ⟨0, 0, 0, 0, 0, 0, 0, 0, fun _ => 0, 0⟩

/-- `buf[offset] = val`. -/
def Payload.set (buf : Payload) (offset : Nat) (val : U8) : Payload :=
  fun i => if i.val = offset then val else buf i

/-- `buf[offset]`. -/
def Payload.get (buf : Payload) (offset : Nat) : U8 :=
  if h : offset < mavlinkMaxPayloadLen then buf ⟨offset, h⟩ else 0

/-- The first `len` octets. -/
def Payload.take (buf : Payload) (len : Nat) : List U8 := (List.range len).map buf.get

/-! ## The checksum -/

def mavlinkGetCrcExtra (msgid : U32) : U8 :=
  match msgid.toNat with
  | 0 => 50
  | 1 => 124
  | 24 => 24
  | 30 => 39
  | 33 => 104
  | 65 => 118
  | 74 => 20
  | 76 => 152
  | 77 => 143
  | 36 => 222
  | 70 => 124
  | 147 => 154
  | 251 => 170
  | 253 => 83
  | 20 => 214
  | 21 => 159
  | 22 => 220
  | 23 => 168
  | 43 => 132
  | 44 => 221
  | 73 => 38
  | 51 => 196
  | 47 => 153
  | 45 => 232
  | 41 => 28
  | 42 => 28
  | 148 => 178
  | 242 => 104
  | 245 => 130
  | 241 => 90
  | 230 => 163
  | 105 => 93
  | 32 => 185
  | 110 => 84
  | 300 => 217
  | _ => 0

def mavlinkCrcInit : U16 := 0xFFFF

def mavlinkCrcAccumulate (crc : U16) (data : U8) : U16 :=
  let tmp : U8 := data ^^^ crc.setWidth 8
  let tmp : U8 := tmp ^^^ (tmp <<< 4)
  (crc >>> 8) ^^^ (tmp.setWidth 16 <<< 8) ^^^ (tmp.setWidth 16 <<< 3) ^^^ (tmp.setWidth 16 >>> 4)

def mavlinkCrcAccumulateBuf (crc : U16) (buf : List U8) : U16 := buf.foldl mavlinkCrcAccumulate crc

/-- `(uint8_t)((msgid >> (8 * k)) & 0xFF)`. -/
def msgidByte (msgid : U32) (k : Nat) : U8 := (msgid >>> (8 * k)).setWidth 8

/-- The octets behind the STX and before the payload. -/
def MavlinkMessage.header (msg : MavlinkMessage) : List U8 :=
  [msg.len, msg.incompatFlags, msg.compatFlags, msg.seq, msg.sysid, msg.compid,
    msgidByte msg.msgid 0, msgidByte msg.msgid 1, msgidByte msg.msgid 2]

/-- The checksum that `mavlink_finalize` computes. -/
def MavlinkMessage.crc (msg : MavlinkMessage) : U16 :=
  mavlinkCrcAccumulate
    (mavlinkCrcAccumulateBuf (mavlinkCrcAccumulateBuf mavlinkCrcInit msg.header)
      (msg.payload.take msg.len.toNat))
    (mavlinkGetCrcExtra msg.msgid)

/-- `mavlink_finalize`, where `s_mavlink_seq` is `seq`. -/
def mavlinkFinalize (seq : U8) (msg : MavlinkMessage) : MavlinkMessage :=
  let msg := { msg with magic := mavlinkStxV2, incompatFlags := 0, compatFlags := 0, seq := seq }
  { msg with checksum := msg.crc }

/-! ## Onto the wire -/

/-- The octets of a message. -/
def MavlinkMessage.octets (msg : MavlinkMessage) : List U8 :=
  msg.magic :: (msg.header ++ (msg.payload.take msg.len.toNat
    ++ [msg.checksum.setWidth 8, (msg.checksum >>> 8).setWidth 8]))

/-- `mavlink_serialize`; `none` is the error return. -/
def mavlinkSerialize (msg : MavlinkMessage) (bufLen : Nat) : Option (List U8) :=
  if bufLen < msg.len.toNat + mavlinkNumNonPayloadBytes then none else some msg.octets

/-! ## The parser -/

/-- `mavlink_parse_state_t`. -/
inductive MavlinkParseState where
  | idle
  | gotStx
  | gotLength
  | gotIncompat
  | gotCompat
  | gotSeq
  | gotSysid
  | gotCompid
  | gotMsgid1
  | gotMsgid2
  | gotMsgid3
  | gotPayload
  | gotCrc1
  deriving Repr, DecidableEq

/-- `mavlink_parser_t`. -/
structure MavlinkParser where
  state : MavlinkParseState
  rxmsg : MavlinkMessage
  payloadIdx : U8
  crc : U16
  deriving DecidableEq

def mavlinkParserInit : MavlinkParser := ⟨.idle, .zero, 0, 0⟩

/-- The step of a header octet: the octet is stored, and counts for the checksum. -/
def MavlinkParser.store (parser : MavlinkParser) (rxmsg : MavlinkMessage) (byte : U8)
    (state : MavlinkParseState) : MavlinkParser :=
  { parser with rxmsg := rxmsg, crc := mavlinkCrcAccumulate parser.crc byte, state := state }

/-- The extra octet of the checksum, which ends the payload. -/
def MavlinkParser.endPayload (parser : MavlinkParser) : MavlinkParser :=
  { parser with
    crc := mavlinkCrcAccumulate parser.crc (mavlinkGetCrcExtra parser.rxmsg.msgid)
    state := .gotPayload }

/-- `mavlink_parse_byte`; a message is what it writes to `out_msg` when it returns 1. -/
def mavlinkParseByte (parser : MavlinkParser) (byte : U8) :
    MavlinkParser × Option MavlinkMessage :=
  let rxmsg := parser.rxmsg
  match parser.state with
  | .idle =>
    if byte = mavlinkStxV2 then
      (⟨.gotStx, { MavlinkMessage.zero with magic := byte }, 0, mavlinkCrcInit⟩, none)
    else (parser, none)
  | .gotStx => (parser.store { rxmsg with len := byte } byte .gotLength, none)
  | .gotLength => (parser.store { rxmsg with incompatFlags := byte } byte .gotIncompat, none)
  | .gotIncompat => (parser.store { rxmsg with compatFlags := byte } byte .gotCompat, none)
  | .gotCompat => (parser.store { rxmsg with seq := byte } byte .gotSeq, none)
  | .gotSeq => (parser.store { rxmsg with sysid := byte } byte .gotSysid, none)
  | .gotSysid => (parser.store { rxmsg with compid := byte } byte .gotCompid, none)
  | .gotCompid => (parser.store { rxmsg with msgid := byte.setWidth 32 } byte .gotMsgid1, none)
  | .gotMsgid1 =>
    (parser.store { rxmsg with msgid := rxmsg.msgid ||| (byte.setWidth 32 <<< 8) } byte
      .gotMsgid2, none)
  | .gotMsgid2 =>
    let parser := parser.store
      { rxmsg with msgid := rxmsg.msgid ||| (byte.setWidth 32 <<< 16) } byte .gotMsgid3
    -- a message without payload goes on to its checksum
    if rxmsg.len = 0 then (parser.endPayload, none)
    else ({ parser with payloadIdx := 0 }, none)
  | .gotMsgid3 =>
    let parser := { parser.store
        { rxmsg with payload := rxmsg.payload.set parser.payloadIdx.toNat byte } byte .gotMsgid3
      with payloadIdx := parser.payloadIdx + 1 }
    if rxmsg.len.toNat ≤ parser.payloadIdx.toNat then (parser.endPayload, none)
    else (parser, none)
  | .gotPayload =>
    ({ parser with rxmsg := { rxmsg with checksum := byte.setWidth 16 }, state := .gotCrc1 },
      none)
  | .gotCrc1 =>
    let rxmsg := { rxmsg with checksum := rxmsg.checksum ||| (byte.setWidth 16 <<< 8) }
    let parser := { parser with rxmsg := rxmsg, state := .idle }
    if rxmsg.checksum = parser.crc then (parser, some rxmsg) else (parser, none)

/-- `mavlink_parse`: the parser, the message if one is complete, and `consumed`. -/
def mavlinkParse (parser : MavlinkParser) (buf : List U8) :
    MavlinkParser × Option MavlinkMessage × Nat := firstResult mavlinkParseByte parser buf

/-! ## Payloads -/

theorem Payload.get_set (buf : Payload) {offset i : Nat} (val : U8)
    (h : offset < mavlinkMaxPayloadLen) :
    (buf.set offset val).get i = if i = offset then val else buf.get i := by
  unfold Payload.get Payload.set
  by_cases hi : i < mavlinkMaxPayloadLen
  · rw [dif_pos hi, dif_pos hi]
  · rw [dif_neg hi, dif_neg hi, if_neg (by omega)]

@[simp] theorem Payload.length_take (buf : Payload) (len : Nat) : (buf.take len).length = len := by
  simp [Payload.take]

theorem Payload.take_succ (buf : Payload) (len : Nat) :
    buf.take (len + 1) = buf.take len ++ [buf.get len] := by
  simp [Payload.take, List.range_succ]

/-- The payload with nothing behind its first `len` octets. -/
def Payload.upTo (buf : Payload) (len : Nat) : Payload := fun i => if i.val < len then buf i else 0

@[simp] theorem Payload.upTo_zero (buf : Payload) : buf.upTo 0 = fun _ => 0 := by
  funext i
  simp [Payload.upTo]

theorem Payload.upTo_succ (buf : Payload) {len : Nat} (h : len < mavlinkMaxPayloadLen) :
    (buf.upTo len).set len (buf.get len) = buf.upTo (len + 1) := by
  funext i
  unfold Payload.set Payload.upTo Payload.get
  by_cases hi : i.val = len
  · have hcast : (⟨len, h⟩ : Fin mavlinkMaxPayloadLen) = i := Fin.ext hi.symm
    rw [if_pos hi, if_pos (by omega), dif_pos h, hcast]
  · by_cases hlt : i.val < len
    · rw [if_neg hi, if_pos hlt, if_pos (by omega)]
    · rw [if_neg hi, if_neg hlt, if_neg (by omega)]

/-- Nothing stands behind the first `len` octets. -/
def Payload.Tight (buf : Payload) (len : Nat) : Prop :=
  ∀ i : Fin mavlinkMaxPayloadLen, len ≤ i.val → buf i = 0

theorem Payload.tight_iff (buf : Payload) (len : Nat) : buf.Tight len ↔ buf.upTo len = buf := by
  constructor
  · intro h
    funext i
    unfold Payload.upTo
    split
    · rfl
    · next hi => exact (h i (Nat.not_lt.mp hi)).symm
  · intro h i hi
    rw [← h]
    exact if_neg (Nat.not_lt.mpr hi)

theorem Payload.tight_zero (len : Nat) : Payload.Tight (fun _ => 0) len := fun _ _ => rfl

theorem Payload.Tight.set {buf : Payload} {len offset : Nat} (h : buf.Tight len) (val : U8)
    (hoffset : offset < len) : (buf.set offset val).Tight len := by
  intro i hi
  unfold Payload.set
  rw [if_neg (by omega)]
  exact h i hi

/-- The message as the parser hands it over: nothing stands behind its length. -/
def MavlinkMessage.received (msg : MavlinkMessage) : MavlinkMessage :=
  { msg with payload := msg.payload.upTo msg.len.toNat }

/-- The octets of the message say what the message is: it begins with the STX, and its id
fits in 24 bits. -/
structure MavlinkMessage.OnWire (msg : MavlinkMessage) : Prop where
  magic : msg.magic = mavlinkStxV2
  msgid : msg.msgid.toNat < 2 ^ 24

/-- The parser waits for the STX. -/
def MavlinkParser.Idle (parser : MavlinkParser) : Prop := parser.state = .idle

theorem mavlinkParserInit_idle : mavlinkParserInit.Idle := rfl

/-! ## Between the parts -/

/-- The checksum over the header and `k` octets of the payload. -/
def MavlinkMessage.crcUpTo (msg : MavlinkMessage) (k : Nat) : U16 :=
  mavlinkCrcAccumulateBuf (mavlinkCrcAccumulateBuf mavlinkCrcInit msg.header) (msg.payload.take k)

theorem MavlinkMessage.crcUpTo_succ (msg : MavlinkMessage) (k : Nat) :
    msg.crcUpTo (k + 1) = mavlinkCrcAccumulate (msg.crcUpTo k) (msg.payload.get k) := by
  unfold MavlinkMessage.crcUpTo
  rw [Payload.take_succ]
  simp [mavlinkCrcAccumulateBuf]

/-- What the parser has of the message behind `k` octets of its payload. -/
def MavlinkMessage.readUpTo (msg : MavlinkMessage) (k : Nat) : MavlinkMessage :=
  { msg with payload := msg.payload.upTo k, checksum := 0 }

/-- The parser behind the first `k` octets of the payload. -/
def inPayload (msg : MavlinkMessage) (k : Nat) : MavlinkParser :=
  ⟨.gotMsgid3, msg.readUpTo k, BitVec.ofNat 8 k, msg.crcUpTo k⟩

/-- The parser behind the payload. -/
def atChecksum (msg : MavlinkMessage) : MavlinkParser :=
  ⟨.gotPayload, msg.readUpTo msg.len.toNat, BitVec.ofNat 8 msg.len.toNat, msg.crc⟩

/-! ## The header -/

theorem msgid_bytes {msgid : U32} (h : msgid.toNat < 2 ^ 24) :
    (msgidByte msgid 0).setWidth 32 ||| ((msgidByte msgid 1).setWidth 32 <<< 8)
      ||| ((msgidByte msgid 2).setWidth 32 <<< 16) = msgid := by
  apply BitVec.eq_of_getLsbD_eq
  intro i hi
  -- bit by bit: three octets have 24 bits, and the id has no others
  have hhigh : 24 ≤ i → msgid.getLsbD i = false := by
    intro hle
    rw [← BitVec.testBit_toNat]
    apply Nat.testBit_lt_two_pow
    exact Nat.lt_of_lt_of_le h (Nat.pow_le_pow_right (by decide) hle)
  simp only [msgidByte, BitVec.getLsbD_or, BitVec.getLsbD_setWidth, BitVec.getLsbD_shiftLeft,
    BitVec.getLsbD_ushiftRight]
  grind

variable {msg : MavlinkMessage}

theorem header_run (hwire : msg.OnWire) {parser : MavlinkParser} (hidle : parser.Idle) :
    feed mavlinkParseByte parser (msg.magic :: msg.header)
      = (if msg.len = 0 then atChecksum msg else inPayload msg 0, []) := by
  obtain ⟨state, rxmsg, payloadIdx, crc⟩ := parser
  obtain rfl : state = .idle := hidle
  -- only the place matters: the STX clears what an earlier message has left
  have hmsgid := msgid_bytes hwire.msgid
  have hread : { MavlinkMessage.zero with
      magic := mavlinkStxV2, len := msg.len, incompatFlags := msg.incompatFlags,
      compatFlags := msg.compatFlags, seq := msg.seq, sysid := msg.sysid, compid := msg.compid,
      msgid := msg.msgid } = msg.readUpTo 0 := by
    simp [MavlinkMessage.readUpTo, MavlinkMessage.zero, hwire.magic]
  rw [hwire.magic]
  simp only [MavlinkMessage.header, feed_cons, feed_nil, mavlinkParseByte, if_pos, Option.toList,
    List.nil_append, MavlinkParser.store]
  rw [hmsgid, hread]
  by_cases hlen : msg.len = 0
  · -- no payload: the extra octet is counted at once
    rw [if_pos hlen, if_pos hlen, atChecksum, hlen]
    simp [MavlinkParser.endPayload, MavlinkMessage.crc, MavlinkMessage.header,
      mavlinkCrcAccumulateBuf, Payload.take, MavlinkMessage.readUpTo, hlen]
  · rw [if_neg hlen, if_neg hlen]
    simp [inPayload, MavlinkMessage.crcUpTo, MavlinkMessage.header, mavlinkCrcAccumulateBuf,
      Payload.take]

/-! ## The payload -/

theorem inPayload_store (msg : MavlinkMessage) {k : Nat} (hk : k < mavlinkMaxPayloadLen) :
    { (inPayload msg k).store { (inPayload msg k).rxmsg with
          payload := (inPayload msg k).rxmsg.payload.set (inPayload msg k).payloadIdx.toNat
            (msg.payload.get k) } (msg.payload.get k) .gotMsgid3
      with payloadIdx := (inPayload msg k).payloadIdx + 1 } = inPayload msg (k + 1) := by
  have hidx : (BitVec.ofNat 8 k).toNat = k := by
    rw [BitVec.toNat_ofNat]
    exact Nat.mod_eq_of_lt (Nat.lt_trans hk (by decide))
  simp only [inPayload, MavlinkMessage.readUpTo, MavlinkParser.store, hidx]
  rw [Payload.upTo_succ _ hk, ← MavlinkMessage.crcUpTo_succ, BitVec.ofNat_add]
  rfl

theorem inPayload_step (msg : MavlinkMessage) {k : Nat} (hk : k < msg.len.toNat) :
    mavlinkParseByte (inPayload msg k) (msg.payload.get k)
      = (if k + 1 = msg.len.toNat then atChecksum msg else inPayload msg (k + 1), none) := by
  have hlen := msg.len.isLt
  have hmax : mavlinkMaxPayloadLen = 255 := rfl
  have hstore := inPayload_store msg (k := k) (by omega)
  have hidx : (inPayload msg (k + 1)).payloadIdx.toNat = k + 1 := by
    show (BitVec.ofNat 8 (k + 1)).toNat = k + 1
    rw [BitVec.toNat_ofNat]
    exact Nat.mod_eq_of_lt (by omega)
  show (if msg.len.toNat ≤ _ then _ else _) = _
  rw [hstore, hidx]
  -- the octet that makes the index reach the length ends the payload
  by_cases hlast : k + 1 = msg.len.toNat
  · rw [if_pos (by omega), if_pos hlast]
    show ((inPayload msg (k + 1)).endPayload, none) = _
    rw [hlast]
    rfl
  · rw [if_neg (by omega), if_neg hlast]

theorem payload_run (msg : MavlinkMessage) {k n : Nat} (hn : k + (n + 1) = msg.len.toNat) :
    feed mavlinkParseByte (inPayload msg k) ((List.range' k (n + 1)).map msg.payload.get)
      = (atChecksum msg, []) := by
  induction n generalizing k with
  | zero =>
    -- the last octet
    show feed mavlinkParseByte (inPayload msg k) [msg.payload.get k] = _
    rw [feed_cons, inPayload_step msg (by omega), if_pos hn]
    rfl
  | succ n ih =>
    rw [List.range'_succ, List.map_cons, feed_cons, inPayload_step msg (by omega),
      if_neg (by omega)]
    exact ih (by omega)

/-! ## The checksum, and the whole message -/

theorem checksum_bytes (checksum : U16) :
    (checksum.setWidth 8).setWidth 16 ||| (((checksum >>> 8).setWidth 8).setWidth 16 <<< 8)
      = checksum := by
  apply BitVec.eq_of_getLsbD_eq
  intro i hi
  simp only [BitVec.getLsbD_or, BitVec.getLsbD_setWidth, BitVec.getLsbD_shiftLeft,
    BitVec.getLsbD_ushiftRight]
  grind

/-- The parser behind the message. -/
def behind (msg : MavlinkMessage) : MavlinkParser :=
  ⟨.idle, msg.received, BitVec.ofNat 8 msg.len.toNat, msg.crc⟩

theorem checksum_run (msg : MavlinkMessage) :
    feed mavlinkParseByte (atChecksum msg)
        [msg.checksum.setWidth 8, (msg.checksum >>> 8).setWidth 8]
      = (behind msg, if msg.checksum = msg.crc then [msg.received] else []) := by
  have hchecksum := checksum_bytes msg.checksum
  simp only [feed_cons, feed_nil, atChecksum, mavlinkParseByte, MavlinkMessage.readUpTo,
    Option.toList, List.nil_append]
  rw [hchecksum]
  split <;> rfl

theorem octets_run (hwire : msg.OnWire) {parser : MavlinkParser} (hidle : parser.Idle) :
    feed mavlinkParseByte parser msg.octets
      = (behind msg, if msg.checksum = msg.crc then [msg.received] else []) := by
  have hpayload : feed mavlinkParseByte
      -- the header leaves the parser at the payload, if there is one
      (if msg.len = 0 then atChecksum msg else inPayload msg 0) (msg.payload.take msg.len.toNat)
        = (atChecksum msg, []) := by
    split
    · next hlen =>
        rw [hlen]
        rfl
    next hlen =>
      obtain ⟨n, hn⟩ : ∃ n, msg.len.toNat = n + 1 := by
        apply Nat.exists_eq_succ_of_ne_zero
        intro hzero
        exact hlen (BitVec.eq_of_toNat_eq hzero)
      rw [Payload.take, hn, List.range_eq_range']
      exact payload_run msg (by omega)
  rw [MavlinkMessage.octets, ← List.cons_append, feed_append, header_run hwire hidle,
    feed_append, hpayload, checksum_run]
  rfl

theorem octets_reads (hwire : msg.OnWire) (hchecksum : msg.checksum = msg.crc) :
    Reads mavlinkParseByte MavlinkParser.Idle msg.octets [msg.received] := by
  intro parser hidle
  rw [octets_run hwire hidle, if_pos hchecksum]
  exact ⟨rfl, rfl⟩

theorem noise_reads {noise : List U8} (hnoise : ∀ b ∈ noise, b ≠ mavlinkStxV2) :
    Reads mavlinkParseByte MavlinkParser.Idle noise [] := by
  apply Reads.ignored
  intro b hb parser hidle
  obtain ⟨state, rxmsg, payloadIdx, crc⟩ := parser
  obtain rfl : state = .idle := hidle
  simp only [mavlinkParseByte, if_neg (hnoise b hb)]
  exact ⟨rfl, trivial⟩

end MmIotEsp32.HeliFc.MavlinkMsg
