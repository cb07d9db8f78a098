/-
  MmIotEsp32.HeliFc.Comm.ZeroTruncation

  Messages whose trailing zeros are not sent (`mavlink_parse_byte` of
  `comm/mavlink/mavlink_msg.c`, `process_mavlink_message` of `comm/mavlink_handler.c`).
-/
import MmIotEsp32.HeliFc.Comm.MessageBounds

namespace MmIotEsp32.HeliFc.MavlinkMsg.Handler

open Lib

/-! ## Truncation -/

/-- The message with `k` octets of its payload, and the checksum of that. -/
def truncate (msg : MavlinkMessage) (k : U8) : MavlinkMessage :=
  let msg := { msg with len := k }
  { msg with checksum := msg.crc }

/-- What is cut off is zero, and an octet is left. -/
structure Truncation (msg : MavlinkMessage) (k : U8) : Prop where
  least : 1 ≤ k.toNat
  le : k.toNat ≤ msg.len.toNat
  zeros : ∀ i, k.toNat ≤ i → i < msg.len.toNat → msg.payload.get i = 0

/-- The statics after the octets of a message, if every access was inside its array. -/
def handleFrame (s : HandlerState) (msg : MavlinkMessage) : Option Statics :=
  (runFrom handlerStep s (msg.octets.map .byte)).map HandlerState.statics

/-- The message and its truncation have the same effect: on the statics, on the commands for
core 0, and on the replies. -/
def SameHandling (s : HandlerState) (msg : MavlinkMessage) (k : U8) : Prop :=
  handleFrame s (truncate msg k) = handleFrame s msg

/-- A file transfer that loses its meaning: the full one overruns its buffer, or the truncated
one is too short to have a header. -/
def LosesMeaning (msg : MavlinkMessage) (k : U8) : Prop :=
  fromOurselves msg = false ∧ msg.msgid = 110 ∧ k.toNat < msg.len.toNat
    ∧ (msg.len = 255
      ∨ forAnotherSystem (msg.received.payload.getU8 1) = false ∧ 15 ≤ msg.len.toNat
        ∧ k.toNat < 15)

instance (msg : MavlinkMessage) (k : U8) : Decidable (LosesMeaning msg k) :=
  inferInstanceAs (Decidable (_ ∧ _))

/-! ## What the parser hands over -/

variable {msg : MavlinkMessage} {k : U8}

theorem Truncation.upTo_eq (h : Truncation msg k) :
    msg.payload.upTo k.toNat = msg.payload.upTo msg.len.toNat := by
  funext i
  unfold Payload.upTo
  by_cases hk : i.val < k.toNat
  · have hle := h.le
    rw [if_pos hk, if_pos (by omega)]
  by_cases hlen : i.val < msg.len.toNat
  · have hzero := h.zeros i.val (Nat.le_of_not_lt hk) hlen
    rw [Payload.get, dif_pos i.isLt] at hzero
    rw [if_neg hk, if_pos hlen]
    exact hzero.symm
  · rw [if_neg hk, if_neg hlen]

theorem truncate_received (h : Truncation msg k) : (truncate msg k).received
      = { msg.received with len := k, checksum := (truncate msg k).checksum } := by
  have hpayload := h.upTo_eq
  show { truncate msg k with payload := msg.payload.upTo k.toNat } = _
  rw [hpayload]
  rfl

theorem Truncation.received_get (h : Truncation msg k) {i : Nat}
    (hi : k.toNat ≤ i) : msg.received.payload.get i = 0 := by
  show (msg.payload.upTo msg.len.toNat).get i = 0
  rw [← h.upTo_eq]
  unfold Payload.get Payload.upTo
  split
  · exact if_neg (Nat.not_lt.mpr hi)
  · rfl

variable {s : HandlerState}

theorem handleFrame_eq (hidle : s.parser.Idle)
    (hwire : msg.OnWire) (hchecksum : msg.checksum = msg.crc) :
    handleFrame s msg = (processMavlinkMessage msg.received s.statics).map Prod.snd := by
  unfold handleFrame
  rw [runFrom_octets hidle hwire hchecksum, Option.map_map]
  rfl

theorem truncate_handleFrame (hidle : s.parser.Idle)
    (hwire : msg.OnWire) (h : Truncation msg k) : handleFrame s (truncate msg k)
      = (processMavlinkMessage
          { msg.received with len := k, checksum := (truncate msg k).checksum } s.statics).map
          Prod.snd := by
  have hwire' : (truncate msg k).OnWire := ⟨hwire.magic, hwire.msgid⟩
  rw [handleFrame_eq hidle hwire' rfl, truncate_received h]

/-! ## The handlers that do not see the length -/

section

variable {msg : MavlinkMessage} {k : U8} {checksum : U16}

theorem readExtension_truncated (hle : k.toNat ≤ msg.len.toNat)
    (hzero : ∀ i, k.toNat ≤ i → msg.payload.get i = 0) {offset : Nat}
    (hoffset : offset < mavlinkMaxPayloadLen) :
    readExtension { msg with len := k, checksum := checksum } offset
      = readExtension msg offset := by
  rw [readExtension_eq _ hoffset, readExtension_eq _ hoffset]
  unfold MavlinkMessage.extension
  by_cases hk : offset < k.toNat
  · rw [if_pos hk, if_pos (show offset < msg.len.toNat by omega)]
  · have hget : msg.payload.getU8 offset = 0 := hzero offset (Nat.le_of_not_lt hk)
    rw [if_neg hk, hget, ite_self]

theorem processMavlinkMessage_truncated (hle : k.toNat ≤ msg.len.toNat)
    (hzero : ∀ i, k.toNat ≤ i → msg.payload.get i = 0)
    (hother : fromOurselves msg = true ∨ msg.msgid ≠ 110) :
    processMavlinkMessage { msg with len := k, checksum := checksum }
      = processMavlinkMessage msg := by
  have hextension : ∀ offset, offset < mavlinkMaxPayloadLen →
      readExtension { msg with len := k, checksum := checksum } offset
        = readExtension msg offset :=
    fun offset hoffset => readExtension_truncated hle hzero hoffset
  unfold processMavlinkMessage
  by_cases hself : fromOurselves msg = true
  · have hself' : fromOurselves { msg with len := k, checksum := checksum } = true := hself
    rw [if_pos hself', if_pos hself]
  have hself' : ¬ fromOurselves { msg with len := k, checksum := checksum } = true := hself
  rw [if_neg hself', if_neg hself]
  dsimp only
  split
  · rfl
  · rfl
  · rfl
  · rfl
  · rfl
  · rfl
  · -- the type of the mission is an extension
    unfold handleMissionRequestList missionRequestListDecode
    rw [hextension 2 (by decide)]
  · unfold handleMissionCount missionCountDecode
    rw [hextension 4 (by decide)]
    rfl
  · unfold handleMissionItemInt missionItemIntDecode
    rw [hextension 37 (by decide)]
    rfl
  · unfold handleMissionRequestInt missionRequestIntDecode
    rw [hextension 4 (by decide)]
  · rfl
  · unfold handleMissionClearAll missionClearAllDecode
    rw [hextension 2 (by decide)]
    rfl
  · rfl
  · next hid => exact absurd (BitVec.eq_of_toNat_eq hid) (hother.resolve_left hself)
  · rfl

/-! ## File transfers -/

theorem fileTransferProtocolDecode_eq (hlen : msg.len ≠ 255) :
    ∃ m, fileTransferProtocolDecode msg = some m ∧ m.targetSystem = msg.payload.getU8 1
      ∧ m.payloadLen.toNat = msg.len.toNat - 3
      ∧ ∀ i, i < msg.len.toNat - 3 → m.payload.read i = CArray.read msg.payload (3 + i) := by
  obtain ⟨m, hm⟩ := Option.isSome_iff_exists.mp
    ((fileTransferProtocolDecode_isSome_iff msg).mpr hlen)
  refine ⟨m, hm, ?_⟩
  simp (disch := decide) only [fileTransferProtocolDecode, readU8_eq, Option.bind_eq_bind,
    Option.bind_some] at hm
  obtain ⟨payload, hcopy, hm⟩ := Option.bind_eq_some_iff.mp hm
  cases hm
  refine ⟨rfl, ftpPayloadLen_toNat msg, ?_⟩
  intro i hi
  rw [← ftpPayloadLen_toNat] at hi
  exact CArray.read_memcpy hcopy (Nat.zero_le i) (by omega)

theorem ftpResponse_congr {payload payload' : FtpPayload}
    (h : ∀ i, i < 4 → payload.read i = payload'.read i) :
    ftpResponse payload = ftpResponse payload' := by
  unfold ftpResponse
  rw [h 0 (by decide), h 1 (by decide), h 2 (by decide), h 3 (by decide)]

theorem handleFileTransferProtocol_ignored (hlen : msg.len ≠ 255)
    (h : forAnotherSystem (msg.payload.getU8 1) = true ∨ msg.len.toNat < 15) :
    handleFileTransferProtocol msg = pure () := by
  obtain ⟨m, hm, htarget, hpayload, -⟩ := fileTransferProtocolDecode_eq hlen
  unfold handleFileTransferProtocol
  rw [access_some_bind hm, htarget]
  cases h with
  | inl hother => rw [if_pos hother]
  | inr hshort => rw [if_pos (show m.payloadLen.toNat < 12 by omega), ite_self]

theorem handleFileTransferProtocol_answered (hlen : msg.len ≠ 255)
    (htarget : forAnotherSystem (msg.payload.getU8 1) = false) (hheader : 15 ≤ msg.len.toNat) :
    ∃ payload resp,
      (∀ i, i < 4 → CArray.read payload i = CArray.read msg.payload (3 + i))
        ∧ ftpResponse payload = some resp
        ∧ handleFileTransferProtocol msg
          = sendMessage (fileTransferProtocolEncode 0 msg.sysid msg.compid resp 13) := by
  obtain ⟨m, hm, hsystem, hpayload, hread⟩ := fileTransferProtocolDecode_eq hlen
  obtain ⟨resp, hresp⟩ := ftpResponse_eq m.payload
  refine ⟨m.payload, resp, fun i hi => hread i (by omega), hresp, ?_⟩
  unfold handleFileTransferProtocol
  rw [access_some_bind hm, hsystem, if_neg (by rw [htarget]; decide),
    if_neg (show ¬ m.payloadLen.toNat < 12 by omega), access_some_bind hresp]

theorem handleFileTransferProtocol_truncated (hle : k.toNat ≤ msg.len.toNat)
    (hlen : msg.len.toNat < 255)
    (h : forAnotherSystem (msg.payload.getU8 1) = true ∨ msg.len.toNat < 15 ∨ 15 ≤ k.toNat) :
    handleFileTransferProtocol { msg with len := k, checksum := checksum }
      = handleFileTransferProtocol msg := by
  have hfull : msg.len ≠ 255 := fun heq => absurd hlen (heq ▸ by decide)
  have hcut : k ≠ 255 := fun heq => absurd (Nat.lt_of_le_of_lt hle hlen) (heq ▸ by decide)
  by_cases hignored : forAnotherSystem (msg.payload.getU8 1) = true ∨ msg.len.toNat < 15
  · rw [handleFileTransferProtocol_ignored hfull hignored]
    exact handleFileTransferProtocol_ignored hcut
      (hignored.imp_right fun hshort => Nat.lt_of_le_of_lt hle hshort)
  rw [not_or] at hignored
  have htarget := Bool.eq_false_iff.mpr hignored.1
  have hheader : 15 ≤ k.toNat := (h.resolve_left hignored.1).resolve_left hignored.2
  obtain ⟨payload, resp, hread, hresp, hrun⟩ :=
    handleFileTransferProtocol_answered hfull htarget (by omega)
  obtain ⟨payload', resp', hread', hresp', hrun'⟩ :=
    @handleFileTransferProtocol_answered { msg with len := k, checksum := checksum } hcut htarget
      hheader
  have hsame : resp' = resp := by
    rw [ftpResponse_congr fun i hi => (hread' i hi).trans (hread i hi).symm, hresp] at hresp'
    exact (Option.some.inj hresp').symm
  rw [hrun, hrun', hsame]

theorem handleFileTransferProtocol_takes_number (hlen : msg.len ≠ 255)
    (htarget : forAnotherSystem (msg.payload.getU8 1) = false) (hheader : 15 ≤ msg.len.toNat)
    (s : Statics) :
    ∃ t, handleFileTransferProtocol msg s = some ((), t)
      ∧ t.link.mavlinkSeq = s.link.mavlinkSeq + 1 := by
  obtain ⟨payload, resp, -, -, hrun⟩ := handleFileTransferProtocol_answered hlen htarget hheader
  have hreply := fileTransferProtocolEncode_eq 0 msg.sysid msg.compid resp
    (show (13 : U8).toNat ≤ 251 by decide) s.link.mavlinkSeq
  exact ⟨_, (congrFun hrun s).trans (sendMessage_eq hreply), emit_mavlinkSeq _ _ _⟩

theorem handleFileTransferProtocol_loses (hlt : k.toNat < msg.len.toNat)
    (h : msg.len = 255
      ∨ forAnotherSystem (msg.payload.getU8 1) = false ∧ 15 ≤ msg.len.toNat ∧ k.toNat < 15)
    (s : Statics) :
    (handleFileTransferProtocol { msg with len := k, checksum := checksum } s).map Prod.snd
      ≠ (handleFileTransferProtocol msg s).map Prod.snd := by
  have hcut : k ≠ 255 := by
    rintro rfl
    exact absurd hlt (Nat.not_lt.mpr (Nat.le_of_lt_succ msg.len.isLt))
  intro hsame
  by_cases hfull : msg.len = 255
  · -- the full one overruns its buffer, the truncated one does not
    rw [handleFileTransferProtocol_overruns hfull, Option.map_none, Option.map_eq_none_iff] at hsame
    by_cases hanswered : forAnotherSystem (msg.payload.getU8 1) = false ∧ 15 ≤ k.toNat
    · obtain ⟨t, ht, -⟩ := @handleFileTransferProtocol_takes_number
        { msg with len := k, checksum := checksum } hcut hanswered.1 hanswered.2 s
      rw [ht] at hsame
      cases hsame
    have hignored : forAnotherSystem (msg.payload.getU8 1) = true ∨ k.toNat < 15 := by
      rw [not_and_or, Bool.not_eq_false, Nat.not_le] at hanswered
      exact hanswered
    rw [@handleFileTransferProtocol_ignored { msg with len := k, checksum := checksum } hcut
      hignored] at hsame
    cases hsame
  -- the full one is answered, the truncated one is not
  obtain ⟨htarget, hheader, hshort⟩ := h.resolve_left hfull
  obtain ⟨t, ht, hseq⟩ := handleFileTransferProtocol_takes_number hfull htarget hheader s
  rw [@handleFileTransferProtocol_ignored { msg with len := k, checksum := checksum } hcut
    (Or.inr hshort), ht] at hsame
  cases hsame
  have hne : s.link.mavlinkSeq ≠ s.link.mavlinkSeq + 1 := by bv_omega
  exact hne hseq

theorem processMavlinkMessage_fileTransfer (hother : fromOurselves msg = false)
    (hid : msg.msgid = 110) : processMavlinkMessage msg = handleFileTransferProtocol msg := by
  unfold processMavlinkMessage
  rw [if_neg (by rw [hother]; decide), hid]
  rfl

end

/-! ## All messages -/

theorem same_of_keeps (hidle : s.parser.Idle)
    (hwire : msg.OnWire) (hchecksum : msg.checksum = msg.crc) (h : Truncation msg k)
    (hkeeps : ¬ LosesMeaning msg k) : SameHandling s msg k := by
  unfold SameHandling
  rw [truncate_handleFrame hidle hwire h, handleFrame_eq hidle hwire hchecksum]
  have hzero : ∀ i, k.toNat ≤ i → msg.received.payload.get i = 0 := fun i hi => h.received_get hi
  by_cases hother : fromOurselves msg = true ∨ msg.msgid ≠ 110
  · rw [@processMavlinkMessage_truncated msg.received k _ h.le hzero hother]
  rw [not_or, Bool.not_eq_true, not_not] at hother
  obtain ⟨hself, hid⟩ := hother
  rw [@processMavlinkMessage_fileTransfer msg.received hself hid,
    @processMavlinkMessage_fileTransfer { msg.received with len := k, checksum := _ } hself hid]
  by_cases hall : k = msg.len
  · -- nothing was cut off
    subst hall
    rfl
  have hne : k.toNat ≠ msg.len.toNat := fun heq => hall (BitVec.eq_of_toNat_eq heq)
  have hlt : k.toNat < msg.len.toNat := Nat.lt_of_le_of_ne h.le hne
  have hlen : msg.len.toNat < 255 := by
    have hmax := msg.len.isLt
    have hfull : msg.len.toNat ≠ 255 := fun heq =>
      hkeeps ⟨hself, hid, hlt, Or.inl (BitVec.eq_of_toNat_eq heq)⟩
    omega
  have hheader : forAnotherSystem (msg.received.payload.getU8 1) = true
      ∨ msg.len.toNat < 15 ∨ 15 ≤ k.toNat := by
    by_contra hnot
    rw [not_or, not_or, Bool.not_eq_true, Nat.not_lt, Nat.not_le] at hnot
    exact hkeeps ⟨hself, hid, hlt, Or.inr hnot⟩
  rw [@handleFileTransferProtocol_truncated msg.received k _ h.le hlen hheader]

theorem differs_of_loses (hidle : s.parser.Idle)
    (hwire : msg.OnWire) (hchecksum : msg.checksum = msg.crc) (h : Truncation msg k)
    (hloses : LosesMeaning msg k) : ¬ SameHandling s msg k := by
  obtain ⟨hself, hid, hlt, hcase⟩ := hloses
  unfold SameHandling
  rw [truncate_handleFrame hidle hwire h, handleFrame_eq hidle hwire hchecksum,
    @processMavlinkMessage_fileTransfer msg.received hself hid,
    @processMavlinkMessage_fileTransfer { msg.received with len := k, checksum := _ } hself hid]
  exact @handleFileTransferProtocol_loses msg.received k _ hlt hcase s.statics

/-- For every state and every message of the wire, with any of its trailing zeros removed: the
statics, the commands for core 0 and the replies come out the same if and only if it is no file
transfer that loses its meaning. -/
theorem zero_truncation_iff {s : HandlerState} (hidle : s.parser.Idle) {msg : MavlinkMessage}
    (hwire : msg.OnWire) (hchecksum : msg.checksum = msg.crc) {k : U8} (h : Truncation msg k) :
    SameHandling s msg k ↔ ¬ LosesMeaning msg k := by
  constructor
  · intro hsame hloses
    exact differs_of_loses hidle hwire hchecksum h hloses hsame
  · intro hkeeps
    exact same_of_keeps hidle hwire hchecksum h hkeeps

/-- The confirmation of a command is zero, and not sent. -/
theorem zero_truncation_iff_disarm :
    SameHandling (handlerInit (fun _ => ⟨0, false, true⟩) fun _ => 0) disarmFrame 32 := by
  have hzero : Truncation disarmFrame 32 := ⟨by decide, by decide, by decide +kernel⟩
  apply (zero_truncation_iff mavlinkParserInit_idle disarmFrame_valid.onWire
    disarmFrame_valid.checksum hzero).mpr
  decide

/-- A file transfer of a ground station that resets the sessions: behind the opcode there is
nothing but zeros. -/
def resetTransfer : MavlinkMessage :=
  mavlinkFinalize 0
    { MavlinkMessage.zero with
      sysid := 255
      compid := 190
      msgid := 110
      len := 254
      payload := ((blank.putU8 1 1).putU8 2 1).putU8 6 2 }

/-- With 7 octets it is not answered. -/
theorem truncated_transfer_is_ignored :
    ¬ ∀ (s : HandlerState) (msg : MavlinkMessage) (k : U8), s.parser.Idle → msg.OnWire →
      msg.checksum = msg.crc → Truncation msg k → SameHandling s msg k := by
  intro hsame
  have hwire : resetTransfer.OnWire := ⟨rfl, by decide⟩
  have hchecksum : resetTransfer.checksum = resetTransfer.crc := mavlinkFinalize_checksum _ _
  have hzero : Truncation resetTransfer 7 := ⟨by decide, by decide, by decide +kernel⟩
  have hloses : LosesMeaning resetTransfer 7 := by decide
  have hidle : (handlerInit (fun _ => ⟨0, false, true⟩) fun _ => 0).parser.Idle :=
    mavlinkParserInit_idle
  exact differs_of_loses hidle hwire hchecksum hzero hloses
    (hsame _ resetTransfer 7 hidle hwire hchecksum hzero)

end MmIotEsp32.HeliFc.MavlinkMsg.Handler
