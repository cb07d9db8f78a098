/-
  MmIotEsp32.HeliFc.Comm.Mavlink.Datagrams

  The datagrams of the ground station (`process_incoming_mavlink` of `comm/mavlink_handler.c`,
  `gcs_bridge_recv` of `comm/gcs_bridge.c`).
-/
import MmIotEsp32.HeliFc.Comm.Mavlink.MavlinkRoundTrip

namespace MmIotEsp32.HeliFc.MavlinkMsg

open Lib

/-! ## Receiving -/

def gcsBridgeMaxPktLen : Nat := 300

/-- `gcs_bridge_recv`: what does not fit in the buffer is lost. -/
def gcsBridgeRecv (datagram : List U8) : List U8 := datagram.take gcsBridgeMaxPktLen

/-- `process_incoming_mavlink`, when a datagram has come: the parser, and the messages that are
handed to `process_mavlink_message`. -/
def processIncomingMavlink (parser : MavlinkParser) (datagram : List U8) :
    MavlinkParser × List MavlinkMessage :=
  drain mavlinkParseByte parser (gcsBridgeRecv datagram)

/-- One datagram after the other: the parser, and what each of them gave. -/
def processAll (parser : MavlinkParser) : List (List U8) → MavlinkParser × List (List MavlinkMessage)
  | [] => (parser, [])
  | datagram :: datagrams =>
    let first := processIncomingMavlink parser datagram
    let rest := processAll first.1 datagrams
    (rest.1, first.2 :: rest.2)

theorem processAll_append (parser : MavlinkParser) (before datagrams : List (List U8)) :
    processAll parser (before ++ datagrams)
      = ((processAll (processAll parser before).1 datagrams).1,
          (processAll parser before).2
            ++ (processAll (processAll parser before).1 datagrams).2) := by
  induction before generalizing parser with
  | nil => rfl
  | cons datagram before ih =>
    rw [List.cons_append, processAll, ih]
    rfl

theorem length_processAll (parser : MavlinkParser) (datagrams : List (List U8)) :
    (processAll parser datagrams).2.length = datagrams.length := by
  induction datagrams generalizing parser with
  | nil => rfl
  | cons datagram datagrams ih =>
    show (processAll _ datagrams).2.length + 1 = _
    rw [ih]
    rfl

/-! ## Datagrams of whole frames -/

/-- The message is what its octets say, and its checksum is right. -/
structure MavlinkMessage.Valid (msg : MavlinkMessage) : Prop where
  onWire : msg.OnWire
  checksum : msg.checksum = msg.crc
  tight : msg.payload.Tight msg.len.toNat

/-- The frames of the messages, one behind the other. -/
def datagramOf (frames : List MavlinkMessage) : List U8 := frames.flatMap MavlinkMessage.octets

theorem datagramOf_reads {frames : List MavlinkMessage} (hvalid : ∀ msg ∈ frames, msg.Valid) :
    Reads mavlinkParseByte MavlinkParser.Idle (datagramOf frames) frames := by
  have hparts : Reads mavlinkParseByte MavlinkParser.Idle (datagramOf frames)
      (frames.flatMap fun msg => [msg]) := by
    apply Reads.flatMap
    intro msg hmsg
    obtain ⟨honWire, hchecksum, htight⟩ := hvalid msg hmsg
    -- what stands behind the length is not sent, so a tight message comes back as it was
    have hreads := octets_reads honWire hchecksum
    rw [(received_eq_iff msg).mpr htight] at hreads
    exact hreads
  rw [List.flatMap_singleton'] at hparts
  exact hparts

theorem processIncomingMavlink_frames {parser : MavlinkParser} (hidle : parser.Idle)
    {frames : List MavlinkMessage} (hvalid : ∀ msg ∈ frames, msg.Valid)
    (hfits : (datagramOf frames).length ≤ gcsBridgeMaxPktLen) :
    (processIncomingMavlink parser (datagramOf frames)).1.Idle
      ∧ (processIncomingMavlink parser (datagramOf frames)).2 = frames := by
  unfold processIncomingMavlink gcsBridgeRecv
  -- the loop stops at each message, which changes nothing of what is found
  rw [drain_eq_feed, List.take_of_length_le hfits]
  exact datagramOf_reads hvalid parser hidle

/-! ## Sequences of datagrams -/

/-- In every sequence of datagrams: one of whole frames that fits the buffer and finds the
parser idle has each frame handed over once, in order, whatever came before and comes after,
and it leaves the parser idle. -/
theorem frames_handed_once {parser : MavlinkParser} (before after : List (List U8))
    {frames : List MavlinkMessage} (hvalid : ∀ msg ∈ frames, msg.Valid)
    (hfits : (datagramOf frames).length ≤ gcsBridgeMaxPktLen)
    (hidle : (processAll parser before).1.Idle) :
    (processAll parser (before ++ datagramOf frames :: after)).2[before.length]? = some frames
      ∧ (processAll parser (before ++ [datagramOf frames])).1.Idle := by
  obtain ⟨hagain, hhanded⟩ := processIncomingMavlink_frames hidle hvalid hfits
  constructor
  -- what came before has one entry for each datagram
  · rw [processAll_append, List.getElem?_append_right (by rw [length_processAll])]
    rw [length_processAll, Nat.sub_self, processAll]
    exact congrArg some hhanded
  · rw [processAll_append]
    exact hagain

/-- A `COMMAND_LONG` of a ground station that disarms: all its parameters are zero. -/
def disarmFrame : MavlinkMessage :=
  mavlinkFinalize 0
    { MavlinkMessage.zero with
      sysid := 255
      compid := 190
      msgid := 76
      len := 33
      payload := ((blank.putU16 28 400).putU8 30 1).putU8 31 1 }

theorem mavlinkFinalize_checksum (seq : U8) (msg : MavlinkMessage) :
    (mavlinkFinalize seq msg).checksum = (mavlinkFinalize seq msg).crc := rfl

theorem disarmFrame_valid : disarmFrame.Valid := by
  refine ⟨⟨rfl, by decide⟩, mavlinkFinalize_checksum _ _, ?_⟩
  apply Payload.Tight.putU8 _ _ (by decide)
  apply Payload.Tight.putU8 _ _ (by decide)
  exact (Payload.tight_zero _).putU16 _ (by decide)

/-- Noise, the frame, and then a datagram that is cut off. -/
theorem frames_handed_once_disarm :
    (processAll mavlinkParserInit ([[1, 2]] ++ datagramOf [disarmFrame] :: [[0xFD]])).2[1]?
        = some [disarmFrame]
      ∧ (processAll mavlinkParserInit ([[1, 2]] ++ [datagramOf [disarmFrame]])).1.Idle := by
  apply frames_handed_once [[1, 2]] [[0xFD]]
  · intro msg hmsg
    obtain rfl := List.mem_singleton.mp hmsg
    exact disarmFrame_valid
  · decide +kernel
  · show (processAll mavlinkParserInit [[1, 2]]).1.state = .idle
    simp only [processAll, processIncomingMavlink, drain_eq_feed]
    decide +kernel

/-- A datagram that is an STX and nothing more: the frame behind it is not handed over. -/
theorem truncated_frame_swallows :
    ¬ ∀ (before : List (List U8)) (frames : List MavlinkMessage),
      (∀ msg ∈ frames, msg.Valid) →
      (processAll mavlinkParserInit (before ++ [datagramOf frames])).2[before.length]?
        = some frames := by
  intro h
  have hhanded : (processAll mavlinkParserInit
      ([[0xFD]] ++ [datagramOf [disarmFrame]])).2[1]? = some [disarmFrame] := by
    apply h [[0xFD]] [disarmFrame]
    intro msg hmsg
    obtain rfl := List.mem_singleton.mp hmsg
    exact disarmFrame_valid
  -- the STX makes the parser take the next one, that of the frame, for a length
  have hnone : ((processAll mavlinkParserInit
      ([[0xFD]] ++ [datagramOf [disarmFrame]])).2[1]?).map List.length = some 0 := by
    simp only [List.cons_append, List.nil_append, processAll, processIncomingMavlink, drain_eq_feed]
    decide +kernel
  rw [hhanded] at hnone
  cases hnone

end MmIotEsp32.HeliFc.MavlinkMsg
