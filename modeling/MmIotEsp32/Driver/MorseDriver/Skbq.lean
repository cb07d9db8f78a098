/-
  MmIotEsp32.Driver.MorseDriver.Skbq

  The transmit queues of the driver (`driver/morse_driver/skbq.c`).
-/
import MmIotEsp32.Common.Mmpkt

namespace MmIotEsp32.Driver

/-! ## Packets and queues -/

/-- `struct morse_buff_skb_header`, with the id of its `tx_info`. -/
structure MorseBuffSkbHeader where
  sync : U8
  channel : U8
  len : U16
  offset : U8
  pktId : U32
  deriving DecidableEq

/-- `sizeof(struct morse_buff_skb_header)`. -/
def sizeofMorseBuffSkbHeader : U32 := 40

/-- A packet to transmit: its address, its buffer, the header at the start of its data
once there is one, and the fields of `struct mmdrv_tx_metadata` that the driver writes. -/
structure TxPkt where
  addr : Nat
  dataStart : U32
  dataLength : U32
  spaceAtStart : U32
  spaceAtEnd : U32
  hdr : MorseBuffSkbHeader
  timeoutAbsMs : U32
  tailPadding : U8
  statusFlags : U8
  attempts : U8
  deriving DecidableEq

/-- What happened to a packet that left the queue. -/
inductive TxPktGone where
  /-- `mmpkt_release` -/
  | released (pkt : TxPkt)
  /-- `mmdrv_host_process_tx_status` -/
  | reported (pkt : TxPkt)
  deriving DecidableEq

def TxPktGone.addr : TxPktGone → Nat
  | .released pkt => pkt.addr
  | .reported pkt => pkt.addr

/-- The queues that chip interfaces have. -/
inductive SkbqKind where
  | data (aci : Fin 4)
  | mgmt
  | beacon
  | cmd
  deriving DecidableEq

/-- The assertions of this file. -/
inductive SkbqAssertion where
  /-- `mmpkt_prepend`, `mmpkt_append` -/
  | noSpace
  /-- `mmpkt_list_remove` -/
  | notOnList
  /-- `tx_mmpkt_is_ps_filtered` -/
  | psFiltered
  /-- the end of `insert_pending_mmpkt_to_skbq` -/
  | noInsertionPoint
  deriving DecidableEq

/-- `struct morse_skbq`, with the packets in the hands of its caller and the two logs. -/
structure MorseSkbq where
  kind : SkbqKind
  pktSeq : U32
  skbqSize : U32
  skbq : List TxPkt
  pending : List TxPkt
  taken : List TxPkt
  given : List Nat
  gone : List TxPktGone
  deriving DecidableEq

def morseSkbqInit (kind : SkbqKind) : MorseSkbq := ⟨kind, 0, 0, [], [], [], [], []⟩

def morseSkbqSize : U32 := 4 * 128 * 1024

def txStatusLifetimeMs : U32 := 15 * 1000

/-- `mq->flags & MORSE_CHIP_IF_FLAGS_COMMAND`; the other queues have
`MORSE_CHIP_IF_FLAGS_DATA`. -/
def MorseSkbq.isCommand (mq : MorseSkbq) : Bool := mq.kind == .cmd

def morseSkbqSpace (mq : MorseSkbq) : U32 := morseSkbqSize - mq.skbqSize

def morseSkbChanData : U8 := 0x0
def morseSkbChanDataNoack : U8 := 0x2
def morseSkbChanBeacon : U8 := 0x3
def morseSkbChanMgmt : U8 := 0x4
def morseSkbChanLoopback : U8 := 0xee
def morseSkbChanCommand : U8 := 0xfe

/-! ## Transmit statuses -/

/-- `struct morse_skb_tx_status`, with the counts of its rates. -/
structure MorseSkbTxStatus where
  flags : U32
  pktId : U32
  tid : U8
  channel : U8
  rateCounts : List U8
  deriving DecidableEq

def morseTxStatusFlagsNoAck : U32 := 0x1
def morseTxStatusFlagsPsFiltered : U32 := 0x8000
def morseTxStatusPageInvalid : U32 := 0x20000
def morseTxStatusDutyCycleCantSend : U32 := 0x80000
def morseTxStatusWasAggregated : U32 := 0x800000

def MorseSkbTxStatus.has (sts : MorseSkbTxStatus) (flag : U32) : Bool := sts.flags &&& flag != 0

def dot11TidToAc (tid : U8) : Fin 4 :=
  if tid = 1 || tid = 2 then 1
  else if tid = 4 || tid = 5 then 2
  else if tid = 6 || tid = 7 then 3
  else 0

def morseSkbqMatchTxStatusToSkbq (sts : MorseSkbTxStatus) : Option SkbqKind :=
  if sts.channel = morseSkbChanData || sts.channel = morseSkbChanDataNoack
      || sts.channel = morseSkbChanLoopback then some (.data (dot11TidToAc sts.tid))
  else if sts.channel = morseSkbChanMgmt then some .mgmt
  else if sts.channel = morseSkbChanBeacon then some .beacon
  else none

/-- The status flags of a packet that is reported. -/
def txStatusFlags (sts : MorseSkbTxStatus) : U8 :=
  (if sts.has morseTxStatusFlagsNoAck then 0x10 else 0)
    ||| (if sts.has morseTxStatusFlagsPsFiltered then 0x20 else 0)
    ||| (if sts.has morseTxStatusDutyCycleCantSend then 0x40 else 0)
    ||| (if sts.has morseTxStatusWasAggregated then 0x80 else 0)

/-- The attempts of a packet that is reported: the counts up to the first zero. -/
def txStatusAttempts (sts : MorseSkbTxStatus) : U8 :=
  (sts.rateCounts.takeWhile (· != 0)).foldl (· + ·) 0

/-! ## Packets that are done -/

/-- `mmpkt_list_remove`, with its assertion. -/
def skbListRemove (list : List TxPkt) (mmpkt : TxPkt) : Except SkbqAssertion (List TxPkt) :=
  match mmpktListRemove TxPkt.addr list mmpkt.addr with
  | none => .error .notOnList
  | some list => .ok list

/-- What `__skbq_data_tx_finish` does with a packet behind `mmpkt_list_remove`. -/
def skbqDataTxGone (mmpkt : TxPkt) (txSts : Option MorseSkbTxStatus) : TxPktGone :=
  match txSts with
  | none => .released mmpkt
  | some sts =>
    if sts.channel = morseSkbChanBeacon then .released mmpkt
    else .reported { mmpkt with attempts := txStatusAttempts sts, statusFlags := txStatusFlags sts }

/-- `__skbq_data_tx_finish` with the list `mq->pending`. -/
def skbqDataTxFinish (mq : MorseSkbq) (mmpkt : TxPkt) (txSts : Option MorseSkbTxStatus) :
    Except SkbqAssertion MorseSkbq :=
  (skbListRemove mq.pending mmpkt).map fun pending =>
    { mq with pending := pending, gone := mq.gone ++ [skbqDataTxGone mmpkt txSts] }

def skbqCmdFinish (mq : MorseSkbq) (mmpkt : TxPkt) : Except SkbqAssertion MorseSkbq :=
  if !mq.pending.isEmpty then
    (skbListRemove mq.pending mmpkt).map fun pending =>
      { mq with pending := pending, gone := mq.gone ++ [.released mmpkt] }
  else if !mq.skbq.isEmpty then
    (skbListRemove mq.skbq mmpkt).map fun skbq =>
      { mq with
        skbq := skbq
        skbqSize :=
          if mmpkt.dataLength ≤ mq.skbqSize then mq.skbqSize - mmpkt.dataLength else mq.skbqSize
        gone := mq.gone ++ [.released mmpkt] }
  else .ok mq

def morseSkbqTxFinish (mq : MorseSkbq) (mmpkt : TxPkt) (txSts : Option MorseSkbTxStatus) :
    Except SkbqAssertion MorseSkbq :=
  if mq.isCommand then skbqCmdFinish mq mmpkt else skbqDataTxFinish mq mmpkt txSts

/-! ## Sending -/

/-- `mmpkt_prepend`. -/
def txPktPrepend (pkt : TxPkt) (len : U32) : Except SkbqAssertion TxPkt :=
  if len ≤ pkt.spaceAtStart then
    .ok { pkt with
      dataStart := pkt.dataStart - len
      dataLength := pkt.dataLength + len
      spaceAtStart := pkt.spaceAtStart - len }
  else .error .noSpace

/-- `mmpkt_append_data`. -/
def txPktAppend (pkt : TxPkt) (len : U32) : Except SkbqAssertion TxPkt :=
  if len ≤ pkt.spaceAtEnd then
    .ok { pkt with dataLength := pkt.dataLength + len, spaceAtEnd := pkt.spaceAtEnd - len }
  else .error .noSpace

/-- The two halves of `morse_skbq_ensure_word_alignment`: the start and the end of the data
are moved to word boundaries. -/
def morseSkbqAlignStart (pkt : TxPkt) : Except SkbqAssertion TxPkt :=
  let offset := pkt.dataStart &&& 0x03
  if offset != 0 then txPktPrepend pkt offset else .ok pkt

def morseSkbqAlignEnd (pkt : TxPkt) : Except SkbqAssertion TxPkt :=
  let tailPad := fastRoundUp pkt.dataLength 4 - pkt.dataLength
  if tailPad != 0 then
    (txPktAppend pkt tailPad).map fun pkt => { pkt with tailPadding := tailPad.setWidth 8 }
  else .ok pkt

def morseSkbqEnsureWordAlignment (pkt : TxPkt) : Except SkbqAssertion TxPkt :=
  (morseSkbqAlignStart pkt).bind morseSkbqAlignEnd

/-- The packet as `morse_skbq_mmpkt_tx` hands it to `morse_skbq_tx`: aligned, with its
header. -/
def morseSkbqFrame (pkt : TxPkt) (channel : U8) (now : U32) : Except SkbqAssertion TxPkt :=
  (txPktPrepend { pkt with timeoutAbsMs := now + txStatusLifetimeMs }
    sizeofMorseBuffSkbHeader).bind fun unaligned =>
  (morseSkbqEnsureWordAlignment unaligned).map fun aligned =>
    { aligned with
      hdr :=
        { sync := 0xaa
          channel := channel
          len := pkt.dataLength.setWidth 16
          offset := (unaligned.dataStart - aligned.dataStart).setWidth 8
          pktId := 0 } }

/-- `__morse_skbq_put` returns `-ENOMEM`. -/
def morseSkbqFull (mq : MorseSkbq) (mmpkt : TxPkt) : Bool :=
  decide (morseSkbqSpace mq < mmpkt.dataLength)

/-- `morse_skbq_tx`: the queue, the packet with its id, and whether it was put. -/
def morseSkbqTx (mq : MorseSkbq) (mmpkt : TxPkt) : MorseSkbq × TxPkt × Bool :=
  let numbered := { mmpkt with hdr := { mmpkt.hdr with pktId := mq.pktSeq } }
  let put := !morseSkbqFull mq mmpkt
  ({ mq with
      pktSeq := mq.pktSeq + 1
      given := mq.given ++ [mmpkt.addr]
      skbq := if put then mmpktListAppend mq.skbq numbered else mq.skbq
      skbqSize := if put then mq.skbqSize + mmpkt.dataLength else mq.skbqSize }, numbered, put)

def morseSkbqMmpktTx (mq : MorseSkbq) (mmpkt : TxPkt) (channel : U8) (now : U32) :
    Except SkbqAssertion MorseSkbq :=
  (morseSkbqFrame mmpkt channel now).bind fun framed =>
    match morseSkbqTx mq framed with
    | (mq, _, true) => .ok mq
    | (mq, framed, false) => morseSkbqTxFinish mq framed none

/-! ## To the chip -/

/-- The body of the loops of `morse_skbq_deq` and `morse_skbq_deq_num_items`: the head is
taken. -/
def skbqTakeHead (mq : MorseSkbq) : MorseSkbq :=
  match mq.skbq with
  | [] => mq
  | pfirst :: skbq =>
    { mq with
      skbq := skbq
      taken := mmpktListAppend mq.taken pfirst
      skbqSize := mq.skbqSize - pfirst.dataLength }

def morseSkbqDeqNumItems (mq : MorseSkbq) : Nat → MorseSkbq
  | 0 => mq
  | numItems + 1 => if mq.skbq.isEmpty then mq else morseSkbqDeqNumItems (skbqTakeHead mq) numItems

/-- The loop of `morse_skbq_deq` over the packets that were on the list. -/
def morseSkbqDeqLoop (mq : MorseSkbq) (size : U32) : List TxPkt → MorseSkbq
  | [] => mq
  | pfirst :: rest =>
    if size < pfirst.dataLength then mq
    else morseSkbqDeqLoop (skbqTakeHead mq) (size - pfirst.dataLength) rest

def morseSkbqDeq (mq : MorseSkbq) (size : U32) : MorseSkbq := morseSkbqDeqLoop mq size mq.skbq

/-- `morse_skbq_tx_complete` with the packets the caller has taken. -/
def morseSkbqTxComplete (mq : MorseSkbq) : MorseSkbq :=
  { mq with pending := mmpktListAppendList mq.pending mq.taken, taken := [] }

/-- `morse_skbq_tx_failed` with those of the packets taken that `failed` names. -/
def morseSkbqTxFailed (mq : MorseSkbq) (failed : List Nat) : MorseSkbq :=
  { mq with
    taken := mq.taken.filter fun p => !failed.contains p.addr
    gone := mq.gone ++ (mq.taken.filter fun p => failed.contains p.addr).map .released }

/-! ## Back from the chip -/

/-- The walk of `insert_pending_mmpkt_to_skbq`. -/
def insertPendingWalk (mq : MorseSkbq) (mmpkt : TxPkt) (insertionId : U32) :
    List TxPkt → Except SkbqAssertion MorseSkbq
  | [] => .error .noInsertionPoint
  | pfirst :: rest =>
    if insertionId ≤ pfirst.hdr.pktId then
      .ok { mq with skbq := mmpktListPrepend mq.skbq mmpkt }
    else insertPendingWalk mq mmpkt insertionId rest

def insertPendingMmpktToSkbq (mq : MorseSkbq) (mmpkt : TxPkt) (insertionId : U32) :
    Except SkbqAssertion MorseSkbq :=
  (skbListRemove mq.pending mmpkt).bind fun pending =>
    let back := { mq with pending := pending, skbqSize := mq.skbqSize + mmpkt.dataLength }
    match mq.skbq.getLast? with
    | none => .ok { back with skbq := mmpktListAppend mq.skbq mmpkt }
    | some tail =>
      if tail.hdr.pktId ≤ insertionId then
        .ok { back with skbq := mmpktListAppend mq.skbq mmpkt }
      else insertPendingWalk back mmpkt insertionId mq.skbq

def txMmpktIsPsFiltered (mq : MorseSkbq) (mmpkt : TxPkt) (txSts : MorseSkbTxStatus) :
    Except SkbqAssertion MorseSkbq :=
  if !(txSts.channel = morseSkbChanData || txSts.channel = morseSkbChanMgmt) then
    .error .psFiltered
  else if mq.isCommand then .error .psFiltered
  else insertPendingMmpktToSkbq mq mmpkt txSts.pktId

def morseSkbRemovePaddingAfterSentToChip (pkt : TxPkt) : TxPkt :=
  let len := sizeofMorseBuffSkbHeader + pkt.hdr.offset.setWidth 32
  let pkt :=
    if pkt.dataLength < len then pkt
    else { pkt with
      dataStart := pkt.dataStart + len
      dataLength := pkt.dataLength - len
      spaceAtStart := pkt.spaceAtStart + len }
  let pad := pkt.tailPadding.setWidth 32
  let pkt :=
    if pkt.dataLength < pad then pkt
    else { pkt with dataLength := pkt.dataLength - pad, spaceAtEnd := pkt.spaceAtEnd + pad }
  { pkt with tailPadding := 0 }

/-- `__skbq_get_pending_by_id`, over the packets that were on the list: older ones whose
time has passed are given up on the way. -/
def skbqGetPendingById (pktId now : U32) (mq : MorseSkbq) :
    List TxPkt → Except SkbqAssertion (MorseSkbq × Option TxPkt)
  | [] => .ok (mq, none)
  | pfirst :: rest =>
    if pfirst.hdr.pktId = pktId then .ok (mq, some pfirst)
    else if pfirst.hdr.pktId < pktId ∧ mmosalTimeHasPassed pfirst.timeoutAbsMs now then
      (skbqDataTxFinish mq pfirst none).bind fun mq => skbqGetPendingById pktId now mq rest
    else skbqGetPendingById pktId now mq rest

/-- The body of the loop of `morse_skbq_tx_status_process`, for the packet that is found. -/
def morseSkbqTxStatusFound (mq : MorseSkbq) (txMmpkt : TxPkt) (txSts : MorseSkbTxStatus) :
    Except SkbqAssertion MorseSkbq :=
  if txSts.has morseTxStatusPageInvalid then skbqDataTxFinish mq txMmpkt none
  else if txSts.has morseTxStatusFlagsPsFiltered then txMmpktIsPsFiltered mq txMmpkt txSts
  else morseSkbqTxFinish mq (morseSkbRemovePaddingAfterSentToChip txMmpkt) (some txSts)

/-- The body of the loop of `morse_skbq_tx_status_process`. -/
def morseSkbqTxStatusProcess (mq : MorseSkbq) (txSts : MorseSkbTxStatus) (now : U32) :
    Except SkbqAssertion MorseSkbq :=
  if morseSkbqMatchTxStatusToSkbq txSts = some mq.kind then
    match skbqGetPendingById txSts.pktId now mq mq.pending with
    | .error a => .error a
    | .ok (mq, none) => .ok mq
    | .ok (mq, some txMmpkt) => morseSkbqTxStatusFound mq txMmpkt txSts
  else .ok mq

/-- The loop of `morse_skbq_check_for_stale_tx`. -/
def morseSkbqCheckForStaleTxLoop (now : U32) (mq : MorseSkbq) :
    List TxPkt → Except SkbqAssertion MorseSkbq
  | [] => .ok mq
  | pfirst :: rest =>
    if mmosalTimeHasPassed pfirst.timeoutAbsMs now then
      (skbqDataTxFinish mq pfirst none).bind fun mq => morseSkbqCheckForStaleTxLoop now mq rest
    else morseSkbqCheckForStaleTxLoop now mq rest

def morseSkbqCheckForStaleTx (mq : MorseSkbq) (now : U32) : Except SkbqAssertion MorseSkbq :=
  morseSkbqCheckForStaleTxLoop now mq mq.pending

def morseSkbqTxFlush (mq : MorseSkbq) : MorseSkbq :=
  { mq with
    pending := []
    skbq := []
    gone := mq.gone ++ mq.pending.map .released ++ mq.skbq.map .released }

/-! ## Runs -/

/-- What happens to a queue. -/
inductive SkbqEvent where
  | mmpktTx (mmpkt : TxPkt) (channel : U8) (now : U32)
  | deq (size : U32)
  | deqNumItems (numItems : Nat)
  | txComplete
  | txFailed (failed : List Nat)
  | txStatus (txSts : MorseSkbTxStatus) (now : U32)
  | checkForStaleTx (now : U32)
  | txFlush

/-- One event. -/
def skbqStep (mq : MorseSkbq) : SkbqEvent → Except SkbqAssertion MorseSkbq
  | .mmpktTx mmpkt channel now => morseSkbqMmpktTx mq mmpkt channel now
  | .deq size => .ok (morseSkbqDeq mq size)
  | .deqNumItems numItems => .ok (morseSkbqDeqNumItems mq numItems)
  | .txComplete => .ok (morseSkbqTxComplete mq)
  | .txFailed failed => .ok (morseSkbqTxFailed mq failed)
  | .txStatus txSts now => morseSkbqTxStatusProcess mq txSts now
  | .checkForStaleTx now => morseSkbqCheckForStaleTx mq now
  | .txFlush => .ok (morseSkbqTxFlush mq)

/-- One event of a run, which an assertion ends. -/
def skbqNext (mq : MorseSkbq) (e : SkbqEvent) : Option MorseSkbq := (skbqStep mq e).toOption

end MmIotEsp32.Driver
