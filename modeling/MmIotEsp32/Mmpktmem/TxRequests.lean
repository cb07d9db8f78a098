/-
  MmIotEsp32.Mmpktmem.TxRequests

  What is asked of the packet memory, and its flow control.

  Both packet memories take command packets from a pool of their own first, of blocks of
  `TX_COMMAND_POOL_BLOCK_SIZE`, and initialise a packet in a block by `mmpkt_init_buf` (`mmpkt.h`).
-/
import MmIotEsp32.Common.Mmosal

namespace MmIotEsp32.Mmpktmem

/-! ## Sizes -/

/-- `sizeof(struct mmpkt)`. -/
def sizeofMmpkt : U32 := 28

/-- `mmpkt_init_buf` does not return NULL. -/
def mmpktInitBuf (bufLen spaceAtStart spaceAtEnd metadataSize : U32) : Bool :=
  let headerSize := fastRoundUp sizeofMmpkt 4
  let metadataSize := fastRoundUp metadataSize 4
  if spaceAtEnd ≠ -1 then
    headerSize + fastRoundUp (spaceAtStart + spaceAtEnd) 4 + metadataSize ≤ bufLen
  else
    -- The data take what is left of the buffer.
    let dataLen := (bufLen - headerSize - metadataSize) &&& ~~~3
    ¬ dataLen.slt spaceAtStart ∧ headerSize + dataLen + metadataSize ≤ bufLen

def mmhalWlanPktCommand : U8 := 9

/-- The arguments of `mmhal_wlan_alloc_mmpkt_for_tx`. -/
structure TxRequest where
  pktClass : U8
  spaceAtStart : U32
  spaceAtEnd : U32
  metadataLength : U32
  deriving Repr, DecidableEq

/-- What a task may do. -/
inductive PktmemEvent (ι : Type*) where
  /-- `mmhal_wlan_alloc_mmpkt_for_tx`. -/
  | alloc (k : ι) (req : TxRequest)
  /-- A data packet is freed. -/
  | free (k : ι)
  /-- A packet of the command pool is freed. -/
  | freeCommand (k : ι)
  /-- The next step of the call; `heapOk` is what `mmosal_malloc` would say. -/
  | run (k : ι) (heapOk : Bool)
  deriving DecidableEq

/-- A packet of this size can be initialised in a block. -/
def TxRequest.fits (req : TxRequest) (blockSize : U32) : Bool :=
  mmpktInitBuf blockSize req.spaceAtStart req.spaceAtEnd req.metadataLength

def txCommandPoolBlockSize : U32 := 256

def txCommandPoolNBlocks : Nat := 2

/-! ## Flow control -/

/-- `tx_data_pool_tx_paused`.  `changed` is history: it was entered after the last
invocation of the flow-control callback. -/
structure TxFlow where
  txPaused : Bool
  changed : Bool
  deriving Repr, DecidableEq

def TxFlow.init : TxFlow := ⟨false, false⟩

def TxFlow.set (flow : TxFlow) (paused : Bool) : TxFlow :=
  ⟨paused, flow.changed || flow.txPaused != paused⟩

/-- The callback is invoked. -/
def TxFlow.callback (flow : TxFlow) : TxFlow := { flow with changed := false }

/-- `enum mmwlan_tx_flow_control_state`. -/
inductive TxFlowControlState where
  | ready
  | paused
  deriving Repr, DecidableEq

def mmhalWlanPktmemTxFlowControlState (flow : TxFlow) : TxFlowControlState :=
  if flow.txPaused then .paused else .ready

theorem set_same (flow : TxFlow) : flow.set flow.txPaused = flow := by
  simp [TxFlow.set]

/-- What a packet memory promises, in every state: no more data packets than there are blocks, and,
when nothing is in progress and no data packet is outstanding, no pause that nobody would end, and
no state that nobody was told of. -/
structure TxServes (nBlocks outstanding : Nat) (quiet : Prop) (flow : TxFlow) : Prop where
  bounded : outstanding ≤ nBlocks
  ready : quiet → mmhalWlanPktmemTxFlowControlState flow = .ready
  told : quiet → flow.changed = false

end MmIotEsp32.Mmpktmem
