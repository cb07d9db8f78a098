/-
  MmIotEsp32.Umac.Datapath.RxOwners

  The receive path of `umac/datapath/umac_datapath.c` and `datapath_defrag.c` once more, now with
  who has each packet.
-/
import MmIotEsp32.Lib.Places
import MmIotEsp32.Umac.Ba.UmacBa
import MmIotEsp32.Umac.Datapath.RxFrame

namespace MmIotEsp32.Umac.Datapath

open Lib Dot11 Keys Ba

/-! ## Owners -/

/-- The number of a packet. -/
abbrev PktId := Nat

/-- A packet with its number. -/
structure RxPkt where
  id : PktId
  pkt : Mmpkt

/-- The receive path, and where the packets are. -/
structure RxOwners where
  umac : UmacData
  /-- `rxq` -/
  rxq : List RxPkt
  /-- `rx_reorder_list` -/
  rxReorderList : List RxPkt
  /-- the buffers of `frag_chains` -/
  fragChains : FragChainIdx → Option PktId
  /-- `mmpkt_release` was called -/
  released : List PktId
  /-- a callback that takes the packet was called -/
  delivered : List PktId
  /-- how many packets there are so far -/
  issued : Nat
  /-- the timeouts that still point into a STA record that was freed -/
  freedTimeouts : List UmacTimeout

/-- A new STA record, before the first packet. -/
def rxOwnersInit : RxOwners := ⟨umacStadInit, [], [], fun _ => none, [], [], 0, []⟩

namespace RxOwners

/-- `mmpkt_release`. -/
def release (s : RxOwners) (id : PktId) : RxOwners := { s with released := id :: s.released }

def deliver (s : RxOwners) (id : PktId) : RxOwners := { s with delivered := id :: s.delivered }

def setRxReorderList (s : RxOwners) (l : List RxPkt) : RxOwners :=
  { s with umac := s.umac.setRxReorderList (l.map RxPkt.pkt), rxReorderList := l }

/-- The buffer of a chain leaves it. -/
def clearChain (s : RxOwners) (i : FragChainIdx) : RxOwners :=
  { s with fragChains := Function.update s.fragChains i none }

/-- The buffer of a chain is released, if there is one. -/
def releaseChain (s : RxOwners) (i : FragChainIdx) : RxOwners :=
  match s.fragChains i with
  | none => s
  | some id => (s.clearChain i).release id

/-- A packet is allocated for a chain. -/
def allocChain (s : RxOwners) (i : FragChainIdx) : RxOwners :=
  { s with
    fragChains := Function.update s.fragChains i (some s.issued)
    issued := s.issued + 1 }

end RxOwners

namespace Owners

/-! ## Reassembly -/

/-- `datapath_defrag_init_buffer`, and what a first fragment does besides. -/
def datapathDefragStart (env : UmacEnv) (s : RxOwners) (i : FragChainIdx) (hdr : BytePtr) :
    Option RxOwners :=
  (Datapath.datapathDefragStart env s.umac i hdr).map fun u =>
    let released := s.releaseChain i
    match env.allocMmpktForDefrag s.umac.tick with
    | none => { released with umac := u }
    | some _ => { released.allocChain i with umac := u }

/-- A fragment for a chain, once the chain is set up.  The packet is released in any case; the last
fragment hands out the buffer of the chain. -/
def datapathDefragContinue (s : RxOwners) (i : FragChainIdx) (hdr : BytePtr) (rxbuf : RxPkt) :
    Option (RxOwners × Option (RxPkt × BytePtr)) :=
  let chain := s.umac.stad.datapath.fragChains i
  match chain.buf, s.fragChains i with
  | some buf, some bufId =>
    if !datapathDefragIsInFragChain chain (sequenceControl hdr) then
      some (s.release rxbuf.id, none)
    else if chain.isProtected != dot11FrameControlGetProtected (frameControl hdr) then
      some (s.release rxbuf.id, none)
    else
      match datapathDefragAddFragment buf rxbuf.pkt with
      | none =>
        let u := umacCoreCancelTimeout (s.umac.setFragChain i chain.release)
          (.datapathDefragTimeout i)
        some ({ s.releaseChain i with umac := u }.release rxbuf.id, none)
      | some buf =>
        if dot11FrameControlGetMoreFragments (frameControl hdr) then
          let u := s.umac.setFragChain i { chain with buf := some buf }
          some ({ s with umac := u }.release rxbuf.id, none)
        else
          (datapathDefragComplete s.umac i hdr buf).map fun (u, ret) =>
            ({ s.clearChain i with umac := u }.release rxbuf.id,
              ret.map fun (pkt, hdr) => (⟨bufId, pkt⟩, hdr))
  | _, _ => some (s.release rxbuf.id, none)

def datapathDefrag (env : UmacEnv) (s : RxOwners) (hdr : BytePtr) (rxbuf : RxPkt) (tidIdx : U8) :
    Option (RxOwners × Option (RxPkt × BytePtr)) :=
  if !datapathDefragIsFragment hdr then some (s, some (rxbuf, hdr))
  else
    match datapathDefragGetFragChain tidIdx with
    | none => some (s.release rxbuf.id, none)
    | some i =>
      if datapathDefragIsFirstFragment hdr then
        (datapathDefragStart env s i hdr).bind fun s => datapathDefragContinue s i hdr rxbuf
      else datapathDefragContinue s i hdr rxbuf

def datapathDefragTimeout (s : RxOwners) (i : FragChainIdx) : RxOwners :=
  { s.releaseChain i with umac := Datapath.datapathDefragTimeout s.umac i }

/-! ## After the reorder list -/

/-- A callback takes the packet.  Every other way through `rxDeliver` ends at `drop`. -/
def rxTakesPacket (env : UmacEnv) (u : UmacData) (view : Mmpkt) : Bool :=
  !umacDatapathIsEapolFrame view && decide (env.staState u.tick = .connected)
    && umacDatapathGetLlcEthertype view != 0 && decide (env.vif ≠ .unspecified)
    && (env.rxPktExtCb || env.rxPktCallback)

/-- EAPOL frames and delivery to the network stack. -/
def rxDeliver (env : UmacEnv) (s : RxOwners) (hdr : BytePtr) (tidIndex : U8) (view : RxPkt) :
    Option RxOwners :=
  (Datapath.rxDeliver env s.umac hdr tidIndex view.pkt).map fun u =>
    if rxTakesPacket env s.umac view.pkt then { s with umac := u }.deliver view.id
    else { s with umac := u }.release view.id

/-- Group frames are filtered, the others go through reassembly. -/
def rxReassemble (env : UmacEnv) (s : RxOwners) (hdr : BytePtr) (tidIndex : U8) (view : RxPkt) :
    Option RxOwners :=
  if isGroupAddr (dot11GetDa hdr) then
    if dot11FrameControlGetMoreFragments (frameControl hdr) then some (s.release view.id)
    else if dot11FrameControlGetFromDs (frameControl hdr)
        && umacInterfaceAddrMatchesMacAddr env (dot11GetSaData hdr) then some (s.release view.id)
    else rxDeliver env s hdr tidIndex view
  else
    match datapathDefrag env s hdr view tidIndex with
    | none => none
    | some (s, none) => some s
    | some (s, some (view, hdr)) => rxDeliver env s hdr tidIndex view

def umacDatapathProcessRxDataFrameAfterReorder (env : UmacEnv) (s : RxOwners) (rxbuf : RxPkt) :
    Option RxOwners :=
  let hdr := rxbuf.pkt.dataStart
  match rxRemoveHeaders rxbuf.pkt with
  | none => none
  | some (tidIndex, view) =>
    match rxCheckSecurity env s.umac.stad.keys hdr view with
    | none => none
    | some security =>
      let u := s.umac.setKeys security.keys
      match security.view with
      | none =>
        let u := u.log ⟨sequenceControl hdr, tidIndex, security.ccmp, false, none⟩
        some ({ s with umac := u }.release rxbuf.id)
      | some view =>
        let expected := rxExpected env hdr tidIndex
        let u := (moveExpected u tidIndex expected).log
          ⟨sequenceControl hdr, tidIndex, security.ccmp, true, expected⟩
        rxReassemble env { s with umac := u } hdr tidIndex ⟨rxbuf.id, view⟩

/-! ## The reorder list -/

/-- The loop of `umac_datapath_flush_rx_reorder_list`. -/
def flushRxReorderLoop (env : UmacEnv) : List RxPkt → RxOwners → Option RxOwners
  | [], s => some s
  | pkt :: rest, s =>
    (umacDatapathProcessRxDataFrameAfterReorder env (s.setRxReorderList rest) pkt).bind
      (flushRxReorderLoop env rest)

def umacDatapathFlushRxReorderList (env : UmacEnv) (s : RxOwners) : Option RxOwners :=
  flushRxReorderLoop env s.rxReorderList s

def umacDatapathFlushRxReorderListForTid (env : UmacEnv) (s : RxOwners) (tid : U16) :
    Option RxOwners :=
  if s.umac.stad.datapath.rxReorderTid != tid then some s
  else (umacDatapathFlushRxReorderList env s).bind (umacDatapathFlushRxReorderList env)

/-- The loop of `umac_datapath_evaluate_rx_reorder_list`. -/
def evaluateRxReorderLoop (env : UmacEnv) : List RxPkt → RxOwners → Option RxOwners
  | [], s => some s
  | pkt :: rest, s =>
    match rxReorderDequeue env s.umac pkt.pkt with
    | (u, false) => some { s with umac := u }
    | (u, true) =>
      (umacDatapathProcessRxDataFrameAfterReorder env
        ({ s with umac := u }.setRxReorderList rest) pkt).bind (evaluateRxReorderLoop env rest)

def umacDatapathEvaluateRxReorderList (env : UmacEnv) (s : RxOwners) : Option RxOwners :=
  evaluateRxReorderLoop env s.rxReorderList s

/-- `umac_core_register_timeout`, of the reorder timeout. -/
def registerReorderTimeout (env : UmacEnv) (s : RxOwners) : RxOwners :=
  { s with umac := (umacCoreRegisterTimeout env s.umac .umacDatapathRxReorderTimeoutHandler).1 }

def umacDatapathRxReorderTimeoutHandler (env : UmacEnv) (s : RxOwners) : Option RxOwners :=
  (umacDatapathEvaluateRxReorderList env s).map fun s =>
    if s.rxReorderList.isEmpty then s else registerReorderTimeout env s

/-- The walk of `umac_datapath_add_rx_mpdu_to_reorder_list`. -/
def reorderInsertWalk (rxbuf : RxPkt) (seqCtrl : U16) : List RxPkt → Option (Option (List RxPkt))
  | [] => none
  | [walk] => some (some [walk, rxbuf])
  | walk :: next :: rest =>
    let nextSeqCtrl := sequenceControl next.pkt.dataStart
    if nextSeqCtrl == seqCtrl then some none
    else if dot11SequenceControlLt seqCtrl nextSeqCtrl then
      some (some (walk :: rxbuf :: next :: rest))
    else (reorderInsertWalk rxbuf seqCtrl (next :: rest)).map (Option.map (walk :: ·))

/-- The part of `umac_datapath_add_rx_mpdu_to_reorder_list` from the walk on. -/
def reorderInsert (env : UmacEnv) (s : RxOwners) (rxbuf : RxPkt) (seqCtrl : U16) :
    Option RxOwners :=
  match reorderInsertWalk rxbuf seqCtrl s.rxReorderList with
  | none => none
  | some none => some (s.release rxbuf.id)
  | some (some l) => umacDatapathEvaluateRxReorderList env (s.setRxReorderList l)

def umacDatapathAddRxMpduToReorderList (env : UmacEnv) (s : RxOwners) (rxbuf : RxPkt)
    (seqCtrl : U16) (reorderListMaxlen : U8) : Option RxOwners :=
  match s.rxReorderList with
  | [] => some ((registerReorderTimeout env s).setRxReorderList [rxbuf])
  | head :: rest =>
    let headSeqCtrl := sequenceControl head.pkt.dataStart
    if headSeqCtrl == seqCtrl then some (s.release rxbuf.id)
    else
      let reorderListFull := decide (reorderListMaxlen.toNat ≤ (head :: rest).length)
      if dot11SequenceControlLt seqCtrl headSeqCtrl then
        if reorderListFull then some (s.release rxbuf.id)
        else some (s.setRxReorderList (rxbuf :: head :: rest))
      else if reorderListFull then
        (umacDatapathProcessRxDataFrameAfterReorder env (s.setRxReorderList rest) head).bind
          fun s => reorderInsert env s rxbuf seqCtrl
      else reorderInsert env s rxbuf seqCtrl

/-! ## A received data frame -/

/-- The list is emptied when another TID takes it over. -/
def rxReorderClaim (env : UmacEnv) (s : RxOwners) (tidIndex : U8) : Option RxOwners :=
  if s.umac.stad.datapath.rxReorderTid != tidIndex.setWidth 16 then
    (umacDatapathFlushRxReorderList env s).map fun s =>
      { s with umac := s.umac.setRxReorderTid (tidIndex.setWidth 16) }
  else some s

/-- A frame of a TID with a reorder buffer, once the list is that TID's. -/
def rxReorder (env : UmacEnv) (s : RxOwners) (rxbuf : RxPkt) (tidIndex reorderBufSize : U8) :
    Option RxOwners :=
  match umacBaGetExpectedRxSeqNum s.umac.stad.ba tidIndex with
  | none => umacDatapathProcessRxDataFrameAfterReorder env s rxbuf
  | some expectedSeqCtrl =>
    let seqCtrl := sequenceControl rxbuf.pkt.dataStart
    if seqCtrl == expectedSeqCtrl then
      (umacDatapathProcessRxDataFrameAfterReorder env s rxbuf).bind
        (umacDatapathEvaluateRxReorderList env)
    else if dot11SequenceControlLt seqCtrl expectedSeqCtrl then
      let u := { s.umac with outdatedDrops := seqCtrl :: s.umac.outdatedDrops }
      some ({ s with umac := u }.release rxbuf.id)
    else umacDatapathAddRxMpduToReorderList env s rxbuf seqCtrl reorderBufSize

/-- `umac_datapath_process_rx_data_frame`, for a frame with a STA record. -/
def umacDatapathProcessRxDataFrame (env : UmacEnv) (s : RxOwners) (rxbuf : RxPkt) :
    Option RxOwners :=
  let hdr := rxbuf.pkt.dataStart
  if isNullData hdr then some (s.release rxbuf.id)
  else
    let tidIndex := rxTidIndex hdr
    match umacBaGetReorderBufferSize s.umac.stad.ba tidIndex with
    | none => none
    | some reorderBufSize =>
      if decide (mmwlanMaxQosTid < tidIndex.toNat) || reorderBufSize == 0 then
        umacDatapathProcessRxDataFrameAfterReorder env s rxbuf
      else
        (rxReorderClaim env s tidIndex).bind fun s =>
          rxReorder env s rxbuf tidIndex reorderBufSize

/-- `umac_datapath_process_rx_frame`, for a data frame. -/
def umacDatapathProcessRxFrame (env : UmacEnv) (s : RxOwners) (rxbuf : RxPkt) : Option RxOwners :=
  if !env.hasStad (dot11GetTa rxbuf.pkt.dataStart) then some (s.release rxbuf.id)
  else umacDatapathProcessRxDataFrame env s rxbuf

/-- `umac_datapath_rx_frame`, for a data frame. -/
def umacDatapathRxFrame (env : UmacEnv) (s : RxOwners) (rxbuf : Mmpkt) : Option RxOwners :=
  let pkt : RxPkt := ⟨s.issued, rxbuf⟩
  let s := { s with issued := s.issued + 1 }
  (umacDatapathRxFrameFilter env s.umac rxbuf).map fun (u, dropFrame) =>
    if dropFrame then { s with umac := u }.release pkt.id
    else { s with umac := u, rxq := s.rxq ++ [pkt] }

/-! ## Leaving -/

def umacBaRxDelba (env : UmacEnv) (s : RxOwners) (field : BytePtr) (fieldLen : Nat) :
    Option RxOwners :=
  if fieldLen < sizeofDot11ActionFieldDelba then some s
  else
    let paramSet := field.le16 2
    match baTid? ((dot11DelbaParameterSetFieldGetTid paramSet).setWidth 8) with
    | none => some s
    | some tid =>
      let ptr :=
        if dot11DelbaParameterSetFieldGetInitiator paramSet == dot11DelbaInitiatorOriginator
        then UmacBaSessionPtr.recipient tid
        else UmacBaSessionPtr.originator tid
      if (s.umac.stad.ba.session ptr).status = .disabled then some s
      else
        let s := { s with
          umac := umacCoreCancelTimeout s.umac (.umacBaAddbaReqTimeoutHandler ptr) }
        (umacDatapathFlushRxReorderListForTid env s
          ((s.umac.stad.ba.session ptr).tid.setWidth 16)).map fun s =>
            { s with umac := setStatus s.umac ptr .disabled }

/-- `umac_ba_process_rx_frame`.  Only a DELBA has to do with packets. -/
def umacBaProcessRxFrame (env : UmacEnv) (s : RxOwners) (frame : BytePtr) (frameLen : Nat) :
    Option RxOwners :=
  if sizeofDot11Action ≤ frameLen ∧ (frame.add sizeofDot11Hdr) 1 = dot11BaActionNdpDelba then
    umacBaRxDelba env s (frame.add sizeofDot11Hdr) (frameLen - sizeofDot11Hdr)
  else
    (Ba.umacBaProcessRxFrame env s.umac frame frameLen).map fun u => { s with umac := u }

def datapathDefragDeinit (s : RxOwners) : RxOwners :=
  (List.finRange maxFragChains).foldl (fun s i =>
    let chain := s.umac.stad.datapath.fragChains i
    { s.releaseChain i with
      umac := umacCoreCancelTimeout (s.umac.setFragChain i chain.release)
        (.datapathDefragTimeout i) }) s

/-- `umac_datapath_stad_flush` and `umac_ba_deinit`: the station loses its connection. -/
def umacDatapathStadFlush (env : UmacEnv) (s : RxOwners) : Option RxOwners :=
  (umacDatapathFlushRxReorderList env s).map fun s =>
    let s := datapathDefragDeinit s
    { s with umac := s.umac.setBa umacBaDeinit }

/-- `umac_ap_remove_sta`: the record is freed with what it holds, and the next station gets a new
one.  Neither the packets nor the timeouts of the old record are looked at. -/
def umacApRemoveSta (s : RxOwners) : RxOwners :=
  { s with
    umac := { s.umac with stad := umacStadInit.stad, timeouts := [] }
    rxReorderList := []
    fragChains := fun _ => none
    freedTimeouts := s.umac.timeouts ++ s.freedTimeouts }

/-- The handler of a timeout that is pending. -/
def fireTimeout (env : UmacEnv) (s : RxOwners) (timeout : UmacTimeout) : Option RxOwners :=
  if timeout ∈ s.umac.timeouts then
    let s := { s with umac := { s.umac with timeouts := s.umac.timeouts.erase timeout } }
    match timeout with
    | .datapathDefragTimeout i => some (datapathDefragTimeout s i)
    | .umacDatapathRxReorderTimeoutHandler => umacDatapathRxReorderTimeoutHandler env s
    | .umacBaAddbaReqTimeoutHandler ptr =>
      some { s with umac := umacBaAddbaReqTimeoutHandler env s.umac ptr }
  else some s

end Owners

/-! ## Events -/

/-- What happens to the receive path. -/
inductive RxEvent where
  /-- the driver hands a data frame on -/
  | rxFrame (rxbuf : Mmpkt)
  /-- the next frame is taken from the queue -/
  | processRx
  | rxBaFrame (frame : BytePtr) (frameLen : Nat)
  | sessionInit (tid : U8) (ssc timeout : U16)
  | sessionDeinit (tid : U8) (originator : Bool)
  | keysChanged (keys : ConnectionKeysData)
  | timeout (timeout : UmacTimeout)
  /-- a timeout of a record that was freed -/
  | freedTimeout (timeout : UmacTimeout)
  | stadFlush
  | apRemoveSta

def rxOwnersStep (env : UmacEnv) (s : RxOwners) : RxEvent → Option RxOwners
  | .rxFrame rxbuf => Owners.umacDatapathRxFrame env s rxbuf
  | .processRx =>
    match s.rxq with
    | [] => some s
    | rxbuf :: rxq => Owners.umacDatapathProcessRxFrame env { s with rxq := rxq } rxbuf
  | .rxBaFrame frame frameLen => Owners.umacBaProcessRxFrame env s frame frameLen
  | .sessionInit tid ssc timeout =>
    some { s with umac := umacBaSessionInit env s.umac tid ssc timeout }
  | .sessionDeinit tid originator =>
    some { s with umac := umacBaSessionDeinit env s.umac tid originator }
  | .keysChanged keys => some { s with umac := s.umac.setKeys keys }
  | .timeout timeout => Owners.fireTimeout env s timeout
  | .freedTimeout timeout =>
    -- its handler works on freed memory, after which nothing is known
    if timeout ∈ s.freedTimeouts then none else some s
  | .stadFlush => Owners.umacDatapathStadFlush env s
  | .apRemoveSta => some (Owners.umacApRemoveSta s)

end MmIotEsp32.Umac.Datapath
