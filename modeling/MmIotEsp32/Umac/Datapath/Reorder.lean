/-
  MmIotEsp32.Umac.Datapath.Reorder

  The receive reorder list of `umac/datapath/umac_datapath.c`.
-/
import MmIotEsp32.Umac.Datapath.AfterReorder

namespace MmIotEsp32.Umac.Datapath

open Dot11 Keys Ba

/-! ## Leaving the list -/

def rxReorderTimeoutMs : U32 := 100

/-- The loop of `umac_datapath_flush_rx_reorder_list`. -/
def flushRxReorderLoop (env : UmacEnv) : List Mmpkt → UmacData → Option UmacData
  | [], u => some u
  | pkt :: rest, u =>
    (umacDatapathProcessRxDataFrameAfterReorder env (u.setRxReorderList rest) pkt).bind
      (flushRxReorderLoop env rest)

def umacDatapathFlushRxReorderList (env : UmacEnv) (u : UmacData) : Option UmacData :=
  flushRxReorderLoop env u.stad.datapath.rxReorderList u

/-- `umac_datapath_flush_rx_reorder_list_for_tid`: its second loop finds the list
empty. -/
def umacDatapathFlushRxReorderListForTid (env : UmacEnv) (u : UmacData) (tid : U16) :
    Option UmacData :=
  if u.stad.datapath.rxReorderTid != tid then some u
  else (umacDatapathFlushRxReorderList env u).bind (umacDatapathFlushRxReorderList env)

/-- Whether the head of the list leaves it, with the question asked of the clock. -/
def rxReorderDequeue (env : UmacEnv) (u : UmacData) (pkt : Mmpkt) : UmacData × Bool :=
  let seqCtrl := sequenceControl pkt.dataStart
  match umacBaGetExpectedRxSeqNum u.stad.ba (u.stad.datapath.rxReorderTid.setWidth 8) with
  | none => (u, true)
  | some expected =>
    if seqCtrl == expected then (u, true)
    else
      (u.ticked, mmosalTimeHasPassed (pkt.rx.readTimestampMs + rxReorderTimeoutMs)
        (env.timeMs u.tick))

theorem rxReorderDequeue_stad (env : UmacEnv) (u : UmacData) (x : Mmpkt) :
    (rxReorderDequeue env u x).1.stad = u.stad ∧ (rxReorderDequeue env u x).1.rxLog = u.rxLog := by
  unfold rxReorderDequeue
  dsimp only
  split
  · exact ⟨rfl, rfl⟩
  · split <;> exact ⟨rfl, rfl⟩

/-- The loop of `umac_datapath_evaluate_rx_reorder_list`. -/
def evaluateRxReorderLoop (env : UmacEnv) : List Mmpkt → UmacData → Option UmacData
  | [], u => some u
  | pkt :: rest, u =>
    match rxReorderDequeue env u pkt with
    | (u, false) => some u
    | (u, true) =>
      (umacDatapathProcessRxDataFrameAfterReorder env (u.setRxReorderList rest) pkt).bind
        (evaluateRxReorderLoop env rest)

def umacDatapathEvaluateRxReorderList (env : UmacEnv) (u : UmacData) : Option UmacData :=
  evaluateRxReorderLoop env u.stad.datapath.rxReorderList u

def umacDatapathRxReorderTimeoutHandler (env : UmacEnv) (u : UmacData) : Option UmacData :=
  (umacDatapathEvaluateRxReorderList env u).map fun u =>
    if u.stad.datapath.rxReorderList.isEmpty then u
    else (umacCoreRegisterTimeout env u .umacDatapathRxReorderTimeoutHandler).1

/-! ## Entering the list -/

/-- The walk of `umac_datapath_add_rx_mpdu_to_reorder_list`, which compares with the
successor of each element only.  The outer `none` is the assertion that there is an
element, the inner one a frame that is on the list already. -/
def reorderInsertWalk (rxbuf : Mmpkt) (seqCtrl : U16) : List Mmpkt → Option (Option (List Mmpkt))
  | [] => none
  | [walk] => some (some [walk, rxbuf])
  | walk :: next :: rest =>
    let nextSeqCtrl := sequenceControl next.dataStart
    if nextSeqCtrl == seqCtrl then some none
    else if dot11SequenceControlLt seqCtrl nextSeqCtrl then
      some (some (walk :: rxbuf :: next :: rest))
    else (reorderInsertWalk rxbuf seqCtrl (next :: rest)).map (Option.map (walk :: ·))

/-- The part of `umac_datapath_add_rx_mpdu_to_reorder_list` from the walk on. -/
def reorderInsert (env : UmacEnv) (u : UmacData) (rxbuf : Mmpkt) (seqCtrl : U16) :
    Option UmacData :=
  match reorderInsertWalk rxbuf seqCtrl u.stad.datapath.rxReorderList with
  | none => none
  | some none => some u
  | some (some l) => umacDatapathEvaluateRxReorderList env (u.setRxReorderList l)

def umacDatapathAddRxMpduToReorderList (env : UmacEnv) (u : UmacData) (rxbuf : Mmpkt)
    (seqCtrl : U16) (reorderListMaxlen : U8) : Option UmacData :=
  match u.stad.datapath.rxReorderList with
  | [] =>
    some ((umacCoreRegisterTimeout env u .umacDatapathRxReorderTimeoutHandler).1.setRxReorderList
      [rxbuf])
  | head :: rest =>
    let headSeqCtrl := sequenceControl head.dataStart
    if headSeqCtrl == seqCtrl then some u
    else
      let reorderListFull := decide (reorderListMaxlen.toNat ≤ (head :: rest).length)
      if dot11SequenceControlLt seqCtrl headSeqCtrl then
        if reorderListFull then some u else some (u.setRxReorderList (rxbuf :: head :: rest))
      else if reorderListFull then
        (umacDatapathProcessRxDataFrameAfterReorder env (u.setRxReorderList rest) head).bind
          fun u => reorderInsert env u rxbuf seqCtrl
      else reorderInsert env u rxbuf seqCtrl

/-! ## A received data frame -/

/-- The list is emptied when another TID takes it over. -/
def rxReorderClaim (env : UmacEnv) (u : UmacData) (tidIndex : U8) : Option UmacData :=
  if u.stad.datapath.rxReorderTid != tidIndex.setWidth 16 then
    (umacDatapathFlushRxReorderList env u).map fun u => u.setRxReorderTid (tidIndex.setWidth 16)
  else some u

/-- A frame of a TID with a reorder buffer, once the list is that TID's. -/
def rxReorder (env : UmacEnv) (u : UmacData) (rxbuf : Mmpkt) (tidIndex reorderBufSize : U8) :
    Option UmacData :=
  match umacBaGetExpectedRxSeqNum u.stad.ba tidIndex with
  | none => umacDatapathProcessRxDataFrameAfterReorder env u rxbuf
  | some expectedSeqCtrl =>
    let seqCtrl := sequenceControl rxbuf.dataStart
    if seqCtrl == expectedSeqCtrl then
      (umacDatapathProcessRxDataFrameAfterReorder env u rxbuf).bind
        (umacDatapathEvaluateRxReorderList env)
    else if dot11SequenceControlLt seqCtrl expectedSeqCtrl then
      some { u with outdatedDrops := seqCtrl :: u.outdatedDrops }
    else umacDatapathAddRxMpduToReorderList env u rxbuf seqCtrl reorderBufSize

/-- Data frames without data. -/
def isNullData (hdr : BytePtr) : Bool :=
  dot11FrameControlGetSubtype (frameControl hdr) == dot11FcSubtypeNullData
    || dot11FrameControlGetSubtype (frameControl hdr) == dot11FcSubtypeQosNull

/-- `umac_datapath_process_rx_data_frame`, for a frame with a STA record; `none` is an
assertion. -/
def umacDatapathProcessRxDataFrame (env : UmacEnv) (u : UmacData) (rxbuf : Mmpkt) :
    Option UmacData :=
  let hdr := rxbuf.dataStart
  if isNullData hdr then some u
  else
    let tidIndex := rxTidIndex hdr
    match umacBaGetReorderBufferSize u.stad.ba tidIndex with
    | none => none
    | some reorderBufSize =>
      if decide (mmwlanMaxQosTid < tidIndex.toNat) || reorderBufSize == 0 then
        umacDatapathProcessRxDataFrameAfterReorder env u rxbuf
      else
        (rxReorderClaim env u tidIndex).bind fun u =>
          rxReorder env u rxbuf tidIndex reorderBufSize

/-! ## What every part of it keeps -/

/-- A property that holds whatever becomes of the list, kept by handing a frame on. -/
structure ListInvariant (env : UmacEnv) (P : UmacData → Prop) : Prop where
  handOn : ∀ {u u' : UmacData} {x : Mmpkt}, P u →
    umacDatapathProcessRxDataFrameAfterReorder env u x = some u' → P u'
  list : ∀ {u : UmacData} (l : List Mmpkt), P u → P (u.setRxReorderList l)
  listTid : ∀ {u : UmacData} (tid : U16), P u → P (u.setRxReorderTid tid)
  ticked : ∀ {u : UmacData}, P u → P u.ticked
  timeout : ∀ {u : UmacData}, P u →
    P (umacCoreRegisterTimeout env u .umacDatapathRxReorderTimeoutHandler).1

/-- One that a frame which is dropped as outdated keeps as well. -/
structure ReceiveInvariant (env : UmacEnv) (P : UmacData → Prop) : Prop
    extends ListInvariant env P where
  outdated : ∀ {u : UmacData} (s : U16), P u → P { u with outdatedDrops := s :: u.outdatedDrops }

namespace ListInvariant

variable {env : UmacEnv} {P : UmacData → Prop} (hP : ListInvariant env P)
include hP

variable {u u' : UmacData}

theorem flushLoop {l : List Mmpkt} (hu : P u)
    (heq : flushRxReorderLoop env l u = some u') : P u' := by
  induction l generalizing u with
  | nil =>
    obtain rfl : u = u' := Option.some.inj heq
    exact hu
  | cons x rest ih =>
    obtain ⟨u₁, hx, hrest⟩ := Option.bind_eq_some_iff.mp heq
    exact ih (hP.handOn (hP.list rest hu) hx) hrest

theorem flush (hu : P u) (heq : umacDatapathFlushRxReorderList env u = some u') : P u' :=
  hP.flushLoop hu heq

theorem flushForTid {tid : U16} (hu : P u)
    (heq : umacDatapathFlushRxReorderListForTid env u tid = some u') : P u' := by
  unfold umacDatapathFlushRxReorderListForTid at heq
  split at heq
  · obtain rfl : u = u' := Option.some.inj heq
    exact hu
  · obtain ⟨u₁, hfirst, hsecond⟩ := Option.bind_eq_some_iff.mp heq
    exact hP.flush (hP.flush hu hfirst) hsecond

theorem dequeue {u : UmacData} {x : Mmpkt} (hu : P u) : P (rxReorderDequeue env u x).1 := by
  unfold rxReorderDequeue
  dsimp only
  split
  · exact hu
  · split
    · exact hu
    · exact hP.ticked hu

theorem evaluateLoop {l : List Mmpkt} (hu : P u)
    (heq : evaluateRxReorderLoop env l u = some u') : P u' := by
  induction l generalizing u with
  | nil =>
    obtain rfl : u = u' := Option.some.inj heq
    exact hu
  | cons x rest ih =>
    have hdequeue := hP.dequeue (x := x) hu
    unfold evaluateRxReorderLoop at heq
    generalize rxReorderDequeue env u x = answer at heq hdequeue
    obtain ⟨u₁, leaves⟩ := answer
    cases leaves with
    | false =>
      obtain rfl : u₁ = u' := Option.some.inj heq
      exact hdequeue
    | true =>
      obtain ⟨u₂, hx, hrest⟩ := Option.bind_eq_some_iff.mp heq
      exact ih (hP.handOn (hP.list rest hdequeue) hx) hrest

theorem evaluate (hu : P u) (heq : umacDatapathEvaluateRxReorderList env u = some u') : P u' :=
  hP.evaluateLoop hu heq

theorem timeoutHandler (hu : P u)
    (heq : umacDatapathRxReorderTimeoutHandler env u = some u') : P u' := by
  obtain ⟨u₁, heval, rfl⟩ := Option.map_eq_some_iff.mp heq
  have hu₁ := hP.evaluate hu heval
  split
  · exact hu₁
  · exact hP.timeout hu₁

theorem insert {x : Mmpkt} {s : U16} (hu : P u)
    (heq : reorderInsert env u x s = some u') : P u' := by
  unfold reorderInsert at heq
  split at heq
  · exact absurd heq (by simp)
  · obtain rfl : u = u' := Option.some.inj heq
    exact hu
  · exact hP.evaluate (hP.list _ hu) heq

theorem add {x : Mmpkt} {s : U16} {maxlen : U8} (hu : P u)
    (heq : umacDatapathAddRxMpduToReorderList env u x s maxlen = some u') : P u' := by
  unfold umacDatapathAddRxMpduToReorderList at heq
  dsimp only at heq
  split at heq
  · cases heq
    exact hP.list _ (hP.timeout hu)
  split at heq
  · obtain rfl : u = u' := Option.some.inj heq
    exact hu
  split at heq
  · split at heq
    · obtain rfl : u = u' := Option.some.inj heq
      exact hu
    · cases heq
      exact hP.list _ hu
  split at heq
  · obtain ⟨u₁, hhead, hinsert⟩ := Option.bind_eq_some_iff.mp heq
    exact hP.insert (hP.handOn (hP.list _ hu) hhead) hinsert
  · exact hP.insert hu heq

theorem claim {tidIndex : U8} (hu : P u)
    (heq : rxReorderClaim env u tidIndex = some u') : P u' := by
  unfold rxReorderClaim at heq
  split at heq
  · obtain ⟨u₁, hflush, rfl⟩ := Option.map_eq_some_iff.mp heq
    exact hP.listTid _ (hP.flush hu hflush)
  · obtain rfl : u = u' := Option.some.inj heq
    exact hu

end ListInvariant

namespace ReceiveInvariant

variable {env : UmacEnv} {P : UmacData → Prop} (hP : ReceiveInvariant env P)
include hP

theorem reorder {u u' : UmacData} {x : Mmpkt} {tidIndex reorderBufSize : U8} (hu : P u)
    (heq : rxReorder env u x tidIndex reorderBufSize = some u') : P u' := by
  unfold rxReorder at heq
  dsimp only at heq
  split at heq
  · exact hP.handOn hu heq
  split at heq
  · obtain ⟨u₁, hx, heval⟩ := Option.bind_eq_some_iff.mp heq
    exact hP.evaluate (hP.handOn hu hx) heval
  split at heq
  · cases heq
    exact hP.outdated _ hu
  · exact hP.add hu heq

theorem processRxDataFrame {u u' : UmacData} {x : Mmpkt} (hu : P u)
    (heq : umacDatapathProcessRxDataFrame env u x = some u') : P u' := by
  unfold umacDatapathProcessRxDataFrame at heq
  dsimp only at heq
  split at heq
  · obtain rfl : u = u' := Option.some.inj heq
    exact hu
  split at heq
  · exact absurd heq (by simp)
  split at heq
  · exact hP.handOn hu heq
  · obtain ⟨u₁, hclaim, hreorder⟩ := Option.bind_eq_some_iff.mp heq
    exact hP.reorder (hP.claim hu hclaim) hreorder

end ReceiveInvariant

end MmIotEsp32.Umac.Datapath
