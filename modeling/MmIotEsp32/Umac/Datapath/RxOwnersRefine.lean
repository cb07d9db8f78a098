/-
  MmIotEsp32.Umac.Datapath.RxOwnersRefine

  The receive path with the packet numbers does with the STA record what the one without them does.

  For this the numbered list and the numbered chains are the ones of the record (`Linked`).  The
  packets that a callback takes are those for which `rx_pkt_ext_cb` or `rx_pkt_callback` is called.
-/
import MmIotEsp32.Lib.Mirrors
import MmIotEsp32.Umac.Datapath.RxConserved

namespace MmIotEsp32.Umac.Datapath

open Lib Dot11 Keys Ba Function

/-! ## Links -/

/-- A chain of the record has a buffer where there is a packet with a number. -/
def ChainsLinked (s : RxOwners) : Prop :=
  ∀ i, (s.umac.stad.datapath.fragChains i).buf.isSome = (s.fragChains i).isSome

/-- The packets with numbers are those of the record. -/
structure Linked (s : RxOwners) : Prop where
  list : s.umac.stad.datapath.rxReorderList = s.rxReorderList.map RxPkt.pkt
  chains : ChainsLinked s
  room : FragChainsOk s.umac

theorem linked_init : Linked rxOwnersInit := by
  refine ⟨rfl, fun i => rfl, fun i buf hbuf => ?_⟩
  exact absurd hbuf (by simp [rxOwnersInit, umacStadInit])

variable {s s' : RxOwners}

theorem ChainsLinked.of_eq (h : ChainsLinked s)
    (humac : s'.umac.stad.datapath.fragChains = s.umac.stad.datapath.fragChains)
    (hchains : s'.fragChains = s.fragChains) : ChainsLinked s' := by
  intro i
  rw [humac, hchains]
  exact h i

theorem ChainsLinked.update (h : ChainsLinked s) {i : FragChainIdx}
    {chain : DatapathDefragDataChain} {n : Option PktId} (humac : s'.umac.stad.datapath.fragChains
      = update s.umac.stad.datapath.fragChains i chain)
    (hchains : s'.fragChains = update s.fragChains i n)
    (hsame : chain.buf.isSome = n.isSome) : ChainsLinked s' := by
  intro j
  rw [humac, hchains]
  by_cases hji : j = i
  · rw [hji, update_self, update_self]
    exact hsame
  · rw [update_of_ne hji, update_of_ne hji]
    exact h j

theorem RxOwners.releaseChain_fragChains (s : RxOwners) (i : FragChainIdx) :
    (s.releaseChain i).fragChains = update s.fragChains i none := by
  unfold RxOwners.releaseChain
  split
  · rename_i hnone
    rw [← hnone, update_eq_self]
  · rfl

variable {s : RxOwners}

theorem Linked.of_umac {u : UmacData} (h : Linked s)
    (hlist : u.stad.datapath.rxReorderList = s.umac.stad.datapath.rxReorderList)
    (hchains : u.stad.datapath.fragChains = s.umac.stad.datapath.fragChains) :
    Linked { s with umac := u } := by
  refine ⟨hlist.trans h.list, h.chains.of_eq hchains rfl, ?_⟩
  unfold FragChainsOk
  rw [hchains]
  exact h.room

theorem Linked.setRxReorderList (h : Linked s) (l : List RxPkt) : Linked (s.setRxReorderList l) :=
  ⟨rfl, h.chains, h.room⟩

namespace Owners

variable {env : UmacEnv} {s : RxOwners}

/-! ## Reassembly -/

/-- With and without the numbers. -/
def dropIds (r : RxOwners × Option (RxPkt × BytePtr)) : UmacData × Option (Mmpkt × BytePtr) :=
  (r.1.umac, r.2.map fun ret => (ret.1.pkt, ret.2))

theorem datapathDefragStart_mirrors (h : ChainsLinked s) (i : FragChainIdx) (hdr : BytePtr) :
    Mirrors RxOwners.umac ChainsLinked (datapathDefragStart env s i hdr)
      (Datapath.datapathDefragStart env s.umac i hdr) := by
  obtain ⟨u, buf, heq, -, -, hbuf, hchains⟩ := datapathDefragStart_spec env s.umac i hdr
  unfold datapathDefragStart
  rw [heq, Option.map_some]
  cases halloc : env.allocMmpktForDefrag s.umac.tick with
  | none =>
    rw [halloc] at hbuf
    exact .some (h.update hchains (s.releaseChain_fragChains i) hbuf)
  | some buffer =>
    rw [halloc] at hbuf
    refine .some (h.update (n := some (s.releaseChain i).issued) hchains ?_ hbuf)
    show update (s.releaseChain i).fragChains i _ = _
    rw [s.releaseChain_fragChains i, update_idem]

theorem datapathDefragContinue_mirrors (h : ChainsLinked s) (i : FragChainIdx) (hdr : BytePtr)
    (rxbuf : RxPkt) :
    Mirrors dropIds (fun r => ChainsLinked r.1) (datapathDefragContinue s i hdr rxbuf)
      (Datapath.datapathDefragContinue s.umac i hdr rxbuf.pkt) := by
  have hlinked := h i
  have hdrop : Mirrors dropIds (fun r => ChainsLinked r.1) (some (s.release rxbuf.id, none))
      (some (s.umac, none)) := .some (t := (s.release rxbuf.id, none)) h
  unfold datapathDefragContinue Datapath.datapathDefragContinue
  dsimp only
  cases hbuf : (s.umac.stad.datapath.fragChains i).buf with
  | none => exact hdrop
  | some buf =>
    rw [hbuf] at hlinked
    obtain ⟨bufId, hid⟩ := Option.isSome_iff_exists.mp hlinked.symm
    rw [hid]
    dsimp only
    split
    · exact hdrop
    split
    · exact hdrop
    cases datapathDefragAddFragment buf rxbuf.pkt with
    | none =>
      exact .some (t := (_, none))
        (h.update (i := i) rfl (s.releaseChain_fragChains i) rfl)
    | some buf =>
      dsimp only
      split
      · refine .some (t := (_, none)) (h.update (i := i) (n := some bufId) rfl ?_ rfl)
        show s.fragChains = _
        rw [← hid, update_eq_self]
      -- the last fragment
      unfold datapathDefragComplete
      dsimp only
      cases mmpktPrependData buf (hdr.take (dot11DataHdrGetLen hdr)) with
      | none => exact .none
      | some returnBuffer =>
        dsimp only
        cases mmpktRemoveFromStart returnBuffer (dot11DataHdrGetLen hdr) with
        | none => exact .none
        | some returnView =>
          refine .some (t := (_, some (RxPkt.mk bufId returnView, _))) ?_
          exact h.update (i := i) (n := none) rfl rfl rfl

theorem datapathDefrag_mirrors (h : ChainsLinked s) (hdr : BytePtr) (rxbuf : RxPkt)
    (tidIdx : U8) :
    Mirrors dropIds (fun r => ChainsLinked r.1) (datapathDefrag env s hdr rxbuf tidIdx)
      (Datapath.datapathDefrag env s.umac hdr rxbuf.pkt tidIdx) := by
  unfold datapathDefrag Datapath.datapathDefrag
  split
  · exact .some (t := (s, some (rxbuf, hdr))) h
  cases datapathDefragGetFragChain tidIdx with
  | none => exact .some (t := (s.release rxbuf.id, none)) h
  | some i =>
    dsimp only
    split
    · exact (datapathDefragStart_mirrors h i hdr).bind fun s₁ h₁ =>
        datapathDefragContinue_mirrors h₁ i hdr rxbuf
    · exact datapathDefragContinue_mirrors h i hdr rxbuf

/-! ## One frame -/

theorem rxDeliver_stad {u u' : UmacData} {hdr : BytePtr} {tidIndex : U8} {view : Mmpkt}
    (heq : Datapath.rxDeliver env u hdr tidIndex view = some u') : u'.stad = u.stad := by
  unfold Datapath.rxDeliver rxDeliverToStack at heq
  dsimp only at heq
  -- every way through it is a call at most
  split_ifs at heq
  · cases heq
    rfl
  · obtain ⟨view', -, rfl⟩ := Option.map_eq_some_iff.mp heq
    rfl
  · cases heq
    rfl
  · cases heq
    rfl
  · cases heq
    rfl
  · obtain ⟨view', -, rfl⟩ := Option.map_eq_some_iff.mp heq
    rfl
  · obtain ⟨view', -, rfl⟩ := Option.map_eq_some_iff.mp heq
    rfl
  · cases heq
    rfl
  · cases heq
    rfl

theorem rxDeliver_mirrors (h : ChainsLinked s) (hdr : BytePtr) (tidIndex : U8) (view : RxPkt) :
    Mirrors RxOwners.umac ChainsLinked (rxDeliver env s hdr tidIndex view)
      (Datapath.rxDeliver env s.umac hdr tidIndex view.pkt) := by
  unfold rxDeliver
  cases hdeliver : Datapath.rxDeliver env s.umac hdr tidIndex view.pkt with
  | none => exact .none
  | some u =>
    have hstad : u.stad = s.umac.stad := rxDeliver_stad hdeliver
    have hlinked : ChainsLinked { s with umac := u } := h.of_eq (by rw [hstad]) rfl
    rw [Option.map_some]
    split
    · exact .some (I := ChainsLinked) (t := { s with umac := u }.deliver view.id) hlinked
    · exact .some (I := ChainsLinked) (t := { s with umac := u }.release view.id) hlinked

theorem rxReassemble_mirrors (h : ChainsLinked s) (hdr : BytePtr) (tidIndex : U8) (view : RxPkt) :
    Mirrors RxOwners.umac ChainsLinked (rxReassemble env s hdr tidIndex view)
      (Datapath.rxReassemble env s.umac hdr tidIndex view.pkt) := by
  unfold rxReassemble Datapath.rxReassemble
  split
  · split
    · exact .some (t := s.release view.id) h
    · split
      · exact .some (t := s.release view.id) h
      · exact rxDeliver_mirrors h hdr tidIndex view
  have hdefrag := @datapathDefrag_mirrors env s h hdr view tidIndex
  cases heq : datapathDefrag env s hdr view tidIndex with
  | none =>
    rw [hdefrag.of_none heq]
    exact .none
  | some r =>
    obtain ⟨s₁, ret⟩ := r
    obtain ⟨humac, h₁⟩ := hdefrag.of_some heq
    rw [humac]
    cases ret with
    | none => exact .some h₁
    | some ret =>
      obtain ⟨view', hdr'⟩ := ret
      exact rxDeliver_mirrors h₁ hdr' tidIndex view'

theorem afterReorder_mirrors (h : Linked s) (x : RxPkt) :
    Mirrors RxOwners.umac Linked (umacDatapathProcessRxDataFrameAfterReorder env s x)
      (Datapath.umacDatapathProcessRxDataFrameAfterReorder env s.umac x.pkt) := by
  have hchains : Mirrors RxOwners.umac ChainsLinked
      (umacDatapathProcessRxDataFrameAfterReorder env s x)
      (Datapath.umacDatapathProcessRxDataFrameAfterReorder env s.umac x.pkt) := by
    unfold umacDatapathProcessRxDataFrameAfterReorder
      Datapath.umacDatapathProcessRxDataFrameAfterReorder
    dsimp only
    cases rxRemoveHeaders x.pkt with
    | none => exact .none
    | some r =>
      obtain ⟨tidIndex, view⟩ := r
      dsimp only
      cases rxCheckSecurity env s.umac.stad.keys x.pkt.dataStart view with
      | none => exact .none
      | some security =>
        dsimp only
        cases security.view with
        | none => exact .some (I := ChainsLinked) (t := RxOwners.release _ x.id) h.chains
        | some view =>
          dsimp only
          refine @rxReassemble_mirrors env _ ?_ _ tidIndex ⟨x.id, view⟩
          refine h.chains.of_eq ?_ rfl
          cases rxExpected env x.pkt.dataStart tidIndex <;> rfl
  -- the list and the room come from what is known of the record
  refine hchains.weaken fun s' hs' h' => ?_
  obtain ⟨humac, -⟩ := hchains.of_some hs'
  obtain ⟨record, hspec⟩ := afterReorder_of_eq_some humac h.room
  refine ⟨?_, h', hspec.chains⟩
  rw [hspec.rxReorderList, h.list, (afterReorder_disposes hs').list]

/-! ## The reorder list -/

theorem flushLoop_mirrors (l : List RxPkt) (h : Linked s) :
    Mirrors RxOwners.umac Linked (flushRxReorderLoop env l s)
      (Datapath.flushRxReorderLoop env (l.map RxPkt.pkt) s.umac) := by
  induction l generalizing s with
  | nil => exact .some h
  | cons x rest ih =>
    exact (afterReorder_mirrors (h.setRxReorderList rest) x).bind fun s₁ h₁ => ih h₁

theorem flush_mirrors (h : Linked s) :
    Mirrors RxOwners.umac Linked (umacDatapathFlushRxReorderList env s)
      (Datapath.umacDatapathFlushRxReorderList env s.umac) := by
  unfold Datapath.umacDatapathFlushRxReorderList
  rw [h.list]
  exact flushLoop_mirrors s.rxReorderList h

theorem flushForTid_mirrors (h : Linked s) (tid : U16) :
    Mirrors RxOwners.umac Linked (umacDatapathFlushRxReorderListForTid env s tid)
      (Datapath.umacDatapathFlushRxReorderListForTid env s.umac tid) := by
  unfold umacDatapathFlushRxReorderListForTid Datapath.umacDatapathFlushRxReorderListForTid
  split
  · exact .some h
  · exact (flush_mirrors h).bind fun s₁ h₁ => flush_mirrors h₁

theorem linked_dequeue (h : Linked s) (x : Mmpkt) :
    Linked { s with umac := (rxReorderDequeue env s.umac x).1 } := by
  obtain ⟨hstad, -⟩ := rxReorderDequeue_stad env s.umac x
  exact h.of_umac (by rw [hstad]) (by rw [hstad])

theorem evaluateLoop_mirrors (l : List RxPkt) (h : Linked s) :
    Mirrors RxOwners.umac Linked (evaluateRxReorderLoop env l s)
      (Datapath.evaluateRxReorderLoop env (l.map RxPkt.pkt) s.umac) := by
  induction l generalizing s with
  | nil => exact .some h
  | cons x rest ih =>
    have hdequeue := @linked_dequeue env s h x.pkt
    unfold evaluateRxReorderLoop
    rw [List.map_cons]
    unfold Datapath.evaluateRxReorderLoop
    generalize rxReorderDequeue env s.umac x.pkt = answer at hdequeue ⊢
    obtain ⟨u, leaves⟩ := answer
    cases leaves with
    | false => exact .some hdequeue
    | true =>
      exact (afterReorder_mirrors (hdequeue.setRxReorderList rest) x).bind fun s₁ h₁ => ih h₁

theorem evaluate_mirrors (h : Linked s) :
    Mirrors RxOwners.umac Linked (umacDatapathEvaluateRxReorderList env s)
      (Datapath.umacDatapathEvaluateRxReorderList env s.umac) := by
  unfold Datapath.umacDatapathEvaluateRxReorderList
  rw [h.list]
  exact evaluateLoop_mirrors s.rxReorderList h

theorem linked_register (h : Linked s) : Linked (registerReorderTimeout env s) :=
  h.of_umac (by rw [umacCoreRegisterTimeout_stad]) (by rw [umacCoreRegisterTimeout_stad])

theorem timeoutHandler_mirrors (h : Linked s) :
    Mirrors RxOwners.umac Linked (umacDatapathRxReorderTimeoutHandler env s)
      (Datapath.umacDatapathRxReorderTimeoutHandler env s.umac) := by
  unfold umacDatapathRxReorderTimeoutHandler Datapath.umacDatapathRxReorderTimeoutHandler
  have heval := @evaluate_mirrors env s h
  cases heq : umacDatapathEvaluateRxReorderList env s with
  | none =>
    rw [heval.of_none heq]
    exact .none
  | some s₁ =>
    obtain ⟨humac, h₁⟩ := heval.of_some heq
    rw [humac, Option.map_some, Option.map_some, h₁.list, List.isEmpty_map]
    split
    · exact .some h₁
    · exact .some (linked_register h₁)

theorem reorderInsertWalk_map (x : RxPkt) (seqCtrl : U16) (l : List RxPkt) :
    Datapath.reorderInsertWalk x.pkt seqCtrl (l.map RxPkt.pkt)
      = (reorderInsertWalk x seqCtrl l).map (Option.map (List.map RxPkt.pkt)) := by
  induction l with
  | nil => rfl
  | cons walk rest ih =>
    cases rest with
    | nil => rfl
    | cons next rest =>
      rw [List.map_cons, List.map_cons] at *
      unfold Datapath.reorderInsertWalk reorderInsertWalk
      dsimp only
      split
      · rfl
      split
      · rfl
      rw [ih]
      cases reorderInsertWalk x seqCtrl (next :: rest) with
      | none => rfl
      | some o => cases o <;> rfl

theorem insert_mirrors (h : Linked s) (x : RxPkt) (seqCtrl : U16) :
    Mirrors RxOwners.umac Linked (reorderInsert env s x seqCtrl)
      (Datapath.reorderInsert env s.umac x.pkt seqCtrl) := by
  unfold reorderInsert Datapath.reorderInsert
  rw [h.list, reorderInsertWalk_map]
  cases reorderInsertWalk x seqCtrl s.rxReorderList with
  | none => exact .none
  | some o =>
    cases o with
    | none => exact .some (t := s.release x.id) ⟨h.list, h.chains, h.room⟩
    | some l => exact evaluate_mirrors (h.setRxReorderList l)

theorem add_mirrors (h : Linked s) (x : RxPkt) (seqCtrl : U16) (maxlen : U8) :
    Mirrors RxOwners.umac Linked (umacDatapathAddRxMpduToReorderList env s x seqCtrl maxlen)
      (Datapath.umacDatapathAddRxMpduToReorderList env s.umac x.pkt seqCtrl maxlen) := by
  have hrelease : Mirrors RxOwners.umac Linked (some (s.release x.id)) (some s.umac) :=
    .some (t := s.release x.id) ⟨h.list, h.chains, h.room⟩
  unfold umacDatapathAddRxMpduToReorderList Datapath.umacDatapathAddRxMpduToReorderList
  rw [h.list]
  cases hlist : s.rxReorderList with
  | nil => exact .some ((linked_register h).setRxReorderList [x])
  | cons head rest =>
    simp only [List.map_cons, List.length_cons, List.length_map]
    split
    · exact hrelease
    split
    · split
      · exact hrelease
      · exact .some (h.setRxReorderList (x :: head :: rest))
    split
    · exact (afterReorder_mirrors (h.setRxReorderList rest) head).bind fun s₁ h₁ =>
        insert_mirrors h₁ x seqCtrl
    · exact insert_mirrors h x seqCtrl

/-! ## A received data frame -/

theorem claim_mirrors (h : Linked s) (tidIndex : U8) :
    Mirrors RxOwners.umac Linked (rxReorderClaim env s tidIndex)
      (Datapath.rxReorderClaim env s.umac tidIndex) := by
  unfold rxReorderClaim Datapath.rxReorderClaim
  split
  · exact (flush_mirrors h).map (fun _ => rfl) fun s₁ h₁ => h₁.of_umac rfl rfl
  · exact .some h

theorem rxReorder_mirrors (h : Linked s) (x : RxPkt) (tidIndex reorderBufSize : U8) :
    Mirrors RxOwners.umac Linked (rxReorder env s x tidIndex reorderBufSize)
      (Datapath.rxReorder env s.umac x.pkt tidIndex reorderBufSize) := by
  unfold rxReorder Datapath.rxReorder
  cases umacBaGetExpectedRxSeqNum s.umac.stad.ba tidIndex with
  | none => exact afterReorder_mirrors h x
  | some expectedSeqCtrl =>
    dsimp only
    split
    · exact (afterReorder_mirrors h x).bind fun s₁ h₁ => evaluate_mirrors h₁
    split
    · exact .some (t := RxOwners.release { s with umac := _ } x.id)
        ⟨h.list, h.chains, h.room⟩
    · exact add_mirrors h x _ reorderBufSize

theorem processRxDataFrame_mirrors (h : Linked s) (x : RxPkt) :
    Mirrors RxOwners.umac Linked (umacDatapathProcessRxDataFrame env s x)
      (Datapath.umacDatapathProcessRxDataFrame env s.umac x.pkt) := by
  unfold umacDatapathProcessRxDataFrame Datapath.umacDatapathProcessRxDataFrame
  dsimp only
  split
  · exact .some (t := s.release x.id) ⟨h.list, h.chains, h.room⟩
  cases umacBaGetReorderBufferSize s.umac.stad.ba (rxTidIndex x.pkt.dataStart) with
  | none => exact .none
  | some reorderBufSize =>
    dsimp only
    split
    · exact afterReorder_mirrors h x
    · exact (claim_mirrors h _).bind fun s₁ h₁ => rxReorder_mirrors h₁ x _ reorderBufSize

theorem processRxFrame_mirrors (h : Linked s) (x : RxPkt) :
    Mirrors RxOwners.umac Linked (umacDatapathProcessRxFrame env s x)
      (Datapath.umacDatapathProcessRxFrame env s.umac x.pkt) := by
  unfold umacDatapathProcessRxFrame Datapath.umacDatapathProcessRxFrame
  dsimp only
  split
  · exact .some (t := s.release x.id) ⟨h.list, h.chains, h.room⟩
  · exact processRxDataFrame_mirrors h x

/-! ## The other events -/

theorem linked_sessions (h : Linked s) {u : UmacData} (hsame : SessionsOnly s.umac u) :
    Linked { s with umac := u } :=
  h.of_umac (by rw [hsame.datapath]) (by rw [hsame.datapath])

theorem rxDelba_mirrors (h : Linked s) (field : BytePtr) (fieldLen : Nat) :
    Mirrors RxOwners.umac Linked (umacBaRxDelba env s field fieldLen)
      (Ba.umacBaRxDelba env s.umac field fieldLen) := by
  unfold umacBaRxDelba Ba.umacBaRxDelba
  split
  · exact .some h
  dsimp only
  cases baTid? ((dot11DelbaParameterSetFieldGetTid (field.le16 2)).setWidth 8) with
  | none => exact .some h
  | some tid =>
    dsimp only
    generalize (if dot11DelbaParameterSetFieldGetInitiator (field.le16 2)
        == dot11DelbaInitiatorOriginator then UmacBaSessionPtr.recipient tid
      else UmacBaSessionPtr.originator tid) = ptr
    split
    · exact .some h
    have hcancel := linked_sessions h
      (.cancel s.umac (.umacBaAddbaReqTimeoutHandler ptr))
    exact (flushForTid_mirrors hcancel _).map (fun _ => rfl) fun s₁ h₁ =>
      linked_sessions h₁ (.setSession s₁.umac ptr _)

theorem baProcessRxFrame_mirrors (h : Linked s) (frame : BytePtr) (frameLen : Nat) :
    Mirrors RxOwners.umac Linked (umacBaProcessRxFrame env s frame frameLen)
      (Ba.umacBaProcessRxFrame env s.umac frame frameLen) := by
  unfold umacBaProcessRxFrame
  by_cases hdelba : sizeofDot11Action ≤ frameLen
      ∧ (frame.add sizeofDot11Hdr) 1 = dot11BaActionNdpDelba
  · rw [if_pos hdelba]
    unfold Ba.umacBaProcessRxFrame
    dsimp only
    rw [if_neg (Nat.not_lt.mpr hdelba.1), hdelba.2, if_neg (by decide), if_neg (by decide),
      if_pos rfl]
    exact rxDelba_mirrors h _ _
  rw [if_neg hdelba]
  cases heq : Ba.umacBaProcessRxFrame env s.umac frame frameLen with
  | none => exact .none
  | some u =>
    refine .some (linked_sessions h ?_)
    unfold Ba.umacBaProcessRxFrame at heq
    dsimp only at heq
    split_ifs at heq with hshort hreq hresp hdelba'
    · cases heq
      exact .rxAddbaReq env s.umac _ _
    · cases heq
      exact .rxAddbaResp env s.umac _ _
    · exact absurd ⟨Nat.le_of_not_lt hshort, hdelba'⟩ hdelba
    · cases heq
      exact .refl s.umac

theorem fireTimeout_mirrors (h : Linked s) (timeout : UmacTimeout) :
    Mirrors RxOwners.umac Linked (fireTimeout env s timeout)
      (Ba.fireTimeout env s.umac timeout) := by
  have herase := linked_sessions h (.erase s.umac timeout)
  unfold fireTimeout Ba.fireTimeout
  split
  · cases timeout with
    | datapathDefragTimeout i =>
      refine .some ⟨?_, herase.chains.update (i := i) rfl
        (RxOwners.releaseChain_fragChains _ i) rfl, ?_⟩
      · exact herase.list.trans (congrArg _ (RxOwners.releaseChain_list _ i).symm)
      · exact herase.room.update rfl fun buf hbuf => nomatch hbuf
    | umacDatapathRxReorderTimeoutHandler => exact timeoutHandler_mirrors herase
    | umacBaAddbaReqTimeoutHandler ptr =>
      exact .some (linked_sessions herase (.addbaReqTimeoutHandler env _ ptr))
  · exact .some h

end Owners

/-- What the receive path has of an event besides the numbers. -/
def RxEvent.stadEvent (env : UmacEnv) (s : RxOwners) : RxEvent → Option StadEvent
  | .rxFrame _ => none
  | .processRx =>
    match s.rxq with
    | [] => none
    | x :: _ =>
      if env.hasStad (dot11GetTa x.pkt.dataStart) then some (.rxDataFrame x.pkt) else none
  | .rxBaFrame frame frameLen => some (.rxBaFrame frame frameLen)
  | .sessionInit tid ssc after => some (.sessionInit tid ssc after)
  | .sessionDeinit tid originator => some (.sessionDeinit tid originator)
  | .keysChanged keys => some (.keysChanged keys)
  | .timeout what => some (.timeout what)
  | .freedTimeout _ => none
  | .stadFlush => none
  | .apRemoveSta => none

theorem rxOwnersStep_mirrors {env : UmacEnv} {e : RxEvent} {e' : StadEvent}
    (h : Linked s) (he : e.stadEvent env s = some e') :
    Mirrors RxOwners.umac Linked (rxOwnersStep env s e) (stadStep env s.umac e') := by
  cases e with
  | rxFrame rxbuf | freedTimeout timeout | stadFlush | apRemoveSta => exact nomatch he
  | processRx =>
    unfold RxEvent.stadEvent at he
    unfold rxOwnersStep
    cases hq : s.rxq with
    | nil =>
      rw [hq] at he
      exact nomatch he
    | cons x rxq =>
      rw [hq] at he
      dsimp only at he ⊢
      split at he
      · rename_i hstad
        cases he
        unfold Owners.umacDatapathProcessRxFrame
        rw [if_neg (by rw [hstad]; decide)]
        exact Owners.processRxDataFrame_mirrors (s := { s with rxq := rxq })
          ⟨h.list, h.chains, h.room⟩ x
      · exact nomatch he
  | rxBaFrame frame frameLen =>
    cases he
    exact Owners.baProcessRxFrame_mirrors h frame frameLen
  | sessionInit tid ssc timeout =>
    cases he
    exact .some (Owners.linked_sessions h (.sessionInit env s.umac tid ssc timeout))
  | sessionDeinit tid originator =>
    cases he
    exact .some (Owners.linked_sessions h (.sessionDeinit env s.umac tid originator))
  | keysChanged keys =>
    cases he
    exact .some (h.of_umac rfl rfl)
  | timeout timeout =>
    cases he
    exact Owners.fireTimeout_mirrors h timeout

/-- The list and the chains are the same. -/
structure SameBuffers (u u' : UmacData) : Prop where
  list : u'.stad.datapath.rxReorderList = u.stad.datapath.rxReorderList
  chains : u'.stad.datapath.fragChains = u.stad.datapath.fragChains

theorem rxFrameFilter_same {env : UmacEnv} {u : UmacData} {rxbuf : Mmpkt} {r : UmacData × Bool}
    (heq : umacDatapathRxFrameFilter env u rxbuf = some r) : SameBuffers u r.1 := by
  have hsame : ∀ {drop : Bool} {r : UmacData × Bool}, some (u, drop) = some r →
      SameBuffers u r.1 := by
    intro drop r h
    cases h
    exact ⟨rfl, rfl⟩
  have hspace : ∀ {hdr : BytePtr} {tidIndex : U8} {r : UmacData × Bool},
      some (rxSeqNumSpaceDuplicate u hdr tidIndex) = some r → SameBuffers u r.1 := by
    intro hdr tidIndex r h
    cases h
    unfold rxSeqNumSpaceDuplicate
    split
    · split <;> exact ⟨rfl, rfl⟩
    · exact ⟨rfl, rfl⟩
  have hduplicate : umacDatapathIsRxFrameDuplicate u rxbuf = some r → SameBuffers u r.1 := by
    intro h
    unfold umacDatapathIsRxFrameDuplicate at h
    dsimp only at h
    split at h
    · exact hsame h
    split at h
    · exact nomatch h
    iterate 3
      split at h
      · exact hsame h
    split at h
    · split at h
      · exact hsame h
      · exact hspace h
    · exact hspace h
  unfold umacDatapathRxFrameFilter at heq
  dsimp only at heq
  generalize (if (dot11FrameControlGetVerTypeSubtype (frameControl rxbuf.dataStart)
      == dot11VerTypeSubtype 0 dot11FcTypeExt dot11FcSubtypeS1gBeacon) = true
    then sizeofDot11S1gBeaconHdr else dot11DataHdrGetLen rxbuf.dataStart) = headerLen at heq
  iterate 8
    split at heq
    · exact hsame heq
  exact hduplicate heq

theorem linked_defragDeinit (h : Linked s) : Linked (Owners.datapathDefragDeinit s) := by
  unfold Owners.datapathDefragDeinit
  induction List.finRange maxFragChains generalizing s with
  | nil => exact h
  | cons i rest ih =>
    refine ih ⟨?_, h.chains.update (i := i) rfl (s.releaseChain_fragChains i) rfl, ?_⟩
    · exact h.list.trans (congrArg _ (s.releaseChain_list i).symm)
    · exact h.room.update rfl fun buf hbuf => nomatch hbuf

theorem linked_step {env : UmacEnv} {e : RxEvent} (h : Linked s)
    (heq : rxOwnersStep env s e = some s') : Linked s' := by
  cases hstad : e.stadEvent env s with
  | some e' => exact ((rxOwnersStep_mirrors h hstad).of_some heq).2
  | none =>
    cases e with
    | rxFrame rxbuf =>
      obtain ⟨⟨u, dropFrame⟩, hfilter, rfl⟩ := Option.map_eq_some_iff.mp heq
      have hsame := rxFrameFilter_same hfilter
      have hlinked : Linked { s with umac := u } := h.of_umac hsame.list hsame.chains
      dsimp only
      split <;> exact ⟨hlinked.list, hlinked.chains, hlinked.room⟩
    | processRx =>
      simp only [rxOwnersStep] at heq
      split at heq
      · cases heq
        exact h
      · rename_i x rxq _
        exact ((Owners.processRxFrame_mirrors (s := { s with rxq := rxq })
          ⟨h.list, h.chains, h.room⟩ x).of_some heq).2
    | rxBaFrame frame frameLen | sessionInit tid ssc timeout | sessionDeinit tid originator
    | keysChanged keys | timeout timeout =>
      cases hstad
    | freedTimeout timeout =>
      simp only [rxOwnersStep] at heq
      split at heq
      · cases heq
      · cases heq
        exact h
    | stadFlush =>
      obtain ⟨s₁, hflush, rfl⟩ := Option.map_eq_some_iff.mp heq
      obtain ⟨-, h₁⟩ := (Owners.flush_mirrors h).of_some hflush
      exact (linked_defragDeinit h₁).of_umac rfl rfl
    | apRemoveSta =>
      cases heq
      exact ⟨rfl, fun i => rfl, linked_init.room⟩

theorem linked_throughout (env : UmacEnv) (events : List RxEvent) :
    Throughout (rxOwnersStep env) Linked rxOwnersInit events :=
  throughout_of_invariant (fun _ _ _ h heq => linked_step h heq) linked_init events

/-! ## Callbacks -/

end MmIotEsp32.Umac.Datapath
