/-
  MmIotEsp32.Umac.Ba.BaWindow

  Where the window of a new block-ack session starts.
-/
import MmIotEsp32.Umac.StadRuns

namespace MmIotEsp32.Umac.Ba

open Lib Dot11 Keys Datapath

variable {env : UmacEnv} {u u' : UmacData} {tid : BaTid}

/-! ## Flushing the list -/

/-- The frame still has its headers. -/
def HasHeaders (pkt : Mmpkt) : Prop := rxHeaderLen pkt.dataStart ≤ pkt.data.length

theorem flushRxReorderLoop_isSome {l : List Mmpkt} (hchains : FragChainsOk u) :
    (∃ u', flushRxReorderLoop env l u = some u') ↔ ∀ pkt ∈ l, HasHeaders pkt := by
  induction l generalizing u with
  | nil =>
    constructor
    · intro _ pkt hpkt
      cases hpkt
    · intro _
      exact ⟨u, rfl⟩
  | cons x rest ih =>
    rw [List.forall_mem_cons]
    constructor
    · rintro ⟨u', heq⟩
      obtain ⟨u₁, hx, hrest⟩ := Option.bind_eq_some_iff.mp heq
      obtain ⟨record, hspec⟩ := afterReorder_of_eq_some hx hchains
      refine ⟨?_, (ih hspec.chains).mp ⟨u', hrest⟩⟩
      by_contra hshort
      rw [afterReorder_eq_none env _ (Nat.lt_of_not_le hshort)] at hx
      cases hx
    rintro ⟨hlong, hrest⟩
    obtain ⟨record, u₁, hx, hspec⟩ :=
      afterReorder_spec env (u := u.setRxReorderList rest) hlong hchains
    obtain ⟨u', heq⟩ := (ih hspec.chains).mpr hrest
    exact ⟨u', Option.bind_eq_some_iff.mpr ⟨u₁, hx, heq⟩⟩

theorem afterReorder_recipient {x : Mmpkt} (hchains : FragChainsOk u)
    (hother : (rxTidIndex x.dataStart).toNat ≠ tid.val)
    (heq : umacDatapathProcessRxDataFrameAfterReorder env u x = some u') :
    u'.stad.ba.recipient tid = u.stad.ba.recipient tid := by
  obtain ⟨record, hspec⟩ := afterReorder_of_eq_some heq hchains
  rw [hspec.ba]
  cases record.expected with
  | none => rfl
  | some seqNum =>
    show (umacBaSetExpectedRxSeqNum u.stad.ba _ seqNum).recipient tid = _
    rw [umacBaSetExpectedRxSeqNum_recipient, if_neg]
    intro h
    exact hother (baTid?_eq_some.mp h.1)

theorem flushRxReorderLoop_recipient {l : List Mmpkt} (hchains : FragChainsOk u)
    (hother : ∀ pkt ∈ l, (rxTidIndex pkt.dataStart).toNat ≠ tid.val)
    (heq : flushRxReorderLoop env l u = some u') :
    u'.stad.ba.recipient tid = u.stad.ba.recipient tid := by
  induction l generalizing u with
  | nil =>
    cases heq
    rfl
  | cons x rest ih =>
    obtain ⟨hx, hrest⟩ := List.forall_mem_cons.mp hother
    obtain ⟨u₁, hhead, htail⟩ := Option.bind_eq_some_iff.mp heq
    obtain ⟨record, hspec⟩ := afterReorder_of_eq_some hhead hchains
    rw [ih hspec.chains hrest htail]
    exact afterReorder_recipient (u := u.setRxReorderList rest) hchains hx hhead

/-! ## Outdated frames -/

/-- The frame is dropped because it is behind the window. -/
def DroppedAsOutdated (env : UmacEnv) (u : UmacData) (x : Mmpkt) : Prop :=
  ∃ u', umacDatapathProcessRxDataFrame env u x = some u'
    ∧ u'.outdatedDrops = sequenceControl x.dataStart :: u.outdatedDrops

theorem listInvariant_drops (env : UmacEnv) (drops : List U16) :
    ListInvariant env fun u => FragChainsOk u ∧ u.outdatedDrops = drops where
  handOn := by
    intro u u' x h heq
    obtain ⟨record, hspec⟩ := afterReorder_of_eq_some heq h.1
    exact ⟨hspec.chains, hspec.outdatedDrops.trans h.2⟩
  list := fun _ h => h
  listTid := fun _ h => h
  ticked := fun h => h
  timeout := by
    intro u h
    unfold FragChainsOk
    rw [umacCoreRegisterTimeout_stad]
    refine ⟨h.1, ?_⟩
    unfold umacCoreRegisterTimeout
    split <;> exact h.2

theorem rxReorder_drops {x : Mmpkt} {tidIndex size : U8} (hchains : FragChainsOk u)
    (hindex : baTid? tidIndex = some tid) (hstatus : (u.stad.ba.recipient tid).status = .success)
    (heq : rxReorder env u x tidIndex size = some u') :
    u'.outdatedDrops
      = if dot11SequenceControlLt (sequenceControl x.dataStart)
          (u.stad.ba.recipient tid).nextExpectedRxSeqNum
        then sequenceControl x.dataStart :: u.outdatedDrops else u.outdatedDrops := by
  have hkeep := listInvariant_drops env u.outdatedDrops
  have hexpected : umacBaGetExpectedRxSeqNum u.stad.ba tidIndex
      = some (u.stad.ba.recipient tid).nextExpectedRxSeqNum := by
    unfold umacBaGetExpectedRxSeqNum
    rw [hindex]
    dsimp only
    rw [if_neg (not_not_intro hstatus)]
  unfold rxReorder at heq
  rw [hexpected] at heq
  dsimp only at heq
  split at heq
  · next hsame =>
      -- the frame that is expected
      obtain ⟨u₁, hx, heval⟩ := Option.bind_eq_some_iff.mp heq
      rw [beq_iff_eq.mp hsame, if_neg, (hkeep.evaluate (hkeep.handOn ⟨hchains, rfl⟩ hx) heval).2]
      simp [dot11SequenceControlLt, serialLt]
  split at heq
  · next hlt =>
      cases heq
      rw [if_pos hlt]
  · next hlt =>
      rw [if_neg hlt, (hkeep.add ⟨hchains, rfl⟩ heq).2]

theorem rxReorderClaim_spec {tidIndex : U8} (hlist : ListOfTid (fun _ => True) u)
    (hindex : tidIndex.toNat = tid.val) :
    ((∃ u', rxReorderClaim env u tidIndex = some u') ↔
        u.stad.datapath.rxReorderTid.toNat = tid.val
          ∨ ∀ pkt ∈ u.stad.datapath.rxReorderList, HasHeaders pkt)
      ∧ ∀ u', rxReorderClaim env u tidIndex = some u' →
          FragChainsOk u' ∧ u'.outdatedDrops = u.outdatedDrops
            ∧ u'.stad.ba.recipient tid = u.stad.ba.recipient tid := by
  have hmine : u.stad.datapath.rxReorderTid.toNat = tid.val ↔
      u.stad.datapath.rxReorderTid = tidIndex.setWidth 16 := by
    rw [← hindex, ← BitVec.toNat_inj, BitVec.toNat_setWidth]
    have hlt := tidIndex.isLt
    rw [Nat.mod_eq_of_lt (by omega)]
  unfold rxReorderClaim
  by_cases hsame : u.stad.datapath.rxReorderTid = tidIndex.setWidth 16
  · rw [if_neg (by simpa using hsame)]
    refine ⟨⟨fun _ => Or.inl (hmine.mpr hsame), fun _ => ⟨u, rfl⟩⟩, ?_⟩
    intro u' heq
    cases heq
    exact ⟨hlist.chains, rfl, rfl⟩
  rw [if_pos (by simpa using hsame)]
  constructor
  · have hflushed : (∃ u', flushRxReorderLoop env u.stad.datapath.rxReorderList u = some u') ↔ _ :=
      flushRxReorderLoop_isSome hlist.chains
    rw [hmine, or_iff_right hsame, ← hflushed]
    constructor
    · rintro ⟨u', heq⟩
      obtain ⟨u₁, hflush, -⟩ := Option.map_eq_some_iff.mp heq
      exact ⟨u₁, hflush⟩
    · rintro ⟨u₁, hflush⟩
      exact ⟨_, Option.map_eq_some_iff.mpr ⟨u₁, hflush, rfl⟩⟩
  intro u' heq
  obtain ⟨u₁, hflush, rfl⟩ := Option.map_eq_some_iff.mp heq
  obtain ⟨hchains, hdrops⟩ :=
    (listInvariant_drops env u.outdatedDrops).flush ⟨hlist.chains, rfl⟩ hflush
  refine ⟨hchains, hdrops, ?_⟩
  show u₁.stad.ba.recipient tid = u.stad.ba.recipient tid
  refine flushRxReorderLoop_recipient hlist.chains (fun pkt hpkt htid => hsame ?_) hflush
  -- a frame of the TID would be on the list of that TID
  rw [← (hlist.entries pkt hpkt).2]
  unfold tidOf
  rw [BitVec.eq_of_toNat_eq (htid.trans hindex.symm)]

theorem droppedAsOutdated_iff {x : Mmpkt} (hlist : ListOfTid (fun _ => True) u)
    (hstatus : (u.stad.ba.recipient tid).status = .success)
    (hsize : (u.stad.ba.recipient tid).bufferSize.toNat ≤ 0xff)
    (hdata : isNullData x.dataStart = false) (htid : (rxTidIndex x.dataStart).toNat = tid.val) :
    DroppedAsOutdated env u x ↔
      (u.stad.ba.recipient tid).bufferSize ≠ 0
        ∧ dot11SequenceControlLt (sequenceControl x.dataStart)
            (u.stad.ba.recipient tid).nextExpectedRxSeqNum = true
        ∧ (u.stad.datapath.rxReorderTid.toNat = tid.val
          ∨ ∀ pkt ∈ u.stad.datapath.rxReorderList, HasHeaders pkt) := by
  have hindex : baTid? (rxTidIndex x.dataStart) = some tid := baTid?_eq_some.mpr htid
  have hbuffer : umacBaGetReorderBufferSize u.stad.ba (rxTidIndex x.dataStart)
      = some ((u.stad.ba.recipient tid).bufferSize.setWidth 8) := by
    unfold umacBaGetReorderBufferSize
    rw [hindex]
    dsimp only
    rw [if_pos hsize]
  have hzero : (u.stad.ba.recipient tid).bufferSize.setWidth 8 = (0 : U8) ↔
      (u.stad.ba.recipient tid).bufferSize = 0 := by
    rw [← BitVec.toNat_inj, ← BitVec.toNat_inj, BitVec.toNat_setWidth,
      Nat.mod_eq_of_lt (by omega)]
    rfl
  have hqos : ¬ mmwlanMaxQosTid < (rxTidIndex x.dataStart).toNat := by
    have hlt : tid.val < 6 := tid.isLt
    unfold mmwlanMaxQosTid
    omega
  have hclaim : ((∃ u', rxReorderClaim env u (rxTidIndex x.dataStart) = some u') ↔ _) ∧ _ :=
    rxReorderClaim_spec hlist htid
  obtain ⟨hclaims, hkept⟩ := hclaim
  rw [← hclaims]
  unfold DroppedAsOutdated umacDatapathProcessRxDataFrame
  dsimp only
  rw [hdata, if_neg Bool.false_ne_true, hbuffer]
  dsimp only
  rw [decide_eq_false hqos, Bool.false_or]
  by_cases hnone : (u.stad.ba.recipient tid).bufferSize = 0
  · rw [if_pos (by simp [hnone])]
    constructor
    · rintro ⟨u', heq, hdropped⟩
      obtain ⟨record, hspec⟩ := afterReorder_of_eq_some heq hlist.chains
      rw [hspec.outdatedDrops] at hdropped
      exact absurd hdropped.symm (List.cons_ne_self _ _)
    · intro h
      exact absurd hnone h.1
  rw [if_neg (by simpa using fun h => hnone (hzero.mp h))]
  constructor
  · rintro ⟨u', heq, hdropped⟩
    obtain ⟨u₁, hclaim, hreorder⟩ := Option.bind_eq_some_iff.mp heq
    obtain ⟨hchains, hdrops, hsession⟩ := hkept u₁ hclaim
    refine ⟨hnone, ?_, u₁, hclaim⟩
    rw [rxReorder_drops hchains hindex (hsession ▸ hstatus) hreorder, hsession, hdrops]
      at hdropped
    by_contra hlt
    rw [if_neg hlt] at hdropped
    exact absurd hdropped.symm (List.cons_ne_self _ _)
  rintro ⟨-, hlt, u₁, hclaim⟩
  obtain ⟨hchains, hdrops, hsession⟩ := hkept u₁ hclaim
  refine ⟨{ u₁ with outdatedDrops := sequenceControl x.dataStart :: u₁.outdatedDrops },
    ?_, by rw [← hdrops]⟩
  rw [hclaim, Option.bind_some]
  -- the window is ahead, so the frame is not the expected one
  have hne : sequenceControl x.dataStart ≠ (u.stad.ba.recipient tid).nextExpectedRxSeqNum := by
    intro heq
    rw [heq] at hlt
    exact absurd hlt (by simp [dot11SequenceControlLt, serialLt])
  unfold rxReorder umacBaGetExpectedRxSeqNum
  rw [hindex]
  dsimp only
  rw [hsession, if_neg (not_not_intro hstatus)]
  dsimp only
  rw [if_neg (by simpa using hne), if_pos hlt]

/-! ## An accepted request -/

/-- `ba_ssc` of an ADDBA request. -/
def addbaReqSsc (field : BytePtr) : U16 := field.le16 7

/-- The buffer size that is agreed on. -/
def addbaReqBufferSize (field : BytePtr) : U16 :=
  minU16 (dot11BaParameterSetFieldGetBufferSize (field.le16 3))
    umacConfigGetDatapathRxReorderListMaxlen

/-- The request opens the session of the TID. -/
structure AddbaReqAccepted (env : UmacEnv) (u : UmacData) (field : BytePtr) (fieldLen : Nat)
    (tid : BaTid) : Prop where
  before : (u.stad.ba.recipient tid).status = .disabled
  after : ((umacBaRxAddbaReq env u field fieldLen).stad.ba.recipient tid).status = .success

theorem AddbaReqAccepted.session {field : BytePtr} {fieldLen : Nat}
    (h : AddbaReqAccepted env u field fieldLen tid) :
    ((umacBaRxAddbaReq env u field fieldLen).stad.ba.recipient tid).bufferSize
        = addbaReqBufferSize field
      ∧ ((umacBaRxAddbaReq env u field fieldLen).stad.ba.recipient tid).nextExpectedRxSeqNum
        = (u.stad.ba.recipient tid).nextExpectedRxSeqNum := by
  have hbefore := h.before
  have hafter := h.after
  have hrefused : ∀ {P : Prop}, (u.stad.ba.recipient tid).status = .success → P := by
    intro P hsuccess
    rw [hbefore] at hsuccess
    cases hsuccess
  unfold umacBaRxAddbaReq umacBaTxAddbaResp umacDatapathBuildAndTxMgmtFrame at hafter ⊢
  split at hafter
  · exact hrefused hafter
  rename_i hlen
  rw [if_neg hlen]
  dsimp only at hafter ⊢
  cases hindex : baTid? ((dot11BaParameterSetFieldGetTid (field.le16 3)).setWidth 8) with
  | none =>
    rw [hindex] at hafter
    exact hrefused hafter
  | some i =>
    rw [hindex] at hafter
    dsimp only at hafter ⊢
    by_cases hi : tid = i
    · subst hi
      split_ifs at hafter ⊢
      all_goals first
        | exact hrefused hafter
        | (simp [setStatus, setSession, UmacData.setBa, UmacData.ticked,
            UmacBaStaData.setSession, hbefore] at hafter; done)
        | (simp [setStatus, setSession, UmacData.setBa, UmacData.ticked,
            UmacBaStaData.setSession, UmacBaStaData.session, addbaReqBufferSize])
    -- a request for another TID
    apply hrefused
    split_ifs at hafter <;>
      simpa [setStatus, setSession, UmacData.setBa, UmacData.ticked,
        UmacBaStaData.setSession, Function.update_of_ne hi] using hafter

/-! ## The window -/

/-- No data frame of the TID in the half of the sequence space that starts at `ssc` is
dropped as outdated. -/
def WindowStartsAt (env : UmacEnv) (u : UmacData) (tid : BaTid) (ssc : U16) : Prop :=
  ∀ x : Mmpkt, isNullData x.dataStart = false → (rxTidIndex x.dataStart).toNat = tid.val →
    2 * serialDist ssc (sequenceControl x.dataStart) < 2 ^ 16 → ¬ DroppedAsOutdated env u x

/-- A QoS data frame of a TID without payload. -/
def qosMpdu (tid : BaTid) (seqCtrl : U16) : Mmpkt where
  startOffset := 0
  data := (bareHdr 0x0088 seqCtrl).take sizeofDot11Hdr ++ [BitVec.ofNat 8 tid.val, 0]
  behind := fun _ => 0
  tailroom := 0
  rx := ⟨false, 0⟩

theorem qosMpdu_hdr (tid : BaTid) (seqCtrl : U16) {i : Nat} (hi : i < sizeofDot11Hdr) :
    (qosMpdu tid seqCtrl).dataStart i = bareHdr 0x0088 seqCtrl i := by
  have hlen : ((bareHdr 0x0088 seqCtrl).take sizeofDot11Hdr).length = sizeofDot11Hdr :=
    BytePtr.length_take _ _
  unfold Mmpkt.dataStart qosMpdu
  dsimp only
  rw [dif_pos (by rw [List.length_append]; omega), List.getElem_append_left (by omega)]
  simp only [BytePtr.take, List.getElem_map, List.getElem_range]

theorem qosMpdu_qosCtrl (tid : BaTid) (seqCtrl : U16) :
    (qosMpdu tid seqCtrl).dataStart.le16 sizeofDot11Hdr = BitVec.ofNat 16 tid.val := by
  have hlen : ((bareHdr 0x0088 seqCtrl).take sizeofDot11Hdr).length = sizeofDot11Hdr :=
    BytePtr.length_take _ _
  have hfield : ∀ tid : BaTid,
      (0 : U8) ++ BitVec.ofNat 8 tid.val = BitVec.ofNat 16 tid.val := by decide
  unfold BytePtr.le16 Mmpkt.dataStart qosMpdu
  dsimp only
  rw [dif_pos (by rw [List.length_append, hlen]; simp only [List.length_cons, List.length_nil]; omega),
    dif_pos (by rw [List.length_append, hlen]; simp only [List.length_cons, List.length_nil]; omega),
    List.getElem_append_right (by omega), List.getElem_append_right (by omega)]
  simp only [hlen, Nat.sub_self, Nat.add_sub_cancel_left]
  exact hfield tid

theorem qosMpdu_frameControl (tid : BaTid) (seqCtrl : U16) :
    frameControl (qosMpdu tid seqCtrl).dataStart = 0x0088 := by
  unfold frameControl BytePtr.le16
  rw [qosMpdu_hdr tid seqCtrl (by decide), qosMpdu_hdr tid seqCtrl (by decide)]
  show (0x0088 >>> 8 : U16).setWidth 8 ++ (0x0088 : U16).setWidth 8 = (0x0088 : U16)
  decide

theorem qosMpdu_isNullData (tid : BaTid) (seqCtrl : U16) :
    isNullData (qosMpdu tid seqCtrl).dataStart = false := by
  unfold isNullData
  rw [qosMpdu_frameControl]
  rfl

theorem qosMpdu_rxTidIndex (tid : BaTid) (seqCtrl : U16) :
    (rxTidIndex (qosMpdu tid seqCtrl).dataStart).toNat = tid.val := by
  have hra : mmMacAddrIsMulticast (dot11GetRa (qosMpdu tid seqCtrl).dataStart) = false := by
    unfold mmMacAddrIsMulticast dot11GetRa addr1 macAddrAt
    rw [qosMpdu_hdr tid seqCtrl (by decide)]
    show ((0 : U8) &&& 0x01 != 0) = false
    decide
  have hlen : dot11DataHdrGetLen (qosMpdu tid seqCtrl).dataStart = sizeofDot11Hdr := by
    unfold dot11DataHdrGetLen
    rw [qosMpdu_frameControl]
    rfl
  have hfield : ∀ tid : BaTid,
      ((dot11QosControlGetTid (BitVec.ofNat 16 tid.val)).setWidth 8).toNat = tid.val := by decide
  unfold rxTidIndex
  rw [hra, hlen, qosMpdu_frameControl, qosMpdu_qosCtrl, if_pos (by decide)]
  exact hfield tid

theorem qosMpdu_sequenceControl (tid : BaTid) (seqCtrl : U16) :
    sequenceControl (qosMpdu tid seqCtrl).dataStart = seqCtrl := by
  unfold sequenceControl BytePtr.le16
  rw [qosMpdu_hdr tid seqCtrl (by decide), qosMpdu_hdr tid seqCtrl (by decide)]
  show (seqCtrl >>> 8).setWidth 8 ++ seqCtrl.setWidth 8 = seqCtrl
  ext i hi
  simp only [BitVec.getElem_append, BitVec.getElem_setWidth, BitVec.getLsbD_ushiftRight]
  split
  · rw [BitVec.getLsbD_eq_getElem hi]
  · rw [show 8 + (i - 8) = i by omega, BitVec.getLsbD_eq_getElem hi]

theorem minU16_le_right (a b : U16) : (minU16 a b).toNat ≤ b.toNat := by
  unfold minU16
  split
  · next hlt =>
      have := BitVec.lt_def.mp hlt
      omega
  · exact Nat.le_refl _

/-- The window of an accepted session starts where the request says exactly when the session
has no buffer, its window stood there already, or the list of another TID cannot be
flushed. -/
theorem window_starts_at_ssc_iff (env : UmacEnv) (events : List StadEvent) (u : UmacData)
    (hrun : runFrom (stadStep env) umacStadInit events = some u) (field : BytePtr)
    (fieldLen : Nat) (tid : BaTid) (haccepted : AddbaReqAccepted env u field fieldLen tid) :
    WindowStartsAt env (umacBaRxAddbaReq env u field fieldLen) tid (addbaReqSsc field) ↔
      addbaReqBufferSize field = 0
        ∨ (u.stad.ba.recipient tid).nextExpectedRxSeqNum = addbaReqSsc field
        ∨ (u.stad.datapath.rxReorderTid.toNat ≠ tid.val
          ∧ ∃ pkt ∈ u.stad.datapath.rxReorderList, ¬ HasHeaders pkt) := by
  have hsame := SessionsOnly.rxAddbaReq env u field fieldLen
  have hlist : ListOfTid (fun _ => True) (umacBaRxAddbaReq env u field fieldLen) := by
    have hinit : ListOfTid (fun _ => True) umacStadInit := by
      refine ⟨?_, rfl, ?_⟩
      · intro i buf hbuf
        cases hbuf
      · intro pkt hpkt
        cases hpkt
    have hreached := ((stadInvariant_listOfTid env).throughout hinit events).of_runFrom hrun
    exact (stadInvariant_listOfTid env).sessions hreached hsame
  obtain ⟨hsize, hexpected⟩ := haccepted.session
  have hsmall : ((umacBaRxAddbaReq env u field fieldLen).stad.ba.recipient tid).bufferSize.toNat
      ≤ 0xff := by
    rw [hsize]
    exact Nat.le_trans (minU16_le_right _ _) (by decide)
  -- whether a frame is dropped depends on its sequence control only
  have hdropped : ∀ x : Mmpkt, isNullData x.dataStart = false →
      (rxTidIndex x.dataStart).toNat = tid.val →
        (DroppedAsOutdated env (umacBaRxAddbaReq env u field fieldLen) x ↔
          addbaReqBufferSize field ≠ 0
            ∧ serialLt (sequenceControl x.dataStart)
                (u.stad.ba.recipient tid).nextExpectedRxSeqNum = true
            ∧ (u.stad.datapath.rxReorderTid.toNat = tid.val
              ∨ ∀ pkt ∈ u.stad.datapath.rxReorderList, HasHeaders pkt)) := by
    intro x hdata htid
    rw [droppedAsOutdated_iff hlist haccepted.after hsmall hdata htid, hsize, hexpected,
      hsame.datapath]
    exact Iff.rfl
  have hwindow : WindowStartsAt env (umacBaRxAddbaReq env u field fieldLen) tid
        (addbaReqSsc field) ↔
      ∀ s, 2 * serialDist (addbaReqSsc field) s < 2 ^ 16 →
        ¬ (addbaReqBufferSize field ≠ 0
            ∧ serialLt s (u.stad.ba.recipient tid).nextExpectedRxSeqNum = true
            ∧ (u.stad.datapath.rxReorderTid.toNat = tid.val
              ∨ ∀ pkt ∈ u.stad.datapath.rxReorderList, HasHeaders pkt)) := by
    constructor
    · intro h s hs
      have hframe := h (qosMpdu tid s) (qosMpdu_isNullData tid s) (qosMpdu_rxTidIndex tid s)
      rw [hdropped _ (qosMpdu_isNullData tid s) (qosMpdu_rxTidIndex tid s),
        qosMpdu_sequenceControl] at hframe
      exact hframe hs
    · intro h x hdata htid hx
      rw [hdropped x hdata htid]
      exact h _ hx
  rw [hwindow, ← forall_not_serialLt_iff (b := (u.stad.ba.recipient tid).nextExpectedRxSeqNum)
    (s := addbaReqSsc field) (by decide : 0 < 16)]
  by_cases hzero : addbaReqBufferSize field = 0
  · constructor
    · intro _
      exact Or.inl hzero
    · intro _ s _ h
      exact h.1 hzero
  by_cases hflush : u.stad.datapath.rxReorderTid.toNat = tid.val
      ∨ ∀ pkt ∈ u.stad.datapath.rxReorderList, HasHeaders pkt
  · have hno : ¬ (u.stad.datapath.rxReorderTid.toNat ≠ tid.val
        ∧ ∃ pkt ∈ u.stad.datapath.rxReorderList, ¬ HasHeaders pkt) := by
      rintro ⟨hother, pkt, hpkt, hshort⟩
      rcases hflush with hmine | hall
      · exact hother hmine
      · exact hshort (hall pkt hpkt)
    rw [or_iff_right hzero, or_iff_left hno]
    simp only [hzero, hflush, ne_eq, not_false_eq_true, true_and, and_true,
      Bool.not_eq_true]
  have hshort : u.stad.datapath.rxReorderTid.toNat ≠ tid.val
      ∧ ∃ pkt ∈ u.stad.datapath.rxReorderList, ¬ HasHeaders pkt := by
    simpa using hflush
  constructor
  · intro _
    exact Or.inr (Or.inr hshort)
  · intro _ s _ h
    exact hflush h.2.2

/-- A request for TID 0 with sixteen buffers and an immediate policy. -/
def addbaReq (ssc : U16) : BytePtr
  | 1 => dot11BaActionNdpAddbaReq
  | 2 => 1
  | 3 => 0x02
  | 4 => 0x04
  | 7 => ssc.setWidth 8
  | 8 => (ssc >>> 8).setWidth 8
  | _ => 0

/-- The first session of a new STA record starts at zero, as its request says. -/
theorem window_starts_at_zero :
    WindowStartsAt openEnv (umacBaRxAddbaReq openEnv umacStadInit (addbaReq 0) 9) ⟨0, by decide⟩ 0 :=
  (window_starts_at_ssc_iff openEnv [] umacStadInit rfl (addbaReq 0) 9 ⟨0, by decide⟩
    ⟨rfl, rfl⟩).mpr (Or.inr (Or.inl rfl))

/-- A session whose request says 0x9000 drops the frame with that sequence control. -/
theorem first_frame_is_outdated :
    ¬ ∀ (env : UmacEnv) (events : List StadEvent) (u : UmacData),
      runFrom (stadStep env) umacStadInit events = some u →
        ∀ (field : BytePtr) (fieldLen : Nat) (tid : BaTid),
          AddbaReqAccepted env u field fieldLen tid →
            WindowStartsAt env (umacBaRxAddbaReq env u field fieldLen) tid (addbaReqSsc field) := by
  intro h
  have hwindow := h openEnv [] umacStadInit rfl (addbaReq 0x9000) 9 ⟨0, by decide⟩ ⟨rfl, rfl⟩
  exact hwindow (qosMpdu ⟨0, by decide⟩ 0x9000) (qosMpdu_isNullData _ _) (qosMpdu_rxTidIndex _ _)
    (by decide) ⟨_, rfl, rfl⟩

end MmIotEsp32.Umac.Ba
