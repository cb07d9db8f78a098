/-
  MmIotEsp32.Umac.Datapath.AfterReorder

  A data frame that has left the reorder list:
  `umac_datapath_process_rx_data_frame_after_reorder` of
  `umac/datapath/umac_datapath.c`.
-/
import MmIotEsp32.Umac.Datapath.Defrag

namespace MmIotEsp32.Umac.Datapath

open Dot11 Keys Ba SupplicantShim

/-! ## LLC/SNAP and 802.3 headers -/

def umac8021HeaderLen : Nat := 8

def snap8021h : List U8 := [0xaa, 0xaa, 0x03, 0x00, 0x00, 0x00]

def ethertypeEapol : U16 := 0x888e

def umacDatapathValidateBufLen (view : Mmpkt) (minLength : Nat) : Bool :=
  !(mmpktGetDataLength view < minLength)

def umacDatapathGetLlcEthertype (view : Mmpkt) : U16 :=
  if !umacDatapathValidateBufLen view umac8021HeaderLen then 0
  else
    let header := view.dataStart
    if header.take snap8021h.length != snap8021h then 0
    else header snap8021h.length ++ header (snap8021h.length + 1)

def umacDatapathIsEapolFrame (rxbufview : Mmpkt) : Bool :=
  umacDatapathGetLlcEthertype rxbufview == ethertypeEapol

def umacDatapathGenerate8023Header (destAddr srcAddr : MacAddr) (ethertype : U16) : List U8 :=
  List.ofFn destAddr ++ List.ofFn srcAddr
    ++ [(ethertype >>> 8).setWidth 8, ethertype.setWidth 8]

theorem length_generate8023Header (destAddr srcAddr : MacAddr) (ethertype : U16) :
    (umacDatapathGenerate8023Header destAddr srcAddr ethertype).length = 14 := by
  simp [umacDatapathGenerate8023Header]

/-! ## The stages -/

/-- The TID of a data frame, where the source reads it: behind the data header, which
may be behind the data. -/
def rxTidIndex (hdr : BytePtr) : U8 :=
  if dot11FrameControlGetSubtype (frameControl hdr) == dot11FcSubtypeQosData
      && !mmMacAddrIsMulticast (dot11GetRa hdr) then
    (dot11QosControlGetTid (hdr.le16 (dot11DataHdrGetLen hdr))).setWidth 8
  else mmdrvSeqNumBaseline

/-- Removal of the data header and of the QoS control field, with the TID; `none` is
one of the two assertions. -/
def rxRemoveHeaders (rxbuf : Mmpkt) : Option (U8 × Mmpkt) :=
  let hdr := rxbuf.dataStart
  match mmpktRemoveFromStart rxbuf (dot11DataHdrGetLen hdr) with
  | none => none
  | some view =>
    if dot11FrameControlGetSubtype (frameControl hdr) == dot11FcSubtypeQosData then
      match mmpktRemoveFromStart view sizeofDot11QosCtrl with
      | none => none
      | some view' =>
        if !mmMacAddrIsMulticast (dot11GetRa hdr) then
          some ((dot11QosControlGetTid (view.dataStart.le16 0)).setWidth 8, view')
        else some (mmdrvSeqNumBaseline, view')
    else some (mmdrvSeqNumBaseline, view)

/-- What the security checks leave: the keychain, the packet number that was checked
with the answer, and the frame unless it was dropped. -/
structure RxSecurity where
  keys : ConnectionKeysData
  ccmp : Option (KeySlot × U64 × Bool)
  view : Option Mmpkt

/-- The security checks; `none` is an assertion on the key id. -/
def rxCheckSecurity (env : UmacEnv) (keys : ConnectionKeysData) (hdr : BytePtr) (view : Mmpkt) :
    Option RxSecurity :=
  let isProtected := dot11FrameControlGetProtected (frameControl hdr)
  if env.securityType != .open && !isProtected && !umacDatapathIsEapolFrame view then
    some ⟨keys, none, none⟩
  else if isProtected then
    if !view.rx.decrypted then some ⟨keys, none, none⟩
    else
      let ccmpHeader := view.dataStart
      match mmpktRemoveFromStart view dot11CcmpHeaderLen with
      | none => some ⟨keys, none, none⟩
      | some view =>
        match ccmpIsValid keys ccmpHeader .default with
        | none => none
        | some (keys, valid) =>
          let ccmp := some (ccmpSlot ccmpHeader, parseCcmpPacketNumber ccmpHeader, valid)
          if !valid then some ⟨keys, ccmp, none⟩
          else some ⟨keys, ccmp, mmpktRemoveFromEnd view dot11Ccmp128MicLen⟩
  else some ⟨keys, none, some view⟩

/-- The value for `umac_ba_set_expected_rx_seq_num`, where it is called. -/
def rxExpected (env : UmacEnv) (hdr : BytePtr) (tidIndex : U8) : Option U16 :=
  if decide (tidIndex.toNat ≤ mmwlanMaxQosTid)
      && (dot11FrameControlGetProtected (frameControl hdr) || env.securityType == .open) then
    some (dot11GetNextSequenceControl hdr)
  else none

/-- Delivery to the network stack; `none` is an assertion of `mmpkt_prepend`. -/
def rxDeliverToStack (env : UmacEnv) (u : UmacData) (hdr : BytePtr) (tidIndex : U8)
    (view : Mmpkt) : Option UmacData :=
  let u' := u.ticked
  if env.staState u.tick ≠ .connected then some u'
  else
    let llcEthertype := umacDatapathGetLlcEthertype view
    if llcEthertype == 0 then some u'
    else
      let header8023 :=
        umacDatapathGenerate8023Header (dot11GetDa hdr) (dot11GetSaData hdr) llcEthertype
      let view := (mmpktRemoveFromStart view umac8021HeaderLen).getD view
      if env.vif = .unspecified then some u'
      else if env.rxPktExtCb then
        (mmpktPrependData view header8023).map fun view =>
          u'.upcall (.rxPktExt view.data env.vif tidIndex (dot11GetTa hdr))
      else if env.rxPktCallback then
        (mmpktPrependData view header8023).map fun view => u'.upcall (.rxPkt view.data)
      else if env.rxCallback then some (u'.upcall (.rx header8023 view.data))
      else some u'

/-- EAPOL frames go to the supplicant, the others to the network stack; `none` is the
assertion of `umac_datapath_process_rx_eapol_frame` or one of `mmpkt_prepend`. -/
def rxDeliver (env : UmacEnv) (u : UmacData) (hdr : BytePtr) (tidIndex : U8) (view : Mmpkt) :
    Option UmacData :=
  if umacDatapathIsEapolFrame view then
    if dot11Is4addrHdr (frameControl hdr) then some u
    else
      (mmpktRemoveFromStart view umac8021HeaderLen).map fun view =>
        u.upcall (.l2SockReceive view.data (dot11GetSa hdr))
  else rxDeliverToStack env u hdr tidIndex view

/-- Group frames are filtered, the others go through reassembly. -/
def rxReassemble (env : UmacEnv) (u : UmacData) (hdr : BytePtr) (tidIndex : U8) (view : Mmpkt) :
    Option UmacData :=
  if isGroupAddr (dot11GetDa hdr) then
    if dot11FrameControlGetMoreFragments (frameControl hdr) then some u
    else if dot11FrameControlGetFromDs (frameControl hdr)
        && umacInterfaceAddrMatchesMacAddr env (dot11GetSaData hdr) then some u
    else rxDeliver env u hdr tidIndex view
  else
    match datapathDefrag env u hdr view tidIndex with
    | none => none
    | some (u, none) => some u
    | some (u, some (view, hdr)) => rxDeliver env u hdr tidIndex view

/-- The block-ack window moves where a value is given for it. -/
def moveExpected (u : UmacData) (tidIndex : U8) : Option U16 → UmacData
  | none => u
  | some seqNum => u.setBa (umacBaSetExpectedRxSeqNum u.stad.ba tidIndex seqNum)

def umacDatapathProcessRxDataFrameAfterReorder (env : UmacEnv) (u : UmacData) (rxbuf : Mmpkt) :
    Option UmacData :=
  let hdr := rxbuf.dataStart
  match rxRemoveHeaders rxbuf with
  | none => none
  | some (tidIndex, view) =>
    match rxCheckSecurity env u.stad.keys hdr view with
    | none => none
    | some security =>
      let u := u.setKeys security.keys
      match security.view with
      | none => some (u.log ⟨sequenceControl hdr, tidIndex, security.ccmp, false, none⟩)
      | some view =>
        let expected := rxExpected env hdr tidIndex
        let u := (moveExpected u tidIndex expected).log
          ⟨sequenceControl hdr, tidIndex, security.ccmp, true, expected⟩
        rxReassemble env u hdr tidIndex view

/-! ## Headers -/

/-- The length of the headers that are removed. -/
def rxHeaderLen (hdr : BytePtr) : Nat :=
  dot11DataHdrGetLen hdr
    + if dot11FrameControlGetSubtype (frameControl hdr) == dot11FcSubtypeQosData
      then sizeofDot11QosCtrl else 0

theorem rxRemoveHeaders_eq (rxbuf : Mmpkt) :
    rxRemoveHeaders rxbuf
      = if rxbuf.data.length < rxHeaderLen rxbuf.dataStart then none
        else some (rxTidIndex rxbuf.dataStart,
          { rxbuf with
            startOffset := rxbuf.startOffset + rxHeaderLen rxbuf.dataStart
            data := rxbuf.data.drop (rxHeaderLen rxbuf.dataStart) }) := by
  unfold rxRemoveHeaders rxTidIndex rxHeaderLen
  dsimp only
  generalize hhdr : rxbuf.dataStart = hdr
  generalize hlen : dot11DataHdrGetLen hdr = len
  by_cases hshort : rxbuf.data.length < len
  · rw [mmpktRemoveFromStart_eq_none.mpr hshort, if_pos (by omega)]
  rw [mmpktRemoveFromStart_eq_some.mpr ⟨by omega, rfl⟩]
  dsimp only
  by_cases hqos : (dot11FrameControlGetSubtype (frameControl hdr)
      == dot11FcSubtypeQosData) = true
  · rw [if_pos hqos, if_pos hqos, hqos, Bool.true_and]
    by_cases hshort' : rxbuf.data.length < len + sizeofDot11QosCtrl
    · rw [if_pos hshort', mmpktRemoveFromStart_eq_none.mpr]
      show (rxbuf.data.drop len).length < sizeofDot11QosCtrl
      rw [List.length_drop]
      omega
    rw [if_neg hshort', mmpktRemoveFromStart_eq_some.mpr ⟨?_, rfl⟩]
    · dsimp only
      -- the QoS control field is read at the same place before and after the removal
      have hfield : (Mmpkt.dataStart
          { rxbuf with
            startOffset := rxbuf.startOffset + len
            data := rxbuf.data.drop len }).le16 0 = hdr.le16 len := by
        unfold BytePtr.le16
        rw [dataStart_drop rxbuf (by omega), dataStart_drop rxbuf (by omega), hhdr]
        rfl
      rw [hfield, List.drop_drop, Nat.add_assoc]
      split <;> rfl
    · show sizeofDot11QosCtrl ≤ (rxbuf.data.drop len).length
      rw [List.length_drop]
      omega
  · rw [if_neg hqos, if_neg hqos, Nat.add_zero, if_neg hshort,
      Bool.eq_false_iff.mpr hqos, Bool.false_and]
    rfl

/-- Where the CCMP header of a protected frame starts. -/
def rxCcmpHeader (hdr : BytePtr) : BytePtr := hdr.add (rxHeaderLen hdr)

theorem le_length_of_llcEthertype {view : Mmpkt} (h : umacDatapathGetLlcEthertype view ≠ 0) :
    umac8021HeaderLen ≤ view.data.length := by
  unfold umacDatapathGetLlcEthertype umacDatapathValidateBufLen mmpktGetDataLength at h
  by_contra hshort
  apply h
  rw [if_pos (by simp; omega)]

/-! ## Delivery -/

theorem rxDeliver_spec (env : UmacEnv) (u : UmacData) (hdr : BytePtr) (tidIndex : U8)
    {view : Mmpkt} (hroom : sizeofDot11Hdr ≤ view.startOffset) :
    ∃ u', rxDeliver env u hdr tidIndex view = some u' ∧ SameButDefrag u u'
      ∧ u'.stad = u.stad := by
  have hdone : ∀ u' : UmacData, u'.stad = u.stad → u'.rxLog = u.rxLog →
      u'.outdatedDrops = u.outdatedDrops → SameButDefrag u u' ∧ u'.stad = u.stad := by
    intro u' hstad hlog hdrops
    exact ⟨⟨by rw [hstad], by rw [hstad], by rw [hstad], by rw [hstad], by rw [hstad], hlog,
      hdrops⟩, hstad⟩
  unfold rxDeliver
  by_cases heapol : umacDatapathIsEapolFrame view = true
  · rw [if_pos heapol]
    split
    · exact ⟨u, rfl, hdone u rfl rfl rfl⟩
    have hlen : umac8021HeaderLen ≤ view.data.length := by
      apply le_length_of_llcEthertype
      rw [beq_iff_eq.mp heapol]
      decide
    rw [mmpktRemoveFromStart_eq_some.mpr ⟨hlen, rfl⟩]
    exact ⟨_, rfl, hdone _ rfl rfl rfl⟩
  rw [if_neg heapol]
  unfold rxDeliverToStack
  dsimp only
  split
  · exact ⟨_, rfl, hdone _ rfl rfl rfl⟩
  split
  · exact ⟨_, rfl, hdone _ rfl rfl rfl⟩
  rename_i hethertype
  have hlen : umac8021HeaderLen ≤ view.data.length :=
    le_length_of_llcEthertype fun h => hethertype (by rw [h]; rfl)
  rw [mmpktRemoveFromStart_eq_some.mpr ⟨hlen, rfl⟩, Option.getD_some]
  split
  · exact ⟨_, rfl, hdone _ rfl rfl rfl⟩
  -- the 802.3 header is shorter than what was removed
  have hprepend : ∀ header : List U8, header.length = 14 →
      ∃ view', mmpktPrependData
        { view with
          startOffset := view.startOffset + umac8021HeaderLen
          data := view.data.drop umac8021HeaderLen } header = some view' := by
    intro header hheader
    refine ⟨_, if_pos ?_⟩
    show header.length ≤ view.startOffset + umac8021HeaderLen
    unfold sizeofDot11Hdr at hroom
    omega
  obtain ⟨view', hview'⟩ := hprepend _ (length_generate8023Header (dot11GetDa hdr)
    (dot11GetSaData hdr) (umacDatapathGetLlcEthertype view))
  rw [hview']
  split
  · exact ⟨_, rfl, hdone _ rfl rfl rfl⟩
  · split
    · exact ⟨_, rfl, hdone _ rfl rfl rfl⟩
    · split <;> exact ⟨_, rfl, hdone _ rfl rfl rfl⟩

theorem rxReassemble_spec (env : UmacEnv) {u : UmacData} {hdr : BytePtr} (tidIndex : U8)
    {view : Mmpkt} (hchains : FragChainsOk u) (hroom : dot11DataHdrGetLen hdr ≤ view.startOffset) :
    ∃ u', rxReassemble env u hdr tidIndex view = some u' ∧ SameButDefrag u u'
      ∧ FragChainsOk u' := by
  have hdeliver : ∀ (u : UmacData) (hdr' : BytePtr) (view : Mmpkt), FragChainsOk u →
      dot11DataHdrGetLen hdr ≤ view.startOffset →
        ∃ u', rxDeliver env u hdr' tidIndex view = some u' ∧ SameButDefrag u u'
          ∧ FragChainsOk u' := by
    intro u hdr' view hchains hroom
    obtain ⟨u', heq, hsame, hstad⟩ := rxDeliver_spec env u hdr' tidIndex
      (Nat.le_trans (le_dot11DataHdrGetLen hdr) hroom)
    refine ⟨u', heq, hsame, ?_⟩
    unfold FragChainsOk
    rw [hstad]
    exact hchains
  unfold rxReassemble
  split
  · split
    · exact ⟨u, rfl, .refl u, hchains⟩
    · split
      · exact ⟨u, rfl, .refl u, hchains⟩
      · exact hdeliver u hdr view hchains hroom
  obtain ⟨u₁, ret, heq, hsame, hchains₁, hret⟩ :=
    datapathDefrag_isSome env tidIndex hchains hroom
  rw [heq]
  cases ret with
  | none => exact ⟨u₁, rfl, hsame, hchains₁⟩
  | some ret =>
    obtain ⟨view', hdr'⟩ := ret
    obtain ⟨u₂, heq₂, hsame₂, hchains₂⟩ :=
      hdeliver u₁ hdr' view' hchains₁ (hret view' hdr' rfl).1
    exact ⟨u₂, heq₂, hsame.trans hsame₂, hchains₂⟩

/-! ## The whole function -/

/-- What handing a frame on does to the STA record, and the record kept of it. -/
structure AfterReorder (env : UmacEnv) (u : UmacData) (rxbuf : Mmpkt) (record : RxRecord)
    (u' : UmacData) : Prop where
  rxLog : u'.rxLog = record :: u.rxLog
  seqCtrl : record.seqCtrl = sequenceControl rxbuf.dataStart
  tidIndex : record.tidIndex = rxTidIndex rxbuf.dataStart
  expected : record.expected = if record.passedSecurity
    then rxExpected env rxbuf.dataStart (rxTidIndex rxbuf.dataStart) else none
  ba : u'.stad.ba = (moveExpected u (rxTidIndex rxbuf.dataStart) record.expected).stad.ba
  ccmp : (record.ccmp = none ∧ u'.stad.keys = u.stad.keys)
    ∨ ∃ valid, record.ccmp = some (ccmpSlot (rxCcmpHeader rxbuf.dataStart),
          parseCcmpPacketNumber (rxCcmpHeader rxbuf.dataStart), valid)
        ∧ ccmpIsValid u.stad.keys (rxCcmpHeader rxbuf.dataStart) .default
          = some (u'.stad.keys, valid)
  rxReorderList : u'.stad.datapath.rxReorderList = u.stad.datapath.rxReorderList
  rxReorderTid : u'.stad.datapath.rxReorderTid = u.stad.datapath.rxReorderTid
  rxSeqNumSpaces : u'.stad.datapath.rxSeqNumSpaces = u.stad.datapath.rxSeqNumSpaces
  outdatedDrops : u'.outdatedDrops = u.outdatedDrops
  chains : FragChainsOk u'

theorem rxCheckSecurity_spec (env : UmacEnv) (keys : ConnectionKeysData) (hdr : BytePtr)
    (view : Mmpkt) :
    ∃ security, rxCheckSecurity env keys hdr view = some security
      ∧ ((security.ccmp = none ∧ security.keys = keys)
        ∨ ∃ valid, security.ccmp = some (ccmpSlot view.dataStart,
              parseCcmpPacketNumber view.dataStart, valid)
            ∧ ccmpIsValid keys view.dataStart .default = some (security.keys, valid))
      ∧ ∀ view' ∈ security.view, view.startOffset ≤ view'.startOffset := by
  unfold rxCheckSecurity
  dsimp only
  split
  · exact ⟨_, rfl, Or.inl ⟨rfl, rfl⟩, by simp⟩
  split
  · split
    · exact ⟨_, rfl, Or.inl ⟨rfl, rfl⟩, by simp⟩
    cases hremove : mmpktRemoveFromStart view dot11CcmpHeaderLen with
    | none => exact ⟨_, rfl, Or.inl ⟨rfl, rfl⟩, by simp⟩
    | some view₁ =>
      obtain ⟨_, rfl⟩ := mmpktRemoveFromStart_eq_some.mp hremove
      obtain ⟨⟨keys', valid⟩, hvalid⟩ :=
        Option.isSome_iff_exists.mp (ccmpIsValid_isSome keys view.dataStart .default)
      rw [hvalid]
      dsimp only
      split
      · exact ⟨_, rfl, Or.inr ⟨valid, rfl, rfl⟩, by simp⟩
      refine ⟨_, rfl, Or.inr ⟨valid, rfl, rfl⟩, ?_⟩
      intro view' hview'
      dsimp only [mmpktRemoveFromEnd] at hview'
      split at hview'
      · exact absurd hview' (by simp)
      · cases hview'
        show view.startOffset ≤ view.startOffset + dot11CcmpHeaderLen
        omega
  refine ⟨_, rfl, Or.inl ⟨rfl, rfl⟩, ?_⟩
  intro view' hview'
  cases hview'
  exact Nat.le_refl _

theorem afterReorder_eq_none (env : UmacEnv) (u : UmacData) {rxbuf : Mmpkt}
    (hshort : rxbuf.data.length < rxHeaderLen rxbuf.dataStart) :
    umacDatapathProcessRxDataFrameAfterReorder env u rxbuf = none := by
  unfold umacDatapathProcessRxDataFrameAfterReorder
  dsimp only
  rw [rxRemoveHeaders_eq, if_pos hshort]

theorem afterReorder_spec (env : UmacEnv) {u : UmacData} {rxbuf : Mmpkt}
    (hlong : rxHeaderLen rxbuf.dataStart ≤ rxbuf.data.length) (hchains : FragChainsOk u) :
    ∃ record u', umacDatapathProcessRxDataFrameAfterReorder env u rxbuf = some u'
      ∧ AfterReorder env u rxbuf record u' := by
  unfold umacDatapathProcessRxDataFrameAfterReorder
  dsimp only
  rw [rxRemoveHeaders_eq, if_neg (by omega)]
  dsimp only
  have hview : Mmpkt.dataStart
      { rxbuf with
        startOffset := rxbuf.startOffset + rxHeaderLen rxbuf.dataStart
        data := rxbuf.data.drop (rxHeaderLen rxbuf.dataStart) }
      = rxCcmpHeader rxbuf.dataStart := funext fun i => dataStart_drop rxbuf hlong i _
  obtain ⟨security, hsecurity, hccmp, hroom⟩ := rxCheckSecurity_spec env u.stad.keys
    rxbuf.dataStart
    { rxbuf with
      startOffset := rxbuf.startOffset + rxHeaderLen rxbuf.dataStart
      data := rxbuf.data.drop (rxHeaderLen rxbuf.dataStart) }
  rw [hview] at hccmp
  rw [hsecurity]
  dsimp only
  cases hdropped : security.view with
  | none =>
    refine ⟨⟨sequenceControl rxbuf.dataStart, rxTidIndex rxbuf.dataStart, security.ccmp, false,
      none⟩, _, rfl, ?_⟩
    exact
      { rxLog := rfl
        seqCtrl := rfl
        tidIndex := rfl
        expected := rfl
        ba := rfl
        ccmp := hccmp
        rxReorderList := rfl
        rxReorderTid := rfl
        rxSeqNumSpaces := rfl
        outdatedDrops := rfl
        chains := hchains }
  | some view =>
    dsimp only
    generalize hexpected : rxExpected env rxbuf.dataStart (rxTidIndex rxbuf.dataStart) = expected
    generalize hrecord : (⟨sequenceControl rxbuf.dataStart, rxTidIndex rxbuf.dataStart,
      security.ccmp, true, expected⟩ : RxRecord) = record
    have hmoved : ∀ u₁ : UmacData,
        (moveExpected u₁ (rxTidIndex rxbuf.dataStart) expected).stad.datapath = u₁.stad.datapath
          ∧ (moveExpected u₁ (rxTidIndex rxbuf.dataStart) expected).stad.keys = u₁.stad.keys
          ∧ (moveExpected u₁ (rxTidIndex rxbuf.dataStart) expected).rxLog = u₁.rxLog
          ∧ (moveExpected u₁ (rxTidIndex rxbuf.dataStart) expected).outdatedDrops
            = u₁.outdatedDrops := by
      intro u₁
      cases expected with
      | none | some seqNum => exact ⟨rfl, rfl, rfl, rfl⟩
    obtain ⟨hdatapath, hkeys, hlog, hdrops⟩ := hmoved (u.setKeys security.keys)
    have hchains' : FragChainsOk ((moveExpected (u.setKeys security.keys)
        (rxTidIndex rxbuf.dataStart) expected).log record) := by
      show ∀ i, ∀ buf ∈ ((moveExpected (u.setKeys security.keys) (rxTidIndex rxbuf.dataStart)
        expected).stad.datapath.fragChains i).buf, sizeofDot11DataHdr ≤ buf.startOffset
      rw [hdatapath]
      exact hchains
    have hroom' : dot11DataHdrGetLen rxbuf.dataStart ≤ view.startOffset := by
      have hview' := hroom view hdropped
      dsimp only at hview'
      unfold rxHeaderLen at hview'
      omega
    obtain ⟨u', heq, hsame, hchains''⟩ := rxReassemble_spec env
      (rxTidIndex rxbuf.dataStart) hchains' hroom'
    refine ⟨record, u', heq, ?_⟩
    exact
      { rxLog := by
          rw [hsame.rxLog]
          show record :: _ = _
          rw [hlog]
          rfl
        seqCtrl := by rw [← hrecord]
        tidIndex := by rw [← hrecord]
        expected := by
          rw [← hrecord, hexpected]
          rfl
        ba := by
          rw [hsame.ba, ← hrecord]
          cases expected <;> rfl
        ccmp := by
          rw [hsame.keys, ← hrecord]
          show (security.ccmp = none ∧ (moveExpected (u.setKeys security.keys)
              (rxTidIndex rxbuf.dataStart) expected).stad.keys = u.stad.keys)
            ∨ ∃ valid, security.ccmp = _ ∧ ccmpIsValid _ _ _
              = some ((moveExpected (u.setKeys security.keys) (rxTidIndex rxbuf.dataStart)
                expected).stad.keys, valid)
          rw [hkeys]
          exact hccmp
        rxReorderList := by
          rw [hsame.rxReorderList]
          exact congrArg UmacDatapathStaData.rxReorderList hdatapath
        rxReorderTid := by
          rw [hsame.rxReorderTid]
          exact congrArg UmacDatapathStaData.rxReorderTid hdatapath
        rxSeqNumSpaces := by
          rw [hsame.rxSeqNumSpaces]
          exact congrArg UmacDatapathStaData.rxSeqNumSpaces hdatapath
        outdatedDrops := by
          rw [hsame.outdatedDrops]
          exact hdrops
        chains := hchains'' }

theorem afterReorder_of_eq_some {env : UmacEnv} {u u' : UmacData} {rxbuf : Mmpkt}
    (heq : umacDatapathProcessRxDataFrameAfterReorder env u rxbuf = some u')
    (hchains : FragChainsOk u) : ∃ record, AfterReorder env u rxbuf record u' := by
  have hlong : rxHeaderLen rxbuf.dataStart ≤ rxbuf.data.length := by
    by_contra hshort
    rw [afterReorder_eq_none env u (Nat.lt_of_not_le hshort)] at heq
    exact absurd heq (by simp)
  obtain ⟨record, u'', heq', hspec⟩ := afterReorder_spec env hlong hchains
  obtain rfl : u' = u'' := Option.some.inj (heq.symm.trans heq')
  exact ⟨record, hspec⟩

end MmIotEsp32.Umac.Datapath
