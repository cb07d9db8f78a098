/-
  MmIotEsp32.Umac.Datapath.Defrag

  Reassembly of fragmented frames (`umac/datapath/datapath_defrag.c`).

  One chain a TID collects the fragments of one MSDU in a buffer.  The chain knows
  the sequence number and the protection of its first fragment, and nothing of
  fragment numbers.
-/
import MmIotEsp32.Umac.UmacData

namespace MmIotEsp32.Umac.Datapath

open Dot11 Keys Ba Function

/-! ## The functions -/

/-- `datapath_defrag_get_frag_chain`; `none` is NULL. -/
def datapathDefragGetFragChain (tidIdx : U8) : Option FragChainIdx :=
  if h : tidIdx.toNat < maxFragChains then some ⟨tidIdx.toNat, h⟩ else none

def datapathDefragIsInFragChain (chain : DatapathDefragDataChain) (seqCtrl : U16) : Bool :=
  chain.sequenceNumber == dot11SequenceControlGetSequenceNumber seqCtrl

def datapathDefragIsFirstFragment (hdr : BytePtr) : Bool :=
  dot11SequenceControlGetFragmentNumber (sequenceControl hdr) == 0

def datapathDefragIsFragment (hdr : BytePtr) : Bool :=
  dot11SequenceControlGetFragmentNumber (sequenceControl hdr) != 0
    || dot11FrameControlGetMoreFragments (frameControl hdr)

def datapathDefragTimeout (u : UmacData) (i : FragChainIdx) : UmacData :=
  u.setFragChain i (u.stad.datapath.fragChains i).release

/-- `datapath_defrag_init_buffer`; `none` is an assertion of
`mmpkt_adjust_start_offset`. -/
def datapathDefragInitBuffer (env : UmacEnv) (u : UmacData) (i : FragChainIdx) :
    Option UmacData :=
  let chain := u.stad.datapath.fragChains i
  let u := umacCoreCancelTimeout (u.setFragChain i chain.release) (.datapathDefragTimeout i)
  match env.allocMmpktForDefrag u.tick with
  | none => some u.ticked
  | some buffer =>
    match mmpktAdjustStartOffset buffer.pkt sizeofDot11DataHdr with
    | none => none
    | some pkt =>
      let u := u.ticked.setFragChain i { chain with buf := some pkt }
      some (umacCoreRegisterTimeout env u (.datapathDefragTimeout i)).1

/-- `datapath_defrag_add_fragment`: the buffer with the fragment in it, or `none`
when the space is exceeded. -/
def datapathDefragAddFragment (buf rxbuf : Mmpkt) : Option Mmpkt :=
  if mmpktAvailableSpaceAtEnd buf < mmpktGetDataLength rxbuf then none
  else mmpktAppendData buf rxbuf.data

/-- What a first fragment does before it is looked at like the others. -/
def datapathDefragStart (env : UmacEnv) (u : UmacData) (i : FragChainIdx) (hdr : BytePtr) :
    Option UmacData :=
  (datapathDefragInitBuffer env u i).map fun u =>
    u.setFragChain i
      { u.stad.datapath.fragChains i with
        sequenceNumber := dot11SequenceControlGetSequenceNumber (sequenceControl hdr)
        isProtected := dot11FrameControlGetProtected (frameControl hdr) }

/-- The last fragment hands the buffer out, with the header of its frame in front
of the data; `none` is an assertion of `mmpkt_prepend`. -/
def datapathDefragComplete (u : UmacData) (i : FragChainIdx) (hdr : BytePtr) (buf : Mmpkt) :
    Option (UmacData × Option (Mmpkt × BytePtr)) :=
  let dataHdrLen := dot11DataHdrGetLen hdr
  let u := u.setFragChain i (u.stad.datapath.fragChains i).release
  match mmpktPrependData buf (hdr.take dataHdrLen) with
  | none => none
  | some returnBuffer =>
    match mmpktRemoveFromStart returnBuffer dataHdrLen with
    | none => none
    | some returnView =>
      some (umacCoreCancelTimeout u (.datapathDefragTimeout i),
        some (returnView, returnBuffer.dataStart))

/-- A fragment for a chain, once the chain is set up. -/
def datapathDefragContinue (u : UmacData) (i : FragChainIdx) (hdr : BytePtr) (rxbuf : Mmpkt) :
    Option (UmacData × Option (Mmpkt × BytePtr)) :=
  let chain := u.stad.datapath.fragChains i
  match chain.buf with
  | none => some (u, none)
  | some buf =>
    if !datapathDefragIsInFragChain chain (sequenceControl hdr) then some (u, none)
    else if chain.isProtected != dot11FrameControlGetProtected (frameControl hdr) then
      some (u, none)
    else
      match datapathDefragAddFragment buf rxbuf with
      | none =>
        some (umacCoreCancelTimeout (u.setFragChain i chain.release)
          (.datapathDefragTimeout i), none)
      | some buf =>
        if dot11FrameControlGetMoreFragments (frameControl hdr) then
          some (u.setFragChain i { chain with buf := some buf }, none)
        else datapathDefragComplete u i hdr buf

/-- `datapath_defrag`: the packet it returns, with the header to go on with. -/
def datapathDefrag (env : UmacEnv) (u : UmacData) (hdr : BytePtr) (rxbuf : Mmpkt) (tidIdx : U8) :
    Option (UmacData × Option (Mmpkt × BytePtr)) :=
  if !datapathDefragIsFragment hdr then some (u, some (rxbuf, hdr))
  else
    match datapathDefragGetFragChain tidIdx with
    | none => some (u, none)
    | some i =>
      if datapathDefragIsFirstFragment hdr then
        (datapathDefragStart env u i hdr).bind fun u => datapathDefragContinue u i hdr rxbuf
      else datapathDefragContinue u i hdr rxbuf

/-! ## What stays as it is -/

/-- Two states that differ in fragment chains, timeouts and upcalls only. -/
structure SameButDefrag (u u' : UmacData) : Prop where
  keys : u'.stad.keys = u.stad.keys
  ba : u'.stad.ba = u.stad.ba
  rxSeqNumSpaces : u'.stad.datapath.rxSeqNumSpaces = u.stad.datapath.rxSeqNumSpaces
  rxReorderList : u'.stad.datapath.rxReorderList = u.stad.datapath.rxReorderList
  rxReorderTid : u'.stad.datapath.rxReorderTid = u.stad.datapath.rxReorderTid
  rxLog : u'.rxLog = u.rxLog
  outdatedDrops : u'.outdatedDrops = u.outdatedDrops

theorem SameButDefrag.refl (u : UmacData) : SameButDefrag u u :=
  ⟨rfl, rfl, rfl, rfl, rfl, rfl, rfl⟩

theorem SameButDefrag.trans {u u' u'' : UmacData} (h : SameButDefrag u u')
    (h' : SameButDefrag u' u'') : SameButDefrag u u'' where
  keys := h'.keys.trans h.keys
  ba := h'.ba.trans h.ba
  rxSeqNumSpaces := h'.rxSeqNumSpaces.trans h.rxSeqNumSpaces
  rxReorderList := h'.rxReorderList.trans h.rxReorderList
  rxReorderTid := h'.rxReorderTid.trans h.rxReorderTid
  rxLog := h'.rxLog.trans h.rxLog
  outdatedDrops := h'.outdatedDrops.trans h.outdatedDrops

theorem setFragChain_same (u : UmacData) (i : FragChainIdx) (chain : DatapathDefragDataChain) :
    SameButDefrag u (u.setFragChain i chain) := ⟨rfl, rfl, rfl, rfl, rfl, rfl, rfl⟩

theorem umacCoreCancelTimeout_same (u : UmacData) (timeout : UmacTimeout) :
    SameButDefrag u (umacCoreCancelTimeout u timeout) := ⟨rfl, rfl, rfl, rfl, rfl, rfl, rfl⟩

theorem umacCoreRegisterTimeout_stad (env : UmacEnv) (u : UmacData) (timeout : UmacTimeout) :
    (umacCoreRegisterTimeout env u timeout).1.stad = u.stad := by
  unfold umacCoreRegisterTimeout
  split <;> rfl

theorem umacCoreRegisterTimeout_same (env : UmacEnv) (u : UmacData) (timeout : UmacTimeout) :
    SameButDefrag u (umacCoreRegisterTimeout env u timeout).1 := by
  unfold umacCoreRegisterTimeout
  split <;> exact ⟨rfl, rfl, rfl, rfl, rfl, rfl, rfl⟩

/-! ## What each function does -/

/-- An empty buffer as the chain starts with. -/
structure FreshBuffer (pkt : Mmpkt) : Prop where
  data : pkt.data = []
  startOffset : pkt.startOffset = sizeofDot11DataHdr

theorem mmpktAdjustStartOffset_defragBuffer (buffer : DefragBuffer) :
    ∃ pkt, mmpktAdjustStartOffset buffer.pkt sizeofDot11DataHdr = some pkt ∧ FreshBuffer pkt := by
  have hroom : sizeofDot11DataHdr ≤ buffer.pkt.tailroom :=
    Nat.le_trans (by decide) buffer.capacity
  refine ⟨_, if_pos ⟨buffer.isEmpty, hroom⟩, buffer.isEmpty, ?_⟩
  show buffer.pkt.startOffset + sizeofDot11DataHdr = sizeofDot11DataHdr
  rw [buffer.atStart, Nat.zero_add]

theorem datapathDefragStart_spec (env : UmacEnv) (u : UmacData) (i : FragChainIdx)
    (hdr : BytePtr) :
    ∃ u' buf, datapathDefragStart env u i hdr = some u' ∧ SameButDefrag u u'
      ∧ (∀ pkt ∈ buf, FreshBuffer pkt) ∧ buf.isSome = (env.allocMmpktForDefrag u.tick).isSome
      ∧ u'.stad.datapath.fragChains
        = update u.stad.datapath.fragChains i
          ⟨dot11SequenceControlGetSequenceNumber (sequenceControl hdr),
            dot11FrameControlGetProtected (frameControl hdr), buf⟩ := by
  unfold datapathDefragStart datapathDefragInitBuffer
  dsimp only
  split
  · -- no memory for a buffer
    rename_i halloc
    refine ⟨_, none, rfl, ⟨rfl, rfl, rfl, rfl, rfl, rfl, rfl⟩, by simp,
      (congrArg Option.isSome halloc).symm, ?_⟩
    simp only [UmacData.setFragChain, UmacData.ticked, umacCoreCancelTimeout, update_self,
      update_idem, DatapathDefragDataChain.release]
  rename_i buffer halloc
  obtain ⟨pkt, hpkt, hfresh⟩ := mmpktAdjustStartOffset_defragBuffer buffer
  rw [hpkt]
  refine ⟨_, some pkt, rfl, ?_, by simpa using hfresh,
    (congrArg Option.isSome halloc).symm, ?_⟩
  · refine .trans (.trans ?_ (umacCoreRegisterTimeout_same env _ _)) (setFragChain_same _ i _)
    exact ⟨rfl, rfl, rfl, rfl, rfl, rfl, rfl⟩
  · simp only [UmacData.setFragChain, umacCoreRegisterTimeout_stad, UmacData.ticked,
      umacCoreCancelTimeout, update_self, update_idem]

theorem datapathDefragAddFragment_eq (buf rxbuf : Mmpkt) :
    datapathDefragAddFragment buf rxbuf
      = if rxbuf.data.length ≤ buf.tailroom then
          some { buf with
            data := buf.data ++ rxbuf.data
            behind := buf.behind.add rxbuf.data.length
            tailroom := buf.tailroom - rxbuf.data.length }
        else none := by
  unfold datapathDefragAddFragment mmpktAppendData mmpktAvailableSpaceAtEnd mmpktGetDataLength
  by_cases h : rxbuf.data.length ≤ buf.tailroom
  · rw [if_neg (by omega), if_pos h]
  · rw [if_pos (by omega), if_neg h]

theorem datapathDefragComplete_spec {u : UmacData} {i : FragChainIdx} {hdr : BytePtr}
    {buf : Mmpkt} (hroom : sizeofDot11DataHdr ≤ buf.startOffset) :
    ∃ u' pkt hdr', datapathDefragComplete u i hdr buf = some (u', some (pkt, hdr'))
      ∧ SameButDefrag u u'
      ∧ u'.stad.datapath.fragChains = update u.stad.datapath.fragChains i
        (u.stad.datapath.fragChains i).release
      ∧ pkt.data = buf.data ∧ pkt.startOffset = buf.startOffset
      ∧ (∀ j, j < dot11DataHdrGetLen hdr → hdr' j = hdr j) := by
  have hlen : (hdr.take (dot11DataHdrGetLen hdr)).length = dot11DataHdrGetLen hdr :=
    BytePtr.length_take hdr _
  have hhdr : dot11DataHdrGetLen hdr ≤ buf.startOffset :=
    Nat.le_trans (dot11DataHdrGetLen_le hdr) hroom
  unfold datapathDefragComplete mmpktPrependData mmpktAvailableSpaceAtStart
  dsimp only
  rw [hlen, if_pos hhdr]
  dsimp only
  have hremove : ¬ ((hdr.take (dot11DataHdrGetLen hdr)) ++ buf.data).length
      < dot11DataHdrGetLen hdr := by
    rw [List.length_append, hlen]
    omega
  unfold mmpktRemoveFromStart mmpktGetDataLength
  rw [if_neg hremove]
  refine ⟨_, _, _, rfl, ⟨rfl, rfl, rfl, rfl, rfl, rfl, rfl⟩, rfl, ?_, ?_, fun j hj => ?_⟩
  · exact List.drop_left' hlen
  · show buf.startOffset - dot11DataHdrGetLen hdr + dot11DataHdrGetLen hdr = buf.startOffset
    omega
  -- the header in front of the data is the frame's, byte by byte
  have hj' : j < (hdr.take (dot11DataHdrGetLen hdr)).length := by
    rw [hlen]
    exact hj
  have hj'' : j < (hdr.take (dot11DataHdrGetLen hdr) ++ buf.data).length := by
    rw [List.length_append]
    omega
  unfold Mmpkt.dataStart
  rw [dif_pos hj'', List.getElem_append_left hj']
  simp only [BytePtr.take, List.getElem_map, List.getElem_range]

/-! ## Room for a header -/

/-- Every buffered chain keeps the room for a header in front of its data. -/
def FragChainsOk (u : UmacData) : Prop :=
  ∀ i, ∀ buf ∈ (u.stad.datapath.fragChains i).buf, sizeofDot11DataHdr ≤ buf.startOffset

theorem FragChainsOk.update {u u' : UmacData} {i : FragChainIdx} {chain : DatapathDefragDataChain}
    (h : FragChainsOk u)
    (hchains : u'.stad.datapath.fragChains = update u.stad.datapath.fragChains i chain)
    (hchain : ∀ buf ∈ chain.buf, sizeofDot11DataHdr ≤ buf.startOffset) : FragChainsOk u' := by
  intro j buf hbuf
  rw [hchains] at hbuf
  by_cases hji : j = i
  · rw [hji, update_self] at hbuf
    exact hchain buf hbuf
  · rw [update_of_ne hji] at hbuf
    exact h j buf hbuf

theorem datapathDefragContinue_isSome {u : UmacData} (h : FragChainsOk u) (i : FragChainIdx)
    (hdr : BytePtr) (rxbuf : Mmpkt) :
    ∃ u' ret, datapathDefragContinue u i hdr rxbuf = some (u', ret) ∧ SameButDefrag u u'
      ∧ FragChainsOk u'
      ∧ ∀ pkt hdr', ret = some (pkt, hdr') → sizeofDot11DataHdr ≤ pkt.startOffset
        ∧ ∀ j, j < dot11DataHdrGetLen hdr → hdr' j = hdr j := by
  unfold datapathDefragContinue
  dsimp only
  split
  · exact ⟨u, none, rfl, .refl u, h, by simp⟩
  rename_i buf hbuf
  have hroom : sizeofDot11DataHdr ≤ buf.startOffset := h i buf hbuf
  split
  · exact ⟨u, none, rfl, .refl u, h, by simp⟩
  split
  · exact ⟨u, none, rfl, .refl u, h, by simp⟩
  rw [datapathDefragAddFragment_eq]
  by_cases hfit : rxbuf.data.length ≤ buf.tailroom
  · rw [if_pos hfit]
    dsimp only
    split
    · refine ⟨_, none, rfl, setFragChain_same u i _, h.update rfl ?_, by simp⟩
      intro buf' hbuf'
      cases hbuf'
      exact hroom
    obtain ⟨u', pkt, hdr', heq, hsame, hchains, _, hstart, hhdr⟩ :=
      datapathDefragComplete_spec (show sizeofDot11DataHdr ≤ Mmpkt.startOffset
        { buf with
          data := buf.data ++ rxbuf.data
          behind := buf.behind.add rxbuf.data.length
          tailroom := buf.tailroom - rxbuf.data.length } from hroom)
    refine ⟨u', _, heq, hsame, h.update hchains ?_, ?_⟩
    · intro buf' hbuf'
      exact absurd hbuf' (by simp [DatapathDefragDataChain.release])
    · intro pkt' hdr'' hret
      cases hret
      exact ⟨hstart ▸ hroom, hhdr⟩
  rw [if_neg hfit]
  refine ⟨_, none, rfl, ?_, h.update rfl ?_, by simp⟩
  · exact (setFragChain_same u i _).trans (umacCoreCancelTimeout_same _ _)
  · intro buf' hbuf'
    exact absurd hbuf' (by simp [DatapathDefragDataChain.release])

theorem datapathDefrag_isSome (env : UmacEnv) {u : UmacData} {hdr : BytePtr} {rxbuf : Mmpkt}
    (tidIdx : U8) (h : FragChainsOk u) (hrxbuf : dot11DataHdrGetLen hdr ≤ rxbuf.startOffset) :
    ∃ u' ret, datapathDefrag env u hdr rxbuf tidIdx = some (u', ret) ∧ SameButDefrag u u'
      ∧ FragChainsOk u'
      ∧ ∀ pkt hdr', ret = some (pkt, hdr') → dot11DataHdrGetLen hdr ≤ pkt.startOffset
        ∧ ∀ j, j < dot11DataHdrGetLen hdr → hdr' j = hdr j := by
  unfold datapathDefrag
  split
  · refine ⟨u, _, rfl, .refl u, h, ?_⟩
    intro pkt hdr' hret
    cases hret
    exact ⟨hrxbuf, fun _ _ => rfl⟩
  split
  · exact ⟨u, none, rfl, .refl u, h, by simp⟩
  rename_i i _
  have hweaken : ∀ pkt : Mmpkt, sizeofDot11DataHdr ≤ pkt.startOffset →
      dot11DataHdrGetLen hdr ≤ pkt.startOffset :=
    fun pkt hpkt => Nat.le_trans (dot11DataHdrGetLen_le hdr) hpkt
  split
  · obtain ⟨u₁, buf, heq₁, hsame₁, hbuf, _, hchains₁⟩ :=
      datapathDefragStart_spec env u i hdr
    have h₁ : FragChainsOk u₁ := by
      refine h.update hchains₁ fun pkt hpkt => ?_
      rw [(hbuf pkt hpkt).startOffset]
    obtain ⟨u₂, ret, heq₂, hsame₂, h₂, hret⟩ :=
      datapathDefragContinue_isSome h₁ i hdr rxbuf
    refine ⟨u₂, ret, ?_, hsame₁.trans hsame₂, h₂, fun pkt hdr' hr => ?_⟩
    · rw [heq₁]
      exact heq₂
    · exact ⟨hweaken pkt (hret pkt hdr' hr).1, (hret pkt hdr' hr).2⟩
  obtain ⟨u₂, ret, heq₂, hsame₂, h₂, hret⟩ :=
    datapathDefragContinue_isSome h i hdr rxbuf
  exact ⟨u₂, ret, heq₂, hsame₂, h₂, fun pkt hdr' hr =>
    ⟨hweaken pkt (hret pkt hdr' hr).1, (hret pkt hdr' hr).2⟩⟩

end MmIotEsp32.Umac.Datapath
