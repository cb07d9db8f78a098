/-
  MmIotEsp32.Umac.Datapath.RxAssertions

  Which received data frames trip an assertion of the data path.
-/
import MmIotEsp32.Umac.Datapath.RxOwnersRefine

namespace MmIotEsp32.Umac.Datapath

open Lib Dot11 Keys Ba

/-! ## Data frames -/

/-- The state of the receive path is reached in some run. -/
def RxReachable (env : UmacEnv) (s : RxOwners) : Prop :=
  ∃ events, runFrom (rxOwnersStep env) rxOwnersInit events = some s

/-- A data frame from an address with a STA record. -/
structure FromStation (env : UmacEnv) (rxbuf : Mmpkt) : Prop where
  type : dot11FrameControlGetType (frameControl rxbuf.dataStart) = dot11FcTypeData
  stad : env.hasStad (dot11GetTa rxbuf.dataStart) = true

/-- The session of the frame's TID has no reorder buffer. -/
def ReorderingDisabled (u : UmacData) (rxbuf : Mmpkt) : Prop :=
  umacBaGetReorderBufferSize u.stad.ba (rxTidIndex rxbuf.dataStart) = some 0

instance (u : UmacData) (rxbuf : Mmpkt) : Decidable (ReorderingDisabled u rxbuf) :=
  inferInstanceAs (Decidable (_ = _))

/-- The frame is received in the one state and processed in the other, and no assertion fails. -/
def RxFrameSurvives (env : UmacEnv) (received processed : UmacData) (rxbuf : Mmpkt) : Prop :=
  ∃ r, umacDatapathRxFrameFilter env received rxbuf = some r
    ∧ (r.2 = false → ∃ u, umacDatapathProcessRxFrame env processed rxbuf = some u)

/-- A QoS data frame that has its header and not its QoS control field. -/
def LacksQosControl (rxbuf : Mmpkt) : Prop :=
  dot11FrameControlGetSubtype (frameControl rxbuf.dataStart) = dot11FcSubtypeQosData
    ∧ dot11DataHdrGetLen rxbuf.dataStart ≤ rxbuf.data.length
    ∧ rxbuf.data.length < dot11DataHdrGetLen rxbuf.dataStart + sizeofDot11QosCtrl

/-- The filter does not look behind the header of the frame. -/
def UncheckedQosControl (env : UmacEnv) (rxbuf : Mmpkt) : Prop :=
  umacDatapathRxFrameAllowedPreAssociation env (frameControl rxbuf.dataStart) = true
    ∨ umacInterfaceAddrMatchesMacAddr env (dot11GetSaData rxbuf.dataStart) = false
      ∧ isGroupAddr (dot11GetDa rxbuf.dataStart) = true

/-! ## The filter -/

theorem dot11FrameControlGetType_verTypeSubtype (fc : U16) :
    dot11FrameControlGetType (dot11FrameControlGetVerTypeSubtype fc)
      = dot11FrameControlGetType fc := by
  unfold dot11FrameControlGetType dot11FrameControlGetVerTypeSubtype dot11Field
  rw [BitVec.ushiftRight_zero, BitVec.and_assoc]
  rfl

theorem verTypeSubtype_ne_of_data {fc verTypeSubtype : U16}
    (htype : dot11FrameControlGetType fc = dot11FcTypeData)
    (hother : dot11FrameControlGetType verTypeSubtype ≠ dot11FcTypeData) :
    (dot11FrameControlGetVerTypeSubtype fc == verTypeSubtype) = false := by
  refine beq_eq_false_iff_ne.mpr fun heq => hother ?_
  rw [← heq, dot11FrameControlGetType_verTypeSubtype, htype]

section

variable {env : UmacEnv} {u : UmacData} {rxbuf : Mmpkt}

theorem rxFrameFilter_data (hframe : FromStation env rxbuf) :
    umacDatapathRxFrameFilter env u rxbuf =
      if rxbuf.data.length < dot11DataHdrGetLen rxbuf.dataStart ∨ env.configured = false then
        some (u, true)
      else if umacDatapathRxFrameAllowedPreAssociation env (frameControl rxbuf.dataStart) then
        some (u, false)
      else if umacInterfaceAddrMatchesMacAddr env (dot11GetSaData rxbuf.dataStart) then
        some (u, true)
      else umacDatapathIsRxFrameDuplicate u rxbuf := by
  have hbeacon := @verTypeSubtype_ne_of_data _
    (dot11VerTypeSubtype 0 dot11FcTypeExt dot11FcSubtypeS1gBeacon) hframe.type (by decide)
  have hrts := @verTypeSubtype_ne_of_data _
    (dot11VerTypeSubtype 0 dot11FcTypeCtrl dot11FcSubtypeRts) hframe.type (by decide)
  have hheader := le_dot11DataHdrGetLen rxbuf.dataStart
  unfold umacDatapathRxFrameFilter umacDatapathValidateBufLen mmpktGetDataLength
  dsimp only
  rw [hbeacon, hrts, hframe.stad, Bool.false_and]
  simp only [Bool.not_not, Bool.not_true, if_neg Bool.false_ne_true, decide_eq_true_eq]
  unfold sizeofDot11Hdr at hheader
  by_cases hshort : rxbuf.data.length < dot11DataHdrGetLen rxbuf.dataStart
  · rw [if_pos (Or.inl hshort), if_pos hshort]
    split <;> rfl
  rw [if_neg (by omega), if_neg hshort]
  cases env.configured with
  | false => simp
  | true => simp [hshort]

theorem isRxFrameDuplicate_data (htype : dot11FrameControlGetType (frameControl rxbuf.dataStart)
      = dot11FcTypeData) (hlen : dot11DataHdrGetLen rxbuf.dataStart ≤ rxbuf.data.length) :
    (∃ r, umacDatapathIsRxFrameDuplicate u rxbuf = some r)
      ∧ (LacksQosControl rxbuf → isGroupAddr (dot11GetDa rxbuf.dataStart) = false →
        umacDatapathIsRxFrameDuplicate u rxbuf = some (u, true))
      ∧ (isGroupAddr (dot11GetDa rxbuf.dataStart) = true →
        umacDatapathIsRxFrameDuplicate u rxbuf = some (u, false)) := by
  have hext : (dot11FcTypeData == dot11FcTypeExt) = false := by decide
  have hctrl : (dot11FcTypeData == dot11FcTypeCtrl) = false := by decide
  have hvalid : umacDatapathValidateBufLen rxbuf (dot11DataHdrGetLen rxbuf.dataStart) = true := by
    unfold umacDatapathValidateBufLen mmpktGetDataLength
    simpa using hlen
  unfold umacDatapathIsRxFrameDuplicate
  dsimp only
  rw [htype, hext, hctrl, hvalid, if_neg Bool.false_ne_true, Bool.not_true,
    if_neg Bool.false_ne_true, if_neg Bool.false_ne_true]
  refine ⟨?_, fun hlacks hgroup => ?_, fun hgroup => if_pos hgroup⟩
  · split_ifs <;> exact ⟨_, rfl⟩
  obtain ⟨hqos, -, hshort⟩ := hlacks
  have hnull : (dot11FcSubtypeQosData == dot11FcSubtypeQosNull) = false := by decide
  have hinvalid : umacDatapathValidateBufLen rxbuf
      (dot11DataHdrGetLen rxbuf.dataStart + sizeofDot11QosCtrl) = false := by
    unfold umacDatapathValidateBufLen mmpktGetDataLength
    simpa using hshort
  rw [hgroup, hqos, hnull, hinvalid]
  rfl

end

/-! ## Processing -/

theorem processRxFrame_data {env : UmacEnv} {u : UmacData} {rxbuf : Mmpkt}
    (hchains : FragChainsOk u) (hframe : FromStation env rxbuf)
    (hdisabled : ReorderingDisabled u rxbuf)
    (hlen : dot11DataHdrGetLen rxbuf.dataStart ≤ rxbuf.data.length) :
    (∃ u', umacDatapathProcessRxFrame env u rxbuf = some u') ↔ ¬ LacksQosControl rxbuf := by
  unfold umacDatapathProcessRxFrame umacDatapathProcessRxDataFrame
  dsimp only
  rw [hframe.stad, hdisabled, Bool.not_true, if_neg Bool.false_ne_true]
  by_cases hnull : isNullData rxbuf.dataStart = true
  · rw [if_pos hnull]
    refine iff_of_true ⟨u, rfl⟩ fun hlacks => ?_
    unfold isNullData at hnull
    rw [hlacks.1] at hnull
    exact absurd hnull (by decide)
  rw [if_neg hnull]
  dsimp only
  rw [beq_self_eq_true, Bool.or_true, if_pos rfl]
  have hheaders : rxbuf.data.length < rxHeaderLen rxbuf.dataStart ↔ LacksQosControl rxbuf := by
    unfold rxHeaderLen LacksQosControl
    by_cases hqos : dot11FrameControlGetSubtype (frameControl rxbuf.dataStart)
        = dot11FcSubtypeQosData
    · rw [hqos, beq_self_eq_true, if_pos rfl]
      exact ⟨fun hshort => ⟨rfl, hlen, hshort⟩, fun hlacks => hlacks.2.2⟩
    · rw [beq_eq_false_iff_ne.mpr hqos, if_neg Bool.false_ne_true, Nat.add_zero]
      exact iff_of_false (Nat.not_lt.mpr hlen) fun hlacks => hqos hlacks.1
  rw [← hheaders]
  constructor
  · rintro ⟨u', heq⟩ hshort
    rw [afterReorder_eq_none env u hshort] at heq
    cases heq
  · intro hlong
    obtain ⟨record, u', heq, -⟩ := afterReorder_spec env (Nat.le_of_not_lt hlong) hchains
    exact ⟨u', heq⟩

theorem kept_survives_iff {u : UmacData} {p : Prop} :
    (∃ r : UmacData × Bool, some (u, false) = some r ∧ (r.2 = false → p)) ↔ p := by
  constructor
  · rintro ⟨r, heq, h⟩
    cases heq
    exact h rfl
  · exact fun h => ⟨_, rfl, fun _ => h⟩

/-- A data frame survives, whatever happens between its reception and its processing, unless it
lacks the QoS control field and the filter does not look for it. -/
theorem rx_data_frame_survives_iff {env : UmacEnv} {u : UmacData} {s : RxOwners} {rxbuf : Mmpkt}
    (hreachable : RxReachable env s) (hframe : FromStation env rxbuf)
    (hdisabled : ReorderingDisabled s.umac rxbuf) :
    RxFrameSurvives env u s.umac rxbuf ↔
      ¬ (env.configured = true ∧ LacksQosControl rxbuf ∧ UncheckedQosControl env rxbuf) := by
  obtain ⟨events, hrun⟩ := hreachable
  have hchains : FragChainsOk s.umac := ((linked_throughout env events).of_runFrom hrun).room
  unfold RxFrameSurvives UncheckedQosControl
  rw [rxFrameFilter_data hframe]
  by_cases hdropped : rxbuf.data.length < dot11DataHdrGetLen rxbuf.dataStart
      ∨ env.configured = false
  · rw [if_pos hdropped]
    refine iff_of_true ⟨_, rfl, fun hkept => nomatch hkept⟩ ?_
    rintro ⟨hconfigured, hlacks, -⟩
    rcases hdropped with hshort | hunconfigured
    · exact absurd hlacks.2.1 (Nat.not_le.mpr hshort)
    · rw [hunconfigured] at hconfigured
      cases hconfigured
  rw [if_neg hdropped]
  have hlen : dot11DataHdrGetLen rxbuf.dataStart ≤ rxbuf.data.length :=
    Nat.le_of_not_lt fun hshort => hdropped (Or.inl hshort)
  have hconfigured : env.configured = true := by
    cases h : env.configured with
    | true => rfl
    | false => exact absurd (Or.inr h) hdropped
  have hprocess := processRxFrame_data hchains hframe hdisabled hlen
  obtain ⟨⟨r, hduplicate⟩, hlacks_dropped, hgroup_kept⟩ :=
    isRxFrameDuplicate_data (u := u) hframe.type hlen
  by_cases hallowed : umacDatapathRxFrameAllowedPreAssociation env
      (frameControl rxbuf.dataStart) = true
  · rw [if_pos hallowed, kept_survives_iff, hprocess]
    simp [hconfigured, hallowed]
  rw [if_neg hallowed]
  by_cases hown : umacInterfaceAddrMatchesMacAddr env (dot11GetSaData rxbuf.dataStart) = true
  · rw [if_pos hown]
    exact iff_of_true ⟨_, rfl, fun hkept => nomatch hkept⟩ (by simp [hallowed, hown])
  rw [if_neg hown]
  cases hgroup : isGroupAddr (dot11GetDa rxbuf.dataStart) with
  | true =>
    rw [hgroup_kept hgroup, kept_survives_iff, hprocess]
    simp [hconfigured, hown]
  | false =>
    refine iff_of_true ⟨r, hduplicate, fun hkept => hprocess.mpr fun hlacks => ?_⟩
      (by simp [hallowed])
    -- a frame without the field was dropped
    obtain rfl := Option.some.inj (hduplicate.symm.trans (hlacks_dropped hlacks hgroup))
    cases hkept

/-! ## Two frames -/

/-- A QoS data frame that the access point sends to this address, of a length. -/
def qosFrame (da : U8) (len : Nat) : Mmpkt where
  startOffset := 0
  data := ([0x88, 0x02, 0, 0] ++ List.replicate 6 da ++ List.replicate 6 0x04
    ++ List.replicate 6 0x06 ++ List.replicate 20 0).take len
  behind := fun _ => 0
  tailroom := 0
  rx := ⟨false, 0⟩

theorem whole_qosFrame_survives :
    RxFrameSurvives openEnv umacStadInit rxOwnersInit.umac (qosFrame 0xff 40) :=
  (rx_data_frame_survives_iff ⟨[], rfl⟩ ⟨by decide, rfl⟩ (by decide)).mpr fun h =>
    absurd h.2.1.2.2 (by decide)

/-- A broadcast frame that ends with its header stops the program. -/
theorem short_group_frame_asserts :
    ¬ ∀ (env : UmacEnv) (u : UmacData) (s : RxOwners) (rxbuf : Mmpkt), RxReachable env s →
      FromStation env rxbuf → ReorderingDisabled s.umac rxbuf →
        RxFrameSurvives env u s.umac rxbuf := by
  intro h
  obtain ⟨r, hfilter, hprocess⟩ := h openEnv umacStadInit rxOwnersInit (qosFrame 0xff 24)
    ⟨[], rfl⟩ ⟨by decide, rfl⟩ (by decide)
  have hkept : (umacDatapathRxFrameFilter openEnv umacStadInit (qosFrame 0xff 24)).any
      (fun r => !r.2) = true := by decide +kernel
  have hnone : (umacDatapathProcessRxFrame openEnv rxOwnersInit.umac
      (qosFrame 0xff 24)).isNone = true := by decide +kernel
  rw [hfilter, Option.any_some, Bool.not_eq_true'] at hkept
  obtain ⟨u', hsome⟩ := hprocess hkept
  rw [hsome] at hnone
  cases hnone

end MmIotEsp32.Umac.Datapath
