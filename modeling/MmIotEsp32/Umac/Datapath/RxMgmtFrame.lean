/-
  MmIotEsp32.Umac.Datapath.RxMgmtFrame

  Received management frames of a station (`umac/datapath/umac_datapath.c`, `umac/frames`).
-/
import MmIotEsp32.Umac.Datapath.RxAssertions
import MmIotEsp32.Umac.SupplicantShim.ReplayHistory

namespace MmIotEsp32.Umac.Datapath

open Lib Dot11 Keys Ba SupplicantShim

/-! ## Management frames -/

def dot11FcSubtypeAssocRsp : U16 := 1
def dot11FcSubtypeReassocRsp : U16 := 3
def dot11FcSubtypeProbeRsp : U16 := 5
def dot11FcSubtypeDisassoc : U16 := 10
def dot11FcSubtypeAuth : U16 := 11
def dot11FcSubtypeDeauth : U16 := 12
def dot11FcSubtypeAction : U16 := 13

-- `enum dot11_action_category`
def dot11ActionCategoryBlockAck : U8 := 3
def dot11ActionCategoryPublic : U8 := 4
def dot11ActionCategoryHt : U8 := 7
def dot11ActionCategorySaQuery : U8 := 8
def dot11ActionCategoryWnm : U8 := 10
def dot11ActionCategoryWnmUnprotected : U8 := 11
def dot11ActionCategorySelfProtected : U8 := 15
def dot11ActionCategoryDmgUnprotected : U8 := 20
def dot11ActionCategoryVht : U8 := 21
def dot11ActionCategoryS1gUnprotected : U8 := 22
def dot11ActionCategoryHe : U8 := 30
def dot11ActionCategoryVendorSpecific : U8 := 127

/-- `sizeof(struct dot11_deauth)` and `sizeof(struct dot11_disassoc)`: a header and the reason. -/
def sizeofDot11Deauth : Nat := 26

/-- A management frame of a subtype. -/
def isMgmtSubtype (hdr : BytePtr) (subtype : U16) : Bool :=
  dot11FrameControlGetType (frameControl hdr) == dot11FcTypeMgmt
    && dot11FrameControlGetSubtype (frameControl hdr) == subtype

def frameIsDeauthentication (hdr : BytePtr) : Bool := isMgmtSubtype hdr dot11FcSubtypeDeauth

def frameIsDisassociation (hdr : BytePtr) : Bool := isMgmtSubtype hdr dot11FcSubtypeDisassoc

/-- `field.category` of an action frame, wherever the frame ends. -/
def actionCategory (hdr : BytePtr) : U8 := hdr sizeofDot11Hdr

/-- The categories that `frame_is_robust_action` excepts. -/
def nonRobustCategories : List U8 :=
  [dot11ActionCategoryPublic, dot11ActionCategoryHt, dot11ActionCategoryWnmUnprotected,
    dot11ActionCategorySelfProtected, dot11ActionCategoryDmgUnprotected, dot11ActionCategoryVht,
    dot11ActionCategoryS1gUnprotected, dot11ActionCategoryHe, dot11ActionCategoryVendorSpecific]

def frameIsRobustAction (hdr : BytePtr) : Bool :=
  isMgmtSubtype hdr dot11FcSubtypeAction && !nonRobustCategories.contains (actionCategory hdr)

def frameIsRobustMgmt (hdr : BytePtr) : Bool :=
  if frameIsDeauthentication hdr || frameIsDisassociation hdr then true
  else frameIsRobustAction hdr

/-! ## Processing -/

/-- The functions of other modules that a management frame is handed to. -/
inductive RxMgmtHandler where
  | umacConnectionProcessAssocReassocRsp
  | umacScanProcessProbeResp
  | umacConnectionProcessDisassocReq
  | umacConnectionProcessAuthResp
  | umacConnectionProcessDeauthRx
  | umacSuppProcessMgmtFrame
  | umacSuppProcessUnprotectedDeauth (reasonCode : U16) (sa da : MacAddr)
  | umacSuppProcessUnprotectedDisassoc (reasonCode : U16) (sa da : MacAddr)

/-- What becomes of a management frame: the state, and who is handed the frame. -/
abbrev RxMgmtResult := UmacData × Option RxMgmtHandler

/-- `umac_datapath_process_rx_action_frame`; `none` is an assertion. -/
def umacDatapathProcessRxActionFrame (env : UmacEnv) (u : UmacData) (rxbufview : Mmpkt) :
    Option RxMgmtResult :=
  let category := actionCategory rxbufview.dataStart
  if category = dot11ActionCategoryBlockAck then
    (umacBaProcessRxFrame env u rxbufview.dataStart (mmpktGetDataLength rxbufview)).map fun u =>
      (u, none)
  else if category = dot11ActionCategoryPublic ∨ category = dot11ActionCategorySaQuery
      ∨ category = dot11ActionCategoryWnm then some (u, some .umacSuppProcessMgmtFrame)
  else some (u, none)

/-- `umac_datapath_process_unprotected_robust_mgmt_frame`; `none` is its assertion. -/
def umacDatapathProcessUnprotectedRobustMgmtFrame (u : UmacData) (rxbufview : Mmpkt) :
    Option RxMgmtResult :=
  let header := rxbufview.dataStart
  if !umacDatapathValidateBufLen rxbufview sizeofDot11Hdr then none
  else if frameIsDeauthentication header then
    if !umacDatapathValidateBufLen rxbufview sizeofDot11Deauth then some (u, none)
    else
      some (u, some (.umacSuppProcessUnprotectedDeauth (header.le16 sizeofDot11Hdr)
        (dot11GetSa header) (dot11GetDa header)))
  else if frameIsDisassociation header then
    if !umacDatapathValidateBufLen rxbufview sizeofDot11Deauth then some (u, none)
    else
      some (u, some (.umacSuppProcessUnprotectedDisassoc (header.le16 sizeofDot11Hdr)
        (dot11GetSa header) (dot11GetDa header)))
  else some (u, none)

def umacDatapathProcessRxMgmtFrameSta (env : UmacEnv) (u : UmacData) (rxbufview : Mmpkt) :
    Option RxMgmtResult :=
  let subtype := dot11FrameControlGetSubtype (frameControl rxbufview.dataStart)
  if subtype = dot11FcSubtypeAssocRsp ∨ subtype = dot11FcSubtypeReassocRsp then
    some (u, some .umacConnectionProcessAssocReassocRsp)
  else if subtype = dot11FcSubtypeProbeRsp then some (u, some .umacScanProcessProbeResp)
  else if subtype = dot11FcSubtypeDisassoc then some (u, some .umacConnectionProcessDisassocReq)
  else if subtype = dot11FcSubtypeAuth then some (u, some .umacConnectionProcessAuthResp)
  else if subtype = dot11FcSubtypeDeauth then some (u, some .umacConnectionProcessDeauthRx)
  else if subtype = dot11FcSubtypeAction then umacDatapathProcessRxActionFrame env u rxbufview
  else some (u, none)

/-- `frame_data` and `frame_data_len`: what follows the header. -/
def mgmtFrameData (rxbufview : Mmpkt) : BytePtr := rxbufview.dataStart.add sizeofDot11Hdr
def mgmtFrameDataLen (rxbufview : Mmpkt) : Nat := mmpktGetDataLength rxbufview - sizeofDot11Hdr

/-- `umac_datapath_process_rx_mgmt_frame` of a station, for a frame with a STA record; `none` is an
assertion, or a NULL pointer that is followed. -/
def umacDatapathProcessRxMgmtFrame (omac1Aes128 : Omac1Aes128) (env : UmacEnv) (u : UmacData)
    (rxbufview : Mmpkt) (allocated : Bool) : Option RxMgmtResult :=
  let header := rxbufview.dataStart
  let frameData := mgmtFrameData rxbufview
  let frameDataLen := mgmtFrameDataLen rxbufview
  if !umacDatapathValidateBufLen rxbufview sizeofDot11Hdr then none
  else if frameIsRobustMgmt header
      && (!dot11FrameControlGetProtected (frameControl header) && umacStaDataPmfIsRequired env) then
    if mmMacAddrIsMulticast (dot11GetDa header) && (ieMmieFind frameData frameDataLen).isSome then
      (bipIsValid omac1Aes128 u.stad.keys header frameData frameDataLen allocated).bind
        fun (keys, valid) =>
          if !valid then some (u.setKeys keys, none)
          else umacDatapathProcessRxMgmtFrameSta env (u.setKeys keys) rxbufview
    else umacDatapathProcessUnprotectedRobustMgmtFrame u rxbufview
  else umacDatapathProcessRxMgmtFrameSta env u rxbufview

/-! ## The element with the MIC -/

/-- The MIC of an element is computed with this key. -/
structure MicKey (keys : ConnectionKeysData) (data : BytePtr) (mmie : Nat) (key : UmacKey) :
    Prop where
  installed : ∃ slot, keySlot? (mmieKeyId data mmie) = some slot
    ∧ installedKey keys slot = some key
  igtk : key.keyType = .igtk
  short : key.keyLen ≤ maxSupportedKeyLen

/-- The check of an element does not come to its end: there is no slot for the key id, or no memory
for the octets that are authenticated. -/
def MmieTrips (keys : ConnectionKeysData) (data : BytePtr) (mmie : Nat) (allocated : Bool) : Prop :=
  keySlot? (mmieKeyId data mmie) = none ∨ ∃ key, MicKey keys data mmie key ∧ allocated = false

/-- The element has the MIC of the frame, and a packet number that was not there before. -/
def MmieAccepted (omac1Aes128 : Omac1Aes128) (keys : ConnectionKeysData) (header data : BytePtr)
    (dataLen mmie : Nat) : Prop :=
  ∃ key mic, MicKey keys data mmie key
    ∧ omac1Aes128 key.keyData (bipInput header data dataLen) = some mic
    ∧ mmieMic data mmie = mic.take micLength
    ∧ (key.rxSeq .default).toNat < (mmiePacketNumber data mmie).toNat

section Element

variable {omac1Aes128 : Omac1Aes128} {keys : ConnectionKeysData} {header data : BytePtr}
  {dataLen mmie : Nat} {allocated : Bool} {key : UmacKey} {slot : KeySlot}

theorem MicKey.unique {key' : UmacKey} (h : MicKey keys data mmie key)
    (h' : MicKey keys data mmie key') : key' = key := by
  obtain ⟨slot, hslot, hkey⟩ := h.installed
  obtain ⟨slot', hslot', hkey'⟩ := h'.installed
  obtain rfl := Option.some.inj (hslot.symm.trans hslot')
  exact (Option.some.inj (hkey.symm.trans hkey')).symm

theorem passes_of_not_micKey (hslot : keySlot? (mmieKeyId data mmie) = some slot)
    (hno : ¬ ∃ key, MicKey keys data mmie key) :
    (ProtectedFrame.groupMgmtFrame header data dataLen allocated).passes omac1Aes128
      (installedKey keys slot) = some false := by
  cases hkey : installedKey keys slot with
  | none => rfl
  | some key =>
    refine if_pos ?_
    by_contra hgood
    rw [not_or, not_not] at hgood
    exact hno ⟨key, ⟨slot, hslot, hkey⟩, hgood.1, Nat.le_of_not_lt hgood.2⟩

theorem connectionKeysCheckAndUpdateRxReplay_valid {keyId : U8} {packetNumber : U64}
    {space : UmacKeyRxCounterSpace} (hslot : keySlot? keyId = some slot)
    (hkey : installedKey keys slot = some key) :
    ∃ keys', connectionKeysCheckAndUpdateRxReplay keys keyId packetNumber space
      = some (keys', decide ((key.rxSeq space).toNat < packetNumber.toNat)) := by
  obtain ⟨p, hp, rfl⟩ := Option.map_eq_some_iff.mp hkey
  unfold connectionKeysCheckAndUpdateRxReplay
  rw [hslot, Option.map_some, hp]
  dsimp only
  by_cases hlt : ((keys.pool p).rxSeq space).toNat < packetNumber.toNat
  · rw [if_pos hlt, decide_eq_true hlt]
    exact ⟨_, rfl⟩
  · rw [if_neg hlt, decide_eq_false hlt]
    exact ⟨_, rfl⟩

theorem bipIsValid_micKey (hmmie : ieMmieFind data dataLen = some mmie)
    (hslot : keySlot? (mmieKeyId data mmie) = some slot) (hmic : MicKey keys data mmie key) :
    let answer := ((ProtectedFrame.groupMgmtFrame header data dataLen allocated).passes omac1Aes128
      (installedKey keys slot)).bind fun passes =>
        if passes then connectionKeysCheckAndUpdateRxReplay keys (mmieKeyId data mmie)
          (mmiePacketNumber data mmie) .default
        else some (keys, false)
    (answer = none ↔ MmieTrips keys data mmie allocated)
      ∧ ∀ keys' valid, answer = some (keys', valid) →
        (valid = true ↔ MmieAccepted omac1Aes128 keys header data dataLen mmie) := by
  obtain ⟨slot', hslot', hkey⟩ := hmic.installed
  obtain rfl := Option.some.inj (hslot.symm.trans hslot')
  have hgood : ¬ (key.keyType ≠ .igtk ∨ maxSupportedKeyLen < key.keyLen) := by
    rw [not_or, not_not]
    exact ⟨hmic.igtk, Nat.not_lt.mpr hmic.short⟩
  have htrips : MmieTrips keys data mmie allocated ↔ allocated = false := by
    constructor
    · rintro (hbad | ⟨key', -, hno⟩)
      · exact nomatch hslot.symm.trans hbad
      · exact hno
    · exact fun hno => .inr ⟨key, hmic, hno⟩
  have haccepted : MmieAccepted omac1Aes128 keys header data dataLen mmie ↔
      ∃ mic, omac1Aes128 key.keyData (bipInput header data dataLen) = some mic
        ∧ mmieMic data mmie = mic.take micLength
        ∧ (key.rxSeq .default).toNat < (mmiePacketNumber data mmie).toNat := by
    constructor
    · rintro ⟨key', mic, hmic', h⟩
      obtain rfl := hmic.unique hmic'
      exact ⟨mic, h⟩
    · exact fun ⟨mic, h⟩ => ⟨key, mic, hmic, h⟩
  rw [hkey, htrips, haccepted]
  unfold ProtectedFrame.passes bipGenerateMic
  dsimp only
  rw [if_neg hgood, hmmie]
  cases allocated with
  | false => exact ⟨iff_of_true rfl rfl, fun keys' valid h => nomatch h⟩
  | true =>
    rw [if_pos rfl, Option.map_some, Option.bind_some]
    cases omac1Aes128 key.keyData (bipInput header data dataLen) with
    | none =>
      refine ⟨iff_of_false (fun h => nomatch h) (fun h => nomatch h), fun keys' valid h => ?_⟩
      obtain ⟨-, rfl⟩ := Prod.mk.inj (Option.some.inj h)
      exact iff_of_false (fun h => nomatch h) fun ⟨_, h, _⟩ => nomatch h
    | some mic =>
      rw [Option.any_some, Option.any_some]
      by_cases hsame : mmieMic data mmie = mic.take micLength
      · obtain ⟨keys₁, hreplay⟩ := @connectionKeysCheckAndUpdateRxReplay_valid keys key
          slot _ (mmiePacketNumber data mmie) .default hslot hkey
        rw [decide_eq_true hsame, if_pos rfl, hreplay]
        refine ⟨iff_of_false (fun h => nomatch h) (fun h => nomatch h),
          fun keys' valid h => ?_⟩
        obtain ⟨-, rfl⟩ := Prod.mk.inj (Option.some.inj h)
        rw [decide_eq_true_eq]
        constructor
        · exact fun hlt => ⟨mic, rfl, hsame, hlt⟩
        · exact fun ⟨_, _, _, hlt⟩ => hlt
      rw [decide_eq_false hsame, if_neg Bool.false_ne_true]
      refine ⟨iff_of_false (fun h => nomatch h) (fun h => nomatch h),
        fun keys' valid h => ?_⟩
      obtain ⟨-, rfl⟩ := Prod.mk.inj (Option.some.inj h)
      refine iff_of_false (fun h => nomatch h) fun ⟨mic', heq, hmic', _⟩ => ?_
      cases heq
      exact hsame hmic'

theorem bipIsValid_spec (hmmie : ieMmieFind data dataLen = some mmie) :
    (bipIsValid omac1Aes128 keys header data dataLen allocated = none
        ↔ MmieTrips keys data mmie allocated)
      ∧ ∀ keys' valid,
        bipIsValid omac1Aes128 keys header data dataLen allocated = some (keys', valid) →
          (valid = true ↔ MmieAccepted omac1Aes128 keys header data dataLen mmie) := by
  have hcounter : (ProtectedFrame.groupMgmtFrame header data dataLen allocated).counter
      = some ⟨mmieKeyId data mmie, mmiePacketNumber data mmie, .default⟩ := by
    show (ieMmieFind data dataLen).map _ = _
    rw [hmmie]
    rfl
  show ((ProtectedFrame.groupMgmtFrame header data dataLen allocated).isValid omac1Aes128 keys
      = none ↔ _) ∧ ∀ keys' valid,
    (ProtectedFrame.groupMgmtFrame header data dataLen allocated).isValid omac1Aes128 keys = _ → _
  cases hslot : keySlot? (mmieKeyId data mmie) with
  | none =>
    rw [ProtectedFrame.isValid_badKeyId hcounter hslot]
    exact ⟨iff_of_true rfl (.inl hslot), fun keys' valid h => nomatch h⟩
  | some slot =>
    rw [ProtectedFrame.isValid_eq hcounter hslot]
    by_cases hkey : ∃ key, MicKey keys data mmie key
    · obtain ⟨key, hkey⟩ := hkey
      exact bipIsValid_micKey hmmie hslot hkey
    rw [passes_of_not_micKey hslot hkey]
    refine ⟨iff_of_false (fun h => nomatch h) ?_, fun keys' valid h => ?_⟩
    · rintro (hbad | ⟨key, hmic, -⟩)
      · exact nomatch hslot.symm.trans hbad
      · exact hkey ⟨key, hmic⟩
    · obtain ⟨-, rfl⟩ := Prod.mk.inj (Option.some.inj h)
      exact iff_of_false (fun h => nomatch h) fun ⟨key, _, hmic, _⟩ => hkey ⟨key, hmic⟩

end Element

/-! ## Block-ack frames -/

/-- The session that a DELBA ends, if its TID has one. -/
def delbaSession? (field : BytePtr) : Option UmacBaSessionPtr :=
  (baTid? ((dot11DelbaParameterSetFieldGetTid (field.le16 2)).setWidth 8)).map fun tid =>
    if dot11DelbaParameterSetFieldGetInitiator (field.le16 2) == dot11DelbaInitiatorOriginator
    then .recipient tid
    else .originator tid

/-- The frame is a DELBA that ends a session whose frames wait for reordering, and one that waits is
too short for its headers. -/
structure DelbaTrips (u : UmacData) (frame : BytePtr) (frameLen : Nat) : Prop where
  delba : frame (sizeofDot11Hdr + 1) = dot11BaActionNdpDelba
  long : sizeofDot11Hdr + sizeofDot11ActionFieldDelba ≤ frameLen
  ends : ∃ ptr, delbaSession? (frame.add sizeofDot11Hdr) = some ptr
    ∧ (u.stad.ba.session ptr).status ≠ .disabled
    ∧ u.stad.datapath.rxReorderTid = (u.stad.ba.session ptr).tid.setWidth 16
  short : ∃ pkt ∈ u.stad.datapath.rxReorderList, ¬ HasHeaders pkt

section BlockAck

variable {env : UmacEnv} {u u' : UmacData} {frame : BytePtr} {frameLen : Nat}

theorem flushRxReorderLoop_empty {l : List Mmpkt} (hchains : FragChainsOk u)
    (hl : u.stad.datapath.rxReorderList = l) (heq : flushRxReorderLoop env l u = some u') :
    u'.stad.datapath.rxReorderList = [] := by
  induction l generalizing u with
  | nil =>
    cases heq
    exact hl
  | cons x rest ih =>
    obtain ⟨u₁, hx, hrest⟩ := Option.bind_eq_some_iff.mp heq
    obtain ⟨record, hspec⟩ := afterReorder_of_eq_some hx hchains
    exact ih hspec.chains hspec.rxReorderList hrest

theorem flushForTid_isSome {tid : U16} (hchains : FragChainsOk u) :
    (∃ u', umacDatapathFlushRxReorderListForTid env u tid = some u') ↔
      (u.stad.datapath.rxReorderTid = tid → ∀ pkt ∈ u.stad.datapath.rxReorderList,
        HasHeaders pkt) := by
  unfold umacDatapathFlushRxReorderListForTid
  by_cases htid : u.stad.datapath.rxReorderTid = tid
  · rw [if_neg (by simpa using htid), forall_prop_of_true htid,
      ← @flushRxReorderLoop_isSome env u _ hchains]
    constructor
    · rintro ⟨u', heq⟩
      obtain ⟨u₁, hfirst, -⟩ := Option.bind_eq_some_iff.mp heq
      exact ⟨u₁, hfirst⟩
    rintro ⟨u₁, hfirst⟩
    refine ⟨u₁, Option.bind_eq_some_iff.mpr ⟨u₁, hfirst, ?_⟩⟩
    -- the second loop finds nothing
    unfold umacDatapathFlushRxReorderList
    rw [flushRxReorderLoop_empty hchains rfl hfirst]
    rfl
  · rw [if_pos (by simpa using htid)]
    exact iff_of_true ⟨u, rfl⟩ fun h => absurd h htid

theorem umacBaRxDelba_isSome {field : BytePtr} {fieldLen : Nat} (hchains : FragChainsOk u) :
    (∃ u', umacBaRxDelba env u field fieldLen = some u') ↔
      (sizeofDot11ActionFieldDelba ≤ fieldLen → ∀ ptr, delbaSession? field = some ptr →
        (u.stad.ba.session ptr).status ≠ .disabled →
        u.stad.datapath.rxReorderTid = (u.stad.ba.session ptr).tid.setWidth 16 →
          ∀ pkt ∈ u.stad.datapath.rxReorderList, HasHeaders pkt) := by
  unfold umacBaRxDelba delbaSession?
  by_cases hlen : fieldLen < sizeofDot11ActionFieldDelba
  · rw [if_pos hlen]
    exact iff_of_true ⟨u, rfl⟩ fun h => absurd hlen (Nat.not_lt.mpr h)
  rw [if_neg hlen, forall_prop_of_true (Nat.le_of_not_lt hlen)]
  dsimp only
  cases baTid? ((dot11DelbaParameterSetFieldGetTid (field.le16 2)).setWidth 8) with
  | none => exact iff_of_true ⟨u, rfl⟩ fun ptr h => nomatch h
  | some tid =>
    simp only [Option.map_some, Option.some.injEq, forall_eq']
    generalize (if dot11DelbaParameterSetFieldGetInitiator (field.le16 2)
        == dot11DelbaInitiatorOriginator then UmacBaSessionPtr.recipient tid
      else UmacBaSessionPtr.originator tid) = ptr
    by_cases hstatus : (u.stad.ba.session ptr).status = .disabled
    · rw [if_pos hstatus]
      exact iff_of_true ⟨u, rfl⟩ fun h => absurd hstatus h
    rw [if_neg hstatus, forall_prop_of_true hstatus]
    have hflush := @flushForTid_isSome env
      (umacCoreCancelTimeout u (.umacBaAddbaReqTimeoutHandler ptr))
      ((u.stad.ba.session ptr).tid.setWidth 16) hchains
    refine Iff.trans ?_ hflush
    constructor
    · rintro ⟨u', heq⟩
      obtain ⟨u₁, hflushed, -⟩ := Option.map_eq_some_iff.mp heq
      exact ⟨u₁, hflushed⟩
    · rintro ⟨u₁, hflushed⟩
      exact ⟨_, Option.map_eq_some_iff.mpr ⟨u₁, hflushed, rfl⟩⟩

theorem umacBaProcessRxFrame_isSome (hchains : FragChainsOk u) :
    (∃ u', umacBaProcessRxFrame env u frame frameLen = some u') ↔
      sizeofDot11Action ≤ frameLen ∧ ¬ DelbaTrips u frame frameLen := by
  unfold umacBaProcessRxFrame
  by_cases hlen : frameLen < sizeofDot11Action
  · rw [if_pos hlen]
    exact iff_of_false (fun ⟨_, h⟩ => nomatch h) fun h => absurd hlen (Nat.not_lt.mpr h.1)
  rw [if_neg hlen, and_iff_right (Nat.le_of_not_lt hlen)]
  have haction : frame.add sizeofDot11Hdr 1 = frame (sizeofDot11Hdr + 1) := rfl
  dsimp only
  rw [haction]
  by_cases hdelba : frame (sizeofDot11Hdr + 1) = dot11BaActionNdpDelba
  · have hreq : dot11BaActionNdpDelba ≠ dot11BaActionNdpAddbaReq := by decide
    have hresp : dot11BaActionNdpDelba ≠ dot11BaActionNdpAddbaResp := by decide
    rw [hdelba, if_neg hreq, if_neg hresp, if_pos rfl, umacBaRxDelba_isSome hchains]
    have hfield : sizeofDot11ActionFieldDelba ≤ frameLen - sizeofDot11Hdr ↔
        sizeofDot11Hdr + sizeofDot11ActionFieldDelba ≤ frameLen := by
      unfold sizeofDot11ActionFieldDelba sizeofDot11Hdr
      omega
    rw [hfield]
    constructor
    · rintro h ⟨-, hlong, ⟨ptr, hptr, hstatus, htid⟩, pkt, hpkt, hshort⟩
      exact hshort (h hlong ptr hptr hstatus htid pkt hpkt)
    · intro h hlong ptr hptr hstatus htid pkt hpkt
      by_contra hshort
      exact h ⟨hdelba, hlong, ⟨ptr, hptr, hstatus, htid⟩, pkt, hpkt, hshort⟩
  · refine iff_of_true ?_ fun h => hdelba h.delba
    rw [if_neg hdelba]
    split_ifs <;> exact ⟨_, rfl⟩

end BlockAck

/-! ## Every management frame -/

/-- The frame is not protected although it has to be. -/
def LacksProtection (env : UmacEnv) (rxbuf : Mmpkt) : Prop :=
  frameIsRobustMgmt rxbuf.dataStart = true
    ∧ dot11FrameControlGetProtected (frameControl rxbuf.dataStart) = false
    ∧ umacStaDataPmfIsRequired env = true

/-- A frame to a group that has an element with a MIC. -/
def HasMmie (rxbuf : Mmpkt) (mmie : Nat) : Prop :=
  mmMacAddrIsMulticast (dot11GetDa rxbuf.dataStart) = true
    ∧ ieMmieFind (mgmtFrameData rxbuf) (mgmtFrameDataLen rxbuf) = some mmie

/-- The frame goes to the module of its subtype. -/
def PassesProtection (omac1Aes128 : Omac1Aes128) (env : UmacEnv) (u : UmacData) (rxbuf : Mmpkt) :
    Prop :=
  LacksProtection env rxbuf → ∃ mmie, HasMmie rxbuf mmie
    ∧ MmieAccepted omac1Aes128 u.stad.keys rxbuf.dataStart (mgmtFrameData rxbuf)
        (mgmtFrameDataLen rxbuf) mmie

/-- A block-ack frame that ends with its header, or that flushes a frame which is too short. -/
def BlockAckTrips (u : UmacData) (rxbuf : Mmpkt) : Prop :=
  dot11FrameControlGetSubtype (frameControl rxbuf.dataStart) = dot11FcSubtypeAction
    ∧ actionCategory rxbuf.dataStart = dot11ActionCategoryBlockAck
    ∧ (rxbuf.data.length < sizeofDot11Action
      ∨ DelbaTrips u rxbuf.dataStart rxbuf.data.length)

section Mgmt

variable {omac1Aes128 : Omac1Aes128} {env : UmacEnv} {u : UmacData} {rxbuf : Mmpkt}
  {allocated : Bool}

theorem blockAckTrips_setKeys (keys : ConnectionKeysData) :
    BlockAckTrips (u.setKeys keys) rxbuf ↔ BlockAckTrips u rxbuf := by
  have hdelba : DelbaTrips (u.setKeys keys) rxbuf.dataStart rxbuf.data.length
      ↔ DelbaTrips u rxbuf.dataStart rxbuf.data.length := by
    constructor <;> exact fun h => ⟨h.delba, h.long, h.ends, h.short⟩
  unfold BlockAckTrips
  rw [hdelba]

theorem processRxMgmtFrameSta_isSome (hchains : FragChainsOk u) :
    (∃ r, umacDatapathProcessRxMgmtFrameSta env u rxbuf = some r) ↔ ¬ BlockAckTrips u rxbuf := by
  unfold umacDatapathProcessRxMgmtFrameSta BlockAckTrips
  dsimp only
  by_cases haction : dot11FrameControlGetSubtype (frameControl rxbuf.dataStart)
      = dot11FcSubtypeAction
  · have hassoc : ¬ (dot11FcSubtypeAction = dot11FcSubtypeAssocRsp
        ∨ dot11FcSubtypeAction = dot11FcSubtypeReassocRsp) := by decide
    have hprobe : dot11FcSubtypeAction ≠ dot11FcSubtypeProbeRsp := by decide
    have hdisassoc : dot11FcSubtypeAction ≠ dot11FcSubtypeDisassoc := by decide
    have hauth : dot11FcSubtypeAction ≠ dot11FcSubtypeAuth := by decide
    have hdeauth : dot11FcSubtypeAction ≠ dot11FcSubtypeDeauth := by decide
    rw [haction, if_neg hassoc, if_neg hprobe, if_neg hdisassoc, if_neg hauth, if_neg hdeauth,
      if_pos rfl]
    unfold umacDatapathProcessRxActionFrame mmpktGetDataLength
    dsimp only
    by_cases hba : actionCategory rxbuf.dataStart = dot11ActionCategoryBlockAck
    · have hprocess := @umacBaProcessRxFrame_isSome env u rxbuf.dataStart rxbuf.data.length hchains
      rw [if_pos hba]
      constructor
      · rintro ⟨r, heq⟩ ⟨-, -, htrips⟩
        obtain ⟨u', hsome, -⟩ := Option.map_eq_some_iff.mp heq
        obtain ⟨hlong, hno⟩ := hprocess.mp ⟨u', hsome⟩
        rcases htrips with hshort | hdelba
        · exact absurd hshort (Nat.not_lt.mpr hlong)
        · exact hno hdelba
      intro hno
      have hlong : sizeofDot11Action ≤ rxbuf.data.length :=
        Nat.le_of_not_lt fun hshort => hno ⟨rfl, hba, .inl hshort⟩
      obtain ⟨u', hsome⟩ := hprocess.mpr ⟨hlong, fun hdelba => hno ⟨rfl, hba, .inr hdelba⟩⟩
      exact ⟨_, Option.map_eq_some_iff.mpr ⟨u', hsome, rfl⟩⟩
    · refine iff_of_true ?_ fun h => hba h.2.1
      rw [if_neg hba]
      split_ifs <;> exact ⟨_, rfl⟩
  · refine iff_of_true ?_ fun h => haction h.1
    rw [if_neg haction]
    split_ifs <;> exact ⟨_, rfl⟩

theorem validateBufLen_hdr (hlen : sizeofDot11Hdr ≤ rxbuf.data.length) :
    umacDatapathValidateBufLen rxbuf sizeofDot11Hdr = true := by
  unfold umacDatapathValidateBufLen mmpktGetDataLength
  simpa using hlen

theorem processUnprotectedRobustMgmtFrame_isSome (hlen : sizeofDot11Hdr ≤ rxbuf.data.length) :
    ∃ r, umacDatapathProcessUnprotectedRobustMgmtFrame u rxbuf = some r := by
  unfold umacDatapathProcessUnprotectedRobustMgmtFrame
  dsimp only
  rw [validateBufLen_hdr hlen, if_neg (by decide)]
  split_ifs <;> exact ⟨_, rfl⟩

theorem processRxMgmtFrame_mmie {mmie : Nat} (hlen : sizeofDot11Hdr ≤ rxbuf.data.length)
    (hlacks : LacksProtection env rxbuf) (hmmie : HasMmie rxbuf mmie) :
    umacDatapathProcessRxMgmtFrame omac1Aes128 env u rxbuf allocated =
      (bipIsValid omac1Aes128 u.stad.keys rxbuf.dataStart (mgmtFrameData rxbuf)
        (mgmtFrameDataLen rxbuf) allocated).bind fun (keys, valid) =>
          if !valid then some (u.setKeys keys, none)
          else umacDatapathProcessRxMgmtFrameSta env (u.setKeys keys) rxbuf := by
  obtain ⟨hrobust, hunprotected, hpmf⟩ := hlacks
  obtain ⟨hgroup, hfound⟩ := hmmie
  unfold umacDatapathProcessRxMgmtFrame
  dsimp only
  rw [validateBufLen_hdr hlen, if_neg (by decide), hrobust, hunprotected, hpmf, if_pos (by decide),
    hgroup, hfound, Option.isSome_some, Bool.and_true, if_pos rfl]

theorem processRxMgmtFrame_unprotected (hlen : sizeofDot11Hdr ≤ rxbuf.data.length)
    (hlacks : LacksProtection env rxbuf) (hno : ¬ ∃ mmie, HasMmie rxbuf mmie) :
    ∃ r, umacDatapathProcessRxMgmtFrame omac1Aes128 env u rxbuf allocated = some r := by
  obtain ⟨hrobust, hunprotected, hpmf⟩ := hlacks
  have hnot : (mmMacAddrIsMulticast (dot11GetDa rxbuf.dataStart)
      && (ieMmieFind (mgmtFrameData rxbuf) (mgmtFrameDataLen rxbuf)).isSome) = false := by
    rw [Bool.eq_false_iff]
    intro h
    obtain ⟨hgroup, hfound⟩ := Bool.and_eq_true_iff.mp h
    obtain ⟨mmie, hfound⟩ := Option.isSome_iff_exists.mp hfound
    exact hno ⟨mmie, hgroup, hfound⟩
  unfold umacDatapathProcessRxMgmtFrame
  dsimp only
  rw [validateBufLen_hdr hlen, if_neg (by decide), hrobust, hunprotected, hpmf, if_pos (by decide),
    hnot, if_neg Bool.false_ne_true]
  exact processUnprotectedRobustMgmtFrame_isSome hlen

theorem processRxMgmtFrame_protected (hlen : sizeofDot11Hdr ≤ rxbuf.data.length)
    (hprotected : ¬ LacksProtection env rxbuf) :
    umacDatapathProcessRxMgmtFrame omac1Aes128 env u rxbuf allocated
      = umacDatapathProcessRxMgmtFrameSta env u rxbuf := by
  have hnot : (frameIsRobustMgmt rxbuf.dataStart
      && (!dot11FrameControlGetProtected (frameControl rxbuf.dataStart)
        && umacStaDataPmfIsRequired env)) = false := by
    rw [Bool.eq_false_iff]
    intro h
    simp only [Bool.and_eq_true, Bool.not_eq_true'] at h
    exact hprotected h
  unfold umacDatapathProcessRxMgmtFrame
  dsimp only
  rw [validateBufLen_hdr hlen, if_neg (by decide), hnot, if_neg Bool.false_ne_true]

/-- A management frame of any subtype and content survives, unless its element has a key id that no
slot has, or there is no memory to check it, or it is a block-ack frame that trips. -/
theorem rx_mgmt_frame_survives_iff {s : RxOwners} (hreachable : RxReachable env s)
    (hlen : sizeofDot11Hdr ≤ rxbuf.data.length) :
    (∃ r, umacDatapathProcessRxMgmtFrame omac1Aes128 env s.umac rxbuf allocated = some r) ↔
      ¬ ((LacksProtection env rxbuf ∧ ∃ mmie, HasMmie rxbuf mmie
            ∧ MmieTrips s.umac.stad.keys (mgmtFrameData rxbuf) mmie allocated)
          ∨ PassesProtection omac1Aes128 env s.umac rxbuf ∧ BlockAckTrips s.umac rxbuf) := by
  obtain ⟨events, hrun⟩ := hreachable
  have hchains : FragChainsOk s.umac := ((linked_throughout env events).of_runFrom hrun).room
  by_cases hlacks : LacksProtection env rxbuf
  · have hpasses : PassesProtection omac1Aes128 env s.umac rxbuf ↔ _ :=
      forall_prop_of_true hlacks
    rw [hpasses, and_iff_right hlacks]
    by_cases hmmie : ∃ mmie, HasMmie rxbuf mmie
    · -- the element decides, and there is one element that is looked at
      obtain ⟨mmie, hmmie⟩ := hmmie
      have honly : ∀ mmie', HasMmie rxbuf mmie' ↔ mmie' = mmie := by
        intro mmie'
        unfold HasMmie
        rw [hmmie.2, Option.some.injEq, and_iff_right hmmie.1]
        exact eq_comm
      simp only [honly, exists_eq_left]
      obtain ⟨hnone, hsome⟩ := @bipIsValid_spec omac1Aes128 s.umac.stad.keys rxbuf.dataStart
        (mgmtFrameData rxbuf) (mgmtFrameDataLen rxbuf) mmie allocated hmmie.2
      rw [processRxMgmtFrame_mmie hlen hlacks hmmie, ← hnone]
      cases hbip : bipIsValid omac1Aes128 s.umac.stad.keys rxbuf.dataStart (mgmtFrameData rxbuf)
          (mgmtFrameDataLen rxbuf) allocated with
      | none => exact iff_of_false (fun ⟨_, h⟩ => nomatch h) fun h => h (.inl rfl)
      | some answer =>
        obtain ⟨keys, valid⟩ := answer
        rw [← hsome keys valid hbip, Option.bind_some, or_iff_right (fun h => nomatch h)]
        cases valid with
        | false => exact iff_of_true ⟨_, rfl⟩ fun h => nomatch h.1
        | true =>
          have hsta : (∃ r, umacDatapathProcessRxMgmtFrameSta env (s.umac.setKeys keys) rxbuf
              = some r) ↔ ¬ BlockAckTrips (s.umac.setKeys keys) rxbuf :=
            processRxMgmtFrameSta_isSome hchains
          rw [blockAckTrips_setKeys] at hsta
          rw [and_iff_right rfl]
          exact hsta
    refine iff_of_true (processRxMgmtFrame_unprotected hlen hlacks hmmie) ?_
    rintro (⟨mmie, hhas, -⟩ | ⟨⟨mmie, hhas, -⟩, -⟩)
    · exact hmmie ⟨mmie, hhas⟩
    · exact hmmie ⟨mmie, hhas⟩
  · have hpasses : PassesProtection omac1Aes128 env s.umac rxbuf := fun h => absurd h hlacks
    rw [processRxMgmtFrame_protected hlen hlacks, processRxMgmtFrameSta_isSome hchains,
      and_iff_right hpasses, or_iff_right fun h => hlacks h.1]

end Mgmt

/-! ## A deauthentication of everyone -/

/-- A network that requires the protection of management frames. -/
def pmfEnv : UmacEnv := { openEnv with securityType := .sae, pmfMode := .required }

/-- A deauthentication frame that the access point sends to everyone, with an element for a key. -/
def deauthFrame (keyId : U8) : Mmpkt where
  startOffset := 0
  data := [0xc0, 0, 0, 0] ++ List.replicate 6 0xff ++ List.replicate 12 0x04 ++ [0, 0]
    ++ [3, 0] ++ [76, 16, keyId, 0] ++ List.replicate 14 0
  behind := fun _ => 0
  tailroom := 0
  rx := ⟨false, 0⟩

theorem deauthFrame_hasMmie : HasMmie (deauthFrame 4) 2 ∧ HasMmie (deauthFrame 6) 2 := by
  refine ⟨⟨by decide +kernel, ?_⟩, by decide +kernel, ?_⟩
  · unfold ieMmieFind Ies.ieFindAndValidateLength
    rw [Ies.ieFindLoop, Ies.ieFindLoop]
    decide +kernel
  · unfold ieMmieFind Ies.ieFindAndValidateLength
    rw [Ies.ieFindLoop, Ies.ieFindLoop]
    decide +kernel

/-- A key id of a slot without a key. -/
theorem deauth_of_uninstalled_key_survives :
    ∃ r, umacDatapathProcessRxMgmtFrame (fun _ _ => none) pmfEnv rxOwnersInit.umac (deauthFrame 4)
      true = some r := by
  refine (rx_mgmt_frame_survives_iff ⟨[], rfl⟩ (by decide)).mpr ?_
  rintro (⟨-, mmie, hhas, htrips⟩ | ⟨-, haction, -⟩)
  · obtain rfl := Option.some.inj (hhas.2.symm.trans deauthFrame_hasMmie.1.2)
    rcases htrips with hnone | ⟨key, ⟨⟨slot, -, hkey⟩, -, -⟩, -⟩
    · exact absurd hnone (by decide +kernel)
    · cases hkey
  · exact absurd haction (by decide +kernel)

/-- The sixth key id stops the program. -/
theorem deauth_of_key_six_asserts :
    ¬ ∀ (omac1Aes128 : Omac1Aes128) (env : UmacEnv) (s : RxOwners) (rxbuf : Mmpkt),
      RxReachable env s → sizeofDot11Hdr ≤ rxbuf.data.length →
      dot11FrameControlGetType (frameControl rxbuf.dataStart) = dot11FcTypeMgmt →
        ∃ r, umacDatapathProcessRxMgmtFrame omac1Aes128 env s.umac rxbuf true = some r := by
  intro h
  obtain ⟨r, hsurvives⟩ := h (fun _ _ => none) pmfEnv rxOwnersInit (deauthFrame 6) ⟨[], rfl⟩
    (by decide) (by decide +kernel)
  have hlacks : LacksProtection pmfEnv (deauthFrame 6) :=
    ⟨by decide +kernel, by decide +kernel, rfl⟩
  have hbadKeyId : keySlot? (mmieKeyId (mgmtFrameData (deauthFrame 6)) 2) = none := by
    decide +kernel
  rw [processRxMgmtFrame_mmie (by decide) hlacks deauthFrame_hasMmie.2,
    (bipIsValid_spec deauthFrame_hasMmie.2.2).1.mpr (.inl hbadKeyId)] at hsurvives
  cases hsurvives

end MmIotEsp32.Umac.Datapath
