/-
  MmIotEsp32.Umac.Ba.TxWindow

  The window that a transmitted A-MPDU is given.
-/
import MmIotEsp32.Umac.Datapath.TxPath
import MmIotEsp32.Umac.StadRuns

namespace MmIotEsp32.Umac.Ba.TxWindow

open Lib Dot11 Keys Datapath Function

/-! ## A data frame on its way out -/

def umacBaMaxAggrTid : Nat := 5

-- `enum mmdrv_tx_metadata_flags`
def mmdrvTxFlagAmpduEnabled : U8 := 0x01
def mmdrvTxFlagHwEnc : U8 := 0x04
def mmdrvTxFlagTpEnabled : U8 := 0x08
def mmdrvTxFlagNoAck : U8 := 0x10
def mmdrvTxFlagCr1mhzPreEnabled : U8 := 0x20

/-- `struct mmdrv_tx_metadata`, what the data path reads and writes of it here. -/
structure MmdrvTxMetadata where
  keyIdx : U8
  tid : U8
  tidMaxReorderBufSize : U8
  flags : U8
  enc : UmacDatapathFrameEncryption
  deriving Repr, DecidableEq

/-- A frame that was dequeued, with the receiver that `construct_80211_data_header` gives it
and the configuration that it meets. -/
structure QueuedFrame where
  ra : MacAddr
  ethertype : U16
  metadata : MmdrvTxMetadata
  /-- the sequence control, from the space of its TID -/
  sequenceControl : U16
  /-- `umac_config_is_ampdu_enabled` -/
  ampduEnabled : Bool
  /-- `tx_traveling_pilots_supported` -/
  txTravelingPilotsSupported : Bool
  /-- `umac_interface_get_control_response_bw_1mhz_out_enabled` -/
  controlResponseBw1mhzOutEnabled : Bool

def umacBaIsAmpduPermitted (data : UmacBaStaData) (tid : U8) : Bool :=
  match baTid? tid with
  | none => false
  | some i => decide ((data.originator i).status = .success)

def umacDatapathAggrCheck (env : UmacEnv) (u : UmacData) (frame : QueuedFrame) : UmacData :=
  if umacBaMaxAggrTid < frame.metadata.tid.toNat then u
  else if env.staState u.tick ≠ .connected then u.ticked
  else if !frame.ampduEnabled || !env.ampduSupported then u.ticked
  else
    umacBaSessionInit env u.ticked frame.metadata.tid frame.sequenceControl
      dot11BlockAckTimeoutDisabled

/-- The key that a frame is sent under, -1 for none; `none` drops the frame. -/
def txKeyId (env : UmacEnv) (keys : ConnectionKeysData) (frame : QueuedFrame) : Option Int :=
  if env.securityType ≠ .open ∧ frame.metadata.enc ≠ .disabled then
    let keyId := connectionKeysGetActiveKeyId keys
      (if mmMacAddrIsMulticast frame.ra then .group else .pairwise)
    if 0 ≤ keyId then some keyId
    else if frame.metadata.enc = .enabled then none
    else some keyId
  else some (-1)

/-- The part of the metadata that is about aggregation; `none` is the assertion of
`umac_ba_get_reorder_buffer_size`. -/
def fillAggregation (data : UmacBaStaData) (frame : QueuedFrame) (metadata : MmdrvTxMetadata) :
    Option MmdrvTxMetadata :=
  if mmMacAddrIsMulticast frame.ra then some metadata
  else
    (umacBaGetReorderBufferSize data metadata.tid).map fun size =>
      { metadata with
        tidMaxReorderBufSize := size
        flags :=
          if umacBaIsAmpduPermitted data metadata.tid
          then metadata.flags ||| mmdrvTxFlagAmpduEnabled else metadata.flags }

/-- `umac_connection_populate_tx_metadata`, its flags, and the one of a group frame. -/
def fillFlags (frame : QueuedFrame) (metadata : MmdrvTxMetadata) : MmdrvTxMetadata :=
  let flags := metadata.flags
  let flags := if frame.txTravelingPilotsSupported then flags ||| mmdrvTxFlagTpEnabled else flags
  let flags :=
    if frame.controlResponseBw1mhzOutEnabled then flags ||| mmdrvTxFlagCr1mhzPreEnabled else flags
  let flags :=
    if frame.ethertype != ethertypeEapol && mmMacAddrIsMulticast frame.ra
    then flags ||| mmdrvTxFlagNoAck else flags
  { metadata with flags := flags }

/-- `umac_keys_increment_tx_seq`, for a frame with a key; `none` is its assertion. -/
def countTxSeq (u : UmacData) (keyId : Int) : Option UmacData :=
  if 0 ≤ keyId then (connectionKeysIncrementTxSeq u.stad.keys (keyIdOf keyId)).map u.setKeys
  else some u

/-- `umac_datapath_process_tx_frame` once the frame has its key or is sent without one. -/
def fillTxMetadata (env : UmacEnv) (u : UmacData) (frame : QueuedFrame) (keyId : Int) :
    Option (UmacData × MmdrvTxMetadata) :=
  let u :=
    if !mmMacAddrIsMulticast frame.ra && frame.ethertype != ethertypeEapol then
      umacDatapathAggrCheck env u frame
    else u
  (countTxSeq u keyId).bind fun u =>
    let metadata := { frame.metadata with
      flags := if 0 ≤ keyId then mmdrvTxFlagHwEnc else 0
      keyIdx := keyIdOf keyId }
    (fillAggregation u.stad.ba frame metadata).map fun metadata => (u, fillFlags frame metadata)

/-- `umac_datapath_process_tx_frame`, with the metadata that the frame is submitted with, if
it is; `none` is an assertion. -/
def umacDatapathProcessTxFrame (env : UmacEnv) (u : UmacData) (frame : QueuedFrame) :
    Option (UmacData × Option MmdrvTxMetadata) :=
  if mmMacAddrIsZero frame.ra then some (u, none)
  else
    match txKeyId env u.stad.keys frame with
    | none => some (u, none)
    | some keyId =>
      if 0 ≤ keyId ∧ connectionKeysGetKeyLen u.stad.keys (keyIdOf keyId) = none then none
      else (fillTxMetadata env u frame keyId).map fun answer => (answer.1, some answer.2)

/-! ## Negotiations -/

/-- What the two sides said in the last negotiation of a TID. -/
structure Negotiation where
  /-- the size in the request -/
  requested : U16
  /-- the size in the response that was accepted -/
  response : U16

/-- The buffer size that they agreed on. -/
def Negotiation.agreed (n : Negotiation) : U16 := minU16 n.response n.requested

/-- A STA record and the negotiations of its originator sessions, which only record. -/
structure TxRun where
  u : UmacData
  negotiations : BaTid → Negotiation

def txRunInit : TxRun := ⟨umacStadInit, fun _ => ⟨0, 0⟩⟩

/-- The size in a frame that is the response to the request of a TID. -/
def acceptedResponse (u : UmacData) (frame : BytePtr) (frameLen : Nat) (tid : BaTid) : Option U16 :=
  let field := frame.add sizeofDot11Hdr
  let paramSet := field.le16 5
  if field 1 = dot11BaActionNdpAddbaResp
      ∧ sizeofDot11ActionFieldAddbaResp ≤ frameLen - sizeofDot11Hdr
      ∧ baTid? ((dot11BaParameterSetFieldGetTid paramSet).setWidth 8) = some tid
      ∧ (u.stad.ba.originator tid).status = .requested
      ∧ (u.stad.ba.originator tid).dialogToken = field 2
      ∧ field.le16 3 = dot11StatusSuccess
      ∧ dot11BaParameterSetFieldGetBaPolicy paramSet = dot11BaPolicyImmediate
  then some (dot11BaParameterSetFieldGetBufferSize paramSet)
  else none

/-- The response that an event brings for a TID. -/
def responseOf (u : UmacData) : StadEvent → BaTid → Option U16
  | .rxBaFrame frame frameLen, tid => acceptedResponse u frame frameLen tid
  | _, _ => none

/-- A session becomes requested when its request was sent, with the buffer size it holds then
(`umac_ba_build_param_set`). -/
def negotiate (u u' : UmacData) (response : BaTid → Option U16)
    (negotiations : BaTid → Negotiation) : BaTid → Negotiation := fun tid =>
  { requested :=
      if (u.stad.ba.originator tid).status ≠ .requested
          ∧ (u'.stad.ba.originator tid).status = .requested
      then (u'.stad.ba.originator tid).bufferSize
      else (negotiations tid).requested
    response := (response tid).getD (negotiations tid).response }

/-- What happens to a STA record, and the data frames sent to it. -/
inductive TxRunEvent where
  | stad (e : StadEvent)
  | txFrame (frame : QueuedFrame)

def txRunStep (env : UmacEnv) (s : TxRun) : TxRunEvent → Option TxRun
  | .stad e => (stadStep env s.u e).map fun u =>
    ⟨u, negotiate s.u u (responseOf s.u e) s.negotiations⟩
  | .txFrame frame => (umacDatapathProcessTxFrame env s.u frame).map fun answer =>
    ⟨answer.1, negotiate s.u answer.1 (fun _ => none) s.negotiations⟩

/-! ## What a step does to an originator session -/

/-- An originator session before and after a step that brings it a response, or none. -/
inductive OriginatorMove (session session' : UmacBaSession) : Option U16 → Prop
  | kept (status : session'.status = session.status)
      (size : session'.bufferSize = session.bufferSize) : OriginatorMove session session' none
  | closed (requested : session'.status ≠ .requested) (success : session'.status ≠ .success) :
      OriginatorMove session session' none
  | requested (before : session.status = .disabled) (after : session'.status = .requested) :
      OriginatorMove session session' none
  | granted (response : U16) (before : session.status = .requested)
      (after : session'.status = .success)
      (size : session'.bufferSize = minU16 response session.bufferSize) :
      OriginatorMove session session' (some response)

/-- A step without a response. -/
def OriginatorsMove (u u' : UmacData) : Prop :=
  ∀ tid, OriginatorMove (u.stad.ba.originator tid) (u'.stad.ba.originator tid) none

variable {env : UmacEnv} {u u' : UmacData}

theorem OriginatorsMove.of_eq (h : u'.stad.ba.originator = u.stad.ba.originator) :
    OriginatorsMove u u' := by
  intro tid
  rw [h]
  exact .kept rfl rfl

variable {session : UmacBaSession}

theorem OriginatorsMove.of_update {i : BaTid}
    (h : u'.stad.ba.originator = update u.stad.ba.originator i session)
    (hmove : OriginatorMove (u.stad.ba.originator i) session none) : OriginatorsMove u u' := by
  intro tid
  rw [h]
  by_cases htid : tid = i
  · rw [htid, update_self]
    exact hmove
  · rw [update_of_ne htid]
    exact .kept rfl rfl

theorem OriginatorsMove.setClosed (ptr : UmacBaSessionPtr)
    (hrequested : session.status ≠ .requested) (hsuccess : session.status ≠ .success) :
    OriginatorsMove u (setSession u ptr session) := by
  cases ptr with
  | originator tid => exact .of_update rfl (.closed hrequested hsuccess)
  | recipient tid => exact .of_eq rfl

theorem rxAddbaReq_originator (env : UmacEnv) (u : UmacData) (field : BytePtr) (fieldLen : Nat) :
    (umacBaRxAddbaReq env u field fieldLen).stad.ba.originator = u.stad.ba.originator := by
  unfold umacBaRxAddbaReq umacBaTxAddbaResp umacDatapathBuildAndTxMgmtFrame
  dsimp only
  split
  · rfl
  split
  · rfl
  · split_ifs
    all_goals rfl

theorem sessionInit_move (env : UmacEnv) (u : UmacData) (tid : U8) (ssc timeout : U16) :
    OriginatorsMove u (umacBaSessionInit env u tid ssc timeout) := by
  unfold umacBaSessionInit
  cases htid : baTid? tid with
  | none => exact .of_eq rfl
  | some i =>
    dsimp only
    split
    · exact .of_eq rfl
    next hdisabled =>
      have hbefore : (u.stad.ba.originator i).status = .disabled := not_not.mp hdisabled
      unfold umacCoreRegisterTimeout umacBaTxAddbaReq umacDatapathBuildAndTxMgmtFrame
      dsimp only
      -- the request is sent or not, and its timer is registered or not
      split_ifs
      · refine .of_update (i := i) rfl (.closed ?_ ?_)
        all_goals simp [hbefore]
      · refine .of_update (i := i) rfl (.closed ?_ ?_)
        all_goals simp [hbefore]
      · exact .of_update (i := i) (update_idem _ _ _) (.requested hbefore rfl)
      · exact .of_update (i := i) (update_idem _ _ _) (.requested hbefore rfl)

theorem sessionDeinit_move (env : UmacEnv) (u : UmacData) (tid : U8) (originator : Bool) :
    OriginatorsMove u (umacBaSessionDeinit env u tid originator) := by
  unfold umacBaSessionDeinit umacDatapathBuildAndTxMgmtFrame
  cases htid : baTid? tid with
  | none => exact .of_eq rfl
  | some i =>
    dsimp only
    generalize (if originator = true then UmacBaSessionPtr.originator i else .recipient i) = ptr
    split_ifs
    · exact .of_eq rfl
    · exact .of_eq rfl
    · exact OriginatorsMove.setClosed (u := u.ticked) ptr (by decide) (by decide)

theorem addbaReqTimeoutHandler_move (env : UmacEnv) (u : UmacData) (ptr : UmacBaSessionPtr) :
    OriginatorsMove u (umacBaAddbaReqTimeoutHandler env u ptr) := by
  unfold umacBaAddbaReqTimeoutHandler umacDatapathBuildAndTxMgmtFrame
  dsimp only
  split_ifs
  · exact .of_eq rfl
  · exact .of_eq rfl
  · exact OriginatorsMove.setClosed (u := u.ticked) ptr (by simp) (by simp)

theorem rxDelba_move {field : BytePtr} {fieldLen : Nat}
    (heq : umacBaRxDelba env u field fieldLen = some u') : OriginatorsMove u u' := by
  rcases umacBaRxDelba_cases heq with rfl | ⟨ptr, tid, u₁, hflush, rfl⟩
  · exact .of_eq rfl
  have hsame : u₁.stad.ba.originator = u.stad.ba.originator :=
    (flushForTid_originator ⟨rfl, rfl⟩ hflush).1
  intro tid'
  rw [← hsame]
  exact OriginatorsMove.setClosed ptr (by simp) (by simp) tid'

theorem fireTimeout_move {timeout : UmacTimeout} (heq : fireTimeout env u timeout = some u') :
    OriginatorsMove u u' := by
  unfold fireTimeout at heq
  split at heq
  · cases timeout with
    | datapathDefragTimeout i =>
      cases heq
      exact .of_eq rfl
    | umacDatapathRxReorderTimeoutHandler =>
      generalize u.timeouts.erase UmacTimeout.umacDatapathRxReorderTimeoutHandler = timeouts at heq
      have hinv := receiveInvariant_originator env u.stad.ba.originator
        (timeouts.filter isAddbaReqTimeout)
      exact .of_eq
        (hinv.timeoutHandler (u := { u with timeouts := timeouts }) ⟨rfl, rfl⟩ heq).1
    | umacBaAddbaReqTimeoutHandler ptr =>
      cases heq
      exact addbaReqTimeoutHandler_move env
        { u with timeouts := u.timeouts.erase (.umacBaAddbaReqTimeoutHandler ptr) } ptr
  · cases heq
    exact .of_eq rfl

theorem rxAddbaResp_move (env : UmacEnv) (u : UmacData) (frame : BytePtr) (frameLen : Nat)
    (hresp : (frame.add sizeofDot11Hdr) 1 = dot11BaActionNdpAddbaResp) (tid : BaTid) :
    OriginatorMove (u.stad.ba.originator tid)
      ((umacBaRxAddbaResp env u (frame.add sizeofDot11Hdr)
        (frameLen - sizeofDot11Hdr)).stad.ba.originator tid)
      (acceptedResponse u frame frameLen tid) := by
  unfold acceptedResponse umacBaRxAddbaResp
  generalize frame.add sizeofDot11Hdr = field at hresp
  dsimp only
  by_cases hshort : frameLen - sizeofDot11Hdr < sizeofDot11ActionFieldAddbaResp
  · rw [if_pos hshort, if_neg (by omega)]
    exact .kept rfl rfl
  rw [if_neg hshort]
  cases hindex : baTid? ((dot11BaParameterSetFieldGetTid (field.le16 5)).setWidth 8) with
  | none =>
    rw [if_neg (by simp)]
    exact .kept rfl rfl
  | some i =>
    dsimp only
    by_cases htid : tid = i
    · subst htid
      unfold umacBaAddbaRespSession umacDatapathBuildAndTxMgmtFrame
      dsimp only
      change OriginatorMove _ ((if (u.stad.ba.originator tid).status ≠ .requested
        || (u.stad.ba.originator tid).dialogToken ≠ field 2 then _ else _ :
          UmacData).stad.ba.originator tid) _
      by_cases hwait : (u.stad.ba.originator tid).status = .requested
          ∧ (u.stad.ba.originator tid).dialogToken = field 2
      · rw [if_neg (by simp [hwait.1, hwait.2])]
        by_cases hstatus : field.le16 3 = dot11StatusSuccess
        · rw [if_neg (not_not_intro hstatus)]
          by_cases hpolicy :
              dot11BaParameterSetFieldGetBaPolicy (field.le16 5) = dot11BaPolicyImmediate
          · rw [if_neg (not_not_intro hpolicy),
              if_pos ⟨hresp, by omega, rfl, hwait.1, hwait.2, hstatus, hpolicy⟩]
            refine .granted _ hwait.1 ?_ ?_
            · show (update u.stad.ba.originator tid _ tid).status = _
              rw [update_self]
            · show (update u.stad.ba.originator tid _ tid).bufferSize = _
              rw [update_self]
              rfl
          · -- a delayed policy: the DELBA leaves the session requested
            rw [if_pos hpolicy, if_neg fun h => hpolicy h.2.2.2.2.2.2]
            exact .kept rfl rfl
        rw [if_pos hstatus, if_neg fun h => hstatus h.2.2.2.2.2.1]
        refine .closed ?_ ?_
        all_goals
          show (update u.stad.ba.originator tid _ tid).status ≠ _
          rw [update_self]
          exact UmacBaStatus.noConfusion
      · rw [if_pos (by simpa [← not_and_or] using hwait),
          if_neg fun h => hwait ⟨h.2.2.2.1, h.2.2.2.2.1⟩]
        exact .kept rfl rfl
    -- the response is for another TID
    rw [if_neg fun h => htid (Option.some.inj h.2.2.1).symm]
    have hother : ∀ session : UmacBaSession,
        update u.stad.ba.originator i session tid = u.stad.ba.originator tid := by
      intro session
      rw [update_of_ne htid]
    unfold umacBaAddbaRespSession umacDatapathBuildAndTxMgmtFrame
    dsimp only
    split_ifs
    · exact .kept rfl rfl
    · exact .kept (congrArg _ (hother _)) (congrArg _ (hother _))
    · exact .kept rfl rfl
    · exact .kept (congrArg _ (hother _)) (congrArg _ (hother _))

theorem stadStep_move {e : StadEvent} (heq : stadStep env u e = some u') (tid : BaTid) :
    OriginatorMove (u.stad.ba.originator tid) (u'.stad.ba.originator tid) (responseOf u e tid) := by
  cases e with
  | rxDataFrame rxbuf =>
    have hinv := receiveInvariant_originator env u.stad.ba.originator
      (u.timeouts.filter isAddbaReqTimeout)
    exact OriginatorsMove.of_eq (hinv.processRxDataFrame ⟨rfl, rfl⟩ heq).1 tid
  | rxBaFrame frame frameLen =>
    have hnone : (frame.add sizeofDot11Hdr) 1 ≠ dot11BaActionNdpAddbaResp →
        responseOf u (.rxBaFrame frame frameLen) tid = none :=
      fun hne => if_neg fun h => hne h.1
    change umacBaProcessRxFrame env u frame frameLen = some u' at heq
    unfold umacBaProcessRxFrame at heq
    dsimp only at heq
    split_ifs at heq with hlen hreq hresp hdelba
    · cases heq
      rw [hnone (by rw [hreq]; decide)]
      exact OriginatorsMove.of_eq (rxAddbaReq_originator env u _ _) tid
    · cases heq
      exact rxAddbaResp_move env u frame frameLen hresp tid
    · rw [hnone hresp]
      exact rxDelba_move heq tid
    · cases heq
      rw [hnone hresp]
      exact .kept rfl rfl
  | sessionInit tid' ssc timeout =>
    cases heq
    exact sessionInit_move env u tid' ssc timeout tid
  | sessionDeinit tid' originator =>
    cases heq
    exact sessionDeinit_move env u tid' originator tid
  | keysChanged keys =>
    cases heq
    exact .kept rfl rfl
  | timeout timeout => exact fireTimeout_move heq tid

/-! ## Recipient sessions -/

/-- No recipient session holds more than `umac_ba_rx_addba_req` agrees to. -/
def RecipientsFit (u : UmacData) : Prop :=
  ∀ tid, (u.stad.ba.recipient tid).bufferSize.toNat ≤ 16

theorem RecipientsFit.of_eq (h : RecipientsFit u)
    (hsame : u'.stad.ba.recipient = u.stad.ba.recipient) : RecipientsFit u' := by
  intro tid
  rw [hsame]
  exact h tid

theorem RecipientsFit.setSession (h : RecipientsFit u) (ptr : UmacBaSessionPtr)
    (hsize : session.bufferSize.toNat ≤ 16) : RecipientsFit (setSession u ptr session) := by
  intro tid
  cases ptr with
  | originator i => exact h tid
  | recipient i =>
    show (update u.stad.ba.recipient i session tid).bufferSize.toNat ≤ 16
    by_cases htid : tid = i
    · rw [htid, update_self]
      exact hsize
    · rw [update_of_ne htid]
      exact h tid

theorem RecipientsFit.setStatus (h : RecipientsFit u) (ptr : UmacBaSessionPtr)
    (status : UmacBaStatus) : RecipientsFit (setStatus u ptr status) := by
  cases ptr with
  | originator i => exact h.of_eq rfl
  | recipient i => exact h.setSession (.recipient i) (h i)

theorem minU16_le (a b : U16) : (minU16 a b).toNat ≤ b.toNat := by
  unfold minU16
  split
  · next hlt => exact Nat.le_of_lt hlt
  · exact Nat.le_refl _

theorem receiveInvariant_recipientsFit (env : UmacEnv) :
    ReceiveInvariant env fun u => FragChainsOk u ∧ RecipientsFit u where
  handOn := by
    intro u u' x h heq
    obtain ⟨record, hspec⟩ := afterReorder_of_eq_some heq h.1
    refine ⟨hspec.chains, fun tid => ?_⟩
    rw [hspec.ba]
    cases record.expected with
    | none => exact h.2 tid
    | some seqNum =>
      show ((umacBaSetExpectedRxSeqNum u.stad.ba _ seqNum).recipient tid).bufferSize.toNat ≤ 16
      rw [umacBaSetExpectedRxSeqNum_recipient]
      exact h.2 tid
  list := fun _ h => h
  listTid := fun _ h => h
  ticked := fun h => h
  timeout := by
    intro u h
    unfold FragChainsOk RecipientsFit
    rw [umacCoreRegisterTimeout_stad]
    exact h
  outdated := fun _ h => h

theorem rxAddbaReq_recipientsFit (h : RecipientsFit u) (field : BytePtr) (fieldLen : Nat) :
    RecipientsFit (umacBaRxAddbaReq env u field fieldLen) := by
  unfold umacBaRxAddbaReq umacBaTxAddbaResp umacDatapathBuildAndTxMgmtFrame
  dsimp only
  split
  · exact h
  split
  · exact h
  next tid _ =>
    split_ifs
    · exact h
    · exact h
    · exact h.setSession (.recipient tid) (h tid)
    · exact h.setSession (.recipient tid) (minU16_le _ _)
    · -- the request is accepted, and answered with the size that was agreed on
      exact RecipientsFit.setStatus (h.setSession (.recipient tid) (minU16_le _ _))
        (.recipient tid) .success

theorem rxAddbaResp_recipient (env : UmacEnv) (u : UmacData) (field : BytePtr) (fieldLen : Nat) :
    (umacBaRxAddbaResp env u field fieldLen).stad.ba.recipient = u.stad.ba.recipient := by
  unfold umacBaRxAddbaResp umacBaAddbaRespSession umacDatapathBuildAndTxMgmtFrame
  dsimp only
  split
  · rfl
  split
  · rfl
  · split_ifs
    all_goals rfl

theorem sessionInit_recipient (env : UmacEnv) (u : UmacData) (tid : U8) (ssc timeout : U16) :
    (umacBaSessionInit env u tid ssc timeout).stad.ba.recipient = u.stad.ba.recipient := by
  unfold umacBaSessionInit umacCoreRegisterTimeout umacBaTxAddbaReq umacDatapathBuildAndTxMgmtFrame
  cases htid : baTid? tid with
  | none => rfl
  | some i =>
    dsimp only
    split_ifs
    all_goals rfl

theorem sessionDeinit_recipientsFit (h : RecipientsFit u) (tid : U8) (originator : Bool) :
    RecipientsFit (umacBaSessionDeinit env u tid originator) := by
  unfold umacBaSessionDeinit umacDatapathBuildAndTxMgmtFrame
  cases htid : baTid? tid with
  | none => exact h
  | some i =>
    dsimp only
    generalize (if originator = true then UmacBaSessionPtr.originator i else .recipient i) = ptr
    split_ifs
    · exact h
    · exact h
    · exact RecipientsFit.setSession (u := u.ticked) h ptr (by decide)

theorem fireTimeout_recipientsFit (hchains : FragChainsOk u) (h : RecipientsFit u)
    {timeout : UmacTimeout} (heq : fireTimeout env u timeout = some u') : RecipientsFit u' := by
  unfold fireTimeout at heq
  split at heq
  · cases timeout with
    | datapathDefragTimeout i =>
      cases heq
      exact h
    | umacDatapathRxReorderTimeoutHandler =>
      generalize u.timeouts.erase UmacTimeout.umacDatapathRxReorderTimeoutHandler = timeouts at heq
      exact ((receiveInvariant_recipientsFit env).timeoutHandler
        (u := { u with timeouts := timeouts }) ⟨hchains, h⟩ heq).2
    | umacBaAddbaReqTimeoutHandler ptr =>
      cases heq
      unfold umacBaAddbaReqTimeoutHandler umacDatapathBuildAndTxMgmtFrame
      dsimp only
      split_ifs
      · exact h
      · exact h
      · exact RecipientsFit.setStatus (u := { u with
          timeouts := u.timeouts.erase (.umacBaAddbaReqTimeoutHandler ptr)
          tick := u.tick + 1 }) h ptr .disabled
  · cases heq
    exact h

theorem stadStep_recipientsFit (hchains : FragChainsOk u) (h : RecipientsFit u) {e : StadEvent}
    (heq : stadStep env u e = some u') : RecipientsFit u' := by
  cases e with
  | rxDataFrame rxbuf =>
    exact ((receiveInvariant_recipientsFit env).processRxDataFrame ⟨hchains, h⟩ heq).2
  | rxBaFrame frame frameLen =>
    change umacBaProcessRxFrame env u frame frameLen = some u' at heq
    unfold umacBaProcessRxFrame at heq
    dsimp only at heq
    split_ifs at heq with hlen hreq hresp hdelba
    · cases heq
      exact rxAddbaReq_recipientsFit h _ _
    · cases heq
      exact h.of_eq (rxAddbaResp_recipient env u _ _)
    · rcases umacBaRxDelba_cases heq with rfl | ⟨ptr, tid, u₁, hflush, rfl⟩
      · exact h
      · have hflushed := (receiveInvariant_recipientsFit env).flushForTid
          (u := umacCoreCancelTimeout u (.umacBaAddbaReqTimeoutHandler ptr)) ⟨hchains, h⟩ hflush
        exact hflushed.2.setStatus ptr .disabled
    · cases heq
      exact h
  | sessionInit tid ssc timeout =>
    cases heq
    exact h.of_eq (sessionInit_recipient env u tid ssc timeout)
  | sessionDeinit tid originator =>
    cases heq
    exact sessionDeinit_recipientsFit h tid originator
  | keysChanged keys =>
    cases heq
    exact h
  | timeout timeout => exact fireTimeout_recipientsFit hchains h heq

/-! ## The metadata of a frame -/

/-- The frame may be aggregated. -/
def IsAmpdu (metadata : MmdrvTxMetadata) : Prop := metadata.flags &&& mmdrvTxFlagAmpduEnabled ≠ 0

instance (metadata : MmdrvTxMetadata) : Decidable (IsAmpdu metadata) :=
  inferInstanceAs (Decidable (_ ≠ _))

theorem or_and_ampdu {flags flag : U8} (h : flag &&& mmdrvTxFlagAmpduEnabled = 0) :
    (flags ||| flag) &&& mmdrvTxFlagAmpduEnabled = flags &&& mmdrvTxFlagAmpduEnabled := by
  rw [BitVec.and_or_distrib_right, h]
  exact BitVec.or_zero

theorem isAmpdu_fillFlags (frame : QueuedFrame) (metadata : MmdrvTxMetadata) :
    IsAmpdu (fillFlags frame metadata) ↔ IsAmpdu metadata := by
  have htp : mmdrvTxFlagTpEnabled &&& mmdrvTxFlagAmpduEnabled = 0 := by decide
  have hcr : mmdrvTxFlagCr1mhzPreEnabled &&& mmdrvTxFlagAmpduEnabled = 0 := by decide
  have hack : mmdrvTxFlagNoAck &&& mmdrvTxFlagAmpduEnabled = 0 := by decide
  unfold IsAmpdu fillFlags
  dsimp only
  split_ifs <;> simp only [or_and_ampdu htp, or_and_ampdu hcr, or_and_ampdu hack]

variable {frame : QueuedFrame}

theorem fillAggregation_spec {data : UmacBaStaData}
    {before metadata : MmdrvTxMetadata} (hbefore : ¬ IsAmpdu before)
    (heq : fillAggregation data frame before = some metadata) : metadata.tid = before.tid
      ∧ (IsAmpdu metadata ↔
        mmMacAddrIsMulticast frame.ra = false ∧ umacBaIsAmpduPermitted data before.tid = true)
      ∧ (mmMacAddrIsMulticast frame.ra = false →
        umacBaGetReorderBufferSize data before.tid = some metadata.tidMaxReorderBufSize) := by
  unfold fillAggregation at heq
  cases hmulticast : mmMacAddrIsMulticast frame.ra with
  | true =>
    rw [hmulticast, if_pos rfl] at heq
    cases heq
    refine ⟨rfl, ?_, fun h => absurd h (by simp)⟩
    exact ⟨fun h => absurd h hbefore, fun h => absurd h.1 (by simp)⟩
  | false =>
    rw [hmulticast, if_neg (by decide)] at heq
    obtain ⟨size, hsize, rfl⟩ := Option.map_eq_some_iff.mp heq
    refine ⟨rfl, ?_, fun _ => hsize⟩
    unfold IsAmpdu at hbefore ⊢
    dsimp only
    cases hpermitted : umacBaIsAmpduPermitted data before.tid with
    | true =>
      refine ⟨fun _ => ⟨rfl, rfl⟩, fun _ => ?_⟩
      rw [if_pos rfl, BitVec.and_or_distrib_right, not_not.mp hbefore]
      decide
    | false =>
      rw [if_neg (by decide)]
      exact ⟨fun h => absurd h hbefore, fun h => absurd h.2 (by decide)⟩

/-- What a frame does to the STA record on its way out. -/
structure FrameSent (u u' : UmacData) : Prop where
  originators : OriginatorsMove u u'
  recipient : u'.stad.ba.recipient = u.stad.ba.recipient
  datapath : u'.stad.datapath = u.stad.datapath

theorem FrameSent.refl (u : UmacData) : FrameSent u u := ⟨.of_eq rfl, rfl, rfl⟩

theorem aggrCheck_sent (env : UmacEnv) (u : UmacData) (frame : QueuedFrame) :
    FrameSent u (umacDatapathAggrCheck env u frame) := by
  unfold umacDatapathAggrCheck
  split_ifs
  · exact .refl u
  · exact ⟨.of_eq rfl, rfl, rfl⟩
  · exact ⟨.of_eq rfl, rfl, rfl⟩
  · exact ⟨sessionInit_move env u.ticked _ _ _, sessionInit_recipient env u.ticked _ _ _,
      (SessionsOnly.sessionInit env u.ticked _ _ _).datapath⟩

theorem aggrCheck_of_open {i : BaTid} (htid : baTid? frame.metadata.tid = some i)
    (hopen : (u.stad.ba.originator i).status ≠ .disabled) :
    (umacDatapathAggrCheck env u frame).stad = u.stad := by
  unfold umacDatapathAggrCheck umacBaSessionInit
  rw [htid]
  dsimp only
  split_ifs
  · rfl
  · rfl
  · rfl
  · rfl
  · next h => exact absurd hopen h

theorem countTxSeq_spec {keyId : Int} (heq : countTxSeq u keyId = some u') :
    u'.stad.ba = u.stad.ba ∧ u'.stad.datapath = u.stad.datapath := by
  unfold countTxSeq at heq
  split at heq
  · obtain ⟨keys, -, rfl⟩ := Option.map_eq_some_iff.mp heq
    exact ⟨rfl, rfl⟩
  · cases heq
    exact ⟨rfl, rfl⟩

theorem fillTxMetadata_spec {keyId : Int} {metadata : MmdrvTxMetadata}
    (heq : fillTxMetadata env u frame keyId = some (u', metadata)) :
    FrameSent u u' ∧ metadata.tid = frame.metadata.tid
      ∧ (IsAmpdu metadata ↔ mmMacAddrIsMulticast frame.ra = false
        ∧ umacBaIsAmpduPermitted u'.stad.ba frame.metadata.tid = true)
      ∧ (mmMacAddrIsMulticast frame.ra = false →
        umacBaGetReorderBufferSize u'.stad.ba frame.metadata.tid
          = some metadata.tidMaxReorderBufSize) := by
  unfold fillTxMetadata at heq
  have hsent : FrameSent u (if !mmMacAddrIsMulticast frame.ra && frame.ethertype != ethertypeEapol
      then umacDatapathAggrCheck env u frame else u) := by
    split
    · exact aggrCheck_sent env u frame
    · exact .refl u
  generalize (if !mmMacAddrIsMulticast frame.ra && frame.ethertype != ethertypeEapol
    then umacDatapathAggrCheck env u frame else u) = u₁ at heq hsent
  obtain ⟨u₂, hcount, hfill⟩ := Option.bind_eq_some_iff.mp heq
  obtain ⟨filled, haggr, hanswer⟩ := Option.map_eq_some_iff.mp hfill
  cases hanswer
  obtain ⟨hba, hdatapath⟩ := countTxSeq_spec hcount
  have hbefore : ¬ IsAmpdu { frame.metadata with
      flags := if 0 ≤ keyId then mmdrvTxFlagHwEnc else 0
      keyIdx := keyIdOf keyId } := by
    unfold IsAmpdu
    dsimp only
    split <;> decide
  obtain ⟨htid, hampdu, hsize⟩ := fillAggregation_spec hbefore haggr
  refine ⟨⟨?_, ?_, hdatapath.trans hsent.datapath⟩, htid, ?_, hsize⟩
  · intro tid
    rw [hba]
    exact hsent.originators tid
  · rw [hba]
    exact hsent.recipient
  · rw [isAmpdu_fillFlags]
    exact hampdu

/-- The frame reaches the driver: it has a receiver, and a key of the keychain where it needs
one. -/
structure Reaches (env : UmacEnv) (u : UmacData) (frame : QueuedFrame) : Prop where
  receiver : mmMacAddrIsZero frame.ra = false
  key : ∃ keyId, txKeyId env u.stad.keys frame = some keyId
    ∧ (0 ≤ keyId → (keySlot? (keyIdOf keyId)).isSome)

/-- The frame is one for a single receiver, whose TID has an originator session. -/
structure Aggregated (env : UmacEnv) (u : UmacData) (frame : QueuedFrame) (tid : BaTid) : Prop
    extends Reaches env u frame where
  unicast : mmMacAddrIsMulticast frame.ra = false
  index : baTid? frame.metadata.tid = some tid
  established : (u.stad.ba.originator tid).status = .success

theorem processTxFrame_cases {answer : Option MmdrvTxMetadata}
    (heq : umacDatapathProcessTxFrame env u frame = some (u', answer)) : (u' = u ∧ answer = none)
      ∨ ∃ keyId metadata, Reaches env u frame
        ∧ fillTxMetadata env u frame keyId = some (u', metadata) ∧ answer = some metadata := by
  unfold umacDatapathProcessTxFrame at heq
  split at heq
  · cases heq
    exact Or.inl ⟨rfl, rfl⟩
  next hreceiver =>
    split at heq
    · cases heq
      exact Or.inl ⟨rfl, rfl⟩
    next keyId hkey =>
      split at heq
      · cases heq
      next hlen =>
        obtain ⟨⟨u₁, metadata⟩, hfill, hanswer⟩ := Option.map_eq_some_iff.mp heq
        cases hanswer
        refine Or.inr ⟨keyId, metadata, ⟨?_, keyId, hkey, fun hpos => ?_⟩, hfill, rfl⟩
        · simpa using hreceiver
        -- the length of the key was read
        by_contra hslot
        apply hlen
        refine ⟨hpos, ?_⟩
        unfold connectionKeysGetKeyLen
        rw [Option.not_isSome_iff_eq_none.mp hslot]
        rfl

theorem processTxFrame_sent {answer : Option MmdrvTxMetadata}
    (heq : umacDatapathProcessTxFrame env u frame = some (u', answer)) : FrameSent u u' := by
  rcases processTxFrame_cases heq with ⟨rfl, -⟩ | ⟨keyId, metadata, -, hfill, -⟩
  · exact .refl u'
  · exact (fillTxMetadata_spec hfill).1

theorem reorderBufferSize_spec (hfit : RecipientsFit u) {t : U8} {tid : BaTid}
    (htid : baTid? t = some tid) :
    ∃ size, umacBaGetReorderBufferSize u.stad.ba t = some size
      ∧ size.toNat = (u.stad.ba.recipient tid).bufferSize.toNat := by
  have hsize := hfit tid
  unfold umacBaGetReorderBufferSize
  rw [htid]
  dsimp only
  rw [if_pos (by omega)]
  refine ⟨_, rfl, ?_⟩
  rw [BitVec.toNat_setWidth]
  exact Nat.mod_eq_of_lt (by omega)

theorem aggregated_of_isAmpdu {metadata : MmdrvTxMetadata} (hfit : RecipientsFit u)
    (heq : umacDatapathProcessTxFrame env u frame = some (u', some metadata))
    (hampdu : IsAmpdu metadata) :
    ∃ tid, Aggregated env u frame tid ∧ metadata.tid = frame.metadata.tid
      ∧ metadata.tidMaxReorderBufSize.toNat = (u.stad.ba.recipient tid).bufferSize.toNat := by
  rcases processTxFrame_cases heq with ⟨-, hnone⟩ | ⟨keyId, md, hreaches, hfill, hmd⟩
  · cases hnone
  cases hmd
  obtain ⟨hsent, htid, hiff, hsize⟩ := fillTxMetadata_spec hfill
  obtain ⟨hunicast, hpermitted⟩ := hiff.mp hampdu
  cases hindex : baTid? frame.metadata.tid with
  | none =>
    unfold umacBaIsAmpduPermitted at hpermitted
    rw [hindex] at hpermitted
    cases hpermitted
  | some tid =>
    have hafter : (u'.stad.ba.originator tid).status = .success := by
      unfold umacBaIsAmpduPermitted at hpermitted
      rw [hindex] at hpermitted
      exact of_decide_eq_true hpermitted
    -- the check before does not establish a session
    have hbefore : (u.stad.ba.originator tid).status = .success := by
      cases hsent.originators tid with
      | kept status size => rw [← status, hafter]
      | closed requested success => exact absurd hafter success
      | requested before after =>
        rw [hafter] at after
        cases after
    obtain ⟨size, hlookup, hval⟩ := reorderBufferSize_spec (hfit.of_eq hsent.recipient) hindex
    rw [hsize hunicast] at hlookup
    cases hlookup
    rw [hsent.recipient] at hval
    exact ⟨tid, ⟨hreaches, hunicast, hindex, hbefore⟩, htid, hval⟩

theorem isAmpdu_of_aggregated {tid : BaTid} (hfit : RecipientsFit u)
    (h : Aggregated env u frame tid) :
    ∃ u' metadata, umacDatapathProcessTxFrame env u frame = some (u', some metadata)
      ∧ IsAmpdu metadata := by
  obtain ⟨keyId, hkey, hslot⟩ := h.key
  have hlen : ¬ (0 ≤ keyId ∧ connectionKeysGetKeyLen u.stad.keys (keyIdOf keyId) = none) := by
    rintro ⟨hpos, hnone⟩
    obtain ⟨slot, hsome⟩ := Option.isSome_iff_exists.mp (hslot hpos)
    unfold connectionKeysGetKeyLen at hnone
    rw [hsome] at hnone
    cases hnone
  have hdisabled : (u.stad.ba.originator tid).status ≠ .disabled := by
    rw [h.established]
    exact UmacBaStatus.noConfusion
  obtain ⟨u₁, hu₁, hstad⟩ : ∃ u₁, (if !mmMacAddrIsMulticast frame.ra
      && frame.ethertype != ethertypeEapol then umacDatapathAggrCheck env u frame else u) = u₁
      ∧ u₁.stad = u.stad := by
    refine ⟨_, rfl, ?_⟩
    split
    · exact aggrCheck_of_open h.index hdisabled
    · rfl
  obtain ⟨u₂, hcount⟩ : ∃ u₂, countTxSeq u₁ keyId = some u₂ := by
    unfold countTxSeq connectionKeysIncrementTxSeq
    split
    · next hpos =>
        obtain ⟨slot, hsome⟩ := Option.isSome_iff_exists.mp (hslot hpos)
        rw [hsome]
        exact ⟨_, rfl⟩
    · exact ⟨_, rfl⟩
  have hba : u₂.stad.ba = u.stad.ba := by rw [(countTxSeq_spec hcount).1, hstad]
  obtain ⟨size, hsize, -⟩ := reorderBufferSize_spec hfit h.index
  obtain ⟨metadata, hfill⟩ : ∃ metadata, fillTxMetadata env u frame keyId = some (u₂, metadata) := by
    unfold fillTxMetadata fillAggregation
    dsimp only
    rw [hu₁, hcount, Option.bind_some, hba, h.unicast, if_neg (by decide), hsize]
    exact ⟨_, rfl⟩
  refine ⟨u₂, metadata, ?_, ?_⟩
  · unfold umacDatapathProcessTxFrame
    rw [h.receiver, if_neg (by decide), hkey]
    dsimp only
    rw [if_neg hlen, hfill]
    rfl
  rw [(fillTxMetadata_spec hfill).2.2.1, hba]
  refine ⟨h.unicast, ?_⟩
  unfold umacBaIsAmpduPermitted
  rw [h.index]
  exact decide_eq_true h.established

/-! ## Whole runs -/

/-- A session that waits holds the size of its request, an established one what was agreed. -/
def Follows (s : TxRun) : Prop :=
  ∀ tid,
    ((s.u.stad.ba.originator tid).status = .requested →
      (s.u.stad.ba.originator tid).bufferSize = (s.negotiations tid).requested)
    ∧ ((s.u.stad.ba.originator tid).status = .success →
      (s.u.stad.ba.originator tid).bufferSize = (s.negotiations tid).agreed)

/-- What holds of every state of a run. -/
structure TxInv (s : TxRun) : Prop where
  list : ListOfTid (fun _ => True) s.u
  fit : RecipientsFit s.u
  follows : Follows s

/-- The size in the metadata of a marked frame is at most what was agreed on for its TID. -/
def WithinGrant (env : UmacEnv) (s : TxRun) : TxRunEvent → Prop
  | .stad _ => True
  | .txFrame frame => ∀ u' metadata,
      umacDatapathProcessTxFrame env s.u frame = some (u', some metadata) → IsAmpdu metadata →
        ∃ tid, baTid? metadata.tid = some tid
          ∧ metadata.tidMaxReorderBufSize.toNat ≤ (s.negotiations tid).agreed.toNat

/-- The recipient session of the TID is no larger than its originator session. -/
def RecipientWithin (env : UmacEnv) (s : TxRun) : TxRunEvent → Prop
  | .stad _ => True
  | .txFrame frame => ∀ tid, Aggregated env s.u frame tid →
      (s.u.stad.ba.recipient tid).bufferSize ≤ (s.u.stad.ba.originator tid).bufferSize

theorem Follows.step {s : TxRun} (h : Follows s) {response : BaTid → Option U16}
    (hmove : ∀ tid, OriginatorMove (s.u.stad.ba.originator tid) (u'.stad.ba.originator tid)
      (response tid)) :
    Follows ⟨u', negotiate s.u u' response s.negotiations⟩ := by
  intro tid
  obtain ⟨hrequested, hagreed⟩ := h tid
  have hm := hmove tid
  dsimp only [negotiate, Negotiation.agreed]
  generalize response tid = r at hm
  generalize s.u.stad.ba.originator tid = session at hm hrequested hagreed
  generalize u'.stad.ba.originator tid = session' at hm
  cases hm with
  | kept status size =>
    rw [if_neg fun hnew => hnew.1 (status.symm.trans hnew.2), status, size]
    exact ⟨hrequested, hagreed⟩
  | closed requested success =>
    exact ⟨fun hr => absurd hr requested, fun hs => absurd hs success⟩
  | requested before after =>
    refine ⟨fun _ => ?_, fun hs => ?_⟩
    · rw [if_pos ⟨by rw [before]; exact UmacBaStatus.noConfusion, after⟩]
    · rw [after] at hs
      cases hs
  | granted resp before after size =>
    refine ⟨fun hr => ?_, fun _ => ?_⟩
    · rw [after] at hr
      cases hr
    · rw [if_neg fun hnew => hnew.1 before, size, hrequested before]
      rfl

theorem TxInv.step {s s' : TxRun} (h : TxInv s) {e : TxRunEvent}
    (heq : txRunStep env s e = some s') : TxInv s' := by
  cases e with
  | stad e =>
    obtain ⟨u', hstep, rfl⟩ := Option.map_eq_some_iff.mp heq
    exact ⟨(stadInvariant_listOfTid env).step h.list hstep,
      stadStep_recipientsFit h.list.chains h.fit hstep, h.follows.step (stadStep_move hstep)⟩
  | txFrame frame =>
    obtain ⟨⟨u', answer⟩, hstep, rfl⟩ := Option.map_eq_some_iff.mp heq
    have hsent := processTxFrame_sent hstep
    refine ⟨?_, h.fit.of_eq hsent.recipient, h.follows.step hsent.originators⟩
    have hlist := h.list
    unfold ListOfTid at hlist ⊢
    dsimp only
    rw [hsent.datapath]
    refine ⟨?_, by rw [hsent.datapath], by rw [hsent.datapath]; exact hlist.entries⟩
    unfold FragChainsOk
    rw [hsent.datapath]
    exact hlist.chains

theorem txRunInit_inv : TxInv txRunInit := by
  refine ⟨⟨fun i buf hbuf => ?_, rfl, fun pkt hpkt => ?_⟩, fun tid => ?_, fun tid => ⟨?_, ?_⟩⟩
  · cases hbuf
  · cases hpkt
  · exact Nat.zero_le _
  · intro h
    cases h
  · intro h
    cases h

theorem withinGrant_iff {s : TxRun} (h : TxInv s) (e : TxRunEvent) :
    WithinGrant env s e ↔ RecipientWithin env s e := by
  cases e with
  | stad e => exact Iff.rfl
  | txFrame frame =>
    constructor
    · intro hwithin tid haggregated
      obtain ⟨u', metadata, hsubmitted, hampdu⟩ := isAmpdu_of_aggregated h.fit haggregated
      obtain ⟨tid', ⟨-, -, hindex, -⟩, htid, hsize⟩ :=
        aggregated_of_isAmpdu h.fit hsubmitted hampdu
      obtain ⟨tid'', hindex', hle⟩ := hwithin u' metadata hsubmitted hampdu
      -- all three are the TID of the frame
      obtain rfl : tid = tid' := Option.some.inj (haggregated.index.symm.trans hindex)
      obtain rfl : tid = tid'' := by
        rw [htid, hindex] at hindex'
        exact Option.some.inj hindex'
      rw [hsize, ← (h.follows tid).2 haggregated.established] at hle
      exact hle
    intro hfits u' metadata hsubmitted hampdu
    obtain ⟨tid, haggregated, htid, hsize⟩ := aggregated_of_isAmpdu h.fit hsubmitted hampdu
    refine ⟨tid, by rw [htid, haggregated.index], ?_⟩
    rw [hsize, ← (h.follows tid).2 haggregated.established]
    exact hfits tid haggregated

/-- In a run from a new STA record, every data frame that is marked for aggregation stays
within what was agreed on for its TID if and only if each of them meets a recipient session
that is no larger than the originator session. -/
theorem ampdu_window_within_grant_iff (env : UmacEnv) (events : List TxRunEvent) :
    Along (txRunStep env) (WithinGrant env) txRunInit events
      ↔ Along (txRunStep env) (RecipientWithin env) txRunInit events := by
  have hinv : Throughout (txRunStep env) TxInv txRunInit events :=
    throughout_of_invariant (fun _ _ _ h heq => h.step heq) txRunInit_inv events
  exact Along.congr (hinv.along_of fun _ e h => withinGrant_iff h e)

/-- An action frame of the block-ack category about TID 0: a request or response with an
immediate policy and a buffer size, and the position of its parameter set. -/
def baFrame (action token size : U8) (position : Nat) : BytePtr := fun i =>
  if i = sizeofDot11Hdr + 1 then action
  else if i = sizeofDot11Hdr + 2 then token
  else if i = sizeofDot11Hdr + position then size <<< 6 ||| 0x02
  else if i = sizeofDot11Hdr + position + 1 then size >>> 2
  else 0

/-- A data frame of TID 0 on an open network. -/
def openFrame : QueuedFrame where
  ra := fun _ => 0x02
  ethertype := 0x0800
  metadata :=
    { keyIdx := 0
      tid := 0
      tidMaxReorderBufSize := 0
      flags := 0
      enc := .disabled }
  sequenceControl := 0
  ampduEnabled := true
  txTravelingPilotsSupported := false
  controlResponseBw1mhzOutEnabled := false

/-- A peer that asks for sixteen buffers and grants four. -/
def smallGrant : List TxRunEvent :=
  [.stad (.rxBaFrame (baFrame dot11BaActionNdpAddbaReq 1 16 3) 33), .txFrame openFrame,
    .stad (.rxBaFrame (baFrame dot11BaActionNdpAddbaResp 1 4 5) 33), .txFrame openFrame]

/-- Its second data frame is sent with a window of sixteen. -/
theorem ampdu_window_beyond_grant :
    ¬ ∀ (env : UmacEnv) (events : List TxRunEvent),
      Along (txRunStep env) (WithinGrant env) txRunInit events := by
  intro h
  obtain ⟨-, hrun⟩ := h openEnv smallGrant
  have hlast := ((hrun _ rfl).2 _ rfl).2 _ rfl
  obtain ⟨tid, htid, hle⟩ := hlast.1 _ _ rfl (by decide +kernel)
  obtain rfl : tid = ⟨0, by decide⟩ := (Option.some.inj htid).symm
  exact absurd hle (by decide +kernel)

end MmIotEsp32.Umac.Ba.TxWindow
