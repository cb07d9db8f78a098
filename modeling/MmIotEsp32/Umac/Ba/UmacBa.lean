/-
  MmIotEsp32.Umac.Ba.UmacBa

  Block-ack sessions and the frames that set them up and tear them down
  (`umac/ba/umac_ba.c`).
-/
import MmIotEsp32.Umac.Datapath.Reorder

namespace MmIotEsp32.Umac.Ba

open Dot11 Datapath

/-! ## Constants -/

def addbaReqBaseTimeoutMs : U32 := 100

def addbaReqMultiplier : U32 := 2

def addbaReqMaxTimeoutMs : U32 := 60000

/-- `umac_config_get_datapath_rx_reorder_list_maxlen`, which nothing sets. -/
def umacConfigGetDatapathRxReorderListMaxlen : U16 := 16

def dot11BlockAckTimeoutDisabled : U16 := 0
def dot11StatusSuccess : U16 := 0
def dot11BaPolicyImmediate : U16 := 1
def dot11DelbaInitiatorOriginator : U16 := 1

-- `enum dot11_ba_action`
def dot11BaActionNdpAddbaReq : U8 := 128
def dot11BaActionNdpAddbaResp : U8 := 129
def dot11BaActionNdpDelba : U8 := 130

def sizeofDot11ActionFieldAddbaReq : Nat := 9
def sizeofDot11ActionFieldAddbaResp : Nat := 9
def sizeofDot11ActionFieldDelba : Nat := 6

/-- `sizeof(struct dot11_action)`: a header and the category. -/
def sizeofDot11Action : Nat := 25

def umacBaCalculateAddbaAttemptBackoff (currentBackoff : U32) : U32 :=
  if currentBackoff = 0 then addbaReqBaseTimeoutMs
  else if addbaReqMaxTimeoutMs ≤ currentBackoff * addbaReqMultiplier then addbaReqMaxTimeoutMs
  else currentBackoff * addbaReqMultiplier

def minU16 (a b : U16) : U16 := if a < b then a else b

/-! ## Sessions -/

/-- `umac_datapath_build_and_tx_mgmt_frame`: whether it returns `MMWLAN_SUCCESS`. -/
def umacDatapathBuildAndTxMgmtFrame (env : UmacEnv) (u : UmacData) : UmacData × Bool :=
  (u.ticked, env.txMgmtFrame u.tick)

def setSession (u : UmacData) (ptr : UmacBaSessionPtr) (session : UmacBaSession) : UmacData :=
  u.setBa (u.stad.ba.setSession session ptr)

def setStatus (u : UmacData) (ptr : UmacBaSessionPtr) (status : UmacBaStatus) : UmacData :=
  setSession u ptr { u.stad.ba.session ptr with status := status }

def umacBaAddbaReqTimeoutHandler (env : UmacEnv) (u : UmacData) (ptr : UmacBaSessionPtr) :
    UmacData :=
  if (u.stad.ba.session ptr).status ≠ .requested then u
  else
    let (u, success) := umacDatapathBuildAndTxMgmtFrame env u
    if !success then u else setStatus u ptr .disabled

/-- `umac_ba_rx_delba`; `none` is an assertion while the reorder list is flushed. -/
def umacBaRxDelba (env : UmacEnv) (u : UmacData) (field : BytePtr) (fieldLen : Nat) :
    Option UmacData :=
  if fieldLen < sizeofDot11ActionFieldDelba then some u
  else
    let paramSet := field.le16 2
    match baTid? ((dot11DelbaParameterSetFieldGetTid paramSet).setWidth 8) with
    | none => some u
    | some tid =>
      let ptr :=
        if dot11DelbaParameterSetFieldGetInitiator paramSet == dot11DelbaInitiatorOriginator
        then UmacBaSessionPtr.recipient tid
        else UmacBaSessionPtr.originator tid
      if (u.stad.ba.session ptr).status = .disabled then some u
      else
        let u := umacCoreCancelTimeout u (.umacBaAddbaReqTimeoutHandler ptr)
        (umacDatapathFlushRxReorderListForTid env u
          ((u.stad.ba.session ptr).tid.setWidth 16)).map fun u => setStatus u ptr .disabled

def umacBaTxAddbaResp (env : UmacEnv) (u : UmacData) (ptr : UmacBaSessionPtr) : UmacData :=
  let (u, success) := umacDatapathBuildAndTxMgmtFrame env u
  if !success then u else setStatus u ptr .success

/-- What `umac_ba_rx_addba_resp` does with the session, once its timer is cancelled. -/
def umacBaAddbaRespSession (env : UmacEnv) (u : UmacData) (tid : BaTid) (field : BytePtr) :
    UmacData :=
  let session := u.stad.ba.originator tid
  let paramSet := field.le16 5
  if session.status ≠ .requested || session.dialogToken ≠ field 2 then u
  else if field.le16 3 ≠ dot11StatusSuccess then setStatus u (.originator tid) .refused
  else if dot11BaParameterSetFieldGetBaPolicy paramSet ≠ dot11BaPolicyImmediate then
    (umacDatapathBuildAndTxMgmtFrame env u).1
  else
    setSession u (.originator tid)
      { session with
        bufferSize := minU16 (dot11BaParameterSetFieldGetBufferSize paramSet) session.bufferSize
        status := .success }

def umacBaRxAddbaResp (env : UmacEnv) (u : UmacData) (field : BytePtr) (fieldLen : Nat) :
    UmacData :=
  if fieldLen < sizeofDot11ActionFieldAddbaResp then u
  else
    match baTid? ((dot11BaParameterSetFieldGetTid (field.le16 5)).setWidth 8) with
    | none => (umacDatapathBuildAndTxMgmtFrame env u).1
    | some tid =>
      umacBaAddbaRespSession env
        (umacCoreCancelTimeout u (.umacBaAddbaReqTimeoutHandler (.originator tid))) tid field

def umacBaTxAddbaReq (env : UmacEnv) (u : UmacData) (ptr : UmacBaSessionPtr) : UmacData :=
  let (u, success) := umacDatapathBuildAndTxMgmtFrame env u
  if !success then u else setStatus u ptr .requested

def umacBaRxAddbaReq (env : UmacEnv) (u : UmacData) (field : BytePtr) (fieldLen : Nat) :
    UmacData :=
  if fieldLen < sizeofDot11ActionFieldAddbaReq then u
  else
    let paramSet := field.le16 3
    match baTid? ((dot11BaParameterSetFieldGetTid paramSet).setWidth 8) with
    | none => (umacDatapathBuildAndTxMgmtFrame env u).1
    | some tid =>
      if !env.ampduSupported then (umacDatapathBuildAndTxMgmtFrame env u).1
      else if (u.stad.ba.recipient tid).status ≠ .disabled then u
      else
        let session := { u.stad.ba.recipient tid with tid := BitVec.ofNat 8 tid.val }
        if dot11BaParameterSetFieldGetBaPolicy paramSet ≠ dot11BaPolicyImmediate then
          (umacDatapathBuildAndTxMgmtFrame env (setSession u (.recipient tid) session)).1
        else
          umacBaTxAddbaResp env
            (setSession u (.recipient tid)
              { session with
                bufferSize := minU16 (dot11BaParameterSetFieldGetBufferSize paramSet)
                  umacConfigGetDatapathRxReorderListMaxlen
                dialogToken := field 2
                timeout := dot11BlockAckTimeoutDisabled })
            (.recipient tid)

/-- `umac_ba_process_rx_frame`, for a frame with a STA record; `none` is an assertion. -/
def umacBaProcessRxFrame (env : UmacEnv) (u : UmacData) (frame : BytePtr) (frameLen : Nat) :
    Option UmacData :=
  if frameLen < sizeofDot11Action then none
  else
    let field := frame.add sizeofDot11Hdr
    let fieldLen := frameLen - sizeofDot11Hdr
    let baAction := field 1
    if baAction = dot11BaActionNdpAddbaReq then some (umacBaRxAddbaReq env u field fieldLen)
    else if baAction = dot11BaActionNdpAddbaResp then some (umacBaRxAddbaResp env u field fieldLen)
    else if baAction = dot11BaActionNdpDelba then umacBaRxDelba env u field fieldLen
    else some u

def umacBaSessionInit (env : UmacEnv) (u : UmacData) (tid : U8) (ssc timeout : U16) : UmacData :=
  match baTid? tid with
  | none => u
  | some i =>
    let session := u.stad.ba.originator i
    if session.status ≠ .disabled then u
    else
      let ptr := UmacBaSessionPtr.originator i
      let u := setSession u.ticked ptr
        { session with
          tid := tid
          timeout := timeout
          dialogToken := env.random u.tick
          bufferSize := umacConfigGetDatapathRxReorderListMaxlen
          startingSeqCtrl := ssc
          attemptBackoff := umacBaCalculateAddbaAttemptBackoff session.attemptBackoff }
      let u := umacBaTxAddbaReq env u ptr
      -- The timer is registered even when the request could not be sent.
      (umacCoreRegisterTimeout env u (.umacBaAddbaReqTimeoutHandler ptr)).1

/-- `umac_ba_session_deinit`, whose second argument is the initiator. -/
def umacBaSessionDeinit (env : UmacEnv) (u : UmacData) (tid : U8) (originator : Bool) :
    UmacData :=
  match baTid? tid with
  | none => u
  | some i =>
    let ptr := if originator then UmacBaSessionPtr.originator i else .recipient i
    if (u.stad.ba.session ptr).status = .disabled then u
    else
      let (u, success) := umacDatapathBuildAndTxMgmtFrame env u
      if !success then u else setSession u ptr UmacBaSession.zero

/-! ## Timeouts -/

/-- The handler of a timeout; `none` is an assertion. -/
def timeoutHandler (env : UmacEnv) (u : UmacData) : UmacTimeout → Option UmacData
  | .datapathDefragTimeout i => some (datapathDefragTimeout u i)
  | .umacDatapathRxReorderTimeoutHandler => umacDatapathRxReorderTimeoutHandler env u
  | .umacBaAddbaReqTimeoutHandler ptr => some (umacBaAddbaReqTimeoutHandler env u ptr)

/-- A pending timeout fires. -/
def fireTimeout (env : UmacEnv) (u : UmacData) (timeout : UmacTimeout) : Option UmacData :=
  if timeout ∈ u.timeouts then
    timeoutHandler env { u with timeouts := u.timeouts.erase timeout } timeout
  else some u

/-! ## What a DELBA does -/

theorem umacBaRxDelba_cases {env : UmacEnv} {u u' : UmacData} {field : BytePtr} {fieldLen : Nat}
    (heq : umacBaRxDelba env u field fieldLen = some u') :
    u' = u ∨ ∃ ptr tid u₁,
      umacDatapathFlushRxReorderListForTid env
          (umacCoreCancelTimeout u (.umacBaAddbaReqTimeoutHandler ptr)) tid = some u₁
        ∧ u' = setStatus u₁ ptr .disabled := by
  unfold umacBaRxDelba at heq
  split at heq
  · exact Or.inl (Option.some.inj heq).symm
  dsimp only at heq
  split at heq
  · exact Or.inl (Option.some.inj heq).symm
  next tid _ =>
    generalize (if dot11DelbaParameterSetFieldGetInitiator (field.le16 2)
        == dot11DelbaInitiatorOriginator then UmacBaSessionPtr.recipient tid
      else UmacBaSessionPtr.originator tid) = ptr at heq
    split at heq
    · exact Or.inl (Option.some.inj heq).symm
    · obtain ⟨u₁, hflush, rfl⟩ := Option.map_eq_some_iff.mp heq
      exact Or.inr ⟨ptr, _, u₁, hflush, rfl⟩

end MmIotEsp32.Umac.Ba
