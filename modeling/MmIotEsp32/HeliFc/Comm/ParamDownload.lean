/-
  MmIotEsp32.HeliFc.Comm.ParamDownload

  The parameter download (`send_param_values`, `handle_param_request_list` and the parameter
  part of `drain_rpc_telemetry` of `comm/mavlink_handler.c`).
-/
import MmIotEsp32.HeliFc.Comm.ParamProtocol
import MmIotEsp32.HeliFc.Comm.SequenceNumbers
import MmIotEsp32.HeliFc.Drivers.GpsNmea

namespace MmIotEsp32.HeliFc.Download

open Lib MavlinkMsg

/-! ## The state -/

/-- An answer of core 0, and a `PARAM_VALUE` in general. -/
abbrev ParamReply := ParamValueMsg Binary32

/-- `mavlink_msg_param_value_encode`. -/
def paramValueCall (m : ParamReply) : MavlinkMsgCall :=
  .paramValue (some (asciiText m.name)) m.value.bits m.type m.count m.index

/-- The statics of `mavlink_handler.c` about parameters, and the link. -/
structure ParamDownload where
  link : MavlinkLink
  store : List (ParamEntry Binary32)
  paramsInitialized : Bool
  listPending : Bool
  sendIdx : Nat
  lastSendMs : U32
  sendPass : Nat
  /-- `s_param_value_queue`. -/
  valueQueue : List ParamReply
  /-- A `PARAM_REQUEST_LIST` has come. -/
  requested : Bool
  /-- The indices that the socket has accepted since the last `PARAM_REQUEST_LIST`. -/
  taken : List Nat
  /-- The answers that core 0 has sent, in order. -/
  arrived : List ParamReply
  /-- The answers that the socket has accepted, in order. -/
  delivered : List ParamReply

def paramDownloadInit : ParamDownload where
  link := mavlinkLinkZero
  store := []
  paramsInitialized := false
  listPending := false
  sendIdx := 0
  lastSendMs := 0
  sendPass := 0
  valueQueue := []
  requested := false
  taken := []
  arrived := []
  delivered := []

/-! ## Sending -/

/-- The frame of a `PARAM_VALUE`, for a sequence number. -/
def paramValueFrame (m : ParamReply) (seq : U8) : MavlinkMsg.MavlinkMessage :=
  (paramValueCall m).encode seq

/-- The `PARAM_VALUE` of an entry of the store is sent; the result is that of
`send_mavlink_msg`. -/
def sendStoreValue (s : ParamDownload) (answer : SendAnswer) (idx : Nat)
    (entry : ParamEntry Binary32) : ParamDownload × Bool :=
  let encode := paramValueFrame (storeValueMsg s.store idx entry)
  ({ s with
      link := (emit s.link answer encode).1
      taken := if emitOutcome s.link answer encode = .accepted then idx :: s.taken else s.taken },
    (emit s.link answer encode).2)

/-- An answer of core 0 is sent. -/
def sendReply (s : ParamDownload) (answer : SendAnswer) (m : ParamReply) : ParamDownload :=
  let encode := paramValueFrame m
  { s with
    link := (emit s.link answer encode).1
    delivered := if emitOutcome s.link answer encode = .accepted then s.delivered ++ [m]
      else s.delivered }

/-- The loop over the queue; `answers k` is for the answer that is sent as number `k`. -/
def sendReplies (s : ParamDownload) (answers : Nat → SendAnswer) : List ParamReply → ParamDownload
  | [] => s
  | m :: rest => sendReplies (sendReply s (answers 0) m) (fun k => answers (k + 1)) rest

/-- The next parameter may be sent. -/
def ParamDownload.due (s : ParamDownload) (nowMs : U32) : Bool :=
  decide (paramSendIntervalMs ≤ (nowMs - s.lastSendMs).toNat)

def sendParamValues (s : ParamDownload) (nowMs : U32) (answers : Nat → SendAnswer) :
    ParamDownload :=
  if s.listPending then
    if s.due nowMs then
      match s.store[s.sendIdx]? with
      | some entry =>
        let sent := sendStoreValue s (answers 0) s.sendIdx entry
        -- if the send failed, the index stays, for the next iteration
        if sent.2 then { sent.1 with sendIdx := s.sendIdx + 1, lastSendMs := nowMs }
        else sent.1
      | none =>
        -- all parameters are sent in this pass
        if s.sendPass + 1 < paramSendPasses then
          { s with sendPass := s.sendPass + 1, sendIdx := 0 }
        else { s with sendPass := s.sendPass + 1, listPending := false }
    else s
  -- what was queued is not sent while a download is active
  else { sendReplies s answers s.valueQueue with valueQueue := [] }

/-! ## Messages -/

def paramStoreInit (s : ParamDownload) : ParamDownload :=
  if s.paramsInitialized then s
  else { s with paramsInitialized := true, store := initialStore Binary32 }

def handleParamRequestList (s : ParamDownload) : ParamDownload :=
  { paramStoreInit s with
    sendIdx := 0
    lastSendMs := 0
    sendPass := 0
    listPending := true
    requested := true
    taken := [] }

/-- The answer from the store, if there is an entry at the index. -/
def replyFromStore (s : ParamDownload) (answer : SendAnswer) (idx : Option Nat) : ParamDownload :=
  match idx with
  | none => s
  | some idx =>
    match s.store[idx]? with
    | none => s
    | some entry => (sendStoreValue s answer idx entry).1

def handleParamRequestRead (s : ParamDownload) (answer : SendAnswer) (name : String) (index : U16) :
    ParamDownload :=
  let s := paramStoreInit s
  replyFromStore s answer (requestedIdx s.store name index)

def handleParamSet (s : ParamDownload) (answer : SendAnswer) (name : String) (value : Binary32) :
    ParamDownload :=
  let s := paramStoreInit s
  let s := { s with store := paramSetValue s.store name value }
  -- the command that goes to core 0 as well is in `ParamProtocol`
  replyFromStore s answer (storeFind s.store name)

/-- `drain_rpc_telemetry` takes a `PARAM_VALUE`. -/
def drainParamValue (s : ParamDownload) (m : ParamReply) : ParamDownload :=
  let s := { s with arrived := s.arrived ++ [m] }
  if s.valueQueue.length < paramValueQueueDepth then { s with valueQueue := s.valueQueue ++ [m] }
  else s

inductive DownloadEvent where
  | requestList (targetSystem : U8)
  | requestRead (targetSystem : U8) (name : String) (index : U16) (answer : SendAnswer)
  | paramSet (targetSystem : U8) (name : String) (value : Binary32) (answer : SendAnswer)
  /-- An answer of core 0 is drained. -/
  | paramValue (m : ParamReply)
  | sendParamValues (nowMs : U32) (answers : Nat → SendAnswer)
  /-- Another message is sent, or the link changes. -/
  | other (e : LinkEvent)

def downloadStep (s : ParamDownload) : DownloadEvent → Option ParamDownload
  | .requestList targetSystem =>
    some (if AddressedToUs targetSystem then handleParamRequestList s else s)
  | .requestRead targetSystem name index answer =>
    some (if AddressedToUs targetSystem then handleParamRequestRead s answer name index else s)
  | .paramSet targetSystem name value answer =>
    some (if AddressedToUs targetSystem then handleParamSet s answer name value else s)
  | .paramValue m => some (drainParamValue s m)
  | .sendParamValues nowMs answers => some (sendParamValues s nowMs answers)
  | .other e => (linkStep s.link e).map fun link => { s with link := link }

/-! ## A complete download -/

structure DownloadComplete (s : ParamDownload) : Prop where
  /-- When a download has ended, the socket has accepted every index since the last request. -/
  complete : s.requested = true → s.listPending = false → ∀ idx < s.store.length, idx ∈ s.taken
  /-- Every answer of core 0 has been accepted by the socket, or is still queued. -/
  replies : s.arrived = s.delivered ++ s.valueQueue

/-- Outside a download nothing stays in the queue. -/
def SentAfterwards (s : ParamDownload) : DownloadEvent → Prop
  | .sendParamValues nowMs answers =>
    s.listPending = false → (sendParamValues s nowMs answers).valueQueue = []
  | _ => True

/-- The socket takes what is not sent again: an index that the last pass comes to and that was
not accepted before, and the answers of core 0.  An answer finds room in the queue. -/
def DownloadServed (s : ParamDownload) : DownloadEvent → Prop
  | .paramValue _ => s.valueQueue.length < paramValueQueueDepth
  | .sendParamValues nowMs answers =>
    if s.listPending then
      s.due nowMs = true → s.sendPass + 1 = paramSendPasses → s.sendIdx < s.store.length →
        s.sendIdx ∉ s.taken → s.link.sockOpen = true ∧ (answers 0).sendto = true
    else
      ∀ k < s.valueQueue.length, s.link.sockOpen = true ∧ (answers k).sendto = true
  | _ => True

instance (s : ParamDownload) (e : DownloadEvent) : Decidable (DownloadServed s e) := by
  unfold DownloadServed
  split <;> infer_instance

/-! ## What sending does -/

theorem paramValue_accepted_iff (l : MavlinkLink) (answer : SendAnswer) (m : ParamReply) :
    emitOutcome l answer (paramValueFrame m) = .accepted
      ↔ l.sockOpen = true ∧ answer.sendto = true := by
  apply emitOutcome_critical
  · rfl
  · rw [length_octets]
    show 25 + 12 ≤ 50
    decide

theorem sendStoreValue_succeeds (s : ParamDownload) (answer : SendAnswer) (idx : Nat)
    (entry : ParamEntry Binary32) : (sendStoreValue s answer idx entry).2 = true :=
  (sendMavlinkMsg_critical rfl).1

variable {s : ParamDownload}

theorem mem_taken_sendStoreValue {answer : SendAnswer} {idx : Nat} {entry : ParamEntry Binary32} :
    idx ∈ (sendStoreValue s answer idx entry).1.taken
      ↔ idx ∈ s.taken ∨ (s.link.sockOpen = true ∧ answer.sendto = true) := by
  have haccepted := paramValue_accepted_iff s.link answer (storeValueMsg s.store idx entry)
  unfold sendStoreValue
  dsimp only
  split
  · next h => exact iff_of_true (List.mem_cons_self ..) (Or.inr (haccepted.mp h))
  next h =>
    constructor
    · exact Or.inl
    · intro hor
      exact hor.resolve_right fun hopen => h (haccepted.mpr hopen)

theorem taken_sendStoreValue {answer : SendAnswer} {idx : Nat}
    {entry : ParamEntry Binary32} {i : Nat} (h : i ∈ s.taken) :
    i ∈ (sendStoreValue s answer idx entry).1.taken := by
  unfold sendStoreValue
  dsimp only
  split
  · exact List.mem_cons_of_mem _ h
  · exact h

@[simp] theorem length_paramSetValue (store : List (ParamEntry Binary32)) (name : String)
    (value : Binary32) : (paramSetValue store name value).length = store.length := by
  unfold paramSetValue
  split
  · rfl
  · exact List.length_modify ..

theorem sendReplies_delivered {queue : List ParamReply} {answers : Nat → SendAnswer}
    (h : ∀ k < queue.length, s.link.sockOpen = true ∧ (answers k).sendto = true) :
    (sendReplies s answers queue).delivered = s.delivered ++ queue := by
  induction queue generalizing s answers with
  | nil => exact (List.append_nil _).symm
  | cons m rest ih =>
    have hfirst := h 0 (Nat.succ_pos _)
    have haccepted := (paramValue_accepted_iff s.link (answers 0) m).mpr hfirst
    have hdelivered : (sendReply s (answers 0) m).delivered = s.delivered ++ [m] :=
      if_pos haccepted
    rw [sendReplies, ih, hdelivered, List.append_assoc, List.singleton_append]
    -- sending does not close the socket
    intro k hk
    refine ⟨?_, (h (k + 1) (Nat.succ_lt_succ hk)).2⟩
    exact (emit_sockOpen ..).trans hfirst.1

theorem sendReplies_frame (queue : List ParamReply) (s : ParamDownload)
    (answers : Nat → SendAnswer) :
    ∃ link delivered,
      sendReplies s answers queue = { s with link := link, delivered := delivered } := by
  induction queue generalizing s answers with
  | nil => exact ⟨s.link, s.delivered, rfl⟩
  | cons m rest ih =>
    obtain ⟨link, delivered, h⟩ := ih (sendReply s (answers 0) m) fun k => answers (k + 1)
    exact ⟨link, delivered, h⟩

/-! ## What a step keeps -/

structure DownloadInv (s : ParamDownload) : Prop where
  initialized : s.requested = true → s.paramsInitialized = true
  pending : s.listPending = true → s.requested = true
  pass : s.listPending = true → s.sendPass < paramSendPasses
  /-- The last pass leaves nothing behind. -/
  last : s.listPending = true → s.sendPass + 1 = paramSendPasses → ∀ idx < s.sendIdx, idx ∈ s.taken
  complete : s.requested = true → s.listPending = false → ∀ idx < s.store.length, idx ∈ s.taken
  replies : s.arrived = s.delivered ++ s.valueQueue

theorem DownloadInv.downloadComplete (h : DownloadInv s) : DownloadComplete s :=
  ⟨h.complete, h.replies⟩

theorem paramDownloadInit_inv : DownloadInv paramDownloadInit := by
  refine ⟨?_, ?_, ?_, ?_, ?_, rfl⟩
  all_goals
    intro h
    cases h

theorem paramStoreInit_inv (h : DownloadInv s) : DownloadInv (paramStoreInit s) := by
  unfold paramStoreInit
  split
  · exact h
  next hnot =>
    -- nothing has been requested, or the store would be there
    have hrequested : ¬ s.requested = true := fun hreq => hnot (h.initialized hreq)
    refine ⟨fun _ => rfl, h.pending, h.pass, h.last, ?_, h.replies⟩
    intro hreq
    exact absurd hreq hrequested

theorem sendStoreValue_inv (h : DownloadInv s) (answer : SendAnswer) (idx : Nat)
    (entry : ParamEntry Binary32) : DownloadInv (sendStoreValue s answer idx entry).1 where
  initialized := h.initialized
  pending := h.pending
  pass := h.pass
  last := fun hpending hpass i hi => taken_sendStoreValue (h.last hpending hpass i hi)
  complete := fun hreq hnot i hi => taken_sendStoreValue (h.complete hreq hnot i hi)
  replies := h.replies

theorem replyFromStore_inv (h : DownloadInv s) (answer : SendAnswer)
    (idx : Option Nat) : DownloadInv (replyFromStore s answer idx) := by
  unfold replyFromStore
  split
  · exact h
  · split
    · exact h
    · exact sendStoreValue_inv h answer _ _

theorem handleParamRequestList_inv (h : DownloadInv s) :
    DownloadInv (handleParamRequestList s) where
  initialized := by
    intro _
    show (paramStoreInit s).paramsInitialized = true
    unfold paramStoreInit
    split
    · assumption
    · rfl
  pending := fun _ => rfl
  pass := fun _ => Nat.succ_pos _
  -- nothing is accepted any more, and no index is behind the first
  last := fun _ _ idx hidx => absurd hidx (Nat.not_lt_zero idx)
  complete := fun _ hnot => nomatch hnot
  replies := (paramStoreInit_inv h).replies

theorem handleParamSet_inv (h : DownloadInv s) (answer : SendAnswer)
    (name : String) (value : Binary32) : DownloadInv (handleParamSet s answer name value) := by
  have hinit := paramStoreInit_inv h
  apply replyFromStore_inv
  refine ⟨hinit.initialized, hinit.pending, hinit.pass, hinit.last, ?_, hinit.replies⟩
  intro hreq hnot idx hidx
  exact hinit.complete hreq hnot idx (by simpa using hidx)

theorem drainParamValue_inv (h : DownloadInv s) {m : ParamReply}
    (hroom : s.valueQueue.length < paramValueQueueDepth) : DownloadInv (drainParamValue s m) := by
  have hqueued : drainParamValue s m
      = { s with arrived := s.arrived ++ [m], valueQueue := s.valueQueue ++ [m] } := if_pos hroom
  rw [hqueued]
  refine ⟨h.initialized, h.pending, h.pass, h.last, h.complete, ?_⟩
  show s.arrived ++ [m] = s.delivered ++ (s.valueQueue ++ [m])
  rw [h.replies, List.append_assoc]

theorem sendParamValues_inv (h : DownloadInv s) {nowMs : U32}
    {answers : Nat → SendAnswer} (hserved : DownloadServed s (.sendParamValues nowMs answers)) :
    DownloadInv (sendParamValues s nowMs answers) := by
  unfold DownloadServed at hserved
  unfold sendParamValues
  cases hpending : s.listPending with
  | false =>
    -- the queue goes out
    simp only [hpending, Bool.false_eq_true, if_false] at hserved ⊢
    have hdelivered := sendReplies_delivered (s := s) hserved
    obtain ⟨link, delivered, hframe⟩ := sendReplies_frame s.valueQueue s answers
    rw [hframe] at hdelivered ⊢
    refine ⟨h.initialized, h.pending, h.pass, h.last, h.complete, ?_⟩
    show s.arrived = delivered ++ []
    rw [List.append_nil, h.replies]
    exact hdelivered.symm
  | true =>
    simp only [hpending, if_true] at hserved ⊢
    by_cases hdue : s.due nowMs = true
    · rw [if_pos hdue]
      cases hentry : s.store[s.sendIdx]? with
      | some entry =>
        have hidx : s.sendIdx < s.store.length := (List.getElem?_eq_some_iff.mp hentry).1
        have hsent := sendStoreValue_inv h (answers 0) s.sendIdx entry
        dsimp only
        rw [if_pos (sendStoreValue_succeeds ..)]
        refine ⟨hsent.initialized, hsent.pending, hsent.pass, ?_, ?_, hsent.replies⟩
        · -- in the last pass the index is accepted now, or was before
          intro _ hlast idx hlt
          rcases Nat.lt_succ_iff_lt_or_eq.mp hlt with hbefore | rfl
          · exact hsent.last hpending hlast idx hbefore
          apply mem_taken_sendStoreValue.mpr
          by_cases htaken : s.sendIdx ∈ s.taken
          · exact Or.inl htaken
          · exact Or.inr (hserved hdue hlast hidx htaken)
        · intro _ hnot
          exact absurd (hpending.symm.trans hnot) (by decide)
      | none =>
        have hidx : s.store.length ≤ s.sendIdx := List.getElem?_eq_none_iff.mp hentry
        dsimp only
        split
        · next hmore =>
            -- another pass begins at the first index
            refine ⟨h.initialized, fun _ => h.pending hpending, fun _ => hmore, ?_, ?_,
              h.replies⟩
            · intro _ _ idx hlt
              exact absurd hlt (Nat.not_lt_zero idx)
            · intro _ hnot
              cases hnot
        next hdone =>
          -- the last pass has come to the end of the store
          have hpass := h.pass hpending
          have hlast : s.sendPass + 1 = paramSendPasses := by omega
          refine ⟨h.initialized, ?_, ?_, ?_, ?_, h.replies⟩
          · intro hnot
            cases hnot
          · intro hnot
            cases hnot
          · intro hnot
            cases hnot
          · intro _ _ idx hlt
            exact h.last hpending hlast idx (Nat.lt_of_lt_of_le hlt hidx)
    · rw [if_neg hdue]
      exact h

theorem downloadStep_inv {s s' : ParamDownload} {e : DownloadEvent} (h : DownloadInv s)
    (hserved : DownloadServed s e) (hstep : downloadStep s e = some s') : DownloadInv s' := by
  cases e with
  | requestList targetSystem =>
    cases hstep
    split
    · exact handleParamRequestList_inv h
    · exact h
  | requestRead targetSystem name index answer =>
    cases hstep
    split
    · exact replyFromStore_inv (paramStoreInit_inv h) answer _
    · exact h
  | paramSet targetSystem name value answer =>
    cases hstep
    split
    · exact handleParamSet_inv h answer name value
    · exact h
  | paramValue m =>
    cases hstep
    exact drainParamValue_inv h hserved
  | sendParamValues nowMs answers =>
    cases hstep
    exact sendParamValues_inv h hserved
  | other e =>
    -- the budget, the bridge and other messages change the link alone
    obtain ⟨link, -, rfl⟩ := Option.map_eq_some_iff.mp hstep
    exact ⟨h.initialized, h.pending, h.pass, h.last, h.complete, h.replies⟩

theorem sentAfterwards (s : ParamDownload) (e : DownloadEvent) : SentAfterwards s e := by
  cases e with
  | sendParamValues nowMs answers =>
    intro hpending
    unfold sendParamValues
    rw [hpending]
    rfl
  | _ => trivial

/-! ## Runs -/

/-- In every run in which the socket takes what is not sent again and the answers of core 0 find
room: a download that has ended is complete, and no answer of core 0 is lost. -/
theorem param_download_is_complete {es : List DownloadEvent}
    (hserved : Along downloadStep DownloadServed paramDownloadInit es) :
    Throughout downloadStep DownloadComplete paramDownloadInit es
      ∧ Along downloadStep SentAfterwards paramDownloadInit es := by
  constructor
  · have hinv : Throughout downloadStep DownloadInv paramDownloadInit es :=
      throughout_of_step (fun s e s' h hC hstep => downloadStep_inv h hC hstep)
        paramDownloadInit_inv hserved
    exact hinv.mono fun s h => h.downloadComplete
  · apply along_of_forall_mem
    intro e _ s
    exact sentAfterwards s e

/-- One call of `send_param_values`, at a time; the socket accepts the frames, or refuses them. -/
def sendAt (nowMs : Nat) (sendto : Bool) : DownloadEvent :=
  .sendParamValues (BitVec.ofNat 32 nowMs) fun _ => ⟨BitVec.ofNat 32 nowMs, false, sendto⟩

/-- A download: in each pass 55 parameters, and the end of the pass. -/
def downloadOf (firstPass secondPass : Bool) : List DownloadEvent :=
  [.other (.bridgeInit true), .requestList 1]
    ++ (List.range 56).map (fun k => sendAt (20 * (k + 1)) firstPass)
    ++ (List.range 56).map (fun k => sendAt (20 * (k + 57)) secondPass)

/-- An answer of core 0. -/
def rateReply : ParamReply := ⟨"RATE_P", lit 1, 9, 49, 0⟩

/-- The socket refuses the whole first pass, and an answer of core 0 waits for the end. -/
theorem param_download_is_complete_second_pass :
    (runFrom downloadStep paramDownloadInit
        (.paramValue rateReply :: downloadOf false true ++ [sendAt 2260 true])).map
        (fun s => (s.listPending, s.taken.length, s.delivered.length)) = some (false, 55, 1)
      ∧ Throughout downloadStep DownloadComplete paramDownloadInit
        (.paramValue rateReply :: downloadOf false true ++ [sendAt 2260 true])
      ∧ Along downloadStep SentAfterwards paramDownloadInit
        (.paramValue rateReply :: downloadOf false true ++ [sendAt 2260 true]) :=
  ⟨by decide +kernel, param_download_is_complete (by decide +kernel)⟩

/-- The download ends, and the socket has accepted nothing of it. -/
theorem param_download_ends_empty :
    ¬ ∀ es, Throughout downloadStep DownloadComplete paramDownloadInit es := by
  intro h
  have hend : (runFrom downloadStep paramDownloadInit (downloadOf false false)).map
      (fun s => (s.requested, s.listPending, s.store.length, s.taken))
        = some (true, false, 55, []) := by
    decide +kernel
  obtain ⟨s, hrun, hs⟩ := Option.map_eq_some_iff.mp hend
  have hcomplete := ((h (downloadOf false false)).of_runFrom hrun).complete
  simp only [Prod.mk.injEq] at hs
  obtain ⟨hreq, hnot, hlength, htaken⟩ := hs
  -- not even the first parameter
  have hzero := hcomplete hreq hnot 0 (by omega)
  rw [htaken] at hzero
  exact absurd hzero List.not_mem_nil

end MmIotEsp32.HeliFc.Download
