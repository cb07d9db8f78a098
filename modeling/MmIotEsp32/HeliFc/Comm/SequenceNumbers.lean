/-
  MmIotEsp32.HeliFc.Comm.SequenceNumbers

  What the sequence numbers of the frames count (`mavlink_finalize` of
  `comm/mavlink/mavlink_msg.c`, `send_mavlink_msg` of `comm/mavlink_handler.c`,
  `gcs_bridge_send` of `comm/gcs_bridge.c`).
-/
import MmIotEsp32.HeliFc.Comm.MavlinkSend
import MmIotEsp32.Lib.Transition

namespace MmIotEsp32.HeliFc.MavlinkMsg

open Lib

/-! ## Runs of the handler -/

/-- What the handler and the bridge do, as far as it touches the link. -/
inductive LinkEvent where
  /-- A message is built and given to `send_mavlink_msg`. -/
  | message (call : MavlinkMsgCall) (answer : SendAnswer)
  | updateBudget (nowMs throughputBps : U32)
  /-- Something of the ground station is received. -/
  | detected
  | bridgeInit (sockOpen : Bool)
  | bridgeDeinit
  /-- `mavlink_handler_init`. -/
  | handlerInit (nowMs : U32)

def linkStep (l : MavlinkLink) : LinkEvent → Option MavlinkLink
  | .message call answer => some (emit l answer fun seq => call.encode seq).1
  | .updateBudget nowMs throughputBps => some (updateMavlinkTxBudget l nowMs throughputBps)
  | .detected => some (gcsDetected l)
  | .bridgeInit sockOpen => some (gcsBridgeInit l sockOpen)
  | .bridgeDeinit => some (gcsBridgeDeinit l)
  | .handlerInit nowMs => some { l with txBudgetCount := 0, txBudgetWindowStart := nowMs }

/-- The frames that came to the socket, oldest first. -/
def MavlinkLink.handed (l : MavlinkLink) : List MavlinkMessage :=
  (l.log.filter fun sending => sending.outcome.handed).map Sending.msg

/-- Each frame has the number behind that of the frame before. -/
def MavlinkLink.Consecutive (l : MavlinkLink) : Prop :=
  l.handed.IsChain fun frame next => next.seq = frame.seq + 1

/-- What the numbers of the frames say. -/
structure MavlinkLink.SkipsLost (l : MavlinkLink) : Prop where
  /-- The numbers count the messages that were built. -/
  counts : ∀ i, ∀ sending ∈ l.log[i]?, sending.msg.seq = BitVec.ofNat 8 i
  /-- From a frame of the socket to the next the number grows by one, and by one more for each
  message in between that did not come to the socket. -/
  skips : ∀ before lost after frame next, l.log = before ++ frame :: (lost ++ next :: after) →
    frame.outcome.handed = true → next.outcome.handed = true →
    (∀ sending ∈ lost, sending.outcome.handed = false) →
      next.msg.seq = frame.msg.seq + 1 + BitVec.ofNat 8 lost.length
  /-- While every message comes to the socket, its frames are numbered without a gap. -/
  gapless : (∀ sending ∈ l.log, sending.outcome.handed = true) → l.Consecutive

/-! ## Numbers -/

theorem encode_seq (seq : U8) (call : MavlinkMsgCall) : (call.encode seq).seq = seq := by
  cases call <;> rfl

/-- The number of a message is its place among all messages, and the counter is at the next. -/
structure MavlinkLink.Numbered (l : MavlinkLink) : Prop where
  counter : l.mavlinkSeq = BitVec.ofNat 8 l.log.length
  place : ∀ i, ∀ sending ∈ l.log[i]?, sending.msg.seq = BitVec.ofNat 8 i

theorem numbered_of_same {l l' : MavlinkLink} (h : l.Numbered)
    (hseq : l'.mavlinkSeq = l.mavlinkSeq) (hlog : l'.log = l.log) : l'.Numbered := by
  constructor
  · rw [hseq, hlog]
    exact h.counter
  · rw [hlog]
    exact h.place

variable {l : MavlinkLink}

theorem emit_numbered (h : l.Numbered) (answer : SendAnswer)
    (call : MavlinkMsgCall) : (emit l answer fun seq => call.encode seq).1.Numbered := by
  have hlog := emit_log l answer fun seq => call.encode seq
  have hseq := emit_mavlinkSeq l answer fun seq => call.encode seq
  constructor
  · rw [hseq, hlog, h.counter, List.length_append, BitVec.ofNat_add]
    rfl
  intro i sending hsending
  rw [hlog] at hsending
  by_cases hi : i < l.log.length
  · rw [List.getElem?_append_left hi] at hsending
    exact h.place i sending hsending
  -- the new one stands behind all others
  rw [List.getElem?_append_right (Nat.le_of_not_lt hi)] at hsending
  obtain ⟨hzero, hnew⟩ := List.getElem?_eq_some_iff.mp hsending
  have hlast : i = l.log.length := by
    rw [List.length_singleton] at hzero
    omega
  subst hlast
  simp only [Nat.sub_self, List.getElem_cons_zero] at hnew
  rw [← hnew]
  exact (encode_seq l.mavlinkSeq call).trans h.counter

theorem linkStep_numbered {l l' : MavlinkLink} {e : LinkEvent} (h : l.Numbered)
    (hstep : linkStep l e = some l') : l'.Numbered := by
  cases e with
  | message call answer =>
    cases hstep
    exact emit_numbered h answer call
  | updateBudget nowMs throughputBps =>
    cases hstep
    unfold updateMavlinkTxBudget
    split
    · exact h
    · exact numbered_of_same h rfl rfl
  | detected =>
    cases hstep
    unfold gcsDetected
    split
    · exact numbered_of_same h rfl rfl
    · exact h
  | bridgeInit sockOpen =>
    cases hstep
    unfold gcsBridgeInit
    split <;> exact numbered_of_same h rfl rfl
  | bridgeDeinit | handlerInit nowMs =>
    cases hstep
    exact numbered_of_same h rfl rfl

/-! ## The frames of the socket -/

theorem MavlinkLink.Numbered.seq_at {l : MavlinkLink} (h : l.Numbered)
    {before after : List Sending} {sending : Sending} (hlog : l.log = before ++ sending :: after) :
    sending.msg.seq = BitVec.ofNat 8 before.length := by
  apply h.place before.length
  rw [hlog, List.getElem?_append_right (Nat.le_refl _), Nat.sub_self]
  rfl

theorem MavlinkLink.Numbered.skips (h : l.Numbered)
    {before lost after : List Sending} {frame next : Sending}
    (hlog : l.log = before ++ frame :: (lost ++ next :: after)) :
    next.msg.seq = frame.msg.seq + 1 + BitVec.ofNat 8 lost.length := by
  have hframe : frame.msg.seq = BitVec.ofNat 8 before.length := h.seq_at hlog
  -- before the later frame stand the earlier one and what was lost between them
  have hnext : next.msg.seq = BitVec.ofNat 8 (before ++ frame :: lost).length := by
    apply @seq_at l h _ after
    rw [hlog, List.append_assoc, List.cons_append]
  have hlength : (before ++ frame :: lost).length = before.length + 1 + lost.length := by
    rw [List.length_append, List.length_cons]
    omega
  rw [hnext, hframe, hlength, BitVec.ofNat_add, BitVec.ofNat_add]
  rfl

theorem isChain_of_places {log : List Sending} {start : Nat}
    (h : ∀ i, ∀ sending ∈ log[i]?, sending.msg.seq = BitVec.ofNat 8 (start + i)) :
    (log.map Sending.msg).IsChain fun frame next => next.seq = frame.seq + 1 := by
  induction log generalizing start with
  | nil => exact List.IsChain.nil
  | cons frame log ih =>
    -- the rest of the log starts one place later
    have hrest : ∀ i, ∀ sending ∈ log[i]?,
        sending.msg.seq = BitVec.ofNat 8 (start + 1 + i) := by
      intro i sending hsending
      rw [Nat.add_assoc, Nat.add_comm 1 i]
      exact h (i + 1) sending hsending
    cases log with
    | nil => exact List.IsChain.singleton _
    | cons next log =>
      refine List.IsChain.cons_cons ?_ (ih hrest)
      have hframe : frame.msg.seq = BitVec.ofNat 8 (start + 0) := h 0 frame rfl
      have hnext : next.msg.seq = BitVec.ofNat 8 (start + 1) := h 1 next rfl
      rw [hnext, hframe, BitVec.ofNat_add]
      rfl

theorem MavlinkLink.Numbered.skipsLost (h : l.Numbered) : l.SkipsLost where
  counts := h.place
  skips := by
    intro before lost after frame next hlog _ _ _
    exact h.skips hlog
  gapless := by
    intro hall
    unfold MavlinkLink.Consecutive MavlinkLink.handed
    rw [List.filter_eq_self.mpr hall]
    apply @isChain_of_places l.log 0
    intro i sending hsending
    rw [Nat.zero_add]
    exact h.place i sending hsending

/-! ## Runs -/

/-- In every run of the handler the sequence numbers count the messages that were built: the
frames of the socket leave out exactly the numbers of the messages between them that did not
come to the socket. -/
theorem handed_numbers_skip_lost (es : List LinkEvent) :
    Throughout linkStep MavlinkLink.SkipsLost mavlinkLinkZero es := by
  have hinit : mavlinkLinkZero.Numbered := by
    refine ⟨rfl, ?_⟩
    intro i sending hsending
    cases hsending
  -- the counter and the log keep in step whatever becomes of a message
  have hnumbered : Throughout linkStep MavlinkLink.Numbered mavlinkLinkZero es :=
    throughout_of_invariant (fun l e l' h hstep => linkStep_numbered h hstep) hinit es
  exact hnumbered.mono fun l h => h.skipsLost

/-- A level attitude, at a time. -/
def levelAttitude (nowMs : U32) (txPaused : Bool) : LinkEvent :=
  .message (.attitude nowMs 0 0 0 0 0 0) ⟨nowMs, txPaused, true⟩

/-- Four times a second the attitude is sent, and once the radio is congested: the frames have
the numbers 0, 1 and 3, and no packet was lost. -/
theorem handed_numbers_have_gaps :
    ¬ ∀ es, Throughout linkStep MavlinkLink.Consecutive mavlinkLinkZero es := by
  intro h
  let run : List LinkEvent := [.bridgeInit true, .handlerInit 0,
    .message (.heartbeat 4 12 81 0x10000 3) ⟨1, false, true⟩,
    levelAttitude 250 false, levelAttitude 500 true, levelAttitude 750 false]
  have hend : (runFrom linkStep mavlinkLinkZero run).map
      (fun l => l.handed.map MavlinkMessage.seq) = some [0, 1, 3] := by
    decide +kernel
  obtain ⟨l, hrun, hseqs⟩ := Option.map_eq_some_iff.mp hend
  have hchain : (l.handed.map MavlinkMessage.seq).IsChain fun seq next => next = seq + 1 :=
    (List.isChain_map _).mpr ((h run).of_runFrom hrun)
  rw [hseqs] at hchain
  exact absurd hchain (by decide)

end MmIotEsp32.HeliFc.MavlinkMsg
