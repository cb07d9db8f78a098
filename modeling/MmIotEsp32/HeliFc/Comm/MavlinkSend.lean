/-
  MmIotEsp32.HeliFc.Comm.MavlinkSend

  Sending a message to the ground station (`send_mavlink_msg` of `comm/mavlink_handler.c`,
  `gcs_bridge_send` of `comm/gcs_bridge.c`).
-/
import MmIotEsp32.HeliFc.Comm.Mavlink.MavlinkRoundTrip

namespace MmIotEsp32.HeliFc.MavlinkMsg

open Lib

/-! ## The link -/

def txBudgetBasePerSec : U32 := 30

def txBudgetMaxPerSec : U32 := 60

def txBudgetWindowMs : Nat := 1000

/-- What becomes of a message. -/
inductive SendOutcome where
  /-- `send_mavlink_msg` drops it: the budget is used up, or the radio is congested. -/
  | dropped
  /-- The bridge has no socket. -/
  | noSocket
  /-- The ground station is not known yet, and the frame is too long for a broadcast. -/
  | withheld
  /-- `sendto` fails. -/
  | refused
  /-- `sendto` takes the frame. -/
  | accepted
  deriving Repr, DecidableEq

/-- The frame came to `sendto`. -/
def SendOutcome.handed : SendOutcome → Bool
  | .refused | .accepted => true
  | .dropped | .noSocket | .withheld => false

/-- A message that was given to `send_mavlink_msg`, and what became of it. -/
structure Sending where
  msg : MavlinkMessage
  outcome : SendOutcome

/-- The statics that sending uses. -/
structure MavlinkLink where
  /-- `s_mavlink_seq`. -/
  mavlinkSeq : U8
  txBudgetLimit : U32
  txBudgetCount : U32
  txBudgetWindowStart : U32
  mavlinkBudgetUpdateMs : U32
  /-- `s_sock >= 0`. -/
  sockOpen : Bool
  gcsAddrKnown : Bool
  /-- What was given to `send_mavlink_msg`, oldest first. -/
  log : List Sending

/-- What the surroundings answer while a message is sent. -/
structure SendAnswer where
  nowMs : U32
  /-- `app_wlan_tx_is_paused()`. -/
  txPaused : Bool
  /-- `sendto` does not fail. -/
  sendto : Bool
  deriving Repr, DecidableEq

/-- The statics before anything has run. -/
def mavlinkLinkZero : MavlinkLink where
  mavlinkSeq := 0
  txBudgetLimit := txBudgetBasePerSec
  txBudgetCount := 0
  txBudgetWindowStart := 0
  mavlinkBudgetUpdateMs := 0
  sockOpen := false
  gcsAddrKnown := false
  log := []

/-! ## The bridge -/

/-- `gcs_bridge_init`; without a socket it fails. -/
def gcsBridgeInit (l : MavlinkLink) (sockOpen : Bool) : MavlinkLink :=
  if sockOpen then { l with sockOpen := true, gcsAddrKnown := false }
  else { l with sockOpen := false }

def gcsBridgeDeinit (l : MavlinkLink) : MavlinkLink :=
  { l with sockOpen := false, gcsAddrKnown := false }

/-- `gcs_bridge_recv` has received something. -/
def gcsDetected (l : MavlinkLink) : MavlinkLink :=
  if l.sockOpen then { l with gcsAddrKnown := true } else l

def gcsBridgeSend (l : MavlinkLink) (answer : SendAnswer) (buf : List U8) : SendOutcome :=
  if !l.sockOpen || buf.isEmpty then .noSocket
  -- before the ground station is known, only small packets are broadcast
  else if !l.gcsAddrKnown && decide (50 < buf.length) then .withheld
  else if answer.sendto then .accepted
  else .refused

/-! ## The budget -/

def isCriticalMsg (msgid : U32) : Bool :=
  msgid == 0 || msgid == 77 || msgid == 22 || msgid == 148

/-- The budget starts anew every second. -/
def resetBudgetWindow (l : MavlinkLink) (nowMs : U32) : MavlinkLink :=
  if txBudgetWindowMs ≤ (nowMs - l.txBudgetWindowStart).toNat then
    { l with txBudgetCount := 0, txBudgetWindowStart := nowMs }
  else l

def MavlinkLink.record (l : MavlinkLink) (msg : MavlinkMessage) (outcome : SendOutcome) :
    MavlinkLink :=
  { l with log := l.log ++ [⟨msg, outcome⟩] }

def sendMavlinkMsg (l : MavlinkLink) (answer : SendAnswer) (msg : MavlinkMessage) :
    MavlinkLink × Bool :=
  let l := resetBudgetWindow l answer.nowMs
  let critical := isCriticalMsg msg.msgid
  if l.txBudgetLimit.toNat ≤ l.txBudgetCount.toNat ∧ critical = false then
    (l.record msg .dropped, false)
  else if answer.txPaused = true ∧ critical = false then (l.record msg .dropped, false)
  else
    match mavlinkSerialize msg mavlinkMaxPacketLen with
    | none => (l.record msg .dropped, false)
    | some buf =>
      -- the answer of the bridge is not looked at
      let l := l.record msg (gcsBridgeSend l answer buf)
      ({ l with txBudgetCount := l.txBudgetCount + 1 }, true)

def updateMavlinkTxBudget (l : MavlinkLink) (nowMs throughputBps : U32) : MavlinkLink :=
  if (nowMs - l.mavlinkBudgetUpdateMs).toNat < 2000 then l
  else
    let budget := throughputBps / 500
    let budget := if budget.toNat < txBudgetBasePerSec.toNat then txBudgetBasePerSec else budget
    let budget := if txBudgetMaxPerSec.toNat < budget.toNat then txBudgetMaxPerSec else budget
    { l with mavlinkBudgetUpdateMs := nowMs, txBudgetLimit := budget }

/-- A message is built, which takes the next sequence number, and sent. -/
def emit (l : MavlinkLink) (answer : SendAnswer) (encode : U8 → MavlinkMessage) :
    MavlinkLink × Bool :=
  sendMavlinkMsg { l with mavlinkSeq := l.mavlinkSeq + 1 } answer (encode l.mavlinkSeq)

/-! ## What sending does -/

@[simp] theorem resetBudgetWindow_mavlinkSeq (l : MavlinkLink) (nowMs : U32) :
    (resetBudgetWindow l nowMs).mavlinkSeq = l.mavlinkSeq := by
  unfold resetBudgetWindow
  split <;> rfl

@[simp] theorem resetBudgetWindow_sockOpen (l : MavlinkLink) (nowMs : U32) :
    (resetBudgetWindow l nowMs).sockOpen = l.sockOpen := by
  unfold resetBudgetWindow
  split <;> rfl

@[simp] theorem resetBudgetWindow_gcsAddrKnown (l : MavlinkLink) (nowMs : U32) :
    (resetBudgetWindow l nowMs).gcsAddrKnown = l.gcsAddrKnown := by
  unfold resetBudgetWindow
  split <;> rfl

@[simp] theorem resetBudgetWindow_log (l : MavlinkLink) (nowMs : U32) :
    (resetBudgetWindow l nowMs).log = l.log := by
  unfold resetBudgetWindow
  split <;> rfl

theorem sendMavlinkMsg_mavlinkSeq (l : MavlinkLink) (answer : SendAnswer) (msg : MavlinkMessage) :
    (sendMavlinkMsg l answer msg).1.mavlinkSeq = l.mavlinkSeq := by
  have hseq := resetBudgetWindow_mavlinkSeq l answer.nowMs
  unfold sendMavlinkMsg
  rw [mavlinkSerialize_max]
  dsimp only
  split
  · exact hseq
  · split <;> exact hseq

/-- What becomes of a message, from the state it is given to `send_mavlink_msg` in. -/
def sendOutcome (l : MavlinkLink) (answer : SendAnswer) (msg : MavlinkMessage) : SendOutcome :=
  let l := resetBudgetWindow l answer.nowMs
  if (l.txBudgetLimit.toNat ≤ l.txBudgetCount.toNat ∨ answer.txPaused = true)
      ∧ isCriticalMsg msg.msgid = false then .dropped
  else gcsBridgeSend l answer msg.octets

theorem sendMavlinkMsg_log (l : MavlinkLink) (answer : SendAnswer) (msg : MavlinkMessage) :
    (sendMavlinkMsg l answer msg).1.log = l.log ++ [⟨msg, sendOutcome l answer msg⟩] := by
  have hlog := resetBudgetWindow_log l answer.nowMs
  unfold sendMavlinkMsg sendOutcome
  rw [mavlinkSerialize_max]
  dsimp only
  by_cases hcritical : isCriticalMsg msg.msgid = false
  · simp only [hcritical, and_true]
    by_cases hbudget : (resetBudgetWindow l answer.nowMs).txBudgetLimit.toNat
        ≤ (resetBudgetWindow l answer.nowMs).txBudgetCount.toNat
    · rw [if_pos hbudget, if_pos (Or.inl hbudget)]
      exact congrArg (· ++ _) hlog
    by_cases hpaused : answer.txPaused = true
    · rw [if_neg hbudget, if_pos hpaused, if_pos (Or.inr hpaused)]
      exact congrArg (· ++ _) hlog
    · rw [if_neg hbudget, if_neg hpaused, if_neg (not_or.mpr ⟨hbudget, hpaused⟩)]
      exact congrArg (· ++ _) hlog
  · rw [if_neg fun h => hcritical h.2, if_neg fun h => hcritical h.2, if_neg fun h => hcritical h.2]
    exact congrArg (· ++ _) hlog

theorem sendMavlinkMsg_critical {l : MavlinkLink} {answer : SendAnswer} {msg : MavlinkMessage}
    (hcritical : isCriticalMsg msg.msgid = true) :
    (sendMavlinkMsg l answer msg).2 = true
      ∧ sendOutcome l answer msg = gcsBridgeSend l answer msg.octets := by
  have hnot : ¬ isCriticalMsg msg.msgid = false := by
    rw [hcritical]
    decide
  constructor
  · unfold sendMavlinkMsg
    rw [mavlinkSerialize_max]
    dsimp only
    rw [if_neg fun h => hnot h.2, if_neg fun h => hnot h.2]
  · unfold sendOutcome gcsBridgeSend
    dsimp only
    rw [if_neg fun h => hnot h.2, resetBudgetWindow_sockOpen, resetBudgetWindow_gcsAddrKnown]

theorem sendMavlinkMsg_sockOpen (l : MavlinkLink) (answer : SendAnswer) (msg : MavlinkMessage) :
    (sendMavlinkMsg l answer msg).1.sockOpen = l.sockOpen := by
  have hsock := resetBudgetWindow_sockOpen l answer.nowMs
  unfold sendMavlinkMsg
  rw [mavlinkSerialize_max]
  dsimp only
  split
  · exact hsock
  · split <;> exact hsock

theorem emit_mavlinkSeq (l : MavlinkLink) (answer : SendAnswer) (encode : U8 → MavlinkMessage) :
    (emit l answer encode).1.mavlinkSeq = l.mavlinkSeq + 1 :=
  sendMavlinkMsg_mavlinkSeq _ _ _

theorem emit_sockOpen (l : MavlinkLink) (answer : SendAnswer) (encode : U8 → MavlinkMessage) :
    (emit l answer encode).1.sockOpen = l.sockOpen :=
  sendMavlinkMsg_sockOpen _ _ _

/-- What becomes of a message that is built and sent. -/
def emitOutcome (l : MavlinkLink) (answer : SendAnswer) (encode : U8 → MavlinkMessage) :
    SendOutcome :=
  sendOutcome { l with mavlinkSeq := l.mavlinkSeq + 1 } answer (encode l.mavlinkSeq)

theorem emit_log (l : MavlinkLink) (answer : SendAnswer) (encode : U8 → MavlinkMessage) :
    (emit l answer encode).1.log
      = l.log ++ [⟨encode l.mavlinkSeq, emitOutcome l answer encode⟩] :=
  sendMavlinkMsg_log _ _ _

theorem emitOutcome_critical {l : MavlinkLink} {answer : SendAnswer}
    {encode : U8 → MavlinkMessage} (hcritical : isCriticalMsg (encode l.mavlinkSeq).msgid = true)
    (hsmall : (encode l.mavlinkSeq).octets.length ≤ 50) :
    emitOutcome l answer encode = .accepted ↔ l.sockOpen = true ∧ answer.sendto = true := by
  have hoctets : (encode l.mavlinkSeq).octets.isEmpty = false := rfl
  unfold emitOutcome
  rw [(sendMavlinkMsg_critical hcritical).2]
  unfold gcsBridgeSend
  rw [hoctets, decide_eq_false (Nat.not_lt.mpr hsmall), Bool.and_false]
  cases hsock : l.sockOpen with
  | false => simp
  | true =>
    cases hsendto : answer.sendto with
    | false | true => simp

end MmIotEsp32.HeliFc.MavlinkMsg
