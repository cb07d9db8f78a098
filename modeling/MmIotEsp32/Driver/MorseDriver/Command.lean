/-
  MmIotEsp32.Driver.MorseDriver.Command

  Commands to the chip and their responses (`driver/morse_driver/command.c`).
-/
import MmIotEsp32.Common.Mmosal
import MmIotEsp32.Lib.Transition

namespace MmIotEsp32.Driver

open Lib

/-! ## The two sides -/

def morseCmdIidSeqMax : U16 := 0xfff
def morseCmdIidSeqShift : Nat := 4
def morseCmdIidSeqMask : U16 := 0xfff0
def morseCmdTypeResp : U16 := 0x2

def mmMaxCommandRetry : Nat := 3

-- The error numbers of the C library.
def enomem : Int := 12
def ebadmsg : Int := 77
def etimedout : Int := 116

structure MorseCmdHeader where
  flags : U16
  messageId : U16
  len : U16
  hostId : U16
  deriving DecidableEq

/-- A response: its header, its status, and the length of the packet it stands in. -/
structure MorseCmdResp where
  hdr : MorseCmdHeader
  status : U32
  pktLen : Nat
  deriving DecidableEq

/-- A call of `morse_cmd_tx`: the message id of `cmd`, whether `resp` is a pointer, and
`resp_maxlen`. -/
structure MorseCmdReq where
  messageId : U16
  hasResp : Bool
  respMaxlen : Nat
  deriving DecidableEq

/-- `sizeof(struct morse_cmd_header)`. -/
def sizeofMorseCmdHeader : Nat := 12

/-- `sizeof(struct morse_cmd_resp)`. -/
def sizeofMorseCmdResp : Nat := 16

/-- Where `morse_cmd_tx` is, with its `cmd`, `cmd_seq` and `retry`; `idle` when nobody
holds `cmd.wait`. -/
inductive MorseCmdTxPlace where
  | idle
  /-- at the head of the loop -/
  | attempt (cmd : MorseCmdReq) (cmdSeq : U16) (retry : Nat)
  /-- in `mmosal_semb_wait` -/
  | waiting (cmd : MorseCmdReq) (cmdSeq : U16) (retry : Nat)
  /-- behind it -/
  | woken (cmd : MorseCmdReq) (cmdSeq : U16) (retry : Nat)
  deriving DecidableEq

/-- A response that `morse_cmd_tx` took from the slot. -/
structure ConsumedResp where
  cmd : MorseCmdReq
  cmdSeq : U16
  resp : MorseCmdResp
  deriving DecidableEq

/-- `driverd->cmd`, the place of `morse_cmd_tx`, the responses it consumed and what it
returned. -/
structure CmdState where
  seq : U16
  semb : Bool
  rspview : Option MorseCmdResp
  pendingCmdId : U16
  pendingCmdHostId : U16
  place : MorseCmdTxPlace
  consumed : List ConsumedResp
  returned : List Int
  deriving DecidableEq

/-- The state after `morse_cmd_init`. -/
def morseCmdInit : CmdState := ⟨0, false, none, 0, 0, .idle, [], []⟩

/-! ## Sending -/

/-- `morse_cmd_tx` returns. -/
def CmdState.ret (s : CmdState) (ret : Int) : CmdState :=
  { s with place := .idle, returned := s.returned ++ [ret] }

/-- `morse_cmd_tx` up to the head of its loop. -/
def morseCmdTxStart (s : CmdState) (cmd : MorseCmdReq) : CmdState :=
  let seq := s.seq + 1
  let seq := if morseCmdIidSeqMax < seq then 1 else seq
  { s with seq := seq, place := .attempt cmd (seq <<< morseCmdIidSeqShift) 0 }

/-- `cmd->hdr.host_id` of an attempt. -/
def morseCmdHostId (cmdSeq : U16) (retry : Nat) : U16 := cmdSeq ||| BitVec.ofNat 16 retry

/-- `morse_skbq_mmpkt_tx` has accepted the command. -/
def morseCmdTxSent (s : CmdState) (cmd : MorseCmdReq) (cmdSeq : U16) (retry : Nat) : CmdState :=
  { s with
    pendingCmdId := cmd.messageId
    pendingCmdHostId := morseCmdHostId cmdSeq retry
    place := .waiting cmd cmdSeq retry }

/-- `ret` for the response taken from the slot. -/
def morseCmdRet (cmd : MorseCmdReq) : Option MorseCmdResp → Int
  | none => -etimedout
  | some rsp =>
    if rsp.pktLen < sizeofMorseCmdResp then -ebadmsg
    else if rsp.pktLen < rsp.hdr.len.toNat + sizeofMorseCmdHeader then -ebadmsg
    else if decide (sizeofMorseCmdResp ≤ cmd.respMaxlen) && cmd.hasResp then 0
    else rsp.status.toInt

/-- The loop goes round again. -/
def morseCmdRetries (ret : Int) (retry : Nat) : Bool :=
  (ret == -etimedout || ret == -ebadmsg) && decide (retry + 1 < mmMaxCommandRetry)

/-- `morse_cmd_tx` behind `mmosal_semb_wait`: the response is taken from the slot. -/
def morseCmdTxWoken (s : CmdState) (cmd : MorseCmdReq) (cmdSeq : U16) (retry : Nat) : CmdState :=
  let last := retry + 1 == mmMaxCommandRetry
  let ret := morseCmdRet cmd s.rspview
  let s' := { s with
    pendingCmdId := if last then 0 else s.pendingCmdId
    pendingCmdHostId := if last then 0 else s.pendingCmdHostId
    rspview := none
    consumed := s.consumed ++ s.rspview.toList.map (ConsumedResp.mk cmd cmdSeq) }
  if morseCmdRetries ret retry then { s' with place := .attempt cmd cmdSeq (retry + 1) }
  else s'.ret ret

/-! ## Receiving -/

/-- `morse_cmd_resp_process` takes the response for the one of the pending command. -/
def morseCmdRespMatches (s : CmdState) (rsp : MorseCmdResp) : Bool :=
  rsp.hdr.flags &&& morseCmdTypeResp != 0
    && s.pendingCmdId != 0 && s.pendingCmdId == rsp.hdr.messageId
    && (s.pendingCmdHostId &&& morseCmdIidSeqMask) == (rsp.hdr.hostId &&& morseCmdIidSeqMask)

/-- `morse_cmd_resp_process`; events leave the state alone. -/
def morseCmdRespProcess (s : CmdState) (rsp : MorseCmdResp) : CmdState :=
  if morseCmdRespMatches s rsp then
    { s with rspview := some rsp, pendingCmdId := 0, pendingCmdHostId := 0, semb := true }
  else s

/-! ## Runs -/

/-- What happens next. -/
inductive CmdEvent where
  /-- `morse_cmd_tx` is called and gets `cmd.wait` -/
  | start (cmd : MorseCmdReq)
  /-- `morse_skbq_alloc_mmpkt_for_cmd` returns NULL -/
  | allocFails
  /-- `morse_skbq_mmpkt_tx` returns an error -/
  | txFails (ret : Int)
  | sent
  /-- the semaphore was given -/
  | taken
  | timeout
  /-- `morse_cmd_tx` gets `cmd.lock` behind the wait -/
  | consume
  /-- the chip sends a response -/
  | resp (rsp : MorseCmdResp)
  deriving DecidableEq

/-- One step; an event that cannot happen ends the run. -/
def cmdStep (s : CmdState) : CmdEvent → Option CmdState
  | .start cmd => if s.place = .idle then some (morseCmdTxStart s cmd) else none
  | .allocFails =>
    match s.place with
    | .attempt _ _ _ => some (s.ret (-enomem))
    | _ => none
  | .txFails ret =>
    match s.place with
    | .attempt _ _ _ => some (s.ret ret)
    | _ => none
  | .sent =>
    match s.place with
    | .attempt cmd cmdSeq retry => some (morseCmdTxSent s cmd cmdSeq retry)
    | _ => none
  | .taken =>
    match s.place with
    | .waiting cmd cmdSeq retry =>
      if s.semb then some { s with semb := false, place := .woken cmd cmdSeq retry } else none
    | _ => none
  | .timeout =>
    match s.place with
    | .waiting cmd cmdSeq retry => some { s with place := .woken cmd cmdSeq retry }
    | _ => none
  | .consume =>
    match s.place with
    | .woken cmd cmdSeq retry => some (morseCmdTxWoken s cmd cmdSeq retry)
    | _ => none
  | .resp rsp => some (morseCmdRespProcess s rsp)

/-! ## Responses that belong -/

/-- A response carries the message id and the sequence number of the command. -/
def BelongsTo (cmd : MorseCmdReq) (cmdSeq : U16) (rsp : MorseCmdResp) : Prop :=
  rsp.hdr.messageId = cmd.messageId ∧ rsp.hdr.hostId &&& morseCmdIidSeqMask = cmdSeq

instance (cmd : MorseCmdReq) (cmdSeq : U16) (rsp : MorseCmdResp) :
    Decidable (BelongsTo cmd cmdSeq rsp) := inferInstanceAs (Decidable (_ ∧ _))

/-- Every response consumed belongs to its command; while no command waits the slot is
empty, and a response that arrives is dropped. -/
structure CmdNotMixedUp (s : CmdState) : Prop where
  consumed : ∀ c ∈ s.consumed, BelongsTo c.cmd c.cmdSeq c.resp
  idle : s.place = .idle → s.rspview = none ∧ ∀ rsp, morseCmdRespProcess s rsp = s

/-- A command leaves nothing behind: when it fails before it is sent, no id is pending and
the slot is empty; when it ends with a response before the last attempt, no id is
pending. -/
def CmdLeavesNothing (s : CmdState) : CmdEvent → Prop
  | .allocFails | .txFails _ =>
    match s.place with
    | .attempt _ _ _ => s.pendingCmdId = 0 ∧ s.rspview = none
    | _ => True
  | .consume =>
    match s.place with
    | .woken cmd _ retry =>
      morseCmdRetries (morseCmdRet cmd s.rspview) retry = false →
        retry + 1 ≠ mmMaxCommandRetry → s.pendingCmdId = 0
    | _ => True
  | _ => True

/-- The command under way owns the pending id and the slot. -/
def CmdOwns (s : CmdState) (cmd : MorseCmdReq) (cmdSeq : U16) (retry : Nat) : Prop :=
  cmdSeq &&& morseCmdIidSeqMask = cmdSeq ∧ retry < mmMaxCommandRetry
    ∧ (s.pendingCmdId ≠ 0 →
        s.pendingCmdId = cmd.messageId ∧ s.pendingCmdHostId &&& morseCmdIidSeqMask = cmdSeq)
    ∧ ∀ rsp ∈ s.rspview, BelongsTo cmd cmdSeq rsp

/-- The invariant. -/
structure CmdInv (s : CmdState) : Prop where
  consumed : ∀ c ∈ s.consumed, BelongsTo c.cmd c.cmdSeq c.resp
  place : match s.place with
    | .idle => s.pendingCmdId = 0 ∧ s.rspview = none
    | .attempt cmd cmdSeq retry | .waiting cmd cmdSeq retry | .woken cmd cmdSeq retry =>
      CmdOwns s cmd cmdSeq retry

theorem morseCmdInit_inv : CmdInv morseCmdInit :=
  ⟨fun _ h => absurd h (by simp [morseCmdInit]), rfl, rfl⟩

variable {s : CmdState}

theorem morseCmdRespProcess_of_none (h : s.pendingCmdId = 0) (rsp : MorseCmdResp) :
    morseCmdRespProcess s rsp = s := by
  have hmatches : morseCmdRespMatches s rsp = false := by
    unfold morseCmdRespMatches
    rw [h]
    simp
  unfold morseCmdRespProcess
  rw [hmatches, if_neg (by simp)]

theorem pendingCmdId_of_dropped (hview : s.rspview = none)
    (h : ∀ rsp, morseCmdRespProcess s rsp = s) : s.pendingCmdId = 0 := by
  by_contra hpending
  let rsp : MorseCmdResp :=
    ⟨⟨morseCmdTypeResp, s.pendingCmdId, 0, s.pendingCmdHostId⟩, 0, sizeofMorseCmdResp⟩
  have hmatches : morseCmdRespMatches s rsp = true := by
    unfold morseCmdRespMatches
    show ((morseCmdTypeResp &&& morseCmdTypeResp != 0) && s.pendingCmdId != 0
      && s.pendingCmdId == s.pendingCmdId
      && (s.pendingCmdHostId &&& morseCmdIidSeqMask) == (s.pendingCmdHostId &&& morseCmdIidSeqMask))
      = true
    rw [show (morseCmdTypeResp &&& morseCmdTypeResp != 0) = true from rfl, Bool.true_and,
      beq_self_eq_true, beq_self_eq_true, Bool.and_true, Bool.and_true]
    exact bne_iff_ne.mpr hpending
  have hview' := congrArg CmdState.rspview (h rsp)
  unfold morseCmdRespProcess at hview'
  rw [if_pos hmatches, hview] at hview'
  exact absurd hview' (by simp)

theorem CmdInv.notMixedUp (h : CmdInv s) : CmdNotMixedUp s := by
  refine ⟨h.consumed, fun hidle => ?_⟩
  have hplace := h.place
  rw [hidle] at hplace
  exact ⟨hplace.2, morseCmdRespProcess_of_none hplace.1⟩

/-! ## The invariant is kept -/

theorem morseCmdHostId_seq {cmdSeq : U16} {retry : Nat}
    (hseq : cmdSeq &&& morseCmdIidSeqMask = cmdSeq) (hretry : retry < mmMaxCommandRetry) :
    morseCmdHostId cmdSeq retry &&& morseCmdIidSeqMask = cmdSeq := by
  have hbits : BitVec.ofNat 16 retry &&& morseCmdIidSeqMask = 0 := by
    have hcases : retry = 0 ∨ retry = 1 ∨ retry = 2 := by
      unfold mmMaxCommandRetry at hretry
      omega
    rcases hcases with rfl | rfl | rfl <;> decide
  unfold morseCmdHostId
  rw [BitVec.and_or_distrib_right, hseq, hbits]
  exact BitVec.or_zero

theorem morseCmdSeq_shift (seq : U16) :
    seq <<< morseCmdIidSeqShift &&& morseCmdIidSeqMask = seq <<< morseCmdIidSeqShift := by
  apply BitVec.eq_of_getLsbD_eq
  intro i hi
  have hmask : ∀ j : Fin 16, morseCmdIidSeqMask.getLsbD j = decide (4 ≤ j.val) := by decide
  rw [BitVec.getLsbD_and, hmask ⟨i, hi⟩]
  unfold morseCmdIidSeqShift
  rw [BitVec.getLsbD_shiftLeft]
  by_cases h : i < 4
  · simp [h]
  · simp [h, Nat.le_of_not_lt h]

theorem CmdInv.resp (h : CmdInv s) (rsp : MorseCmdResp) : CmdInv (morseCmdRespProcess s rsp) := by
  unfold morseCmdRespProcess
  cases hmatches : morseCmdRespMatches s rsp with
  | false => exact h
  | true =>
    rw [if_pos rfl]
    unfold morseCmdRespMatches at hmatches
    simp only [Bool.and_eq_true, beq_iff_eq, bne_iff_ne] at hmatches
    obtain ⟨⟨⟨_, hpending⟩, hid⟩, hseq⟩ := hmatches
    have howns : ∀ {cmd cmdSeq retry}, CmdOwns s cmd cmdSeq retry →
        CmdOwns { s with rspview := some rsp, pendingCmdId := 0, pendingCmdHostId := 0, semb := true }
          cmd cmdSeq retry := by
      intro cmd cmdSeq retry ⟨hcmdSeq, hretry, howner, _⟩
      refine ⟨hcmdSeq, hretry, fun hne => absurd rfl hne, ?_⟩
      intro rsp' hrsp'
      cases hrsp'
      obtain ⟨hcmd, hhost⟩ := howner hpending
      exact ⟨hid.symm.trans hcmd, hseq.symm.trans hhost⟩
    have hplace := h.place
    refine ⟨h.consumed, ?_⟩
    cases hs : s.place with
    | idle =>
      rw [hs] at hplace
      exact absurd hplace.1 hpending
    | attempt cmd cmdSeq retry | waiting cmd cmdSeq retry | woken cmd cmdSeq retry =>
      rw [hs] at hplace
      exact howns hplace

theorem CmdInv.woken (h : CmdInv s) {cmd : MorseCmdReq} {cmdSeq : U16}
    {retry : Nat} (hs : s.place = .woken cmd cmdSeq retry)
    (hends : morseCmdRetries (morseCmdRet cmd s.rspview) retry = false →
      retry + 1 ≠ mmMaxCommandRetry → s.pendingCmdId = 0) :
    CmdInv (morseCmdTxWoken s cmd cmdSeq retry) := by
  have hplace := h.place
  rw [hs] at hplace
  obtain ⟨hcmdSeq, hretry, howner, hview⟩ := hplace
  have hconsumed : ∀ c ∈ s.consumed ++ s.rspview.toList.map (ConsumedResp.mk cmd cmdSeq),
      BelongsTo c.cmd c.cmdSeq c.resp := by
    intro c hc
    rcases List.mem_append.mp hc with hc | hc
    · exact h.consumed c hc
    · obtain ⟨rsp, hrsp, rfl⟩ := List.mem_map.mp hc
      exact hview rsp (Option.mem_toList.mp hrsp)
  unfold morseCmdTxWoken
  dsimp only
  cases hretries : morseCmdRetries (morseCmdRet cmd s.rspview) retry with
  | true =>
    have hmore : retry + 1 < mmMaxCommandRetry := by
      unfold morseCmdRetries at hretries
      exact of_decide_eq_true (Bool.and_eq_true_iff.mp hretries).2
    have hlast : (retry + 1 == mmMaxCommandRetry) = false := by
      apply beq_false_of_ne
      omega
    rw [if_pos rfl, hlast]
    exact ⟨hconsumed, hcmdSeq, hmore, howner, fun _ hrsp => absurd hrsp (by simp)⟩
  | false =>
    rw [if_neg (by simp)]
    refine ⟨hconsumed, ?_, rfl⟩
    show (if retry + 1 == mmMaxCommandRetry then 0 else s.pendingCmdId) = 0
    split
    · rfl
    · rename_i hlast
      exact hends hretries (by simpa using hlast)

theorem cmdStep_inv {s s' : CmdState} {e : CmdEvent} (h : CmdInv s) (hok : CmdLeavesNothing s e)
    (hstep : cmdStep s e = some s') : CmdInv s' := by
  have hplace := h.place
  cases e with
  | start cmd =>
    unfold cmdStep at hstep
    dsimp only at hstep
    split at hstep
    · rename_i hidle
      cases hstep
      rw [hidle] at hplace
      refine ⟨h.consumed, morseCmdSeq_shift _, by decide, fun hne => ?_, fun rsp hrsp => ?_⟩
      · exact absurd hplace.1 hne
      · exact absurd (hplace.2.symm.trans hrsp) (by simp)
    · exact absurd hstep (by simp)
  | allocFails | txFails ret =>
    cases hs : s.place with
    | attempt cmd cmdSeq retry =>
      simp only [cmdStep, hs] at hstep
      simp only [CmdLeavesNothing, hs] at hok
      cases hstep
      exact ⟨h.consumed, hok⟩
    | _ => simp [cmdStep, hs] at hstep
  | sent =>
    cases hs : s.place with
    | attempt cmd cmdSeq retry =>
      simp only [cmdStep, hs] at hstep
      cases hstep
      rw [hs] at hplace
      obtain ⟨hcmdSeq, hretry, _, hview⟩ := hplace
      refine ⟨h.consumed, hcmdSeq, hretry, fun _ => ⟨rfl, ?_⟩, hview⟩
      exact morseCmdHostId_seq hcmdSeq hretry
    | _ => simp [cmdStep, hs] at hstep
  | taken =>
    cases hs : s.place with
    | waiting cmd cmdSeq retry =>
      simp only [cmdStep, hs] at hstep
      split at hstep
      · cases hstep
        rw [hs] at hplace
        exact ⟨h.consumed, hplace⟩
      · exact absurd hstep (by simp)
    | _ => simp [cmdStep, hs] at hstep
  | timeout =>
    cases hs : s.place with
    | waiting cmd cmdSeq retry =>
      simp only [cmdStep, hs] at hstep
      cases hstep
      rw [hs] at hplace
      exact ⟨h.consumed, hplace⟩
    | _ => simp [cmdStep, hs] at hstep
  | consume =>
    cases hs : s.place with
    | woken cmd cmdSeq retry =>
      simp only [cmdStep, hs] at hstep
      simp only [CmdLeavesNothing, hs] at hok
      cases hstep
      exact h.woken hs hok
    | _ => simp [cmdStep, hs] at hstep
  | resp rsp =>
    cases hstep
    exact h.resp rsp

theorem leavesNothing_of_notMixedUp {e : CmdEvent}
    (h : ∀ s', cmdStep s e = some s' → CmdNotMixedUp s') : CmdLeavesNothing s e := by
  have hreturned : ∀ s' : CmdState, s'.place = .idle → cmdStep s e = some s' →
      s'.pendingCmdId = 0 ∧ s'.rspview = none := by
    intro s' hidle hstep
    obtain ⟨hview, hdropped⟩ := (h s' hstep).idle hidle
    exact ⟨pendingCmdId_of_dropped hview hdropped, hview⟩
  cases e with
  | allocFails =>
    unfold CmdLeavesNothing
    cases hs : s.place with
    | attempt cmd cmdSeq retry =>
      exact hreturned (s.ret (-enomem)) rfl (by simp only [cmdStep, hs])
    | _ => trivial
  | txFails ret =>
    unfold CmdLeavesNothing
    cases hs : s.place with
    | attempt cmd cmdSeq retry =>
      exact hreturned (s.ret ret) rfl (by simp only [cmdStep, hs])
    | _ => trivial
  | consume =>
    unfold CmdLeavesNothing
    cases hs : s.place with
    | woken cmd cmdSeq retry =>
      intro hends hlast
      have hstep : cmdStep s .consume = some (morseCmdTxWoken s cmd cmdSeq retry) := by
        simp only [cmdStep, hs]
      have hidle : (morseCmdTxWoken s cmd cmdSeq retry).place = .idle := by
        unfold morseCmdTxWoken
        dsimp only
        rw [hends, if_neg (by simp)]
        rfl
      have hpending := (hreturned _ hidle hstep).1
      unfold morseCmdTxWoken at hpending
      dsimp only at hpending
      rw [hends, if_neg (by simp)] at hpending
      change (if retry + 1 == mmMaxCommandRetry then 0 else s.pendingCmdId) = 0 at hpending
      rw [if_neg (by simpa using hlast)] at hpending
      exact hpending
    | _ => trivial
  | _ => trivial

/-- Of every run: responses are never mixed up exactly when no command leaves its id
pending, or a response in the slot, behind it. -/
theorem cmd_notMixedUp_iff (es : List CmdEvent) :
    Throughout cmdStep CmdNotMixedUp morseCmdInit es
      ↔ Along cmdStep CmdLeavesNothing morseCmdInit es := by
  constructor
  · intro h
    exact h.along fun s e => leavesNothing_of_notMixedUp
  intro h
  have hinv := throughout_of_step (fun _ _ _ hs hok hstep => cmdStep_inv hs hok hstep)
    morseCmdInit_inv h
  exact hinv.mono fun s hs => hs.notMixedUp

/-- Command 1 times out once and cannot be allocated again; its response comes late, and is
consumed by command 2. -/
theorem cmd_mixedUp_allocFails :
    ¬ Throughout cmdStep CmdNotMixedUp morseCmdInit
      [.start ⟨1, false, 0⟩, .sent, .timeout, .consume, .allocFails,
        .resp ⟨⟨morseCmdTypeResp, 1, 4, 0x10⟩, 0, 16⟩,
        .start ⟨2, false, 0⟩, .sent, .taken, .consume] := by
  intro h
  have hconsumed := h.mono fun s hs => hs.consumed
  exact absurd hconsumed (by decide +kernel)

end MmIotEsp32.Driver
