/-
  MmIotEsp32.Umac.Ba.BaData

  Block-ack sessions and what the data path asks of them (`umac/ba/umac_ba_data.h`,
  and the accessors at the end of `umac/ba/umac_ba.c`).
-/
import Mathlib.Logic.Function.Basic
import MmIotEsp32.Common.Mmosal

namespace MmIotEsp32.Umac.Ba

open Function

/-! ## Sessions -/

def umacBaMaxSessions : Nat := 6

theorem umacBaMaxSessions_pos : 0 < umacBaMaxSessions := by decide

inductive UmacBaStatus where
  | disabled
  | requested
  | refused
  | success
  deriving Repr, DecidableEq

structure UmacBaSession where
  status : UmacBaStatus
  dialogToken : U8
  tid : U8
  bufferSize : U16
  timeout : U16
  startingSeqCtrl : U16
  attemptBackoff : U32
  nextExpectedRxSeqNum : U16
  deriving DecidableEq

/-- A session cleared by `memset`. -/
def UmacBaSession.zero : UmacBaSession where
  status := .disabled
  dialogToken := 0
  tid := 0
  bufferSize := 0
  timeout := 0
  startingSeqCtrl := 0
  attemptBackoff := 0
  nextExpectedRxSeqNum := 0

/-- A TID that passed the check against `UMAC_BA_MAX_SESSIONS`. -/
abbrev BaTid := Fin umacBaMaxSessions

structure UmacBaStaData where
  originator : BaTid → UmacBaSession
  recipient : BaTid → UmacBaSession

/-- A `struct umac_ba_session *`. -/
inductive UmacBaSessionPtr where
  | originator (tid : BaTid)
  | recipient (tid : BaTid)
  deriving DecidableEq

/-- `umac_ba_deinit`, and a new STA record. -/
def umacBaDeinit : UmacBaStaData where
  originator := fun _ => UmacBaSession.zero
  recipient := fun _ => UmacBaSession.zero

/-- The session arrays' index of a valid TID. -/
def baTid? (tid : U8) : Option BaTid :=
  if h : tid.toNat < umacBaMaxSessions then some ⟨tid.toNat, h⟩ else none

theorem baTid?_eq_some {tid : U8} {i : BaTid} : baTid? tid = some i ↔ tid.toNat = i.val := by
  unfold baTid?
  constructor
  · intro h
    split at h
    · cases h
      rfl
    · exact absurd h (by simp)
  intro h
  have hlt : tid.toNat < umacBaMaxSessions := h ▸ i.isLt
  rw [dif_pos hlt]
  exact congrArg some (Fin.ext h)

def UmacBaStaData.session (data : UmacBaStaData) : UmacBaSessionPtr → UmacBaSession
  | .originator tid => data.originator tid
  | .recipient tid => data.recipient tid

def UmacBaStaData.setSession (data : UmacBaStaData) (session : UmacBaSession) :
    UmacBaSessionPtr → UmacBaStaData
  | .originator tid => { data with originator := update data.originator tid session }
  | .recipient tid => { data with recipient := update data.recipient tid session }

/-! ## What the data path asks -/

/-- `umac_ba_get_reorder_buffer_size`; `none` is its assertion. -/
def umacBaGetReorderBufferSize (data : UmacBaStaData) (tid : U8) : Option U8 :=
  match baTid? tid with
  | none => some 0
  | some i =>
    let session := data.recipient i
    if session.bufferSize.toNat ≤ 0xff then some (session.bufferSize.setWidth 8) else none

/-- `umac_ba_get_expected_rx_seq_num`; `none` is -1. -/
def umacBaGetExpectedRxSeqNum (data : UmacBaStaData) (tid : U8) : Option U16 :=
  match baTid? tid with
  | none => none
  | some i =>
    let session := data.recipient i
    if session.status ≠ .success then none else some session.nextExpectedRxSeqNum

def umacBaSetExpectedRxSeqNum (data : UmacBaStaData) (tid : U8) (seqNum : U16) : UmacBaStaData :=
  match baTid? tid with
  | none => data
  | some i =>
    let session := data.recipient i
    if session.status ≠ .success then data
    else data.setSession { session with nextExpectedRxSeqNum := seqNum } (.recipient i)

/-! ## The window of a session -/

theorem umacBaSetExpectedRxSeqNum_recipient (data : UmacBaStaData) (tid : U8) (seqNum : U16)
    (i : BaTid) :
    (umacBaSetExpectedRxSeqNum data tid seqNum).recipient i
      = { data.recipient i with
          nextExpectedRxSeqNum :=
            if baTid? tid = some i ∧ (data.recipient i).status = .success then seqNum
            else (data.recipient i).nextExpectedRxSeqNum } := by
  unfold umacBaSetExpectedRxSeqNum
  cases htid : baTid? tid with
  | none => simp
  | some j =>
    dsimp only
    by_cases hstatus : (data.recipient j).status = .success
    · rw [if_neg (by simp [hstatus])]
      dsimp only [UmacBaStaData.setSession]
      by_cases hij : i = j
      · rw [hij, update_self, if_pos ⟨rfl, hstatus⟩]
      · have hji : ¬ (some j = some i ∧ (data.recipient i).status = .success) :=
          fun h => hij (Option.some.inj h.1).symm
        rw [update_of_ne hij, if_neg hji]
    rw [if_pos hstatus]
    have hji : ¬ (some j = some i ∧ (data.recipient i).status = .success) := by
      intro h
      obtain rfl := Option.some.inj h.1
      exact hstatus h.2
    rw [if_neg hji]

theorem umacBaSetExpectedRxSeqNum_originator (data : UmacBaStaData) (tid : U8) (seqNum : U16) :
    (umacBaSetExpectedRxSeqNum data tid seqNum).originator = data.originator := by
  unfold umacBaSetExpectedRxSeqNum
  cases baTid? tid with
  | none => rfl
  | some i =>
    dsimp only
    split <;> rfl

end MmIotEsp32.Umac.Ba
