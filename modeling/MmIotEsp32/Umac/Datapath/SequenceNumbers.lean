/-
  MmIotEsp32.Umac.Datapath.SequenceNumbers

  The sequence numbers of the host and those sent to the chip.
-/
import MmIotEsp32.Umac.Datapath.TxPath

namespace MmIotEsp32.Umac.Datapath

open Dot11 Keys Lib

/-! ## The entries of the host -/

/-- The frames that were numbered in a space. -/
def framesIn (space : SeqNumSpace) : List TxRecord → Nat
  | [] => 0
  | .numbered other :: rest => framesIn space rest + if other = space then 1 else 0
  | _ :: rest => framesIn space rest

/-- Every entry counts the frames of its space. -/
def SpacesCount (s : TxData) : Prop :=
  ∀ space, s.txSeqNumSpaces space = BitVec.ofNat 16 (framesIn space s.log)

/-- A step that numbers no frame. -/
structure NumbersNothing (s s' : TxData) : Prop where
  spaces : s'.txSeqNumSpaces = s.txSeqNumSpaces
  frames : ∀ space, framesIn space s'.log = framesIn space s.log

variable {s s' : TxData}

theorem NumbersNothing.spacesCount (h : NumbersNothing s s') (hs : SpacesCount s) :
    SpacesCount s' := by
  intro space
  rw [h.spaces, h.frames]
  exact hs space

theorem NumbersNothing.trans {s s' s'' : TxData} (h : NumbersNothing s s')
    (h' : NumbersNothing s' s'') : NumbersNothing s s'' :=
  ⟨h'.spaces.trans h.spaces, fun space => (h'.frames space).trans (h.frames space)⟩

theorem framesIn_calls (space : SeqNumSpace) (calls : List MmdrvKeyCall) (log : List TxRecord) :
    framesIn space (calls.map .driverKey ++ log) = framesIn space log := by
  induction calls with
  | nil => rfl
  | cons call calls ih => exact ih

theorem takeSequenceNumber_spacesCount {s : TxData} (hs : SpacesCount s) (space : SeqNumSpace) :
    SpacesCount (takeSequenceNumber s space).1 := by
  intro other
  show Function.update s.txSeqNumSpaces space _ other
    = BitVec.ofNat 16 (framesIn other s.log + if space = other then 1 else 0)
  rw [Function.update_apply]
  by_cases hsame : other = space
  · rw [if_pos hsame, if_pos hsame.symm, hs space, hsame]
    exact (BitVec.ofNat_add ..).symm
  · rw [if_neg hsame, if_neg (Ne.symm hsame)]
    exact hs other

theorem mmdrvTxFrame_numbersNothing (s : TxData) (frame : TxFrame) :
    NumbersNothing s (mmdrvTxFrame s frame) := ⟨rfl, fun _ => rfl⟩

theorem umacKeysIncrementTxSeq_numbersNothing {keyId : Int}
    (h : umacKeysIncrementTxSeq s keyId = some s') : NumbersNothing s s' := by
  obtain ⟨keys, -, rfl⟩ := Option.map_eq_some_iff.mp h
  exact ⟨rfl, fun _ => rfl⟩

theorem submitMgmtFrame_numbersNothing (s : TxData) (frame : MgmtFrame) (sequenceNumber : U16)
    (keyId : Int) : NumbersNothing s (submitMgmtFrame s frame sequenceNumber keyId) := by
  unfold submitMgmtFrame
  split
  · exact ⟨rfl, fun _ => rfl⟩
  · exact mmdrvTxFrame_numbersNothing s _

theorem submitDataFrame_numbersNothing {sequenceNumber : U16} {keyId : Int}
    (h : submitDataFrame s sequenceNumber keyId = some s') : NumbersNothing s s' := by
  unfold submitDataFrame at h
  dsimp only at h
  split at h
  · obtain ⟨s₁, hcount, rfl⟩ := Option.map_eq_some_iff.mp h
    exact (umacKeysIncrementTxSeq_numbersNothing hcount).trans (mmdrvTxFrame_numbersNothing ..)
  · cases h
    exact mmdrvTxFrame_numbersNothing ..

/-- What is kept when a number is taken and when a frame is handed on. -/
structure KeptByTx (P : TxData → Prop) : Prop where
  take : ∀ {s} space, P s → P (takeSequenceNumber s space).1
  plain : ∀ {s} frame n, P s → P (submitMgmtFrame s frame n (-1))
  robust : ∀ {s s' keyId} frame n, P s → umacKeysIncrementTxSeq s keyId = some s' →
    P (submitMgmtFrame s' frame n keyId)
  data : ∀ {s s' n keyId}, P s → submitDataFrame s n keyId = some s' → P s'

namespace KeptByTx

variable {P : TxData → Prop} (hP : KeptByTx P)
include hP

theorem mgmtFrame (hs : P s) {frame : MgmtFrame} (h : umacDatapathTxMgmtFrame s frame = some s') :
    P s' := by
  have htaken := hP.take .baseline hs
  unfold umacDatapathTxMgmtFrame at h
  generalize takeSequenceNumber s .baseline = taken at h htaken
  obtain ⟨s₁, n⟩ := taken
  dsimp only at h htaken
  split at h
  · split at h
    · cases h
      exact htaken
    split at h
    · obtain ⟨s₂, hcount, rfl⟩ := Option.map_eq_some_iff.mp h
      exact hP.robust frame n htaken hcount
    · cases h
      exact htaken
  · cases h
    exact hP.plain frame n htaken

theorem numberDataFrame (hs : P s) {frame : DataFrame} {keyId : Int}
    (h : numberDataFrame s frame keyId = some s') : P s' := by
  have htaken := hP.take frame.space hs
  unfold Datapath.numberDataFrame at h
  generalize takeSequenceNumber s frame.space = taken at h htaken
  obtain ⟨s₁, n⟩ := taken
  dsimp only at h htaken
  obtain ⟨s₂, haggr, hsubmit⟩ := Option.bind_eq_some_iff.mp h
  have hs₂ : P s₂ := by
    split at haggr
    · unfold umacDatapathAggrCheck at haggr
      split at haggr
      · cases haggr
        exact htaken
      · exact hP.mgmtFrame htaken haggr
    · cases haggr
      exact htaken
  exact hP.data hs₂ hsubmit

theorem txFrame (hs : P s) {frame : DataFrame} (h : umacDatapathProcessTxFrame s frame = some s') :
    P s' := by
  unfold umacDatapathProcessTxFrame at h
  split at h
  · cases h
    exact hs
  split at h
  · dsimp only at h
    generalize connectionKeysGetActiveKeyId s.keys
      (if mmMacAddrIsMulticast frame.ra then .group else .pairwise) = keyId at h
    split at h
    · obtain ⟨-, -, hnumber⟩ := Option.bind_eq_some_iff.mp h
      exact hP.numberDataFrame hs hnumber
    split at h
    · cases h
      exact hs
    · exact hP.numberDataFrame hs h
  · exact hP.numberDataFrame hs h

end KeptByTx

theorem keptByTx_spacesCount : KeptByTx SpacesCount where
  take space hs := takeSequenceNumber_spacesCount hs space
  plain _ _ hs := (submitMgmtFrame_numbersNothing ..).spacesCount hs
  robust _ _ hs hcount := ((umacKeysIncrementTxSeq_numbersNothing hcount).trans
    (submitMgmtFrame_numbersNothing ..)).spacesCount hs
  data hs h := (submitDataFrame_numbersNothing h).spacesCount hs

theorem txStep_spacesCount {e : TxEvent} (hs : SpacesCount s)
    (h : txStep s e = some s') : SpacesCount s' := by
  cases e with
  | installKey key =>
    cases h
    have hnothing : NumbersNothing s (installKey s key) := by
      refine ⟨rfl, fun space => ?_⟩
      show framesIn space (List.map _ _ ++ _) = _
      rw [framesIn_calls]
      split <;> rfl
    exact hnothing.spacesCount hs
  | uninstallKey keyId =>
    obtain ⟨w, -, rfl⟩ := Option.map_eq_some_iff.mp h
    exact NumbersNothing.spacesCount (s := s) ⟨rfl, fun space => framesIn_calls space _ _⟩ hs
  | data frame => exact keptByTx_spacesCount.txFrame hs h
  | mgmt frame => exact keptByTx_spacesCount.mgmtFrame hs h
  | mgmtAp frame =>
    cases h
    exact (submitMgmtFrame_numbersNothing ..).spacesCount
      (takeSequenceNumber_spacesCount hs .baseline)
  | qosNull =>
    cases h
    exact (mmdrvTxFrame_numbersNothing ..).spacesCount
      (takeSequenceNumber_spacesCount hs .qosNull)
  | reinstallKeys driverOk =>
    cases h
    exact NumbersNothing.spacesCount (s := s) ⟨rfl, fun space => framesIn_calls space _ _⟩ hs
  | handleHwRestarted =>
    cases h
    exact NumbersNothing.spacesCount (s := s) ⟨rfl, fun _ => rfl⟩ hs

theorem throughout_spacesCount (es : List TxEvent) :
    Throughout txStep SpacesCount txDataInit es :=
  throughout_of_invariant (fun _ _ _ hs h => txStep_spacesCount hs h) (fun _ => rfl) es

/-! ## The command to the chip -/

/-- The command carries the entry of every space. -/
structure CarriesSpaces (req : MorseCmdReqSequenceNumberSpaces) (spaces : SeqNumSpace → U16) :
    Prop where
  baseline : req.baseline = spaces .baseline
  qosNull : req.qosNull = spaces .qosNull
  tids : ∀ t : Fin (mmwlanMaxQosTid + 1),
    req.individuallyAddrQosData ⟨t.val, Nat.lt_trans t.isLt (by decide)⟩ = spaces (.tid t)

theorem octets_of_word (word : U16) :
    ((word >>> (8 : Nat)).setWidth 8 ++ (word >>> (0 : Nat)).setWidth 8 : U16) = word := by
  apply BitVec.eq_of_toNat_eq
  have hlt := word.isLt
  rw [BitVec.toNat_append, BitVec.toNat_setWidth, BitVec.toNat_setWidth, BitVec.toNat_ushiftRight,
    BitVec.toNat_ushiftRight, ← Nat.shiftLeft_add_eq_or_of_lt (by omega),
    Nat.shiftRight_eq_div_pow, Nat.shiftRight_eq_div_pow, Nat.shiftLeft_eq]
  omega

theorem memcpyWords_eq (src : Nat → U16) (n j : Nat) :
    memcpyWords (fun _ => 0) src n j
      = if 2 * j + 1 < n then src j
        else if 2 * j < n then (0 : U8) ++ ((src j >>> (0 : Nat)).setWidth 8 : U8) else 0 := by
  have hodd : octetOf src (2 * j + 1) = (src j >>> (8 : Nat)).setWidth 8 := by
    unfold octetOf
    rw [show (2 * j + 1) / 2 = j by omega, show 8 * ((2 * j + 1) % 2) = 8 by omega]
  have heven : octetOf src (2 * j) = (src j >>> (0 : Nat)).setWidth 8 := by
    unfold octetOf
    rw [show 2 * j / 2 = j by omega, show 8 * (2 * j % 2) = 0 by omega]
  have hzero : ∀ i, octetOf (fun _ => 0) i = 0 := by
    intro i
    show ((0 : U16) >>> (8 * (i % 2))).setWidth 8 = (0 : U8)
    rw [show (0 : U16) = 0#16 from rfl, BitVec.zero_ushiftRight]
    rfl
  unfold memcpyWords
  dsimp only
  rw [hodd, heven, hzero, hzero]
  by_cases hall : 2 * j + 1 < n
  · rw [if_pos hall, if_pos (by omega), if_pos hall]
    exact octets_of_word (src j)
  · rw [if_neg hall, if_neg hall]
    split <;> rfl

theorem lowOctet_eq_iff (word : U16) :
    ((0 : U8) ++ ((word >>> (0 : Nat)).setWidth 8 : U8) : U16) = word ↔ word.toNat < 256 := by
  have hlow : ((0 : U8) ++ ((word >>> (0 : Nat)).setWidth 8 : U8) : U16).toNat
      = word.toNat % 256 := by
    rw [BitVec.toNat_append, BitVec.toNat_setWidth, BitVec.toNat_ushiftRight,
      ← Nat.shiftLeft_add_eq_or_of_lt (by omega), Nat.shiftRight_eq_div_pow, Nat.shiftLeft_eq]
    simp
  constructor
  · intro h
    rw [h] at hlow
    omega
  intro h
  apply BitVec.eq_of_toNat_eq
  rw [hlow]
  omega

theorem carriesSpaces_iff (spaces : SeqNumSpace → U16) :
    CarriesSpaces (mmdrvSetSeqNumSpaces spaces) spaces
      ↔ (spaces (.tid 3)).toNat < 256 ∧ ∀ t : Fin (mmwlanMaxQosTid + 1), 3 < t.val →
        spaces (.tid t) = 0 := by
  have hword : ∀ t : Fin (mmwlanMaxQosTid + 1), spacesArray spaces t.val = spaces (.tid t) := by
    intro t
    unfold spacesArray
    rw [dif_pos t.isLt]
  have hcopy : ∀ t : Fin (mmwlanMaxQosTid + 1),
      (mmdrvSetSeqNumSpaces spaces).individuallyAddrQosData
          ⟨t.val, Nat.lt_trans t.isLt (by decide)⟩
        = if 2 * t.val + 1 < 7 then spaces (.tid t)
          else if 2 * t.val < 7 then
            (0 : U8) ++ ((spaces (.tid t) >>> (0 : Nat)).setWidth 8 : U8)
          else 0 := by
    intro t
    rw [← hword t]
    exact memcpyWords_eq (spacesArray spaces) 7 t.val
  constructor
  · intro h
    refine ⟨?_, fun t ht => ?_⟩
    · have htid := h.tids 3
      rw [hcopy] at htid
      exact (lowOctet_eq_iff _).mp htid
    · have htid := h.tids t
      rw [hcopy, if_neg (by omega), if_neg (by omega)] at htid
      exact htid.symm
  rintro ⟨hthree, hmore⟩
  refine ⟨rfl, rfl, fun t => ?_⟩
  rw [hcopy]
  by_cases hbelow : 2 * t.val + 1 < 7
  · rw [if_pos hbelow]
  rw [if_neg hbelow]
  by_cases hsplit : 2 * t.val < 7
  · have ht : t = 3 := Fin.ext (by show t.val = 3; omega)
    rw [if_pos hsplit, ht]
    exact (lowOctet_eq_iff _).mpr hthree
  · rw [if_neg hsplit]
    exact (hmore t (by omega)).symm

/-! ## Restarts -/

/-- After every history of a STA record, the command of a restart carries all spaces if and only
if fewer than 256 frames were numbered for TID 3 and none for the TIDs above it, up to the size
of the counters. -/
theorem seq_num_spaces_carried_iff (es : List TxEvent) (s : TxData)
    (hrun : runFrom txStep txDataInit es = some s) :
    (∃ req, (umacDatapathHandleHwRestarted s).log = .seqNumSpaces req :: s.log
        ∧ CarriesSpaces req s.txSeqNumSpaces)
      ↔ framesIn (.tid 3) s.log % 2 ^ 16 < 2 ^ 8
        ∧ ∀ t : Fin (mmwlanMaxQosTid + 1), 3 < t.val →
          framesIn (.tid t) s.log % 2 ^ 16 = 0 := by
  have hcount : SpacesCount s := (throughout_spacesCount es).of_runFrom hrun
  have hcommand : (∃ req, (umacDatapathHandleHwRestarted s).log = .seqNumSpaces req :: s.log
      ∧ CarriesSpaces req s.txSeqNumSpaces)
        ↔ CarriesSpaces (mmdrvSetSeqNumSpaces s.txSeqNumSpaces) s.txSeqNumSpaces := by
    constructor
    · rintro ⟨req, hlog, h⟩
      cases hlog
      exact h
    · exact fun h => ⟨_, rfl, h⟩
  rw [hcommand, carriesSpaces_iff, hcount, BitVec.toNat_ofNat]
  refine and_congr Iff.rfl (forall_congr' fun t => imp_congr Iff.rfl ?_)
  rw [hcount]
  constructor
  · intro h
    have hnat := congrArg BitVec.toNat h
    rw [BitVec.toNat_ofNat] at hnat
    exact hnat
  intro h
  apply BitVec.eq_of_toNat_eq
  rw [BitVec.toNat_ofNat, h]
  rfl

/-- A data frame to the access point of an open network. -/
def openDataFrame (tid : Fin (mmwlanMaxQosTid + 1)) : DataFrame where
  ra := fun _ => 0x02
  ethertype := 0x0800
  enc := .enabled
  tid := tid
  securityType := .open
  addbaReq := none

theorem seq_num_spaces_carried_iff_one_frame :
    ∃ s, runFrom txStep txDataInit [.data (openDataFrame 0)] = some s
      ∧ ((∃ req, (umacDatapathHandleHwRestarted s).log = .seqNumSpaces req :: s.log
          ∧ CarriesSpaces req s.txSeqNumSpaces)
        ↔ framesIn (.tid 3) s.log % 2 ^ 16 < 2 ^ 8
          ∧ ∀ t : Fin (mmwlanMaxQosTid + 1), 3 < t.val →
            framesIn (.tid t) s.log % 2 ^ 16 = 0) :=
  ⟨_, rfl, seq_num_spaces_carried_iff [.data (openDataFrame 0)] _ rfl⟩

/-- One frame of TID 4, and the chip is told to start again at 0. -/
theorem seq_num_spaces_lost :
    ∃ s, runFrom txStep txDataInit [.data (openDataFrame 4)] = some s
      ∧ ¬ ∃ req, (umacDatapathHandleHwRestarted s).log = .seqNumSpaces req :: s.log
        ∧ CarriesSpaces req s.txSeqNumSpaces := by
  refine ⟨_, rfl, ?_⟩
  rintro ⟨req, hlog, h⟩
  cases hlog
  exact absurd (h.tids 4) (by decide)

end MmIotEsp32.Umac.Datapath
