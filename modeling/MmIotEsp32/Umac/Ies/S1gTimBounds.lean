/-
  MmIotEsp32.Umac.Ies.S1gTimBounds

  The octets that the TIM parser uses, and how long it runs.
-/
import MmIotEsp32.Umac.Ies.IeSearch
import MmIotEsp32.Umac.Ies.S1gTimDecode

namespace MmIotEsp32.Umac.Ies

/-! ## A parser that may not read everywhere -/

/-- `struct tim_parse_state`, with the offset of the block in the element. -/
structure TimCursor where
  pageIndex : Nat
  pageSlice : Nat
  blockEncodingMode : U8
  inverseBitmap : Bool
  blockOffset : Nat
  block : Nat
  dataLengthRemaining : Int

namespace TimCursor

/-- The cursor moved behind `len` octets. -/
def advance (c : TimCursor) (len : Nat) : TimCursor :=
  { c with block := c.block + len, dataLengthRemaining := c.dataLengthRemaining - len }

/-- The state of the parser, with a pointer to the block in the element `el`. -/
def toState (c : TimCursor) (el : BytePtr) : TimParseState :=
  { pageIndex := c.pageIndex
    pageSlice := c.pageSlice
    blockEncodingMode := c.blockEncodingMode
    inverseBitmap := c.inverseBitmap
    blockOffset := c.blockOffset
    block := el.add c.block
    dataLengthRemaining := c.dataLengthRemaining }

theorem toState_advance (c : TimCursor) (el : BytePtr) (len : Nat) :
    (c.advance len).toState el = (c.toState el).advance len := by
  have hblock : el.add (c.block + len) = (el.add c.block).add len := by
    funext i
    exact congrArg el (Nat.add_assoc c.block len i)
  unfold toState advance TimParseState.advance
  rw [hblock]

end TimCursor

section Read

-- An octet of the element, where it may be read.
variable (read : Nat → Option U8)

/-- `ie_s1g_tim_block_bitmap_has_aid`; here and below `none` is an octet that may not be
read. -/
def ieS1gTimBlockBitmapHasAidWith (c : TimCursor) (aid : U16) : Option (TimCursor × Bool) :=
  (read c.block).bind fun blockBitmap =>
    let next := c.advance (1 + builtinPopcount blockBitmap)
    if next.dataLengthRemaining < 0 then some (next, false)
    else if aidPageIndex aid != c.pageIndex then some (next, false)
    else if aidBlockOffset aid != c.blockOffset then some (next, false)
    else
      let posM := aidBlockModeM aid
      if blockBitmap &&& (1#8 <<< posM) == 0 then some (next, c.inverseBitmap)
      else
        (read (c.block + (1 + subblocksBelow posM blockBitmap))).map fun subblock =>
          let result := subblock &&& (1#8 <<< aidBlockModeQ aid) != 0
          (next, if c.inverseBitmap then !result else result)

/-- `ie_s1g_tim_single_aid_has_aid`. -/
def ieS1gTimSingleAidHasAidWith (c : TimCursor) (aid : U16) : Option (TimCursor × Bool) :=
  (read c.block).map fun singleAid =>
    let next := c.advance 1
    (next,
      if next.dataLengthRemaining < 0 then false
      else if aidBlockOffset aid != c.blockOffset then false
      else if aidPageIndex aid != c.pageIndex then false
      else
        let result := aidSingleModeAid aid == singleAid.toNat
        if c.inverseBitmap then !result else result)

/-- `ie_s1g_tim_olb_has_aid`. -/
def ieS1gTimOlbHasAidWith (c : TimCursor) (aid : U16) : Option (TimCursor × Bool) :=
  (read c.block).bind fun octet =>
    let length := octet.toNat
    let next := c.advance (1 + length)
    if next.dataLengthRemaining < 0 then some (next, false)
    else if aidPageIndex aid != c.pageIndex then some (next, false)
    else
      let numBlocks := (fastRoundUp (BitVec.ofNat 32 (length * 8))
        (BitVec.ofNat 32 dot11TimBlockSize)).toNat / dot11TimBlockSize
      let aidBlockNum := aidBlockOffset aid
      if aidBlockNum < c.blockOffset || c.blockOffset + numBlocks ≤ aidBlockNum then
        some (next, false)
      else
        let posM := (aidBlockNum - c.blockOffset) * 8 + aidOlbModeMMod8 aid
        if length ≤ posM then some (next, c.inverseBitmap)
        else
          (read (c.block + (1 + posM))).map fun subblock =>
            (next,
              if subblock &&& (1#8 <<< aidOlbModeQ aid) == 0 then c.inverseBitmap
              else !c.inverseBitmap)

/-- A delta AID out of one octet. -/
def adeDeltaAidWith (deltaAids wordLength offset : Nat) : Option U8 :=
  (read (deltaAids + offset / 8)).map fun octet : U8 =>
    let shift := offset % 8
    let deltaAid := octet >>> shift
    let deltaAid := if 8 < wordLength + shift then deltaAid ||| (octet <<< (8 - shift)) else deltaAid
    deltaAid &&& BitVec.ofNat 8 ((1 <<< wordLength) - 1)

/-- The loop of `ie_s1g_tim_ade_has_aid`. -/
def adeLoopWith (deltaAids ewl length : Nat) (aid : U16) (currentAid offset : Nat) :
    Option (Option Nat) :=
  let wordLength := ewl + 1
  if offset + wordLength ≤ length * 8 then
    match adeDeltaAidWith read deltaAids wordLength offset with
    | none => none
    | some deltaAid =>
      if deltaAid == 0 then some (some currentAid)
      else if currentAid + deltaAid.toNat == aid.toNat then some none
      else
        adeLoopWith deltaAids ewl length aid (currentAid + deltaAid.toNat)
          (offset + wordLength)
  else some (some currentAid)
termination_by length * 8 - offset

/-- The AIDs of `ie_s1g_tim_ade_has_aid`, first and following. -/
def adeWalkWith (deltaAids ewl length : Nat) (aid : U16) (startAid : Nat) : Option (Option Nat) :=
  if length != 0 then
    (read deltaAids).bind fun octet =>
      let first := octet &&& BitVec.ofNat 8 ((1 <<< (ewl + 1)) - 1)
      let currentAid := startAid + first.toNat
      if currentAid == aid.toNat then some none
      else adeLoopWith read deltaAids ewl length aid currentAid (ewl + 1)
  else some (some startAid)

/-- `ie_s1g_tim_ade_has_aid`. -/
def ieS1gTimAdeHasAidWith (c : TimCursor) (aid : U16) : Option (TimCursor × Bool) :=
  (read c.block).bind fun ade =>
    let startAid := c.pageIndex * 2048 + c.blockOffset * 64
    let ewl := (dot11TimAdeGetEwl ade).toNat
    let length := (dot11TimAdeGetLength ade).toNat
    let next := c.advance (1 + length)
    if next.dataLengthRemaining < 0 then some (next, false)
    else
      (adeWalkWith read (c.block + 1) ewl length aid startAid).map fun walked =>
        (next,
          match walked with
          | none => !c.inverseBitmap
          | some currentAid =>
            if c.inverseBitmap then
              let endAid := (fastRoundUp (BitVec.ofNat 32 (currentAid + 1))
                (BitVec.ofNat 32 dot11TimBlockSize)).toNat
              decide (startAid ≤ aid.toNat) && decide (aid.toNat < endAid)
            else false)

/-- The control octet of a block is read. -/
def TimCursor.readBlockHdrWith (c : TimCursor) : Option TimCursor :=
  (read c.block).map fun hdr =>
    { c with
      blockEncodingMode := dot11TimBlockHdrGetBlockEncoding hdr
      inverseBitmap := dot11TimBlockHdrGetInverseBitmap hdr != 0
      blockOffset := (dot11TimBlockHdrGetBlockOffset hdr).toNat }.advance 1

/-- The `switch` of `ie_s1g_tim_has_aid`; the inner `none` is its assertion. -/
def timBlockHasAidWith (c : TimCursor) (aid : U16) : Option (Option (TimCursor × Bool)) :=
  if c.blockEncodingMode == dot11TimBlockEncodingBlockBitmap then
    (ieS1gTimBlockBitmapHasAidWith read c aid).map some
  else if c.blockEncodingMode == dot11TimBlockEncodingSingleAid then
    (ieS1gTimSingleAidHasAidWith read c aid).map some
  else if c.blockEncodingMode == dot11TimBlockEncodingOlb then
    (ieS1gTimOlbHasAidWith read c aid).map some
  else if c.blockEncodingMode == dot11TimBlockEncodingAde then
    (ieS1gTimAdeHasAidWith read c aid).map some
  else some none

/-- The cursor stands behind the first octet of `c`, at least. -/
def TimCursor.Behind (c next : TimCursor) : Prop := ∃ len, next = c.advance (1 + len)

variable {c next : TimCursor}

theorem TimCursor.Behind.lt (h : c.Behind next) :
    next.dataLengthRemaining < c.dataLengthRemaining := by
  obtain ⟨len, rfl⟩ := h
  show c.dataLengthRemaining - ((1 + len : Nat) : Int) < c.dataLengthRemaining
  omega

variable {found : Bool} {aid : U16}

theorem blockBitmapWith_behind {read : Nat → Option U8}
    (h : ieS1gTimBlockBitmapHasAidWith read c aid = some (next, found)) : c.Behind next := by
  unfold ieS1gTimBlockBitmapHasAidWith at h
  obtain ⟨blockBitmap, -, h⟩ := Option.bind_eq_some_iff.mp h
  refine ⟨builtinPopcount blockBitmap, ?_⟩
  dsimp only at h
  split at h
  · exact (congrArg Prod.fst (Option.some.inj h)).symm
  split at h
  · exact (congrArg Prod.fst (Option.some.inj h)).symm
  split at h
  · exact (congrArg Prod.fst (Option.some.inj h)).symm
  split at h
  · exact (congrArg Prod.fst (Option.some.inj h)).symm
  · obtain ⟨subblock, -, h⟩ := Option.map_eq_some_iff.mp h
    exact (congrArg Prod.fst h).symm

theorem singleAidWith_behind {read : Nat → Option U8}
    (h : ieS1gTimSingleAidHasAidWith read c aid = some (next, found)) : c.Behind next := by
  obtain ⟨singleAid, -, h⟩ := Option.map_eq_some_iff.mp h
  exact ⟨0, (congrArg Prod.fst h).symm⟩

theorem olbWith_behind {read : Nat → Option U8}
    (h : ieS1gTimOlbHasAidWith read c aid = some (next, found)) : c.Behind next := by
  unfold ieS1gTimOlbHasAidWith at h
  obtain ⟨octet, -, h⟩ := Option.bind_eq_some_iff.mp h
  refine ⟨octet.toNat, ?_⟩
  dsimp only at h
  split at h
  · exact (congrArg Prod.fst (Option.some.inj h)).symm
  split at h
  · exact (congrArg Prod.fst (Option.some.inj h)).symm
  split at h
  · exact (congrArg Prod.fst (Option.some.inj h)).symm
  split at h
  · exact (congrArg Prod.fst (Option.some.inj h)).symm
  · obtain ⟨subblock, -, h⟩ := Option.map_eq_some_iff.mp h
    exact (congrArg Prod.fst h).symm

theorem adeWith_behind {read : Nat → Option U8}
    (h : ieS1gTimAdeHasAidWith read c aid = some (next, found)) : c.Behind next := by
  unfold ieS1gTimAdeHasAidWith at h
  obtain ⟨ade, -, h⟩ := Option.bind_eq_some_iff.mp h
  refine ⟨(dot11TimAdeGetLength ade).toNat, ?_⟩
  dsimp only at h
  split at h
  · exact (congrArg Prod.fst (Option.some.inj h)).symm
  · obtain ⟨walked, -, h⟩ := Option.map_eq_some_iff.mp h
    exact (congrArg Prod.fst h).symm

theorem timBlockHasAidWith_behind {read : Nat → Option U8}
    (h : timBlockHasAidWith read c aid = some (some (next, found))) : c.Behind next := by
  have hmode : ∀ {mode : Option (TimCursor × Bool)}, mode.map some = some (some (next, found)) →
      mode = some (next, found) := by
    intro mode hmode
    obtain ⟨r, hr, heq⟩ := Option.map_eq_some_iff.mp hmode
    rw [hr, heq]
  unfold timBlockHasAidWith at h
  split at h
  · exact blockBitmapWith_behind (hmode h)
  split at h
  · exact singleAidWith_behind (hmode h)
  split at h
  · exact olbWith_behind (hmode h)
  · split at h
    · exact adeWith_behind (hmode h)
    · cases h

/-- The loop of `ie_s1g_tim_has_aid`. -/
def timBlocksLoopWith (c : TimCursor) (aid : U16) : Option (Option Bool) :=
  if 1 < c.dataLengthRemaining then
    match _hread : c.readBlockHdrWith read with
    | none => none
    | some state =>
      match _h : timBlockHasAidWith read state aid with
      | none => none
      | some none => some none
      | some (some (_, true)) => some (some true)
      | some (some (next, false)) => timBlocksLoopWith next aid
  else some (some false)
termination_by c.dataLengthRemaining.toNat
decreasing_by
  have hnext := (timBlockHasAidWith_behind _h).lt
  obtain ⟨hdr, -, hstate⟩ := Option.map_eq_some_iff.mp _hread
  have hread : state.dataLengthRemaining = c.dataLengthRemaining - 1 := by
    rw [← hstate]
    rfl
  omega

/-- `ie_s1g_tim_has_aid`. -/
def ieS1gTimHasAidWith (aid : U16) : Option (Option Bool) :=
  (read 1).bind fun len =>
    let blockInfoLen : Int := len.toNat - (sizeofDot11IeTim - ieSizeofHeader)
    if blockInfoLen ≤ 0 then some (some false)
    else
      (read 4).bind fun bitmapControl =>
        let pageIndex := (dot11TimBitmapCtrlGetPageIndex bitmapControl).toNat
        let pageSlice := (dot11TimBitmapCtrlGetPageSliceNum bitmapControl).toNat
        if decide (0 < pageSlice) && pageSlice != 31 then some (some false)
        else
          timBlocksLoopWith read
            { pageIndex := pageIndex
              pageSlice := pageSlice
              blockEncodingMode := 0
              inverseBitmap := false
              blockOffset := 0
              block := sizeofDot11IeTim
              dataLengthRemaining := blockInfoLen } aid

end Read

/-! ## What remains is enough -/

/-- The octets that remain may be read. -/
def TimCursor.Covers (read : Nat → Option U8) (el : BytePtr) (c : TimCursor) : Prop :=
  ∀ i : Nat, (i : Int) < c.dataLengthRemaining → read (c.block + i) = some (el (c.block + i))

variable {read : Nat → Option U8} {el : BytePtr}

theorem TimCursor.Covers.advance {c : TimCursor}
    (h : c.Covers read el) (len : Nat) : (c.advance len).Covers read el := by
  intro i hi
  have hi' : (i : Int) < c.dataLengthRemaining - len := hi
  show read (c.block + len + i) = some (el (c.block + len + i))
  rw [Nat.add_assoc]
  exact h (len + i) (by omega)

/-- A mode that uses octets that remain only has the answer of the code. -/
def ModeAgrees (el : BytePtr) (c : TimCursor) (checked : Option (TimCursor × Bool))
    (result : TimParseState × Bool) : Prop :=
  ∃ len, checked = some (c.advance (1 + len), result.2)
    ∧ result.1 = (c.toState el).advance (1 + len)

theorem checked_ite {p : Prop} {d d' : Decidable p} {next : TimCursor} {answer result : Bool}
    {checked : Option (TimCursor × Bool)} (h : ¬ p → checked = some (next, result)) :
    @ite _ p d (some (next, answer)) checked = some (next, @ite _ p d' answer result) := by
  by_cases hp : p
  · rw [if_pos hp, if_pos hp]
  · rw [if_neg hp, if_neg hp]
    exact h hp

theorem subblocksBelow_lt {posM : Nat} (hposM : posM < 8) {blockBitmap : U8}
    (h : ¬ (blockBitmap &&& (1#8 <<< posM) == 0) = true) :
    subblocksBelow posM blockBitmap < builtinPopcount blockBitmap := by
  have hbit : blockBitmap.getLsbD posM = true := by
    revert blockBitmap
    interval_cases posM <;> decide
  have hsucc : (List.range (posM + 1)).countP (fun i => blockBitmap.getLsbD i)
      = subblocksBelow posM blockBitmap + 1 := by
    rw [List.range_succ, List.countP_append, subblocksBelow_eq, List.countP_singleton, if_pos hbit]
  have hle : (List.range (posM + 1)).countP (fun i => blockBitmap.getLsbD i)
      ≤ builtinPopcount blockBitmap :=
    (List.range_sublist.mpr (by omega)).countP_le
  omega

theorem adeLoopWith_eq {p : BytePtr} {deltaAids length : Nat}
    (hread : ∀ i < length, read (deltaAids + i) = some (p i)) (ewl : Nat) (aid : U16)
    (currentAid offset : Nat) : adeLoopWith read deltaAids ewl length aid currentAid offset
      = some (adeLoop p ewl length aid currentAid offset) := by
  induction hleft : length * 8 - offset using Nat.strongRecOn generalizing currentAid offset with
  | ind left ih =>
    rw [adeLoopWith, adeLoop]
    by_cases hword : offset + (ewl + 1) ≤ length * 8
    · have hdelta : adeDeltaAidWith read deltaAids (ewl + 1) offset
          = some (adeDeltaAid p (ewl + 1) offset) := by
        unfold adeDeltaAidWith
        rw [hread _ (by omega)]
        rfl
      rw [if_pos hword, if_pos hword, hdelta]
      dsimp only
      by_cases hzero : (adeDeltaAid p (ewl + 1) offset == 0) = true
      · rw [if_pos hzero, if_pos hzero]
      rw [if_neg hzero, if_neg hzero]
      by_cases hfound : (currentAid + (adeDeltaAid p (ewl + 1) offset).toNat == aid.toNat) = true
      · rw [if_pos hfound, if_pos hfound]
      · rw [if_neg hfound, if_neg hfound]
        exact ih _ (by omega) _ _ rfl
    · rw [if_neg hword, if_neg hword]

theorem adeWalkWith_eq {p : BytePtr} {deltaAids length : Nat}
    (hread : ∀ i < length, read (deltaAids + i) = some (p i)) (ewl : Nat) (aid : U16)
    (startAid : Nat) : adeWalkWith read deltaAids ewl length aid startAid
      = some (adeWalk p ewl length aid startAid) := by
  unfold adeWalkWith adeWalk
  by_cases hsome : (length != 0) = true
  · have hfirst : read deltaAids = some (p 0) :=
      hread 0 (Nat.pos_of_ne_zero fun h => by simp [h] at hsome)
    rw [if_pos hsome, if_pos hsome, hfirst, Option.bind_some]
    dsimp only
    split
    · rfl
    · exact adeLoopWith_eq hread ..
  · rw [if_neg hsome, if_neg hsome]

section Modes

variable {read : Nat → Option U8} {el : BytePtr} {c : TimCursor} (hcovers : c.Covers read el)
  (hpos : 0 < c.dataLengthRemaining)

include hcovers hpos

theorem blockBitmap_agrees (aid : U16) :
    ModeAgrees el c (ieS1gTimBlockBitmapHasAidWith read c aid)
      (ieS1gTimBlockBitmapHasAid (c.toState el) aid) := by
  refine ⟨builtinPopcount (el c.block), ?_, rfl⟩
  unfold ieS1gTimBlockBitmapHasAidWith
  rw [show read c.block = some (el c.block) from hcovers 0 hpos, Option.bind_some]
  refine checked_ite fun hshort => checked_ite fun _ => checked_ite fun _ =>
    checked_ite fun hbit => ?_
  have hroom : ¬ c.dataLengthRemaining - ((1 + builtinPopcount (el c.block) : Nat) : Int) < 0 :=
    hshort
  have hposM : aidBlockModeM aid < 8 := by
    rw [aidBlockModeM_eq]
    omega
  have hlt := subblocksBelow_lt hposM hbit
  rw [hcovers _ (by omega)]
  rfl

theorem singleAid_agrees (aid : U16) :
    ModeAgrees el c (ieS1gTimSingleAidHasAidWith read c aid)
      (ieS1gTimSingleAidHasAid (c.toState el) aid) := by
  refine ⟨0, ?_, rfl⟩
  unfold ieS1gTimSingleAidHasAidWith
  rw [show read c.block = some (el c.block) from hcovers 0 hpos]
  rfl

theorem olb_agrees (aid : U16) :
    ModeAgrees el c (ieS1gTimOlbHasAidWith read c aid)
      (ieS1gTimOlbHasAid (c.toState el) aid) := by
  refine ⟨(el c.block).toNat, ?_, rfl⟩
  unfold ieS1gTimOlbHasAidWith
  rw [show read c.block = some (el c.block) from hcovers 0 hpos, Option.bind_some]
  refine checked_ite fun hshort => checked_ite fun _ => checked_ite fun _ =>
    checked_ite fun hposM => ?_
  have hroom : ¬ c.dataLengthRemaining - ((1 + (el c.block).toNat : Nat) : Int) < 0 := hshort
  rw [hcovers _ (by omega)]
  rfl

theorem ade_agrees (aid : U16) :
    ModeAgrees el c (ieS1gTimAdeHasAidWith read c aid)
      (ieS1gTimAdeHasAid (c.toState el) aid) := by
  refine ⟨(dot11TimAdeGetLength (el c.block)).toNat, ?_, rfl⟩
  unfold ieS1gTimAdeHasAidWith
  rw [show read c.block = some (el c.block) from hcovers 0 hpos, Option.bind_some]
  refine checked_ite fun hshort => ?_
  have hroom : ¬ c.dataLengthRemaining
      - ((1 + (dot11TimAdeGetLength (el c.block)).toNat : Nat) : Int) < 0 := hshort
  have hread : ∀ i < (dot11TimAdeGetLength (el c.block)).toNat,
      read (c.block + 1 + i) = some ((el.add c.block).add 1 i) := by
    intro i hi
    rw [Nat.add_assoc, hcovers (1 + i) (by omega)]
    rfl
  rw [adeWalkWith_eq hread]
  rfl

theorem timBlockHasAidWith_eq (hmode : c.blockEncodingMode.toNat < 4) (aid : U16) :
    ∃ next found, timBlockHasAidWith read c aid = some (some (next, found))
      ∧ timBlockHasAid (c.toState el) aid = some (next.toState el, found)
      ∧ next.Covers read el := by
  have hagrees : ∀ {checked : Option (TimCursor × Bool)} {result : TimParseState × Bool},
      ModeAgrees el c checked result → ∃ next found, checked.map some = some (some (next, found))
        ∧ some result = some (next.toState el, found) ∧ next.Covers read el := by
    rintro checked ⟨state, found⟩ ⟨len, hchecked, hstate⟩
    refine ⟨c.advance (1 + len), found, ?_, ?_, hcovers.advance _⟩
    · rw [hchecked]
      rfl
    · rw [TimCursor.toState_advance, ← hstate]
  have hcases : ∀ mode : U8, mode.toNat < 4 → mode = dot11TimBlockEncodingBlockBitmap
      ∨ mode = dot11TimBlockEncodingSingleAid ∨ mode = dot11TimBlockEncodingOlb
      ∨ mode = dot11TimBlockEncodingAde := by
    decide
  unfold timBlockHasAidWith timBlockHasAid
  have hstate : (c.toState el).blockEncodingMode = c.blockEncodingMode := rfl
  rw [hstate]
  rcases hcases c.blockEncodingMode hmode with heq | heq | heq | heq
  · rw [heq]
    exact hagrees (blockBitmap_agrees hcovers hpos aid)
  · rw [heq]
    exact hagrees (singleAid_agrees hcovers hpos aid)
  · rw [heq]
    exact hagrees (olb_agrees hcovers hpos aid)
  · rw [heq]
    exact hagrees (ade_agrees hcovers hpos aid)

end Modes

theorem readBlockHdrWith_eq {c : TimCursor}
    (hcovers : c.Covers read el) (hpos : 0 < c.dataLengthRemaining) :
    ∃ state, c.readBlockHdrWith read = some state ∧ state.toState el = (c.toState el).readBlockHdr
      ∧ state.Covers read el ∧ state.dataLengthRemaining = c.dataLengthRemaining - 1
      ∧ state.blockEncodingMode.toNat < 4 := by
  have hmode : ∀ hdr : U8, (dot11TimBlockHdrGetBlockEncoding hdr).toNat < 4 := by decide
  let started : TimCursor :=
    { c with
      blockEncodingMode := dot11TimBlockHdrGetBlockEncoding (el c.block)
      inverseBitmap := dot11TimBlockHdrGetInverseBitmap (el c.block) != 0
      blockOffset := (dot11TimBlockHdrGetBlockOffset (el c.block)).toNat }
  have hstarted : started.Covers read el := hcovers
  refine ⟨started.advance 1, ?_, TimCursor.toState_advance started el 1, hstarted.advance 1, rfl,
    hmode (el c.block)⟩
  unfold TimCursor.readBlockHdrWith
  rw [show read c.block = some (el c.block) from hcovers 0 hpos]
  rfl

theorem timBlocksLoopWith_eq {c : TimCursor} (hcovers : c.Covers read el) (aid : U16) :
    ∃ found, timBlocksLoopWith read c aid = some (some found)
      ∧ timBlocksLoop (c.toState el) aid = some found := by
  induction hleft : c.dataLengthRemaining.toNat using Nat.strongRecOn generalizing c with
  | ind left ih =>
    rw [timBlocksLoopWith, timBlocksLoop_eq]
    have hremaining : (c.toState el).dataLengthRemaining = c.dataLengthRemaining := rfl
    rw [hremaining]
    by_cases hmore : 1 < c.dataLengthRemaining
    · obtain ⟨state, hread, hstate, hcovers', hless, hmode⟩ :=
        readBlockHdrWith_eq hcovers (by omega)
      obtain ⟨next, found, hchecked, hblock, hnext⟩ :=
        timBlockHasAidWith_eq hcovers' (by omega) hmode aid
      have hlt := (timBlockHasAidWith_behind hchecked).lt
      rw [if_pos hmore, if_pos hmore, hread, ← hstate, hblock]
      dsimp only [Option.bind_some]
      rw [hchecked]
      cases found with
      | true => exact ⟨true, rfl, rfl⟩
      | false => exact ih _ (by omega) hnext rfl
    · rw [if_neg hmore, if_neg hmore]
      exact ⟨false, rfl, rfl⟩

/-! ## The iterations -/

/-- One pass through the loop of `ie_s1g_tim_has_aid` that goes on. -/
def TimIteration (aid : U16) (state next : TimParseState) : Prop :=
  1 < state.dataLengthRemaining ∧ timBlockHasAid state.readBlockHdr aid = some (next, false)

theorem TimIteration.remaining_le {aid : U16} {state next : TimParseState}
    (h : TimIteration aid state next) :
    next.dataLengthRemaining + 2 ≤ state.dataLengthRemaining := by
  have hadvance := timBlockHasAid_advances h.2
  have hread : state.readBlockHdr.dataLengthRemaining = state.dataLengthRemaining - 1 := rfl
  omega

theorem timIterations_le {aid : U16} {n : Nat} {states : Nat → TimParseState}
    (h : ∀ k < n, TimIteration aid (states k) (states (k + 1))) :
    n = 0 ∨ (2 * n : Int) ≤ (states 0).dataLengthRemaining := by
  have hused : ∀ k ≤ n, (2 * k : Int) + (states k).dataLengthRemaining
      ≤ (states 0).dataLengthRemaining := by
    intro k
    induction k with
    | zero =>
      intro _
      show 2 * ((0 : Nat) : Int) + _ ≤ _
      omega
    | succ k ih =>
      intro hk
      have hstep := (h k hk).remaining_le
      have hle := ih (by omega)
      push_cast
      omega
  rcases Nat.eq_zero_or_pos n with hzero | hpos
  · exact Or.inl hzero
  -- The last iteration was begun with two octets at least.
  have hlast := (h (n - 1) (by omega)).1
  have hle := hused (n - 1) (by omega)
  rw [Nat.cast_sub hpos] at hle
  right
  push_cast at hle
  omega

/-! ## The element -/

/-- The state in which the loop of `ie_s1g_tim_has_aid` begins. -/
def timStart (el : BytePtr) : TimCursor :=
  { pageIndex := (dot11TimBitmapCtrlGetPageIndex (el 4)).toNat
    pageSlice := (dot11TimBitmapCtrlGetPageSliceNum (el 4)).toNat
    blockEncodingMode := 0
    inverseBitmap := false
    blockOffset := 0
    block := sizeofDot11IeTim
    dataLengthRemaining := (el 1).toNat - (sizeofDot11IeTim - ieSizeofHeader) }

/-- The parser gives its answer with the octets of the element alone; every iteration uses up
octets of it, and there are at most half as many iterations as octets of blocks. -/
structure ParsesInside (el : BytePtr) (aid : U16) : Prop where
  inside : ∃ found, ieS1gTimHasAidWith (within el (ieNext el 0)) aid = some (some found)
    ∧ ieS1gTimHasAid el aid = some found
  decreases : ∀ state next, TimIteration aid state next →
    next.dataLengthRemaining < state.dataLengthRemaining
  ends : ∀ (n : Nat) (states : Nat → TimParseState), states 0 = (timStart el).toState el →
    (∀ k < n, TimIteration aid (states k) (states (k + 1))) →
      2 * n ≤ (el 1).toNat - (sizeofDot11IeTim - ieSizeofHeader)

theorem ieNext_le_of_ieFind {ies : BytePtr} {iesLen curr : Nat} {id : U8}
    (h : (ieFind ies iesLen id).1 = some curr) : ieNext ies curr ≤ iesLen := by
  unfold ieFind at h
  rw [ieFindAndValidateLength_eq, ieReport_zero] at h
  obtain ⟨before, hpassed, hend | hbad | ⟨ie, hie⟩⟩ := ieFindLoop_stop ies iesLen id
  · rw [hpassed.loop_end hend] at h
    cases h
  · rw [hpassed.loop_malformed hbad] at h
    cases h
  rw [hie.loop] at h
  cases h
  rw [(ie_header hie.octets).2.2]
  exact hie.inside

theorem timStart_covers (el : BytePtr) : (timStart el).Covers (within el (ieNext el 0)) el := by
  intro i hi
  have hi' : (i : Int) < (el 1).toNat - (sizeofDot11IeTim - ieSizeofHeader : Nat) := hi
  have hin : sizeofDot11IeTim + i < ieNext el 0 := by
    show sizeofDot11IeTim + i < 0 + ieSizeofHeader + (el 1).toNat
    unfold sizeofDot11IeTim ieSizeofHeader at *
    omega
  exact if_pos hin

theorem parsesInside (hlen : sizeofDot11IeTim - ieSizeofHeader ≤ ieLen el 0)
    (aid : U16) : ParsesInside el aid := by
  refine ⟨?_, fun state next h => ?_, fun n states hstart h => ?_⟩
  · have hheader : ∀ i < sizeofDot11IeTim, within el (ieNext el 0) i = some (el i) := by
      intro i hi
      have hlt : i < ieNext el 0 := by
        unfold ieNext ieInfo
        unfold sizeofDot11IeTim ieSizeofHeader at *
        omega
      exact if_pos hlt
    unfold ieS1gTimHasAidWith ieS1gTimHasAid
    rw [hheader 1 (by decide), hheader 4 (by decide)]
    dsimp only [Option.bind_some]
    split
    · exact ⟨false, rfl, rfl⟩
    · split
      · exact ⟨false, rfl, rfl⟩
      · exact timBlocksLoopWith_eq (timStart_covers el) aid
  · have hle := h.remaining_le
    omega
  have hstart' : (states 0).dataLengthRemaining
      = (el 1).toNat - (sizeofDot11IeTim - ieSizeofHeader : Nat) := by
    rw [hstart]
    rfl
  rcases timIterations_le h with hzero | hle
  · omega
  · omega

/-- Every TIM element that is found lies in the list, and the parser stays inside it. -/
theorem tim_parsing_inside {ies : BytePtr} {iesLen tim : Nat}
    (h : ieS1gTimFind ies iesLen = some tim) (aid : U16) :
    ieNext ies tim ≤ iesLen ∧ ParsesInside (ies.add tim) aid := by
  unfold ieS1gTimFind at h
  cases hfind : (ieFind ies iesLen dot11IeTim).1 with
  | none =>
    rw [hfind] at h
    cases h
  | some found =>
    rw [hfind] at h
    dsimp only at h
    split at h
    · next hlen =>
        cases h
        exact ⟨ieNext_le_of_ieFind hfind, parsesInside hlen aid⟩
    · cases h

/-- An element whose only block is the AID 7. -/
def singleAidTim : BytePtr := fun i => [5, 5, 0, 1, 0x3e, 0x01, 0x07].getD i 0

theorem tim_parsing_inside_single :
    ieNext singleAidTim 0 ≤ 7 ∧ ParsesInside (singleAidTim.add 0) 7 := by
  apply tim_parsing_inside
  unfold ieS1gTimFind ieFind
  rw [ieFindAndValidateLength_eq, ieFindLoop]
  rfl

end MmIotEsp32.Umac.Ies
