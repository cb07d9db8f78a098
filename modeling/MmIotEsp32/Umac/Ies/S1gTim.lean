/-
  MmIotEsp32.Umac.Ies.S1gTim

  The S1G TIM element: `umac/ies/s1g_tim.c`.

  The parser walks the encoded blocks with a cursor that every mode moves behind
  its own block, before it looks at the AID.
-/
import MmIotEsp32.Common.Consbuf
import MmIotEsp32.Umac.Ap.TrafficBitmap
import MmIotEsp32.Umac.Ies.IesCommon

namespace MmIotEsp32.Umac.Ies

open Ap

/-! ## Fields -/

def dot11IeTim : U8 := 5
def dot11TimBlockSize : Nat := 64

/-- `sizeof(struct dot11_ie_tim)`, the header and three octets. -/
def sizeofDot11IeTim : Nat := 5

/-- `(octet & mask) >> shift`. -/
def dot11OctetField (octet mask : U8) (shift : Nat) : U8 := (octet &&& mask) >>> shift

def dot11TimBitmapCtrlGetPageSliceNum (ctrl : U8) : U8 := dot11OctetField ctrl 0x3e 1
def dot11TimBitmapCtrlGetPageIndex (ctrl : U8) : U8 := dot11OctetField ctrl 0xc0 6

def dot11TimBlockHdrGetBlockEncoding (hdr : U8) : U8 := dot11OctetField hdr 0x03 0
def dot11TimBlockHdrGetInverseBitmap (hdr : U8) : U8 := dot11OctetField hdr 0x04 2
def dot11TimBlockHdrGetBlockOffset (hdr : U8) : U8 := dot11OctetField hdr 0xf8 3

def dot11TimAdeGetEwl (ade : U8) : U8 := dot11OctetField ade 0x07 0
def dot11TimAdeGetLength (ade : U8) : U8 := dot11OctetField ade 0xf8 3

def dot11TimBlockEncodingBlockBitmap : U8 := 0
def dot11TimBlockEncodingSingleAid : U8 := 1
def dot11TimBlockEncodingOlb : U8 := 2
def dot11TimBlockEncodingAde : U8 := 3

-- The fields of an AID, with the masks and shifts of `s1g_tim.c`.
def aidPageIndex (aid : U16) : Nat := ((aid &&& 0x1800) >>> 11).toNat
def aidBlockOffset (aid : U16) : Nat := ((aid &&& 0x07c0) >>> 6).toNat
def aidBlockModeM (aid : U16) : Nat := ((aid &&& 0x0038) >>> 3).toNat
def aidBlockModeQ (aid : U16) : Nat := ((aid &&& 0x0007) >>> 0).toNat
def aidSingleModeAid (aid : U16) : Nat := ((aid &&& 0x003f) >>> 0).toNat
def aidOlbModeMMod8 (aid : U16) : Nat := ((aid &&& 0x0038) >>> 3).toNat
def aidOlbModeQ (aid : U16) : Nat := ((aid &&& 0x0007) >>> 0).toNat

def builtinPopcount (x : U8) : Nat := (List.range 8).countP fun i => x.getLsbD i

/-! ## The modes -/

structure TimParseState where
  pageIndex : Nat
  pageSlice : Nat
  blockEncodingMode : U8
  inverseBitmap : Bool
  blockOffset : Nat
  block : BytePtr
  dataLengthRemaining : Int

/-- The cursor moved behind `len` octets. -/
def TimParseState.advance (state : TimParseState) (len : Nat) : TimParseState :=
  { state with
    block := state.block.add len
    dataLengthRemaining := state.dataLengthRemaining - len }

/-- The walk over the lower bits of a block bitmap: the number of subblocks they stand
for. -/
def subblocksBelow : Nat → U8 → Nat
  | 0, _ => 0
  | posM + 1, blockBitmap =>
    (if blockBitmap &&& 1 != 0 then 1 else 0) + subblocksBelow posM (blockBitmap >>> 1)

def ieS1gTimBlockBitmapHasAid (state : TimParseState) (aid : U16) : TimParseState × Bool :=
  let blockBitmap := state.block 0
  let subblockCount := builtinPopcount blockBitmap
  let next := state.advance (1 + subblockCount)
  (next,
    if next.dataLengthRemaining < 0 then false
    else if aidPageIndex aid != state.pageIndex then false
    else if aidBlockOffset aid != state.blockOffset then false
    else
      let posM := aidBlockModeM aid
      if blockBitmap &&& (1#8 <<< posM) == 0 then state.inverseBitmap
      else
        let subblock := state.block (1 + subblocksBelow posM blockBitmap)
        let result := subblock &&& (1#8 <<< aidBlockModeQ aid) != 0
        if state.inverseBitmap then !result else result)

def ieS1gTimSingleAidHasAid (state : TimParseState) (aid : U16) : TimParseState × Bool :=
  let singleAid := state.block 0
  let next := state.advance 1
  (next,
    if next.dataLengthRemaining < 0 then false
    else if aidBlockOffset aid != state.blockOffset then false
    else if aidPageIndex aid != state.pageIndex then false
    else
      let result := aidSingleModeAid aid == singleAid.toNat
      if state.inverseBitmap then !result else result)

def ieS1gTimOlbHasAid (state : TimParseState) (aid : U16) : TimParseState × Bool :=
  let length := (state.block 0).toNat
  let next := state.advance (1 + length)
  (next,
    if next.dataLengthRemaining < 0 then false
    else if aidPageIndex aid != state.pageIndex then false
    else
      let numBlocks := (fastRoundUp (BitVec.ofNat 32 (length * 8))
        (BitVec.ofNat 32 dot11TimBlockSize)).toNat / dot11TimBlockSize
      let aidBlockNum := aidBlockOffset aid
      if aidBlockNum < state.blockOffset || state.blockOffset + numBlocks ≤ aidBlockNum then false
      else
        let posM := (aidBlockNum - state.blockOffset) * 8 + aidOlbModeMMod8 aid
        if length ≤ posM then state.inverseBitmap
        else if state.block (1 + posM) &&& (1#8 <<< aidOlbModeQ aid) == 0 then state.inverseBitmap
        else !state.inverseBitmap)

/-- A delta AID, as the loop of `ie_s1g_tim_ade_has_aid` reads it: bits that lie behind
the end of an octet are taken from the start of the same octet. -/
def adeDeltaAid (deltaAids : BytePtr) (wordLength offset : Nat) : U8 :=
  let octet := offset / 8
  let shift := offset % 8
  let deltaAid := deltaAids octet >>> shift
  let deltaAid :=
    if 8 < wordLength + shift then deltaAid ||| (deltaAids octet <<< (8 - shift)) else deltaAid
  deltaAid &&& BitVec.ofNat 8 ((1 <<< wordLength) - 1)

/-- The loop of `ie_s1g_tim_ade_has_aid` over the words of `ewl + 1` bits; `none` when
the AID is found, the last AID listed otherwise.  The AIDs stay below 2^14. -/
def adeLoop (deltaAids : BytePtr) (ewl length : Nat) (aid : U16) (currentAid offset : Nat) :
    Option Nat :=
  let wordLength := ewl + 1
  if offset + wordLength ≤ length * 8 then
    let deltaAid := adeDeltaAid deltaAids wordLength offset
    if deltaAid == 0 then some currentAid
    else if currentAid + deltaAid.toNat == aid.toNat then none
    else adeLoop deltaAids ewl length aid (currentAid + deltaAid.toNat) (offset + wordLength)
  else some currentAid
termination_by length * 8 - offset

/-- The AIDs of `ie_s1g_tim_ade_has_aid`, first and following. -/
def adeWalk (deltaAids : BytePtr) (ewl length : Nat) (aid : U16) (startAid : Nat) : Option Nat :=
  if length != 0 then
    let first := deltaAids 0 &&& BitVec.ofNat 8 ((1 <<< (ewl + 1)) - 1)
    let currentAid := startAid + first.toNat
    if currentAid == aid.toNat then none
    else adeLoop deltaAids ewl length aid currentAid (ewl + 1)
  else some startAid

def ieS1gTimAdeHasAid (state : TimParseState) (aid : U16) : TimParseState × Bool :=
  let deltaAids := state.block.add 1
  let startAid := state.pageIndex * 2048 + state.blockOffset * 64
  let ewl := (dot11TimAdeGetEwl (state.block 0)).toNat
  let length := (dot11TimAdeGetLength (state.block 0)).toNat
  let next := state.advance (1 + length)
  (next,
    if next.dataLengthRemaining < 0 then false
    else
      match adeWalk deltaAids ewl length aid startAid with
      | none => !state.inverseBitmap
      | some currentAid =>
        if state.inverseBitmap then
          let endAid := (fastRoundUp (BitVec.ofNat 32 (currentAid + 1))
            (BitVec.ofNat 32 dot11TimBlockSize)).toNat
          decide (startAid ≤ aid.toNat) && decide (aid.toNat < endAid)
        else false)

/-! ## The element -/

/-- The `switch` of `ie_s1g_tim_has_aid`; `none` is its assertion. -/
def timBlockHasAid (state : TimParseState) (aid : U16) : Option (TimParseState × Bool) :=
  if state.blockEncodingMode == dot11TimBlockEncodingBlockBitmap then
    some (ieS1gTimBlockBitmapHasAid state aid)
  else if state.blockEncodingMode == dot11TimBlockEncodingSingleAid then
    some (ieS1gTimSingleAidHasAid state aid)
  else if state.blockEncodingMode == dot11TimBlockEncodingOlb then
    some (ieS1gTimOlbHasAid state aid)
  else if state.blockEncodingMode == dot11TimBlockEncodingAde then
    some (ieS1gTimAdeHasAid state aid)
  else none

/-- The control octet of a block is read. -/
def TimParseState.readBlockHdr (state : TimParseState) : TimParseState :=
  { state with
    blockEncodingMode := dot11TimBlockHdrGetBlockEncoding (state.block 0)
    inverseBitmap := dot11TimBlockHdrGetInverseBitmap (state.block 0) != 0
    blockOffset := (dot11TimBlockHdrGetBlockOffset (state.block 0)).toNat }.advance 1

theorem timBlockHasAid_advances {state next : TimParseState} {aid : U16} {found : Bool}
    (h : timBlockHasAid state aid = some (next, found)) :
    next.dataLengthRemaining < state.dataLengthRemaining := by
  have hadvance : ∀ len : Nat, (state.advance (1 + len)).dataLengthRemaining
      < state.dataLengthRemaining := by
    intro len
    show state.dataLengthRemaining - ((1 + len : Nat) : Int) < state.dataLengthRemaining
    omega
  unfold timBlockHasAid at h
  split at h
  · obtain rfl := congrArg Prod.fst (Option.some.inj h)
    exact hadvance _
  split at h
  · obtain rfl := congrArg Prod.fst (Option.some.inj h)
    exact hadvance 0
  split at h
  · obtain rfl := congrArg Prod.fst (Option.some.inj h)
    exact hadvance _
  split at h
  · obtain rfl := congrArg Prod.fst (Option.some.inj h)
    exact hadvance _
  · exact absurd h (by simp)

/-- The loop of `ie_s1g_tim_has_aid`. -/
def timBlocksLoop (state : TimParseState) (aid : U16) : Option Bool :=
  if 1 < state.dataLengthRemaining then
    match _h : timBlockHasAid state.readBlockHdr aid with
    | none => none
    | some (_, true) => some true
    | some (next, false) => timBlocksLoop next aid
  else some false
termination_by state.dataLengthRemaining.toNat
decreasing_by
  have hnext := timBlockHasAid_advances _h
  have hread : state.readBlockHdr.dataLengthRemaining = state.dataLengthRemaining - 1 := rfl
  omega

/-- `ie_s1g_tim_has_aid`, with a pointer to the element; `none` is its assertion. -/
def ieS1gTimHasAid (s1gTim : BytePtr) (aid : U16) : Option Bool :=
  let blockInfoLen : Int := (s1gTim 1).toNat - (sizeofDot11IeTim - ieSizeofHeader)
  if blockInfoLen ≤ 0 then some false
  else
    let pageIndex := (dot11TimBitmapCtrlGetPageIndex (s1gTim 4)).toNat
    let pageSlice := (dot11TimBitmapCtrlGetPageSliceNum (s1gTim 4)).toNat
    if decide (0 < pageSlice) && pageSlice != 31 then some false
    else
      timBlocksLoop
        { pageIndex := pageIndex
          pageSlice := pageSlice
          blockEncodingMode := 0
          inverseBitmap := false
          blockOffset := 0
          block := s1gTim.add sizeofDot11IeTim
          dataLengthRemaining := blockInfoLen } aid

def ieS1gTimFind (ies : BytePtr) (iesLen : Nat) : Option Nat :=
  match (ieFind ies iesLen dot11IeTim).1 with
  | none => none
  | some tim => if sizeofDot11IeTim - ieSizeofHeader ≤ ieLen ies tim then some tim else none

/-! ## The builder -/

/-- The `SET` macros: `(octet & ~mask) | ((value << shift) & mask)`. -/
def dot11SetOctetField (octet mask : U8) (shift : Nat) (value : U8) : U8 :=
  (octet &&& ~~~ mask) ||| ((value <<< shift) &&& mask)

def maxSubblocksInBlock : Nat := 8

def maxEncodedBlocks : Nat := (s1gBitmapSubblocks + maxSubblocksInBlock - 1) / maxSubblocksInBlock

def maxPvbLen : Nat := 251

/-- The body of the inner loop of `ie_s1g_tim_build`: the block bitmap, and the subblocks
written behind it. -/
def buildSubblock (trafficBitmap : TrafficBitmap) (block : Nat) (acc : U8 × List U8)
    (subblock : Nat) : U8 × List U8 :=
  if h : block * maxSubblocksInBlock + subblock < s1gBitmapSubblocks then
    let subBlock := trafficBitmap ⟨block * maxSubblocksInBlock + subblock, h⟩
    if subBlock == 0 then acc else (acc.1 ||| (1#8 <<< subblock), acc.2 ++ [subBlock])
  else acc

/-- The body of the outer loop of `ie_s1g_tim_build`: the octets of one block, none when
all its subblocks are empty. -/
def buildBlock (trafficBitmap : TrafficBitmap) (block : Nat) : List U8 :=
  let (blockBitmap, subblocks) :=
    (List.range maxSubblocksInBlock).foldl (buildSubblock trafficBitmap block) (0, [])
  if subblocks.isEmpty then []
  else
    let blockControl := dot11SetOctetField 0 0x03 0 dot11TimBlockEncodingBlockBitmap
    let blockControl := dot11SetOctetField blockControl 0xf8 3 (BitVec.ofNat 8 block)
    blockControl :: blockBitmap :: subblocks

/-- The partial virtual bitmap. -/
def buildPvb (trafficBitmap : TrafficBitmap) : List U8 :=
  (List.range maxEncodedBlocks).flatMap (buildBlock trafficBitmap)

/-- The length that goes into the header. -/
def timLen (trafficIndicator : Bool) (pvb : List U8) : Nat :=
  if trafficIndicator || decide (0 < pvb.length) then 2 + (1 + pvb.length) else 2

/-- The octets written behind the reserved place. -/
def timOctets (dtimCount dtimPeriod : U8) (trafficIndicator : Bool) (pvb : List U8) : List U8 :=
  let timLen := timLen trafficIndicator pvb
  [dot11IeTim, BitVec.ofNat 8 timLen, dtimCount, dtimPeriod] ++
    if timLen = 2 then []
    else
      let bitmapControl := dot11SetOctetField 0 0x01 0 (if trafficIndicator then 1 else 0)
      let bitmapControl := dot11SetOctetField bitmapControl 0x3e 1 0x1f
      let bitmapControl := dot11SetOctetField bitmapControl 0xc0 6 0
      bitmapControl :: if timLen = 3 then [] else pvb

/-- `ie_s1g_tim_build`; `none` is the assertion of `consbuf_reserve`. -/
def ieS1gTimBuild (buf : Consbuf) (dtimCount dtimPeriod : U8) (trafficIndicator : Bool)
    (trafficBitmap : TrafficBitmap) : Option Consbuf :=
  match consbufReserve buf 0 with
  | none => none
  | some (buf, none) => (consbufReserve buf (sizeofDot11IeTim + maxPvbLen)).map Prod.fst
  | some (buf, some _) =>
    let pvb := buildPvb trafficBitmap
    match consbufReserve buf (ieSizeofHeader + timLen trafficIndicator pvb) with
    | none => none
    | some (buf, none) => some buf
    | some (buf, some timIe) =>
      some (buf.write timIe (timOctets dtimCount dtimPeriod trafficIndicator pvb))

end MmIotEsp32.Umac.Ies
