/-
  MmIotEsp32.Umac.Ies.S1gTimBuild

  The S1G TIM element that the AP builds, given back to the parser.

  With traffic to announce, the builder writes the octets of a `S1gTim` of at most one
  block bitmap.  Without any it leaves the bitmap control out, and `ie_s1g_tim_find`
  takes the element for too short.
-/
import MmIotEsp32.Umac.Ies.S1gTimDecode

namespace MmIotEsp32.Umac.Ies

open Lib Ap

/-! ## The block that is built -/

/-- The subblocks that are not empty. -/
def presentSubblocks (bitmap : TrafficBitmap) (m : Fin 8) : Option U8 :=
  if bitmap m = 0 then none else some (bitmap m)

theorem buildSubblock_foldl (bitmap : TrafficBitmap) {k : Nat} (hk : k ≤ 8) :
    (∀ i, i < 8 → (((List.range k).foldl (buildSubblock bitmap 0) (0, [])).1).getLsbD i
        = (decide (i < k) && (subblockBitmap (presentSubblocks bitmap)).getLsbD i))
      ∧ ((List.range k).foldl (buildSubblock bitmap 0) (0, [])).2
        = ((List.ofFn (presentSubblocks bitmap)).take k).filterMap id := by
  induction k with
  | zero =>
    refine ⟨?_, rfl⟩
    intro i _
    rw [decide_eq_false (Nat.not_lt_zero i), Bool.false_and]
    exact BitVec.getLsbD_zero
  | succ k ih =>
    have hk8 : k < 8 := hk
    obtain ⟨hbits, hlist⟩ := ih (Nat.le_of_lt hk8)
    have htake : (List.ofFn (presentSubblocks bitmap)).take (k + 1)
        = (List.ofFn (presentSubblocks bitmap)).take k ++ [presentSubblocks bitmap ⟨k, hk8⟩] := by
      rw [List.take_succ_eq_append_getElem (by rw [List.length_ofFn]; exact hk8),
        List.getElem_ofFn]
    rw [List.range_succ, List.foldl_append, htake, List.filterMap_append, ← hlist]
    generalize (List.range k).foldl (buildSubblock bitmap 0) (0, []) = acc at hbits ⊢
    have hin : 0 * maxSubblocksInBlock + k < s1gBitmapSubblocks := by
      show 0 * 8 + k < 8
      omega
    have hindex : (⟨0 * maxSubblocksInBlock + k, hin⟩ : Fin s1gBitmapSubblocks) = ⟨k, hk8⟩ :=
      Fin.ext (by show 0 * 8 + k = k; omega)
    have hstep : buildSubblock bitmap 0 acc k
        = if bitmap ⟨k, hk8⟩ == 0 then acc
          else (acc.1 ||| (1#8 <<< k), acc.2 ++ [bitmap ⟨k, hk8⟩]) := by
      unfold buildSubblock
      rw [dif_pos hin, hindex]
    rw [List.foldl_cons, List.foldl_nil, hstep]
    have hbit := getLsbD_subblockBitmap (presentSubblocks bitmap) hk8
    by_cases hempty : bitmap ⟨k, hk8⟩ = 0
    · have hnone : presentSubblocks bitmap ⟨k, hk8⟩ = none := if_pos hempty
      rw [hnone] at hbit ⊢
      rw [if_pos (beq_iff_eq.mpr hempty)]
      refine ⟨?_, by simp⟩
      intro i hi
      rw [hbits i hi]
      by_cases heq : i = k
      · rw [heq, hbit]
        simp
      · congr 1
        apply decide_eq_decide.mpr
        omega
    have hsome : presentSubblocks bitmap ⟨k, hk8⟩ = some (bitmap ⟨k, hk8⟩) := if_neg hempty
    rw [hsome] at hbit ⊢
    rw [if_neg (by simpa using hempty)]
    refine ⟨?_, by simp⟩
    intro i hi
    show (acc.1 ||| BitVec.twoPow 8 k).getLsbD i = _
    rw [BitVec.getLsbD_or, hbits i hi, BitVec.getLsbD_twoPow]
    by_cases heq : i = k
    · rw [heq, hbit]
      simp [hk8]
    have hne : k ≠ i := fun h => heq h.symm
    rw [decide_eq_false hne, Bool.and_false, Bool.or_false]
    congr 1
    apply decide_eq_decide.mpr
    omega

theorem buildPvb_eq (bitmap : TrafficBitmap) :
    buildPvb bitmap
      = if ∀ m, bitmap m = 0 then []
        else TimBlock.octets ⟨0, false, .blockBitmap (presentSubblocks bitmap)⟩ := by
  obtain ⟨hbits, hlist⟩ := buildSubblock_foldl bitmap (Nat.le_refl 8)
  rw [List.take_of_length_le (by simp)] at hlist
  have hpvb : buildPvb bitmap = buildBlock bitmap 0 := by
    show (List.range 1).flatMap (buildBlock bitmap) = buildBlock bitmap 0
    rw [List.range_one, List.flatMap_singleton]
  rw [hpvb]
  unfold buildBlock
  show (if ((List.range 8).foldl (buildSubblock bitmap 0) (0, [])).2.isEmpty then []
    else _ :: ((List.range 8).foldl (buildSubblock bitmap 0) (0, [])).1
      :: ((List.range 8).foldl (buildSubblock bitmap 0) (0, [])).2) = _
  have hbitmap : ((List.range 8).foldl (buildSubblock bitmap 0) (0, [])).1
      = subblockBitmap (presentSubblocks bitmap) := by
    apply BitVec.eq_of_getLsbD_eq
    intro i hi
    rw [hbits i hi, decide_eq_true hi, Bool.true_and]
  rw [hlist, hbitmap]
  by_cases hzero : ∀ m, bitmap m = 0
  · have hnone : (List.ofFn (presentSubblocks bitmap)).filterMap id = [] := by
      apply List.filterMap_eq_nil_iff.mpr
      intro o ho
      obtain ⟨m, rfl⟩ := List.mem_ofFn.mp ho
      exact if_pos (hzero m)
    rw [hnone, if_pos hzero]
    rfl
  obtain ⟨m, hm⟩ := not_forall.mp hzero
  have hmem : bitmap m ∈ (List.ofFn (presentSubblocks bitmap)).filterMap id := by
    apply List.mem_filterMap.mpr
    exact ⟨some (bitmap m), List.mem_ofFn.mpr ⟨m, if_neg hm⟩, rfl⟩
  have hne : ((List.ofFn (presentSubblocks bitmap)).filterMap id).isEmpty = false := by
    rw [List.isEmpty_eq_false_iff]
    exact List.ne_nil_of_mem hmem
  have hctrl : dot11SetOctetField (dot11SetOctetField 0 0x03 0 dot11TimBlockEncodingBlockBitmap)
      0xf8 3 (BitVec.ofNat 8 0)
      = TimBlock.hdr ⟨0, false, .blockBitmap (presentSubblocks bitmap)⟩ := by
    show _ = BitVec.ofNat 8 (8 * 0 + 4 * 0 + 0)
    decide
  rw [hne, if_neg hzero, if_neg (by simp), hctrl]
  rfl

/-! ## The element that is built -/

/-- Nothing to announce. -/
def NoTraffic (trafficIndicator : Bool) (bitmap : TrafficBitmap) : Prop :=
  trafficIndicator = false ∧ ∀ m, bitmap m = 0

instance (trafficIndicator : Bool) (bitmap : TrafficBitmap) :
    Decidable (NoTraffic trafficIndicator bitmap) := inferInstanceAs (Decidable (_ ∧ _))

theorem length_blockBitmap_octets (bitmap : TrafficBitmap) :
    (TimBlock.octets ⟨0, false, .blockBitmap (presentSubblocks bitmap)⟩).length ≤ 10 := by
  show ((List.ofFn (presentSubblocks bitmap)).filterMap id).length + 1 + 1 ≤ 10
  have hle := List.length_filterMap_le id (List.ofFn (presentSubblocks bitmap))
  rw [List.length_ofFn] at hle
  omega

/-- The blocks the builder writes. -/
def builtBlocks (bitmap : TrafficBitmap) : List TimBlock :=
  if ∀ m, bitmap m = 0 then [] else [⟨0, false, .blockBitmap (presentSubblocks bitmap)⟩]

theorem timBlockOctets_builtBlocks (bitmap : TrafficBitmap) :
    timBlockOctets (builtBlocks bitmap) = buildPvb bitmap := by
  rw [buildPvb_eq]
  unfold builtBlocks timBlockOctets
  split
  · rfl
  · exact List.flatMap_singleton ..

theorem length_buildPvb (bitmap : TrafficBitmap) : (buildPvb bitmap).length ≤ 10 := by
  rw [buildPvb_eq]
  split
  · exact Nat.zero_le _
  · exact length_blockBitmap_octets bitmap

/-- The element the builder writes. -/
def builtTim (dtimCount dtimPeriod : U8) (trafficIndicator : Bool) (bitmap : TrafficBitmap) :
    S1gTim where
  dtimCount := dtimCount
  dtimPeriod := dtimPeriod
  trafficIndicator := trafficIndicator
  pageIndex := 0
  pageSlice := 31
  blocks := builtBlocks bitmap
  pageSlice_ok := allPages
  fits := by
    have hle := length_buildPvb bitmap
    rw [timBlockOctets_builtBlocks]
    omega

theorem buildPvb_eq_nil (bitmap : TrafficBitmap) : buildPvb bitmap = [] ↔ ∀ m, bitmap m = 0 := by
  rw [buildPvb_eq]
  constructor
  · intro h
    by_contra hsome
    rw [if_neg hsome] at h
    exact absurd h (by simp [TimBlock.octets])
  · intro h
    exact if_pos h

theorem timLen_eq (trafficIndicator : Bool) (bitmap : TrafficBitmap) :
    timLen trafficIndicator (buildPvb bitmap)
      = if NoTraffic trafficIndicator bitmap then 2 else 3 + (buildPvb bitmap).length := by
  unfold timLen
  by_cases hnone : NoTraffic trafficIndicator bitmap
  · rw [if_pos hnone, hnone.1, (buildPvb_eq_nil bitmap).mpr hnone.2]
    rfl
  rw [if_neg hnone, if_pos]
  · omega
  cases trafficIndicator with
  | true => rfl
  | false =>
    rw [Bool.false_or]
    apply decide_eq_true
    apply List.length_pos_iff.mpr
    intro h
    exact hnone ⟨rfl, (buildPvb_eq_nil bitmap).mp h⟩

theorem timOctets_eq (dtimCount dtimPeriod : U8) (trafficIndicator : Bool)
    (bitmap : TrafficBitmap) :
    timOctets dtimCount dtimPeriod trafficIndicator (buildPvb bitmap)
      = if NoTraffic trafficIndicator bitmap then [dot11IeTim, 2, dtimCount, dtimPeriod]
        else (builtTim dtimCount dtimPeriod trafficIndicator bitmap).octets := by
  have hlen := timLen_eq trafficIndicator bitmap
  unfold timOctets S1gTim.octets
  dsimp only
  rw [hlen]
  by_cases hnone : NoTraffic trafficIndicator bitmap
  · rw [if_pos hnone, if_pos hnone]
    rfl
  have hpvb : (if 3 + (buildPvb bitmap).length = 3 then [] else buildPvb bitmap)
      = buildPvb bitmap := by
    split
    · rename_i h
      exact (List.length_eq_zero_iff.mp (by omega)).symm
    · rfl
  have hctrl : dot11SetOctetField (dot11SetOctetField (dot11SetOctetField 0 0x01 0
      (if trafficIndicator then 1 else 0)) 0x3e 1 0x1f) 0xc0 6 0
      = BitVec.ofNat 8 (64 * 0 + 2 * 31 + trafficIndicator.toNat) := by
    cases trafficIndicator with
    | true | false => decide
  rw [if_neg hnone, if_neg hnone, if_neg (by omega), hpvb, hctrl,
    show (builtTim dtimCount dtimPeriod trafficIndicator bitmap).blocks = builtBlocks bitmap
      from rfl, timBlockOctets_builtBlocks]
  rfl

/-! ## The two passes -/

theorem ieS1gTimBuild_sizing (c : Consbuf) (hbuf : c.buf = none) (dtimCount dtimPeriod : U8)
    (trafficIndicator : Bool) (bitmap : TrafficBitmap) :
    ieS1gTimBuild c dtimCount dtimPeriod trafficIndicator bitmap
      = some { c with offset := c.offset + 256 } := by
  obtain ⟨buf, bufSize, offset⟩ := c
  obtain rfl : buf = none := hbuf
  rfl

theorem length_timOctets (dtimCount dtimPeriod : U8) (trafficIndicator : Bool) (pvb : List U8) :
    (timOctets dtimCount dtimPeriod trafficIndicator pvb).length
      = ieSizeofHeader + timLen trafficIndicator pvb := by
  have hlen : timLen trafficIndicator pvb = 2 ∨ timLen trafficIndicator pvb = 3 + pvb.length := by
    unfold timLen
    split
    · right
      omega
    · left
      rfl
  unfold timOctets
  dsimp only
  rcases hlen with hlen | hlen
  · rw [hlen, if_pos rfl]
    rfl
  have hpvb : (if 3 + pvb.length = 3 then [] else pvb).length = pvb.length := by
    split
    · rename_i hzero
      show 0 = pvb.length
      omega
    · rfl
  rw [hlen, if_neg (by omega), List.length_append]
  show 4 + ((if 3 + pvb.length = 3 then [] else pvb).length + 1) = 2 + (3 + pvb.length)
  rw [hpvb]
  omega

theorem timLen_le (trafficIndicator : Bool) (bitmap : TrafficBitmap) :
    timLen trafficIndicator (buildPvb bitmap) ≤ 13 := by
  have hpvb := length_buildPvb bitmap
  unfold timLen
  split <;> omega

/-- The writing pass writes the octets at the offset, and nothing else. -/
theorem ieS1gTimBuild_writing (mem : BytePtr) {bufSize offset : Nat}
    (hroom : offset + 256 ≤ bufSize) (dtimCount dtimPeriod : U8) (trafficIndicator : Bool)
    (bitmap : TrafficBitmap) :
    ∃ mem' : BytePtr,
      ieS1gTimBuild ⟨some mem, bufSize, offset⟩ dtimCount dtimPeriod trafficIndicator bitmap
          = some ⟨some mem', bufSize, offset
              + (timOctets dtimCount dtimPeriod trafficIndicator (buildPvb bitmap)).length⟩
        ∧ BytesAt mem' offset
            (timOctets dtimCount dtimPeriod trafficIndicator (buildPvb bitmap))
        ∧ ∀ i, i < offset ∨ offset
            + (timOctets dtimCount dtimPeriod trafficIndicator (buildPvb bitmap)).length ≤ i →
            mem' i = mem i := by
  have hle := timLen_le trafficIndicator bitmap
  have hlen := length_timOctets dtimCount dtimPeriod trafficIndicator (buildPvb bitmap)
  have hheader : ieSizeofHeader = 2 := rfl
  have hreserve : consbufReserve ⟨some mem, bufSize, offset⟩
      (ieSizeofHeader + timLen trafficIndicator (buildPvb bitmap))
      = some (⟨some mem, bufSize,
          offset + (ieSizeofHeader + timLen trafficIndicator (buildPvb bitmap))⟩, some offset) := by
    have hfit : ieSizeofHeader + timLen trafficIndicator (buildPvb bitmap) ≤ bufSize - offset := by
      omega
    exact if_pos hfit
  have hbuild : ieS1gTimBuild ⟨some mem, bufSize, offset⟩ dtimCount dtimPeriod trafficIndicator
      bitmap = some (Consbuf.write ⟨some mem, bufSize,
          offset + (ieSizeofHeader + timLen trafficIndicator (buildPvb bitmap))⟩ offset
        (timOctets dtimCount dtimPeriod trafficIndicator (buildPvb bitmap))) := by
    have hzero : consbufReserve ⟨some mem, bufSize, offset⟩ 0
        = some (⟨some mem, bufSize, offset⟩, some offset) := by
      simp [consbufReserve]
    unfold ieS1gTimBuild
    rw [hzero]
    dsimp only
    rw [hreserve]
  rw [hbuild, hlen]
  refine ⟨_, rfl, ?_, ?_⟩
  · intro i hi
    dsimp only
    rw [dif_pos ⟨by omega, by omega⟩]
    congr 1
    omega
  intro i hi
  dsimp only
  rw [dif_neg]
  rw [hlen]
  omega

/-! ## The element is given back to the parser -/

theorem presentSubblocks_lists (bitmap : TrafficBitmap) (m : Fin 8) (i : Nat) :
    (match presentSubblocks bitmap m with
      | none => false
      | some subblock => subblock.getLsbD i) = (bitmap m).getLsbD i := by
  by_cases hempty : bitmap m = 0
  · rw [show presentSubblocks bitmap m = none from if_pos hempty, hempty]
    exact BitVec.getLsbD_zero.symm
  · rw [show presentSubblocks bitmap m = some (bitmap m) from if_neg hempty]

theorem builtTim_readIndicates (dtimCount dtimPeriod : U8) (trafficIndicator : Bool)
    (bitmap : TrafficBitmap) (aid : U16) (h : aid.toNat < maxSupportedAid) :
    (builtTim dtimCount dtimPeriod trafficIndicator bitmap).readIndicates aid.toNat
      = trafficBit bitmap aid h := by
  have haid : aid.toNat < 64 := h
  have hoctet : (aidOctet aid h : Fin 8) = ⟨aid.toNat / 8 % 8, Nat.mod_lt _ (by decide)⟩ := by
    apply Fin.ext
    show (aid >>> 3).toNat = aid.toNat / 8 % 8
    rw [BitVec.toNat_ushiftRight, Nat.shiftRight_eq_div_pow]
    omega
  rw [trafficBit_eq, hoctet]
  show (builtBlocks bitmap).any (fun b => b.readIndicates 0 aid.toNat) = _
  unfold builtBlocks
  split
  · rename_i hzero
    rw [hzero]
    exact BitVec.getLsbD_zero.symm
  have hlists := presentSubblocks_lists bitmap ⟨aid.toNat / 8 % 8, Nat.mod_lt _ (by decide)⟩
    (aid.toNat % 8)
  rw [List.any_cons, List.any_nil, Bool.or_false]
  show ((aid.toNat / 2048 == 0 && aid.toNat / 64 % 32 == 0) && (_ != false) : Bool) = _
  rw [show aid.toNat / 2048 = 0 by omega, show aid.toNat / 64 % 32 = 0 by omega,
    Bool.bne_false]
  exact hlists

theorem ieS1gTimHasAid_timOctets {p : BytePtr} {dtimCount dtimPeriod : U8}
    {trafficIndicator : Bool} {bitmap : TrafficBitmap}
    (hbytes : BytesAt p 0 (timOctets dtimCount dtimPeriod trafficIndicator (buildPvb bitmap)))
    (aid : U16) (h : aid.toNat < maxSupportedAid) :
    ieS1gTimHasAid p aid = some (trafficBit bitmap aid h) := by
  have haid : aid.toNat < 64 := h
  rw [timOctets_eq] at hbytes
  by_cases hnone : NoTraffic trafficIndicator bitmap
  · rw [if_pos hnone] at hbytes
    have hlen : p 1 = 2 := hbytes 1 (by decide : 1 < 4)
    unfold ieS1gTimHasAid
    dsimp only
    rw [hlen, if_pos (by decide), trafficBit_eq, hnone.2]
    exact congrArg some BitVec.getLsbD_zero.symm
  · rw [if_neg hnone] at hbytes
    rw [ieS1gTimHasAid_eq hbytes (by omega), builtTim_readIndicates _ _ _ _ _ h]

/-- The finder, on lists of elements that hold these octets behind elements of other
ids. -/
def FoundInLists (octets : List U8) (found : Nat → Option Nat) : Prop :=
  ∀ (ies : BytePtr) (before : List Ie) (iesLen : Nat), (∀ ie ∈ before, ie.id ≠ dot11IeTim) →
    BytesAt ies 0 (ieOctets before ++ octets) → (ieOctets before ++ octets).length ≤ iesLen →
    ieS1gTimFind ies iesLen = found (ieOctets before).length

theorem timOctets_foundInLists (dtimCount dtimPeriod : U8) (trafficIndicator : Bool)
    (bitmap : TrafficBitmap) :
    FoundInLists (timOctets dtimCount dtimPeriod trafficIndicator (buildPvb bitmap))
      fun place => if NoTraffic trafficIndicator bitmap then none else some place := by
  intro ies before iesLen hother hbytes hlen
  have hle := timLen_le trafficIndicator bitmap
  have hlength := length_timOctets dtimCount dtimPeriod trafficIndicator (buildPvb bitmap)
  obtain ⟨info, hinfo⟩ : ∃ info, timOctets dtimCount dtimPeriod trafficIndicator (buildPvb bitmap)
      = dot11IeTim :: BitVec.ofNat 8 (timLen trafficIndicator (buildPvb bitmap)) :: info :=
    ⟨_, rfl⟩
  rw [hinfo] at hlength hbytes hlen
  have hinfoLen : info.length = timLen trafficIndicator (buildPvb bitmap) := by
    have hheader : ieSizeofHeader = 2 := rfl
    rw [List.length_cons, List.length_cons] at hlength
    omega
  let tim : Ie := ⟨dot11IeTim, info, by omega⟩
  have htim : tim.octets
      = dot11IeTim :: BitVec.ofNat 8 (timLen trafficIndicator (buildPvb bitmap)) :: info := by
    rw [← hinfoLen]
    rfl
  rw [← htim] at hbytes hlen
  have hfind := ieFind_of_first hbytes hlen hother
  have hieLen := (ie_header hbytes.append.2).2.1
  rw [Nat.zero_add] at hieLen
  unfold ieS1gTimFind
  rw [show ieFind ies iesLen dot11IeTim = (some (ieOctets before).length, .ieFound) from hfind]
  dsimp only
  rw [hieLen]
  show (if 3 ≤ info.length then some (ieOctets before).length else none) = _
  rw [hinfoLen, timLen_eq]
  by_cases hnone : NoTraffic trafficIndicator bitmap
  · rw [if_pos hnone, if_pos hnone]
    rfl
  · rw [if_neg hnone, if_neg hnone, if_pos (by omega)]

/-! ## Build and parse -/

/-- What the element that is built is to keep: the sizing pass asks for enough room, the
length octet counts the octets behind it, `ie_s1g_tim_find` finds the element where
`found` says, and `ie_s1g_tim_has_aid` reads the bitmap back. -/
structure TimRoundTrip (dtimCount dtimPeriod : U8) (trafficIndicator : Bool)
    (bitmap : TrafficBitmap) (found : Nat → Option Nat) : Prop where
  sizing : ∀ c : Consbuf, c.buf = none →
    ieS1gTimBuild c dtimCount dtimPeriod trafficIndicator bitmap
      = some { c with offset := c.offset + 256 }
  writing : ∀ (mem : BytePtr) (bufSize offset : Nat), offset + 256 ≤ bufSize →
    ∃ (mem' : BytePtr) (octets : List U8),
      ieS1gTimBuild ⟨some mem, bufSize, offset⟩ dtimCount dtimPeriod trafficIndicator bitmap
          = some ⟨some mem', bufSize, offset + octets.length⟩
        ∧ octets.length ≤ 256
        ∧ BytesAt mem' offset octets
        ∧ (∀ i, i < offset ∨ offset + octets.length ≤ i → mem' i = mem i)
        ∧ octets.length = ieSizeofHeader + (mem' (offset + 1)).toNat
        ∧ FoundInLists octets found
        ∧ ∀ (aid : U16) (h : aid.toNat < maxSupportedAid),
            ieS1gTimHasAid (mem'.add offset) aid = some (trafficBit bitmap aid h)

/-- Everything holds of the element that is built, except that it is found only where there
is something to announce. -/
theorem ieS1gTimBuild_roundTrip (dtimCount dtimPeriod : U8) (trafficIndicator : Bool)
    (bitmap : TrafficBitmap) :
    TimRoundTrip dtimCount dtimPeriod trafficIndicator bitmap
      fun place => if NoTraffic trafficIndicator bitmap then none else some place where
  sizing c hbuf := ieS1gTimBuild_sizing c hbuf dtimCount dtimPeriod trafficIndicator bitmap
  writing mem bufSize offset hroom := by
    obtain ⟨mem', hbuild, hbytes, hframe⟩ :=
      ieS1gTimBuild_writing mem hroom dtimCount dtimPeriod trafficIndicator bitmap
    have hle := timLen_le trafficIndicator bitmap
    have hlen := length_timOctets dtimCount dtimPeriod trafficIndicator (buildPvb bitmap)
    have hheader : ieSizeofHeader = 2 := rfl
    have hlenOctet : mem' (offset + 1)
        = BitVec.ofNat 8 (timLen trafficIndicator (buildPvb bitmap)) := by
      apply hbytes 1
      omega
    refine ⟨mem', _, hbuild, by omega, hbytes, hframe, ?_, ?_, ?_⟩
    · rw [hlen, hlenOctet, BitVec.toNat_ofNat, Nat.mod_eq_of_lt (by omega)]
    · exact timOctets_foundInLists dtimCount dtimPeriod trafficIndicator bitmap
    · intro aid haid
      exact ieS1gTimHasAid_timOctets hbytes.add aid haid

/-- AID 0 has no bit. -/
def AidZeroClear (bitmap : TrafficBitmap) : Prop :=
  trafficBit bitmap 0 (by decide) = false

/-- Without traffic the element is not found. -/
theorem ieS1gTimBuild_not_found : ¬ ∀ (dtimCount dtimPeriod : U8) (trafficIndicator : Bool)
    (bitmap : TrafficBitmap), AidZeroClear bitmap →
    TimRoundTrip dtimCount dtimPeriod trafficIndicator bitmap some := by
  intro h
  have hzero : AidZeroClear fun _ => 0 := by
    unfold AidZeroClear
    decide
  obtain ⟨mem', octets, hbuild, _, hbytes, _, _, hfound, _⟩ :=
    (h 0 1 false (fun _ => 0) hzero).writing (fun _ => 0) 256 0 (by decide)
  obtain ⟨mem'', hbuild', hbytes', _⟩ :=
    ieS1gTimBuild_writing (fun _ => 0) (by decide : 0 + 256 ≤ 256) 0 1 false fun _ => 0
  rw [hbuild] at hbuild'
  injection hbuild' with hbuf
  injection hbuf with hmem _ hoffset
  cases hmem
  have hplace := hfound mem' [] octets.length (fun _ h => absurd h (by simp)) hbytes (Nat.le_refl _)
  have hle : (ieOctets [] ++ timOctets 0 1 false (buildPvb fun _ => 0)).length
      ≤ octets.length := by
    show (timOctets 0 1 false (buildPvb fun _ => 0)).length ≤ octets.length
    omega
  have hnone := timOctets_foundInLists 0 1 false (fun _ => 0) mem' [] octets.length
    (fun _ h => absurd h (by simp)) hbytes' hle
  have hnoTraffic : NoTraffic false fun _ => 0 := ⟨rfl, fun _ => rfl⟩
  rw [hplace] at hnone
  dsimp only at hnone
  rw [if_pos hnoTraffic] at hnone
  exact absurd hnone (by simp)

end MmIotEsp32.Umac.Ies
