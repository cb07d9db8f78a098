/-
  MmIotEsp32.Driver.Transport.SdioTransfers

  What the commands of a request move.
-/
import MmIotEsp32.Driver.Transport.Sdio
import MmIotEsp32.Lib.BitFields
import MmIotEsp32.Lib.Tiling

namespace MmIotEsp32.Driver.Transport

open Lib

/-! ## The parts -/

theorem toNat_windowBase (address : U32) :
    (windowBase address).toNat = address.toNat / 0x10000 * 0x10000 := by
  have hupper : ((address &&& 0xFFFF0000) >>> 16).toNat = bitsAt address.toNat 16 16 :=
    toNat_maskedField address 0xFFFF0000 (by decide)
  have hlower : (windowBase address).toNat % 0x10000 = 0 := by
    have hnone : windowBase address &&& 0x0000FFFF = 0 := by
      unfold windowBase
      rw [BitVec.and_assoc]
      exact BitVec.and_zero
    have hand := congrArg BitVec.toNat hnone
    rw [BitVec.toNat_and] at hand
    rw [← Nat.and_two_pow_sub_one_eq_mod _ 16]
    exact hand
  have hlt := address.isLt
  rw [BitVec.toNat_ushiftRight, Nat.shiftRight_eq_div_pow] at hupper
  change (windowBase address).toNat / 2 ^ 16 = address.toNat / 2 ^ 16 % 2 ^ 16 at hupper
  omega

theorem toNat_partLimit (fn : MmhalSdioFunction) (len : U32) :
    (if len < BitVec.ofNat 32 (maxBlockTransferSize fn) then len
      else BitVec.ofNat 32 (maxBlockTransferSize fn)).toNat
      = min len.toNat (maxBlockTransferSize fn) := by
  have hmax : (BitVec.ofNat 32 (maxBlockTransferSize fn)).toNat = maxBlockTransferSize fn := by
    cases fn <;> rfl
  split
  · next h =>
      rw [BitVec.lt_def, hmax] at h
      omega
  next h =>
    rw [BitVec.lt_def, hmax] at h
    rw [hmax]
    omega

theorem toNat_nextBoundary (address : U32) :
    (windowBase address + 0x10000).toNat
      = (address.toNat / 0x10000 * 0x10000 + 0x10000) % 2 ^ 32 := by
  rw [BitVec.toNat_add, toNat_windowBase]
  rfl

theorem toNat_partSize (fn : MmhalSdioFunction) (address len : U32) :
    (partSize fn address len).toNat
      = if (address.toNat / 0x10000 * 0x10000 + 0x10000) % 2 ^ 32
            < (address.toNat + min len.toNat (maxBlockTransferSize fn)) % 2 ^ 32 then
          (2 ^ 32 - address.toNat
            + (address.toNat / 0x10000 * 0x10000 + 0x10000) % 2 ^ 32) % 2 ^ 32
        else min len.toNat (maxBlockTransferSize fn) := by
  unfold partSize
  dsimp only
  have hlimit := toNat_partLimit fn len
  generalize (if len < BitVec.ofNat 32 (maxBlockTransferSize fn) then len
    else BitVec.ofNat 32 (maxBlockTransferSize fn)) = size at hlimit
  have hboundary := toNat_nextBoundary address
  generalize windowBase address + 0x10000 = boundary at hboundary
  rw [← hboundary, ← hlimit, ← BitVec.toNat_add]
  split
  · next h => rw [if_pos (BitVec.lt_def.mp h), BitVec.toNat_sub]
  · next h => rw [if_neg fun hlt => h (BitVec.lt_def.mpr hlt)]

theorem partSize_inside {fn : MmhalSdioFunction} {address len : U32} (hlen : 0 < len.toNat)
    (htop : address.toNat < 0xFFFF0000) :
    0 < (partSize fn address len).toNat ∧ (partSize fn address len).toNat ≤ len.toNat
      ∧ (partSize fn address len).toNat ≤ maxBlockTransferSize fn
      ∧ address.toNat % 0x10000 + (partSize fn address len).toNat ≤ 0x10000 := by
  have hmax : 0 < maxBlockTransferSize fn ∧ maxBlockTransferSize fn ≤ 0x10000 := by
    cases fn <;> decide
  rw [toNat_partSize]
  split <;> omega

theorem partSize_last {fn : MmhalSdioFunction} {address len : U32} (hlen : 0 < len.toNat)
    (htop : 0xFFFF0000 ≤ address.toNat) :
    (partSize fn address len).toNat
      = if address.toNat + min len.toNat (maxBlockTransferSize fn) = 2 ^ 32
        then min len.toNat (maxBlockTransferSize fn)
        else 2 ^ 32 - address.toNat := by
  have hlt := address.isLt
  have hmax : 0 < maxBlockTransferSize fn ∧ maxBlockTransferSize fn ≤ 0x10000 := by
    cases fn <;> decide
  rw [toNat_partSize]
  split
  · next h =>
      split <;> omega
  next h =>
    split <;> omega

/-! ## The commands of a transfer -/

/-- The octets that a command moves. -/
def Cmd53.range (c : Cmd53) : Nat × Nat := (c.address.toNat, c.size)

/-- A command has the form that the bus allows. -/
structure Cmd53.WellFormed (c : Cmd53) : Prop where
  window : c.address.toNat % 0x10000 + c.size ≤ 0x10000
  block : c.mode = .block →
    c.size = c.transferLength.toNat * Transport.blockSize c.fn
      ∧ c.transferLength.toNat ≤ cmd53MaxBlocks
  byte : c.mode = .byte → c.size = c.transferLength.toNat ∧ c.size < Transport.blockSize c.fn

/-- Only commands were issued, all of them to `fn`, whose window stayed where it was. -/
structure Issued (s s' : SdioData) (fn : MmhalSdioFunction) (issued : List Cmd53) : Prop where
  cmd53s : s'.cmd53s = s.cmd53s ++ issued
  chip : s'.chip = s.chip
  fn1 : s'.addressBaseFn1Cache = s.addressBaseFn1Cache
  fn2 : s'.addressBaseFn2Cache = s.addressBaseFn2Cache
  window : ∀ c ∈ issued, c.fn = fn ∧ c.window = chipWindow s fn

theorem Issued.refl (s : SdioData) (fn : MmhalSdioFunction) : Issued s s fn [] :=
  ⟨(List.append_nil _).symm, rfl, rfl, rfl, fun _ h => absurd h List.not_mem_nil⟩

variable {fn : MmhalSdioFunction}

theorem Issued.trans {s s' s'' : SdioData} {first second : List Cmd53}
    (h : Issued s s' fn first) (h' : Issued s' s'' fn second) :
    Issued s s'' fn (first ++ second) where
  cmd53s := by rw [h'.cmd53s, h.cmd53s, List.append_assoc]
  chip := h'.chip.trans h.chip
  fn1 := h'.fn1.trans h.fn1
  fn2 := h'.fn2.trans h.fn2
  window := by
    intro c hc
    rcases List.mem_append.mp hc with hc | hc
    · exact h.window c hc
    have hwindow := h'.window c hc
    unfold chipWindow at hwindow ⊢
    rw [h.chip] at hwindow
    exact hwindow

theorem issueCmd53_issued (answers : BusAnswers) (s : SdioData) (rw : MmhalSdioRw)
    (place : PartPlace) (fn : MmhalSdioFunction) (mode : MmhalSdioMode) (address count : U32)
    (size : Nat) :
    Issued s (issueCmd53 answers s rw place fn mode address count size).1 fn
      [cmd53Record answers s rw place fn mode address count size] := by
  refine ⟨rfl, rfl, rfl, rfl, fun c hc => ?_⟩
  rw [List.mem_singleton.mp hc]
  exact ⟨rfl, rfl⟩

/-- What a transfer issues, and what it says about it. -/
structure Transfer (place : PartPlace) (address len : Nat) (fn : MmhalSdioFunction)
    (issued : List Cmd53) (answer : MorseError) : Prop where
  again : ∀ c ∈ issued, c.again = place.again
  placed : ∀ c ∈ issued, c.offset + address = c.address.toNat + place.offset
  allOk : answer = .success ↔ ∀ c ∈ issued, c.ok = true
  tiles : answer = .success → Tiles address len (issued.map Cmd53.range)
  inside : ∀ c ∈ issued, address ≤ c.address.toNat ∧ 0 < c.size
    ∧ c.address.toNat + c.size ≤ address + len
  block : ∀ c ∈ issued, c.mode = .block → c.size = c.transferLength.toNat * blockSize fn
  byte : ∀ c ∈ issued, c.mode = .byte → c.size = c.transferLength.toNat ∧ c.size < blockSize fn

theorem cmd53Bytes_transfer (answers : BusAnswers) (s : SdioData) (rw : MmhalSdioRw)
    (place : PartPlace) (address len : U32) (hlen : len.toNat < blockSize fn) (result : MorseError)
    (hresult : len.toNat = 0 → result = .success) :
    ∃ issued, Issued s (cmd53Bytes answers s rw place fn address len result).1 fn issued
      ∧ Transfer place address.toNat len.toNat fn issued
        (cmd53Bytes answers s rw place fn address len result).2 := by
  unfold cmd53Bytes
  by_cases hpos : 0 < len
  · rw [if_pos hpos]
    refine ⟨_, issueCmd53_issued answers s rw place fn .byte address len len.toNat, ?_⟩
    have hpos' : 0 < len.toNat := BitVec.lt_def.mp hpos
    generalize hrecord : cmd53Record answers s rw place fn .byte address len len.toNat = record
    have hanswer : (issueCmd53 answers s rw place fn .byte address len len.toNat).2 = record.ok := by
      rw [← hrecord]
      rfl
    show Transfer _ _ _ _ _ (if (issueCmd53 answers s rw place fn .byte address len
      len.toNat).2 = true then MorseError.success else .failed)
    rw [hanswer]
    refine ⟨?_, ?_, ?_, ?_, ?_, ?_, ?_⟩
    · intro c hc
      rw [List.mem_singleton.mp hc, ← hrecord]
      rfl
    · intro c hc
      rw [List.mem_singleton.mp hc, ← hrecord]
      exact Nat.add_comm _ _
    · rw [List.forall_mem_singleton]
      cases record.ok <;> simp
    · intro _
      rw [← hrecord]
      exact ⟨rfl, hpos', Nat.le_refl _, Nat.sub_self _⟩
    · intro c hc
      rw [List.mem_singleton.mp hc, ← hrecord]
      exact ⟨Nat.le_refl _, hpos', Nat.le_refl _⟩
    · intro c hc hmode
      rw [List.mem_singleton.mp hc, ← hrecord] at hmode
      cases hmode
    · intro c hc _
      rw [List.mem_singleton.mp hc, ← hrecord]
      exact ⟨rfl, hlen⟩
  rw [if_neg hpos]
  have hzero : len.toNat = 0 := by
    rw [BitVec.lt_def] at hpos
    exact Nat.eq_zero_of_not_pos hpos
  have hnone : ∀ {q : Cmd53 → Prop}, ∀ c ∈ ([] : List Cmd53), q c :=
    fun c hc => absurd hc List.not_mem_nil
  refine ⟨[], .refl s fn, hnone, hnone, ?_, fun _ => ?_, hnone, hnone, hnone⟩
  · exact ⟨fun _ => hnone, fun _ => hresult hzero⟩
  · rw [hzero]
    exact tiles_nil.mpr rfl

theorem toNat_numBlocks {fn : MmhalSdioFunction} {len : U32} (hle : len.toNat ≤ 0x10000) :
    ((len >>> blockSizeLog2 fn).setWidth 16).toNat = len.toNat / blockSize fn := by
  have hdiv : (len >>> blockSizeLog2 fn).toNat = len.toNat / blockSize fn := by
    rw [BitVec.toNat_ushiftRight, Nat.shiftRight_eq_div_pow]
    rfl
  have hsmall : len.toNat / blockSize fn < 2 ^ 16 := by
    have hblock : 8 ≤ blockSize fn := by cases fn <;> decide
    have hmul := Nat.div_mul_le_self len.toNat (blockSize fn)
    have hmul' := Nat.mul_le_mul_left (len.toNat / blockSize fn) hblock
    omega
  rw [BitVec.toNat_setWidth, hdiv, Nat.mod_eq_of_lt hsmall]

theorem toNat_transferSize {fn : MmhalSdioFunction} {numBlocks : U16} {n : Nat}
    (hn : numBlocks.toNat * blockSize fn = n) (hle : n ≤ 0x10000) :
    (numBlocks.setWidth 32 * BitVec.ofNat 32 (blockSize fn) : U32).toNat = n := by
  have hwidth : (numBlocks.setWidth 32).toNat = numBlocks.toNat := by
    rw [BitVec.toNat_setWidth]
    exact Nat.mod_eq_of_lt (Nat.lt_trans numBlocks.isLt (by decide))
  have hblock : (BitVec.ofNat 32 (blockSize fn)).toNat = blockSize fn := by cases fn <;> rfl
  rw [BitVec.toNat_mul, hwidth, hblock, hn]
  exact Nat.mod_eq_of_lt (Nat.lt_of_le_of_lt hle (by decide))

theorem cmd53Transfer_transfer (answers : BusAnswers) (s : SdioData) (rw : MmhalSdioRw)
    (place : PartPlace) (fn : MmhalSdioFunction) {address len : U32} (result : MorseError)
    (hlen : 0 < len.toNat) (hle : len.toNat ≤ 0x10000)
    (hend : address.toNat + len.toNat ≤ 2 ^ 32) :
    ∃ issued, Issued s (cmd53Transfer answers s rw place fn address len result).1 fn issued
      ∧ Transfer place address.toNat len.toNat fn issued
        (cmd53Transfer answers s rw place fn address len result).2 := by
  have hnum := @toNat_numBlocks fn len hle
  have hblock : 0 < blockSize fn := by cases fn <;> decide
  have hmod := Nat.mod_lt len.toNat hblock
  have hsum := Nat.div_add_mod' len.toNat (blockSize fn)
  unfold cmd53Transfer
  dsimp only
  generalize (len >>> blockSizeLog2 fn).setWidth 16 = numBlocks at hnum
  by_cases hblocks : 0 < numBlocks
  · rw [if_pos hblocks]
    have hpos : 0 < numBlocks.toNat := BitVec.lt_def.mp hblocks
    have hsize := @toNat_transferSize fn numBlocks _ rfl (by rw [hnum]; omega)
    generalize (numBlocks.setWidth 32 * BitVec.ofNat 32 (blockSize fn) : U32) = transferSize
      at hsize
    have hcount : (numBlocks.setWidth 32).toNat = numBlocks.toNat := by
      rw [BitVec.toNat_setWidth]
      exact Nat.mod_eq_of_lt (Nat.lt_trans numBlocks.isLt (by decide))
    have hissued := issueCmd53_issued answers s rw place fn .block address
      (numBlocks.setWidth 32) transferSize.toNat
    generalize hrecord : cmd53Record answers s rw place fn .block address
      (numBlocks.setWidth 32) transferSize.toNat = record at hissued
    have hanswer : (issueCmd53 answers s rw place fn .block address (numBlocks.setWidth 32)
        transferSize.toNat).2 = record.ok := by
      rw [← hrecord]
      rfl
    generalize issueCmd53 answers s rw place fn .block address (numBlocks.setWidth 32)
      transferSize.toNat = after at hissued hanswer
    obtain ⟨s₁, ok⟩ := after
    dsimp only at hissued hanswer ⊢
    subst hanswer
    have hfits : transferSize.toNat ≤ len.toNat := by rw [hsize, hnum]; omega
    have hsome : 0 < transferSize.toNat := by
      rw [hsize]
      exact Nat.mul_pos hpos hblock
    have hrange : record.range = (address.toNat, transferSize.toNat) := by rw [← hrecord]; rfl
    have hrest : (len - transferSize).toNat = len.toNat - transferSize.toNat :=
      BitVec.toNat_sub_of_le (BitVec.le_def.mpr hfits)
    cases hok : record.ok with
    | false =>
      refine ⟨[record], hissued, ?_⟩
      refine ⟨?_, ?_, ?_, fun hsuccess => (by cases hsuccess), ?_, ?_, ?_⟩
      · intro c hc
        rw [List.mem_singleton.mp hc, ← hrecord]
        rfl
      · intro c hc
        rw [List.mem_singleton.mp hc, ← hrecord]
        exact Nat.add_comm _ _
      · rw [List.forall_mem_singleton, hok]
        simp
      · intro c hc
        rw [List.mem_singleton.mp hc, ← hrecord]
        exact ⟨Nat.le_refl _, hsome, Nat.add_le_add_left hfits _⟩
      · intro c hc _
        rw [List.mem_singleton.mp hc, ← hrecord]
        show transferSize.toNat = (numBlocks.setWidth 32).toNat * _
        rw [hcount, hsize]
      · intro c hc hmode
        rw [List.mem_singleton.mp hc, ← hrecord] at hmode
        cases hmode
    | true =>
      have hleft : (len - transferSize).toNat < blockSize fn := by rw [hrest, hsize, hnum]; omega
      obtain ⟨bytes, hbytes, htransfer⟩ := cmd53Bytes_transfer answers s₁ rw
        { place with offset := place.offset + transferSize.toNat } (address + transferSize)
        (len - transferSize) hleft .success fun _ => rfl
      -- without octets left over it does not matter where they would start
      have hstart : (address + transferSize).toNat = address.toNat + transferSize.toNat
          ∨ bytes = [] := by
        by_cases hwrap : address.toNat + transferSize.toNat < 2 ^ 32
        · exact Or.inl (BitVec.toNat_add_of_lt hwrap)
        right
        cases bytes with
        | nil => rfl
        | cons c rest =>
          have hinside := htransfer.inside c (List.mem_cons_self ..)
          rw [hrest] at hinside
          omega
      refine ⟨[record] ++ bytes, hissued.trans hbytes, ?_, ?_, ?_, ?_, ?_, ?_, ?_⟩
      · intro c hc
        rcases List.mem_append.mp hc with hc | hc
        · rw [List.mem_singleton.mp hc, ← hrecord]
          rfl
        · exact htransfer.again c hc
      · intro c hc
        rcases List.mem_append.mp hc with hc | hc
        · rw [List.mem_singleton.mp hc, ← hrecord]
          exact Nat.add_comm _ _
        have hplaced := htransfer.placed c hc
        rcases hstart with hstart | hempty
        · rw [hstart] at hplaced
          dsimp only at hplaced
          omega
        · rw [hempty] at hc
          cases hc
      · show (cmd53Bytes _ _ _ _ _ _ _ _).2 = _ ↔ _
        rw [htransfer.allOk]
        simp [hok]
      · intro hsuccess
        have htiles := htransfer.tiles hsuccess
        rw [hrest] at htiles
        have hmap : ([record] ++ bytes).map Cmd53.range
            = (address.toNat, transferSize.toNat) :: bytes.map Cmd53.range := by
          rw [← hrange]
          rfl
        rw [hmap]
        refine ⟨rfl, hsome, hfits, ?_⟩
        rcases hstart with hstart | hempty
        · rw [← hstart]
          exact htiles
        · rw [hempty] at htiles ⊢
          exact htiles
      · intro c hc
        rcases List.mem_append.mp hc with hc | hc
        · rw [List.mem_singleton.mp hc, ← hrecord]
          exact ⟨Nat.le_refl _, hsome, Nat.add_le_add_left hfits _⟩
        have hinside := htransfer.inside c hc
        rcases hstart with hstart | hempty
        · rw [hstart, hrest] at hinside
          omega
        · rw [hempty] at hc
          cases hc
      · intro c hc hmode
        rcases List.mem_append.mp hc with hc | hc
        · rw [List.mem_singleton.mp hc, ← hrecord]
          show transferSize.toNat = (numBlocks.setWidth 32).toNat * _
          rw [hcount, hsize]
        · exact htransfer.block c hc hmode
      intro c hc hmode
      rcases List.mem_append.mp hc with hc | hc
      · rw [List.mem_singleton.mp hc, ← hrecord] at hmode
        cases hmode
      · exact htransfer.byte c hc hmode
  rw [if_neg hblocks]
  have hzero : numBlocks.toNat = 0 := by
    rw [BitVec.lt_def] at hblocks
    exact Nat.eq_zero_of_not_pos hblocks
  refine cmd53Bytes_transfer answers s rw place address len ?_ result fun hnone => ?_
  · rw [hnum] at hzero
    rw [hzero] at hsum
    omega
  · omega

/-! ## The commands of a request -/

/-- The ranges that are cut at the boundaries of the windows: those below the last window, and
those that fill it up in one part. -/
def CutAtWindows (fn : MmhalSdioFunction) (address len : U32) : Prop :=
  address.toNat + len.toNat ≤ 0xFFFF0000
    ∨ address.toNat + len.toNat = 2 ^ 32 ∧ (fn = .function1 → len.toNat ≤ 1024)

/-- What a part leaves of the range. -/
structure PartOf (fn : MmhalSdioFunction) (address len size : U32) : Prop where
  positive : 0 < size.toNat
  inRange : size.toNat ≤ len.toNat
  inTransfer : size.toNat ≤ maxBlockTransferSize fn
  inWindow : address.toNat % 0x10000 + size.toNat ≤ 0x10000
  rest : (len - size).toNat = len.toNat - size.toNat
  next : size.toNat < len.toNat →
    (address + size).toNat = address.toNat + size.toNat
      ∧ CutAtWindows fn (address + size) (len - size)

variable {address len : U32}

theorem partSize_partOf (hlen : 0 < len.toNat)
    (h : CutAtWindows fn address len) : PartOf fn address len (partSize fn address len) := by
  have hlt := address.isLt
  have hsizes : 0 < (partSize fn address len).toNat ∧ (partSize fn address len).toNat ≤ len.toNat
      ∧ (partSize fn address len).toNat ≤ maxBlockTransferSize fn
      ∧ address.toNat % 0x10000 + (partSize fn address len).toNat ≤ 0x10000 := by
    by_cases htop : address.toNat < 0xFFFF0000
    · exact partSize_inside hlen htop
    -- the range ends with the address space, in one part
    have hend : address.toNat + len.toNat = 2 ^ 32 := by
      rcases h with h | h
      · omega
      · exact h.1
    have hmin : min len.toNat (maxBlockTransferSize fn) = len.toNat := by
      apply Nat.min_eq_left
      rcases h with h | ⟨-, hone⟩
      · omega
      cases fn with
      | function1 => exact hone rfl
      | function2 =>
        show len.toNat ≤ 0x10000
        omega
    rw [partSize_last hlen (by omega), hmin, if_pos hend]
    omega
  obtain ⟨hpos, hrange, htransfer, hwindow⟩ := hsizes
  generalize partSize fn address len = size at hpos hrange htransfer hwindow
  have hrest : (len - size).toNat = len.toNat - size.toNat :=
    BitVec.toNat_sub_of_le (BitVec.le_def.mpr hrange)
  refine ⟨hpos, hrange, htransfer, hwindow, hrest, fun hmore => ?_⟩
  have hnext : (address + size).toNat = address.toNat + size.toNat := by
    apply BitVec.toNat_add_of_lt
    rcases h with h | h <;> omega
  refine ⟨hnext, ?_⟩
  unfold CutAtWindows
  rw [hnext, hrest]
  rcases h with h | ⟨hend, hone⟩
  · left
    omega
  · right
    exact ⟨by omega, fun hfn => Nat.le_trans (Nat.sub_le _ _) (hone hfn)⟩

/-- The commands move every octet of the range once and in order, between its place and that in
the buffer. -/
structure MovesOnce (offset a n : Nat) (issued : List Cmd53) : Prop where
  tiles : Tiles a n (issued.map Cmd53.range)
  placed : ∀ c ∈ issued, c.offset + a = c.address.toNat + offset
  wellFormed : ∀ c ∈ issued, c.WellFormed

/-- The first attempts move every octet once, and a repeat is one of the first eight octets of
a part, on a chip that asks for it. -/
structure Moves (cfg : HwCfg) (offset a n : Nat) (issued : List Cmd53) : Prop where
  once : MovesOnce offset a n (issued.filter fun c => !c.again)
  repeats : ∀ c ∈ issued, c.again = true → cfg.busDoubleRead = true ∧ c.size = 8 ∧ c.WellFormed
    ∧ ∃ first ∈ issued, first.again = false ∧ first.address = c.address ∧ first.offset = c.offset

theorem MovesOnce.nil (offset a : Nat) : MovesOnce offset a 0 [] :=
  ⟨rfl, fun _ h => absurd h List.not_mem_nil, fun _ h => absurd h List.not_mem_nil⟩

theorem MovesOnce.append {offset a m n : Nat} {first second : List Cmd53}
    (h : MovesOnce offset a m first) (h' : MovesOnce (offset + m) (a + m) n second) :
    MovesOnce offset a (m + n) (first ++ second) where
  tiles := by
    rw [List.map_append]
    exact h.tiles.append h'.tiles
  placed := by
    intro c hc
    rcases List.mem_append.mp hc with hc | hc
    · exact h.placed c hc
    · have hplaced := h'.placed c hc
      omega
  wellFormed := by
    intro c hc
    rcases List.mem_append.mp hc with hc | hc
    · exact h.wellFormed c hc
    · exact h'.wellFormed c hc

theorem Moves.nil (cfg : HwCfg) (offset a : Nat) : Moves cfg offset a 0 [] :=
  ⟨.nil offset a, fun _ h => absurd h List.not_mem_nil⟩

theorem Moves.append {cfg : HwCfg} {offset a m n : Nat} {first second : List Cmd53}
    (h : Moves cfg offset a m first) (h' : Moves cfg (offset + m) (a + m) n second) :
    Moves cfg offset a (m + n) (first ++ second) where
  once := by
    rw [List.filter_append]
    exact h.once.append h'.once
  repeats := by
    intro c hc hagain
    rcases List.mem_append.mp hc with hc | hc
    · obtain ⟨hcfg, hsize, hform, c', hc', hfirst⟩ := h.repeats c hc hagain
      exact ⟨hcfg, hsize, hform, c', List.mem_append_left _ hc', hfirst⟩
    · obtain ⟨hcfg, hsize, hform, c', hc', hfirst⟩ := h'.repeats c hc hagain
      exact ⟨hcfg, hsize, hform, c', List.mem_append_right _ hc', hfirst⟩

variable {s s' : SdioData} {issued : List Cmd53}

theorem Transfer.wellFormed {place : PartPlace} {address size : U32} {answer : MorseError}
    (h : Transfer place address.toNat size.toNat fn issued answer) (hissued : Issued s s' fn issued)
    (htransfer : size.toNat ≤ maxBlockTransferSize fn)
    (hwindow : address.toNat % 0x10000 + size.toNat ≤ 0x10000) {c : Cmd53} (hc : c ∈ issued) :
    c.WellFormed := by
  have hinside := h.inside c hc
  have hfn := (hissued.window c hc).1
  refine ⟨by omega, fun hmode => ?_, fun hmode => ?_⟩
  · have hsize := h.block c hc hmode
    rw [hfn]
    refine ⟨hsize, ?_⟩
    -- the blocks fit into the largest transfer
    have hle : c.transferLength.toNat * blockSize fn ≤ cmd53MaxBlocks * blockSize fn := by
      rw [← hsize, Nat.mul_comm cmd53MaxBlocks]
      show c.size ≤ maxBlockTransferSize fn
      omega
    exact Nat.le_of_mul_le_mul_right hle (by cases fn <;> decide)
  · rw [hfn]
    exact h.byte c hc hmode

theorem Transfer.movesOnce {place : PartPlace} {address size : U32} {answer : MorseError}
    (h : Transfer place address.toNat size.toNat fn issued answer) (hissued : Issued s s' fn issued)
    (htransfer : size.toNat ≤ maxBlockTransferSize fn)
    (hwindow : address.toNat % 0x10000 + size.toNat ≤ 0x10000) (hsuccess : answer = .success) :
    MovesOnce place.offset address.toNat size.toNat issued :=
  ⟨h.tiles hsuccess, h.placed, fun _ hc => h.wellFormed hissued htransfer hwindow hc⟩

theorem morseAddressBaseSet_cmd53s (answers : BusAnswers) (s : SdioData) (part : Nat)
    (address : U32) (access : U8) (fn : MmhalSdioFunction) :
    (morseAddressBaseSet answers s part address access fn).1.cmd53s = s.cmd53s := by
  unfold morseAddressBaseSet morseCmd52Write
  cases fn <;> dsimp only <;> split
  all_goals first | rfl | skip
  all_goals
    cases answers.cmd52 part .addressWindow0 <;> cases answers.cmd52 part .addressWindow1
      <;> cases answers.cmd52 part .addressConfig <;> rfl

theorem commsOpCheck_cmd53s (s : SdioData) (returnCode : MorseError) :
    (commsOpCheck s returnCode).cmd53s = s.cmd53s := by
  unfold commsOpCheck
  split
  · dsimp only
    split <;> rfl
  · rfl

theorem finish_eq_success {answer : SdioData × Option MorseError} {s' : SdioData}
    (h : finish answer = (s', some .success)) :
    ∃ s₁, answer = (s₁, some .success) ∧ s'.cmd53s = s₁.cmd53s := by
  obtain ⟨s₁, result⟩ := answer
  cases result with
  | none => cases h
  | some result =>
    simp only [finish, Prod.mk.injEq, Option.some.injEq] at h
    obtain ⟨rfl, rfl⟩ := h
    exact ⟨s₁, rfl, commsOpCheck_cmd53s s₁ .success⟩

/-! ## Ranges that end inside the last window -/

theorem partSize_ne (hlen : 0 < len.toNat)
    (hend : 0xFFFF0000 < (address + len).toNat) : 0 < (len - partSize fn address len).toNat := by
  apply Nat.pos_of_ne_zero
  intro hzero
  have hsub : len - partSize fn address len = 0 := BitVec.eq_of_toNat_eq hzero
  have hsize : (partSize fn address len).toNat = len.toNat := by
    have heq : len = partSize fn address len := by
      have hadd := BitVec.sub_add_cancel len (partSize fn address len)
      rw [hsub] at hadd
      exact hadd.symm.trans (BitVec.zero_add _)
    exact congrArg BitVec.toNat heq.symm
  have hlt := address.isLt
  rw [BitVec.toNat_add] at hend
  by_cases htop : address.toNat < 0xFFFF0000
  · obtain ⟨-, -, -, hwindow⟩ := @partSize_inside fn address len hlen htop
    omega
  · have hlast := @partSize_last fn address len hlen (Nat.not_lt.mp htop)
    split at hlast <;> omega

theorem next_end (address len size : U32) : address + size + (len - size) = address + len := by
  rw [BitVec.add_assoc, BitVec.add_comm size, BitVec.sub_add_cancel]

theorem writeLoop_nothing (answers : BusAnswers) (fn : MmhalSdioFunction) (fuel : Nat)
    (s : SdioData) (part offset : Nat) (address : U32) (result : MorseError) :
    writeLoop answers fn (fuel + 1) s part offset address 0 result = (s, some result) := rfl

theorem readLoop_nothing (cfg : HwCfg) (answers : BusAnswers) (fn : MmhalSdioFunction)
    (fuel : Nat) (s : SdioData) (part offset : Nat) (address : U32) (result : MorseError) :
    readLoop cfg answers fn (fuel + 1) s part offset address 0 result = (s, some result) := rfl

/-- A pass of the loop fails to set the window, fails to move its part, or goes on. -/
theorem writeLoop_cases (answers : BusAnswers) (fn : MmhalSdioFunction) (fuel : Nat)
    (s : SdioData) (part offset : Nat) (result : MorseError) (hlen : len ≠ 0) : (∃ s₁ r₁,
      morseAddressBaseSet answers s part address morseConfigAccess4byte fn = (s₁, r₁)
      ∧ r₁ ≠ .success
      ∧ writeLoop answers fn (fuel + 1) s part offset address len result = (s₁, some r₁))
    ∨ ∃ s₁ s₂ r₂,
      morseAddressBaseSet answers s part address morseConfigAccess4byte fn = (s₁, .success)
      ∧ morseCmd53Write answers s₁ ⟨part, false, offset⟩ fn address (partSize fn address len)
        = (s₂, r₂) ∧ (r₂ ≠ .success
          ∧ writeLoop answers fn (fuel + 1) s part offset address len result = (s₂, some r₂)
        ∨ r₂ = .success ∧ writeLoop answers fn (fuel + 1) s part offset address len result
            = writeLoop answers fn fuel s₂ (part + 1) (offset + (partSize fn address len).toNat)
                (address + partSize fn address len) (len - partSize fn address len) .success) := by
  generalize hloop : writeLoop answers fn (fuel + 1) s part offset address len result = answer
  unfold writeLoop at hloop
  rw [if_neg hlen] at hloop
  cases hset : morseAddressBaseSet answers s part address morseConfigAccess4byte fn with
  | mk s₁ r₁ =>
    rw [hset] at hloop
    dsimp only at hloop
    by_cases hr₁ : r₁ = .success
    · rw [if_neg (not_not.mpr hr₁)] at hloop
      cases hmoved : morseCmd53Write answers s₁ ⟨part, false, offset⟩ fn address
          (partSize fn address len) with
      | mk s₂ r₂ =>
        rw [hmoved] at hloop
        dsimp only at hloop
        refine Or.inr ⟨s₁, s₂, r₂, by rw [hr₁], hmoved, ?_⟩
        by_cases hr₂ : r₂ = .success
        · rw [if_neg (not_not.mpr hr₂), hr₂] at hloop
          exact Or.inr ⟨hr₂, hloop.symm⟩
        · rw [if_pos hr₂] at hloop
          exact Or.inl ⟨hr₂, hloop.symm⟩
    · rw [if_pos hr₁] at hloop
      exact Or.inl ⟨s₁, r₁, rfl, hr₁, hloop.symm⟩

/-- A pass of the loop fails to set the window, or goes on: what the transfer tells is not
looked at. -/
theorem readLoop_cases (cfg : HwCfg) (answers : BusAnswers) (fn : MmhalSdioFunction) (fuel : Nat)
    (s : SdioData) (part offset : Nat) (result : MorseError) (hlen : len ≠ 0) : (∃ s₁ r₁,
      morseAddressBaseSet answers s part address morseConfigAccess4byte fn = (s₁, r₁)
      ∧ r₁ ≠ .success
      ∧ readLoop cfg answers fn (fuel + 1) s part offset address len result = (s₁, some r₁)) ∨ ∃ s₁,
      morseAddressBaseSet answers s part address morseConfigAccess4byte fn = (s₁, .success)
      ∧ readLoop cfg answers fn (fuel + 1) s part offset address len result
        = readLoop cfg answers fn fuel
            (readPart cfg answers s₁ part offset fn address (partSize fn address len)) (part + 1)
            (offset + (partSize fn address len).toNat) (address + partSize fn address len)
            (len - partSize fn address len) .success := by
  rw [readLoop, if_neg hlen]
  cases hset : morseAddressBaseSet answers s part address morseConfigAccess4byte fn with
  | mk s₁ r₁ =>
    dsimp only
    by_cases hr₁ : r₁ = .success
    · subst hr₁
      exact Or.inr ⟨s₁, rfl, if_neg (not_not.mpr rfl)⟩
    · exact Or.inl ⟨s₁, r₁, rfl, hr₁, if_pos hr₁⟩

variable {result : MorseError} {fuel : Nat} {part offset : Nat}

/-- A loop that succeeds has moved a part with success, and succeeds on what is left. -/
theorem writeLoop_pass {answers : BusAnswers} (hlen : len ≠ 0)
    (h : writeLoop answers fn (fuel + 1) s part offset address len result = (s', some .success)) :
    ∃ s₁ s₂, morseAddressBaseSet answers s part address morseConfigAccess4byte fn = (s₁, .success)
      ∧ morseCmd53Write answers s₁ ⟨part, false, offset⟩ fn address (partSize fn address len)
        = (s₂, .success)
      ∧ writeLoop answers fn fuel s₂ (part + 1) (offset + (partSize fn address len).toNat)
          (address + partSize fn address len) (len - partSize fn address len) .success
        = (s', some .success) := by
  rcases writeLoop_cases answers fn fuel s part offset result hlen with
    ⟨s₁, r₁, -, hne, heq⟩ | ⟨s₁, s₂, r₂, hset, hmoved, ⟨hne, heq⟩ | ⟨rfl, heq⟩⟩
  · exact absurd (Option.some.inj (congrArg Prod.snd (heq.symm.trans h))) hne
  · exact absurd (Option.some.inj (congrArg Prod.snd (heq.symm.trans h))) hne
  · exact ⟨s₁, s₂, hset, hmoved, heq.symm.trans h⟩

theorem readLoop_pass {cfg : HwCfg} {answers : BusAnswers} (hlen : len ≠ 0)
    (h : readLoop cfg answers fn (fuel + 1) s part offset address len result
      = (s', some .success)) :
    ∃ s₁, morseAddressBaseSet answers s part address morseConfigAccess4byte fn = (s₁, .success)
      ∧ readLoop cfg answers fn fuel
          (readPart cfg answers s₁ part offset fn address (partSize fn address len)) (part + 1)
          (offset + (partSize fn address len).toNat) (address + partSize fn address len)
          (len - partSize fn address len) .success = (s', some .success) := by
  rcases readLoop_cases cfg answers fn fuel s part offset result hlen with
    ⟨s₁, r₁, -, hne, heq⟩ | ⟨s₁, hset, heq⟩
  · exact absurd (Option.some.inj (congrArg Prod.snd (heq.symm.trans h))) hne
  · exact ⟨s₁, hset, heq.symm.trans h⟩

theorem writeLoop_ne_success (answers : BusAnswers) (fn : MmhalSdioFunction)
    (hlen : 0 < len.toNat) (hend : 0xFFFF0000 < (address + len).toNat) :
    writeLoop answers fn fuel s part offset address len result ≠ (s', some .success) := by
  induction fuel generalizing s part offset address len result with
  | zero =>
    intro h
    cases h
  | succ fuel ih =>
    intro h
    have hne : len ≠ 0 := fun hzero => absurd hlen (by rw [hzero]; decide)
    obtain ⟨_, _, -, -, hnext⟩ := writeLoop_pass hne h
    exact ih (partSize_ne hlen hend) (by rw [next_end]; exact hend) hnext

theorem readLoop_ne_success (cfg : HwCfg) (answers : BusAnswers) (fn : MmhalSdioFunction)
    (hlen : 0 < len.toNat) (hend : 0xFFFF0000 < (address + len).toNat) :
    readLoop cfg answers fn fuel s part offset address len result ≠ (s', some .success) := by
  induction fuel generalizing s part offset address len result with
  | zero =>
    intro h
    cases h
  | succ fuel ih =>
    intro h
    have hne : len ≠ 0 := fun hzero => absurd hlen (by rw [hzero]; decide)
    obtain ⟨_, -, hnext⟩ := readLoop_pass hne h
    exact ih (partSize_ne hlen hend) (by rw [next_end]; exact hend) hnext

/-! ## The loops -/

/-- What is left of a range starts at `a`, or is nothing. -/
def LeftOver (fn : MmhalSdioFunction) (a : Nat) (address len : U32) : Prop :=
  len.toNat = 0 ∨ a = address.toNat ∧ CutAtWindows fn address len

theorem PartOf.leftOver {address len size : U32} (h : PartOf fn address len size) :
    LeftOver fn (address.toNat + size.toNat) (address + size) (len - size) := by
  by_cases hmore : size.toNat < len.toNat
  · exact Or.inr ⟨(h.next hmore).1.symm, (h.next hmore).2⟩
  · have hrange := h.inRange
    have hrest := h.rest
    exact Or.inl (by omega)

theorem writeLoop_movesOnce (answers : BusAnswers)
    {part offset a : Nat} (hleft : LeftOver fn a address len)
    (h : writeLoop answers fn fuel s part offset address len result = (s', some .success)) :
    ∃ issued, s'.cmd53s = s.cmd53s ++ issued ∧ (∀ c ∈ issued, c.ok = true)
      ∧ MovesOnce offset a len.toNat issued := by
  induction fuel generalizing s part offset a address len result with
  | zero => cases h
  | succ fuel ih =>
    by_cases hzero : len = 0
    · rw [hzero] at h ⊢
      rw [writeLoop_nothing] at h
      cases h
      exact ⟨[], (List.append_nil _).symm, fun _ hc => absurd hc List.not_mem_nil,
        .nil offset a⟩
    have hlen : 0 < len.toNat :=
      Nat.pos_of_ne_zero fun hnat => hzero (BitVec.eq_of_toNat_eq hnat)
    obtain ⟨rfl, hcut⟩ := hleft.resolve_left (Nat.pos_iff_ne_zero.mp hlen)
    have hpart := partSize_partOf hlen hcut
    have hwindow := hpart.inWindow
    obtain ⟨s₁, s₂, hset, hmoved, hnext⟩ := writeLoop_pass hzero h
    have hlog : s₁.cmd53s = s.cmd53s := by
      rw [← morseAddressBaseSet_cmd53s answers s part address morseConfigAccess4byte fn, hset]
    generalize partSize fn address len = size at hmoved hnext hpart hwindow
    obtain ⟨issued, hissued, htransfer⟩ := @cmd53Transfer_transfer answers s₁ .write
      ⟨part, false, offset⟩ fn address _ .failed hpart.positive (by omega)
      (by have := address.isLt; omega)
    change Issued s₁ (morseCmd53Write _ _ _ _ _ _).1 fn issued at hissued
    change Transfer _ _ _ _ _ (morseCmd53Write answers s₁ _ fn address size).2 at htransfer
    rw [hmoved] at hissued htransfer
    obtain ⟨rest, hrest, hok, hmoves⟩ := ih hpart.leftOver hnext
    refine ⟨issued ++ rest, ?_, ?_, ?_⟩
    · rw [hrest, hissued.cmd53s, hlog, List.append_assoc]
    · intro c hc
      rcases List.mem_append.mp hc with hc | hc
      · exact htransfer.allOk.mp rfl c hc
      · exact hok c hc
    have honce := htransfer.movesOnce hissued hpart.inTransfer hwindow rfl
    rw [hpart.rest] at hmoves
    have hsum : size.toNat + (len.toNat - size.toNat) = len.toNat :=
      Nat.add_sub_cancel' hpart.inRange
    rw [← hsum]
    exact honce.append hmoves

theorem repeat_issued (answers : BusAnswers) (s : SdioData) (place : PartPlace)
    (fn : MmhalSdioFunction) (address : U32) :
    ∃ c : Cmd53, (morseCmd53Read answers s place fn address 8).1.cmd53s = s.cmd53s ++ [c]
      ∧ c.again = place.again ∧ c.size = 8 ∧ c.address = address ∧ c.offset = place.offset := by
  cases fn with
  | function1 =>
    have hread : (morseCmd53Read answers s place .function1 address 8).1
        = (issueCmd53 answers s .read place .function1 .block address 1 8).1 := by
      unfold morseCmd53Read cmd53Transfer
      rw [if_pos (by decide)]
      show (if (!answers.cmd53 place.part place.again .block) = true then
        ((issueCmd53 answers s .read place .function1 .block address 1 8).1, MorseError.failed)
        else ((issueCmd53 answers s .read place .function1 .block address 1 8).1, .success)).1 = _
      split <;> rfl
    rw [hread]
    exact ⟨_, rfl, rfl, rfl, rfl, rfl⟩
  | function2 => exact ⟨_, rfl, rfl, rfl, rfl, rfl⟩

theorem MovesOnce.first {offset a n : Nat} (h : MovesOnce offset a n issued)
    (hn : 0 < n) : ∃ c ∈ issued, c.address.toNat = a ∧ c.offset = offset := by
  cases issued with
  | nil =>
    have hzero : n = 0 := h.tiles
    omega
  | cons c rest =>
    have hstart : c.address.toNat = a := h.tiles.1
    have hplaced := h.placed c (List.mem_cons_self ..)
    exact ⟨c, List.mem_cons_self .., hstart, by omega⟩

theorem MovesOnce.moves {offset a n : Nat} (h : MovesOnce offset a n issued)
    (hagain : ∀ c ∈ issued, c.again = false) (cfg : HwCfg) : Moves cfg offset a n issued := by
  refine ⟨?_, fun c hc hrepeat => ?_⟩
  · rw [List.filter_eq_self.mpr fun c hc => by rw [hagain c hc]; rfl]
    exact h
  · rw [hagain c hc] at hrepeat
    cases hrepeat

theorem readPart_moves (cfg : HwCfg) (answers : BusAnswers) (s : SdioData) (part offset : Nat)
    {address len size : U32} (hpart : PartOf fn address len size) :
    ∃ issued, (readPart cfg answers s part offset fn address size).cmd53s = s.cmd53s ++ issued
      ∧ ((∀ c ∈ issued, c.ok = true) → Moves cfg offset address.toNat size.toNat issued) := by
  have hlt := address.isLt
  have hwindow := hpart.inWindow
  obtain ⟨issued, hissued, htransfer⟩ := @cmd53Transfer_transfer answers s .read
    ⟨part, false, offset⟩ fn address _ .success hpart.positive (by omega) (by omega)
  change Issued s (morseCmd53Read _ _ _ _ _ _).1 fn issued at hissued
  unfold readPart
  generalize (morseCmd53Read answers s ⟨part, false, offset⟩ fn address size).1 = s₁ at hissued ⊢
  have honce : (∀ c ∈ issued, c.ok = true) →
      MovesOnce offset address.toNat size.toNat issued := fun hok =>
    htransfer.movesOnce hissued hpart.inTransfer hwindow (htransfer.allOk.mpr hok)
  dsimp only
  split
  · next hrepeat =>
      rw [Bool.and_eq_true, Bool.and_eq_true, decide_eq_true_iff, BitVec.le_def] at hrepeat
      obtain ⟨⟨height, hcfg⟩, -⟩ := hrepeat
      change 8 ≤ size.toNat at height
      obtain ⟨c, hc, hagain, hsize, haddress, hoffset⟩ :=
        repeat_issued answers s₁ ⟨part, true, offset⟩ fn address
      have hform : c.WellFormed := by
        obtain ⟨issued', hissued', htransfer'⟩ := @cmd53Transfer_transfer answers s₁ .read
          ⟨part, true, offset⟩ fn address 8 .success (by decide) (by decide)
          (by show address.toNat + 8 ≤ _; omega)
        have hsame : issued' = [c] := by
          have hlog := hissued'.cmd53s
          change (morseCmd53Read _ _ _ _ _ _).1.cmd53s = _ at hlog
          rw [hc] at hlog
          exact (List.append_cancel_left hlog).symm
        rw [hsame] at hissued' htransfer'
        exact htransfer'.wellFormed hissued' (by cases fn <;> decide)
          (by show address.toNat % 0x10000 + 8 ≤ _; omega) (List.mem_singleton_self c)
      refine ⟨issued ++ [c], by rw [hc, hissued.cmd53s, List.append_assoc], fun hok => ?_⟩
      have honce := honce fun c' hc' => hok c' (List.mem_append_left _ hc')
      refine ⟨?_, fun c' hc' hrepeat => ?_⟩
      · have hnone : [c].filter (fun c => !c.again) = [] := by
          rw [List.filter_singleton, hagain]
          rfl
        rw [List.filter_append, hnone, List.append_nil,
          List.filter_eq_self.mpr fun c' hc' => by rw [htransfer.again c' hc']; rfl]
        exact honce
      rcases List.mem_append.mp hc' with hc' | hc'
      · rw [htransfer.again c' hc'] at hrepeat
        cases hrepeat
      rw [List.mem_singleton.mp hc']
      obtain ⟨first, hfirst, hstart, hplace⟩ := honce.first hpart.positive
      exact ⟨hcfg, hsize, hform, first, List.mem_append_left _ hfirst,
        htransfer.again first hfirst,
        (BitVec.eq_of_toNat_eq hstart).trans haddress.symm, hplace.trans hoffset.symm⟩
  · exact ⟨issued, hissued.cmd53s, fun hok => (honce hok).moves htransfer.again cfg⟩

theorem readLoop_moves (cfg : HwCfg) (answers : BusAnswers)
    {part offset a : Nat} (hleft : LeftOver fn a address len)
    (h : readLoop cfg answers fn fuel s part offset address len result = (s', some .success)) :
    ∃ issued, s'.cmd53s = s.cmd53s ++ issued
      ∧ ((∀ c ∈ issued, c.ok = true) → Moves cfg offset a len.toNat issued) := by
  induction fuel generalizing s part offset a address len result with
  | zero => cases h
  | succ fuel ih =>
    by_cases hzero : len = 0
    · rw [hzero] at h ⊢
      rw [readLoop_nothing] at h
      cases h
      exact ⟨[], (List.append_nil _).symm, fun _ => .nil cfg offset a⟩
    have hlen : 0 < len.toNat :=
      Nat.pos_of_ne_zero fun hnat => hzero (BitVec.eq_of_toNat_eq hnat)
    obtain ⟨rfl, hcut⟩ := hleft.resolve_left (Nat.pos_iff_ne_zero.mp hlen)
    have hpart := partSize_partOf hlen hcut
    obtain ⟨s₁, hset, hnext⟩ := readLoop_pass hzero h
    have hlog : s₁.cmd53s = s.cmd53s := by
      rw [← morseAddressBaseSet_cmd53s answers s part address morseConfigAccess4byte fn, hset]
    generalize partSize fn address len = size at hnext hpart
    obtain ⟨issued, hissued, hmoved⟩ := readPart_moves cfg answers s₁ part offset hpart
    obtain ⟨rest, hrest, hmoves⟩ := ih hpart.leftOver hnext
    refine ⟨issued ++ rest, ?_, fun hok => ?_⟩
    · rw [hrest, hissued, hlog, List.append_assoc]
    have hfirst := hmoved fun c hc => hok c (List.mem_append_left _ hc)
    have hrest := hmoves fun c hc => hok c (List.mem_append_right _ hc)
    rw [hpart.rest] at hrest
    have hsum : size.toNat + (len.toNat - size.toNat) = len.toNat :=
      Nat.add_sub_cancel' hpart.inRange
    rw [← hsum]
    exact hfirst.append hrest

/-! ## Requests -/

theorem cutAtWindows_or {cfg : HwCfg} (hwrap : address.toNat + len.toNat ≤ 2 ^ 32)
    (htop : functionOf cfg address = .function1 → address.toNat + len.toNat = 2 ^ 32 →
      len.toNat ≤ 1024) : CutAtWindows (functionOf cfg address) address len
      ∨ 0xFFFF0000 < (address + len).toNat := by
  by_cases hlast : 0xFFFF0000 < address.toNat + len.toNat
  · by_cases hend : address.toNat + len.toNat = 2 ^ 32
    · exact Or.inl (Or.inr ⟨hend, fun hfn => htop hfn hend⟩)
    · right
      rw [BitVec.toNat_add_of_lt (by omega)]
      exact hlast
  · exact Or.inl (Or.inl (Nat.le_of_not_lt hlast))

/-- A write that reports success moved every octet of its range once, with commands that all
succeeded; so did a read, up to the repeats, when all of its commands succeeded. -/
theorem transfers_complete (cfg : HwCfg) (answers : BusAnswers) (fuel : Nat) (s s' : SdioData)
    (address len : U32) (hwrap : address.toNat + len.toNat ≤ 2 ^ 32)
    (htop : functionOf cfg address = .function1 → address.toNat + len.toNat = 2 ^ 32 →
      len.toNat ≤ 1024) :
    (morseTrnsWriteMultiByte cfg answers fuel s address len = (s', some .success) →
      ∃ issued, s'.cmd53s = s.cmd53s ++ issued ∧ (∀ c ∈ issued, c.ok = true)
        ∧ MovesOnce 0 address.toNat len.toNat issued)
    ∧ (morseTrnsReadMultiByte cfg answers fuel s address len = (s', some .success) →
      ∃ issued, s'.cmd53s = s.cmd53s ++ issued
        ∧ ((∀ c ∈ issued, c.ok = true) → Moves cfg 0 address.toNat len.toNat issued)) := by
  constructor
  · intro h
    unfold morseTrnsWriteMultiByte at h
    split at h
    · cases h
    next hlen =>
      have hpos : 0 < len.toNat :=
        Nat.pos_of_ne_zero fun hnat => hlen (Or.inl (BitVec.eq_of_toNat_eq hnat))
      obtain ⟨s₁, hloop, hlog⟩ := finish_eq_success h
      rw [hlog]
      rcases cutAtWindows_or hwrap htop with hcut | hend
      · exact writeLoop_movesOnce answers (Or.inr ⟨rfl, hcut⟩) hloop
      · exact absurd hloop (writeLoop_ne_success answers _ hpos hend)
  intro h
  unfold morseTrnsReadMultiByte at h
  split at h
  · cases h
  next hlen =>
    have hpos : 0 < len.toNat :=
      Nat.pos_of_ne_zero fun hnat => hlen (Or.inl (BitVec.eq_of_toNat_eq hnat))
    obtain ⟨s₁, hloop, hlog⟩ := finish_eq_success h
    rw [hlog]
    rcases cutAtWindows_or hwrap htop with hcut | hend
    · exact readLoop_moves cfg answers (Or.inr ⟨rfl, hcut⟩) hloop
    · exact absurd hloop (readLoop_ne_success cfg answers _ hpos hend)

/-- A bus on which every command succeeds, and reads zeroes. -/
def workingBus : BusAnswers where
  cmd52 := fun _ _ => true
  cmd53 := fun _ _ _ => true
  cmd53Data := fun _ _ _ _ => 0
  windowAfterReset := fun _ _ => 0

/-- A chip without memory addresses. -/
def registersOnly (busDoubleRead : Bool) : HwCfg where
  isMemory := fun _ => false
  busDoubleRead := busDoubleRead
  cpuResetAddress := 0
  cpuResetValue := 0

/-- A transport before its first request. -/
def idleTransport : SdioData where
  addressBaseFn1Cache := noAddressBase
  addressBaseFn2Cache := noAddressBase
  consecutiveCommFailures := 0
  irqEnabled := true
  healthChecks := 0
  chip := fun _ _ => 0
  buffer := fun _ => 0
  cmd53s := []

/-- A request across the boundary of a window. -/
theorem transfers_complete_crossing :
    ∃ issued, (morseTrnsWriteMultiByte (registersOnly true) workingBus 3 idleTransport
        0x1fff8 16).1.cmd53s = [] ++ issued
      ∧ (∀ c ∈ issued, c.ok = true) ∧ MovesOnce 0 0x1fff8 16 issued :=
  (transfers_complete (registersOnly true) workingBus 3 idleTransport _ 0x1fff8 16 (by decide)
    (by decide)).1 (Prod.ext rfl (by decide +kernel))

/-- A read that repeats its first octets moves them twice, a read whose only command fails
reports success, and the last window is written with one command. -/
theorem transfers_incomplete :
    (∃ s', morseTrnsReadMultiByte (registersOnly true) workingBus 2 idleTransport 0x100 8
        = (s', some .success)
      ∧ ¬ ∃ issued, s'.cmd53s = idleTransport.cmd53s ++ issued ∧ (∀ c ∈ issued, c.ok = true)
        ∧ MovesOnce 0 0x100 8 issued)
    ∧ (∃ s', morseTrnsReadMultiByte (registersOnly false)
          { workingBus with cmd53 := fun _ _ _ => false } 2 idleTransport 0x100 8
        = (s', some .success)
      ∧ ¬ ∃ issued, s'.cmd53s = idleTransport.cmd53s ++ issued ∧ (∀ c ∈ issued, c.ok = true)
        ∧ MovesOnce 0 0x100 8 issued)
    ∧ ∃ s', morseTrnsWriteMultiByte (registersOnly false) workingBus 2 idleTransport 0xffff0000
          0x10000
        = (s', some .success)
      ∧ ¬ ∃ issued, s'.cmd53s = idleTransport.cmd53s ++ issued ∧ (∀ c ∈ issued, c.ok = true)
        ∧ MovesOnce 0 0xffff0000 0x10000 issued := by
  have hlast :
      let answer := morseTrnsWriteMultiByte (registersOnly false) workingBus 2 idleTransport
        0xffff0000 0x10000
      (answer.2, answer.1.cmd53s.map fun c => (c.mode, c.transferLength))
        = (some .success, [(.block, 8192)]) := by
    decide +kernel
  refine ⟨⟨_, Prod.ext rfl (by decide +kernel), ?_⟩, ⟨_, Prod.ext rfl (by decide +kernel), ?_⟩,
    ⟨_, Prod.ext rfl (congrArg Prod.fst hlast), ?_⟩⟩
  · rintro ⟨issued, hissued, -, honce⟩
    rw [show idleTransport.cmd53s = [] from rfl, List.nil_append] at hissued
    have hranges : issued.map Cmd53.range = [(0x100, 8), (0x100, 8)] := by
      rw [← hissued]
      decide +kernel
    have htiles := honce.tiles
    rw [hranges] at htiles
    exact absurd htiles.2.2.2.1 (by decide)
  · rintro ⟨issued, hissued, hok, -⟩
    rw [show idleTransport.cmd53s = [] from rfl, List.nil_append] at hissued
    have hoks : issued.map Cmd53.ok = [false] := by
      rw [← hissued]
      decide +kernel
    have hall : ∀ ok ∈ issued.map Cmd53.ok, ok = true := by
      intro ok hmem
      obtain ⟨c, hc, rfl⟩ := List.mem_map.mp hmem
      exact hok c hc
    rw [hoks] at hall
    exact absurd (hall false (List.mem_singleton_self _)) (by decide)
  rintro ⟨issued, hissued, -, honce⟩
  rw [show idleTransport.cmd53s = [] from rfl, List.nil_append] at hissued
  have hblocks : issued.map (fun c => (c.mode, c.transferLength)) = [(.block, 8192)] := by
    rw [← hissued]
    exact congrArg Prod.snd hlast
  obtain ⟨c, hc, hlength⟩ :=
    List.mem_map.mp (hblocks ▸ List.mem_singleton_self (MmhalSdioMode.block, (8192 : U32)))
  have hmax := ((honce.wellFormed c hc).block (congrArg Prod.fst hlength)).2
  rw [show c.transferLength = 8192 from congrArg Prod.snd hlength] at hmax
  exact absurd hmax (by decide)

end MmIotEsp32.Driver.Transport
