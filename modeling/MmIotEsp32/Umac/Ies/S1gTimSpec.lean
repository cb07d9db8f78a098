/-
  MmIotEsp32.Umac.Ies.S1gTimSpec

  The S1G TIM element as the encoding defines it: what an element says, and the
  octets that say it.

  An encoded block covers a range of AIDs and lists some of them.  It indicates
  those of its range that it lists or, with the inverse bitmap bit, those that it
  does not list (`TimBlock.indicates`).
-/
import MmIotEsp32.Umac.Ies.S1gTim

namespace MmIotEsp32.Umac.Ies

open Lib

/-! ## Blocks -/

scoped instance neZero4 : NeZero 4 := ⟨by decide⟩
scoped instance neZero8 : NeZero 8 := ⟨by decide⟩
scoped instance neZero32 : NeZero 32 := ⟨by decide⟩

/-- The AIDs of an ADE block: differences in words of `ewl + 1` bits.  A difference of
zero would end the list, except the first one. -/
structure TimAde where
  ewl : Fin 8
  deltas : List Nat
  fields : ∀ d ∈ deltas, d < 2 ^ (ewl.val + 1)
  positive : ∀ d ∈ deltas.tail, 0 < d
  fits : fieldOctets (ewl.val + 1) deltas ≤ 31

/-- The encoded block information of each mode. -/
inductive TimBlockInfo where
  /-- the subblocks that are present -/
  | blockBitmap (subblocks : Fin 8 → Option U8)
  | singleAid (aid : Fin 64)
  | olb (subblocks : List U8)
  | ade (ade : TimAde)

/-- An encoded block. -/
structure TimBlock where
  blockOffset : Fin 32
  inverse : Bool
  info : TimBlockInfo

/-- The running sums of `deltas` from `start` on. -/
def runningSums (start : Nat) : List Nat → List Nat
  | [] => []
  | d :: ds => (start + d) :: runningSums (start + d) ds

/-- The AID a block starts at. -/
def TimBlock.startAid (b : TimBlock) (pageIndex : Nat) : Nat :=
  pageIndex * 2048 + b.blockOffset.val * 64

/-- The range of AIDs a block speaks of: one block of 64 AIDs; as many as the octets of an
OLB block need; all up to the one of the last AID of an ADE block. -/
def TimBlock.covers (b : TimBlock) (pageIndex aid : Nat) : Bool :=
  match b.info with
  | .blockBitmap _ | .singleAid _ =>
    aid / 2048 == pageIndex && aid / 64 % 32 == b.blockOffset.val
  | .olb subblocks =>
    aid / 2048 == pageIndex && decide (b.blockOffset.val ≤ aid / 64 % 32)
      && decide (aid / 64 % 32 < b.blockOffset.val + (subblocks.length + 7) / 8)
  | .ade ade =>
    decide (b.startAid pageIndex ≤ aid)
      && decide (aid / 64 ≤ (b.startAid pageIndex + ade.deltas.sum) / 64)

/-- The AIDs a block lists. -/
def TimBlock.lists (b : TimBlock) (pageIndex aid : Nat) : Bool :=
  match b.info with
  | .blockBitmap subblocks =>
    match subblocks ⟨aid / 8 % 8, Nat.mod_lt _ (by decide)⟩ with
    | none => false
    | some subblock => subblock.getLsbD (aid % 8)
  | .singleAid singleAid => aid % 64 == singleAid.val
  | .olb subblocks =>
    (subblocks.getD ((aid / 64 % 32 - b.blockOffset.val) * 8 + aid / 8 % 8) 0).getLsbD (aid % 8)
  | .ade ade => decide (aid ∈ runningSums (b.startAid pageIndex) ade.deltas)

/-- The AIDs a block indicates. -/
def TimBlock.indicates (b : TimBlock) (pageIndex aid : Nat) : Bool :=
  b.covers pageIndex aid && (b.lists pageIndex aid != b.inverse)

/-! ## Their octets -/

/-- The block bitmap. -/
def subblockBitmap (subblocks : Fin 8 → Option U8) : U8 :=
  (BitVec.ofBoolListLE (List.ofFn fun m => (subblocks m).isSome)).setWidth 8

def TimBlockInfo.mode : TimBlockInfo → Nat
  | .blockBitmap _ => 0
  | .singleAid _ => 1
  | .olb _ => 2
  | .ade _ => 3

/-- The octets of the AIDs of an ADE block. -/
def TimAde.aidOctets (ade : TimAde) : List U8 :=
  (List.range (fieldOctets (ade.ewl.val + 1) ade.deltas)).map fun j =>
    BitVec.ofNat 8 (octetAt (packFields (ade.ewl.val + 1) ade.deltas) j)

def TimBlockInfo.octets : TimBlockInfo → List U8
  | .blockBitmap subblocks => subblockBitmap subblocks :: (List.ofFn subblocks).filterMap id
  | .singleAid aid => [BitVec.ofNat 8 aid.val]
  | .olb subblocks => BitVec.ofNat 8 subblocks.length :: subblocks
  | .ade l => BitVec.ofNat 8 (8 * l.aidOctets.length + l.ewl.val) :: l.aidOctets

/-- The control octet of a block. -/
def TimBlock.hdr (b : TimBlock) : U8 :=
  BitVec.ofNat 8 (8 * b.blockOffset.val + 4 * b.inverse.toNat + b.info.mode)

def TimBlock.octets (b : TimBlock) : List U8 := b.hdr :: b.info.octets

/-- The octets of a list of blocks. -/
def timBlockOctets (blocks : List TimBlock) : List U8 := blocks.flatMap TimBlock.octets

/-! ## Elements -/

/-- An S1G TIM element with its bitmap control. -/
structure S1gTim where
  dtimCount : U8
  dtimPeriod : U8
  trafficIndicator : Bool
  pageIndex : Fin 4
  pageSlice : Nat
  blocks : List TimBlock
  pageSlice_ok : pageSlice = 0 ∨ pageSlice = 31
  fits : (timBlockOctets blocks).length ≤ 252

theorem allPages : 31 = 0 ∨ 31 = 31 := Or.inr rfl

/-- Some block indicates the AID. -/
def S1gTim.indicates (tim : S1gTim) (aid : Nat) : Bool :=
  tim.blocks.any fun b => b.indicates tim.pageIndex.val aid

/-- The octets of the element. -/
def S1gTim.octets (tim : S1gTim) : List U8 :=
  [dot11IeTim, BitVec.ofNat 8 (3 + (timBlockOctets tim.blocks).length), tim.dtimCount,
    tim.dtimPeriod,
    BitVec.ofNat 8 (64 * tim.pageIndex.val + 2 * tim.pageSlice + tim.trafficIndicator.toNat)]
    ++ timBlockOctets tim.blocks

end MmIotEsp32.Umac.Ies
