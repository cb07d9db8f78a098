/-
  MmIotEsp32.HeliFc.Drivers.Sbus

  The SBUS receiver (`drivers/sbus.c`).

  A frame is 25 bytes: a header, 16 channels of 11 bits, flags, and a footer.  The reader task
  takes the first byte that looks like a header and the 24 bytes behind it, and then looks for a
  header again.  The time of the last frame is left out.
-/
import Mathlib.Data.Fin.VecNotation
import MmIotEsp32.Common.Mmosal
import MmIotEsp32.Lib.BitFields
import MmIotEsp32.Lib.StreamParser

namespace MmIotEsp32.HeliFc

open Lib

/-! ## Frames -/

def sbusHeader : U8 := 0x0F

def sbusFooter : U8 := 0x00

def sbusFrameSize : Nat := 25

/-- `sbus_data_t`. -/
structure SbusData where
  channels : Fin 16 → U16
  frameLost : Bool
  failsafe : Bool
  deriving DecidableEq

/-- `(uint16_t)frame[i]`, as it is promoted to an `int`. -/
def sbusByte (frame : List U8) (i : Nat) : U32 := (frame.getD i 0).setWidth 32

/-- `& 0x07FF`, as it is stored. -/
def sbusChannel (x : U32) : U16 := (x &&& 0x07FF).setWidth 16

def sbusDecodeFrame (frame : List U8) : SbusData where
  channels :=
    let b := sbusByte frame
    ![sbusChannel (b 1 ||| b 2 <<< 8),
      sbusChannel (b 2 >>> 3 ||| b 3 <<< 5),
      sbusChannel (b 3 >>> 6 ||| b 4 <<< 2 ||| b 5 <<< 10),
      sbusChannel (b 5 >>> 1 ||| b 6 <<< 7),
      sbusChannel (b 6 >>> 4 ||| b 7 <<< 4),
      sbusChannel (b 7 >>> 7 ||| b 8 <<< 1 ||| b 9 <<< 9),
      sbusChannel (b 9 >>> 2 ||| b 10 <<< 6),
      sbusChannel (b 10 >>> 5 ||| b 11 <<< 3),
      sbusChannel (b 12 ||| b 13 <<< 8),
      sbusChannel (b 13 >>> 3 ||| b 14 <<< 5),
      sbusChannel (b 14 >>> 6 ||| b 15 <<< 2 ||| b 16 <<< 10),
      sbusChannel (b 16 >>> 1 ||| b 17 <<< 7),
      sbusChannel (b 17 >>> 4 ||| b 18 <<< 4),
      sbusChannel (b 18 >>> 7 ||| b 19 <<< 1 ||| b 20 <<< 9),
      sbusChannel (b 20 >>> 2 ||| b 21 <<< 6),
      sbusChannel (b 21 >>> 5 ||| b 22 <<< 3)]
  frameLost := sbusByte frame 23 &&& 0x04 != 0
  failsafe := sbusByte frame 23 &&& 0x08 != 0

/-- The 16 channels as one number, the first byte and the first channel in the lowest bits. -/
def sbusPayload (frame : List U8) : Nat :=
  packFields 8 (((frame.drop 1).take 22).map BitVec.toNat)

/-! ## The reader task -/

/-- The variables of `sbus_reader_task`; `frame_idx` is the length of what was taken.  `read` is
history: how many bytes have come. -/
structure SbusReader where
  frame : List U8
  synced : Bool
  read : Nat
  deriving DecidableEq

def SbusReader.init : SbusReader := ⟨[], false, 0⟩

/-- A frame that is accepted, with how many bytes have come, and what becomes `s_data`. -/
structure SbusAccepted where
  endsAt : Nat
  frame : List U8
  data : SbusData
  deriving DecidableEq

/-- The body of the loop over the bytes of a read. -/
def sbusReadByte (s : SbusReader) (byte : U8) : SbusReader × Option SbusAccepted :=
  if s.synced then
    let frame := s.frame ++ [byte]
    if sbusFrameSize ≤ frame.length then
      -- In both cases a header is looked for next.
      (⟨[], false, s.read + 1⟩,
        if frame[0]? = some sbusHeader ∧ frame[24]? = some sbusFooter then
          some ⟨s.read + 1, frame, sbusDecodeFrame frame⟩
        else none)
    else (⟨frame, true, s.read + 1⟩, none)
  else if byte = sbusHeader then (⟨[byte], true, s.read + 1⟩, none)
  else (⟨[], false, s.read + 1⟩, none)

/-- `sbus_reader_task`: the reads, one after the other. -/
def sbusReaderTask (s : SbusReader) : List (List U8) → SbusReader × List SbusAccepted
  | [] => (s, [])
  | buf :: reads =>
    let now := feed sbusReadByte s buf
    let later := sbusReaderTask now.1 reads
    (later.1, now.2 ++ later.2)

/-! ## Channels -/

section Channels

variable {frame : List U8}

theorem testBit_sbusPayload (frame : List U8) {n : Nat} (hn : n < 176) :
    (sbusPayload frame).testBit n = (frame.getD (1 + n / 8) 0).getLsbD (n % 8) := by
  have hbytes : ∀ d ∈ ((frame.drop 1).take 22).map BitVec.toNat, d < 2 ^ 8 := by
    intro d hd
    obtain ⟨byte, -, rfl⟩ := List.mem_map.mp hd
    exact byte.isLt
  have hbyte := bitsAt_packFields hbytes (n / 8)
  have hget : (((frame.drop 1).take 22).map BitVec.toNat).getD (n / 8) 0
      = (frame.getD (1 + n / 8) 0).toNat := by
    rw [show (0 : Nat) = (0 : U8).toNat from rfl, List.getD_map, List.getD_eq_getElem?_getD,
      List.getElem?_take_of_lt (by omega), List.getElem?_drop, List.getD_eq_getElem?_getD]
  rw [hget] at hbyte
  have htest := testBit_bitsAt (packFields 8 (((frame.drop 1).take 22).map BitVec.toNat))
    (8 * (n / 8)) 8 (n % 8)
  rw [hbyte, decide_eq_true (Nat.mod_lt n (by decide)), Bool.true_and, Nat.div_add_mod] at htest
  exact htest.symm

theorem sbusChannel_field {x : U32} {off : Nat} (hoff : off + 11 ≤ 176)
    (hbits : ∀ j < 11, x.getLsbD j
      = (frame.getD (1 + (off + j) / 8) 0).getLsbD ((off + j) % 8)) :
    (sbusChannel x).toNat = bitsAt (sbusPayload frame) off 11 := by
  apply Nat.eq_of_testBit_eq
  intro j
  rw [testBit_bitsAt, BitVec.testBit_toNat, sbusChannel, BitVec.getLsbD_setWidth,
    BitVec.getLsbD_and]
  by_cases hj : j < 11
  · have hmask : (0x07FF : U32).getLsbD j = true := by
      rw [show (0x07FF : U32) = BitVec.ofNat 32 (2 ^ 11 - 1) from rfl, BitVec.getLsbD_ofNat,
        Nat.testBit_two_pow_sub_one, decide_eq_true hj, decide_eq_true (show j < 32 by omega)]
      rfl
    rw [hmask, hbits j hj, decide_eq_true hj, decide_eq_true (show j < 16 by omega),
      Bool.true_and, Bool.and_true, Bool.true_and, testBit_sbusPayload frame (by omega)]
  have hmask : (0x07FF : U32).getLsbD j = false := by
    rw [show (0x07FF : U32) = BitVec.ofNat 32 (2 ^ 11 - 1) from rfl, BitVec.getLsbD_ofNat,
      Nat.testBit_two_pow_sub_one, decide_eq_false hj, Bool.and_false]
  rw [hmask, decide_eq_false hj, Bool.and_false, Bool.and_false, Bool.false_and]

theorem getLsbD_sbusByte (frame : List U8) (i j : Nat) :
    (sbusByte frame i).getLsbD j = (frame.getD i 0).getLsbD j := by
  rw [sbusByte, BitVec.getLsbD_setWidth]
  by_cases hj : j < 32
  · rw [decide_eq_true hj, Bool.true_and]
  · rw [decide_eq_false hj, Bool.false_and, BitVec.getLsbD_of_ge _ _ (by omega)]

theorem getLsbD_shifted (frame : List U8) (i s j : Nat) :
    (sbusByte frame i >>> s).getLsbD j = (frame.getD i 0).getLsbD (s + j) := by
  rw [BitVec.getLsbD_ushiftRight, getLsbD_sbusByte]

theorem getLsbD_raised (frame : List U8) (i s : Nat) {j : Nat} (hj : j < 32) :
    (sbusByte frame i <<< s).getLsbD j
      = (!decide (j < s) && (frame.getD i 0).getLsbD (j - s)) := by
  rw [BitVec.getLsbD_shiftLeft, getLsbD_sbusByte, decide_eq_true hj, Bool.true_and]

theorem sbusChannel_two (frame : List U8) {n s off : Nat} (hs : s ≤ 5) (hoff : off = 8 * n + s)
    (hn : off + 11 ≤ 176) :
    (sbusChannel (sbusByte frame (1 + n) >>> s ||| sbusByte frame (2 + n) <<< (8 - s))).toNat
      = bitsAt (sbusPayload frame) off 11 := by
  refine sbusChannel_field hn fun j hj => ?_
  rw [BitVec.getLsbD_or, getLsbD_shifted, getLsbD_raised _ _ _ (by omega)]
  by_cases hlow : s + j < 8
  · -- in the first byte
    rw [decide_eq_true (show j < 8 - s by omega), Bool.not_true, Bool.false_and, Bool.or_false,
      show (off + j) / 8 = n by omega, show (off + j) % 8 = s + j by omega]
  -- in the second one
  rw [BitVec.getLsbD_of_ge _ (s + j) (by omega), Bool.false_or,
    decide_eq_false (show ¬ j < 8 - s by omega), Bool.not_false, Bool.true_and,
    show (off + j) / 8 = n + 1 by omega, show (off + j) % 8 = j - (8 - s) by omega,
    show 1 + (n + 1) = 2 + n by omega]

theorem sbusChannel_three (frame : List U8) {n s off : Nat} (hs : 5 < s) (hs8 : s < 8)
    (hoff : off = 8 * n + s) (hn : off + 11 ≤ 176) :
    (sbusChannel (sbusByte frame (1 + n) >>> s ||| sbusByte frame (2 + n) <<< (8 - s)
      ||| sbusByte frame (3 + n) <<< (16 - s))).toNat = bitsAt (sbusPayload frame) off 11 := by
  refine sbusChannel_field hn fun j hj => ?_
  rw [BitVec.getLsbD_or, BitVec.getLsbD_or, getLsbD_shifted, getLsbD_raised _ _ _ (by omega),
    getLsbD_raised _ _ _ (by omega)]
  by_cases hlow : s + j < 8
  · -- in the first byte
    rw [decide_eq_true (show j < 8 - s by omega), decide_eq_true (show j < 16 - s by omega),
      show (off + j) / 8 = n by omega, show (off + j) % 8 = s + j by omega]
    simp
  rw [BitVec.getLsbD_of_ge _ (s + j) (by omega), Bool.false_or,
    decide_eq_false (show ¬ j < 8 - s by omega), Bool.not_false, Bool.true_and]
  by_cases hmid : s + j < 16
  · -- in the second one
    rw [decide_eq_true (show j < 16 - s by omega), Bool.not_true, Bool.false_and, Bool.or_false,
      show (off + j) / 8 = n + 1 by omega, show (off + j) % 8 = j - (8 - s) by omega,
      show 1 + (n + 1) = 2 + n by omega]
  -- in the third one
  rw [BitVec.getLsbD_of_ge _ (j - (8 - s)) (by omega), Bool.false_or,
    decide_eq_false (show ¬ j < 16 - s by omega), Bool.not_false, Bool.true_and,
    show (off + j) / 8 = n + 2 by omega, show (off + j) % 8 = j - (16 - s) by omega,
    show 1 + (n + 2) = 3 + n by omega]

theorem sbusDecodeFrame_channels (frame : List U8) (i : Fin 16) :
    ((sbusDecodeFrame frame).channels i).toNat = bitsAt (sbusPayload frame) (11 * i) 11 := by
  -- Channels 2, 5, 10 and 13 lie in three bytes.
  obtain ⟨i, hi⟩ := i
  match i, hi with
  | 0, _ => exact @sbusChannel_two frame 0 0 0 (by decide) rfl (by decide)
  | 1, _ => exact @sbusChannel_two frame 1 3 11 (by decide) rfl (by decide)
  | 2, _ => exact @sbusChannel_three frame 2 6 22 (by decide) (by decide) rfl (by decide)
  | 3, _ => exact @sbusChannel_two frame 4 1 33 (by decide) rfl (by decide)
  | 4, _ => exact @sbusChannel_two frame 5 4 44 (by decide) rfl (by decide)
  | 5, _ => exact @sbusChannel_three frame 6 7 55 (by decide) (by decide) rfl (by decide)
  | 6, _ => exact @sbusChannel_two frame 8 2 66 (by decide) rfl (by decide)
  | 7, _ => exact @sbusChannel_two frame 9 5 77 (by decide) rfl (by decide)
  | 8, _ => exact @sbusChannel_two frame 11 0 88 (by decide) rfl (by decide)
  | 9, _ => exact @sbusChannel_two frame 12 3 99 (by decide) rfl (by decide)
  | 10, _ => exact @sbusChannel_three frame 13 6 110 (by decide) (by decide) rfl (by decide)
  | 11, _ => exact @sbusChannel_two frame 15 1 121 (by decide) rfl (by decide)
  | 12, _ => exact @sbusChannel_two frame 16 4 132 (by decide) rfl (by decide)
  | 13, _ => exact @sbusChannel_three frame 17 7 143 (by decide) (by decide) rfl (by decide)
  | 14, _ => exact @sbusChannel_two frame 19 2 154 (by decide) rfl (by decide)
  | 15, _ => exact @sbusChannel_two frame 20 5 165 (by decide) rfl (by decide)
  | n + 16, hi => exact absurd hi (by omega)

end Channels

end MmIotEsp32.HeliFc
