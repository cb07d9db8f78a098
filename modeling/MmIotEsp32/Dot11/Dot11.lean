/-
  MmIotEsp32.Dot11.Dot11

  Fields of 802.11 headers (`dot11/dot11.h`, `dot11/dot11_frames.h`) and the
  helpers over them (`dot11/dot11_utils.h`).

  A header is a pointer into a packet, so every accessor takes a `BytePtr`.
-/
import Mathlib.Tactic.IntervalCases
import MmIotEsp32.Common.Mmpkt

namespace MmIotEsp32.Dot11

open Lib

/-! ## Fields of 16-bit words -/

/-- `(le16toh(word) & mask) >> shift`. -/
def dot11Field (word mask : U16) (shift : Nat) : U16 := (word &&& mask) >>> shift

def dot11FrameControlGetType (fc : U16) : U16 := dot11Field fc 0x000c 2
def dot11FrameControlGetSubtype (fc : U16) : U16 := dot11Field fc 0x00f0 4
def dot11FrameControlGetVerTypeSubtype (fc : U16) : U16 := dot11Field fc 0x00ff 0
def dot11FrameControlGetToDs (fc : U16) : Bool := dot11Field fc 0x0100 8 != 0
def dot11FrameControlGetFromDs (fc : U16) : Bool := dot11Field fc 0x0200 9 != 0
def dot11FrameControlGetMoreFragments (fc : U16) : Bool := dot11Field fc 0x0400 10 != 0
def dot11FrameControlGetRetry (fc : U16) : Bool := dot11Field fc 0x0800 11 != 0
def dot11FrameControlGetProtected (fc : U16) : Bool := dot11Field fc 0x4000 14 != 0

def dot11SequenceControlGetFragmentNumber (sc : U16) : U16 := dot11Field sc 0x000f 0
def dot11SequenceControlGetSequenceNumber (sc : U16) : U16 := dot11Field sc 0xfff0 4

def dot11QosControlGetTid (qc : U16) : U16 := dot11Field qc 0x000f 0

def dot11BaParameterSetFieldGetBaPolicy (p : U16) : U16 := dot11Field p 0x0002 1
def dot11BaParameterSetFieldGetTid (p : U16) : U16 := dot11Field p 0x003c 2
def dot11BaParameterSetFieldGetBufferSize (p : U16) : U16 := dot11Field p 0xffc0 6

def dot11DelbaParameterSetFieldGetInitiator (p : U16) : U16 := dot11Field p 0x0800 11
def dot11DelbaParameterSetFieldGetTid (p : U16) : U16 := dot11Field p 0xf000 12

/-! ## Frame types -/

def dot11FcTypeMgmt : U16 := 0
def dot11FcTypeCtrl : U16 := 1
def dot11FcTypeData : U16 := 2
def dot11FcTypeExt : U16 := 3

def dot11FcSubtypeNullData : U16 := 4
def dot11FcSubtypeQosData : U16 := 8
def dot11FcSubtypeQosNull : U16 := 12

def dot11VerTypeSubtype (ver type subtype : U16) : U16 := ver ||| (type <<< 2) ||| (subtype <<< 4)

def dot11CcmpHeaderLen : Nat := 8
def dot11Ccmp128MicLen : Nat := 8

/-! ## Headers -/

/-- `sizeof(struct dot11_hdr)`. -/
def sizeofDot11Hdr : Nat := 24

/-- `sizeof(struct dot11_data_hdr)`: a header with the fourth address. -/
def sizeofDot11DataHdr : Nat := 30

/-- `sizeof(struct dot11_qos_ctrl)`. -/
def sizeofDot11QosCtrl : Nat := 2

/-- The six octets of a MAC address. -/
abbrev MacAddr := Fin 6 → U8

scoped instance neZero6 : NeZero 6 := ⟨by decide⟩

def macAddrAt (p : BytePtr) (offset : Nat) : MacAddr := fun i => p (offset + i)

def frameControl (hdr : BytePtr) : U16 := hdr.le16 0
def addr1 (hdr : BytePtr) : MacAddr := macAddrAt hdr 4
def addr2 (hdr : BytePtr) : MacAddr := macAddrAt hdr 10
def addr3 (hdr : BytePtr) : MacAddr := macAddrAt hdr 16
def sequenceControl (hdr : BytePtr) : U16 := hdr.le16 22
def addr4 (hdr : BytePtr) : MacAddr := macAddrAt hdr 24

/-- A header of the given frame control and sequence control, its addresses zero. -/
def bareHdr (fc seqCtrl : U16) : BytePtr
  | 0 => fc.setWidth 8
  | 1 => (fc >>> 8).setWidth 8
  | 22 => seqCtrl.setWidth 8
  | 23 => (seqCtrl >>> 8).setWidth 8
  | _ => 0

def mmMacAddrIsMulticast (addr : MacAddr) : Bool := addr 0 &&& 0x01 != 0

def mmMacAddrIsBroadcast (addr : MacAddr) : Bool :=
  addr 0 &&& addr 1 &&& addr 2 &&& addr 3 &&& addr 4 &&& addr 5 == 0xff

/-- The test the receive path makes for group addresses. -/
def isGroupAddr (addr : MacAddr) : Bool := mmMacAddrIsBroadcast addr || mmMacAddrIsMulticast addr

def dot11Is4addrHdr (fc : U16) : Bool :=
  dot11FrameControlGetType fc == dot11FcTypeData
    && (dot11FrameControlGetToDs fc && dot11FrameControlGetFromDs fc)

def dot11DataHdrGetLen (hdr : BytePtr) : Nat :=
  if dot11Is4addrHdr (frameControl hdr) then sizeofDot11DataHdr else sizeofDot11Hdr

def dot11GetRa (hdr : BytePtr) : MacAddr := addr1 hdr

def dot11GetTa (hdr : BytePtr) : MacAddr := addr2 hdr

def dot11GetDa (hdr : BytePtr) : MacAddr :=
  if dot11FrameControlGetToDs (frameControl hdr) then addr3 hdr else addr1 hdr

def dot11GetSaData (hdr : BytePtr) : MacAddr :=
  let toDs := dot11FrameControlGetToDs (frameControl hdr)
  let fromDs := dot11FrameControlGetFromDs (frameControl hdr)
  if !toDs && fromDs then addr3 hdr
  else if fromDs && toDs then addr4 hdr
  else addr2 hdr

/-- `dot11_get_sa`; its check on four addresses is a development assertion. -/
def dot11GetSa (hdr : BytePtr) : MacAddr := dot11GetSaData hdr

theorem dot11DataHdrGetLen_le (hdr : BytePtr) : dot11DataHdrGetLen hdr ≤ sizeofDot11DataHdr := by
  unfold dot11DataHdrGetLen sizeofDot11DataHdr sizeofDot11Hdr
  split <;> omega

theorem le_dot11DataHdrGetLen (hdr : BytePtr) : sizeofDot11Hdr ≤ dot11DataHdrGetLen hdr := by
  unfold dot11DataHdrGetLen sizeofDot11DataHdr sizeofDot11Hdr
  split <;> omega

/-! ## Sequence control -/

def dot11GetNextSequenceControl (hdr : BytePtr) : U16 :=
  let seqCtrl := sequenceControl hdr
  if dot11FrameControlGetMoreFragments (frameControl hdr) then seqCtrl + 1
  else (seqCtrl &&& 0xfff0) + 0x10

/-- `dot11_sequence_control_lt`: `(int16_t)(a - b) < 0`. -/
def dot11SequenceControlLt (a b : U16) : Bool := serialLt a b

theorem serialDist_next (hdr : BytePtr) :
    0 < serialDist (sequenceControl hdr) (dot11GetNextSequenceControl hdr)
      ∧ serialDist (sequenceControl hdr) (dot11GetNextSequenceControl hdr) ≤ 16 := by
  unfold dot11GetNextSequenceControl serialDist
  generalize sequenceControl hdr = s
  dsimp only
  split
  · have hone : s + 1 - s = 1 := by
      rw [BitVec.add_comm, BitVec.add_sub_cancel]
    rw [hone]
    decide
  -- clearing the fragment number loses less than the sixteen that are added
  have hmask : (s &&& 0xfff0#16).toNat = s.toNat / 16 * 16 := by
    have hsplit : s &&& 0xfff0#16 = (s >>> 4) <<< 4 := by
      ext i hi
      simp only [BitVec.getElem_and, BitVec.getElem_shiftLeft, BitVec.getElem_ushiftRight]
      interval_cases i <;> simp
    rw [hsplit, BitVec.toNat_shiftLeft, BitVec.toNat_ushiftRight, Nat.shiftRight_eq_div_pow,
      Nat.shiftLeft_eq]
    omega
  have hlt := s.isLt
  have htoNat : ((s &&& 0xfff0#16) + 0x10#16 - s).toNat = s.toNat / 16 * 16 + 16 - s.toNat := by
    rw [BitVec.toNat_sub, BitVec.toNat_add, hmask]
    simp only [BitVec.toNat_ofNat]
    omega
  show 0 < ((s &&& 0xfff0#16) + 0x10#16 - s).toNat ∧ ((s &&& 0xfff0#16) + 0x10#16 - s).toNat ≤ 16
  rw [htoNat]
  omega

end MmIotEsp32.Dot11
