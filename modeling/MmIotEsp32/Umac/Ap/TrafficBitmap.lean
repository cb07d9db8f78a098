/-
  MmIotEsp32.Umac.Ap.TrafficBitmap

  The traffic bitmap of the AP (`umac/ap/traffic_bitmap.h`): one bit for each AID.
-/
import MmIotEsp32.Common.Mmosal
import MmIotEsp32.Lib.BitFields

namespace MmIotEsp32.Umac.Ap

open Lib

/-! ## The functions -/

def maxSupportedAid : Nat := 64

def s1gBitmapSubblocks : Nat := (maxSupportedAid + 7) / 8

/-- The octets of the bitmap. -/
abbrev TrafficBitmap := Fin s1gBitmapSubblocks → U8

def aidIsValid (aid : U16) : Bool := aid != 0 && decide (aid.toNat < maxSupportedAid)

variable {aid : U16}

theorem aidIsValid_lt (h : aidIsValid aid = true) : aid.toNat < maxSupportedAid :=
  of_decide_eq_true (Bool.and_eq_true_iff.mp h).2

/-- The octet of an AID. -/
def aidOctet (aid : U16) (h : aid.toNat < maxSupportedAid) : Fin s1gBitmapSubblocks :=
  ⟨(aid >>> 3).toNat, by
    rw [BitVec.toNat_ushiftRight, Nat.shiftRight_eq_div_pow]
    unfold maxSupportedAid at h
    show aid.toNat / 2 ^ 3 < 8
    omega⟩

/-- The bit of an AID in its octet. -/
def aidBit (aid : U16) : U8 := 1#8 <<< (aid &&& 0x07).toNat

/-- `ap_traffic_bitmap_set_aid_bit`; `none` is its assertion. -/
def apTrafficBitmapSetAidBit (bitmap : TrafficBitmap) (aid : U16) : Option TrafficBitmap :=
  if h : aidIsValid aid then
    some fun i => if i = aidOctet aid (aidIsValid_lt h) then bitmap i ||| aidBit aid else bitmap i
  else none

/-- `ap_traffic_bitmap_clear_aid_bit`; `none` is its assertion. -/
def apTrafficBitmapClearAidBit (bitmap : TrafficBitmap) (aid : U16) : Option TrafficBitmap :=
  if h : aidIsValid aid then
    some fun i => if i = aidOctet aid (aidIsValid_lt h) then bitmap i &&& ~~~ aidBit aid else bitmap i
  else none

/-- The test of `ap_traffic_bitmap_get_aid_bit`. -/
def trafficBit (bitmap : TrafficBitmap) (aid : U16) (h : aid.toNat < maxSupportedAid) : Bool :=
  bitmap (aidOctet aid h) &&& aidBit aid != 0

/-- `ap_traffic_bitmap_get_aid_bit`; `none` is its assertion. -/
def apTrafficBitmapGetAidBit (bitmap : TrafficBitmap) (aid : U16) : Option Bool :=
  if h : aidIsValid aid then some (trafficBit bitmap aid (aidIsValid_lt h)) else none

/-! ## One bit for each AID -/

theorem toNat_aidBit (aid : U16) : (aid &&& 0x07).toNat = aid.toNat % 8 := by
  rw [BitVec.toNat_and]
  exact Nat.and_two_pow_sub_one_eq_mod aid.toNat 3

theorem trafficBit_eq (bitmap : TrafficBitmap) (aid : U16) (h : aid.toNat < maxSupportedAid) :
    trafficBit bitmap aid h = (bitmap (aidOctet aid h)).getLsbD (aid.toNat % 8) := by
  unfold trafficBit aidBit
  rw [toNat_aidBit]
  show (!(bitmap (aidOctet aid h) &&& (1#8 <<< (aid.toNat % 8)) == 0)) = _
  rw [octet_test_bit _ (Nat.mod_lt _ (by decide)), Bool.not_not]

theorem aid_eq_of_octet {aid aid' : U16} {h : aid.toNat < maxSupportedAid}
    {h' : aid'.toNat < maxSupportedAid} (hoctet : aidOctet aid h = aidOctet aid' h')
    (hbit : aid.toNat % 8 = aid'.toNat % 8) : aid = aid' := by
  have hdiv : (aid >>> 3).toNat = (aid' >>> 3).toNat := Fin.mk.inj hoctet
  rw [BitVec.toNat_ushiftRight, BitVec.toNat_ushiftRight, Nat.shiftRight_eq_div_pow,
    Nat.shiftRight_eq_div_pow] at hdiv
  apply BitVec.eq_of_toNat_eq
  omega

theorem getLsbD_aidBit (aid : U16) (i : Nat) :
    (aidBit aid).getLsbD i = decide (aid.toNat % 8 = i) := by
  have hlt : aid.toNat % 8 < 8 := Nat.mod_lt _ (by decide)
  show (BitVec.twoPow 8 (aid &&& 0x07).toNat).getLsbD i = _
  rw [BitVec.getLsbD_twoPow, toNat_aidBit, decide_eq_true hlt, Bool.true_and]

variable {bitmap bitmap' : TrafficBitmap}

theorem trafficBit_set (heq : apTrafficBitmapSetAidBit bitmap aid = some bitmap') (aid' : U16)
    (h' : aid'.toNat < maxSupportedAid) :
    trafficBit bitmap' aid' h' = (decide (aid = aid') || trafficBit bitmap aid' h') := by
  unfold apTrafficBitmapSetAidBit at heq
  split at heq
  · next hvalid =>
      cases heq
      rw [trafficBit_eq, trafficBit_eq]
      split
      · next hoctet =>
          rw [BitVec.getLsbD_or, getLsbD_aidBit, Bool.or_comm]
          congr 1
          apply decide_eq_decide.mpr
          exact ⟨fun hbit => aid_eq_of_octet hoctet.symm hbit, fun heq => heq ▸ rfl⟩
      next hoctet =>
        rw [decide_eq_false, Bool.false_or]
        rintro rfl
        exact hoctet rfl
  · cases heq

theorem trafficBit_clear (heq : apTrafficBitmapClearAidBit bitmap aid = some bitmap') (aid' : U16)
    (h' : aid'.toNat < maxSupportedAid) :
    trafficBit bitmap' aid' h' = (!decide (aid = aid') && trafficBit bitmap aid' h') := by
  unfold apTrafficBitmapClearAidBit at heq
  split at heq
  · next hvalid =>
      cases heq
      rw [trafficBit_eq, trafficBit_eq]
      split
      · next hoctet =>
          have hlt : aid'.toNat % 8 < 8 := Nat.mod_lt _ (by decide)
          rw [BitVec.getLsbD_and, BitVec.getLsbD_not, getLsbD_aidBit, decide_eq_true hlt,
            Bool.true_and, Bool.and_comm]
          congr 2
          apply decide_eq_decide.mpr
          exact ⟨fun hbit => aid_eq_of_octet hoctet.symm hbit, fun heq => heq ▸ rfl⟩
      next hoctet =>
        rw [decide_eq_false, Bool.not_false, Bool.true_and]
        rintro rfl
        exact hoctet rfl
  · cases heq

theorem apTrafficBitmapGetAidBit_eq_true {bitmap : TrafficBitmap} :
    apTrafficBitmapGetAidBit bitmap aid = some true
      ↔ ∃ h : aidIsValid aid = true, trafficBit bitmap aid (aidIsValid_lt h) = true := by
  unfold apTrafficBitmapGetAidBit
  split
  · next hvalid => simp [hvalid]
  · next hinvalid => simp [hinvalid]

theorem get_of_set {aid aid' : U16} (heq : apTrafficBitmapSetAidBit bitmap aid = some bitmap')
    (hget : apTrafficBitmapGetAidBit bitmap' aid' = some true) :
    aid = aid' ∨ apTrafficBitmapGetAidBit bitmap aid' = some true := by
  obtain ⟨hvalid, hbit⟩ := apTrafficBitmapGetAidBit_eq_true.mp hget
  rw [trafficBit_set heq, Bool.or_eq_true_iff, decide_eq_true_iff] at hbit
  exact hbit.imp_right fun hbit => apTrafficBitmapGetAidBit_eq_true.mpr ⟨hvalid, hbit⟩

theorem get_of_clear {aid aid' : U16} (heq : apTrafficBitmapClearAidBit bitmap aid = some bitmap')
    (hget : apTrafficBitmapGetAidBit bitmap' aid' = some true) :
    aid ≠ aid' ∧ apTrafficBitmapGetAidBit bitmap aid' = some true := by
  obtain ⟨hvalid, hbit⟩ := apTrafficBitmapGetAidBit_eq_true.mp hget
  rw [trafficBit_clear heq, Bool.and_eq_true_iff] at hbit
  exact ⟨by simpa using hbit.1, apTrafficBitmapGetAidBit_eq_true.mpr ⟨hvalid, hbit.2⟩⟩

end MmIotEsp32.Umac.Ap
