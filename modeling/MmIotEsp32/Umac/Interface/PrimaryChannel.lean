/-
  MmIotEsp32.Umac.Interface.PrimaryChannel

  The primary channel inside the operating channel, by the index of a 1 MHz channel
  and back (`umac_interface_calc_pri_1mhz_idx`, `umac_interface_calc_pri_channel`).
-/
import MmIotEsp32.Mmregdb.Mmregdb
import Mathlib.Data.List.Pairwise

namespace MmIotEsp32.Umac.Interface

/-! ## The way back -/

/-- `umac_regdb_get_channel_from_freq_and_bw`: the channel that matches, if there is only one. -/
def umacRegdbGetChannelFromFreqAndBw (channelList : List S1gChannel) (centreFreqHz : U32)
    (bwMask : U8) : Option S1gChannel :=
  match channelList.filter fun chan =>
      chan.centreFreqHz = centreFreqHz && bwMask &&& chan.bwMhz ≠ 0 with
  | [chan] => some chan
  | _ => none

def umacInterfaceCalcPriChannel (channelList : List S1gChannel) (operatingChan : S1gChannel)
    (pri1mhzChanIdx : Nat) (priBwMhz : U8) : Option S1gChannel :=
  let primary1mhzOffset := if priBwMhz = 2 then pri1mhzChanIdx % 2 else 0
  let bwMarginHz := ((operatingChan.bwMhz.toNat : Int) - priBwMhz.toNat) * (mhzToHz / 2)
  let freqDeltaHz := ((pri1mhzChanIdx : Int) - primary1mhzOffset) * mhzToHz - bwMarginHz
  let primaryCentreFreqHz := operatingChan.centreFreqHz + BitVec.ofInt 32 freqDeltaHz
  umacRegdbGetChannelFromFreqAndBw channelList primaryCentreFreqHz priBwMhz

/-! ## Places -/

/-- The widths of S1G channels. -/
def IsWidth (bwMhz : U8) : Prop :=
  bwMhz = 1 ∨ bwMhz = 2 ∨ bwMhz = 4 ∨ bwMhz = 8 ∨ bwMhz = 16

instance (bwMhz : U8) : Decidable (IsWidth bwMhz) := inferInstanceAs (Decidable (_ ∨ _))

/-- The lower edge of a channel. -/
def S1gChannel.lowerEdgeHz (chan : S1gChannel) : Int :=
  (chan.centreFreqHz.toNat : Int) - chan.bwMhz.toNat * 500000

/-- The primary channel is the one in place `k` of the operating channel. -/
def InPlace (operatingChan primaryChan : S1gChannel) (k : Nat) : Prop :=
  primaryChan.lowerEdgeHz = operatingChan.lowerEdgeHz + k * (primaryChan.bwMhz.toNat * 1000000)
    ∧ (k + 1) * primaryChan.bwMhz.toNat ≤ operatingChan.bwMhz.toNat

/-- The primary channel lies inside the operating channel, aligned to its width. -/
def AlignedInside (operatingChan primaryChan : S1gChannel) : Prop :=
  ∃ k, InPlace operatingChan primaryChan k

/-- A channel list with channels of these widths, and one for a centre frequency and width. -/
structure OnePerFreqAndWidth (channelList : List S1gChannel) : Prop where
  widths : ∀ chan ∈ channelList, IsWidth chan.bwMhz
  one : channelList.Pairwise fun a b => ¬ (a.centreFreqHz = b.centreFreqHz ∧ a.bwMhz = b.bwMhz)

/-- How far the lower edge of the primary channel is above that of the operating channel, in the
32-bit words of the source. -/
def edgeOffsetHz (operatingChan primaryChan : S1gChannel) : Int :=
  (primaryChan.centreFreqHz - operatingChan.centreFreqHz).toInt
    + ((operatingChan.bwMhz.toNat : Int) - primaryChan.bwMhz.toNat) * 500000

/-- The 1 MHz channel of the primary channel that the index is of. -/
def locOf (primaryChan : S1gChannel) (primary1mhzChannelLoc : U8) : Nat :=
  if 1 < primaryChan.bwMhz.toNat then primary1mhzChannelLoc.toNat else 0

theorem umacInterfaceCalcPri1mhzIdx_eq {channelList : List S1gChannel}
    {s1gOperation : S1gOperation} {operatingChan primaryChan : S1gChannel}
    (hpri : umacRegdbGetChannel channelList s1gOperation.primaryChannelNumber
      = some primaryChan) :
    umacInterfaceCalcPri1mhzIdx channelList s1gOperation operatingChan
      = let idx := (edgeOffsetHz operatingChan primaryChan).tdiv 1000000
          + locOf primaryChan s1gOperation.primary1mhzChannelLoc
        if idx < 0 ∨ (operatingChan.bwMhz.toNat : Int) ≤ idx then none else some idx.toNat := by
  unfold umacInterfaceCalcPri1mhzIdx
  rw [hpri]
  have hmargin : mhzToHz / 2 = 500000 := by decide
  dsimp only
  rw [hmargin, show mhzToHz = 1000000 from rfl, ← edgeOffsetHz]
  by_cases hwide : 1 < primaryChan.bwMhz.toNat
  · rw [if_pos hwide, locOf, if_pos hwide]
  · rw [if_neg hwide, locOf, if_neg hwide, Nat.cast_zero, Int.add_zero]

theorem toInt_sub_of_near {x y : U32} {d : Int} (h : (x.toNat : Int) - y.toNat = d)
    (hlow : -(2 ^ 31) ≤ d) (hhigh : d < 2 ^ 31) : (x - y).toInt = d := by
  have hx := x.isLt
  have hy := y.isLt
  rw [BitVec.toInt_eq_toNat_cond, BitVec.toNat_sub]
  split_ifs <;> omega

theorem IsWidth.le {bwMhz : U8} (h : IsWidth bwMhz) : 1 ≤ bwMhz.toNat ∧ bwMhz.toNat ≤ 16 := by
  rcases h with rfl | rfl | rfl | rfl | rfl <;> decide

theorem InPlace.edgeOffsetHz_eq {operatingChan primaryChan : S1gChannel} {k : Nat}
    (hwidth : IsWidth operatingChan.bwMhz) (h : InPlace operatingChan primaryChan k) :
    edgeOffsetHz operatingChan primaryChan
      = ((k * primaryChan.bwMhz.toNat : Nat) : Int) * 1000000 := by
  obtain ⟨hedge, hinside⟩ := h
  have hle := hwidth.le
  rw [Nat.add_mul, Nat.one_mul] at hinside
  rw [← Int.mul_assoc, ← Nat.cast_mul] at hedge
  generalize k * primaryChan.bwMhz.toNat = p at hedge hinside ⊢
  unfold S1gChannel.lowerEdgeHz at hedge
  have hdelta : (primaryChan.centreFreqHz - operatingChan.centreFreqHz).toInt
      = p * 1000000 - ((operatingChan.bwMhz.toNat : Int) - primaryChan.bwMhz.toNat) * 500000 :=
    toInt_sub_of_near (by omega) (by omega) (by omega)
  unfold edgeOffsetHz
  rw [hdelta]
  omega

/-! ## There and back -/

section Exact

variable {channelList : List S1gChannel} {s1gOperation : S1gOperation}
  {operatingChan primaryChan : S1gChannel}

theorem locOf_lt (hwidth : primaryChan.bwMhz = 1 ∨ primaryChan.bwMhz = 2) {loc : U8}
    (hloc : loc.toNat ≤ 1) : locOf primaryChan loc < primaryChan.bwMhz.toNat := by
  unfold locOf
  split_ifs with hwide
  · omega
  · rcases hwidth with heq | heq <;> rw [heq] <;> decide

theorem idx_of_aligned (hop : IsWidth operatingChan.bwMhz)
    (hwidth : primaryChan.bwMhz = 1 ∨ primaryChan.bwMhz = 2)
    (hloc : s1gOperation.primary1mhzChannelLoc.toNat ≤ 1)
    (hpri : umacRegdbGetChannel channelList s1gOperation.primaryChannelNumber
      = some primaryChan) {k : Nat} (hk : InPlace operatingChan primaryChan k) :
    umacInterfaceCalcPri1mhzIdx channelList s1gOperation operatingChan
      = some (k * primaryChan.bwMhz.toNat
        + locOf primaryChan s1gOperation.primary1mhzChannelLoc) := by
  have hinside := hk.2
  have hlocOf := locOf_lt hwidth hloc
  rw [Nat.add_mul, Nat.one_mul] at hinside
  rw [umacInterfaceCalcPri1mhzIdx_eq hpri, hk.edgeOffsetHz_eq hop,
    Int.mul_tdiv_cancel _ (by decide)]
  dsimp only
  rw [if_neg (by omega), ← Nat.cast_add, Int.toNat_natCast]

theorem filter_eq_singleton {α : Type*} {q : α → Bool} {l : List α} {a : α}
    (hone : l.Pairwise fun x y => ¬ (q x = true ∧ q y = true)) (ha : a ∈ l) (hq : q a = true) :
    l.filter q = [a] := by
  induction l with
  | nil => cases ha
  | cons x l ih =>
    rw [List.pairwise_cons] at hone
    obtain rfl | ha := List.mem_cons.mp ha
    · rw [List.filter_cons_of_pos hq, List.filter_eq_nil_iff.mpr]
      intro y hy hqy
      exact hone.1 y hy ⟨hq, hqy⟩
    · rw [List.filter_cons_of_neg fun hqx => hone.1 a ha ⟨hqx, hq⟩]
      exact ih hone.2 ha

theorem mask_and_width {bwMask bwMhz : U8} (hmask : bwMask = 1 ∨ bwMask = 2)
    (hwidth : IsWidth bwMhz) : bwMask &&& bwMhz ≠ 0 ↔ bwMhz = bwMask := by
  rcases hmask with rfl | rfl <;> rcases hwidth with rfl | rfl | rfl | rfl | rfl <;> decide

theorem getChannelFromFreqAndBw_of_mem (hone : OnePerFreqAndWidth channelList)
    (hwidth : primaryChan.bwMhz = 1 ∨ primaryChan.bwMhz = 2)
    (hmem : primaryChan ∈ channelList) :
    umacRegdbGetChannelFromFreqAndBw channelList primaryChan.centreFreqHz primaryChan.bwMhz
      = some primaryChan := by
  have hmatch : ∀ chan ∈ channelList,
      (decide (chan.centreFreqHz = primaryChan.centreFreqHz)
          && decide (primaryChan.bwMhz &&& chan.bwMhz ≠ 0)) = true
        ↔ chan.centreFreqHz = primaryChan.centreFreqHz ∧ chan.bwMhz = primaryChan.bwMhz := by
    intro chan hchan
    rw [Bool.and_eq_true, decide_eq_true_eq, decide_eq_true_eq,
      mask_and_width hwidth (hone.widths chan hchan)]
  unfold umacRegdbGetChannelFromFreqAndBw
  rw [filter_eq_singleton ?_ hmem ((hmatch _ hmem).mpr ⟨rfl, rfl⟩)]
  refine hone.one.imp_of_mem fun ha hb hne hboth => hne ?_
  obtain ⟨hafreq, habw⟩ := (hmatch _ ha).mp hboth.1
  obtain ⟨hbfreq, hbbw⟩ := (hmatch _ hb).mp hboth.2
  exact ⟨hafreq.trans hbfreq.symm, habw.trans hbbw.symm⟩

theorem calcPriChannel_of_aligned (hwidth : primaryChan.bwMhz = 1 ∨ primaryChan.bwMhz = 2)
    (hone : OnePerFreqAndWidth channelList) (hmem : primaryChan ∈ channelList) {loc k : Nat}
    (hloc : loc < primaryChan.bwMhz.toNat) (hk : InPlace operatingChan primaryChan k) :
    umacInterfaceCalcPriChannel channelList operatingChan (k * primaryChan.bwMhz.toNat + loc)
      primaryChan.bwMhz = some primaryChan := by
  have hedge := hk.1
  rw [← Int.mul_assoc, ← Nat.cast_mul] at hedge
  unfold S1gChannel.lowerEdgeHz at hedge
  -- the index less its remainder is the place, in megahertz
  have hplace : (((k * primaryChan.bwMhz.toNat + loc : Nat) : Int)
      - ((if primaryChan.bwMhz = 2 then (k * primaryChan.bwMhz.toNat + loc) % 2 else 0 : Nat)
        : Int)) = (k * primaryChan.bwMhz.toNat : Nat) := by
    rcases hwidth with heq | heq
    · rw [heq] at hloc ⊢
      rw [if_neg (by decide)]
      have : loc < 1 := hloc
      omega
    rw [heq] at hloc ⊢
    rw [if_pos rfl]
    have : loc < 2 := hloc
    show ((k * 2 + loc : Nat) : Int) - ((k * 2 + loc) % 2 : Nat) = (k * 2 : Nat)
    omega
  unfold umacInterfaceCalcPriChannel
  dsimp only
  rw [hplace, show mhzToHz / 2 = 500000 by decide, show mhzToHz = 1000000 from rfl]
  have hfreq : operatingChan.centreFreqHz
      + BitVec.ofInt 32 (((k * primaryChan.bwMhz.toNat : Nat) : Int) * 1000000
        - ((operatingChan.bwMhz.toNat : Int) - primaryChan.bwMhz.toNat) * 500000)
      = primaryChan.centreFreqHz := by
    apply BitVec.eq_of_toNat_eq
    have hop := operatingChan.centreFreqHz.isLt
    have hpri := primaryChan.centreFreqHz.isLt
    rw [BitVec.toNat_add, BitVec.toNat_ofInt]
    generalize k * primaryChan.bwMhz.toNat = p at hedge ⊢
    omega
  rw [hfreq]
  exact getChannelFromFreqAndBw_of_mem hone hwidth hmem

/-! ## Which primary channels are turned down -/

/-- The 1 MHz channel that the index is of lies outside the operating channel; or the operating
channel is the narrower one, and the location of 1 is tried above it. -/
def TurnedDown (operatingChan primaryChan : S1gChannel) (loc : Nat) : Prop :=
  edgeOffsetHz operatingChan primaryChan + loc * 1000000 ≤ -1000000
    ∨ (operatingChan.bwMhz.toNat : Int) * 1000000
        ≤ edgeOffsetHz operatingChan primaryChan + loc * 1000000
    ∨ (operatingChan.bwMhz.toNat = loc ∧ -1000000 < edgeOffsetHz operatingChan primaryChan)

instance (operatingChan primaryChan : S1gChannel) (loc : Nat) :
    Decidable (TurnedDown operatingChan primaryChan loc) := inferInstanceAs (Decidable (_ ∨ _))

theorem tdiv_megahertz (u : Int) :
    u.tdiv 1000000 = if 0 ≤ u then u / 1000000 else -(-u / 1000000) := by
  split_ifs with hu
  · exact Int.tdiv_eq_ediv_of_nonneg hu
  · rw [← Int.tdiv_eq_ediv_of_nonneg (by omega), Int.neg_tdiv, Int.neg_neg]

theorem idx_eq_none_iff (hop : IsWidth operatingChan.bwMhz)
    (hloc : s1gOperation.primary1mhzChannelLoc.toNat ≤ 1)
    (hpri : umacRegdbGetChannel channelList s1gOperation.primaryChannelNumber
      = some primaryChan) :
    umacInterfaceCalcPri1mhzIdx channelList s1gOperation operatingChan = none
      ↔ TurnedDown operatingChan primaryChan
        (locOf primaryChan s1gOperation.primary1mhzChannelLoc) := by
  have hle := hop.le
  have hlocOf : locOf primaryChan s1gOperation.primary1mhzChannelLoc ≤ 1 := by
    unfold locOf
    split_ifs <;> omega
  rw [umacInterfaceCalcPri1mhzIdx_eq hpri, TurnedDown]
  generalize edgeOffsetHz operatingChan primaryChan = u
  generalize locOf primaryChan s1gOperation.primary1mhzChannelLoc = loc at hlocOf
  dsimp only
  rw [tdiv_megahertz, ite_eq_left_iff]
  simp only [reduceCtorEq, imp_false, not_not]
  split_ifs <;> omega

/-- **Where index and channel are inverse.**  For an operating channel of a legal width, a primary
channel of 1 or 2 MHz, named by its number, and a location of a 1 MHz channel in it: the index is
given exactly to the primary channels aligned inside the operating channel and leads back to them
(in a list with one channel for a centre frequency and width), if and only if the primary channel
is aligned inside the operating channel or far enough outside to be turned down. -/
theorem primary_index_exact_iff (channelList : List S1gChannel) (s1gOperation : S1gOperation)
    (operatingChan primaryChan : S1gChannel) (hop : IsWidth operatingChan.bwMhz)
    (hwidth : primaryChan.bwMhz = 1 ∨ primaryChan.bwMhz = 2)
    (hloc : s1gOperation.primary1mhzChannelLoc.toNat ≤ 1)
    (hpri : umacRegdbGetChannel channelList s1gOperation.primaryChannelNumber
      = some primaryChan) :
    (((umacInterfaceCalcPri1mhzIdx channelList s1gOperation operatingChan).isSome = true
          ↔ AlignedInside operatingChan primaryChan)
        ∧ ∀ idx, umacInterfaceCalcPri1mhzIdx channelList s1gOperation operatingChan = some idx →
          OnePerFreqAndWidth channelList →
          umacInterfaceCalcPriChannel channelList operatingChan idx primaryChan.bwMhz
            = some primaryChan)
      ↔ AlignedInside operatingChan primaryChan
        ∨ TurnedDown operatingChan primaryChan
          (locOf primaryChan s1gOperation.primary1mhzChannelLoc) := by
  have hmem : primaryChan ∈ channelList := List.mem_of_find?_eq_some hpri
  rw [← idx_eq_none_iff hop hloc hpri]
  constructor
  · rintro ⟨haccepts, -⟩
    cases hidx : umacInterfaceCalcPri1mhzIdx channelList s1gOperation operatingChan with
    | none => exact .inr rfl
    | some idx =>
      rw [hidx] at haccepts
      exact .inl (haccepts.mp rfl)
  rintro (⟨k, hk⟩ | hnone)
  · have hidx := idx_of_aligned hop hwidth hloc hpri hk
    rw [hidx]
    refine ⟨iff_of_true rfl ⟨k, hk⟩, fun idx heq hone => ?_⟩
    cases heq
    refine calcPriChannel_of_aligned hwidth hone hmem ?_ hk
    exact locOf_lt hwidth hloc
  rw [hnone]
  refine ⟨iff_of_false Bool.false_ne_true ?_, fun idx heq => by cases heq⟩
  rintro ⟨k, hk⟩
  rw [idx_of_aligned hop hwidth hloc hpri hk] at hnone
  cases hnone

end Exact

/-! ## In the regulatory database -/

/-- The 1 MHz channel 13 of Japan in its 4 MHz channel 36. -/
theorem primary_index_exact_iff_japan :
    umacInterfaceCalcPriChannel Mmregdb.s1gChannelsJp ⟨924500000, 65, 11, 36, 4⟩ 0 1
      = some ⟨923000000, 73, 8, 13, 1⟩ :=
  ((primary_index_exact_iff Mmregdb.s1gChannelsJp ⟨1, 4, 0, 0, 65, 13, 36⟩
    ⟨924500000, 65, 11, 36, 4⟩ ⟨923000000, 73, 8, 13, 1⟩ (by decide) (by decide) (by decide)
    rfl).mpr (.inl ⟨0, by decide, by decide⟩)).2 0 (by decide) ⟨by decide, by decide⟩

/-- The 2 MHz channel 4 of Japan straddles the two halves of the 4 MHz channel 36.  It is accepted
as a primary channel there, with the index 1, from which channel 2 is found. -/
theorem misaligned_primary_accepted :
    let list := Mmregdb.s1gChannelsJp
    let operatingChan : S1gChannel := ⟨924500000, 65, 11, 36, 4⟩
    let primaryChan : S1gChannel := ⟨924500000, 64, 10, 4, 2⟩
    let s1gOperation : S1gOperation := ⟨2, 4, 0, 0, 65, 4, 36⟩
    umacRegdbGetChannel list 4 = some primaryChan
      ∧ OnePerFreqAndWidth list
      ∧ ¬ AlignedInside operatingChan primaryChan
      ∧ umacInterfaceCalcPri1mhzIdx list s1gOperation operatingChan = some 1
      ∧ umacInterfaceCalcPriChannel list operatingChan 1 2 = some ⟨923500000, 64, 9, 2, 2⟩ := by
  refine ⟨rfl, ⟨by decide, by decide⟩, ?_, by decide, by decide +kernel⟩
  rintro ⟨k, hedge, hinside⟩
  -- the lower edges are 1 MHz apart, and the places 2 MHz
  have hprimary : (⟨924500000, 64, 10, 4, 2⟩ : S1gChannel).lowerEdgeHz = 923500000 := by decide
  have hoperating : (⟨924500000, 65, 11, 36, 4⟩ : S1gChannel).lowerEdgeHz = 922500000 := by decide
  have hwidth : (2 : U8).toNat = 2 := by decide
  rw [hprimary, hoperating, hwidth] at hedge
  omega

end MmIotEsp32.Umac.Interface
