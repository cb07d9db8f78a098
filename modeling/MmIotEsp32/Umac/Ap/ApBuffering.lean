/-
  MmIotEsp32.Umac.Ap.ApBuffering

  What the access point buffers, and what it tells its STAs about it.
-/
import Mathlib.Algebra.BigOperators.Group.Finset.Basic
import Mathlib.Data.Nat.Cast.Basic
import MmIotEsp32.Umac.Ap.UmacAp

namespace MmIotEsp32.Umac.Ap

open Lib Dot11 Function

/-! ## The counter and the bits -/

/-- `umac_sta_data_get_queued_len`. -/
def queuedLen (sta : Option UmacApStad) : Nat :=
  match sta with
  | none => 0
  | some stad => stad.txq.length

/-- The packets on all transmit queues. -/
def totalQueued (data : UmacApData) : Nat :=
  ∑ i ∈ Finset.range data.maxStas, queuedLen (data.stas i)

/-- The counter is right. -/
def CountsQueued (data : UmacApData) : Prop :=
  data.numPktsQueued = BitVec.ofNat 32 (totalQueued data)

/-- A traffic bit that is set is that of a STA that is asleep, and for which `Traffic` holds. -/
def BitsMean (Traffic : UmacApStad → Prop) (data : UmacApData) : Prop :=
  ∀ aid, apTrafficBitmapGetAidBit data.bitmap aid = some true →
    ∃ stad, data.stas aid.toNat = some stad ∧ stad.asleep = true ∧ Traffic stad

/-- The STA was given a packet since it fell asleep. -/
def GivenTraffic (stad : UmacApStad) : Prop := stad.givenWhileAsleep = true

/-- It was, or it had one queued when it fell asleep. -/
def HasTraffic (stad : UmacApStad) : Prop :=
  stad.givenWhileAsleep = true ∨ stad.queuedWhenFellAsleep = true

/-- A record that is removed has nothing queued, and its bit is clear. -/
def RemovesDrained (data : UmacApData) : ApEvent → Prop
  | .removeSta macAddr _ => mmMacAddrIsMulticast macAddr = false →
      ∀ i stad, umacApFindSta data macAddr = some (i + 1, stad) →
        stad.txq = [] ∧ apTrafficBitmapGetAidBit data.bitmap stad.aid ≠ some true
  | _ => True

/-! ## One record changes -/

/-- The AID of a record is its index. -/
def AidsMatch (data : UmacApData) : Prop := Records (fun i stad => stad.aid.toNat = i) data

/-- The three facts together. -/
structure Consistent (data : UmacApData) : Prop where
  counts : CountsQueued data
  bits : BitsMean HasTraffic data
  aids : AidsMatch data

variable {data data' : UmacApData} {i : Nat}

theorem totalQueued_setSta (hi : i < data.maxStas) (sta : Option UmacApStad) :
    totalQueued (data.setSta i sta) + queuedLen (data.stas i)
      = totalQueued data + queuedLen sta := by
  have hmem : i ∈ Finset.range data.maxStas := Finset.mem_range.mpr hi
  have hrest : ∀ j ∈ (Finset.range data.maxStas).erase i,
      queuedLen ((data.setSta i sta).stas j) = queuedLen (data.stas j) := by
    intro j hj
    show queuedLen (update data.stas i sta j) = _
    rw [update_of_ne (Finset.ne_of_mem_erase hj)]
  have hnew : totalQueued (data.setSta i sta)
      = queuedLen ((data.setSta i sta).stas i) + ∑ j ∈ (Finset.range data.maxStas).erase i, queuedLen (data.stas j) := by
    rw [← Finset.sum_congr rfl hrest]
    exact (Finset.add_sum_erase _ (fun j => queuedLen ((data.setSta i sta).stas j)) hmem).symm
  have hold : totalQueued data = queuedLen (data.stas i)
      + ∑ j ∈ (Finset.range data.maxStas).erase i, queuedLen (data.stas j) :=
    (Finset.add_sum_erase _ (fun j => queuedLen (data.stas j)) hmem).symm
  rw [data.setSta_self] at hnew
  omega

variable {sta : Option UmacApStad}

theorem CountsQueued.setSta (h : CountsQueued data) (hi : i < data.maxStas)
    (hlen : queuedLen sta = queuedLen (data.stas i)) : CountsQueued (data.setSta i sta) := by
  have htotal := totalQueued_setSta hi sta
  unfold CountsQueued at h ⊢
  show data.numPktsQueued = _
  rw [h]
  congr 1
  omega

variable {Traffic : UmacApStad → Prop}

theorem BitsMean.setSta (h : BitsMean Traffic data) {stad' : UmacApStad}
    (hkeeps : ∀ stad, data.stas i = some stad → stad.asleep = true → Traffic stad →
      stad'.asleep = true ∧ Traffic stad') : BitsMean Traffic (data.setSta i (some stad')) := by
  intro aid hbit
  obtain ⟨stad, hstad, hasleep, htraffic⟩ := h aid hbit
  show ∃ other, update data.stas i (some stad') aid.toNat = some other ∧ _
  by_cases haid : aid.toNat = i
  · rw [haid, update_self]
    exact ⟨stad', rfl, hkeeps stad (haid ▸ hstad) hasleep htraffic⟩
  · rw [update_of_ne haid]
    exact ⟨stad, hstad, hasleep, htraffic⟩

theorem BitsMean.setVacant (h : BitsMean Traffic data)
    (hvacant : data.stas i = none) (stad' : UmacApStad) :
    BitsMean Traffic (data.setSta i (some stad')) :=
  h.setSta fun stad hstad => absurd (hvacant.symm.trans hstad) (by simp)

theorem BitsMean.free (h : BitsMean Traffic data) (stad : UmacApStad)
    (hclear : ∀ aid : U16, aid.toNat = i → apTrafficBitmapGetAidBit data.bitmap aid ≠ some true) :
    BitsMean Traffic (data.free i stad) := by
  intro aid hbit
  have hne : aid.toNat ≠ i := fun haid => hclear aid haid hbit
  show ∃ other, update data.stas i none aid.toNat = some other ∧ _
  rw [update_of_ne hne]
  exact h aid hbit

theorem aidIsValid_ne_zero {aid : U16} (h : aidIsValid aid = true) : aid.toNat ≠ 0 := by
  intro hzero
  have haid : aid = 0 := BitVec.eq_of_toNat_eq hzero
  rw [haid] at h
  cases h

theorem BitsMean.setCommon (h : BitsMean Traffic data)
    (stad' : UmacApStad) : BitsMean Traffic (data.setSta 0 (some stad')) := by
  intro aid hbit
  obtain ⟨hvalid, -⟩ := apTrafficBitmapGetAidBit_eq_true.mp hbit
  show ∃ other, update data.stas 0 (some stad') aid.toNat = some other ∧ _
  rw [update_of_ne (aidIsValid_ne_zero hvalid)]
  exact h aid hbit

/-! ## The operations -/

theorem Consistent.change (h : Consistent data) {stad stad' : UmacApStad}
    (hstad : data.stas i = some stad) (haid : stad'.aid = stad.aid) (hqueue : stad'.txq = stad.txq)
    (hkeeps : stad.asleep = true → HasTraffic stad → stad'.asleep = true ∧ HasTraffic stad') :
    Consistent (data.setSta i (some stad')) where
  counts := by
    refine h.counts.setSta (h.aids i stad hstad).1 ?_
    rw [hstad]
    exact congrArg List.length hqueue
  bits := by
    refine h.bits.setSta fun before hbefore => ?_
    obtain rfl := Option.some.inj (hstad.symm.trans hbefore)
    exact hkeeps
  aids := h.aids.setSta (h.aids i stad hstad).1 (haid ▸ (h.aids i stad hstad).2)

theorem Consistent.of_same (h : Consistent data) (hstas : data'.stas = data.stas)
    (hargs : data'.args = data.args) (hnum : data'.numPktsQueued = data.numPktsQueued)
    (hbitmap : data'.bitmap = data.bitmap) : Consistent data' where
  counts := by
    unfold CountsQueued totalQueued UmacApData.maxStas
    rw [hstas, hargs, hnum]
    exact h.counts
  bits := by
    unfold BitsMean
    rw [hstas, hbitmap]
    exact h.bits
  aids := h.aids.of_stas hstas hargs

theorem Consistent.report (h : Consistent data) (status : MmwlanApStaStatus) :
    Consistent (data.report status) := by
  unfold UmacApData.report
  split <;> exact h.of_same rfl rfl rfl rfl

theorem Consistent.updateSta (h : Consistent data) (staInfo : UmacApStaInfo) (driverOk : Bool) :
    Consistent (umacApUpdateSta data staInfo driverOk).1 := by
  unfold umacApUpdateSta
  cases hlookup : umacApLookupStaByAddr data staInfo.macAddr with
  | none => exact h
  | some found =>
    obtain ⟨i, stad⟩ := found
    have hchanged : Consistent
        (data.setSta i (some { stad with staState := staInfo.staState })) :=
      h.change (umacApLookupStaByAddr_spec hlookup) rfl rfl fun hasleep htraffic =>
        ⟨hasleep, htraffic⟩
    dsimp only
    split_ifs
    · exact hchanged
    · exact hchanged.report _
    · exact hchanged

theorem updateSta_buffers (data : UmacApData) (staInfo : UmacApStaInfo) (driverOk : Bool) :
    (umacApUpdateSta data staInfo driverOk).1.bitmap = data.bitmap
      ∧ ∀ j, queuedLen ((umacApUpdateSta data staInfo driverOk).1.stas j)
        = queuedLen (data.stas j) := by
  have hreport : ∀ (updated : UmacApData) status, (updated.report status).bitmap = updated.bitmap
      ∧ (updated.report status).stas = updated.stas := by
    intro updated status
    unfold UmacApData.report
    split <;> exact ⟨rfl, rfl⟩
  unfold umacApUpdateSta
  cases hlookup : umacApLookupStaByAddr data staInfo.macAddr with
  | none => exact ⟨rfl, fun _ => rfl⟩
  | some found =>
    obtain ⟨i, stad⟩ := found
    have hstad := umacApLookupStaByAddr_spec hlookup
    have hset : ∀ j, queuedLen ((data.setSta i (some { stad with
        staState := staInfo.staState })).stas j) = queuedLen (data.stas j) := by
      intro j
      show queuedLen (update data.stas i _ j) = _
      by_cases hj : j = i
      · rw [hj, update_self, hstad]
        rfl
      · rw [update_of_ne hj]
    dsimp only
    split_ifs
    · exact ⟨rfl, hset⟩
    · rw [(hreport _ _).1, (hreport _ _).2]
      exact ⟨rfl, hset⟩
    · exact ⟨rfl, hset⟩

theorem Consistent.free (h : Consistent data) (stad : UmacApStad)
    (hi : i < data.maxStas) (hqueue : queuedLen (data.stas i) = 0)
    (hclear : ∀ aid : U16, aid.toNat = i → apTrafficBitmapGetAidBit data.bitmap aid ≠ some true) :
    Consistent (data.free i stad) where
  counts := h.counts.setSta hi hqueue.symm
  bits := h.bits.free stad hclear
  aids := h.aids.free i stad

theorem Consistent.addSta (h : Consistent data) {aid : U16} {staInfo : UmacApStaInfo}
    {allocated driverOk : Bool} {status : MmwlanStatus}
    (heq : umacApAddSta data aid staInfo allocated driverOk = some (data', status)) :
    Consistent data' := by
  unfold umacApAddSta at heq
  split at heq
  · obtain ⟨rfl, -⟩ := Prod.mk.inj (Option.some.inj heq)
    exact h
  split at heq
  · obtain ⟨rfl, -⟩ := Prod.mk.inj (Option.some.inj heq)
    exact h
  split_ifs at heq with hmax hoccupied hallocated
  · obtain ⟨rfl, -⟩ := Prod.mk.inj (Option.some.inj heq)
    exact h
  · obtain ⟨rfl, -⟩ := Prod.mk.inj (Option.some.inj heq)
    exact h
  have hvacant : data.stas aid.toNat = none := by simpa using hoccupied
  have haid : aid.toNat < data.maxStas := Nat.lt_of_not_le hmax
  have hadded : Consistent
      (data.setSta aid.toNat (some (umacApStadInit aid staInfo.macAddr))) := by
    refine ⟨h.counts.setSta haid ?_, h.bits.setVacant hvacant _, h.aids.setSta haid rfl⟩
    rw [hvacant]
    rfl
  have hupdated := hadded.updateSta staInfo driverOk
  have hbuffers := updateSta_buffers
    (data.setSta aid.toNat (some (umacApStadInit aid staInfo.macAddr))) staInfo driverOk
  have hargs := (SameRecords.updateSta
    (data.setSta aid.toNat (some (umacApStadInit aid staInfo.macAddr))) staInfo driverOk).args
  dsimp only at heq
  generalize umacApUpdateSta _ staInfo driverOk = updated at heq hupdated hbuffers hargs
  obtain ⟨updated, answer⟩ := updated
  dsimp only at heq hupdated hbuffers hargs
  split at heq
  · obtain ⟨rfl, -⟩ := Prod.mk.inj (Option.some.inj heq)
    exact hupdated
  -- the driver refused the new record, which is given up again
  obtain ⟨dealloced, hdealloc, hpair⟩ := Option.map_eq_some_iff.mp heq
  obtain ⟨rfl, -⟩ := Prod.mk.inj hpair
  obtain ⟨stad, hstad, rfl⟩ := Option.map_eq_some_iff.mp hdealloc
  refine hupdated.free stad (hupdated.aids _ stad hstad).1 ?_ fun aid' haid' hbit => ?_
  · rw [hbuffers.2]
    show queuedLen (update data.stas aid.toNat _ aid.toNat) = 0
    rw [update_self]
    rfl
  rw [hbuffers.1] at hbit
  obtain ⟨stad', hstad', -⟩ := h.bits aid' hbit
  rw [haid', hvacant] at hstad'
  cases hstad'

theorem Consistent.removeSta (h : Consistent data) {macAddr : MacAddr} {driverOk : Bool}
    {status : MmwlanStatus} (hdrained : RemovesDrained data (.removeSta macAddr driverOk))
    (heq : umacApRemoveSta data macAddr driverOk = some (data', status)) : Consistent data' := by
  unfold umacApRemoveSta at heq
  split at heq
  · obtain ⟨rfl, -⟩ := Prod.mk.inj (Option.some.inj heq)
    exact h
  next hunicast =>
    split at heq
    · obtain ⟨rfl, -⟩ := Prod.mk.inj (Option.some.inj heq)
      exact h
    · cases heq
    next i stad hfind =>
      obtain ⟨rfl, -⟩ := Prod.mk.inj (Option.some.inj heq)
      obtain ⟨hi, hstad, -⟩ := umacApFindSta_spec hfind
      obtain ⟨hqueue, hclear⟩ := hdrained (by simpa using hunicast) i stad hfind
      have hfree : Consistent (data.free (i + 1) (umacDatapathStadFlushTxq stad)) := by
        refine h.free _ hi ?_ fun aid haid => ?_
        · rw [hstad]
          show stad.txq.length = 0
          rw [hqueue, List.length_nil]
        have hsame : aid = stad.aid :=
          BitVec.eq_of_toNat_eq (haid.trans (h.aids _ stad hstad).2.symm)
        rw [hsame]
        exact hclear
      split
      · exact hfree.report _
      · exact hfree

theorem CountsQueued.grow (h : CountsQueued data) (hi : i < data.maxStas)
    (hlen : queuedLen sta = queuedLen (data.stas i) + 1) :
    CountsQueued { data.setSta i sta with numPktsQueued := data.numPktsQueued + 1 } := by
  have htotal := totalQueued_setSta hi sta
  have hsum : totalQueued (data.setSta i sta) = totalQueued data + 1 := by omega
  unfold CountsQueued at h ⊢
  show data.numPktsQueued + 1 = BitVec.ofNat 32 (totalQueued (data.setSta i sta))
  rw [h, hsum, BitVec.ofNat_add]
  rfl

theorem CountsQueued.shrink (h : CountsQueued data) (hi : i < data.maxStas)
    (hlen : queuedLen sta + 1 = queuedLen (data.stas i)) :
    CountsQueued { data.setSta i sta with numPktsQueued := data.numPktsQueued - 1 } := by
  have htotal := totalQueued_setSta hi sta
  have hsum : totalQueued data = totalQueued (data.setSta i sta) + 1 := by omega
  unfold CountsQueued at h ⊢
  show data.numPktsQueued - 1 = BitVec.ofNat 32 (totalQueued (data.setSta i sta))
  rw [h, hsum, BitVec.ofNat_add]
  exact BitVec.add_sub_cancel _ _

variable {stad : UmacApStad}

theorem BitsMean.set (h : BitsMean HasTraffic data)
    (hstad : data.stas i = some stad) (haid : stad.aid.toNat = i) (hasleep : stad.asleep = true)
    (htraffic : HasTraffic stad) {bitmap : TrafficBitmap}
    (hset : apTrafficBitmapSetAidBit data.bitmap stad.aid = some bitmap) :
    BitsMean HasTraffic { data with bitmap := bitmap } := by
  intro aid hbit
  rcases get_of_set hset hbit with rfl | hbefore
  · exact ⟨stad, haid ▸ hstad, hasleep, htraffic⟩
  · exact h aid hbefore

theorem Consistent.queuePkt (h : Consistent data) {mmpkt : Mmpkt}
    (hstad : data.stas i = some stad) (heq : umacApQueuePkt data i stad mmpkt = some data') :
    Consistent data' := by
  obtain ⟨hi, haid⟩ := h.aids i stad hstad
  unfold umacApQueuePkt at heq
  dsimp only at heq
  generalize hqueued : ({ stad with
    txq := stad.txq ++ [mmpkt]
    givenWhileAsleep := stad.givenWhileAsleep || stad.asleep } : UmacApStad) = stad' at heq
  have haid' : stad'.aid.toNat = i := by
    rw [← hqueued]
    exact haid
  have hgrown : Consistent
      { data.setSta i (some stad') with numPktsQueued := data.numPktsQueued + 1 } := by
    refine ⟨h.counts.grow hi ?_, ?_, (h.aids.setSta hi haid').of_stas rfl rfl⟩
    · rw [hstad, ← hqueued]
      exact List.length_append
    refine h.bits.setSta fun before hbefore hasleep htraffic => ?_
    obtain rfl := Option.some.inj (hstad.symm.trans hbefore)
    rw [← hqueued]
    refine ⟨hasleep, htraffic.imp_left fun hgiven => ?_⟩
    show (_ || _) = true
    rw [hgiven, Bool.true_or]
  split at heq
  · next hasleep =>
      obtain ⟨bitmap, hset, rfl⟩ := Option.map_eq_some_iff.mp heq
      rw [Bool.and_eq_true_iff] at hasleep
      have hset' : apTrafficBitmapSetAidBit data.bitmap stad'.aid = some bitmap := by
        rw [← hqueued]
        exact hset
      have hbits := hgrown.bits.set (i := i) (data.setSta_self i (some stad')) haid'
        (by rw [← hqueued]; exact hasleep.1) (Or.inl ?_) hset'
      · exact ⟨hgrown.counts, hbits, hgrown.aids⟩
      · rw [← hqueued]
        show (_ || _) = true
        rw [hasleep.1, Bool.or_true]
  · cases heq
    exact hgrown

theorem Consistent.setCommon (h : Consistent data) {common common' : UmacApStad}
    (hcommon : data.stas 0 = some common) (haid : common'.aid = common.aid)
    (hqueue : common'.txq = common.txq) : Consistent (data.setSta 0 (some common')) where
  counts := by
    refine h.counts.setSta (h.aids 0 common hcommon).1 ?_
    rw [hcommon]
    exact congrArg List.length hqueue
  bits := h.bits.setCommon common'
  aids := h.aids.setSta (h.aids 0 common hcommon).1 (haid ▸ (h.aids 0 common hcommon).2)

theorem getNextStaForTx_consistent (h : Consistent data) {next : Option Nat}
    (heq : umacApGetNextStaForTx data = some (data', next)) :
    Consistent data' ∧ ∀ i, next = some i → readyForTx (data'.stas i) = true := by
  unfold umacApGetNextStaForTx at heq
  split at heq
  · cases heq
  next common hcommon =>
    split at heq
    · next hready =>
        cases heq
        refine ⟨h, fun i hi => ?_⟩
        cases hi
        rw [hcommon]
        exact hready
    obtain ⟨rfl, hnext⟩ := Prod.mk.inj (Option.some.inj heq)
    refine ⟨?_, fun i hi => ?_⟩
    · split
      · exact h
      · exact h.setCommon hcommon rfl rfl
    · rw [← hnext] at hi
      have hready := List.find?_some hi
      exact hready

theorem Consistent.dequeueFrame (h : Consistent data) {answer : Bool × Option (Nat × Mmpkt)}
    (heq : umacApTxDequeueFrame data = some (data', answer)) : Consistent data' := by
  unfold umacApTxDequeueFrame at heq
  split at heq
  · cases heq
  · next hnext =>
      obtain ⟨rfl, -⟩ := Prod.mk.inj (Option.some.inj heq)
      exact (getNextStaForTx_consistent h hnext).1
  next found i hnext =>
    obtain ⟨hfound, hready⟩ := getNextStaForTx_consistent h hnext
    split at heq
    · cases heq
    next stad hstad =>
      obtain ⟨hi, haid⟩ := hfound.aids i stad hstad
      have hawake : stad.asleep = false := by
        have hready := hready i rfl
        rw [hstad] at hready
        simpa using (Bool.and_eq_true_iff.mp hready).1
      split at heq
      · obtain ⟨rfl, -⟩ := Prod.mk.inj (Option.some.inj heq)
        exact hfound
      next mmpkt rest hqueue =>
        obtain ⟨rfl, -⟩ := Prod.mk.inj (Option.some.inj heq)
        have haids : AidsMatch (found.setSta i (some { stad with txq := rest })) :=
          hfound.aids.setSta hi haid
        have hbits : BitsMean HasTraffic
            (found.setSta i (some { stad with txq := rest })) := by
          refine hfound.bits.setSta fun before hbefore => ?_
          obtain rfl := Option.some.inj (hstad.symm.trans hbefore)
          rw [hawake]
          exact fun hasleep => absurd hasleep (by simp)
        refine ⟨hfound.counts.shrink hi ?_, hbits, haids⟩
        rw [hstad]
        show rest.length + 1 = stad.txq.length
        rw [hqueue, List.length_cons]

theorem Consistent.setStadSleepState (h : Consistent data)
    {asleep : Bool} (hstad : data.stas i = some stad)
    (heq : umacApSetStadSleepState data i stad asleep = some data') : Consistent data' := by
  obtain ⟨hi, haid⟩ := h.aids i stad hstad
  have haids : AidsMatch (data.setSta i (some (umacApSetStadSleepState' stad asleep))) :=
    h.aids.setSta hi haid
  have hcounts : CountsQueued (data.setSta i (some (umacApSetStadSleepState' stad asleep))) :=
    h.counts.setSta hi (by rw [hstad]; rfl)
  unfold umacApSetStadSleepState at heq
  dsimp only at heq
  split_ifs at heq with hinvalid hsame hwakes hqueued
  · cases heq
    exact h
  · cases heq
    exact h
  · -- it wakes up, and its bit is cleared
    obtain ⟨bitmap, hclear, rfl⟩ := Option.map_eq_some_iff.mp heq
    refine ⟨hcounts, fun aid hbit => ?_, haids⟩
    obtain ⟨hne, hbefore⟩ := get_of_clear hclear hbit
    have hother : aid.toNat ≠ i := by
      intro heq
      exact hne (BitVec.eq_of_toNat_eq (haid.trans heq.symm))
    show ∃ other, update data.stas i _ aid.toNat = some other ∧ _
    rw [update_of_ne hother]
    exact h.bits aid hbefore
  · -- it falls asleep with packets queued
    have hasleep : asleep = true := by simpa using hwakes
    subst hasleep
    have hfalls : stad.asleep = false := by simpa using hsame
    obtain ⟨bitmap, hset, rfl⟩ := Option.map_eq_some_iff.mp heq
    have hbits : BitsMean HasTraffic
        (data.setSta i (some (umacApSetStadSleepState' stad true))) := by
      refine h.bits.setSta fun before hbefore => ?_
      obtain rfl := Option.some.inj (hstad.symm.trans hbefore)
      rw [hfalls]
      exact fun hbefore => absurd hbefore (by simp)
    have hself := data.setSta_self i (some (umacApSetStadSleepState' stad true))
    exact ⟨hcounts, hbits.set hself haid rfl (Or.inr hqueued) hset, haids⟩
  have hasleep : asleep = true := by simpa using hwakes
  subst hasleep
  have hfalls : stad.asleep = false := by simpa using hsame
  cases heq
  refine ⟨hcounts, h.bits.setSta fun before hbefore => ?_, haids⟩
  obtain rfl := Option.some.inj (hstad.symm.trans hbefore)
  rw [hfalls]
  exact fun hbefore => absurd hbefore (by simp)

theorem Consistent.getBeacon (h : Consistent data) (built : Bool) :
    Consistent (umacApGetBeacon data built) := by
  unfold umacApGetBeacon
  split
  · exact h
  next common hcommon =>
    dsimp only
    generalize (built && _) = released
    have haid : (commonAfterBeacon common released).aid = common.aid := by
      cases released <;> rfl
    have hqueue : (commonAfterBeacon common released).txq = common.txq := by
      cases released <;> rfl
    exact (h.setCommon hcommon haid hqueue).of_same rfl rfl rfl rfl

/-! ## Whole runs -/

theorem apStep_consistent {event : ApEvent} (h : Consistent data)
    (hdrained : RemovesDrained data event) (heq : apStep data event = some data') :
    Consistent data' := by
  cases event with
  | addSta aid staInfo allocated driverOk =>
    obtain ⟨⟨_, status⟩, hadd, rfl⟩ := Option.map_eq_some_iff.mp heq
    exact h.addSta hadd
  | updateSta staInfo driverOk =>
    cases heq
    exact h.updateSta staInfo driverOk
  | removeSta macAddr driverOk =>
    obtain ⟨⟨_, status⟩, hremove, rfl⟩ := Option.map_eq_some_iff.mp heq
    exact h.removeSta hdrained hremove
  | queuePkt i mmpkt =>
    rcases onRecord_cases heq with rfl | ⟨stad, hstad, hqueue⟩
    · exact h
    · exact h.queuePkt hstad hqueue
  | dequeueFrame =>
    obtain ⟨⟨_, answer⟩, hdequeue, rfl⟩ := Option.map_eq_some_iff.mp heq
    exact h.dequeueFrame hdequeue
  | setStadSleepState i asleep =>
    rcases onRecord_cases heq with rfl | ⟨stad, hstad, hsleep⟩
    · exact h
    · exact h.setStadSleepState hstad hsleep
  | getBeacon built =>
    cases heq
    exact h.getBeacon built
  | stad i env event =>
    rcases onRecord_cases heq with rfl | ⟨stad, hstad, hstep⟩
    · exact h
    · obtain ⟨umac, -, rfl⟩ := Option.map_eq_some_iff.mp hstep
      exact h.change hstad rfl rfl fun hasleep htraffic => ⟨hasleep, htraffic⟩

theorem consistent_start (args : MmwlanApArgs) : Consistent (umacApStart args) where
  counts := by
    have hnone : ∀ i, queuedLen ((umacApStart args).stas i) = 0 := by
      intro i
      show queuedLen (if i = 0 then _ else none) = 0
      split <;> rfl
    unfold CountsQueued totalQueued
    rw [Finset.sum_eq_zero fun i _ => hnone i]
    rfl
  bits := by
    intro aid hbit
    obtain ⟨hvalid, hbit⟩ := apTrafficBitmapGetAidBit_eq_true.mp hbit
    rw [trafficBit_eq] at hbit
    exact absurd hbit (by simp [umacApStart])
  aids := by
    intro i stad hstad
    change (if i = 0 then _ else none) = some stad at hstad
    split at hstad
    · next hi =>
        cases hstad
        refine ⟨?_, hi.symm⟩
        show i < 1 + _
        omega
    · cases hstad

/-- As long as the records that are removed have nothing queued and their bits are clear: the
counter is the number of packets queued, and a bit that is set is that of a STA that is asleep
and was given packets since it fell asleep, or had some queued when it did. -/
theorem ap_buffering_consistent (args : MmwlanApArgs) (events : List ApEvent)
    (hdrained : Along apStep RemovesDrained (umacApStart args) events) :
    Throughout apStep (fun data => CountsQueued data ∧ BitsMean HasTraffic data)
      (umacApStart args) events := by
  have hrun := throughout_of_step (I := Consistent)
    (fun data event data' h hevent heq => apStep_consistent h hevent heq)
    (consistent_start args) hdrained
  exact hrun.mono fun data h => ⟨h.counts, h.bits⟩

/-- A packet without data. -/
def emptyPkt : Mmpkt where
  startOffset := 0
  data := []
  behind := fun _ => 0
  tailroom := 0
  rx := ⟨false, 0⟩

/-- A STA that sleeps, is given a packet, gets it when it wakes up, and leaves. -/
theorem ap_buffering_consistent_drained :
    Throughout apStep (fun data => CountsQueued data ∧ BitsMean HasTraffic data)
      (umacApStart defaultApArgs)
      [.addSta 1 someSta true true, .setStadSleepState 1 true, .queuePkt 1 emptyPkt,
        .setStadSleepState 1 false, .dequeueFrame, .removeSta someSta.macAddr true] := by
  refine ap_buffering_consistent defaultApArgs _ ⟨trivial, fun data₁ h₁ => ⟨trivial, fun data₂ h₂ =>
    ⟨trivial, fun data₃ h₃ => ⟨trivial, fun data₄ h₄ => ⟨trivial, fun data₅ h₅ => ⟨?_, ?_⟩⟩⟩⟩⟩⟩
  · have hrun : ((runFrom apStep (umacApStart defaultApArgs)
        [.addSta 1 someSta true true, .setStadSleepState 1 true, .queuePkt 1 emptyPkt,
          .setStadSleepState 1 false, .dequeueFrame]).map fun data =>
            ((umacApFindSta data someSta.macAddr).map fun found =>
              (found.2.txq.length, found.2.aid), apTrafficBitmapGetAidBit data.bitmap 1))
          = some (some (0, 1), some false) := by decide +kernel
    rw [show runFrom apStep (umacApStart defaultApArgs) _ = some data₅ by
      simp only [runFrom, h₁, h₂, h₃, h₄, h₅, Option.bind_some]] at hrun
    obtain ⟨hfound, hbit⟩ := Prod.mk.inj (Option.some.inj hrun)
    intro _ i stad hfind
    rw [hfind] at hfound
    obtain ⟨hlen, haid⟩ := Prod.mk.inj (Option.some.inj hfound)
    refine ⟨List.eq_nil_of_length_eq_zero hlen, ?_⟩
    show apTrafficBitmapGetAidBit data₅.bitmap stad.aid ≠ some true
    rw [show stad.aid = 1 from haid, hbit]
    simp
  · exact fun _ _ => trivial

/-- A STA that falls asleep with a packet queued has its bit set without being given one since;
one that is removed then leaves the bit and the counter behind. -/
theorem ap_buffering_inconsistent :
    ¬ Throughout apStep (BitsMean GivenTraffic) (umacApStart defaultApArgs)
        [.addSta 1 someSta true true, .queuePkt 1 emptyPkt, .setStadSleepState 1 true]
      ∧ ¬ Throughout apStep CountsQueued (umacApStart defaultApArgs)
        [.addSta 1 someSta true true, .queuePkt 1 emptyPkt, .removeSta someSta.macAddr true] := by
  constructor
  · intro h
    have hrun : ((runFrom apStep (umacApStart defaultApArgs)
        [.addSta 1 someSta true true, .queuePkt 1 emptyPkt, .setStadSleepState 1 true]).map
          fun data => (apTrafficBitmapGetAidBit data.bitmap 1,
            (data.stas 1).map UmacApStad.givenWhileAsleep))
          = some (some true, some false) := by decide +kernel
    obtain ⟨data, hdata, hlast⟩ := Option.map_eq_some_iff.mp hrun
    obtain ⟨hbit, hgiven⟩ := Prod.mk.inj hlast
    obtain ⟨stad, hstad, -, htraffic⟩ := h.of_runFrom hdata 1 hbit
    rw [show data.stas 1 = some stad from hstad, Option.map_some, Option.some_inj] at hgiven
    exact absurd (htraffic.symm.trans hgiven) (by simp)
  intro h
  have hrun : ((runFrom apStep (umacApStart defaultApArgs)
      [.addSta 1 someSta true true, .queuePkt 1 emptyPkt, .removeSta someSta.macAddr true]).map
        fun data => (data.numPktsQueued, totalQueued data)) = some (1, 0) := by decide +kernel
  obtain ⟨data, hdata, hlast⟩ := Option.map_eq_some_iff.mp hrun
  obtain ⟨hnum, htotal⟩ := Prod.mk.inj hlast
  have hcounts := h.of_runFrom hdata
  unfold CountsQueued at hcounts
  rw [hnum, htotal] at hcounts
  exact absurd hcounts (by decide)

end MmIotEsp32.Umac.Ap
