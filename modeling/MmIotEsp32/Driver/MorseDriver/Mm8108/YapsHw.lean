/-
  MmIotEsp32.Driver.MorseDriver.Mm8108.YapsHw

  Transmission through the YAPS pools (`driver/morse_driver/mm8108/yaps-hw.c` and `yaps.c`).

  The chip reports the room of each pool; the driver counts off what it writes until it asks again.
-/
import MmIotEsp32.Common.Mmosal
import MmIotEsp32.Lib.Transition

namespace MmIotEsp32.Driver.MorseDriver.Mm8108

open Lib Function

/-! ## The code -/

/-- `enum morse_yaps_to_chip_q`. -/
inductive YapsToChipQ
  | tx | cmd | beacon | mgmt
  deriving DecidableEq

/-- The table of the chip: `tc_*_q_size` and `yaps_reserved_page_size`. -/
structure YapsHwTable where
  qSize : YapsToChipQ → U8
  reservedYapsPageSize : U16

/-- The status registers `tc_*_pool_num_pages` and `tc_*_num_pkts` of a queue. -/
structure TcStatus where
  poolNumPages : U32
  numPkts : U32

def yapsMaxPktSizeBytes : Nat := 16128
def enomem : Int := 12
def emsgsize : Int := 90

variable (t : YapsHwTable)

/-- Data and reserved bytes in pages of 256, a metadata page and a spare one. -/
def morseYapsPagesRequired (sizeBytes : Nat) : Nat :=
  (sizeBytes + t.reservedYapsPageSize.toNat + 256 - 1) / 256 + 1 + 1

/-- `morse_yaps_hw_get_tc_queue_space`. -/
def morseYapsHwGetTcQueueSpace (q : YapsToChipQ) (regs : TcStatus) : U32 :=
  (t.qSize q).setWidth 32 - regs.numPkts

/-- `morse_yaps_will_fit`, without the update. -/
def morseYapsWillFit (q : YapsToChipQ) (regs : TcStatus) (dataLen : Nat) : Bool :=
  !decide (regs.poolNumPages.toNat < morseYapsPagesRequired t dataLen)
    && morseYapsHwGetTcQueueSpace t q regs != 0

/-- The update of `morse_yaps_will_fit`. -/
def TcStatus.take (regs : TcStatus) (pagesRequired : Nat) : TcStatus :=
  ⟨regs.poolNumPages - BitVec.ofNat 32 pagesRequired, regs.numPkts + 1⟩

def morseYapsHwWritePktErrCheck (q : YapsToChipQ) (regs : TcStatus) (dataLen : Nat) :
    Int × TcStatus :=
  if dataLen + t.reservedYapsPageSize.toNat > yapsMaxPktSizeBytes then (-emsgsize, regs)
  else if !morseYapsWillFit t q regs dataLen then (-enomem, regs)
  else (0, regs.take (morseYapsPagesRequired t dataLen))

/-- `set_irq` of `morse_yaps_hw_write_pkt`. -/
def setIrq (q : YapsToChipQ) (regs : TcStatus) (nextPkt : Option Nat) : Bool :=
  match nextPkt with
  | none => true
  | some nextLen => !morseYapsWillFit t q regs nextLen

/-- The walk of `morse_yaps_tx` over the packets of `skbq_to_send`, when the lock is free: the
interrupt bits of the packets that are written. -/
def writtenIrqs (q : YapsToChipQ) (regs : TcStatus) : List Nat → List Bool
  | [] => []
  | dataLen :: rest =>
    let check := morseYapsHwWritePktErrCheck t q regs dataLen
    if check.1 ≠ 0 then writtenIrqs q check.2 rest
    else setIrq t q check.2 rest.head? :: writtenIrqs q check.2 rest

/-! ## The driver and the chip -/

/-- `pages` and `pkts` are what the chip has; `walk` are the packets `morse_yaps_tx` has still to
write, by their lengths. -/
structure YapsState where
  regs : YapsToChipQ → TcStatus
  queue : YapsToChipQ
  walk : List Nat
  pages : YapsToChipQ → Nat
  pkts : YapsToChipQ → Nat

/-- Before the first report: the driver's copy is cleared. -/
def yapsInit (pages : YapsToChipQ → Nat) : YapsState :=
  ⟨fun _ => ⟨0, 0⟩, .tx, [], pages, fun _ => 0⟩

inductive YapsEvent
  /-- `morse_yaps_tx` of a queue; `failed` is what a read that fails, or a report that is locked or
  has an error, leaves in the registers. -/
  | tx (q : YapsToChipQ) (queued : List Nat) (failed : Option (YapsToChipQ → TcStatus))
  /-- `morse_yaps_hw_write_pkt` for the next packet; the chip may get it also if the bus fails. -/
  | write (lockFree arrived : Bool)
  /-- The chip gives pages back and takes packets out of a queue. -/
  | chip (q : YapsToChipQ) (pages pkts : Nat)

def yapsStep (s : YapsState) : YapsEvent → Option YapsState
  | .tx q queued failed =>
    if s.walk ≠ [] then none
    else if queued = [] then some s
    else
      match failed with
      | some garbage => some { s with regs := garbage }
      | none =>
        let regs := fun q => ⟨BitVec.ofNat 32 (s.pages q), BitVec.ofNat 32 (s.pkts q)⟩
        some
          { s with
            regs := regs
            queue := q
            walk := queued.take (morseYapsHwGetTcQueueSpace t q (regs q)).toNat }
  | .write lockFree arrived =>
    match s.walk with
    | [] => none
    | dataLen :: rest =>
      if !lockFree then some { s with walk := rest }
      else
        let check := morseYapsHwWritePktErrCheck t s.queue (s.regs s.queue) dataLen
        let s := { s with regs := update s.regs s.queue check.2, walk := rest }
        if check.1 ≠ 0 || !arrived then some s
        else some
          { s with
            pages := update s.pages s.queue
              (s.pages s.queue - morseYapsPagesRequired t dataLen)
            pkts := update s.pkts s.queue (s.pkts s.queue + 1) }
  | .chip q pages pkts =>
    some
      { s with
        pages := update s.pages q (s.pages q + pages)
        pkts := update s.pkts q (s.pkts q - pkts) }

/-- A packet that is put on the bus finds its pages and a place in the queue. -/
def WriteHasRoom (s : YapsState) : YapsEvent → Prop
  | .write true _ => ∀ dataLen ∈ s.walk.head?,
    (morseYapsHwWritePktErrCheck t s.queue (s.regs s.queue) dataLen).1 = 0 →
      morseYapsPagesRequired t dataLen ≤ s.pages s.queue
      ∧ s.pkts s.queue < (t.qSize s.queue).toNat
  | _ => True

/-- The driver's copy promises no more than the chip has. -/
def Backed (s : YapsState) (q : YapsToChipQ) : Prop :=
  (s.regs q).poolNumPages.toNat ≤ s.pages q
  ∧ s.pkts q ≤ (s.regs q).numPkts.toNat ∧ (s.regs q).numPkts.toNat ≤ (t.qSize q).toNat

structure YapsInv (s : YapsState) : Prop where
  pkts : ∀ q, s.pkts q ≤ (t.qSize q).toNat
  room : s.walk ≠ [] → ∀ q, Backed t s q

/-! ## Every write finds room -/

variable {t} {q : YapsToChipQ} {regs : TcStatus} {dataLen : Nat} {s : YapsState}

theorem morseYapsWillFit_iff (hpkts : regs.numPkts.toNat ≤ (t.qSize q).toNat) :
    morseYapsWillFit t q regs dataLen = true ↔
      morseYapsPagesRequired t dataLen ≤ regs.poolNumPages.toNat
      ∧ regs.numPkts.toNat < (t.qSize q).toNat := by
  have hsize := (t.qSize q).isLt
  have hspace : ¬ morseYapsHwGetTcQueueSpace t q regs = 0
      ↔ regs.numPkts.toNat < (t.qSize q).toNat := by
    unfold morseYapsHwGetTcQueueSpace
    rw [← BitVec.toNat_inj, BitVec.toNat_sub, BitVec.toNat_setWidth]
    show ¬ _ = 0 ↔ _
    omega
  unfold morseYapsWillFit
  rw [Bool.and_eq_true, bne_iff_ne, ne_eq, hspace, Bool.not_eq_true', decide_eq_false_iff_not,
    Nat.not_lt]

theorem errCheck_zero_iff : (morseYapsHwWritePktErrCheck t q regs dataLen).1 = 0 ↔
    dataLen + t.reservedYapsPageSize.toNat ≤ yapsMaxPktSizeBytes
    ∧ morseYapsWillFit t q regs dataLen = true := by
  unfold morseYapsHwWritePktErrCheck
  split
  · simp [emsgsize]; omega
  · split <;> simp_all [enomem]

theorem errCheck_regs : (morseYapsHwWritePktErrCheck t q regs dataLen).2
    = if (morseYapsHwWritePktErrCheck t q regs dataLen).1 = 0
      then regs.take (morseYapsPagesRequired t dataLen) else regs := by
  unfold morseYapsHwWritePktErrCheck
  split
  · rfl
  · split <;> rfl

theorem TcStatus.take_eq {n : Nat} (hfits : n ≤ regs.poolNumPages.toNat)
    (hlt : regs.numPkts.toNat < 2 ^ 8) :
    (regs.take n).poolNumPages.toNat = regs.poolNumPages.toNat - n
    ∧ (regs.take n).numPkts.toNat = regs.numPkts.toNat + 1 := by
  have hpool := regs.poolNumPages.isLt
  unfold TcStatus.take
  rw [BitVec.toNat_sub, BitVec.toNat_ofNat, BitVec.toNat_add]
  show _ ∧ (_ + 1) % _ = _
  omega

theorem YapsInv.writeHasRoom (h : YapsInv t s) (e : YapsEvent) : WriteHasRoom t s e := by
  cases e with
  | tx | chip => trivial
  | write lockFree arrived =>
    cases lockFree with
    | false => trivial
    | true =>
      intro dataLen hmem hzero
      obtain ⟨hpages, hpkts, hsize⟩ :=
        h.room (fun hnil => by rw [hnil] at hmem; cases hmem) s.queue
      obtain ⟨hfits, hlt⟩ := (morseYapsWillFit_iff hsize).mp (errCheck_zero_iff.mp hzero).2
      exact ⟨Nat.le_trans hfits hpages, Nat.lt_of_le_of_lt hpkts hlt⟩

theorem YapsInv.write (h : YapsInv t s) {lockFree arrived : Bool} {s' : YapsState}
    (hstep : yapsStep t s (.write lockFree arrived) = some s') : YapsInv t s' := by
  simp only [yapsStep] at hstep
  split at hstep
  · cases hstep
  rename_i dataLen rest hwalk
  have hbefore := h.room (by rw [hwalk]; exact List.cons_ne_nil _ _)
  split at hstep
  · cases hstep
    exact ⟨h.pkts, fun _ => hbefore⟩
  rename_i hlock
  rw [Bool.not_eq_true', Bool.not_eq_false] at hlock
  subst hlock
  rw [errCheck_regs] at hstep
  by_cases hzero : (morseYapsHwWritePktErrCheck t s.queue (s.regs s.queue) dataLen).1 = 0
  · -- the driver counts off what the chip takes, whether the packet arrives or not
    obtain ⟨hpages, hpkts, hsize⟩ := hbefore s.queue
    obtain ⟨hfits, hlt⟩ := (morseYapsWillFit_iff hsize).mp (errCheck_zero_iff.mp hzero).2
    obtain ⟨hpool, hnum⟩ := TcStatus.take_eq hfits (Nat.lt_trans hlt (t.qSize s.queue).isLt)
    rw [if_pos hzero] at hstep
    suffices hall : ∀ q, s'.pkts q ≤ (t.qSize q).toNat ∧ Backed t s' q from
      ⟨fun q => (hall q).1, fun _ q => (hall q).2⟩
    intro q
    rcases eq_or_ne q s.queue with rfl | hq <;> cases arrived <;> simp only [hzero] at hstep <;>
      cases hstep
    · simp only [Backed, update_self]
      omega
    · simp only [Backed, update_self]
      omega
    all_goals
      simp only [Backed, update_of_ne hq]
      exact ⟨h.pkts q, hbefore q⟩
  · -- the packet is refused
    rw [if_neg hzero, update_eq_self] at hstep
    cases (show some _ = some s' by simpa [hzero] using hstep)
    exact ⟨h.pkts, fun _ => hbefore⟩

theorem YapsInv.step {e : YapsEvent} {s' : YapsState} (h : YapsInv t s)
    (hstep : yapsStep t s e = some s') : YapsInv t s' := by
  cases e with
  | tx q queued failed =>
    simp only [yapsStep] at hstep
    split at hstep
    · cases hstep
    rename_i hidle
    split at hstep
    · cases hstep
      exact h
    split at hstep
    · cases hstep
      exact ⟨h.pkts, fun hwalk => absurd hwalk hidle⟩
    · cases hstep
      refine ⟨h.pkts, fun _ q' => ?_⟩
      have hpkts := h.pkts q'
      have hsize := (t.qSize q').isLt
      simp only [Backed, BitVec.toNat_ofNat]
      omega
  | chip q pages pkts =>
    cases hstep
    refine ⟨fun q' => ?_, fun hwalk q' => ?_⟩
    · have hpkts := h.pkts q'
      simp only [update_apply]
      split <;> rename_i hq <;> subst_vars <;> omega
    · obtain ⟨hpages, hpkts, hsize⟩ := h.room hwalk q'
      simp only [Backed, update_apply]
      refine ⟨?_, ?_, hsize⟩ <;> split <;> subst_vars <;> omega
  | write => exact h.write hstep

/-- Every packet that the driver writes has its pages and its place in the chip. -/
theorem yaps_writes_have_room (t : YapsHwTable) (pages : YapsToChipQ → Nat)
    (events : List YapsEvent) : Along (yapsStep t) (WriteHasRoom t) (yapsInit pages) events := by
  have hinit : YapsInv t (yapsInit pages) := ⟨fun _ => Nat.zero_le _, fun hwalk => absurd rfl hwalk⟩
  exact (throughout_of_invariant (fun _ _ _ h hstep => h.step hstep) hinit events).along_of
    fun _ e h => h.writeHasRoom e

/-! ## The interrupt -/

/-- The last packet of a walk that is written asks for an interrupt, when none is too long. -/
theorem yaps_last_write_raises_irq (t : YapsHwTable) (q : YapsToChipQ) (regs : TcStatus)
    (lens : List Nat)
    (hlens : ∀ len ∈ lens, len + t.reservedYapsPageSize.toNat ≤ yapsMaxPktSizeBytes) :
    (writtenIrqs t q regs lens).getLast? ≠ some false := by
  induction lens generalizing regs with
  | nil => exact fun heq => by cases heq
  | cons dataLen rest ih =>
    have hih := fun regs => ih regs fun len hlen => hlens len (List.mem_cons_of_mem _ hlen)
    unfold writtenIrqs
    dsimp only
    split
    · exact hih _
    generalize (morseYapsHwWritePktErrCheck t q regs dataLen).2 = after
    cases hwritten : writtenIrqs t q after rest with
    | cons irq irqs =>
      rw [List.getLast?_cons_cons, ← hwritten]
      exact hih after
    | nil =>
      -- nothing follows: the next packet, if there is one, does not fit
      cases rest with
      | nil => exact fun heq => by cases heq
      | cons nextLen rest =>
        have hlen := hlens nextLen (List.mem_cons_of_mem _ (List.mem_cons_self ..))
        unfold writtenIrqs at hwritten
        dsimp only at hwritten
        split at hwritten
        · rename_i hfull
          have hnot : morseYapsWillFit t q after nextLen = false :=
            Bool.eq_false_iff.mpr fun hfits => hfull (errCheck_zero_iff.mpr ⟨hlen, hfits⟩)
          show some (!morseYapsWillFit t q after nextLen) ≠ some false
          rw [hnot]
          decide
        · cases hwritten

theorem yaps_second_of_two_raises_irq :
    (writtenIrqs ⟨fun _ => 4, 0⟩ .tx ⟨8, 0⟩ [100, 200]).getLast? ≠ some false :=
  yaps_last_write_raises_irq ⟨fun _ => 4, 0⟩ .tx ⟨8, 0⟩ [100, 200] (by decide)

end MmIotEsp32.Driver.MorseDriver.Mm8108
