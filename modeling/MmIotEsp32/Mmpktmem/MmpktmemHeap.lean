/-
  MmIotEsp32.Mmpktmem.MmpktmemHeap

  Transmit packets on the heap (`mmpktmem_heap.c`), and who ends a pause of the heap.
-/
import MmIotEsp32.Lib.TaskTotals
import MmIotEsp32.Lib.Transition
import MmIotEsp32.Mmpktmem.TxRequests

namespace MmIotEsp32.Mmpktmem

open Lib

/-! ## Tasks -/

/-- Where a task is: outside the calls, or before the named step of one. -/
inductive HeapCall where
  | idle
  /-- `mmhal_wlan_alloc_mmpkt_for_tx` for a command, before the command pool is asked. -/
  | commandDequeue (req : TxRequest)
  /-- It has a block of the command pool. -/
  | commandInitBuf (req : TxRequest)
  /-- The packet was too big, and the block is to be given back. -/
  | commandGiveBack (req : TxRequest)
  /-- Before `atomic_fetch_add`. -/
  | count (req : TxRequest)
  /-- Before `mmpkt_alloc_on_heap`. -/
  | allocOnHeap (req : TxRequest)
  /-- Before `atomic_fetch_sub`, to return NULL. -/
  | uncount
  /-- It has a packet, and the threshold is to be looked at. -/
  | testPause
  /-- Before `atomic_exchange`. -/
  | pause
  /-- Before the callback. -/
  | tellPaused
  /-- `tx_command_reserved_free`. -/
  | commandFree
  /-- `tx_data_pool_pkt_free`, before `atomic_fetch_sub`. -/
  | free
  /-- The packet is gone, and the threshold is to be looked at. -/
  | testUnpause
  /-- Before `atomic_exchange`. -/
  | unpause
  /-- Before the callback. -/
  | tellUnpaused
  deriving DecidableEq

/-- `pktmem`, as far as transmission goes, where each task is, and the packets that were returned
and not freed. -/
structure HeapMem (ι : Type*) where
  txDataPoolAllocated : Int
  flow : TxFlow
  txCommandPoolFree : Nat
  calls : ι → HeapCall
  dataPackets : Nat
  commandPackets : Nat

/-- `mmhal_wlan_pktmem_init`. -/
def heapInit (ι : Type*) : HeapMem ι :=
  ⟨0, .init, txCommandPoolNBlocks, fun _ => .idle, 0, 0⟩

section Steps

variable {ι : Type*} [DecidableEq ι]

def HeapMem.goTo (s : HeapMem ι) (k : ι) (c : HeapCall) : HeapMem ι :=
  { s with calls := Function.update s.calls k c }

/-- A call returns a data packet. -/
def HeapMem.giveOut (s : HeapMem ι) (k : ι) : HeapMem ι :=
  { s.goTo k .idle with dataPackets := s.dataPackets + 1 }

/-! ## Steps -/

/-- `mmpkt_alloc_on_heap` does not return NULL. -/
def mmpktAllocOnHeap (req : TxRequest) (heapOk : Bool) : Bool :=
  if req.spaceAtEnd = -1 then false else heapOk

/-- `TX_DATA_POOL_UNPAUSE_THRESHOLD`. -/
def heapUnpauseThreshold (nBlocks : Nat) : Int := (nBlocks : Int) - 2

/-- `TX_DATA_POOL_PAUSE_THRESHOLD`. -/
def heapPauseThreshold (nBlocks : Nat) : Int := (nBlocks : Int) - 1

/-- The next step of a call; without an assertion that holds, it does not come back. -/
def heapRun (nBlocks : Nat) (s : HeapMem ι) (k : ι) (heapOk : Bool) : Option (HeapMem ι) :=
  match s.calls k with
  | .idle => some s
  | .commandDequeue req =>
    if s.txCommandPoolFree = 0 then some (s.goTo k (.count req))
    else
      some ({ s with txCommandPoolFree := s.txCommandPoolFree - 1 }.goTo k (.commandInitBuf req))
  | .commandInitBuf req =>
    if req.fits txCommandPoolBlockSize then
      some { s.goTo k .idle with commandPackets := s.commandPackets + 1 }
    else some (s.goTo k (.commandGiveBack req))
  | .commandGiveBack req =>
    some ({ s with txCommandPoolFree := s.txCommandPoolFree + 1 }.goTo k (.count req))
  | .count req =>
    some ({ s with txDataPoolAllocated := s.txDataPoolAllocated + 1 }.goTo k
      -- `old_value >= MMPKTMEM_TX_POOL_N_BLOCKS`
      (if (nBlocks : Int) ≤ s.txDataPoolAllocated then .uncount else .allocOnHeap req))
  | .allocOnHeap req =>
    some (s.goTo k (if mmpktAllocOnHeap req heapOk then .testPause else .uncount))
  | .uncount =>
    some ({ s with txDataPoolAllocated := s.txDataPoolAllocated - 1 }.goTo k .idle)
  | .testPause =>
    if heapPauseThreshold nBlocks < s.txDataPoolAllocated then some (s.goTo k .pause)
    else some (s.giveOut k)
  | .pause =>
    let told := { s with flow := s.flow.set true }
    if s.flow.txPaused then some (told.giveOut k) else some (told.goTo k .tellPaused)
  | .tellPaused => some ({ s with flow := s.flow.callback }.giveOut k)
  | .commandFree =>
    some ({ s with txCommandPoolFree := s.txCommandPoolFree + 1 }.goTo k .idle)
  | .free =>
    -- `MMOSAL_ASSERT(old_value > 0)`
    if 0 < s.txDataPoolAllocated then
      some ({ s with txDataPoolAllocated := s.txDataPoolAllocated - 1 }.goTo k .testUnpause)
    else none
  | .testUnpause =>
    if s.txDataPoolAllocated < heapUnpauseThreshold nBlocks then some (s.goTo k .unpause)
    else some (s.goTo k .idle)
  | .unpause =>
    let told := { s with flow := s.flow.set false }
    if s.flow.txPaused then some (told.goTo k .tellUnpaused) else some (told.goTo k .idle)
  | .tellUnpaused => some ({ s with flow := s.flow.callback }.goTo k .idle)

/-- A task that is outside the calls may enter one; it frees a packet that was returned. -/
def heapStep (nBlocks : Nat) (s : HeapMem ι) : PktmemEvent ι → Option (HeapMem ι)
  | .alloc k req =>
    if s.calls k = .idle then
      some (s.goTo k (if req.pktClass = mmhalWlanPktCommand then .commandDequeue req
        else .count req))
    else some s
  | .free k =>
    if s.calls k = .idle ∧ 0 < s.dataPackets then
      some ({ s with dataPackets := s.dataPackets - 1 }.goTo k .free)
    else some s
  | .freeCommand k =>
    if s.calls k = .idle ∧ 0 < s.commandPackets then
      some ({ s with commandPackets := s.commandPackets - 1 }.goTo k .commandFree)
    else some s
  | .run k heapOk => heapRun nBlocks s k heapOk

end Steps

/-! ## Packets -/

section Packets

variable {ι : Type*} [Fintype ι]

/-- The data packet that a call has. -/
def HeapCall.packets : HeapCall → Nat
  | .testPause | .pause | .tellPaused | .free => 1
  | _ => 0

/-- The data packets that are outstanding: those that were returned and not freed, and those of the
calls that are about to return or to free one. -/
def HeapMem.outstanding (s : HeapMem ι) : Nat := s.dataPackets + total HeapCall.packets s.calls

/-- Nothing is in progress, and no data packet is outstanding. -/
def HeapMem.Quiet (s : HeapMem ι) : Prop := s.dataPackets = 0 ∧ ∀ k, s.calls k = .idle

instance : DecidablePred (@HeapMem.Quiet ι) :=
  fun _ => inferInstanceAs (Decidable (_ ∧ _))

/-- The heap serves transmission. -/
def HeapServes (nBlocks : Nat) (s : HeapMem ι) : Prop :=
  TxServes nBlocks s.outstanding s.Quiet s.flow

end Packets

/-! ## What a call holds -/

/-- Its part of the counter. -/
@[simp] def HeapCall.counted : HeapCall → Nat
  | .allocOnHeap _ | .uncount | .testPause | .pause | .tellPaused | .free => 1
  | _ => 0

/-- A data packet, or the right to one. -/
@[simp] def HeapCall.blocks : HeapCall → Nat
  | .allocOnHeap _ | .testPause | .pause | .tellPaused | .free => 1
  | _ => 0

/-- It may still resume. -/
@[simp] def HeapCall.resumes : HeapCall → Nat
  | .allocOnHeap _ | .testPause | .pause | .tellPaused | .free | .testUnpause | .unpause => 1
  | _ => 0

/-- An invocation of the callback. -/
@[simp] def HeapCall.tells : HeapCall → Nat
  | .tellPaused | .tellUnpaused => 1
  | _ => 0

section Heap

variable {ι : Type*} [Fintype ι] {nBlocks : Nat} {s s' : HeapMem ι}

/-- Those that may still resume: the data packets that were returned, and calls. -/
def HeapMem.resumers (s : HeapMem ι) : Nat := s.dataPackets + total HeapCall.resumes s.calls

/-- Only one is left to end the pause. -/
def HeapMem.LastResumer (s : HeapMem ι) : Prop := s.flow.txPaused = true ∧ s.resumers = 1

instance : DecidablePred (@HeapMem.LastResumer ι _) :=
  fun _ => inferInstanceAs (Decidable (_ ∧ _))

/-- The last one that may resume does not find the counter at the threshold, and is not refused by
the heap. -/
def HeapResumes (nBlocks : Nat) (s : HeapMem ι) : PktmemEvent ι → Prop
  | .run k heapOk =>
    match s.calls k with
    | .testUnpause =>
      heapUnpauseThreshold nBlocks ≤ s.txDataPoolAllocated → ¬ s.LastResumer
    | .allocOnHeap req => mmpktAllocOnHeap req heapOk = false → ¬ s.LastResumer
    | _ => True
  | _ => True

instance (s : HeapMem ι) (event : PktmemEvent ι) : Decidable (HeapResumes nBlocks s event) := by
  unfold HeapResumes
  split
  · split <;> infer_instance
  · infer_instance

/-! ## The invariant -/

structure HeapInv (nBlocks : Nat) (s : HeapMem ι) : Prop where
  counted : s.txDataPoolAllocated = (s.dataPackets + total HeapCall.counted s.calls : Nat)
  bounded : s.dataPackets + total HeapCall.blocks s.calls ≤ nBlocks
  resumed : s.flow.txPaused = true → 0 < s.resumers
  told : s.flow.changed = true → 0 < total HeapCall.tells s.calls

theorem heapInit_inv : HeapInv nBlocks (heapInit ι) where
  counted := by simp [heapInit, total]
  bounded := by simp [heapInit, total]
  resumed := nofun
  told := nofun

theorem HeapInv.serves (h : HeapInv nBlocks s) : HeapServes nBlocks s where
  bounded := by
    have hle := total_mono (v := HeapCall.packets) (w := HeapCall.blocks)
      (fun c => by cases c <;> simp [HeapCall.packets]) s.calls
    have hbound := h.bounded
    unfold HeapMem.outstanding
    omega
  ready := by
    rintro ⟨hpackets, hidle⟩
    have hnone : total HeapCall.resumes s.calls = 0 := total_eq_zero fun k => by simp [hidle k]
    have hresumed := h.resumed
    unfold HeapMem.resumers at hresumed
    rw [hpackets, hnone] at hresumed
    unfold mmhalWlanPktmemTxFlowControlState
    exact if_neg fun hpaused => absurd (hresumed hpaused) (by decide)
  told := by
    rintro ⟨-, hidle⟩
    have hnone : total HeapCall.tells s.calls = 0 := total_eq_zero fun k => by simp [hidle k]
    have htold := h.told
    rw [hnone] at htold
    exact Bool.eq_false_iff.mpr fun hchanged => absurd (htold hchanged) (by decide)

variable [DecidableEq ι] {k : ι} {b c : HeapCall}

/-- One call goes on from `b` to `c`. -/
theorem HeapInv.move (h : HeapInv nBlocks s) (hcall : s.calls k = b)
    (hcalls : s'.calls = Function.update s.calls k c)
    (hcounted : s'.txDataPoolAllocated - (s'.dataPackets + c.counted : Nat)
      = s.txDataPoolAllocated - (s.dataPackets + b.counted : Nat))
    (hbounded : s'.dataPackets + c.blocks ≤ s.dataPackets + b.blocks
      ∨ s.txDataPoolAllocated < nBlocks ∧ s'.dataPackets = s.dataPackets ∧ c.blocks ≤ 1)
    (hresumed : s'.flow.txPaused = true →
      s.dataPackets + b.resumes < s.resumers + s'.dataPackets + c.resumes)
    (htold : s'.flow.changed = true → b.tells < total HeapCall.tells s.calls + c.tells) :
    HeapInv nBlocks s' := by
  have hc := total_update HeapCall.counted s.calls k c
  have hb := total_update HeapCall.blocks s.calls k c
  have hr := total_update HeapCall.resumes s.calls k c
  have ht := total_update HeapCall.tells s.calls k c
  have hmono := total_mono (v := HeapCall.blocks) (w := HeapCall.counted)
    (fun c => by cases c <;> simp) s.calls
  have hcount := h.counted
  have hbound := h.bounded
  rw [hcall] at hc hb hr ht
  rw [← hcalls] at hc hb hr ht
  refine ⟨by omega, ?_, fun hpaused => ?_, fun hchanged => ?_⟩
  · rcases hbounded with hless | ⟨hroom, hsame, hone⟩ <;> omega
  · have hlt := hresumed hpaused
    unfold HeapMem.resumers at hlt ⊢
    omega
  · have hlt := htold hchanged
    omega

theorem HeapInv.keep (h : HeapInv nBlocks s) (hcall : s.calls k = b)
    (hcalls : s'.calls = Function.update s.calls k c) (hflow : s'.flow = s.flow)
    (hcounted : s'.txDataPoolAllocated - (s'.dataPackets + c.counted : Nat)
      = s.txDataPoolAllocated - (s.dataPackets + b.counted : Nat))
    (hblocks : s'.dataPackets + c.blocks ≤ s.dataPackets + b.blocks)
    (hresumes : s.dataPackets + b.resumes ≤ s'.dataPackets + c.resumes)
    (htells : b.tells ≤ c.tells) : HeapInv nBlocks s' := by
  refine h.move hcall hcalls hcounted (Or.inl hblocks) (fun hpaused => ?_) fun hchanged => ?_
  · have hpos := h.resumed (hflow ▸ hpaused)
    omega
  · have hpos := h.told (hflow ▸ hchanged)
    omega

/-! ## Steps -/

omit [DecidableEq ι] in
theorem HeapInv.allocated_pos (h : HeapInv nBlocks s) (hcall : s.calls k = .free) :
    0 < s.txDataPoolAllocated := by
  have hone := le_total HeapCall.counted s.calls k
  have hcount := h.counted
  rw [hcall] at hone
  simp only [HeapCall.counted] at hone
  omega

theorem heapRun_inv (h : HeapInv nBlocks s) (heapOk : Bool)
    (hkept : HeapResumes nBlocks s (.run k heapOk)) :
    ∃ s', heapRun nBlocks s k heapOk = some s' ∧ HeapInv nBlocks s' := by
  unfold heapRun
  simp only [HeapResumes] at hkept
  cases hcall : s.calls k with
  | idle => exact ⟨s, rfl, h⟩
  | commandDequeue req | commandInitBuf req | testPause =>
    simp only
    split <;> exact ⟨_, rfl, h.keep hcall rfl rfl rfl le_rfl le_rfl le_rfl⟩
  | commandGiveBack req =>
    exact ⟨_, rfl, h.keep hcall rfl rfl rfl le_rfl le_rfl le_rfl⟩
  | count req =>
    refine ⟨_, rfl, ?_⟩
    split
    · exact h.keep hcall rfl rfl (by simp [HeapMem.goTo]) le_rfl le_rfl le_rfl
    next hroom =>
      -- There is room for one more.
      refine h.move hcall rfl (by simp [HeapMem.goTo])
        (Or.inr ⟨by omega, rfl, le_rfl⟩) (fun hpaused => ?_) fun hchanged => ?_
      · have hpos := h.resumed hpaused
        show s.dataPackets + 0 < s.resumers + s.dataPackets + 1
        omega
      · have hpos := h.told hchanged
        simpa using hpos
  | allocOnHeap req =>
    refine ⟨_, rfl, ?_⟩
    split
    · exact h.keep hcall rfl rfl rfl le_rfl le_rfl le_rfl
    next hrefused =>
      rw [hcall] at hkept
      have hlast := hkept (by simpa using hrefused)
      refine h.move hcall rfl rfl (Or.inl (by simp [HeapMem.goTo])) (fun hpaused => ?_)
        fun hchanged => ?_
      · have hpos := h.resumed hpaused
        have hmore : s.resumers ≠ 1 := fun hlone => hlast ⟨hpaused, hlone⟩
        simp [HeapMem.goTo]
        omega
      · have hpos := h.told hchanged
        simpa using hpos
  | uncount =>
    exact ⟨_, rfl, h.keep hcall rfl rfl (by simp [HeapMem.goTo]; omega) le_rfl le_rfl le_rfl⟩
  | pause =>
    simp only
    split
    · next hpaused =>
        have hsame : s.flow.set true = s.flow := hpaused ▸ set_same s.flow
        exact ⟨_, rfl, h.keep hcall rfl hsame rfl le_rfl le_rfl le_rfl⟩
    refine ⟨_, rfl, h.move hcall rfl rfl (Or.inl le_rfl) (fun _ => ?_) fun _ => ?_⟩
    · have hpos := le_total HeapCall.resumes s.calls k
      rw [hcall] at hpos
      simp only [HeapCall.resumes, HeapMem.goTo, HeapMem.resumers] at hpos ⊢
      omega
    · simp
  | tellPaused =>
    refine ⟨_, rfl, h.move hcall rfl rfl (Or.inl le_rfl) (fun hpaused => ?_) nofun⟩
    have hpos := h.resumed hpaused
    simp [HeapMem.giveOut, HeapMem.goTo]
    omega
  | commandFree => exact ⟨_, rfl, h.keep hcall rfl rfl rfl le_rfl le_rfl le_rfl⟩
  | free =>
    simp only
    rw [if_pos (h.allocated_pos hcall)]
    exact ⟨_, rfl, h.keep hcall rfl rfl (by simp [HeapMem.goTo]; omega) (by simp [HeapMem.goTo])
      le_rfl le_rfl⟩
  | testUnpause =>
    simp only
    split
    · exact ⟨_, rfl, h.keep hcall rfl rfl rfl le_rfl le_rfl le_rfl⟩
    next hhigh =>
      rw [hcall] at hkept
      have hlast := hkept (not_lt.mp hhigh)
      refine ⟨_, rfl, h.move hcall rfl rfl (Or.inl le_rfl) (fun hpaused => ?_)
        fun hchanged => ?_⟩
      · have hpos := h.resumed hpaused
        have hmore : s.resumers ≠ 1 := fun hlone => hlast ⟨hpaused, hlone⟩
        simp [HeapMem.goTo]
        omega
      · have hpos := h.told hchanged
        simpa using hpos
  | unpause =>
    simp only
    split
    · refine ⟨_, rfl, h.move hcall rfl rfl (Or.inl le_rfl) nofun fun _ => ?_⟩
      simp
    next hready =>
      have hsame : s.flow.set false = s.flow := by
        rw [← Bool.eq_false_iff.mpr hready]
        exact set_same s.flow
      refine ⟨_, rfl, h.move hcall rfl rfl (Or.inl le_rfl) nofun fun hchanged => ?_⟩
      have hpos := h.told (hsame ▸ hchanged)
      simpa using hpos
  | tellUnpaused =>
    refine ⟨_, rfl, h.move hcall rfl rfl (Or.inl le_rfl) (fun hpaused => ?_) nofun⟩
    have hpos := h.resumed hpaused
    simpa [HeapMem.goTo] using hpos

theorem heapStep_inv (h : HeapInv nBlocks s) (event : PktmemEvent ι)
    (hkept : HeapResumes nBlocks s event) :
    ∃ s', heapStep nBlocks s event = some s' ∧ HeapInv nBlocks s' := by
  cases event with
  | alloc k req =>
    unfold heapStep
    simp only
    split
    · next hidle =>
        refine ⟨_, rfl, ?_⟩
        split <;> exact h.keep hidle rfl rfl rfl le_rfl le_rfl le_rfl
    · exact ⟨s, rfl, h⟩
  | free k =>
    unfold heapStep
    simp only
    split
    · next hidle =>
        refine ⟨_, rfl, h.keep hidle.1 rfl rfl ?_ ?_ ?_ le_rfl⟩ <;>
          simp [HeapMem.goTo] <;> omega
    · exact ⟨s, rfl, h⟩
  | freeCommand k =>
    unfold heapStep
    simp only
    split
    · next hidle => exact ⟨_, rfl, h.keep hidle.1 rfl rfl rfl le_rfl le_rfl le_rfl⟩
    · exact ⟨s, rfl, h⟩
  | run k heapOk => exact heapRun_inv h heapOk hkept

theorem heap_serves (ι : Type*) [Fintype ι] [DecidableEq ι] (nBlocks : Nat)
    (events : List (PktmemEvent ι))
    (hkept : Along (heapStep nBlocks) (HeapResumes nBlocks) (heapInit ι) events) :
    Throughout (heapStep nBlocks) (HeapServes nBlocks) (heapInit ι) events := by
  have hinv : Throughout (heapStep nBlocks) (HeapInv nBlocks) (heapInit ι) events := by
    refine throughout_of_step ?_ heapInit_inv hkept
    intro s event s' h hkept hstep
    obtain ⟨t, ht, hinv⟩ := heapStep_inv h event hkept
    obtain rfl := Option.some.inj (ht.symm.trans hstep)
    exact hinv
  exact hinv.mono fun s h => h.serves

end Heap

end MmIotEsp32.Mmpktmem
