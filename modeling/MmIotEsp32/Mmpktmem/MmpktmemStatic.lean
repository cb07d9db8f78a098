/-
  MmIotEsp32.Mmpktmem.MmpktmemStatic

  Transmit packets in static memory (`mmpktmem_static.c`), and who ends a pause of it.

  The blocks of the data pool wait on a list.  Each operation on a list and each critical section
  is one step, and any other task may run between two of them.
-/
import MmIotEsp32.Lib.TaskTotals
import MmIotEsp32.Lib.Transition
import MmIotEsp32.Mmpktmem.TxRequests

namespace MmIotEsp32.Mmpktmem

open Lib

/-! ## Tasks -/

/-- Where a task is: outside the calls, or before the named step of one. -/
inductive StaticCall where
  | idle
  /-- `mmhal_wlan_alloc_mmpkt_for_tx` for a command, before the command pool is asked. -/
  | commandDequeue (req : TxRequest)
  /-- It has a block of the command pool. -/
  | commandInitBuf (req : TxRequest)
  /-- The packet was too big, and the block is to be given back. -/
  | commandGiveBack (req : TxRequest)
  /-- Before the data pool is asked. -/
  | dequeue (req : TxRequest)
  /-- It has a block of the data pool. -/
  | initBuf (req : TxRequest)
  /-- The packet was too big, and the block is to be given back. -/
  | giveBack
  /-- Before `update_tx_flow_control_state`, with a packet or with NULL. -/
  | updateTxFlowControlState (pkt : Bool)
  /-- Before the callback. -/
  | tellPaused (pkt : Bool)
  /-- `tx_command_free`. -/
  | commandFree
  /-- `tx_data_free`, before the critical section. -/
  | free
  /-- Before the callback. -/
  | tellUnpaused
  deriving DecidableEq

/-- `pktmem`, as far as transmission goes, where each task is, and the packets that were returned
and not freed. -/
structure StaticMem (ι : Type*) where
  txDataPoolFree : Nat
  flow : TxFlow
  txCommandPoolFree : Nat
  calls : ι → StaticCall
  dataPackets : Nat
  commandPackets : Nat

/-- `mmhal_wlan_pktmem_init`. -/
def staticInit (ι : Type*) (nBlocks : Nat) : StaticMem ι :=
  ⟨nBlocks, .init, txCommandPoolNBlocks, fun _ => .idle, 0, 0⟩

/-! ## Steps -/

section Steps

variable {ι : Type*} [DecidableEq ι]

def StaticMem.goTo (s : StaticMem ι) (k : ι) (c : StaticCall) : StaticMem ι :=
  { s with calls := Function.update s.calls k c }

/-- A call returns a data packet, or NULL. -/
def StaticMem.giveOut (s : StaticMem ι) (k : ι) (pkt : Bool) : StaticMem ι :=
  { s.goTo k .idle with dataPackets := s.dataPackets + pkt.toNat }

/-- `MMPKTMEM_TX_POOL_BLOCK_SIZE`. -/
def txPoolBlockSize : U32 := 1668

/-- `MMPKTMEM_TX_DATA_POOL_UNPAUSE_THRESHOLD`. -/
def staticUnpauseThreshold : Nat := 2

/-- `MMPKTMEM_TX_DATA_POOL_PAUSE_THRESHOLD`. -/
def staticPauseThreshold : Nat := 1

/-- `_tx_data_free`, with whether the callback is to be invoked. -/
def txDataFree (s : StaticMem ι) : StaticMem ι × Bool :=
  let s := { s with txDataPoolFree := s.txDataPoolFree + 1 }
  if s.flow.txPaused ∧ staticUnpauseThreshold ≤ s.txDataPoolFree then
    ({ s with flow := s.flow.set false }, true)
  else (s, false)

/-- `update_tx_flow_control_state`, with whether the callback is to be invoked. -/
def updateTxFlowControlState (s : StaticMem ι) : StaticMem ι × Bool :=
  if s.flow.txPaused = false ∧ s.txDataPoolFree ≤ staticPauseThreshold then
    ({ s with flow := s.flow.set true }, true)
  else (s, false)

/-- The next step of a call. -/
def staticRun (s : StaticMem ι) (k : ι) : StaticMem ι :=
  match s.calls k with
  | .idle => s
  | .commandDequeue req =>
    if s.txCommandPoolFree = 0 then s.goTo k (.dequeue req)
    else { s with txCommandPoolFree := s.txCommandPoolFree - 1 }.goTo k (.commandInitBuf req)
  | .commandInitBuf req =>
    if req.fits txCommandPoolBlockSize then
      { s.goTo k .idle with commandPackets := s.commandPackets + 1 }
    else s.goTo k (.commandGiveBack req)
  | .commandGiveBack req =>
    { s with txCommandPoolFree := s.txCommandPoolFree + 1 }.goTo k (.dequeue req)
  | .dequeue req =>
    if s.txDataPoolFree = 0 then s.goTo k (.updateTxFlowControlState false)
    else { s with txDataPoolFree := s.txDataPoolFree - 1 }.goTo k (.initBuf req)
  | .initBuf req =>
    s.goTo k (if req.fits txPoolBlockSize then .updateTxFlowControlState true else .giveBack)
  | .giveBack =>
    { s with txDataPoolFree := s.txDataPoolFree + 1 }.goTo k (.updateTxFlowControlState false)
  | .updateTxFlowControlState pkt =>
    if (updateTxFlowControlState s).2 then
      (updateTxFlowControlState s).1.goTo k (.tellPaused pkt)
    else (updateTxFlowControlState s).1.giveOut k pkt
  | .tellPaused pkt => { s with flow := s.flow.callback }.giveOut k pkt
  | .commandFree => { s with txCommandPoolFree := s.txCommandPoolFree + 1 }.goTo k .idle
  | .free =>
    if (txDataFree s).2 then (txDataFree s).1.goTo k .tellUnpaused
    else (txDataFree s).1.goTo k .idle
  | .tellUnpaused => { s with flow := s.flow.callback }.goTo k .idle

/-- A task that is outside the calls may enter one; it frees a packet that was returned. -/
def staticStep (s : StaticMem ι) : PktmemEvent ι → StaticMem ι
  | .alloc k req =>
    if s.calls k = .idle then
      s.goTo k (if req.pktClass = mmhalWlanPktCommand then .commandDequeue req
        else .dequeue req)
    else s
  | .free k =>
    if s.calls k = .idle ∧ 0 < s.dataPackets then
      { s with dataPackets := s.dataPackets - 1 }.goTo k .free
    else s
  | .freeCommand k =>
    if s.calls k = .idle ∧ 0 < s.commandPackets then
      { s with commandPackets := s.commandPackets - 1 }.goTo k .commandFree
    else s
  | .run k _ => staticRun s k

end Steps

/-! ## Packets -/

section Packets

variable {ι : Type*} [Fintype ι]

/-- The data packet that a call has. -/
def StaticCall.packets : StaticCall → Nat
  | .updateTxFlowControlState true | .tellPaused true | .free => 1
  | _ => 0

/-- The data packets that are outstanding: those that were returned and not freed, and those of the
calls that are about to return or to free one. -/
def StaticMem.outstanding (s : StaticMem ι) : Nat :=
  s.dataPackets + total StaticCall.packets s.calls

/-- Nothing is in progress, and no data packet is outstanding. -/
def StaticMem.Quiet (s : StaticMem ι) : Prop := s.dataPackets = 0 ∧ ∀ k, s.calls k = .idle

instance : DecidablePred (@StaticMem.Quiet ι) :=
  fun _ => inferInstanceAs (Decidable (_ ∧ _))

/-- The static memory serves transmission. -/
def StaticServes (nBlocks : Nat) (s : StaticMem ι) : Prop :=
  TxServes nBlocks s.outstanding s.Quiet s.flow

end Packets

/-! ## What a call holds -/

/-- A block of the data pool. -/
@[simp] def StaticCall.blocks : StaticCall → Nat
  | .initBuf _ | .giveBack | .updateTxFlowControlState true | .tellPaused true | .free => 1
  | _ => 0

/-- It will free a packet. -/
@[simp] def StaticCall.resumes : StaticCall → Nat
  | .initBuf req => (req.fits txPoolBlockSize).toNat
  | .updateTxFlowControlState true | .tellPaused true | .free => 1
  | _ => 0

/-- An invocation of the callback. -/
@[simp] def StaticCall.tells : StaticCall → Nat
  | .tellPaused _ | .tellUnpaused => 1
  | _ => 0

section Static

variable {ι : Type*} [Fintype ι] {nBlocks : Nat} {s s' : StaticMem ι}

/-- The data packets that were returned, and the calls with one. -/
def StaticMem.resumers (s : StaticMem ι) : Nat :=
  s.dataPackets + total StaticCall.resumes s.calls

/-- The last packet, when there is a pause to end, does not find the list short; and an allocation
that has failed does not find it short when there is no packet at all. -/
def StaticResumes (s : StaticMem ι) : PktmemEvent ι → Prop
  | .run k _ =>
    match s.calls k with
    | .free =>
      s.txDataPoolFree + 1 < staticUnpauseThreshold →
        ¬ (s.flow.txPaused = true ∧ s.resumers = 1)
    | .updateTxFlowControlState false =>
      s.txDataPoolFree ≤ staticPauseThreshold →
        ¬ (s.flow.txPaused = false ∧ s.resumers = 0)
    | _ => True
  | _ => True

instance (s : StaticMem ι) : (event : PktmemEvent ι) → Decidable (StaticResumes s event)
  | .run .. => by
    dsimp only [StaticResumes]
    split <;> infer_instance
  | .alloc .. | .free _ | .freeCommand _ => instDecidableTrue

/-! ## The invariant -/

structure StaticInv (nBlocks : Nat) (s : StaticMem ι) : Prop where
  shared : s.txDataPoolFree + s.dataPackets + total StaticCall.blocks s.calls = nBlocks
  resumed : s.flow.txPaused = true → 0 < s.resumers
  told : s.flow.changed = true → 0 < total StaticCall.tells s.calls

theorem staticInit_inv : StaticInv nBlocks (staticInit ι nBlocks) where
  shared := by simp [staticInit, total]
  resumed := nofun
  told := nofun

theorem StaticInv.serves (h : StaticInv nBlocks s) : StaticServes nBlocks s where
  bounded := by
    have hle := total_mono (v := StaticCall.packets) (w := StaticCall.blocks)
      (fun c => by unfold StaticCall.packets StaticCall.blocks; split <;> simp) s.calls
    have hshared := h.shared
    unfold StaticMem.outstanding
    omega
  ready := by
    rintro ⟨hpackets, hidle⟩
    have hnone : total StaticCall.resumes s.calls = 0 := total_eq_zero fun k => by simp [hidle k]
    have hresumed := h.resumed
    unfold StaticMem.resumers at hresumed
    rw [hpackets, hnone] at hresumed
    unfold mmhalWlanPktmemTxFlowControlState
    exact if_neg fun hpaused => absurd (hresumed hpaused) (by decide)
  told := by
    rintro ⟨-, hidle⟩
    have hnone : total StaticCall.tells s.calls = 0 := total_eq_zero fun k => by simp [hidle k]
    have htold := h.told
    rw [hnone] at htold
    exact Bool.eq_false_iff.mpr fun hchanged => absurd (htold hchanged) (by decide)

variable [DecidableEq ι] {k : ι} {b c : StaticCall}

theorem StaticInv.move (h : StaticInv nBlocks s) (hcall : s.calls k = b)
    (hcalls : s'.calls = Function.update s.calls k c)
    (hshared : s'.txDataPoolFree + s'.dataPackets + c.blocks
      = s.txDataPoolFree + s.dataPackets + b.blocks)
    (hresumed : s'.flow.txPaused = true →
      s.dataPackets + b.resumes < s.resumers + s'.dataPackets + c.resumes)
    (htold : s'.flow.changed = true → b.tells < total StaticCall.tells s.calls + c.tells) :
    StaticInv nBlocks s' := by
  have hb := total_update StaticCall.blocks s.calls k c
  have hr := total_update StaticCall.resumes s.calls k c
  have ht := total_update StaticCall.tells s.calls k c
  have hblocks := h.shared
  rw [hcall] at hb hr ht
  rw [← hcalls] at hb hr ht
  refine ⟨by omega, fun hpaused => ?_, fun hchanged => ?_⟩
  · have hlt := hresumed hpaused
    unfold StaticMem.resumers at hlt ⊢
    omega
  · have hlt := htold hchanged
    omega

theorem StaticInv.keep (h : StaticInv nBlocks s) (hcall : s.calls k = b)
    (hcalls : s'.calls = Function.update s.calls k c) (hflow : s'.flow = s.flow)
    (hshared : s'.txDataPoolFree + s'.dataPackets + c.blocks
      = s.txDataPoolFree + s.dataPackets + b.blocks)
    (hresumes : s.dataPackets + b.resumes ≤ s'.dataPackets + c.resumes)
    (htells : b.tells ≤ c.tells) : StaticInv nBlocks s' := by
  refine h.move hcall hcalls hshared (fun hpaused => ?_) fun hchanged => ?_
  · have hpos := h.resumed (hflow ▸ hpaused)
    omega
  · have hpos := h.told (hflow ▸ hchanged)
    omega

/-! ## Steps -/

theorem free_inv (h : StaticInv nBlocks s) (hcall : s.calls k = .free)
    (hkept : s.txDataPoolFree + 1 < staticUnpauseThreshold →
      ¬ (s.flow.txPaused = true ∧ s.resumers = 1)) :
    StaticInv nBlocks (staticRun s k) := by
  unfold staticRun
  rw [hcall]
  simp only [txDataFree]
  by_cases hends : s.flow.txPaused = true ∧ staticUnpauseThreshold ≤ s.txDataPoolFree + 1
  · rw [if_pos hends]
    refine h.move hcall rfl (by simp [StaticMem.goTo]; omega) nofun fun _ => ?_
    simp
  rw [if_neg hends]
  refine h.move hcall rfl (by simp [StaticMem.goTo]; omega) (fun hpaused => ?_) fun hchanged => ?_
  · -- The list is short, so this was not the last packet.
    have hshort : s.txDataPoolFree + 1 < staticUnpauseThreshold :=
      not_le.mp fun hlong => hends ⟨hpaused, hlong⟩
    have hpos := h.resumed hpaused
    have hmore : s.resumers ≠ 1 := fun hlone => hkept hshort ⟨hpaused, hlone⟩
    simp [StaticMem.goTo]
    omega
  · have hpos := h.told hchanged
    simpa using hpos

theorem updateTxFlowControlState_inv (h : StaticInv nBlocks s) {pkt : Bool}
    (hcall : s.calls k = .updateTxFlowControlState pkt)
    (hkept : pkt = false → s.txDataPoolFree ≤ staticPauseThreshold →
      ¬ (s.flow.txPaused = false ∧ s.resumers = 0)) :
    StaticInv nBlocks (staticRun s k) := by
  unfold staticRun
  rw [hcall]
  by_cases hpauses : s.flow.txPaused = false ∧ s.txDataPoolFree ≤ staticPauseThreshold
  · have hval : updateTxFlowControlState s = ({ s with flow := s.flow.set true }, true) :=
      if_pos hpauses
    simp only [hval, if_true]
    refine h.move hcall rfl (by cases pkt <;> rfl) (fun _ => ?_) fun _ => ?_
    · have hself := le_total StaticCall.resumes s.calls k
      rw [hcall] at hself
      cases pkt with
      | true =>
        simp only [StaticCall.resumes, StaticMem.goTo, StaticMem.resumers] at hself ⊢
        omega
      | false =>
        have hsome : s.resumers ≠ 0 := fun hnone => hkept rfl hpauses.2 ⟨hpauses.1, hnone⟩
        simp [StaticMem.goTo]
        omega
    · simp
  have hval : updateTxFlowControlState s = (s, false) := if_neg hpauses
  simp only [hval, Bool.false_eq_true, if_false]
  cases pkt with
  | true | false => exact h.keep hcall rfl rfl rfl le_rfl le_rfl

theorem staticRun_inv (h : StaticInv nBlocks s) (heapOk : Bool)
    (hkept : StaticResumes s (.run k heapOk)) : StaticInv nBlocks (staticRun s k) := by
  simp only [StaticResumes] at hkept
  cases hcall : s.calls k with
  | free => exact free_inv h hcall (by simpa only [hcall] using hkept)
  | updateTxFlowControlState pkt =>
    refine updateTxFlowControlState_inv h hcall fun hnull => ?_
    subst hnull
    simpa only [hcall] using hkept
  | idle =>
    unfold staticRun
    rw [hcall]
    exact h
  | commandDequeue req | commandInitBuf req =>
    unfold staticRun
    rw [hcall]
    simp only
    split <;> exact h.keep hcall rfl rfl rfl le_rfl le_rfl
  | commandGiveBack req | commandFree =>
    unfold staticRun
    rw [hcall]
    exact h.keep hcall rfl rfl rfl le_rfl le_rfl
  | dequeue req =>
    unfold staticRun
    rw [hcall]
    simp only
    split
    · exact h.keep hcall rfl rfl rfl le_rfl le_rfl
    · exact h.keep hcall rfl rfl (by simp [StaticMem.goTo]; omega) (by simp [StaticMem.goTo])
        le_rfl
  | initBuf req =>
    unfold staticRun
    rw [hcall]
    simp only
    split
    · next hfits => exact h.keep hcall rfl rfl rfl (by simp [StaticMem.goTo, hfits]) le_rfl
    · next hbig => exact h.keep hcall rfl rfl rfl (by simp [StaticMem.goTo, hbig]) le_rfl
  | giveBack =>
    unfold staticRun
    rw [hcall]
    exact h.keep hcall rfl rfl (by simp [StaticMem.goTo]; omega) le_rfl le_rfl
  | tellPaused pkt =>
    unfold staticRun
    rw [hcall]
    refine h.move hcall rfl (by cases pkt <;> simp [StaticMem.giveOut, StaticMem.goTo]; omega)
      (fun hpaused => ?_) (absurd · Bool.false_ne_true)
    have hpos := h.resumed hpaused
    cases pkt <;> simp [StaticMem.giveOut, StaticMem.goTo] <;> omega
  | tellUnpaused =>
    unfold staticRun
    rw [hcall]
    refine h.move hcall rfl rfl (fun hpaused => ?_) (absurd · Bool.false_ne_true)
    have hpos := h.resumed hpaused
    simpa [StaticMem.goTo] using hpos

theorem staticStep_inv (h : StaticInv nBlocks s) (event : PktmemEvent ι)
    (hkept : StaticResumes s event) : StaticInv nBlocks (staticStep s event) := by
  cases event with
  | alloc k req =>
    unfold staticStep
    simp only
    split
    · next hidle => split <;> exact h.keep hidle rfl rfl rfl le_rfl le_rfl
    · exact h
  | free k =>
    unfold staticStep
    simp only
    split
    · next hidle =>
        refine h.keep hidle.1 rfl rfl ?_ ?_ le_rfl <;> simp [StaticMem.goTo] <;> omega
    · exact h
  | freeCommand k =>
    unfold staticStep
    simp only
    split
    · next hidle => exact h.keep hidle.1 rfl rfl rfl le_rfl le_rfl
    · exact h
  | run k heapOk => exact staticRun_inv h heapOk hkept

theorem static_serves (ι : Type*) [Fintype ι] [DecidableEq ι] (nBlocks : Nat)
    (events : List (PktmemEvent ι))
    (hkept : Along (fun s e => some (staticStep s e)) StaticResumes (staticInit ι nBlocks) events) :
    Throughout (fun s e => some (staticStep s e)) (StaticServes nBlocks) (staticInit ι nBlocks)
      events := by
  have hinv : Throughout (fun s e => some (staticStep s e)) (StaticInv nBlocks)
      (staticInit ι nBlocks) events := by
    refine throughout_of_step ?_ staticInit_inv hkept
    intro s event s' h hkept hstep
    cases hstep
    exact staticStep_inv h event hkept
  exact hinv.mono fun s h => h.serves

end Static

end MmIotEsp32.Mmpktmem
