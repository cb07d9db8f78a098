/-
  MmIotEsp32.Umac.Ap.ApRemoval

  What is left of a STA record that the access point frees.
-/
import MmIotEsp32.Umac.Ap.UmacAp

namespace MmIotEsp32.Umac.Ap

open Lib Dot11 Datapath

/-! ## Freed records -/

/-- No timeout refers to the record, and no packet is left in it. -/
structure NothingLeft (u : UmacData) : Prop where
  timeouts : u.timeouts = []
  list : u.stad.datapath.rxReorderList = []
  chains : ∀ i, (u.stad.datapath.fragChains i).buf = none

/-- Nothing is left of the records that were freed. -/
def FreedHaveNothingLeft (data : UmacApData) : Prop := ∀ stad ∈ data.freed, NothingLeft stad.umac

/-- Nothing is buffered for the record, and neither its reorder timer nor one of its requests
for a block-ack session is running. -/
structure Quiet (u : UmacData) : Prop where
  list : u.stad.datapath.rxReorderList = []
  chains : ∀ i, (u.stad.datapath.fragChains i).buf = none
  reorderTimer : .umacDatapathRxReorderTimeoutHandler ∉ u.timeouts
  requestTimers : ∀ ptr, .umacBaAddbaReqTimeoutHandler ptr ∉ u.timeouts

/-- A record that is removed is quiet. -/
def RemovesQuiet (data : UmacApData) : ApEvent → Prop
  | .removeSta macAddr _ => mmMacAddrIsMulticast macAddr = false →
      ∀ i stad, umacApFindSta data macAddr = some (i + 1, stad) → Quiet stad.umac
  | _ => True

theorem nothingLeft_iff_quiet {u : UmacData} (h : ChainTimers u) : NothingLeft u ↔ Quiet u := by
  constructor
  · intro hnothing
    refine ⟨hnothing.list, hnothing.chains, ?_, fun ptr => ?_⟩
    · rw [hnothing.timeouts]
      exact List.not_mem_nil
    · rw [hnothing.timeouts]
      exact List.not_mem_nil
  intro hquiet
  refine ⟨List.eq_nil_iff_forall_not_mem.mpr fun timeout hmem => ?_, hquiet.list, hquiet.chains⟩
  cases timeout with
  | datapathDefragTimeout i =>
    have htimer := h i
    unfold ChainTimer at htimer
    rw [hquiet.chains i, if_neg (by simp)] at htimer
    exact absurd (List.count_pos_iff.mpr hmem) (Nat.not_lt.mpr htimer)
  | umacDatapathRxReorderTimeoutHandler => exact hquiet.reorderTimer hmem
  | umacBaAddbaReqTimeoutHandler ptr => exact hquiet.requestTimers ptr hmem

/-! ## The timers of the records -/

/-- The timers of the chains of every record are in order. -/
def RecordTimers (data : UmacApData) : Prop :=
  Records (fun _ stad => ChainTimers stad.umac) data

theorem recordInvariant_chainTimers : RecordInvariant fun _ stad => ChainTimers stad.umac where
  added := fun _ _ _ => Nat.zero_le _
  changed := by
    intro i stad stad' h _ humac
    rw [humac]
    exact h
  stepped := fun h hstep => (stadInvariant_chainTimers _).step h hstep

theorem recordTimers_start (args : MmwlanApArgs) : RecordTimers (umacApStart args) := by
  intro i stad hstad
  change (if i = 0 then _ else none) = some stad at hstad
  split at hstad
  · next hi =>
      cases hstad
      refine ⟨?_, fun _ => Nat.zero_le _⟩
      show i < 1 + _
      omega
  · cases hstad

theorem recordTimers_step {data data' : UmacApData} {event : ApEvent} (h : RecordTimers data)
    (heq : apStep data event = some data') : RecordTimers data' :=
  recordInvariant_chainTimers.step h heq

/-! ## One step -/

theorem nothingLeft_init (aid : U16) (peerAddr : MacAddr) :
    NothingLeft (umacApStadInit aid peerAddr).umac :=
  ⟨rfl, rfl, fun _ => rfl⟩

theorem apStep_nothingLeft_iff {data : UmacApData} (h : FreedHaveNothingLeft data)
    (htimers : RecordTimers data) (event : ApEvent) :
    (∀ data', apStep data event = some data' → FreedHaveNothingLeft data')
      ↔ RemovesQuiet data event := by
  constructor
  · intro hstep
    cases event with
    | removeSta macAddr driverOk =>
      intro hunicast i stad hfind
      have hremove : ∃ data', apStep data (.removeSta macAddr driverOk) = some data'
          ∧ data'.freed = umacDatapathStadFlushTxq stad :: data.freed := by
        show ∃ data', (umacApRemoveSta data macAddr driverOk).map Prod.fst = some data' ∧ _
        unfold umacApRemoveSta
        rw [hunicast, if_neg (by simp), hfind]
        refine ⟨_, rfl, ?_⟩
        split
        · exact (SameRecords.report _ _).freed
        · rfl
      obtain ⟨data', hdata', hfreed⟩ := hremove
      have hstad := umacApFindSta_spec hfind
      have hclean := hstep data' hdata' (umacDatapathStadFlushTxq stad)
        (hfreed ▸ List.mem_cons_self ..)
      exact (nothingLeft_iff_quiet (htimers _ stad hstad.2.1).2).mp hclean
    | _ => trivial
  intro hquiet data' heq
  cases apStep_recordStep heq with
  | same hsame | added hvacant haid hsame =>
    unfold FreedHaveNothingLeft
    rw [hsame.freed]
    exact h
  | givenUp hvacant haid hsame hstad =>
    intro other hother
    rcases List.mem_cons.mp hother with rfl | hother
    · rw [hstad]
      exact nothingLeft_init _ _
    · rw [hsame.freed] at hother
      exact h other hother
  | @removed macAddr driverOk i stad _ haddr hfind hsame =>
    intro other hother
    rw [hsame.freed] at hother
    rcases List.mem_cons.mp hother with rfl | hother
    · have hstad := umacApFindSta_spec hfind
      exact (nothingLeft_iff_quiet (htimers _ stad hstad.2.1).2).mpr
        (hquiet haddr i stad hfind)
    · exact h other hother
  | stepped hstad hstep => exact h

/-! ## Whole runs -/

/-- Nothing is ever left of a freed record if and only if every record that is removed is
quiet when it is. -/
theorem freed_have_nothing_left_iff (args : MmwlanApArgs) (events : List ApEvent) :
    Throughout apStep FreedHaveNothingLeft (umacApStart args) events
      ↔ Along apStep RemovesQuiet (umacApStart args) events := by
  have htimers : Throughout apStep RecordTimers (umacApStart args) events :=
    throughout_of_invariant (fun _ _ _ h heq => recordTimers_step h heq)
      (recordTimers_start args) events
  have hstep : ∀ data event, FreedHaveNothingLeft data ∧ RecordTimers data →
      ((∀ data', apStep data event = some data' → FreedHaveNothingLeft data' ∧ RecordTimers data')
        ↔ RemovesQuiet data event) := by
    intro data event h
    rw [← apStep_nothingLeft_iff h.1 h.2 event]
    exact ⟨fun hstep data' heq => (hstep data' heq).1,
      fun hstep data' heq => ⟨hstep data' heq, recordTimers_step h.2 heq⟩⟩
  have hstart : FreedHaveNothingLeft (umacApStart args) :=
    fun stad hstad => absurd hstad List.not_mem_nil
  rw [← throughout_iff_along_of_keeps hstep ⟨hstart, recordTimers_start args⟩ events]
  exact ⟨fun h => h.and htimers, fun h => h.mono fun _ hdata => hdata.1⟩

/-- The first fragment of a data frame that is not of a QoS TID. -/
def firstFragment : Mmpkt where
  startOffset := 0
  data := (bareHdr 0x0408 0).take 24 ++ List.replicate 8 0
  behind := fun _ => 0
  tailroom := 0
  rx := ⟨false, 0⟩

/-- A STA that is removed while a frame of it is being reassembled leaves a timer that refers
to the chain. -/
theorem freed_keeps_defrag_timer :
    ¬ Throughout apStep FreedHaveNothingLeft (umacApStart defaultApArgs)
      [.addSta 1 someSta true true, .stad 1 { openEnv with vif := .ap } (.rxDataFrame firstFragment),
        .removeSta someSta.macAddr true] := by
  intro h
  have hrun : ((runFrom apStep (umacApStart defaultApArgs)
      [.addSta 1 someSta true true, .stad 1 { openEnv with vif := .ap } (.rxDataFrame firstFragment),
        .removeSta someSta.macAddr true]).map fun data =>
          data.freed.map fun stad => stad.umac.timeouts)
        = some [[.datapathDefragTimeout ⟨8, by decide⟩]] := by decide +kernel
  obtain ⟨data, hdata, hfreed⟩ := Option.map_eq_some_iff.mp hrun
  have hnothing := h.of_runFrom hdata
  cases hlist : data.freed with
  | nil =>
    rw [hlist] at hfreed
    cases hfreed
  | cons stad rest =>
    have hclean := (hnothing stad (hlist ▸ List.mem_cons_self ..)).timeouts
    rw [hlist, List.map_cons, hclean] at hfreed
    cases hfreed

end MmIotEsp32.Umac.Ap
