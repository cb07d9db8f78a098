/-
  MmIotEsp32.Umac.Ap.UmacAp

  The STA records of an access point (`umac/ap/umac_ap.c`).
-/
import MmIotEsp32.Umac.Ap.TrafficBitmap
import MmIotEsp32.Umac.StadRuns

namespace MmIotEsp32.Umac.Ap

open Dot11 Function

/-! ## Records -/

def mmwlanDefaultApMaxStas : Nat := 4

def mmwlanApMaxStasLimit : Nat := 20

inductive MorseStaState where
  | notexist
  | none
  | authenticated
  | associated
  | authorized
  | max
  deriving Repr, DecidableEq

inductive MmwlanApStaState where
  | unknown
  | associated
  | authorized
  deriving Repr, DecidableEq

def umacApMorseStaStateToMmwlanStaState : MorseStaState → MmwlanApStaState
  | .associated => .associated
  | .authorized => .authorized
  | _ => .unknown

structure UmacApStaInfo where
  macAddr : MacAddr
  staState : MorseStaState

/-- `struct mmwlan_ap_sta_status`, as the status callback gets it. -/
structure MmwlanApStaStatus where
  state : MmwlanApStaState
  aid : U16
  macAddr : MacAddr
  deriving DecidableEq

/-- A `struct umac_sta_data` of the access point.  The last two fields only record what
happened since the STA last fell asleep. -/
structure UmacApStad where
  aid : U16
  peerAddr : MacAddr
  staState : MorseStaState
  asleep : Bool
  txq : List Mmpkt
  umac : UmacData
  /-- it was given a packet while asleep -/
  givenWhileAsleep : Bool
  /-- it had packets queued when it fell asleep -/
  queuedWhenFellAsleep : Bool

/-- A record cleared by `mmosal_calloc` with its AID and address set. -/
def umacApStadInit (aid : U16) (peerAddr : MacAddr) : UmacApStad where
  aid := aid
  peerAddr := peerAddr
  staState := .notexist
  asleep := false
  txq := []
  umac := { umacStadInit with
    stad := { umacStadInit.stad with
      datapath := { umacStadInit.stad.datapath with rxSeqNumSpaces := fun _ => 0 } } }
  givenWhileAsleep := false
  queuedWhenFellAsleep := false

/-- The arguments that passed `umac_ap_validate_ap_args`. -/
structure MmwlanApArgs where
  maxStas : Nat
  staStatusCb : Bool
  dtimPeriod : U8
  maxStas_le : maxStas ≤ mmwlanApMaxStasLimit

/-- `max_stas` of `struct umac_ap_data`: the common record is one of them. -/
def MmwlanApArgs.records (args : MmwlanApArgs) : Nat :=
  1 + if args.maxStas = 0 then mmwlanDefaultApMaxStas else args.maxStas

/-- `struct umac_ap_data`, with the status callbacks that were made and the records that were
freed, latest first. -/
structure UmacApData where
  args : MmwlanApArgs
  stas : Nat → Option UmacApStad
  bitmap : TrafficBitmap
  numPktsQueued : U32
  dtimCount : U8
  statusCalls : List MmwlanApStaStatus
  freed : List UmacApStad

def UmacApData.maxStas (data : UmacApData) : Nat := data.args.records

def UmacApData.setSta (data : UmacApData) (i : Nat) (stad : Option UmacApStad) : UmacApData :=
  { data with stas := update data.stas i stad }

@[simp]
theorem UmacApData.setSta_self (data : UmacApData) (i : Nat) (stad : Option UmacApStad) :
    (data.setSta i stad).stas i = stad := by
  show update data.stas i stad i = stad
  rw [update_self]

/-- `sta_status_cb`, if it is set. -/
def UmacApData.report (data : UmacApData) (status : MmwlanApStaStatus) : UmacApData :=
  if data.args.staStatusCb then { data with statusCalls := status :: data.statusCalls } else data

/-- The record is no longer in the table, and its memory no longer the record's. -/
def UmacApData.free (data : UmacApData) (i : Nat) (stad : UmacApStad) : UmacApData :=
  { data.setSta i none with freed := stad :: data.freed }

def umacApSetStadSleepState' (stad : UmacApStad) (asleep : Bool) : UmacApStad :=
  { stad with
    asleep := asleep
    givenWhileAsleep := false
    queuedWhenFellAsleep := asleep && !stad.txq.isEmpty }

/-- What `umac_ap_enable_ap` and `umac_ap_start` set up. -/
def umacApStart (args : MmwlanApArgs) : UmacApData where
  args := args
  stas := fun i =>
    if i = 0 then some (umacApSetStadSleepState' (umacApStadInit 0 fun _ => 0) true) else none
  bitmap := fun _ => 0
  numPktsQueued := 0
  dtimCount := args.dtimPeriod - 1
  statusCalls := []
  freed := []

/-! ## Adding and removing -/

/-- The search of `umac_ap_lookup_sta_by_addr` and `umac_ap_pop_sta_by_addr`. -/
def umacApFindSta (data : UmacApData) (staAddr : MacAddr) : Option (Nat × UmacApStad) :=
  (List.range data.maxStas).findSome? fun i =>
    (data.stas i).bind fun stad => if stad.peerAddr = staAddr then some (i, stad) else none

def umacApLookupStaByAddr (data : UmacApData) (staAddr : MacAddr) : Option (Nat × UmacApStad) :=
  if mmMacAddrIsMulticast staAddr then (data.stas 0).map fun stad => (0, stad)
  else umacApFindSta data staAddr

def umacApUpdateSta (data : UmacApData) (staInfo : UmacApStaInfo) (driverOk : Bool) :
    UmacApData × MmwlanStatus :=
  match umacApLookupStaByAddr data staInfo.macAddr with
  | none => (data, .error)
  | some (i, stad) =>
    let stateChanged := stad.staState != staInfo.staState
    let data := data.setSta i (some { stad with staState := staInfo.staState })
    if !driverOk then (data, .error)
    else if stateChanged then
      (data.report
        { state := umacApMorseStaStateToMmwlanStaState staInfo.staState
          aid := stad.aid
          macAddr := staInfo.macAddr }, .success)
    else (data, .success)

/-- `umac_ap_dealloc_sta`; `none` is its assertion. -/
def umacApDeallocSta (data : UmacApData) (aid : U16) : Option UmacApData :=
  (data.stas aid.toNat).map fun stad => data.free aid.toNat stad

/-- `umac_ap_add_sta`; `none` is the assertion that a record was allocated. -/
def umacApAddSta (data : UmacApData) (aid : U16) (staInfo : UmacApStaInfo)
    (allocated driverOk : Bool) : Option (UmacApData × MmwlanStatus) :=
  if !aidIsValid aid || mmMacAddrIsMulticast staInfo.macAddr then some (data, .invalidArgument)
  else
    match umacApLookupStaByAddr data staInfo.macAddr with
    | some _ => some (data, .unavailable)
    | none =>
      if data.maxStas ≤ aid.toNat then some (data, .noMem)
      else if (data.stas aid.toNat).isSome then some (data, .noMem)
      else if !allocated then none
      else
        let data := data.setSta aid.toNat (some (umacApStadInit aid staInfo.macAddr))
        let (data, status) := umacApUpdateSta data staInfo driverOk
        if status = .success then some (data, status)
        else (umacApDeallocSta data aid).map fun data => (data, status)

def umacDatapathStadFlushTxq (stad : UmacApStad) : UmacApStad := { stad with txq := [] }

/-- `umac_ap_remove_sta`; `none` is the attempt to free the common record, which is static. -/
def umacApRemoveSta (data : UmacApData) (macAddr : MacAddr) (driverOk : Bool) :
    Option (UmacApData × MmwlanStatus) :=
  if mmMacAddrIsMulticast macAddr then some (data, .error)
  else
    match umacApFindSta data macAddr with
    | none => some (data, .success)
    | some (0, _) => none
    | some (i + 1, stad) =>
      let updateRequired := stad.staState != .notexist && stad.staState != .none
      let data := data.free (i + 1) (umacDatapathStadFlushTxq stad)
      let data :=
        if updateRequired then
          data.report { state := .unknown, aid := stad.aid, macAddr := macAddr }
        else data
      some (data, if driverOk then .success else .error)

/-! ## Transmit queues -/

/-- `umac_ap_queue_pkt`, for the record `i`; `none` is an assertion of the bitmap. -/
def umacApQueuePkt (data : UmacApData) (i : Nat) (stad : UmacApStad) (mmpkt : Mmpkt) :
    Option UmacApData :=
  let data := data.setSta i (some { stad with
    txq := stad.txq ++ [mmpkt]
    givenWhileAsleep := stad.givenWhileAsleep || stad.asleep })
  let data := { data with numPktsQueued := data.numPktsQueued + 1 }
  if stad.asleep && stad.aid != 0 then
    (apTrafficBitmapSetAidBit data.bitmap stad.aid).map fun bitmap => { data with bitmap := bitmap }
  else some data

/-- A record that is awake and has packets queued (`umac_sta_data_is_paused` is never true). -/
def readyForTx (sta : Option UmacApStad) : Bool :=
  match sta with
  | none => false
  | some stad => !stad.asleep && !stad.txq.isEmpty

/-- `umac_ap_get_next_sta_for_tx`: the record found, with the common one put to sleep when it
has nothing left to send; `none` is an assertion. -/
def umacApGetNextStaForTx (data : UmacApData) : Option (UmacApData × Option Nat) :=
  match data.stas 0 with
  | none => none
  | some common =>
    if readyForTx (some common) then some (data, some 0)
    else
      let data :=
        if common.asleep then data
        else data.setSta 0 (some (umacApSetStadSleepState' common true))
      some (data, (List.range data.maxStas).find? fun i => readyForTx (data.stas i))

/-- `umac_ap_tx_dequeue_frame`: whether there is more, and what was dequeued. -/
def umacApTxDequeueFrame (data : UmacApData) : Option (UmacApData × Bool × Option (Nat × Mmpkt)) :=
  match umacApGetNextStaForTx data with
  | none => none
  | some (data, none) => some (data, false, none)
  | some (data, some i) =>
    match data.stas i with
    | none => none
    | some stad =>
      match stad.txq with
      | [] => some (data, false, none)
      | mmpkt :: rest =>
        let data := { data.setSta i (some { stad with txq := rest }) with
          numPktsQueued := data.numPktsQueued - 1 }
        some (data, data.numPktsQueued != 0, some (i, mmpkt))

/-! ## Sleep -/

/-- `umac_ap_set_stad_sleep_state`, for the record `i`. -/
def umacApSetStadSleepState (data : UmacApData) (i : Nat) (stad : UmacApStad) (asleep : Bool) :
    Option UmacApData :=
  if !aidIsValid stad.aid then some data
  else if stad.asleep == asleep then some data
  else
    let data := data.setSta i (some (umacApSetStadSleepState' stad asleep))
    if !asleep then
      (apTrafficBitmapClearAidBit data.bitmap stad.aid).map fun bitmap =>
        { data with bitmap := bitmap }
    else if !stad.txq.isEmpty then
      (apTrafficBitmapSetAidBit data.bitmap stad.aid).map fun bitmap =>
        { data with bitmap := bitmap }
    else some data

/-- The common record once a beacon was built: group traffic is released with a beacon that
announces it. -/
def commonAfterBeacon (common : UmacApStad) (released : Bool) : UmacApStad :=
  if released then umacApSetStadSleepState' (umacApSetStadSleepState' common true) false
  else umacApSetStadSleepState' common true

/-- `umac_ap_get_beacon`, as far as it changes the state. -/
def umacApGetBeacon (data : UmacApData) (built : Bool) : UmacApData :=
  match data.stas 0 with
  | none => data
  | some common =>
    let trafficIndicator := data.dtimCount == 0 && !common.txq.isEmpty
    { data.setSta 0 (some (commonAfterBeacon common (built && trafficIndicator))) with
      dtimCount :=
        if data.dtimCount == 0 then data.args.dtimPeriod - 1 else data.dtimCount - 1 }

/-! ## Steps -/

/-- What happens to an access point.  A record is named by its index; a caller that finds
none at it does nothing. -/
inductive ApEvent where
  | addSta (aid : U16) (staInfo : UmacApStaInfo) (allocated driverOk : Bool)
  | updateSta (staInfo : UmacApStaInfo) (driverOk : Bool)
  | removeSta (macAddr : MacAddr) (driverOk : Bool)
  | queuePkt (i : Nat) (mmpkt : Mmpkt)
  | dequeueFrame
  | setStadSleepState (i : Nat) (asleep : Bool)
  | getBeacon (built : Bool)
  | stad (i : Nat) (env : UmacEnv) (event : StadEvent)

/-- A step on the record `i`, if there is one. -/
def onRecord (data : UmacApData) (i : Nat) (step : UmacApStad → Option UmacApData) :
    Option UmacApData :=
  match data.stas i with
  | none => some data
  | some stad => step stad

def apStep (data : UmacApData) : ApEvent → Option UmacApData
  | .addSta aid staInfo allocated driverOk =>
    (umacApAddSta data aid staInfo allocated driverOk).map Prod.fst
  | .updateSta staInfo driverOk => some (umacApUpdateSta data staInfo driverOk).1
  | .removeSta macAddr driverOk => (umacApRemoveSta data macAddr driverOk).map Prod.fst
  | .queuePkt i mmpkt => onRecord data i fun stad => umacApQueuePkt data i stad mmpkt
  | .dequeueFrame => (umacApTxDequeueFrame data).map Prod.fst
  | .setStadSleepState i asleep =>
    onRecord data i fun stad => umacApSetStadSleepState data i stad asleep
  | .getBeacon built => some (umacApGetBeacon data built)
  | .stad i env event =>
    onRecord data i fun stad => (stadStep env stad.umac event).map fun umac =>
      data.setSta i (some { stad with umac := umac })

/-- An access point with the default number of records. -/
def defaultApArgs : MmwlanApArgs where
  maxStas := 0
  staStatusCb := false
  dtimPeriod := 1
  maxStas_le := by decide

/-- A STA that joins. -/
def someSta : UmacApStaInfo where
  macAddr := fun i => if i = 0 then 0x02 else 0
  staState := .associated

/-! ## The records of the table -/

theorem onRecord_cases {data data' : UmacApData} {i : Nat}
    {step : UmacApStad → Option UmacApData}
    (heq : onRecord data i step = some data') :
    data' = data ∨ ∃ stad, data.stas i = some stad ∧ step stad = some data' := by
  unfold onRecord at heq
  split at heq
  · exact Or.inl (Option.some.inj heq).symm
  · next stad hstad => exact Or.inr ⟨stad, hstad, heq⟩

variable {stad : UmacApStad}

theorem umacApFindSta_spec {data : UmacApData} {staAddr : MacAddr} {i : Nat}
    (heq : umacApFindSta data staAddr = some (i, stad)) :
    i < data.maxStas ∧ data.stas i = some stad ∧ stad.peerAddr = staAddr := by
  obtain ⟨j, hj, hfound⟩ := List.exists_of_findSome?_eq_some heq
  obtain ⟨found, hstas, hcheck⟩ := Option.bind_eq_some_iff.mp hfound
  split at hcheck
  · next haddr =>
      cases hcheck
      exact ⟨List.mem_range.mp hj, hstas, haddr⟩
  · cases hcheck

theorem umacApLookupStaByAddr_spec {data : UmacApData} {staAddr : MacAddr} {i : Nat}
    (heq : umacApLookupStaByAddr data staAddr = some (i, stad)) : data.stas i = some stad := by
  unfold umacApLookupStaByAddr at heq
  split at heq
  · obtain ⟨common, hcommon, hpair⟩ := Option.map_eq_some_iff.mp heq
    cases hpair
    exact hcommon
  · exact (umacApFindSta_spec heq).2.1

/-- The records keep their AIDs and their receive sides, and none of them is freed. -/
structure SameRecords (data data' : UmacApData) : Prop where
  args : data'.args = data.args
  freed : data'.freed = data.freed
  records : ∀ i stad', data'.stas i = some stad' →
    ∃ stad, data.stas i = some stad ∧ stad'.aid = stad.aid ∧ stad'.umac = stad.umac

namespace SameRecords

variable {data data' data'' : UmacApData}

theorem of_stas (hstas : data'.stas = data.stas) (hargs : data'.args = data.args)
    (hfreed : data'.freed = data.freed) : SameRecords data data' :=
  ⟨hargs, hfreed, fun _ stad hstad => ⟨stad, hstas ▸ hstad, rfl, rfl⟩⟩

theorem trans (h : SameRecords data data') (h' : SameRecords data' data'') :
    SameRecords data data'' where
  args := h'.args.trans h.args
  freed := h'.freed.trans h.freed
  records := by
    intro i stad'' hstad''
    obtain ⟨stad', hstad', haid', humac'⟩ := h'.records i stad'' hstad''
    obtain ⟨stad, hstad, haid, humac⟩ := h.records i stad' hstad'
    exact ⟨stad, hstad, haid'.trans haid, humac'.trans humac⟩

theorem setSta {i : Nat} {stad stad' : UmacApStad} (hstad : data.stas i = some stad)
    (haid : stad'.aid = stad.aid) (humac : stad'.umac = stad.umac) :
    SameRecords data (data.setSta i (some stad')) := by
  refine ⟨rfl, rfl, fun j other hother => ?_⟩
  change update data.stas i (some stad') j = some other at hother
  by_cases hj : j = i
  · subst hj
    rw [update_self] at hother
    cases hother
    exact ⟨stad, hstad, haid, humac⟩
  · rw [update_of_ne hj] at hother
    exact ⟨other, hother, rfl, rfl⟩

theorem report (data : UmacApData) (status : MmwlanApStaStatus) :
    SameRecords data (data.report status) := by
  unfold UmacApData.report
  split <;> exact of_stas rfl rfl rfl

theorem updateSta (data : UmacApData) (staInfo : UmacApStaInfo) (driverOk : Bool) :
    SameRecords data (umacApUpdateSta data staInfo driverOk).1 := by
  unfold umacApUpdateSta
  cases hlookup : umacApLookupStaByAddr data staInfo.macAddr with
  | none => exact of_stas rfl rfl rfl
  | some found =>
    obtain ⟨i, stad⟩ := found
    have hchanged : SameRecords data
        (data.setSta i (some { stad with staState := staInfo.staState })) :=
      setSta (umacApLookupStaByAddr_spec hlookup) rfl rfl
    dsimp only
    split_ifs
    · exact hchanged
    · exact hchanged.trans (report _ _)
    · exact hchanged

theorem queuePkt {i : Nat} {stad : UmacApStad} {mmpkt : Mmpkt}
    (hstad : data.stas i = some stad) (heq : umacApQueuePkt data i stad mmpkt = some data') :
    SameRecords data data' := by
  have hchanged : SameRecords data (data.setSta i (some { stad with
      txq := stad.txq ++ [mmpkt]
      givenWhileAsleep := stad.givenWhileAsleep || stad.asleep })) := setSta hstad rfl rfl
  unfold umacApQueuePkt at heq
  dsimp only at heq
  split at heq
  · obtain ⟨bitmap, -, rfl⟩ := Option.map_eq_some_iff.mp heq
    exact hchanged.trans (of_stas rfl rfl rfl)
  · cases heq
    exact hchanged.trans (of_stas rfl rfl rfl)

theorem getNextStaForTx {next : Option Nat}
    (heq : umacApGetNextStaForTx data = some (data', next)) : SameRecords data data' := by
  unfold umacApGetNextStaForTx at heq
  split at heq
  · cases heq
  next common hcommon =>
    split at heq
    · obtain ⟨rfl, -⟩ := Prod.mk.inj (Option.some.inj heq)
      exact of_stas rfl rfl rfl
    obtain ⟨rfl, -⟩ := Prod.mk.inj (Option.some.inj heq)
    split
    · exact of_stas rfl rfl rfl
    · exact setSta hcommon rfl rfl

theorem dequeueFrame {answer : Bool × Option (Nat × Mmpkt)}
    (heq : umacApTxDequeueFrame data = some (data', answer)) : SameRecords data data' := by
  unfold umacApTxDequeueFrame at heq
  split at heq
  · cases heq
  · next hnext =>
      obtain ⟨rfl, -⟩ := Prod.mk.inj (Option.some.inj heq)
      exact getNextStaForTx hnext
  next hnext =>
    have hfound := getNextStaForTx hnext
    split at heq
    · cases heq
    next stad hstad =>
      split at heq
      · obtain ⟨rfl, -⟩ := Prod.mk.inj (Option.some.inj heq)
        exact hfound
      next mmpkt rest _ =>
        obtain ⟨rfl, -⟩ := Prod.mk.inj (Option.some.inj heq)
        have hchanged : SameRecords _ (UmacApData.setSta _ _ (some { stad with txq := rest })) :=
          setSta hstad rfl rfl
        exact hfound.trans (hchanged.trans (of_stas rfl rfl rfl))

theorem setStadSleepState {i : Nat} {stad : UmacApStad} {asleep : Bool}
    (hstad : data.stas i = some stad)
    (heq : umacApSetStadSleepState data i stad asleep = some data') : SameRecords data data' := by
  have hchanged : SameRecords data
      (data.setSta i (some (umacApSetStadSleepState' stad asleep))) := setSta hstad rfl rfl
  unfold umacApSetStadSleepState at heq
  dsimp only at heq
  split_ifs at heq
  · cases heq
    exact of_stas rfl rfl rfl
  · cases heq
    exact of_stas rfl rfl rfl
  · obtain ⟨bitmap, -, rfl⟩ := Option.map_eq_some_iff.mp heq
    exact hchanged.trans (of_stas rfl rfl rfl)
  · obtain ⟨bitmap, -, rfl⟩ := Option.map_eq_some_iff.mp heq
    exact hchanged.trans (of_stas rfl rfl rfl)
  · cases heq
    exact hchanged

theorem getBeacon (data : UmacApData) (built : Bool) :
    SameRecords data (umacApGetBeacon data built) := by
  unfold umacApGetBeacon
  split
  · exact of_stas rfl rfl rfl
  next common hcommon =>
    dsimp only
    generalize (built && _) = released
    have haid : (commonAfterBeacon common released).aid = common.aid := by
      cases released <;> rfl
    have humac : (commonAfterBeacon common released).umac = common.umac := by
      cases released <;> rfl
    exact (setSta hcommon haid humac).trans (of_stas rfl rfl rfl)

end SameRecords

/-! ## What a step does to the records -/

/-- A step leaves the records where they are, adds a new one, gives one up, or takes the
receive side of one a step further. -/
inductive RecordStep (data : UmacApData) : ApEvent → UmacApData → Prop where
  | same {event : ApEvent} {data' : UmacApData} (h : SameRecords data data') :
      RecordStep data event data'
  | added {aid : U16} {staInfo : UmacApStaInfo} {allocated driverOk : Bool} {data' : UmacApData}
      (hvacant : data.stas aid.toNat = none) (haid : aid.toNat < data.maxStas)
      (h : SameRecords
        (data.setSta aid.toNat (some (umacApStadInit aid staInfo.macAddr))) data') :
      RecordStep data (.addSta aid staInfo allocated driverOk) data'
  | givenUp {aid : U16} {staInfo : UmacApStaInfo} {allocated driverOk : Bool}
      {updated : UmacApData} {stad : UmacApStad} (hvacant : data.stas aid.toNat = none)
      (haid : aid.toNat < data.maxStas)
      (h : SameRecords
        (data.setSta aid.toNat (some (umacApStadInit aid staInfo.macAddr))) updated)
      (hstad : stad.umac = (umacApStadInit aid staInfo.macAddr).umac) :
      RecordStep data (.addSta aid staInfo allocated driverOk) (updated.free aid.toNat stad)
  | removed {macAddr : MacAddr} {driverOk : Bool} {i : Nat} {stad : UmacApStad}
      {data' : UmacApData} (haddr : mmMacAddrIsMulticast macAddr = false)
      (hfind : umacApFindSta data macAddr = some (i + 1, stad))
      (h : SameRecords (data.free (i + 1) (umacDatapathStadFlushTxq stad)) data') :
      RecordStep data (.removeSta macAddr driverOk) data'
  | stepped {i : Nat} {env : UmacEnv} {event : StadEvent} {stad : UmacApStad} {umac : UmacData}
      (hstad : data.stas i = some stad) (h : stadStep env stad.umac event = some umac) :
      RecordStep data (.stad i env event) (data.setSta i (some { stad with umac := umac }))

variable {data data' : UmacApData}

theorem addSta_recordStep {aid : U16} {staInfo : UmacApStaInfo} {allocated driverOk : Bool}
    {status : MmwlanStatus}
    (heq : umacApAddSta data aid staInfo allocated driverOk = some (data', status)) :
    RecordStep data (.addSta aid staInfo allocated driverOk) data' := by
  have hsame : RecordStep data (.addSta aid staInfo allocated driverOk) data :=
    .same (.of_stas rfl rfl rfl)
  unfold umacApAddSta at heq
  split at heq
  · obtain ⟨rfl, -⟩ := Prod.mk.inj (Option.some.inj heq)
    exact hsame
  split at heq
  · obtain ⟨rfl, -⟩ := Prod.mk.inj (Option.some.inj heq)
    exact hsame
  split_ifs at heq with hmax hoccupied hallocated
  · obtain ⟨rfl, -⟩ := Prod.mk.inj (Option.some.inj heq)
    exact hsame
  · obtain ⟨rfl, -⟩ := Prod.mk.inj (Option.some.inj heq)
    exact hsame
  have hvacant : data.stas aid.toNat = none := by simpa using hoccupied
  have hupdate := SameRecords.updateSta
    (data.setSta aid.toNat (some (umacApStadInit aid staInfo.macAddr))) staInfo driverOk
  dsimp only at heq
  generalize umacApUpdateSta _ staInfo driverOk = updated at heq hupdate
  obtain ⟨updated, answer⟩ := updated
  dsimp only at heq hupdate
  split at heq
  · obtain ⟨rfl, -⟩ := Prod.mk.inj (Option.some.inj heq)
    exact .added hvacant (Nat.lt_of_not_le hmax) hupdate
  obtain ⟨dealloced, hdealloc, hpair⟩ := Option.map_eq_some_iff.mp heq
  obtain ⟨rfl, -⟩ := Prod.mk.inj hpair
  obtain ⟨stad, hstad, rfl⟩ := Option.map_eq_some_iff.mp hdealloc
  obtain ⟨before, hbefore, -, humac⟩ := hupdate.records _ stad hstad
  change update data.stas aid.toNat _ aid.toNat = some before at hbefore
  rw [update_self] at hbefore
  cases hbefore
  exact .givenUp hvacant (Nat.lt_of_not_le hmax) hupdate humac

theorem removeSta_recordStep {macAddr : MacAddr} {driverOk : Bool} {status : MmwlanStatus}
    (heq : umacApRemoveSta data macAddr driverOk = some (data', status)) :
    RecordStep data (.removeSta macAddr driverOk) data' := by
  unfold umacApRemoveSta at heq
  split at heq
  · obtain ⟨rfl, -⟩ := Prod.mk.inj (Option.some.inj heq)
    exact .same (.of_stas rfl rfl rfl)
  next hunicast =>
    split at heq
    · obtain ⟨rfl, -⟩ := Prod.mk.inj (Option.some.inj heq)
      exact .same (.of_stas rfl rfl rfl)
    · cases heq
    next i stad hfind =>
      obtain ⟨rfl, -⟩ := Prod.mk.inj (Option.some.inj heq)
      refine .removed (by simpa using hunicast) hfind ?_
      split
      · exact .report _ _
      · exact .of_stas rfl rfl rfl

theorem apStep_recordStep {event : ApEvent} (heq : apStep data event = some data') :
    RecordStep data event data' := by
  cases event with
  | addSta aid staInfo allocated driverOk =>
    obtain ⟨⟨_, status⟩, hadd, rfl⟩ := Option.map_eq_some_iff.mp heq
    exact addSta_recordStep hadd
  | updateSta staInfo driverOk =>
    cases heq
    exact .same (.updateSta data staInfo driverOk)
  | removeSta macAddr driverOk =>
    obtain ⟨⟨_, status⟩, hremove, rfl⟩ := Option.map_eq_some_iff.mp heq
    exact removeSta_recordStep hremove
  | queuePkt i mmpkt =>
    rcases onRecord_cases heq with rfl | ⟨stad, hstad, hqueue⟩
    · exact .same (.of_stas rfl rfl rfl)
    · exact .same (.queuePkt hstad hqueue)
  | dequeueFrame =>
    obtain ⟨⟨_, answer⟩, hdequeue, rfl⟩ := Option.map_eq_some_iff.mp heq
    exact .same (.dequeueFrame hdequeue)
  | setStadSleepState i asleep =>
    rcases onRecord_cases heq with rfl | ⟨stad, hstad, hsleep⟩
    · exact .same (.of_stas rfl rfl rfl)
    · exact .same (.setStadSleepState hstad hsleep)
  | getBeacon built =>
    cases heq
    exact .same (.getBeacon data built)
  | stad i env event =>
    rcases onRecord_cases heq with rfl | ⟨stad, hstad, hstep⟩
    · exact .same (.of_stas rfl rfl rfl)
    · obtain ⟨umac, hevent, rfl⟩ := Option.map_eq_some_iff.mp hstep
      exact .stepped hstad hevent

/-! ## Invariants of the records -/

/-- Every record of the table satisfies `P` at its index. -/
def Records (P : Nat → UmacApStad → Prop) (data : UmacApData) : Prop :=
  ∀ i stad, data.stas i = some stad → i < data.maxStas ∧ P i stad

/-- A property of a record that only its AID and its receive side are part of. -/
structure RecordInvariant (P : Nat → UmacApStad → Prop) : Prop where
  added : ∀ (aid : U16) (peerAddr : MacAddr), P aid.toNat (umacApStadInit aid peerAddr)
  changed : ∀ {i : Nat} {stad stad' : UmacApStad}, P i stad → stad'.aid = stad.aid →
    stad'.umac = stad.umac → P i stad'
  stepped : ∀ {i : Nat} {stad : UmacApStad} {env : UmacEnv} {event : StadEvent} {umac : UmacData},
    P i stad → stadStep env stad.umac event = some umac → P i { stad with umac := umac }

variable {P : Nat → UmacApStad → Prop}

theorem Records.of_stas (h : Records P data) (hstas : data'.stas = data.stas)
    (hargs : data'.args = data.args) : Records P data' := by
  intro i stad hstad
  unfold UmacApData.maxStas
  rw [hargs]
  exact h i stad (hstas ▸ hstad)

theorem Records.setSta (h : Records P data) {i : Nat}
    (hi : i < data.maxStas) (hstad : P i stad) : Records P (data.setSta i (some stad)) := by
  intro j other hother
  change update data.stas i (some stad) j = some other at hother
  by_cases hj : j = i
  · subst hj
    rw [update_self] at hother
    cases hother
    exact ⟨hi, hstad⟩
  · rw [update_of_ne hj] at hother
    exact h j other hother

theorem Records.free (h : Records P data) (i : Nat) (stad : UmacApStad) :
    Records P (data.free i stad) := by
  intro j other hother
  change update data.stas i none j = some other at hother
  by_cases hj : j = i
  · rw [hj, update_self] at hother
    cases hother
  · rw [update_of_ne hj] at hother
    exact h j other hother

theorem RecordInvariant.of_same (hP : RecordInvariant P) (h : Records P data)
    (hsame : SameRecords data data') : Records P data' := by
  intro i stad' hstad'
  obtain ⟨stad, hstad, haid, humac⟩ := hsame.records i stad' hstad'
  obtain ⟨hi, hp⟩ := h i stad hstad
  refine ⟨?_, hP.changed hp haid humac⟩
  unfold UmacApData.maxStas
  rw [hsame.args]
  exact hi

theorem RecordInvariant.step (hP : RecordInvariant P) (h : Records P data) {event : ApEvent}
    (heq : apStep data event = some data') : Records P data' := by
  cases apStep_recordStep heq with
  | same hsame => exact hP.of_same h hsame
  | added hvacant haid hsame => exact hP.of_same (h.setSta haid (hP.added _ _)) hsame
  | givenUp hvacant haid hsame hstad =>
    exact (hP.of_same (h.setSta haid (hP.added _ _)) hsame).free _ _
  | removed haddr hfind hsame => exact hP.of_same (h.free _ _) hsame
  | stepped hstad hstep =>
    exact h.setSta (h _ _ hstad).1 (hP.stepped (h _ _ hstad).2 hstep)

end MmIotEsp32.Umac.Ap
