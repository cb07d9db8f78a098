/-
  MmIotEsp32.Umac.Ap.ApStations

  The stations of an access point, with what adding one does outside the table: the STA states that
  the driver was told, and the tables of the rate control, which come from the heap.
-/
import MmIotEsp32.Umac.Ap.UmacAp
import MmIotEsp32.Umac.Rc.UmacRc

namespace MmIotEsp32.Umac.Ap

open Lib Dot11 Rc Function

/-! ## The access point and what is outside its table -/

/-- An access point, the driver and the tables of the rate control. -/
structure ApHost where
  ap : UmacApData
  /-- the STA states of the driver, by AID -/
  driverStas : Nat → Option UmacApStaInfo
  /-- `reference_table` of the record is not NULL -/
  rcTable : Nat → Bool
  /-- tables of the rate control that no record has and that were not freed -/
  lostTables : Nat

def apHostStart (args : MmwlanApArgs) : ApHost :=
  ⟨umacApStart args, fun _ => none, fun _ => false, 0⟩

/-- The address of no station. -/
def macAddrZero : MacAddr := fun _ => 0

/-- What the surroundings of `umac_ap_add_sta` do: whether there is memory for the record and for
the table of its rate control, what the rate control starts from, and the answer of the driver. -/
structure AddEnv where
  allocated : Bool
  rcAllocated : Bool
  rc : RcStart
  driverOk : Bool

/-- `mmdrv_update_sta_state`, when it succeeds. -/
def mmdrvUpdateStaState (stas : Nat → Option UmacApStaInfo) (aid : U16) (staInfo : UmacApStaInfo) :
    Nat → Option UmacApStaInfo :=
  update stas aid.toNat (if staInfo.staState = .notexist then none else some staInfo)

/-- The rate control of a record that was just allocated has something to negotiate. -/
def AddEnv.negotiates (env : AddEnv) : Bool :=
  (umacRcStart { env.rc with sgiFlags := 0, maxMcs := 7 }).isSome

namespace ApHost

/-- `umac_ap_alloc_sta` and the address of the record: NULL is `none` inside, and `none` is the
assertion that the record was allocated. -/
def allocSta (h : ApHost) (aid : U16) (peerAddr : MacAddr) (env : AddEnv) :
    Option (Option ApHost) :=
  if h.ap.maxStas ≤ aid.toNat then some none
  else if (h.ap.stas aid.toNat).isSome then some none
  else if !env.allocated then none
  else some (some { h with ap := h.ap.setSta aid.toNat (some (umacApStadInit aid peerAddr)) })

/-- `umac_rc_start`, for the record that was just allocated; `none` is the assertion that its table
was. -/
def rcStart (h : ApHost) (aid : U16) (env : AddEnv) : Option ApHost :=
  if !env.negotiates then some h
  else if !env.rcAllocated then none
  else some { h with rcTable := update h.rcTable aid.toNat true }

/-- `umac_ap_update_sta`. -/
def updateSta (h : ApHost) (staInfo : UmacApStaInfo) (driverOk : Bool) : ApHost × MmwlanStatus :=
  let (ap, status) := umacApUpdateSta h.ap staInfo driverOk
  match umacApLookupStaByAddr h.ap staInfo.macAddr with
  | none => ({ h with ap := ap }, status)
  | some (_, stad) =>
    ({ h with
        ap := ap
        driverStas :=
          if driverOk then mmdrvUpdateStaState h.driverStas stad.aid staInfo else h.driverStas },
      status)

/-- `umac_ap_dealloc_sta`; `none` is its assertion.  The record is freed, and with it the only
pointer to the table of its rate control. -/
def deallocSta (h : ApHost) (aid : U16) : Option ApHost :=
  (umacApDeallocSta h.ap aid).map fun ap =>
    { h with
      ap := ap
      rcTable := update h.rcTable aid.toNat false
      lostTables := h.lostTables + if h.rcTable aid.toNat then 1 else 0 }

/-- `umac_ap_add_sta`; `none` is an assertion. -/
def addSta (h : ApHost) (aid : U16) (staInfo : UmacApStaInfo) (env : AddEnv) :
    Option (ApHost × MmwlanStatus) :=
  if !aidIsValid aid || mmMacAddrIsMulticast staInfo.macAddr then some (h, .invalidArgument)
  else
    match umacApLookupStaByAddr h.ap staInfo.macAddr with
    | some _ => some (h, .unavailable)
    | none =>
      (h.allocSta aid staInfo.macAddr env).bind fun allocated =>
      match allocated with
      | none => some (h, .noMem)
      | some h =>
        (h.rcStart aid env).bind fun h =>
        match h.updateSta staInfo env.driverOk with
        | (h, .success) => some (h, .success)
        | (h, status) => (h.deallocSta aid).map fun h => (h, status)

/-- `umac_ap_remove_sta`; `none` is the attempt to free the common record, which is static. -/
def removeSta (h : ApHost) (macAddr : MacAddr) (driverOk : Bool) : Option (ApHost × MmwlanStatus) :=
  (umacApRemoveSta h.ap macAddr driverOk).map fun (ap, status) =>
    if mmMacAddrIsMulticast macAddr then ({ h with ap := ap }, status)
    else
      match umacApFindSta h.ap macAddr with
      | none => ({ h with ap := ap }, status)
      | some (i, stad) =>
        -- `umac_rc_stop` frees the table
        ({ h with
            ap := ap
            driverStas :=
              if driverOk then
                mmdrvUpdateStaState h.driverStas stad.aid ⟨stad.peerAddr, .notexist⟩
              else h.driverStas
            rcTable := update h.rcTable i false }, status)

end ApHost

/-- What the supplicant asks of an access point. -/
inductive ApStaEvent where
  | addSta (aid : U16) (staInfo : UmacApStaInfo) (env : AddEnv)
  | removeSta (macAddr : MacAddr) (driverOk : Bool)

def apHostStep (h : ApHost) : ApStaEvent → Option ApHost
  | .addSta aid staInfo env => (h.addSta aid staInfo env).map Prod.fst
  | .removeSta macAddr driverOk => (h.removeSta macAddr driverOk).map Prod.fst

/-! ## The table -/

/-- The stations of the table: each has the AID that it stands at, no two have the same address, and
the common record stands at 0. -/
structure StationsOk (data : UmacApData) : Prop where
  aid : ∀ i stad, data.stas i = some stad → i < data.maxStas ∧ stad.aid.toNat = i
  addr : ∀ i j stad stad', data.stas i = some stad → data.stas j = some stad' →
    stad.peerAddr = stad'.peerAddr → i = j
  common : ∃ stad, data.stas 0 = some stad ∧ stad.peerAddr = macAddrZero

variable {data data' : UmacApData}

theorem stationsOk_start (args : MmwlanApArgs) : StationsOk (umacApStart args) := by
  have hstas : ∀ i stad, (umacApStart args).stas i = some stad →
      i = 0 ∧ stad = umacApSetStadSleepState' (umacApStadInit 0 fun _ => 0) true := by
    intro i stad hstad
    change (if i = 0 then _ else none) = some stad at hstad
    split at hstad
    · exact ⟨‹_›, (Option.some.inj hstad).symm⟩
    · cases hstad
  refine ⟨fun i stad hstad => ?_, fun i j stad stad' hstad hstad' _ => ?_, ⟨_, rfl, rfl⟩⟩
  · obtain ⟨rfl, rfl⟩ := hstas i stad hstad
    refine ⟨?_, rfl⟩
    show 0 < 1 + _
    omega
  · rw [(hstas i stad hstad).1, (hstas j stad' hstad').1]

theorem setSta_stas (i j : Nat) (stad : Option UmacApStad) :
    (data.setSta i stad).stas j = if j = i then stad else data.stas j := by
  show update data.stas i stad j = _
  rw [update_apply]

theorem report_stas (data : UmacApData) (status : MmwlanApStaStatus) :
    (data.report status).stas = data.stas := by
  unfold UmacApData.report
  split <;> rfl

theorem report_args (data : UmacApData) (status : MmwlanApStaStatus) :
    (data.report status).args = data.args := by
  unfold UmacApData.report
  split <;> rfl

variable {stad : UmacApStad}

theorem umacApFindSta_none {staAddr : MacAddr} (h : umacApFindSta data staAddr = none) {i : Nat}
    (hi : i < data.maxStas) (hstad : data.stas i = some stad) : stad.peerAddr ≠ staAddr := by
  intro haddr
  have hnone := List.findSome?_eq_none_iff.mp h i (List.mem_range.mpr hi)
  rw [hstad, Option.bind_some, if_pos haddr] at hnone
  cases hnone

theorem StationsOk.umacApFindSta_eq (h : StationsOk data) {i : Nat}
    (hstad : data.stas i = some stad) : umacApFindSta data stad.peerAddr = some (i, stad) := by
  cases hfind : umacApFindSta data stad.peerAddr with
  | none => exact absurd rfl (umacApFindSta_none hfind (h.aid i stad hstad).1 hstad)
  | some found =>
    obtain ⟨j, stad'⟩ := found
    obtain ⟨-, hstad', haddr⟩ := umacApFindSta_spec hfind
    obtain rfl := h.addr j i stad' stad hstad' hstad haddr
    rw [Option.some.inj (hstad'.symm.trans hstad)]

theorem StationsOk.setSta_new (h : StationsOk data) {i : Nat}
    (hi : i < data.maxStas) (haid : stad.aid.toNat = i) (hvacant : data.stas i = none)
    (hnew : umacApFindSta data stad.peerAddr = none) : StationsOk (data.setSta i (some stad)) := by
  obtain ⟨common, hcommon, hzero⟩ := h.common
  have hother : ∀ j stad', data.stas j = some stad' → stad'.peerAddr ≠ stad.peerAddr :=
    fun j stad' hstad' => umacApFindSta_none hnew (h.aid j stad' hstad').1 hstad'
  refine ⟨fun j stad' hstad' => ?_, fun j k stad₁ stad₂ h₁ h₂ haddr => ?_, common, ?_, hzero⟩
  · rw [setSta_stas] at hstad'
    split at hstad'
    · cases hstad'
      exact ⟨‹j = i› ▸ hi, haid.trans ‹j = i›.symm⟩
    · exact h.aid j stad' hstad'
  · rw [setSta_stas] at h₁ h₂
    by_cases hj : j = i <;> by_cases hk : k = i
    · rw [hj, hk]
    · rw [if_pos hj] at h₁
      rw [if_neg hk] at h₂
      cases h₁
      exact absurd haddr.symm (hother k stad₂ h₂)
    · rw [if_neg hj] at h₁
      rw [if_pos hk] at h₂
      cases h₂
      exact absurd haddr (hother j stad₁ h₁)
    · rw [if_neg hj] at h₁
      rw [if_neg hk] at h₂
      exact h.addr j k stad₁ stad₂ h₁ h₂ haddr
  rw [setSta_stas, if_neg ?_]
  · exact hcommon
  · rintro rfl
    cases hvacant.symm.trans hcommon

theorem StationsOk.free (h : StationsOk data) (i : Nat) (stad : UmacApStad) :
    StationsOk (data.free (i + 1) stad) := by
  have hback : ∀ j other, (data.free (i + 1) stad).stas j = some other →
      data.stas j = some other := by
    intro j other hother
    change (data.setSta (i + 1) none).stas j = some other at hother
    rw [setSta_stas] at hother
    split at hother
    · cases hother
    · exact hother
  obtain ⟨common, hcommon, hzero⟩ := h.common
  refine ⟨fun j other hother => h.aid j other (hback j other hother),
    fun j k stad₁ stad₂ h₁ h₂ => h.addr j k stad₁ stad₂ (hback j stad₁ h₁) (hback k stad₂ h₂),
    common, ?_, hzero⟩
  show (data.setSta (i + 1) none).stas 0 = some common
  rw [setSta_stas, if_neg (Nat.succ_ne_zero i).symm]
  exact hcommon

theorem StationsOk.of_stas (h : StationsOk data) (hstas : data'.stas = data.stas)
    (hargs : data'.args = data.args) : StationsOk data' := by
  obtain ⟨args, stas, bitmap, queued, count, calls, freed⟩ := data
  obtain ⟨args', stas', bitmap', queued', count', calls', freed'⟩ := data'
  obtain rfl : stas' = stas := hstas
  obtain rfl : args' = args := hargs
  exact ⟨h.aid, h.addr, h.common⟩

/-! ## Adding -/

/-- The station can be added, as far as the table is concerned. -/
structure HasPlace (data : UmacApData) (aid : U16) (staInfo : UmacApStaInfo) : Prop where
  valid : aidIsValid aid = true
  unicast : mmMacAddrIsMulticast staInfo.macAddr = false
  new : umacApFindSta data staInfo.macAddr = none
  lt : aid.toNat < data.maxStas
  vacant : data.stas aid.toNat = none

/-- The access point with the table of its rate control. -/
structure HostOk (h : ApHost) : Prop where
  stations : StationsOk h.ap
  tables : ∀ i, h.ap.stas i = none → h.rcTable i = false

/-- Nothing is left of a call that failed, in the table, in memory and in the driver. -/
structure LeavesNothing (h h' : ApHost) : Prop where
  stas : h'.ap.stas = h.ap.stas
  driverStas : h'.driverStas = h.driverStas
  rcTable : h'.rcTable = h.rcTable
  lostTables : h'.lostTables = h.lostTables

theorem LeavesNothing.refl (h : ApHost) : LeavesNothing h h := ⟨rfl, rfl, rfl, rfl⟩

variable {h h' : ApHost} {aid : U16} {staInfo : UmacApStaInfo} {env : AddEnv}
  {status : MmwlanStatus}

/-- The access point with the record of the station; rate control may have been started for it. -/
def withStation (h : ApHost) (aid : U16) (staInfo : UmacApStaInfo) (env : AddEnv) : ApHost :=
  { h with
    ap := h.ap.setSta aid.toNat (some (umacApStadInit aid staInfo.macAddr))
    rcTable :=
      if env.negotiates then update h.rcTable aid.toNat true else h.rcTable }

/-- A station without a place is refused; for one that has a place, a record is allocated. -/
theorem addSta_eq (h : ApHost) (aid : U16) (staInfo : UmacApStaInfo) (env : AddEnv) :
    (∃ status, status ≠ .success ∧ h.addSta aid staInfo env = some (h, status)
        ∧ ¬ HasPlace h.ap aid staInfo)
      ∨ HasPlace h.ap aid staInfo ∧ h.addSta aid staInfo env
          = if env.allocated = false ∨ (env.negotiates = true ∧ env.rcAllocated = false) then none
            else
              match (withStation h aid staInfo env).updateSta staInfo env.driverOk with
              | (h, .success) => some (h, .success)
              | (h, status) => (h.deallocSta aid).map fun h => (h, status) := by
  unfold ApHost.addSta
  by_cases hvalid : aidIsValid aid = true
  swap
  · exact .inl ⟨.invalidArgument, nofun, by simp [hvalid], fun hplace => hvalid hplace.valid⟩
  by_cases hmulticast : mmMacAddrIsMulticast staInfo.macAddr = true
  · refine .inl ⟨.invalidArgument, nofun, by simp [hmulticast], fun hplace => ?_⟩
    rw [hplace.unicast] at hmulticast
    cases hmulticast
  have hunicast : mmMacAddrIsMulticast staInfo.macAddr = false := by simpa using hmulticast
  have hlookup : umacApLookupStaByAddr h.ap staInfo.macAddr = umacApFindSta h.ap staInfo.macAddr :=
    if_neg hmulticast
  rw [if_neg (by simp [hvalid, hunicast]), hlookup]
  cases hfind : umacApFindSta h.ap staInfo.macAddr with
  | some found =>
    refine .inl ⟨.unavailable, nofun, rfl, fun hplace => ?_⟩
    cases hplace.new.symm.trans hfind
  | none =>
    dsimp only
    unfold ApHost.allocSta
    by_cases hlt : aid.toNat < h.ap.maxStas
    swap
    · rw [if_pos (Nat.not_lt.mp hlt)]
      exact .inl ⟨.noMem, nofun, rfl, fun hplace => hlt hplace.lt⟩
    rw [if_neg (Nat.not_le.mpr hlt)]
    cases hvacant : h.ap.stas aid.toNat with
    | some stad =>
      refine .inl ⟨.noMem, nofun, rfl, fun hplace => ?_⟩
      cases hplace.vacant.symm.trans hvacant
    | none =>
      refine .inr ⟨⟨hvalid, hunicast, hfind, hlt, hvacant⟩, ?_⟩
      rw [if_neg (by simp)]
      by_cases hallocated : env.allocated = true
      swap
      · rw [if_pos (by simp [hallocated]), if_pos (.inl (by simpa using hallocated))]
        rfl
      rw [if_neg (by simp [hallocated])]
      simp only [Option.bind_some]
      unfold ApHost.rcStart withStation
      by_cases hneg : env.negotiates = true
      swap
      · rw [if_pos (by simp [hneg]), if_neg (by simp [hallocated, hneg]), if_neg hneg]
        rfl
      rw [if_neg (by simp [hneg]), if_pos hneg]
      by_cases hrc : env.rcAllocated = true
      · rw [if_neg (by simp [hrc]), if_neg (by simp [hallocated, hrc])]
        rfl
      · rw [if_pos (by simp [hrc]), if_pos (.inr ⟨hneg, by simpa using hrc⟩)]
        rfl

/-- The record of the station, in the state that the driver is told. -/
def stationStad (aid : U16) (staInfo : UmacApStaInfo) : UmacApStad :=
  { umacApStadInit aid staInfo.macAddr with staState := staInfo.staState }

/-- What programming the driver does to the station that was just added. -/
theorem updateSta_withStation (hok : HostOk h) (hplace : HasPlace h.ap aid staInfo) (env : AddEnv) :
    ∃ h', (withStation h aid staInfo env).updateSta staInfo env.driverOk
        = (h', if env.driverOk then .success else .error)
      ∧ h'.ap.stas = (h.ap.setSta aid.toNat (some (stationStad aid staInfo))).stas
      ∧ h'.ap.args = h.ap.args
      ∧ h'.driverStas =
          (if env.driverOk then mmdrvUpdateStaState h.driverStas aid staInfo else h.driverStas)
      ∧ h'.rcTable = (withStation h aid staInfo env).rcTable ∧ h'.lostTables = h.lostTables := by
  have hadded : StationsOk (withStation h aid staInfo env).ap :=
    hok.stations.setSta_new hplace.lt rfl hplace.vacant hplace.new
  have hlookup : umacApLookupStaByAddr (withStation h aid staInfo env).ap staInfo.macAddr
      = some (aid.toNat, umacApStadInit aid staInfo.macAddr) := by
    unfold umacApLookupStaByAddr
    rw [if_neg (by simp [hplace.unicast])]
    exact hadded.umacApFindSta_eq (UmacApData.setSta_self h.ap aid.toNat _)
  have hstas : ((withStation h aid staInfo env).ap.setSta aid.toNat
      (some (stationStad aid staInfo))).stas
        = (h.ap.setSta aid.toNat (some (stationStad aid staInfo))).stas := by
    show update (update h.ap.stas aid.toNat _) aid.toNat _ = _
    rw [update_idem]
    rfl
  unfold ApHost.updateSta umacApUpdateSta
  rw [hlookup]
  dsimp only
  generalize env.driverOk = driverOk
  cases driverOk with
  | false => exact ⟨_, rfl, hstas, rfl, rfl, rfl, rfl⟩
  | true =>
    rw [if_neg (by simp)]
    split
    · exact ⟨_, rfl, (report_stas _ _).trans hstas, report_args _ _, rfl, rfl, rfl⟩
    · exact ⟨_, rfl, hstas, rfl, rfl, rfl, rfl⟩

/-- A failed call leaves the table of the rate control behind exactly when the driver refuses the
station after it was allocated. -/
def AddsCleanly (h : ApHost) (aid : U16) (staInfo : UmacApStaInfo) (env : AddEnv) : Prop :=
  HasPlace h.ap aid staInfo → env.allocated = true → env.negotiates = true →
    env.rcAllocated = true → env.driverOk = true

theorem withStation_rcTable (h : ApHost) (aid : U16) (staInfo : UmacApStaInfo) (env : AddEnv)
    (i : Nat) : (withStation h aid staInfo env).rcTable i
      = if i = aid.toNat ∧ env.negotiates = true then true else h.rcTable i := by
  unfold withStation
  dsimp only
  by_cases hneg : env.negotiates = true
  · rw [if_pos hneg, update_apply]
    simp [hneg]
  · rw [if_neg hneg, if_neg fun hboth => hneg hboth.2]

/-- A record that is given up leaves its place as it was, but its table of the rate control is
lost. -/
theorem deallocSta_eq {updated : ApHost} (hok : HostOk h) (hplace : HasPlace h.ap aid staInfo)
    (hstas : updated.ap.stas = (h.ap.setSta aid.toNat (some (stationStad aid staInfo))).stas)
    (hargs : updated.ap.args = h.ap.args)
    (hrc : updated.rcTable = (withStation h aid staInfo env).rcTable) :
    ∃ h', updated.deallocSta aid = some h' ∧ h'.ap.stas = h.ap.stas ∧ h'.ap.args = h.ap.args
      ∧ h'.driverStas = updated.driverStas ∧ h'.rcTable = h.rcTable
      ∧ h'.lostTables = updated.lostTables + if env.negotiates then 1 else 0 := by
  have hhere : updated.ap.stas aid.toNat = some (stationStad aid staInfo) := by
    rw [hstas]
    exact UmacApData.setSta_self _ _ _
  have hnoTable := hok.tables aid.toNat hplace.vacant
  have hdealloc : umacApDeallocSta updated.ap aid
      = some (updated.ap.free aid.toNat (stationStad aid staInfo)) := by
    unfold umacApDeallocSta
    rw [hhere, Option.map_some]
  unfold ApHost.deallocSta
  rw [hdealloc, Option.map_some]
  refine ⟨_, rfl, ?_, hargs, rfl, ?_, ?_⟩
  · show update updated.ap.stas aid.toNat none = h.ap.stas
    rw [hstas]
    show update (update h.ap.stas aid.toNat _) aid.toNat none = _
    rw [update_idem, ← hplace.vacant, update_eq_self]
  · funext i
    show update updated.rcTable aid.toNat false i = h.rcTable i
    rw [update_apply, hrc, withStation_rcTable]
    by_cases hi : i = aid.toNat
    · rw [if_pos hi, hi, hnoTable]
    · rw [if_neg hi, if_neg fun hboth => hi hboth.1]
  · show updated.lostTables + _ = _
    rw [hrc, withStation_rcTable, hnoTable]
    simp

theorem addSta_cases (hok : HostOk h) (heq : h.addSta aid staInfo env = some (h', status)) :
    HostOk h' ∧ ((status ≠ .success → LeavesNothing h h') ↔ AddsCleanly h aid staInfo env) := by
  rcases addSta_eq h aid staInfo env with ⟨refused, hrefused, hadd, hnoPlace⟩ | ⟨hplace, hadd⟩
  · obtain ⟨rfl, rfl⟩ := Prod.mk.inj (Option.some.inj (hadd.symm.trans heq))
    exact ⟨hok, fun _ hplace => absurd hplace hnoPlace, fun _ _ => .refl _⟩
  rw [heq] at hadd
  by_cases hmem : env.allocated = false ∨ (env.negotiates = true ∧ env.rcAllocated = false)
  · rw [if_pos hmem] at hadd
    cases hadd
  rw [if_neg hmem] at hadd
  obtain ⟨updated, hupdated, hstas, hargs, hdriver, hrc, hlost⟩ :=
    updateSta_withStation hok hplace env
  rw [hupdated] at hadd
  have hallocated : env.allocated = true := by
    by_contra hnot
    exact hmem (.inl (by simpa using hnot))
  have hrcAllocated : env.negotiates = true → env.rcAllocated = true := by
    intro hneg
    by_contra hnot
    exact hmem (.inr ⟨hneg, by simpa using hnot⟩)
  cases hdriverOk : env.driverOk with
  | true =>
    rw [hdriverOk] at hadd
    cases hadd
    refine ⟨⟨?_, fun i hi => ?_⟩, fun _ _ _ _ _ => hdriverOk,
      fun _ hfailed => absurd rfl hfailed⟩
    · have hadded : StationsOk (h.ap.setSta aid.toNat (some (stationStad aid staInfo))) :=
        hok.stations.setSta_new hplace.lt rfl hplace.vacant hplace.new
      exact hadded.of_stas hstas hargs
    rw [hstas, setSta_stas] at hi
    by_cases hhere : i = aid.toNat
    · rw [if_pos hhere] at hi
      cases hi
    · rw [if_neg hhere] at hi
      rw [hrc, withStation_rcTable, if_neg fun hboth => hhere hboth.1]
      exact hok.tables i hi
  | false =>
    rw [hdriverOk] at hadd hdriver
    obtain ⟨given, hgiven, hstas', hargs', hdriver', hrc', hlost'⟩ :=
      deallocSta_eq hok hplace hstas hargs hrc
    simp only [Bool.false_eq_true, if_false, hgiven, Option.map_some] at hadd
    cases hadd
    refine ⟨⟨hok.stations.of_stas hstas' hargs', fun i hi => ?_⟩, fun hleaves => ?_,
      fun hclean _ => ⟨hstas', hdriver'.trans hdriver, hrc', ?_⟩⟩
    · rw [hrc']
      exact hok.tables i (hstas' ▸ hi)
    · intro _ _ hneg _
      have hsame := (hleaves nofun).lostTables
      rw [hlost', hlost, if_pos hneg] at hsame
      omega
    have hneg : env.negotiates = false := by
      by_contra hnot
      have hneg : env.negotiates = true := by simpa using hnot
      cases hdriverOk.symm.trans (hclean hplace hallocated hneg (hrcAllocated hneg))
    rw [hlost', hlost, hneg]
    rfl

/-! ## Removing -/

theorem removeSta_cases {macAddr : MacAddr} {driverOk : Bool} (hok : HostOk h) :
    ((h.removeSta macAddr driverOk).isSome = true ↔ macAddr ≠ macAddrZero)
      ∧ ∀ h' status, h.removeSta macAddr driverOk = some (h', status) → HostOk h' := by
  unfold ApHost.removeSta umacApRemoveSta
  by_cases hmulticast : mmMacAddrIsMulticast macAddr = true
  · rw [if_pos hmulticast]
    refine ⟨iff_of_true rfl ?_, fun h' status heq => ?_⟩
    · rintro rfl
      exact absurd hmulticast (by decide)
    · simp only [Option.map_some, if_pos hmulticast] at heq
      obtain ⟨rfl, -⟩ := Prod.mk.inj (Option.some.inj heq)
      exact hok
  rw [if_neg hmulticast]
  obtain ⟨common, hcommon, hzero⟩ := hok.stations.common
  have hfindZero : umacApFindSta h.ap macAddrZero = some (0, common) :=
    hzero ▸ hok.stations.umacApFindSta_eq hcommon
  cases hfind : umacApFindSta h.ap macAddr with
  | none =>
    refine ⟨iff_of_true rfl ?_, fun h' status heq => ?_⟩
    · rintro rfl
      cases hfindZero.symm.trans hfind
    · simp only [Option.map_some, if_neg hmulticast] at heq
      obtain ⟨rfl, -⟩ := Prod.mk.inj (Option.some.inj heq)
      exact hok
  | some found =>
    obtain ⟨i, stad⟩ := found
    obtain ⟨-, hstad, haddr⟩ := umacApFindSta_spec hfind
    cases i with
    | zero =>
      refine ⟨iff_of_false (by simp) ?_, fun h' status heq => by cases heq⟩
      obtain rfl := Option.some.inj (hcommon.symm.trans hstad)
      exact not_not.mpr (haddr.symm.trans hzero)
    | succ i =>
      refine ⟨iff_of_true rfl ?_, fun h' status heq => ?_⟩
      · rintro rfl
        cases hfindZero.symm.trans hfind
      simp only [Option.map_some, if_neg hmulticast] at heq
      obtain ⟨rfl, -⟩ := Prod.mk.inj (Option.some.inj heq)
      have hfreed := hok.stations.free i (umacDatapathStadFlushTxq stad)
      refine ⟨?_, fun j hj => ?_⟩
      · dsimp only
        split
        · exact hfreed.of_stas (report_stas _ _) (report_args _ _)
        · exact hfreed
      have hj' : (h.ap.setSta (i + 1) none).stas j = none := by
        dsimp only at hj
        split at hj
        · rwa [report_stas] at hj
        · exact hj
      show update h.rcTable (i + 1) false j = false
      rw [update_apply]
      by_cases hhere : j = i + 1
      · rw [if_pos hhere]
      · rw [if_neg hhere]
        rw [setSta_stas, if_neg hhere] at hj'
        exact hok.tables j hj'

/-! ## Runs -/

/-- The common record is not removed, and nothing is left of a call to add a station that fails. -/
def KeepsHouse (h : ApHost) : ApStaEvent → Prop
  | .addSta aid staInfo env => ∀ h' status, h.addSta aid staInfo env = some (h', status) →
      status ≠ .success → LeavesNothing h h'
  | .removeSta macAddr driverOk => (h.removeSta macAddr driverOk).isSome = true

/-- The driver refuses no station whose record and table of the rate control were allocated, and
the station that is removed is not the one with the address 0. -/
def HouseKept (h : ApHost) : ApStaEvent → Prop
  | .addSta aid staInfo env => AddsCleanly h aid staInfo env
  | .removeSta macAddr _ => macAddr ≠ macAddrZero

theorem hostOk_start (args : MmwlanApArgs) : HostOk (apHostStart args) :=
  ⟨stationsOk_start args, fun _ _ => rfl⟩

theorem HostOk.step {event : ApStaEvent} (hok : HostOk h) (heq : apHostStep h event = some h') :
    HostOk h' := by
  cases event with
  | addSta aid staInfo env =>
    obtain ⟨⟨_, status⟩, hadd, rfl⟩ := Option.map_eq_some_iff.mp heq
    exact (addSta_cases hok hadd).1
  | removeSta macAddr driverOk =>
    obtain ⟨⟨_, status⟩, hremove, rfl⟩ := Option.map_eq_some_iff.mp heq
    exact (removeSta_cases hok).2 _ status hremove

theorem addsCleanly_of_none (hok : HostOk h) (hnone : h.addSta aid staInfo env = none) :
    AddsCleanly h aid staInfo env := by
  intro hplace hallocated hneg hrc
  rcases addSta_eq h aid staInfo env with ⟨_, _, hadd, hnoPlace⟩ | ⟨_, hadd⟩
  · exact absurd hplace hnoPlace
  by_contra hdriver
  have hrefused : env.driverOk = false := by simpa using hdriver
  obtain ⟨updated, hupdated, hstas, hargs, -, hrcTable, -⟩ :=
    updateSta_withStation hok hplace env
  obtain ⟨given, hgiven, -⟩ := deallocSta_eq hok hplace hstas hargs hrcTable
  rw [hnone, if_neg (by simp [hallocated, hrc]), hupdated, hrefused] at hadd
  simp only [Bool.false_eq_true, if_false, hgiven, Option.map_some] at hadd
  cases hadd

theorem keepsHouse_iff {event : ApStaEvent} (hok : HostOk h) :
    KeepsHouse h event ↔ HouseKept h event := by
  cases event with
  | addSta aid staInfo env =>
    cases hadd : h.addSta aid staInfo env with
    | none =>
      refine iff_of_true (fun h' status heq => ?_) (addsCleanly_of_none hok hadd)
      cases hadd.symm.trans heq
    | some answer =>
      show _ ↔ AddsCleanly h aid staInfo env
      rw [← (addSta_cases hok hadd).2]
      constructor
      · exact fun hkeeps => hkeeps answer.1 answer.2 hadd
      · intro hleaves h' status heq
        obtain rfl := Option.some.inj (hadd.symm.trans heq)
        exact hleaves
  | removeSta macAddr driverOk => exact (removeSta_cases hok).1

/-- In every run of a started access point, the table of stations is consistent, the common record
is never removed and a call to add a station that fails leaves nothing behind, if and only if the
driver refuses no station for which rate control was started, and the station 00:00:00:00:00:00 is
never removed. -/
theorem ap_stations_consistent_iff (args : MmwlanApArgs) (events : List ApStaEvent) :
    (Throughout apHostStep (fun h => StationsOk h.ap) (apHostStart args) events
        ∧ Along apHostStep KeepsHouse (apHostStart args) events)
      ↔ Along apHostStep HouseKept (apHostStart args) events := by
  have hok : Throughout apHostStep HostOk (apHostStart args) events :=
    throughout_of_invariant (fun _ _ _ h hs => h.step hs) (hostOk_start args) events
  constructor
  · intro ⟨_, hkeeps⟩
    refine (hkeeps.and (hok.along_of fun _ _ h => h)).mono ?_
    exact fun _ _ h => (keepsHouse_iff h.2).mp h.1
  intro hkept
  refine ⟨hok.mono fun _ h => h.stations, ?_⟩
  refine (hkept.and (hok.along_of fun _ _ h => h)).mono ?_
  exact fun _ _ h => (keepsHouse_iff h.2).mpr h.1

/-- A chip that has the bandwidth of its network. -/
def someRcStart : RcStart := ⟨⟨true, true, true, true, false, false⟩, false, true, 8, 0, 7⟩

/-- The driver refuses the first station. -/
def refusedSta : List ApStaEvent := [.addSta 1 someSta ⟨true, true, someRcStart, false⟩]

/-- The station with the address 0 is removed. -/
def removedZero : List ApStaEvent := [.removeSta macAddrZero true]

/-- The table of the rate control of the station is lost, and the common record is removed. -/
theorem refused_sta_loses_table :
    ¬ (Throughout apHostStep (fun h => StationsOk h.ap) (apHostStart defaultApArgs) refusedSta
        ∧ Along apHostStep KeepsHouse (apHostStart defaultApArgs) refusedSta)
      ∧ ¬ (Throughout apHostStep (fun h => StationsOk h.ap) (apHostStart defaultApArgs) removedZero
        ∧ Along apHostStep KeepsHouse (apHostStart defaultApArgs) removedZero) := by
  constructor
  · intro ⟨_, hkeeps⟩
    have hlost := (hkeeps.1 _ .error rfl nofun).lostTables
    exact absurd hlost (by decide)
  intro ⟨_, hkeeps⟩
  have hremoved : ((apHostStart defaultApArgs).removeSta macAddrZero true).isSome = true :=
    hkeeps.1
  exact absurd hremoved (by decide)

end MmIotEsp32.Umac.Ap
