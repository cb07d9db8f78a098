/-
  MmIotEsp32.Umac.Interface.UmacInterface

  Adding and removing interfaces (`umac/interface/umac_interface.c`).
-/
import Mathlib.Data.Finset.Basic

namespace MmIotEsp32.Umac.Interface

/-! ## Data model -/

inductive UmacInterfaceType where
  | none
  | scan
  | sta
  | ap
  deriving Repr, DecidableEq

/-- `enum mmwlan_status`, as `umac_interface_add` returns it. -/
inductive MmwlanStatus where
  | success
  | error
  | unavailable
  | channelListNotSet
  deriving Repr, DecidableEq

/-- The calls that start and stop the driver. -/
inductive MmdrvCall where
  /-- an `mmdrv_init` that succeeds -/
  | init
  | deinit
  deriving Repr, DecidableEq

/-- What the driver and the configuration answer.  The other calls of the driver are asserted to
succeed. -/
structure DriverEnv where
  channelListSet : Bool
  /-- `mmdrv_init` -/
  initOk : Bool
  /-- `mmdrv_rm_if` -/
  rmIfOk : Bool
  deriving Repr, DecidableEq

structure UmacInterfaceData where
  activeInterfaceTypes : Finset UmacInterfaceType
  inactiveCallback : Option Nat
  /-- The number of registrations so far. -/
  registered : Nat
  /-- The calls of the inactive callback, with the types that were active. -/
  invoked : List (Nat × Finset UmacInterfaceType)
  mmdrv : List MmdrvCall
  deriving DecidableEq

def umacInterfaceInit : UmacInterfaceData := ⟨∅, .none, 0, [], []⟩

/-! ## The functions -/

def umacInterfaceTypeIsCompatibleWithActive (data : UmacInterfaceData)
    (type : UmacInterfaceType) : Bool :=
  let staActive := .sta ∈ data.activeInterfaceTypes ∨ .scan ∈ data.activeInterfaceTypes
  if staActive ∧ type = .ap then false
  else if .ap ∈ data.activeInterfaceTypes ∧ (type = .sta ∨ type = .scan) then false
  else true

def umacInterfaceAdd (env : DriverEnv) (data : UmacInterfaceData) (type : UmacInterfaceType) :
    MmwlanStatus × UmacInterfaceData :=
  if !umacInterfaceTypeIsCompatibleWithActive data type then (.unavailable, data)
  else if data.activeInterfaceTypes = ∅ then
    if !env.channelListSet then (.channelListNotSet, data)
    else if !env.initOk then (.error, data)
    else
      (.success, { data with
        mmdrv := .init :: data.mmdrv
        activeInterfaceTypes := insert type data.activeInterfaceTypes })
  -- the VIF may be removed and added again as another type
  else
    (.success, { data with activeInterfaceTypes := insert type data.activeInterfaceTypes })

def umacInterfaceExecuteInactiveCb (data : UmacInterfaceData) : UmacInterfaceData :=
  match data.inactiveCallback with
  | .none => data
  | some n =>
    { data with
      invoked := (n, data.activeInterfaceTypes) :: data.invoked
      inactiveCallback := .none }

/-- `umac_interface_remove`; `none` is its assertion that the driver removes the VIF, which is
not made while a shutdown is in progress. -/
def umacInterfaceRemove (env : DriverEnv) (shutdownInProgress : Bool) (data : UmacInterfaceData)
    (type : UmacInterfaceType) : Option UmacInterfaceData :=
  if type ∉ data.activeInterfaceTypes then some (umacInterfaceExecuteInactiveCb data)
  else
    let data := { data with activeInterfaceTypes := data.activeInterfaceTypes.erase type }
    if data.activeInterfaceTypes = ∅ then
      if !env.rmIfOk && !shutdownInProgress then .none
      else
        let data := umacInterfaceExecuteInactiveCb { data with mmdrv := .deinit :: data.mmdrv }
        -- the data is cleared
        some { data with inactiveCallback := .none }
    else some data

def umacInterfaceRegisterInactiveCb (data : UmacInterfaceData) : UmacInterfaceData :=
  { data with inactiveCallback := some data.registered, registered := data.registered + 1 }

/-! ## The callback -/

/-- Removing the type calls no callback while an interface is active. -/
def RemovesLast (data : UmacInterfaceData) (type : UmacInterfaceType) : Prop :=
  type ∈ data.activeInterfaceTypes ∨ data.activeInterfaceTypes = ∅
    ∨ data.inactiveCallback = .none

instance (data : UmacInterfaceData) (type : UmacInterfaceType) :
    Decidable (RemovesLast data type) :=
  inferInstanceAs (Decidable (_ ∨ _))

/-- Every registered callback was called at most once, and with no interface active; the driver is
stopped when none is. -/
structure InterfaceWf (data : UmacInterfaceData) : Prop where
  once : (data.invoked.map Prod.fst).Nodup
  inactive : ∀ call ∈ data.invoked, call.2 = ∅
  old : ∀ call ∈ data.invoked, call.1 < data.registered
  waiting : ∀ n, data.inactiveCallback = some n →
    n < data.registered ∧ n ∉ data.invoked.map Prod.fst
  stopped : data.activeInterfaceTypes = ∅ → data.mmdrv.head? ≠ some .init

theorem umacInterfaceInit_wf : InterfaceWf umacInterfaceInit where
  once := List.nodup_nil
  inactive := fun _ h => absurd h List.not_mem_nil
  old := fun _ h => absurd h List.not_mem_nil
  waiting := fun _ h => by cases h
  stopped := fun _ h => by cases h

variable {data : UmacInterfaceData}

theorem umacInterfaceRegisterInactiveCb_wf (hd : InterfaceWf data) :
    InterfaceWf (umacInterfaceRegisterInactiveCb data) where
  once := hd.once
  inactive := hd.inactive
  old := fun call h => Nat.lt_succ_of_lt (hd.old call h)
  waiting := by
    intro n h
    cases h
    refine ⟨Nat.lt_succ_self _, fun hmem => ?_⟩
    obtain ⟨call, hcall, hn⟩ := List.mem_map.mp hmem
    exact absurd (hd.old call hcall) (by rw [hn]; exact Nat.lt_irrefl _)
  stopped := hd.stopped

theorem umacInterfaceExecuteInactiveCb_wf (hd : InterfaceWf data)
    (h : data.activeInterfaceTypes = ∅ ∨ data.inactiveCallback = .none) :
    InterfaceWf (umacInterfaceExecuteInactiveCb data) := by
  unfold umacInterfaceExecuteInactiveCb
  split
  · exact hd
  next n hn =>
    have hnone : data.activeInterfaceTypes = ∅ := h.resolve_right (by rw [hn]; nofun)
    obtain ⟨hlt, hnew⟩ := hd.waiting n hn
    refine ⟨List.nodup_cons.mpr ⟨hnew, hd.once⟩, ?_, ?_, nofun, hd.stopped⟩
    · exact List.forall_mem_cons.mpr ⟨hnone, hd.inactive⟩
    · exact List.forall_mem_cons.mpr ⟨hlt, hd.old⟩

theorem umacInterfaceExecuteInactiveCb_active (data : UmacInterfaceData) :
    (umacInterfaceExecuteInactiveCb data).activeInterfaceTypes = data.activeInterfaceTypes := by
  unfold umacInterfaceExecuteInactiveCb
  split <;> rfl

/-! ## What adding and removing does -/

theorem umacInterfaceAdd_cases (env : DriverEnv) (data : UmacInterfaceData)
    (type : UmacInterfaceType) :
    ((umacInterfaceAdd env data type).1 ≠ .success ∧ (umacInterfaceAdd env data type).2 = data)
      ∨ ∃ mmdrv, umacInterfaceAdd env data type = (.success, { data with
          mmdrv := mmdrv, activeInterfaceTypes := insert type data.activeInterfaceTypes }) := by
  unfold umacInterfaceAdd
  split
  · exact Or.inl ⟨nofun, rfl⟩
  split
  · split
    · exact Or.inl ⟨nofun, rfl⟩
    · split
      · exact Or.inl ⟨nofun, rfl⟩
      · exact Or.inr ⟨_, rfl⟩
  · exact Or.inr ⟨data.mmdrv, rfl⟩

theorem umacInterfaceAdd_wf (hd : InterfaceWf data) (env : DriverEnv)
    (type : UmacInterfaceType) : InterfaceWf (umacInterfaceAdd env data type).2 := by
  obtain ⟨-, hsame⟩ | ⟨mmdrv, hadded⟩ := umacInterfaceAdd_cases env data type
  · rw [hsame]
    exact hd
  · rw [hadded]
    exact ⟨hd.once, hd.inactive, hd.old, hd.waiting,
      fun hnone => absurd hnone (Finset.insert_ne_empty _ _)⟩

variable {type : UmacInterfaceType} {env : DriverEnv}

theorem umacInterfaceAdd_mem (h : (umacInterfaceAdd env data type).1 = .success) :
    type ∈ (umacInterfaceAdd env data type).2.activeInterfaceTypes := by
  obtain ⟨hfail, -⟩ | ⟨mmdrv, hadded⟩ := umacInterfaceAdd_cases env data type
  · exact absurd h hfail
  · rw [hadded]
    exact Finset.mem_insert_self _ _

theorem umacInterfaceAdd_of_empty (type : UmacInterfaceType) (hnone : data.activeInterfaceTypes = ∅)
    (hboot : ¬ (env.channelListSet = true ∧ env.initOk = true)) :
    (umacInterfaceAdd env data type).2 = data := by
  have hcompatible : umacInterfaceTypeIsCompatibleWithActive data type = true := by
    unfold umacInterfaceTypeIsCompatibleWithActive
    rw [hnone]
    simp
  unfold umacInterfaceAdd
  rw [hcompatible, if_neg (by decide), if_pos hnone]
  split
  · rfl
  · next hlist =>
      rw [if_pos]
      simpa [show env.channelListSet = true by simpa using hlist] using hboot

theorem umacInterfaceAdd_erase (hnone : data.activeInterfaceTypes = ∅) :
    (umacInterfaceAdd env data type).2.activeInterfaceTypes.erase type = ∅ := by
  obtain ⟨-, hsame⟩ | ⟨mmdrv, hadded⟩ := umacInterfaceAdd_cases env data type
  · rw [hsame, hnone]
    rfl
  · rw [hadded]
    show (insert type data.activeInterfaceTypes).erase type = ∅
    rw [hnone, Finset.erase_insert (Finset.notMem_empty _)]

variable {data data' : UmacInterfaceData} {shutdownInProgress : Bool}

theorem umacInterfaceRemove_wf (hd : InterfaceWf data) (hlast : RemovesLast data type)
    (h : umacInterfaceRemove env shutdownInProgress data type = some data') :
    InterfaceWf data' := by
  unfold umacInterfaceRemove at h
  split at h
  · next hnot =>
      cases h
      exact umacInterfaceExecuteInactiveCb_wf hd (hlast.resolve_left hnot)
  dsimp only at h
  split at h
  · next hnone =>
      split at h
      · cases h
      cases h
      have hstopped : InterfaceWf { data with
          activeInterfaceTypes := data.activeInterfaceTypes.erase type
          mmdrv := .deinit :: data.mmdrv } :=
        ⟨hd.once, hd.inactive, hd.old, hd.waiting, nofun⟩
      have hcalled := umacInterfaceExecuteInactiveCb_wf hstopped (Or.inl hnone)
      exact ⟨hcalled.once, hcalled.inactive, hcalled.old, nofun, hcalled.stopped⟩
  · next hsome =>
      cases h
      exact ⟨hd.once, hd.inactive, hd.old, hd.waiting, fun hnone => absurd hnone hsome⟩

theorem umacInterfaceRemove_active
    (h : umacInterfaceRemove env shutdownInProgress data type = some data') :
    data'.activeInterfaceTypes = data.activeInterfaceTypes.erase type := by
  unfold umacInterfaceRemove at h
  split at h
  · next hnot =>
      cases h
      rw [umacInterfaceExecuteInactiveCb_active, Finset.erase_eq_of_notMem hnot]
  dsimp only at h
  split at h
  · split at h
    · cases h
    · cases h
      exact umacInterfaceExecuteInactiveCb_active _
  · cases h
    rfl

theorem umacInterfaceRemove_invoked (hlast : RemovesLast data type)
    (h : umacInterfaceRemove env shutdownInProgress data type = some data') :
    data'.invoked = data.invoked ∨ data'.activeInterfaceTypes = ∅ := by
  have hactive := umacInterfaceRemove_active h
  unfold umacInterfaceRemove at h
  split at h
  · next hnot =>
      obtain hnone | hfree := hlast.resolve_left hnot
      · refine Or.inr (hactive.trans ?_)
        rw [hnone]
        rfl
      cases h
      left
      unfold umacInterfaceExecuteInactiveCb
      rw [hfree]
  dsimp only at h
  split at h
  · next hnone => exact Or.inr (hactive.trans hnone)
  · cases h
    exact Or.inl rfl

theorem umacInterfaceRemove_free
    (h : umacInterfaceRemove env shutdownInProgress data type = some data')
    (hfree : data.inactiveCallback = .none) : data'.inactiveCallback = .none := by
  unfold umacInterfaceRemove at h
  split at h
  · cases h
    unfold umacInterfaceExecuteInactiveCb
    rw [hfree]
    exact hfree
  dsimp only at h
  split at h
  · split at h
    · cases h
    · cases h
      rfl
  · cases h
    exact hfree

end MmIotEsp32.Umac.Interface
