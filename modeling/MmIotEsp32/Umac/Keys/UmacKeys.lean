/-
  MmIotEsp32.Umac.Keys.UmacKeys

  Keys of a STA record and keys of the chip (`umac/keys/umac_keys.c`).
-/
import MmIotEsp32.Umac.Keys.Keychain

namespace MmIotEsp32.Umac.Keys

open Lib Function

/-! ## The two copies -/

structure MmdrvKeyConf where
  isPairwise : Bool
  keyIdx : U8
  length : Nat
  txPn : U64
  key : Fin umacConnectionKeyMaxLen → U8

/-- A call into the driver.  All of them succeed here. -/
inductive MmdrvKeyCall where
  | installKey (conf : MmdrvKeyConf)
  | disableKey (hwKeyIdx : U8) (isPairwise : Bool)

def MmdrvKeyCall.keyIdx : MmdrvKeyCall → U8
  | .installKey conf => conf.keyIdx
  | .disableKey hwKeyIdx _ => hwKeyIdx

/-- The keychain of a STA record and the calls made to the driver, latest first. -/
structure UmacKeys where
  keys : ConnectionKeysData
  calls : List MmdrvKeyCall

/-- The types the chip knows. -/
def UmacKeyType.isHw (t : UmacKeyType) : Bool := t == .pairwise || t == .group

/-- `umac_keys_init`, before any call to the driver. -/
def umacKeysInit : UmacKeys := ⟨connectionKeysInit, []⟩

def umacKeysMmdrvInstallKey (calls : List MmdrvKeyCall) (key : UmacKey) : List MmdrvKeyCall :=
  if key.keyType.isHw then
    .installKey
      { isPairwise := key.keyType == .pairwise
        keyIdx := key.keyId
        length := key.keyLen
        txPn := key.txSeq
        key := fun i => if i.val < key.keyLen then key.keyData i else 0 } :: calls
  else calls

/-- `umac_keys_install_key`, with whether it returns `MMWLAN_SUCCESS`. -/
def umacKeysInstallKey (w : UmacKeys) (key : UmacKey) : UmacKeys × Bool :=
  match connectionKeysInstallKey w.keys key with
  | (_, false) => (w, false)
  | (keys, true) => (⟨keys, umacKeysMmdrvInstallKey w.calls key⟩, true)

/-- `umac_keys_uninstall_key`; `none` is the assertion of `connection_keys_get_key_type`. -/
def umacKeysUninstallKey (w : UmacKeys) (keyId : U8) : Option UmacKeys :=
  match connectionKeysUninstallKey w.keys keyId with
  | (_, false) => some w
  | (keys, true) =>
    (connectionKeysGetKeyType keys keyId).map fun keyType =>
      ⟨keys, if keyType.isHw then .disableKey keyId (keyType == .pairwise) :: w.calls
        else w.calls⟩

/-! ## Agreement -/

/-- `mmdrv_install_key`, rather than `mmdrv_disable_key`, was called last for the id. -/
def chipHolds (calls : List MmdrvKeyCall) (keyId : U8) : Bool :=
  match calls.find? fun c => c.keyIdx = keyId with
  | some (.installKey _) => true
  | _ => false

/-- The key id is installed in the keychain with a type the chip knows. -/
def InstalledHw (keys : ConnectionKeysData) (keyId : U8) : Prop :=
  ∃ slot key, keySlot? keyId = some slot ∧ installedKey keys slot = some key
    ∧ key.keyType.isHw = true

/-- Keychain and chip hold the same key ids. -/
def KeysInStep (w : UmacKeys) : Prop := ∀ keyId, chipHolds w.calls keyId = true ↔ InstalledHw w.keys keyId

theorem chipHolds_cons_installKey (conf : MmdrvKeyConf) (calls : List MmdrvKeyCall) (keyId : U8) :
    chipHolds (.installKey conf :: calls) keyId
      = (chipHolds calls keyId || decide (keyId = conf.keyIdx)) := by
  unfold chipHolds
  by_cases h : keyId = conf.keyIdx
  · rw [List.find?_cons_of_pos (by simp [MmdrvKeyCall.keyIdx, h]), decide_eq_true h, Bool.or_true]
  · rw [List.find?_cons_of_neg (by simp [MmdrvKeyCall.keyIdx, Ne.symm h]),
      decide_eq_false h, Bool.or_false]

theorem installedHw_store {data : ConnectionKeysData} {slot : KeySlot} {p : PoolIdx}
    {key : UmacKey} (hok : SlotsOk data) (hw : Writable data slot p)
    (hs : keySlot? key.keyId = some slot) (keyId : U8) :
    InstalledHw (connectionKeysStore data slot p key) keyId
      ↔ if keyId = key.keyId then key.keyType.isHw = true else InstalledHw data keyId := by
  unfold InstalledHw
  split
  · rename_i heq
    rw [heq, hs]
    constructor
    · intro ⟨slot', key', hslot, hkey, hhw⟩
      cases hslot
      rw [installedKey_store hok hw, if_pos rfl] at hkey
      cases hkey
      exact hhw
    · intro hhw
      exact ⟨slot, (data.pool p).install key, rfl,
        by rw [installedKey_store hok hw, if_pos rfl], hhw⟩
  rename_i hne
  -- another id lies in another slot
  have hother : ∀ slot', keySlot? keyId = some slot' → slot' ≠ slot := by
    rintro slot' hs' rfl
    exact hne (BitVec.eq_of_toNat_eq
      ((keySlot?_eq_some.mp hs').trans (keySlot?_eq_some.mp hs).symm))
  constructor
  · intro ⟨slot', key', hslot, hkey, hhw⟩
    rw [installedKey_store hok hw, if_neg (hother slot' hslot)] at hkey
    exact ⟨slot', key', hslot, hkey, hhw⟩
  intro ⟨slot', key', hslot, hkey, hhw⟩
  refine ⟨slot', key', hslot, ?_, hhw⟩
  rw [installedKey_store hok hw, if_neg (hother slot' hslot)]
  exact hkey

theorem installedHw_free {data : ConnectionKeysData} {slot : KeySlot} {p : PoolIdx} {id : U8}
    (hok : SlotsOk data) (hk : data.keys slot = some p) (hs : keySlot? id = some slot)
    (keyId : U8) :
    InstalledHw (connectionKeysFree data slot p) keyId ↔ keyId ≠ id ∧ InstalledHw data keyId := by
  unfold InstalledHw
  constructor
  · intro ⟨slot', key', hslot, hkey, hhw⟩
    rw [installedKey_free hok hk] at hkey
    split at hkey
    · exact absurd hkey (by simp)
    rename_i hne
    refine ⟨?_, slot', key', hslot, hkey, hhw⟩
    rintro rfl
    exact hne (Option.some.inj (hslot.symm.trans hs))
  intro ⟨hne, slot', key', hslot, hkey, hhw⟩
  refine ⟨slot', key', hslot, ?_, hhw⟩
  have hother : slot' ≠ slot := by
    rintro rfl
    exact hne (BitVec.eq_of_toNat_eq
      ((keySlot?_eq_some.mp hslot).trans (keySlot?_eq_some.mp hs).symm))
  rw [installedKey_free hok hk, if_neg hother]
  exact hkey

/-! ## Histories of calls -/

def umacKeysStep (w : UmacKeys) : KeychainOp → Option UmacKeys
  | .install key => some (umacKeysInstallKey w key).1
  | .uninstall keyId => umacKeysUninstallKey w keyId

/-- The condition under which a call keeps keychain and chip in step: it neither
removes nor replaces by an IGTK a key that the chip holds. -/
def UmacKeysOpOk (w : UmacKeys) : KeychainOp → Prop
  | .install key =>
    umacKeysKeyParamsAreValid key = true → key.keyType = .igtk → ¬ InstalledHw w.keys key.keyId
  | .uninstall keyId => ¬ InstalledHw w.keys keyId

theorem umacKeysUninstallKey_eq (w : UmacKeys) (keyId : U8) :
    umacKeysUninstallKey w keyId
      = some { w with keys := (connectionKeysUninstallKey w.keys keyId).1 } := by
  unfold umacKeysUninstallKey
  rcases connectionKeysUninstallKey_cases w.keys keyId with ⟨slot, p, hs, _, heq⟩ | ⟨_, heq⟩
  · have hfreed : installedKey (connectionKeysFree w.keys slot p) slot = none := by
      simp only [installedKey, connectionKeysFree, update_self, Option.map_none]
    rw [heq]
    dsimp only
    rw [connectionKeysGetKeyType, hs, Option.map_some, hfreed]
    rfl
  · rw [heq]

theorem umacKeysInstallKey_eq (w : UmacKeys) (key : UmacKey) :
    (umacKeysInstallKey w key).1
      = ⟨(connectionKeysInstallKey w.keys key).1,
          if (connectionKeysInstallKey w.keys key).2 then umacKeysMmdrvInstallKey w.calls key
          else w.calls⟩ := by
  unfold umacKeysInstallKey
  rcases connectionKeysInstallKey_cases w.keys key with ⟨slot, p, _, _, _, heq⟩ | ⟨_, heq⟩
  · rw [heq]
    rfl
  · rw [heq]
    rfl

theorem umacKeysStep_slotsOk {w w' : UmacKeys} {op : KeychainOp} (hok : SlotsOk w.keys)
    (h : umacKeysStep w op = some w') : SlotsOk w'.keys := by
  cases op with
  | install key =>
    cases h
    rw [umacKeysInstallKey_eq]
    exact keychainStep_slotsOk hok (show keychainStep w.keys (.install key) = some _ from rfl)
  | uninstall keyId =>
    rw [umacKeysStep, umacKeysUninstallKey_eq] at h
    cases h
    exact keychainStep_slotsOk hok (show keychainStep w.keys (.uninstall keyId) = some _ from rfl)

theorem chipHolds_mmdrvInstallKey (calls : List MmdrvKeyCall) (key : UmacKey) (keyId : U8) :
    chipHolds (umacKeysMmdrvInstallKey calls key) keyId
      = (chipHolds calls keyId || (decide (keyId = key.keyId) && key.keyType.isHw)) := by
  unfold umacKeysMmdrvInstallKey
  split
  · rename_i hhw
    rw [chipHolds_cons_installKey, hhw, Bool.and_true]
  · rename_i hhw
    simp [hhw]

theorem umacKeysStep_inStep_iff (w : UmacKeys) (op : KeychainOp) (hok : SlotsOk w.keys)
    (hin : KeysInStep w) :
    ∃ w', umacKeysStep w op = some w' ∧ (KeysInStep w' ↔ UmacKeysOpOk w op) := by
  cases op with
  | install key =>
    refine ⟨_, rfl, ?_⟩
    rw [umacKeysInstallKey_eq]
    rcases connectionKeysInstallKey_cases w.keys key with
      ⟨slot, p, hv, hs, hw, heq⟩ | ⟨hempty, heq⟩
    · rw [heq]
      simp only [KeysInStep, UmacKeysOpOk, if_true, chipHolds_mmdrvInstallKey,
        installedHw_store hok hw hs]
      constructor
      · intro h _ htype hhw
        have hid := h key.keyId
        rw [(hin key.keyId).mpr hhw, Bool.true_or, if_pos rfl, htype] at hid
        exact absurd (hid.mp rfl) (by decide)
      intro hcond keyId
      by_cases hid : keyId = key.keyId
      · rw [if_pos hid, decide_eq_true hid, Bool.true_and, Bool.or_eq_true, hin]
        refine ⟨fun h => ?_, Or.inr⟩
        rcases h with hinst | hhw
        · -- an installed key of the chip is only ever replaced by one of its types
          have hnigtk : key.keyType ≠ .igtk := fun ht => hcond hv ht (hid ▸ hinst)
          have hnblank := keyType_ne_blank_of_valid hv
          revert hnigtk hnblank
          cases key.keyType <;> simp [UmacKeyType.isHw]
        · exact hhw
      · rw [if_neg hid, decide_eq_false hid, Bool.false_and, Bool.or_false]
        exact hin keyId
    rw [heq]
    refine ⟨fun _ hv _ hinst => ?_, fun _ => hin⟩
    obtain ⟨slot, old, hs, hold, _⟩ := hinst
    rw [installedKey, hempty hv slot hs] at hold
    exact absurd hold (by simp)
  | uninstall keyId =>
    refine ⟨_, umacKeysUninstallKey_eq w keyId, ?_⟩
    rcases connectionKeysUninstallKey_cases w.keys keyId with ⟨slot, p, hs, hk, heq⟩ | ⟨hempty, heq⟩
    · rw [heq]
      simp only [KeysInStep, UmacKeysOpOk, installedHw_free hok hk hs, hin _]
      constructor
      · exact fun h hinst => ((h keyId).mp hinst).1 rfl
      intro hcond id
      refine ⟨fun h => ⟨?_, h⟩, fun h => h.2⟩
      rintro rfl
      exact hcond h
    rw [heq]
    refine ⟨fun _ hinst => ?_, fun _ => hin⟩
    obtain ⟨slot, old, hs, hold, _⟩ := hinst
    rw [installedKey, hempty slot hs] at hold
    exact absurd hold (by simp)

/-- Keychain and chip hold the same key ids throughout a history of calls exactly when
no call removes, or replaces by an IGTK, a key that the chip holds. -/
theorem keys_in_step_iff (ops : List KeychainOp) :
    Throughout umacKeysStep KeysInStep umacKeysInit ops
      ↔ Along umacKeysStep UmacKeysOpOk umacKeysInit ops := by
  refine throughout_iff_along (J := fun w => SlotsOk w.keys)
    (fun w op w' hok h => umacKeysStep_slotsOk hok h)
    (fun w op hok hin => umacKeysStep_inStep_iff w op hok hin) ?_
    connectionKeysInit_inv.toSlotsOk ops
  intro keyId
  refine ⟨fun h => absurd h (by simp [chipHolds, umacKeysInit]), ?_⟩
  intro ⟨slot, key, _, hkey, _⟩
  exact absurd hkey (by simp [installedKey, umacKeysInit, connectionKeysInit])

/-- A pairwise key that was installed and removed stays in the chip. -/
theorem keys_out_of_step_after_uninstall :
    ¬ Throughout umacKeysStep KeysInStep umacKeysInit
      [.install (bareKey 0 .pairwise), .uninstall 0] := by
  intro h
  obtain ⟨_, h⟩ := h
  obtain ⟨_, h⟩ := h _ rfl
  have hchip := ((h _ rfl) 0).mp (by decide)
  obtain ⟨slot, key, hslot, hkey, _⟩ := hchip
  cases hslot
  cases hkey

/-! ## The operations -/

/-- `connection_keys_increment_tx_seq`; `none` is its assertion on the key id. -/
def connectionKeysIncrementTxSeq (data : ConnectionKeysData) (keyId : U8) :
    Option ConnectionKeysData :=
  (keySlot? keyId).map fun slot =>
    match data.keys slot with
    | none => data
    | some p =>
      { data with
        pool := update data.pool p
          { data.pool p with txSeq := (data.pool p).txSeq + 1 } }

/-- The loop of `umac_keys_reinstall_keys`, which stops at the first key that the driver
does not take. -/
def reinstallLoop (driverOk : KeySlot → Bool) (keys : ConnectionKeysData) :
    List KeySlot → List MmdrvKeyCall → List MmdrvKeyCall
  | [], calls => calls
  | slot :: rest, calls =>
    match installedKey keys slot with
    | none => reinstallLoop driverOk keys rest calls
    | some key =>
      if key.keyType.isHw && !driverOk slot then umacKeysMmdrvInstallKey calls key
      else reinstallLoop driverOk keys rest (umacKeysMmdrvInstallKey calls key)

def umacKeysReinstallKeys (driverOk : KeySlot → Bool) (w : UmacKeys) : UmacKeys :=
  { w with calls := reinstallLoop driverOk w.keys (List.finRange umacKeysNumKeyIds) w.calls }

/-! ## What they keep -/

variable {data data' : ConnectionKeysData}

theorem connectionKeysIncrementTxSeq_cases {keyId : U8}
    (h : connectionKeysIncrementTxSeq data keyId = some data') : ∃ slot, keySlot? keyId = some slot
      ∧ (data.keys slot = none ∧ data' = data ∨ ∃ p, data.keys slot = some p ∧ data' = { data with
              pool := update data.pool p
                { data.pool p with txSeq := (data.pool p).txSeq + 1 } }) := by
  obtain ⟨slot, hslot, hdata⟩ := Option.map_eq_some_iff.mp h
  refine ⟨slot, hslot, ?_⟩
  cases hkey : data.keys slot with
  | none =>
    rw [hkey] at hdata
    exact Or.inl ⟨rfl, hdata.symm⟩
  | some p =>
    rw [hkey] at hdata
    exact Or.inr ⟨p, rfl, hdata.symm⟩

theorem connectionKeysIncrementTxSeq_slotsOk {keyId : U8}
    (hok : SlotsOk data) (h : connectionKeysIncrementTxSeq data keyId = some data') :
    SlotsOk data' := by
  obtain ⟨slot, -, ⟨-, rfl⟩ | ⟨p, -, rfl⟩⟩ := connectionKeysIncrementTxSeq_cases h
  · exact hok
  have hsame : ∀ q, (update data.pool p
        { data.pool p with txSeq := (data.pool p).txSeq + 1 } q).keyType = (data.pool q).keyType
      ∧ (update data.pool p
        { data.pool p with txSeq := (data.pool p).txSeq + 1 } q).keyId = (data.pool q).keyId := by
    intro q
    rw [update_apply]
    split
    · next hq => rw [hq]; exact ⟨rfl, rfl⟩
    · exact ⟨rfl, rfl⟩
  refine ⟨fun slot' q hq => ?_, hok.inj, fun q hq => ?_⟩
  · obtain ⟨htype, hid⟩ := hok.entry slot' q hq
    exact ⟨by rw [(hsame q).1]; exact htype, by rw [(hsame q).2]; exact hid⟩
  · rw [(hsame q).1] at hq
    exact hok.owned q hq

theorem installedKey_increment {keyId : U8} {slot : KeySlot}
    (hok : SlotsOk data) (hslot : keySlot? keyId = some slot)
    (h : connectionKeysIncrementTxSeq data keyId = some data') (slot' : KeySlot) :
    installedKey data' slot' = if slot' = slot then
          (installedKey data slot).map fun key => { key with txSeq := key.txSeq + 1 }
        else installedKey data slot' := by
  obtain ⟨slot'', hslot'', hcases⟩ := connectionKeysIncrementTxSeq_cases h
  obtain rfl : slot = slot'' := Option.some.inj (hslot.symm.trans hslot'')
  rcases hcases with ⟨hnone, rfl⟩ | ⟨p, hp, rfl⟩
  · split
    · next hsame =>
        unfold installedKey
        rw [hsame, hnone]
        rfl
    · rfl
  unfold installedKey
  split
  · next hsame =>
      rw [hsame, hp, Option.map_some, Option.map_some, Option.map_some]
      dsimp only
      rw [update_self]
  next hother =>
    dsimp only
    cases hq : data.keys slot' with
    | none => rfl
    | some q =>
      have hne : q ≠ p := fun hqp => hother (hok.inj slot' slot p (hqp ▸ hq) hp)
      rw [Option.map_some, Option.map_some, update_of_ne hne]

theorem mem_reinstallLoop {driverOk : KeySlot → Bool} {keys : ConnectionKeysData}
    {slots : List KeySlot} {calls : List MmdrvKeyCall} :
    ∃ made, reinstallLoop driverOk keys slots calls = made ++ calls
      ∧ ∀ call ∈ made, ∃ slot key, installedKey keys slot = some key
        ∧ call ∈ umacKeysMmdrvInstallKey [] key := by
  have hone : ∀ (key : UmacKey) (calls : List MmdrvKeyCall),
      umacKeysMmdrvInstallKey calls key = umacKeysMmdrvInstallKey [] key ++ calls := by
    intro key calls
    unfold umacKeysMmdrvInstallKey
    split <;> rfl
  induction slots generalizing calls with
  | nil => exact ⟨[], rfl, fun _ h => absurd h List.not_mem_nil⟩
  | cons slot rest ih =>
    unfold reinstallLoop
    cases hkey : installedKey keys slot with
    | none => exact ih
    | some key =>
      have hfirst : ∀ call ∈ umacKeysMmdrvInstallKey [] key, ∃ slot key,
          installedKey keys slot = some key ∧ call ∈ umacKeysMmdrvInstallKey [] key :=
        fun call hcall => ⟨slot, key, hkey, hcall⟩
      dsimp only
      split
      · exact ⟨_, hone key calls, hfirst⟩
      obtain ⟨made, hmade, hcalls⟩ := @ih (umacKeysMmdrvInstallKey calls key)
      refine ⟨made ++ umacKeysMmdrvInstallKey [] key, ?_, fun call hcall => ?_⟩
      · rw [hmade, hone key calls, List.append_assoc]
      · rcases List.mem_append.mp hcall with hcall | hcall
        · exact hcalls call hcall
        · exact hfirst call hcall

theorem mem_mmdrvInstallKey {key : UmacKey} {call : MmdrvKeyCall}
    (h : call ∈ umacKeysMmdrvInstallKey [] key) :
    ∃ conf, call = .installKey conf ∧ conf.keyIdx = key.keyId ∧ conf.txPn = key.txSeq := by
  unfold umacKeysMmdrvInstallKey at h
  split at h
  · exact ⟨_, List.mem_singleton.mp h, rfl, rfl⟩
  · cases h

end MmIotEsp32.Umac.Keys
