/-
  MmIotEsp32.Umac.Keys.Keychain

  The representation invariant of the keychain, over any history of
  installations and removals, and the keychain as a table from key ids to keys.
-/
import Mathlib.Data.Fintype.EquivFin
import MmIotEsp32.Umac.Keys.ConnectionKeys

namespace MmIotEsp32.Umac.Keys

open Lib Function

/-! ## The invariants -/

/-- Slots and non-blank pool entries correspond one to one. -/
structure SlotsOk (data : ConnectionKeysData) : Prop where
  entry : ∀ slot p, data.keys slot = some p →
    (data.pool p).keyType ≠ .blank ∧ (data.pool p).keyId.toNat = slot.val
  inj : ∀ slot slot' p, data.keys slot = some p → data.keys slot' = some p → slot = slot'
  owned : ∀ p, (data.pool p).keyType ≠ .blank → ∃ slot, data.keys slot = some p

/-- Every cached id is that of an installed key of the type it is cached for. -/
def LookupOk (data : ConnectionKeysData) : Prop :=
  ∀ t, data.activeKeyLookup t ≠ -1 →
    ∃ slot key, data.activeKeyLookup t = (slot.val : Int)
      ∧ installedKey data slot = some key ∧ key.keyType = t

/-- The representation invariant of `struct connection_keys_data`. -/
structure KeychainInv (data : ConnectionKeysData) : Prop extends SlotsOk data where
  lookup : LookupOk data

variable {slot : KeySlot}

theorem keySlot?_eq_some {keyId : U8} : keySlot? keyId = some slot ↔ keyId.toNat = slot.val := by
  unfold keySlot?
  constructor
  · intro h
    split at h
    · cases h
      rfl
    · exact absurd h (by simp)
  intro h
  have hlt : keyId.toNat < umacKeysNumKeyIds := h ▸ slot.isLt
  rw [dif_pos hlt]
  exact congrArg some (Fin.ext h)

theorem connectionKeysInit_inv : KeychainInv connectionKeysInit where
  entry := by intro slot p h; exact absurd h (by simp [connectionKeysInit])
  inj := by intro slot slot' p h; exact absurd h (by simp [connectionKeysInit])
  owned := by intro p h; exact absurd rfl h
  lookup := by intro t h; exact absurd rfl h

/-! ## What an operation can do -/

variable {data : ConnectionKeysData} {p : PoolIdx}

theorem connectionKeysAlloc_blank
    (h : connectionKeysAlloc data = some p) : (data.pool p).keyType = .blank := by
  simpa using List.find?_some h

/-- The pool entry an installation may write: the slot's own, or a blank one for
an empty slot. -/
def Writable (data : ConnectionKeysData) (slot : KeySlot) (p : PoolIdx) : Prop :=
  data.keys slot = some p ∨ (data.keys slot = none ∧ (data.pool p).keyType = .blank)

theorem connectionKeysInstallKey_cases (data : ConnectionKeysData) (key : UmacKey) :
    (∃ slot p, umacKeysKeyParamsAreValid key = true ∧ keySlot? key.keyId = some slot
        ∧ Writable data slot p
        ∧ connectionKeysInstallKey data key = (connectionKeysStore data slot p key, true))
    ∨ ((umacKeysKeyParamsAreValid key = true →
          ∀ slot, keySlot? key.keyId = some slot → data.keys slot = none)
        ∧ connectionKeysInstallKey data key = (data, false)) := by
  unfold connectionKeysInstallKey
  by_cases hv : umacKeysKeyParamsAreValid key = true
  · rw [if_pos hv]
    cases hs : keySlot? key.keyId with
    | none => exact Or.inr ⟨fun _ slot h => absurd h (by simp), rfl⟩
    | some slot =>
      cases hk : data.keys slot with
      | some p => exact Or.inl ⟨slot, p, hv, rfl, Or.inl hk, by simp only [hk]⟩
      | none =>
        cases ha : connectionKeysAlloc data with
        | some p =>
          exact Or.inl ⟨slot, p, hv, rfl, Or.inr ⟨hk, connectionKeysAlloc_blank ha⟩,
            by simp only [hk]⟩
        | none =>
          refine Or.inr ⟨fun _ slot' h => ?_, by simp only [hk]⟩
          cases h
          exact hk
  · rw [if_neg hv]
    exact Or.inr ⟨fun h => absurd h hv, rfl⟩

theorem connectionKeysUninstallKey_cases (data : ConnectionKeysData) (keyId : U8) :
    (∃ slot p, keySlot? keyId = some slot ∧ data.keys slot = some p
        ∧ connectionKeysUninstallKey data keyId = (connectionKeysFree data slot p, true))
    ∨ ((∀ slot, keySlot? keyId = some slot → data.keys slot = none)
        ∧ connectionKeysUninstallKey data keyId = (data, false)) := by
  unfold connectionKeysUninstallKey
  cases hs : keySlot? keyId with
  | none => exact Or.inr ⟨fun slot h => absurd h (by simp), rfl⟩
  | some slot =>
    cases hk : data.keys slot with
    | some p => exact Or.inl ⟨slot, p, rfl, hk, by simp only [hk]⟩
    | none =>
      refine Or.inr ⟨fun slot' h => ?_, by simp only [hk]⟩
      cases h
      exact hk

/-! ## Slots and pool entries stay paired -/

variable {key : UmacKey}

theorem keyType_ne_blank_of_valid (h : umacKeysKeyParamsAreValid key = true) :
    key.keyType ≠ .blank := by
  simp only [umacKeysKeyParamsAreValid, Bool.and_eq_true, bne_iff_ne] at h
  exact h.1.2

variable {slot slot' : KeySlot}

theorem Writable.not_other (hok : SlotsOk data) (hw : Writable data slot p) (hne : slot' ≠ slot) :
    data.keys slot' ≠ some p := by
  intro h'
  rcases hw with h | ⟨_, hblank⟩
  · exact hne (hok.inj slot' slot p h' h)
  · exact (hok.entry slot' p h').1 hblank

theorem connectionKeysStore_keys : (connectionKeysStore data slot p key).keys slot'
      = if slot' = slot then some p else data.keys slot' := by
  simp only [connectionKeysStore, update_apply]

theorem connectionKeysStore_pool {p p' : PoolIdx} : (connectionKeysStore data slot p key).pool p'
      = if p' = p then (data.pool p).install key else data.pool p' := by
  simp only [connectionKeysStore, update_apply]

theorem connectionKeysStore_slotsOk (hok : SlotsOk data) (hw : Writable data slot p)
    (hv : umacKeysKeyParamsAreValid key = true) (hs : keySlot? key.keyId = some slot) :
    SlotsOk (connectionKeysStore data slot p key) where
  entry := by
    intro slot' p' h
    rw [connectionKeysStore_keys] at h
    rw [connectionKeysStore_pool]
    by_cases hsl : slot' = slot
    · rw [if_pos hsl] at h
      cases h
      rw [if_pos rfl, hsl]
      exact ⟨keyType_ne_blank_of_valid hv, keySlot?_eq_some.mp hs⟩
    rw [if_neg hsl] at h
    have hne : p' ≠ p := fun hp => Writable.not_other hok hw hsl (hp ▸ h)
    rw [if_neg hne]
    exact hok.entry slot' p' h
  inj := by
    intro s s' p' h h'
    rw [connectionKeysStore_keys] at h h'
    by_cases hsl : s = slot <;> by_cases hsl' : s' = slot
    · rw [hsl, hsl']
    · rw [if_pos hsl] at h
      rw [if_neg hsl'] at h'
      exact absurd (h ▸ h') (Writable.not_other hok hw hsl')
    · rw [if_neg hsl] at h
      rw [if_pos hsl'] at h'
      exact absurd (h' ▸ h) (Writable.not_other hok hw hsl)
    · rw [if_neg hsl] at h
      rw [if_neg hsl'] at h'
      exact hok.inj s s' p' h h'
  owned := by
    intro p' h
    rw [connectionKeysStore_pool] at h
    by_cases hp : p' = p
    · exact ⟨slot, by rw [connectionKeysStore_keys, if_pos rfl, hp]⟩
    rw [if_neg hp] at h
    obtain ⟨s, hs'⟩ := hok.owned p' h
    refine ⟨s, ?_⟩
    have hne : s ≠ slot := by
      rintro rfl
      rcases hw with hw | ⟨hw, _⟩
      · exact hp (Option.some.inj (hs'.symm.trans hw))
      · exact absurd (hs'.symm.trans hw) (by simp)
    rw [connectionKeysStore_keys, if_neg hne, hs']

theorem connectionKeysFree_slotsOk (hok : SlotsOk data) (hk : data.keys slot = some p) :
    SlotsOk (connectionKeysFree data slot p) where
  entry := by
    intro slot' p' h
    simp only [connectionKeysFree, update_apply] at h ⊢
    by_cases hsl : slot' = slot
    · rw [if_pos hsl] at h
      exact absurd h (by simp)
    rw [if_neg hsl] at h
    have hne : p' ≠ p := fun hp => hsl (hok.inj slot' slot p (hp ▸ h) hk)
    rw [if_neg hne]
    exact hok.entry slot' p' h
  inj := by
    intro s s' p' h h'
    simp only [connectionKeysFree, update_apply] at h h'
    split at h
    · exact absurd h (by simp)
    · split at h'
      · exact absurd h' (by simp)
      · exact hok.inj s s' p' h h'
  owned := by
    intro p' h
    simp only [connectionKeysFree, update_apply] at h ⊢
    by_cases hp : p' = p
    · rw [if_pos hp] at h
      exact absurd rfl h
    rw [if_neg hp] at h
    obtain ⟨s, hs⟩ := hok.owned p' h
    refine ⟨s, ?_⟩
    have hne : s ≠ slot := by
      rintro rfl
      exact hp (Option.some.inj (hs.symm.trans hk))
    rw [if_neg hne, hs]

/-! ## The lookup table -/

/-- Installing over a key of another type keeps the lookup table truthful exactly
when the old type's entry does not name this key. -/
def ReinstallKeepsLookup (data : ConnectionKeysData) (key : UmacKey) : Prop :=
  umacKeysKeyParamsAreValid key = true → ∀ slot old, keySlot? key.keyId = some slot →
    installedKey data slot = some old → old.keyType ≠ key.keyType →
      data.activeKeyLookup old.keyType ≠ (slot.val : Int)

theorem installedKey_store {data : ConnectionKeysData} {slot slot' : KeySlot} {p : PoolIdx}
    {key : UmacKey} (hok : SlotsOk data) (hw : Writable data slot p) :
    installedKey (connectionKeysStore data slot p key) slot'
      = if slot' = slot then some ((data.pool p).install key) else installedKey data slot' := by
  simp only [installedKey, connectionKeysStore_keys]
  by_cases hsl : slot' = slot
  · rw [if_pos hsl, if_pos hsl, Option.map_some, connectionKeysStore_pool, if_pos rfl]
  rw [if_neg hsl, if_neg hsl]
  cases hk : data.keys slot' with
  | none => rfl
  | some p' =>
    have hne : p' ≠ p := fun hp => Writable.not_other hok hw hsl (hp ▸ hk)
    rw [Option.map_some, Option.map_some, connectionKeysStore_pool, if_neg hne]

theorem installedKey_free (hok : SlotsOk data) (hk : data.keys slot = some p) :
    installedKey (connectionKeysFree data slot p) slot'
      = if slot' = slot then none else installedKey data slot' := by
  simp only [installedKey, connectionKeysFree, update_apply]
  by_cases hsl : slot' = slot
  · rw [if_pos hsl, if_pos hsl, Option.map_none]
  rw [if_neg hsl, if_neg hsl]
  cases hk' : data.keys slot' with
  | none => rfl
  | some p' =>
    have hne : p' ≠ p := fun hp => hsl (hok.inj slot' slot p (hp ▸ hk') hk)
    rw [Option.map_some, Option.map_some, update_of_ne hne]

theorem connectionKeysStore_lookupOk_iff (hinv : KeychainInv data) (hw : Writable data slot p)
    (hv : umacKeysKeyParamsAreValid key = true) (hs : keySlot? key.keyId = some slot) :
    LookupOk (connectionKeysStore data slot p key) ↔ ReinstallKeepsLookup data key := by
  have hid : (key.keyId.toNat : Int) = (slot.val : Int) :=
    congrArg Nat.cast (keySlot?_eq_some.mp hs)
  have hlook : ∀ t, (connectionKeysStore data slot p key).activeKeyLookup t
      = if t = key.keyType then (slot.val : Int) else data.activeKeyLookup t := by
    intro t
    rw [← hid]
    simp only [connectionKeysStore, update_apply]
  constructor
  · -- the old type's entry is read back from the new table
    intro hok _ slot' old hs' hold hne hact
    obtain rfl : slot = slot' := Option.some.inj (hs.symm.trans hs')
    have hread : (connectionKeysStore data slot p key).activeKeyLookup old.keyType
        = (slot.val : Int) := by rw [hlook, if_neg hne, hact]
    obtain ⟨slot'', key', hact', hkey', htype⟩ :=
      hok old.keyType (by rw [hread]; omega)
    have hslot : slot'' = slot := by
      rw [hread] at hact'
      exact Fin.ext (by omega)
    rw [installedKey_store hinv.toSlotsOk hw, if_pos hslot] at hkey'
    cases hkey'
    exact hne htype.symm
  intro hcond t ht
  rw [hlook] at ht ⊢
  by_cases htk : t = key.keyType
  · refine ⟨slot, (data.pool p).install key, by rw [if_pos htk], ?_, htk.symm⟩
    rw [installedKey_store hinv.toSlotsOk hw, if_pos rfl]
  rw [if_neg htk] at ht ⊢
  obtain ⟨slot', key', hact, hkey', htype⟩ := hinv.lookup t ht
  have hsl : slot' ≠ slot := by
    rintro rfl
    exact hcond hv slot' key' hs hkey' (htype ▸ htk) (htype ▸ hact)
  exact ⟨slot', key', hact,
    by rw [installedKey_store hinv.toSlotsOk hw, if_neg hsl, hkey'], htype⟩

theorem connectionKeysFree_lookupOk (hinv : KeychainInv data) (hk : data.keys slot = some p) :
    LookupOk (connectionKeysFree data slot p) := by
  intro t ht
  have hne : data.activeKeyLookup t ≠ -1 ∧
      (connectionKeysFree data slot p).activeKeyLookup t = data.activeKeyLookup t := by
    simp only [connectionKeysFree] at ht ⊢
    split at ht
    · rename_i hact
      rw [update_apply] at ht
      split at ht
      · exact absurd rfl ht
      · rename_i hne
        exact ⟨ht, by rw [if_pos hact, update_of_ne hne]⟩
    · rename_i hact
      exact ⟨ht, by rw [if_neg hact]⟩
  obtain ⟨slot', key', hact, hkey', htype⟩ := hinv.lookup t hne.1
  refine ⟨slot', key', hne.2.trans hact, ?_, htype⟩
  rw [installedKey_free hinv.toSlotsOk hk]
  by_cases hsl : slot' = slot
  · -- the freed key was the active one of its own type, so its entry was cleared
    exfalso
    rw [hsl] at hkey' hact
    rw [installedKey, hk, Option.map_some] at hkey'
    cases hkey'
    have hcleared : (connectionKeysFree data slot p).activeKeyLookup t = -1 := by
      simp only [connectionKeysFree]
      rw [htype, if_pos hact, update_self]
    exact ht hcleared
  · rw [if_neg hsl, hkey']

/-! ## Histories of installations and removals -/

/-- A call on the keychain. -/
inductive KeychainOp where
  | install (key : UmacKey)
  | uninstall (keyId : U8)

def keychainStep (data : ConnectionKeysData) : KeychainOp → Option ConnectionKeysData
  | .install key => some (connectionKeysInstallKey data key).1
  | .uninstall keyId => some (connectionKeysUninstallKey data keyId).1

/-- The condition under which a call keeps the keychain consistent. -/
def KeychainOpOk (data : ConnectionKeysData) : KeychainOp → Prop
  | .install key => ReinstallKeepsLookup data key
  | .uninstall _ => True

/-- What a consistent keychain promises, `connection_keys_get_tx_seq` included. -/
def KeychainSafe (data : ConnectionKeysData) : Prop :=
  KeychainInv data ∧ ∀ t, (connectionKeysGetTxSeq data t).isSome

theorem getTxSeq_isSome (h : LookupOk data) (t : UmacKeyType) :
    (connectionKeysGetTxSeq data t).isSome := by
  unfold connectionKeysGetTxSeq connectionKeysGetActiveKeyId
  dsimp only
  split
  · rename_i hpos
    obtain ⟨slot, key, hact, hkey, _⟩ := h t (by omega)
    have hn : (data.activeKeyLookup t).toNat = slot.val := by omega
    have hslot : (⟨(data.activeKeyLookup t).toNat, by rw [hn]; exact slot.isLt⟩ : KeySlot)
        = slot := Fin.ext hn
    rw [dif_pos (by rw [hn]; exact slot.isLt), hslot, hkey]
    rfl
  · rfl

theorem keychainSafe_iff (data : ConnectionKeysData) :
    KeychainSafe data ↔ SlotsOk data ∧ LookupOk data :=
  ⟨fun h => ⟨h.1.toSlotsOk, h.1.lookup⟩,
    fun h => ⟨⟨h.1, h.2⟩, getTxSeq_isSome h.2⟩⟩

theorem keychainStep_slotsOk {data data' : ConnectionKeysData} {op : KeychainOp}
    (hok : SlotsOk data) (h : keychainStep data op = some data') : SlotsOk data' := by
  cases op with
  | install key =>
    cases h
    rcases connectionKeysInstallKey_cases data key with ⟨slot, p, hv, hs, hw, heq⟩ | ⟨_, heq⟩
    · rw [heq]
      exact connectionKeysStore_slotsOk hok hw hv hs
    · rw [heq]
      exact hok
  | uninstall keyId =>
    cases h
    rcases connectionKeysUninstallKey_cases data keyId with ⟨slot, p, _, hk, heq⟩ | ⟨_, heq⟩
    · rw [heq]
      exact connectionKeysFree_slotsOk hok hk
    · rw [heq]
      exact hok

theorem keychainStep_safe_iff (data : ConnectionKeysData) (op : KeychainOp)
    (hsafe : KeychainSafe data) :
    ∃ data', keychainStep data op = some data' ∧ (KeychainSafe data' ↔ KeychainOpOk data op) := by
  obtain ⟨hinv, _⟩ := hsafe
  cases op with
  | install key =>
    refine ⟨_, rfl, ?_⟩
    rw [keychainSafe_iff]
    rcases connectionKeysInstallKey_cases data key with
      ⟨slot, p, hv, hs, hw, heq⟩ | ⟨hempty, heq⟩
    · rw [heq]
      have hslots := connectionKeysStore_slotsOk hinv.toSlotsOk hw hv hs
      rw [connectionKeysStore_lookupOk_iff hinv hw hv hs]
      exact ⟨fun h => h.2, fun h => ⟨hslots, h⟩⟩
    rw [heq]
    refine ⟨fun _ hv slot old hs hold => ?_, fun _ => ⟨hinv.toSlotsOk, hinv.lookup⟩⟩
    rw [installedKey, hempty hv slot hs] at hold
    exact absurd hold (by simp)
  | uninstall keyId =>
    refine ⟨_, rfl, ?_⟩
    rw [keychainSafe_iff]
    refine ⟨fun _ => trivial, fun _ => ?_⟩
    rcases connectionKeysUninstallKey_cases data keyId with ⟨slot, p, _, hk, heq⟩ | ⟨_, heq⟩
    · rw [heq]
      exact ⟨connectionKeysFree_slotsOk hinv.toSlotsOk hk, connectionKeysFree_lookupOk hinv hk⟩
    · rw [heq]
      exact ⟨hinv.toSlotsOk, hinv.lookup⟩

/-- The keychain stays consistent throughout a history of calls exactly when no
call installs over the active key of another type. -/
theorem keychain_safe_iff_reinstalls_ok (ops : List KeychainOp) :
    Throughout keychainStep KeychainSafe connectionKeysInit ops
      ↔ Along keychainStep KeychainOpOk connectionKeysInit ops :=
  throughout_iff_along (J := fun _ => True) (fun _ _ _ _ _ => trivial)
    (fun data op _ hsafe => keychainStep_safe_iff data op hsafe)
    ⟨connectionKeysInit_inv, getTxSeq_isSome connectionKeysInit_inv.lookup⟩ trivial ops

/-- A key of the given id and type, with nothing else set. -/
def bareKey (keyId : U8) (keyType : UmacKeyType) : UmacKey :=
  { UmacKey.zero with keyId := keyId, keyType := keyType }

/-- Installing key 0 as pairwise, again as IGTK and removing it leaves the pairwise
lookup naming a slot that is NULL. -/
theorem keychain_unsafe_after_type_change :
    ¬ Throughout keychainStep KeychainSafe connectionKeysInit
      [.install (bareKey 0 .pairwise), .install (bareKey 0 .igtk), .uninstall 0] := by
  intro h
  obtain ⟨_, h⟩ := h
  obtain ⟨_, h⟩ := h _ rfl
  obtain ⟨_, h⟩ := h _ rfl
  have hsafe := (h _ rfl).2 .pairwise
  exact absurd hsafe (by decide)

/-! ## The keychain of a STA record -/

/-- Slots and entries correspond, and the entries that no slot has are cleared. -/
structure KeychainOk (data : ConnectionKeysData) : Prop extends SlotsOk data where
  cleared : ∀ p, (data.pool p).keyType = .blank → data.pool p = .zero

theorem connectionKeysInit_ok : KeychainOk connectionKeysInit where
  toSlotsOk := connectionKeysInit_inv.toSlotsOk
  cleared := fun _ _ => rfl

variable {data data' : ConnectionKeysData} {slot : KeySlot} {keyId : U8}

theorem SlotsOk.connectionKeysAlloc_isSome (hok : SlotsOk data) (hempty : data.keys slot = none) :
    (connectionKeysAlloc data).isSome = true := by
  by_contra hfull
  -- every entry has a slot, and no two entries have the same one: then no slot is left over
  have hall : ∀ p : PoolIdx, ∃ slot, data.keys slot = some p := by
    intro p
    refine hok.owned p fun hblank => hfull ?_
    rw [connectionKeysAlloc, List.find?_isSome]
    exact ⟨p, List.mem_finRange p, by simpa using hblank⟩
  choose owner howner using hall
  have hinj : Function.Injective owner := by
    intro p q h
    exact Option.some.inj ((howner p).symm.trans (h ▸ howner q))
  have hsurj : Function.Surjective owner := Finite.injective_iff_surjective.mp hinj
  obtain ⟨p, hp⟩ := hsurj slot
  exact absurd ((hp ▸ hempty).symm.trans (howner p)) nofun

/-! ## Installing and removing -/

/-- The key that an installation leaves in a slot. -/
def keyOver (old : Option UmacKey) (key : UmacKey) : UmacKey := (old.getD .zero).install key

theorem connectionKeysInstallKey_installed (key : UmacKey) (hok : KeychainOk data) :
    KeychainOk (connectionKeysInstallKey data key).1
      ∧ (connectionKeysInstallKey data key).2 = umacKeysKeyParamsAreValid key
      ∧ ∀ slot, installedKey (connectionKeysInstallKey data key).1 slot
          = if umacKeysKeyParamsAreValid key = true ∧ keySlot? key.keyId = some slot
            then some (keyOver (installedKey data slot) key) else installedKey data slot := by
  rcases connectionKeysInstallKey_cases data key with ⟨slot, p, hv, hs, hw, heq⟩ | ⟨hempty, heq⟩
  · rw [heq]
    refine ⟨⟨connectionKeysStore_slotsOk hok.toSlotsOk hw hv hs, fun q hq => ?_⟩, hv.symm, ?_⟩
    · rw [connectionKeysStore_pool] at hq ⊢
      by_cases hqp : q = p
      · rw [if_pos hqp] at hq
        exact absurd hq (keyType_ne_blank_of_valid hv)
      · rw [if_neg hqp] at hq ⊢
        exact hok.cleared q hq
    intro slot'
    rw [installedKey_store hok.toSlotsOk hw, hs]
    by_cases hslot : slot' = slot
    · subst hslot
      rw [if_pos rfl, if_pos ⟨hv, rfl⟩]
      -- the entry is the slot's own, or one that is cleared
      rcases hw with hw | ⟨hw, hblank⟩
      · rw [installedKey, hw]
        rfl
      · rw [installedKey, hw, hok.cleared p hblank]
        rfl
    · rw [if_neg hslot, if_neg fun h => hslot (Option.some.inj h.2).symm]
  rw [heq]
  have hinvalid : umacKeysKeyParamsAreValid key = false := by
    by_contra hv
    rw [Bool.not_eq_false] at hv
    have hid : key.keyId.toNat < umacKeysNumKeyIds := by
      simp only [umacKeysKeyParamsAreValid, connectionKeysKeyIdIsValid, Bool.and_eq_true,
        decide_eq_true_eq] at hv
      exact hv.1.1
    have hs : keySlot? key.keyId = some ⟨key.keyId.toNat, hid⟩ := dif_pos hid
    have hnone := hempty hv _ hs
    obtain ⟨p, hp⟩ := Option.isSome_iff_exists.mp (hok.connectionKeysAlloc_isSome hnone)
    have hinstalled : (connectionKeysInstallKey data key).2 = true := by
      unfold connectionKeysInstallKey
      rw [if_pos hv, hs]
      dsimp only
      rw [hnone, hp]
    rw [heq] at hinstalled
    cases hinstalled
  refine ⟨hok, hinvalid.symm, fun slot => ?_⟩
  rw [hinvalid, if_neg (by simp)]

theorem connectionKeysUninstallKey_installed (keyId : U8) (hok : KeychainOk data) :
    KeychainOk (connectionKeysUninstallKey data keyId).1
      ∧ ∀ slot, installedKey (connectionKeysUninstallKey data keyId).1 slot
          = if keySlot? keyId = some slot then none else installedKey data slot := by
  rcases connectionKeysUninstallKey_cases data keyId with ⟨slot, p, hs, hk, heq⟩ | ⟨hempty, heq⟩
  · rw [heq]
    refine ⟨⟨connectionKeysFree_slotsOk hok.toSlotsOk hk, fun q hq => ?_⟩, fun slot' => ?_⟩
    · simp only [connectionKeysFree, update_apply] at hq ⊢
      by_cases hqp : q = p
      · rw [if_pos hqp]
      · rw [if_neg hqp] at hq ⊢
        exact hok.cleared q hq
    rw [installedKey_free hok.toSlotsOk hk, hs]
    by_cases hslot : slot' = slot
    · rw [if_pos hslot, if_pos (by rw [hslot])]
    · rw [if_neg hslot, if_neg fun h => hslot (Option.some.inj h).symm]
  rw [heq]
  refine ⟨hok, fun slot => ?_⟩
  by_cases hs : keySlot? keyId = some slot
  · rw [if_pos hs, installedKey, hempty slot hs]
    rfl
  · rw [if_neg hs]

/-! ## The replay check -/

/-- The key passes the packet number. -/
def passesReplay (key? : Option UmacKey) (packetNumber : U64) (space : UmacKeyRxCounterSpace) :
    Bool :=
  key?.any fun key => decide ((key.rxSeq space).toNat < packetNumber.toNat)

/-- The key with one of its replay counters moved. -/
def withRxSeq (key : UmacKey) (space : UmacKeyRxCounterSpace) (packetNumber : U64) : UmacKey :=
  { key with rxSeq := update key.rxSeq space packetNumber }

/-- The check accepts a packet number above the counter of the key, and moves that counter only;
one that it does not accept changes nothing. -/
theorem connectionKeysCheckAndUpdateRxReplay_installed {packetNumber : U64}
    {space : UmacKeyRxCounterSpace} {accepted : Bool} (hok : KeychainOk data)
    (hslot : keySlot? keyId = some slot)
    (heq : connectionKeysCheckAndUpdateRxReplay data keyId packetNumber space
      = some (data', accepted)) :
    KeychainOk data'
      ∧ accepted = passesReplay (installedKey data slot) packetNumber space
      ∧ (accepted = false → data' = data)
      ∧ ∀ slot', installedKey data' slot'
          = if accepted = true ∧ slot' = slot
            then (installedKey data slot').map fun key => withRxSeq key space packetNumber
            else installedKey data slot' := by
  unfold connectionKeysCheckAndUpdateRxReplay at heq
  rw [hslot, Option.map_some] at heq
  have hpair := Option.some.inj heq
  cases hkey : data.keys slot with
  | none =>
    rw [hkey] at hpair
    cases hpair
    refine ⟨hok, ?_, fun _ => rfl, fun slot' => by rw [if_neg (by simp)]⟩
    rw [installedKey, hkey]
    rfl
  | some p =>
    rw [hkey] at hpair
    dsimp only at hpair
    by_cases hlt : ((data.pool p).rxSeq space).toNat < packetNumber.toNat
    · rw [if_pos hlt] at hpair
      cases hpair
      -- the counter of an entry is no part of how slots and entries correspond
      have hpool : ∀ q, (update data.pool p
            (withRxSeq (data.pool p) space packetNumber) q).keyType = (data.pool q).keyType
          ∧ (update data.pool p
            (withRxSeq (data.pool p) space packetNumber) q).keyId = (data.pool q).keyId := by
        intro q
        by_cases hq : q = p
        · rw [hq, update_self]
          exact ⟨rfl, rfl⟩
        · rw [update_of_ne hq]
          exact ⟨rfl, rfl⟩
      have hnotBlank := (hok.entry slot p hkey).1
      refine ⟨⟨⟨fun slot' q hq => ?_, hok.inj, fun q hq => ?_⟩, fun q hq => ?_⟩, ?_, nofun, ?_⟩
      · have hentry := hok.entry slot' q hq
        rw [← (hpool q).1, ← (hpool q).2] at hentry
        exact hentry
      · exact hok.owned q ((hpool q).1 ▸ hq)
      · have hne : q ≠ p := by
          rintro rfl
          exact hnotBlank ((hpool q).1 ▸ hq)
        have hblank : (data.pool q).keyType = .blank := (hpool q).1 ▸ hq
        show update data.pool p _ q = _
        rw [update_of_ne hne]
        exact hok.cleared q hblank
      · rw [installedKey, hkey]
        simp [passesReplay, hlt]
      intro slot'
      unfold installedKey
      dsimp only
      by_cases hsame : slot' = slot
      · rw [if_pos ⟨rfl, hsame⟩, hsame, hkey]
        simp only [Option.map_some, update_self, withRxSeq]
      rw [if_neg fun h => hsame h.2]
      cases hother : data.keys slot' with
      | none => rfl
      | some q =>
        have hq : q ≠ p := by
          rintro rfl
          exact hsame (hok.inj _ _ _ hother hkey)
        simp only [Option.map_some, update_of_ne hq]
    rw [if_neg hlt] at hpair
    cases hpair
    refine ⟨hok, ?_, fun _ => rfl, fun slot' => by rw [if_neg (by simp)]⟩
    rw [installedKey, hkey]
    simp [passesReplay, hlt]

end MmIotEsp32.Umac.Keys
