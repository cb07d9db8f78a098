/-
  MmIotEsp32.Umac.SupplicantShim.Ccmp

  The CCMP replay check (`umac/supplicant_shim/ccmp.c`).
-/
import MmIotEsp32.Common.Mmpkt
import MmIotEsp32.Umac.Keys.Keychain

namespace MmIotEsp32.Umac.SupplicantShim

open Keys Function

/-! ## The header -/

def parseCcmpKeyId (ccmpHeader : BytePtr) : U8 := (ccmpHeader 3 &&& 0xc0) >>> 6

def parseCcmpPacketNumber (header : BytePtr) : U64 :=
  ((header 0).setWidth 64 <<< 0) ||| ((header 1).setWidth 64 <<< 8)
    ||| ((header 4).setWidth 64 <<< 16) ||| ((header 5).setWidth 64 <<< 24)
    ||| ((header 6).setWidth 64 <<< 32) ||| ((header 7).setWidth 64 <<< 40)

theorem parseCcmpKeyId_valid (ccmpHeader : BytePtr) :
    (parseCcmpKeyId ccmpHeader).toNat < umacKeysNumKeyIds := by
  unfold parseCcmpKeyId umacKeysNumKeyIds
  rw [BitVec.toNat_ushiftRight, BitVec.toNat_and, Nat.shiftRight_eq_div_pow]
  have hle : (ccmpHeader 3).toNat &&& BitVec.toNat (0xc0 : U8) ≤ 0xc0 := Nat.and_le_right
  omega

/-- The slot of the key that protects the frame. -/
def ccmpSlot (ccmpHeader : BytePtr) : KeySlot :=
  ⟨(parseCcmpKeyId ccmpHeader).toNat, parseCcmpKeyId_valid ccmpHeader⟩

theorem keySlot?_parseCcmpKeyId (ccmpHeader : BytePtr) :
    keySlot? (parseCcmpKeyId ccmpHeader) = some (ccmpSlot ccmpHeader) :=
  keySlot?_eq_some.mpr rfl

/-! ## The check -/

/-- `ccmp_is_valid`, for a STA record and a header that is not NULL; `none` is an
assertion on the key id. -/
def ccmpIsValid (keys : ConnectionKeysData) (ccmpHeader : BytePtr)
    (space : UmacKeyRxCounterSpace) : Option (ConnectionKeysData × Bool) :=
  let keyId := parseCcmpKeyId ccmpHeader
  match connectionKeysGetKeyType keys keyId with
  | none => none
  | some .blank => some (keys, false)
  | some _ =>
    connectionKeysCheckAndUpdateRxReplay keys keyId (parseCcmpPacketNumber ccmpHeader) space

/-- The keychain after a packet number moved one replay counter of an entry. -/
def setRxSeq (keys : ConnectionKeysData) (p : PoolIdx) (space : UmacKeyRxCounterSpace)
    (packetNumber : U64) : ConnectionKeysData :=
  let key := keys.pool p
  { keys with
    pool := update keys.pool p
      { key with rxSeq := update key.rxSeq space packetNumber } }

/-- The entry that protects the frame, unless its slot is empty or blank. -/
def ccmpEntry (keys : ConnectionKeysData) (ccmpHeader : BytePtr) : Option PoolIdx :=
  (keys.keys (ccmpSlot ccmpHeader)).filter fun p => (keys.pool p).keyType ≠ .blank

theorem ccmpIsValid_eq (keys : ConnectionKeysData) (ccmpHeader : BytePtr)
    (space : UmacKeyRxCounterSpace) :
    ccmpIsValid keys ccmpHeader space = some (
      match ccmpEntry keys ccmpHeader with
      | none => (keys, false)
      | some p =>
        if ((keys.pool p).rxSeq space).toNat < (parseCcmpPacketNumber ccmpHeader).toNat
        then (setRxSeq keys p space (parseCcmpPacketNumber ccmpHeader), true)
        else (keys, false)) := by
  unfold ccmpIsValid connectionKeysGetKeyType connectionKeysCheckAndUpdateRxReplay installedKey
  dsimp only
  rw [keySlot?_parseCcmpKeyId]
  dsimp only [Option.map_some]
  cases hslot : keys.keys (ccmpSlot ccmpHeader) with
  | none =>
    have hentry : ccmpEntry keys ccmpHeader = none := by
      rw [ccmpEntry, hslot]
      rfl
    rw [hentry]
    rfl
  | some p =>
    dsimp only [Option.map_some]
    by_cases hblank : (keys.pool p).keyType = .blank
    · have hentry : ccmpEntry keys ccmpHeader = none := by
        rw [ccmpEntry, hslot, Option.filter_some, if_neg (by simp [hblank])]
      rw [hentry, hblank]
    have hentry : ccmpEntry keys ccmpHeader = some p := by
      rw [ccmpEntry, hslot, Option.filter_some, if_pos (by simp [hblank])]
    rw [hentry]
    dsimp only [setRxSeq]
    generalize (keys.pool p).keyType = keyType at hblank ⊢
    cases keyType with
    | blank => exact absurd rfl hblank
    | _ => rfl

theorem ccmpIsValid_isSome (keys : ConnectionKeysData) (ccmpHeader : BytePtr)
    (space : UmacKeyRxCounterSpace) : (ccmpIsValid keys ccmpHeader space).isSome = true := by
  rw [ccmpIsValid_eq]
  rfl

/-- What the check does to the keys that are installed: it accepts a packet number above the
counter of the key that protects the frame, and moves that counter only. -/
theorem ccmpIsValid_installed {keys keys' : ConnectionKeysData} {ccmpHeader : BytePtr}
    {space : UmacKeyRxCounterSpace} {valid : Bool} (hok : SlotsOk keys)
    (heq : ccmpIsValid keys ccmpHeader space = some (keys', valid)) :
    SlotsOk keys'
      ∧ (valid = true ↔ ∃ key, installedKey keys (ccmpSlot ccmpHeader) = some key
          ∧ (key.rxSeq space).toNat < (parseCcmpPacketNumber ccmpHeader).toNat)
      ∧ ∀ slot, installedKey keys' slot
          = if valid = true ∧ slot = ccmpSlot ccmpHeader
            then (installedKey keys slot).map fun key => { key with
              rxSeq := update key.rxSeq space (parseCcmpPacketNumber ccmpHeader) }
            else installedKey keys slot := by
  rw [ccmpIsValid_eq] at heq
  have hpair := Option.some.inj heq
  cases hslot : keys.keys (ccmpSlot ccmpHeader) with
  | none =>
    have hentry : ccmpEntry keys ccmpHeader = none := by
      rw [ccmpEntry, hslot]
      rfl
    rw [hentry] at hpair
    cases hpair
    refine ⟨hok, ?_, ?_⟩
    · simp [installedKey, hslot]
    · intro slot
      rw [if_neg (by simp)]
  | some p =>
    have hnotBlank := (hok.entry _ p hslot).1
    have hentry : ccmpEntry keys ccmpHeader = some p := by
      rw [ccmpEntry, hslot, Option.filter_some, if_pos (by simpa using hnotBlank)]
    rw [hentry] at hpair
    dsimp only at hpair
    by_cases hlt : ((keys.pool p).rxSeq space).toNat < (parseCcmpPacketNumber ccmpHeader).toNat
    · rw [if_pos hlt] at hpair
      cases hpair
      -- the counter of an entry is no part of how slots and entries correspond
      have hfields : ∀ q, ((setRxSeq keys p space (parseCcmpPacketNumber ccmpHeader)).pool
            q).keyType = (keys.pool q).keyType
          ∧ ((setRxSeq keys p space (parseCcmpPacketNumber ccmpHeader)).pool q).keyId
            = (keys.pool q).keyId := by
        intro q
        dsimp only [setRxSeq]
        by_cases hq : q = p
        · rw [hq, update_self]
          exact ⟨rfl, rfl⟩
        · rw [update_of_ne hq]
          exact ⟨rfl, rfl⟩
      refine ⟨?_, ?_, ?_⟩
      · refine ⟨fun slot q hq => ?_, hok.inj, fun q hq => ?_⟩
        · rw [(hfields q).1, (hfields q).2]
          exact hok.entry slot q hq
        · rw [(hfields q).1] at hq
          exact hok.owned q hq
      · simp only [installedKey, hslot, Option.map_some, true_iff]
        exact ⟨keys.pool p, rfl, hlt⟩
      intro slot
      unfold installedKey
      dsimp only [setRxSeq]
      by_cases hsame : slot = ccmpSlot ccmpHeader
      · rw [if_pos ⟨rfl, hsame⟩, hsame, hslot]
        simp only [Option.map_some, update_self]
      rw [if_neg (fun h => hsame h.2)]
      cases hother : keys.keys slot with
      | none => rfl
      | some q =>
        have hq : q ≠ p := by
          rintro rfl
          exact hsame (hok.inj _ _ _ hother hslot)
        simp only [Option.map_some, update_of_ne hq]
    rw [if_neg hlt] at hpair
    cases hpair
    refine ⟨hok, ?_, ?_⟩
    · simp [installedKey, hslot, hlt]
    · intro slot
      rw [if_neg (by simp)]

end MmIotEsp32.Umac.SupplicantShim
