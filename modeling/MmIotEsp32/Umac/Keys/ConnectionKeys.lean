/-
  MmIotEsp32.Umac.Keys.ConnectionKeys

  The keychain of one STA record (`umac/keys/connection_keys.c`).
-/
import Mathlib.Logic.Function.Basic
import MmIotEsp32.Common.Mmosal
import MmIotEsp32.Lib.Transition

namespace MmIotEsp32.Umac.Keys

open Function

/-! ## Data model -/

def umacConnectionKeyMaxLen : Nat := 32
def umacKeysNumKeyIds : Nat := 6
def umacKeysKeychainLen : Nat := umacKeysNumKeyIds

/-- `enum umac_key_type`; `UMAC_KEY_TYPE_NUM` only counts the others. -/
inductive UmacKeyType where
  | blank
  | pairwise
  | group
  | igtk
  deriving Repr, DecidableEq

inductive UmacKeyRxCounterSpace where
  | default
  | indRobustMgmt
  deriving Repr, DecidableEq

structure UmacKey where
  keyId : U8
  keyType : UmacKeyType
  keyData : Fin umacConnectionKeyMaxLen → U8
  keyLen : Nat
  rxSeq : UmacKeyRxCounterSpace → U64
  txSeq : U64

/-- A `struct umac_key` cleared by `memset`. -/
def UmacKey.zero : UmacKey where
  keyId := 0
  keyType := .blank
  keyData := fun _ => 0
  keyLen := 0
  rxSeq := fun _ => 0
  txSeq := 0

/-- An entry of the key pool. -/
abbrev PoolIdx := Fin umacKeysKeychainLen

/-- An index of `keys[]`: a key id that passed `connection_keys_key_id_is_valid`. -/
abbrev KeySlot := Fin umacKeysNumKeyIds

structure ConnectionKeysData where
  keys : KeySlot → Option PoolIdx
  pool : PoolIdx → UmacKey
  activeKeyLookup : UmacKeyType → Int

/-! ## The operations -/

def connectionKeysInit : ConnectionKeysData where
  keys := fun _ => none
  pool := fun _ => UmacKey.zero
  activeKeyLookup := fun _ => -1

/-- `connection_keys_alloc`: the first blank entry of the pool. -/
def connectionKeysAlloc (data : ConnectionKeysData) : Option PoolIdx :=
  (List.finRange umacKeysKeychainLen).find? fun i => (data.pool i).keyType = .blank

/-- `connection_keys_free`, on a slot that holds an entry. -/
def connectionKeysFree (data : ConnectionKeysData) (slot : KeySlot) (p : PoolIdx) :
    ConnectionKeysData :=
  let keyType := (data.pool p).keyType
  { activeKeyLookup :=
      if data.activeKeyLookup keyType = (slot.val : Int)
      then update data.activeKeyLookup keyType (-1)
      else data.activeKeyLookup
    pool := update data.pool p UmacKey.zero
    keys := update data.keys slot none }

def connectionKeysKeyIdIsValid (keyId : U8) : Bool := keyId.toNat < umacKeysNumKeyIds

/-- The slot of a valid key id. -/
def keySlot? (keyId : U8) : Option KeySlot :=
  if h : keyId.toNat < umacKeysNumKeyIds then some ⟨keyId.toNat, h⟩ else none

def umacKeysKeyParamsAreValid (key : UmacKey) : Bool :=
  connectionKeysKeyIdIsValid key.keyId && key.keyType != .blank
    && key.keyLen ≤ umacConnectionKeyMaxLen

/-- The entry `connection_keys_install_key` writes over `old`: `key_data` is
copied up to `key_len` only. -/
def UmacKey.install (old key : UmacKey) : UmacKey where
  keyId := key.keyId
  keyType := key.keyType
  keyData := fun i => if i.val < key.keyLen then key.keyData i else old.keyData i
  keyLen := key.keyLen
  rxSeq := key.rxSeq
  txSeq := key.txSeq

/-- The writes of `connection_keys_install_key`, once the pool entry is chosen. -/
def connectionKeysStore (data : ConnectionKeysData) (slot : KeySlot) (p : PoolIdx)
    (key : UmacKey) : ConnectionKeysData where
  keys := update data.keys slot (some p)
  pool := update data.pool p ((data.pool p).install key)
  activeKeyLookup := update data.activeKeyLookup key.keyType (key.keyId.toNat : Int)

def connectionKeysInstallKey (data : ConnectionKeysData) (key : UmacKey) :
    ConnectionKeysData × Bool :=
  if umacKeysKeyParamsAreValid key then
    match keySlot? key.keyId with
    | none => (data, false)
    | some slot =>
      match data.keys slot with
      | some p => (connectionKeysStore data slot p key, true)
      | none =>
        match connectionKeysAlloc data with
        | some p => (connectionKeysStore data slot p key, true)
        | none => (data, false)
  else (data, false)

def connectionKeysUninstallKey (data : ConnectionKeysData) (keyId : U8) :
    ConnectionKeysData × Bool :=
  match keySlot? keyId with
  | none => (data, false)
  | some slot =>
    match data.keys slot with
    | none => (data, false)
    | some p => (connectionKeysFree data slot p, true)

/-- The entry installed under a slot, if any. -/
def installedKey (data : ConnectionKeysData) (slot : KeySlot) : Option UmacKey :=
  (data.keys slot).map data.pool

/-- `connection_keys_get_key_type`; `none` is its assertion on the key id. -/
def connectionKeysGetKeyType (data : ConnectionKeysData) (keyId : U8) : Option UmacKeyType :=
  (keySlot? keyId).map fun slot =>
    match installedKey data slot with
    | some key => key.keyType
    | none => .blank

/-- `connection_keys_check_and_update_rx_replay`: whether the packet number was
accepted, and the keychain with the counter moved up to it. -/
def connectionKeysCheckAndUpdateRxReplay (data : ConnectionKeysData) (keyId : U8)
    (packetNumber : U64) (space : UmacKeyRxCounterSpace) :
    Option (ConnectionKeysData × Bool) :=
  (keySlot? keyId).map fun slot =>
    match data.keys slot with
    | none => (data, false)
    | some p =>
      let key := data.pool p
      if (key.rxSeq space).toNat < packetNumber.toNat then
        ({ data with
            pool := update data.pool p
              { key with rxSeq := update key.rxSeq space packetNumber } }, true)
      else (data, false)

def connectionKeysGetKeyLen (data : ConnectionKeysData) (keyId : U8) : Option Nat :=
  (keySlot? keyId).map fun slot =>
    match installedKey data slot with
    | some key => key.keyLen
    | none => 0

/-- `connection_keys_get_key_data`: NULL when no key is installed. -/
def connectionKeysGetKeyData (data : ConnectionKeysData) (keyId : U8) :
    Option (Option (Fin umacConnectionKeyMaxLen → U8)) :=
  (keySlot? keyId).map fun slot => (installedKey data slot).map (·.keyData)

def connectionKeysGetActiveKeyId (data : ConnectionKeysData) (keyType : UmacKeyType) : Int :=
  data.activeKeyLookup keyType

/-- `connection_keys_get_tx_seq`; `none` is the read through a NULL slot. -/
def connectionKeysGetTxSeq (data : ConnectionKeysData) (keyType : UmacKeyType) : Option U64 :=
  let keyId := connectionKeysGetActiveKeyId data keyType
  if 0 ≤ keyId then
    if h : keyId.toNat < umacKeysNumKeyIds
    then (installedKey data ⟨keyId.toNat, h⟩).map (·.txSeq)
    else none
  else some 0

end MmIotEsp32.Umac.Keys
