/-
  MmIotEsp32.Umac.SupplicantShim.Bip

  The check of group addressed management frames (`umac/supplicant_shim/bip.c`).

  The AES-128-CMAC is that of the supplicant: it is a parameter here, a function of the key and of
  the octets that are authenticated, and `none` where it fails.
-/
import MmIotEsp32.Dot11.Dot11
import MmIotEsp32.Umac.Ies.IesCommon
import MmIotEsp32.Umac.Keys.ConnectionKeys

namespace MmIotEsp32.Umac.SupplicantShim

open Ies Keys

/-! ## The element -/

def dot11IeManagementMic : U8 := 76

/-- `sizeof(struct dot11_ie_mmie)`. -/
def sizeofDot11IeMmie : Nat := 18

def ieMmieFind (ies : BytePtr) (iesLen : Nat) : Option Nat :=
  (ieFindAndValidateLength ies iesLen dot11IeManagementMic (sizeofDot11IeMmie - ieSizeofHeader)).1

/-- `key_id` of the element, as the octet that the functions of the keychain take. -/
def mmieKeyId (data : BytePtr) (mmie : Nat) : U8 := (data.le16 (mmie + 2)).setWidth 8

def parseMmiePacketNumber (array : BytePtr) : U64 :=
  ((array 0).setWidth 64 <<< 0) ||| ((array 1).setWidth 64 <<< 8)
    ||| ((array 2).setWidth 64 <<< 16) ||| ((array 3).setWidth 64 <<< 24)
    ||| ((array 4).setWidth 64 <<< 32) ||| ((array 5).setWidth 64 <<< 40)

/-- The packet number of the element. -/
def mmiePacketNumber (data : BytePtr) (mmie : Nat) : U64 := parseMmiePacketNumber (data.add (mmie + 4))

/-- `mic` of the element. -/
def mmieMic (data : BytePtr) (mmie : Nat) : List U8 := (data.add (mmie + 10)).take 8

/-! ## The check -/

def aadLength : Nat := 20

def micLength : Nat := 8

def maxSupportedKeyLen : Nat := 16

abbrev Omac1Aes128 := (Fin umacConnectionKeyMaxLen → U8) → List U8 → Option (List U8)

/-- `bip_aad`: the frame control without the bits RETRY, POWER_MGMT and MORE_DATA, and the
addresses. -/
def bipAad (header : BytePtr) : List U8 :=
  let frameControl := Dot11.frameControl header &&& ~~~0x3800
  [frameControl.setWidth 8, (frameControl >>> 8).setWidth 8] ++ (header.add 4).take 18

/-- What `bip_generate_mic` authenticates: the MIC at the end of the data is masked. -/
def bipInput (header data : BytePtr) (dataLen : Nat) : List U8 :=
  (bipAad header ++ data.take dataLen).take (aadLength + dataLen - micLength)
    ++ List.replicate micLength 0

/-- `bip_generate_mic`, with `none` inside where it returns an error; `none` is a write through the
NULL that `mmosal_calloc` returns. -/
def bipGenerateMic (omac1Aes128 : Omac1Aes128) (key : Fin umacConnectionKeyMaxLen → U8)
    (header data : BytePtr) (dataLen : Nat) (allocated : Bool) : Option (Option (List U8)) :=
  if allocated then some (omac1Aes128 key (bipInput header data dataLen)) else none

/-- `bip_is_valid`; `none` is an assertion on the key id, or a NULL pointer that is followed. -/
def bipIsValid (omac1Aes128 : Omac1Aes128) (keys : ConnectionKeysData) (header data : BytePtr)
    (dataLen : Nat) (allocated : Bool) : Option (ConnectionKeysData × Bool) :=
  match ieMmieFind data dataLen with
  | none => some (keys, false)
  | some mmie =>
    let keyId := mmieKeyId data mmie
    (connectionKeysGetKeyType keys keyId).bind fun keyType =>
    if keyType ≠ .igtk then some (keys, false)
    else
      (connectionKeysGetKeyLen keys keyId).bind fun keyLen =>
      if maxSupportedKeyLen < keyLen then some (keys, false)
      else
        (connectionKeysGetKeyData keys keyId).bind fun keyData =>
        keyData.bind fun keyData =>
        (bipGenerateMic omac1Aes128 keyData header data dataLen allocated).bind fun mic =>
        match mic with
        | none => some (keys, false)
        | some mic =>
          if mmieMic data mmie ≠ mic.take micLength then some (keys, false)
          else
            connectionKeysCheckAndUpdateRxReplay keys keyId (mmiePacketNumber data mmie) .default

end MmIotEsp32.Umac.SupplicantShim
