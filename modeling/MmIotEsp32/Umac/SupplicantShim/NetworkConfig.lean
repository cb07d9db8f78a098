/-
  MmIotEsp32.Umac.SupplicantShim.NetworkConfig

  The way of the SSID and the passphrase from the arguments of `mmwlan_sta_enable` to the network
  block of the supplicant: checked by `umac_connection_validate_sta_args`, copied by
  `umac_connection_start` (both `umac/connection/umac_connection.c`), and given on by
  `config_add_network` (`umac/supplicant_shim/config.c`).
-/
import MmIotEsp32.Lib.CArray
import MmIotEsp32.Umac.Twt.UmacTwt
import MmIotEsp32.Umac.UmacData
import Mathlib.Data.List.TakeWhile

namespace MmIotEsp32.Umac.SupplicantShim.NetworkConfig

open Lib Twt

/-! ## The arguments -/

def mmwlanSsidMaxlen : Nat := 32
def mmwlanPassphraseMaxlen : Nat := 100

/-- `struct mmwlan_sta_args`, as far as it is read; the fields that the copy goes on to after
`ssid` follow it. -/
structure MmwlanStaArgs where
  ssid : CArray 32 U8
  ssidLen : U16
  bssid : CArray 6 U8
  securityType : MmwlanSecurityType
  passphrase : CArray 101 U8
  passphraseLen : U16
  rawStaPriority : BitVec 16
  /-- `cac_mode` is `MMWLAN_CAC_ENABLED` -/
  cacEnabled : Bool
  bgscanShortIntervalS : U16
  bgscanSignalThresholdDbm : Int
  bgscanLongIntervalS : U16
  /-- `extra_assoc_ies` is not NULL -/
  extraAssocIes : Bool
  extraAssocIesLen : Nat

/-- `strlen`, of the bytes from a place on, with a NUL among them. -/
def strlen (bytes : List U8) : Nat := (bytes.takeWhile (· ≠ 0)).length

def strnlen (bytes : List U8) (maxlen : Nat) : Nat := strlen (bytes.take maxlen)

def umacConnectionValidateStaArgs (args : Option MmwlanStaArgs) : Bool :=
  match args with
  | none => false
  | some args =>
    let passphraseLen :=
      if args.passphraseLen = 0 then
        strnlen (List.ofFn args.passphrase) (mmwlanPassphraseMaxlen + 1)
      else args.passphraseLen.toNat
    if mmwlanSsidMaxlen < args.ssidLen.toNat then false
    else if mmwlanPassphraseMaxlen < passphraseLen then false
    else if args.securityType = .sae ∧ passphraseLen = 0 then false
    else if (args.extraAssocIes ∧ args.extraAssocIesLen = 0)
        ∨ (¬ args.extraAssocIes ∧ args.extraAssocIesLen ≠ 0) then false
    else true

/-! ## The copy -/

inductive UmacConnectionMode where
  | none
  | sta
  | dpp
  deriving Repr, DecidableEq

/-- The bytes of the arguments from the SSID on: the array, its length and the BSSID. -/
def bytesFromSsid (args : MmwlanStaArgs) : List U8 :=
  List.ofFn args.ssid ++ [args.ssidLen.truncate 8, (args.ssidLen >>> 8).truncate 8]
    ++ List.ofFn args.bssid

/-- The arguments that `umac_connection_start` keeps; `none` where it returns
`MMWLAN_UNAVAILABLE`, or writes outside the passphrase. -/
def umacConnectionStart (mode : UmacConnectionMode) (args : MmwlanStaArgs) :
    Option MmwlanStaArgs :=
  if mode ≠ .none ∧ mode ≠ .sta then none
  else if args.passphraseLen ≠ 0 then
    (args.passphrase.write args.passphraseLen.toNat 0).map fun passphrase =>
      { args with passphrase := passphrase }
  else
    some { args with passphraseLen := BitVec.ofNat 16 (strlen (bytesFromSsid args)) }

/-! ## The network block -/

/-- What `config_populate_network_security` sets; the rest is as
`wpa_config_set_network_defaults` leaves it. -/
structure NetworkSecurity where
  /-- `key_mgmt` is `WPA_KEY_MGMT_NONE`, `WPA_KEY_MGMT_OWE` or `WPA_KEY_MGMT_SAE` -/
  keyMgmt : MmwlanSecurityType
  /-- `pairwise_cipher` and `group_cipher` are `WPA_CIPHER_CCMP`, `proto` is `WPA_PROTO_RSN` -/
  ccmp : Bool
  oweOnly : Bool
  /-- the bytes of the buffer -/
  saePassword : Option (List U8)
  deriving Repr, DecidableEq

/-- `twt_conf` of `struct wpa_ssid`, when it is enabled. -/
structure TwtConf where
  wakeIntervalUs : U64
  wakeDurationUs : U32
  setupCommand : U8

/-- `struct wpa_ssid`, as far as it is set. -/
structure WpaSsid where
  ro : Bool
  /-- the bytes of the buffer, and `ssid_len` -/
  ssid : List U8
  ssidLen : Nat
  /-- where `bssid_set` is 1 -/
  bssid : Option (CArray 6 U8)
  rawStaPriority : BitVec 16
  cac : Bool
  bgscan : Option String
  twtConf : Option TwtConf
  security : NetworkSecurity

/-- Which of the allocations succeed. -/
structure Allocs where
  network : Bool
  ssid : Bool
  bgscan : Bool
  saePassword : Bool

/-- The password of `config_populate_network_security`: `passphrase_len` bytes, and a NUL. -/
def populateSaePassword (passphrase : CArray 101 U8) (passphraseLen : U16) : Option (List U8) :=
  if passphraseLen = 0 then passphrase.cstr.map (· ++ [0])
  else (passphrase.slice 0 passphraseLen.toNat).map (· ++ [0])

/-- `config_populate_network_security`; `none` where it returns false, or reads outside the
passphrase. -/
def configPopulateNetworkSecurity (allocs : Allocs) (securityType : MmwlanSecurityType)
    (passphrase : CArray 101 U8) (passphraseLen : U16) : Option NetworkSecurity :=
  match securityType with
  | .open => some ⟨.open, false, false, none⟩
  | .owe => some ⟨.owe, true, true, none⟩
  | .sae =>
    if !allocs.saePassword then none
    else
      (populateSaePassword passphrase passphraseLen).map fun password =>
        ⟨.sae, true, false, some password⟩

/-- The background scan, in a buffer of 30 bytes. -/
def bgscanString (args : MmwlanStaArgs) : String :=
  (("simple:" ++ toString args.bgscanShortIntervalS.toNat ++ ":"
    ++ toString args.bgscanSignalThresholdDbm ++ ":"
    ++ toString args.bgscanLongIntervalS.toNat).take 29).toString

/-- The background scan is asked for. -/
def bgscanWanted (args : MmwlanStaArgs) : Bool :=
  args.bgscanShortIntervalS ≠ 0 && args.bgscanLongIntervalS ≠ 0

/-- `config_add_network`, to a configuration without networks; `none` where it returns false, or
reads outside the arguments. -/
def configAddNetwork (allocs : Allocs) (ro : Bool) (args : MmwlanStaArgs)
    (twtConfig : MmwlanTwtConfigArgs) : Option WpaSsid :=
  if !allocs.network then none
  else if !allocs.ssid then none
  else
    (args.ssid.slice 0 args.ssidLen.toNat).bind fun ssid =>
      if bgscanWanted args && !allocs.bgscan then none
      else
        (configPopulateNetworkSecurity allocs args.securityType args.passphrase
          args.passphraseLen).map fun security =>
          { ro := ro
            ssid := ssid
            ssidLen := args.ssidLen.toNat
            bssid := if ∀ i, args.bssid i = 0 then none else some args.bssid
            rawStaPriority := args.rawStaPriority
            cac := args.cacEnabled
            bgscan := if bgscanWanted args then some (bgscanString args) else none
            twtConf := if twtConfig.twtMode = .requester then
                some ⟨twtConfig.twtWakeIntervalUs, twtConfig.twtMinWakeDurationUs,
                  twtConfig.twtSetupCommand⟩
              else none
            security := security }

/-! ## What the arguments say -/

/-- The SSID of the arguments. -/
def argSsid (args : MmwlanStaArgs) : List U8 := (List.ofFn args.ssid).take args.ssidLen.toNat

/-- The passphrase of the arguments: counted, or up to its NUL. -/
def argPassphrase (args : MmwlanStaArgs) : List U8 :=
  if args.passphraseLen = 0 then (List.ofFn args.passphrase).takeWhile (· ≠ 0)
  else (List.ofFn args.passphrase).take args.passphraseLen.toNat

/-- What accepted arguments satisfy. -/
structure ValidArgs (args : MmwlanStaArgs) : Prop where
  ssidLen : args.ssidLen.toNat ≤ 32
  passphraseLen : args.passphraseLen.toNat ≤ 100
  terminated : args.passphraseLen = 0 → strlen (List.ofFn args.passphrase) ≤ 100

variable {args : MmwlanStaArgs}

theorem validArgs_of_accepted
    (h : umacConnectionValidateStaArgs (some args) = true) : ValidArgs args := by
  unfold umacConnectionValidateStaArgs at h
  dsimp only at h
  have hall : strnlen (List.ofFn args.passphrase) (mmwlanPassphraseMaxlen + 1)
      = strlen (List.ofFn args.passphrase) := by
    rw [strnlen, List.take_of_length_le]
    rw [List.length_ofFn]
    exact Nat.le_refl _
  rw [hall] at h
  by_cases hlen : args.passphraseLen = 0
  · rw [if_pos hlen] at h
    split_ifs at h with hssid hlong
    refine ⟨Nat.not_lt.mp hssid, ?_, fun _ => Nat.not_lt.mp hlong⟩
    rw [hlen]
    decide
  · rw [if_neg hlen] at h
    split_ifs at h with hssid hlong
    exact ⟨Nat.not_lt.mp hssid, Nat.not_lt.mp hlong, fun hzero => absurd hzero hlen⟩

theorem strlen_le {bytes : List U8} {i : Nat} (h : bytes[i]? = some 0) : strlen bytes ≤ i := by
  induction bytes generalizing i with
  | nil => cases h
  | cons b bytes ih =>
    unfold strlen
    rw [List.takeWhile_cons]
    cases i with
    | zero =>
      obtain rfl : b = 0 := Option.some.inj h
      exact Nat.le_refl _
    | succ i =>
      split_ifs
      · exact Nat.succ_le_succ (ih h)
      · exact Nat.zero_le _

theorem strlen_bytesFromSsid_le (h : ValidArgs args) : strlen (bytesFromSsid args) ≤ 33 := by
  apply strlen_le
  have hhigh : ((args.ssidLen >>> 8).truncate 8 : U8) = 0 := by
    apply BitVec.eq_of_toNat_eq
    have hle := h.ssidLen
    rw [BitVec.truncate_eq_setWidth, BitVec.toNat_setWidth, BitVec.toNat_ushiftRight,
      Nat.shiftRight_eq_div_pow]
    show args.ssidLen.toNat / 256 % 256 = 0
    omega
  unfold bytesFromSsid
  rw [hhigh, List.append_assoc, List.getElem?_append_right (by simp)]
  simp

theorem argPassphrase_length (h : ValidArgs args) : (argPassphrase args).length
      = if args.passphraseLen = 0 then strlen (List.ofFn args.passphrase)
        else args.passphraseLen.toNat := by
  unfold argPassphrase
  split_ifs
  · rfl
  · have hle := h.passphraseLen
    rw [List.length_take, List.length_ofFn]
    omega

theorem cstr_passphrase (h : ValidArgs args) (hzero : args.passphraseLen = 0) :
    args.passphrase.cstr = some (argPassphrase args) := by
  have hterminated := h.terminated hzero
  unfold CArray.cstr argPassphrase
  rw [if_pos hzero, if_pos]
  by_contra hnone
  have hall : (List.ofFn args.passphrase).takeWhile (· ≠ 0) = List.ofFn args.passphrase := by
    rw [List.takeWhile_eq_self_iff]
    intro b hb
    exact decide_eq_true fun heq => hnone (heq ▸ hb)
  unfold strlen at hterminated
  rw [hall, List.length_ofFn] at hterminated
  omega

/-! ## From the arguments to the network block -/

/-- The count of the passphrase that is kept. -/
def keptLen (args : MmwlanStaArgs) : U16 :=
  if args.passphraseLen = 0 then BitVec.ofNat 16 (strlen (bytesFromSsid args))
  else args.passphraseLen

variable {mode : UmacConnectionMode}

theorem umacConnectionStart_eq {args stored : MmwlanStaArgs}
    (hstart : umacConnectionStart mode args = some stored) :
    ∃ passphrase, stored = { args with passphrase := passphrase, passphraseLen := keptLen args }
      ∧ (args.passphraseLen = 0 → passphrase = args.passphrase)
      ∧ ∀ j : Fin 101, j.val ≠ args.passphraseLen.toNat → passphrase j = args.passphrase j := by
  unfold umacConnectionStart at hstart
  split_ifs at hstart with _ hlen
  · obtain ⟨passphrase, hwrite, rfl⟩ := Option.map_eq_some_iff.mp hstart
    unfold keptLen
    rw [if_neg hlen]
    refine ⟨passphrase, rfl, fun hzero => absurd hzero hlen, fun j hj => ?_⟩
    unfold CArray.write at hwrite
    split_ifs at hwrite
    cases hwrite
    exact if_neg hj
  cases hstart
  unfold keptLen
  rw [if_pos (not_not.mp hlen)]
  exact ⟨args.passphrase, rfl, fun _ => rfl, fun _ _ => rfl⟩

theorem ofFn_take_congr {a b : CArray 101 U8} {len : Nat}
    (h : ∀ j : Fin 101, j.val ≠ len → a j = b j) :
    (List.ofFn a).take len = (List.ofFn b).take len := by
  apply List.ext_getElem?
  intro i
  by_cases hi : i < len
  · rw [List.getElem?_take_of_lt hi, List.getElem?_take_of_lt hi]
    by_cases hin : i < 101
    · rw [List.getElem?_eq_getElem (by rw [List.length_ofFn]; exact hin),
        List.getElem?_eq_getElem (by rw [List.length_ofFn]; exact hin), List.getElem_ofFn,
        List.getElem_ofFn, h ⟨i, hin⟩ (by show i ≠ len; omega)]
    · rw [List.getElem?_eq_none (by rw [List.length_ofFn]; omega),
        List.getElem?_eq_none (by rw [List.length_ofFn]; omega)]
  · rw [List.getElem?_take_eq_none (by omega), List.getElem?_take_eq_none (by omega)]

/-- The passphrase is counted, or its count happens to come out right: where the SSID has no bytes
before a NUL the count is left for the supplicant to find. -/
def CountedRight (args : MmwlanStaArgs) : Prop :=
  args.passphraseLen ≠ 0 ∨ strlen (bytesFromSsid args) = 0
    ∨ strlen (bytesFromSsid args) = (argPassphrase args).length

instance (args : MmwlanStaArgs) : Decidable (CountedRight args) :=
  inferInstanceAs (Decidable (_ ∨ _ ∨ _))

theorem keptLen_toNat_le (h : ValidArgs args) : (keptLen args).toNat ≤ 101 := by
  unfold keptLen
  split_ifs
  · have hle := strlen_bytesFromSsid_le h
    rw [BitVec.toNat_ofNat]
    omega
  · exact h.passphraseLen.trans (by decide)

theorem take_eq_string_iff {passphrase : CArray 101 U8} {len : Nat} (hlen : len ≤ 101) :
    (List.ofFn passphrase).take len = (List.ofFn passphrase).takeWhile (· ≠ 0)
      ↔ len = strlen (List.ofFn passphrase) := by
  constructor
  · intro heq
    have hlength := congrArg List.length heq
    rw [List.length_take, List.length_ofFn] at hlength
    unfold strlen
    omega
  · rintro rfl
    exact (List.prefix_iff_eq_take.mp (List.takeWhile_prefix _)).symm

theorem saePassword_eq_iff {args stored : MmwlanStaArgs}
    (h : ValidArgs args) (hstart : umacConnectionStart mode args = some stored) :
    populateSaePassword stored.passphrase stored.passphraseLen = some (argPassphrase args ++ [0])
      ↔ CountedRight args := by
  obtain ⟨passphrase, rfl, hsame, hbefore⟩ := umacConnectionStart_eq hstart
  unfold populateSaePassword CountedRight
  dsimp only
  by_cases hlen : args.passphraseLen = 0
  · obtain rfl := hsame hlen
    have hbound := strlen_bytesFromSsid_le h
    have hkept : (keptLen args).toNat = strlen (bytesFromSsid args) := by
      rw [keptLen, if_pos hlen, BitVec.toNat_ofNat]
      omega
    rw [or_iff_right (not_not.mpr hlen)]
    split_ifs with hzero
    · -- the count is left for the supplicant
      rw [hzero] at hkept
      rw [cstr_passphrase h hlen, ← hkept]
      exact iff_of_true rfl (.inl rfl)
    have hpos : strlen (bytesFromSsid args) ≠ 0 := fun heq =>
      hzero (BitVec.eq_of_toNat_eq (hkept.trans heq))
    rw [or_iff_right hpos, argPassphrase_length h, if_pos hlen, CArray.slice_of_le _ (by omega),
      Option.map_some, Option.some_inj, List.append_left_inj, List.drop_zero, hkept,
      argPassphrase, if_pos hlen]
    exact take_eq_string_iff (by omega)
  have hle := h.passphraseLen
  have hkept : keptLen args = args.passphraseLen := if_neg hlen
  rw [hkept, if_neg hlen, CArray.slice_of_le _ (by omega), List.drop_zero,
    ofFn_take_congr hbefore, argPassphrase, if_neg hlen]
  exact iff_of_true rfl (.inl hlen)

/-- The network block is given the SSID and, where there is one to give, the passphrase of the
arguments. -/
def GivenUnchanged (args : MmwlanStaArgs) (network : WpaSsid) : Prop :=
  network.ssid = argSsid args ∧ network.ssidLen = args.ssidLen.toNat
    ∧ (args.securityType = .sae →
      network.security.saePassword = some (argPassphrase args ++ [0]))

theorem configAddNetwork_eq {allocs : Allocs} {ro : Bool}
    {twtConfig : MmwlanTwtConfigArgs} {network : WpaSsid} (hssid : args.ssidLen.toNat ≤ 32)
    (hadd : configAddNetwork allocs ro args twtConfig = some network) :
    network.ssid = argSsid args ∧ network.ssidLen = args.ssidLen.toNat
      ∧ configPopulateNetworkSecurity allocs args.securityType args.passphrase
          args.passphraseLen = some network.security := by
  unfold configAddNetwork at hadd
  rw [CArray.slice_of_le _ (by omega), Option.bind_some] at hadd
  split_ifs at hadd
  all_goals
    obtain ⟨security, hsecurity, rfl⟩ := Option.map_eq_some_iff.mp hadd
    exact ⟨rfl, rfl, hsecurity⟩

theorem configPopulateNetworkSecurity_sae {allocs : Allocs} {passphrase : CArray 101 U8}
    {passphraseLen : U16} {security : NetworkSecurity}
    (h : configPopulateNetworkSecurity allocs .sae passphrase passphraseLen = some security) :
    security.saePassword = populateSaePassword passphrase passphraseLen := by
  unfold configPopulateNetworkSecurity at h
  dsimp only at h
  split_ifs at h
  obtain ⟨password, hpassword, rfl⟩ := Option.map_eq_some_iff.mp h
  exact hpassword.symm

theorem configAddNetwork_of_alloc
    (h : ValidArgs args) (hmode : mode = .none ∨ mode = .sta) (ro : Bool)
    (twtConfig : MmwlanTwtConfigArgs) :
    ∃ stored network, umacConnectionStart mode args = some stored
      ∧ configAddNetwork ⟨true, true, true, true⟩ ro stored twtConfig = some network := by
  have hkept : ∃ stored, umacConnectionStart mode args = some stored := by
    unfold umacConnectionStart
    rw [if_neg (by tauto)]
    split_ifs
    · have hle := h.passphraseLen
      rw [CArray.write_of_lt _ (by omega)]
      exact ⟨_, rfl⟩
    · exact ⟨_, rfl⟩
  obtain ⟨stored, hstart⟩ := hkept
  have hpassword : ∃ password,
      populateSaePassword stored.passphrase stored.passphraseLen = some password := by
    obtain ⟨passphrase, rfl, hsame, -⟩ := umacConnectionStart_eq hstart
    unfold populateSaePassword
    dsimp only
    split_ifs with hzero
    · by_cases hlen : args.passphraseLen = 0
      · rw [hsame hlen, cstr_passphrase h hlen]
        exact ⟨_, rfl⟩
      · exact absurd ((if_neg hlen).symm.trans hzero) hlen
    · have hle := keptLen_toNat_le h
      rw [CArray.slice_of_le _ (by omega)]
      exact ⟨_, rfl⟩
  obtain ⟨password, hpassword⟩ := hpassword
  have hsecurity : ∃ security, configPopulateNetworkSecurity ⟨true, true, true, true⟩
      stored.securityType stored.passphrase stored.passphraseLen = some security := by
    unfold configPopulateNetworkSecurity
    cases stored.securityType with
    | sae =>
      dsimp only
      rw [hpassword]
      exact ⟨_, rfl⟩
    | _ => exact ⟨_, rfl⟩
  obtain ⟨security, hsecurity⟩ := hsecurity
  have hssid : stored.ssidLen.toNat ≤ 32 := by
    obtain ⟨passphrase, rfl, -⟩ := umacConnectionStart_eq hstart
    exact h.ssidLen
  refine ⟨stored, ?_⟩
  unfold configAddNetwork
  rw [CArray.slice_of_le _ (by omega), Option.bind_some, hsecurity, hstart,
    if_neg (by decide), if_neg (by decide), if_neg (by simp)]
  exact ⟨_, rfl, rfl⟩

/-- **When the network block is given what the arguments say.**  For all arguments that are
accepted, whatever is in memory otherwise: the network block has the SSID, and with SAE the
passphrase, of the arguments, if and only if, with SAE, the passphrase is counted or its count comes
out right. -/
theorem network_unchanged_iff (args : MmwlanStaArgs)
    (hvalid : umacConnectionValidateStaArgs (some args) = true) (mode : UmacConnectionMode)
    (stored : MmwlanStaArgs) (hstart : umacConnectionStart mode args = some stored)
    (allocs : Allocs) (ro : Bool) (twtConfig : MmwlanTwtConfigArgs) (network : WpaSsid)
    (hadd : configAddNetwork allocs ro stored twtConfig = some network) :
    GivenUnchanged args network ↔ (args.securityType = .sae → CountedRight args) := by
  have h := validArgs_of_accepted hvalid
  have hpassword := saePassword_eq_iff h hstart
  have hlen : stored.ssidLen.toNat ≤ 32 := by
    obtain ⟨passphrase, rfl, -⟩ := umacConnectionStart_eq hstart
    exact h.ssidLen
  obtain ⟨hssid, hssidLen, hsecurity⟩ := configAddNetwork_eq hlen hadd
  obtain ⟨passphrase, rfl, -, -⟩ := umacConnectionStart_eq hstart
  unfold GivenUnchanged
  rw [and_iff_right (show network.ssid = argSsid args from hssid),
    and_iff_right (show network.ssidLen = args.ssidLen.toNat from hssidLen)]
  refine imp_congr_right fun hsae => ?_
  rw [show _ = MmwlanSecurityType.sae from hsae] at hsecurity
  rw [configPopulateNetworkSecurity_sae hsecurity]
  exact hpassword

/-- Arguments with the SSID, and the passphrase, that the bytes begin with; NULs follow. -/
def saeArgs (ssid passphrase : List U8) (passphraseLen : U16) : MmwlanStaArgs where
  ssid := fun i => ssid.getD i.val 0
  ssidLen := BitVec.ofNat 16 ssid.length
  bssid := fun _ => 0
  securityType := .sae
  passphrase := fun i => passphrase.getD i.val 0
  passphraseLen := passphraseLen
  rawStaPriority := -1
  cacEnabled := false
  bgscanShortIntervalS := 0
  bgscanSignalThresholdDbm := 0
  bgscanLongIntervalS := 0
  extraAssocIes := false
  extraAssocIesLen := 0

/-- The network of the arguments, with memory for it. -/
def networkOf (args : MmwlanStaArgs) : Option WpaSsid :=
  (umacConnectionStart .sta args).bind fun stored =>
    configAddNetwork ⟨true, true, true, true⟩ false stored ⟨.disabled, 0, 0, 0, 0, 0⟩

/-- A counted passphrase, shorter than the SSID. -/
theorem network_unchanged_counted :
    ∃ network, GivenUnchanged (saeArgs [0x6e, 0x65, 0x74] [0x70, 0x77] 2) network := by
  have hvalid : umacConnectionValidateStaArgs (some (saeArgs [0x6e, 0x65, 0x74] [0x70, 0x77] 2))
      = true := by decide
  obtain ⟨stored, network, hstart, hadd⟩ := configAddNetwork_of_alloc
    (validArgs_of_accepted hvalid) (.inr rfl) false ⟨.disabled, 0, 0, 0, 0, 0⟩
  refine ⟨network, (network_unchanged_iff _ hvalid .sta stored hstart ⟨true, true, true, true⟩
    false ⟨.disabled, 0, 0, 0, 0, 0⟩ network hadd).mpr fun _ => ?_⟩
  exact .inl (by decide)

/-- An SSID of three bytes, and a passphrase of four that ends at its NUL: the supplicant is given
the first three. -/
theorem passphrase_cut_to_ssid :
    let args := saeArgs [0x6e, 0x65, 0x74] [0x70, 0x61, 0x73, 0x73] 0
    umacConnectionValidateStaArgs (some args) = true
      ∧ argPassphrase args = [0x70, 0x61, 0x73, 0x73]
      ∧ (networkOf args).map (·.security.saePassword) = some (some [0x70, 0x61, 0x73, 0])
      ∧ ∀ network, networkOf args = some network → ¬ GivenUnchanged args network := by
  have hcut : (networkOf (saeArgs [0x6e, 0x65, 0x74] [0x70, 0x61, 0x73, 0x73] 0)).map
      (·.security.saePassword) = some (some [0x70, 0x61, 0x73, 0]) := by decide
  refine ⟨by decide, by decide, hcut, fun network hnetwork hgiven => ?_⟩
  rw [hnetwork, Option.map_some, hgiven.2.2 rfl] at hcut
  revert hcut
  decide

end MmIotEsp32.Umac.SupplicantShim.NetworkConfig
