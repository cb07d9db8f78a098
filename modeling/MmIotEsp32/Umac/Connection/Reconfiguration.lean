/-
  MmIotEsp32.Umac.Connection.Reconfiguration

  What a reconfiguration that fails leaves behind (`umac_connection_set_bss_cfg` and
  `umac_connection_update_beacon_vendor_ie_filter` of `umac/connection/umac_connection.c`,
  `mmwlan_set_default_qos_queue_params` of `umac/umac.c`).
-/
import MmIotEsp32.Umac.Connection.BandwidthStepdown
import MmIotEsp32.Umac.UmacData

namespace MmIotEsp32.Umac.Reconfig

open Lib Interface Rc Function
open Connection (restrictChannelBandwidthConfig)

/-! ## Data model -/

/-- `enum mmwlan_status`, the values that are returned here. -/
inductive MmwlanStatus where
  | success
  | error
  | invalidArgument
  | unavailable
  | noMem
  | timedOut
  | channelInvalid
  deriving Repr, DecidableEq

structure UmacConnectionBssCfg where
  channelCfg : S1gOperation
  beaconInterval : U16
  deriving Repr, DecidableEq

/-- What is stored of the BSS: `bss_cfg`, and the two addresses of the STA record. -/
structure StoredBss where
  bssid : Dot11.MacAddr
  peerAddr : Dot11.MacAddr
  bssCfg : UmacConnectionBssCfg

/-- `struct mmwlan_beacon_vendor_ie_filter`; the functions to call back are numbered. -/
structure MmwlanBeaconVendorIeFilter where
  cb : Nat
  cbArg : Nat
  nOuis : U8
  ouis : List (BitVec 24)
  deriving Repr, DecidableEq

structure MmwlanQosQueueParams where
  aci : U8
  aifs : U8
  cwMin : U16
  cwMax : U16
  txopMaxUs : U32
  deriving Repr, DecidableEq

/-- `default_qos_queue_params`, by access category. -/
abbrev QosQueueTable := Fin 4 → MmwlanQosQueueParams

/-- The configuration that is stored. -/
structure Stored where
  bss : StoredBss
  beaconVendorIeFilter : Option MmwlanBeaconVendorIeFilter
  defaultQosQueueParams : QosQueueTable

/-- `struct umac_data`, as far as it is read. -/
structure UmacData where
  stored : Stored
  /-- `is_initialised` of the connection -/
  isInitialised : Bool
  /-- `current_state` is `CONNECTION_FSM_STATE_CONNECTED` -/
  connected : Bool
  /-- `active_interface_types` is not 0 -/
  interfaceActive : Bool
  currentS1gOperation : S1gOperation
  channelList : List S1gChannel
  opclassCheckEnabled : Bool
  capabilities : MorseCaps

/-- What the functions of the driver return: 0, or an error. -/
structure MmdrvReturns where
  setChannel : Int
  setTxpower : Int
  setDutyCycle : Int
  cfgMpsw : Int
  cfgBss : Int
  updateBeaconVendorIeFilter : Int
  deriving Repr, DecidableEq

/-! ## The channel -/

def morseRetEperm : Int := -1

def umacRegdbOpClassMatch (u : UmacData) (opClass : U8) (chan : S1gChannel) : Bool :=
  !u.opclassCheckEnabled || Interface.umacRegdbOpClassMatch opClass chan

/-- The settings of `umac_interface_set_channel_internal` that follow the channel. -/
def setChannelParams (u : UmacData) (ret : MmdrvReturns) : UmacData × MmwlanStatus :=
  if ret.setTxpower ≠ 0 then (u, .error)
  else if ret.setDutyCycle ≠ 0 then (u, .error)
  else if ret.cfgMpsw ≠ 0 then (u, .error)
  else (u, .success)

def umacInterfaceSetChannelInternal (u : UmacData) (ret : MmdrvReturns)
    (s1gOperation : S1gOperation) (s1gChannelInfo : S1gChannel) : UmacData × MmwlanStatus :=
  if !u.interfaceActive then (u, .error)
  else if 2 < s1gOperation.primaryChannelWidthMhz.toNat
      ∨ s1gOperation.operationChannelWidthMhz.toNat < s1gOperation.primaryChannelWidthMhz.toNat then
    (u, .channelInvalid)
  else if umacInterfaceMaxSupportedBw u.capabilities
      < s1gOperation.operationChannelWidthMhz.toNat then (u, .channelInvalid)
  else if s1gOperation.operationChannelWidthMhz ≠ s1gChannelInfo.bwMhz then (u, .channelInvalid)
  else if 1 < s1gOperation.primary1mhzChannelLoc.toNat
      ∨ s1gOperation.primary1mhzChannelLoc = s1gChannelInfo.bwMhz then (u, .channelInvalid)
  else
    match umacInterfaceCalcPri1mhzIdx u.channelList s1gOperation s1gChannelInfo with
    | none => (u, .channelInvalid)
    | some _ =>
      if u.currentS1gOperation = s1gOperation then setChannelParams u ret
      else if ret.setChannel ≠ 0 then
        (u, if ret.setChannel = morseRetEperm then .channelInvalid else .error)
      else setChannelParams { u with currentS1gOperation := s1gOperation } ret

def umacInterfaceSetChannel (u : UmacData) (ret : MmdrvReturns) (s1gOperation : S1gOperation) :
    UmacData × MmwlanStatus :=
  match umacRegdbGetChannel u.channelList s1gOperation.operatingChannelIndex with
  | none => (u, .channelInvalid)
  | some operatingChan =>
    if !umacRegdbOpClassMatch u s1gOperation.operatingClass operatingChan then
      (u, .channelInvalid)
    else umacInterfaceSetChannelInternal u ret s1gOperation operatingChan

/-! ## The three calls -/

def umacConnectionSetBssCfg (u : UmacData) (ret : MmdrvReturns) (bssid : Dot11.MacAddr)
    (config : UmacConnectionBssCfg) : UmacData × MmwlanStatus :=
  if !u.isInitialised then (u, .unavailable)
  else
    match restrictChannelBandwidthConfig u.capabilities config.channelCfg with
    | none => (u, .channelInvalid)
    | some channelCfg =>
      let bss : StoredBss := ⟨bssid, bssid, ⟨channelCfg, config.beaconInterval⟩⟩
      let set := umacInterfaceSetChannel { u with stored := { u.stored with bss := bss } } ret
        channelCfg
      if set.2 ≠ .success then set
      else if ret.cfgBss ≠ 0 then (set.1, .error)
      else set

-- the errors of the C library that a call of the driver may return
def enomem : Int := 12
def enodev : Int := 19
def enospc : Int := 28
def etimedout : Int := 116

/-- The status that the error of the driver is returned as. -/
def filterStatus (ret : Int) : MmwlanStatus :=
  if ret = 0 then .success
  else if ret = -enodev then .unavailable
  else if ret = -enospc then .invalidArgument
  else if ret = -enomem then .noMem
  else if ret = -etimedout then .timedOut
  else .error

def umacConfigSetBeaconVendorIeFilter (u : UmacData)
    (filter : Option MmwlanBeaconVendorIeFilter) : UmacData :=
  { u with stored := { u.stored with beaconVendorIeFilter := filter } }

def umacConnectionUpdateBeaconVendorIeFilter (u : UmacData) (ret : MmdrvReturns)
    (filter : Option MmwlanBeaconVendorIeFilter) : UmacData × MmwlanStatus :=
  let u := umacConfigSetBeaconVendorIeFilter u filter
  let ret := if u.connected then ret.updateBeaconVendorIeFilter else 0
  let u := if ret = 0 then umacConfigSetBeaconVendorIeFilter u filter else u
  (u, filterStatus ret)

scoped instance neZero4 : NeZero 4 := ⟨by decide⟩

/-- The access category of an entry, which was checked to be one. -/
def MmwlanQosQueueParams.index (params : MmwlanQosQueueParams) : Fin 4 :=
  Fin.ofNat 4 params.aci.toNat

/-- The loop of `mmwlan_set_default_qos_queue_params`, with `acis_updated`. -/
def setParamsLoop (acisUpdated : U8) (table : QosQueueTable) :
    List MmwlanQosQueueParams → QosQueueTable × MmwlanStatus
  | [] => (table, .success)
  | params :: rest =>
    if 3 < params.aci.toNat then (table, .invalidArgument)
    else if params.aifs.toNat < 2 then (table, .invalidArgument)
    else if acisUpdated &&& (1#8 <<< params.aci.toNat) ≠ 0 then (table, .invalidArgument)
    else
      setParamsLoop (acisUpdated ||| (1#8 <<< params.aci.toNat))
        (update table params.index params) rest

/-- `mmwlan_set_default_qos_queue_params`, with a list of `count` entries. -/
def mmwlanSetDefaultQosQueueParams (u : UmacData) (params : List MmwlanQosQueueParams) :
    UmacData × MmwlanStatus :=
  if params.length = 0 ∨ 4 < params.length then (u, .invalidArgument)
  else
    let (table, status) := setParamsLoop 0 u.stored.defaultQosQueueParams params
    ({ u with stored := { u.stored with defaultQosQueueParams := table } }, status)

/-! ## When a channel is taken -/

/-- A channel of the list that the operation can be set to. -/
structure ChannelFits (u : UmacData) (s1gOperation : S1gOperation) (chan : S1gChannel) : Prop where
  listed : umacRegdbGetChannel u.channelList s1gOperation.operatingChannelIndex = some chan
  opClass : umacRegdbOpClassMatch u s1gOperation.operatingClass chan = true
  primaryWidth : s1gOperation.primaryChannelWidthMhz.toNat ≤ 2
  primaryLe : s1gOperation.primaryChannelWidthMhz.toNat
    ≤ s1gOperation.operationChannelWidthMhz.toNat
  supported : s1gOperation.operationChannelWidthMhz.toNat
    ≤ umacInterfaceMaxSupportedBw u.capabilities
  width : s1gOperation.operationChannelWidthMhz = chan.bwMhz
  loc : s1gOperation.primary1mhzChannelLoc.toNat ≤ 1
  locInside : s1gOperation.primary1mhzChannelLoc ≠ chan.bwMhz
  primaryInside : (umacInterfaceCalcPri1mhzIdx u.channelList s1gOperation chan).isSome = true

/-- The channel fits, an interface is active, and the driver takes the settings. -/
structure ChannelTaken (u : UmacData) (ret : MmdrvReturns) (s1gOperation : S1gOperation) :
    Prop where
  fits : ∃ chan, ChannelFits u s1gOperation chan
  active : u.interfaceActive = true
  setChannel : u.currentS1gOperation = s1gOperation ∨ ret.setChannel = 0
  setTxpower : ret.setTxpower = 0
  setDutyCycle : ret.setDutyCycle = 0
  cfgMpsw : ret.cfgMpsw = 0

theorem setChannelParams_stored (u : UmacData) (ret : MmdrvReturns) :
    (setChannelParams u ret).1 = u := by
  unfold setChannelParams
  split_ifs <;> rfl

variable {u : UmacData} {ret : MmdrvReturns}

theorem setChannelParams_success_iff : (setChannelParams u ret).2 = .success
      ↔ ret.setTxpower = 0 ∧ ret.setDutyCycle = 0 ∧ ret.cfgMpsw = 0 := by
  unfold setChannelParams
  split_ifs with hpower hduty hmpsw
  · exact iff_of_false (by decide) fun h => hpower h.1
  · exact iff_of_false (by decide) fun h => hduty h.2.1
  · exact iff_of_false (by decide) fun h => hmpsw h.2.2
  · exact iff_of_true rfl ⟨not_not.mp hpower, not_not.mp hduty, not_not.mp hmpsw⟩

theorem umacInterfaceSetChannelInternal_stored (u : UmacData) (ret : MmdrvReturns)
    (s1gOperation : S1gOperation) (chan : S1gChannel) :
    (umacInterfaceSetChannelInternal u ret s1gOperation chan).1.stored = u.stored := by
  unfold umacInterfaceSetChannelInternal
  cases umacInterfaceCalcPri1mhzIdx u.channelList s1gOperation chan with
  | none =>
    dsimp only
    split_ifs <;> rfl
  | some idx =>
    dsimp only
    split_ifs <;> first | rfl | rw [setChannelParams_stored]

theorem umacInterfaceSetChannel_stored (u : UmacData) (ret : MmdrvReturns)
    (s1gOperation : S1gOperation) :
    (umacInterfaceSetChannel u ret s1gOperation).1.stored = u.stored := by
  unfold umacInterfaceSetChannel
  cases umacRegdbGetChannel u.channelList s1gOperation.operatingChannelIndex with
  | none => rfl
  | some chan =>
    dsimp only
    split_ifs
    · rfl
    · exact umacInterfaceSetChannelInternal_stored ..

theorem channelTaken_of_success {s1gOperation : S1gOperation}
    (h : (umacInterfaceSetChannel u ret s1gOperation).2 = .success) :
    ChannelTaken u ret s1gOperation := by
  unfold umacInterfaceSetChannel at h
  cases hlisted : umacRegdbGetChannel u.channelList s1gOperation.operatingChannelIndex with
  | none =>
    rw [hlisted] at h
    cases h
  | some chan =>
    rw [hlisted] at h
    dsimp only at h
    unfold umacInterfaceSetChannelInternal at h
    cases hidx : umacInterfaceCalcPri1mhzIdx u.channelList s1gOperation chan with
    | none =>
      rw [hidx] at h
      dsimp only at h
      split_ifs at h
    | some idx =>
      rw [hidx] at h
      dsimp only at h
      split_ifs at h with hclass hactive hprimary hsupported hwidth hloc hsame hset heperm
      case' pos =>
        have hdriver : u.currentS1gOperation = s1gOperation ∨ ret.setChannel = 0 := .inl hsame
      case' neg =>
        have hdriver : u.currentS1gOperation = s1gOperation ∨ ret.setChannel = 0 :=
          .inr (not_not.mp hset)
      all_goals
        have hfits : ChannelFits u s1gOperation chan :=
          { listed := hlisted
            opClass := by simpa using hclass
            primaryWidth := by omega
            primaryLe := by omega
            supported := by omega
            width := not_not.mp hwidth
            loc := by omega
            locInside := fun heq => hloc (.inr heq)
            primaryInside := by rw [hidx]; rfl }
        obtain ⟨hpower, hduty, hmpsw⟩ := setChannelParams_success_iff.mp h
        exact ⟨⟨chan, hfits⟩, by simpa using hactive, hdriver, hpower, hduty, hmpsw⟩

theorem umacInterfaceSetChannel_success_iff {s1gOperation : S1gOperation} :
    (umacInterfaceSetChannel u ret s1gOperation).2 = .success
      ↔ ChannelTaken u ret s1gOperation := by
  refine ⟨channelTaken_of_success, fun h => ?_⟩
  obtain ⟨chan, hfits⟩ := h.fits
  have hprimary := hfits.primaryWidth
  have hprimaryLe := hfits.primaryLe
  have hsupported := hfits.supported
  have hloc := hfits.loc
  obtain ⟨idx, hidx⟩ := Option.isSome_iff_exists.mp hfits.primaryInside
  unfold umacInterfaceSetChannel
  rw [hfits.listed]
  dsimp only
  rw [if_neg (by rw [hfits.opClass]; decide)]
  unfold umacInterfaceSetChannelInternal
  rw [if_neg (by rw [h.active]; decide), if_neg (by omega), if_neg (by omega),
    if_neg (not_not.mpr hfits.width),
    if_neg (not_or.mpr ⟨by omega, hfits.locInside⟩), hidx]
  dsimp only
  have hparams : ∀ u', (setChannelParams u' ret).2 = .success := fun u' =>
    setChannelParams_success_iff.mpr ⟨h.setTxpower, h.setDutyCycle, h.cfgMpsw⟩
  split_ifs with hsame hset heperm
  · exact hparams u
  · exact absurd hset (not_not.mpr (h.setChannel.resolve_left hsame))
  · exact absurd hset (not_not.mpr (h.setChannel.resolve_left hsame))
  · exact hparams _

/-! ## What the loop over the queues stores -/

/-- An entry that is in range, with an access category that no earlier entry has. -/
def EntryOk (earlier : List MmwlanQosQueueParams) (params : MmwlanQosQueueParams) : Prop :=
  params.aci.toNat ≤ 3 ∧ 2 ≤ params.aifs.toNat ∧ ∀ q ∈ earlier, q.aci ≠ params.aci

instance (earlier : List MmwlanQosQueueParams) (params : MmwlanQosQueueParams) :
    Decidable (EntryOk earlier params) :=
  inferInstanceAs (Decidable (_ ∧ _ ∧ _))

/-- The entries before the first that is not in order. -/
def entriesOk (earlier : List MmwlanQosQueueParams) :
    List MmwlanQosQueueParams → List MmwlanQosQueueParams
  | [] => []
  | params :: rest =>
    if EntryOk earlier params then params :: entriesOk (params :: earlier) rest else []

/-- Entries stored one after another. -/
def storeAll (table : QosQueueTable) : List MmwlanQosQueueParams → QosQueueTable
  | [] => table
  | params :: rest => storeAll (update table params.index params) rest

/-- `acis_updated` has the bits of the access categories of the entries. -/
def HasAcis (acisUpdated : U8) (earlier : List MmwlanQosQueueParams) : Prop :=
  ∀ aci : U8, aci.toNat ≤ 3 →
    (acisUpdated &&& (1#8 <<< aci.toNat) ≠ 0 ↔ ∃ q ∈ earlier, q.aci = aci)

theorem aciBit_and {a b : Nat} (ha : a ≤ 3) (hb : b ≤ 3) :
    (1#8 <<< a) &&& (1#8 <<< b) ≠ 0 ↔ a = b := by
  have hall : ∀ i : Fin 4, ∀ j : Fin 4,
      ((1#8 <<< i.val) &&& (1#8 <<< j.val) ≠ 0 ↔ i.val = j.val) := by decide
  exact hall ⟨a, by omega⟩ ⟨b, by omega⟩

theorem HasAcis.zero : HasAcis 0 [] := by
  intro aci _
  simp

variable {earlier : List MmwlanQosQueueParams}

theorem HasAcis.cons {acisUpdated : U8}
    (h : HasAcis acisUpdated earlier) {params : MmwlanQosQueueParams}
    (hrange : params.aci.toNat ≤ 3) :
    HasAcis (acisUpdated ||| (1#8 <<< params.aci.toNat)) (params :: earlier) := by
  intro aci haci
  have hbit := aciBit_and hrange haci
  have hold := h aci haci
  rw [BitVec.and_or_distrib_right, Ne, show (0 : U8) = 0#8 from rfl, BitVec.or_eq_zero_iff,
    not_and_or]
  constructor
  · rintro (hset | hset)
    · obtain ⟨q, hq, heq⟩ := hold.mp hset
      exact ⟨q, List.mem_cons_of_mem _ hq, heq⟩
    · exact ⟨params, List.mem_cons_self .., BitVec.eq_of_toNat_eq (hbit.mp hset)⟩
  rintro ⟨q, hq, rfl⟩
  obtain rfl | hq := List.mem_cons.mp hq
  · exact .inr (hbit.mpr rfl)
  · exact .inl (hold.mpr ⟨q, hq, rfl⟩)

theorem setParamsLoop_eq {acisUpdated : U8}
    (h : HasAcis acisUpdated earlier) (table : QosQueueTable) (params : List MmwlanQosQueueParams) :
    setParamsLoop acisUpdated table params = (storeAll table (entriesOk earlier params),
        if entriesOk earlier params = params then .success else .invalidArgument) := by
  induction params generalizing acisUpdated earlier table with
  | nil => rfl
  | cons params rest ih =>
    unfold setParamsLoop entriesOk
    by_cases hok : EntryOk earlier params
    · have hnew : ¬ acisUpdated &&& (1#8 <<< params.aci.toNat) ≠ 0 := by
        rw [h params.aci hok.1]
        rintro ⟨q, hq, heq⟩
        exact hok.2.2 q hq heq
      have hrange := hok.1
      have haifs := hok.2.1
      rw [if_neg (by omega), if_neg (by omega), if_neg hnew, if_pos hok, ih (h.cons hok.1)]
      simp only [List.cons.injEq, true_and]
      rfl
    rw [if_neg hok, if_neg (by simp : ¬ [] = params :: rest)]
    split_ifs with hrange haifs hold
    · rfl
    · rfl
    · rfl
    · refine absurd ⟨by omega, by omega, fun q hq heq => hold ?_⟩ hok
      exact (h params.aci (by omega)).mpr ⟨q, hq, heq⟩

theorem index_ne_of_mem_entriesOk {params : List MmwlanQosQueueParams} {q p : MmwlanQosQueueParams}
    (hq : q ∈ earlier) (hqrange : q.aci.toNat ≤ 3) (hp : p ∈ entriesOk earlier params) :
    p.index ≠ q.index := by
  induction params generalizing earlier with
  | nil => cases hp
  | cons params rest ih =>
    unfold entriesOk at hp
    split_ifs at hp with hok
    · obtain rfl | hp := List.mem_cons.mp hp
      · intro heq
        refine hok.2.2 q hq (BitVec.eq_of_toNat_eq ?_)
        have hval : p.aci.toNat % 4 = q.aci.toNat % 4 := congrArg Fin.val heq
        have hrange := hok.1
        omega
      · exact ih (List.mem_cons_of_mem _ hq) hp
    · cases hp

theorem storeAll_of_ne {params : List MmwlanQosQueueParams} {table : QosQueueTable} {i : Fin 4}
    (h : ∀ p ∈ params, p.index ≠ i) : storeAll table params i = table i := by
  induction params generalizing table with
  | nil => rfl
  | cons params rest ih =>
    unfold storeAll
    rw [ih fun p hp => h p (List.mem_cons_of_mem _ hp),
      update_of_ne (h params (List.mem_cons_self ..)).symm]

theorem storeAll_eq_self_iff {earlier params : List MmwlanQosQueueParams} {table : QosQueueTable} :
    storeAll table (entriesOk earlier params) = table
      ↔ ∀ p ∈ entriesOk earlier params, table p.index = p := by
  induction params generalizing earlier table with
  | nil => exact iff_of_true rfl fun p hp => by cases hp
  | cons params rest ih =>
    unfold entriesOk
    split_ifs with hok
    · have hlater : ∀ p ∈ entriesOk (params :: earlier) rest, p.index ≠ params.index :=
        fun p hp => index_ne_of_mem_entriesOk (List.mem_cons_self ..) hok.1 hp
      have hsame : table params.index = params →
          update table params.index params = table := fun hfirst => by
        conv_rhs => rw [← update_eq_self params.index table, hfirst]
      rw [List.forall_mem_cons]
      unfold storeAll
      constructor
      · intro h
        -- the first entry is where no later one is
        have hfirst : table params.index = params := by
          rw [← congrFun h params.index, storeAll_of_ne hlater, update_self]
        rw [hsame hfirst] at h
        exact ⟨hfirst, ih.mp h⟩
      · rintro ⟨hfirst, hrest⟩
        rw [hsame hfirst]
        exact ih.mpr hrest
    · exact iff_of_true rfl fun p hp => by cases hp

/-! ## Calls that fail -/

/-- One of the three calls, with what the driver returns. -/
inductive Reconfiguration where
  | setBssCfg (ret : MmdrvReturns) (bssid : Dot11.MacAddr) (config : UmacConnectionBssCfg)
  | updateBeaconVendorIeFilter (ret : MmdrvReturns) (filter : Option MmwlanBeaconVendorIeFilter)
  | setDefaultQosQueueParams (params : List MmwlanQosQueueParams)

/-- The call, with its status. -/
def Reconfiguration.run (u : UmacData) : Reconfiguration → UmacData × MmwlanStatus
  | .setBssCfg ret bssid config => umacConnectionSetBssCfg u ret bssid config
  | .updateBeaconVendorIeFilter ret filter =>
    umacConnectionUpdateBeaconVendorIeFilter u ret filter
  | .setDefaultQosQueueParams params => mmwlanSetDefaultQosQueueParams u params

/-- A call that fails leaves what is stored as it was. -/
def KeptIfFailed (u : UmacData) (call : Reconfiguration) : Prop :=
  (call.run u).2 ≠ .success → (call.run u).1.stored = u.stored

/-- When that is so.  A BSS must be turned down before it is stored, or be taken by the driver; a
filter must not be told to the driver, or be taken by it; of a list of queues nothing, or all, must
be in order; or what would be stored is what is stored already. -/
def FailsEarly (u : UmacData) : Reconfiguration → Prop
  | .setBssCfg ret bssid config =>
    ∀ channelCfg, u.isInitialised = true →
      restrictChannelBandwidthConfig u.capabilities config.channelCfg = some channelCfg →
      (ChannelTaken u ret channelCfg ∧ ret.cfgBss = 0)
        ∨ u.stored.bss = ⟨bssid, bssid, ⟨channelCfg, config.beaconInterval⟩⟩
  | .updateBeaconVendorIeFilter ret filter =>
    u.connected = false ∨ ret.updateBeaconVendorIeFilter = 0
      ∨ u.stored.beaconVendorIeFilter = filter
  | .setDefaultQosQueueParams params =>
    4 < params.length ∨ entriesOk [] params = params
      ∨ ∀ p ∈ entriesOk [] params, u.stored.defaultQosQueueParams p.index = p

theorem umacConnectionSetBssCfg_of_restricted {config : UmacConnectionBssCfg}
    {channelCfg : S1gOperation} (hinit : u.isInitialised = true)
    (hrestrict : restrictChannelBandwidthConfig u.capabilities config.channelCfg = some channelCfg)
    (ret : MmdrvReturns) (bssid : Dot11.MacAddr) :
    (umacConnectionSetBssCfg u ret bssid config).1.stored
        = { u.stored with bss := ⟨bssid, bssid, ⟨channelCfg, config.beaconInterval⟩⟩ }
      ∧ ((umacConnectionSetBssCfg u ret bssid config).2 = .success
        ↔ ChannelTaken u ret channelCfg ∧ ret.cfgBss = 0) := by
  let bss : StoredBss := ⟨bssid, bssid, ⟨channelCfg, config.beaconInterval⟩⟩
  let u' : UmacData := { u with stored := { u.stored with bss := bss } }
  have hstored : (umacInterfaceSetChannel u' ret channelCfg).1.stored = u'.stored :=
    umacInterfaceSetChannel_stored u' ret channelCfg
  have htaken : ChannelTaken u' ret channelCfg ↔ ChannelTaken u ret channelCfg :=
    ⟨fun h => ⟨h.fits.imp fun _ hf => { hf with }, h.active, h.setChannel, h.setTxpower,
      h.setDutyCycle, h.cfgMpsw⟩,
    fun h => ⟨h.fits.imp fun _ hf => { hf with }, h.active, h.setChannel, h.setTxpower,
      h.setDutyCycle, h.cfgMpsw⟩⟩
  have hsuccess : (umacInterfaceSetChannel u' ret channelCfg).2 = .success
      ↔ ChannelTaken u ret channelCfg := umacInterfaceSetChannel_success_iff.trans htaken
  unfold umacConnectionSetBssCfg
  rw [if_neg (by rw [hinit]; decide), hrestrict]
  show (if (umacInterfaceSetChannel u' ret channelCfg).2 ≠ .success then _ else _ :
      UmacData × MmwlanStatus).1.stored = u'.stored ∧ _
  dsimp only
  split_ifs with hfail hbss
  · refine ⟨hstored, iff_of_false hfail fun h => hfail (hsuccess.mpr h.1)⟩
  · exact ⟨hstored, iff_of_false (by decide) fun h => hbss h.2⟩
  · exact ⟨hstored, iff_of_true (not_not.mp hfail)
      ⟨hsuccess.mp (not_not.mp hfail), not_not.mp hbss⟩⟩

theorem setBssCfg_keptIfFailed_iff (u : UmacData) (ret : MmdrvReturns) (bssid : Dot11.MacAddr)
    (config : UmacConnectionBssCfg) :
    KeptIfFailed u (.setBssCfg ret bssid config)
      ↔ FailsEarly u (.setBssCfg ret bssid config) := by
  cases hinit : u.isInitialised with
  | false =>
    refine iff_of_true (fun _ => ?_) fun _ h => by rw [hinit] at h; cases h
    unfold Reconfiguration.run umacConnectionSetBssCfg
    simp only [hinit, Bool.not_false, if_true]
  | true =>
    cases hrestrict : restrictChannelBandwidthConfig u.capabilities config.channelCfg with
    | none =>
      refine iff_of_true (fun _ => ?_) fun _ _ h => by rw [hrestrict] at h; cases h
      unfold Reconfiguration.run umacConnectionSetBssCfg
      simp only [hinit, hrestrict, Bool.not_true, Bool.false_eq_true, if_false]
    | some channelCfg =>
      obtain ⟨hstored, hsuccess⟩ :=
        umacConnectionSetBssCfg_of_restricted hinit hrestrict ret bssid
      unfold KeptIfFailed Reconfiguration.run
      dsimp only
      rw [hstored, Ne, hsuccess]
      constructor
      · intro hkept channelCfg' _ heq
        obtain rfl := Option.some.inj (hrestrict.symm.trans heq)
        refine or_iff_not_imp_left.mpr fun hfails => ?_
        exact (congrArg Stored.bss (hkept hfails)).symm
      · intro hearly hfails
        rw [← (hearly channelCfg hinit hrestrict).resolve_left hfails]

theorem filterStatus_success_iff (ret : Int) : filterStatus ret = .success ↔ ret = 0 := by
  unfold filterStatus
  split_ifs with hzero
  · exact iff_of_true rfl hzero
  all_goals exact iff_of_false (by decide) hzero

theorem updateFilter_keptIfFailed_iff (u : UmacData) (ret : MmdrvReturns)
    (filter : Option MmwlanBeaconVendorIeFilter) :
    KeptIfFailed u (.updateBeaconVendorIeFilter ret filter)
      ↔ FailsEarly u (.updateBeaconVendorIeFilter ret filter) := by
  unfold KeptIfFailed FailsEarly Reconfiguration.run umacConnectionUpdateBeaconVendorIeFilter
  dsimp only
  have hstored : ∀ v : UmacData, v = umacConfigSetBeaconVendorIeFilter u filter →
      (v.stored = u.stored ↔ u.stored.beaconVendorIeFilter = filter) := by
    rintro _ rfl
    constructor
    · intro h
      exact (congrArg Stored.beaconVendorIeFilter h).symm
    · intro h
      show { u.stored with beaconVendorIeFilter := filter } = u.stored
      rw [← h]
  rw [Ne, filterStatus_success_iff]
  cases hconnected : u.connected with
  | false =>
    have : (umacConfigSetBeaconVendorIeFilter u filter).connected = false := hconnected
    rw [this]
    exact iff_of_true (fun hfails => absurd rfl hfails) (.inl rfl)
  | true =>
    have : (umacConfigSetBeaconVendorIeFilter u filter).connected = true := hconnected
    rw [this, if_pos rfl]
    rw [hstored _ (by split_ifs <;> rfl)]
    rw [or_iff_right (by decide), or_iff_not_imp_left]

theorem setParams_keptIfFailed_iff (u : UmacData) (params : List MmwlanQosQueueParams) :
    KeptIfFailed u (.setDefaultQosQueueParams params)
      ↔ FailsEarly u (.setDefaultQosQueueParams params) := by
  unfold KeptIfFailed FailsEarly Reconfiguration.run mmwlanSetDefaultQosQueueParams
  dsimp only
  split_ifs with hcount
  · refine iff_of_true (fun _ => rfl) ?_
    rcases hcount with hempty | hmany
    · rw [List.length_eq_zero_iff.mp hempty]
      exact .inr (.inl rfl)
    · exact .inl hmany
  rw [not_or] at hcount
  rw [setParamsLoop_eq .zero, or_iff_right hcount.2, ← storeAll_eq_self_iff,
    or_iff_not_imp_left]
  dsimp only
  have hfails : (if entriesOk [] params = params then MmwlanStatus.success
      else .invalidArgument) ≠ .success ↔ ¬ entriesOk [] params = params := by
    split_ifs with hall
    · exact iff_of_false (by decide) (not_not.mpr hall)
    · exact iff_of_true (by decide) hall
  rw [hfails]
  refine imp_congr_right fun _ => ⟨fun h => ?_, fun h => ?_⟩
  · exact congrArg Stored.defaultQosQueueParams h
  · rw [h]

theorem keptIfFailed_iff (u : UmacData) (call : Reconfiguration) :
    KeptIfFailed u call ↔ FailsEarly u call := by
  cases call with
  | setBssCfg ret bssid config => exact setBssCfg_keptIfFailed_iff u ret bssid config
  | updateBeaconVendorIeFilter ret filter => exact updateFilter_keptIfFailed_iff u ret filter
  | setDefaultQosQueueParams params => exact setParams_keptIfFailed_iff u params

/-! ## Runs -/

/-- The station, and the configuration that was accepted last. -/
structure Accepting where
  data : UmacData
  lastAccepted : Stored

/-- A call, or anything else that happens to the station, with what that stores. -/
inductive Event where
  | call (call : Reconfiguration)
  | other (next : UmacData)

def step (s : Accepting) : Event → Option Accepting
  | .call call =>
    let (data, status) := call.run s.data
    some ⟨data, if status = .success then data.stored else s.lastAccepted⟩
  | .other next => some ⟨next, next.stored⟩

/-- What is stored is what was accepted last. -/
def StoresAccepted (s : Accepting) : Prop := s.data.stored = s.lastAccepted

/-- The event is not a call, or one that keeps what is stored when it fails. -/
def CallFailsEarly (s : Accepting) : Event → Prop
  | .call call => FailsEarly s.data call
  | .other _ => True

theorem step_storesAccepted_iff {s : Accepting} (h : StoresAccepted s) (e : Event) :
    ∃ s', step s e = some s' ∧ (StoresAccepted s' ↔ CallFailsEarly s e) := by
  cases e with
  | other next => exact ⟨_, rfl, iff_of_true rfl trivial⟩
  | call call =>
    refine ⟨_, rfl, ?_⟩
    show (call.run s.data).1.stored = (if (call.run s.data).2 = .success
      then (call.run s.data).1.stored else s.lastAccepted) ↔ FailsEarly s.data call
    rw [← keptIfFailed_iff]
    unfold StoresAccepted at h
    unfold KeptIfFailed
    by_cases hok : (call.run s.data).2 = .success
    · rw [if_pos hok]
      exact iff_of_true rfl (absurd hok)
    · rw [if_neg hok, ← h]
      exact (imp_iff_right hok).symm

/-- **Which calls keep what is stored when they fail.**  For every state, driver and arguments: a
call that fails leaves the stored configuration as it was, if and only if it fails early enough or
was given what is stored already.  In a run what is stored is what was accepted last, if and only if
every call of it is one of those. -/
theorem failed_reconfiguration_keeps_iff (u : UmacData) :
    (∀ call, KeptIfFailed u call ↔ FailsEarly u call)
      ∧ ∀ es : List Event, Throughout step StoresAccepted ⟨u, u.stored⟩ es
          ↔ Along step CallFailsEarly ⟨u, u.stored⟩ es := by
  refine ⟨keptIfFailed_iff u, fun es => ?_⟩
  have hstart : StoresAccepted ⟨u, u.stored⟩ := rfl
  exact throughout_iff_along (J := fun _ => True) (fun _ _ _ _ _ => trivial)
    (fun s e _ h => step_storesAccepted_iff h e) hstart trivial es

/-- A station that is connected on the 2 MHz channel 38 of the US, with the default queues. -/
def connectedStation : UmacData where
  stored :=
    { bss := ⟨fun _ => 1, fun _ => 1, ⟨⟨1, 2, 0, 0, 69, 37, 38⟩, 100⟩⟩
      beaconVendorIeFilter := none
      defaultQosQueueParams := fun
        | 0 => ⟨0, 3, 15, 1023, 15008⟩
        | 1 => ⟨1, 7, 15, 1023, 15008⟩
        | 2 => ⟨2, 2, 7, 15, 15008⟩
        | 3 => ⟨3, 2, 3, 7, 15008⟩ }
  isInitialised := true
  connected := true
  interfaceActive := true
  currentS1gOperation := ⟨1, 2, 0, 0, 69, 37, 38⟩
  channelList := Mmregdb.s1gChannelsUs
  opclassCheckEnabled := true
  capabilities := ⟨true, false, false, false, false, false⟩

/-- The chip times out on a filter, a BSS is of a channel that is not listed, and the second of two
queues has an access category that does not exist: the three calls fail, and the filter, the BSS and
the first queue are stored. -/
theorem failed_reconfiguration_stored :
    let timedOut : MmdrvReturns := ⟨0, 0, 0, 0, 0, -etimedout⟩
    let filter : MmwlanBeaconVendorIeFilter := ⟨1, 0, 1, [0x0050f2]⟩
    let bss : UmacConnectionBssCfg := ⟨⟨1, 2, 0, 0, 69, 37, 39⟩, 200⟩
    let first : MmwlanQosQueueParams := ⟨0, 5, 15, 1023, 15008⟩
    let setFilter :=
      umacConnectionUpdateBeaconVendorIeFilter connectedStation timedOut (some filter)
    let setBss := umacConnectionSetBssCfg connectedStation timedOut (fun _ => 2) bss
    let setQueues := mmwlanSetDefaultQosQueueParams connectedStation [first, ⟨4, 2, 3, 7, 0⟩]
    (setFilter.2 = .timedOut ∧ setFilter.1.stored.beaconVendorIeFilter = some filter)
      ∧ (setBss.2 = .channelInvalid ∧ setBss.1.stored.bss.bssCfg = bss)
      ∧ (setQueues.2 = .invalidArgument ∧ setQueues.1.stored.defaultQosQueueParams 0 = first)
      ∧ ¬ KeptIfFailed connectedStation (.updateBeaconVendorIeFilter timedOut (some filter)) := by
  refine ⟨⟨by decide, by decide⟩, ⟨by decide, by decide⟩, ⟨by decide, by decide⟩, ?_⟩
  intro h
  have hsame := congrArg Stored.beaconVendorIeFilter (h (by decide))
  exact absurd hsame (by decide)

end MmIotEsp32.Umac.Reconfig
