/-
  MmIotEsp32.Umac.Offload.UmacOffload

  The offloads (`umac/offload/umac_offload.c`), and their restoration by
  `umac_connection_handle_hw_restarted`.
-/
import Mathlib.Logic.Function.Basic
import MmIotEsp32.Dot11.Dot11
import MmIotEsp32.Lib.Transition

namespace MmIotEsp32.Umac.Offload

open Lib

/-! ## Arguments -/

/-- `struct mmwlan_tcp_keepalive_offload_args`; the bits of `setCfgs` name the fields that count. -/
structure TcpKeepaliveOffloadArgs where
  setCfgs : U8
  periodS : U16
  retryCount : U8
  retryIntervalS : U8
  srcIp : U32
  destIp : U32
  srcPort : U16
  destPort : U16
  deriving Repr, DecidableEq

/-- Cleared by `memset`. -/
def TcpKeepaliveOffloadArgs.zero : TcpKeepaliveOffloadArgs := ⟨0, 0, 0, 0, 0, 0, 0, 0⟩

/-- `struct mmwlan_standby_config`, without the field that is no longer used. -/
structure StandbyConfig where
  notifyPeriodS : U32
  srcIp : U32
  dstIp : U32
  dstPort : U16
  snoozePeriodS : U32
  snoozeIncrementS : U32
  snoozeMaxS : U32
  deriving Repr, DecidableEq

def StandbyConfig.zero : StandbyConfig := ⟨0, 0, 0, 0, 0, 0, 0⟩

/-- What holds if `mmwlan_standby_set_config` is not called. -/
def StandbyConfig.default : StandbyConfig := ⟨15, 0, 0, 22000, 60, 0, -1⟩

/-- `struct mmwlan_standby_set_wake_filter_args`, the filter with its length. -/
structure StandbyWakeFilter where
  filter : List U8
  offset : U32
  deriving Repr, DecidableEq

/-- `struct mmwlan_config_whitelist`. -/
structure ConfigWhitelist where
  flags : U8
  ipProtocol : U8
  llcProtocol : U16
  srcIp : U32
  destIp : U32
  netmask : U32
  srcPort : U16
  destPort : U16
  deriving Repr, DecidableEq

/-- `MMWLAN_STANDBY_STATUS_FRAME_USER_PAYLOAD_MAXLEN`. -/
def statusFrameUserPayloadMaxlen : Nat := 64

/-- `MMWLAN_STANDBY_WAKE_FRAME_USER_FILTER_MAXLEN`. -/
def wakeFrameUserFilterMaxlen : Nat := 64

/-! ## The chip -/

/-- The calls of the driver that configure an offload. -/
inductive MmdrvOffloadCall where
  | arpResponse (arpAddr : U32)
  | arpRefresh (intervalS destIp : U32) (sendAsGarp : Bool)
  | dhcpEnable
  | dhcpDiscovery
  /-- `none` disables. -/
  | tcpKeepalive (args : Option TcpKeepaliveOffloadArgs)
  | standbyEnter (monitorBssid : Dot11.MacAddr)
  | standbyExit
  | standbySetStatusPayload (payload : List U8)
  | standbySetWakeFilter (wakeFilter : StandbyWakeFilter)
  | standbySetConfig (config : StandbyConfig)
  | whitelistFilter (whitelist : ConfigWhitelist)

/-- The fields of the TCP keep-alive that were set. -/
structure TcpKeepaliveConfig where
  periodS : Option U16
  retryCount : Option U8
  retryIntervalS : Option U8
  srcIp : Option U32
  destIp : Option U32
  srcPort : Option U16
  destPort : Option U16
  deriving Repr, DecidableEq

def TcpKeepaliveConfig.unset : TcpKeepaliveConfig := ⟨none, none, none, none, none, none, none⟩

/-- The configuration of the offloads of a VIF. -/
structure OffloadConfig where
  arpAddr : U32
  /-- The refresh, if its interval is not zero. -/
  arpRefresh : Option (U32 × U32 × Bool)
  dhcp : Bool
  tcpKeepalive : Option TcpKeepaliveConfig
  standby : Option Dot11.MacAddr
  statusPayload : List U8
  wakeFilter : Option StandbyWakeFilter
  standbyConfig : StandbyConfig
  whitelist : List ConfigWhitelist
  deriving DecidableEq

/-- How the chip starts. -/
def OffloadConfig.initial : OffloadConfig where
  arpAddr := 0
  arpRefresh := none
  dhcp := false
  tcpKeepalive := none
  standby := none
  statusPayload := []
  wakeFilter := none
  standbyConfig := .default
  whitelist := []

/-- The fields that the call names replace those that were set. -/
def TcpKeepaliveConfig.set (config : TcpKeepaliveConfig) (args : TcpKeepaliveOffloadArgs) :
    TcpKeepaliveConfig where
  periodS := if args.setCfgs.getLsbD 0 then some args.periodS else config.periodS
  retryCount := if args.setCfgs.getLsbD 1 then some args.retryCount else config.retryCount
  retryIntervalS :=
    if args.setCfgs.getLsbD 2 then some args.retryIntervalS else config.retryIntervalS
  srcIp := if args.setCfgs.getLsbD 3 then some args.srcIp else config.srcIp
  destIp := if args.setCfgs.getLsbD 4 then some args.destIp else config.destIp
  srcPort := if args.setCfgs.getLsbD 5 then some args.srcPort else config.srcPort
  destPort := if args.setCfgs.getLsbD 6 then some args.destPort else config.destPort

/-- What a call makes of the configuration. -/
def OffloadConfig.apply (config : OffloadConfig) : MmdrvOffloadCall → OffloadConfig
  | .arpResponse arpAddr => { config with arpAddr := arpAddr }
  | .arpRefresh intervalS destIp sendAsGarp =>
    { config with
      arpRefresh := if intervalS = 0 then none else some (intervalS, destIp, sendAsGarp) }
  | .dhcpEnable => { config with dhcp := true }
  | .dhcpDiscovery => config
  | .tcpKeepalive none => { config with tcpKeepalive := none }
  | .tcpKeepalive (some args) =>
    { config with tcpKeepalive := some ((config.tcpKeepalive.getD .unset).set args) }
  | .standbyEnter monitorBssid => { config with standby := some monitorBssid }
  | .standbyExit => { config with standby := none }
  | .standbySetStatusPayload payload => { config with statusPayload := payload }
  | .standbySetWakeFilter wakeFilter =>
    { config with wakeFilter := if wakeFilter.filter = [] then none else some wakeFilter }
  | .standbySetConfig standbyConfig => { config with standbyConfig := standbyConfig }
  | .whitelistFilter whitelist =>
    { config with
      whitelist :=
        -- MMWLAN_WHITELIST_FLAGS_CLEAR
        if whitelist.flags.getLsbD 0 then [] else config.whitelist ++ [whitelist] }

/-! ## The offload module -/

/-- `struct umac_offload_data`, as far as it is about the chip. -/
structure UmacOffloadData where
  vifId : U16
  arpAddr : U32
  arpRefreshIntervalS : U32
  arpRefreshDestIp : U32
  arpRefreshGarp : Bool
  dhcpOffloadEnabled : Bool
  standbyModeEnabled : Bool
  standbyConfig : StandbyConfig
  standbySetStatusPayload : List U8
  standbyWakeFilter : StandbyWakeFilter
  tcpKeepaliveEnabled : Bool
  tcpKeepaliveArgs : TcpKeepaliveOffloadArgs
  whitelistFilter : ConfigWhitelist
  deriving Repr, DecidableEq

/-- Cleared, and `umac_offload_init`. -/
def umacOffloadInit (vifId : U16) : UmacOffloadData where
  vifId := vifId
  arpAddr := 0
  arpRefreshIntervalS := 0
  arpRefreshDestIp := 0
  arpRefreshGarp := false
  dhcpOffloadEnabled := false
  standbyModeEnabled := false
  standbyConfig := .zero
  standbySetStatusPayload := []
  standbyWakeFilter := ⟨[], 0⟩
  tcpKeepaliveEnabled := false
  tcpKeepaliveArgs := .zero
  whitelistFilter := ⟨0, 0, 0, 0, 0, 0, 0, 0⟩

/-- The offload module, the VIF and the access point of the station, and the chip with the
configuration of each of its VIFs. -/
structure OffloadSys where
  data : UmacOffloadData
  /-- `vif_id` of the connection -/
  connectionVifId : U16
  bssid : Dot11.MacAddr
  chip : U16 → OffloadConfig
  told : OffloadConfig

/-- A call for the VIF of the offload module. -/
def OffloadSys.tell (s : OffloadSys) (call : MmdrvOffloadCall) : OffloadSys :=
  { s with
    chip := Function.update s.chip s.data.vifId ((s.chip s.data.vifId).apply call) }

/-- A call that a function of the application makes. -/
def OffloadSys.call (s : OffloadSys) (call : MmdrvOffloadCall) : OffloadSys :=
  { s.tell call with told := s.told.apply call }

def umacOffloadSetArpResponseOffload (s : OffloadSys) (arpAddr : U32) : OffloadSys :=
  { s with data := { s.data with arpAddr := arpAddr } }.call (.arpResponse arpAddr)

def umacOffloadSetArpRefresh (s : OffloadSys) (intervalS destIp : U32) (sendAsGarp : Bool) :
    OffloadSys :=
  { s with
    data := { s.data with
      arpRefreshIntervalS := intervalS
      arpRefreshDestIp := destIp
      arpRefreshGarp := sendAsGarp } }.call (.arpRefresh intervalS destIp sendAsGarp)

def umacOffloadDhcpEnable (s : OffloadSys) : OffloadSys :=
  ({ s with data := { s.data with dhcpOffloadEnabled := true } }.call .dhcpEnable).call
    .dhcpDiscovery

/-- The fields that the arguments name are copied. -/
def mergeKeepalive (kept args : TcpKeepaliveOffloadArgs) : TcpKeepaliveOffloadArgs where
  setCfgs := kept.setCfgs ||| args.setCfgs
  periodS := if args.setCfgs.getLsbD 0 then args.periodS else kept.periodS
  retryCount := if args.setCfgs.getLsbD 1 then args.retryCount else kept.retryCount
  retryIntervalS := if args.setCfgs.getLsbD 2 then args.retryIntervalS else kept.retryIntervalS
  srcIp := if args.setCfgs.getLsbD 3 then args.srcIp else kept.srcIp
  destIp := if args.setCfgs.getLsbD 4 then args.destIp else kept.destIp
  srcPort := if args.setCfgs.getLsbD 5 then args.srcPort else kept.srcPort
  destPort := if args.setCfgs.getLsbD 6 then args.destPort else kept.destPort

def umacOffloadConfigTcpKeepalive (s : OffloadSys) (args : Option TcpKeepaliveOffloadArgs) :
    OffloadSys :=
  let data :=
    match args with
    | some args =>
      { s.data with
        tcpKeepaliveEnabled := true
        tcpKeepaliveArgs := mergeKeepalive s.data.tcpKeepaliveArgs args }
    | none => { s.data with tcpKeepaliveEnabled := false, tcpKeepaliveArgs := .zero }
  { s with data := data }.call (.tcpKeepalive args)

def umacOffloadStandbyEnter (s : OffloadSys) : OffloadSys :=
  { s with data := { s.data with standbyModeEnabled := true } }.call (.standbyEnter s.bssid)

def umacOffloadStandbyExit (s : OffloadSys) : OffloadSys :=
  { s with data := { s.data with standbyModeEnabled := false } }.call .standbyExit

def umacOffloadStandbySetStatusPayload (s : OffloadSys) (payload : List U8) : OffloadSys :=
  if statusFrameUserPayloadMaxlen < payload.length then s
  else
    { s with data := { s.data with standbySetStatusPayload := payload } }.call
      (.standbySetStatusPayload payload)

def umacOffloadStandbySetWakeFilter (s : OffloadSys) (wakeFilter : StandbyWakeFilter) :
    OffloadSys :=
  if wakeFrameUserFilterMaxlen < wakeFilter.filter.length then s
  else
    { s with data := { s.data with standbyWakeFilter := wakeFilter } }.call
      (.standbySetWakeFilter wakeFilter)

def umacOffloadStandbySetConfig (s : OffloadSys) (config : StandbyConfig) : OffloadSys :=
  { s with data := { s.data with standbyConfig := config } }.call (.standbySetConfig config)

def umacOffloadSetWhitelistFilter (s : OffloadSys) (whitelist : ConfigWhitelist) : OffloadSys :=
  { s with data := { s.data with whitelistFilter := whitelist } }.call (.whitelistFilter whitelist)

/-- The calls of `umac_offload_restore_all`. -/
def umacOffloadRestoreCalls (data : UmacOffloadData) (bssid : Dot11.MacAddr) :
    List MmdrvOffloadCall :=
  (if data.arpAddr ≠ 0 then [.arpResponse data.arpAddr] else [])
    ++ (if data.arpRefreshIntervalS ≠ 0 then
          [.arpRefresh data.arpRefreshIntervalS data.arpRefreshDestIp data.arpRefreshGarp]
        else [])
    ++ (if data.dhcpOffloadEnabled then [.dhcpEnable, .dhcpDiscovery] else [])
    ++ (if data.tcpKeepaliveEnabled then [.tcpKeepalive (some data.tcpKeepaliveArgs)] else [])
    ++ (if data.standbyModeEnabled then
          [.standbySetConfig data.standbyConfig]
            ++ (if data.standbySetStatusPayload ≠ [] then
                  [.standbySetStatusPayload data.standbySetStatusPayload]
                else [])
            ++ (if data.standbyWakeFilter.filter ≠ [] then
                  [.standbySetWakeFilter data.standbyWakeFilter]
                else [])
            ++ [.standbyEnter bssid]
        else [])

def umacOffloadRestoreAll (s : OffloadSys) : OffloadSys :=
  (umacOffloadRestoreCalls s.data s.bssid).foldl OffloadSys.tell s

/-- The chip forgets everything, and `umac_connection_handle_hw_restarted` installs the VIF of the
station again, under the id that the chip gives it. -/
def hwRestarted (s : OffloadSys) (vifId : U16) : OffloadSys :=
  umacOffloadRestoreAll { s with chip := fun _ => .initial, connectionVifId := vifId }

/-! ## Histories -/

/-- A call of the application, or a restart of the chip. -/
inductive OffloadEvent where
  | arpResponse (arpAddr : U32)
  | arpRefresh (intervalS destIp : U32) (sendAsGarp : Bool)
  | dhcpEnable
  /-- `none` disables. -/
  | tcpKeepalive (args : Option TcpKeepaliveOffloadArgs)
  | standbyEnter
  | standbyExit
  | standbySetStatusPayload (payload : List U8)
  | standbySetWakeFilter (wakeFilter : StandbyWakeFilter)
  | standbySetConfig (config : StandbyConfig)
  | whitelistFilter (whitelist : ConfigWhitelist)
  | hwRestarted (vifId : U16)
  deriving DecidableEq

def offloadStep (s : OffloadSys) : OffloadEvent → OffloadSys
  | .arpResponse arpAddr => umacOffloadSetArpResponseOffload s arpAddr
  | .arpRefresh intervalS destIp sendAsGarp =>
    umacOffloadSetArpRefresh s intervalS destIp sendAsGarp
  | .dhcpEnable => umacOffloadDhcpEnable s
  | .tcpKeepalive args => umacOffloadConfigTcpKeepalive s args
  | .standbyEnter => umacOffloadStandbyEnter s
  | .standbyExit => umacOffloadStandbyExit s
  | .standbySetStatusPayload payload => umacOffloadStandbySetStatusPayload s payload
  | .standbySetWakeFilter wakeFilter => umacOffloadStandbySetWakeFilter s wakeFilter
  | .standbySetConfig config => umacOffloadStandbySetConfig s config
  | .whitelistFilter whitelist => umacOffloadSetWhitelistFilter s whitelist
  | .hwRestarted vifId => hwRestarted s vifId

/-- A station that has just been started. -/
def offloadStart (vifId : U16) (bssid : Dot11.MacAddr) : OffloadSys where
  data := umacOffloadInit vifId
  connectionVifId := vifId
  bssid := bssid
  chip := fun _ => .initial
  told := .initial

/-- The VIF of the station is configured as the calls have left it. -/
def Configured (s : OffloadSys) : Prop := s.chip s.connectionVifId = s.told

instance : DecidablePred Configured := fun _ => inferInstanceAs (Decidable (_ = _))

end MmIotEsp32.Umac.Offload
