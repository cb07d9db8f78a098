/-
  MmIotEsp32.Umac.Offload.OffloadRestored

  What a restart of the chip gives back of the offloads.

  Everything that is kept is given back, except the whitelist filters, which nobody gives back, and
  the parameters of standby, which are given back only in standby.  What is given back goes to the
  VIF that the station had when it was started.
-/
import Mathlib.Data.Fin.VecNotation
import MmIotEsp32.Umac.Offload.UmacOffload

namespace MmIotEsp32.Umac.Offload

open Lib Function

/-! ## The copies -/

/-- The copies that the module keeps are what the chip was told. -/
structure Copied (s : OffloadSys) : Prop where
  arp : s.told.arpAddr = s.data.arpAddr
  refresh : s.told.arpRefresh
    = if s.data.arpRefreshIntervalS = 0 then none
      else some (s.data.arpRefreshIntervalS, s.data.arpRefreshDestIp, s.data.arpRefreshGarp)
  dhcp : s.told.dhcp = s.data.dhcpOffloadEnabled
  keepalive : s.told.tcpKeepalive
    = if s.data.tcpKeepaliveEnabled then
        some (TcpKeepaliveConfig.unset.set s.data.tcpKeepaliveArgs)
      else none
  /-- A keep-alive that is disabled has nothing set. -/
  unset : s.data.tcpKeepaliveEnabled = false → s.data.tcpKeepaliveArgs = .zero
  standby : s.told.standby = if s.data.standbyModeEnabled then some s.bssid else none
  payload : s.told.statusPayload = s.data.standbySetStatusPayload
  wakeFilter : s.told.wakeFilter
    = if s.data.standbyWakeFilter.filter = [] then none else some s.data.standbyWakeFilter

theorem offloadStart_copied (vifId : U16) (bssid : Dot11.MacAddr) :
    Copied (offloadStart vifId bssid) :=
  ⟨rfl, rfl, rfl, rfl, fun _ => rfl, rfl, rfl, rfl⟩

theorem set_mergeKeepalive (kept args : TcpKeepaliveOffloadArgs) :
    TcpKeepaliveConfig.unset.set (mergeKeepalive kept args)
      = (TcpKeepaliveConfig.unset.set kept).set args := by
  unfold TcpKeepaliveConfig.set mergeKeepalive
  simp only [BitVec.getLsbD_or, Bool.or_eq_true, TcpKeepaliveConfig.mk.injEq]
  refine ⟨?_, ?_, ?_, ?_, ?_, ?_, ?_⟩ <;> (split <;> split <;> grind)

/-! ## Calls -/

section Calls

variable {s : OffloadSys}

theorem foldl_tell (s : OffloadSys) (calls : List MmdrvOffloadCall) :
    calls.foldl OffloadSys.tell s
      = { s with
          chip := update s.chip s.data.vifId
            (calls.foldl OffloadConfig.apply (s.chip s.data.vifId)) } := by
  induction calls generalizing s with
  | nil => simp
  | cons call rest ih =>
    rw [List.foldl_cons, ih]
    simp [OffloadSys.tell]

theorem call_configured_iff (hs : Configured s) (data : UmacOffloadData) (call : MmdrvOffloadCall) :
    Configured ({ s with data := data }.call call)
      ↔ data.vifId = s.connectionVifId ∨ s.told.apply call = s.told := by
  unfold Configured at hs ⊢
  show update s.chip data.vifId ((s.chip data.vifId).apply call) s.connectionVifId
    = s.told.apply call ↔ _
  by_cases hvif : data.vifId = s.connectionVifId
  · rw [hvif, update_self, hs]
    simp
  · rw [update_of_ne (Ne.symm hvif), hs]
    simp [hvif, eq_comm]

theorem offloadStep_copied (hc : Copied s) (event : OffloadEvent) :
    Copied (offloadStep s event) := by
  obtain ⟨harp, hrefresh, hdhcp, hkeepalive, hunset, hstandby, hpayload, hfilter⟩ := hc
  cases event with
  | arpResponse arpAddr =>
    exact ⟨rfl, hrefresh, hdhcp, hkeepalive, hunset, hstandby, hpayload, hfilter⟩
  | arpRefresh intervalS destIp sendAsGarp =>
    exact ⟨harp, rfl, hdhcp, hkeepalive, hunset, hstandby, hpayload, hfilter⟩
  | dhcpEnable => exact ⟨harp, hrefresh, rfl, hkeepalive, hunset, hstandby, hpayload, hfilter⟩
  | tcpKeepalive args =>
    cases args with
    | none => exact ⟨harp, hrefresh, hdhcp, rfl, fun _ => rfl, hstandby, hpayload, hfilter⟩
    | some args =>
      refine ⟨harp, hrefresh, hdhcp, ?_, nofun, hstandby, hpayload, hfilter⟩
      show some ((s.told.tcpKeepalive.getD .unset).set args)
        = some (TcpKeepaliveConfig.unset.set (mergeKeepalive s.data.tcpKeepaliveArgs args))
      rw [set_mergeKeepalive, hkeepalive]
      cases henabled : s.data.tcpKeepaliveEnabled with
      | true => rfl
      | false =>
        rw [hunset henabled]
        rfl
  | standbyEnter =>
    exact ⟨harp, hrefresh, hdhcp, hkeepalive, hunset, rfl, hpayload, hfilter⟩
  | standbyExit => exact ⟨harp, hrefresh, hdhcp, hkeepalive, hunset, rfl, hpayload, hfilter⟩
  | standbySetStatusPayload payload =>
    show Copied (umacOffloadStandbySetStatusPayload s payload)
    unfold umacOffloadStandbySetStatusPayload
    split
    · exact ⟨harp, hrefresh, hdhcp, hkeepalive, hunset, hstandby, hpayload, hfilter⟩
    · exact ⟨harp, hrefresh, hdhcp, hkeepalive, hunset, hstandby, rfl, hfilter⟩
  | standbySetWakeFilter wakeFilter =>
    show Copied (umacOffloadStandbySetWakeFilter s wakeFilter)
    unfold umacOffloadStandbySetWakeFilter
    split
    · exact ⟨harp, hrefresh, hdhcp, hkeepalive, hunset, hstandby, hpayload, hfilter⟩
    · exact ⟨harp, hrefresh, hdhcp, hkeepalive, hunset, hstandby, hpayload, rfl⟩
  | standbySetConfig config | whitelistFilter whitelist =>
    exact ⟨harp, hrefresh, hdhcp, hkeepalive, hunset, hstandby, hpayload, hfilter⟩
  | hwRestarted vifId =>
    show Copied (hwRestarted s vifId)
    unfold hwRestarted umacOffloadRestoreAll
    rw [foldl_tell]
    exact ⟨harp, hrefresh, hdhcp, hkeepalive, hunset, hstandby, hpayload, hfilter⟩

/-! ## Restorations -/

-- One kind of call after the other, to a chip that has not been told of it.

variable {config : OffloadConfig}

theorem foldl_arpResponse (hnew : config.arpAddr = 0) (arpAddr : U32) :
    (if arpAddr ≠ 0 then [.arpResponse arpAddr] else []).foldl OffloadConfig.apply config
      = { config with arpAddr := arpAddr } := by
  split
  · rfl
  · next hzero =>
      rw [not_not.mp hzero, ← hnew]
      rfl

theorem foldl_arpRefresh (hnew : config.arpRefresh = none)
    (intervalS destIp : U32) (sendAsGarp : Bool) :
    (if intervalS ≠ 0 then [.arpRefresh intervalS destIp sendAsGarp] else []).foldl
        OffloadConfig.apply config = { config with
          arpRefresh := if intervalS = 0 then none else some (intervalS, destIp, sendAsGarp) } := by
  by_cases hzero : intervalS = 0
  · rw [if_neg (not_not.mpr hzero), if_pos hzero, ← hnew]
    rfl
  · rw [if_pos hzero]
    rfl

theorem foldl_dhcp (hnew : config.dhcp = false) (enabled : Bool) :
    (if enabled then [.dhcpEnable, .dhcpDiscovery] else []).foldl OffloadConfig.apply config
      = { config with dhcp := enabled } := by
  cases enabled with
  | true => rfl
  | false =>
    rw [if_neg (by decide), ← hnew]
    rfl

theorem foldl_tcpKeepalive (hnew : config.tcpKeepalive = none)
    (enabled : Bool) (args : TcpKeepaliveOffloadArgs) :
    (if enabled then [.tcpKeepalive (some args)] else []).foldl OffloadConfig.apply config
      = { config with
          tcpKeepalive := if enabled then some (TcpKeepaliveConfig.unset.set args) else none } := by
  cases enabled with
  | true =>
    show { config with tcpKeepalive := some ((config.tcpKeepalive.getD .unset).set args) } = _
    rw [hnew]
    rfl
  | false =>
    rw [if_neg (by decide), if_neg (by decide), ← hnew]
    rfl

theorem foldl_standby (hpayload : config.statusPayload = [])
    (hfilter : config.wakeFilter = none) (data : UmacOffloadData) (bssid : Dot11.MacAddr) :
    (if data.standbyModeEnabled then [.standbySetConfig data.standbyConfig]
          ++ (if data.standbySetStatusPayload ≠ [] then
                [.standbySetStatusPayload data.standbySetStatusPayload] else [])
          ++ (if data.standbyWakeFilter.filter ≠ [] then
                [.standbySetWakeFilter data.standbyWakeFilter] else []) ++ [.standbyEnter bssid]
      else []).foldl OffloadConfig.apply config = if data.standbyModeEnabled then { config with
            standby := some bssid
            statusPayload := data.standbySetStatusPayload
            wakeFilter :=
              if data.standbyWakeFilter.filter = [] then none else some data.standbyWakeFilter
            standbyConfig := data.standbyConfig }
        else config := by
  cases data.standbyModeEnabled with
  | false => rfl
  | true =>
    rw [if_pos rfl, if_pos rfl]
    by_cases hlen : data.standbySetStatusPayload = [] <;>
      by_cases hflen : data.standbyWakeFilter.filter = [] <;>
      simp [hlen, hflen, OffloadConfig.apply, hpayload, hfilter]

theorem restoreCalls_config (hc : Copied s) :
    (umacOffloadRestoreCalls s.data s.bssid).foldl OffloadConfig.apply .initial
      = { s.told with
          statusPayload := if s.data.standbyModeEnabled then s.told.statusPayload else []
          wakeFilter := if s.data.standbyModeEnabled then s.told.wakeFilter else none
          standbyConfig :=
            if s.data.standbyModeEnabled then s.data.standbyConfig else .default
          whitelist := [] } := by
  unfold umacOffloadRestoreCalls
  rw [List.foldl_append, List.foldl_append, List.foldl_append, List.foldl_append,
    foldl_arpResponse rfl, foldl_arpRefresh rfl, foldl_dhcp rfl, foldl_tcpKeepalive rfl,
    foldl_standby rfl rfl, ← hc.arp, ← hc.refresh, ← hc.dhcp, ← hc.keepalive, ← hc.payload,
    ← hc.wakeFilter]
  have hstandby := hc.standby
  -- The restoration names the mode of standby, and so does the copy.
  cases hmode : s.data.standbyModeEnabled with
  | true =>
    rw [hmode, if_pos rfl] at hstandby
    simp only [if_true]
    rw [← hstandby]
    rfl
  | false =>
    rw [hmode, if_neg (by decide)] at hstandby
    simp only [Bool.false_eq_true, if_false]
    show (⟨_, _, _, _, none, _, _, _, _⟩ : OffloadConfig)
      = ⟨_, _, _, _, s.told.standby, _, _, _, _⟩
    rw [hstandby]
    rfl

/-! ## Histories -/

/-- What is not given back is as the chip starts. -/
def GivenBack (s : OffloadSys) : Prop :=
  s.told.whitelist = []
    ∧ if s.data.standbyModeEnabled then s.data.standbyConfig = s.told.standbyConfig
      else s.told.standbyConfig = .default ∧ s.told.statusPayload = [] ∧ s.told.wakeFilter = none

instance : DecidablePred GivenBack := fun _ => inferInstanceAs (Decidable (_ ∧ ite ..))

/-- A restart with the old VIF finds nothing to be lost, and one with a new VIF finds nothing set;
and a call that sets something reaches the station. -/
def OffloadKept (s : OffloadSys) : OffloadEvent → Prop
  | .hwRestarted vifId => if vifId = s.data.vifId then GivenBack s else s.told = .initial
  | event => s.data.vifId = s.connectionVifId ∨ (offloadStep s event).told = s.told

instance (s : OffloadSys) (event : OffloadEvent) : Decidable (OffloadKept s event) := by
  unfold OffloadKept
  split <;> infer_instance

theorem replaced_eq_iff (config : OffloadConfig) (payload : List U8)
    (wakeFilter : Option StandbyWakeFilter) (standbyConfig : StandbyConfig)
    (whitelist : List ConfigWhitelist) :
    { config with
        statusPayload := payload
        wakeFilter := wakeFilter
        standbyConfig := standbyConfig
        whitelist := whitelist } = config
      ↔ whitelist = config.whitelist ∧ standbyConfig = config.standbyConfig
        ∧ payload = config.statusPayload ∧ wakeFilter = config.wakeFilter := by
  constructor
  · intro h
    exact ⟨congrArg (·.whitelist) h, congrArg (·.standbyConfig) h, congrArg (·.statusPayload) h,
      congrArg (·.wakeFilter) h⟩
  · rintro ⟨rfl, rfl, rfl, rfl⟩
    rfl

theorem hwRestarted_configured_iff (hc : Copied s) (vifId : U16) :
    Configured (hwRestarted s vifId) ↔ OffloadKept s (.hwRestarted vifId) := by
  unfold Configured hwRestarted umacOffloadRestoreAll
  rw [foldl_tell]
  show update (fun _ => OffloadConfig.initial) s.data.vifId _ vifId = s.told
    ↔ if vifId = s.data.vifId then GivenBack s else s.told = .initial
  split
  · next hvif =>
      rw [hvif, update_self, restoreCalls_config hc, replaced_eq_iff]
      unfold GivenBack
      cases s.data.standbyModeEnabled <;> simp [eq_comm]
  · next hvif =>
      rw [update_of_ne hvif]
      exact eq_comm

theorem offloadStep_configured_iff (hc : Copied s) (hs : Configured s) (event : OffloadEvent) :
    Configured (offloadStep s event) ↔ OffloadKept s event := by
  cases event with
  | hwRestarted vifId => exact hwRestarted_configured_iff hc vifId
  | dhcpEnable =>
    -- The second of its calls sets nothing.
    have hfirst := call_configured_iff hs { s.data with dhcpOffloadEnabled := true } .dhcpEnable
    refine Iff.trans ?_ hfirst
    show Configured (OffloadSys.call _ .dhcpDiscovery) ↔ _
    unfold Configured OffloadSys.call OffloadSys.tell
    simp [OffloadConfig.apply]
  | standbySetStatusPayload payload =>
    show Configured (umacOffloadStandbySetStatusPayload s payload)
      ↔ _ ∨ (umacOffloadStandbySetStatusPayload s payload).told = s.told
    unfold umacOffloadStandbySetStatusPayload
    split
    · exact iff_of_true hs (Or.inr rfl)
    · exact call_configured_iff hs _ _
  | standbySetWakeFilter wakeFilter =>
    show Configured (umacOffloadStandbySetWakeFilter s wakeFilter)
      ↔ _ ∨ (umacOffloadStandbySetWakeFilter s wakeFilter).told = s.told
    unfold umacOffloadStandbySetWakeFilter
    split
    · exact iff_of_true hs (Or.inr rfl)
    · exact call_configured_iff hs _ _
  | tcpKeepalive args => cases args <;> exact call_configured_iff hs _ _
  | arpResponse arpAddr | arpRefresh intervalS destIp sendAsGarp | standbyEnter | standbyExit
  | standbySetConfig config | whitelistFilter whitelist =>
    exact call_configured_iff hs _ _

end Calls

/-- The offloads survive every restart, as long as every restart finds nothing to be lost. -/
theorem offloads_survive_iff (vifId : U16) (bssid : Dot11.MacAddr) (events : List OffloadEvent) :
    Throughout (fun s e => some (offloadStep s e)) Configured (offloadStart vifId bssid) events
      ↔ Along (fun s e => some (offloadStep s e)) OffloadKept (offloadStart vifId bssid)
          events := by
  have hstart : Configured (offloadStart vifId bssid) := rfl
  refine throughout_iff_along (J := Copied) ?_ ?_ hstart (offloadStart_copied vifId bssid) events
  · intro s e s' hc hs'
    cases hs'
    exact offloadStep_copied hc e
  · intro s e hc hs
    exact ⟨offloadStep s e, rfl, offloadStep_configured_iff hc hs e⟩

/-- A restart loses the filters, and what standby would do before it is entered; standby without a
configuration gets one of zeros; and a new VIF gets nothing. -/
theorem offloads_lost :
    ¬ Throughout (fun s e => some (offloadStep s e)) Configured (offloadStart 1 ![2, 0, 0, 0, 0, 1])
        [.whitelistFilter ⟨0, 6, 0x0800, 0, 0, 0, 0, 22⟩, .hwRestarted 1]
      ∧ ¬ Throughout (fun s e => some (offloadStep s e)) Configured
        (offloadStart 1 ![2, 0, 0, 0, 0, 1])
        [.standbySetConfig ⟨30, 1, 2, 22000, 60, 0, 120⟩, .hwRestarted 1, .standbyEnter]
      ∧ ¬ Throughout (fun s e => some (offloadStep s e)) Configured
        (offloadStart 1 ![2, 0, 0, 0, 0, 1]) [.standbyEnter, .hwRestarted 1]
      ∧ ¬ Throughout (fun s e => some (offloadStep s e)) Configured
        (offloadStart 1 ![2, 0, 0, 0, 0, 1]) [.arpResponse 0xC0A80102, .hwRestarted 2] := by
  refine ⟨?_, ?_, ?_, ?_⟩
  · intro h
    exact absurd (h.of_runFrom rfl) (by decide)
  · intro h
    exact absurd (h.of_runFrom rfl) (by decide)
  · intro h
    exact absurd (h.of_runFrom rfl) (by decide)
  · intro h
    exact absurd (h.of_runFrom rfl) (by decide)

end MmIotEsp32.Umac.Offload
