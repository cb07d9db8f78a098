/-
  MmIotEsp32.Umac.Connection.ChipRestored

  What a restart of the chip gives back to it.

  The keys are all installed again, and so is a channel whose number is not 0.  The state of the
  station is restored as NONE or AUTHORIZED, never as AUTHENTICATED, and the parameters of the QoS
  queues are not restored at all.
-/
import MmIotEsp32.Umac.Connection.StationMoves

namespace MmIotEsp32.Umac.Connection

open Lib Interface Keys WnmSleep

/-! ## Keys -/

/-- What the driver is told of a key of a type that the chip knows. -/
def keyConf (key : UmacKey) : MmdrvKeyConf where
  isPairwise := key.keyType == .pairwise
  keyIdx := key.keyId
  length := key.keyLen
  txPn := key.txSeq
  key := fun i => if i.val < key.keyLen then key.keyData i else 0

/-- The key that the chip holds under an id: the last one installed, if it was not disabled. -/
def chipKey (calls : List MmdrvKeyCall) (keyId : U8) : Option MmdrvKeyConf :=
  match calls.find? fun c => c.keyIdx = keyId with
  | some (.installKey conf) => some conf
  | _ => none

/-- The key of the keychain that the chip should hold under an id. -/
def keyInForce (keys : ConnectionKeysData) (keyId : U8) : Option MmdrvKeyConf :=
  (keySlot? keyId).bind fun slot =>
    (installedKey keys slot).bind fun key =>
      if key.keyType.isHw then some (keyConf key) else none

section Reinstall

variable {keys : ConnectionKeysData} {keyId : U8}

theorem chipKey_mmdrvInstallKey (calls : List MmdrvKeyCall) (key : UmacKey) (keyId : U8) :
    chipKey (umacKeysMmdrvInstallKey calls key) keyId
      = if key.keyType.isHw = true ∧ keyId = key.keyId then some (keyConf key)
        else chipKey calls keyId := by
  unfold umacKeysMmdrvInstallKey chipKey
  by_cases hhw : key.keyType.isHw = true
  · rw [if_pos hhw]
    by_cases hid : keyId = key.keyId
    · rw [if_pos ⟨hhw, hid⟩, List.find?_cons_of_pos (by simp [MmdrvKeyCall.keyIdx, hid])]
      rfl
    · rw [if_neg fun h => hid h.2,
        List.find?_cons_of_neg (by simp [MmdrvKeyCall.keyIdx, Ne.symm hid])]
  · rw [if_neg hhw, if_neg fun h => hhw h.1]

theorem keyId_eq_iff (hok : SlotsOk keys) {slot : KeySlot} {key : UmacKey}
    (hkey : installedKey keys slot = some key) : keyId = key.keyId ↔ keySlot? keyId = some slot := by
  obtain ⟨p, hp, rfl⟩ := Option.map_eq_some_iff.mp hkey
  have hid := (hok.entry slot p hp).2
  rw [keySlot?_eq_some, ← hid]
  exact ⟨fun h => by rw [h], BitVec.eq_of_toNat_eq⟩

theorem keyInForce_of_slot {slot : KeySlot} {key : UmacKey} (hslot : keySlot? keyId = some slot)
    (hkey : installedKey keys slot = some key) :
    keyInForce keys keyId = if key.keyType.isHw then some (keyConf key) else none := by
  unfold keyInForce
  rw [hslot, Option.bind_some, hkey, Option.bind_some]

theorem reinstallLoop_other (hok : SlotsOk keys) {slots : List KeySlot} (calls : List MmdrvKeyCall)
    (hother : ∀ slot ∈ slots, keySlot? keyId = some slot → keyInForce keys keyId = none) :
    chipKey (reinstallLoop (fun _ => true) keys slots calls) keyId = chipKey calls keyId := by
  induction slots generalizing calls with
  | nil => rfl
  | cons slot rest ih =>
    have hrest := fun slot' h => hother slot' (List.mem_cons_of_mem _ h)
    unfold reinstallLoop
    cases hkey : installedKey keys slot with
    | none => exact ih calls hrest
    | some key =>
      dsimp only
      rw [if_neg (by simp), ih _ hrest, chipKey_mmdrvInstallKey, if_neg]
      rintro ⟨hhw, hid⟩
      have hslot := (keyId_eq_iff hok hkey).mp hid
      have hnone := hother slot (List.mem_cons_self ..) hslot
      rw [keyInForce_of_slot hslot hkey, if_pos hhw] at hnone
      cases hnone

theorem reinstallLoop_key (hok : SlotsOk keys) {slots : List KeySlot} (calls : List MmdrvKeyCall)
    {slot : KeySlot} {conf : MmdrvKeyConf} (hmem : slot ∈ slots)
    (hslot : keySlot? keyId = some slot) (hconf : keyInForce keys keyId = some conf) :
    chipKey (reinstallLoop (fun _ => true) keys slots calls) keyId = some conf := by
  induction slots generalizing calls with
  | nil => cases hmem
  | cons slot' rest ih =>
    unfold reinstallLoop
    by_cases hrest : slot ∈ rest
    · cases hkey : installedKey keys slot' with
      | none => exact ih calls hrest
      | some key =>
        dsimp only
        rw [if_neg (by simp)]
        exact ih _ hrest
    obtain rfl : slot = slot' := (List.mem_cons.mp hmem).resolve_right hrest
    cases hkey : installedKey keys slot with
    | none =>
      unfold keyInForce at hconf
      rw [hslot, Option.bind_some, hkey] at hconf
      cases hconf
    | some key =>
      rw [keyInForce_of_slot hslot hkey] at hconf
      by_cases hhw : key.keyType.isHw = true
      · rw [if_pos hhw] at hconf
        dsimp only
        rw [if_neg (by simp), reinstallLoop_other hok, chipKey_mmdrvInstallKey,
          if_pos ⟨hhw, (keyId_eq_iff hok hkey).mpr hslot⟩]
        · exact hconf
        · intro slot'' hmem'' hslot''
          obtain rfl := Option.some.inj (hslot.symm.trans hslot'')
          exact absurd hmem'' hrest
      · rw [if_neg hhw] at hconf
        cases hconf

theorem reinstallKeys_chipKey (hok : SlotsOk keys) (keyId : U8) :
    chipKey (umacKeysReinstallKeys (fun _ => true) ⟨keys, []⟩).calls keyId
      = keyInForce keys keyId := by
  unfold umacKeysReinstallKeys
  cases hforce : keyInForce keys keyId with
  | none => exact reinstallLoop_other hok [] fun _ _ _ => hforce
  | some conf =>
    cases hslot : keySlot? keyId with
    | none =>
      unfold keyInForce at hforce
      rw [hslot] at hforce
      cases hforce
    | some slot => exact reinstallLoop_key hok [] (List.mem_finRange slot) hslot hforce

end Reinstall

/-! ## What was set before -/

/-- The keychain is well formed, and AUTHORIZED was set last in CONNECTED only. -/
structure RecordOk (c : UmacConnectionData) : Prop where
  slots : SlotsOk c.keys
  authorized : c.fsmInst.currentState = .connected ↔ c.lastStaState = some .authorized

section Record

variable {u v : Umac} {c c' : UmacConnectionData}

theorem RecordOk.of_eq (h : RecordOk c) (hkeys : c'.keys = c.keys)
    (hstate : c'.fsmInst.currentState = c.fsmInst.currentState)
    (hlast : c'.lastStaState = c.lastStaState) : RecordOk c' where
  slots := by rw [hkeys]; exact h.slots
  authorized := by rw [hstate, hlast]; exact h.authorized

theorem recordOk_foldl {ι : Type} {f : Umac → ι → Umac}
    (hf : ∀ u i, RecordOk u.conn → RecordOk (f u i).conn) (is : List ι) (h : RecordOk u.conn) :
    RecordOk (is.foldl f u).conn := by
  induction is generalizing u with
  | nil => exact h
  | cons i is ih => exact ih (hf u i h)

theorem recordOk_setDrvQosCfgDefault (h : RecordOk u.conn) :
    RecordOk (umacConnectionSetDrvQosCfgDefault u).conn :=
  recordOk_foldl (fun u _ h => show RecordOk (cfgQosQueue u _).conn from h.of_eq rfl rfl rfl) _ h

theorem recordOk_updateDrvQosCfg (wmmIe : Aci → Dot11AcParameterRecord) (h : RecordOk u.conn) :
    RecordOk (umacConnectionUpdateDrvQosCfg u wmmIe).conn := by
  refine recordOk_foldl (fun u aci h => ?_) _ h
  split
  · exact h
  · exact h.of_eq rfl rfl rfl

theorem recordOk_disconnectedEntry {prevState : ConnectionFsmState} (hprev : prevState ≠ .disconnected)
    (hslots : SlotsOk u.conn.keys) (hstate : u.conn.fsmInst.currentState = .disconnected) :
    RecordOk (connectionFsmDisconnectedEntry prevState u).conn := by
  unfold connectionFsmDisconnectedEntry
  rw [if_pos hprev]
  refine recordOk_setDrvQosCfgDefault ⟨hslots, iff_of_false ?_ (by intro h; cases h)⟩
  show ¬ u.conn.fsmInst.currentState = .connected
  rw [hstate]
  decide

theorem recordOk_connMove (h : RecordOk u.conn) (hmove : ConnMove u v) : RecordOk v.conn := by
  cases hmove with
  | ignored => exact h
  | authenticating hq =>
    exact ⟨h.slots, iff_of_false (by intro h; cases h) fun hlast => hq (h.authorized.mpr hlast)⟩
  | connecting hq => exact ⟨h.slots, iff_of_false (by intro h; cases h) (by intro h; cases h)⟩
  | connected hq => exact ⟨h.slots, iff_of_true rfl rfl⟩
  | disconnected hq hne =>
    exact recordOk_disconnectedEntry (u := inState u .disconnected) hne h.slots rfl
  | lost w hq hmove hidle =>
    refine recordOk_disconnectedEntry (u := inState w .disconnected) (by decide) ?_ rfl
    show SlotsOk w.conn.keys
    rw [hmove.conn]
    exact h.slots

theorem recordOk_keys (h : RecordOk u.conn) {w : UmacKeys} (hslots : SlotsOk w.keys) :
    RecordOk (withKeys u w).conn := ⟨hslots, h.authorized⟩

theorem setChannel_conn (u : Umac) (s1gOperation : S1gOperation) :
    (umacInterfaceSetChannel u s1gOperation).1.conn = u.conn := by
  unfold umacInterfaceSetChannel
  split
  · rfl
  split
  · rfl
  · split
    · rfl
    · split <;> rfl

theorem recordOk_step (u : Umac) (e : UmacEvent) (u' : Umac) (hinv : StationOk u ∧ RecordOk u.conn)
    (hstep : umacStep u e = some u') : StationOk u' ∧ RecordOk u'.conn := by
  refine ⟨umacStep_ok u e u' hinv.1 hstep, ?_⟩
  obtain ⟨hok, h⟩ := hinv
  cases e with
  | setChannelList channelList =>
    change (if _ then _ else _) = _ at hstep
    split at hstep <;> (cases hstep; exact h)
  | setDefaultQosQueueParams params =>
    cases hstep
    exact h
  | connectionStart =>
    cases hstep
    unfold umacConnectionStart umacInterfaceAdd
    cases umacInterfaceIsActive u <;> exact h.of_eq rfl rfl rfl
  | connectionStop deauth =>
    cases hvif : u.conn.vifValid with
    | true =>
      obtain ⟨v, hmove, -, -, -, hstop, -⟩ := connectionStop_eq hok deauth hvif
      obtain rfl := Option.some.inj (hstop.symm.trans hstep)
      exact (recordOk_connMove h hmove).of_eq rfl rfl rfl
    | false =>
      obtain rfl := Option.some.inj ((connectionStop_ignored hok deauth hvif).symm.trans hstep)
      exact h
  | scanInterface add =>
    cases add with
    | true =>
      cases hstep
      unfold umacInterfaceAdd
      cases umacInterfaceIsActive u <;> exact h
    | false =>
      cases hscan : u.iface.scanActive with
      | true =>
        obtain rfl := Option.some.inj ((hok.removeScan hscan).1.symm.trans hstep)
        unfold removed
        cases u.iface.staActive <;> exact h
      | false =>
        obtain rfl := Option.some.inj ((removeScan_ignored hscan).symm.trans hstep)
        exact h
  | connectionFsm event =>
    change (if _ then _ else _) = _ at hstep
    split at hstep
    · obtain ⟨v, hv, hmove, -⟩ := connectionFsm_moves hok event
      obtain rfl := Option.some.inj (hv.symm.trans hstep)
      exact recordOk_connMove h hmove
    · cases hstep
      exact h
  | setBssCfg bssid channelCfg =>
    cases hstep
    show RecordOk (umacInterfaceSetChannel _ channelCfg).1.conn
    rw [setChannel_conn]
    exact h.of_eq rfl rfl rfl
  | channelSwitch s1gOperation =>
    cases hstep
    rw [setChannel_conn]
    exact h
  | authResp =>
    cases hstep
    exact h.of_eq rfl rfl rfl
  | assocRsp aid wmmIe =>
    cases hstep
    cases wmmIe with
    | none => exact h.of_eq rfl rfl rfl
    | some wmmIe => exact (recordOk_updateDrvQosCfg wmmIe h).of_eq rfl rfl rfl
  | installKey key =>
    cases hstep
    refine recordOk_keys h ?_
    exact umacKeysStep_slotsOk (w := ⟨u.conn.keys, u.drv.chip.keyCalls⟩) h.slots
      (show umacKeysStep _ (.install key) = some _ from rfl)
  | uninstallKey keyId =>
    obtain ⟨w, hw, rfl⟩ := Option.map_eq_some_iff.mp hstep
    refine recordOk_keys h ?_
    exact umacKeysStep_slotsOk (w := ⟨u.conn.keys, u.drv.chip.keyCalls⟩) h.slots
      (show umacKeysStep _ (.uninstall keyId) = some w from hw)
  | incrementTxSeq keyId =>
    obtain ⟨keys, hkeys, rfl⟩ := Option.map_eq_some_iff.mp hstep
    exact ⟨connectionKeysIncrementTxSeq_slotsOk h.slots hkeys, h.authorized⟩
  | setWnmSleep enabled power timeoutOk =>
    obtain ⟨v, hv, hmove, -⟩ := @setWnmSleep_moves u timeoutOk hok enabled power
    obtain rfl := Option.some.inj (hv.symm.trans hstep)
    rw [hmove.conn]
    exact h
  | wnmConfirmed enabled timeoutOk =>
    obtain ⟨v, hv, hmove, -⟩ := @wnmConfirmed_moves u timeoutOk hok enabled
    obtain rfl := Option.some.inj (hv.symm.trans hstep)
    rw [hmove.conn]
    exact h
  | retryTimeout timeoutOk =>
    obtain ⟨v, hv, hmove, -⟩ := @retryTimeout_moves u timeoutOk hok
    obtain rfl := Option.some.inj (hv.symm.trans hstep)
    rw [hmove.conn]
    exact h
  | hwRestarted =>
    rcases hwRestart_cases hok hstep with ⟨-, rfl⟩ | ⟨-, -, rfl⟩
    · exact h
    · cases u.conn.vifValid <;> exact h

end Record

/-! ## The restart -/

/-- The chip of `u'` has what the chip of `u` was told: the state set last by the connection, the
parameters applied last to each queue, the channel, and the keys in force. -/
structure ChipRestored (u u' : Umac) : Prop where
  sta : ∀ state, u.conn.lastStaState = some state →
    u'.drv.chip.sta.map ChipSta.state = some state
  qosQueues : ∀ aci, u'.drv.chip.qosQueues aci = u.conn.lastQosQueues aci
  channel : u'.drv.chip.channel = u.iface.lastChannel
  keys : ∀ keyId, chipKey u'.drv.chip.keyCalls keyId = keyInForce u.conn.keys keyId

/-- No queue was configured, AUTHENTICATED was not set last, and the channel that is set, if any,
has another number than 0. -/
def NothingForgotten (u : Umac) : Prop :=
  (∀ aci, u.conn.lastQosQueues aci = none) ∧ u.conn.lastStaState ≠ some .authenticated
    ∧ (u.iface.currentS1gOperation.operatingChannelIndex = 0 → u.iface.lastChannel = none)

theorem chipRestored_iff {u : Umac} (h : RecordOk u.conn) :
    ChipRestored u (restored { u with drv := mmdrvInit }) ↔ NothingForgotten u := by
  have hsta : (restored { u with drv := mmdrvInit }).drv.chip.sta.map ChipSta.state
      = some (if u.conn.fsmInst.currentState = .connected then .authorized else .none) := rfl
  have hchannel : (restored { u with drv := mmdrvInit }).drv.chip.channel
      = if u.iface.currentS1gOperation.operatingChannelIndex = 0 then none
        else u.iface.lastChannel := rfl
  constructor
  · intro hrestored
    refine ⟨fun aci => (hrestored.qosQueues aci).symm, fun hlast => ?_, fun hindex => ?_⟩
    · have hstate := hrestored.sta .authenticated hlast
      rw [hsta] at hstate
      split at hstate <;> cases hstate
    · rw [← hrestored.channel, hchannel, if_pos hindex]
  intro ⟨hqos, hlast, hindex⟩
  refine ⟨fun state hstate => ?_, fun aci => (hqos aci).symm, ?_, ?_⟩
  · rw [hsta]
    by_cases hconn : u.conn.fsmInst.currentState = .connected
    · rw [if_pos hconn]
      exact (h.authorized.mp hconn).symm.trans hstate
    rw [if_neg hconn]
    cases state with
    | none => rfl
    | authenticated => exact absurd hstate hlast
    | authorized => exact absurd (h.authorized.mpr hstate) hconn
  · rw [hchannel]
    split
    · next h0 => exact (hindex h0).symm
    · rfl
  · exact fun keyId => reinstallKeys_chipKey h.slots keyId

/-- **When a restart restores the chip**: in every state of every run with a STA interface, the
restart comes back, and the chip has what it was told before if and only if there is nothing that
the restart forgets. -/
theorem chip_restored_iff (config : UmacConfigData) (es : List UmacEvent) :
    Throughout umacStep
      (fun u => u.conn.vifValid = true → ∃ u',
        umacConnectionHandleHwRestarted { u with drv := mmdrvInit } = some u'
          ∧ (ChipRestored u u' ↔ NothingForgotten u))
      (umacInit config) es := by
  have hrecord : RecordOk (umacInit config).conn :=
    ⟨connectionKeysInit_inv.toSlotsOk, iff_of_false (by intro h; cases h) (by intro h; cases h)⟩
  have hruns := throughout_of_invariant recordOk_step ⟨stationOk_init config, hrecord⟩ es
  refine hruns.mono fun u ⟨hok, h⟩ hvif => ⟨restored { u with drv := mmdrvInit }, ?_, ?_⟩
  · exact umacConnectionHandleHwRestarted_eq (u := { u with drv := mmdrvInit }) hvif
      (hok.staActive.trans hvif) rfl hok.kept
  · exact chipRestored_iff h

/-- A station that is connected has configured its queues, and they are forgotten. -/
theorem qos_queues_forgotten :
    ¬ Throughout umacStep
      (fun u => u.conn.vifValid = true → ∃ u',
        umacConnectionHandleHwRestarted { u with drv := mmdrvInit } = some u' ∧ ChipRestored u u')
      (umacInit exampleConfig) exampleConnect := by
  intro h
  have hrun : runFrom umacStep (umacInit exampleConfig) exampleConnect = some _ := rfl
  obtain ⟨u', hu', hrestored⟩ := h.of_runFrom hrun rfl
  cases hu'
  have hqueue := hrestored.qosQueues 0
  cases hqueue

end MmIotEsp32.Umac.Connection
