/-
  MmIotEsp32.Umac.WnmSleep.ChipAgreement

  WNM sleep and the chip.
-/
import MmIotEsp32.Umac.Connection.StationMoves

namespace MmIotEsp32.Umac.WnmSleep

open Lib Connection Interface

/-! ## Agreement -/

/-- The health check is not vetoed and the datapath is not paused, for WNM sleep. -/
def Resumed (u : Umac) : Prop :=
  u.drv.periodicCheckVetoes &&& vetoWnmSleep = 0 ∧ u.txPaused &&& pauseSourceWnmSleep = 0

/-- Outside ACTIVE the chip does not sleep. -/
def Agrees (u : Umac) : Prop :=
  u.wnm.fsmInst.currentState ≠ .active → u.drv.chip.wnmSleep = false ∧ Resumed u

instance : DecidablePred Agrees := fun u =>
  inferInstanceAs (Decidable (u.wnm.fsmInst.currentState ≠ .active →
    u.drv.chip.wnmSleep = false ∧ u.drv.periodicCheckVetoes &&& vetoWnmSleep = 0
      ∧ u.txPaused &&& pauseSourceWnmSleep = 0))

/-- The event makes a station that sleeps leave ACTIVE; if it removes the interface of the station,
only when the chip is not stopped with it. -/
def Wakes (u : Umac) : UmacEvent → Prop
  | .setWnmSleep enabled _ _ => enabled = false
  | .connectionFsm event => event = .disconnect
  | .connectionStop _ => u.iface.scanActive = true
  | _ => False

theorem and_not_and {n : Nat} (x m : BitVec n) : x &&& ~~~m &&& m = 0#n := by
  ext i
  simp

section Steps

variable {u v : Umac} {timeoutOk : Bool}

/-! ## What the moves do to the chip -/

/-- What the step from `u` has done to the chip, outside ACTIVE: it sleeps if it was powered
down. -/
def ChipAfter (u v : Umac) : Prop :=
  v.wnm.fsmInst.currentState ≠ .active →
    (v.drv.chip.wnmSleep = true ↔ PoweredDown u) ∧ Resumed v

theorem agrees_same (h : SameStation u v) (hu : Agrees u) : Agrees v := by
  unfold Agrees Resumed
  rw [h.wnm, h.wnmSleep, h.vetoes, h.txPaused]
  exact hu

theorem chipAfter_same {w : Umac} (h : SameStation v w) (hv : ChipAfter u v) :
    ChipAfter u w := by
  unfold ChipAfter Resumed
  rw [h.wnm, h.wnmSleep, h.vetoes, h.txPaused]
  exact hv

theorem chipAfter_of_agrees (hq : u.wnm.fsmInst.currentState ≠ .active) (h : Agrees v) :
    ChipAfter u v := by
  intro hv
  obtain ⟨hsleep, hresumed⟩ := h hv
  rw [hsleep]
  exact ⟨iff_of_false (by decide) (not_poweredDown hq), hresumed⟩

theorem awake_chip (hok : StationOk u) (hactive : u.wnm.fsmInst.currentState = .active) :
    ((awake u).drv.chip.wnmSleep = true ↔ PoweredDown u) ∧ Resumed (awake u) := by
  have hconn := hok.wnmConnected (by rw [hactive]; decide)
  have hstarted := hok.started
  unfold PoweredDown awake
  cases hpower : u.config.chipPowerdownEnabled with
  | true =>
    refine ⟨iff_of_true ?_ ⟨hactive, rfl⟩, and_not_and _ _, and_not_and _ _⟩
    exact if_pos ⟨hconn, hactive⟩
  | false =>
    refine ⟨iff_of_false ?_ fun h => (by cases h.2), and_not_and _ _, and_not_and _ _⟩
    have hisActive : umacInterfaceIsActive u = true := by
      unfold umacInterfaceIsActive
      rw [hok.sta (by rw [hactive]; decide), Bool.true_or]
    have hdrv : u.drv.started = true :=
      hstarted.mpr ⟨hisActive, fun h => absurd (hpower.symm.trans h.2) (by decide)⟩
    show ¬ (u.drv.tell _).chip.wnmSleep = true
    rw [tell_started hdrv]
    simp

theorem chipAfter_wnmMove (hok : StationOk u) (hu : Agrees u) (hmove : WnmMove timeoutOk u v) :
    ChipAfter u v := by
  cases hmove with
  | ignored =>
    intro hq
    exact chipAfter_of_agrees hq hu hq
  | refused | settled enabled hquiet =>
    intro hq
    exact chipAfter_of_agrees (v := u) hq hu hq
  | enter power h hconn =>
    have hq : u.wnm.fsmInst.currentState ≠ .active := by rw [h]; decide
    exact chipAfter_of_agrees hq fun _ => hu hq
  | leave h | woken h => exact fun _ => awake_chip hok h
  | sleep h => exact fun hq => absurd rfl hq
  | retried enabled h hretries | ended enabled event status h hstatus =>
    have hq : u.wnm.fsmInst.currentState ≠ .active := by rw [h]; cases enabled <;> decide
    exact chipAfter_of_agrees hq fun _ => hu hq

theorem chipAfter_connMove (hok : StationOk u) (hu : Agrees u) (hmove : ConnMove u v) :
    ChipAfter u v := by
  have hquiet : u.conn.fsmInst.currentState ≠ .connected → ∀ {w : Umac}, Agrees w → ChipAfter u w := by
    intro hconn w hw
    exact chipAfter_of_agrees (by rw [hok.idle_of_not_connected hconn]; decide) hw
  cases hmove with
  | ignored => exact @chipAfter_wnmMove u u true hok hu .ignored
  | authenticating h => exact hquiet h (w := inState u .authenticating) hu
  | connecting h =>
    exact hquiet (by rw [h]; decide)
      (agrees_same (sameStation_setStaState (inState u .connecting) _) hu)
  | connected h =>
    exact hquiet (by rw [h]; decide)
      (agrees_same (sameStation_setStaState (inState u .connected) _) hu)
  | disconnected h hne =>
    exact hquiet h (agrees_same (same_disconnectedEntry _ (inState u .disconnected)).1 hu)
  | lost w h hmove hidle =>
    have hw : ChipAfter u w := chipAfter_wnmMove hok hu hmove
    exact chipAfter_same (same_disconnectedEntry _ (inState w .disconnected)).1
      (show ChipAfter u (inState w .disconnected) from hw)

/-! ## Events -/

theorem agrees_iff_of_wakes {e : UmacEvent} {wakes : Prop} (hstep : umacStep u e = some v)
    (hchip : ChipAfter u v)
    (hwakes : u.wnm.fsmInst.currentState = .active →
      (v.wnm.fsmInst.currentState = .active ↔ ¬ wakes)) :
    (∀ v', umacStep u e = some v' → Agrees v') ↔ (PoweredDown u → ¬ wakes) := by
  constructor
  · intro h hpowered hwake
    have hq : v.wnm.fsmInst.currentState ≠ .active := fun hq => (hwakes hpowered.1).mp hq hwake
    have hasleep := (hchip hq).1.mpr hpowered
    rw [(h v hstep hq).1] at hasleep
    cases hasleep
  intro h v' hv' hq
  obtain rfl := Option.some.inj (hstep.symm.trans hv')
  obtain ⟨hsleep, hresumed⟩ := hchip hq
  refine ⟨Bool.eq_false_iff.mpr fun hasleep => ?_, hresumed⟩
  have hpowered := hsleep.mp hasleep
  exact hq ((hwakes hpowered.1).mpr (h hpowered))

theorem agrees_iff_of_agrees {e : UmacEvent} (h : ∀ v, umacStep u e = some v → Agrees v) :
    (∀ v, umacStep u e = some v → Agrees v) ↔ (PoweredDown u → ¬ False) :=
  iff_of_true h fun _ => not_false

theorem agrees_reset (hu : Agrees u) {w : Umac} (hwnm : w.wnm = u.wnm)
    (hpaused : w.txPaused = u.txPaused) (hvetoes : w.drv.periodicCheckVetoes = 0)
    (hsleep : w.drv.chip.wnmSleep = false) : Agrees w := by
  intro hq
  rw [hwnm] at hq
  refine ⟨hsleep, ?_, ?_⟩
  · rw [hvetoes]
    decide
  · rw [hpaused]
    exact (hu hq).2.2

theorem agrees_step_iff (hok : StationOk u) (hu : Agrees u) (e : UmacEvent) :
    (∀ v, umacStep u e = some v → Agrees v) ↔ (PoweredDown u → ¬ Wakes u e) := by
  have hnotVif : u.conn.vifValid = false → ¬ PoweredDown u := fun hvif h => by
    rw [hok.vif (by rw [h.1]; decide)] at hvif
    cases hvif
  cases e with
  | setChannelList channelList =>
    refine agrees_iff_of_agrees fun v hv => ?_
    change (if _ then _ else _) = _ at hv
    split at hv <;> (cases hv; exact hu)
  | connectionStart =>
    refine agrees_iff_of_agrees fun v hv => ?_
    cases hv
    unfold Connection.umacConnectionStart Connection.umacInterfaceAdd
    cases umacInterfaceIsActive u with
    | true => exact hu
    | false => exact agrees_reset hu rfl rfl rfl rfl
  | connectionStop deauth =>
    cases hvif : u.conn.vifValid with
    | true =>
      obtain ⟨v, hmove, hokv, -, hconn, hstop, -⟩ := connectionStop_eq hok deauth hvif
      have hidle := hokv.idle_of_not_connected hconn
      have hchip := chipAfter_connMove hok hu hmove
      cases hscan : u.iface.scanActive with
      | true =>
        -- the chip goes on, for the scan
        have hstopped : stopped v = { v with
            iface := { v.iface with staActive := false }
            conn := { v.conn with vifValid := false, modeSta := false, aid := 0 } } := by
          unfold stopped removed
          rw [if_pos rfl, if_pos (hmove.scanActive.trans hscan), if_pos rfl]
        rw [hstopped] at hstop
        refine agrees_iff_of_wakes hstop hchip fun _ => ?_
        exact iff_of_false (by rw [hidle]; decide) fun h => h hscan
      | false =>
        refine iff_of_true (fun v' hv' => ?_) fun _ h => by
          rw [show u.iface.scanActive = true from h] at hscan
          cases hscan
        obtain rfl := Option.some.inj (hstop.symm.trans hv')
        intro _
        obtain ⟨-, -, hpaused⟩ := hchip (by rw [hidle]; decide)
        unfold stopped removed
        rw [if_pos rfl, if_neg (by simp [hmove.scanActive.trans hscan])]
        exact ⟨rfl, show (0 : U32) &&& vetoWnmSleep = 0 by decide, hpaused⟩
    | false =>
      refine iff_of_true (fun v hv => ?_) fun h => absurd h (hnotVif hvif)
      obtain rfl := Option.some.inj ((connectionStop_ignored hok deauth hvif).symm.trans hv)
      exact hu
  | scanInterface add =>
    refine agrees_iff_of_agrees fun v hv => ?_
    cases add with
    | true =>
      cases hv
      unfold Connection.umacInterfaceAdd
      cases umacInterfaceIsActive u with
      | true => exact hu
      | false => exact agrees_reset hu rfl rfl rfl rfl
    | false =>
      cases hscan : u.iface.scanActive with
      | true =>
        obtain rfl := Option.some.inj ((hok.removeScan hscan).1.symm.trans hv)
        unfold removed
        cases u.iface.staActive with
        | true => exact hu
        | false => exact agrees_reset hu rfl rfl rfl rfl
      | false =>
        obtain rfl := Option.some.inj ((removeScan_ignored hscan).symm.trans hv)
        exact hu
  | connectionFsm event =>
    by_cases hmode : u.conn.modeSta = true
    · obtain ⟨v, hv, hmove, hwakes⟩ := connectionFsm_moves hok event
      exact agrees_iff_of_wakes ((if_pos hmode).trans hv) (chipAfter_connMove hok hu hmove) hwakes
    have hvif : u.conn.vifValid = false := by
      rw [← hok.modeSta]
      exact Bool.eq_false_iff.mpr hmode
    refine iff_of_true (fun v hv => ?_) fun h => absurd h (hnotVif hvif)
    obtain rfl := Option.some.inj ((if_neg hmode).symm.trans hv)
    exact hu
  | setBssCfg bssid channelCfg =>
    refine agrees_iff_of_agrees fun v hv => ?_
    cases hv
    exact agrees_same (setChannel_same { u with conn := { u.conn with bssid := bssid } }
      channelCfg hok.kept).1 hu
  | channelSwitch s1gOperation =>
    refine agrees_iff_of_agrees fun v hv => ?_
    cases hv
    exact agrees_same (setChannel_same u s1gOperation hok.kept).1 hu
  | setWnmSleep enabled power timeoutOk =>
    obtain ⟨v, hv, hmove, hwakes⟩ := @setWnmSleep_moves u timeoutOk hok enabled power
    refine agrees_iff_of_wakes hv (chipAfter_wnmMove hok hu hmove) fun hactive => ?_
    exact (hwakes hactive).trans (by cases enabled <;> simp [Wakes])
  | wnmConfirmed enabled timeoutOk =>
    obtain ⟨v, hv, hmove, hsame⟩ := @wnmConfirmed_moves u timeoutOk hok enabled
    refine agrees_iff_of_wakes hv (chipAfter_wnmMove hok hu hmove) fun hactive => ?_
    rw [hsame hactive]
    exact iff_of_true hactive not_false
  | retryTimeout timeoutOk =>
    obtain ⟨v, hv, hmove, hsame⟩ := @retryTimeout_moves u timeoutOk hok
    refine agrees_iff_of_wakes hv (chipAfter_wnmMove hok hu hmove) fun hactive => ?_
    rw [hsame hactive]
    exact iff_of_true hactive not_false
  | hwRestarted =>
    refine agrees_iff_of_agrees fun v hv => ?_
    rcases hwRestart_cases hok hv with ⟨-, rfl⟩ | ⟨-, -, rfl⟩
    · exact hu
    cases hvif : u.conn.vifValid with
    | false =>
      rw [if_neg (by simp)]
      exact agrees_reset hu rfl rfl rfl rfl
    | true =>
      rw [if_pos rfl]
      intro hq
      have hawake : ¬ RestartsAsleep { u with drv := mmdrvInit } := fun h => hq h.2
      unfold restored restoredChip Resumed
      rw [if_neg hawake, if_neg hawake]
      exact ⟨rfl, show (0 : U32) &&& vetoWnmSleep = 0 by decide, (hu hq).2.2⟩
  | setDefaultQosQueueParams params | assocRsp aid wmmIe | installKey key | uninstallKey keyId
  | incrementTxSeq keyId =>
    exact agrees_iff_of_agrees fun v hv => agrees_same (umacStep_same rfl hv).1 hu
  | authResp => exact agrees_iff_of_agrees fun v hv => agrees_same (umacStep_same rfl hv).1 hu

end Steps

/-! ## Runs -/

/-- **WNM sleep and the chip agree** in every state of a run, if and only if no step leaves ACTIVE
while the chip is powered down. -/
theorem wnm_sleep_agrees_iff (config : UmacConfigData) (es : List UmacEvent) :
    Throughout umacStep Agrees (umacInit config) es
      ↔ Along umacStep (fun u e => PoweredDown u → ¬ Wakes u e) (umacInit config) es := by
  have hinit : StationOk (umacInit config) ∧ Agrees (umacInit config) :=
    ⟨stationOk_init config, fun _ => ⟨rfl, show (0 : U32) &&& vetoWnmSleep = 0 by decide,
      show (0 : U16) &&& pauseSourceWnmSleep = 0 by decide⟩⟩
  refine Iff.trans ?_ (throughout_iff_along_of_keeps (I := fun u => StationOk u ∧ Agrees u) ?_
    hinit es)
  · exact ⟨fun h => (throughout_stationOk config es).and h, fun h => h.mono fun _ hu => hu.2⟩
  · intro u e ⟨hok, hu⟩
    rw [← agrees_step_iff hok hu e]
    exact ⟨fun h v hv => (h v hv).2, fun h v hv => ⟨umacStep_ok u e v hok hv, h v hv⟩⟩

/-- A station sleeps with the chip powered down, and is asked to leave sleep: the new chip sleeps. -/
theorem powered_down_chip_sleeps :
    ¬ Throughout umacStep Agrees (umacInit exampleConfig)
      (exampleConnect ++ [.setWnmSleep true true true, .wnmConfirmed true true,
        .setWnmSleep false false true, .wnmConfirmed false true]) := by
  decide +kernel

end MmIotEsp32.Umac.WnmSleep
