/-
  MmIotEsp32.Umac.Connection.Disconnection

  What a connection leaves behind when it is lost.

  Entering DISCONNECTED clears none of what a connection has left for later.  So nothing is left
  precisely when, at that time, no channel switch is pending, no association is to be retried and
  no request is kept for one.
-/
import MmIotEsp32.Umac.Connection.ConnectionTimeouts
import MmIotEsp32.Umac.Connection.StationMoves

namespace MmIotEsp32.Umac.Connection

open Lib Interface Keys WnmSleep

/-! ## What is left -/

/-- No timeout of the connection is registered, the transmit path is not paused for a channel
switch, and no request is kept. -/
structure NothingLeft (s : Station) : Prop where
  ecsaTimeouts : s.ecsaTimeouts = []
  retryTimeouts : s.retryTimeouts = []
  ecsaActive : s.ecsaActive = false
  txPaused : s.umac.txPaused &&& pauseSourceEcsa = 0
  assocReqCache : s.assocReqCache = none

/-- A step that enters DISCONNECTED from another state leaves nothing behind. -/
def LeavesNothing (s : Station) (e : StationEvent) : Prop :=
  ∀ s', stationStep s e = some s' → s.state ≠ .disconnected → s'.state = .disconnected →
    NothingLeft s'

/-- The events that disconnect the station. -/
def Disconnects (s : Station) : StationEvent → Prop
  | .umac e => UmacDisconnects s.umac e
  | _ => False

/-- No channel switch has been announced that is still to come, and the association was answered
for good. -/
structure NothingScheduled (s : Station) : Prop where
  ecsaActive : s.ecsaActive = false
  retryTimeouts : s.retryTimeouts = []
  assocReqCache : s.assocReqCache = none

/-! ## Pausing for a channel switch -/

/-- The transmit path is paused for a channel switch. -/
def EcsaPaused (u : Umac) : Prop := u.txPaused &&& pauseSourceEcsa ≠ 0

section Pause

variable {u u' : Umac}

theorem not_ecsaPaused_unpause (txPaused : U16) :
    txPaused &&& ~~~pauseSourceEcsa &&& pauseSourceEcsa = 0 := by
  rw [BitVec.and_assoc, show ~~~pauseSourceEcsa &&& pauseSourceEcsa = 0 by decide]
  exact BitVec.and_zero

theorem ecsaPaused_asleep : EcsaPaused (asleep u) ↔ EcsaPaused u := by
  show (u.txPaused ||| pauseSourceWnmSleep) &&& pauseSourceEcsa ≠ 0 ↔ _
  rw [BitVec.and_comm, BitVec.and_or_distrib_left,
    show pauseSourceEcsa &&& pauseSourceWnmSleep = 0#16 by decide, BitVec.or_zero, BitVec.and_comm]
  rfl

theorem ecsaPaused_awake : EcsaPaused (awake u) ↔ EcsaPaused u := by
  have htxPaused : (awake u).txPaused = u.txPaused &&& ~~~pauseSourceWnmSleep := by
    unfold awake
    cases u.config.chipPowerdownEnabled <;> rfl
  unfold EcsaPaused
  rw [htxPaused, BitVec.and_assoc,
    show ~~~pauseSourceWnmSleep &&& pauseSourceEcsa = pauseSourceEcsa by decide]

theorem ecsaPaused_congr (h : u'.txPaused = u.txPaused) : EcsaPaused u' ↔ EcsaPaused u := by
  unfold EcsaPaused
  rw [h]

theorem WnmMove.ecsaPaused {timeoutOk : Bool} (h : WnmMove timeoutOk u u') :
    EcsaPaused u' ↔ EcsaPaused u := by
  cases h with
  | leave h | woken h => exact ecsaPaused_awake
  | sleep h => exact ecsaPaused_asleep
  | _ => exact Iff.rfl

theorem ConnMove.ecsaPaused (h : ConnMove u u') : EcsaPaused u' ↔ EcsaPaused u := by
  cases h with
  | lost v h hmove hidle =>
    exact (ecsaPaused_congr (same_disconnectedEntry _ _).1.txPaused).trans hmove.ecsaPaused
  | disconnected h hne => exact ecsaPaused_congr (same_disconnectedEntry _ _).1.txPaused
  | _ => exact Iff.rfl

theorem umacStep_ecsaPaused {e : UmacEvent} (hok : StationOk u) (h : umacStep u e = some u') :
    EcsaPaused u' ↔ EcsaPaused u := by
  cases hconn : e.isConn with
  | true =>
    obtain ⟨v, hmove, -, htxPaused, -⟩ := umacStep_conn hok hconn h
    exact (ecsaPaused_congr htxPaused).trans hmove.ecsaPaused
  | false =>
    obtain ⟨v, hmove, -, htxPaused, -⟩ := umacStep_other hok hconn h
    exact (ecsaPaused_congr htxPaused).trans hmove.ecsaPaused

theorem umacStep_disconnected {e : UmacEvent} (hok : StationOk u) (h : umacStep u e = some u')
    (hq : u.conn.fsmInst.currentState ≠ .disconnected) :
    u'.conn.fsmInst.currentState = .disconnected ↔ UmacDisconnects u e := by
  cases hconn : e.isConn with
  | true =>
    obtain ⟨v, -, -, -, hinst, hstate⟩ := umacStep_conn hok hconn h
    rw [hinst]
    exact hstate hq
  | false =>
    obtain ⟨v, -, -, -, hinst⟩ := umacStep_other hok hconn h
    rw [hinst]
    refine iff_of_false hq ?_
    cases e <;> first | exact id | cases hconn

end Pause

/-! ## The invariant -/

/-- One timeout is registered while a channel switch is pending, and none otherwise; only then the
transmit path is paused for it. -/
structure EcsaOk (s : Station) : Prop where
  station : StationOk s.umac
  timeouts : s.ecsaTimeouts.length = s.ecsaActive.toNat
  paused : EcsaPaused s.umac → s.ecsaActive = true

theorem ecsaOk_init (config : UmacConfigData) : EcsaOk (stationInit config) where
  station := stationOk_init config
  timeouts := rfl
  paused := fun h => absurd (show (0 : U16) &&& pauseSourceEcsa = 0 by decide) h

variable {s s' : Station}

theorem EcsaOk.nothingLeft_iff (h : EcsaOk s) : NothingLeft s ↔ NothingScheduled s := by
  refine ⟨fun hleft => ⟨hleft.ecsaActive, hleft.retryTimeouts, hleft.assocReqCache⟩,
    fun hscheduled => ?_⟩
  have htimeouts := h.timeouts
  rw [hscheduled.ecsaActive] at htimeouts
  refine ⟨List.length_eq_zero_iff.mp htimeouts, hscheduled.retryTimeouts, hscheduled.ecsaActive, ?_,
    hscheduled.assocReqCache⟩
  by_contra hpaused
  exact absurd (hscheduled.ecsaActive.symm.trans (h.paused hpaused)) (by decide)

/-- What is left of a connection to be kept by an event that does not change its state. -/
structure Keeps (s s' : Station) : Prop where
  ok : EcsaOk s'
  state : s'.state = s.state

theorem EcsaOk.keeps (h : EcsaOk s) : Keeps s s := ⟨h, rfl⟩

theorem EcsaOk.handleEcsa (h : EcsaOk s) {timeout : U32} {ecsaTimeouts : List U32}
    (htimeouts : s.ecsaTimeouts = timeout :: ecsaTimeouts) :
    Keeps s (umacConnectionHandleEcsa { s with ecsaTimeouts := ecsaTimeouts }) := by
  have hstation := h.station.setChannel s.ecsaS1gInfo
  have hsame := (setChannel_same s.umac s.ecsaS1gInfo h.station.kept).1
  have hlength := h.timeouts
  rw [htimeouts, List.length_cons] at hlength
  refine ⟨⟨{ hstation with }, ?_, fun hpaused => ?_⟩, ?_⟩
  · show ecsaTimeouts.length = 0
    have := Bool.toNat_le s.ecsaActive
    omega
  · exact absurd (not_ecsaPaused_unpause _) hpaused
  · exact congrArg FsmInstance.currentState hsame.connInst

theorem EcsaOk.processEcsa (h : EcsaOk s) (timeoutOk : Bool) (ecsaIe : Dot11IeEcsa)
    (wideBwChanSwitchIe : Option Dot11IeWideBwChanSwitch) (longBeaconIntervalMs : U32) :
    Keeps s
      (umacConnectionProcessEcsa timeoutOk s ecsaIe wideBwChanSwitchIe longBeaconIntervalMs) := by
  unfold umacConnectionProcessEcsa
  cases hactive : s.ecsaActive with
  | true =>
    rw [if_pos rfl]
    exact h.keeps
  | false =>
    have hlength := h.timeouts
    have hpaused := h.paused
    rw [hactive] at hlength hpaused
    rw [if_neg (by decide)]
    cases timeoutOk with
    | false => exact ⟨⟨h.station, hlength, hpaused⟩, rfl⟩
    | true =>
      dsimp only
      rw [if_pos rfl]
      have hlength' : ∀ timeoutMs, (s.ecsaTimeouts ++ [timeoutMs]).length = 1 := by
        intro timeoutMs
        rw [List.length_append, hlength]
        rfl
      by_cases hmode : ecsaIe.channelSwitchMode ≠ 0
      · rw [if_pos hmode]
        exact ⟨⟨{ h.station with }, hlength' _, fun _ => rfl⟩, rfl⟩
      · rw [if_neg hmode]
        exact ⟨⟨h.station, hlength' _, fun _ => rfl⟩, rfl⟩

theorem EcsaOk.of_same (h : EcsaOk s) (hstation : StationOk s'.umac)
    (htimeouts : s'.ecsaTimeouts = s.ecsaTimeouts) (hactive : s'.ecsaActive = s.ecsaActive)
    (hpaused : EcsaPaused s'.umac ↔ EcsaPaused s.umac) : EcsaOk s' where
  station := hstation
  timeouts := by rw [htimeouts, hactive]; exact h.timeouts
  paused := by rw [hpaused, hactive]; exact h.paused

theorem EcsaOk.refusedTemporarily (h : EcsaOk s) (timeoutOk : Bool)
    (frameData : FrameDataAssocRsp) :
    Keeps s (umacHandleAssocRefusedTemporarily timeoutOk s frameData).1 := by
  unfold umacHandleAssocRefusedTemporarily
  split
  · exact h.keeps
  · split
    · exact ⟨⟨h.station, h.timeouts, h.paused⟩, rfl⟩
    · exact h.keeps

theorem EcsaOk.processAssocRsp (h : EcsaOk s) (timeoutOk : Bool)
    (frameData : Option FrameDataAssocRsp) :
    Keeps s (umacConnectionProcessAssocReassocRsp timeoutOk s frameData) := by
  unfold umacConnectionProcessAssocReassocRsp
  cases frameData with
  | none => exact h.keeps
  | some frameData =>
    dsimp only
    split
    · exact h.keeps
    generalize hscheduled : (if frameData.statusCode = dot11StatusRefusedTemporarily then
      umacHandleAssocRefusedTemporarily timeoutOk s frameData else (s, false)) = scheduled
    have h' : Keeps s scheduled.1 := by
      rw [← hscheduled]
      split
      · exact h.refusedTemporarily timeoutOk frameData
      · exact h.keeps
    split
    · exact h'
    split
    · obtain ⟨hsame, hchannel⟩ := same_assocRsp scheduled.1.umac frameData.aid frameData.wmmIe
      refine ⟨h'.ok.of_same (hsame.ok_of_sameChannel hchannel h'.ok.station) rfl rfl
        (ecsaPaused_congr hsame.txPaused), ?_⟩
      exact (congrArg FsmInstance.currentState hsame.connInst).trans h'.state
    · exact ⟨⟨h'.ok.station, h'.ok.timeouts, h'.ok.paused⟩, h'.state⟩

theorem EcsaOk.retry (h : EcsaOk s) (copyOk txOk : Bool) (retryTimeouts : List U32) :
    Keeps s (umacConnectionAssocReassocReqRetry copyOk txOk
      { s with retryTimeouts := retryTimeouts }) := by
  unfold umacConnectionAssocReassocReqRetry
  split
  · exact ⟨⟨h.station, h.timeouts, h.paused⟩, rfl⟩
  · dsimp only
    cases copyOk <;> cases txOk <;> exact ⟨⟨h.station, h.timeouts, h.paused⟩, rfl⟩

theorem EcsaOk.umacStep (h : EcsaOk s) {e : UmacEvent} {umac : Umac}
    {assocReqCache : Option (List U8)} (humac : umacStep s.umac e = some umac) :
    EcsaOk { s with assocReqCache := assocReqCache, umac := umac } :=
  h.of_same (umacStep_ok _ _ _ h.station humac) rfl rfl (umacStep_ecsaPaused h.station humac)

theorem EcsaOk.step {e : StationEvent} (h : EcsaOk s) (hstep : stationStep s e = some s') :
    EcsaOk s' ∧ (s.state ≠ .disconnected → (s'.state = .disconnected ↔ Disconnects s e)) := by
  have hkeeps : ∀ {e}, ¬ Disconnects s e → Keeps s s' →
      EcsaOk s' ∧ (s.state ≠ .disconnected → (s'.state = .disconnected ↔ Disconnects s e)) :=
    fun he hk => ⟨hk.ok, fun hq => iff_of_false (by rw [hk.state]; exact hq) he⟩
  cases e with
  | umac e =>
    obtain ⟨umac, humac, rfl⟩ := Option.map_eq_some_iff.mp hstep
    exact ⟨h.umacStep humac, umacStep_disconnected h.station humac⟩
  | beacon sourceAddr ies timeoutOk =>
    refine hkeeps id ?_
    simp only [stationStep] at hstep
    split at hstep
    · cases hstep
      unfold umacConnectionProcessBeaconIes
      split
      · exact h.processEcsa _ _ _ _
      · exact h.keeps
    · cases hstep
      exact h.keeps
  | ecsaTimeout =>
    refine hkeeps id ?_
    simp only [stationStep] at hstep
    split at hstep
    · cases hstep
      exact h.keeps
    · next htimeouts =>
      cases hstep
      exact h.handleEcsa htimeouts
  | assocReq assocReq txOk =>
    simp only [stationStep, umacConnectionProcessAssocReq] at hstep
    split at hstep
    · next hmode =>
      split at hstep
      · obtain ⟨umac, hevent, rfl⟩ := Option.map_eq_some_iff.mp hstep
        have humac : Connection.umacStep s.umac (.connectionFsm .assocRequest) = some umac :=
          (if_pos hmode).trans hevent
        refine ⟨h.umacStep humac, fun hq => iff_of_false ?_ id⟩
        intro hdisconnected
        exact absurd ((umacStep_disconnected h.station humac hq).mp hdisconnected).2.2 (by decide)
      · cases hstep
        exact hkeeps id h.keeps
    · cases hstep
      exact hkeeps id h.keeps
  | assocRsp frameData timeoutOk =>
    cases hstep
    exact hkeeps id (h.processAssocRsp timeoutOk frameData)
  | retryTimeout i copyOk txOk =>
    refine hkeeps id ?_
    simp only [stationStep] at hstep
    split at hstep
    · cases hstep
      exact h.retry copyOk txOk _
    · cases hstep
      exact h.keeps

/-! ## Disconnecting -/

theorem umacDisconnects_comes_back {u : Umac} {e : UmacEvent} (hok : StationOk u)
    (he : UmacDisconnects u e) :
    u.conn.fsmInst.currentState ≠ .disconnected ∧ ∃ u', umacStep u e = some u' := by
  cases e with
  | connectionFsm event =>
    obtain ⟨hmode, hq, rfl⟩ := he
    obtain ⟨v, hv, -⟩ := connectionFsm_disconnect hok
    exact ⟨hq, v, (if_pos hmode).trans hv⟩
  | connectionStop deauth =>
    obtain ⟨hmode, hq, -⟩ := he
    have hvif := hok.modeSta.symm.trans hmode
    obtain ⟨v, -, -, -, -, hstop, -⟩ := connectionStop_eq hok deauth hvif
    exact ⟨hq, _, hstop⟩
  | _ => exact he.elim

theorem leavesNothing_iff (h : EcsaOk s) (e : StationEvent) :
    LeavesNothing s e ↔ (Disconnects s e → NothingScheduled s) := by
  -- the events that disconnect are events of the rest of the station
  have hscheduled : ∀ {s'}, Disconnects s e → stationStep s e = some s' →
      (NothingScheduled s' ↔ NothingScheduled s) := by
    intro s' he hstep
    cases e with
    | umac e =>
      obtain ⟨umac, -, rfl⟩ := Option.map_eq_some_iff.mp hstep
      exact ⟨fun h => ⟨h.1, h.2, h.3⟩, fun h => ⟨h.1, h.2, h.3⟩⟩
    | _ => exact he.elim
  constructor
  · intro hleaves he
    cases e with
    | umac e =>
      obtain ⟨hq, u', hu'⟩ := umacDisconnects_comes_back h.station he
      have hstep : stationStep s (.umac e) = some { s with umac := u' } := by
        show (umacStep s.umac e).map _ = _
        rw [hu', Option.map_some]
      obtain ⟨hok, hstate⟩ := h.step hstep
      have hleft := hleaves _ hstep hq ((hstate hq).mpr he)
      exact (hscheduled he hstep).mp (hok.nothingLeft_iff.mp hleft)
    | _ => exact he.elim
  intro hclean s' hstep hq hdisconnected
  obtain ⟨hok, hstate⟩ := h.step hstep
  have he := (hstate hq).mp hdisconnected
  exact hok.nothingLeft_iff.mpr ((hscheduled he hstep).mpr (hclean he))

/-- **When disconnection leaves nothing running**: in every history of the station, every step that
enters DISCONNECTED from another state leaves no timeout, no pause and no request behind, if and
only if at each of them no channel switch is pending, no association is to be retried and no
request is kept. -/
theorem disconnection_leaves_nothing_iff (config : UmacConfigData) (es : List StationEvent) :
    Along stationStep LeavesNothing (stationInit config) es
      ↔ Along stationStep (fun s e => Disconnects s e → NothingScheduled s) (stationInit config)
          es := by
  have hok : Along stationStep (fun s _ => EcsaOk s) (stationInit config) es :=
    Throughout.along_of (fun _ _ h => h)
      (throughout_of_invariant (fun _ _ _ h hstep => (h.step hstep).1) (ecsaOk_init config) es)
  constructor
  · exact fun h => (hok.and h).mono fun s e ⟨hs, hleaves⟩ => (leavesNothing_iff hs e).mp hleaves
  · exact fun h => (hok.and h).mono fun s e ⟨hs, hclean⟩ => (leavesNothing_iff hs e).mpr hclean

/-- A beacon that announces another channel, with a pause until then. -/
def exampleEcsa : BeaconIes := ⟨some ⟨1, 1, 68, 5⟩, none, some 100⟩

/-- A station loses its connection during the countdown of a channel switch: the timeout stays, and
the transmit path stays paused. -/
theorem channel_switch_left_behind :
    ¬ Along stationStep LeavesNothing (stationInit exampleConfig)
      (exampleConnect.map .umac ++ [.beacon (fun _ => 2) exampleEcsa true] ++
        [.umac (.connectionFsm .disconnect)]) := by
  intro h
  have hrun : runFrom stationStep (stationInit exampleConfig)
      (exampleConnect.map .umac ++ [.beacon (fun _ => 2) exampleEcsa true]) = some _ := rfl
  have hleaves := h.last hrun
  have hleft := hleaves _ rfl (by decide) (by decide)
  exact absurd hleft.ecsaActive (by decide)

end MmIotEsp32.Umac.Connection
