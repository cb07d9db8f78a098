/-
  MmIotEsp32.HeliFc.GcsLink

  The link to the ground station: heard on one core, judged on the other
  (`comm/mavlink_handler.c`, `rpc/rpc_core.c`, `agents/sysmon_agent.c`).
-/
import MmIotEsp32.HeliFc.Comm.CommandLong
import MmIotEsp32.HeliFc.Comm.ParamProtocol
import MmIotEsp32.HeliFc.Agents.Failsafe
import MmIotEsp32.HeliFc.RcOverride

namespace MmIotEsp32.HeliFc

open Lib

/-! ## The messages -/

/-- What the ground station sends, decoded. -/
inductive GcsPayload (F : Type*) where
  | heartbeat
  | commandLong (m : CommandLong F)
  | param (targetSystem : U8) (msg : ParamMessage F)
  | rcChannelsOverride (targetSystem : U8) (channels : OverrideChannels)
  | mission (targetSystem targetComponent : U8) (payload : MavlinkPayload)
  | fileTransferProtocol
  | requestDataStream
  | other

structure GcsMessage (F : Type*) where
  sysid : U8
  compid : U8
  payload : GcsPayload F

/-- A message from ourselves is ignored. -/
def GcsMessage.fromOurselves {F : Type*} (m : GcsMessage F) : Bool :=
  m.sysid == mavSysId && m.compid == mavCompIdAutopilot

/-- The parts of the handler that decide what is forwarded. -/
structure GcsHandler (F : Type*) where
  mission : MavlinkHandler
  commands : CommandHandler F

section

variable {F D : Type*} [CFloat F] [CFloat D]

/-- What `handle_param_set` forwards; the other two are answered on core 1. -/
def paramForwards (targetSystem : U8) : ParamMessage F → List (RpcCommand F)
  | .paramSet name value =>
    if AddressedToUs targetSystem then [.flight (.paramSet name value)] else []
  | .paramRequestRead _ _ => []
  | .paramRequestList => []

/-- `process_mavlink_message`: the handler afterwards, and what it gives to `rpc_send_command`.
The queues of the two parts are empty before, so what is in them afterwards was just sent. -/
def processGcsMessage (h : GcsHandler F) (nowMs : U32) (txOk : Bool) (m : GcsMessage F) :
    GcsHandler F × List (RpcCommand F) :=
  if m.fromOurselves then (h, [])
  else
    match m.payload with
    -- it confirms that the link is alive, and goes no further
    | .heartbeat => (h, [])
    | .commandLong cmd =>
      let commands := handleCommandLong { h.commands with cmdQueue := [] } nowMs 0
        { cmd with sysid := m.sysid, compid := m.compid }
      ({ h with commands := commands }, commands.cmdQueue)
    | .param targetSystem msg => (h, paramForwards targetSystem msg)
    | .rcChannelsOverride targetSystem channels =>
      (h, if AddressedToUs targetSystem then
        [.flight (.rcOverride fun i => rpcOverrideChannel (channels i))] else [])
    | .mission targetSystem targetComponent payload =>
      let mission := processMavlinkMessage { h.mission with rpcCtx := rpcInit } txOk
        ⟨m.sysid, m.compid, targetSystem, targetComponent, payload⟩
      ({ h with mission := mission },
        mission.rpcCtx.cmdQueue.map fun cmd => .flight (.mission cmd))
    | .fileTransferProtocol => (h, [])
    | .requestDataStream => (h, [])
    | .other => (h, [])

/-! ## The two cores -/

structure GcsLink (F D : Type*) where
  /-- `esp_timer_get_time`. -/
  clock : U64
  handler : GcsHandler F
  cmdQueue : List (RpcCommand F)
  sysmon : Sysmon F D
  /-- When a message of the ground station was received, newest first. -/
  heard : List U64
  /-- The clock of the cycle of each command that sysmon took, newest first. -/
  taken : List U64

inductive GcsLinkEvent (F D : Type*) where
  /-- Core 1 processes a message. -/
  | receive (nowUs : U64) (txOk : Bool) (m : GcsMessage F)
  | sense (nowUs : U64) (battV : F) (samples : SysmonSamples F D)
  | switches
  | gcsTimeout
  /-- `rpc_receive_command` returns a command, which is handled. -/
  | take
  /-- `rpc_receive_command` finds the queue empty, and the cycle ends. -/
  | publish

/-- Each command is queued if there is room. -/
def queueCommands (queue cmds : List (RpcCommand F)) : List (RpcCommand F) :=
  cmds.foldl (fun queue cmd => if queue.length < rpcCmdQueueDepth then queue ++ [cmd] else queue)
    queue

def gcsLinkInit (params : Params F) : GcsLink F D where
  clock := 0
  handler := ⟨mavlinkHandlerInit rpcInit, ⟨4, 2, 2, 2, .idle, 0, 0, 0, [], []⟩⟩
  cmdQueue := []
  sysmon := sysmonInit params
  heard := []
  taken := []

/-- A message is received. -/
def GcsLink.receive (s : GcsLink F D) (nowUs : U64) (txOk : Bool) (m : GcsMessage F) :
    GcsLink F D :=
  let out := processGcsMessage s.handler (nowMsOf nowUs) txOk m
  { s with
    clock := nowUs
    handler := out.1
    cmdQueue := queueCommands s.cmdQueue out.2
    heard := if m.fromOurselves then s.heard else nowUs :: s.heard }

/-- A step of sysmon that leaves the queue as it is. -/
def GcsLink.sysmonStep (s : GcsLink F D) (e : SysmonEvent F D) : Option (GcsLink F D) :=
  (sysmonTaskStep s.sysmon e).map fun sysmon => { s with sysmon := sysmon }

def gcsLinkStep (s : GcsLink F D) : GcsLinkEvent F D → Option (GcsLink F D)
  | .receive nowUs txOk m =>
    -- both cores read the clock, which does not go back
    if s.clock.toNat ≤ nowUs.toNat then some (s.receive nowUs txOk m) else none
  | .sense nowUs battV samples =>
    if s.clock.toNat ≤ nowUs.toNat then
      { s with clock := nowUs }.sysmonStep (.sense nowUs battV samples)
    else none
  | .switches => s.sysmonStep .switches
  | .gcsTimeout => s.sysmonStep .gcsTimeout
  | .take =>
    match s.cmdQueue with
    | [] => none
    | cmd :: rest =>
      -- the stamp is the clock of the cycle, not that of the reception
      { s with cmdQueue := rest, taken := s.sysmon.nowUs :: s.taken }.sysmonStep
        (.command cmd.sysmonCase)
  | .publish => if s.cmdQueue.isEmpty then s.sysmonStep .publish else none

/-! ## What a lost link means -/

/-- `SYS_GCS_TMO`, in microseconds. -/
def GcsLink.timeoutUs (s : GcsLink F D) : Nat := (timeoutUsOf s.sysmon.params .gcsTimeoutMs).toNat

/-- A message was received within the time-out before the cycle. -/
def HeardRecently (s : GcsLink F D) : Prop :=
  ∃ h ∈ s.heard, h.toNat ≤ s.sysmon.nowUs.toNat ∧ s.sysmon.nowUs.toNat - h.toNat < s.timeoutUs

/-- When a step raises the failsafe of the ground station, nothing was received for at least the
time-out before the cycle. -/
def LostMeansSilent (s : GcsLink F D) (e : GcsLinkEvent F D) : Prop :=
  ∀ s', gcsLinkStep s e = some s' → s.sysmon.failsafe ≠ .gcsLost → s'.sysmon.failsafe = .gcsLost →
    ¬ HeardRecently s'

/-- When the link is checked with the vehicle armed and a message was received within the
time-out, the last command that sysmon took was taken in a cycle that began within the time-out;
or sysmon has taken none since the clock started. -/
def HeardIsTaken (s : GcsLink F D) : GcsLinkEvent F D → Prop
  | .gcsTimeout =>
    s.sysmon.phase = .switched → s.sysmon.armState = .armed → s.sysmon.failsafe ≠ .gcsLost →
      HeardRecently s → ∀ last ∈ s.taken.head?, 0 < last.toNat →
        (s.sysmon.nowUs - last).toNat < s.timeoutUs
  | _ => True

/-- No command is lost for want of room. -/
def NoCommandOverflow (s : GcsLink F D) : GcsLinkEvent F D → Prop
  | .receive nowUs txOk m =>
    s.cmdQueue.length + (processGcsMessage s.handler (nowMsOf nowUs) txOk m).2.length
      ≤ rpcCmdQueueDepth
  | _ => True

instance (s : GcsLink F D) (e : GcsLinkEvent F D) : Decidable (NoCommandOverflow s e) :=
  match e with
  | .receive _ _ _ => inferInstanceAs (Decidable (_ ≤ _))
  | .sense _ _ _ | .switches | .gcsTimeout | .take | .publish => inferInstanceAs (Decidable True)

/-! ## The stamp of sysmon -/

/-- The stamp is that of the last command that sysmon took, and zero before the first. -/
def Stamped (s : GcsLink F D) : Prop := s.sysmon.lastGcsCmdTs = s.taken.head?.getD 0

/-- The event is a command. -/
def SysmonEvent.isCommand : SysmonEvent F D → Bool
  | .command _ => true
  | _ => false

theorem sysmonTaskStep_lastGcsCmdTs {s s' : Sysmon F D} {e : SysmonEvent F D}
    (h : sysmonTaskStep s e = some s') :
    s'.lastGcsCmdTs = if e.isCommand then s.nowUs else s.lastGcsCmdTs := by
  cases sysmonTaskStep_move h with
  | sense hphase =>
    show (sysmonSense s _ _ _).lastGcsCmdTs = s.lastGcsCmdTs
    rw [(sameReadings_sysmonSense s _ _ _).lastGcsCmdTs, sysmonCheck_frame]
  | switches hphase =>
    show (sysmonSwitches s).lastGcsCmdTs = s.lastGcsCmdTs
    rw [sysmonSwitches_frame]
  | gcsTimeout hphase =>
    show (sysmonGcsTimeout s).lastGcsCmdTs = s.lastGcsCmdTs
    rw [sysmonGcsTimeout_frame]
  | command hphase hcmd => exact congrArg Sysmon.lastGcsCmdTs (sysmonTaskCommand_writes hcmd).frame
  | publish hphase => rfl

/-- A step is a message that core 1 receives, or a step of sysmon. -/
inductive GcsLinkMove (s : GcsLink F D) : GcsLinkEvent F D → GcsLink F D → Prop where
  | receive {nowUs : U64} {txOk : Bool} {m : GcsMessage F} :
      GcsLinkMove s (.receive nowUs txOk m) (s.receive nowUs txOk m)
  | sysmon {e : GcsLinkEvent F D} {e' : SysmonEvent F D} {s' : GcsLink F D}
      (hstep : sysmonTaskStep s.sysmon e' = some s'.sysmon)
      (htaken : s'.taken = if e'.isCommand then s.sysmon.nowUs :: s.taken else s.taken)
      (hcheck : e' = .gcsTimeout → e = .gcsTimeout) : GcsLinkMove s e s'

theorem gcsLinkStep_move {s s' : GcsLink F D} {e : GcsLinkEvent F D}
    (h : gcsLinkStep s e = some s') : GcsLinkMove s e s' := by
  have hsysmon : ∀ (t : GcsLink F D) (e' : SysmonEvent F D), t.sysmon = s.sysmon →
      t.taken = (if e'.isCommand then s.sysmon.nowUs :: s.taken else s.taken) →
      (e' = .gcsTimeout → e = .gcsTimeout) → t.sysmonStep e' = some s' → GcsLinkMove s e s' := by
    intro t e' ht htaken hcheck hstep
    obtain ⟨sysmon, hsysmon, rfl⟩ := Option.map_eq_some_iff.mp hstep
    exact .sysmon (ht ▸ hsysmon) htaken hcheck
  cases e with
  | receive nowUs txOk m =>
    simp only [gcsLinkStep, Option.ite_none_right_eq_some] at h
    obtain rfl := Option.some.inj h.2
    exact .receive
  | sense nowUs battV samples =>
    simp only [gcsLinkStep, Option.ite_none_right_eq_some] at h
    exact hsysmon { s with clock := nowUs } (.sense nowUs battV samples) rfl rfl
      (fun hc => by cases hc) h.2
  | switches => exact hsysmon s .switches rfl rfl (fun hc => by cases hc) h
  | gcsTimeout => exact hsysmon s .gcsTimeout rfl rfl (fun _ => rfl) h
  | take =>
    simp only [gcsLinkStep] at h
    split at h
    case h_1 => cases h
    case h_2 cmd rest hqueue =>
      exact hsysmon { s with cmdQueue := rest, taken := s.sysmon.nowUs :: s.taken }
        (.command cmd.sysmonCase) rfl rfl (fun hc => by cases hc) h
  | publish =>
    simp only [gcsLinkStep, Option.ite_none_right_eq_some] at h
    exact hsysmon s .publish rfl rfl (fun hc => by cases hc) h.2

theorem Stamped.step {s s' : GcsLink F D} {e : GcsLinkEvent F D} (h : Stamped s)
    (hs' : gcsLinkStep s e = some s') : Stamped s' := by
  cases gcsLinkStep_move hs' with
  | receive => exact h
  | sysmon hstep htaken hcheck =>
    unfold Stamped
    rw [sysmonTaskStep_lastGcsCmdTs hstep, htaken]
    split_ifs
    · rfl
    · exact h

/-! ## The check -/

theorem gcsLost_of_step {s s' : Sysmon F D} {e : SysmonEvent F D}
    (h : sysmonTaskStep s e = some s') (hbefore : s.failsafe ≠ .gcsLost)
    (hafter : s'.failsafe = .gcsLost) : e = .gcsTimeout := by
  cases sysmonTaskStep_move h with
  | sense hphase =>
    -- the health checks choose among the other failsafes
    rw [sysmonSense_failsafe] at hafter
    exact absurd hafter (newFailsafe_ne_gcsLost _ _ _ _)
  | switches hphase =>
    rw [sysmonSwitches_frame] at hafter
    exact absurd hafter hbefore
  | gcsTimeout hphase => rfl
  | command hphase hcmd =>
    rw [(sysmonTaskCommand_writes hcmd).frame] at hafter
    exact absurd hafter hbefore
  | publish hphase => exact absurd hafter hbefore

omit [CFloat D] in
theorem sysmonGcsTimeout_raises_iff {s : Sysmon F D} (hbefore : s.failsafe ≠ .gcsLost) :
    (sysmonGcsTimeout s).failsafe = .gcsLost ↔ s.gcsTimedOut = true ∧ s.armState = .armed := by
  unfold sysmonGcsTimeout
  by_cases hlost : s.gcsTimedOut = true ∧ s.failsafe ≠ .gcsLost ∧ s.armState = .armed
  · rw [if_pos hlost]
    exact iff_of_true rfl ⟨hlost.1, hlost.2.2⟩
  · rw [if_neg hlost]
    exact iff_of_false hbefore fun hyes => hlost ⟨hyes.1, hbefore, hyes.2⟩

omit [CFloat D] in
theorem gcsTimedOut_iff (s : Sysmon F D) :
    s.gcsTimedOut = true ↔ 0 < s.lastGcsCmdTs.toNat
      ∧ ¬ (s.nowUs - s.lastGcsCmdTs).toNat < (timeoutUsOf s.params .gcsTimeoutMs).toNat := by
  unfold Sysmon.gcsTimedOut
  simp only [Bool.and_eq_true, decide_eq_true_eq, Bool.not_eq_true', decide_eq_false_iff_not]

theorem lostMeansSilent_gcsTimeout_iff {s : GcsLink F D} (h : Stamped s) :
    LostMeansSilent s .gcsTimeout ↔ HeardIsTaken s .gcsTimeout := by
  -- the stamp, read off the commands that were taken
  have hstamp : ∀ last, last ∈ s.taken.head? → s.sysmon.lastGcsCmdTs = last := by
    intro last hlast
    rw [show s.sysmon.lastGcsCmdTs = _ from h, Option.mem_def.mp hlast]
    rfl
  have hstep : s.sysmon.phase = .switched →
      -- the check is a step of sysmon only, in this phase
      gcsLinkStep s .gcsTimeout = some { s with sysmon := sysmonGcsTimeout s.sysmon } := by
    intro hphase
    show (sysmonTaskStep s.sysmon .gcsTimeout).map _ = _
    rw [sysmonTaskStep, if_pos hphase]
    rfl
  have hheard : HeardRecently { s with sysmon := sysmonGcsTimeout s.sysmon } ↔ HeardRecently s := by
    unfold HeardRecently GcsLink.timeoutUs
    dsimp only
    rw [sysmonGcsTimeout_frame]
  constructor
  · intro hsilent hphase harmed hbefore hrecent last hlast hpos
    -- a command taken too long ago makes the check fire, although a message was heard
    by_contra hold
    have hlost : (sysmonGcsTimeout s.sysmon).failsafe = .gcsLost := by
      refine (sysmonGcsTimeout_raises_iff hbefore).mpr ⟨(gcsTimedOut_iff _).mpr ?_, harmed⟩
      rw [hstamp last hlast]
      exact ⟨hpos, hold⟩
    exact hsilent _ (hstep hphase) hbefore hlost (hheard.mpr hrecent)
  intro htaken s' hs' hbefore hafter hrecent
  obtain ⟨sysmon, hsysmon, rfl⟩ := Option.map_eq_some_iff.mp hs'
  have hphase : s.sysmon.phase = .switched := by
    simp only [sysmonTaskStep, Option.ite_none_right_eq_some] at hsysmon
    exact hsysmon.1
  obtain rfl : sysmonGcsTimeout s.sysmon = sysmon := by
    rw [sysmonTaskStep, if_pos hphase] at hsysmon
    exact Option.some.inj hsysmon
  obtain ⟨htimedOut, harmed⟩ := (sysmonGcsTimeout_raises_iff hbefore).mp hafter
  -- the check has fired, so its stamp is old
  obtain ⟨hpos, hold⟩ := (gcsTimedOut_iff _).mp htimedOut
  cases hlast : s.taken.head? with
  | none =>
    -- without a command the stamp is zero, and the check never fires
    rw [show s.sysmon.lastGcsCmdTs = _ from h, hlast] at hpos
    cases hpos
  | some last =>
    rw [hstamp last hlast] at hpos hold
    exact hold (htaken hphase harmed hbefore (hheard.mp hrecent) last hlast hpos)

/-- In every run of the two cores, a lost link means silence exactly when in every check with the
vehicle armed a message heard within the time-out comes with a command taken within it. -/
theorem gcs_lost_iff (params : Params F) (es : List (GcsLinkEvent F D)) :
    Along gcsLinkStep LostMeansSilent (gcsLinkInit params) es
      ↔ Along gcsLinkStep HeardIsTaken (gcsLinkInit params) es := by
  have hstamped : Throughout gcsLinkStep Stamped (gcsLinkInit params : GcsLink F D) es := by
    apply throughout_of_invariant
    · intro s e s' h hs'
      exact h.step hs'
    · exact (rfl : (sysmonInit params : Sysmon F D).lastGcsCmdTs = 0)
  refine Along.congr (hstamped.along_of ?_)
  intro s e h
  by_cases hcheck : e = .gcsTimeout
  · subst hcheck
    exact lostMeansSilent_gcsTimeout_iff h
  -- a step that is not the check raises nothing
  refine iff_of_true (fun s' hs' hbefore hafter => ?_) ?_
  · cases gcsLinkStep_move hs' with
    | receive => exact absurd hafter hbefore
    | sysmon hstep htaken hsame =>
      exact absurd (hsame (gcsLost_of_step hstep hbefore hafter)) hcheck
  · cases e with
    | gcsTimeout => exact absurd rfl hcheck
    | _ => trivial

end

/-- A cycle up to the check of the link, with the IMU and the RC of its clock. -/
def linkCycle (nowUs : U64) : List (GcsLinkEvent ℚ ℚ) :=
  [.sense nowUs 0
    { imu := some ⟨nowUs⟩
      baro := none
      mag := none
      gps := none
      rc := some ⟨nowUs, fun i => if i = 4 ∨ i = 5 then -1 else 0, 8, false⟩
      act := none },
   .switches]

/-- The ground station arms the vehicle, and then sends a heartbeat every second. -/
def armThenHeartbeats : List (GcsLinkEvent ℚ ℚ) :=
  [.receive 900000 true ⟨255, 190, .commandLong ⟨400, 1, 0, 0, 0, 0, 0, 0, 1, 1, 255, 190⟩⟩]
    ++ linkCycle 1000000 ++ [.gcsTimeout, .take, .publish]
    ++ [2900000, 3900000, 4900000, 5900000, 6900000].map (.receive · true ⟨255, 190, .heartbeat⟩)
    ++ linkCycle 7000000

theorem heartbeats_are_silence :
    ¬ ∀ es : List (GcsLinkEvent ℚ ℚ),
      Along gcsLinkStep NoCommandOverflow (gcsLinkInit (paramInit fun _ => none)) es →
        Along gcsLinkStep LostMeansSilent (gcsLinkInit (paramInit fun _ => none)) es := by
  intro h
  -- the last heartbeat is 0.1 s old when the link is checked, the last command 6 s
  have hend : (runFrom gcsLinkStep (gcsLinkInit (paramInit fun _ => none)) armThenHeartbeats).map
      (fun s => (s.sysmon.phase, s.sysmon.failsafe, s.sysmon.nowUs, s.heard.head?,
        (sysmonGcsTimeout s.sysmon).failsafe, s.timeoutUs))
      = some (.switched, .none, 7000000, some 6900000, .gcsLost, 5000000) := by
    decide +kernel
  obtain ⟨s, hrun, hview⟩ := Option.map_eq_some_iff.mp hend
  obtain ⟨hphase, hfailsafe, hnow, hheard, hlost, htimeout⟩ : s.sysmon.phase = .switched
      ∧ s.sysmon.failsafe = .none ∧ s.sysmon.nowUs = 7000000 ∧ s.heard.head? = some 6900000
      ∧ (sysmonGcsTimeout s.sysmon).failsafe = .gcsLost ∧ s.timeoutUs = 5000000 := by
    simpa using hview
  have hroom : Along gcsLinkStep NoCommandOverflow (gcsLinkInit (paramInit fun _ => none))
      (armThenHeartbeats ++ [.gcsTimeout]) := by
    decide +kernel
  have hsilent : LostMeansSilent s .gcsTimeout := (h _ hroom).last hrun
  have hstep : gcsLinkStep s .gcsTimeout
      = some { s with sysmon := sysmonGcsTimeout s.sysmon } := by
    show (sysmonTaskStep s.sysmon .gcsTimeout).map _ = _
    rw [sysmonTaskStep, if_pos hphase]
    rfl
  refine hsilent _ hstep (by rw [hfailsafe]; decide) hlost
    ⟨6900000, List.mem_of_mem_head? hheard, ?_⟩
  unfold GcsLink.timeoutUs at htimeout ⊢
  dsimp only
  rw [sysmonGcsTimeout_frame]
  dsimp only
  rw [hnow, htimeout]
  decide

end MmIotEsp32.HeliFc
