/-
  MmIotEsp32.HeliFc.MissionUpload

  An upload, from the ground station to the flight core.

  The handler forwards every item as it comes, and the count after the last one; core 0
  clears its items when it sets the count.  So all that a completed upload leaves there is
  cleared items (`upload_intact_iff`).
-/
import MmIotEsp32.HeliFc.MissionTasks

namespace MmIotEsp32.HeliFc

open Lib

/-! ## The ground station -/

/-- A mission that may be uploaded: the items are numbered in order. -/
structure MissionPlan where
  items : List MavlinkMissionItemInt
  nonempty : 0 < items.length
  fits : items.length ≤ missionMaxItems
  numbered : ∀ (i : Nat) (item : MavlinkMissionItemInt), items[i]? = some item → item.seq.toNat = i

/-- A ground station whose messages the handler takes. -/
structure GroundStation where
  sysid : U8
  compid : U8
  targetSystem : U8
  targetComponent : U8
  taken : ignored ⟨sysid, compid, targetSystem, targetComponent, .other⟩ = false

def GroundStation.message (g : GroundStation) (payload : MavlinkPayload) : MavlinkMessage :=
  ⟨g.sysid, g.compid, g.targetSystem, g.targetComponent, payload⟩

/-- The number of items, as the count message has it. -/
def MissionPlan.count (p : MissionPlan) : U16 := BitVec.ofNat 16 p.items.length

/-- What the ground station sends back: the item it is asked for. -/
def GroundStation.answer (g : GroundStation) (p : MissionPlan) (msg : MavlinkMessage) :
    Option MavlinkMessage :=
  match msg.payload with
  | .missionRequestInt seq _ =>
    p.items[seq.toNat]?.map fun item => g.message (.missionItemInt item)
  | _ => none

/-! ## The system -/

/-- The tasks of the vehicle, what the ground station has read of what was sent to it, and
what is on its way to the vehicle. -/
structure UploadSystem where
  tasks : MissionTasks
  read : Nat
  uplink : List MavlinkMessage

inductive UploadEvent where
  /-- A task of the vehicle, other than by receiving a message. -/
  | task (e : MissionEvent)
  /-- The handler receives the next message. -/
  | deliver (txOk : Bool)
  /-- The ground station reads the next message. -/
  | answer
  deriving Repr, DecidableEq

def uploadStep (g : GroundStation) (p : MissionPlan) (s : UploadSystem) :
    UploadEvent → Option UploadSystem
  | .task e =>
    if e.internal then (missionStep s.tasks e).map fun tasks => { s with tasks := tasks } else none
  | .deliver txOk =>
    match s.uplink with
    | [] => none
    | msg :: rest =>
      (missionStep s.tasks (.receive txOk msg)).map fun tasks =>
        { s with tasks := tasks, uplink := rest }
  | .answer =>
    s.tasks.handler.sent.reverse[s.read]?.map fun r =>
      { s with read := s.read + 1, uplink := s.uplink ++ (g.answer p r.msg).toList }

/-- Nothing is under way but the count message that begins the upload. -/
structure IdleSystem (g : GroundStation) (p : MissionPlan) (s : UploadSystem) : Prop where
  state : s.tasks.handler.missionState = .idle
  commands : s.tasks.handler.rpcCtx.cmdQueue = []
  telemetry : ∀ telem ∈ s.tasks.handler.rpcCtx.telemQueue, telem.isMissionAck = false
  sent : s.tasks.handler.sent = []
  read : s.read = 0
  uplink : s.uplink = [g.message (.missionCount p.count mavMissionTypeMission)]

/-- The ground station was told that the upload is accepted. -/
def Acknowledged (s : UploadSystem) : Prop :=
  ∃ r ∈ s.tasks.handler.sent, r.msg.payload = .missionAck mavMissionAccepted mavMissionTypeMission

/-- Both queues are empty. -/
def Drained (s : UploadSystem) : Prop :=
  s.tasks.handler.rpcCtx.cmdQueue = [] ∧ s.tasks.handler.rpcCtx.telemQueue = []

/-- The mission is on the flight core as it was uploaded, and the handler serves it back. -/
structure UploadIntact (p : MissionPlan) (s : UploadSystem) : Prop where
  count : missionMgrGetCount s.tasks.mgr = p.items.length
  items : ∀ (i : Nat) (item : MavlinkMissionItemInt), p.items[i]? = some item →
    missionMgrGetItem s.tasks.mgr (BitVec.ofNat 16 i) = some item.toMissionItem
  served : ∀ (i : Nat) (item : MavlinkMissionItemInt), p.items[i]? = some item →
    ∀ msg, forAnother msg = false →
      handleMissionRequestInt s.tasks.handler true msg (BitVec.ofNat 16 i)
        = sendMavlinkMsg s.tasks.handler true (replyTo msg (.missionItemInt item))

/-! ## The phases of an upload -/

variable {g : GroundStation} {p : MissionPlan}

theorem MissionPlan.toNat_count (p : MissionPlan) : p.count.toNat = p.items.length := by
  have hfits := p.fits
  unfold missionMaxItems at hfits
  exact Nat.mod_eq_of_lt (by omega)

/-- What is on its way to the vehicle are items of the mission. -/
def ItemsOnly (g : GroundStation) (p : MissionPlan) (uplink : List MavlinkMessage) : Prop :=
  ∀ msg ∈ uplink, ∃ item ∈ p.items, msg = g.message (.missionItemInt item)

/-- The handler has not seen the count message. -/
structure Beginning (g : GroundStation) (p : MissionPlan) (s : UploadSystem) : Prop where
  state : s.tasks.handler.missionState ≠ .uploading
  commands : s.tasks.handler.rpcCtx.cmdQueue = []
  telemetry : ∀ telem ∈ s.tasks.handler.rpcCtx.telemQueue, telem.isMissionAck = false
  sent : ∀ r ∈ s.tasks.handler.sent, r.msg.payload.plain = true
  uplink : s.uplink = [g.message (.missionCount p.count mavMissionTypeMission)]

/-- The handler takes items. -/
structure Uploading (g : GroundStation) (p : MissionPlan) (s : UploadSystem) : Prop where
  state : s.tasks.handler.missionState = .uploading
  expected : s.tasks.handler.missionExpected = p.count
  received : s.tasks.handler.missionReceived.toNat < p.items.length
  count : s.tasks.handler.missionCount = 0
  first : s.tasks.handler.missionReceived.toNat = 0 → s.tasks.handler.rpcCtx.cmdQueue = []
    ∧ ∀ telem ∈ s.tasks.handler.rpcCtx.telemQueue, telem.isMissionAck = false
  sent : ∀ r ∈ s.tasks.handler.sent,
    r.msg.payload ≠ .missionAck mavMissionAccepted mavMissionTypeMission
  uplink : ItemsOnly g p s.uplink

/-- The handler has taken as many items as there are.  The count is the last command to
core 0, which clears its items when it gets it. -/
structure Completed (g : GroundStation) (p : MissionPlan) (s : UploadSystem) : Prop where
  state : s.tasks.handler.missionState ≠ .uploading
  count : s.tasks.handler.missionCount = p.count
  single : ∀ item, p.items = [item] → s.tasks.handler.missionItems 0 = item
  commands : (∃ earlier, s.tasks.handler.rpcCtx.cmdQueue = earlier ++ [.missionCount p.count])
    ∨ s.tasks.handler.rpcCtx.cmdQueue = [] ∧ s.tasks.mgr.count = p.count
      ∧ s.tasks.mgr.items = fun _ => .zero
  uplink : ItemsOnly g p s.uplink

/-- An acknowledgement of core 0 for an item has ended the upload. -/
structure Aborted (g : GroundStation) (p : MissionPlan) (s : UploadSystem) : Prop where
  state : s.tasks.handler.missionState ≠ .uploading
  count : s.tasks.handler.missionCount = 0
  several : 2 ≤ p.items.length
  uplink : ItemsOnly g p s.uplink

inductive UploadPhase (g : GroundStation) (p : MissionPlan) (s : UploadSystem) : Prop where
  | beginning (h : Beginning g p s)
  | uploading (h : Uploading g p s)
  | completed (h : Completed g p s)
  | aborted (h : Aborted g p s)

/-! ## Commands that are dropped -/

variable {h : MavlinkHandler} {txOk : Bool} {msg : MavlinkMessage} {s s' : UploadSystem}

/-- The number of commands that were dropped so far. -/
def UploadSystem.dropped (s : UploadSystem) : Nat := s.tasks.handler.rpcCtx.cmdDropped

@[simp] theorem sendMavlinkMsg_rpcCtx : (sendMavlinkMsg h txOk msg).rpcCtx = h.rpcCtx := by
  rw [sendMavlinkMsg_eq]

theorem sendCommand_dropped (cmd : RpcCommandMsg) :
    h.rpcCtx.cmdDropped ≤ (sendCommand h cmd).rpcCtx.cmdDropped :=
  cmdDropped_le_rpcSendCommand h.rpcCtx cmd

theorem processMavlinkMessage_dropped :
    h.rpcCtx.cmdDropped ≤ (processMavlinkMessage h txOk msg).rpcCtx.cmdDropped := by
  unfold processMavlinkMessage
  split
  · exact Nat.le_refl _
  cases hpayload : msg.payload with
  | missionRequestList missionType =>
    show _ ≤ (handleMissionRequestList h txOk msg missionType).rpcCtx.cmdDropped
    unfold handleMissionRequestList
    dsimp only
    split_ifs <;> simp only [sendMavlinkMsg_rpcCtx, Nat.le_refl]
  | missionCount count missionType =>
    show _ ≤ (handleMissionCount h txOk msg count missionType).rpcCtx.cmdDropped
    unfold handleMissionCount
    dsimp only
    split_ifs <;> simp only [sendMavlinkMsg_rpcCtx, Nat.le_refl]
  | missionItemInt item =>
    show _ ≤ (handleMissionItemInt h txOk msg item).rpcCtx.cmdDropped
    unfold handleMissionItemInt
    dsimp only
    have hstore : h.rpcCtx.cmdDropped ≤ (storeMissionItem h item).rpcCtx.cmdDropped :=
      cmdDropped_le_rpcSendCommand h.rpcCtx _
    split_ifs
    · exact Nat.le_refl _
    · exact Nat.le_refl _
    · exact Nat.le_refl _
    · rw [sendMavlinkMsg_rpcCtx]
      exact Nat.le_trans hstore (cmdDropped_le_rpcSendCommand _ _)
    · rw [sendMavlinkMsg_rpcCtx]
      exact hstore
  | missionRequestInt seq missionType =>
    show _ ≤ (handleMissionRequestInt h txOk msg seq).rpcCtx.cmdDropped
    unfold handleMissionRequestInt
    split_ifs <;> simp only [sendMavlinkMsg_rpcCtx, Nat.le_refl]
  | missionAck result missionType | missionCurrent seq | other => exact Nat.le_refl _
  | missionClearAll missionType =>
    show _ ≤ (handleMissionClearAll h txOk msg missionType).rpcCtx.cmdDropped
    unfold handleMissionClearAll
    dsimp only
    split_ifs <;> simp only [sendMavlinkMsg_rpcCtx, Nat.le_refl] <;>
      exact cmdDropped_le_rpcSendCommand _ _
  | missionSetCurrent seq =>
    show _ ≤ (handleMissionSetCurrent h txOk msg seq).rpcCtx.cmdDropped
    unfold handleMissionSetCurrent
    split_ifs
    · exact Nat.le_refl _
    · refine Nat.le_trans (Nat.le_of_eq ?_) (sendCommand_dropped _)
      rw [sendMissionCurrent, sendMavlinkMsg_rpcCtx]

theorem mem_sent {r : SentMessage} {up : Option Upload} {l : List SentMessage}
    (hr : r ∈ if txOk = true then ⟨msg, up⟩ :: l else l) : r ∈ l ∨ r.msg = msg := by
  split at hr
  · rcases List.mem_cons.mp hr with rfl | hr
    · exact Or.inr rfl
    · exact Or.inl hr
  · exact Or.inl hr

theorem drainRpcTelemetryMsg_spec (h : MavlinkHandler) (txOk : Bool) (telem : RpcTelemetryMsg) :
    ∃ currentSeq sent state,
      drainRpcTelemetryMsg h txOk telem
        = { h with missionCurrentSeq := currentSeq, sent := sent, missionState := state }
      ∧ (telem.isMissionAck = true → state = .idle)
      ∧ (telem.isMissionAck = false → state = h.missionState
        ∧ ∀ r ∈ sent, r ∈ h.sent ∨ r.msg.payload.plain = true) := by
  cases telem with
  | missionCount count | missionItem item current | missionCurrent seq =>
    refine ⟨_, _, _, sendMavlinkMsg_eq _ _ _, fun hack => (by cases hack), fun _ => ⟨rfl, ?_⟩⟩
    exact fun r hr => (mem_sent hr).imp_right fun hmsg => by rw [hmsg]; rfl
  | missionAck result =>
    refine ⟨_, _, .idle, congrArg ({ · with missionState := .idle }) (sendMavlinkMsg_eq h txOk _),
      fun _ => rfl, fun hack => ?_⟩
    cases hack
  | other => exact ⟨_, _, _, rfl, fun hack => (by cases hack), fun _ => ⟨rfl, fun r hr => Or.inl hr⟩⟩

theorem drainRpcTelemetryMsg_state (h : MavlinkHandler) (txOk : Bool) (telem : RpcTelemetryMsg)
    (hstate : h.missionState ≠ .uploading) :
    ∃ currentSeq sent state, state ≠ .uploading ∧ drainRpcTelemetryMsg h txOk telem
      = { h with missionCurrentSeq := currentSeq, sent := sent, missionState := state } := by
  obtain ⟨_, _, state, hdrain, hack, hother⟩ := drainRpcTelemetryMsg_spec h txOk telem
  refine ⟨_, _, state, ?_, hdrain⟩
  cases hkind : telem.isMissionAck with
  | true =>
    rw [hack hkind]
    exact MissionState.noConfusion
  | false =>
    rw [(hother hkind).1]
    exact hstate

/-! ## The tasks of the vehicle -/

theorem payload_ne_of_plain {payload : MavlinkPayload} (hplain : payload.plain = true) :
    payload ≠ .missionAck mavMissionAccepted mavMissionTypeMission := by
  rintro rfl
  exact absurd hplain (by decide)

variable {tasks : MissionTasks} {e : MissionEvent}

theorem Beginning.task (hphase : Beginning g p s) (hmove : MissionMove s.tasks e tasks)
    (he : e.internal = true) : Beginning g p { s with tasks := tasks } := by
  cases hmove with
  | empty hqueue | received | advance =>
    exact ⟨hphase.state, hphase.commands, hphase.telemetry, hphase.sent, hphase.uplink⟩
  | @drain txOk telem rest hqueue =>
    have htelem := hphase.telemetry
    rw [hqueue] at htelem
    obtain ⟨_, sent, state, hdrain, -, hother⟩ := drainRpcTelemetryMsg_spec
      { s.tasks.handler with rpcCtx := { s.tasks.handler.rpcCtx with telemQueue := rest } }
      txOk telem
    obtain ⟨rfl, hsent⟩ := hother (htelem telem (List.mem_cons_self ..))
    rw [hdrain]
    exact ⟨hphase.state, hphase.commands, fun t ht => htelem t (List.mem_cons_of_mem _ ht),
      fun r hr => (hsent r hr).elim (hphase.sent r) id, hphase.uplink⟩
  | receive => cases he
  | command hqueue =>
    rw [hphase.commands] at hqueue
    cases hqueue
  | telemetry hmsg _ =>
    refine ⟨hphase.state, ?_, fun t ht => ?_, hphase.sent, hphase.uplink⟩
    · exact (rpcSendTelemetry_cmd _ _).1.trans hphase.commands
    · rcases mem_rpcSendTelemetry ht with ht | rfl
      · exact hphase.telemetry t ht
      · exact hmsg

theorem Uploading.task (hphase : Uploading g p s) (hmove : MissionMove s.tasks e tasks)
    (he : e.internal = true) : UploadPhase g p { s with tasks := tasks } := by
  cases hmove with
  | empty hqueue | received | advance =>
    exact .uploading ⟨hphase.state, hphase.expected, hphase.received, hphase.count,
      hphase.first, hphase.sent, hphase.uplink⟩
  | @drain txOk telem rest hqueue =>
    obtain ⟨_, sent, state, hdrain, hidle, hother⟩ := drainRpcTelemetryMsg_spec
      { s.tasks.handler with rpcCtx := { s.tasks.handler.rpcCtx with telemQueue := rest } }
      txOk telem
    rw [hdrain]
    by_cases hack : telem.isMissionAck = true
    · -- an item was forwarded before, so it was not the only one
      have hpos : s.tasks.handler.missionReceived.toNat ≠ 0 := by
        intro hzero
        have htelem := (hphase.first hzero).2 telem (by rw [hqueue]; exact List.mem_cons_self ..)
        rw [hack] at htelem
        cases htelem
      have hreceived := hphase.received
      obtain rfl := hidle hack
      exact .aborted ⟨MissionState.noConfusion, hphase.count, by omega, hphase.uplink⟩
    obtain ⟨rfl, hsent⟩ := hother (by simpa using hack)
    refine .uploading ⟨hphase.state, hphase.expected, hphase.received, hphase.count,
      fun hzero => ?_, fun r hr => ?_, hphase.uplink⟩
    · obtain ⟨hcmd, htelem⟩ := hphase.first hzero
      rw [hqueue] at htelem
      exact ⟨hcmd, fun t ht => htelem t (List.mem_cons_of_mem _ ht)⟩
    · exact (hsent r hr).elim (hphase.sent r) payload_ne_of_plain
  | receive => cases he
  | @command cmd rest hqueue =>
    refine .uploading ⟨hphase.state, hphase.expected, hphase.received, hphase.count,
      fun hzero => ?_, hphase.sent, hphase.uplink⟩
    -- core 0 has had no command before the first item
    have hnone := (hphase.first hzero).1
    rw [hqueue] at hnone
    cases hnone
  | telemetry hmsg _ =>
    refine .uploading ⟨hphase.state, hphase.expected, hphase.received, hphase.count,
      fun hzero => ?_, hphase.sent, hphase.uplink⟩
    obtain ⟨hcmd, htelem⟩ := hphase.first hzero
    refine ⟨(rpcSendTelemetry_cmd _ _).1.trans hcmd, fun t ht => ?_⟩
    rcases mem_rpcSendTelemetry ht with ht | rfl
    · exact htelem t ht
    · exact hmsg

theorem missionMgrAdvance_same (m : MissionMgr) :
    (missionMgrAdvance m).count = m.count ∧ (missionMgrAdvance m).items = m.items := by
  unfold missionMgrAdvance
  split <;> exact ⟨rfl, rfl⟩

theorem Completed.task (hphase : Completed g p s) (hmove : MissionMove s.tasks e tasks)
    (he : e.internal = true) : Completed g p { s with tasks := tasks } := by
  cases hmove with
  | empty hqueue | received =>
    exact ⟨hphase.state, hphase.count, hphase.single, hphase.commands, hphase.uplink⟩
  | @drain txOk telem rest hqueue =>
    obtain ⟨_, sent, state, hstate, hdrain⟩ := drainRpcTelemetryMsg_state
      { s.tasks.handler with rpcCtx := { s.tasks.handler.rpcCtx with telemQueue := rest } }
      txOk telem hphase.state
    rw [hdrain]
    exact ⟨hstate, hphase.count, hphase.single, hphase.commands, hphase.uplink⟩
  | receive => cases he
  | @command cmd rest hqueue =>
    obtain ⟨hrest, -⟩ := sysmonCommand_queues s.tasks.mgr
      { s.tasks.handler.rpcCtx with cmdQueue := rest } cmd
    refine ⟨hphase.state, hphase.count, hphase.single, ?_, hphase.uplink⟩
    rcases hphase.commands with ⟨earlier, hcount⟩ | ⟨hnone, -⟩
    · rw [hqueue] at hcount
      cases earlier with
      | nil =>
        -- the count arrives, and the items are cleared
        obtain ⟨rfl, rfl⟩ := List.cons.inj hcount
        have hclear : missionMgrSetCount s.tasks.mgr p.count = ⟨fun _ => .zero, p.count, 0, 0⟩ :=
          missionMgrSetCount_of_le (by rw [p.toNat_count]; exact p.fits)
        exact Or.inr ⟨hrest, congrArg MissionMgr.count hclear, congrArg MissionMgr.items hclear⟩
      | cons first earlier =>
        obtain ⟨rfl, rfl⟩ := List.cons.inj hcount
        exact Or.inl ⟨earlier, hrest⟩
    · rw [hqueue] at hnone
      cases hnone
  | telemetry hmsg _ =>
    refine ⟨hphase.state, hphase.count, hphase.single, ?_, hphase.uplink⟩
    show (∃ earlier, (rpcSendTelemetry _ _).cmdQueue = _) ∨ (rpcSendTelemetry _ _).cmdQueue = _ ∧ _
    rw [(rpcSendTelemetry_cmd _ _).1]
    exact hphase.commands
  | advance =>
    refine ⟨hphase.state, hphase.count, hphase.single, ?_, hphase.uplink⟩
    obtain ⟨hcount, hitems⟩ := missionMgrAdvance_same s.tasks.mgr
    show _ ∨ _ ∧ (missionMgrAdvance s.tasks.mgr).count = _ ∧ (missionMgrAdvance s.tasks.mgr).items = _
    rw [hcount, hitems]
    exact hphase.commands

theorem Aborted.task (hphase : Aborted g p s) (hmove : MissionMove s.tasks e tasks)
    (he : e.internal = true) : Aborted g p { s with tasks := tasks } := by
  cases hmove with
  | empty hqueue | received | command hqueue | telemetry hmsg _ | advance =>
    exact ⟨hphase.state, hphase.count, hphase.several, hphase.uplink⟩
  | @drain txOk telem rest hqueue =>
    obtain ⟨_, sent, state, hstate, hdrain⟩ := drainRpcTelemetryMsg_state
      { s.tasks.handler with rpcCtx := { s.tasks.handler.rpcCtx with telemQueue := rest } }
      txOk telem hphase.state
    rw [hdrain]
    exact ⟨hstate, hphase.count, hphase.several, hphase.uplink⟩
  | receive => cases he

/-! ## Messages of the ground station -/

theorem GroundStation.taken_message (g : GroundStation) (payload : MavlinkPayload) :
    ¬ (g.sysid = mavSysId ∧ g.compid = mavCompIdAutopilot)
      ∧ forAnother (g.message payload) = false := by
  have htaken := g.taken
  unfold ignored at htaken
  rw [Bool.or_eq_false_iff] at htaken
  exact ⟨by simpa using htaken.1, htaken.2⟩

variable {item : MavlinkMissionItemInt}

theorem MissionPlan.seq_lt (p : MissionPlan) (hitem : item ∈ p.items) :
    item.seq.toNat < p.items.length := by
  obtain ⟨i, hi⟩ := List.mem_iff_getElem?.mp hitem
  rw [p.numbered i item hi]
  exact (List.getElem?_eq_some_iff.mp hi).1

theorem Beginning.deliver (hphase : Beginning g p s) (txOk : Bool) :
    Uploading g p
      { tasks := { s.tasks with
          handler := processMavlinkMessage s.tasks.handler txOk
            (g.message (.missionCount p.count mavMissionTypeMission)) }
        read := s.read
        uplink := [] } := by
  obtain ⟨hown, hours⟩ := g.taken_message (.missionCount p.count mavMissionTypeMission)
  have hcount := p.toNat_count
  have hfits := p.fits
  have hpos := p.nonempty
  unfold processMavlinkMessage
  rw [if_neg (by exact hown)]
  show Uploading g p ⟨{ s.tasks with handler := handleMissionCount _ _ _ _ _ }, _, _⟩
  unfold handleMissionCount
  rw [if_neg (by simp [hours]), if_neg (by decide), if_neg (by decide), if_neg (by decide)]
  dsimp only
  rw [if_neg (by omega), if_pos (by omega), sendMavlinkMsg_eq]
  refine ⟨rfl, rfl, hpos, rfl, fun _ => ⟨hphase.commands, hphase.telemetry⟩, fun r hr => ?_, ?_⟩
  · rcases mem_sent hr with hr | hmsg
    · exact payload_ne_of_plain (hphase.sent r hr)
    · rw [hmsg]
      exact MavlinkPayload.noConfusion
  · intro msg hmsg
    cases hmsg

theorem rpcSendCommand_of_kept (ctx : RpcContext) (cmd : RpcCommandMsg)
    (hkept : (rpcSendCommand ctx cmd).cmdDropped ≤ ctx.cmdDropped) :
    (rpcSendCommand ctx cmd).cmdQueue = ctx.cmdQueue ++ [cmd] := by
  rcases rpcSendCommand_cases ctx cmd with h | h
  · rw [h]
  · rw [h] at hkept
    exact absurd hkept (by simp)

theorem Uploading.deliver {rest : List MavlinkMessage}
    (hphase : Uploading g p s) (txOk : Bool) (hitem : item ∈ p.items) (hrest : ItemsOnly g p rest)
    (hdropped : (processMavlinkMessage s.tasks.handler txOk
      (g.message (.missionItemInt item))).rpcCtx.cmdDropped = s.dropped) : UploadPhase g p
      { tasks := { s.tasks with
          handler := processMavlinkMessage s.tasks.handler txOk (g.message (.missionItemInt item)) }
        read := s.read
        uplink := rest } := by
  obtain ⟨hown, hours⟩ := g.taken_message (.missionItemInt item)
  have hseq := p.seq_lt hitem
  have hcount := p.toNat_count
  have hfits := p.fits
  have hlt := hphase.received
  have hsucc : (s.tasks.handler.missionReceived + 1).toNat
      = s.tasks.handler.missionReceived.toNat + 1 := by
    unfold missionMaxItems at hfits
    exact Nat.mod_eq_of_lt (by show s.tasks.handler.missionReceived.toNat + 1 < 2 ^ 16; omega)
  have hprocess : processMavlinkMessage s.tasks.handler txOk (g.message (.missionItemInt item))
      = handleMissionItemInt s.tasks.handler txOk (g.message (.missionItemInt item)) item :=
    if_neg (by exact hown)
  rw [hprocess] at hdropped ⊢
  unfold handleMissionItemInt at hdropped ⊢
  rw [if_neg (by simp [hours]), if_neg (not_not.mpr hphase.state), if_neg (by omega)] at hdropped ⊢
  dsimp only at hdropped ⊢
  by_cases hlast : p.items.length ≤ s.tasks.handler.missionReceived.toNat + 1
  · have hdone : (storeMissionItem s.tasks.handler item).missionExpected.toNat
        ≤ (storeMissionItem s.tasks.handler item).missionReceived.toNat := by
      show s.tasks.handler.missionExpected.toNat ≤ (s.tasks.handler.missionReceived + 1).toNat
      rw [hphase.expected, hcount, hsucc]
      exact hlast
    rw [if_pos hdone] at hdropped ⊢
    rw [sendMavlinkMsg_rpcCtx] at hdropped
    have hqueue := rpcSendCommand_of_kept (storeMissionItem s.tasks.handler item).rpcCtx
      (.missionCount s.tasks.handler.missionExpected)
      (Nat.le_trans (Nat.le_of_eq hdropped) (cmdDropped_le_rpcSendCommand _ _))
    rw [sendMavlinkMsg_eq]
    refine .completed ⟨MissionState.noConfusion, hphase.expected, fun only honly => ?_,
      Or.inl ⟨(storeMissionItem s.tasks.handler item).rpcCtx.cmdQueue, ?_⟩, hrest⟩
    · rw [honly] at hitem hseq
      obtain rfl := List.mem_singleton.mp hitem
      have hzero : item.seq.toNat = 0 := Nat.lt_one_iff.mp hseq
      show Function.update s.tasks.handler.missionItems item.seq.toNat item 0 = item
      rw [hzero, Function.update_self]
    · rw [← hphase.expected]
      exact hqueue
  have hmore : ¬ (storeMissionItem s.tasks.handler item).missionExpected.toNat
      ≤ (storeMissionItem s.tasks.handler item).missionReceived.toNat := by
    show ¬ s.tasks.handler.missionExpected.toNat ≤ (s.tasks.handler.missionReceived + 1).toNat
    rw [hphase.expected, hcount, hsucc]
    exact hlast
  rw [if_neg hmore, sendMavlinkMsg_eq]
  refine .uploading ⟨hphase.state, hphase.expected, ?_, hphase.count, fun hzero => ?_,
    fun r hr => ?_, hrest⟩
  · show (s.tasks.handler.missionReceived + 1).toNat < _
    omega
  · exact absurd (hsucc.symm.trans hzero) (Nat.succ_ne_zero _)
  rcases mem_sent hr with hr | hmsg
  · exact hphase.sent r hr
  · rw [hmsg]
    exact MavlinkPayload.noConfusion

theorem processMavlinkMessage_late (hstate : h.missionState ≠ .uploading) :
    processMavlinkMessage h txOk (g.message (.missionItemInt item)) = h := by
  obtain ⟨hown, hours⟩ := g.taken_message (.missionItemInt item)
  unfold processMavlinkMessage
  rw [if_neg (by exact hown)]
  show handleMissionItemInt _ _ _ _ = _
  unfold handleMissionItemInt
  rw [if_neg (by simp [hours]), if_pos hstate]

theorem itemsOnly_answer (msg : MavlinkMessage) : ItemsOnly g p (g.answer p msg).toList := by
  intro m hm
  have hanswer := Option.mem_toList.mp hm
  unfold GroundStation.answer at hanswer
  split at hanswer
  · obtain ⟨item, hitem, rfl⟩ := Option.map_eq_some_iff.mp hanswer
    exact ⟨item, List.mem_of_getElem? hitem, rfl⟩
  · cases hanswer

theorem answer_of_plain (hplain : msg.payload.plain = true) : g.answer p msg = none := by
  unfold GroundStation.answer
  split
  · next hpayload =>
      rw [hpayload] at hplain
      cases hplain
  · rfl

theorem ItemsOnly.append {l l' : List MavlinkMessage} (hl : ItemsOnly g p l)
    (hl' : ItemsOnly g p l') : ItemsOnly g p (l ++ l') := by
  intro m hm
  exact (List.mem_append.mp hm).elim (hl m) (hl' m)

/-! ## A run -/

variable {event : UploadEvent}

theorem UploadPhase.step (hphase : UploadPhase g p s) (hstep : uploadStep g p s event = some s')
    (hdropped : s'.dropped = s.dropped) : UploadPhase g p s' := by
  cases event with
  | task e =>
    unfold uploadStep at hstep
    dsimp only at hstep
    split at hstep
    · next he =>
        obtain ⟨tasks, hmove, rfl⟩ := Option.map_eq_some_iff.mp hstep
        have hmove := missionStep_move hmove
        cases hphase with
        | beginning h => exact .beginning (h.task hmove he)
        | uploading h => exact h.task hmove he
        | completed h => exact .completed (h.task hmove he)
        | aborted h => exact .aborted (h.task hmove he)
    · cases hstep
  | deliver txOk =>
    unfold uploadStep at hstep
    dsimp only at hstep
    cases huplink : s.uplink with
    | nil =>
      rw [huplink] at hstep
      cases hstep
    | cons msg rest =>
      rw [huplink] at hstep
      obtain ⟨tasks, hmove, rfl⟩ := Option.map_eq_some_iff.mp hstep
      cases missionStep_move hmove with
      | telemetry _ he => cases he
      | receive =>
        cases hphase with
        | beginning h =>
          have hfirst := h.uplink
          rw [huplink] at hfirst
          obtain ⟨rfl, rfl⟩ := List.cons.inj hfirst
          exact .uploading (h.deliver txOk)
        | uploading h =>
          have hitems := h.uplink
          rw [huplink] at hitems
          obtain ⟨⟨item, hitem, rfl⟩, hrest⟩ := List.forall_mem_cons.mp hitems
          exact h.deliver txOk hitem hrest hdropped
        | completed h =>
          have hitems := h.uplink
          rw [huplink] at hitems
          obtain ⟨⟨item, hitem, rfl⟩, hrest⟩ := List.forall_mem_cons.mp hitems
          rw [processMavlinkMessage_late h.state]
          exact .completed ⟨h.state, h.count, h.single, h.commands, hrest⟩
        | aborted h =>
          have hitems := h.uplink
          rw [huplink] at hitems
          obtain ⟨⟨item, hitem, rfl⟩, hrest⟩ := List.forall_mem_cons.mp hitems
          rw [processMavlinkMessage_late h.state]
          exact .aborted ⟨h.state, h.count, h.several, hrest⟩
  | answer =>
    obtain ⟨r, hr, rfl⟩ := Option.map_eq_some_iff.mp hstep
    have hanswer : ItemsOnly g p (g.answer p r.msg).toList := itemsOnly_answer r.msg
    cases hphase with
    | beginning h =>
      have hplain := h.sent r (List.mem_reverse.mp (List.mem_of_getElem? hr))
      refine .beginning ⟨h.state, h.commands, h.telemetry, h.sent, ?_⟩
      rw [answer_of_plain hplain]
      exact (List.append_nil _).trans h.uplink
    | uploading h => exact .uploading ⟨h.state, h.expected, h.received, h.count, h.first, h.sent,
        h.uplink.append hanswer⟩
    | completed h => exact .completed ⟨h.state, h.count, h.single, h.commands,
        h.uplink.append hanswer⟩
    | aborted h => exact .aborted ⟨h.state, h.count, h.several, h.uplink.append hanswer⟩

theorem uploadStep_dropped (hstep : uploadStep g p s event = some s') : s.dropped ≤ s'.dropped := by
  have htask : ∀ {e : MissionEvent} {tasks : MissionTasks}, missionStep s.tasks e = some tasks →
      s.tasks.handler.rpcCtx.cmdDropped ≤ tasks.handler.rpcCtx.cmdDropped := by
    intro e tasks hmove
    cases missionStep_move hmove with
    | empty hqueue | received | advance => exact Nat.le_refl _
    | @drain txOk telem rest hqueue =>
      obtain ⟨_, _, _, hdrain, -, -⟩ := drainRpcTelemetryMsg_spec
        { s.tasks.handler with rpcCtx := { s.tasks.handler.rpcCtx with telemQueue := rest } }
        txOk telem
      rw [hdrain]
    | receive => exact processMavlinkMessage_dropped
    | @command cmd rest hqueue =>
      exact Nat.le_of_eq (sysmonCommand_queues s.tasks.mgr
        { s.tasks.handler.rpcCtx with cmdQueue := rest } cmd).2.1.symm
    | telemetry _ _ => exact Nat.le_of_eq (rpcSendTelemetry_cmd _ _).2.symm
  cases event with
  | task e =>
    unfold uploadStep at hstep
    dsimp only at hstep
    split at hstep
    · obtain ⟨tasks, hmove, rfl⟩ := Option.map_eq_some_iff.mp hstep
      exact htask hmove
    · cases hstep
  | deliver txOk =>
    unfold uploadStep at hstep
    dsimp only at hstep
    split at hstep
    · cases hstep
    · obtain ⟨tasks, hmove, rfl⟩ := Option.map_eq_some_iff.mp hstep
      exact htask hmove
  | answer =>
    obtain ⟨r, hr, rfl⟩ := Option.map_eq_some_iff.mp hstep
    exact Nat.le_refl _

theorem UploadPhase.run {s₀ : UploadSystem} (hstart : UploadPhase g p s₀) {events : List UploadEvent}
    (hrun : runFrom (uploadStep g p) s₀ events = some s) (hdropped : s.dropped = s₀.dropped) :
    UploadPhase g p s := by
  have hinv : Throughout (uploadStep g p)
      (fun s => s₀.dropped ≤ s.dropped ∧ (s.dropped = s₀.dropped → UploadPhase g p s)) s₀ events := by
    refine throughout_of_invariant (fun s event s' hs hstep => ?_) ⟨Nat.le_refl _, fun _ => hstart⟩ _
    obtain ⟨hle, hphase⟩ := hs
    have hnext := uploadStep_dropped hstep
    refine ⟨Nat.le_trans hle hnext, fun hkept => ?_⟩
    exact (hphase (by omega)).step hstep (by omega)
  exact (hinv.of_runFrom hrun).2 hdropped

theorem IdleSystem.phase (hidle : IdleSystem g p s) : UploadPhase g p s := by
  refine .beginning ⟨?_, hidle.commands, hidle.telemetry, fun r hr => ?_, hidle.uplink⟩
  · rw [hidle.state]
    exact MissionState.noConfusion
  · rw [hidle.sent] at hr
    cases hr

theorem not_served_of_count_zero (hcount : h.missionCount = 0) (seq : U16) (reply : MavlinkMessage) :
    handleMissionRequestInt h true msg seq ≠ sendMavlinkMsg h true reply := by
  have hnone : handleMissionRequestInt h true msg seq = h := by
    unfold handleMissionRequestInt
    rw [hcount]
    split
    · rfl
    · exact if_pos (Nat.zero_le _)
  rw [hnone]
  intro heq
  have hlength := congrArg (fun h => h.sent.length) heq
  simp [sendMavlinkMsg] at hlength

theorem Completed.intact_iff (hphase : Completed g p s) (hdrained : Drained s) :
    UploadIntact p s ↔ p.items.map (·.toMissionItem) = [.zero] := by
  obtain ⟨hcount, hitems⟩ : s.tasks.mgr.count = p.count ∧ s.tasks.mgr.items = fun _ => .zero := by
    rcases hphase.commands with ⟨earlier, hqueue⟩ | ⟨-, hcleared⟩
    · rw [hdrained.1] at hqueue
      exact absurd hqueue.symm (by simp)
    · exact hcleared
  have hlength := p.toNat_count
  have hfits := p.fits
  have hget : ∀ (i : Nat) (item : MavlinkMissionItemInt), p.items[i]? = some item →
      missionMgrGetItem s.tasks.mgr (BitVec.ofNat 16 i) = some .zero := by
    intro i item hitem
    have hi := (List.getElem?_eq_some_iff.mp hitem).1
    have hindex : (BitVec.ofNat 16 i).toNat = i := by
      unfold missionMaxItems at hfits
      exact Nat.mod_eq_of_lt (by omega)
    unfold missionMgrGetItem
    rw [hcount, hindex, if_neg (by omega), hitems]
  constructor
  · intro hintact
    have hzero : ∀ (i : Nat) (item : MavlinkMissionItemInt), p.items[i]? = some item →
        item.toMissionItem = .zero := by
      intro i item hitem
      exact Option.some.inj ((hintact.items i item hitem).symm.trans (hget i item hitem))
    cases hplan : p.items with
    | nil => exact absurd p.nonempty (by simp [hplan])
    | cons first rest =>
      cases rest with
      | nil =>
        have hfirst := hzero 0 first (by rw [hplan]; rfl)
        simp [hfirst]
      | cons second rest =>
        -- the second item has number 1, so it is not all zero
        have hsecond : p.items[1]? = some second := by rw [hplan]; rfl
        have hseq := p.numbered 1 second hsecond
        have hcleared := hzero 1 second hsecond
        rw [hcleared] at hseq
        exact absurd hseq (by decide)
  intro hsingle
  obtain ⟨item, hplan, hcleared⟩ := List.map_eq_singleton_iff.mp hsingle
  have honly : ∀ (i : Nat) (item' : MavlinkMissionItemInt), p.items[i]? = some item' →
      i = 0 ∧ item' = item := by
    intro i item' hitem
    rw [hplan] at hitem
    cases i with
    | zero => exact ⟨rfl, (Option.some.inj hitem).symm⟩
    | succ i => cases hitem
  refine ⟨?_, fun i item' hitem => ?_, fun i item' hitem msg hours => ?_⟩
  · unfold missionMgrGetCount
    rw [hcount, hlength]
  · rw [hget i item' hitem, (honly i item' hitem).2, hcleared]
  obtain ⟨rfl, rfl⟩ := honly i item' hitem
  have hpos := p.nonempty
  unfold handleMissionRequestInt
  rw [if_neg (by simp [hours]), hphase.count, hlength, if_neg]
  · show sendMavlinkMsg _ true (replyTo msg (.missionItemInt (s.tasks.handler.missionItems 0))) = _
    rw [hphase.single item' hplan]
  · show ¬ p.items.length ≤ 0
    omega

/-- When an upload has been acknowledged and both queues are empty, the mission is on the
flight core, and served back, exactly when it is a single item that is all zero. -/
theorem upload_intact_iff (g : GroundStation) (p : MissionPlan) (s₀ s : UploadSystem)
    (hidle : IdleSystem g p s₀) (events : List UploadEvent)
    (hrun : runFrom (uploadStep g p) s₀ events = some s) (hdropped : s.dropped = s₀.dropped)
    (hacked : Acknowledged s) (hdrained : Drained s) :
    UploadIntact p s ↔ p.items.map (·.toMissionItem) = [.zero] := by
  obtain ⟨r, hr, hpayload⟩ := hacked
  cases hidle.phase.run hrun hdropped with
  | beginning h => exact absurd hpayload (payload_ne_of_plain (h.sent r hr))
  | uploading h => exact absurd hpayload (h.sent r hr)
  | completed h => exact h.intact_iff hdrained
  | aborted h =>
    -- the handler serves nothing back, and there were two items at least
    have hseveral := h.several
    constructor
    · intro hintact
      obtain ⟨item, hitem⟩ : ∃ item, p.items[0]? = some item :=
        ⟨_, List.getElem?_eq_getElem p.nonempty⟩
      exact absurd (hintact.served 0 item hitem (g.message .other) (g.taken_message .other).2)
        (not_served_of_count_zero h.count _ _)
    intro hsingle
    have hlength := congrArg List.length hsingle
    rw [List.length_map] at hlength
    exact absurd hlength (by simp; omega)

/-- A ground station. -/
def someGroundStation : GroundStation := ⟨255, 190, 1, 1, by decide⟩

/-- A mission of one item. -/
def singlePlan (item : MavlinkMissionItemInt) (hseq : item.seq = 0) : MissionPlan where
  items := [item]
  nonempty := by simp
  fits := by simp [missionMaxItems]
  numbered := by
    intro i item' hitem
    cases i with
    | zero =>
      cases hitem
      rw [hseq]
      rfl
    | succ i => cases hitem

/-- The vehicle when it has been switched on, and the count message on its way to it. -/
def uploadInit (g : GroundStation) (p : MissionPlan) : UploadSystem where
  tasks := missionTasksInit missionMgrInit
  read := 0
  uplink := [g.message (.missionCount p.count mavMissionTypeMission)]

theorem uploadInit_idle (g : GroundStation) (p : MissionPlan) : IdleSystem g p (uploadInit g p) where
  state := rfl
  commands := rfl
  telemetry := fun telem ht => by cases ht
  sent := rfl
  read := rfl
  uplink := rfl

/-- The upload of one item, from the count to empty queues. -/
def singleUpload : List UploadEvent :=
  [.task (.drain true), .deliver true, .answer, .deliver true, .task .received, .task .command,
    .task .command, .task (.drain true), .task (.drain true)]

/-- A waypoint: navigate to a place, 20 m up. -/
def someWaypoint : MavlinkMissionItemInt :=
  ⟨⟨0, 3, 16, 1, 0, 0, 0, 0, 374221234, 1270123456, 0x41a00000⟩, 0, 0⟩

/-- What decides that an upload is over: the queues, and what was sent. -/
def UploadSystem.traffic (s : UploadSystem) : RpcContext × List MavlinkPayload :=
  (s.tasks.handler.rpcCtx, s.tasks.sentPayloads)

theorem over_of_traffic {payloads : List MavlinkPayload} (htraffic : s.traffic = (⟨[], [], 0⟩, payloads))
    (hacked : .missionAck mavMissionAccepted mavMissionTypeMission ∈ payloads) :
    s.dropped = 0 ∧ Acknowledged s ∧ Drained s := by
  obtain ⟨hctx, hsent⟩ := Prod.mk.inj htraffic
  rw [← hsent] at hacked
  obtain ⟨r, hr, hpayload⟩ := List.mem_map.mp hacked
  refine ⟨congrArg RpcContext.cmdDropped hctx, ⟨r, hr, hpayload⟩, ?_, ?_⟩
  · exact congrArg RpcContext.cmdQueue hctx
  · exact congrArg RpcContext.telemQueue hctx

/-- The one mission that arrives. -/
theorem upload_intact_zero_item :
    ∃ s, runFrom (uploadStep someGroundStation (singlePlan .zero rfl))
        (uploadInit someGroundStation (singlePlan .zero rfl)) singleUpload = some s
      ∧ UploadIntact (singlePlan .zero rfl) s := by
  have hend : (runFrom (uploadStep someGroundStation (singlePlan .zero rfl))
      (uploadInit someGroundStation (singlePlan .zero rfl)) singleUpload).map UploadSystem.traffic
      = some (⟨[], [], 0⟩, [.missionAck 0 0, .missionAck 0 0, .missionAck 0 0,
        .missionRequestInt 0 0]) := by decide +kernel
  obtain ⟨s, hrun, htraffic⟩ := Option.map_eq_some_iff.mp hend
  obtain ⟨hdropped, hacked, hdrained⟩ := over_of_traffic htraffic (by decide)
  exact ⟨s, hrun, (upload_intact_iff _ _ _ s (uploadInit_idle _ _) _ hrun hdropped hacked
    hdrained).mpr rfl⟩

/-- A waypoint is uploaded and acknowledged, and the flight core has a cleared item. -/
theorem waypoint_is_cleared :
    ¬ ∀ (g : GroundStation) (p : MissionPlan) (s₀ s : UploadSystem), IdleSystem g p s₀ →
      ∀ events, runFrom (uploadStep g p) s₀ events = some s → s.dropped = s₀.dropped →
        Acknowledged s → Drained s → UploadIntact p s := by
  intro h
  have hend : (runFrom (uploadStep someGroundStation (singlePlan someWaypoint rfl))
      (uploadInit someGroundStation (singlePlan someWaypoint rfl)) singleUpload).map
        (fun s => (s.traffic, missionMgrGetItem s.tasks.mgr 0))
      = some ((⟨[], [], 0⟩, [.missionAck 0 0, .missionAck 0 0, .missionAck 0 0,
        .missionRequestInt 0 0]), some .zero) := by decide +kernel
  obtain ⟨s, hrun, hs⟩ := Option.map_eq_some_iff.mp hend
  obtain ⟨htraffic, hitem⟩ := Prod.mk.inj hs
  obtain ⟨hdropped, hacked, hdrained⟩ := over_of_traffic htraffic (by decide)
  have hintact := h _ _ _ s (uploadInit_idle _ _) _ hrun hdropped hacked hdrained
  have hthere := (hintact.items 0 someWaypoint rfl).symm.trans hitem
  exact absurd (Option.some.inj hthere) (by decide)

end MmIotEsp32.HeliFc
