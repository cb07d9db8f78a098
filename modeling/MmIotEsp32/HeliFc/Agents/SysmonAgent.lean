/-
  MmIotEsp32.HeliFc.Agents.SysmonAgent

  The mission commands of the system monitor (`agents/sysmon_agent.c`).
-/
import MmIotEsp32.HeliFc.Rpc.RpcCore

namespace MmIotEsp32.HeliFc

/-- An item as it is sent back to core 1. -/
def missionItemTelemetry (m : MissionMgr) (item : MissionItem) : RpcTelemetryMsg :=
  .missionItem item (if item.seq = m.current then 1 else 0)

/-- The answer to `RPC_CMD_MISSION_REQUEST_LIST`: the count, and each item. -/
def sendMissionList (m : MissionMgr) (ctx : RpcContext) : RpcContext :=
  let ctx := rpcSendTelemetry ctx (.missionCount (BitVec.ofNat 16 (missionMgrGetCount m)))
  (List.range (missionMgrGetCount m)).foldl
    (fun ctx i =>
      match missionMgrGetItem m (BitVec.ofNat 16 i) with
      | none => ctx
      | some item => rpcSendTelemetry ctx (missionItemTelemetry m item))
    ctx

/-- The body of the command loop of `sysmon_task`, for the commands about the mission. -/
def sysmonCommand (m : MissionMgr) (ctx : RpcContext) (cmd : RpcCommandMsg) :
    MissionMgr × RpcContext :=
  match cmd with
  | .missionCount count => (missionMgrSetCount m count, rpcSendTelemetry ctx (.missionAck 0))
  | .missionItem item =>
    (missionMgrStoreItem m item.seq item, rpcSendTelemetry ctx (.missionAck 0))
  | .missionRequestList => (m, sendMissionList m ctx)
  | .missionClearAll =>
    -- the status text follows the acknowledgement
    (missionMgrClear m, rpcSendTelemetry (rpcSendTelemetry ctx (.missionAck 0)) .other)
  | .missionSetCurrent seq =>
    let m := missionMgrSetCurrent m seq
    (m, rpcSendTelemetry ctx (.missionCurrent m.current))
  | .other => (m, ctx)

/-- The commands that sysmon acknowledges to core 1. -/
def RpcCommandMsg.acknowledged : RpcCommandMsg → Bool
  | .missionCount _ => true
  | .missionItem _ => true
  | .missionClearAll => true
  | _ => false

theorem sendMissionList_queues (m : MissionMgr) (ctx : RpcContext) :
    (sendMissionList m ctx).cmdQueue = ctx.cmdQueue
      ∧ (sendMissionList m ctx).cmdDropped = ctx.cmdDropped
      ∧ ∀ r, .missionAck r ∈ (sendMissionList m ctx).telemQueue → .missionAck r ∈ ctx.telemQueue := by
  unfold sendMissionList
  dsimp only
  generalize List.range (missionMgrGetCount m) = l
  have hcount := rpcSendTelemetry_cmd ctx (.missionCount (BitVec.ofNat 16 (missionMgrGetCount m)))
  have hfirst : ∀ r, .missionAck r ∈ (rpcSendTelemetry ctx
      (.missionCount (BitVec.ofNat 16 (missionMgrGetCount m)))).telemQueue →
      .missionAck r ∈ ctx.telemQueue := by
    intro r hr
    exact (mem_rpcSendTelemetry hr).resolve_right (by simp)
  generalize rpcSendTelemetry ctx _ = ctx₁ at hcount hfirst ⊢
  rw [← hcount.1, ← hcount.2]
  clear hcount
  -- each item that is sent leaves the acknowledgements as they are
  induction l generalizing ctx₁ with
  | nil => exact ⟨rfl, rfl, hfirst⟩
  | cons i rest ih =>
    rw [List.foldl_cons]
    cases hitem : missionMgrGetItem m (BitVec.ofNat 16 i) with
    | none => exact ih ctx₁ hfirst
    | some item =>
      have hsend := rpcSendTelemetry_cmd ctx₁ (missionItemTelemetry m item)
      rw [← hsend.1, ← hsend.2]
      refine ih _ fun r hr => hfirst r ?_
      exact (mem_rpcSendTelemetry hr).resolve_right (by simp [missionItemTelemetry])

theorem sysmonCommand_queues (m : MissionMgr) (ctx : RpcContext) (cmd : RpcCommandMsg) :
    (sysmonCommand m ctx cmd).2.cmdQueue = ctx.cmdQueue
      ∧ (sysmonCommand m ctx cmd).2.cmdDropped = ctx.cmdDropped
      ∧ ∀ r, .missionAck r ∈ (sysmonCommand m ctx cmd).2.telemQueue →
          .missionAck r ∈ ctx.telemQueue ∨ cmd.acknowledged = true := by
  have hack := rpcSendTelemetry_cmd ctx (.missionAck 0)
  cases cmd with
  | missionCount count | missionItem item => exact ⟨hack.1, hack.2, fun r _ => Or.inr rfl⟩
  | missionRequestList =>
    obtain ⟨hcmd, hdropped, hmem⟩ := sendMissionList_queues m ctx
    exact ⟨hcmd, hdropped, fun r hr => Or.inl (hmem r hr)⟩
  | missionClearAll =>
    have htext := rpcSendTelemetry_cmd (rpcSendTelemetry ctx (.missionAck 0)) .other
    exact ⟨htext.1.trans hack.1, htext.2.trans hack.2, fun r _ => Or.inr rfl⟩
  | missionSetCurrent seq =>
    have hcurrent := rpcSendTelemetry_cmd ctx
      (.missionCurrent (missionMgrSetCurrent m seq).current)
    refine ⟨hcurrent.1, hcurrent.2, fun r hr => Or.inl ?_⟩
    exact (mem_rpcSendTelemetry hr).resolve_right (by simp)
  | other => exact ⟨rfl, rfl, fun r hr => Or.inl hr⟩

end MmIotEsp32.HeliFc
