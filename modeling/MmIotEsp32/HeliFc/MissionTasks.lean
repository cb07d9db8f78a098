/-
  MmIotEsp32.HeliFc.MissionTasks

  The two tasks that keep the mission: the MAVLink handler on core 1 and the system monitor
  on core 0, with the two queues between them.
-/
import MmIotEsp32.HeliFc.Agents.SysmonAgent
import MmIotEsp32.HeliFc.Comm.MavlinkHandler
import MmIotEsp32.Lib.Transition

namespace MmIotEsp32.HeliFc

open Lib

/-- Where the handler task is in its loop. -/
inductive HandlerPc where
  | draining
  | receiving
  deriving Repr, DecidableEq

structure MissionTasks where
  handler : MavlinkHandler
  pc : HandlerPc
  mgr : MissionMgr

inductive MissionEvent where
  /-- One round of the loop of `drain_rpc_telemetry`. -/
  | drain (txOk : Bool)
  /-- A message of the datagram that was received. -/
  | receive (txOk : Bool) (msg : MavlinkMessage)
  /-- The datagram is done with. -/
  | received
  /-- Sysmon handles a command. -/
  | command
  /-- Sysmon's periodic report of the current item. -/
  | current
  /-- Core 0 sends telemetry that is not about the mission. -/
  | telemetry
  /-- The flight controller goes on to the next item. -/
  | advance
  deriving Repr, DecidableEq

/-- The round that finds the queue empty is the last one. -/
def drainRpcTelemetry (s : MissionTasks) (txOk : Bool) : MissionTasks :=
  match rpcReceiveTelemetry s.handler.rpcCtx with
  | none => { s with pc := .receiving }
  | some (telem, ctx) =>
    { s with handler := drainRpcTelemetryMsg { s.handler with rpcCtx := ctx } txOk telem }

/-- Sysmon takes a command from the queue. -/
def sysmonStep (s : MissionTasks) : Option MissionTasks :=
  (rpcReceiveCommand s.handler.rpcCtx).map fun (cmd, ctx) =>
    let (mgr, ctx) := sysmonCommand s.mgr ctx cmd
    { s with handler := { s.handler with rpcCtx := ctx }, mgr := mgr }

/-- Core 0 sends telemetry. -/
def sendToHandler (s : MissionTasks) (msg : RpcTelemetryMsg) : MissionTasks :=
  { s with handler := { s.handler with rpcCtx := rpcSendTelemetry s.handler.rpcCtx msg } }

def missionStep (s : MissionTasks) : MissionEvent → Option MissionTasks
  | .drain txOk => if s.pc = .draining then some (drainRpcTelemetry s txOk) else none
  | .receive txOk msg =>
    if s.pc = .receiving then
      some { s with handler := processMavlinkMessage s.handler txOk msg }
    else none
  | .received => if s.pc = .receiving then some { s with pc := .draining } else none
  | .command => sysmonStep s
  | .current => some (sendToHandler s (.missionCurrent s.mgr.current))
  | .telemetry => some (sendToHandler s .other)
  | .advance => some { s with mgr := missionMgrAdvance s.mgr }

/-- The tasks when the handler has been initialised. -/
def missionTasksInit (mgr : MissionMgr) : MissionTasks := ⟨mavlinkHandlerInit rpcInit, .draining, mgr⟩

/-- What was sent, without the upload of that time. -/
def MissionTasks.sentPayloads (s : MissionTasks) : List MavlinkPayload :=
  s.handler.sent.map fun r => r.msg.payload

/-! ## What a step does -/

/-- The event is not the arrival of a message. -/
def MissionEvent.internal : MissionEvent → Bool
  | .receive _ _ => false
  | _ => true

/-- The handler ignores the message: it is its own, or for another system. -/
def ignored (msg : MavlinkMessage) : Bool :=
  (msg.sysid = mavSysId && msg.compid = mavCompIdAutopilot) || forAnother msg

theorem sendMavlinkMsg_eq (h : MavlinkHandler) (txOk : Bool) (msg : MavlinkMessage) :
    sendMavlinkMsg h txOk msg =
      { h with sent := if txOk then ⟨msg, h.upload⟩ :: h.sent else h.sent } := by
  unfold sendMavlinkMsg
  cases txOk <;> rfl

/-- What a step does. -/
inductive MissionMove (s : MissionTasks) : MissionEvent → MissionTasks → Prop where
  | empty {txOk : Bool} (hqueue : s.handler.rpcCtx.telemQueue = []) :
      MissionMove s (.drain txOk) { s with pc := .receiving }
  | drain {txOk : Bool} {telem : RpcTelemetryMsg} {rest : List RpcTelemetryMsg}
      (hqueue : s.handler.rpcCtx.telemQueue = telem :: rest) :
      MissionMove s (.drain txOk)
        { s with
          handler := drainRpcTelemetryMsg
            { s.handler with rpcCtx := { s.handler.rpcCtx with telemQueue := rest } } txOk telem }
  | receive {txOk : Bool} {msg : MavlinkMessage} :
      MissionMove s (.receive txOk msg)
        { s with handler := processMavlinkMessage s.handler txOk msg }
  | received : MissionMove s .received { s with pc := .draining }
  | command {cmd : RpcCommandMsg} {rest : List RpcCommandMsg}
      (hqueue : s.handler.rpcCtx.cmdQueue = cmd :: rest) :
      MissionMove s .command
        { s with
          handler := { s.handler with
            rpcCtx := (sysmonCommand s.mgr { s.handler.rpcCtx with cmdQueue := rest } cmd).2 }
          mgr := (sysmonCommand s.mgr { s.handler.rpcCtx with cmdQueue := rest } cmd).1 }
  | telemetry {e : MissionEvent} {msg : RpcTelemetryMsg} (hmsg : msg.isMissionAck = false)
      (he : e.internal = true) : MissionMove s e (sendToHandler s msg)
  | advance : MissionMove s .advance { s with mgr := missionMgrAdvance s.mgr }

theorem missionStep_move {s s' : MissionTasks} {e : MissionEvent} (h : missionStep s e = some s') :
    MissionMove s e s' := by
  cases e with
  | drain txOk =>
    obtain ⟨hpc, rfl⟩ : s.pc = .draining ∧ drainRpcTelemetry s txOk = s' := by
      simpa [missionStep] using h
    unfold drainRpcTelemetry rpcReceiveTelemetry
    cases hqueue : s.handler.rpcCtx.telemQueue with
    | nil => exact .empty hqueue
    | cons telem rest => exact .drain hqueue
  | receive txOk msg =>
    obtain ⟨hpc, rfl⟩ : s.pc = .receiving
        ∧ { s with handler := processMavlinkMessage s.handler txOk msg } = s' := by
      simpa [missionStep] using h
    exact .receive
  | received =>
    obtain ⟨hpc, rfl⟩ : s.pc = .receiving ∧ { s with pc := .draining } = s' := by
      simpa [missionStep] using h
    exact .received
  | command =>
    obtain ⟨⟨cmd, ctx⟩, hreceive, rfl⟩ := Option.map_eq_some_iff.mp h
    unfold rpcReceiveCommand at hreceive
    cases hqueue : s.handler.rpcCtx.cmdQueue with
    | nil =>
      rw [hqueue] at hreceive
      cases hreceive
    | cons first rest =>
      rw [hqueue] at hreceive
      cases hreceive
      exact .command hqueue
  | current | telemetry =>
    cases h
    exact .telemetry rfl rfl
  | advance =>
    cases h
    exact .advance

end MmIotEsp32.HeliFc
