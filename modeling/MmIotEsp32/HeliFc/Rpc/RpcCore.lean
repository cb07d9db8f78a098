/-
  MmIotEsp32.HeliFc.Rpc.RpcCore

  The mission items of the flight core (`agents/mission_mgr.c`) and the two queues between the
  cores (`rpc/rpc_core.c`, `rpc/rpc_messages.h`).
-/
import Mathlib.Logic.Function.Basic
import MmIotEsp32.Common.Mmosal

namespace MmIotEsp32.HeliFc

def missionMaxItems : Nat := 50

/-- `mission_item_t`, and the fields of `mission_item_cmd` that are read. -/
structure MissionItem where
  seq : U16
  frame : U8
  command : U16
  autocontinue : U8
  param1 : U32
  param2 : U32
  param3 : U32
  param4 : U32
  x : U32
  y : U32
  z : U32
  deriving Repr, DecidableEq

/-- An item that `memset` has cleared. -/
def MissionItem.zero : MissionItem := ⟨0, 0, 0, 0, 0, 0, 0, 0, 0, 0, 0⟩

/-- The statics of `mission_mgr.c`. -/
structure MissionMgr where
  items : Nat → MissionItem
  count : U16
  stored : U16
  current : U16

def missionMgrInit : MissionMgr := ⟨fun _ => .zero, 0, 0, 0⟩

def missionMgrGetCount (m : MissionMgr) : Nat := m.count.toNat

def missionMgrGetItem (m : MissionMgr) (seq : U16) : Option MissionItem :=
  if m.count.toNat ≤ seq.toNat ∨ missionMaxItems ≤ seq.toNat then none else some (m.items seq.toNat)

def missionMgrSetCurrent (m : MissionMgr) (seq : U16) : MissionMgr :=
  if seq.toNat < m.count.toNat then { m with current := seq } else m

def missionMgrAdvance (m : MissionMgr) : MissionMgr :=
  if m.current.toNat < m.count.toNat then { m with current := m.current + 1 } else m

def missionMgrClear (_ : MissionMgr) : MissionMgr := ⟨fun _ => .zero, 0, 0, 0⟩

def missionMgrSetCount (_ : MissionMgr) (count : U16) : MissionMgr :=
  let count := if missionMaxItems < count.toNat then BitVec.ofNat 16 missionMaxItems else count
  ⟨fun _ => .zero, count, 0, 0⟩

def missionMgrStoreItem (m : MissionMgr) (seq : U16) (item : MissionItem) : MissionMgr :=
  if m.count.toNat ≤ seq.toNat ∨ missionMaxItems ≤ seq.toNat then m
  else
    { m with
      items := Function.update m.items seq.toNat { item with seq := seq }
      stored := m.stored + 1 }

def missionMgrIsComplete (m : MissionMgr) : Bool :=
  decide (m.count.toNat = 0) || decide (m.count.toNat ≤ m.current.toNat)

theorem missionMgrSetCount_of_le {m : MissionMgr} {count : U16}
    (hcount : count.toNat ≤ missionMaxItems) :
    missionMgrSetCount m count = ⟨fun _ => .zero, count, 0, 0⟩ := by
  unfold missionMgrSetCount
  rw [if_neg (by omega)]

def rpcTelemQueueDepth : Nat := 8

def rpcCmdQueueDepth : Nat := 16

/-- `rpc_command_msg_t`: `msg_type` with its part of `data`. -/
inductive RpcCommandMsg where
  | missionCount (count : U16)
  | missionItem (item : MissionItem)
  | missionRequestList
  | missionClearAll
  | missionSetCurrent (seq : U16)
  | other
  deriving Repr, DecidableEq

/-- `rpc_telemetry_msg_t`: `msg_type` with its part of `data`. -/
inductive RpcTelemetryMsg where
  | missionCount (count : U16)
  | missionItem (item : MissionItem) (current : U8)
  | missionAck (result : U8)
  | missionCurrent (seq : U16)
  | other
  deriving Repr, DecidableEq

/-- The message is an acknowledgement of core 0. -/
def RpcTelemetryMsg.isMissionAck : RpcTelemetryMsg → Bool
  | .missionAck _ => true
  | _ => false

/-- `rpc_context_t`, and `cmd_dropped` of its statistics. -/
structure RpcContext where
  telemQueue : List RpcTelemetryMsg
  cmdQueue : List RpcCommandMsg
  cmdDropped : Nat
  deriving Repr, DecidableEq

def rpcInit : RpcContext := ⟨[], [], 0⟩

def rpcSendTelemetry (ctx : RpcContext) (msg : RpcTelemetryMsg) : RpcContext :=
  if ctx.telemQueue.length < rpcTelemQueueDepth then
    { ctx with telemQueue := ctx.telemQueue ++ [msg] }
  else
    -- the queue is full: drop the oldest
    { ctx with telemQueue := ctx.telemQueue.tail ++ [msg] }

def rpcReceiveTelemetry (ctx : RpcContext) : Option (RpcTelemetryMsg × RpcContext) :=
  match ctx.telemQueue with
  | [] => none
  | msg :: rest => some (msg, { ctx with telemQueue := rest })

def rpcSendCommand (ctx : RpcContext) (msg : RpcCommandMsg) : RpcContext :=
  if ctx.cmdQueue.length < rpcCmdQueueDepth then { ctx with cmdQueue := ctx.cmdQueue ++ [msg] }
  else { ctx with cmdDropped := ctx.cmdDropped + 1 }

def rpcReceiveCommand (ctx : RpcContext) : Option (RpcCommandMsg × RpcContext) :=
  match ctx.cmdQueue with
  | [] => none
  | msg :: rest => some (msg, { ctx with cmdQueue := rest })

/-! ## What the queues do -/

theorem rpcSendTelemetry_cmd (ctx : RpcContext) (msg : RpcTelemetryMsg) :
    (rpcSendTelemetry ctx msg).cmdQueue = ctx.cmdQueue
      ∧ (rpcSendTelemetry ctx msg).cmdDropped = ctx.cmdDropped := by
  unfold rpcSendTelemetry
  split <;> exact ⟨rfl, rfl⟩

theorem mem_rpcSendTelemetry {ctx : RpcContext} {msg m : RpcTelemetryMsg}
    (h : m ∈ (rpcSendTelemetry ctx msg).telemQueue) : m ∈ ctx.telemQueue ∨ m = msg := by
  unfold rpcSendTelemetry at h
  split at h
  · simpa using h
  · rcases List.mem_append.mp h with h | h
    · exact Or.inl (List.mem_of_mem_tail h)
    · exact Or.inr (List.mem_singleton.mp h)

theorem rpcSendCommand_cases (ctx : RpcContext) (msg : RpcCommandMsg) :
    rpcSendCommand ctx msg = { ctx with cmdQueue := ctx.cmdQueue ++ [msg] }
      ∨ rpcSendCommand ctx msg = { ctx with cmdDropped := ctx.cmdDropped + 1 } := by
  unfold rpcSendCommand
  split
  · exact Or.inl rfl
  · exact Or.inr rfl

theorem cmdDropped_le_rpcSendCommand (ctx : RpcContext) (msg : RpcCommandMsg) :
    ctx.cmdDropped ≤ (rpcSendCommand ctx msg).cmdDropped := by
  rcases rpcSendCommand_cases ctx msg with h | h <;> rw [h]
  · exact Nat.le_succ _

end MmIotEsp32.HeliFc
