/-
  MmIotEsp32.HeliFc.Comm.CommandLong

  The commands of the ground station (`handle_command_long` of `comm/mavlink_handler.c`).
-/
import MmIotEsp32.HeliFc.Agents.SysmonTask
import MmIotEsp32.HeliFc.Comm.MavlinkHandler

namespace MmIotEsp32.HeliFc

open Lib

/-! ## The messages -/

/-- `MAV_RESULT_*`, as far as it is used. -/
inductive MavResult where
  | accepted
  | denied
  | unsupported
  deriving Repr, DecidableEq

/-- The cases of `handle_command_long`. -/
inductive MavCmd where
  | doSetMode
  | navReturnToLaunch
  | navLand
  | doSetServo
  | doMotorTest
  | preflightCalibration
  | preflightRebootShutdown
  | componentArmDisarm
  | setMessageInterval
  | requestMessage
  | requestProtocolVersion
  | requestAutopilotCapabilities
  | other
  deriving Repr, DecidableEq

/-- `MAV_CMD_*`. -/
def mavCmdOf (command : U16) : MavCmd :=
  match command.toNat with
  | 176 => .doSetMode
  | 20 => .navReturnToLaunch
  | 21 => .navLand
  | 183 => .doSetServo
  | 209 => .doMotorTest
  | 241 => .preflightCalibration
  | 246 => .preflightRebootShutdown
  | 400 => .componentArmDisarm
  | 511 => .setMessageInterval
  | 512 => .requestMessage
  | 519 => .requestProtocolVersion
  | 520 => .requestAutopilotCapabilities
  | _ => .other

/-- The fields of a `COMMAND_LONG`, and its sender. -/
structure CommandLong (F : Type*) where
  command : U16
  param1 : F
  param2 : F
  param3 : F
  param4 : F
  param5 : F
  param6 : F
  param7 : F
  targetSystem : U8
  targetComponent : U8
  sysid : U8
  compid : U8

/-- What the handler sends to the ground station. -/
inductive CommandReply where
  | commandAck (command : U16) (result : MavResult) (targetSystem targetComponent : U8)
  | autopilotVersion
  | protocolVersion
  deriving Repr, DecidableEq

/-- `rpc_command_msg_t`, as core 1 fills it in: the types that sysmon knows, and two more. -/
inductive RpcCommand (F : Type*) where
  | flight (cmd : SysmonCommand F)
  | setServo (servoNumber : U8) (pwmValue : U16)
  | motorTest (motorNumber throttleType : U8) (throttle timeoutS : F)

/-- The case of the switch in `sysmon_task` that the type of a command leads to. -/
def RpcCommand.sysmonCase {F : Type*} : RpcCommand F → SysmonCommand F
  | .flight cmd => cmd
  | .setServo _ _ => .unknown
  | .motorTest _ _ _ _ => .unknown

/-- The switch in `sysmon_task` has a case for the command. -/
def SysmonCommand.hasCase {F : Type*} : SysmonCommand F → Bool
  | .unknown => false
  | _ => true

/-! ## The handler -/

/-- `cal_state_t`. -/
inductive CalState where
  | idle
  | gyro
  | mag
  | accel
  | level
  deriving Repr, DecidableEq

/-- The statics of `mavlink_handler.c` that the commands use, and the queue of the commands. -/
structure CommandHandler (F : Type*) where
  attitudeHz : U8
  gpsHz : U8
  batteryHz : U8
  vfrHudHz : U8
  calState : CalState
  calStartMs : U32
  calLastProgressMs : U32
  calStep : Nat
  cmdQueue : List (RpcCommand F)
  /-- What was sent, oldest first. -/
  sent : List CommandReply

/-- What the switch leaves: the statics, `result`, and `rpc_cmd` unless its type is 0. -/
structure CommandOutcome (F : Type*) where
  handler : CommandHandler F
  result : MavResult
  rpcCmd : Option (RpcCommand F)

def px4CustomToFlightMode (customMode : U32) : FlightMode :=
  let mainMode := customMode.toNat / 2 ^ 16 % 2 ^ 8
  let subMode := customMode.toNat / 2 ^ 24 % 2 ^ 8
  match mainMode with
  | 1 => .manual
  | 7 => .stabilize
  | 2 => .altHold
  | 5 => .acro
  | 4 =>
    match subMode with
    | 3 => .loiter
    | 5 => .rth
    | 6 => .land
    | 4 => .mission
    | _ => .loiter
  | 3 => .loiter
  | _ => .manual

/-- The number of a mode. -/
def flightModeNumber (mode : FlightMode) : U8 := BitVec.ofNat 8 (flightModes.idxOf mode)

section

variable {F : Type*} [CFloat F]

/-- `(uint32_t)x`. -/
def toU32 (x : F) : U32 := (CFloat.toU64 x).setWidth 32

/-- `a >= b`. -/
def ge (a b : F) : Bool := CFloat.le b a

/-- A calibration begins. -/
def CommandHandler.startCal (h : CommandHandler F) (nowMs : U32) (state : CalState) :
    CommandHandler F :=
  { h with calState := state, calStartMs := nowMs, calLastProgressMs := 0 }

/-- `MAV_CMD_PREFLIGHT_CALIBRATION`. -/
def preflightCalibration (h : CommandHandler F) (nowMs : U32) (m : CommandLong F) :
    CommandHandler F :=
  if ge m.param1 (lit 1) then h.startCal nowMs .gyro
  else if ge m.param2 (lit 1) then h.startCal nowMs .mag
  else if ge m.param5 (lit 2) then h.startCal nowMs .level
  else if ge m.param5 (lit 1) then { h.startCal nowMs .accel with calStep := 0 }
  -- nothing asked for: the calibration is cancelled
  else { h with calState := .idle }

/-- `new_hz`; 0 leaves the rate as it is. -/
def intervalHz (intervalUs : F) : U8 :=
  if CFloat.lt intervalUs (lit 0) then 0
  else if CFloat.beq intervalUs (lit 0) then 0
  else
    let hz : U8 := (CFloat.toU64 (lit 1000000 / intervalUs)).setWidth 8
    let hz := if hz.toNat < 1 then 1 else hz
    if 10 < hz.toNat then 10 else hz

/-- `MAV_CMD_SET_MESSAGE_INTERVAL`. -/
def setMessageInterval (h : CommandHandler F) (m : CommandLong F) : CommandHandler F :=
  let newHz := intervalHz m.param2
  if 0 < newHz.toNat then
    match (toU32 m.param1).toNat with
    | 30 => { h with attitudeHz := newHz }
    | 24 => { h with gpsHz := newHz }
    | 1 => { h with batteryHz := newHz }
    | 74 => { h with vfrHudHz := newHz }
    -- the other rates are fixed, or the message is unknown
    | _ => h
  else h

/-- The messages that can be requested. -/
inductive RequestedMessage where
  | autopilotVersion
  | protocolVersion
  | homePosition
  | other
  deriving Repr, DecidableEq

/-- `(uint32_t)param1` of `MAV_CMD_REQUEST_MESSAGE`. -/
def requestedMessage (m : CommandLong F) : RequestedMessage :=
  match (toU32 m.param1).toNat with
  | 148 => .autopilotVersion
  | 300 => .protocolVersion
  | 242 => .homePosition
  | _ => .other

/-- The switch of `handle_command_long`. -/
def commandSwitch (h : CommandHandler F) (nowMs : U32) (m : CommandLong F) : CommandOutcome F :=
  match mavCmdOf m.command with
  | .componentArmDisarm =>
    if ge m.param1 (lit 0.5) then ⟨h, .accepted, some (.flight (.arm 1))⟩
    else ⟨h, .accepted, some (.flight .disarm)⟩
  | .doSetMode =>
    ⟨h, .accepted,
      some (.flight (.setMode (flightModeNumber (px4CustomToFlightMode (toU32 m.param2)))))⟩
  | .navReturnToLaunch => ⟨h, .accepted, some (.flight (.setMode (flightModeNumber .rth)))⟩
  | .navLand => ⟨h, .accepted, some (.flight (.setMode (flightModeNumber .land)))⟩
  | .preflightRebootShutdown =>
    if ge m.param1 (lit 1) then ⟨h, .accepted, some (.flight .reboot)⟩ else ⟨h, .denied, none⟩
  | .preflightCalibration => ⟨preflightCalibration h nowMs m, .accepted, none⟩
  | .doSetServo =>
    ⟨h, .accepted, some (.setServo ((CFloat.toU64 m.param1).setWidth 8)
      ((CFloat.toU64 m.param2).setWidth 16))⟩
  | .doMotorTest =>
    ⟨h, .accepted, some (.motorTest ((CFloat.toU64 m.param1).setWidth 8)
      ((CFloat.toU64 m.param2).setWidth 8) m.param3 m.param4)⟩
  | .setMessageInterval => ⟨setMessageInterval h m, .accepted, none⟩
  | .requestAutopilotCapabilities => ⟨h, .accepted, none⟩
  | .requestProtocolVersion => ⟨h, .accepted, none⟩
  | .requestMessage =>
    match requestedMessage m with
    | .autopilotVersion => ⟨h, .accepted, none⟩
    | .protocolVersion => ⟨h, .accepted, none⟩
    | .homePosition => ⟨h, .accepted, some (.flight .requestHomePosition)⟩
    | .other => ⟨h, .unsupported, none⟩
  | .other => ⟨h, .unsupported, none⟩

/-- The messages that follow the acknowledgement of an accepted command. -/
def deferredReplies (m : CommandLong F) : List CommandReply :=
  match mavCmdOf m.command with
  | .requestAutopilotCapabilities => [.autopilotVersion]
  | .requestProtocolVersion => [.protocolVersion]
  | .requestMessage =>
    match requestedMessage m with
    | .autopilotVersion => [.autopilotVersion]
    | .protocolVersion => [.protocolVersion]
    | _ => []
  | _ => []

/-- `rpc_send_command`; `taken` commands leave the queue while it waits. -/
def sendRpcCommand (h : CommandHandler F) (taken : Nat) (cmd : RpcCommand F) : CommandHandler F :=
  if (h.cmdQueue.drop taken).length < rpcCmdQueueDepth then
    { h with cmdQueue := h.cmdQueue.drop taken ++ [cmd] }
  else { h with cmdQueue := h.cmdQueue.drop taken }

/-- The message is for another system. -/
def CommandLong.forAnother (m : CommandLong F) : Bool :=
  m.targetSystem != 0 && m.targetSystem != mavSysId

/-- `handle_command_long`; `taken` commands are taken by sysmon while the last step waits. -/
def handleCommandLong (h : CommandHandler F) (nowMs : U32) (taken : Nat) (m : CommandLong F) :
    CommandHandler F :=
  if m.forAnother then h
  else
    let out := commandSwitch h nowMs m
    let h := out.handler
    -- the acknowledgement first, then any response data
    let h := { h with sent := h.sent ++ [.commandAck m.command out.result m.sysid m.compid] }
    let h := if out.result = .accepted then { h with sent := h.sent ++ deferredReplies m } else h
    match out.result, out.rpcCmd with
    | .accepted, some cmd => sendRpcCommand h taken cmd
    | _, _ => h

/-! ## What is delivered -/

/-- `handle_command_long` answers the command with that result. -/
def Answers (h : CommandHandler F) (nowMs : U32) (taken : Nat) (m : CommandLong F)
    (result : MavResult) : Prop :=
  .commandAck m.command result m.sysid m.compid ∈
    (handleCommandLong h nowMs taken m).sent.drop h.sent.length

/-- The command is one of core 1, which has done what its case says, and has sent what was
requested. -/
def CarriedOut (h : CommandHandler F) (nowMs : U32) (taken : Nat) (m : CommandLong F) : Prop :=
  (commandSwitch h nowMs m).rpcCmd = none
    ∧ ∀ reply ∈ deferredReplies m, reply ∈ (handleCommandLong h nowMs taken m).sent

/-- The command is in the queue, and sysmon has a case that acts on its type. -/
def Placed (h : CommandHandler F) (nowMs : U32) (taken : Nat) (m : CommandLong F) : Prop :=
  ∃ cmd ∈ (commandSwitch h nowMs m).rpcCmd,
    (handleCommandLong h nowMs taken m).cmdQueue = h.cmdQueue.drop taken ++ [cmd]
      ∧ cmd.sysmonCase.hasCase = true

/-- What the answer to a command promises. -/
structure AcceptedDelivered (h : CommandHandler F) (nowMs : U32) (taken : Nat)
    (m : CommandLong F) : Prop where
  /-- An accepted command has been carried out, or is on its way to its case. -/
  delivered : Answers h nowMs taken m .accepted →
    CarriedOut h nowMs taken m ∨ Placed h nowMs taken m
  /-- A command for core 0 that finds no room or no case is not accepted. -/
  refused : ∀ cmd ∈ (commandSwitch h nowMs m).rpcCmd,
    (rpcCmdQueueDepth ≤ (h.cmdQueue.drop taken).length ∨ cmd.sysmonCase.hasCase = false) →
      ¬ Answers h nowMs taken m .accepted

/-- The commands that core 0 is to carry out. -/
def ForCore0 (m : CommandLong F) : Prop :=
  match mavCmdOf m.command with
  | .componentArmDisarm | .doSetMode | .navReturnToLaunch | .navLand => True
  | .doSetServo | .doMotorTest => True
  | .preflightRebootShutdown => ge m.param1 (lit 1) = true
  | .requestMessage => requestedMessage m = .homePosition
  | _ => False

/-- The two commands that sysmon has no case for. -/
def NoCase (m : CommandLong F) : Prop :=
  mavCmdOf m.command = .doSetServo ∨ mavCmdOf m.command = .doMotorTest

theorem commandSwitch_frame (h : CommandHandler F) (nowMs : U32) (m : CommandLong F) :
    (commandSwitch h nowMs m).handler.cmdQueue = h.cmdQueue
      ∧ (commandSwitch h nowMs m).handler.sent = h.sent := by
  unfold commandSwitch
  split
  -- only two of the cases touch the statics at all
  case h_6 =>
    unfold preflightCalibration CommandHandler.startCal
    dsimp only
    split_ifs <;> exact ⟨rfl, rfl⟩
  case h_9 =>
    unfold setMessageInterval
    dsimp only
    split_ifs
    · split <;> exact ⟨rfl, rfl⟩
    · exact ⟨rfl, rfl⟩
  case h_12 => split <;> exact ⟨rfl, rfl⟩
  all_goals first | exact ⟨rfl, rfl⟩ | (split_ifs <;> exact ⟨rfl, rfl⟩)

/-- What the switch says of a command: it is accepted and forwarded, or it is not forwarded. -/
inductive SwitchCase (m : CommandLong F) : MavResult → Option (RpcCommand F) → Prop where
  | forwarded {cmd : RpcCommand F} (hcore : ForCore0 m)
      (hcase : cmd.sysmonCase.hasCase = true ↔ ¬ NoCase m) : SwitchCase m .accepted (some cmd)
  | kept {result : MavResult} (hcore : ¬ ForCore0 m) (hcase : ¬ NoCase m) : SwitchCase m result none

theorem commandSwitch_case (h : CommandHandler F) (nowMs : U32) (m : CommandLong F) :
    SwitchCase m (commandSwitch h nowMs m).result (commandSwitch h nowMs m).rpcCmd := by
  unfold commandSwitch
  cases hcmd : mavCmdOf m.command with
  | componentArmDisarm =>
    dsimp only
    split_ifs
    · exact .forwarded (by simp [ForCore0, hcmd]) (by simp [NoCase, hcmd, RpcCommand.sysmonCase,
        SysmonCommand.hasCase])
    · exact .forwarded (by simp [ForCore0, hcmd]) (by simp [NoCase, hcmd, RpcCommand.sysmonCase,
        SysmonCommand.hasCase])
  | preflightRebootShutdown =>
    dsimp only
    split_ifs with hreboot
    · exact .forwarded (by simpa [ForCore0, hcmd] using hreboot) (by simp [NoCase, hcmd,
        RpcCommand.sysmonCase, SysmonCommand.hasCase])
    · exact .kept (by simpa [ForCore0, hcmd] using hreboot) (by simp [NoCase, hcmd])
  | requestMessage =>
    cases hmsg : requestedMessage m with
    | homePosition =>
      exact .forwarded (by simp [ForCore0, hcmd, hmsg]) (by simp [NoCase, hcmd,
        RpcCommand.sysmonCase, SysmonCommand.hasCase])
    | _ => exact .kept (by simp [ForCore0, hcmd, hmsg]) (by simp [NoCase, hcmd])
  | doSetMode | navReturnToLaunch | navLand | doSetServo | doMotorTest =>
    exact .forwarded (by simp [ForCore0, hcmd]) (by simp [NoCase, hcmd, RpcCommand.sysmonCase,
      SysmonCommand.hasCase])
  | _ => exact .kept (by simp [ForCore0, hcmd]) (by simp [NoCase, hcmd])

variable {m : CommandLong F}

theorem SwitchCase.of_some {result : MavResult} {cmd : RpcCommand F}
    (h : SwitchCase m result (some cmd)) :
    result = .accepted ∧ ForCore0 m ∧ (cmd.sysmonCase.hasCase = true ↔ ¬ NoCase m) := by
  cases h with
  | forwarded hcore hcase => exact ⟨rfl, hcore, hcase⟩

theorem SwitchCase.of_none {result : MavResult}
    (h : SwitchCase m result none) : ¬ ForCore0 m ∧ ¬ NoCase m := by
  cases h with
  | kept hcore hcase => exact ⟨hcore, hcase⟩

/-! ## The queue, and the answer -/

omit [CFloat F] in
theorem sendRpcCommand_sent (h : CommandHandler F) (taken : Nat) (cmd : RpcCommand F) :
    (sendRpcCommand h taken cmd).sent = h.sent := by
  unfold sendRpcCommand
  split_ifs <;> rfl

omit [CFloat F] in
theorem sendRpcCommand_placed_iff (h : CommandHandler F) (taken : Nat) (cmd : RpcCommand F) :
    (sendRpcCommand h taken cmd).cmdQueue = h.cmdQueue.drop taken ++ [cmd]
      ↔ (h.cmdQueue.drop taken).length < rpcCmdQueueDepth := by
  unfold sendRpcCommand
  by_cases hroom : (h.cmdQueue.drop taken).length < rpcCmdQueueDepth
  · rw [if_pos hroom]
    exact iff_of_true rfl hroom
  rw [if_neg hroom]
  -- a queue that kept its length has nothing at its end that is new
  refine iff_of_false (fun heq => ?_) hroom
  have hlength := congrArg List.length heq
  simp at hlength

/-- What a message leaves in the queue, and what was sent. -/
theorem handleCommandLong_queue (h : CommandHandler F) (nowMs : U32) (taken : Nat)
    (m : CommandLong F) (hto : m.forAnother = false) :
    (∀ cmd, (commandSwitch h nowMs m).rpcCmd = some cmd →
      ((handleCommandLong h nowMs taken m).cmdQueue = h.cmdQueue.drop taken ++ [cmd]
        ↔ (h.cmdQueue.drop taken).length < rpcCmdQueueDepth))
      ∧ (handleCommandLong h nowMs taken m).sent
        = h.sent ++ (.commandAck m.command (commandSwitch h nowMs m).result m.sysid m.compid)
          :: (if (commandSwitch h nowMs m).result = .accepted then deferredReplies m else []) := by
  obtain ⟨hqueue, hsent⟩ := commandSwitch_frame h nowMs m
  have hcase := commandSwitch_case h nowMs m
  unfold handleCommandLong
  rw [hto, if_neg (by decide)]
  dsimp only
  generalize commandSwitch h nowMs m = out at hqueue hsent hcase
  obtain ⟨handler, result, rpcCmd⟩ := out
  dsimp only at hqueue hsent hcase ⊢
  cases hcase with
  | forwarded hcore hhas =>
    rename_i cmd
    -- what is forwarded was accepted before it was tried
    rw [if_pos rfl, if_pos rfl]
    dsimp only
    constructor
    · intro cmd' hcmd'
      cases hcmd'
      rw [← hqueue]
      exact sendRpcCommand_placed_iff _ _ _
    · rw [sendRpcCommand_sent, hsent]
      simp
  | kept hcore hhas =>
    -- without a command the last step does nothing, whatever the result
    have hnone : ∀ h' : CommandHandler F, (match result, (none : Option (RpcCommand F)) with
        | .accepted, some cmd => sendRpcCommand h' taken cmd
        | _, _ => h') = h' := by
      intro h'
      cases result <;> rfl
    rw [hnone]
    constructor
    · intro cmd hcmd
      cases hcmd
    · split_ifs <;> simp [hsent]

theorem answers_iff (h : CommandHandler F) (nowMs : U32) (taken : Nat)
    (hto : m.forAnother = false) (result : MavResult) :
    Answers h nowMs taken m result ↔ (commandSwitch h nowMs m).result = result := by
  -- what follows the acknowledgement is never one itself
  have hnot : ∀ reply ∈ deferredReplies m,
      reply ≠ .commandAck m.command result m.sysid m.compid := by
    intro reply hreply heq
    subst heq
    unfold deferredReplies at hreply
    split at hreply
    case h_3 => split at hreply <;> simp at hreply
    all_goals simp at hreply
  unfold Answers
  rw [(handleCommandLong_queue h nowMs taken m hto).2, List.drop_left, List.mem_cons]
  constructor
  · rintro (heq | hmem)
    · injection heq with _ hresult
      exact hresult.symm
    · split_ifs at hmem
      · exact absurd rfl (hnot _ hmem)
      · cases hmem
  · intro hresult
    rw [hresult]
    exact Or.inl rfl

end

end MmIotEsp32.HeliFc
