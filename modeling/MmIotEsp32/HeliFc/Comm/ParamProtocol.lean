/-
  MmIotEsp32.HeliFc.Comm.ParamProtocol

  The parameter protocol on both cores (`comm/mavlink_handler.c`, `agents/sysmon_agent.c`).
-/
import MmIotEsp32.HeliFc.Agents.SysmonTask
import MmIotEsp32.HeliFc.Comm.MavlinkHandler

namespace MmIotEsp32.HeliFc

open Lib

/-! ## The store of core 1 -/

def paramStoreMax : Nat := 64

def paramValueQueueDepth : Nat := 64

def paramSendIntervalMs : Nat := 20

def paramSendPasses : Nat := 2

def mavParamTypeReal32 : U8 := 9

/-- The parameters that `param_store_init` adds, with their values. -/
def paramStoreDefaults : List (String × ℚ) :=
  [("SYS_AUTOSTART", 7001), ("SYS_AUTOCONFIG", 0), ("SYS_HITL", 0), ("MAV_SYS_ID", 1),
   ("MAV_COMP_ID", 1), ("MAV_TYPE", 4), ("MAV_PROTO_VER", 2),
   -- calibration offsets
   ("CAL_GYRO0_XOFF", 0), ("CAL_GYRO0_YOFF", 0), ("CAL_GYRO0_ZOFF", 0), ("CAL_GYRO0_ID", 0),
   ("CAL_ACC0_XOFF", 0), ("CAL_ACC0_YOFF", 0), ("CAL_ACC0_ZOFF", 0), ("CAL_ACC0_XSCALE", 1),
   ("CAL_ACC0_YSCALE", 1), ("CAL_ACC0_ZSCALE", 1), ("CAL_ACC0_ID", 0),
   ("CAL_MAG0_XOFF", 0), ("CAL_MAG0_YOFF", 0), ("CAL_MAG0_ZOFF", 0), ("CAL_MAG0_XSCALE", 1),
   ("CAL_MAG0_YSCALE", 1), ("CAL_MAG0_ZSCALE", 1), ("CAL_MAG0_ID", 0), ("CAL_MAG0_ROT", 0),
   -- sensors and battery
   ("SYS_HAS_MAG", 1), ("SENS_EN_THERMAL", 0), ("SENS_BOARD_ROT", 0),
   ("BAT1_SOURCE", 0), ("BAT1_V_CHARGED", 4.2), ("BAT1_V_EMPTY", 3.5), ("BAT1_N_CELLS", 6),
   ("BAT_V_CHARGED", 4.2), ("BAT_V_EMPTY", 3.5), ("BAT_N_CELLS", 6), ("BAT_CAPACITY", 5000),
   -- the RC, the flight controller, safety
   ("RC_MAP_THROTTLE", 3), ("RC_MAP_ROLL", 1), ("RC_MAP_PITCH", 2), ("RC_MAP_YAW", 4),
   ("MC_ROLL_P", 6.5), ("MC_PITCH_P", 6.5), ("MC_YAW_P", 2.8), ("MC_ROLLRATE_P", 0.15),
   ("MC_PITCHRATE_P", 0.15), ("MC_YAWRATE_P", 0.20),
   ("COM_ARM_EKF_AB", 0), ("COM_RC_IN_MODE", 0), ("COM_DISARM_LAND", 2),
   ("CBRK_SUPPLY_CHK", 894281), ("CBRK_USB_CHK", 197848), ("COM_FLTMODE1", 0),
   ("COM_FLTMODE4", 2), ("COM_FLTMODE6", 6)]

/-- `param_entry_t`. -/
structure ParamEntry (F : Type*) where
  name : String
  value : F

/-- The fields of a `PARAM_VALUE`. -/
structure ParamValueMsg (F : Type*) where
  name : String
  value : F
  type : U8
  count : U16
  index : U16
  deriving DecidableEq

/-- The messages of the ground station about parameters, decoded. -/
inductive ParamMessage (F : Type*) where
  | paramSet (name : String) (value : F)
  | paramRequestRead (name : String) (index : U16)
  | paramRequestList

/-- The statics of `mavlink_handler.c` about parameters, the queues, and sysmon. -/
structure ParamSystem (F D : Type*) where
  store : List (ParamEntry F)
  paramsInitialized : Bool
  listPending : Bool
  sendIdx : Nat
  lastSendMs : U32
  sendPass : Nat
  /-- `s_param_value_queue`. -/
  valueQueue : List (ParamValueMsg F)
  /-- `RPC_CMD_PARAM_SET` commands. -/
  cmdQueue : List (String × F)
  /-- `RPC_MSG_PARAM_VALUE` messages. -/
  telemQueue : List (ParamValueMsg F)
  sysmon : Sysmon F D
  /-- The messages to the ground station, oldest first. -/
  sent : List (ParamValueMsg F)

inductive ParamEvent (F : Type*) where
  /-- A message arrives, for some system. -/
  | receive (targetSystem : U8) (msg : ParamMessage F)
  /-- `sysmon_task` takes a command. -/
  | command
  /-- `drain_rpc_telemetry` takes a message. -/
  | receiveTelemetry
  /-- `send_param_values`. -/
  | sendParamValues (nowMs : U32)

section

variable {F D : Type*} [CFloat F] [CFloat D]

def addParam (store : List (ParamEntry F)) (param : String × ℚ) : List (ParamEntry F) :=
  if store.length < paramStoreMax then store ++ [⟨param.1, lit param.2⟩] else store

def paramStoreInit (s : ParamSystem F D) : ParamSystem F D :=
  if s.paramsInitialized then s
  else { s with paramsInitialized := true, store := paramStoreDefaults.foldl addParam [] }

/-- `param_find` of core 1. -/
def storeFind (store : List (ParamEntry F)) (name : String) : Option Nat :=
  store.findIdx? fun entry => entry.name == name

/-- The `PARAM_VALUE` of an entry of the store. -/
def storeValueMsg (store : List (ParamEntry F)) (idx : Nat) (entry : ParamEntry F) :
    ParamValueMsg F where
  name := entry.name
  value := entry.value
  type := mavParamTypeReal32
  count := BitVec.ofNat 16 store.length
  index := BitVec.ofNat 16 idx

/-- The answer from the store, if there is an entry at the index. -/
def replyFromStore (s : ParamSystem F D) (idx : Option Nat) : ParamSystem F D :=
  match idx with
  | none => s
  | some idx =>
    match s.store[idx]? with
    | none => s
    | some entry => { s with sent := s.sent ++ [storeValueMsg s.store idx entry] }

/-- `idx` of `handle_param_request_read`. -/
def requestedIdx (store : List (ParamEntry F)) (name : String) (index : U16) : Option Nat :=
  -- the index counts only without a name
  if name ≠ "" then storeFind store name
  else if 0 ≤ index.toInt ∧ index.toInt < store.length then some index.toNat
  else none

def handleParamRequestRead (s : ParamSystem F D) (name : String) (index : U16) : ParamSystem F D :=
  let s := paramStoreInit s
  replyFromStore s (requestedIdx s.store name index)

def handleParamRequestList (s : ParamSystem F D) : ParamSystem F D :=
  { paramStoreInit s with sendIdx := 0, lastSendMs := 0, sendPass := 0, listPending := true }

def paramSetValue (store : List (ParamEntry F)) (name : String) (value : F) : List (ParamEntry F) :=
  match storeFind store name with
  -- a name that is not in the store is set on core 0 only
  | none => store
  | some idx => store.modify idx fun entry => { entry with value := value }

/-- `rpc_send_command`, of a PARAM_SET. -/
def sendParamCommand (s : ParamSystem F D) (name : String) (value : F) : ParamSystem F D :=
  if s.cmdQueue.length < rpcCmdQueueDepth then { s with cmdQueue := s.cmdQueue ++ [(name, value)] }
  else s

def handleParamSet (s : ParamSystem F D) (name : String) (value : F) : ParamSystem F D :=
  let s := paramStoreInit s
  let s := { s with store := paramSetValue s.store name value }
  let s := replyFromStore s (storeFind s.store name)
  -- also forward to core 0
  sendParamCommand s name value

/-- A message is for this system. -/
def AddressedToUs (targetSystem : U8) : Prop := targetSystem = 0 ∨ targetSystem = mavSysId

instance (targetSystem : U8) : Decidable (AddressedToUs targetSystem) :=
  inferInstanceAs (Decidable (_ ∨ _))

def processParamMessage (s : ParamSystem F D) (targetSystem : U8) (msg : ParamMessage F) :
    ParamSystem F D :=
  if AddressedToUs targetSystem then
    match msg with
    | .paramSet name value => handleParamSet s name value
    | .paramRequestRead name index => handleParamRequestRead s name index
    | .paramRequestList => handleParamRequestList s
  else s

def sendParamValues (s : ParamSystem F D) (nowMs : U32) : ParamSystem F D :=
  if s.listPending then
    if paramSendIntervalMs ≤ (nowMs - s.lastSendMs).toNat then
      match s.store[s.sendIdx]? with
      | some entry =>
        { s with
          sent := s.sent ++ [storeValueMsg s.store s.sendIdx entry]
          sendIdx := s.sendIdx + 1
          lastSendMs := nowMs }
      | none =>
        -- all are sent in this pass
        if s.sendPass + 1 < paramSendPasses then { s with sendPass := s.sendPass + 1, sendIdx := 0 }
        else { s with sendPass := s.sendPass + 1, listPending := false }
    else s
  -- what core 0 sent waits until the list is complete
  else { s with sent := s.sent ++ s.valueQueue, valueQueue := [] }

/-! ## Core 0 -/

/-- The message of `send_param_value_rpc`. -/
def flightValueMsg (id : ParamId) (value : F) : ParamValueMsg F where
  name := (paramTable id).name
  value := value
  type := 9
  count := BitVec.ofNat 16 paramIds.length
  index := BitVec.ofNat 16 (paramIds.idxOf id)

/-- What `rpc_send_telemetry` gets of the messages of sysmon. -/
def SysmonMsg.paramValueMsg : SysmonMsg F → Option (ParamValueMsg F)
  | .paramValue id value => some (flightValueMsg id value)
  | _ => none

/-- `rpc_send_telemetry`, which makes room by dropping what is oldest. -/
def pushTelemetry (queue : List (ParamValueMsg F)) (msg : ParamValueMsg F) :
    List (ParamValueMsg F) :=
  if queue.length < rpcTelemQueueDepth then queue ++ [msg] else queue.tail ++ [msg]

/-- `sysmon_task` takes a command from the queue. -/
def takeParamCommand (s : ParamSystem F D) : ParamSystem F D :=
  match s.cmdQueue with
  | [] => s
  | (name, value) :: rest =>
    let sysmon := commandParamSet { s.sysmon with sent := [] } name value
    { s with
      cmdQueue := rest
      sysmon := sysmon
      telemQueue := (sysmon.sent.filterMap SysmonMsg.paramValueMsg).foldl pushTelemetry
        s.telemQueue }

/-- `drain_rpc_telemetry` takes a message from the queue. -/
def takeParamTelemetry (s : ParamSystem F D) : ParamSystem F D :=
  match s.telemQueue with
  | [] => s
  | msg :: rest =>
    if s.valueQueue.length < paramValueQueueDepth then
      { s with telemQueue := rest, valueQueue := s.valueQueue ++ [msg] }
    else { s with telemQueue := rest }

def paramStep (s : ParamSystem F D) : ParamEvent F → Option (ParamSystem F D)
  | .receive targetSystem msg => some (processParamMessage s targetSystem msg)
  | .command => some (takeParamCommand s)
  | .receiveTelemetry => some (takeParamTelemetry s)
  | .sendParamValues nowMs => some (sendParamValues s nowMs)

/-- The two cores, with the parameters that were loaded. -/
def paramSystemInit (params : Params F) : ParamSystem F D where
  store := []
  paramsInitialized := false
  listPending := false
  sendIdx := 0
  lastSendMs := 0
  sendPass := 0
  valueQueue := []
  cmdQueue := []
  telemQueue := []
  sysmon := sysmonInit params
  sent := []

/-! ## What is shown, and what is flown -/

/-- The queues between the cores are empty, and what came out of them is sent. -/
def ParamSystem.Drained (s : ParamSystem F D) : Prop :=
  s.cmdQueue = [] ∧ s.telemQueue = [] ∧ s.valueQueue = []

/-- The `PARAM_VALUE` that was last sent for a name. -/
def ParamSystem.lastShown (s : ParamSystem F D) (name : String) : Option (ParamValueMsg F) :=
  (s.sent.filter fun msg => msg.name == name).getLast?

/-- What the ground station was told agrees with core 0, and with itself. -/
structure ShownFlown (s : ParamSystem F D) : Prop where
  flown : s.Drained → ∀ id, ∀ msg ∈ s.lastShown (paramTable id).name,
    msg.value = paramGet s.sysmon.params id
  oneCount : ∀ msg ∈ s.sent, ∀ msg' ∈ s.sent, msg.count = msg'.count
  oneIndex : ∀ msg ∈ s.sent, ∀ msg' ∈ s.sent, msg.name = msg'.name ↔ msg.index = msg'.index

/-- No queue overflows in the step. -/
def NoParamOverflow (s : ParamSystem F D) : ParamEvent F → Prop
  | .receive _ _ => s.cmdQueue.length < rpcCmdQueueDepth
  | .command => s.telemQueue.length < rpcTelemQueueDepth
  | .receiveTelemetry => s.valueQueue.length < paramValueQueueDepth
  | .sendParamValues _ => True

instance (s : ParamSystem F D) (e : ParamEvent F) : Decidable (NoParamOverflow s e) :=
  match e with
  | .receive _ _ => inferInstanceAs (Decidable (_ < _))
  | .command => inferInstanceAs (Decidable (_ < _))
  | .receiveTelemetry => inferInstanceAs (Decidable (_ < _))
  | .sendParamValues _ => inferInstanceAs (Decidable True)

end

/-! ## The messages that one table answers -/

section

variable {F : Type*} [CFloat F]

variable (F) in
/-- The store when it is initialised. -/
def initialStore : List (ParamEntry F) := paramStoreDefaults.foldl addParam []

/-- A name of the store. -/
def storeName (name : String) : Bool := paramStoreDefaults.any fun param => param.1 == name

/-- The default of a parameter of the store is what core 0 has for its name, if it has one. -/
def EntryAgrees (params : Params F) (param : String × ℚ) : Prop :=
  ∀ id, (paramTable id).name = param.1 → (lit param.2 : F) = params id

/-- The store does not answer the message. -/
def OnlyCore0 : ParamMessage F → Prop
  | .paramSet name _ => storeName name = false
  | .paramRequestRead name index => requestedIdx (initialStore F) name index = none
  | .paramRequestList => False

/-- Core 0 does not answer the message, and what the store answers is what core 0 has. -/
def OnlyCore1 (params : Params F) : ParamMessage F → Prop
  | .paramSet name _ => paramFind name = none
  | .paramRequestRead name index =>
    ∀ idx ∈ requestedIdx (initialStore F) name index, ∀ param ∈ paramStoreDefaults[idx]?,
      EntryAgrees params param
  | .paramRequestList => ∀ param ∈ paramStoreDefaults, EntryAgrees params param

/-- The messages to this system are of that kind. -/
def Messages (P : ParamMessage F → Prop) (es : List (ParamEvent F)) : Prop :=
  ∀ targetSystem msg, .receive targetSystem msg ∈ es → AddressedToUs targetSystem → P msg

/-- All messages are answered by one table, the same for all. -/
def OneTable (params : Params F) (es : List (ParamEvent F)) : Prop :=
  Messages OnlyCore0 es ∨ Messages (OnlyCore1 params) es

/-! ## The tables -/

theorem paramTable_names_nodup : (paramIds.map fun id => (paramTable id).name).Nodup := by
  decide +kernel

theorem paramStoreDefaults_names_nodup : (paramStoreDefaults.map Prod.fst).Nodup := by
  decide +kernel

theorem paramTable_name_injective {id id' : ParamId}
    (h : (paramTable id).name = (paramTable id').name) : id = id' :=
  List.inj_on_of_nodup_map paramTable_names_nodup (mem_paramIds id) (mem_paramIds id') h

theorem paramFind_name_ne_none (id : ParamId) : paramFind (paramTable id).name ≠ none := by
  intro hnone
  exact List.find?_eq_none.mp hnone id (mem_paramIds id) (beq_self_eq_true _)

theorem paramIndex_injective {id id' : ParamId}
    (h : BitVec.ofNat 16 (paramIds.idxOf id) = BitVec.ofNat 16 (paramIds.idxOf id')) : id = id' := by
  have hlength : paramIds.length = 49 := rfl
  have hid := List.idxOf_lt_length_of_mem (mem_paramIds id)
  have hid' := List.idxOf_lt_length_of_mem (mem_paramIds id')
  have hidx := congrArg BitVec.toNat h
  rw [BitVec.toNat_ofNat, BitVec.toNat_ofNat, Nat.mod_eq_of_lt (by omega),
    Nat.mod_eq_of_lt (by omega)] at hidx
  exact (List.idxOf_inj (mem_paramIds id)).mp hidx

theorem foldl_addParam (l : List (String × ℚ)) (store : List (ParamEntry F))
    (hroom : store.length + l.length ≤ paramStoreMax) :
    l.foldl addParam store = store ++ l.map fun param => ⟨param.1, lit param.2⟩ := by
  induction l generalizing store with
  | nil => simp
  | cons param rest ih =>
    rw [List.length_cons] at hroom
    have hlt : store.length < paramStoreMax := by omega
    rw [List.foldl_cons, addParam, if_pos hlt, ih _ (by simp; omega), List.append_assoc]
    rfl

theorem initialStore_eq :
    initialStore F = paramStoreDefaults.map fun param => ⟨param.1, lit param.2⟩ :=
  (foldl_addParam _ [] (show 0 + paramStoreDefaults.length ≤ 64 by decide)).trans
    (List.nil_append _)

theorem initialStore_names :
    (initialStore F).map ParamEntry.name = paramStoreDefaults.map Prod.fst := by
  rw [initialStore_eq, List.map_map]
  rfl

end

end MmIotEsp32.HeliFc
