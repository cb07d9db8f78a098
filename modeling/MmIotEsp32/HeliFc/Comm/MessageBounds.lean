/-
  MmIotEsp32.HeliFc.Comm.MessageBounds

  The accesses that received messages lead to (`process_mavlink_message` of
  `comm/mavlink_handler.c`, `mavlink_parse_byte` of `comm/mavlink/mavlink_msg.c`).
-/
import MmIotEsp32.HeliFc.Comm.Mavlink.Datagrams
import MmIotEsp32.HeliFc.Comm.MavlinkMessages

namespace MmIotEsp32.HeliFc.MavlinkMsg.Handler

open Lib

/-! ## What bounds the indices -/

structure StaticsInv (s : Statics) : Prop where
  count : s.paramStoreCount.toNat ≤ paramStoreMax
  /-- Every name ends at its last character. -/
  names : ∀ i, (s.paramStore i).name.read 16 = some 0
  mission : s.missionCount.toNat ≤ missionMaxItems
  expected : s.missionExpected.toNat ≤ missionMaxItems

theorem mavlinkHandlerInit_inv (answers : Nat → SendAnswer) (clock : Nat → U32) :
    StaticsInv (mavlinkHandlerInit answers clock) := by
  refine ⟨Nat.zero_le _, fun i => rfl, Nat.zero_le _, Nat.zero_le _⟩

/-- The code makes no access outside an array and keeps the bounds. -/
abbrev Bounded {α : Type} (x : Code α) : Prop := Safe StaticsInv x fun _ => True

/-! ## Sending -/

theorem getTimeMs_bounded : Bounded getTimeMs := by
  intro s hs
  exact ⟨s.clock 0, _, rfl, ⟨hs.count, hs.names, hs.mission, hs.expected⟩, trivial⟩

theorem sendCommand_bounded (nowMs : U32) (cmd : HandedCommand) :
    Bounded (sendCommand nowMs cmd) := by
  apply Safe.modify
  intro s hs
  exact ⟨hs.count, hs.names, hs.mission, hs.expected⟩

theorem stampedCommand_bounded (cmd : HandedCommand) :
    Bounded (do let nowMs ← getTimeMs; sendCommand nowMs cmd) := by
  apply Safe.bind getTimeMs_bounded
  intro nowMs _
  exact sendCommand_bounded nowMs cmd

theorem packet_fits (msg : MavlinkMessage) :
    ∃ buf, CArray.writeAll (fun _ => 0 : CArray mavlinkMaxPacketLen U8) 0 msg.octets
      = some buf := by
  apply CArray.writeAll_of_le
  have hlen := msg.len.isLt
  rw [length_octets]
  show 0 + (msg.len.toNat + 12) ≤ 255 + 12
  omega

variable {msg : MavlinkMessage} {s : Statics}

theorem sendMessage_eq {encode : U8 → Option MavlinkMessage}
    (h : encode s.link.mavlinkSeq = some msg) : sendMessage encode s = some ((), { s with
      link := (emit s.link (s.answers 0) fun _ => msg).1
      answers := fun k => s.answers (k + 1) }) := by
  obtain ⟨buf, hbuf⟩ := packet_fits msg
  unfold sendMessage
  rw [get_bind, access_some_bind h, access_some_bind hbuf]
  rfl

theorem sendMessage_bounded {encode : U8 → Option MavlinkMessage}
    (h : ∀ seq, ∃ msg, encode seq = some msg) : Bounded (sendMessage encode) := by
  intro s hs
  obtain ⟨msg, hmsg⟩ := h s.link.mavlinkSeq
  exact ⟨(), _, sendMessage_eq hmsg, ⟨hs.count, hs.names, hs.mission, hs.expected⟩, trivial⟩

theorem sendMissionAck_bounded (msg : MavlinkMessage) (result missionType : U8) :
    Bounded (sendMissionAck msg result missionType) :=
  sendMessage_bounded fun _ => ⟨_, missionAckEncode_eq ..⟩

theorem commandAndAck_bounded (cmd : HandedCommand) (msg : MavlinkMessage)
    (result missionType : U8) :
    Bounded (do
      let nowMs ← getTimeMs
      sendCommand nowMs cmd
      sendMissionAck msg result missionType) := by
  apply Safe.bind getTimeMs_bounded
  intro nowMs _
  apply Safe.bind (sendCommand_bounded nowMs cmd)
  intro _ _
  exact sendMissionAck_bounded msg result missionType

theorem sendMissionCurrent_bounded : Bounded sendMissionCurrent := by
  apply Safe.bind Safe.get
  intro s _
  exact sendMessage_bounded fun _ => ⟨_, missionCurrentEncode_eq ..⟩

theorem sendDeferred_bounded (reply : CommandReply) : Bounded (sendDeferred reply) := by
  cases reply with
  | commandAck command result targetSystem targetComponent =>
    exact sendMessage_bounded fun _ => ⟨_, commandAckEncode_eq ..⟩
  | autopilotVersion => exact sendMessage_bounded fun _ => ⟨_, autopilotVersionEncode_eq ..⟩
  | protocolVersion => exact sendMessage_bounded fun _ => ⟨_, protocolVersionEncode_eq ..⟩

/-! ## Commands and the remote control -/

theorem forwardCommand_bounded (nowMs : U32) (out : CommandOutcome Binary32) :
    Bounded (forwardCommand nowMs out) := by
  unfold forwardCommand
  split
  · exact sendCommand_bounded _ _
  · exact Safe.pure trivial

theorem handleCommandLong_bounded (msg : MavlinkMessage) : Bounded (handleCommandLong msg) := by
  obtain ⟨m, hm⟩ := commandLongDecode_eq msg
  apply Safe.bind (Safe.access hm)
  rintro _ rfl
  apply Safe.ite
  · intro _
    exact Safe.pure trivial
  intro _
  apply Safe.bind getTimeMs_bounded
  intro nowMs _
  apply Safe.bind Safe.get
  intro s hs
  apply Safe.bind (Safe.set ⟨hs.count, hs.names, hs.mission, hs.expected⟩)
  intro _ _
  apply Safe.bind (sendMessage_bounded fun _ => ⟨_, commandAckEncode_eq ..⟩)
  intro _ _
  apply Safe.bind (Safe.forM fun reply _ => sendDeferred_bounded reply)
  intro _ _
  exact forwardCommand_bounded _ _

theorem handleRcChannelsOverride_bounded (msg : MavlinkMessage) :
    Bounded (handleRcChannelsOverride msg) := by
  obtain ⟨m, hm⟩ := rcChannelsOverrideDecode_eq msg
  apply Safe.bind (Safe.access hm)
  rintro _ rfl
  apply Safe.ite
  · intro _
    exact Safe.pure trivial
  · intro _
    exact stampedCommand_bounded _

/-! ## Parameters -/

theorem StaticsInv.entry (h : StaticsInv s) {idx : Nat} (hidx : idx < paramStoreMax) :
    ∃ entry text, s.paramStore.read idx = some entry ∧ entry.name.read 16 = some 0
      ∧ entry.name.cstr = some text := by
  have hnul := h.names ⟨idx, hidx⟩
  obtain ⟨text, htext⟩ := CArray.cstr_of_read hnul
  exact ⟨_, text, CArray.read_of_lt s.paramStore hidx, hnul, htext⟩

theorem StaticsInv.write (h : StaticsInv s) {idx : Nat} (hidx : idx < paramStoreMax)
    (entry : ParamEntry17) (hnul : entry.name.read 16 = some 0) :
    ∃ store, s.paramStore.write idx entry = some store ∧ ∀ i, (store i).name.read 16 = some 0 := by
  refine ⟨_, CArray.write_of_lt s.paramStore hidx entry, ?_⟩
  intro i
  show (if i.val = idx then entry else s.paramStore i).name.read 16 = some 0
  split
  · exact hnul
  · exact h.names i

theorem addParam_bounded (param : String × ℚ) : Bounded (addParam param) := by
  apply Safe.bind Safe.get
  intro s hs
  apply Safe.ite
  · intro hlt
    obtain ⟨entry, text, hread, -, -⟩ := hs.entry hlt
    apply Safe.bind (Safe.access hread)
    rintro _ rfl
    -- 16 characters, and the NUL behind them
    have hchars : 0 + ((asciiText param.1 ++ List.replicate 16 0).take 16).length ≤ 17 := by
      rw [List.length_take]
      omega
    obtain ⟨name, hname⟩ := CArray.writeAll_of_le entry.name hchars
    apply Safe.bind (Safe.access hname)
    rintro _ rfl
    have hend : CArray.write name 16 0 = some fun j => if j.val = 16 then 0 else name j :=
      CArray.write_of_lt name (by decide) 0
    apply Safe.bind (Safe.access hend)
    rintro _ rfl
    obtain ⟨store, hstore, hnames⟩ := hs.write hlt
      ⟨fun j => if j.val = 16 then 0 else name j, (Binary32.ofRat param.2).bits⟩
      (CArray.read_of_lt _ (by decide))
    apply Safe.bind (Safe.access hstore)
    rintro _ rfl
    apply Safe.set
    refine ⟨?_, hnames, hs.mission, hs.expected⟩
    show (s.paramStoreCount + 1).toNat ≤ paramStoreMax
    rw [BitVec.toNat_add]
    exact Nat.le_trans (Nat.mod_le _ _) hlt
  · intro _
    exact Safe.pure trivial

theorem paramStoreInit_bounded : Bounded paramStoreInit := by
  apply Safe.bind Safe.get
  intro s hs
  apply Safe.ite
  · intro _
    exact Safe.pure trivial
  intro _
  apply Safe.bind (Safe.set ⟨Nat.zero_le _, hs.names, hs.mission, hs.expected⟩)
  intro _ _
  exact Safe.forM fun param _ => addParam_bounded param

theorem paramFindFrom_eq (hs : StaticsInv s) (name : List U8) {l : List Nat}
    (h : ∀ i ∈ l, i < paramStoreMax) :
    ∃ idx, paramFindFrom s.paramStore name l = some idx ∧ ∀ i ∈ idx, i < paramStoreMax := by
  induction l with
  | nil => exact ⟨none, rfl, nofun⟩
  | cons i rest ih =>
    have hi := h i (List.mem_cons_self ..)
    obtain ⟨entry, text, hread, -, htext⟩ := hs.entry hi
    obtain ⟨idx, hidx, hlt⟩ := ih fun j hj => h j (List.mem_cons_of_mem i hj)
    simp only [paramFindFrom, hread, htext, Option.bind_eq_bind, Option.bind_some]
    split
    · refine ⟨some i, rfl, ?_⟩
      intro j hj
      obtain rfl := Option.mem_some.mp hj
      exact hi
    · exact ⟨idx, hidx, hlt⟩

theorem paramFind_safe {paramId : ParamId17} (hnul : paramId.read 16 = some 0) :
    Safe StaticsInv (paramFind paramId) fun idx => ∀ i ∈ idx, i < paramStoreMax := by
  apply Safe.bind Safe.get
  intro s hs
  obtain ⟨name, hname⟩ := CArray.cstr_of_read hnul
  apply Safe.bind (Safe.access hname)
  rintro _ rfl
  obtain ⟨idx, hidx, hlt⟩ := paramFindFrom_eq hs name (l := List.range s.paramStoreCount.toNat)
    fun i hi => Nat.lt_of_lt_of_le (List.mem_range.mp hi) hs.count
  apply (Safe.access hidx).mono
  rintro _ rfl
  exact hlt

theorem sendParam_bounded {idx : Option Nat} (h : ∀ i ∈ idx, i < paramStoreMax) :
    Bounded (sendParam idx) := by
  cases idx with
  | none => exact Safe.pure trivial
  | some idx =>
    apply Safe.bind Safe.get
    intro s hs
    obtain ⟨entry, text, hread, -, htext⟩ := hs.entry (h idx rfl)
    apply Safe.bind (Safe.access hread)
    rintro _ rfl
    exact sendMessage_bounded fun _ => ⟨_, paramValueEncode_eq htext ..⟩

theorem setParam_bounded {idx : Option Nat} (h : ∀ i ∈ idx, i < paramStoreMax) (value : U32) :
    Bounded (setParam value idx) := by
  cases idx with
  | none => exact Safe.pure trivial
  | some idx =>
    apply Safe.bind Safe.get
    intro s hs
    have hlt := h idx rfl
    obtain ⟨entry, text, hread, hnul, -⟩ := hs.entry hlt
    apply Safe.bind (Safe.access hread)
    rintro _ rfl
    obtain ⟨store, hstore, hnames⟩ := hs.write hlt { entry with value := value } hnul
    apply Safe.bind (Safe.access hstore)
    rintro _ rfl
    apply Safe.set
    exact ⟨hs.count, hnames, hs.mission, hs.expected⟩

theorem requestedParam_safe {m : ParamRequestReadMsg} (hnul : m.paramId.read 16 = some 0) :
    Safe StaticsInv (requestedParam m) fun idx => ∀ i ∈ idx, i < paramStoreMax := by
  apply Safe.bind Safe.get
  intro s hs
  apply Safe.bind (Safe.access (CArray.read_of_lt m.paramId (show 0 < 17 by decide)))
  intro first _
  apply Safe.ite
  · intro _
    exact paramFind_safe hnul
  intro _
  apply Safe.ite
  · intro hindex
    apply Safe.pure
    intro i hi
    obtain rfl := Option.mem_some.mp hi
    -- an index that is not negative is the number it is sent as
    have hnat : (m.paramIndex.toNat : Int) = m.paramIndex.toInt := by
      have hcond := BitVec.toInt_eq_toNat_cond m.paramIndex
      have hlt := m.paramIndex.isLt
      split at hcond
      · exact hcond.symm
      · omega
    have hcount := hs.count
    omega
  intro _
  apply Safe.pure
  intro i hi
  cases hi

theorem handleParamRequestRead_bounded (msg : MavlinkMessage) :
    Bounded (handleParamRequestRead msg) := by
  obtain ⟨m, hm, hnul⟩ := paramRequestReadDecode_eq msg
  apply Safe.bind (Safe.access hm)
  rintro _ rfl
  apply Safe.ite
  · intro _
    exact Safe.pure trivial
  intro _
  apply Safe.bind paramStoreInit_bounded
  intro _ _
  apply Safe.bind (requestedParam_safe hnul)
  intro idx hidx
  exact sendParam_bounded hidx

theorem handleParamRequestList_bounded (msg : MavlinkMessage) :
    Bounded (handleParamRequestList msg) := by
  apply Safe.bind (Safe.access (readU8_eq msg.payload (show 0 < 255 by decide)))
  rintro _ rfl
  apply Safe.ite
  · intro _
    exact Safe.pure trivial
  intro _
  apply Safe.bind paramStoreInit_bounded
  intro _ _
  apply Safe.modify
  intro s hs
  exact ⟨hs.count, hs.names, hs.mission, hs.expected⟩

theorem handleParamSet_bounded (msg : MavlinkMessage) : Bounded (handleParamSet msg) := by
  obtain ⟨m, hm, hnul⟩ := paramSetDecode_eq msg
  apply Safe.bind (Safe.access hm)
  rintro _ rfl
  apply Safe.ite
  · intro _
    exact Safe.pure trivial
  intro _
  apply Safe.bind paramStoreInit_bounded
  intro _ _
  apply Safe.bind (paramFind_safe hnul)
  intro idx hidx
  apply Safe.bind (setParam_bounded hidx _)
  intro _ _
  apply Safe.bind (sendParam_bounded hidx)
  intro _ _
  apply Safe.bind getTimeMs_bounded
  intro nowMs _
  obtain ⟨name, hname⟩ := CArray.memcpy_of_le (fun _ => 0 : CArray 17 U8) 0 m.paramId 0 16
    (by decide) (by decide)
  apply Safe.bind (Safe.access hname)
  intro _ _
  exact sendCommand_bounded _ _

/-! ## Missions -/

theorem handleMissionRequestList_bounded (msg : MavlinkMessage) :
    Bounded (handleMissionRequestList msg) := by
  apply Safe.bind (Safe.access (missionRequestListDecode_eq msg))
  rintro ⟨targetSystem, _, missionType⟩ _
  apply Safe.bind Safe.get
  intro s hs
  have hcount : ∀ count missionType,
      Bounded (sendMessage (missionCountEncode msg.sysid msg.compid count missionType)) :=
    fun _ _ => sendMessage_bounded fun _ => ⟨_, missionCountEncode_eq ..⟩
  apply Safe.ite
  · intro _
    exact Safe.pure trivial
  intro _
  apply Safe.ite (fun _ => hcount _ _)
  intro _
  apply Safe.ite (fun _ => hcount _ _)
  intro _
  apply Safe.ite (fun _ => Safe.pure trivial)
  intro _
  apply Safe.bind (Safe.set ⟨hs.count, hs.names, hs.mission, hs.expected⟩)
  intro _ _
  apply Safe.bind (hcount _ _)
  intro _ _
  apply Safe.modify
  intro s hs
  exact ⟨hs.count, hs.names, hs.mission, hs.expected⟩

theorem beginUpload_bounded (msg : MavlinkMessage) (count : U16) :
    Bounded (beginUpload msg count) := by
  apply Safe.bind (Safe.modify fun s hs => ⟨hs.count, hs.names, hs.mission, hs.expected⟩)
  intro _ _
  apply Safe.ite (fun _ => sendMissionAck_bounded _ _ _)
  intro hfits
  apply Safe.bind
  · apply Safe.modify
    intro s hs
    exact ⟨hs.count, hs.names, Nat.zero_le _, Nat.le_of_not_lt hfits⟩
  intro _ _
  apply Safe.ite
  · intro _
    exact sendMessage_bounded fun _ => ⟨_, missionRequestIntEncode_eq ..⟩
  intro _
  apply Safe.bind (sendMissionAck_bounded _ _ _)
  intro _ _
  apply Safe.modify
  intro s hs
  exact ⟨hs.count, hs.names, hs.mission, hs.expected⟩

theorem keepCount_bounded {tooMany : Prop} [Decidable tooMany] (msg : MavlinkMessage)
    (missionType : U8) {keep : Statics → Statics} (hkeep : ∀ s, StaticsInv s → StaticsInv (keep s)) :
    Bounded (if tooMany then sendMissionAck msg mavMissionNoSpace missionType
      else do
        modify keep
        sendMissionAck msg mavMissionAccepted missionType) := by
  apply Safe.ite (fun _ => sendMissionAck_bounded _ _ _)
  intro _
  apply Safe.bind (Safe.modify hkeep)
  intro _ _
  exact sendMissionAck_bounded _ _ _

theorem handleMissionCount_bounded (msg : MavlinkMessage) : Bounded (handleMissionCount msg) := by
  apply Safe.bind (Safe.access (missionCountDecode_eq msg))
  rintro ⟨count, targetSystem, _, missionType⟩ _
  apply Safe.ite (fun _ => Safe.pure trivial)
  intro _
  apply Safe.ite
  · intro _
    exact keepCount_bounded msg _ fun s hs => ⟨hs.count, hs.names, hs.mission, hs.expected⟩
  intro _
  apply Safe.ite
  · intro _
    exact keepCount_bounded msg _ fun s hs => ⟨hs.count, hs.names, hs.mission, hs.expected⟩
  intro _
  apply Safe.ite (fun _ => Safe.pure trivial)
  intro _
  exact beginUpload_bounded msg count

theorem storeMissionItem_bounded {item : MavlinkMissionItemInt}
    (hseq : item.seq.toNat < missionMaxItems) : Bounded (storeMissionItem item) := by
  apply Safe.bind Safe.get
  intro s hs
  apply Safe.bind (Safe.access (CArray.write_of_lt s.missionItems hseq item))
  rintro _ rfl
  apply Safe.bind (Safe.set ⟨hs.count, hs.names, hs.mission, hs.expected⟩)
  intro _ _
  exact stampedCommand_bounded _

theorem continueUpload_bounded (msg : MavlinkMessage) : Bounded (continueUpload msg) := by
  apply Safe.bind Safe.get
  intro s hs
  apply Safe.ite
  · intro _
    -- the count becomes what was expected, and that was checked when the upload began
    apply Safe.bind (Safe.set ⟨hs.count, hs.names, hs.expected, hs.expected⟩)
    intro _ _
    exact commandAndAck_bounded _ msg _ _
  · intro _
    exact sendMessage_bounded fun _ => ⟨_, missionRequestIntEncode_eq ..⟩

theorem handleMissionItemInt_bounded (msg : MavlinkMessage) :
    Bounded (handleMissionItemInt msg) := by
  apply Safe.bind (Safe.access (missionItemIntDecode_eq msg))
  rintro ⟨item, targetSystem, _⟩ _
  apply Safe.bind Safe.get
  intro s hs
  apply Safe.ite (fun _ => Safe.pure trivial)
  intro _
  apply Safe.ite (fun _ => Safe.pure trivial)
  intro _
  apply Safe.ite (fun _ => Safe.pure trivial)
  intro hseq
  apply Safe.bind (storeMissionItem_bounded (Nat.lt_of_not_le hseq))
  intro _ _
  exact continueUpload_bounded msg

theorem handleMissionRequestInt_bounded (msg : MavlinkMessage) :
    Bounded (handleMissionRequestInt msg) := by
  apply Safe.bind (Safe.access (missionRequestIntDecode_eq msg))
  rintro ⟨seq, targetSystem, _, _⟩ _
  apply Safe.bind Safe.get
  intro s hs
  apply Safe.ite (fun _ => Safe.pure trivial)
  intro _
  apply Safe.ite (fun _ => Safe.pure trivial)
  intro hseq
  have hin : seq.toNat < missionMaxItems := Nat.lt_of_lt_of_le (Nat.lt_of_not_le hseq) hs.mission
  apply Safe.bind (Safe.access (CArray.read_of_lt s.missionItems hin))
  intro item _
  exact sendMessage_bounded fun _ => ⟨_, missionItemIntEncode_eq ..⟩

theorem handleMissionAck_bounded : Bounded handleMissionAck := by
  apply Safe.modify
  intro s hs
  exact ⟨hs.count, hs.names, hs.mission, hs.expected⟩

theorem clearMission_bounded (msg : MavlinkMessage) : Bounded (clearMission msg) := by
  apply Safe.bind (Safe.modify fun s hs => ⟨hs.count, hs.names, Nat.zero_le _, hs.expected⟩)
  intro _ _
  exact commandAndAck_bounded _ msg _ _

theorem handleMissionClearAll_bounded (msg : MavlinkMessage) :
    Bounded (handleMissionClearAll msg) := by
  apply Safe.bind (Safe.access (missionClearAllDecode_eq msg))
  rintro ⟨targetSystem, _, missionType⟩ _
  apply Safe.ite (fun _ => Safe.pure trivial)
  intro _
  apply Safe.bind (Safe.modify fun s hs => ⟨hs.count, hs.names, hs.mission, hs.expected⟩)
  intro _ _
  apply Safe.ite (fun _ => sendMissionAck_bounded _ _ _)
  intro _
  exact clearMission_bounded msg

theorem handleMissionSetCurrent_bounded (msg : MavlinkMessage) :
    Bounded (handleMissionSetCurrent msg) := by
  apply Safe.bind (Safe.access (missionSetCurrentDecode_eq msg))
  rintro ⟨seq, targetSystem, _⟩ _
  apply Safe.ite (fun _ => Safe.pure trivial)
  intro _
  apply Safe.bind (Safe.modify fun s hs => ⟨hs.count, hs.names, hs.mission, hs.expected⟩)
  intro _ _
  apply Safe.bind sendMissionCurrent_bounded
  intro _ _
  exact stampedCommand_bounded _

/-! ## File transfers -/

theorem ftpNak_eq (resp : FtpPayload) (error : U8) : ∃ nak, ftpNak resp error = some nak := by
  simp (disch := decide) only [ftpNak, CArray.write_of_lt]
  exact ⟨_, rfl⟩

theorem ftpResponse_eq (payload : FtpPayload) : ∃ resp, ftpResponse payload = some resp := by
  simp (disch := decide) only [ftpResponse, CArray.read_of_lt, CArray.write_of_lt,
    Option.bind_eq_bind, Option.bind_some]
  split
  · exact ⟨_, rfl⟩
  · exact ⟨_, rfl⟩
  · exact ftpNak_eq ..
  · exact ftpNak_eq ..
  · exact ftpNak_eq ..
  · exact ftpNak_eq ..

theorem handleFileTransferProtocol_bounded (hlen : msg.len ≠ 255) :
    Bounded (handleFileTransferProtocol msg) := by
  obtain ⟨m, hm⟩ := Option.isSome_iff_exists.mp
    ((fileTransferProtocolDecode_isSome_iff msg).mpr hlen)
  apply Safe.bind (Safe.access hm)
  rintro _ rfl
  apply Safe.ite (fun _ => Safe.pure trivial)
  intro _
  apply Safe.ite (fun _ => Safe.pure trivial)
  intro _
  obtain ⟨resp, hresp⟩ := ftpResponse_eq m.payload
  apply Safe.bind (Safe.access hresp)
  rintro _ rfl
  exact sendMessage_bounded fun _ => ⟨_, fileTransferProtocolEncode_eq _ _ _ _ (by decide) _⟩

theorem handleFileTransferProtocol_overruns (hlen : msg.len = 255)
    (s : Statics) : handleFileTransferProtocol msg s = none := by
  apply access_none_bind
  rw [← Option.not_isSome_iff_eq_none, fileTransferProtocolDecode_isSome_iff]
  exact not_not_intro hlen

/-! ## One message -/

/-- A file transfer as long as can be, which is not from ourselves. -/
def OverlongTransfer (msg : MavlinkMessage) : Prop :=
  fromOurselves msg = false ∧ msg.msgid = 110 ∧ msg.len = 255

theorem processMavlinkMessage_bounded (h : ¬ OverlongTransfer msg) :
    Bounded (processMavlinkMessage msg) := by
  apply Safe.ite (fun _ => Safe.pure trivial)
  intro hother
  split
  · exact Safe.pure trivial
  · exact handleCommandLong_bounded msg
  · exact handleParamRequestRead_bounded msg
  · exact handleParamRequestList_bounded msg
  · exact handleParamSet_bounded msg
  · exact handleRcChannelsOverride_bounded msg
  · exact handleMissionRequestList_bounded msg
  · exact handleMissionCount_bounded msg
  · exact handleMissionItemInt_bounded msg
  · exact handleMissionRequestInt_bounded msg
  · exact handleMissionAck_bounded
  · exact handleMissionClearAll_bounded msg
  · exact handleMissionSetCurrent_bounded msg
  · next hid =>
      apply handleFileTransferProtocol_bounded
      intro hlen
      exact h ⟨Bool.eq_false_iff.mpr hother, BitVec.eq_of_toNat_eq hid, hlen⟩
  · exact Safe.pure trivial

theorem processMavlinkMessage_overruns (h : OverlongTransfer msg)
    (s : Statics) : processMavlinkMessage msg s = none := by
  obtain ⟨hother, hid, hlen⟩ := h
  unfold processMavlinkMessage
  rw [hother, hid]
  exact handleFileTransferProtocol_overruns hlen s

/-! ## The parser -/

/-- While the payload is read, the index is below the length. -/
def ParserInv (parser : MavlinkParser) : Prop :=
  parser.state = .gotMsgid3 → parser.payloadIdx.toNat < parser.rxmsg.len.toNat

theorem mavlinkParserInit_inv : ParserInv mavlinkParserInit := by
  intro hpayload
  cases hpayload

theorem mavlinkParseByte_inv (parser : MavlinkParser) (byte : U8) :
    ParserInv (mavlinkParseByte parser byte).1 := by
  unfold mavlinkParseByte
  cases hstate : parser.state with
  | idle =>
    dsimp only
    split
    · exact nofun
    · intro hpayload
      exact absurd (hstate.symm.trans hpayload) (by decide)
  | gotMsgid2 =>
    dsimp only
    split
    · exact nofun
    next hlen =>
      -- the payload begins, and it is not empty
      intro _
      apply Nat.pos_of_ne_zero
      intro hzero
      exact hlen (BitVec.eq_of_toNat_eq hzero)
  | gotMsgid3 =>
    dsimp only
    split
    · exact nofun
    · next hmore =>
        intro _
        exact Nat.lt_of_not_le hmore
  | gotCrc1 =>
    dsimp only
    split <;> exact nofun
  | _ => exact nofun

theorem parseByte_eq {parser : MavlinkParser} (h : ParserInv parser) (byte : U8) :
    parseByte parser byte = some (mavlinkParseByte parser byte) := by
  apply if_neg
  rintro ⟨hstate, hidx⟩
  have hlt := h hstate
  have hlen := parser.rxmsg.len.isLt
  have hmax : mavlinkMaxPayloadLen = 255 := rfl
  omega

/-! ## Streams -/

/-- What the rest of the loop of the handler leaves in the statics that it writes: any values. -/
structure RestOfLoop where
  link : MavlinkLink
  answers : Nat → SendAnswer
  clock : Nat → U32
  calState : CalState
  calLastProgressMs : U32
  calStep : Nat
  paramListPending : Bool
  paramValueSendIdx : Nat
  paramLastSendMs : U32
  paramSendPass : Nat
  missionState : MissionState
  missionCurrentSeq : U16

def RestOfLoop.applyTo (rest : RestOfLoop) (s : Statics) : Statics :=
  { s with
    link := rest.link
    answers := rest.answers
    clock := rest.clock
    calState := rest.calState
    calLastProgressMs := rest.calLastProgressMs
    calStep := rest.calStep
    paramListPending := rest.paramListPending
    paramValueSendIdx := rest.paramValueSendIdx
    paramLastSendMs := rest.paramLastSendMs
    paramSendPass := rest.paramSendPass
    missionState := rest.missionState
    missionCurrentSeq := rest.missionCurrentSeq }

inductive HandlerEvent where
  /-- An octet of the ground station is parsed. -/
  | byte (b : U8)
  /-- Telemetry of core 0 is drained, telemetry is sent, and the calibration goes on. -/
  | rest (rest : RestOfLoop)

def handlerStep (s : HandlerState) : HandlerEvent → Option HandlerState
  | .byte b => receiveByte s b
  | .rest rest => some { s with statics := rest.applyTo s.statics }

def handlerInit (answers : Nat → SendAnswer) (clock : Nat → U32) : HandlerState :=
  ⟨mavlinkParserInit, mavlinkHandlerInit answers clock⟩

/-- The octet does not complete a file transfer as long as can be. -/
def NoOverlongTransfer (s : HandlerState) : HandlerEvent → Prop
  | .byte b => ∀ msg ∈ (mavlinkParseByte s.parser b).2, ¬ OverlongTransfer msg
  | .rest _ => True

structure HandlerInv (s : HandlerState) : Prop where
  parser : ParserInv s.parser
  statics : StaticsInv s.statics

theorem handlerInit_inv (answers : Nat → SendAnswer) (clock : Nat → U32) :
    HandlerInv (handlerInit answers clock) :=
  ⟨mavlinkParserInit_inv, mavlinkHandlerInit_inv answers clock⟩

variable {s : HandlerState}

theorem receiveByte_eq (h : ParserInv s.parser) (b : U8) : receiveByte s b
      = deliver (mavlinkParseByte s.parser b).1 s.statics (mavlinkParseByte s.parser b).2 := by
  unfold receiveByte
  rw [parseByte_eq h]
  rfl

theorem handlerStep_spec (h : HandlerInv s) (e : HandlerEvent) :
    (NoOverlongTransfer s e → ∃ s', handlerStep s e = some s' ∧ HandlerInv s')
      ∧ (¬ NoOverlongTransfer s e → handlerStep s e = none) := by
  cases e with
  | byte b =>
    have hparser := mavlinkParseByte_inv s.parser b
    simp only [handlerStep, NoOverlongTransfer, receiveByte_eq h.parser]
    cases (mavlinkParseByte s.parser b).2 with
    | none =>
      constructor
      · intro _
        exact ⟨_, rfl, hparser, h.statics⟩
      · intro hnot
        exact absurd (fun msg hmsg => nomatch hmsg) hnot
    | some msg =>
      simp only [Option.mem_some, forall_eq']
      constructor
      · intro hsafe
        obtain ⟨a, t, hrun, ht, -⟩ := processMavlinkMessage_bounded hsafe s.statics h.statics
        refine ⟨⟨_, t⟩, ?_, hparser, ht⟩
        rw [deliver, hrun]
        rfl
      · intro hoverlong
        rw [deliver, processMavlinkMessage_overruns (Classical.not_not.mp hoverlong)]
        rfl
  | rest rest =>
    constructor
    · intro _
      refine ⟨_, rfl, h.parser, ?_⟩
      exact ⟨h.statics.count, h.statics.names, h.statics.mission, h.statics.expected⟩
    · intro hnot
      exact absurd trivial hnot

theorem handlerStep_inv {s s' : HandlerState} {e : HandlerEvent} (h : HandlerInv s)
    (hstep : handlerStep s e = some s') : HandlerInv s' := by
  obtain ⟨hcomes, hstops⟩ := handlerStep_spec h e
  by_cases hsafe : NoOverlongTransfer s e
  · obtain ⟨t, ht, hinv⟩ := hcomes hsafe
    obtain rfl := Option.some.inj (hstep.symm.trans ht)
    exact hinv
  · rw [hstops hsafe] at hstep
    cases hstep

theorem handlerStep_isSome_iff (h : HandlerInv s) (e : HandlerEvent) :
    (handlerStep s e).isSome ↔ NoOverlongTransfer s e := by
  obtain ⟨hcomes, hstops⟩ := handlerStep_spec h e
  constructor
  · intro hsome
    by_contra hnot
    rw [hstops hnot] at hsome
    cases hsome
  intro hsafe
  obtain ⟨s', hs', -⟩ := hcomes hsafe
  rw [hs']
  rfl

/-- For every stream of octets, with anything that the rest of the loop does in between: the
messages are processed with every access inside its array if and only if no octet completes a
file transfer as long as can be that is not from ourselves. -/
theorem received_messages_in_bounds_iff (answers : Nat → SendAnswer) (clock : Nat → U32)
    (es : List HandlerEvent) :
    (runFrom handlerStep (handlerInit answers clock) es).isSome
      ↔ Along handlerStep NoOverlongTransfer (handlerInit answers clock) es := by
  have hinv : Throughout handlerStep HandlerInv (handlerInit answers clock) es :=
    throughout_of_invariant (fun s e s' h hstep => handlerStep_inv h hstep)
      (handlerInit_inv answers clock) es
  rw [runFrom_isSome_iff_along]
  apply Along.congr
  exact hinv.along_of fun s e h => handlerStep_isSome_iff h e

/-! ## A whole frame -/

theorem runFrom_bytes (h : ParserInv s.parser) (bytes : List U8) :
    runFrom handlerStep s (bytes.map .byte) = ((feed mavlinkParseByte s.parser bytes).2.foldlM
          (fun statics msg => (processMavlinkMessage msg statics).map Prod.snd) s.statics).map
          fun statics => ⟨(feed mavlinkParseByte s.parser bytes).1, statics⟩ := by
  induction bytes generalizing s with
  | nil => rfl
  | cons b bytes ih =>
    rw [List.map_cons, runFrom, feed_cons]
    show (receiveByte s b).bind _ = _
    rw [receiveByte_eq h]
    have hparser := mavlinkParseByte_inv s.parser b
    cases (mavlinkParseByte s.parser b).2 with
    | none => exact @ih ⟨_, s.statics⟩ hparser
    | some msg =>
      show ((processMavlinkMessage msg s.statics).map _).bind _ = Option.map _
        (((processMavlinkMessage msg s.statics).map Prod.snd).bind _)
      cases processMavlinkMessage msg s.statics with
      | none => rfl
      | some out => exact @ih ⟨_, out.2⟩ hparser

theorem runFrom_octets (hidle : s.parser.Idle)
    (hwire : msg.OnWire) (hchecksum : msg.checksum = msg.crc) :
    runFrom handlerStep s (msg.octets.map .byte)
      = (processMavlinkMessage msg.received s.statics).map fun out => ⟨behind msg, out.2⟩ := by
  have hinv : ParserInv s.parser := fun hpayload => absurd (hidle.symm.trans hpayload) (by decide)
  rw [runFrom_bytes hinv, octets_run hwire hidle, if_pos hchecksum]
  show Option.map _ (((processMavlinkMessage msg.received s.statics).map Prod.snd).bind pure) = _
  cases processMavlinkMessage msg.received s.statics with
  | none | some out => rfl

/-- A file transfer of a ground station whose payload has 252 octets: a directory is listed. -/
def fullTransfer : MavlinkMessage :=
  mavlinkFinalize 0
    { MavlinkMessage.zero with
      sysid := 255
      compid := 190
      msgid := 110
      len := 255
      payload := ((blank.putU8 1 1).putU8 2 1).putU8 6 3 }

/-- It is copied into an array of 251. -/
theorem full_transfer_overruns :
    ¬ ∀ answers clock es, (runFrom handlerStep (handlerInit answers clock) es).isSome := by
  intro h
  have hwire : fullTransfer.OnWire := ⟨rfl, by decide⟩
  have hchecksum : fullTransfer.checksum = fullTransfer.crc := mavlinkFinalize_checksum _ _
  have hoverlong : OverlongTransfer fullTransfer.received := ⟨rfl, rfl, rfl⟩
  have hsome := h (fun _ => ⟨0, false, true⟩) (fun _ => 0) (fullTransfer.octets.map .byte)
  rw [runFrom_octets mavlinkParserInit_idle hwire hchecksum,
    processMavlinkMessage_overruns hoverlong] at hsome
  cases hsome

end MmIotEsp32.HeliFc.MavlinkMsg.Handler
