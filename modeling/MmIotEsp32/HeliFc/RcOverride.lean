/-
  MmIotEsp32.HeliFc.RcOverride

  An RC override, from the MAVLink message to the two agents that read the RC topic
  (`comm/mavlink_handler.c`, `agents/sysmon_agent.c`, `agents/sensor_agent.c`).
-/
import MmIotEsp32.HeliFc.Agents.Arming
import MmIotEsp32.HeliFc.Comm.MavlinkHandler

namespace MmIotEsp32.HeliFc

open Lib Function

/-! ## The message -/

/-- The values of `RC_CHANNELS_OVERRIDE`. -/
abbrev OverrideChannels := Fin 8 → U16

/-- 0 and `UINT16_MAX` release a channel. -/
def channelReleased (value : U16) : Bool := value == 0 || value == 65535

/-- What the handler makes of a value. -/
def rpcOverrideChannel (value : U16) : U16 := if channelReleased value then 0 else value - 1500

/-- `handle_rc_channels_override`: the command for core 0, if the message is for this system. -/
def handleRcChannelsOverride (targetSystem : U8) (channels : OverrideChannels) :
    Option (SysmonCommand ℚ) :=
  if targetSystem ≠ 0 ∧ targetSystem ≠ mavSysId then none
  else some (.rcOverride fun i => rpcOverrideChannel (channels i))

/-- A value between 1000 and 2000 names its channel. -/
def ChannelNamed (value : U16) : Prop := 1000 ≤ value.toNat ∧ value.toNat ≤ 2000

/-- The value on the stick range, which ends at -1 and 1. -/
def stickValue (value : U16) : ℚ := ((value.toNat : ℚ) - 1500) / 500

/-- A channel of the message in a frame. -/
def frameChannel (rc : RcChannels ℚ) (i : Fin 8) : ℚ := rc.channels (i.castLE (by decide))

/-- The override changes what it names, and nothing else. -/
def NamedOnly (received : RcChannels ℚ) (channels : OverrideChannels) (seen : RcChannels ℚ) : Prop :=
  ∀ i, (channelReleased (channels i) = true → frameChannel seen i = frameChannel received i)
    ∧ (ChannelNamed (channels i) → frameChannel seen i = stickValue (channels i))

theorem toInt_sub_1500 {value : U16} (h : ChannelNamed value) :
    (value - 1500).toInt = (value.toNat : ℤ) - 1500 := by
  obtain ⟨hmin, hmax⟩ := h
  rw [BitVec.toInt_sub]
  have hvalue : value.toInt = value.toNat := BitVec.toInt_eq_toNat_of_lt (by omega)
  have hmid : (1500 : U16).toInt = 1500 := by decide
  rw [hvalue, hmid]
  exact Int.bmod_eq_of_le (by omega) (by omega)

theorem channelNamed_not_released {value : U16} (h : ChannelNamed value) :
    channelReleased value = false := by
  obtain ⟨hmin, hmax⟩ := h
  unfold channelReleased
  rw [Bool.or_eq_false_iff, beq_eq_false_iff_ne, beq_eq_false_iff_ne]
  constructor
  · rintro rfl
    simp at hmin
  · rintro rfl
    simp at hmax

theorem frameChannel_rcOverrideMsg (nowUs : U64) (channels : OverrideChannels) (i : Fin 8) :
    frameChannel (rcOverrideMsg nowUs fun i => rpcOverrideChannel (channels i)) i
      = ((rpcOverrideChannel (channels i)).toInt : ℚ) / 1000 := by
  unfold frameChannel rcOverrideMsg
  simp only [Fin.val_castLE, i.isLt, dif_pos]
  rfl

theorem frameChannel_released (nowUs : U64) {channels : OverrideChannels} {i : Fin 8}
    (h : channelReleased (channels i) = true) :
    frameChannel (rcOverrideMsg nowUs fun i => rpcOverrideChannel (channels i)) i = 0 := by
  rw [frameChannel_rcOverrideMsg]
  unfold rpcOverrideChannel
  rw [if_pos h, show (0 : U16).toInt = 0 by decide]
  norm_num

theorem frameChannel_named (nowUs : U64) {channels : OverrideChannels} {i : Fin 8}
    (h : ChannelNamed (channels i)) :
    frameChannel (rcOverrideMsg nowUs fun i => rpcOverrideChannel (channels i)) i
      = ((channels i).toNat - 1500 : ℚ) / 1000 := by
  rw [frameChannel_rcOverrideMsg]
  unfold rpcOverrideChannel
  rw [channelNamed_not_released h, if_neg (by decide), toInt_sub_1500 h]
  norm_num

theorem namedOnly_rcOverrideMsg_iff (nowUs : U64) (received : RcChannels ℚ)
    (channels : OverrideChannels) :
    NamedOnly received channels (rcOverrideMsg nowUs fun i => rpcOverrideChannel (channels i)) ↔
      ∀ i, (channelReleased (channels i) = true → frameChannel received i = 0)
        ∧ (ChannelNamed (channels i) → (channels i).toNat = 1500) := by
  refine forall_congr' fun i => and_congr (imp_congr_right fun hreleased => ?_)
    (imp_congr_right fun hnamed => ?_)
  · rw [frameChannel_released nowUs hreleased]
    exact eq_comm
  rw [frameChannel_named nowUs hnamed]
  unfold stickValue
  constructor
  · intro heq
    have hzero : ((channels i).toNat : ℚ) - 1500 = 0 := by linarith
    have hcast : ((channels i).toNat : ℚ) = (1500 : ℕ) := by
      push_cast
      linarith
    exact_mod_cast hcast
  · intro heq
    rw [heq]
    norm_num

theorem namedOnly_received_iff (received : RcChannels ℚ) (channels : OverrideChannels) :
    NamedOnly received channels received ↔
      ∀ i, ChannelNamed (channels i) → frameChannel received i = stickValue (channels i) :=
  forall_congr' fun _ => ⟨And.right, fun h => ⟨fun _ => rfl, h⟩⟩

/-! ## The way of a message -/

/-- A sample of the RC topic, with the override that it comes from. -/
structure RcSample where
  rc : RcChannels ℚ
  origin : Option OverrideChannels

/-- The agents that subscribe to the RC topic. -/
inductive RcReader where
  | sysmon
  | flightCtrl
  deriving Repr, DecidableEq

/-- The subscription of a reader. -/
def RcReader.sub : RcReader → Nat
  | .sysmon => 0
  | .flightCtrl => 1

structure RcSystem (D : Type*) where
  sys : Sysmon ℚ D
  /-- The command queue, with the message that an override comes from. -/
  queue : List (SysmonCommand ℚ × Option OverrideChannels)
  topic : OrbTopic RcSample
  /-- The frame that came last from the receiver. -/
  received : Option (RcChannels ℚ)
  /-- The override that a reader has not looked for yet. -/
  pending : RcReader → Option OverrideChannels
  /-- The override that `last_rc` of sysmon comes from. -/
  rcFrom : Option OverrideChannels
  /-- `rc` of the flight controller. -/
  fcRc : RcChannels ℚ

inductive RcEvent (D : Type*) where
  /-- The sensor task publishes a frame of the receiver. -/
  | frame (rc : RcChannels ℚ)
  /-- The handler gets `RC_CHANNELS_OVERRIDE`. -/
  | message (targetSystem : U8) (channels : OverrideChannels)
  /-- Any other command comes from core 1. -/
  | other (cmd : SysmonCommand ℚ)
  /-- Sysmon begins its cycle; its frame is the one that waits on the topic. -/
  | sense (nowUs : U64) (battV : ℚ) (samples : SysmonSamples ℚ D)
  | switches
  | gcsTimeout
  /-- Sysmon takes the next command. -/
  | poll
  | publish
  /-- The flight controller copies the topic. -/
  | copy

section

variable {D : Type*} [CFloat D]

def rcInit (nvs : ParamId → Option ℚ) : RcSystem D where
  sys := sysmonInit (paramInit nvs)
  queue := []
  topic := ⟨true, none, [none, none]⟩
  received := none
  pending := fun _ => none
  rcFrom := none
  fcRc := .zero

/-- `rpc_send_command`. -/
def RcSystem.enqueue (s : RcSystem D) (cmd : SysmonCommand ℚ) (origin : Option OverrideChannels) :
    RcSystem D :=
  if s.queue.length < rpcCmdQueueDepth then { s with queue := s.queue ++ [(cmd, origin)] } else s

/-- The sample that waits for a reader, which its copy takes. -/
def RcSystem.waiting (s : RcSystem D) (reader : RcReader) : Option (RcSample × OrbTopic RcSample) :=
  orbCopy s.topic reader.sub

def rcSystemStep (s : RcSystem D) : RcEvent D → Option (RcSystem D)
  | .frame rc =>
    (orbPublish s.topic ⟨rc, none⟩).map fun topic => { s with topic := topic, received := some rc }
  | .message targetSystem channels =>
    match handleRcChannelsOverride targetSystem channels with
    | none => some s
    | some cmd => some (s.enqueue cmd (some channels))
  | .other cmd =>
    match cmd with
    | .rcOverride _ => none
    | cmd => some (s.enqueue cmd none)
  | .sense nowUs battV samples =>
    match s.waiting .sysmon with
    | none => (sysmonTaskStep s.sys (.sense nowUs battV { samples with rc := none })).map fun sys =>
      { s with sys := sys }
    | some (sample, topic) =>
      (sysmonTaskStep s.sys (.sense nowUs battV { samples with rc := some sample.rc })).map fun sys =>
        { s with
          sys := sys
          topic := topic
          pending := update s.pending .sysmon none
          rcFrom := sample.origin }
  | .switches => (sysmonTaskStep s.sys .switches).map fun sys => { s with sys := sys }
  | .gcsTimeout => (sysmonTaskStep s.sys .gcsTimeout).map fun sys => { s with sys := sys }
  | .poll =>
    match s.queue with
    | [] => none
    | (cmd, origin) :: rest =>
      (sysmonTaskStep s.sys (.command cmd)).bind fun sys =>
        match cmd with
        | .rcOverride channels =>
          (orbPublish s.topic ⟨rcOverrideMsg sys.nowUs channels, origin⟩).map fun topic =>
            { s with sys := sys, queue := rest, topic := topic, pending := fun _ => origin }
        | _ => some { s with sys := sys, queue := rest }
  | .publish => (sysmonTaskStep s.sys .publish).map fun sys => { s with sys := sys }
  | .copy =>
    match s.waiting .flightCtrl with
    | none => some s
    | some (sample, topic) =>
      some { s with
        fcRc := sample.rc
        topic := topic
        pending := update s.pending .flightCtrl none }

/-- The first copy of a reader after an override shows what the message asks for. -/
def ReaderSees (s : RcSystem D) (reader : RcReader) : Prop :=
  ∀ sample topic, s.waiting reader = some (sample, topic) →
    ∀ channels received, s.pending reader = some channels → s.received = some received →
      NamedOnly received channels sample.rc

/-- A message for this system gets through, both readers see what it asks for, and the arm
switch does not act on a frame that releases it. -/
def OverrideKept (s : RcSystem D) : RcEvent D → Prop
  | .message targetSystem channels =>
    (handleRcChannelsOverride targetSystem channels).isSome → s.queue.length < rpcCmdQueueDepth
  | .sense nowUs battV samples =>
    (∃ s', rcSystemStep s (.sense nowUs battV samples) = some s') → ReaderSees s .sysmon
  | .copy => ReaderSees s .flightCtrl
  | .switches => ∀ channels, s.rcFrom = some channels → channelReleased (channels 5) = true →
      ∀ s', rcSystemStep s .switches = some s' → s'.sys.armState = s.sys.armState
  | _ => True

/-- What waits for a reader agrees with the message by chance: the released channels of the
receiver are in the middle, and the named ones are sent there; or, where a frame of the receiver
came after it, the stick is where the message asks for. -/
def ReaderAgrees (s : RcSystem D) (reader : RcReader) : Prop :=
  ∀ sample topic, s.waiting reader = some (sample, topic) →
    ∀ channels received, s.pending reader = some channels → s.received = some received →
      ∀ i,
        match sample.origin with
        | some _ =>
          (channelReleased (channels i) = true → frameChannel received i = 0)
            ∧ (ChannelNamed (channels i) → (channels i).toNat = 1500)
        | none => ChannelNamed (channels i) → frameChannel received i = stickValue (channels i)

def OverrideHarmless (s : RcSystem D) : RcEvent D → Prop
  | .message targetSystem channels =>
    (handleRcChannelsOverride targetSystem channels).isSome → s.queue.length < rpcCmdQueueDepth
  | .sense nowUs battV samples =>
    (∃ s', rcSystemStep s (.sense nowUs battV samples) = some s') → ReaderAgrees s .sysmon
  | .copy => ReaderAgrees s .flightCtrl
  | .switches => ∀ channels, s.rcFrom = some channels → channelReleased (channels 5) = true →
      s.sys.phase = .sensed → s.sys.rcJudged = true → s.sys.rcArmPrev = true →
        s.sys.armState = .disarmed
  | _ => True

/-! ## Where the samples come from -/

/-- The frame of an override. -/
def FromOverride (rc : RcChannels ℚ) (channels : OverrideChannels) : Prop :=
  ∃ nowUs, rc = rcOverrideMsg nowUs fun i => rpcOverrideChannel (channels i)

structure RcInv (s : RcSystem D) : Prop where
  range : ParamsInRange s.sys.params
  advertised : s.topic.advertised = true
  subs : s.topic.subscriberQueues.length = 2
  origin : ∀ sample, s.topic.Holds sample → ∀ channels, sample.origin = some channels →
    FromOverride sample.rc channels
  receiver : ∀ sample, s.topic.Holds sample → sample.origin = none → s.received = some sample.rc
  pending : ∀ reader channels, s.pending reader = some channels →
    ∀ sample, s.topic.Holds sample → ∀ c, sample.origin = some c → c = channels
  rcFrom : ∀ channels, s.rcFrom = some channels → FromOverride s.sys.lastRc channels
  queued : ∀ cmd origin, (cmd, origin) ∈ s.queue → ∀ channels, origin = some channels →
    cmd = .rcOverride fun i => rpcOverrideChannel (channels i)
  named : ∀ channels origin, (.rcOverride channels, origin) ∈ s.queue → origin.isSome = true

/-- The frame after a step: only `sense` takes a new one. -/
def frameAfter (rc : RcChannels ℚ) : SysmonEvent ℚ D → RcChannels ℚ
  | .sense _ _ samples => samples.rc.getD rc
  | _ => rc

theorem sysmonTaskStep_rc {s s' : Sysmon ℚ D} {e : SysmonEvent ℚ D}
    (h : sysmonTaskStep s e = some s') (hrange : ParamsInRange s.params) :
    ParamsInRange s'.params ∧ s'.lastRc = frameAfter s.lastRc e := by
  cases sysmonTaskStep_move h with
  | @sense nowUs battV samples hphase =>
    have hread := sameReadings_sysmonSense s nowUs battV samples
    rw [hread.params, hread.lastRc, sysmonCheck_frame]
    exact ⟨hrange, rfl⟩
  | switches hphase =>
    rw [sysmonSwitches_frame]
    exact ⟨hrange, rfl⟩
  | gcsTimeout hphase =>
    rw [sysmonGcsTimeout_frame]
    exact ⟨hrange, rfl⟩
  | command hphase hcmd =>
    have hwrites := sysmonTaskCommand_writes hcmd
    refine ⟨?_, by rw [hwrites.frame]; rfl⟩
    rcases hwrites.params with hsame | ⟨id, value, hset⟩
    · rw [hsame]
      exact hrange
    · rw [hset]
      exact hrange.paramSet id value
  | publish hphase => exact ⟨hrange, rfl⟩

omit [CFloat D] in
theorem RcInv.sys {s : RcSystem D} {sys : Sysmon ℚ D} (h : RcInv s)
    (hrange : ParamsInRange sys.params) (hrc : sys.lastRc = s.sys.lastRc) :
    RcInv { s with sys := sys } where
  range := hrange
  advertised := h.advertised
  subs := h.subs
  origin := h.origin
  receiver := h.receiver
  pending := h.pending
  rcFrom := by
    intro channels hfrom
    show FromOverride sys.lastRc channels
    rw [hrc]
    exact h.rcFrom channels hfrom
  queued := h.queued
  named := h.named

omit [CFloat D] in
theorem RcInv.enqueue {s : RcSystem D} {cmd : SysmonCommand ℚ} {origin : Option OverrideChannels}
    (h : RcInv s)
    (hqueued : ∀ channels, origin = some channels →
      cmd = .rcOverride fun i => rpcOverrideChannel (channels i))
    (hnamed : ∀ channels, cmd = .rcOverride channels → origin.isSome = true) :
    RcInv (s.enqueue cmd origin) := by
  unfold RcSystem.enqueue
  split
  · refine ⟨h.range, h.advertised, h.subs, h.origin, h.receiver, h.pending, h.rcFrom, ?_, ?_⟩
    · intro cmd' origin' hmem channels horigin
      rcases List.mem_append.mp hmem with hmem | hmem
      · exact h.queued cmd' origin' hmem channels horigin
      · obtain ⟨rfl, rfl⟩ := Prod.mk.inj (List.mem_singleton.mp hmem)
        exact hqueued channels horigin
    intro channels origin' hmem
    rcases List.mem_append.mp hmem with hmem | hmem
    · exact h.named channels origin' hmem
    · obtain ⟨hcmd, rfl⟩ := Prod.mk.inj (List.mem_singleton.mp hmem)
      exact hnamed channels hcmd.symm
  · exact h

omit [CFloat D] in
theorem RcInv.copied {s : RcSystem D} {reader : RcReader} {sample : RcSample}
    {topic : OrbTopic RcSample} (h : RcInv s) (hcopy : s.waiting reader = some (sample, topic))
    {fcRc : RcChannels ℚ} :
    RcInv { s with
      fcRc := fcRc
      topic := topic
      pending := update s.pending reader none } := by
  obtain ⟨-, hholds⟩ := orbCopy_eq_some hcopy
  obtain ⟨hadvertised, hsubs⟩ := orbCopy_subs hcopy
  refine ⟨h.range, hadvertised.trans h.advertised, hsubs.trans h.subs,
    fun sample' hs => h.origin sample' (hholds _ hs),
    fun sample' hs => h.receiver sample' (hholds _ hs), ?_, h.rcFrom, h.queued, h.named⟩
  intro reader' channels hpending sample' hs
  by_cases hsame : reader' = reader
  · subst hsame
    simp only [update_self] at hpending
    cases hpending
  · simp only [update_of_ne hsame] at hpending
    exact h.pending reader' channels hpending sample' (hholds _ hs)

theorem RcInv.step {s s' : RcSystem D} {e : RcEvent D} (h : RcInv s)
    (hstep : rcSystemStep s e = some s') : RcInv s' := by
  cases e with
  | frame rc =>
    obtain ⟨topic, hpublish, rfl⟩ := Option.map_eq_some_iff.mp hstep
    obtain ⟨hadvertised, hsubs⟩ := orbPublish_subs hpublish
    refine ⟨h.range, hadvertised, hsubs.trans h.subs, ?_, ?_, ?_, h.rcFrom, h.queued, h.named⟩
    · intro sample hs channels horigin
      rw [OrbTopic.Holds.of_publish hpublish hs] at horigin
      cases horigin
    · intro sample hs _
      rw [OrbTopic.Holds.of_publish hpublish hs]
    · intro reader channels _ sample hs c horigin
      rw [OrbTopic.Holds.of_publish hpublish hs] at horigin
      cases horigin
  | message targetSystem channels =>
    simp only [rcSystemStep] at hstep
    split at hstep
    · cases hstep
      exact h
    next cmd hcmd =>
      cases hstep
      unfold handleRcChannelsOverride at hcmd
      split at hcmd
      · cases hcmd
      · cases hcmd
        refine h.enqueue (fun channels' horigin => ?_) fun _ _ => rfl
        rw [Option.some.inj horigin]
  | other cmd =>
    simp only [rcSystemStep] at hstep
    split at hstep
    · cases hstep
    next hother =>
      cases hstep
      exact h.enqueue (fun _ horigin => by cases horigin) fun channels hc =>
        absurd hc (hother channels)
  | sense nowUs battV samples =>
    simp only [rcSystemStep] at hstep
    split at hstep
    · obtain ⟨sys, hsys, rfl⟩ := Option.map_eq_some_iff.mp hstep
      obtain ⟨hrange, hrc⟩ := sysmonTaskStep_rc hsys h.range
      exact h.sys hrange hrc
    next sample topic hcopy =>
      obtain ⟨sys, hsys, rfl⟩ := Option.map_eq_some_iff.mp hstep
      obtain ⟨hrange, hrc⟩ := sysmonTaskStep_rc hsys h.range
      have hheld := (orbCopy_eq_some hcopy).1
      have hcopied := @RcInv.copied D s .sysmon sample topic h hcopy s.fcRc
      refine ⟨hrange, hcopied.advertised, hcopied.subs, hcopied.origin, hcopied.receiver,
        hcopied.pending, ?_, h.queued, h.named⟩
      intro channels hfrom
      show FromOverride sys.lastRc channels
      rw [hrc]
      exact h.origin sample hheld channels hfrom
  | switches | gcsTimeout | publish =>
    obtain ⟨sys, hsys, rfl⟩ := Option.map_eq_some_iff.mp hstep
    obtain ⟨hrange, hrc⟩ := sysmonTaskStep_rc hsys h.range
    exact h.sys hrange hrc
  | poll =>
    simp only [rcSystemStep] at hstep
    split at hstep
    · cases hstep
    next cmd origin rest hqueue =>
      obtain ⟨sys, hsys, hnext⟩ := Option.bind_eq_some_iff.mp hstep
      obtain ⟨hrange, hrc⟩ := sysmonTaskStep_rc hsys h.range
      have hpopped : RcInv { s with sys := sys, queue := rest } := by
        have halone := h.sys hrange hrc
        refine ⟨halone.range, halone.advertised, halone.subs, halone.origin, halone.receiver,
          halone.pending, halone.rcFrom, ?_, ?_⟩
        · exact fun cmd' o hmem => h.queued cmd' o (hqueue ▸ List.mem_cons_of_mem _ hmem)
        · exact fun channels o hmem => h.named channels o (hqueue ▸ List.mem_cons_of_mem _ hmem)
      split at hnext
      · next channels =>
          obtain ⟨topic, hpublish, rfl⟩ := Option.map_eq_some_iff.mp hnext
          obtain ⟨hadvertised, hsubs⟩ := orbPublish_subs hpublish
          have hhead : (SysmonCommand.rcOverride channels, origin) ∈ s.queue :=
            hqueue ▸ List.mem_cons_self ..
          have hsome := h.named channels origin hhead
          refine ⟨hrange, hadvertised, hsubs.trans h.subs, ?_, ?_, ?_, hpopped.rcFrom,
            hpopped.queued, hpopped.named⟩
          · intro sample hs channels' horigin
            rw [OrbTopic.Holds.of_publish hpublish hs] at horigin ⊢
            have hcmd := h.queued _ _ hhead channels' horigin
            exact ⟨sys.nowUs, by rw [SysmonCommand.rcOverride.inj hcmd]⟩
          · intro sample hs hnone
            rw [OrbTopic.Holds.of_publish hpublish hs] at hnone
            rw [show origin = none from hnone] at hsome
            cases hsome
          · intro reader channels' hpending sample hs c horigin
            rw [OrbTopic.Holds.of_publish hpublish hs] at horigin
            exact Option.some.inj (horigin.symm.trans hpending)
      · cases hnext
        exact hpopped
  | copy =>
    simp only [rcSystemStep] at hstep
    split at hstep
    · cases hstep
      exact h
    · next sample topic hcopy =>
        cases hstep
        exact h.copied hcopy

theorem rcInit_inv (nvs : ParamId → Option ℚ) : RcInv (rcInit nvs : RcSystem D) where
  range := paramInit_inRange nvs
  advertised := rfl
  subs := rfl
  origin := by
    intro sample hs
    simp [rcInit, OrbTopic.Holds] at hs
  receiver := by
    intro sample hs
    simp [rcInit, OrbTopic.Holds] at hs
  pending := by
    intro reader channels hpending
    cases hpending
  rcFrom := by
    intro channels hfrom
    cases hfrom
  queued := by
    intro cmd origin hmem
    cases hmem
  named := by
    intro channels origin hmem
    cases hmem

/-! ## What the readers see -/

omit [CFloat D] in
theorem readerSees_iff {s : RcSystem D} (h : RcInv s) (reader : RcReader) :
    ReaderSees s reader ↔ ReaderAgrees s reader := by
  refine forall_congr' fun sample => forall_congr' fun topic => forall_congr' fun hcopy =>
    forall_congr' fun channels => forall_congr' fun received => forall_congr' fun hpending =>
      forall_congr' fun hreceived => ?_
  have hheld := (orbCopy_eq_some hcopy).1
  cases horigin : sample.origin with
  | some c =>
    obtain rfl : c = channels := h.pending reader channels hpending sample hheld c horigin
    obtain ⟨nowUs, hrc⟩ := h.origin sample hheld c horigin
    rw [hrc]
    exact namedOnly_rcOverrideMsg_iff nowUs received c
  | none =>
    obtain rfl : sample.rc = received :=
      Option.some.inj ((h.receiver sample hheld horigin).symm.trans hreceived)
    exact namedOnly_received_iff sample.rc channels

theorem rcArmNow_released {params : Params ℚ} {rc : RcChannels ℚ} {channels : OverrideChannels}
    (hrange : ParamsInRange params) (hrc : FromOverride rc channels)
    (hreleased : channelReleased (channels 5) = true) : rcArmNow params rc = false := by
  obtain ⟨nowUs, rfl⟩ := hrc
  have hmin : (0.1 : ℚ) ≤ params .rcArmThreshold := (hrange .rcArmThreshold).1
  have hzero := frameChannel_released nowUs hreleased
  unfold rcArmNow paramGet
  have hchannel : (rcOverrideMsg nowUs fun i => rpcOverrideChannel (channels i)).channels 5
      = (0 : ℚ) := hzero
  rw [hchannel]
  refine decide_eq_false (not_lt.mpr ?_)
  linarith

omit [CFloat D] in
theorem sysmonSwitches_of_low {s : Sysmon ℚ D} (hlow : rcArmNow s.params s.lastRc = false) :
    (sysmonSwitches s).armState = s.armState ↔
      (s.rcJudged = true → s.rcArmPrev = true → s.armState = .disarmed) := by
  unfold sysmonSwitches
  split
  · next hjudged =>
      show (modeSwitch (armSwitch s)).armState = s.armState ↔ _
      rw [modeSwitch_frame]
      show (armSwitch s).armState = s.armState ↔ _
      unfold armSwitch
      rw [hlow, if_neg (by simp)]
      by_cases hdisarm : s.rcArmPrev = true ∧ s.armState = .armed
      · rw [if_pos ⟨rfl, hdisarm⟩]
        show ArmState.disarmed = s.armState ↔ _
        simp [hdisarm.1, hdisarm.2, hjudged]
      · rw [if_neg fun hc => hdisarm hc.2]
        refine iff_of_true rfl fun _ hprev => ArmState.eq_disarmed_of_ne fun harmed => ?_
        exact hdisarm ⟨hprev, harmed⟩
  · next hjudged => exact iff_of_true rfl fun hc => absurd hc hjudged

theorem overrideKept_iff {s : RcSystem D} (h : RcInv s) (e : RcEvent D) :
    OverrideKept s e ↔ OverrideHarmless s e := by
  cases e with
  | sense nowUs battV samples => exact imp_congr_right fun _ => readerSees_iff h .sysmon
  | copy => exact readerSees_iff h .flightCtrl
  | switches =>
    refine forall_congr' fun channels => forall_congr' fun hfrom => forall_congr' fun hreleased => ?_
    have hlow := rcArmNow_released h.range (h.rcFrom channels hfrom) hreleased
    have hiff := sysmonSwitches_of_low hlow
    constructor
    · intro hkept hphase
      refine hiff.mp (hkept { s with sys := sysmonSwitches s.sys } ?_)
      simp only [rcSystemStep, sysmonTaskStep, if_pos hphase, Option.map_some]
    intro hharmless s' hstep
    obtain ⟨sys, hsys, rfl⟩ := Option.map_eq_some_iff.mp hstep
    cases sysmonTaskStep_move hsys with
    | switches hphase => exact hiff.mpr (hharmless hphase)
  | _ => exact Iff.rfl

/-- An override changes what it names and nothing else in exactly the runs in which it has nothing
to change. -/
theorem rc_override_seen_iff (nvs : ParamId → Option ℚ) (events : List (RcEvent D)) :
    Along rcSystemStep OverrideKept (rcInit nvs) events ↔
      Along rcSystemStep OverrideHarmless (rcInit nvs) events := by
  have hinv : Throughout rcSystemStep RcInv (rcInit nvs : RcSystem D) events :=
    throughout_of_invariant (fun _ _ _ h hstep => RcInv.step h hstep) (rcInit_inv nvs) events
  have hiff : ∀ (s : RcSystem D) e, RcInv s → (OverrideKept s e ↔ OverrideHarmless s e) :=
    fun _ e h => overrideKept_iff h e
  exact (hinv.along_of hiff).congr

end

/-- The receiver sends a frame with every stick in the middle, and the ground station moves the
roll to its end. -/
def rollOverride : List (RcEvent ℚ) :=
  [.frame ⟨1000000, fun _ => 0, 8, false⟩,
   .sense 1000000 0 ⟨some ⟨1000000⟩, none, none, none, none, none⟩, .switches, .gcsTimeout,
   .message 1 (fun i => if i = 0 then 2000 else 0), .poll]

theorem roll_override_seen_half :
    ¬ ∀ events : List (RcEvent ℚ),
      Along rcSystemStep OverrideKept (rcInit fun _ => none) events := by
  intro h
  have hend : (runFrom rcSystemStep (rcInit fun _ => none) rollOverride).any (fun s =>
      (s.waiting .flightCtrl).any fun copy =>
        decide (frameChannel copy.1.rc 0 = 1 / 2) && s.received.isSome
          && decide (s.pending .flightCtrl = some fun i => if i = 0 then 2000 else 0)) = true := by
    decide +kernel
  obtain ⟨s, hrun, hs⟩ := (Option.any_eq_true _ _).mp hend
  obtain ⟨⟨sample, topic⟩, hcopy, hview⟩ := (Option.any_eq_true _ _).mp hs
  simp only [Bool.and_eq_true, decide_eq_true_eq] at hview
  obtain ⟨⟨hhalf, hreceived⟩, hpending⟩ := hview
  obtain ⟨received, hreceived⟩ := Option.isSome_iff_exists.mp hreceived
  have hkept : OverrideKept s .copy := (h (rollOverride ++ [.copy])).last hrun
  have hend := (hkept sample topic hcopy _ received hpending hreceived 0).2
    (show 1000 ≤ (2000 : U16).toNat ∧ (2000 : U16).toNat ≤ 2000 by decide)
  have hstick : stickValue (2000 : U16) = 1 / 2 := hend.symm.trans hhalf
  exact absurd hstick (by decide +kernel)

end MmIotEsp32.HeliFc
