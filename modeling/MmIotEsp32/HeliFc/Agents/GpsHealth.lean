/-
  MmIotEsp32.HeliFc.Agents.GpsHealth

  From the receiver to `gps_ok`: the parser task, the poller in the sensor task, and the
  check of the system monitor.
-/
import MmIotEsp32.HeliFc.Agents.SensorHealth
import MmIotEsp32.HeliFc.Drivers.GpsNmea

namespace MmIotEsp32.HeliFc

open Lib

/-- Where sysmon is with the GPS in its cycle. -/
inductive GpsPc where
  | start
  | copying
  | checking
  deriving Repr, DecidableEq

structure GpsSystem where
  /-- `esp_timer_get_time`. -/
  clock : Nat
  /-- What the parser task has of the line. -/
  line : List U8
  gps : GpsHandle
  /-- The sentences with a valid checksum, newest first, and when the newest came. -/
  received : List (List U8)
  receivedAt : Option Nat
  /-- The sensor task is in its loop, with this reading of the clock. -/
  sensing : Bool
  sensorNowUs : U64
  cycle : U32
  topic : OrbTopic SensorGps
  pc : GpsPc
  nowUs : U64
  lastTs : U64
  /-- The sample that sysmon copied last. -/
  gpsData : Option SensorGps
  gpsOk : Bool

inductive GpsEvent where
  | tick (us : Nat)
  /-- The parser task reads an octet. -/
  | byte (b : U8)
  /-- The sensor task begins its loop, and reads the clock. -/
  | sense
  /-- The sensor task comes to the GPS. -/
  | poll
  /-- Sysmon begins its cycle, and reads the clock. -/
  | begin
  /-- Sysmon copies the topic. -/
  | copy
  /-- Sysmon judges the GPS. -/
  | check (timeout : SensorTimeout)

/-- `gps_task`, for one octet. -/
def gpsTaskByte (f : NmeaFloats) (s : GpsSystem) (b : U8) : GpsSystem :=
  let (line, sentence) := gpsLine s.line b
  let s := { s with line := line }
  match sentence with
  | none => s
  | some sentence =>
    let s := { s with gps := gpsSentence f (BitVec.ofNat 64 s.clock) s.gps sentence }
    if nmeaValidateChecksum sentence then
      { s with received := sentence :: s.received, receivedAt := some s.clock }
    else s

/-- What the sensor task publishes when it polls the GPS. -/
def gpsPublish (s : GpsSystem) : OrbTopic SensorGps :=
  match gpsGetData s.gps with
  | none => s.topic
  | some data => (orbPublish s.topic { data with timestampUs := s.sensorNowUs }).getD s.topic

/-- The sensor task comes to the GPS, which it polls every 100th cycle, and ends its loop. -/
def gpsPoll (s : GpsSystem) : GpsSystem :=
  { s with
    topic := if s.cycle % 100 = 0 then gpsPublish s else s.topic
    sensing := false
    cycle := s.cycle + 1 }

/-- `if (orb_copy(gps_sub, &gps_data) == 0) last_gps_ts = gps_data.timestamp_us;` -/
def gpsCopy (s : GpsSystem) : GpsSystem :=
  match orbCopy s.topic 0 with
  | none => s
  | some (data, topic) =>
    { s with topic := topic, lastTs := data.timestampUs, gpsData := some data }

def gpsStep (f : NmeaFloats) (s : GpsSystem) : GpsEvent → Option GpsSystem
  | .tick us => if s.clock + us < 2 ^ 63 then some { s with clock := s.clock + us } else none
  | .byte b => some (gpsTaskByte f s b)
  | .sense =>
    if s.sensing then none
    else some { s with sensing := true, sensorNowUs := BitVec.ofNat 64 s.clock }
  | .poll => if s.sensing then some (gpsPoll s) else none
  | .begin =>
    if s.pc = .start then some { s with pc := .copying, nowUs := BitVec.ofNat 64 s.clock } else none
  | .copy => if s.pc = .copying then some { gpsCopy s with pc := .checking } else none
  | .check timeout =>
    if s.pc = .checking then
      some { s with pc := .start, gpsOk := sensorOk s.nowUs s.lastTs timeout.us }
    else none

/-- The system when the tasks start; sysmon and the flight controller have subscribed. -/
def gpsInit (clock : Nat) : GpsSystem where
  clock := clock
  line := []
  gps := ⟨⟨.zero, 0⟩, false⟩
  received := []
  receivedAt := none
  sensing := false
  sensorNowUs := 0
  cycle := 0
  topic := ⟨true, none, [none, none]⟩
  pc := .start
  nowUs := 0
  lastTs := 0
  gpsData := none
  gpsOk := false

/-! ## What `gps_ok` is to mean -/

/-- 100 ms, the time between two polls. -/
def pollPeriodUs : Nat := 100000

/-- The data is the fix of sentences that were received, in their order. -/
def FixOf (f : NmeaFloats) (received : List (List U8)) (data : GpsFix) : Prop :=
  ∃ sentences, sentences ≠ [] ∧ sentences <:+ received ∧ data = fixAfter f sentences

/-- When the check says that the GPS is alive, a sentence came within the timeout and one
poll before the cycle, and the data in use is that of sentences received so far. -/
def LiveWhenOk (f : NmeaFloats) (s : GpsSystem) : GpsEvent → Prop
  | .check timeout => ∀ s', gpsStep f s (.check timeout) = some s' → s'.gpsOk = true →
      (∃ at_, s.receivedAt = some at_
        ∧ s.nowUs.toNat < at_ + timeout.us.toNat + pollPeriodUs)
      ∧ ∃ data, s.gpsData = some data ∧ FixOf f s.received data.toGpsFix
  | _ => True

/-- A poll that finds data finds a sentence that is at most one period old. -/
def PollsLive (s : GpsSystem) : GpsEvent → Prop
  | .poll => s.cycle % 100 = 0 → s.gps.dataValid = true →
      ∃ at_ ∈ s.receivedAt, s.sensorNowUs.toNat ≤ at_ + pollPeriodUs
  | _ => True

instance (s : GpsSystem) (e : GpsEvent) : Decidable (PollsLive s e) :=
  match e with
  | .poll => inferInstanceAs (Decidable (s.cycle % 100 = 0 → s.gps.dataValid = true →
      ∃ at_ ∈ s.receivedAt, s.sensorNowUs.toNat ≤ at_ + pollPeriodUs))
  | .tick _ | .byte _ | .sense | .begin | .copy | .check _ => isTrue trivial

/-! ## A run -/

variable {f : NmeaFloats} {s s' : GpsSystem} {e : GpsEvent}

/-- A sample that a live poll has published. -/
structure SampleOk (f : NmeaFloats) (received : List (List U8)) (receivedAt : Option Nat)
    (data : SensorGps) : Prop where
  fix : FixOf f received data.toGpsFix
  stamp : ∃ at_, receivedAt = some at_ ∧ data.timestampUs.toNat ≤ at_ + pollPeriodUs

structure GpsInv (f : NmeaFloats) (s : GpsSystem) : Prop where
  clock : s.clock < 2 ^ 63
  sensor : s.sensorNowUs.toNat ≤ s.clock
  now : s.nowUs.toNat ≤ s.clock
  past : ∀ at_, s.receivedAt = some at_ → at_ ≤ s.clock ∧ s.received ≠ []
  fix : s.gps.data.toGpsFix = fixAfter f s.received
  waiting : ∀ data, s.topic.Holds data → SampleOk f s.received s.receivedAt data
  last : s.lastTs.toNat = 0 ∨ ∃ data, s.gpsData = some data ∧ data.timestampUs = s.lastTs
    ∧ SampleOk f s.received s.receivedAt data

theorem SampleOk.received {received : List (List U8)} {receivedAt : Option Nat} {data : SensorGps}
    (h : SampleOk f received receivedAt data) (sentence : List U8) {clock : Nat}
    (hpast : ∀ at_, receivedAt = some at_ → at_ ≤ clock) :
    SampleOk f (sentence :: received) (some clock) data := by
  obtain ⟨sentences, hne, hsuffix, hdata⟩ := h.fix
  obtain ⟨at_, hat, hstamp⟩ := h.stamp
  refine ⟨⟨sentences, hne, hsuffix.trans (List.suffix_cons sentence received), hdata⟩, clock, rfl, ?_⟩
  have hle := hpast at_ hat
  omega

theorem nmeaProcessSentence_fix (nowUs : U64) (sentence : List U8) (data : SensorGps) :
    (nmeaProcessSentence f nowUs sentence data).toGpsFix
      = if nmeaValidateChecksum sentence then applySentence f sentence data.toGpsFix
        else data.toGpsFix := by
  unfold nmeaProcessSentence
  split <;> rfl

theorem GpsInv.byte (h : GpsInv f s) (b : U8) : GpsInv f (gpsTaskByte f s b) := by
  unfold gpsTaskByte
  cases hline : gpsLine s.line b with
  | mk line sentence =>
    cases sentence with
    | none => exact ⟨h.clock, h.sensor, h.now, h.past, h.fix, h.waiting, h.last⟩
    | some sentence =>
      have hfix := nmeaProcessSentence_fix (f := f) (BitVec.ofNat 64 s.clock) sentence s.gps.data
      have hpast := fun at_ hat => (h.past at_ hat).1
      dsimp only
      split
      · next hvalid =>
          -- the sentence counts
          rw [if_pos hvalid, h.fix] at hfix
          refine ⟨h.clock, h.sensor, h.now, fun at_ hat => ?_, hfix,
            fun data hdata => (h.waiting data hdata).received sentence hpast, ?_⟩
          · cases hat
            exact ⟨Nat.le_refl _, List.cons_ne_nil _ _⟩
          · exact h.last.imp_right fun ⟨data, hdata, hts, hok⟩ =>
              ⟨data, hdata, hts, hok.received sentence hpast⟩
      · next hinvalid =>
          rw [if_neg hinvalid, h.fix] at hfix
          exact ⟨h.clock, h.sensor, h.now, h.past, hfix, h.waiting, h.last⟩

theorem GpsInv.poll (h : GpsInv f s) (hlive : PollsLive s .poll) : GpsInv f (gpsPoll s) := by
  refine ⟨h.clock, h.sensor, h.now, h.past, h.fix, fun data hdata => ?_, h.last⟩
  have hholds : (if s.cycle % 100 = 0 then gpsPublish s else s.topic).Holds data := hdata
  split at hholds
  · next hcycle =>
      unfold gpsPublish gpsGetData at hholds
      by_cases hvalid : s.gps.dataValid = true
      · rw [if_pos hvalid] at hholds
        dsimp only at hholds
        cases hpublish : orbPublish s.topic { s.gps.data with timestampUs := s.sensorNowUs } with
        | none =>
          rw [hpublish] at hholds
          exact h.waiting data hholds
        | some topic =>
          rw [hpublish] at hholds
          obtain rfl := hholds.of_publish hpublish
          obtain ⟨at_, hat, hstamp⟩ := hlive hcycle hvalid
          refine ⟨⟨s.received, (h.past at_ hat).2, List.suffix_refl _, h.fix⟩, at_, hat, hstamp⟩
      · rw [if_neg hvalid] at hholds
        exact h.waiting data hholds
  · exact h.waiting data hholds

theorem GpsInv.copy (h : GpsInv f s) : GpsInv f { gpsCopy s with pc := .checking } := by
  unfold gpsCopy
  cases hcopy : orbCopy s.topic 0 with
  | none => exact ⟨h.clock, h.sensor, h.now, h.past, h.fix, h.waiting, h.last⟩
  | some copy =>
    obtain ⟨data, topic⟩ := copy
    obtain ⟨hheld, hrest⟩ := orbCopy_eq_some hcopy
    exact ⟨h.clock, h.sensor, h.now, h.past, h.fix, fun d hd => h.waiting d (hrest d hd),
      Or.inr ⟨data, rfl, rfl, h.waiting data hheld⟩⟩

theorem GpsInv.step (h : GpsInv f s) (hlive : PollsLive s e) (hstep : gpsStep f s e = some s') :
    GpsInv f s' := by
  unfold gpsStep at hstep
  cases e with
  | tick us =>
    dsimp only at hstep
    split at hstep
    · next hlt =>
        cases hstep
        refine ⟨hlt, Nat.le_add_right_of_le h.sensor, Nat.le_add_right_of_le h.now,
          fun at_ hat => ?_, h.fix, h.waiting, h.last⟩
        exact ⟨Nat.le_add_right_of_le (h.past at_ hat).1, (h.past at_ hat).2⟩
    · cases hstep
  | byte b =>
    cases hstep
    exact h.byte b
  | sense =>
    dsimp only at hstep
    split at hstep
    · cases hstep
    · cases hstep
      exact ⟨h.clock, Nat.le_of_eq (toNat_reading h.clock), h.now, h.past, h.fix, h.waiting, h.last⟩
  | poll =>
    dsimp only at hstep
    split at hstep
    · cases hstep
      exact h.poll hlive
    · cases hstep
  | begin =>
    dsimp only at hstep
    split at hstep
    · cases hstep
      exact ⟨h.clock, h.sensor, Nat.le_of_eq (toNat_reading h.clock), h.past, h.fix, h.waiting, h.last⟩
    · cases hstep
  | copy =>
    dsimp only at hstep
    split at hstep
    · cases hstep
      exact h.copy
    · cases hstep
  | check timeout =>
    dsimp only at hstep
    split at hstep
    · cases hstep
      exact ⟨h.clock, h.sensor, h.now, h.past, h.fix, h.waiting, h.last⟩
    · cases hstep

theorem gpsInit_inv (f : NmeaFloats) {clock : Nat} (hclock : clock < 2 ^ 63) :
    GpsInv f (gpsInit clock) where
  clock := hclock
  sensor := Nat.zero_le _
  now := Nat.zero_le _
  past := fun _ h => by cases h
  fix := rfl
  waiting := by
    intro data hdata
    simp [gpsInit, OrbTopic.Holds] at hdata
  last := Or.inl rfl

theorem GpsInv.liveWhenOk (h : GpsInv f s) : LiveWhenOk f s e := by
  cases e with
  | check timeout =>
    intro s' hstep hok
    unfold gpsStep at hstep
    dsimp only at hstep
    split at hstep
    · cases hstep
      obtain ⟨hpos, hage⟩ := sensorOk_iff.mp hok
      obtain ⟨data, hdata, hts, hfix, at_, hat, hstamp⟩ := h.last.resolve_left (by omega)
      refine ⟨⟨at_, hat, ?_⟩, data, hdata, hfix⟩
      have hpast := (h.past at_ hat).1
      have hclock := h.clock
      have hmax := timeout.le_max
      rw [hts] at hstamp
      unfold pollPeriodUs at hstamp ⊢
      by_cases hle : s.lastTs.toNat ≤ s.nowUs.toNat
      · rw [toNat_sub_of_le hle] at hage
        omega
      · -- the difference has wrapped around, and no timeout is that long
        rw [toNat_sub_of_lt (by omega)] at hage
        omega
    · cases hstep
  | tick us | byte b | sense | poll | begin | copy => trivial

/-- In a run in which every poll that finds data finds a sentence of the last 100 ms,
`gps_ok` means that the receiver is alive, and the data in use is what it sent. -/
theorem gps_ok_means_live (f : NmeaFloats) (clock : Nat) (hclock : clock < 2 ^ 63)
    (events : List GpsEvent) (hlive : Along (gpsStep f) PollsLive (gpsInit clock) events) :
    Along (gpsStep f) (LiveWhenOk f) (gpsInit clock) events := by
  have hinv : Throughout (gpsStep f) (GpsInv f) (gpsInit clock) events :=
    throughout_of_step (fun _ _ _ h he hstep => h.step he hstep) (gpsInit_inv f hclock) hlive
  exact hinv.along_of fun _ _ h => h.liveWhenOk

/-- Conversions for sentences that have no number to convert. -/
def noFloats : NmeaFloats := ⟨fun _ => 0, fun _ => 0, fun _ _ => 0, fun _ => false, fun _ => 0⟩

/-- A sentence without a fix arrives; after some time the sensor task polls, and sysmon
copies what it has published. -/
def sentenceThenPoll (us : Nat) : List GpsEvent :=
  (asciiText "$GPGGA,,,,,,0,,,*4A\n").map .byte ++ [.tick us, .sense, .poll, .begin, .copy]

/-- The poll comes in time. -/
theorem gps_ok_means_live_in_time :
    (runFrom (gpsStep noFloats) (gpsInit 1000)
        (sentenceThenPoll 50000 ++ [.check defaultTimeout])).map (·.gpsOk) = some true
      ∧ Along (gpsStep noFloats) (LiveWhenOk noFloats) (gpsInit 1000)
          (sentenceThenPoll 50000 ++ [.check defaultTimeout]) :=
  ⟨by decide +kernel, gps_ok_means_live noFloats 1000 (by decide) _ (by decide +kernel)⟩

/-- Ten seconds after the only sentence, the GPS still counts as alive. -/
theorem silent_receiver_is_ok :
    ¬ ∀ (f : NmeaFloats) (clock : Nat), clock < 2 ^ 63 → ∀ events : List GpsEvent,
      Along (gpsStep f) (LiveWhenOk f) (gpsInit clock) events := by
  intro h
  have hend : (runFrom (gpsStep noFloats) (gpsInit 1000) (sentenceThenPoll 10000000)).map
      (fun s => (s.pc, s.nowUs, s.lastTs, s.receivedAt))
      = some (.checking, 10001000, 10001000, some 1000) := by decide +kernel
  obtain ⟨s, hrun, hview⟩ := Option.map_eq_some_iff.mp hend
  obtain ⟨hpc, hrest⟩ := Prod.mk.inj hview
  obtain ⟨hnow, hrest⟩ := Prod.mk.inj hrest
  obtain ⟨hlast, hat⟩ := Prod.mk.inj hrest
  have hlive := (h noFloats 1000 (by decide) _).last (e := .check defaultTimeout) hrun
  have hok : sensorOk s.nowUs s.lastTs defaultTimeout.us = true := by
    rw [hnow, hlast]
    decide
  obtain ⟨⟨at_, hat', hage⟩, -⟩ := hlive _ (if_pos hpc) hok
  obtain rfl := Option.some.inj (hat.symm.trans hat')
  rw [hnow] at hage
  exact absurd hage (by decide)

end MmIotEsp32.HeliFc
