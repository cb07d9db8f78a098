/-
  MmIotEsp32.HeliFc.Drivers.SbusSync

  How the SBUS reader finds the frames.
-/
import MmIotEsp32.HeliFc.Drivers.Sbus

namespace MmIotEsp32.HeliFc

open Lib

/-! ## Transmission -/

/-- A frame that is transmitted. -/
structure SbusFrame where
  bytes : List U8
  length_eq : bytes.length = sbusFrameSize
  header : bytes[0]? = some sbusHeader
  footer : bytes[24]? = some sbusFooter

/-- The bytes of frames. -/
def sbusBytes (frames : List SbusFrame) : List U8 := frames.flatMap SbusFrame.bytes

/-- The frame with the number `k`, after `start` bytes, is decoded. -/
def Decoded (start : Nat) (frames : List SbusFrame) (accepted : List SbusAccepted) (k : Nat) :
    Prop :=
  ∃ frame, frames[k]? = some frame ∧ ∃ a ∈ accepted,
    a.endsAt = start + sbusFrameSize * (k + 1) ∧ a.frame = frame.bytes
      ∧ ∀ i : Fin 16, (a.data.channels i).toNat = bitsAt (sbusPayload frame.bytes) (11 * i) 11

/-- What the reader has accepted, when the frames came after `start` bytes of garbage: every frame
from the third one on, and, once a frame was decoded, nothing that is not a frame. -/
structure Resynchronises (start : Nat) (frames : List SbusFrame) (accepted : List SbusAccepted) :
    Prop where
  decoded : ∀ k, 2 ≤ k → k < frames.length → Decoded start frames accepted k
  only : ∀ k, Decoded start frames accepted k → ∀ a ∈ accepted,
    start + sbusFrameSize * (k + 1) ≤ a.endsAt → a.frame ∈ frames.map SbusFrame.bytes

/-! ## The phase -/

/-- How many bytes of the next frame the reader takes before it looks for a header. -/
def SbusReader.phase (s : SbusReader) : Nat :=
  if s.synced then sbusFrameSize - s.frame.length else 0

/-- The place of the first header in a frame from a place on, or zero. -/
def headerFrom (phase : Nat) (bytes : List U8) : Nat :=
  if phase = 0 then 0
  else
    match (bytes.drop phase).findIdx? (· == sbusHeader) with
    | some i => phase + i
    | none => 0

/-- A reader between two bytes. -/
def ReaderWf (s : SbusReader) : Prop :=
  if s.synced then s.frame[0]? = some sbusHeader ∧ s.frame.length < sbusFrameSize
  else s.frame = []

theorem sbusReaderTask_eq (s : SbusReader) (reads : List (List U8)) :
    sbusReaderTask s reads = feed sbusReadByte s reads.flatten := by
  induction reads generalizing s with
  | nil => rfl
  | cons buf reads ih =>
    rw [List.flatten_cons, feed_append, sbusReaderTask, ih]

theorem readByte_read (s : SbusReader) (byte : U8) : (sbusReadByte s byte).1.read = s.read + 1 := by
  unfold sbusReadByte
  split
  · dsimp only
    split <;> rfl
  · split <;> rfl

variable {s : SbusReader}

theorem readByte_endsAt {byte : U8} {a : SbusAccepted} (h : (sbusReadByte s byte).2 = some a) :
    a.endsAt = s.read + 1 ∧ a.data = sbusDecodeFrame a.frame := by
  unfold sbusReadByte at h
  split at h
  · dsimp only at h
    split at h
    · split at h
      · cases h
        exact ⟨rfl, rfl⟩
      · cases h
    · cases h
  · split at h <;> cases h

theorem readByte_wf (hs : ReaderWf s) (byte : U8) : ReaderWf (sbusReadByte s byte).1 := by
  unfold ReaderWf at hs
  unfold sbusReadByte
  split
  · next hsynced =>
      rw [if_pos hsynced] at hs
      dsimp only
      split
      · rfl
      next hshort =>
        refine ⟨?_, not_le.mp hshort⟩
        rw [List.getElem?_append_left (List.length_pos_iff.mpr ?_)]
        · exact hs.1
        · rintro hnil
          rw [hnil] at hs
          exact absurd hs.1 nofun
  · split
    · next hheader => exact ⟨congrArg some hheader, by simp [sbusFrameSize]⟩
    · rfl

theorem feed_read (s : SbusReader) (bytes : List U8) :
    (feed sbusReadByte s bytes).1.read = s.read + bytes.length := by
  induction bytes generalizing s with
  | nil => rfl
  | cons byte rest ih =>
    rw [feed_cons, ih, readByte_read, List.length_cons]
    omega

variable {bytes : List U8}

theorem feed_endsAt {a : SbusAccepted} (h : a ∈ (feed sbusReadByte s bytes).2) :
    s.read < a.endsAt ∧ a.endsAt ≤ s.read + bytes.length ∧ a.data = sbusDecodeFrame a.frame := by
  induction bytes generalizing s with
  | nil => cases h
  | cons byte rest ih =>
    rw [feed_cons, List.mem_append] at h
    rw [List.length_cons]
    rcases h with hnow | hlater
    · obtain ⟨hends, hdata⟩ := readByte_endsAt (Option.mem_toList.mp hnow)
      exact ⟨by omega, by omega, hdata⟩
    · obtain ⟨hlow, hhigh, hdata⟩ := ih hlater
      rw [readByte_read] at hlow hhigh
      exact ⟨by omega, by omega, hdata⟩

theorem feed_wf (hs : ReaderWf s) (bytes : List U8) : ReaderWf (feed sbusReadByte s bytes).1 := by
  induction bytes generalizing s with
  | nil => exact hs
  | cons byte rest ih =>
    rw [feed_cons]
    exact ih (readByte_wf hs byte)

/-! ## One frame -/

theorem feed_collect (frame : List U8) (read : Nat)
    (hshort : frame.length + bytes.length < sbusFrameSize) :
    feed sbusReadByte ⟨frame, true, read⟩ bytes
      = (⟨frame ++ bytes, true, read + bytes.length⟩, []) := by
  induction bytes generalizing frame read with
  | nil => simp
  | cons byte rest ih =>
    rw [List.length_cons] at hshort
    have hstep : sbusReadByte ⟨frame, true, read⟩ byte
        = (⟨frame ++ [byte], true, read + 1⟩, none) := by
      unfold sbusReadByte
      rw [if_pos rfl]
      exact if_neg (by simp; omega)
    rw [feed_cons, hstep, ih (frame ++ [byte]) (read + 1) (by simp; omega)]
    simp [Nat.add_assoc, Nat.add_comm 1]

theorem feed_scan (read : Nat) (hnone : ∀ byte ∈ bytes, byte ≠ sbusHeader) :
    feed sbusReadByte ⟨[], false, read⟩ bytes = (⟨[], false, read + bytes.length⟩, []) := by
  induction bytes generalizing read with
  | nil => rfl
  | cons byte rest ih =>
    have hstep : sbusReadByte ⟨[], false, read⟩ byte = (⟨[], false, read + 1⟩, none) := by
      unfold sbusReadByte
      rw [if_neg Bool.false_ne_true]
      exact if_neg (hnone byte (List.mem_cons_self ..))
    rw [feed_cons, hstep, ih (read + 1) fun b hb => hnone b (List.mem_cons_of_mem _ hb)]
    simp [Nat.add_assoc, Nat.add_comm 1]

theorem feed_complete (frame : List U8) (read : Nat) (hne : bytes ≠ [])
    (hfull : frame.length + bytes.length = sbusFrameSize) :
    feed sbusReadByte ⟨frame, true, read⟩ bytes = (⟨[], false, read + bytes.length⟩,
          if (frame ++ bytes)[0]? = some sbusHeader ∧ (frame ++ bytes)[24]? = some sbusFooter then
            [⟨read + bytes.length, frame ++ bytes, sbusDecodeFrame (frame ++ bytes)⟩] else []) := by
  obtain ⟨front, last, rfl⟩ : ∃ front last, bytes = front ++ [last] :=
    ⟨_, _, (List.dropLast_append_getLast hne).symm⟩
  rw [List.length_append, List.length_singleton] at hfull
  have hstep : sbusReadByte ⟨frame ++ front, true, read + front.length⟩ last
      = (⟨[], false, read + front.length + 1⟩,
          if (frame ++ (front ++ [last]))[0]? = some sbusHeader
              ∧ (frame ++ (front ++ [last]))[24]? = some sbusFooter then
            some ⟨read + front.length + 1, frame ++ (front ++ [last]),
              sbusDecodeFrame (frame ++ (front ++ [last]))⟩
          else none) := by
    unfold sbusReadByte
    rw [if_pos rfl, List.append_assoc]
    exact if_pos (by simp; omega)
  rw [feed_append, feed_collect frame read (by omega), feed_cons, hstep, feed_nil,
    List.length_append, List.length_singleton]
  split <;> simp [Nat.add_assoc]

theorem feed_frame_zero (read : Nat) (frame : SbusFrame) :
    feed sbusReadByte ⟨[], false, read⟩ frame.bytes
      = (⟨[], false, read + sbusFrameSize⟩,
          [⟨read + sbusFrameSize, frame.bytes, sbusDecodeFrame frame.bytes⟩]) := by
  obtain ⟨bytes, hlen, hheader, hfooter⟩ := frame
  cases bytes with
  | nil => cases hheader
  | cons first rest =>
    obtain rfl : first = sbusHeader := Option.some.inj hheader
    rw [List.length_cons] at hlen
    have hstep : sbusReadByte ⟨[], false, read⟩ sbusHeader
        = (⟨[sbusHeader], true, read + 1⟩, none) := rfl
    have hne : rest ≠ [] := by
      rintro rfl
      exact absurd hlen (by decide)
    have hfull : [sbusHeader].length + rest.length = sbusFrameSize := by
      rw [List.length_singleton]
      omega
    rw [feed_cons, hstep, feed_complete _ _ hne hfull, if_pos ⟨hheader, hfooter⟩]
    simp [← hlen, Nat.add_assoc, Nat.add_comm 1]

theorem feed_rest (read : Nat) {phase : Nat} (hphase : 0 < phase) (frame : SbusFrame) :
    (feed sbusReadByte ⟨[], false, read⟩ (frame.bytes.drop phase)).1.phase
        = headerFrom phase frame.bytes
      ∧ (feed sbusReadByte ⟨[], false, read⟩ (frame.bytes.drop phase)).2 = [] := by
  have hlen := frame.length_eq
  unfold headerFrom
  rw [if_neg (Nat.pos_iff_ne_zero.mp hphase)]
  split
  · next i hfound =>
      -- The bytes before the header, and those behind it.
      obtain ⟨hi, hheader, hbefore⟩ := List.findIdx?_eq_some_iff_getElem.mp hfound
      have hsplit : frame.bytes.drop phase
          = (frame.bytes.drop phase).take i
            ++ sbusHeader :: (frame.bytes.drop phase).drop (i + 1) := by
        rw [← eq_of_beq hheader, ← List.drop_eq_getElem_cons hi, List.take_append_drop]
      have hscan : ∀ byte ∈ (frame.bytes.drop phase).take i, byte ≠ sbusHeader := by
        intro byte hbyte
        obtain ⟨j, hj, rfl⟩ := List.mem_iff_getElem.mp hbyte
        rw [List.length_take] at hj
        have hnot := hbefore j (by omega)
        rw [List.getElem_take]
        simpa using hnot
      have hstep (read : Nat) : sbusReadByte ⟨[], false, read⟩ sbusHeader
          = (⟨[sbusHeader], true, read + 1⟩, none) := rfl
      rw [List.length_drop] at hi
      rw [hsplit, feed_append, feed_scan read hscan, feed_cons, hstep,
        feed_collect _ _ (by simp; omega)]
      refine ⟨?_, rfl⟩
      unfold SbusReader.phase
      rw [if_pos rfl]
      simp
      omega
  next hnone =>
    have hscan : ∀ byte ∈ frame.bytes.drop phase, byte ≠ sbusHeader := by
      intro byte hbyte
      simpa using List.findIdx?_eq_none_iff.mp hnone byte hbyte
    rw [feed_scan read hscan]
    exact ⟨rfl, rfl⟩

theorem feed_frame (hs : ReaderWf s) (frame : SbusFrame) :
    (feed sbusReadByte s frame.bytes).1.phase = headerFrom s.phase frame.bytes
      ∧ (s.phase = 0 → (feed sbusReadByte s frame.bytes).2
        = [⟨s.read + sbusFrameSize, frame.bytes, sbusDecodeFrame frame.bytes⟩])
      ∧ (s.phase ≠ 0 → ∀ a ∈ (feed sbusReadByte s frame.bytes).2,
        a.endsAt < s.read + sbusFrameSize) := by
  obtain ⟨taken, synced, read⟩ := s
  cases synced with
  | false =>
    obtain rfl : taken = [] := hs
    rw [feed_frame_zero]
    exact ⟨rfl, fun _ => rfl, fun hne => absurd rfl hne⟩
  | true =>
    obtain ⟨hheader, hshort⟩ : taken[0]? = some sbusHeader ∧ taken.length < sbusFrameSize := hs
    have hlen := frame.length_eq
    have htaken : 0 < taken.length := by
      cases taken with
      | nil => cases hheader
      | cons => exact Nat.succ_pos _
    have hphase : (SbusReader.mk taken true read).phase = sbusFrameSize - taken.length := rfl
    have hpos : 0 < sbusFrameSize - taken.length := by omega
    have htake : (frame.bytes.take (sbusFrameSize - taken.length)).length
        = sbusFrameSize - taken.length := by
      rw [List.length_take]
      omega
    have hne : frame.bytes.take (sbusFrameSize - taken.length) ≠ [] := by
      rw [← List.length_pos_iff, htake]
      exact hpos
    have hcomplete := feed_complete taken read hne (by omega)
    obtain ⟨hrest, hnothing⟩ := feed_rest
      (read + (frame.bytes.take (sbusFrameSize - taken.length)).length) hpos frame
    have hboth : feed sbusReadByte ⟨taken, true, read⟩ frame.bytes
        = feed sbusReadByte ⟨taken, true, read⟩
          (frame.bytes.take (sbusFrameSize - taken.length)
            ++ frame.bytes.drop (sbusFrameSize - taken.length)) := by
      rw [List.take_append_drop]
    rw [hphase, hboth, feed_append]
    refine ⟨?_, fun hzero => absurd hzero (by omega), fun _ a ha => ?_⟩
    · rw [hcomplete]
      exact hrest
    rw [hcomplete, hnothing, List.append_nil, ← congrArg Prod.snd hcomplete] at ha
    have hends : a.endsAt ≤ read + _ := (feed_endsAt ha).2.1
    rw [htake] at hends
    show a.endsAt < read + sbusFrameSize
    omega

/-! ## Frames -/

theorem sbusBytes_cons (frame : SbusFrame) (frames : List SbusFrame) :
    sbusBytes (frame :: frames) = frame.bytes ++ sbusBytes frames := List.flatMap_cons ..

theorem length_sbusBytes (frames : List SbusFrame) :
    (sbusBytes frames).length = sbusFrameSize * frames.length := by
  induction frames with
  | nil => rfl
  | cons frame frames ih =>
    rw [sbusBytes_cons, List.length_append, ih, frame.length_eq, List.length_cons, Nat.mul_succ,
      Nat.add_comm]

theorem feed_phase_zero (hs : ReaderWf s) (hzero : s.phase = 0)
    (frames : List SbusFrame) : (feed sbusReadByte s (sbusBytes frames)).1.phase = 0 := by
  induction frames generalizing s with
  | nil => exact hzero
  | cons frame frames ih =>
    rw [sbusBytes_cons, feed_append]
    refine ih (feed_wf hs frame.bytes) ?_
    rw [(feed_frame hs frame).1, hzero]
    rfl

theorem feed_frames_only (hs : ReaderWf s) (hzero : s.phase = 0) (frames : List SbusFrame) :
    ∀ a ∈ (feed sbusReadByte s (sbusBytes frames)).2, a.frame ∈ frames.map SbusFrame.bytes := by
  induction frames generalizing s with
  | nil => nofun
  | cons frame frames ih =>
    intro a ha
    rw [sbusBytes_cons, feed_append, (feed_frame hs frame).2.1 hzero, List.mem_append,
      List.mem_singleton] at ha
    rcases ha with rfl | hlater
    · exact List.mem_cons_self ..
    have hnext : (feed sbusReadByte s frame.bytes).1.phase = 0 := by
      rw [(feed_frame hs frame).1, hzero]
      rfl
    exact List.mem_cons_of_mem _ (ih (feed_wf hs frame.bytes) hnext a hlater)

section Decoded

variable {s : SbusReader} {front back : List SbusFrame} {frame : SbusFrame}

theorem feed_split (s : SbusReader) (front back : List SbusFrame) (frame : SbusFrame) :
    (feed sbusReadByte s (sbusBytes (front ++ frame :: back))).2
      = (feed sbusReadByte s (sbusBytes front)).2
        ++ (feed sbusReadByte (feed sbusReadByte s (sbusBytes front)).1
          (sbusBytes (frame :: back))).2 := by
  have hbytes : sbusBytes (front ++ frame :: back) = sbusBytes front ++ sbusBytes (frame :: back) :=
    List.flatMap_append
  rw [hbytes, feed_append]

theorem phase_of_accepted (hs : ReaderWf s) {a : SbusAccepted}
    (ha : a ∈ (feed sbusReadByte s (sbusBytes (front ++ frame :: back))).2)
    (hends : a.endsAt = s.read + sbusFrameSize * (front.length + 1)) :
    (feed sbusReadByte s (sbusBytes front)).1.phase = 0 := by
  have hread := feed_read s (sbusBytes front)
  rw [length_sbusBytes] at hread
  by_contra hphase
  rw [feed_split, sbusBytes_cons, feed_append, List.mem_append, List.mem_append] at ha
  rcases ha with hfront | hframe | hback
  · have hhigh := (feed_endsAt hfront).2.1
    rw [length_sbusBytes] at hhigh
    simp only [sbusFrameSize] at hhigh hends
    omega
  · have hbefore := (feed_frame (feed_wf hs (sbusBytes front)) frame).2.2 hphase a hframe
    simp only [sbusFrameSize] at hbefore hread hends
    omega
  have hlow := (feed_endsAt hback).1
  rw [feed_read, frame.length_eq] at hlow
  simp only [sbusFrameSize] at hlow hread hends
  omega

theorem accepted_of_phase (hs : ReaderWf s)
    (hphase : (feed sbusReadByte s (sbusBytes front)).1.phase = 0) :
    ⟨s.read + sbusFrameSize * (front.length + 1), frame.bytes, sbusDecodeFrame frame.bytes⟩
      ∈ (feed sbusReadByte s (sbusBytes (front ++ frame :: back))).2 := by
  have hread := feed_read s (sbusBytes front)
  rw [length_sbusBytes] at hread
  rw [feed_split, sbusBytes_cons, feed_append,
    (feed_frame (feed_wf hs (sbusBytes front)) frame).2.1 hphase, hread, Nat.add_assoc,
    ← Nat.mul_succ]
  exact List.mem_append_right _ (List.mem_append_left _ (List.mem_singleton_self _))

end Decoded

/-! ## Resynchronisation -/

section Garbage

variable {garbage : List U8} {front back : List SbusFrame} {frame : SbusFrame}

theorem init_wf : ReaderWf .init := rfl

theorem decoded_iff_phase :
    Decoded garbage.length (front ++ frame :: back)
        (feed sbusReadByte .init (garbage ++ sbusBytes (front ++ frame :: back))).2 front.length
      ↔ (feed sbusReadByte (feed sbusReadByte .init garbage).1 (sbusBytes front)).1.phase = 0 := by
  have hs := feed_wf init_wf garbage
  have hread : (feed sbusReadByte .init garbage).1.read = garbage.length :=
    (feed_read .init garbage).trans (Nat.zero_add _)
  rw [feed_append]
  constructor
  · rintro ⟨frame', hframe, a, ha, hends, -, -⟩
    rcases List.mem_append.mp ha with hgarbage | hframes
    · have hhigh := (feed_endsAt hgarbage).2.1
      simp only [SbusReader.init, sbusFrameSize] at hhigh hends
      omega
    · exact phase_of_accepted hs hframes (by rw [hread]; exact hends)
  intro hphase
  have hmem := @accepted_of_phase _ front back frame hs hphase
  rw [hread] at hmem
  refine ⟨frame, by simp, _, List.mem_append_right _ hmem, rfl, rfl, ?_⟩
  exact sbusDecodeFrame_channels frame.bytes

theorem only_of_decoded {a : SbusAccepted}
    (hdecoded : Decoded garbage.length (front ++ frame :: back)
      (feed sbusReadByte .init (garbage ++ sbusBytes (front ++ frame :: back))).2 front.length)
    (ha : a ∈ (feed sbusReadByte .init (garbage ++ sbusBytes (front ++ frame :: back))).2)
    (hends : garbage.length + sbusFrameSize * (front.length + 1) ≤ a.endsAt) :
    a.frame ∈ (front ++ frame :: back).map SbusFrame.bytes := by
  have hs := feed_wf init_wf garbage
  have hread : (feed sbusReadByte .init garbage).1.read = garbage.length :=
    (feed_read .init garbage).trans (Nat.zero_add _)
  rw [feed_append, feed_split, List.mem_append, List.mem_append] at ha
  rcases ha with hgarbage | hfront | hback
  · have hhigh := (feed_endsAt hgarbage).2.1
    simp only [SbusReader.init, sbusFrameSize] at hhigh hends
    omega
  · have hhigh := (feed_endsAt hfront).2.1
    rw [length_sbusBytes, hread] at hhigh
    simp only [sbusFrameSize] at hhigh hends
    omega
  have hframe := feed_frames_only (feed_wf hs (sbusBytes front))
    (decoded_iff_phase.mp hdecoded) (frame :: back) a hback
  rw [List.map_append]
  exact List.mem_append_right _ hframe

end Garbage

/-- The reader comes into phase within the first two frames, if there is a third one: there is no
header in the first frame behind its phase, or none in the second one behind that. -/
def InPhaseByThird (phase : Nat) : List SbusFrame → Prop
  | first :: second :: _ :: _ => headerFrom (headerFrom phase first.bytes) second.bytes = 0
  | _ => True

instance (phase : Nat) (frames : List SbusFrame) : Decidable (InPhaseByThird phase frames) := by
  unfold InPhaseByThird
  split <;> infer_instance

theorem exists_split {frames : List SbusFrame} {k : Nat} (hk : k < frames.length) :
    ∃ front frame back, frames = front ++ frame :: back ∧ front.length = k :=
  ⟨frames.take k, frames[k], frames.drop (k + 1),
    by rw [← List.drop_eq_getElem_cons hk, List.take_append_drop],
    List.length_take_of_le (Nat.le_of_lt hk)⟩

theorem phase_two (hs : ReaderWf s) (first second : SbusFrame) :
    (feed sbusReadByte s (sbusBytes [first, second])).1.phase
      = headerFrom (headerFrom s.phase first.bytes) second.bytes := by
  rw [sbusBytes_cons, sbusBytes_cons, feed_append, feed_append, show sbusBytes [] = [] from rfl,
    feed_nil, (feed_frame (feed_wf hs _) second).1, (feed_frame hs first).1]

/-- The reader resynchronises exactly if it comes into phase within two frames. -/
theorem sbus_resynchronises_iff (garbage : List U8) (frames : List SbusFrame)
    (reads : List (List U8)) (hreads : reads.flatten = garbage ++ sbusBytes frames) :
    Resynchronises garbage.length frames (sbusReaderTask .init reads).2
      ↔ InPhaseByThird (feed sbusReadByte .init garbage).1.phase frames := by
  have hs := feed_wf init_wf garbage
  rw [sbusReaderTask_eq, hreads]
  constructor
  · intro h
    match frames, h with
    | first :: second :: third :: rest, h =>
      have hphase := (@decoded_iff_phase garbage [first, second] rest third).mp
        (h.decoded 2 le_rfl (by simp))
      rw [phase_two hs] at hphase
      exact hphase
    | [], _ => exact trivial
    | [_], _ => exact trivial
    | [_, _], _ => exact trivial
  intro hphase
  refine ⟨fun k hk hlt => ?_, fun k hdecoded a ha hends => ?_⟩
  · obtain ⟨front, frame, back, rfl, rfl⟩ := exists_split hlt
    refine decoded_iff_phase.mpr ?_
    -- Behind the first two frames the reader stays in phase.
    match front, hk, hphase with
    | first :: second :: between, _, hphase =>
      have hzero : headerFrom
          (headerFrom (feed sbusReadByte .init garbage).1.phase first.bytes) second.bytes
          = 0 := by
        cases between <;> exact hphase
      rw [← phase_two hs] at hzero
      have hbytes : sbusBytes (first :: second :: between)
          = sbusBytes [first, second] ++ sbusBytes between :=
        @List.flatMap_append _ _ [first, second] between SbusFrame.bytes
      rw [hbytes, feed_append]
      exact feed_phase_zero (feed_wf hs _) hzero between
  have hlt : k < frames.length := by
    obtain ⟨frame, hframe, -⟩ := hdecoded
    exact (List.getElem?_eq_some_iff.mp hframe).1
  obtain ⟨front, frame, back, rfl, rfl⟩ := exists_split hlt
  exact only_of_decoded hdecoded ha hends

/-- The channels at 1024, and no flags. -/
def raisedFrame : SbusFrame where
  bytes := [0x0F, 0x00, 0x04, 0x20, 0x00, 0x01, 0x08, 0x40, 0x00, 0x02, 0x10, 0x80, 0x00, 0x04,
    0x20, 0x00, 0x01, 0x08, 0x40, 0x00, 0x02, 0x10, 0x80, 0x00, 0x00]
  length_eq := rfl
  header := rfl
  footer := rfl

/-- A header at the end of the garbage takes the first frame; the second one is decoded. -/
theorem sbus_resynchronises_raised :
    Resynchronises 2 [raisedFrame, raisedFrame, raisedFrame, raisedFrame]
      (sbusReaderTask .init [[0x00], 0x0F :: raisedFrame.bytes,
        sbusBytes [raisedFrame, raisedFrame, raisedFrame]]).2 :=
  (sbus_resynchronises_iff [0x00, 0x0F] [raisedFrame, raisedFrame, raisedFrame, raisedFrame]
    [[0x00], 0x0F :: raisedFrame.bytes, sbusBytes [raisedFrame, raisedFrame, raisedFrame]]
    rfl).mpr (by decide)

/-- The channels at 992, which is the centre, and no flags. -/
def centredFrame : SbusFrame where
  bytes := [0x0F, 0xE0, 0x03, 0x1F, 0xF8, 0xC0, 0x07, 0x3E, 0xF0, 0x81, 0x0F, 0x7C, 0xE0, 0x03,
    0x1F, 0xF8, 0xC0, 0x07, 0x3E, 0xF0, 0x81, 0x0F, 0x7C, 0x00, 0x00]
  length_eq := rfl
  header := rfl
  footer := rfl

/-- With the sticks at the centre, every frame holds the value of a header.  A reader that starts in
the middle of a frame finds it in each of them, and accepts nothing. -/
theorem sbus_never_synchronises :
    ¬ Resynchronises 20 [centredFrame, centredFrame, centredFrame]
      (sbusReaderTask .init
        [centredFrame.bytes.drop 5, sbusBytes [centredFrame, centredFrame, centredFrame]]).2 := by
  intro h
  obtain ⟨frame, -, a, ha, -⟩ := h.decoded 2 (by decide) (by decide)
  have hnothing : (sbusReaderTask .init
      [centredFrame.bytes.drop 5, sbusBytes [centredFrame, centredFrame, centredFrame]]).2 = [] :=
    rfl
  rw [hnothing] at ha
  cases ha

end MmIotEsp32.HeliFc
