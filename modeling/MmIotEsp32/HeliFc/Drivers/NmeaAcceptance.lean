/-
  MmIotEsp32.HeliFc.Drivers.NmeaAcceptance

  What the GPS task takes for a sentence.

  A line goes from the last `$`, or from the end of the line before, to its own end; the buffer
  holds the first bytes of it.  Whatever has more than five bytes is processed at its end, as a C
  string, and there is valid data from then on.
-/
import Mathlib.Data.List.TakeWhile
import MmIotEsp32.HeliFc.Drivers.GpsNmea
import MmIotEsp32.Lib.Transition

namespace MmIotEsp32.HeliFc

open Lib

/-! ## The task -/

/-- The end of a line. -/
def LineEnd (byte : U8) : Prop := byte = ascii '\r' ∨ byte = ascii '\n'

instance : DecidablePred LineEnd := fun _ => inferInstanceAs (Decidable (_ ∨ _))

/-- `gps_task` between two bytes.  `raw` is history: the line as it came. -/
structure GpsTask where
  raw : List U8
  line : List U8
  gps : GpsHandle
  deriving DecidableEq

/-- The line as it came. -/
def rawLine (raw : List U8) (byte : U8) : List U8 :=
  if byte = ascii '$' then [ascii '$'] else if LineEnd byte then [] else raw ++ [byte]

/-- A byte, and the time at which it comes. -/
structure GpsByte where
  byte : U8
  nowUs : U64
  deriving DecidableEq

/-- The body of the loop of `gps_task`. -/
def gpsTaskStep (f : NmeaFloats) (t : GpsTask) (e : GpsByte) : GpsTask where
  raw := rawLine t.raw e.byte
  line := (gpsLine t.line e.byte).1
  gps :=
    match (gpsLine t.line e.byte).2 with
    | some sentence => gpsSentence f e.nowUs t.gps sentence
    | none => t.gps

def gpsTaskStart (gps : GpsHandle) : GpsTask := ⟨[], [], gps⟩

/-- The places of `line` that the byte makes the task write. -/
def gpsWrites (line : List U8) (byte : U8) : List Nat :=
  if byte = ascii '$' then [0]
  else if LineEnd byte then
    -- the zero at the end
    if 5 < line.length then [line.length] else []
  else if line.length < nmeaMaxLen - 1 then [line.length] else []

/-- `gps->data_valid = true` is executed. -/
def SetsDataValid (line : List U8) (byte : U8) : Prop := LineEnd byte ∧ 5 < line.length

/-- The fields that `n` times `nmea_next_field` comes to. -/
def nextFields : Nat → List U8 → List (List U8)
  | 0, _ => []
  | n + 1, p =>
    match nmeaNextField p with
    | some field => field :: nextFields n field
    | none => []

/-- The prefix of a sentence that is parsed. -/
def isRmc (sentence : List U8) : Bool :=
  (asciiText "$GPRMC,").isPrefixOf sentence || (asciiText "$GNRMC,").isPrefixOf sentence

def isGga (sentence : List U8) : Bool :=
  (asciiText "$GPGGA,").isPrefixOf sentence || (asciiText "$GNGGA,").isPrefixOf sentence

/-- The fields that `parse_gprmc` and `parse_gpgga` go through. -/
def fieldsRead (sentence : List U8) : List (List U8) :=
  if isRmc sentence then nextFields 8 sentence
  else if isGga sentence then nextFields 9 sentence
  else []

/-! ## Sentences -/

/-- The value of a hexadecimal digit. -/
def hexDigit (c : U8) : Option Nat := (digitOf c).filter (· < 16)

/-- `$`, a body without `*`, `*`, and exactly two hexadecimal digits with the value of the XOR of
the body, all of it shorter than the buffer. -/
def NmeaSentence (raw : List U8) : Prop :=
  raw.length < nmeaMaxLen ∧ ∃ body hi lo a b,
    raw = ascii '$' :: (body ++ [ascii '*', hi, lo]) ∧ ascii '*' ∉ body
      ∧ hexDigit hi = some a ∧ hexDigit lo = some b
      ∧ body.foldl (· ^^^ ·) 0 = BitVec.ofNat 8 (16 * a + b)

/-- The field begins no later than the delimiter of the checksum. -/
def FieldInside (sentence field : List U8) : Prop :=
  (sentence.dropWhile (· ≠ ascii '*')).length ≤ field.length

/-- What the task should do with a byte. -/
structure NmeaExact (f : NmeaFloats) (t : GpsTask) (e : GpsByte) : Prop where
  bounds : ∀ i ∈ gpsWrites t.line e.byte, i < nmeaMaxLen
  /-- Data change, or become valid, only at the end of a sentence. -/
  only : (gpsTaskStep f t e).gps ≠ t.gps ∨ SetsDataValid t.line e.byte →
    LineEnd e.byte ∧ NmeaSentence t.raw
  /-- A sentence that can be parsed is. -/
  processed : LineEnd e.byte → NmeaSentence t.raw → isRmc t.raw ∨ isGga t.raw →
    (gpsLine t.line e.byte).2 = some t.raw ∧ nmeaValidateChecksum t.raw = true
  fields : ∀ sentence, (gpsLine t.line e.byte).2 = some sentence →
    nmeaValidateChecksum sentence = true →
      ∀ field ∈ fieldsRead sentence, FieldInside sentence field

/-- A line of more than five bytes is a sentence, and one that can be parsed holds no zero. -/
def GoodLine (t : GpsTask) (e : GpsByte) : Prop :=
  LineEnd e.byte → 5 < t.raw.length →
    NmeaSentence t.raw ∧ (isRmc t.raw ∨ isGga t.raw → 0 ∉ t.raw)

/-- The buffer holds the first bytes of the line. -/
def Truncated (t : GpsTask) : Prop := t.line = t.raw.take (nmeaMaxLen - 1)

theorem gpsLine_end {line : List U8} {byte : U8} (hend : LineEnd byte) :
    gpsLine line byte
      = ([], if 5 < line.length then some (line.takeWhile (· ≠ 0)) else none) := by
  unfold gpsLine
  rw [if_neg (by rcases hend with rfl | rfl <;> decide)]
  exact if_pos hend

theorem gpsLine_before {line : List U8} {byte : U8} (hend : ¬ LineEnd byte) :
    (gpsLine line byte).2 = none := by
  unfold gpsLine
  split
  · rfl
  · exact congrArg Prod.snd (if_neg hend)

variable {t : GpsTask}

theorem gpsTaskStep_truncated (f : NmeaFloats) (ht : Truncated t) (e : GpsByte) :
    Truncated (gpsTaskStep f t e) := by
  unfold Truncated at ht ⊢
  show (gpsLine t.line e.byte).1 = (rawLine t.raw e.byte).take (nmeaMaxLen - 1)
  unfold rawLine
  by_cases hend : LineEnd e.byte
  · have hdollar : e.byte ≠ ascii '$' := by
      rcases hend with h | h <;> rw [h] <;> decide
    rw [gpsLine_end hend, if_neg hdollar, if_pos hend]
    rfl
  have hother : ¬ (e.byte = ascii '\r' ∨ e.byte = ascii '\n') := hend
  unfold gpsLine
  by_cases hdollar : e.byte = ascii '$'
  · rw [if_pos hdollar, if_pos hdollar]
    rfl
  rw [if_neg hdollar, if_neg hother, if_neg hdollar, if_neg hend, ht]
  simp only [List.length_take]
  by_cases hroom : t.raw.length < nmeaMaxLen - 1
  · rw [if_pos (by omega), List.take_of_length_le (by omega),
      List.take_of_length_le (by simp; omega)]
  · rw [if_neg (by omega), List.take_append_of_le_length (by omega)]

theorem Truncated.length_lt (ht : Truncated t) : t.line.length < nmeaMaxLen := by
  rw [ht, List.length_take]
  simp only [nmeaMaxLen]
  omega

theorem Truncated.long_iff (ht : Truncated t) : 5 < t.line.length ↔ 5 < t.raw.length := by
  rw [ht, List.length_take]
  simp only [nmeaMaxLen]
  omega

theorem Truncated.whole (ht : Truncated t) (hlen : t.raw.length < nmeaMaxLen) : t.line = t.raw := by
  rw [ht, List.take_of_length_le (by omega)]

/-! ## Fields -/

theorem nmeaNextField_tail {front tail field : List U8} (htail : ascii ',' ∉ tail)
    (h : nmeaNextField (front ++ tail) = some field) : ∃ front', field = front' ++ tail := by
  unfold nmeaNextField at h
  induction front with
  | nil =>
    have hnil : tail.dropWhile (· ≠ ascii ',') = [] := by
      rw [List.dropWhile_eq_nil_iff]
      intro c hc
      simpa using ne_of_mem_of_not_mem hc htail
    rw [List.nil_append, hnil] at h
    cases h
  | cons c front ih =>
    by_cases hcomma : c = ascii ','
    · rw [List.cons_append, List.dropWhile_cons_of_neg (by simpa using hcomma)] at h
      exact ⟨front, (Option.some.inj h).symm⟩
    · rw [List.cons_append, List.dropWhile_cons_of_pos (by simpa using hcomma)] at h
      exact ih h

theorem nextFields_tail (n : Nat) {front tail : List U8} (htail : ascii ',' ∉ tail) :
    ∀ field ∈ nextFields n (front ++ tail), ∃ front', field = front' ++ tail := by
  induction n generalizing front with
  | zero => nofun
  | succ n ih =>
    intro field hfield
    unfold nextFields at hfield
    split at hfield
    · next next hnext =>
        obtain ⟨front', rfl⟩ := nmeaNextField_tail htail hnext
        rcases List.mem_cons.mp hfield with rfl | hlater
        · exact ⟨front', rfl⟩
        · exact ih field hlater
    · cases hfield

/-! ## Sentences -/

section Sentence

variable {body : List U8} {hi lo : U8} {a b : Nat}

theorem hexDigit_eq_some {c : U8} {d : Nat} (h : hexDigit c = some d) :
    digitOf c = some d ∧ d < 16 := by
  obtain ⟨hdigit, hlt⟩ := Option.filter_eq_some_iff.mp h
  exact ⟨hdigit, by simpa using hlt⟩

theorem hexDigit_ne {c : U8} {d : Nat} (h : hexDigit c = some d) :
    isSpace c = false ∧ c ≠ ascii '-' ∧ c ≠ ascii '+' ∧ c ≠ ascii ',' ∧ c ≠ ascii '*' ∧ c ≠ 0 := by
  have hsome : (hexDigit c).isSome = true := by rw [h]; rfl
  revert hsome
  clear h
  revert c
  decide

theorem strtol_two (hhi : hexDigit hi = some a) (hlo : hexDigit lo = some b) :
    strtol 16 [hi, lo] = ((16 * a + b : Nat) : Int) := by
  obtain ⟨hspace, hminus, hplus, -⟩ := hexDigit_ne hhi
  obtain ⟨hda, ha⟩ := hexDigit_eq_some hhi
  obtain ⟨hdb, hb⟩ := hexDigit_eq_some hlo
  have hvalue : leadingDigits 16 0 [hi, lo] = 16 * a + b := by
    simp [leadingDigits, hda, hdb, ha, hb, Nat.mul_comm]
  unfold strtol
  rw [List.dropWhile_cons_of_neg (by simp [hspace])]
  simp only [List.head?_cons, Option.some.injEq, hminus, hplus, or_self, if_false, if_true,
    dropHexPrefix, hvalue]
  omega

theorem checksumParts_sentence (hbody : ascii '*' ∉ body) :
    checksumParts (ascii '$' :: (body ++ [ascii '*', hi, lo])) = some (body, [hi, lo]) := by
  have hall : ∀ c ∈ body, decide (c ≠ ascii '*') = true := by
    intro c hc
    simpa using ne_of_mem_of_not_mem hc hbody
  unfold checksumParts
  simp only [if_true]
  rw [List.dropWhile_append_of_pos hall, List.takeWhile_append_of_pos hall,
    List.dropWhile_cons_of_neg (by simp), List.takeWhile_cons_of_neg (by simp), List.append_nil]

theorem NmeaSentence.valid {raw : List U8} (h : NmeaSentence raw) :
    nmeaValidateChecksum raw = true := by
  obtain ⟨-, body, hi, lo, a, b, rfl, hbody, hhi, hlo, hxor⟩ := h
  unfold nmeaValidateChecksum
  rw [checksumParts_sentence hbody]
  simp only
  rw [strtol_two hhi hlo, hxor, BitVec.ofInt_natCast]
  exact beq_self_eq_true _

theorem NmeaSentence.fields {raw : List U8} (h : NmeaSentence raw) :
    ∀ field ∈ fieldsRead raw, FieldInside raw field := by
  obtain ⟨-, body, hi, lo, a, b, rfl, hbody, hhi, hlo, -⟩ := h
  have hall : ∀ c ∈ ascii '$' :: body, decide (c ≠ ascii '*') = true := by
    intro c hc
    rcases List.mem_cons.mp hc with rfl | hc
    · rfl
    · simpa using ne_of_mem_of_not_mem hc hbody
  have htail : ascii ',' ∉ [ascii '*', hi, lo] := by
    simp only [List.mem_cons, List.not_mem_nil, or_false, not_or]
    exact ⟨by decide, (hexDigit_ne hhi).2.2.2.1.symm, (hexDigit_ne hlo).2.2.2.1.symm⟩
  have hinside : ∀ n, ∀ field ∈ nextFields n (ascii '$' :: (body ++ [ascii '*', hi, lo])),
      FieldInside (ascii '$' :: (body ++ [ascii '*', hi, lo])) field := by
    intro n field hfield
    rw [← List.cons_append] at hfield ⊢
    obtain ⟨front, rfl⟩ := nextFields_tail n htail field hfield
    unfold FieldInside
    rw [List.dropWhile_append_of_pos hall, List.dropWhile_cons_of_neg (by simp)]
    simp
  intro field hfield
  unfold fieldsRead at hfield
  split at hfield
  · exact hinside 8 field hfield
  · split at hfield
    · exact hinside 9 field hfield
    · cases hfield

end Sentence

/-! ## Lines -/

section Lines

variable {t : GpsTask} {e : GpsByte}

theorem isRmc_of_head {sentence raw : List U8} (hhead : sentence <+: raw)
    (h : isRmc sentence = true) : isRmc raw = true := by
  unfold isRmc at h ⊢
  rw [Bool.or_eq_true, List.isPrefixOf_iff_prefix, List.isPrefixOf_iff_prefix] at h ⊢
  exact h.imp (·.trans hhead) (·.trans hhead)

theorem isGga_of_head {sentence raw : List U8} (hhead : sentence <+: raw)
    (h : isGga sentence = true) : isGga raw = true := by
  unfold isGga at h ⊢
  rw [Bool.or_eq_true, List.isPrefixOf_iff_prefix, List.isPrefixOf_iff_prefix] at h ⊢
  exact h.imp (·.trans hhead) (·.trans hhead)

theorem length_of_parsed {raw : List U8} (h : isRmc raw = true ∨ isGga raw = true) :
    5 < raw.length := by
  unfold isRmc isGga at h
  simp only [Bool.or_eq_true, List.isPrefixOf_iff_prefix] at h
  rcases h with (h | h) | h | h <;> exact Nat.lt_of_lt_of_le (by decide) h.length_le

theorem takeWhile_zero_eq_self {raw : List U8} : raw.takeWhile (· ≠ 0) = raw ↔ 0 ∉ raw := by
  rw [List.takeWhile_eq_self_iff]
  constructor
  · intro h hzero
    exact absurd (h 0 hzero) (by decide)
  · intro h c hc
    simpa using ne_of_mem_of_not_mem hc h

theorem gpsWrites_lt (ht : Truncated t) (byte : U8) :
    ∀ i ∈ gpsWrites t.line byte, i < nmeaMaxLen := by
  intro i hi
  have hlt := ht.length_lt
  unfold gpsWrites at hi
  split at hi
  · obtain rfl := List.mem_singleton.mp hi
    decide
  split at hi
  · split at hi
    · obtain rfl := List.mem_singleton.mp hi
      exact hlt
    · cases hi
  split at hi
  · obtain rfl := List.mem_singleton.mp hi
    exact hlt
  · cases hi

theorem gps_of_not_sets (f : NmeaFloats) (h : ¬ SetsDataValid t.line e.byte) :
    (gpsTaskStep f t e).gps = t.gps := by
  have hnone : (gpsLine t.line e.byte).2 = none := by
    by_cases hend : LineEnd e.byte
    · rw [gpsLine_end hend]
      exact if_neg fun hlong => h ⟨hend, hlong⟩
    · exact gpsLine_before hend
  unfold gpsTaskStep
  simp only [hnone]

theorem GoodLine.fields (ht : Truncated t) (h : GoodLine t e) {sentence : List U8}
    (hline : (gpsLine t.line e.byte).2 = some sentence) :
    ∀ field ∈ fieldsRead sentence, FieldInside sentence field := by
  by_cases hend : LineEnd e.byte
  · rw [gpsLine_end hend] at hline
    simp only at hline
    split at hline
    · next hlong =>
        obtain ⟨hsentence, hzero⟩ := h hend (ht.long_iff.mp hlong)
        rw [ht.whole hsentence.1] at hline
        cases hline
        by_cases hparsed : isRmc t.raw = true ∨ isGga t.raw = true
        · rw [takeWhile_zero_eq_self.mpr (hzero hparsed)]
          exact hsentence.fields
        -- Up to its zero it is not parsed either.
        have hhead : t.raw.takeWhile (· ≠ 0) <+: t.raw := List.takeWhile_prefix _
        unfold fieldsRead
        rw [if_neg fun hrmc => hparsed (Or.inl (isRmc_of_head hhead hrmc)),
          if_neg fun hgga => hparsed (Or.inr (isGga_of_head hhead hgga))]
        nofun
    · cases hline
  · rw [gpsLine_before hend] at hline
    cases hline

theorem nmeaExact_iff (f : NmeaFloats) (ht : Truncated t) (e : GpsByte) :
    NmeaExact f t e ↔ GoodLine t e := by
  constructor
  · intro h hend hlong
    have hline := ht.long_iff.mpr hlong
    have hsentence := (h.only (Or.inr ⟨hend, hline⟩)).2
    refine ⟨hsentence, fun hparsed => ?_⟩
    have hraw := (h.processed hend hsentence hparsed).1
    rw [gpsLine_end hend] at hraw
    simp only at hraw
    rw [if_pos hline, ht.whole hsentence.1] at hraw
    exact takeWhile_zero_eq_self.mp (Option.some.inj hraw)
  intro h
  refine ⟨gpsWrites_lt ht e.byte, fun hsets => ?_, fun hend hsentence hparsed => ?_,
    fun sentence hline _ => h.fields ht hline⟩
  · have hvalid : SetsDataValid t.line e.byte := by
      by_contra hnot
      exact hsets.elim (fun hchanged => hchanged (gps_of_not_sets f hnot)) hnot
    exact ⟨hvalid.1, (h hvalid.1 (ht.long_iff.mp hvalid.2)).1⟩
  have hlong := length_of_parsed hparsed
  refine ⟨?_, hsentence.valid⟩
  rw [gpsLine_end hend, ht.whole hsentence.1]
  simp only
  rw [if_pos hlong, takeWhile_zero_eq_self.mpr ((h hend hlong).2 hparsed)]

end Lines

/-- Exactly the sentences are accepted, as long as every line of more than five bytes is one, and
those that are parsed hold no zero. -/
theorem nmea_acceptance_iff (f : NmeaFloats) (gps : GpsHandle) (stream : List GpsByte) :
    Along (fun t e => some (gpsTaskStep f t e)) (NmeaExact f) (gpsTaskStart gps) stream
      ↔ Along (fun t e => some (gpsTaskStep f t e)) GoodLine (gpsTaskStart gps) stream := by
  have hstart : Truncated (gpsTaskStart gps) := rfl
  have hrun : Throughout (fun t e => some (gpsTaskStep f t e)) Truncated (gpsTaskStart gps)
      stream := by
    refine throughout_of_invariant (fun t e t' ht hstep => ?_) hstart stream
    cases hstep
    exact gpsTaskStep_truncated f ht e
  exact Along.congr (hrun.along_of fun t e ht => nmeaExact_iff f ht e)

-- Streams.

/-- The bytes of a text, all at one time. -/
def gpsBytes (text : String) (nowUs : U64) : List GpsByte :=
  (asciiText text).map fun byte => ⟨byte, nowUs⟩

/-- All numbers are zero. -/
def zeroFloats : NmeaFloats := ⟨fun _ => 0, fun _ => 0, fun _ _ => 0, fun _ => false, fun _ => 0⟩

theorem NmeaSentence.star {raw : List U8} (h : NmeaSentence raw) :
    (raw.reverse)[2]? = some (ascii '*') := by
  obtain ⟨-, body, hi, lo, a, b, rfl, -⟩ := h
  simp

/-- A line with a wrong checksum makes the data valid, which have never been set; and one with a
number for `strtol` in the place of the checksum is processed, with fields behind the delimiter. -/
theorem nmea_accepts_more :
    ¬ Along (fun t e => some (gpsTaskStep zeroFloats t e)) (NmeaExact zeroFloats)
        (gpsTaskStart ⟨⟨.zero, 0⟩, false⟩) (gpsBytes "$GPGGA,,,,,,0,,,*4B" 7 ++ [⟨13, 7⟩])
      ∧ ¬ Along (fun t e => some (gpsTaskStep zeroFloats t e)) (NmeaExact zeroFloats)
        (gpsTaskStart ⟨⟨.zero, 0⟩, false⟩)
        (gpsBytes "$GPGGA,*0x7A,,,,,1,9,1,5" 7 ++ [⟨13, 7⟩]) := by
  constructor
  · intro h
    have hrun : runFrom (fun t e => some (gpsTaskStep zeroFloats t e))
        (gpsTaskStart ⟨⟨.zero, 0⟩, false⟩) (gpsBytes "$GPGGA,,,,,,0,,,*4B" 7)
          = some ⟨asciiText "$GPGGA,,,,,,0,,,*4B", asciiText "$GPGGA,,,,,,0,,,*4B",
            ⟨⟨.zero, 0⟩, false⟩⟩ := by decide +kernel
    have hsentence := ((h.last hrun).only (Or.inr ⟨Or.inl rfl, by decide +kernel⟩)).2
    exact absurd hsentence.valid (by decide +kernel)
  intro h
  have hrun : runFrom (fun t e => some (gpsTaskStep zeroFloats t e))
      (gpsTaskStart ⟨⟨.zero, 0⟩, false⟩) (gpsBytes "$GPGGA,*0x7A,,,,,1,9,1,5" 7)
        = some ⟨asciiText "$GPGGA,*0x7A,,,,,1,9,1,5", asciiText "$GPGGA,*0x7A,,,,,1,9,1,5",
          ⟨⟨.zero, 0⟩, false⟩⟩ := by decide +kernel
  have hsentence := ((h.last hrun).only (Or.inr ⟨Or.inl rfl, by decide +kernel⟩)).2
  exact absurd hsentence.star (by decide +kernel)

end MmIotEsp32.HeliFc
