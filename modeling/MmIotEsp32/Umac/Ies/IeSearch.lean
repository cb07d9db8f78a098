/-
  MmIotEsp32.Umac.Ies.IeSearch

  What the search for an element reports (`ie_find_and_validate_length`).

  The loop stops at the first element of the id, at the first malformed element, or at the
  end of the list (`ieFindLoop_stop`).  The expected length is compared with the length
  octet at that place, whichever of the three it is.
-/
import MmIotEsp32.Umac.Ies.IesCommon

namespace MmIotEsp32.Umac.Ies

/-! ## The octets that are read -/

/-- The octets below `len`, and nothing beyond them. -/
def within (p : BytePtr) (len : Nat) : Nat → Option U8 := fun i =>
  if i < len then some (p i) else none

section Read

variable (read : Nat → Option U8)

/-- The loop of `ie_find_and_validate_length`, where an octet that may not be read ends it. -/
def ieFindLoopWith (iesEnd : Nat) (id : U8) (curr : Nat) : Option (Nat × IeResult) :=
  if curr < iesEnd then
    if ieInfo curr ≤ iesEnd then
      match read (curr + 1) with
      | none => none
      | some len =>
        if ieInfo curr + len.toNat ≤ iesEnd then
          match read curr with
          | none => none
          | some x =>
            if x == id then some (curr, .ieFound)
            else ieFindLoopWith iesEnd id (ieInfo curr + len.toNat)
        else some (curr, .iesInvalid)
    else some (curr, .iesInvalid)
  else some (curr, .ieNotFound)
termination_by iesEnd - curr
decreasing_by
  unfold ieInfo ieSizeofHeader
  omega

/-- What is reported from where the loop stopped, and why. -/
def ieReport (expectedLength : Nat) (len : Nat) (stop : Nat × IeResult) : Option Nat × IeResult :=
  let res := if expectedLength != 0 && expectedLength != len then .ieWrongLen else stop.2
  (if res = .ieFound then some stop.1 else none, res)

/-- `ie_find_and_validate_length`, `none` when it reads an octet that it may not read.  The
length octet is looked at only when a length is expected. -/
def ieFindAndValidateLengthWith (iesLen : Nat) (id : U8) (expectedLength : Nat) :
    Option (Option Nat × IeResult) :=
  match ieFindLoopWith read iesLen id 0 with
  | none => none
  | some stop =>
    if expectedLength = 0 then some (ieReport 0 0 stop)
    else (read (stop.1 + 1)).map fun len => ieReport expectedLength len.toNat stop

end Read

theorem ieFindAndValidateLength_eq (p : BytePtr) (len : Nat) (id : U8) (expectedLength : Nat) :
    ieFindAndValidateLength p len id expectedLength
      = ieReport expectedLength (ieLen p (ieFindLoop p len id 0).1) (ieFindLoop p len id 0) := rfl

theorem ieReport_zero (len : Nat) (stop : Nat × IeResult) :
    ieReport 0 len stop = (if stop.2 = .ieFound then some stop.1 else none, stop.2) := rfl

theorem ieReport_of_eq {expectedLength len : Nat} (h : expectedLength = len)
    (stop : Nat × IeResult) :
    ieReport expectedLength len stop
      = (if stop.2 = .ieFound then some stop.1 else none, stop.2) := by
  unfold ieReport
  rw [h]
  simp

theorem ieReport_of_ne {expectedLength len : Nat} (h0 : expectedLength ≠ 0)
    (h : expectedLength ≠ len) (stop : Nat × IeResult) :
    ieReport expectedLength len stop = (none, .ieWrongLen) := by
  unfold ieReport
  simp [h0, h]

variable {p : BytePtr}

theorem ieFindLoopWith_eq {iesEnd : Nat} {read : Nat → Option U8}
    (hread : ∀ i < iesEnd, read i = some (p i)) (id : U8) (curr : Nat) :
    ieFindLoopWith read iesEnd id curr = some (ieFindLoop p iesEnd id curr) := by
  induction hleft : iesEnd - curr using Nat.strongRecOn generalizing curr with
  | ind left ih =>
    rw [ieFindLoopWith, ieFindLoop]
    by_cases hcurr : curr < iesEnd
    · rw [if_pos hcurr, if_pos hcurr]
      unfold ieValid ieNext
      by_cases hinfo : ieInfo curr ≤ iesEnd
      · have hheader : curr + 1 < iesEnd := by
          unfold ieInfo ieSizeofHeader at hinfo
          omega
        rw [if_pos hinfo, hread _ hheader, decide_eq_true hinfo, Bool.true_and]
        show (if ieInfo curr + ieLen p curr ≤ iesEnd then _ else _) = _
        by_cases hnext : ieInfo curr + ieLen p curr ≤ iesEnd
        · rw [if_pos hnext, hread _ hcurr, decide_eq_true hnext]
          dsimp only
          by_cases hid : (p curr == id) = true
          · rw [if_pos hid, if_neg (by simp), ieId, if_pos hid]
          rw [if_neg hid, if_neg (by simp), ieId, if_neg hid]
          have hpos : curr < ieInfo curr := by
            unfold ieInfo ieSizeofHeader
            omega
          exact ih _ (by omega) _ rfl
        · rw [if_neg hnext, decide_eq_false hnext]
          rfl
      · rw [if_neg hinfo, decide_eq_false hinfo]
        rfl
    · rw [if_neg hcurr, if_neg hcurr]

theorem ieFindAndValidateLengthWith_within (p : BytePtr) (len : Nat) (id : U8)
    (expectedLength : Nat) :
    ieFindAndValidateLengthWith (within p len) len id expectedLength
      = if expectedLength = 0 ∨ (ieFindLoop p len id 0).1 + 1 < len then
          some (ieFindAndValidateLength p len id expectedLength)
        else none := by
  have hread : ∀ i < len, within p len i = some (p i) := fun i hi => if_pos hi
  unfold ieFindAndValidateLengthWith
  rw [ieFindLoopWith_eq hread, ieFindAndValidateLength_eq]
  dsimp only
  by_cases hzero : expectedLength = 0
  · rw [if_pos hzero, if_pos (Or.inl hzero), hzero, ieReport_zero, ieReport_zero]
  rw [if_neg hzero]
  by_cases hin : (ieFindLoop p len id 0).1 + 1 < len
  · rw [if_pos (Or.inr hin), hread _ hin]
    rfl
  · have hout : within p len ((ieFindLoop p len id 0).1 + 1) = none := if_neg hin
    rw [if_neg (not_or.mpr ⟨hzero, hin⟩), hout]
    rfl

/-! ## What is in the list -/

/-- The list begins with the elements `before`, none of which has the id. -/
structure Passed (p : BytePtr) (len : Nat) (id : U8) (before : List Ie) : Prop where
  octets : BytesAt p 0 (ieOctets before)
  inside : (ieOctets before).length ≤ len
  others : ∀ ie ∈ before, ie.id ≠ id

/-- The first element of the id stands behind the elements `before`. -/
structure FirstIe (p : BytePtr) (len : Nat) (id : U8) (before : List Ie) (ie : Ie) : Prop where
  passed : Passed p len id before
  ofId : ie.id = id
  octets : BytesAt p (ieOctets before).length ie.octets
  inside : (ieOctets before).length + ie.octets.length ≤ len

/-- What stands at `curr` is not an element that ends inside the list. -/
def MalformedAt (p : BytePtr) (len curr : Nat) : Prop :=
  curr < len ∧ ∀ ie : Ie, BytesAt p curr ie.octets → len < curr + ie.octets.length

/-- The element that a header at `curr` announces. -/
def ieAt (p : BytePtr) (curr : Nat) : Ie where
  id := p curr
  info := (p.add (ieInfo curr)).take (ieLen p curr)
  length_le := by
    rw [BytePtr.length_take]
    exact Nat.le_of_lt_succ (p (curr + 1)).isLt

theorem length_info_ieAt (p : BytePtr) (curr : Nat) : (ieAt p curr).info.length = ieLen p curr :=
  BytePtr.length_take _ _

theorem getElem_info_ieAt (p : BytePtr) (curr i : Nat) (h : i < (ieAt p curr).info.length) :
    (ieAt p curr).info[i] = p (curr + (i + 2)) := by
  have hinfo : (ieAt p curr).info = (List.range (ieLen p curr)).map (p.add (ieInfo curr)) := rfl
  simp only [hinfo, List.getElem_map, List.getElem_range]
  show p (curr + 2 + i) = p (curr + (i + 2))
  congr 1
  omega

theorem bytesAt_ieAt (p : BytePtr) (curr : Nat) : BytesAt p curr (ieAt p curr).octets := by
  intro i hi
  match i with
  | 0 => rfl
  | 1 =>
    show p (curr + 1) = BitVec.ofNat 8 (ieAt p curr).info.length
    rw [length_info_ieAt, ieLen, BitVec.ofNat_toNat, BitVec.setWidth_eq]
  | i + 2 =>
    have hi' : i < (ieAt p curr).info.length := Nat.lt_of_succ_lt_succ (Nat.lt_of_succ_lt_succ hi)
    exact (getElem_info_ieAt p curr i hi').symm

theorem length_octets_ieAt (p : BytePtr) (curr : Nat) :
    curr + (ieAt p curr).octets.length = ieNext p curr := by
  rw [Ie.length_octets, length_info_ieAt]
  unfold ieNext ieInfo
  omega

theorem malformedAt_of_invalid {len curr : Nat} (hcurr : curr < len)
    (h : ieValid p curr len = false) : MalformedAt p len curr := by
  refine ⟨hcurr, fun ie hie => ?_⟩
  obtain ⟨_, _, hnext⟩ := ie_header hie
  have hpos := ie.length_octets
  unfold ieSizeofHeader at hpos
  by_contra hle
  have hvalid : ieValid p curr len = true := by
    unfold ieValid ieInfo ieSizeofHeader
    rw [hnext, Bool.and_eq_true]
    exact ⟨decide_eq_true (by omega), decide_eq_true (by omega)⟩
  rw [hvalid] at h
  cases h

theorem invalid_of_malformedAt {len curr : Nat} (h : MalformedAt p len curr) :
    ieValid p curr len = false := by
  rw [Bool.eq_false_iff]
  intro hvalid
  unfold ieValid at hvalid
  rw [Bool.and_eq_true, decide_eq_true_eq, decide_eq_true_eq] at hvalid
  have hlt := h.2 _ (bytesAt_ieAt p curr)
  rw [length_octets_ieAt] at hlt
  omega

/-! ## Where the loop stops -/

variable {before : List Ie} {len : Nat} {id : U8}

theorem Passed.loop (h : Passed p len id before) :
    ieFindLoop p len id 0 = ieFindLoop p len id (ieOctets before).length := by
  have hend : 0 + (ieOctets before).length ≤ len := by
    rw [Nat.zero_add]
    exact h.inside
  rw [ieFindLoop_skip h.octets hend h.others, Nat.zero_add]

theorem FirstIe.loop {ie : Ie} (h : FirstIe p len id before ie) :
    ieFindLoop p len id 0 = ((ieOctets before).length, .ieFound) := by
  obtain ⟨hid, _, hnext⟩ := ie_header h.octets
  have hpos := ie.length_octets
  have hinside := h.inside
  unfold ieSizeofHeader at hpos
  have hvalid : ieValid p (ieOctets before).length len = true := by
    unfold ieValid ieInfo ieSizeofHeader
    rw [hnext, Bool.and_eq_true]
    exact ⟨decide_eq_true (by omega), decide_eq_true (by omega)⟩
  rw [h.passed.loop, ieFindLoop, if_pos (by omega), hvalid, hid, h.ofId, if_neg (by simp),
    if_pos (beq_self_eq_true id)]

theorem Passed.loop_malformed
    (h : Passed p len id before) (hbad : MalformedAt p len (ieOctets before).length) :
    ieFindLoop p len id 0 = ((ieOctets before).length, .iesInvalid) := by
  rw [h.loop, ieFindLoop, if_pos hbad.1, invalid_of_malformedAt hbad, if_pos (by rfl)]

theorem Passed.loop_end (h : Passed p len id before) (hend : (ieOctets before).length = len) :
    ieFindLoop p len id 0 = (len, .ieNotFound) := by
  rw [h.loop, ieFindLoop, hend, if_neg (Nat.lt_irrefl len)]

theorem ieOctets_append (a b : List Ie) : ieOctets (a ++ b) = ieOctets a ++ ieOctets b :=
  List.flatMap_append

theorem Passed.next (h : Passed p len id before) (hvalid : ieNext p (ieOctets before).length ≤ len)
    (hid : p (ieOctets before).length ≠ id) :
    Passed p len id (before ++ [ieAt p (ieOctets before).length]) := by
  have hsingle : ∀ ie, ieOctets [ie] = ie.octets := fun ie => List.append_nil _
  have hbytes := bytesAt_ieAt p (ieOctets before).length
  constructor
  · rw [ieOctets_append, hsingle]
    intro i hi
    rw [Nat.zero_add]
    by_cases hlt : i < (ieOctets before).length
    · rw [List.getElem_append_left hlt]
      have hi' := h.octets i hlt
      rw [Nat.zero_add] at hi'
      exact hi'
    rw [List.getElem_append_right (by omega)]
    rw [List.length_append] at hi
    have hi' := hbytes (i - (ieOctets before).length) (by omega)
    rw [Nat.add_sub_cancel' (by omega)] at hi'
    exact hi'
  · rw [ieOctets_append, hsingle, List.length_append, length_octets_ieAt]
    exact hvalid
  intro ie hie
  rcases List.mem_append.mp hie with hie | hie
  · exact h.others ie hie
  · rw [List.mem_singleton.mp hie]
    exact hid

theorem ieFindLoop_stop (p : BytePtr) (len : Nat) (id : U8) :
    ∃ before, Passed p len id before
      ∧ ((ieOctets before).length = len ∨ MalformedAt p len (ieOctets before).length
        ∨ ∃ ie, FirstIe p len id before ie) := by
  have hstop : ∀ left before, Passed p len id before → len - (ieOctets before).length ≤ left →
      ∃ before, Passed p len id before
        ∧ ((ieOctets before).length = len ∨ MalformedAt p len (ieOctets before).length
          ∨ ∃ ie, FirstIe p len id before ie) := by
    intro left
    induction left with
    | zero =>
      intro before h hleft
      have hinside := h.inside
      exact ⟨before, h, Or.inl (by omega)⟩
    | succ left ih =>
      intro before h hleft
      have hinside := h.inside
      rcases Nat.lt_or_eq_of_le hinside with hlt | heq
      · cases hvalid : ieValid p (ieOctets before).length len with
        | false => exact ⟨before, h, Or.inr (Or.inl (malformedAt_of_invalid hlt hvalid))⟩
        | true =>
          unfold ieValid at hvalid
          rw [Bool.and_eq_true, decide_eq_true_eq, decide_eq_true_eq] at hvalid
          by_cases hid : p (ieOctets before).length = id
          · refine ⟨before, h, Or.inr (Or.inr ⟨_, h, hid, bytesAt_ieAt p _, ?_⟩)⟩
            rw [length_octets_ieAt]
            exact hvalid.2
          -- The element is passed, and it is not empty.
          have hnext := h.next hvalid.2 hid
          have hlength : (ieOctets (before ++ [ieAt p (ieOctets before).length])).length
              = ieNext p (ieOctets before).length := by
            rw [ieOctets_append, List.length_append]
            show _ + (Ie.octets _ ++ []).length = _
            rw [List.append_nil, length_octets_ieAt]
          apply ih _ hnext
          rw [hlength]
          unfold ieNext ieInfo ieSizeofHeader
          omega
      · exact ⟨before, h, Or.inl heq⟩
  exact hstop len [] ⟨fun i hi => absurd hi (Nat.not_lt_zero i), Nat.zero_le len,
    fun ie hie => absurd hie List.not_mem_nil⟩ (Nat.sub_le len 0)

/-! ## What is reported -/

/-- The search stays inside the list, reports the first element of the id when it has the
expected length, and otherwise why there is none; what stands behind the list is nothing
to it. -/
structure SearchExact (p : BytePtr) (len : Nat) (id : U8) (expectedLength : Nat) : Prop where
  inside : (ieFindAndValidateLengthWith (within p len) len id expectedLength).isSome = true
  found : ∀ before ie, FirstIe p len id before ie →
    (expectedLength = 0 ∨ expectedLength = ie.info.length) →
      ieFindAndValidateLength p len id expectedLength
        = (some (ieOctets before).length, .ieFound)
  wrongLen : (ieFindAndValidateLength p len id expectedLength).2 = .ieWrongLen
    ↔ ∃ before ie, FirstIe p len id before ie ∧ expectedLength ≠ 0
      ∧ expectedLength ≠ ie.info.length
  invalid : ∀ before, Passed p len id before → MalformedAt p len (ieOctets before).length →
    ieFindAndValidateLength p len id expectedLength = (none, .iesInvalid)
  notFound : ∀ before, Passed p len id before → (ieOctets before).length = len →
    ieFindAndValidateLength p len id expectedLength = (none, .ieNotFound)
  independent : ∀ p' : BytePtr, (∀ i < len, p' i = p i) →
    ieFindAndValidateLength p' len id expectedLength
      = ieFindAndValidateLength p len id expectedLength

/-- No length is expected, or there is an element whose length is compared: one of the id, or
a malformed one, which then announces the expected length. -/
def ComparesAnElement (p : BytePtr) (len : Nat) (id : U8) (expectedLength : Nat) : Prop :=
  expectedLength = 0 ∨ (∃ before ie, FirstIe p len id before ie)
    ∨ ∃ before, Passed p len id before ∧ MalformedAt p len (ieOctets before).length
        ∧ (ieOctets before).length + 1 < len ∧ ieLen p (ieOctets before).length = expectedLength

theorem FirstIe.report {ie : Ie} (h : FirstIe p len id before ie) (expectedLength : Nat) :
    ieFindAndValidateLength p len id expectedLength
      = ieReport expectedLength ie.info.length ((ieOctets before).length, .ieFound) := by
  rw [ieFindAndValidateLength_eq, h.loop, (ie_header h.octets).2.1]

theorem FirstIe.header_inside {ie : Ie}
    (h : FirstIe p len id before ie) : (ieOctets before).length + 1 < len := by
  have hinside := h.inside
  rw [Ie.length_octets] at hinside
  unfold ieSizeofHeader at hinside
  omega

variable {expectedLength : Nat}

theorem ComparesAnElement.inside (h : ComparesAnElement p len id expectedLength) :
    expectedLength = 0 ∨ (ieFindLoop p len id 0).1 + 1 < len := by
  rcases h with hzero | ⟨before, ie, hie⟩ | ⟨before, hpassed, hbad, hheader, _⟩
  · exact Or.inl hzero
  · rw [hie.loop]
    exact Or.inr hie.header_inside
  · rw [hpassed.loop_malformed hbad]
    exact Or.inr hheader

theorem ComparesAnElement.report
    (h : ComparesAnElement p len id expectedLength) (hloop : (ieFindLoop p len id 0).2 ≠ .ieFound) :
    ieFindAndValidateLength p len id expectedLength = (none, (ieFindLoop p len id 0).2) := by
  rw [ieFindAndValidateLength_eq]
  rcases h with hzero | ⟨before, ie, hie⟩ | ⟨before, hpassed, hbad, _, hlen⟩
  · rw [hzero, ieReport_zero, if_neg hloop]
  · rw [hie.loop] at hloop
    exact absurd rfl hloop
  · rw [hpassed.loop_malformed hbad, ieReport_of_eq hlen.symm]
    rfl

theorem ComparesAnElement.searchExact
    (h : ComparesAnElement p len id expectedLength) : SearchExact p len id expectedLength := by
  have hwithin := ieFindAndValidateLengthWith_within p len id expectedLength
  rw [if_pos h.inside] at hwithin
  constructor
  · rw [hwithin]
    rfl
  · intro before ie hie hlen
    rw [hie.report]
    rcases hlen with hzero | heq
    · rw [hzero]
      rfl
    · rw [ieReport_of_eq heq]
      rfl
  · constructor
    · intro hwrong
      rcases h with hzero | ⟨before, ie, hie⟩ | ⟨before, hpassed, hbad, hheader, hlen⟩
      · -- Without an expected length the report is the reason why the loop stopped.
        obtain ⟨before, hpassed, hend | hbad | ⟨ie, hie⟩⟩ := ieFindLoop_stop p len id
        · rw [ieFindAndValidateLength_eq, hpassed.loop_end hend, hzero] at hwrong
          cases hwrong
        · rw [ieFindAndValidateLength_eq, hpassed.loop_malformed hbad, hzero] at hwrong
          cases hwrong
        · rw [hie.report, hzero] at hwrong
          cases hwrong
      · rw [hie.report] at hwrong
        refine ⟨before, ie, hie, ?_, ?_⟩
        · intro hzero
          rw [hzero] at hwrong
          cases hwrong
        · intro heq
          rw [ieReport_of_eq heq] at hwrong
          cases hwrong
      · rw [ieFindAndValidateLength_eq, hpassed.loop_malformed hbad,
          ieReport_of_eq hlen.symm] at hwrong
        cases hwrong
    · rintro ⟨before, ie, hie, h0, hne⟩
      rw [hie.report, ieReport_of_ne h0 hne]
  · intro before hpassed hbad
    have hloop := hpassed.loop_malformed hbad
    rw [h.report (by rw [hloop]; simp), hloop]
  · intro before hpassed hend
    have hloop := hpassed.loop_end hend
    rw [h.report (by rw [hloop]; simp), hloop]
  intro p' hsame
  -- Both searches are the one that may read octets of the list only.
  have hread : within p' len = within p len := by
    funext i
    unfold within
    split
    · next hi => rw [hsame i hi]
    · rfl
  have hwithin' := ieFindAndValidateLengthWith_within p' len id expectedLength
  rw [hread, hwithin] at hwithin'
  split at hwithin'
  · exact (Option.some.inj hwithin').symm
  · cases hwithin'

/-- The search reports what is in the list exactly when no length is expected or there is an
element whose length it compares. -/
theorem ie_search_exact_iff (p : BytePtr) (len : Nat) (id : U8) (expectedLength : Nat) :
    SearchExact p len id expectedLength ↔ ComparesAnElement p len id expectedLength := by
  refine ⟨fun h => ?_, ComparesAnElement.searchExact⟩
  by_cases hzero : expectedLength = 0
  · exact Or.inl hzero
  have hinside : (ieFindLoop p len id 0).1 + 1 < len := by
    have hsome := h.inside
    rw [ieFindAndValidateLengthWith_within] at hsome
    by_contra hout
    rw [if_neg (not_or.mpr ⟨hzero, hout⟩)] at hsome
    cases hsome
  obtain ⟨before, hpassed, hend | hbad | ⟨ie, hie⟩⟩ := ieFindLoop_stop p len id
  · -- At the end of the list the length octet is behind it.
    rw [hpassed.loop_end hend] at hinside
    omega
  · rw [hpassed.loop_malformed hbad] at hinside
    refine Or.inr (Or.inr ⟨before, hpassed, hbad, hinside, ?_⟩)
    by_contra hne
    -- A malformed element of another length is reported as one of the wrong length.
    have hreport := h.invalid before hpassed hbad
    rw [ieFindAndValidateLength_eq, hpassed.loop_malformed hbad,
      ieReport_of_ne hzero fun heq => hne heq.symm] at hreport
    cases hreport
  · exact Or.inr (Or.inl ⟨before, ie, hie⟩)

/-- In a list with one empty element, an element of 15 octets that is not there has the wrong
length, read from behind the list. -/
theorem ie_search_reads_behind :
    ¬ SearchExact (fun _ => 0) 2 0xd9 15
      ∧ ieFindAndValidateLength (fun _ => 0) 2 0xd9 15 = (none, .ieWrongLen) := by
  have hloop : ieFindLoop (fun _ => 0) 2 0xd9 0 = (2, .ieNotFound) := by
    rw [ieFindLoop, ieFindLoop]
    rfl
  constructor
  · intro h
    have hsome := h.inside
    rw [ieFindAndValidateLengthWith_within, hloop] at hsome
    simp at hsome
  · rw [ieFindAndValidateLength_eq, hloop]
    rfl

end MmIotEsp32.Umac.Ies
