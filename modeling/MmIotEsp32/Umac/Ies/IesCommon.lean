/-
  MmIotEsp32.Umac.Ies.IesCommon

  Lists of information elements (`umac/ies/ies_common.c`, `ies_common.h`).

  An element is an octet with its id, an octet with the length of what follows, and
  that many octets.  A pointer into the list is an offset from its start.
-/
import MmIotEsp32.Common.Mmpkt

namespace MmIotEsp32.Umac.Ies

/-! ## Finding an element -/

inductive IeResult where
  | ieFound
  | ieNotFound
  | iesInvalid
  | ieWrongLen
  deriving Repr, DecidableEq

def ieSizeofHeader : Nat := 2

def ieId (ies : BytePtr) (curr : Nat) : U8 := ies curr

def ieLen (ies : BytePtr) (curr : Nat) : Nat := (ies (curr + 1)).toNat

def ieInfo (curr : Nat) : Nat := curr + ieSizeofHeader

def ieNext (ies : BytePtr) (curr : Nat) : Nat := ieInfo curr + ieLen ies curr

def ieValid (ies : BytePtr) (curr iesEnd : Nat) : Bool :=
  decide (ieInfo curr ≤ iesEnd) && decide (ieNext ies curr ≤ iesEnd)

/-- The loop of `ie_find_and_validate_length`: where it stops, and why. -/
def ieFindLoop (ies : BytePtr) (iesEnd : Nat) (id : U8) (curr : Nat) : Nat × IeResult :=
  if curr < iesEnd then
    if !ieValid ies curr iesEnd then (curr, .iesInvalid)
    else if ieId ies curr == id then (curr, .ieFound)
    else ieFindLoop ies iesEnd id (ieNext ies curr)
  else (curr, .ieNotFound)
termination_by iesEnd - curr
decreasing_by
  unfold ieNext ieInfo ieSizeofHeader
  omega

def ieFindAndValidateLength (ies : BytePtr) (iesLen : Nat) (id : U8) (expectedLength : Nat) :
    Option Nat × IeResult :=
  let (curr, res) := ieFindLoop ies iesLen id 0
  let res := if expectedLength != 0 && expectedLength != ieLen ies curr then .ieWrongLen else res
  (if res = .ieFound then some curr else none, res)

def ieFind (ies : BytePtr) (iesLen : Nat) (id : U8) : Option Nat × IeResult :=
  ieFindAndValidateLength ies iesLen id 0

/-! ## Lists of elements -/

/-- An element. -/
structure Ie where
  id : U8
  info : List U8
  length_le : info.length ≤ 0xff

/-- The octets of an element. -/
def Ie.octets (ie : Ie) : List U8 := ie.id :: BitVec.ofNat 8 ie.info.length :: ie.info

/-- The octets of a list of elements. -/
def ieOctets (ies : List Ie) : List U8 := ies.flatMap Ie.octets

theorem Ie.length_octets (ie : Ie) : ie.octets.length = ieSizeofHeader + ie.info.length := by
  show ie.info.length + 1 + 1 = 2 + ie.info.length
  omega

/-- The octets `l` stand at the offset. -/
def BytesAt (p : BytePtr) (offset : Nat) (l : List U8) : Prop := ∀ i (h : i < l.length),
  p (offset + i) = l[i]

variable {p : BytePtr}

theorem BytesAt.append {offset : Nat} {l l' : List U8}
    (h : BytesAt p offset (l ++ l')) : BytesAt p offset l ∧ BytesAt p (offset + l.length) l' := by
  constructor
  · intro i hi
    rw [h i (by rw [List.length_append]; omega), List.getElem_append_left hi]
  intro i hi
  rw [Nat.add_assoc, h (l.length + i) (by rw [List.length_append]; omega),
    List.getElem_append_right (by omega)]
  congr 1
  omega

theorem BytesAt.cons {offset : Nat} {x : U8} {l : List U8}
    (h : BytesAt p offset (x :: l)) : p offset = x ∧ BytesAt p (offset + 1) l := by
  constructor
  · exact h 0 (Nat.zero_lt_succ _)
  · intro i hi
    rw [Nat.add_assoc, Nat.add_comm 1, h (i + 1) (Nat.succ_lt_succ hi)]
    rfl

theorem ie_header {curr : Nat} {ie : Ie} (h : BytesAt p curr ie.octets) :
    ieId p curr = ie.id ∧ ieLen p curr = ie.info.length
      ∧ ieNext p curr = curr + ie.octets.length := by
  have hid : p (curr + 0) = ie.id := h 0 (by rw [ie.length_octets, ieSizeofHeader]; omega)
  have hlen : p (curr + 1) = BitVec.ofNat 8 ie.info.length :=
    h 1 (by rw [ie.length_octets, ieSizeofHeader]; omega)
  have hle := ie.length_le
  have hieLen : ieLen p curr = ie.info.length := by
    unfold ieLen
    rw [hlen, BitVec.toNat_ofNat, Nat.mod_eq_of_lt (by omega)]
  refine ⟨hid, hieLen, ?_⟩
  unfold ieNext ieInfo
  rw [hieLen, ie.length_octets]
  omega

theorem ieFindLoop_skip {iesEnd : Nat} {id : U8} {ies : List Ie} {curr : Nat}
    (hbytes : BytesAt p curr (ieOctets ies)) (hend : curr + (ieOctets ies).length ≤ iesEnd)
    (hother : ∀ ie ∈ ies, ie.id ≠ id) :
    ieFindLoop p iesEnd id curr = ieFindLoop p iesEnd id (curr + (ieOctets ies).length) := by
  induction ies generalizing curr with
  | nil => rfl
  | cons ie ies ih =>
    have hsplit : ieOctets (ie :: ies) = ie.octets ++ ieOctets ies := rfl
    rw [hsplit] at hbytes hend ⊢
    rw [List.length_append] at hend ⊢
    obtain ⟨hie, hies⟩ := hbytes.append
    obtain ⟨hid, _, hnext⟩ := ie_header hie
    have hlen := ie.length_octets
    have hpos : ieSizeofHeader = 2 := rfl
    rw [ieFindLoop, if_pos (by omega)]
    have hvalid : ieValid p curr iesEnd = true := by
      unfold ieValid ieInfo
      rw [hnext, Bool.and_eq_true]
      exact ⟨decide_eq_true (by omega), decide_eq_true (by omega)⟩
    rw [hvalid, hid, if_neg (by simp),
      if_neg (by simpa using hother ie (List.mem_cons_self ..)), hnext,
      ih hies (by omega) fun ie' hie' => hother ie' (List.mem_cons_of_mem _ hie'), Nat.add_assoc]

theorem ieFind_of_first {iesLen : Nat} {before : List Ie} {ie : Ie}
    (hbytes : BytesAt p 0 (ieOctets before ++ ie.octets))
    (hlen : (ieOctets before ++ ie.octets).length ≤ iesLen) (hother : ∀ e ∈ before, e.id ≠ ie.id) :
    ieFind p iesLen ie.id = (some (ieOctets before).length, .ieFound) := by
  obtain ⟨hbefore, hie⟩ := hbytes.append
  rw [Nat.zero_add] at hie
  rw [List.length_append] at hlen
  obtain ⟨hid, _, hnext⟩ := ie_header hie
  have hielen := ie.length_octets
  have hpos : ieSizeofHeader = 2 := rfl
  have hloop : ieFindLoop p iesLen ie.id 0 = ((ieOctets before).length, .ieFound) := by
    rw [ieFindLoop_skip hbefore (by omega) hother, Nat.zero_add, ieFindLoop, if_pos (by omega)]
    have hvalid : ieValid p (ieOctets before).length iesLen = true := by
      unfold ieValid ieInfo
      rw [hnext, Bool.and_eq_true]
      exact ⟨decide_eq_true (by omega), decide_eq_true (by omega)⟩
    rw [hvalid, hid, if_neg (by simp), if_pos (beq_self_eq_true ie.id)]
  unfold ieFind ieFindAndValidateLength
  rw [hloop]
  rfl

end MmIotEsp32.Umac.Ies
