/-
  MmIotEsp32.Common.Mmpkt

  Packet buffers (`mmpkt.h`) and lists of packets (`common/mmpkt_list.c`).
-/
import Mathlib.Data.List.Basic
import Mathlib.Data.List.Perm.Basic
import MmIotEsp32.Common.Mmosal

namespace MmIotEsp32

/-! ## Bytes behind a pointer -/

/-- A `const uint8_t *`: the byte at each offset from it. -/
abbrev BytePtr := Nat → U8

namespace BytePtr

/-- A 16-bit little-endian field. -/
def le16 (p : BytePtr) (offset : Nat) : U16 := p (offset + 1) ++ p offset

/-- The pointer moved forward. -/
def add (p : BytePtr) (offset : Nat) : BytePtr := fun i => p (offset + i)

/-- The `len` bytes from the pointer on. -/
def take (p : BytePtr) (len : Nat) : List U8 := (List.range len).map p

theorem length_take (p : BytePtr) (len : Nat) : (p.take len).length = len := by
  rw [take, List.length_map, List.length_range]

end BytePtr

/-! ## The packet -/

/-- The fields of `struct mmdrv_rx_metadata` that the receive path reads. -/
structure MmdrvRxMetadata where
  decrypted : Bool
  readTimestampMs : U32
  deriving DecidableEq

structure Mmpkt where
  startOffset : Nat
  data : List U8
  /-- the memory from the end of the data on -/
  behind : BytePtr
  /-- how much of `behind` still belongs to the buffer -/
  tailroom : Nat
  rx : MmdrvRxMetadata

/-- `mmpkt_get_data_start`. -/
def Mmpkt.dataStart (pkt : Mmpkt) : BytePtr :=
  fun i => if h : i < pkt.data.length then pkt.data[i] else pkt.behind (i - pkt.data.length)

def mmpktGetDataLength (pkt : Mmpkt) : Nat := pkt.data.length

def mmpktAvailableSpaceAtStart (pkt : Mmpkt) : Nat := pkt.startOffset

def mmpktAvailableSpaceAtEnd (pkt : Mmpkt) : Nat := pkt.tailroom

/-- `mmpkt_remove_from_start`; `none` is NULL. -/
def mmpktRemoveFromStart (pkt : Mmpkt) (len : Nat) : Option Mmpkt :=
  if mmpktGetDataLength pkt < len then none
  else some { pkt with startOffset := pkt.startOffset + len, data := pkt.data.drop len }

/-- `mmpkt_remove_from_end`; `none` is NULL. -/
def mmpktRemoveFromEnd (pkt : Mmpkt) (len : Nat) : Option Mmpkt :=
  if mmpktGetDataLength pkt < len then none
  else some { pkt with
    data := pkt.data.take (pkt.data.length - len)
    behind := pkt.dataStart.add (pkt.data.length - len)
    tailroom := pkt.tailroom + len }

/-- `mmpkt_prepend_data`; `none` is the assertion of `mmpkt_prepend`. -/
def mmpktPrependData (pkt : Mmpkt) (bytes : List U8) : Option Mmpkt :=
  if bytes.length ≤ mmpktAvailableSpaceAtStart pkt then
    some { pkt with startOffset := pkt.startOffset - bytes.length, data := bytes ++ pkt.data }
  else none

/-- `mmpkt_append_data`; `none` is the assertion of `mmpkt_append`. -/
def mmpktAppendData (pkt : Mmpkt) (bytes : List U8) : Option Mmpkt :=
  if bytes.length ≤ mmpktAvailableSpaceAtEnd pkt then
    some { pkt with
      data := pkt.data ++ bytes
      behind := pkt.behind.add bytes.length
      tailroom := pkt.tailroom - bytes.length }
  else none

/-- `mmpkt_adjust_start_offset` forwards; `none` is one of its two assertions. -/
def mmpktAdjustStartOffset (pkt : Mmpkt) (delta : Nat) : Option Mmpkt :=
  if pkt.data = [] ∧ delta ≤ pkt.tailroom then
    some { pkt with
      startOffset := pkt.startOffset + delta
      behind := pkt.behind.add delta
      tailroom := pkt.tailroom - delta }
  else none

/-! ## What the operations do -/

theorem mmpktRemoveFromStart_eq_some {pkt pkt' : Mmpkt} {len : Nat} :
    mmpktRemoveFromStart pkt len = some pkt' ↔
      len ≤ pkt.data.length
        ∧ pkt' = { pkt with startOffset := pkt.startOffset + len, data := pkt.data.drop len } := by
  unfold mmpktRemoveFromStart mmpktGetDataLength
  split
  · rename_i hshort
    exact ⟨fun h => absurd h (by simp), fun h => absurd h.1 (by omega)⟩
  · rename_i hlong
    rw [Option.some_inj]
    exact ⟨fun h => ⟨by omega, h.symm⟩, fun h => h.2.symm⟩

theorem mmpktRemoveFromStart_eq_none {pkt : Mmpkt} {len : Nat} :
    mmpktRemoveFromStart pkt len = none ↔ pkt.data.length < len := by
  unfold mmpktRemoveFromStart mmpktGetDataLength
  split
  · rename_i hshort
    exact ⟨fun _ => hshort, fun _ => rfl⟩
  · rename_i hlong
    exact ⟨fun h => absurd h (by simp), fun h => absurd h hlong⟩

theorem dataStart_drop (pkt : Mmpkt) {len : Nat} (hlen : len ≤ pkt.data.length) (i startOffset : Nat) :
    Mmpkt.dataStart { pkt with startOffset := startOffset, data := pkt.data.drop len } i
      = pkt.dataStart (len + i) := by
  unfold Mmpkt.dataStart
  by_cases hi : len + i < pkt.data.length
  · have hi' : i < (pkt.data.drop len).length := by
      rw [List.length_drop]
      omega
    rw [dif_pos hi, dif_pos hi', List.getElem_drop]
  have hi' : ¬ i < (pkt.data.drop len).length := by
    rw [List.length_drop]
    omega
  rw [dif_neg hi, dif_neg hi']
  show pkt.behind (i - (pkt.data.drop len).length) = pkt.behind (len + i - pkt.data.length)
  have hindex : i - (pkt.data.drop len).length = len + i - pkt.data.length := by
    rw [List.length_drop]
    omega
  rw [hindex]

variable {α : Type*}

def mmpktListPrepend (list : List α) (mmpkt : α) : List α := mmpkt :: list

def mmpktListAppend (list : List α) (mmpkt : α) : List α := list ++ [mmpkt]

def mmpktListAppendList (list other : List α) : List α := list ++ other

/-- `mmpkt_list_remove` of the packet with the address `a`; `none` is its assertion. -/
def mmpktListRemove (addr : α → Nat) (list : List α) (a : Nat) : Option (List α) :=
  if list.isEmpty then some list
  else if list.any fun p => addr p == a then some (list.eraseP fun p => addr p == a)
  else none

theorem mmpktListRemove_of_mem {addr : α → Nat} {list : List α} {p : α} (hp : p ∈ list)
    (hnodup : (list.map addr).Nodup) :
    ∃ before behind, list = before ++ p :: behind
      ∧ mmpktListRemove addr list (addr p) = some (before ++ behind) := by
  obtain ⟨before, behind, rfl⟩ := List.append_of_mem hp
  refine ⟨before, behind, rfl, ?_⟩
  have hother : ∀ q ∈ before, ¬ (addr q == addr p) = true := by
    intro q hq heq
    rw [List.map_append, List.map_cons, List.nodup_append] at hnodup
    exact hnodup.2.2 (addr q) (List.mem_map_of_mem hq) (addr p) (List.mem_cons_self ..)
      (beq_iff_eq.mp heq)
  have hany : ((before ++ p :: behind).any fun q => addr q == addr p) = true :=
    List.any_eq_true.mpr ⟨p, hp, beq_self_eq_true _⟩
  unfold mmpktListRemove
  rw [if_neg (by simp), if_pos hany, List.eraseP_append_right _ hother,
    List.eraseP_cons_of_pos (p := fun q => addr q == addr p) (beq_self_eq_true _)]

theorem mmpktListRemove_of_notMem {addr : α → Nat} {list : List α} {a : Nat}
    (hne : list ≠ []) (ha : ∀ q ∈ list, addr q ≠ a) : mmpktListRemove addr list a = none := by
  unfold mmpktListRemove
  rw [if_neg (by simpa using hne), if_neg]
  rw [List.any_eq_true]
  intro ⟨q, hq, heq⟩
  exact ha q hq (beq_iff_eq.mp heq)

end MmIotEsp32
