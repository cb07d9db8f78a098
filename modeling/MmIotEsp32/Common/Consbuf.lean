/-
  MmIotEsp32.Common.Consbuf

  Construction buffers (`common/consbuf.h`) and builders over them.

  A frame is built in two passes by the same code: the first one, without a buffer,
  only adds the lengths up, the second one writes.
-/
import MmIotEsp32.Common.Mmpkt

namespace MmIotEsp32

structure Consbuf where
  /-- the contents of the buffer; `none` is NULL -/
  buf : Option BytePtr
  bufSize : Nat
  offset : Nat

def consbufInitWithoutBuf : Consbuf := ⟨none, 0, 0⟩

/-- `consbuf_reserve`: where the reserved bytes start, unless it is NULL. The outer
`none` is its assertion. -/
def consbufReserve (c : Consbuf) (len : Nat) : Option (Consbuf × Option Nat) :=
  match c.buf with
  | none => some ({ c with offset := c.offset + len }, none)
  | some _ =>
    if len ≤ c.bufSize - c.offset then some ({ c with offset := c.offset + len }, some c.offset)
    else none

/-- The bytes `l` written to the place `start` points at. -/
def Consbuf.write (c : Consbuf) (start : Nat) (l : List U8) : Consbuf :=
  { c with buf := c.buf.map fun p i =>
      if h : start ≤ i ∧ i < start + l.length then l[i - start] else p i }

/-! ## Words in little-endian order -/

/-- A 32-bit little-endian field. -/
def BytePtr.le32 (p : BytePtr) (offset : Nat) : U32 :=
  p (offset + 3) ++ p (offset + 2) ++ p (offset + 1) ++ p offset

def le16Octets (x : U16) : List U8 := [x.extractLsb' 0 8, x.extractLsb' 8 8]

def le32Octets (x : U32) : List U8 :=
  [x.extractLsb' 0 8, x.extractLsb' 8 8, x.extractLsb' 16 8, x.extractLsb' 24 8]

@[simp] theorem length_le32Octets (x : U32) : (le32Octets x).length = 4 := rfl

/-- The octets `l` stand at the pointer from `offset` on. -/
def BytePtr.Holds (p : BytePtr) (offset : Nat) (l : List U8) : Prop :=
  ∀ i, (h : i < l.length) → p (offset + i) = l[i]

variable {l m : List U8} {offset : Nat} {p : BytePtr}

theorem BytePtr.Holds.left (h : p.Holds offset (l ++ m)) : p.Holds offset l := by
  intro i hi
  rw [h i (by rw [List.length_append]; omega), List.getElem_append_left hi]

theorem BytePtr.Holds.right (h : p.Holds offset (l ++ m)) : p.Holds (offset + l.length) m := by
  intro i hi
  have hlt : l.length + i < (l ++ m).length := by rw [List.length_append]; omega
  rw [Nat.add_assoc, h (l.length + i) hlt, List.getElem_append_right (Nat.le_add_right _ _)]
  simp

theorem BytePtr.Holds.le32 {x : U32} (h : p.Holds offset (le32Octets x)) : p.le32 offset = x := by
  have h0 : p offset = x.extractLsb' 0 8 := h 0 (by simp)
  have h1 : p (offset + 1) = x.extractLsb' 8 8 := h 1 (by simp)
  have h2 : p (offset + 2) = x.extractLsb' 16 8 := h 2 (by simp)
  have h3 : p (offset + 3) = x.extractLsb' 24 8 := h 3 (by simp)
  rw [BytePtr.le32, h0, h1, h2, h3,
    BitVec.extractLsb'_append_extractLsb'_eq_extractLsb' (show 24 = 16 + 8 from rfl),
    BitVec.extractLsb'_append_extractLsb'_eq_extractLsb' (show 16 = 8 + 8 from rfl)]
  exact @BitVec.extractLsb'_append_extractLsb' 24 8 x

theorem length_flatMap_le32Octets {α : Type} (f : α → U32) (l : List α) :
    (l.flatMap fun a => le32Octets (f a)).length = 4 * l.length := by
  induction l with
  | nil => rfl
  | cons a l ih =>
    rw [List.flatMap_cons, List.length_append, ih, length_le32Octets, List.length_cons]
    omega

theorem BytePtr.Holds.le32_flatMap {α : Type} {f : α → U32}
    {l : List α} (h : p.Holds offset (l.flatMap fun a => le32Octets (f a))) {k : Nat}
    (hk : k < l.length) : p.le32 (offset + 4 * k) = f l[k] := by
  induction l generalizing offset k with
  | nil => exact absurd hk (Nat.not_lt_zero k)
  | cons a l ih =>
    rw [List.flatMap_cons] at h
    cases k with
    | zero => exact h.left.le32
    | succ k =>
      have hoffset : offset + 4 * (k + 1) = offset + (le32Octets (f a)).length + 4 * k := by
        rw [length_le32Octets]
        omega
      rw [hoffset, ih h.right (Nat.lt_of_succ_lt_succ hk), List.getElem_cons_succ]

/-- The pointer after the octets `l` were written from `start` on. -/
def BytePtr.patched (p : BytePtr) (start : Nat) (l : List U8) : BytePtr := fun i =>
  if h : start ≤ i ∧ i < start + l.length then l[i - start] else p i

theorem BytePtr.holds_patched (p : BytePtr) (start : Nat) (l : List U8) :
    (p.patched start l).Holds start l := by
  intro i hi
  rw [BytePtr.patched, dif_pos ⟨Nat.le_add_right _ _, Nat.add_lt_add_left hi _⟩]
  simp

theorem BytePtr.patched_behind (p : BytePtr) (start : Nat) (l m : List U8) :
    (p.patched start l).patched (start + l.length) m = p.patched start (l ++ m) := by
  funext i
  simp only [BytePtr.patched, List.length_append]
  by_cases hm : start + l.length ≤ i ∧ i < start + l.length + m.length
  · rw [dif_pos hm, dif_pos (by omega), List.getElem_append_right (by omega)]
    congr 1
    omega
  rw [dif_neg hm]
  by_cases hl : start ≤ i ∧ i < start + l.length
  · rw [dif_pos hl, dif_pos (by omega), List.getElem_append_left]
  · rw [dif_neg hl, dif_neg (by omega)]

theorem BytePtr.patched_before (p : BytePtr) (start : Nat) (l m : List U8) :
    (p.patched (start + l.length) m).patched start l = p.patched start (l ++ m) := by
  rw [← BytePtr.patched_behind]
  funext i
  simp only [BytePtr.patched]
  by_cases hl : start ≤ i ∧ i < start + l.length
  · rw [dif_pos hl, dif_neg (by omega), dif_pos hl]
  rw [dif_neg hl]
  by_cases hm : start + l.length ≤ i ∧ i < start + l.length + m.length
  · rw [dif_pos hm, dif_pos hm]
  · rw [dif_neg hm, dif_neg hm, dif_neg hl]

/-! ## Octets behind the offset -/

def consbufReinit (buf : BytePtr) (bufSize : Nat) : Consbuf := ⟨some buf, bufSize, 0⟩

/-- A place of as many octets as `l` has is reserved, and filled with `l` if there is a buffer.
`consbuf_append` does no more than this. -/
def consbufAppend (c : Consbuf) (l : List U8) : Option Consbuf := do
  let (c, start) ← consbufReserve c l.length
  match start with
  | none => some c
  | some start => some (c.write start l)

/-- `n` more octets can be taken: there is no buffer, or it has room for them. -/
def Consbuf.HasRoom (c : Consbuf) (n : Nat) : Prop := c.buf = none ∨ c.offset + n ≤ c.bufSize

/-- The buffer with the octets `l` appended. -/
def Consbuf.appended (c : Consbuf) (l : List U8) : Consbuf :=
  { c with offset := c.offset + l.length }.write c.offset l

/-- What was reserved is written before the offset. -/
def Consbuf.reserved (c : Consbuf) (n : Nat) : Consbuf := { c with offset := c.offset + n }

@[simp] theorem Consbuf.offset_appended (c : Consbuf) (l : List U8) :
    (c.appended l).offset = c.offset + l.length := rfl

@[simp] theorem Consbuf.bufSize_appended (c : Consbuf) (l : List U8) :
    (c.appended l).bufSize = c.bufSize := rfl

theorem Consbuf.buf_appended (c : Consbuf) (l : List U8) :
    (c.appended l).buf = c.buf.map fun p => p.patched c.offset l := rfl

theorem Consbuf.appended_nil (c : Consbuf) : c.appended [] = c := by
  obtain ⟨buf, bufSize, offset⟩ := c
  cases buf with
  | none => rfl
  | some p =>
    have hp : p.patched offset [] = p := by
      funext i
      rw [BytePtr.patched, dif_neg (fun h => Nat.not_lt.mpr h.1 h.2)]
    show Consbuf.mk (some (p.patched offset [])) bufSize offset = _
    rw [hp]

theorem Consbuf.write_appended (c : Consbuf) (l m : List U8) :
    ((c.reserved l.length).appended m).write c.offset l = c.appended (l ++ m) := by
  obtain ⟨buf, bufSize, offset⟩ := c
  have hlen : offset + l.length + m.length = offset + (l ++ m).length := by
    rw [List.length_append, Nat.add_assoc]
  cases buf with
  | none => simp only [Consbuf.appended, Consbuf.write, Consbuf.reserved, Option.map_none, hlen]
  | some p =>
    show Consbuf.mk (some ((p.patched (offset + l.length) m).patched offset l)) bufSize
        (offset + l.length + m.length)
      = Consbuf.mk (some (p.patched offset (l ++ m))) bufSize (offset + (l ++ m).length)
    rw [BytePtr.patched_before, hlen]

theorem Consbuf.appended_append (c : Consbuf) (l m : List U8) :
    (c.appended l).appended m = c.appended (l ++ m) := by
  obtain ⟨buf, bufSize, offset⟩ := c
  have hlen : offset + l.length + m.length = offset + (l ++ m).length := by
    rw [List.length_append, Nat.add_assoc]
  cases buf with
  | none => simp only [Consbuf.appended, Consbuf.write, Option.map_none, hlen]
  | some p =>
    show Consbuf.mk (some ((p.patched offset l).patched (offset + l.length) m)) bufSize
        (offset + l.length + m.length)
      = Consbuf.mk (some (p.patched offset (l ++ m))) bufSize (offset + (l ++ m).length)
    rw [BytePtr.patched_behind, hlen]

/-! ## Builders -/

/-- A place for a header of `n` octets is reserved and `body` builds behind it.  The header,
which counts the octets from its start on, is written last. -/
def consbufWithHeader (n : Nat) (hdr : Nat → List U8) (body : Consbuf → Option Consbuf)
    (c : Consbuf) : Option Consbuf := do
  let offsetAtStart := c.offset
  let (c, start) ← consbufReserve c n
  let c ← body c
  match start with
  | none => some c
  | some start => some (c.write start (hdr (c.offset - offsetAtStart)))

/-- The builder appends the octets `l`, in both passes. -/
def Appends (build : Consbuf → Option Consbuf) (l : List U8) : Prop :=
  ∀ c, c.HasRoom l.length → build c = some (c.appended l)

theorem Consbuf.HasRoom.left {c : Consbuf} (h : c.HasRoom (l ++ m).length) :
    c.HasRoom l.length := by
  rw [List.length_append] at h
  exact h.imp id (fun h => by omega)

theorem Consbuf.HasRoom.right {c : Consbuf} (h : c.HasRoom (l ++ m).length) :
    (c.appended l).HasRoom m.length := by
  rw [List.length_append] at h
  refine h.imp (fun h => ?_) (fun h => ?_)
  · rw [Consbuf.buf_appended, h, Option.map_none]
  · rw [Consbuf.offset_appended, Consbuf.bufSize_appended]
    omega

theorem consbufReserve_of_hasRoom {c : Consbuf} {n : Nat} (h : c.HasRoom n) :
    consbufReserve c n = some (c.reserved n, c.buf.map fun _ => c.offset) := by
  obtain ⟨buf, bufSize, offset⟩ := c
  cases buf with
  | none => rfl
  | some p =>
    have hle : offset + n ≤ bufSize := h.resolve_left (by simp)
    show (if n ≤ bufSize - offset then some _ else none) = _
    rw [if_pos (by omega)]
    rfl

theorem Consbuf.write_map_offset (c c' : Consbuf) (l : List U8) (h : c'.buf = none ↔ c.buf = none) :
    (match c.buf.map fun _ => c.offset with
      | none => some c'
      | some start => some (c'.write start l)) = some (c'.write c.offset l) := by
  cases hbuf : c.buf with
  | none =>
    have hnone := h.mpr hbuf
    obtain ⟨buf', bufSize', offset'⟩ := c'
    subst hnone
    rfl
  | some p => rfl

theorem appends_some : Appends some [] := by
  intro c _
  rw [Consbuf.appended_nil]

theorem appends_consbufAppend (l : List U8) : Appends (consbufAppend · l) l := by
  intro c hroom
  show (consbufReserve c l.length).bind _ = _
  rw [consbufReserve_of_hasRoom hroom]
  exact Consbuf.write_map_offset c (c.reserved l.length) l Iff.rfl

theorem Appends.bind {f g : Consbuf → Option Consbuf} (hf : Appends f l)
    (hg : Appends g m) : Appends (fun c => (f c).bind g) (l ++ m) := by
  intro c hroom
  show (f c).bind g = _
  rw [hf c hroom.left, Option.bind_some, hg _ hroom.right, Consbuf.appended_append]

theorem Appends.withHeader {n : Nat} {hdr : Nat → List U8} {body : Consbuf → Option Consbuf}
    {l : List U8} (hbody : Appends body l) (hlen : ∀ k, (hdr k).length = n) :
    Appends (consbufWithHeader n hdr body) (hdr (n + l.length) ++ l) := by
  intro c hroom
  have hn : (hdr (n + l.length)).length = n := hlen _
  have hfirst : c.HasRoom n := by
    have hleft := hroom.left
    rwa [hn] at hleft
  have hrest : (c.reserved n).HasRoom l.length := by
    have hright := hroom.right
    refine hright.imp (fun h => ?_) (fun h => ?_)
    · rw [Consbuf.buf_appended, Option.map_eq_none_iff] at h
      exact h
    · rwa [Consbuf.offset_appended, Consbuf.bufSize_appended, hn] at h
  have hoffset : ((c.reserved n).appended l).offset - c.offset = n + l.length := by
    show c.offset + n + l.length - c.offset = n + l.length
    omega
  have hnull : ((c.reserved n).appended l).buf = none ↔ c.buf = none := by
    rw [Consbuf.buf_appended, Option.map_eq_none_iff]
    rfl
  show (consbufReserve c n).bind _ = _
  rw [consbufReserve_of_hasRoom hfirst, Option.bind_some]
  show (body (c.reserved n)).bind _ = _
  rw [hbody _ hrest, Option.bind_some, hoffset, Consbuf.write_map_offset c _ _ hnull]
  have hwrite := Consbuf.write_appended c (hdr (n + l.length)) l
  rw [hn] at hwrite
  rw [hwrite]

end MmIotEsp32
