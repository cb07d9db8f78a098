/-
  MmIotEsp32.Lib.RingBuffer

  A first-in first-out queue in a ring of slots.

  The write and the read position chase each other around the ring; they are equal when
  the queue is empty, so that one slot always stays free.  `contents` is what the queue
  holds, the oldest element first, and every operation is described by what it does to
  `contents`.
-/
import Mathlib.Data.List.Basic
import Mathlib.Data.List.Range
import Mathlib.Logic.Function.Basic

namespace MmIotEsp32.Lib

open Function

/-- A ring of `slots` slots. -/
structure RingBuffer (α : Type*) (slots : Nat) where
  wr : Nat
  rd : Nat
  cell : Nat → α
  wr_lt : wr < slots
  rd_lt : rd < slots

namespace RingBuffer

variable {α : Type*} {slots : Nat}

/-! ## Positions -/

/-- The position behind `i`. -/
def next (slots i : Nat) : Nat := if slots ≤ i + 1 then 0 else i + 1

theorem next_lt {i : Nat} (hi : i < slots) : next slots i < slots := by
  unfold next
  split <;> omega

/-- The position `k` slots behind `i`. -/
def position (slots i k : Nat) : Nat := if i + k < slots then i + k else i + k - slots

@[simp] theorem position_zero {i : Nat} (hi : i < slots) : position slots i 0 = i := by
  unfold position
  rw [if_pos (by omega)]
  rfl

theorem position_next {i k : Nat} (hi : i < slots) (hk : k + 1 < slots) :
    position slots (next slots i) k = position slots i (k + 1) := by
  unfold position next
  split_ifs <;> omega

/-- The number of slots from the position `i` to the position `j`. -/
def distance (slots i j : Nat) : Nat := if i ≤ j then j - i else slots + j - i

variable {i j : Nat}

theorem distance_lt (hi : i < slots) (hj : j < slots) : distance slots i j < slots := by
  unfold distance
  split <;> omega

theorem distance_eq_zero (hi : i < slots) : distance slots i j = 0 ↔ i = j := by
  unfold distance
  split <;> omega

theorem position_distance (hi : i < slots) (hj : j < slots) :
    position slots i (distance slots i j) = j := by
  unfold position distance
  split_ifs <;> omega

theorem distance_next_left (hi : i < slots) (hj : j < slots) (hne : i ≠ j) :
    distance slots (next slots i) j + 1 = distance slots i j := by
  unfold distance next
  split_ifs <;> omega

theorem distance_next_right (hi : i < slots) (hj : j < slots)
    (hne : next slots j ≠ i) : distance slots i (next slots j) = distance slots i j + 1 := by
  unfold distance next at *
  split_ifs at * <;> omega

theorem next_eq_iff (hi : i < slots) (hj : j < slots) :
    next slots j = i ↔ distance slots i j + 1 = slots := by
  unfold distance next
  split_ifs <;> omega

theorem position_ne {i j k : Nat} (hi : i < slots) (hk : k < distance slots i j) :
    position slots i k ≠ j := by
  unfold position
  unfold distance at hk
  split_ifs at * <;> omega

/-! ## The queue -/

/-- The queue of no elements. -/
def empty (slots : Nat) (h : 0 < slots) (blank : α) : RingBuffer α slots :=
  ⟨0, 0, fun _ => blank, h, h⟩

def len (b : RingBuffer α slots) : Nat := distance slots b.rd b.wr

/-- The elements between the two positions, the oldest first. -/
def contents (b : RingBuffer α slots) : List α :=
  (List.range b.len).map fun k => b.cell (position slots b.rd k)

/-- Puts an element at the write position, unless the ring is full. -/
def put (b : RingBuffer α slots) (x : α) : Option (RingBuffer α slots) :=
  if next slots b.wr = b.rd then none
  else some
    { b with
      cell := update b.cell b.wr x
      wr := next slots b.wr
      wr_lt := next_lt b.wr_lt }

/-- Takes the element at the read position, if there is one. -/
def get (b : RingBuffer α slots) : Option (α × RingBuffer α slots) :=
  if b.wr = b.rd then none
  else some (b.cell b.rd, { b with rd := next slots b.rd, rd_lt := next_lt b.rd_lt })

/-- The walk over the slots from the position `i` that looks for an element; it ends at
the write position, which it reaches before it has seen all the slots. -/
def hasFrom [DecidableEq α] (b : RingBuffer α slots) (x : α) : Nat → Nat → Bool
  | 0, _ => false
  | fuel + 1, i =>
    if i = b.wr then false
    else if b.cell i = x then true
    else hasFrom b x fuel (next slots i)

def has [DecidableEq α] (b : RingBuffer α slots) (x : α) : Bool := b.hasFrom x slots b.rd

/-! ## What the operations do to the contents -/

@[simp] theorem length_contents (b : RingBuffer α slots) : b.contents.length = b.len := by
  simp [contents]

theorem len_lt (b : RingBuffer α slots) : b.len < slots := distance_lt b.rd_lt b.wr_lt

theorem contents_eq_nil_iff (b : RingBuffer α slots) : b.contents = [] ↔ b.wr = b.rd := by
  rw [← List.length_eq_zero_iff, length_contents]
  exact (distance_eq_zero b.rd_lt).trans eq_comm

variable {b : RingBuffer α slots} {x : α}

theorem put_eq_none_iff : b.put x = none ↔ b.len + 1 = slots := by
  rw [len, ← next_eq_iff b.rd_lt b.wr_lt]
  simp [put]

/-- An element that is put is the newest. -/
theorem contents_put {b b' : RingBuffer α slots} (h : b.put x = some b') :
    b'.contents = b.contents ++ [x] := by
  unfold put at h
  by_cases hfull : next slots b.wr = b.rd
  · rw [if_pos hfull] at h
    cases h
  rw [if_neg hfull] at h
  cases h
  have hlen : distance slots b.rd (next slots b.wr) = b.len + 1 :=
    distance_next_right b.rd_lt b.wr_lt hfull
  show (List.range (distance slots b.rd (next slots b.wr))).map _ = _
  rw [hlen, List.range_succ, List.map_append]
  congr 1
  · apply List.map_congr_left
    intro k hk
    have hne := position_ne b.rd_lt (List.mem_range.mp hk)
    exact update_of_ne hne x b.cell
  · show [update b.cell b.wr x (position slots b.rd (distance slots b.rd b.wr))] = _
    rw [position_distance b.rd_lt b.wr_lt, update_self]

/-- The element that is taken is the oldest. -/
theorem contents_get {b b' : RingBuffer α slots} (h : b.get = some (x, b')) :
    b.contents = x :: b'.contents := by
  unfold get at h
  by_cases hempty : b.wr = b.rd
  · rw [if_pos hempty] at h
    cases h
  rw [if_neg hempty] at h
  cases h
  have hlen : distance slots (next slots b.rd) b.wr + 1 = b.len :=
    distance_next_left b.rd_lt b.wr_lt (Ne.symm hempty)
  unfold contents
  rw [← hlen, List.range_succ_eq_map, List.map_cons, List.map_map,
    position_zero b.rd_lt]
  congr 1
  apply List.map_congr_left
  intro k hk
  have hk' : k < distance slots (next slots b.rd) b.wr := List.mem_range.mp hk
  have hlt := b.len_lt
  show b.cell (position slots b.rd (k + 1)) = b.cell (position slots (next slots b.rd) k)
  rw [position_next b.rd_lt (by omega)]

theorem get_eq_none_iff : b.get = none ↔ b.contents = [] := by
  rw [contents_eq_nil_iff]
  simp [get]

/-- A queue that holds something gives its oldest element. -/
theorem get_of_contents {rest : List α}
    (h : b.contents = x :: rest) : ∃ b', b.get = some (x, b') ∧ b'.contents = rest := by
  cases hget : b.get with
  | none =>
    rw [get_eq_none_iff.mp hget] at h
    cases h
  | some got =>
    obtain ⟨y, b'⟩ := got
    have hcontents := contents_get hget
    rw [h] at hcontents
    obtain ⟨rfl, rfl⟩ := List.cons.inj hcontents
    exact ⟨b', rfl, rfl⟩

/-- A queue that is not full takes an element. -/
theorem put_of_len_lt (h : b.len + 1 < slots) :
    ∃ b', b.put x = some b' ∧ b'.contents = b.contents ++ [x] := by
  cases hput : b.put x with
  | none =>
    have hfull := put_eq_none_iff.mp hput
    omega
  | some b' => exact ⟨b', rfl, contents_put hput⟩

section Has

variable [DecidableEq α]

theorem hasFrom_iff (b : RingBuffer α slots) (x : α) {fuel i : Nat} (hi : i < slots)
    (hfuel : distance slots i b.wr < fuel) :
    b.hasFrom x fuel i = true ↔
      ∃ k < distance slots i b.wr, b.cell (position slots i k) = x := by
  induction fuel generalizing i with
  | zero => omega
  | succ fuel ih =>
    unfold hasFrom
    by_cases hend : i = b.wr
    · have hzero := (distance_eq_zero hi).mpr hend
      rw [if_pos hend, hzero]
      simp
    have hstep := distance_next_left hi b.wr_lt hend
    have hlt := distance_lt hi b.wr_lt
    rw [if_neg hend]
    by_cases hhere : b.cell i = x
    · rw [if_pos hhere]
      refine iff_of_true rfl ⟨0, by omega, ?_⟩
      rw [position_zero hi, hhere]
    rw [if_neg hhere, ih (next_lt hi) (by omega)]
    constructor
    · intro ⟨k, hk, hcell⟩
      refine ⟨k + 1, by omega, ?_⟩
      rw [← position_next hi (by omega), hcell]
    intro ⟨k, hk, hcell⟩
    cases k with
    | zero =>
      rw [position_zero hi] at hcell
      exact absurd hcell hhere
    | succ k =>
      refine ⟨k, by omega, ?_⟩
      rw [position_next hi (by omega), hcell]

/-- The walk finds what the queue holds. -/
theorem has_iff (b : RingBuffer α slots) (x : α) : b.has x = true ↔ x ∈ b.contents := by
  rw [has, hasFrom_iff b x b.rd_lt b.len_lt]
  simp [contents, len]

end Has

end RingBuffer

end MmIotEsp32.Lib
