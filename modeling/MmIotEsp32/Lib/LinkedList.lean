/-
  MmIotEsp32.Lib.LinkedList

  Singly linked lists in a memory of cells.

  `next i` is the link stored in cell `i`.  `Seg next p is q` says that the links
  from `p` visit exactly the cells `is`, in this order, and leave at `q`;
  `Chain next p is` is a segment that leaves at the null link.  A write to a cell
  off the list changes nothing (`Seg.congr`).
-/
import Mathlib.Logic.Function.Basic
import Mathlib.Data.List.Basic

namespace MmIotEsp32.Lib

open Function

variable {ι : Type*}

/-! ## Segments and chains -/

/-- The links from the first argument visit the listed cells and leave at the last. -/
def Seg (next : ι → Option ι) : Option ι → List ι → Option ι → Prop
  | p, [], q => p = q
  | p, i :: is, q => p = some i ∧ Seg next (next i) is q

/-- A segment that ends at the null link: a finite, acyclic list. -/
def Chain (next : ι → Option ι) (p : Option ι) (is : List ι) : Prop := Seg next p is none

variable {next next' : ι → Option ι} {p q : Option ι} {is js : List ι}

@[simp] theorem chain_nil : Chain next p [] ↔ p = none := Iff.rfl

variable {i : ι}

@[simp] theorem chain_cons : Chain next p (i :: is) ↔ p = some i ∧ Chain next (next i) is := Iff.rfl

/-- The null link is only the empty list. -/
theorem chain_none : Chain next none is ↔ is = [] := by
  cases is with
  | nil => exact ⟨fun _ => rfl, fun _ => rfl⟩
  | cons i is => exact ⟨fun h => absurd h.1 (by simp), fun h => absurd h (by simp)⟩

/-- A non-null link names the first cell of its list. -/
theorem Chain.of_some (h : Chain next (some i) is) :
    ∃ js, is = i :: js ∧ Chain next (next i) js := by
  cases is with
  | nil => exact absurd h (by simp)
  | cons j js =>
    obtain rfl := Option.some.inj h.1
    exact ⟨js, rfl, h.2⟩

/-- Segments compose end to end. -/
theorem Seg.append_iff :
    Seg next p (is ++ js) q ↔ ∃ m, Seg next p is m ∧ Seg next m js q := by
  induction is generalizing p with
  | nil => exact ⟨fun h => ⟨p, rfl, h⟩, fun ⟨m, hm, h⟩ => by cases hm; exact h⟩
  | cons i is ih =>
    rw [List.cons_append]
    constructor
    · intro h
      obtain ⟨m, hm, hj⟩ := ih.mp h.2
      exact ⟨m, ⟨h.1, hm⟩, hj⟩
    · intro ⟨m, hm, hj⟩
      exact ⟨hm.1, ih.mpr ⟨m, hm.2, hj⟩⟩

/-! ## Frame rules -/

/-- Only the cells of the list matter. -/
theorem Seg.congr (h : ∀ i ∈ is, next' i = next i) (hs : Seg next p is q) :
    Seg next' p is q := by
  induction is generalizing p with
  | nil => exact hs
  | cons i is ih =>
    refine ⟨hs.1, ?_⟩
    rw [h i (List.mem_cons_self ..)]
    exact ih (fun j hj => h j (List.mem_cons_of_mem _ hj)) hs.2

theorem Chain.congr (h : ∀ i ∈ is, next' i = next i) (hs : Chain next p is) :
    Chain next' p is := Seg.congr h hs

/-- A write off the list does not show. -/
theorem Seg.update [DecidableEq ι] {v : Option ι} (hi : i ∉ is)
    (hs : Seg next p is q) : Seg (update next i v) p is q := by
  refine hs.congr fun j hj => ?_
  rw [update_of_ne]
  rintro rfl
  exact hi hj

/-- Linking a cell off the list in front of it. -/
theorem Chain.push [DecidableEq ι] (hi : i ∉ is) (hs : Chain next p is) :
    Chain (update next i p) (some i) (i :: is) := by
  refine ⟨rfl, ?_⟩
  rw [update_self]
  exact Seg.update hi hs

/-- One link determines one list. -/
theorem Chain.unique (h : Chain next p is) (h' : Chain next p js) : is = js := by
  induction is generalizing p js with
  | nil => exact (chain_none.mp (chain_nil.mp h ▸ h')).symm
  | cons i is ih =>
    obtain ⟨hp, ht⟩ := chain_cons.mp h
    obtain ⟨js', rfl, ht'⟩ := Chain.of_some (hp ▸ h')
    rw [ih ht ht']

/-! ## Linking and unlinking behind a cell -/

/-- A list cut at one of its cells. -/
theorem chain_append_cons :
    Chain next p (is ++ i :: js) ↔ Seg next p is (some i) ∧ Chain next (next i) js := by
  unfold Chain
  rw [Seg.append_iff]
  constructor
  · intro ⟨m, hm, hj⟩
    obtain rfl := hj.1
    exact ⟨hm, hj.2⟩
  · intro ⟨hm, hj⟩
    exact ⟨some i, hm, rfl, hj⟩

/-- Unlinking the cell behind `i`. -/
theorem Chain.removeAfter [DecidableEq ι] {i x : ι} (hnd : (is ++ i :: x :: js).Nodup)
    (hs : Chain next p (is ++ i :: x :: js)) :
    Chain (update next i (next x)) p (is ++ i :: js) := by
  obtain ⟨hseg, hx, hjs⟩ := chain_append_cons.mp hs
  have hi : i ∉ is ∧ i ∉ js := by
    simp only [List.nodup_append, List.nodup_cons, List.mem_cons] at hnd
    exact ⟨fun h => hnd.2.2 i h i (Or.inl rfl) rfl, fun h => hnd.2.1.1 (Or.inr h)⟩
  rw [chain_append_cons, update_self]
  exact ⟨Seg.update hi.1 hseg, Seg.update hi.2 hjs⟩

/-- Linking the cell `x`, off the list, behind `i`. -/
theorem Chain.insertAfter [DecidableEq ι] {i x : ι} (hnd : (is ++ i :: js).Nodup)
    (hx : x ∉ is ++ i :: js) (hs : Chain next p (is ++ i :: js)) :
    Chain (update (update next i (some x)) x (next i)) p
      (is ++ i :: x :: js) := by
  obtain ⟨hseg, hjs⟩ := chain_append_cons.mp hs
  have hi : i ∉ is ∧ i ∉ js := by
    simp only [List.nodup_append, List.nodup_cons, List.mem_cons] at hnd
    exact ⟨fun h => hnd.2.2 i h i (Or.inl rfl) rfl, fun h => hnd.2.1.1 h⟩
  have hx' : x ∉ is ∧ x ≠ i ∧ x ∉ js := by
    simpa only [List.mem_append, List.mem_cons, not_or] using hx
  rw [chain_append_cons, update_of_ne hx'.2.1.symm, update_self]
  refine ⟨Seg.update hx'.1 (Seg.update hi.1 hseg), rfl, ?_⟩
  rw [update_self]
  exact Seg.update hx'.2.2 (Seg.update hi.2 hjs)

end MmIotEsp32.Lib
