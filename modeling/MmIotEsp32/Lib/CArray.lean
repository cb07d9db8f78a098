/-
  MmIotEsp32.Lib.CArray

  Arrays of C, with every access checked.

  An access gives no value when it is outside its array, so a computation that gives a value
  has made none.  Code that keeps a state is a computation in `StateT σ Option`; `Safe I x Q`
  says that from every state in `I` it gives a value in `Q`, and leaves a state in `I`.
-/
import Mathlib.Data.Fintype.Pi
import Mathlib.Data.List.OfFn

namespace MmIotEsp32.Lib

/-- `T a[n]`. -/
abbrev CArray (n : Nat) (α : Type*) := Fin n → α

namespace CArray

variable {n m : Nat} {α : Type*}

/-! ## Accesses -/

/-- `a[i]`. -/
def read (a : CArray n α) (i : Nat) : Option α := if h : i < n then some (a ⟨i, h⟩) else none

/-- `a[i] = x`. -/
def write (a : CArray n α) (i : Nat) (x : α) : Option (CArray n α) :=
  if i < n then some fun j => if j.val = i then x else a j else none

/-- The elements `a[start]`, …, `a[start + len - 1]`. -/
def slice (a : CArray n α) (start len : Nat) : Option (List α) :=
  if len = 0 ∨ start + len ≤ n then some (((List.ofFn a).drop start).take len) else none

/-- `a[start] = …`, one element after the other. -/
def writeAll (a : CArray n α) (start : Nat) : List α → Option (CArray n α)
  | [] => some a
  | x :: xs => (a.write start x).bind fun a => writeAll a (start + 1) xs

/-- `memcpy(&dst[d], &src[s], len)`. -/
def memcpy (dst : CArray n α) (d : Nat) (src : CArray m α) (s len : Nat) : Option (CArray n α) :=
  (src.slice s len).bind fun xs => dst.writeAll d xs

/-- The characters of a string: the access goes on to the NUL. -/
def cstr (a : CArray n (BitVec 8)) : Option (List (BitVec 8)) :=
  if 0 ∈ List.ofFn a then some ((List.ofFn a).takeWhile (· ≠ 0)) else none

/-! ## Accesses inside the array -/

theorem read_of_lt (a : CArray n α) {i : Nat} (h : i < n) : a.read i = some (a ⟨i, h⟩) := dif_pos h

theorem write_of_lt (a : CArray n α) {i : Nat} (h : i < n) (x : α) :
    a.write i x = some fun j => if j.val = i then x else a j := if_pos h

theorem read_write (a b : CArray n α) {i j : Nat} {x : α} (h : a.write i x = some b) :
    b.read j = if j = i then some x else a.read j := by
  unfold write at h
  split at h
  · next hi =>
      cases h
      unfold read
      by_cases hj : j < n
      · rw [dif_pos hj, dif_pos hj]
        split
        · next heq => exact congrArg some (if_pos heq)
        · next hne => exact congrArg some (if_neg hne)
      · rw [dif_neg hj, dif_neg hj, if_neg (by omega)]
  · cases h

theorem slice_of_le (a : CArray n α) {start len : Nat} (h : start + len ≤ n) :
    a.slice start len = some (((List.ofFn a).drop start).take len) := if_pos (Or.inr h)

theorem length_slice {a : CArray n α} {start len : Nat} {xs : List α}
    (h : a.slice start len = some xs) : xs.length = len := by
  unfold slice at h
  split at h
  · next hle =>
      cases h
      rw [List.length_take, List.length_drop, List.length_ofFn]
      omega
  · cases h

theorem getElem?_slice {a : CArray n α} {start len k : Nat} {xs : List α}
    (h : a.slice start len = some xs) (hk : k < len) : xs[k]? = a.read (start + k) := by
  unfold slice at h
  split at h
  · next hle =>
      cases h
      have hin : start + k < n := by omega
      rw [List.getElem?_take_of_lt hk, List.getElem?_drop, read_of_lt a hin,
        List.getElem?_eq_getElem (by rw [List.length_ofFn]; exact hin), List.getElem_ofFn]
  · cases h

/-- A row of writes is inside precisely when its end is. -/
theorem writeAll_isSome_iff (a : CArray n α) (start : Nat) (xs : List α) :
    (a.writeAll start xs).isSome ↔ xs = [] ∨ start + xs.length ≤ n := by
  induction xs generalizing a start with
  | nil => simp [writeAll]
  | cons x xs ih =>
    rw [writeAll, List.length_cons]
    by_cases hstart : start < n
    · rw [write_of_lt a hstart, Option.bind_some, ih]
      constructor
      · rintro (rfl | hle)
        · exact Or.inr (by rw [List.length_nil]; omega)
        · exact Or.inr (by omega)
      · rintro (hnil | hle)
        · cases hnil
        · exact Or.inr (by omega)
    · rw [write, if_neg hstart, Option.bind_none]
      simp
      omega

theorem writeAll_of_le (a : CArray n α) {start : Nat} {xs : List α} (h : start + xs.length ≤ n) :
    ∃ b, a.writeAll start xs = some b :=
  Option.isSome_iff_exists.mp ((writeAll_isSome_iff a start xs).mpr (Or.inr h))

theorem read_writeAll {a b : CArray n α} {start : Nat} {xs : List α}
    (h : a.writeAll start xs = some b) (j : Nat) :
    b.read j = if start ≤ j ∧ j < start + xs.length then xs[j - start]? else a.read j := by
  induction xs generalizing a start with
  | nil =>
    cases h
    rw [if_neg (by rw [List.length_nil]; omega)]
  | cons x xs ih =>
    obtain ⟨c, hc, hb⟩ := Option.bind_eq_some_iff.mp h
    rw [ih hb, read_write a c hc, List.length_cons]
    by_cases hfirst : j = start
    · -- the first element is not written again
      rw [hfirst, if_neg (by omega), if_pos rfl, if_pos (by omega), Nat.sub_self]
      rfl
    by_cases hin : start + 1 ≤ j ∧ j < start + 1 + xs.length
    · have hsub : j - start = j - (start + 1) + 1 := by omega
      rw [if_pos hin, if_pos (by omega), hsub, List.getElem?_cons_succ]
    · rw [if_neg hin, if_neg hfirst, if_neg (by omega)]

/-- A copy is inside precisely when it is inside both arrays. -/
theorem memcpy_isSome_iff (dst : CArray n α) (d : Nat) (src : CArray m α) (s len : Nat) :
    (dst.memcpy d src s len).isSome ↔ len = 0 ∨ (d + len ≤ n ∧ s + len ≤ m) := by
  unfold memcpy
  cases hslice : src.slice s len with
  | none =>
    have hnot : ¬ (len = 0 ∨ s + len ≤ m) := by
      intro hle
      rw [slice, if_pos hle] at hslice
      cases hslice
    simp
    omega
  | some xs =>
    have hlength := length_slice hslice
    have hle : len = 0 ∨ s + len ≤ m := by
      by_contra hnot
      rw [slice, if_neg hnot] at hslice
      cases hslice
    rw [Option.bind_some, writeAll_isSome_iff, hlength, ← List.length_eq_zero_iff, hlength]
    omega

theorem memcpy_of_le (dst : CArray n α) (d : Nat) (src : CArray m α) (s len : Nat)
    (hdst : d + len ≤ n) (hsrc : s + len ≤ m) : ∃ b, dst.memcpy d src s len = some b :=
  Option.isSome_iff_exists.mp ((memcpy_isSome_iff dst d src s len).mpr (Or.inr ⟨hdst, hsrc⟩))

/-- What a copy has put where. -/
theorem read_memcpy {dst b : CArray n α} {d : Nat} {src : CArray m α} {s len : Nat}
    (h : dst.memcpy d src s len = some b) {j : Nat} (hlow : d ≤ j) (hhigh : j < d + len) :
    b.read j = src.read (s + (j - d)) := by
  obtain ⟨xs, hxs, hb⟩ := Option.bind_eq_some_iff.mp h
  rw [read_writeAll hb, length_slice hxs, if_pos ⟨hlow, hhigh⟩, getElem?_slice hxs (by omega)]

/-- A copy leaves what is in front of it alone. -/
theorem read_memcpy_of_lt {dst b : CArray n α} {d : Nat} {src : CArray m α} {s len : Nat}
    (h : dst.memcpy d src s len = some b) {j : Nat} (hj : j < d) : b.read j = dst.read j := by
  obtain ⟨xs, hxs, hb⟩ := Option.bind_eq_some_iff.mp h
  rw [read_writeAll hb, if_neg (by omega)]

/-- A string that has its NUL can be read. -/
theorem cstr_of_read {a : CArray n (BitVec 8)} {i : Nat} (h : a.read i = some 0) :
    ∃ text, a.cstr = some text := by
  unfold read at h
  split at h
  · next hi =>
      have hmem : 0 ∈ List.ofFn a := List.mem_ofFn.mpr ⟨⟨i, hi⟩, Option.some.inj h⟩
      exact ⟨_, if_pos hmem⟩
  · cases h

end CArray

/-! ## Code with a state -/

section Safe

universe u

variable {σ α β : Type u}

/-- An access, in code with a state. -/
def access (x : Option α) : StateT σ Option α := fun s => x.map fun a => (a, s)

/-- From every state in `I` the code makes no access outside an array, gives a result in `Q`,
and leaves a state in `I`. -/
def Safe (I : σ → Prop) (x : StateT σ Option α) (Q : α → Prop) : Prop :=
  ∀ s, I s → ∃ a s', x s = some (a, s') ∧ I s' ∧ Q a

variable {I : σ → Prop} {x y : StateT σ Option α} {f : α → StateT σ Option β} {Q : α → Prop}
  {R : β → Prop}

theorem Safe.pure {a : α} (h : Q a) : Safe I (Pure.pure a) Q := fun s hs => ⟨a, s, rfl, hs, h⟩

theorem Safe.bind (hx : Safe I x Q) (hf : ∀ a, Q a → Safe I (f a) R) : Safe I (x >>= f) R := by
  intro s hs
  obtain ⟨a, t, hrun, ht, ha⟩ := hx s hs
  obtain ⟨b, u, hrun', hu, hb⟩ := hf a ha t ht
  refine ⟨b, u, ?_, hu, hb⟩
  show (x s).bind (fun p => f p.1 p.2) = _
  rw [hrun]
  exact hrun'

theorem Safe.mono {P : α → Prop} (hx : Safe I x P) (hPQ : ∀ a, P a → Q a) : Safe I x Q := by
  intro s hs
  obtain ⟨a, t, hrun, ht, ha⟩ := hx s hs
  exact ⟨a, t, hrun, ht, hPQ a ha⟩

/-- An access that is inside its array. -/
theorem Safe.access {v : Option α} {a : α} (h : v = some a) :
    Safe I (Lib.access v) fun b => a = b := by
  subst h
  exact fun s hs => ⟨a, s, rfl, hs, rfl⟩

theorem Safe.get : Safe I (MonadState.get : StateT σ Option σ) I := fun s hs => ⟨s, s, rfl, hs, hs⟩

theorem Safe.set {t : σ} (h : I t) :
    Safe I (MonadState.set t : StateT σ Option PUnit) fun _ => True :=
  fun _ _ => ⟨PUnit.unit, t, rfl, h, trivial⟩

theorem Safe.modify {g : σ → σ} (h : ∀ s, I s → I (g s)) :
    Safe I (modify g : StateT σ Option PUnit) fun _ => True :=
  fun s hs => ⟨PUnit.unit, g s, rfl, h s hs, trivial⟩

theorem Safe.ite {c : Prop} [Decidable c] (hthen : c → Safe I x Q) (helse : ¬ c → Safe I y Q) :
    Safe I (if c then x else y) Q := by
  split
  · next h => exact hthen h
  · next h => exact helse h

/-- A loop. -/
theorem Safe.forM {l : List β} {body : β → StateT σ Option PUnit}
    (h : ∀ b ∈ l, Safe I (body b) fun _ => True) : Safe I (l.forM body) fun _ => True := by
  induction l with
  | nil => exact Safe.pure trivial
  | cons b l ih =>
    apply Safe.bind (h b (List.mem_cons_self ..))
    intro _ _
    exact ih fun c hc => h c (List.mem_cons_of_mem b hc)

/-- Code that begins with a look at its state. -/
theorem get_bind (f : σ → StateT σ Option β) (s : σ) : (MonadState.get >>= f) s = f s s := rfl

/-- Code that begins with an access inside its array. -/
theorem access_some_bind {v : Option α} {a : α} (h : v = some a) : Lib.access v >>= f = f a := by
  subst h
  rfl

/-- Code that begins with an access outside its array. -/
theorem access_none_bind {v : Option α} (h : v = none) (s : σ) : (Lib.access v >>= f) s = none := by
  subst h
  rfl

end Safe

end MmIotEsp32.Lib
