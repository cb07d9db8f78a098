/-
  MmIotEsp32.Lib.SerialNumber

  Serial-number arithmetic: counters of `w` bits that wrap, compared by the
  sign of their difference.

  `serialLt a b` is not an order on all of `BitVec w` (it is not transitive).
  It is one on any window of half the space: seen from a base `b`, the elements
  less than `2^(w-1)` ahead of `b` are ordered by how far ahead they are
  (`serialLt_iff_dist`).  `serialDist b x` is that distance.
-/
import Mathlib.Data.BitVec
import Mathlib.Tactic.Linarith

namespace MmIotEsp32.Lib

variable {w : Nat}

/-! ## The comparison and the distance -/

/-- `a` is before `b`: the difference, read as a signed number, is negative. -/
def serialLt (a b : BitVec w) : Bool := decide ((a - b).toInt < 0)

/-- `a` is before `b` or equal to it. -/
def serialLe (a b : BitVec w) : Bool := decide ((a - b).toInt ≤ 0)

/-- How far `x` is ahead of `b`. -/
def serialDist (b x : BitVec w) : Nat := (x - b).toNat

theorem serialDist_lt (b x : BitVec w) : serialDist b x < 2 ^ w := (x - b).isLt

@[simp] theorem serialDist_self (b : BitVec w) : serialDist b b = 0 := by
  simp [serialDist]

theorem serialDist_eq_zero {b x : BitVec w} : serialDist b x = 0 ↔ x = b := by
  constructor
  · intro h
    have hz : x - b = 0#w := BitVec.eq_of_toNat_eq (by simpa [serialDist] using h)
    rw [← BitVec.sub_add_cancel x b, hz, BitVec.zero_add]
  · rintro rfl
    exact serialDist_self _

variable {b x y : BitVec w}

/-- Distances from one base determine the element. -/
theorem eq_of_serialDist_eq (h : serialDist b x = serialDist b y) : x = y := by
  have hxy : x - b = y - b := BitVec.eq_of_toNat_eq h
  rw [← BitVec.sub_add_cancel x b, hxy, BitVec.sub_add_cancel]

theorem serialLt_iff (a b : BitVec w) :
    serialLt a b = true ↔ 2 ^ w ≤ 2 * serialDist b a := by
  rw [serialLt, decide_eq_true_eq, BitVec.toInt_neg_iff]
  exact Iff.rfl

theorem serialLe_iff (a b : BitVec w) :
    serialLe a b = true ↔ a = b ∨ serialLt a b = true := by
  rw [serialLe, decide_eq_true_eq, serialLt, decide_eq_true_eq, Int.le_iff_lt_or_eq, or_comm]
  refine or_congr ?_ Iff.rfl
  rw [← BitVec.toInt_zero (w := w), BitVec.toInt_inj, BitVec.sub_eq_iff_eq_add, BitVec.zero_add]

/-! ## Moving the base -/

/-- Distances add along the circle, modulo its length. -/
theorem serialDist_mod (b c x : BitVec w) :
    serialDist c x = (2 ^ w - serialDist b c + serialDist b x) % 2 ^ w := by
  have hsub : x - c = (x - b) - (c - b) := (sub_sub_sub_cancel_right x c b).symm
  rw [serialDist, hsub, BitVec.toNat_sub]
  rfl

/-- Moving the base forward, up to the element, shortens the distance by as much. -/
theorem serialDist_of_le {b c x : BitVec w} (h : serialDist b c ≤ serialDist b x) :
    serialDist c x = serialDist b x - serialDist b c := by
  have hx := serialDist_lt b x
  have hc := serialDist_lt b c
  have hsum : 2 ^ w - serialDist b c + serialDist b x
      = serialDist b x - serialDist b c + 2 ^ w := by omega
  rw [serialDist_mod b c x, hsum, Nat.add_mod_right, Nat.mod_eq_of_lt (by omega)]

/-- Seen from an element behind it, the base is the rest of the circle away. -/
theorem serialDist_of_lt {b c x : BitVec w} (h : serialDist b x < serialDist b c) :
    serialDist c x = 2 ^ w - (serialDist b c - serialDist b x) := by
  have hc := serialDist_lt b c
  rw [serialDist_mod b c x, Nat.mod_eq_of_lt (by omega)]
  omega

/-- Two stretches that do not go around add up. -/
theorem serialDist_add (h : serialDist b x + serialDist x y < 2 ^ w) :
    serialDist b y = serialDist b x + serialDist x y := by
  have hsum : y - b = (x - b) + (y - x) := (sub_add_sub_cancel' x b y).symm
  rw [serialDist, hsum, BitVec.toNat_add]
  exact Nat.mod_eq_of_lt h

/-! ## The comparison on half the space -/

/-- `a` is before `b` when `b` is ahead of it, by at most half the space. -/
theorem serialLt_iff_dist_pos (a b : BitVec w) :
    serialLt a b = true ↔ 0 < serialDist a b ∧ 2 * serialDist a b ≤ 2 ^ w := by
  rw [serialLt_iff]
  have hlt := serialDist_lt a b
  rcases Nat.eq_zero_or_pos (serialDist a b) with h0 | hpos
  · obtain rfl : b = a := serialDist_eq_zero.mp h0
    have := Nat.two_pow_pos w
    simp only [serialDist_self]
    omega
  · have hba : serialDist b a = 2 ^ w - serialDist a b := by
      rw [serialDist_of_lt (by rw [serialDist_self]; exact hpos), serialDist_self, Nat.sub_zero]
    omega

/-- On the half of the space ahead of `b` the comparison is the order of distances. -/
theorem serialLt_iff_dist (hx : 2 * serialDist b x < 2 ^ w) (hy : 2 * serialDist b y < 2 ^ w) :
    serialLt x y = true ↔ serialDist b x < serialDist b y := by
  rw [serialLt_iff_dist_pos]
  rcases Nat.lt_or_ge (serialDist b y) (serialDist b x) with hlt | hge
  · rw [serialDist_of_lt hlt]
    omega
  · rw [serialDist_of_le hge]
    omega

theorem serialLe_iff_dist (hx : 2 * serialDist b x < 2 ^ w) (hy : 2 * serialDist b y < 2 ^ w) :
    serialLe x y = true ↔ serialDist b x ≤ serialDist b y := by
  rw [serialLe_iff, serialLt_iff_dist hx hy]
  constructor
  · rintro (rfl | h)
    · exact Nat.le_refl _
    · exact Nat.le_of_lt h
  intro h
  rcases Nat.lt_or_eq_of_le h with hlt | heq
  · exact Or.inr hlt
  · exact Or.inl (eq_of_serialDist_eq heq)

/-- What is not before `b` is less than half the space ahead of it. -/
theorem serialDist_of_not_serialLt {b x : BitVec w} (h : serialLt x b = false) :
    2 * serialDist b x < 2 ^ w := by
  by_contra hge
  rw [(serialLt_iff x b).mpr (by omega)] at h
  exact Bool.noConfusion h

/-- Nothing in the half of the space ahead of `s` is before `b` only when they agree. -/
theorem forall_not_serialLt_iff {b s : BitVec w} (hw : 0 < w) :
    (∀ x, 2 * serialDist s x < 2 ^ w → serialLt x b = false) ↔ b = s := by
  constructor
  · intro h
    by_contra hne
    have hpos : serialDist b s ≠ 0 := fun hzero => hne (serialDist_eq_zero.mp hzero).symm
    have hhalf : 2 ^ w = 2 * 2 ^ (w - 1) := by
      rw [← Nat.pow_succ', Nat.succ_eq_add_one, Nat.sub_add_cancel hw]
    by_cases hfar : 2 ^ w ≤ 2 * serialDist b s
    · have hself := h s (by rw [serialDist_self]; exact Nat.two_pow_pos w)
      rw [(serialLt_iff s b).mpr hfar] at hself
      exact Bool.noConfusion hself
    -- the element opposite to `b` is ahead of `s`, and before `b`
    have hstep : serialDist s (s + BitVec.ofNat w (2 ^ (w - 1) - serialDist b s))
        = 2 ^ (w - 1) - serialDist b s := by
      unfold serialDist
      rw [BitVec.add_comm, BitVec.add_sub_cancel, BitVec.toNat_ofNat, Nat.mod_eq_of_lt]
      unfold serialDist at hpos
      omega
    have hdist := serialDist_add (b := b) (x := s)
      (y := s + BitVec.ofNat w (2 ^ (w - 1) - serialDist b s)) (by rw [hstep]; omega)
    have hopposite := h _ (by rw [hstep]; omega)
    rw [(serialLt_iff _ b).mpr (by rw [hdist, hstep]; omega)] at hopposite
    exact Bool.noConfusion hopposite
  rintro rfl x hx
  rw [Bool.eq_false_iff]
  intro hlt
  have := (serialLt_iff x b).mp hlt
  omega

/-! ## Elements in order -/

/-- Of two elements one is before the other. -/
theorem serialLt_of_not {a b : BitVec w} (hne : a ≠ b) (h : serialLt a b = false) :
    serialLt b a = true := by
  have hdist := serialDist_of_not_serialLt h
  have hpos : serialDist b a ≠ 0 := fun hzero => hne (serialDist_eq_zero.mp hzero)
  rw [serialLt_iff_dist_pos]
  omega

/-- Behind one base the comparison is transitive: what is before `n` is before everything
that `n` is before. -/
theorem serialLt_of_base {b s n y : BitVec w} (hs : serialLt b s = true)
    (hn : serialLt b n = true) (hy : serialLt b y = true) (hsn : serialLt s n = true)
    (hny : serialLt n y = true) : serialLt s y = true := by
  rw [serialLt_iff_dist_pos] at hs hn hy
  -- What is ahead of an element is farther from the base.
  have hfarther : ∀ {c d : BitVec w}, 0 < serialDist b d → 2 * serialDist b c ≤ 2 ^ w →
      serialLt c d = true → serialDist b c < serialDist b d := by
    intro c d hd hc hcd
    rw [serialLt_iff_dist_pos] at hcd
    by_contra hge
    rcases Nat.lt_or_eq_of_le (Nat.le_of_not_lt hge) with hlt | heq
    · rw [serialDist_of_lt hlt] at hcd
      omega
    · rw [serialDist_of_le (Nat.le_of_eq heq.symm)] at hcd
      omega
  have hlt₁ := hfarther hn.1 hs.2 hsn
  have hlt₂ := hfarther hy.1 hn.2 hny
  rw [serialLt_iff_dist_pos, serialDist_of_le (b := b) (by omega)]
  omega

end MmIotEsp32.Lib
