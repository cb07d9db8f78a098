/-
  MmIotEsp32.Lib.BitFields

  Fields of a fixed number of bits, packed one behind the other into octets with
  the lowest bits first, and the set bits of a word, counted.

  The packed fields are one number (`packFields`), of which the octets are the
  digits to the base 256.  A field that lies in one octet is read from that octet
  (`bitsAt_of_octet`), one that straddles a boundary from two (`bitsAt_straddle`).

  `rank v i` is the number of set bits below `i`.  On the set bits it is a bijection with
  the numbers below the total (`exists_rank_eq`, `eq_of_rank_eq`).  The `packed` lemmas
  take two numbers apart that were packed into one.
-/
import Mathlib.Data.BitVec
import Mathlib.Data.Nat.Bitwise
import Mathlib.Data.Nat.Count
import Mathlib.Tactic.Ring

namespace MmIotEsp32.Lib

/-! ## Bits of a number -/

/-- The `w` bits of `n` from bit `off` on. -/
def bitsAt (n off w : Nat) : Nat := n / 2 ^ off % 2 ^ w

/-- The `j`-th octet of `n`. -/
def octetAt (n j : Nat) : Nat := bitsAt n (8 * j) 8

theorem bitsAt_lt (n off w : Nat) : bitsAt n off w < 2 ^ w := Nat.mod_lt _ (Nat.two_pow_pos w)

theorem testBit_bitsAt (n off w i : Nat) :
    (bitsAt n off w).testBit i = (decide (i < w) && n.testBit (off + i)) := by
  rw [bitsAt, Nat.testBit_mod_two_pow, Nat.testBit_div_two_pow, Nat.add_comm]

/-- A field that lies in one octet. -/
theorem bitsAt_of_octet {n j s w : Nat} (h : s + w ≤ 8) :
    bitsAt n (8 * j + s) w = octetAt n j / 2 ^ s % 2 ^ w := by
  apply Nat.eq_of_testBit_eq
  intro i
  rw [testBit_bitsAt, Nat.testBit_mod_two_pow, Nat.testBit_div_two_pow, octetAt, testBit_bitsAt]
  by_cases hi : i < w
  · rw [decide_eq_true (show i + s < 8 by omega), Bool.true_and, Nat.add_assoc, Nat.add_comm s]
  · rw [decide_eq_false hi, Bool.false_and, Bool.false_and]

/-- A field that straddles the boundary behind its first octet. -/
theorem bitsAt_straddle {n j s w : Nat} (hs : s < 8) (h : 8 ≤ s + w) (h' : s + w ≤ 16) :
    bitsAt n (8 * j + s) w
      = 2 ^ (8 - s) * (octetAt n (j + 1) % 2 ^ (s + w - 8)) + octetAt n j / 2 ^ s := by
  have hlow : octetAt n j / 2 ^ s < 2 ^ (8 - s) := by
    rw [Nat.div_lt_iff_lt_mul (Nat.two_pow_pos s), ← Nat.pow_add, Nat.sub_add_cancel (by omega)]
    exact bitsAt_lt n (8 * j) 8
  apply Nat.eq_of_testBit_eq
  intro i
  rw [testBit_bitsAt, Nat.testBit_two_pow_mul_add _ hlow]
  by_cases hi : i < 8 - s
  · -- in the first octet
    rw [if_pos hi, Nat.testBit_div_two_pow, octetAt, testBit_bitsAt,
      decide_eq_true (show i < w by omega), decide_eq_true (show i + s < 8 by omega), Bool.true_and,
      Bool.true_and, Nat.add_assoc, Nat.add_comm s]
  -- in the second one
  rw [if_neg hi, Nat.testBit_mod_two_pow, octetAt, testBit_bitsAt]
  by_cases hw : i < w
  · rw [decide_eq_true hw, decide_eq_true (show i - (8 - s) < s + w - 8 by omega),
      decide_eq_true (show i - (8 - s) < 8 by omega), Bool.true_and, Bool.true_and,
      Bool.true_and, show 8 * (j + 1) + (i - (8 - s)) = 8 * j + s + i by omega]
  · rw [decide_eq_false hw, decide_eq_false (show ¬ i - (8 - s) < s + w - 8 by omega),
      Bool.false_and, Bool.false_and]

/-- The masked and shifted field of a word. -/
theorem toNat_maskedField {v : Nat} (x mask : BitVec v) {s k : Nat}
    (h : mask.toNat = 2 ^ s * (2 ^ k - 1)) : ((x &&& mask) >>> s).toNat = bitsAt x.toNat s k := by
  apply Nat.eq_of_testBit_eq
  intro i
  rw [BitVec.toNat_ushiftRight, BitVec.toNat_and, h, Nat.testBit_shiftRight, Nat.testBit_and,
    Nat.testBit_two_pow_mul, Nat.add_sub_cancel_left, Nat.testBit_two_pow_sub_one,
    decide_eq_true (Nat.le_add_right s i), Bool.true_and, testBit_bitsAt, Bool.and_comm]

/-- A value that was shifted to the place of its field and masked. -/
theorem toNat_shiftedField {v : Nat} (x mask : BitVec v) {s k : Nat}
    (h : mask.toNat = 2 ^ s * (2 ^ k - 1)) (hfit : s + k ≤ v) :
    (((x <<< s) &&& mask) >>> s).toNat = x.toNat % 2 ^ k := by
  rw [toNat_maskedField _ mask h]
  apply Nat.eq_of_testBit_eq
  intro i
  rw [testBit_bitsAt, Nat.testBit_mod_two_pow]
  by_cases hi : i < k
  · rw [BitVec.testBit_toNat, BitVec.testBit_toNat, BitVec.getLsbD_shiftLeft,
      decide_eq_true (show s + i < v by omega), decide_eq_false (show ¬ s + i < s by omega),
      Nat.add_sub_cancel_left]
    simp
  · rw [decide_eq_false hi, Bool.false_and, Bool.false_and]

/-- Values, each under its mask, put together in one word. -/
def orMasked {v : Nat} : List (BitVec v × BitVec v) → BitVec v
  | [] => 0#v
  | (x, mask) :: l => (x &&& mask) ||| orMasked l

theorem orMasked_and_of_disjoint {v : Nat} {l : List (BitVec v × BitVec v)} {mask : BitVec v}
    (h : ∀ a ∈ l, mask &&& a.2 = 0#v) : orMasked l &&& mask = 0#v := by
  induction l with
  | nil => exact BitVec.zero_and
  | cons a l ih =>
    obtain ⟨x, other⟩ := a
    have hother : mask &&& other = 0#v := h (x, other) (List.mem_cons_self ..)
    rw [orMasked, BitVec.and_or_distrib_right, ih fun a ha => h a (List.mem_cons_of_mem _ ha),
      BitVec.and_assoc, BitVec.and_comm other, hother, BitVec.and_zero, BitVec.or_zero]

/-- Under masks that do not overlap each value is found again. -/
theorem orMasked_and {v : Nat} {l : List (BitVec v × BitVec v)}
    (h : l.Pairwise fun a b => a.2 &&& b.2 = 0#v) {x mask : BitVec v} (hmem : (x, mask) ∈ l) :
    orMasked l &&& mask = x &&& mask := by
  induction l with
  | nil => exact absurd hmem List.not_mem_nil
  | cons a l ih =>
    obtain ⟨hfirst, hrest⟩ := List.pairwise_cons.mp h
    rw [orMasked, BitVec.and_or_distrib_right]
    rcases List.mem_cons.mp hmem with rfl | hmem
    · rw [orMasked_and_of_disjoint hfirst, BitVec.and_assoc, BitVec.and_self, BitVec.or_zero]
    · have hother : a.2 &&& mask = 0#v := hfirst (x, mask) hmem
      rw [ih hrest hmem, BitVec.and_assoc, hother, BitVec.and_zero, BitVec.zero_or]

variable {i : Nat}

/-- The test of one bit of an octet. -/
theorem octet_test_bit (x : BitVec 8) (hi : i < 8) : (x &&& (1#8 <<< i) == 0) = !x.getLsbD i := by
  show (x &&& BitVec.twoPow 8 i == 0) = !x.getLsbD i
  rw [BitVec.and_twoPow]
  cases x.getLsbD i with
  | false => rfl
  | true =>
    have hne : BitVec.twoPow 8 i ≠ 0#8 := by
      intro h
      have htoNat := congrArg BitVec.toNat h
      rw [BitVec.toNat_twoPow_of_lt hi] at htoNat
      exact absurd htoNat (Nat.ne_of_gt (Nat.two_pow_pos i))
    simpa using hne

/-- The word with the bits under `mask` taken from `v`. -/
def putMasked {w : Nat} (x mask v : BitVec w) : BitVec w := (x &&& ~~~mask) ||| (v &&& mask)

/-- What was written under a mask is found there. -/
theorem putMasked_and_self {w : Nat} (x mask v : BitVec w) :
    putMasked x mask v &&& mask = v &&& mask := by
  ext i hi
  simp only [putMasked, BitVec.getElem_and, BitVec.getElem_or, BitVec.getElem_not]
  cases mask[i] <;> simp

/-- What is under another mask stays. -/
theorem putMasked_and_of_disjoint {w : Nat} {x mask v other : BitVec w}
    (h : mask &&& other = 0#w) : putMasked x mask v &&& other = x &&& other := by
  ext i hi
  have hbit : (mask[i] && other[i]) = false := by
    rw [← BitVec.getElem_and, h, BitVec.getElem_zero]
  simp only [putMasked, BitVec.getElem_and, BitVec.getElem_or, BitVec.getElem_not]
  cases hm : mask[i] with
  | false => simp
  | true =>
    rw [hm, Bool.true_and] at hbit
    rw [hbit, Bool.and_false, Bool.and_false]

/-! ## Packed fields -/

/-- The fields of `w` bits as one number, the first in the lowest bits. -/
def packFields (w : Nat) : List Nat → Nat
  | [] => 0
  | d :: ds => 2 ^ w * packFields w ds + d

/-- Each field is found where it was put; behind the last one there are zeros. -/
theorem bitsAt_packFields {w : Nat} {ds : List Nat} (h : ∀ d ∈ ds, d < 2 ^ w) (i : Nat) :
    bitsAt (packFields w ds) (w * i) w = ds.getD i 0 := by
  induction ds generalizing i with
  | nil => simp [packFields, bitsAt]
  | cons d ds ih =>
    have hd := h d (List.mem_cons_self ..)
    have hds : ∀ d' ∈ ds, d' < 2 ^ w := fun d' hd' => h d' (List.mem_cons_of_mem _ hd')
    cases i with
    | zero =>
      show (2 ^ w * packFields w ds + d) / 2 ^ (w * 0) % 2 ^ w = d
      rw [Nat.mul_zero, Nat.pow_zero, Nat.div_one, Nat.mul_add_mod, Nat.mod_eq_of_lt hd]
    | succ i =>
      show (2 ^ w * packFields w ds + d) / 2 ^ (w * (i + 1)) % 2 ^ w = ds.getD i 0
      rw [Nat.mul_succ, Nat.add_comm (w * i), Nat.pow_add, ← Nat.div_div_eq_div_mul,
        Nat.mul_add_div (Nat.two_pow_pos w), Nat.div_eq_of_lt hd, Nat.add_zero]
      exact ih hds i

/-- The number of octets the fields take. -/
def fieldOctets (w : Nat) (ds : List Nat) : Nat := (w * ds.length + 7) / 8

variable {w : Nat}

/-! ## Ranks -/

/-- The number of bits of `v` that are set below the position `i`. -/
def rank (v : BitVec w) (i : Nat) : Nat := Nat.count (fun j => v.getLsbD j = true) i

variable {v : BitVec w}

theorem rank_succ_of_set (h : v.getLsbD i = true) : rank v (i + 1) = rank v i + 1 := by
  unfold rank
  rw [Nat.count_succ, if_pos h]

theorem rank_succ_of_clear (h : ¬ v.getLsbD i = true) : rank v (i + 1) = rank v i := by
  unfold rank
  rw [Nat.count_succ, if_neg h, Nat.add_zero]

theorem rank_mono (v : BitVec w) {i j : Nat} (h : i ≤ j) : rank v i ≤ rank v j :=
  Nat.count_monotone _ h

theorem lt_of_set (h : v.getLsbD i = true) : i < w := by
  apply Nat.lt_of_not_le
  intro hle
  rw [BitVec.getLsbD_of_ge v i hle] at h
  cases h

/-- The rank of a set bit is below the total. -/
theorem rank_lt (h : v.getLsbD i = true) : rank v i < rank v w := by
  have hnext := rank_succ_of_set h
  have hle : rank v (i + 1) ≤ rank v w := rank_mono v (lt_of_set h)
  omega

/-- Every number below the total is the rank of a set bit. -/
theorem exists_rank_eq {k n : Nat} (h : k < rank v n) : ∃ i, v.getLsbD i = true ∧ rank v i = k := by
  induction n with
  | zero => exact absurd h (Nat.not_lt_zero k)
  | succ n ih =>
    by_cases hset : v.getLsbD n = true
    · rw [rank_succ_of_set hset] at h
      by_cases hlast : k = rank v n
      · exact ⟨n, hset, hlast.symm⟩
      · apply ih
        omega
    · rw [rank_succ_of_clear hset] at h
      exact ih h

theorem rank_pos_of_ne_zero (h : v ≠ 0) : 0 < rank v w := by
  by_contra hzero
  apply h
  apply BitVec.eq_of_getLsbD_eq
  intro i _
  show v.getLsbD i = (0#w).getLsbD i
  rw [BitVec.getLsbD_zero]
  apply Bool.eq_false_iff.mpr
  intro hset
  have hlt := rank_lt hset
  omega

/-! ## Two numbers in one -/

theorem packed_div {m q r : Nat} (hr : r < m) : (r + q * m) / m = q := by
  rw [Nat.add_mul_div_right _ _ (Nat.lt_of_le_of_lt (Nat.zero_le r) hr), Nat.div_eq_of_lt hr,
    Nat.zero_add]

theorem packed_mod {m q r : Nat} (hr : r < m) : (r + q * m) % m = r := by
  rw [Nat.add_mul_mod_self_right, Nat.mod_eq_of_lt hr]

theorem packed_lt {m n q r : Nat} (hr : r < m) (hq : q < n) : r + q * m < m * n := by
  have hle : (q + 1) * m ≤ n * m := Nat.mul_le_mul_right m hq
  rw [Nat.add_mul, Nat.one_mul] at hle
  rw [Nat.mul_comm m n]
  omega

/-- Every number below a product is packed from two. -/
theorem exists_packed {m n x : Nat} (h : x < m * n) : ∃ r q, r < m ∧ q < n ∧ x = r + q * m := by
  have hm : 0 < m := Nat.pos_of_mul_pos_right (Nat.lt_of_le_of_lt (Nat.zero_le x) h)
  exact ⟨x % m, x / m, Nat.mod_lt x hm, Nat.div_lt_of_lt_mul h, (Nat.mod_add_div' x m).symm⟩

end MmIotEsp32.Lib
