/-
  MmIotEsp32.Lib.CFloat

  The floating-point numbers of C, as a parameter, and the format `float`.

  A program that computes with `float` and `double` is translated over any two formats: the
  operations are there, and nothing is assumed of them.  What is proved so holds with every
  rounding, and with the values that are not numbers: `¬ a > b` is not taken for `a ≤ b`.
  The rationals are an instance, for runs in which nothing is rounded.

  `Binary32` is the format `float`, as its patterns of 32 bits.  The patterns that are numbers, the
  infinities among them, are ordered by an integer key: the magnitude of the pattern, with its
  sign.  The two zeros have the same key.  A pattern that is not a number compares with nothing, so
  every comparison with it is false.  An operation is the exact one on rational numbers, rounded to
  the nearest value, ties to even; the sine and the cosine are those of small angles, as for the
  rationals.
-/
import Mathlib.Algebra.Order.Field.Rat
import Mathlib.Data.Rat.Floor
import Mathlib.Data.Rat.Sqrt

namespace MmIotEsp32.Lib

/-- A format: its literals, its arithmetic and its comparisons. -/
class CFloat (F : Type*) extends Add F, Sub F, Mul F, Div F, Neg F where
  /-- A literal of the source. -/
  lit : ℚ → F
  /-- The value of an integer. -/
  ofInt : ℤ → F
  lt : F → F → Bool
  le : F → F → Bool
  beq : F → F → Bool
  sqrt : F → F
  sin : F → F
  cos : F → F
  /-- `(uint64_t)x`. -/
  toU64 : F → BitVec 64
  /-- `(int32_t)x`. -/
  toI32 : F → BitVec 32

/-- The formats `float` and `double` of one program. -/
class CFormats (F D : Type*) [CFloat F] [CFloat D] where
  /-- `(float)x`. -/
  narrow : D → F
  /-- The `float` that a word of 32 bits stands for. -/
  ofBits : BitVec 32 → F

export CFloat (lit)

section

variable {F : Type*} [CFloat F]

/-- `fabsf`. -/
def CFloat.abs (x : F) : F := if CFloat.lt x (lit 0) then -x else x

/-- The two values can be compared: neither is "not a number". -/
def CFloat.Comparable (a b : F) : Prop := CFloat.lt b a = true ∨ CFloat.le a b = true

theorem CFloat.Comparable.le {a b : F} (h : CFloat.Comparable a b) (hlt : CFloat.lt b a = false) :
    CFloat.le a b = true :=
  h.resolve_left (by rw [hlt]; decide)

end

/-! ## The rationals -/

/-- The integer part, which C takes towards zero. -/
def truncate (x : ℚ) : ℤ := x.num.tdiv x.den

/-- The value of a finite `float`. -/
def ratOfBits (bits : BitVec 32) : ℚ :=
  let exponent : ℕ := bits.toNat / 2 ^ 23 % 2 ^ 8
  let fraction : ℕ := bits.toNat % 2 ^ 23
  let magnitude : ℚ :=
    if exponent = 0 then (fraction : ℚ) / 2 ^ 149
    else ((2 ^ 23 + fraction : ℕ) : ℚ) * 2 ^ exponent / 2 ^ 150
  if bits.msb then -magnitude else magnitude

/-- The sine and the cosine are those of small angles. -/
instance : CFloat ℚ where
  lit := id
  ofInt := fun n => n
  lt := fun a b => decide (a < b)
  le := fun a b => decide (a ≤ b)
  beq := fun a b => decide (a = b)
  sqrt := Rat.sqrt
  sin := id
  cos := fun x => 1 - x * x / 2
  toU64 := fun x => BitVec.ofInt 64 (truncate x)
  toI32 := fun x => BitVec.ofInt 32 (truncate x)

instance : CFormats ℚ ℚ where
  narrow := id
  ofBits := ratOfBits

/-- A pattern of the format. -/
structure Binary32 where
  bits : BitVec 32
  deriving Repr, DecidableEq

namespace Binary32

/-! ## Patterns -/

/-- The biased exponent and the fraction, as one number. -/
def magnitude (x : Binary32) : Nat := x.bits.toNat % 2 ^ 31

def negative (x : Binary32) : Bool := x.bits.msb

/-- The magnitude of the infinities: the exponent is all ones, and the fraction zero. -/
def infMagnitude : Nat := 255 * 2 ^ 23

def isNaN (x : Binary32) : Bool := decide (infMagnitude < x.magnitude)

def isInf (x : Binary32) : Bool := decide (x.magnitude = infMagnitude)

/-- Where a number stands in the order of the numbers. -/
def key (x : Binary32) : ℤ := if x.negative then -(x.magnitude : ℤ) else x.magnitude

/-- The pattern of a sign and a magnitude. -/
def ofMagnitude (negative : Bool) (magnitude : Nat) : Binary32 :=
  ⟨BitVec.ofNat 32 ((if negative then 2 ^ 31 else 0) + magnitude)⟩

/-- The "not a number" that operations give. -/
def nan : Binary32 := ofMagnitude false (infMagnitude + 2 ^ 22)

def inf (negative : Bool) : Binary32 := ofMagnitude negative infMagnitude

def zero (negative : Bool) : Binary32 := ofMagnitude negative 0

/-- The value of a pattern that is finite. -/
def toRat (x : Binary32) : ℚ := ratOfBits x.bits

/-! ## Comparisons -/

def lt (a b : Binary32) : Bool := !a.isNaN && !b.isNaN && decide (a.key < b.key)

def le (a b : Binary32) : Bool := !a.isNaN && !b.isNaN && decide (a.key ≤ b.key)

def beq (a b : Binary32) : Bool := !a.isNaN && !b.isNaN && decide (a.key = b.key)

variable {a b : Binary32}

theorem lt_iff : lt a b = true ↔ a.isNaN = false ∧ b.isNaN = false ∧ a.key < b.key := by
  simp only [lt, Bool.and_eq_true, Bool.not_eq_true', decide_eq_true_eq, and_assoc]

theorem le_iff : le a b = true ↔ a.isNaN = false ∧ b.isNaN = false ∧ a.key ≤ b.key := by
  simp only [le, Bool.and_eq_true, Bool.not_eq_true', decide_eq_true_eq, and_assoc]

theorem beq_iff : beq a b = true ↔ a.isNaN = false ∧ b.isNaN = false ∧ a.key = b.key := by
  simp only [beq, Bool.and_eq_true, Bool.not_eq_true', decide_eq_true_eq, and_assoc]

/-- Nothing is less than itself. -/
theorem lt_self (a : Binary32) : lt a a = false := by
  cases h : lt a a with
  | false => rfl
  | true => exact absurd (lt_iff.mp h).2.2 (Int.lt_irrefl _)

/-- Of two numbers, what is not less is at least as large. -/
theorem le_total_of_numbers (ha : a.isNaN = false) (hb : b.isNaN = false)
    (hlt : lt a b = false) : le b a = true := by
  refine le_iff.mpr ⟨hb, ha, ?_⟩
  by_contra hkey
  rw [lt_iff.mpr ⟨ha, hb, by omega⟩] at hlt
  cases hlt

/-- A number is equal to itself. -/
theorem beq_of_eq (ha : a.isNaN = false) (h : a = b) : beq a b = true := by
  subst h
  exact beq_iff.mpr ⟨ha, ha, rfl⟩

/-- What compares with something is a number. -/
theorem isNaN_of_le (h : le a b = true) : a.isNaN = false ∧ b.isNaN = false :=
  ⟨(le_iff.mp h).1, (le_iff.mp h).2.1⟩

/-- A comparison with what is not a number is false. -/
theorem lt_nan (h : a.isNaN = true ∨ b.isNaN = true) : lt a b = false := by
  unfold lt
  rcases h with h | h
  · rw [h, Bool.not_true, Bool.false_and, Bool.false_and]
  · rw [h, Bool.not_true, Bool.and_false, Bool.false_and]

theorem beq_nan (h : a.isNaN = true ∨ b.isNaN = true) : beq a b = false := by
  unfold beq
  rcases h with h | h
  · rw [h, Bool.not_true, Bool.false_and, Bool.false_and]
  · rw [h, Bool.not_true, Bool.and_false, Bool.false_and]

/-! ## Rounding -/

/-- Two to the power of an integer. -/
def pow2 : ℤ → ℚ
  | .ofNat n => ((2 ^ n : ℕ) : ℚ)
  | .negSucc n => 1 / ((2 ^ (n + 1) : ℕ) : ℚ)

/-- The exponent of a positive value: `2 ^ e` is at most the value, and `2 ^ (e + 1)` is not. -/
def exponent (x : ℚ) : ℤ :=
  let e : ℤ := (x.num.natAbs.log2 : ℤ) - x.den.log2
  if x < pow2 e then e - 1 else e

/-- The nearest integer to a value that is not negative, ties to even. -/
def roundHalfEven (x : ℚ) : Nat :=
  let below := x.num.natAbs / x.den
  let rest := x - below
  if rest < 1 / 2 then below
  else if 1 / 2 < rest then below + 1
  else if below % 2 = 0 then below
  else below + 1

/-- The magnitude of `significand * 2 ^ (e - 23)`; one that is too large is infinite. -/
def pack (e : ℤ) (significand : Nat) : Nat :=
  min ((e + 126).toNat * 2 ^ 23 + significand) infMagnitude

/-- The magnitude that is nearest to a positive value; no exponent is less than -126. -/
def roundMagnitude (x : ℚ) : Nat :=
  let e := max (exponent x) (-126)
  pack e (roundHalfEven (x / pow2 (e - 23)))

/-- The value that is nearest to a rational number. -/
def ofRat (x : ℚ) : Binary32 :=
  if x = 0 then zero false
  else if x < 0 then ofMagnitude true (roundMagnitude (-x))
  else ofMagnitude false (roundMagnitude x)

/-- The same, with a sign that a zero has too. -/
def ofRatSigned (negative : Bool) (x : ℚ) : Binary32 :=
  if x = 0 then zero negative else ofMagnitude negative (roundMagnitude x)

/-! ## Operations -/

def neg (x : Binary32) : Binary32 := ⟨x.bits ^^^ BitVec.ofNat 32 (2 ^ 31)⟩

def add (a b : Binary32) : Binary32 :=
  if a.isNaN || b.isNaN then nan
  else if a.isInf then if b.isInf && (a.negative != b.negative) then nan else a
  else if b.isInf then b
  else if a.toRat + b.toRat = 0 then zero (a.negative && b.negative)
  else ofRat (a.toRat + b.toRat)

def mul (a b : Binary32) : Binary32 :=
  let negative := a.negative != b.negative
  if a.isNaN || b.isNaN then nan
  else if a.isInf || b.isInf then
    if a.magnitude = 0 ∨ b.magnitude = 0 then nan else inf negative
  else ofRatSigned negative |a.toRat * b.toRat|

def div (a b : Binary32) : Binary32 :=
  let negative := a.negative != b.negative
  if a.isNaN || b.isNaN then nan
  else if a.isInf then if b.isInf then nan else inf negative
  else if b.isInf then zero negative
  else if b.magnitude = 0 then if a.magnitude = 0 then nan else inf negative
  else ofRatSigned negative |a.toRat / b.toRat|

/-- The magnitude of the square root of a positive value, from the square root of an integer. -/
def sqrtMagnitude (x : ℚ) : Nat :=
  let e := exponent x / 2
  let scaled := x * pow2 (46 - 2 * e)
  let below := (scaled.num.natAbs / scaled.den).sqrt
  pack e (if ((below : ℚ) + 1 / 2) ^ 2 < scaled then below + 1 else below)

def sqrt (x : Binary32) : Binary32 :=
  if x.isNaN then nan
  else if x.magnitude = 0 then x
  else if x.negative then nan
  else if x.isInf then x
  else ofMagnitude false (sqrtMagnitude x.toRat)

instance : CFloat Binary32 where
  add := add
  sub := fun a b => add a (neg b)
  mul := mul
  div := div
  neg := neg
  lit := ofRat
  ofInt := fun n => ofRat n
  lt := lt
  le := le
  beq := beq
  sqrt := sqrt
  sin := id
  cos := fun x => add (ofRat 1) (neg (div (mul x x) (ofRat 2)))
  toU64 := fun x => BitVec.ofInt 64 (truncate x.toRat)
  toI32 := fun x => BitVec.ofInt 32 (truncate x.toRat)

/-- One tenth, the largest number, and the least. -/
example : [ofRat 0.1, ofRat ((2 ^ 24 - 1) * 2 ^ 104), ofRat (1 / 2 ^ 149)]
    = [⟨0x3DCCCCCD⟩, ⟨0x7F7FFFFF⟩, ⟨0x00000001⟩] := by decide +kernel

/-- One third times three is one, and the root of two. -/
example : mul (div (ofRat 1) (ofRat 3)) (ofRat 3) = ofRat 1
    ∧ sqrt (ofRat 2) = ⟨0x3FB504F3⟩ := by decide +kernel

end Binary32

end MmIotEsp32.Lib
