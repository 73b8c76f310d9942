import Conformance.Binary64.Basic
import Mathlib.Algebra.Order.Field.Power
import Mathlib.Algebra.Order.Field.Rat
import Mathlib.Tactic.FieldSimp
import Mathlib.Tactic.Linarith
import Mathlib.Tactic.NormNum
import Mathlib.Tactic.Positivity
import Mathlib.Tactic.Ring

/-!
# The exact values of binary64 numbers

A finite number stands for a rational number (`Finite.toRat`), and what the library computes with
signs, mantissas and exponents is a fact about that rational.

* `isWhole_iff`, `truncate_eq`: a number is whole if the rational is an integer, and then truncation
  gives the integer.  In the ranges of the 64-bit integers the conversions are exact as well
  (`toInt_toInt64`, `toNat_toUInt64`).
* **`beq_iff_toRat_eq`**: numeric equality is equality of the rationals.  What it needs is that a
  magnitude has one canonical spelling (`eq_of_magnitude_eq`).  `lt_iff_toRat_lt` and
  `finite_le_finite_iff` are the same for order.
* `Finite.unsignZero` drops the sign of a zero.  It picks one number of each value
  (`unsignZero_eq_iff`).
* `Equal` is numeric equality of all numbers as a relation.
-/

namespace Conformance.Binary64

/-! ## Powers of two -/

lemma cast_shiftLeft (m k : ℕ) : ((m <<< k : ℕ) : ℚ) = m * 2 ^ k := by
  rw [Nat.shiftLeft_eq]
  push_cast
  rfl

/-- A shift in one of the two directions multiplies by a power of two. -/
lemma two_zpow_eq_div (e : ℤ) : (2 : ℚ) ^ e = 2 ^ e.toNat / 2 ^ (-e).toNat := by
  rcases le_total 0 e with nonneg | nonpos
  · rw [Int.toNat_of_nonpos (by omega : -e ≤ 0), pow_zero, div_one, ← zpow_natCast,
      Int.toNat_of_nonneg nonneg]
  · rw [Int.toNat_of_nonpos nonpos, pow_zero, one_div, ← zpow_natCast,
      Int.toNat_of_nonneg (by omega : 0 ≤ -e), zpow_neg, inv_inv]

namespace Finite

/-! ## The value of a number -/

/-- The magnitude of a number. -/
def magnitude (x : Finite) : ℚ :=
  x.mantissa * 2 ^ x.exponent

/-- The rational that a number is. -/
def toRat (x : Finite) : ℚ :=
  if x.negative then -x.magnitude else x.magnitude

lemma mantissa_lt (x : Finite) : x.mantissa < 2 ^ 53 := by
  rcases x.canonical with ⟨small, -⟩ | ⟨-, small, -⟩ <;> omega

lemma le_exponent (x : Finite) : -1074 ≤ x.exponent := by
  rcases x.canonical with ⟨-, least⟩ | ⟨-, -, least, -⟩ <;> omega

lemma magnitude_nonneg (x : Finite) : 0 ≤ x.magnitude := by
  unfold magnitude
  positivity

lemma magnitude_eq_zero_iff {x : Finite} : x.magnitude = 0 ↔ x.mantissa = 0 := by
  have power : (2 : ℚ) ^ x.exponent ≠ 0 := by positivity
  simp [magnitude, power]

lemma abs_toRat (x : Finite) : |x.toRat| = x.magnitude := by
  unfold toRat
  split
  · rw [abs_neg, abs_of_nonneg x.magnitude_nonneg]
  · rw [abs_of_nonneg x.magnitude_nonneg]

/-- Numerator and denominator give the magnitude. -/
lemma num_div_den (x : Finite) : (x.num : ℚ) / x.den = x.magnitude := by
  rw [num, den, cast_shiftLeft, cast_shiftLeft, magnitude, two_zpow_eq_div]
  push_cast
  ring

@[simp] lemma toRat_zero (negative : Bool) : (zero negative).toRat = 0 := by
  simp [toRat, magnitude, zero]

/-! ## Integers -/

lemma magnitude_eq_natCast_iff {x : Finite} {n : ℕ} :
    x.magnitude = n ↔ x.num = n * x.den := by
  have positive : (x.den : ℚ) ≠ 0 := by exact_mod_cast x.den_pos.ne'
  rw [← num_div_den, div_eq_iff positive]
  exact_mod_cast Iff.rfl

lemma magnitude_eq_natAbs {x : Finite} {n : ℤ} (whole : x.toRat = n) : x.magnitude = n.natAbs := by
  rw [← abs_toRat, whole, Nat.cast_natAbs, Int.cast_abs]

/-- **A number without a fraction is an integer.** -/
lemma isWhole_iff {x : Finite} : x.isWhole = true ↔ ∃ n : ℤ, x.toRat = n := by
  rw [isWhole, beq_iff_eq, ← Nat.dvd_iff_mod_eq_zero]
  constructor
  · rintro ⟨k, divides⟩
    have magnitude_eq : x.magnitude = k := magnitude_eq_natCast_iff.2 (by rw [divides, mul_comm])
    rw [toRat, magnitude_eq]
    split
    · exact ⟨-k, by push_cast; rfl⟩
    · exact ⟨k, rfl⟩
  · rintro ⟨n, whole⟩
    exact ⟨n.natAbs, by rw [magnitude_eq_natCast_iff.1 (magnitude_eq_natAbs whole), mul_comm]⟩

/-- **An integer loses nothing when it is truncated.** -/
lemma truncate_eq {x : Finite} {n : ℤ} (whole : x.toRat = n) : x.truncate = n := by
  obtain ⟨k, magnitude_eq⟩ : ∃ k : ℕ, x.magnitude = k := ⟨_, magnitude_eq_natAbs whole⟩
  have quotient : x.num / x.den = k := by
    rw [magnitude_eq_natCast_iff.1 magnitude_eq, Nat.mul_div_cancel _ x.den_pos]
  rw [toRat, magnitude_eq] at whole
  rw [truncate, quotient]
  cases sign : x.negative with
  | false =>
    rw [sign, if_neg Bool.false_ne_true] at whole
    rw [if_neg Bool.false_ne_true]
    exact_mod_cast whole
  | true =>
    rw [sign, if_pos rfl] at whole
    rw [if_pos rfl]
    exact_mod_cast whole

/-- The conversion of an integer in the signed range is exact. -/
lemma toInt_toInt64 {x : Finite} {n : ℤ} (whole : x.toRat = n) (least : -2 ^ 63 ≤ n)
    (greatest : n < 2 ^ 63) : x.toInt64.toInt = n := by
  rw [toInt64, truncate_eq whole]
  exact Int64.toInt_ofIntClamp least (Int.le_sub_one_of_lt greatest)

/-- The conversion of an integer in the unsigned range is exact. -/
lemma toNat_toUInt64 {x : Finite} {n : ℤ} (whole : x.toRat = n) (least : 0 ≤ n)
    (greatest : n < 2 ^ 64) : (x.toUInt64.toNat : ℤ) = n := by
  have small : n.toNat < UInt64.size := by
    rw [UInt64.size]
    omega
  rw [toUInt64, truncate_eq whole, UInt64.toNat_ofNatClamp_of_lt small, Int.toNat_of_nonneg least]

/-! ## Order -/

lemma signedNum_div_den (x : Finite) : (x.signedNum : ℚ) / x.den = x.toRat := by
  rw [signedNum, toRat, ← num_div_den]
  split <;> push_cast
  · rw [neg_div]
  · rfl

/-- **Numeric order is the order of the values.** -/
lemma lt_iff_toRat_lt {x y : Finite} : x.lt y = true ↔ x.toRat < y.toRat := by
  have x_pos : (0 : ℚ) < x.den := by exact_mod_cast x.den_pos
  have y_pos : (0 : ℚ) < y.den := by exact_mod_cast y.den_pos
  rw [lt, decide_eq_true_iff, ← x.signedNum_div_den, ← y.signedNum_div_den,
    div_lt_div_iff₀ x_pos y_pos]
  exact_mod_cast Iff.rfl

/-! ## One canonical spelling for each value -/

/-- The lower of two exponents cannot spell what the greater one spells: it would need more than
53 bits. -/
lemma not_exponent_lt {x y : Finite} (same : x.magnitude = y.magnitude) :
    ¬ x.exponent < y.exponent := by
  intro lower
  have full : 2 ^ 52 ≤ y.mantissa := by
    have := x.le_exponent
    rcases y.canonical with ⟨-, least⟩ | ⟨full, -⟩ <;> omega
  have difference : (y.exponent : ℤ) = x.exponent + ((y.exponent - x.exponent).toNat : ℕ) := by
    omega
  have spelled : x.mantissa = y.mantissa * 2 ^ (y.exponent - x.exponent).toNat := by
    have power : (2 : ℚ) ^ x.exponent ≠ 0 := by positivity
    rw [magnitude, magnitude, difference, zpow_add₀ (by norm_num), zpow_natCast] at same
    have cancelled : (x.mantissa : ℚ) = y.mantissa * 2 ^ (y.exponent - x.exponent).toNat :=
      mul_right_cancel₀ power (by rw [same]; ring)
    exact_mod_cast cancelled
  have doubled : 2 ^ 1 ≤ 2 ^ (y.exponent - x.exponent).toNat :=
    Nat.pow_le_pow_right (by decide) (by omega)
  have := Nat.mul_le_mul full doubled
  have := x.mantissa_lt
  omega

/-- **A magnitude has one canonical spelling.** -/
lemma eq_of_magnitude_eq {x y : Finite} (same : x.magnitude = y.magnitude) :
    x.mantissa = y.mantissa ∧ x.exponent = y.exponent := by
  have exponents : x.exponent = y.exponent :=
    le_antisymm (not_lt.1 (not_exponent_lt same.symm)) (not_lt.1 (not_exponent_lt same))
  have power : (2 : ℚ) ^ y.exponent ≠ 0 := by positivity
  rw [magnitude, magnitude, exponents] at same
  exact ⟨by exact_mod_cast mul_right_cancel₀ power same, exponents⟩

lemma toRat_eq_iff {x y : Finite} :
    x.toRat = y.toRat ↔
      x.mantissa = y.mantissa ∧ x.exponent = y.exponent ∧
        (x.negative = y.negative ∨ x.mantissa = 0) := by
  constructor
  · intro same
    have magnitudes : x.magnitude = y.magnitude := by rw [← abs_toRat, same, abs_toRat]
    obtain ⟨mantissas, exponents⟩ := eq_of_magnitude_eq magnitudes
    refine ⟨mantissas, exponents, or_iff_not_imp_left.2 fun signs => ?_⟩
    -- A number that equals its negation is zero.
    rw [← magnitude_eq_zero_iff]
    rw [toRat, toRat, ← magnitudes] at same
    revert signs same
    cases x.negative <;> cases y.negative <;> intro same signs
    · exact (signs rfl).elim
    · exact self_eq_neg.1 same
    · exact neg_eq_self.1 same
    · exact (signs rfl).elim
  · rintro ⟨mantissas, exponents, signs⟩
    have magnitudes : x.magnitude = y.magnitude := by rw [magnitude, mantissas, exponents, magnitude]
    rw [toRat, toRat, magnitudes]
    rcases signs with same | none
    · rw [same]
    · rw [← magnitudes, magnitude_eq_zero_iff.2 none]
      simp

/-- **Numeric equality is equality of the values.** -/
lemma beq_iff_toRat_eq {x y : Finite} : x.beq y = true ↔ x.toRat = y.toRat := by
  rw [toRat_eq_iff, beq]
  simp [and_assoc]

/-! ## Zeros without their sign -/

/-- The number itself, but the positive zero for either zero. -/
def unsignZero (x : Finite) : Finite :=
  if x.mantissa = 0 then zero false else x

@[simp] lemma toRat_unsignZero (x : Finite) : x.unsignZero.toRat = x.toRat := by
  unfold unsignZero
  split
  · rename_i none
    have value : |x.toRat| = 0 := by rw [abs_toRat, magnitude_eq_zero_iff.2 none]
    rw [toRat_zero, abs_eq_zero.1 value]
  · rfl

lemma unsignZero_of_toRat_ne_zero {x : Finite} (nonzero : x.toRat ≠ 0) : x.unsignZero = x := by
  rw [unsignZero, if_neg]
  intro none
  rw [← abs_pos, abs_toRat, magnitude_eq_zero_iff.2 none] at nonzero
  exact nonzero.false

/-- Numbers of one value differ in nothing but the sign of zero. -/
lemma unsignZero_eq_iff {x y : Finite} : x.unsignZero = y.unsignZero ↔ x.toRat = y.toRat := by
  refine ⟨fun same => by rw [← toRat_unsignZero, same, toRat_unsignZero], fun same => ?_⟩
  obtain ⟨mantissas, exponents, signs⟩ := toRat_eq_iff.1 same
  unfold unsignZero
  by_cases none : x.mantissa = 0
  · rw [if_pos none, if_pos (mantissas ▸ none)]
  · rw [if_neg none, if_neg (mantissas ▸ none)]
    obtain ⟨negative, mantissa, exponent, canonical⟩ := x
    obtain ⟨negative', mantissa', exponent', canonical'⟩ := y
    simp_all

end Finite

/-- The number with the positive zero in place of the negative one. -/
def unsignZero : Binary64 → Binary64
  | finite x => finite x.unsignZero
  | infinite negative => infinite negative
  | nan => nan

/-- The sign of a zero makes no difference to numeric equality. -/
lemma unsignZero_beq (x y : Binary64) : (x.unsignZero == y) = (x == y) := by
  cases x with
  | finite x =>
    cases y with
    | finite y =>
      show x.unsignZero.beq y = x.beq y
      rw [Bool.eq_iff_iff, Finite.beq_iff_toRat_eq, Finite.beq_iff_toRat_eq, Finite.toRat_unsignZero]
    | infinite negative => rfl
    | nan => rfl
  | infinite negative => rfl
  | nan => rfl

lemma beq_unsignZero (x y : Binary64) : (x == y.unsignZero) = (x == y) := by
  cases y with
  | finite y =>
    cases x with
    | finite x =>
      show x.beq y.unsignZero = x.beq y
      rw [Bool.eq_iff_iff, Finite.beq_iff_toRat_eq, Finite.beq_iff_toRat_eq, Finite.toRat_unsignZero]
    | infinite negative => rfl
    | nan => rfl
  | infinite negative => rfl
  | nan => rfl

/-! ## Order of finite numbers -/

lemma finite_lt_finite_iff {x y : Finite} : finite x < finite y ↔ x.toRat < y.toRat :=
  Finite.lt_iff_toRat_lt

lemma finite_le_finite_iff {x y : Finite} : finite x ≤ finite y ↔ x.toRat ≤ y.toRat := by
  rw [le_iff_lt_or_eq, ← Finite.lt_iff_toRat_lt, ← Finite.beq_iff_toRat_eq]
  exact Iff.rfl

/-! ## Equal numbers -/

/-- Equality of numbers: finite numbers of one value, or the same infinity.  **Not-a-number is equal to
nothing.** -/
inductive Equal : Binary64 → Binary64 → Prop
  | finite {x y : Finite} (same : x.toRat = y.toRat) : Equal (.finite x) (.finite y)
  | infinite (negative : Bool) : Equal (.infinite negative) (.infinite negative)

lemma beq_iff_equal {x y : Binary64} : (x == y) = true ↔ x.Equal y := by
  constructor
  · intro same
    cases x with
    | nan => cases same
    | infinite s =>
      cases y with
      | infinite t =>
        rw [show s = t from eq_of_beq same]
        exact .infinite t
      | _ => cases same
    | finite x =>
      cases y with
      | finite y => exact .finite (Finite.beq_iff_toRat_eq.1 same)
      | _ => cases same
  · intro equal
    cases equal with
    | finite same => exact Finite.beq_iff_toRat_eq.2 same
    | infinite s => exact beq_self_eq_true s

lemma Equal.symm {x y : Binary64} (equal : x.Equal y) : y.Equal x := by
  cases equal with
  | finite same => exact .finite same.symm
  | infinite s => exact .infinite s

lemma Equal.trans {x y z : Binary64} (equal : x.Equal y) (equal' : y.Equal z) : x.Equal z := by
  cases equal with
  | finite same =>
    cases equal' with
    | finite same' => exact .finite (same.trans same')
  | infinite s => exact equal'

/-- Equal numbers are equal to the same numbers. -/
lemma Equal.beq_left {x y : Binary64} (equal : x.Equal y) (z : Binary64) : (x == z) = (y == z) := by
  rw [Bool.eq_iff_iff, beq_iff_equal, beq_iff_equal]
  exact ⟨equal.symm.trans, equal.trans⟩

/-- The same numbers are equal to equal numbers. -/
lemma Equal.beq_right {x y : Binary64} (equal : x.Equal y) (z : Binary64) : (z == x) = (z == y) := by
  rw [Bool.eq_iff_iff, beq_iff_equal, beq_iff_equal]
  exact ⟨fun left => left.trans equal, fun right => right.trans equal.symm⟩

end Conformance.Binary64
