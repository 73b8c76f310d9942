import Conformance.Binary64.Rounding
import Conformance.Proofs.Binary64.Value
import Mathlib.Algebra.Ring.Parity
import Mathlib.Data.Nat.Log

/-!
# Rounding gives the nearest number

`Binary64.nearest` computes with shifts and remainders.  This file says what it computes:
**no binary64 number is nearer to the ratio, and of two equally near ones the mantissa is even**
(`Finite.Nearest`).

The argument has three parts.  The exponent is the logarithm of the ratio (`floorLog2_spec`), so that
the mantissa has 53 bits; the mantissa is the nearest integer (`roundsTo_roundQuotient`), so that
nothing on the grid of that exponent is nearer; and what is not on the grid lies below all numbers
with a full mantissa, so that it is not nearer either (`RoundsTo.closest_of_representable`).

An integer of at most 64 bits is never infinite (`exists_ofInt_eq_finite`).  The greatest ones of
64 bits are rounded to powers of two (`lt_ofInt64_maxValue_iff`, `lt_ofUInt64_max_iff`).
-/

namespace Conformance.Binary64

/-! ## What nearest means -/

/-- No finite number is nearer to `r` than `x`, and if another one is equally near, `x` is the one
with an even mantissa. -/
structure Finite.Nearest (x : Finite) (r : ℚ) : Prop where
  closest : ∀ y : Finite, |x.toRat - r| ≤ |y.toRat - r|
  tie : ∀ y : Finite, |x.toRat - r| = |y.toRat - r| → x.toRat = y.toRat ∨ Even x.mantissa

/-- Every number is nearest to itself. -/
lemma Finite.nearest_toRat (x : Finite) : x.Nearest x.toRat where
  closest y := by rw [sub_self, abs_zero]; exact abs_nonneg _
  tie y same := by
    rw [sub_self, abs_zero, eq_comm, abs_eq_zero, sub_eq_zero] at same
    exact Or.inl same.symm

/-- Nothing but the number itself is nearest to a number. -/
lemma Finite.Nearest.toRat_eq {x y : Finite} (nearest : x.Nearest y.toRat) :
    x.toRat = y.toRat := by
  have closest := nearest.closest y
  rw [sub_self, abs_zero] at closest
  exact sub_eq_zero.1 (abs_eq_zero.1 (le_antisymm closest (abs_nonneg _)))

/-! ## Rounding to an integer -/

/-- `m` is an integer nearest to `q`, and the even one if there are two. -/
structure RoundsTo (m : ℕ) (q : ℚ) : Prop where
  error : |(m : ℚ) - q| ≤ 1 / 2
  tie : |(m : ℚ) - q| = 1 / 2 → Even m

/-- **A quotient is rounded to the nearest integer.** -/
lemma roundsTo_roundQuotient (a b : ℕ) (positive : 0 < b) :
    RoundsTo (roundQuotient a b) ((a : ℚ) / b) := by
  have positive' : (0 : ℚ) < b := by exact_mod_cast positive
  have split : (a : ℚ) / b = (a / b : ℕ) + ((a % b : ℕ) : ℚ) / b := by
    rw [eq_comm, ← mul_div_cancel_right₀ ((a / b : ℕ) : ℚ) positive'.ne', ← add_div]
    congr 1
    exact_mod_cast Nat.div_add_mod' a b
  have part_lt : ((a % b : ℕ) : ℚ) / b < 1 := by
    rw [div_lt_one positive']
    exact_mod_cast Nat.mod_lt a positive
  rw [split, roundQuotient]
  generalize a / b = quotient
  generalize a % b = remainder at part_lt ⊢
  have nonneg : (0 : ℚ) ≤ (remainder : ℚ) / b := by positivity
  have below : 2 * remainder < b ↔ (remainder : ℚ) / b < 1 / 2 := by
    rw [div_lt_div_iff₀ positive' two_pos, one_mul, mul_comm]
    exact_mod_cast Iff.rfl
  have above : b < 2 * remainder ↔ 1 / 2 < (remainder : ℚ) / b := by
    rw [div_lt_div_iff₀ two_pos positive', one_mul, mul_comm]
    exact_mod_cast Iff.rfl
  split_ifs with low high
  · rw [below] at low
    have distance : |(quotient : ℚ) - (quotient + remainder / b)| = remainder / b := by
      rw [sub_add_cancel_left, abs_neg, abs_of_nonneg nonneg]
    exact ⟨by rw [distance]; exact low.le, fun half => by rw [distance] at half; linarith⟩
  · rw [above] at high
    have distance : |((quotient + 1 : ℕ) : ℚ) - (quotient + remainder / b)| =
        1 - remainder / b := by
      push_cast
      rw [add_sub_add_left_eq_sub, abs_of_pos (by linarith)]
    exact ⟨by rw [distance]; linarith, fun half => by rw [distance] at half; linarith⟩
  · have half : (remainder : ℚ) / b = 1 / 2 :=
      le_antisymm (not_lt.1 (mt above.2 high)) (not_lt.1 (mt below.2 low))
    rw [half]
    -- Half way between two integers: the remainder of the quotient makes it even.
    have even : Even (quotient + quotient % 2) := by
      rw [Nat.even_iff]
      omega
    refine ⟨?_, fun _ => even⟩
    rcases Nat.mod_two_eq_zero_or_one quotient with parity | parity <;> rw [parity] <;>
      norm_num [abs_of_pos]

namespace RoundsTo

variable {m : ℕ} {q : ℚ}

/-- Rounding does not pass an integer. -/
lemma le_of_le (rounds : RoundsTo m q) {k : ℕ} (le : (k : ℚ) ≤ q) : k ≤ m := by
  have error := abs_le.1 rounds.error
  have : (k : ℚ) < m + 1 := by linarith
  exact Nat.lt_succ_iff.1 (by exact_mod_cast this)

lemma le_of_ge (rounds : RoundsTo m q) {k : ℕ} (le : q ≤ k) : m ≤ k := by
  have error := abs_le.1 rounds.error
  have : (m : ℚ) < k + 1 := by linarith
  exact Nat.lt_succ_iff.1 (by exact_mod_cast this)

/-- No integer is nearer. -/
lemma closest (rounds : RoundsTo m q) (j : ℤ) :
    |(m : ℚ) - q| ≤ |(j : ℚ) - q| ∧ (|(m : ℚ) - q| = |(j : ℚ) - q| → j = m ∨ Even m) := by
  by_cases same : j = m
  · subst same
    exact ⟨le_of_eq (by norm_cast), fun _ => Or.inl rfl⟩
  · -- Another integer is at least one away from `m`, and so at least a half from `q`.
    have apart : (1 : ℚ) ≤ |(j : ℚ) - m| := by
      exact_mod_cast Int.one_le_abs (sub_ne_zero.2 same)
    have through := abs_sub_le (j : ℚ) q m
    rw [abs_sub_comm q] at through
    have error := rounds.error
    exact ⟨by linarith, fun equal => Or.inr (rounds.tie (by linarith))⟩

end RoundsTo

/-! ## The exponent -/

/-- Shifting by an exponent compares a ratio with the power of two. -/
lemma shiftLeft_le_shiftLeft_iff {num den : ℕ} (positive : 0 < den) (e : ℤ) :
    den <<< e.toNat ≤ num <<< (-e).toNat ↔ (2 : ℚ) ^ e ≤ num / den := by
  have positive' : (0 : ℚ) < den := by exact_mod_cast positive
  rw [two_zpow_eq_div, div_le_div_iff₀ (by positivity) positive', mul_comm, ← cast_shiftLeft,
    ← cast_shiftLeft, Nat.cast_le]

/-- **The exponent is the logarithm of the ratio, rounded down.** -/
lemma floorLog2_spec {num den : ℕ} (num_pos : 0 < num) (den_pos : 0 < den) :
    (2 : ℚ) ^ floorLog2 num den ≤ num / den ∧ (num : ℚ) / den < 2 ^ (floorLog2 num den + 1) := by
  have den_pos' : (0 : ℚ) < den := by exact_mod_cast den_pos
  have num_ge : (2 : ℚ) ^ (num.log2 : ℤ) ≤ num := by
    exact_mod_cast Nat.log2_self_le num_pos.ne'
  have num_lt : (num : ℚ) < 2 ^ ((num.log2 : ℤ) + 1) := by exact_mod_cast Nat.lt_log2_self
  have den_ge : (2 : ℚ) ^ (den.log2 : ℤ) ≤ den := by
    exact_mod_cast Nat.log2_self_le den_pos.ne'
  have den_lt : (den : ℚ) < 2 ^ ((den.log2 : ℤ) + 1) := by exact_mod_cast Nat.lt_log2_self
  have lower : (2 : ℚ) ^ ((num.log2 : ℤ) - den.log2 - 1) ≤ num / den := by
    rw [le_div_iff₀ den_pos']
    calc (2 : ℚ) ^ ((num.log2 : ℤ) - den.log2 - 1) * den
        ≤ 2 ^ ((num.log2 : ℤ) - den.log2 - 1) * 2 ^ ((den.log2 : ℤ) + 1) := by gcongr
      _ = 2 ^ (num.log2 : ℤ) := by rw [← zpow_add₀ two_ne_zero]; congr 1; ring
      _ ≤ num := num_ge
  have upper : (num : ℚ) / den < 2 ^ ((num.log2 : ℤ) - den.log2 + 1) := by
    rw [div_lt_iff₀ den_pos']
    calc (num : ℚ) < 2 ^ ((num.log2 : ℤ) + 1) := num_lt
      _ = 2 ^ ((num.log2 : ℤ) - den.log2 + 1) * 2 ^ (den.log2 : ℤ) := by
        rw [← zpow_add₀ two_ne_zero]; congr 1; ring
      _ ≤ 2 ^ ((num.log2 : ℤ) - den.log2 + 1) * den := by gcongr
  unfold floorLog2
  dsimp only
  split
  · rename_i fits
    exact ⟨(shiftLeft_le_shiftLeft_iff den_pos _).1 fits, upper⟩
  · rename_i exceeds
    rw [sub_add_cancel]
    exact ⟨lower, not_le.1 (mt (shiftLeft_le_shiftLeft_iff den_pos _).2 exceeds)⟩

lemma shiftLeft_div_shiftLeft (num den : ℕ) (e : ℤ) :
    ((num <<< (-e).toNat : ℕ) : ℚ) / (den <<< e.toNat : ℕ) = num / den / 2 ^ e := by
  rw [cast_shiftLeft, cast_shiftLeft, two_zpow_eq_div]
  field_simp

/-! ## Numbers on the grid of an exponent and below it -/

/-- The values of finite numbers, but for an upper limit on the exponent. -/
def Representable (v : ℚ) : Prop :=
  ∃ (k : ℤ) (e : ℤ), |k| < 2 ^ 53 ∧ -1074 ≤ e ∧ v = k * 2 ^ e

lemma Representable.neg {v : ℚ} (representable : Representable v) : Representable (-v) := by
  obtain ⟨k, e, small, least, rfl⟩ := representable
  exact ⟨-k, e, by rwa [abs_neg], least, by push_cast; ring⟩

lemma Finite.representable_toRat (x : Finite) : Representable x.toRat := by
  have representable : Representable x.magnitude := by
    refine ⟨x.mantissa, x.exponent, ?_, x.le_exponent, by rw [magnitude]; norm_cast⟩
    rw [Nat.abs_cast]
    exact_mod_cast x.mantissa_lt
  rw [toRat]
  split
  · exact representable.neg
  · exact representable

/-- **No number is nearer than the nearest integer on a grid fine enough**: what is not on the grid
has a lower exponent, and so lies below the numbers with a full mantissa. -/
lemma RoundsTo.closest_of_representable {m : ℕ} {r v : ℚ} {e : ℤ} (rounds : RoundsTo m (r / 2 ^ e))
    (full : -1074 < e → 2 ^ (e + 52) ≤ r) (representable : Representable v) :
    |(m : ℚ) * 2 ^ e - r| ≤ |v - r| ∧
      (|(m : ℚ) * 2 ^ e - r| = |v - r| → m * 2 ^ e = v ∨ Even m) := by
  obtain ⟨k, f, small, least, rfl⟩ := representable
  have power : (0 : ℚ) < 2 ^ e := by positivity
  have scale (x : ℚ) : |x * 2 ^ e - r| = |x - r / 2 ^ e| * 2 ^ e := by
    rw [← abs_of_pos power, ← abs_mul, abs_of_pos power, sub_mul, div_mul_cancel₀ _ power.ne']
  by_cases onGrid : e ≤ f
  · have gridPoint : (k : ℚ) * 2 ^ f = ((k * 2 ^ (f - e).toNat : ℤ) : ℚ) * 2 ^ e := by
      push_cast
      rw [← zpow_natCast, Int.toNat_of_nonneg (by omega), mul_assoc, ← zpow_add₀ two_ne_zero,
        sub_add_cancel]
    rw [gridPoint, scale, scale]
    obtain ⟨closest, tie⟩ := rounds.closest (k * 2 ^ (f - e).toNat)
    refine ⟨mul_le_mul_of_nonneg_right closest power.le, fun equal => ?_⟩
    refine (tie (mul_right_cancel₀ power.ne' equal)).imp_left fun same => ?_
    rw [same]
    norm_cast
  · have r_ge := full (by omega)
    have below : (k : ℚ) * 2 ^ f < 2 ^ (e + 52) := by
      have k_lt : (k : ℚ) < 2 ^ (53 : ℤ) := by exact_mod_cast (abs_lt.1 small).2
      calc (k : ℚ) * 2 ^ f < 2 ^ (53 : ℤ) * 2 ^ f := by gcongr
        _ = 2 ^ (f + 53) := by rw [← zpow_add₀ two_ne_zero, add_comm]
        _ ≤ 2 ^ (e + 52) := zpow_le_zpow_right₀ one_le_two (by omega)
    have least_full : (((2 ^ 52 : ℕ) : ℤ) : ℚ) * 2 ^ e = 2 ^ (e + 52) := by
      rw [zpow_add₀ two_ne_zero, mul_comm]
      norm_cast
    have nearer := mul_le_mul_of_nonneg_right (rounds.closest ((2 ^ 52 : ℕ) : ℤ)).1 power.le
    rw [← scale, ← scale, least_full,
      abs_of_nonpos (by linarith : (2 : ℚ) ^ (e + 52) - r ≤ 0)] at nearer
    have strict : |(m : ℚ) * 2 ^ e - r| < |(k : ℚ) * 2 ^ f - r| := by
      rw [abs_of_nonpos (by linarith : (k : ℚ) * 2 ^ f - r ≤ 0)]
      linarith
    exact ⟨strict.le, fun equal => (strict.ne equal).elim⟩

/-! ## The nearest number -/

/-- A mantissa of at most 53 bits, or the next power of two, is spelled canonically. -/
lemma exists_ofParts_eq_finite (negative : Bool) {m : ℕ} {e : ℤ} (m_le : m ≤ 2 ^ 53)
    (least : -1074 ≤ e) (greatest : e ≤ 970) (full : -1074 < e → 2 ^ 52 ≤ m) :
    ∃ x, ofParts negative m e = finite x ∧ x.negative = negative ∧ x.magnitude = m * 2 ^ e ∧
      (Even m → Even x.mantissa) := by
  unfold ofParts
  dsimp only
  by_cases carried : m = 2 ^ 53
  · have canonical : Canonical (2 ^ 52) (e + 1) := .inr (by omega)
    subst carried
    refine ⟨⟨negative, 2 ^ 52, e + 1, canonical⟩, ?_, rfl, ?_, fun _ => ⟨2 ^ 51, by norm_num⟩⟩
    · rw [dif_pos (by simpa using canonical)]
      simp
    · rw [Finite.magnitude, zpow_add_one₀ two_ne_zero]
      push_cast
      ring
  · have canonical : Canonical m e := by
      rcases least.eq_or_lt with rfl | greater
      · by_cases small : m < 2 ^ 52
        · exact .inl ⟨small, rfl⟩
        · exact .inr (by omega)
      · have := full greater
        exact .inr (by omega)
    refine ⟨⟨negative, m, e, canonical⟩, ?_, rfl, rfl, id⟩
    have kept : m ≠ 0x20_0000_0000_0000 := carried
    simp only [kept, if_false, dif_pos canonical]

/-- The number with the rounded mantissa is the nearest one, on either side of zero. -/
lemma RoundsTo.finite_nearest {m : ℕ} {r : ℚ} {e : ℤ} (rounds : RoundsTo m (r / 2 ^ e))
    (full : -1074 < e → 2 ^ (e + 52) ≤ r) {x : Finite} (magnitude : x.magnitude = m * 2 ^ e)
    (even : Even m → Even x.mantissa) : x.Nearest (if x.negative then -r else r) := by
  cases sign : x.negative with
  | false =>
    have value : x.toRat = m * 2 ^ e := by rw [Finite.toRat, sign, ← magnitude]; rfl
    have closest (y : Finite) := rounds.closest_of_representable full y.representable_toRat
    constructor
    case closest => exact fun y => by rw [value]; exact (closest y).1
    case tie =>
      intro y equal
      rw [value] at equal ⊢
      exact ((closest y).2 equal).imp_right even
  | true =>
    -- Both sides are mirrored at zero.
    have value : x.toRat = -(m * 2 ^ e) := by rw [Finite.toRat, sign, ← magnitude]; rfl
    have mirror (v : ℚ) : |v - -r| = |-v - r| := by
      rw [← abs_neg]
      congr 1
      ring
    have closest (y : Finite) := rounds.closest_of_representable full y.representable_toRat.neg
    constructor
    case closest =>
      intro y
      rw [value, if_pos rfl, mirror, mirror, neg_neg]
      exact (closest y).1
    case tie =>
      intro y equal
      rw [value, if_pos rfl, mirror, mirror, neg_neg] at equal
      rw [value]
      exact ((closest y).2 equal).imp (fun same => by rw [same, neg_neg]) even

/-- **The result of rounding a ratio is the nearest number.**  Ratios this far below the greatest
number are not rounded to infinity. -/
lemma exists_nearest_eq_finite (negative : Bool) {num den : ℕ} (num_pos : 0 < num)
    (den_pos : 0 < den) (small : (num : ℚ) / den < 2 ^ (1023 : ℤ)) :
    ∃ x, nearest negative num den = finite x ∧
      x.Nearest (if negative then -(num / den : ℚ) else num / den) := by
  obtain ⟨log_le, lt_log⟩ := floorLog2_spec num_pos den_pos
  have log_lt : floorLog2 num den < 1023 :=
    (zpow_lt_zpow_iff_right₀ one_lt_two).1 (lt_of_le_of_lt log_le small)
  rw [nearest, if_neg num_pos.ne']
  dsimp only
  generalize exponent : max (-1074) (floorLog2 num den - 52) = e
  have rounds : RoundsTo (roundQuotient (num <<< (-e).toNat) (den <<< e.toNat))
      (num / den / 2 ^ e) := by
    rw [← shiftLeft_div_shiftLeft]
    exact roundsTo_roundQuotient _ _ (by rw [Nat.shiftLeft_eq]; positivity)
  generalize roundQuotient (num <<< (-e).toNat) (den <<< e.toNat) = m at rounds
  have power : (0 : ℚ) < 2 ^ e := by positivity
  have full : -1074 < e → (2 : ℚ) ^ (e + 52) ≤ num / den := fun greater => by
    have : e + 52 = floorLog2 num den := by omega
    rwa [this]
  have m_le : m ≤ 2 ^ 53 := by
    refine rounds.le_of_ge ?_
    rw [div_le_iff₀ power]
    calc (num : ℚ) / den ≤ 2 ^ (floorLog2 num den + 1) := lt_log.le
      _ ≤ 2 ^ (53 + e) := zpow_le_zpow_right₀ one_le_two (by omega)
      _ = (2 ^ 53 : ℕ) * 2 ^ e := by rw [zpow_add₀ two_ne_zero]; norm_cast
  have m_ge : -1074 < e → 2 ^ 52 ≤ m := fun greater => by
    refine rounds.le_of_le ?_
    rw [le_div_iff₀ power]
    refine le_of_eq_of_le ?_ (full greater)
    rw [zpow_add₀ two_ne_zero, mul_comm]
    norm_cast
  obtain ⟨x, spelled, rfl, magnitude, even⟩ :=
    exists_ofParts_eq_finite negative m_le (by omega) (by omega) m_ge
  exact ⟨x, spelled, rounds.finite_nearest full magnitude even⟩

/-! ## Integers -/

/-- **An integer of at most 64 bits is rounded to the nearest number.** -/
lemma exists_ofInt_eq_finite {n : ℤ} (small : |n| ≤ 2 ^ 64) :
    ∃ x, ofInt n = finite x ∧ x.Nearest n := by
  rcases eq_or_ne n 0 with rfl | nonzero
  · refine ⟨.zero false, rfl, ?_⟩
    have zero := Finite.nearest_toRat (.zero false)
    rwa [Finite.toRat_zero] at zero
  · have bound : (n.natAbs : ℚ) / (1 : ℕ) < 2 ^ (1023 : ℤ) := by
      have small' : (n.natAbs : ℚ) ≤ 2 ^ (64 : ℤ) := by
        rw [Nat.cast_natAbs]
        exact_mod_cast small
      rw [Nat.cast_one, div_one]
      exact lt_of_le_of_lt small' (zpow_lt_zpow_right₀ one_lt_two (by norm_num))
    obtain ⟨x, rounded, nearest⟩ := exists_nearest_eq_finite (decide (n < 0))
      (Int.natAbs_pos.2 nonzero) one_pos bound
    refine ⟨x, rounded, ?_⟩
    rw [Nat.cast_one, div_one, Nat.cast_natAbs] at nearest
    rcases lt_or_ge n 0 with negative | nonneg
    · rw [if_pos (by simpa using negative), abs_of_neg negative] at nearest
      simpa using nearest
    · rw [if_neg (by simpa using nonneg), abs_of_nonneg nonneg] at nearest
      exact nearest

/-- The number one, of either sign. -/
def Finite.one (negative : Bool) : Finite :=
  ⟨negative, 0x10_0000_0000_0000, -52, .inr ⟨by decide, by decide, by decide, by decide⟩⟩

lemma Finite.toRat_one (negative : Bool) : (one negative).toRat = if negative then -1 else 1 := by
  have magnitude : (one negative).magnitude = 1 := by
    norm_num [Finite.magnitude, one]
  rw [toRat, magnitude]
  rfl

/-- Zero is not nearest to an integer other than zero: one is nearer. -/
lemma Finite.Nearest.toRat_ne_zero {x : Finite} {n : ℤ} (nearest : x.Nearest n)
    (nonzero : n ≠ 0) : x.toRat ≠ 0 := by
  intro zero
  have closest := nearest.closest (.one (decide (n < 0)))
  rw [zero, zero_sub, abs_neg, Finite.toRat_one] at closest
  rcases lt_or_gt_of_ne nonzero with negative | positive
  · have bound : (n : ℚ) ≤ -1 := by exact_mod_cast Int.le_sub_one_of_lt negative
    rw [if_pos (by simpa using negative), abs_of_nonpos (by linarith),
      abs_of_nonneg (by linarith)] at closest
    linarith
  · have bound : (1 : ℚ) ≤ n := by exact_mod_cast positive
    rw [if_neg (by simpa using positive.le), abs_of_nonneg (by linarith),
      abs_of_nonpos (by linarith)] at closest
    linarith

/-- **An integer is never rounded to the negative zero.** -/
lemma unsignZero_ofInt {n : ℤ} (small : |n| ≤ 2 ^ 64) : (ofInt n).unsignZero = ofInt n := by
  rcases eq_or_ne n 0 with rfl | nonzero
  · rfl
  · obtain ⟨x, rounded, nearest⟩ := exists_ofInt_eq_finite small
    rw [rounded, unsignZero,
      Finite.unsignZero_of_toRat_ne_zero (nearest.toRat_ne_zero nonzero)]

/-! ## The ranges of 64-bit integers

To compare a number with the ends of a range is to compare it with numbers that were rounded.  **The
upper ends are rounded up**, so that a number is compared with the first integer out of the range.
-/

lemma ofInt64_minValue_le_iff {x : Finite} : ofInt64 .minValue ≤ finite x ↔ -2 ^ 63 ≤ x.toRat := by
  have rounded : ofInt64 .minValue = finite ⟨true, 0x10_0000_0000_0000, 11, by decide⟩ := rfl
  rw [rounded, finite_le_finite_iff]
  norm_num [Finite.toRat, Finite.magnitude]

lemma lt_ofInt64_maxValue_iff {x : Finite} : finite x < ofInt64 .maxValue ↔ x.toRat < 2 ^ 63 := by
  have rounded : ofInt64 .maxValue = finite ⟨false, 0x10_0000_0000_0000, 11, by decide⟩ := rfl
  rw [rounded, finite_lt_finite_iff]
  norm_num [Finite.toRat, Finite.magnitude]

lemma lt_ofUInt64_max_iff {x : Finite} :
    finite x < ofUInt64 0xFFFF_FFFF_FFFF_FFFF ↔ x.toRat < 2 ^ 64 := by
  have rounded : ofUInt64 0xFFFF_FFFF_FFFF_FFFF =
      finite ⟨false, 0x10_0000_0000_0000, 12, by decide⟩ := rfl
  rw [rounded, finite_lt_finite_iff]
  norm_num [Finite.toRat, Finite.magnitude]

end Conformance.Binary64
