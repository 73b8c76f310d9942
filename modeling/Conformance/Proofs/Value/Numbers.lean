import Conformance.Proofs.Json.Number
import Conformance.Scalar
import Conformance.Value.Json

/-!
# Numbers are written exactly

A finite number is written as a signed integer, as an unsigned one or as a float.  The first two
ways go through a conversion, and a conversion out of range is not noticed: it gives the end of the
range, and the document would hold another number.  What keeps such numbers away are comparisons
with the ends of the ranges, of which the upper ones are themselves rounded.

**Whatever is converted is in range** (`numbers_are_written_exactly`).  So the document holds the
number itself, as an integer wherever an integer of 64 bits is possible, and the number that is read
back is equal to the one that was written.  A number in a literal is written in the same way, except
that there is no `null` for those that are not finite (`Scalar.toJson?_number`).
-/

namespace Conformance

/-- A number in a literal has the JSON form that it has as a value, if it is finite. -/
lemma Scalar.toJson?_number (x : Binary64) :
    (number x).toJson? = if x.isFinite then some (Value.numberToJson x) else none := by
  cases x <;> rfl

namespace Value

open Binary64 (Finite)

lemma numberToJson_of_isFinite_eq_false {x : Binary64} (broken : x.isFinite = false) :
    numberToJson x = .null := by
  cases x with
  | finite x => cases broken
  | infinite negative => rfl
  | nan => rfl

lemma numberToJson_finite (x : Finite) : numberToJson (.finite x) = .number (.ofFinite x) := rfl

/-- A number is read back from its spelling as an equal one. -/
lemma toBinary64_ofFinite_beq (x : Finite) :
    ((Json.Number.ofFinite x).toBinary64 == .finite x) = true := by
  rw [Json.Number.toBinary64_ofFinite, Binary64.beq_iff_equal]
  exact .finite x.toRat_unsignZero

/-- **Numbers are written exactly.**  What is not finite is written as `null`, or not at all in a
literal.  An integer from `-2 ^ 63` to below `2 ^ 64` is written as an integer: below `2 ^ 63` it is
converted to a signed one and from there on to an unsigned one, and the conversion gives the integer
itself.  Everything else is written as the float that it is.  In all cases the number in the
document has the value of the number that was written, and is read back as a number equal to it. -/
theorem numbers_are_written_exactly :
    (∀ x : Binary64, x.isFinite = false →
      numberToJson x = .null ∧ (Scalar.number x).toJson? = none) ∧
    ∀ x : Finite,
      (∀ n : ℤ, x.toRat = n → -2 ^ 63 ≤ n → n < 2 ^ 63 → x.toInt64.toInt = n ∧
        numberToJson (.finite x) = .number (.ofInt64 x.toInt64)) ∧
      (∀ n : ℤ, x.toRat = n → 2 ^ 63 ≤ n → n < 2 ^ 64 → (x.toUInt64.toNat : ℤ) = n ∧
        numberToJson (.finite x) = .number (.ofUInt64 x.toUInt64)) ∧
      ((∀ n : ℤ, x.toRat = n → n < -2 ^ 63 ∨ 2 ^ 64 ≤ n) →
        numberToJson (.finite x) = .number (.float x)) ∧
      ∃ written : Json.Number, numberToJson (.finite x) = .number written ∧
        (Scalar.number (.finite x)).toJson? = some (.number written) ∧
        written.toRat = x.toRat ∧ (written.toBinary64 == .finite x) = true := by
  refine ⟨fun x broken => ⟨numberToJson_of_isFinite_eq_false broken, ?_⟩, fun x => ⟨?_, ?_, ?_, ?_⟩⟩
  · rw [Scalar.toJson?_number, broken, if_neg Bool.false_ne_true]
  · intro n whole least greatest
    rw [numberToJson_finite, Json.Number.ofFinite_eq_ofInt64 whole least greatest]
    exact ⟨Finite.toInt_toInt64 whole least greatest, rfl⟩
  · intro n whole least greatest
    rw [numberToJson_finite, Json.Number.ofFinite_eq_ofUInt64 whole least greatest]
    exact ⟨Finite.toNat_toUInt64 whole (by omega) greatest, rfl⟩
  · intro outside
    rw [numberToJson_finite, Json.Number.ofFinite_eq_float]
    intro n ⟨least, greatest⟩ whole
    have := outside n whole
    omega
  · refine ⟨.ofFinite x, numberToJson_finite x, ?_, Json.Number.toRat_ofFinite x,
      toBinary64_ofFinite_beq x⟩
    rw [Scalar.toJson?_number, numberToJson_finite, Binary64.isFinite, if_pos rfl]

/-- The ends of the ranges: `-2 ^ 63`, `2 ^ 63` and `2 ^ 64`, the first two of which are converted.
Beside them stand not-a-number and the negative zero, which is read back as the other one. -/
theorem numbers_are_written_exactly_at_the_ends :
    let least : Finite := ⟨true, 0x10_0000_0000_0000, 11, by decide⟩
    let middle : Finite := ⟨false, 0x10_0000_0000_0000, 11, by decide⟩
    let greatest : Finite := ⟨false, 0x10_0000_0000_0000, 12, by decide⟩
    (Binary64.nan.isFinite = false ∧ numberToJson .nan = .null ∧
      (Scalar.number .nan).toJson? = none) ∧
    (least.toRat = (-2 ^ 63 : ℤ) ∧ least.toInt64.toInt = -2 ^ 63 ∧
      numberToJson (.finite least) = .number (.ofInt64 least.toInt64)) ∧
    (middle.toRat = (2 ^ 63 : ℤ) ∧ (middle.toUInt64.toNat : ℤ) = 2 ^ 63 ∧
      numberToJson (.finite middle) = .number (.ofUInt64 middle.toUInt64)) ∧
    (greatest.toRat = (2 ^ 64 : ℤ) ∧ numberToJson (.finite greatest) = .number (.float greatest)) ∧
    ∃ written : Json.Number, numberToJson (.finite (.zero true)) = .number written ∧
      written.toRat = 0 ∧ (written.toBinary64 == .finite (.zero true)) = true := by
  intro least middle greatest
  obtain ⟨notFinite, finite⟩ := numbers_are_written_exactly
  have least_value : least.toRat = (-2 ^ 63 : ℤ) := by
    norm_num [least, Finite.toRat, Finite.magnitude]
  have middle_value : middle.toRat = (2 ^ 63 : ℤ) := by
    norm_num [middle, Finite.toRat, Finite.magnitude]
  have greatest_value : greatest.toRat = (2 ^ 64 : ℤ) := by
    norm_num [greatest, Finite.toRat, Finite.magnitude]
  obtain ⟨signed, -⟩ := finite least
  obtain ⟨-, unsigned, -⟩ := finite middle
  obtain ⟨-, -, float, -⟩ := finite greatest
  obtain ⟨-, -, -, written, inDocument, -, value, readBack⟩ := finite (.zero true)
  refine ⟨⟨rfl, notFinite .nan rfl⟩,
    ⟨least_value, signed _ least_value (by norm_num) (by norm_num)⟩,
    ⟨middle_value, unsigned _ middle_value (by norm_num) (by norm_num)⟩,
    ⟨greatest_value, float fun n whole => .inr ?_⟩,
    ⟨written, inDocument, value.trans (Finite.toRat_zero true), readBack⟩⟩
  rw [greatest_value] at whole
  exact (Int.cast_injective whole).le

end Value

end Conformance
