import Conformance.Json.Basic
import Conformance.Proofs.Binary64.Nearest
import Mathlib.Tactic.Common

/-!
# Canonical JSON numbers

A binary64 number has one canonical spelling as a JSON number: **an integer if it is one and if the
integer fits 64 bits, and otherwise a float** (`Json.Number.Spells`).  `Number.ofFinite` compares a
number with the ends of the integer ranges and converts it, and this gives the canonical spelling
(`spells_iff`).  It is read back as the number that was written, apart from the sign of a zero
(`toBinary64_ofFinite`).

`Number.canonical` respells any JSON number: it goes to the nearest binary64 number
(`exists_toBinary64_eq_finite`) and from there to the canonical spelling.
-/

namespace Conformance

namespace Json.Number

open Binary64 (Finite)

/-- The exact value of a JSON number. -/
def toRat : Number → ℚ
  | integer n _ => n
  | float x => x.toRat

/-- The canonical spelling of a finite number. -/
inductive Spells : Number → Finite → Prop
  | integer {x : Finite} {n : ℤ} (inRange : InIntegerRange n) (whole : x.toRat = n) :
      Spells (integer n inRange) x
  | float {x : Finite} (other : ∀ n : ℤ, InIntegerRange n → x.toRat ≠ n) : Spells (float x) x

/-- The spelling is canonical. -/
def Canonical (n : Number) : Prop :=
  ∃ x, n.Spells x

/-- The canonical spelling of the nearest binary64 number. -/
def canonical (n : Number) : Number :=
  match n.toBinary64 with
  | .finite x => ofFinite x
  | _ => n

/-! ## The spelling of a finite number

Which integers are converted, and to what, is decided by comparisons of binary64 numbers.  Each of
the three ways to spell a number is taken exactly where its conversion loses nothing.
-/

section Integers

variable {x : Finite} {n : ℤ}

/-- The test for the signed range. -/
lemma signed_iff (whole : x.toRat = n) :
    (Binary64.ofInt64 .minValue ≤ .finite x ∧ .finite x < Binary64.ofInt64 .maxValue) ↔
      -2 ^ 63 ≤ n ∧ n < 2 ^ 63 := by
  rw [Binary64.ofInt64_minValue_le_iff, Binary64.lt_ofInt64_maxValue_iff, whole]
  norm_cast

/-- The test for the unsigned range. -/
lemma unsigned_iff (whole : x.toRat = n) :
    (.finite (.zero false) < Binary64.finite x ∧
        .finite x < Binary64.ofUInt64 0xFFFF_FFFF_FFFF_FFFF) ↔
      0 < n ∧ n < 2 ^ 64 := by
  rw [Binary64.finite_lt_finite_iff, Binary64.lt_ofUInt64_max_iff, Finite.toRat_zero, whole]
  norm_cast

/-- Integers of the signed range are converted to it. -/
lemma ofFinite_eq_ofInt64 (whole : x.toRat = n) (least : -2 ^ 63 ≤ n) (greatest : n < 2 ^ 63) :
    ofFinite x = .ofInt64 x.toInt64 := by
  rw [ofFinite, if_neg (not_not.2 (Finite.isWhole_iff.2 ⟨n, whole⟩)),
    if_pos ((signed_iff whole).2 ⟨least, greatest⟩)]

/-- Integers above the signed range are converted to the unsigned one, if they are in it. -/
lemma ofFinite_eq_ofUInt64 (whole : x.toRat = n) (least : 2 ^ 63 ≤ n) (greatest : n < 2 ^ 64) :
    ofFinite x = .ofUInt64 x.toUInt64 := by
  rw [ofFinite, if_neg (not_not.2 (Finite.isWhole_iff.2 ⟨n, whole⟩)),
    if_neg (mt (signed_iff whole).1 (by omega)),
    if_pos ((unsigned_iff whole).2 ⟨by omega, greatest⟩)]

/-- **Nothing else is converted.** -/
lemma ofFinite_eq_float (other : ∀ n : ℤ, InIntegerRange n → x.toRat ≠ n) :
    ofFinite x = .float x := by
  by_cases unbroken : x.isWhole = true
  · obtain ⟨n, whole⟩ := Finite.isWhole_iff.1 unbroken
    have outside : ¬ InIntegerRange n := fun inRange => other n inRange whole
    unfold InIntegerRange at outside
    rw [ofFinite, if_neg (not_not.2 unbroken), if_neg (mt (signed_iff whole).1 (by omega)),
      if_neg (mt (unsigned_iff whole).1 (by omega))]
  · rw [ofFinite, if_pos unbroken]

end Integers

/-- A number has no other spelling. -/
lemma Spells.unique {m n : Number} {x : Finite} (first : m.Spells x) (second : n.Spells x) :
    m = n := by
  cases first with
  | integer inRange whole =>
    cases second with
    | integer inRange' whole' =>
      obtain rfl := Int.cast_injective (whole.symm.trans whole')
      rfl
    | float other => exact (other _ inRange whole).elim
  | float other =>
    cases second with
    | integer inRange whole => exact (other _ inRange whole).elim
    | float other' => rfl

lemma spells_ofFinite (x : Finite) : (ofFinite x).Spells x := by
  by_cases integer : ∃ n : ℤ, InIntegerRange n ∧ x.toRat = n
  · obtain ⟨n, ⟨least, greatest⟩, whole⟩ := integer
    rcases lt_or_ge n (2 ^ 63) with small | large
    · rw [ofFinite_eq_ofInt64 whole least small]
      exact .integer _ (by rw [Finite.toInt_toInt64 whole least small, whole])
    · rw [ofFinite_eq_ofUInt64 whole large greatest]
      exact .integer _ (by rw [Finite.toNat_toUInt64 whole (by omega) greatest, whole])
  · have other (n : ℤ) (inRange : InIntegerRange n) : x.toRat ≠ n :=
      fun whole => integer ⟨n, inRange, whole⟩
    rw [ofFinite_eq_float other]
    exact .float other

/-- **`ofFinite` gives the canonical spelling, and there is no other.** -/
lemma spells_iff {n : Number} {x : Finite} : n.Spells x ↔ n = ofFinite x := by
  constructor
  · exact fun spells => spells.unique (spells_ofFinite x)
  · rintro rfl
    exact spells_ofFinite x

/-- A spelling has the value of the number. -/
lemma toRat_ofFinite (x : Finite) : (ofFinite x).toRat = x.toRat := by
  have spells : (ofFinite x).Spells x := spells_iff.2 rfl
  generalize ofFinite x = n at spells ⊢
  cases spells with
  | integer inRange whole => exact whole.symm
  | float other => rfl

/-! ## Reading numbers -/

lemma abs_le_of_inIntegerRange {n : ℤ} (inRange : InIntegerRange n) : |n| ≤ 2 ^ 64 := by
  obtain ⟨least, greatest⟩ := inRange
  rw [abs_le]
  omega

/-- **A JSON number is read as the nearest binary64 number**, which is finite. -/
lemma exists_toBinary64_eq_finite (n : Number) :
    ∃ x, n.toBinary64 = .finite x ∧ x.Nearest n.toRat := by
  cases n with
  | integer n inRange => exact Binary64.exists_ofInt_eq_finite (abs_le_of_inIntegerRange inRange)
  | float x => exact ⟨x, rfl, x.nearest_toRat⟩

/-- What is spelled as a float is no zero. -/
lemma unsignZero_of_not_integer {x : Finite}
    (other : ∀ n : ℤ, InIntegerRange n → x.toRat ≠ n) : x.unsignZero = x :=
  Finite.unsignZero_of_toRat_ne_zero (by exact_mod_cast other 0 (by decide))

/-- **A canonical spelling is read back as the number that it spells**, apart from the sign of a
zero. -/
lemma Spells.toBinary64_eq {n : Number} {x : Finite} (spells : n.Spells x) :
    n.toBinary64 = .finite x.unsignZero := by
  cases spells with
  | @integer _ n inRange whole =>
    rcases eq_or_ne n 0 with rfl | nonzero
    · have zero : x.toRat = (Finite.zero false).toRat := by
        rw [whole, Finite.toRat_zero, Int.cast_zero]
      rw [Finite.unsignZero_eq_iff.2 zero]
      rfl
    · obtain ⟨y, read, nearest⟩ :=
        Binary64.exists_ofInt_eq_finite (abs_le_of_inIntegerRange inRange)
      rw [← whole] at nearest
      have value : y.toRat ≠ 0 := by
        rw [nearest.toRat_eq, whole]
        exact_mod_cast nonzero
      rw [toBinary64, read, ← Finite.unsignZero_eq_iff.2 nearest.toRat_eq,
        Finite.unsignZero_of_toRat_ne_zero value]
  | float other => rw [toBinary64, unsignZero_of_not_integer other]

/-- The sign of a zero makes no difference to the spelling. -/
lemma Spells.unsignZero {n : Number} {x : Finite} (spells : n.Spells x) :
    n.Spells x.unsignZero := by
  cases spells with
  | integer inRange whole => exact .integer inRange (by rw [Finite.toRat_unsignZero, whole])
  | float other =>
    rw [unsignZero_of_not_integer other]
    exact .float other

lemma toBinary64_ofFinite (x : Finite) : (ofFinite x).toBinary64 = .finite x.unsignZero :=
  (spells_iff.2 rfl).toBinary64_eq

lemma ofFinite_unsignZero (x : Finite) : ofFinite x.unsignZero = ofFinite x :=
  (spells_iff.1 (spells_iff.2 rfl).unsignZero).symm

/-! ## Respelling -/

lemma canonical_of_toBinary64 {n : Number} {x : Finite} (read : n.toBinary64 = .finite x) :
    n.canonical = ofFinite x := by
  rw [canonical, read]

/-- **A number is its own respelling exactly when it is canonical.** -/
lemma canonical_eq_self_iff {n : Number} : n.canonical = n ↔ n.Canonical := by
  obtain ⟨x, read, -⟩ := n.exists_toBinary64_eq_finite
  rw [canonical_of_toBinary64 read]
  constructor
  · intro same
    exact ⟨x, spells_iff.2 same.symm⟩
  · rintro ⟨y, spells⟩
    rw [spells.toBinary64_eq, Binary64.finite.injEq] at read
    rw [← read, ofFinite_unsignZero]
    exact (spells_iff.1 spells).symm

end Json.Number

end Conformance
