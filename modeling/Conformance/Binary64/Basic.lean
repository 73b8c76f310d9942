/-!
# Binary64 numbers

The numbers of the library are the 64-bit binary floating-point numbers, taken as exact values: a
finite number is `± mantissa · 2 ^ exponent` with a 53-bit mantissa.  Nothing here computes with
machine floats, so every question about a number is a question about `Nat` and `Int`.

* `Binary64.Finite` is a finite number in its one canonical spelling (`Binary64.Canonical`).
  **Two canonical spellings of the same value differ at most in the sign of zero**, which is why
  `Finite.beq` may compare the parts.
* `Binary64` adds the two infinities and one not-a-number.  `==` is numeric equality: the two
  zeros are equal, and not-a-number equals nothing, itself included.
* `<` and `≤` are numeric order, in which not-a-number stands nowhere.
* `Finite.num` and `Finite.den` give the magnitude as a ratio.  `Finite.isWhole` asks whether there
  is a fraction, and `Finite.truncate` drops it.
* `Finite.toInt64` and `Finite.toUInt64` convert to integers of 64 bits.  **A conversion never
  fails**: a number outside the range becomes the nearer end of it.
* `Binary64.ofBits` reads the interchange format.
-/

namespace Conformance

/-- The spellings `mantissa · 2 ^ exponent` in use: numbers below the normal range keep the least
exponent, all others use the full 53 bits. -/
def Binary64.Canonical (mantissa : Nat) (exponent : Int) : Prop :=
  (mantissa < 0x10_0000_0000_0000 ∧ exponent = -1074) ∨
    (0x10_0000_0000_0000 ≤ mantissa ∧ mantissa < 0x20_0000_0000_0000 ∧
      -1074 ≤ exponent ∧ exponent ≤ 971)

instance (mantissa : Nat) (exponent : Int) : Decidable (Binary64.Canonical mantissa exponent) :=
  inferInstanceAs (Decidable (_ ∨ _))

/-- A finite number `± mantissa · 2 ^ exponent`.  Zero comes with both signs. -/
structure Binary64.Finite where
  negative : Bool
  mantissa : Nat
  exponent : Int
  canonical : Binary64.Canonical mantissa exponent
deriving DecidableEq

/-- A 64-bit binary floating-point number. -/
inductive Binary64 where
  | nan
  | infinite (negative : Bool)
  | finite (x : Binary64.Finite)
deriving DecidableEq

namespace Binary64

/-! ## Finite numbers as exact values -/

namespace Finite

/-- The zero of the given sign. -/
def zero (negative : Bool) : Finite :=
  ⟨negative, 0, -1074, .inl ⟨by decide, rfl⟩⟩

/-- Numerator of the magnitude; the denominator is `Finite.den`. -/
def num (x : Finite) : Nat :=
  x.mantissa <<< x.exponent.toNat

/-- Denominator of the magnitude, a power of two. -/
def den (x : Finite) : Nat :=
  1 <<< (-x.exponent).toNat

theorem den_pos (x : Finite) : 0 < x.den := by
  rw [den, Nat.one_shiftLeft]
  exact Nat.two_pow_pos _

/-- The numerator with the sign of the number. -/
def signedNum (x : Finite) : Int :=
  if x.negative then -x.num else x.num

/-- Whether the number has no fraction. -/
def isWhole (x : Finite) : Bool :=
  x.num % x.den == 0

/-- The number without its fraction.  **Both zeros are the integer 0.** -/
def truncate (x : Finite) : Int :=
  let magnitude : Int := ↑(x.num / x.den)
  if x.negative then -magnitude else magnitude

/-- The number as a signed 64-bit integer, without its fraction and clamped to the range. -/
def toInt64 (x : Finite) : Int64 :=
  .ofIntClamp x.truncate

/-- The number as an unsigned 64-bit integer, without its fraction and clamped to the range. -/
def toUInt64 (x : Finite) : UInt64 :=
  .ofNatClamp x.truncate.toNat

/-- Numeric order. -/
def lt (x y : Finite) : Bool :=
  x.signedNum * y.den < y.signedNum * x.den

/-- Numeric equality: the signs of two zeros may differ. -/
def beq (x y : Finite) : Bool :=
  x.mantissa == y.mantissa && x.exponent == y.exponent &&
    (x.negative == y.negative || x.mantissa == 0)

end Finite

/-- Numeric equality.  Not reflexive, because of `nan`. -/
def beq : Binary64 → Binary64 → Bool
  | finite x, finite y => x.beq y
  | infinite s, infinite t => s == t
  | _, _ => false

instance : BEq Binary64 := ⟨beq⟩

/-- Numeric order.  Nothing is below or above `nan`. -/
def lt : Binary64 → Binary64 → Bool
  | finite x, finite y => x.lt y
  | infinite s, infinite t => s && !t
  | infinite s, finite _ => s
  | finite _, infinite t => !t
  | _, _ => false

instance : LT Binary64 := ⟨fun x y => x.lt y⟩

instance (x y : Binary64) : Decidable (x < y) :=
  inferInstanceAs (Decidable (x.lt y = true))

instance : LE Binary64 := ⟨fun x y => x < y ∨ x == y⟩

instance (x y : Binary64) : Decidable (x ≤ y) :=
  inferInstanceAs (Decidable (_ ∨ _))

/-- Tells the finite numbers from the infinities and not-a-number. -/
def isFinite : Binary64 → Bool
  | finite _ => true
  | _ => false

/-! ## The interchange format

A sign bit, eleven bits of biased exponent and fifty-two bits of fraction.  The least exponent field
marks zero and the numbers below the normal range, the greatest one the infinities and not-a-number.
-/

/-- The number that a 64-bit word encodes.  All encodings of not-a-number are one number here. -/
def ofBits (word : UInt64) : Binary64 :=
  let bits := word.toNat
  let negative := decide (0x8000_0000_0000_0000 ≤ bits)
  let field := bits / 0x10_0000_0000_0000 % 2048
  let fraction := bits % 0x10_0000_0000_0000
  have fraction_lt : fraction < 0x10_0000_0000_0000 := Nat.mod_lt _ (by decide)
  have field_lt : field < 2048 := Nat.mod_lt _ (by decide)
  if least : field = 0 then
    finite ⟨negative, fraction, -1074, .inl ⟨fraction_lt, rfl⟩⟩
  else if greatest : field = 2047 then
    if fraction = 0 then infinite negative else nan
  else
    finite ⟨negative, 0x10_0000_0000_0000 + fraction, field - 1075, .inr (by omega)⟩

end Binary64

end Conformance
