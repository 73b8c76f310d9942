/-!
# Decimal notation of magnitudes

`Decimal` is a magnitude `coefficient · 10 ^ exponent` as it is written in digits, before any sign
and before any choice of layout.

* `Decimal.place` is the place of the point counted from the first digit: the magnitude lies below
  `10 ^ place`, and not below a tenth of that unless it is zero.
* `Decimal.trim` drops the zeros at the end of the coefficient.  **The magnitude stays the same.**
-/

namespace Conformance

/-- The magnitude `coefficient · 10 ^ exponent`. -/
structure Decimal where
  coefficient : Nat
  exponent : Int
deriving DecidableEq

namespace Decimal

/-- The digits that a natural number is written with; zero has one. -/
def digitsOf (n : Nat) : List Char :=
  Nat.toDigits 10 n

/-- How many digits a natural number is written with. -/
def digitCount (n : Nat) : Nat :=
  (digitsOf n).length

/-- The number that a run of decimal digits stands for. -/
def ofDigits (digits : List Char) : Nat :=
  digits.foldl (fun n digit => 10 * n + (digit.toNat - '0'.toNat)) 0

/-- Where the point stands, counted from the first digit. -/
def place (d : Decimal) : Int :=
  digitCount d.coefficient + d.exponent

/-- A coefficient without its last zeros, beside how many were dropped.  A number has no more zeros
than digits, so `fuel` may be the count of digits. -/
def trimZeros : (fuel coefficient : Nat) → Nat × Nat
  | 0, coefficient => (coefficient, 0)
  | fuel + 1, coefficient =>
    if coefficient % 10 = 0 then
      let (rest, dropped) := trimZeros fuel (coefficient / 10)
      (rest, dropped + 1)
    else
      (coefficient, 0)

/-- The same magnitude with no zero at the end of its coefficient; zero is `0 · 10 ^ 0`. -/
def trim (d : Decimal) : Decimal :=
  if d.coefficient = 0 then
    ⟨0, 0⟩
  else
    let (rest, dropped) := trimZeros (digitCount d.coefficient) d.coefficient
    ⟨rest, d.exponent + dropped⟩

end Decimal

end Conformance
