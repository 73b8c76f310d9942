import Conformance.Binary64.Basic
import Conformance.Decimal.Basic

/-!
# Rounding to binary64

`nearest` gives the binary64 number nearest to a ratio of natural numbers, and `ofInt` and
`ofDecimal` are its uses: integers and decimal notation are rounded once, from their exact value.
`ofInt64` and `ofUInt64` are `ofInt` for integers of 64 bits.

The exponent is chosen first (`floorLog2`), so that the mantissa is the quotient of two natural
numbers rounded to 53 bits, or to fewer below the normal range.  **A quotient half way between two
mantissas goes to the even one** (`roundQuotient`), and a mantissa that rounds up to `2 ^ 53` is
respelled with the next exponent (`ofParts`).  What then has too large an exponent is infinite.
-/

namespace Conformance.Binary64

/-- The natural number nearest to `a / b`.  A quotient half way between two goes to the even one. -/
def roundQuotient (a b : Nat) : Nat :=
  let quotient := a / b
  let remainder := a % b
  if 2 * remainder < b then quotient
  else if b < 2 * remainder then quotient + 1
  else quotient + quotient % 2

/-- The exponent `e` with `2 ^ e ≤ num / den < 2 ^ (e + 1)`, for positive `num` and `den`.  The
difference of the two logarithms is `e` or one more. -/
def floorLog2 (num den : Nat) : Int :=
  let guess : Int := (num.log2 : Int) - (den.log2 : Int)
  if den <<< guess.toNat ≤ num <<< (-guess).toNat then guess else guess - 1

/-- The number `± mantissa · 2 ^ exponent` for a mantissa of at most `2 ^ 53`, infinite if it is too
large to be spelled. -/
def ofParts (negative : Bool) (mantissa : Nat) (exponent : Int) : Binary64 :=
  let carried := mantissa = 0x20_0000_0000_0000
  let mantissa := if carried then 0x10_0000_0000_0000 else mantissa
  let exponent := if carried then exponent + 1 else exponent
  if canonical : Canonical mantissa exponent then
    finite ⟨negative, mantissa, exponent, canonical⟩
  else
    infinite negative

/-- The number nearest to `± num / den`.  Of two equally near ones it has the even mantissa. -/
def nearest (negative : Bool) (num den : Nat) : Binary64 :=
  if num = 0 then
    finite (.zero negative)
  else
    let exponent := max (-1074) (floorLog2 num den - 52)
    let mantissa := roundQuotient (num <<< (-exponent).toNat) (den <<< exponent.toNat)
    ofParts negative mantissa exponent

/-- The number nearest to an integer. -/
def ofInt (n : Int) : Binary64 :=
  nearest (decide (n < 0)) n.natAbs 1

/-- The number nearest to a signed 64-bit integer. -/
def ofInt64 (n : Int64) : Binary64 :=
  ofInt n.toInt

/-- The number nearest to an unsigned 64-bit integer. -/
def ofUInt64 (n : UInt64) : Binary64 :=
  ofInt n.toNat

/-- The number nearest to a signed decimal.  Far outside the range of the format the answer is known
from the place of the point alone, and no power of ten is computed. -/
def ofDecimal (negative : Bool) (d : Decimal) : Binary64 :=
  if d.coefficient = 0 ∨ d.place < -330 then
    finite (.zero negative)
  else if 310 < d.place then
    infinite negative
  else
    nearest negative (d.coefficient * Nat.pow 10 d.exponent.toNat) (Nat.pow 10 (-d.exponent).toNat)

end Conformance.Binary64
