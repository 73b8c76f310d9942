import Conformance.Binary64.Rounding
import Conformance.Decimal.Basic

/-!
# The shortest decimal that reads back

A binary64 number is written with as few digits as will be read back as the same number, and of the
decimals with that many digits with the one nearest to the number (`Decimal.shortest`).  Reading back
is `Binary64.ofDecimal` itself, so **the digits that are printed are tested by the very rule that
will read them**.

For each count of digits there are two decimals to look at, the neighbours of the number on the grid
of that many digits (`Decimal.candidates`): if any decimal on the grid reads back, one of these does.
Seventeen digits are always enough.  When both neighbours are equally near, `Tie` says which one is
written.
-/

namespace Conformance

/-- What is written when two decimals are equally near. -/
inductive Decimal.Tie where
  /-- The one with the even coefficient. -/
  | toEven
  /-- The greater one. -/
  | up
deriving DecidableEq

namespace Decimal

/-- The place of the point of the magnitude `num / den`: the `k` with
`10 ^ (k - 1) ≤ num / den < 10 ^ k`. -/
def placeOf (num den : Nat) : Int :=
  if den ≤ num then
    digitCount (num / den)
  else
    -- the reciprocal, rounded up, lies above `10 ^ (-k)` and not above `10 ^ (1 - k)`
    1 - digitCount ((den + num - 1) / num - 1)

/-- The neighbours of `num / den` among the decimals with the given exponent, the preferred one
first: the nearer one, or the one that the tie rule names. -/
def candidates (tie : Tie) (num den : Nat) (exponent : Int) : List Decimal :=
  let scaledNum := num * Nat.pow 10 (-exponent).toNat
  let scaledDen := den * Nat.pow 10 exponent.toNat
  let below := scaledNum / scaledDen
  let twice := 2 * (scaledNum % scaledDen)
  let belowFirst := twice < scaledDen ∨
    (twice = scaledDen ∧ tie = .toEven ∧ below % 2 = 0)
  if belowFirst then
    [⟨below, exponent⟩, ⟨below + 1, exponent⟩]
  else
    [⟨below + 1, exponent⟩, ⟨below, exponent⟩]

/-- A decimal that reads back as `x`, with as few digits as possible and at most `digits + count`,
of which fewer than `digits` are known not to be enough. -/
def shortestFrom (tie : Tie) (x : Binary64.Finite) (digits : Nat) : (count : Nat) → Decimal
  | 0 =>
    -- never reached from seventeen digits on: the exact magnitude, which always reads back
    ⟨x.num * Nat.pow 5 (-x.exponent).toNat, min x.exponent 0⟩
  | count + 1 =>
    let exponent := placeOf x.num x.den - digits
    let readsBack (d : Decimal) : Bool := decide (Binary64.ofDecimal x.negative d = .finite x)
    match (candidates tie x.num x.den exponent).find? readsBack with
    | some d => d
    | none => shortestFrom tie x (digits + 1) count

/-- The magnitude of a finite number in the fewest digits that read back. -/
def shortest (tie : Tie) (x : Binary64.Finite) : Decimal :=
  if x.mantissa = 0 then ⟨0, 0⟩ else (shortestFrom tie x 1 17).trim

end Decimal

end Conformance
