import Conformance.Decimal.Shortest

/-!
# Layouts of floating-point text

A finite number is written from its shortest digits either plainly, with a point among or beside the
digits, or in scientific notation.  What differs from one text format to another is collected in a
`Decimal.Layout`: which exponents are written plainly, whether a positive exponent carries its sign,
and how ties between equally near digits go.  The formats themselves are declared where their texts
are written.

**Plain text always has a point**: a whole number ends in `.0`.  Scientific text has one only if it
has more than one digit.
-/

namespace Conformance.Decimal

/-- The choices that make up a format of floating-point text. -/
structure Layout where
  /-- The least exponent written plainly. -/
  plainFrom : Int
  /-- The greatest exponent written plainly. -/
  plainUpTo : Int
  /-- Whether a positive exponent is written with its sign. -/
  plusSign : Bool
  /-- Which of two equally near decimals is written. -/
  tie : Tie

/-- Digits with the point at the given place, filled up with zeros on either side. -/
def plain (digits : List Char) (place : Int) : List Char :=
  if place ≤ 0 then
    '0' :: '.' :: List.replicate (-place).toNat '0' ++ digits
  else if digits.length ≤ place then
    digits ++ List.replicate (place.toNat - digits.length) '0' ++ ['.', '0']
  else
    digits.take place.toNat ++ '.' :: digits.drop place.toNat

/-- Digits with a point after the first one, if there are more, and an exponent. -/
def scientific (plusSign : Bool) (digits : List Char) (exponent : Int) : List Char :=
  let mantissa := match digits with
    | first :: second :: rest => first :: '.' :: second :: rest
    | few => few
  let sign := if exponent < 0 then ['-'] else if plusSign then ['+'] else []
  mantissa ++ 'e' :: sign ++ digitsOf exponent.natAbs

/-- The text of a finite number. -/
def Layout.write (layout : Layout) (x : Binary64.Finite) : String :=
  let d := shortest layout.tie x
  let digits := digitsOf d.coefficient
  let exponent := d.place - 1
  let magnitude :=
    if layout.plainFrom ≤ exponent ∧ exponent ≤ layout.plainUpTo then plain digits d.place
    else scientific layout.plusSign digits exponent
  String.ofList (if x.negative then '-' :: magnitude else magnitude)

end Conformance.Decimal
