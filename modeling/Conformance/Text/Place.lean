import Conformance.Decimal.Basic

/-!
# Places in messages

A message about a document may end in the place that it is about, as in `… at line 3 column 14`.  Such
an ending is taken for a place wherever the message came from (`Place.split?`), and is written in one
way (`Place.normalize`): **line and column without zeros in front, and no place at all if the line is
0**, since lines are counted from 1.
-/

namespace Conformance.Text

/-- A place in a document. -/
structure Place where
  line : Nat
  column : Nat
deriving DecidableEq

namespace Place

/-- The word before the line and the word before the column. -/
def lineWord : List Char := " at line ".toList

def columnWord : List Char := " column ".toList

/-- The number that a message, read from its end, ends in, with the word before it taken off too.
Numbers are those of 64 bits. -/
def numberBehind? (word reversed : List Char) : Option (Nat × List Char) :=
  let digits := (reversed.takeWhile Char.isDigit).reverse
  let before := reversed.dropWhile Char.isDigit
  let n := Decimal.ofDigits digits
  if digits ≠ [] ∧ n < 0x1_0000_0000_0000_0000 ∧ word.reverse.isPrefixOf before then
    some (n, before.drop word.length)
  else
    none

/-- A message without the place at its end, and the place. -/
def split? (message : String) : Option (String × Place) := do
  let (column, rest) ← numberBehind? columnWord message.toList.reverse
  let (line, rest) ← numberBehind? lineWord rest
  some (String.ofList rest.reverse, ⟨line, column⟩)

/-- The ending for a place. -/
def write (place : Place) : String :=
  if place.line = 0 then ""
  else String.ofList
    (lineWord ++ Decimal.digitsOf place.line ++ columnWord ++ Decimal.digitsOf place.column)

/-- A message with the place at its end, if it has one, written in the one way. -/
def normalize (message : String) : String :=
  match split? message with
  | some (text, place) => text ++ place.write
  | none => message

end Place

end Conformance.Text
