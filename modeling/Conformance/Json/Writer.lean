import Conformance.Decimal.Layout
import Conformance.Json.Basic
import Conformance.Text.Quoted

/-!
# Writing JSON text

`Json.write` writes a tree compactly, without any blanks, members in their order.  Integers are
written with their digits and floats in `floatLayout`, so that **the two kinds of numbers stay
apart**: a float has a point or an exponent.
-/

namespace Conformance.Json

/-- Floats are plain from `0.00001` up to sixteen digits before the point; other exponents are
written with their sign.  Of two equally near texts the one with the even last digit is written. -/
def floatLayout : Decimal.Layout where
  plainFrom := -5
  plainUpTo := 15
  plusSign := true
  tie := .toEven

/-- The digits of an integer behind its sign. -/
def writeInteger (n : Int) : String :=
  let digits := Decimal.digitsOf n.natAbs
  String.ofList (if n < 0 then '-' :: digits else digits)

/-- The text of a number. -/
def Number.write : Number → String
  | .integer n _ => writeInteger n
  | .float x => floatLayout.write x

/-- Texts between brackets, with commas between them. -/
def bracketed (texts : List String) : String :=
  "[" ++ ",".intercalate texts ++ "]"

/-- Texts between braces, with commas between them. -/
def braced (texts : List String) : String :=
  "\x7b" ++ ",".intercalate texts ++ "\x7d"

mutual

/-- The text of a tree. -/
def write : Json → String
  | null => "null"
  | bool true => "true"
  | bool false => "false"
  | number n => n.write
  | string s => Text.Quoted.write s
  | array elements => bracketed (writeElements elements)
  | object members => braced (writeMembers members)

/-- The texts of the elements of an array. -/
def writeElements : List Json → List String
  | [] => []
  | element :: rest => element.write :: writeElements rest

/-- The texts of the members of an object. -/
def writeMembers : List (String × Json) → List String
  | [] => []
  | (key, content) :: rest =>
    (Text.Quoted.write key ++ ":" ++ content.write) :: writeMembers rest

end

end Conformance.Json
