import Conformance.Json.Basic
import Conformance.Value.Basic

/-!
# Scalars

A `Scalar` is the one value that a literal schema accepts.  **Scalars of different kinds are never
equal**: a number is no `bigInt`, and the number that is not a number matches nothing.

In a JSON document a scalar is written as itself, except that a `bigInt` is an object with the single
member `"bigint"`, because a plain integer would be read as a number.  `Scalar.toJson?` fails only for
a number that is not finite.
-/

namespace Conformance

/-- A value without parts, other than `undefined` and `null`. -/
inductive Scalar where
  | string (s : String)
  | number (x : Binary64)
  | bool (b : Bool)
  | bigInt (n : Int64)

namespace Scalar

/-- The scalar as a value. -/
def toValue : Scalar → Value
  | string s => .string s
  | number x => .number x
  | bool b => .bool b
  | bigInt n => .bigInt n

/-- Whether a value is this scalar: of the same kind, with an equal content. -/
def accepts : Scalar → Value → Bool
  | string s, .string t => s == t
  | number x, .number y => x == y
  | bool a, .bool b => a == b
  | bigInt m, .bigInt n => m == n
  | _, _ => false

/-- Equality of scalars, numbers as numbers. -/
def beq : Scalar → Scalar → Bool
  | string s, string t => s == t
  | number x, number y => x == y
  | bool a, bool b => a == b
  | bigInt m, bigInt n => m == n
  | _, _ => false

instance : BEq Scalar := ⟨beq⟩

/-- A scalar matches a value when it is equal to it as a value. -/
theorem accepts_eq_beq (scalar : Scalar) (v : Value) :
    scalar.accepts v = (scalar.toValue == v) := by
  cases scalar <;> cases v <;> simp only [accepts, toValue, BEq.beq, Value.beq]

/-! ## In documents -/

/-- The member that marks a `bigInt`. -/
def bigIntKey : String := "bigint"

/-- The JSON form of a scalar.  Only finite numbers have one. -/
def toJson? : Scalar → Option Json
  | string s => some (.string s)
  | number x => (Json.Number.ofBinary64? x).map .number
  | bool b => some (.bool b)
  | bigInt n => some (.object [(bigIntKey, .number (.ofInt64 n))])

/-- The scalar that a JSON document is. -/
def ofJson? : Json → Option Scalar
  | .string s => some (string s)
  | .number n => some (number n.toBinary64)
  | .bool b => some (bool b)
  | .object [(key, .number n)] => if key = bigIntKey then n.toInt64?.map bigInt else none
  | _ => none

end Scalar

end Conformance
