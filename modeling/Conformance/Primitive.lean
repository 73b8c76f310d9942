import Conformance.Value.Basic

/-!
# Primitives

The four primitives are the kinds of values that a schema can ask for by name.  **A primitive accepts
exactly the values whose kind has its name** (`accepts_iff_typeName`); there is no conversion, so the
string `"12"` is no number, and neither `undefined` nor a `bigInt` is accepted by any primitive.
-/

namespace Conformance

/-- A kind of values that has a name in schemas. -/
inductive Primitive where
  | string
  | boolean
  | number
  | null
deriving DecidableEq

namespace Primitive

/-- The name of a primitive. -/
def name : Primitive → String
  | string => "string"
  | boolean => "boolean"
  | number => "number"
  | null => "null"

/-- The primitive of a name. -/
def ofName? (name : String) : Option Primitive :=
  if name = "string" then some string
  else if name = "boolean" then some boolean
  else if name = "number" then some number
  else if name = "null" then some null
  else none

theorem ofName?_eq_some_iff {name : String} {p : Primitive} :
    ofName? name = some p ↔ p.name = name := by
  unfold ofName?
  constructor
  · intro h
    repeat (split at h; · cases h; simp_all [Primitive.name])
    cases h
  · rintro rfl
    cases p <;> rfl

/-- Whether a value is of the primitive's kind. -/
def accepts : Primitive → Value → Bool
  | string, .string _ => true
  | boolean, .bool _ => true
  | number, .number _ => true
  | null, .null => true
  | _, _ => false

theorem accepts_iff_typeName (p : Primitive) (v : Value) :
    p.accepts v = true ↔ v.typeName = p.name := by
  cases p <;> cases v <;> simp [accepts, Value.typeName, name]

end Primitive

end Conformance
