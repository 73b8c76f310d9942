import Conformance.Binary64.Basic
import Conformance.Entries

/-!
# Values

`Value` is a dynamically typed value, the thing that a schema accepts or rejects.  It holds what a
JSON document holds and two things more: `undefined`, so that a field may be there without having a
value, and integers of their own kind (`bigInt`), which are never equal to numbers.

* `Value.typeName` is the name of a value's kind.
* `Value.field?` is the field of an object that counts as present.  **A field that holds `undefined`
  counts as absent.**
* `==` compares numbers as numbers and objects without regard to the order of their fields.
* `Value.WellFormed` is what every reader and builder of values ensures: no object holds a field
  twice.
-/

namespace Conformance

/-- A dynamically typed value. -/
inductive Value where
  | undefined
  | null
  | bool (b : Bool)
  | number (x : Binary64)
  | bigInt (n : Int64)
  | string (s : String)
  | array (elements : List Value)
  | object (fields : List (String × Value))

namespace Value

/-- The name of a value's kind. -/
def typeName : Value → String
  | undefined => "undefined"
  | null => "null"
  | bool _ => "boolean"
  | number _ => "number"
  | bigInt _ => "bigint"
  | string _ => "string"
  | array _ => "array"
  | object _ => "object"

def isUndefined : Value → Bool
  | undefined => true
  | _ => false

/-- The string that a value is. -/
def string? : Value → Option String
  | string s => some s
  | _ => none

/-- The elements of the array that a value is. -/
def elements? : Value → Option (List Value)
  | array elements => some elements
  | _ => none

/-- The fields of the object that a value is. -/
def fields? : Value → Option (List (String × Value))
  | object fields => some fields
  | _ => none

/-- The field of that name among `fields`, if it is there and holds something. -/
def present? (fields : List (String × Value)) (name : String) : Option Value :=
  (fields.lookup name).filter (!·.isUndefined)

/-! ## Equality -/

mutual

/-- Equality of values.  Not reflexive, because of the number that is not a number. -/
def beq : Value → Value → Bool
  | undefined, undefined => true
  | null, null => true
  | bool a, bool b => a == b
  | number x, number y => x == y
  | bigInt m, bigInt n => m == n
  | string s, string t => s == t
  | array left, array right => beqElements left right
  | object left, object right => left.length == right.length && beqFields left right
  | _, _ => false

/-- Equality of elements, place by place. -/
def beqElements : List Value → List Value → Bool
  | [], [] => true
  | a :: left, b :: right => a.beq b && beqElements left right
  | _, _ => false

/-- Whether each of the first fields is found among the second ones with an equal content. -/
def beqFields : List (String × Value) → List (String × Value) → Bool
  | [], _ => true
  | (name, content) :: rest, right =>
    (match right.lookup name with
      | some other => content.beq other
      | none => false) && beqFields rest right

end

instance : BEq Value := ⟨beq⟩

/-! ## Distinct fields -/

mutual

/-- No object anywhere in the value holds a field twice. -/
def WellFormed : Value → Prop
  | undefined | null | bool _ | number _ | bigInt _ | string _ => True
  | array elements => WellFormedElements elements
  | object fields => Entries.Distinct fields ∧ WellFormedFields fields

/-- `WellFormed` for all elements of an array. -/
def WellFormedElements : List Value → Prop
  | [] => True
  | element :: rest => element.WellFormed ∧ WellFormedElements rest

/-- `WellFormed` for the contents of fields. -/
def WellFormedFields : List (String × Value) → Prop
  | [] => True
  | (_, content) :: rest => content.WellFormed ∧ WellFormedFields rest

end

end Value

end Conformance
