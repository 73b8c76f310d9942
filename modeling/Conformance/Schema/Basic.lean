import Conformance.Primitive
import Conformance.Scalar

/-!
# Schemas

A `Schema` says which values are wanted.  There are six forms: a primitive, a literal, an object with
named members, a choice (`oneOf`), an intersection (`allOf`) and arrays of one kind of element.

* Members have an order, which is the order in which they are checked and reported.  A member that is
  not `required` may be absent.  Fields that a schema does not mention are not looked at.
* A literal has two spellings, which mean the same (`LiteralSpelling`).
* `==` compares members without regard to their order, spellings included.
* `Schema.WellFormed` is what every reader and builder of schemas ensures: no object schema declares
  a member twice.
* `Schema.height` is how deeply schemas are nested in each other, and `Schema.size` how many there
  are.
-/

namespace Conformance

/-- How a literal is spelled in a document. -/
inductive LiteralSpelling where
  | literal
  | matching
deriving DecidableEq

/-- A member of an object schema, with `σ` for the schemas. -/
structure Member (σ : Type) where
  schema : σ
  required : Bool

/-- A description of wanted values. -/
inductive Schema where
  | primitive (p : Primitive)
  | literal (value : Scalar) (spelling : LiteralSpelling)
  | object (members : List (String × Member Schema))
  | oneOf (alternatives : List Schema)
  | allOf (parts : List Schema)
  | arrayOf (element : Schema)

namespace Schema

/-- The name of a schema's form. -/
def formName : Schema → String
  | primitive _ => "primitive"
  | literal _ _ => "literal"
  | object _ => "object"
  | oneOf _ => "oneOf"
  | allOf _ => "allOf"
  | arrayOf _ => "arrayOf"

/-! ## Equality -/

mutual

/-- Equality of schemas, members in any order. -/
def beq : Schema → Schema → Bool
  | primitive p, primitive q => p == q
  | literal a s, literal b t => a == b && s == t
  | object left, object right => left.length == right.length && beqMembers left right
  | oneOf left, oneOf right => beqAll left right
  | allOf left, allOf right => beqAll left right
  | arrayOf left, arrayOf right => left.beq right
  | _, _ => false

/-- Equality of schemas, place by place. -/
def beqAll : List Schema → List Schema → Bool
  | [], [] => true
  | a :: left, b :: right => a.beq b && beqAll left right
  | _, _ => false

/-- Whether each of the first members is found among the second ones, equally required and with an
equal schema. -/
def beqMembers : List (String × Member Schema) → List (String × Member Schema) → Bool
  | [], _ => true
  | (key, member) :: rest, right =>
    (match right.lookup key with
      | some other => member.schema.beq other.schema && member.required == other.required
      | none => false) && beqMembers rest right

end

instance : BEq Schema := ⟨beq⟩

/-! ## Distinct members -/

mutual

/-- No object schema anywhere inside declares a member twice. -/
def WellFormed : Schema → Prop
  | primitive _ | literal _ _ => True
  | object members => Entries.Distinct members ∧ WellFormedMembers members
  | oneOf schemas | allOf schemas => WellFormedAll schemas
  | arrayOf element => element.WellFormed

/-- `WellFormed` for all schemas of a list. -/
def WellFormedAll : List Schema → Prop
  | [] => True
  | schema :: rest => schema.WellFormed ∧ WellFormedAll rest

/-- `WellFormed` for the schemas of members. -/
def WellFormedMembers : List (String × Member Schema) → Prop
  | [] => True
  | (_, member) :: rest => member.schema.WellFormed ∧ WellFormedMembers rest

end

/-! ## Measures -/

mutual

/-- How many schemas are nested in each other at most, the outermost one included. -/
def height : Schema → Nat
  | primitive _ | literal _ _ => 1
  | object members => 1 + heightMembers members
  | oneOf schemas | allOf schemas => 1 + heightAll schemas
  | arrayOf element => 1 + element.height

/-- The greatest height among schemas, 0 if there are none. -/
def heightAll : List Schema → Nat
  | [] => 0
  | schema :: rest => max schema.height (heightAll rest)

/-- The greatest height among the schemas of members, 0 if there are none. -/
def heightMembers : List (String × Member Schema) → Nat
  | [] => 0
  | (_, member) :: rest => max member.schema.height (heightMembers rest)

end

mutual

/-- How many schemas there are, the outermost one included. -/
def size : Schema → Nat
  | primitive _ | literal _ _ => 1
  | object members => 1 + sizeMembers members
  | oneOf schemas | allOf schemas => 1 + sizeAll schemas
  | arrayOf element => 1 + element.size

/-- The sizes of schemas, added up. -/
def sizeAll : List Schema → Nat
  | [] => 0
  | schema :: rest => schema.size + sizeAll rest

/-- The sizes of the schemas of members, added up. -/
def sizeMembers : List (String × Member Schema) → Nat
  | [] => 0
  | (_, member) :: rest => member.schema.size + sizeMembers rest

end

end Schema

end Conformance
