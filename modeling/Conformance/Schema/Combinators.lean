import Conformance.Schema.OptionalMark

/-!
# Building schemas

Schemas are built from primitives and literals with `Schema.ofMembers`, `Schema.oneOf`,
`Schema.allOf` and `Schema.arrayOf`.

`Schema.ofMembers` reads the names of its members as a document would: a question mark at the end is
taken off and makes the member optional.  **A member declared again replaces the earlier one in its
place.**
-/

namespace Conformance

namespace Member

/-- A member that must be present. -/
def require (schema : Schema) : Member Schema :=
  ⟨schema, true⟩

/-- A member that may be absent. -/
def allow (schema : Schema) : Member Schema :=
  ⟨schema, false⟩

/-- A named member under its key: with the mark it is optional, whatever it was declared as. -/
def unmark (name : String) (member : Member Schema) : String × Member Schema :=
  match OptionalMark.remove? name with
  | some key => (key, allow member.schema)
  | none => (name, member)

end Member

namespace Schema

/-- Strings. -/
def string : Schema := primitive .string

/-- Numbers. -/
def number : Schema := primitive .number

/-- The two truth values. -/
def boolean : Schema := primitive .boolean

/-- The value `null`, and not `undefined`. -/
def null : Schema := primitive .null

/-- Exactly one value. -/
def exactly (value : Scalar) : Schema := literal value .literal

/-- Exactly one value, spelled the other way. -/
def matching (value : Scalar) : Schema := literal value .matching

/-- Objects with the named members. -/
def ofMembers (members : List (String × Member Schema)) : Schema :=
  object (Entries.ofList (members.map fun (name, member) => member.unmark name))

end Schema

end Conformance
