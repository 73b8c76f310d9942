import Conformance.Schema.Error
import Conformance.Schema.OptionalMark
import Conformance.Wire.Basic

/-!
# Schemas and their wire form

`Schema.ofWire` makes sense of a wire form and `Schema.toWire` writes a schema in wire form.  Both may
fail, and **both report the first defect in the order of the document**: before it looks into the
content of an object, `ofWire` wants the object to hold one keyword and nothing else, and an ambiguous
member is reported before anything inside it.

What `ofWire` builds can always be written again, since it takes its members from names and its
numbers from documents.
-/

namespace Conformance.Schema

/-! ## From the wire form -/

/-- The literal schema of a document, in one of the spellings. -/
def literalOfJson (spelling : LiteralSpelling) (j : Json) : Except SchemaError Schema :=
  match Scalar.ofJson? j with
  | some value => .ok (literal value spelling)
  | none => .error .invalidLiteral

mutual

/-- The schema that a wire form means. -/
def ofWire : WireSchema → Except SchemaError Schema
  | .bare name =>
    match Primitive.ofName? name with
    | some p => .ok (primitive p)
    | none => .error (.unknownPrimitive name)
  | .keywords ⟨_, _, _, _, _, _, (keyword, _) :: _⟩ => .error (.unknownKeyword keyword)
  | .keywords ⟨some j, none, none, none, none, none, []⟩ => literalOfJson .literal j
  | .keywords ⟨none, some j, none, none, none, none, []⟩ => literalOfJson .matching j
  | .keywords ⟨none, none, some members, none, none, none, []⟩ =>
    (ofWireMembers [] members).map object
  | .keywords ⟨none, none, none, some wires, none, none, []⟩ => (ofWireAll wires).map oneOf
  | .keywords ⟨none, none, none, none, some wires, none, []⟩ => (ofWireAll wires).map allOf
  | .keywords ⟨none, none, none, none, none, some wire, []⟩ => (ofWire wire).map arrayOf
  | .keywords ⟨_, _, _, _, _, _, []⟩ => .error .invalidForm
termination_by structural wire => wire

/-- The schemas that wire forms mean, in order. -/
def ofWireAll : List WireSchema → Except SchemaError (List Schema)
  | [] => .ok []
  | wire :: rest => do
    let schema ← ofWire wire
    let schemas ← ofWireAll rest
    .ok (schema :: schemas)
termination_by structural wires => wires

/-- The members that named wire forms mean, none of them under a key of `earlier` ones. -/
def ofWireMembers (earlier : List String) :
    List (String × WireSchema) → Except SchemaError (List (String × Member Schema))
  | [] => .ok []
  | (name, wire) :: rest =>
    let (key, required) := Member.ofName name
    if key ∈ earlier then
      .error (.ambiguousMember key)
    else do
      let schema ← ofWire wire
      let members ← ofWireMembers (key :: earlier) rest
      .ok ((key, ⟨schema, required⟩) :: members)
termination_by structural members => members

end

/-! ## To the wire form -/

/-- The keywords of a literal with that JSON form. -/
def literalKeywords : LiteralSpelling → Json → Keywords WireSchema
  | .literal, j => { literal := some j }
  | .matching, j => { matching := some j }

mutual

/-- The wire form of a schema. -/
def toWire : Schema → Except SchemaError WireSchema
  | primitive p => .ok (.bare p.name)
  | literal value spelling =>
    match value.toJson? with
    | some j => .ok (.keywords (literalKeywords spelling j))
    | none => .error .invalidLiteral
  | object members => do
    let members ← toWireMembers members
    .ok (.keywords { object := some members })
  | oneOf schemas => do
    let wires ← toWireAll schemas
    .ok (.keywords { oneOf := some wires })
  | allOf schemas => do
    let wires ← toWireAll schemas
    .ok (.keywords { allOf := some wires })
  | arrayOf element => do
    let wire ← element.toWire
    .ok (.keywords { arrayOf := some wire })
termination_by structural schema => schema

/-- The wire forms of schemas, in order. -/
def toWireAll : List Schema → Except SchemaError (List WireSchema)
  | [] => .ok []
  | schema :: rest => do
    let wire ← schema.toWire
    let wires ← toWireAll rest
    .ok (wire :: wires)
termination_by structural schemas => schemas

/-- The named wire forms of members, in order. -/
def toWireMembers :
    List (String × Member Schema) → Except SchemaError (List (String × WireSchema))
  | [] => .ok []
  | (key, member) :: rest =>
    match Member.name? key member.required with
    | none => .error (.ambiguousMember key)
    | some name => do
      let wire ← member.schema.toWire
      let wires ← toWireMembers rest
      .ok ((name, wire) :: wires)
termination_by structural members => members

end

end Conformance.Schema
