import Conformance.Json.Basic

/-!
# The wire form of schemas

Schemas are kept in JSON documents.  A primitive is a bare string and every other schema an object
with a keyword.  `WireSchema` is such a document once it is known to have that shape, and before it
is known to make sense: a name need not be a primitive's, and any number of keywords may stand side
by side, with unknown ones among them.

`WireSchema.toJson` writes the wire form in its normal form: **the keywords in the order of
`Keyword`, and after them what is unknown**, in the order in which it was read.
-/

namespace Conformance

/-- The keywords of schemas, in the order in which they are written. -/
inductive Keyword where
  | literal
  | matching
  | object
  | oneOf
  | allOf
  | arrayOf
deriving DecidableEq

namespace Keyword

/-- A keyword as it stands in a document. -/
def name : Keyword → String
  | literal => "literal"
  | matching => "match"
  | object => "object"
  | oneOf => "oneOf"
  | allOf => "allOf"
  | arrayOf => "arrayOf"

/-- The keyword of a name. -/
def ofName? (name : String) : Option Keyword :=
  if name = "literal" then some literal
  else if name = "match" then some matching
  else if name = "object" then some object
  else if name = "oneOf" then some oneOf
  else if name = "allOf" then some allOf
  else if name = "arrayOf" then some arrayOf
  else none

theorem ofName?_eq_some_iff {name : String} {k : Keyword} :
    ofName? name = some k ↔ k.name = name := by
  unfold ofName?
  constructor
  · intro h
    repeat (split at h; · cases h; simp_all [Keyword.name])
    cases h
  · rintro rfl
    cases k <;> rfl

end Keyword

/-- The keywords of one object, each with its content if it is there, and all that is unknown. -/
structure Keywords (σ : Type) where
  literal : Option Json := none
  matching : Option Json := none
  object : Option (List (String × σ)) := none
  oneOf : Option (List σ) := none
  allOf : Option (List σ) := none
  arrayOf : Option σ := none
  extra : List (String × Json) := []

/-- A schema as it stands in a document. -/
inductive WireSchema where
  | bare (name : String)
  | keywords (keywords : Keywords WireSchema)

namespace WireSchema

/-- A keyword with its content, if it is there. -/
def member (keyword : Keyword) (content : Option Json) : List (String × Json) :=
  (content.map fun j => (keyword.name, j)).toList

mutual

/-- The JSON document of a wire form. -/
def toJson : WireSchema → Json
  | bare name => .string name
  | keywords ⟨literal, matching, object, oneOf, allOf, arrayOf, extra⟩ =>
    .object (member .literal literal ++ member .matching matching ++
      member .object (objectToJson object) ++ member .oneOf (listToJson oneOf) ++
      member .allOf (listToJson allOf) ++ member .arrayOf (schemaToJson arrayOf) ++ extra)
termination_by structural wire => wire

/-- The content of the keyword `object`. -/
def objectToJson : Option (List (String × WireSchema)) → Option Json
  | none => none
  | some members => some (.object (membersToJson members))
termination_by structural content => content

/-- The content of the keywords `oneOf` and `allOf`. -/
def listToJson : Option (List WireSchema) → Option Json
  | none => none
  | some wires => some (.array (allToJson wires))
termination_by structural content => content

/-- The content of the keyword `arrayOf`. -/
def schemaToJson : Option WireSchema → Option Json
  | none => none
  | some wire => some wire.toJson
termination_by structural content => content

/-- `toJson` on the contents of members. -/
def membersToJson : List (String × WireSchema) → List (String × Json)
  | [] => []
  | (name, wire) :: rest => (name, wire.toJson) :: membersToJson rest
termination_by structural members => members

/-- `toJson` on all wire forms of a list. -/
def allToJson : List WireSchema → List Json
  | [] => []
  | wire :: rest => wire.toJson :: allToJson rest
termination_by structural wires => wires

end

end WireSchema

end Conformance
