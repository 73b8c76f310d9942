import Conformance.Wire.Basic

/-!
# Reading the wire form

`WireSchema.ofJson?` recognises the documents that have the shape of a schema.  It looks at shapes
only: literals may hold anything, a bare string any name, and unknown keywords are collected, not
refused.

* **A known keyword that holds `null` counts as absent**, while an unknown one is kept with its
  `null`.
* A known keyword may stand once in an object, even if it holds `null`.  Elsewhere a repeated key has
  its last content in its first place, but all its contents must have the shape.
-/

namespace Conformance.WireSchema

/-- Whether a known keyword occurs twice. -/
def repeatsKeyword (members : List (String × Json)) : Bool :=
  !decide (members.filterMap fun member => Keyword.ofName? member.1).Nodup

mutual

/-- The wire form that a document is. -/
def ofJson? : Json → Option WireSchema
  | .string s => some (bare s)
  | .object members =>
    if repeatsKeyword members then
      none
    else do
      let found ← keywordsOf? members
      some (keywords { found with extra := Entries.ofList found.extra })
  | .null | .bool _ | .number _ | .array _ => none
termination_by structural j => j

/-- The keywords among members, of which each is there at most once.  What is unknown is collected
with its repeats. -/
def keywordsOf? : List (String × Json) → Option (Keywords WireSchema)
  | [] => some {}
  | (key, content) :: rest => do
    let others ← keywordsOf? rest
    match Keyword.ofName? key, content with
    | none, content => some { others with extra := (key, content.resolve) :: others.extra }
    | some _, .null => some others
    | some .literal, content => some { others with literal := some content.resolve }
    | some .matching, content => some { others with matching := some content.resolve }
    | some .object, .object members => do
      let found ← membersOf? members
      some { others with object := some (Entries.ofList found) }
    | some .oneOf, .array elements => do
      let found ← allOf? elements
      some { others with oneOf := some found }
    | some .allOf, .array elements => do
      let found ← allOf? elements
      some { others with allOf := some found }
    | some .arrayOf, content => do
      let found ← ofJson? content
      some { others with arrayOf := some found }
    | some _, _ => none
termination_by structural members => members

/-- The wire forms that the contents of members are. -/
def membersOf? : List (String × Json) → Option (List (String × WireSchema))
  | [] => some []
  | (key, content) :: rest => do
    let wire ← ofJson? content
    let wires ← membersOf? rest
    some ((key, wire) :: wires)
termination_by structural members => members

/-- The wire forms that the elements of an array are. -/
def allOf? : List Json → Option (List WireSchema)
  | [] => some []
  | element :: rest => do
    let wire ← ofJson? element
    let wires ← allOf? rest
    some (wire :: wires)
termination_by structural elements => elements

end

end Conformance.WireSchema
