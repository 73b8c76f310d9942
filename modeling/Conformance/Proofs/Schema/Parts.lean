import Conformance.Schema.Basic
import Mathlib.Tactic.Common

/-!
# The parts of schemas

A schema has parts: the schemas of its members, its alternatives, and so on.  The library recurses
into them with one function for each kind of list.  `Schema.parts_induction` is induction over the
parts of a schema, and the lemmas after it turn what is said of such lists into what is said of their
entries.  `Schema.Contains` goes down to parts of parts.
-/

namespace Conformance

namespace Schema

/-- Induction over the parts of a schema. -/
@[elab_as_elim]
theorem parts_induction {motive : Schema → Prop}
    (primitive : ∀ p, motive (.primitive p))
    (literal : ∀ value spelling, motive (.literal value spelling))
    (object : ∀ members, (∀ member ∈ members, motive member.2.schema) → motive (.object members))
    (oneOf : ∀ schemas, (∀ schema ∈ schemas, motive schema) → motive (.oneOf schemas))
    (allOf : ∀ schemas, (∀ schema ∈ schemas, motive schema) → motive (.allOf schemas))
    (arrayOf : ∀ element, motive element → motive (.arrayOf element)) :
    ∀ schema, motive schema
  | .primitive p => primitive p
  | .literal value spelling => literal value spelling
  | .object members => object members fun member _mem =>
      parts_induction primitive literal object oneOf allOf arrayOf member.2.schema
  | .oneOf schemas => oneOf schemas fun schema _mem =>
      parts_induction primitive literal object oneOf allOf arrayOf schema
  | .allOf schemas => allOf schemas fun schema _mem =>
      parts_induction primitive literal object oneOf allOf arrayOf schema
  | .arrayOf element =>
      arrayOf element (parts_induction primitive literal object oneOf allOf arrayOf element)
termination_by schema => schema
decreasing_by
  · have := List.sizeOf_lt_of_mem _mem
    obtain ⟨key, schema, required⟩ := member
    simp_all
    omega
  · have := List.sizeOf_lt_of_mem _mem
    simp
    omega
  · have := List.sizeOf_lt_of_mem _mem
    simp
    omega
  · simp

/-- A schema is, or has somewhere inside, another one. -/
inductive Contains : Schema → Schema → Prop
  | itself (schema : Schema) : Contains schema schema
  | member {members : List (String × Member Schema)} {member : String × Member Schema}
    {inner : Schema} (declared : member ∈ members) (inside : Contains member.2.schema inner) :
    Contains (object members) inner
  | alternative {schemas : List Schema} {schema inner : Schema} (listed : schema ∈ schemas)
    (inside : Contains schema inner) : Contains (oneOf schemas) inner
  | part {schemas : List Schema} {schema inner : Schema} (listed : schema ∈ schemas)
    (inside : Contains schema inner) : Contains (allOf schemas) inner
  | element {element inner : Schema} (inside : Contains element inner) :
    Contains (arrayOf element) inner

lemma wellFormedAll_iff {schemas : List Schema} :
    WellFormedAll schemas ↔ ∀ schema ∈ schemas, schema.WellFormed := by
  induction schemas with
  | nil => simp [WellFormedAll]
  | cons schema rest ih => simp [WellFormedAll, ih]

lemma wellFormedMembers_iff {members : List (String × Member Schema)} :
    WellFormedMembers members ↔ ∀ member ∈ members, member.2.schema.WellFormed := by
  induction members with
  | nil => simp [WellFormedMembers]
  | cons member rest ih => simp only [WellFormedMembers, ih, List.forall_mem_cons]

lemma beqMembers_iff {left right : List (String × Member Schema)} :
    beqMembers left right = true ↔
      ∀ member ∈ left, ∃ other, right.lookup member.1 = some other ∧
        member.2.schema.beq other.schema = true ∧ member.2.required = other.required := by
  induction left with
  | nil => simp [beqMembers]
  | cons member rest ih =>
    obtain ⟨key, member⟩ := member
    rw [beqMembers, List.forall_mem_cons, Bool.and_eq_true, ih]
    cases right.lookup key <;> simp

end Schema

end Conformance
