import Conformance.Json.Basic
import Mathlib.Tactic.Common

/-!
# The parts of documents

A document has parts: the elements of an array and the contents of an object.  `Json.parts_induction`
is induction over them, and the lemmas after it say of the parts what `Json.WellFormed` says of lists
of them.
-/

namespace Conformance.Json

/-- Induction over the parts of a document. -/
@[elab_as_elim]
theorem parts_induction {motive : Json → Prop} (null : motive .null) (bool : ∀ b, motive (.bool b))
    (number : ∀ n, motive (.number n)) (string : ∀ s, motive (.string s))
    (array : ∀ elements, (∀ element ∈ elements, motive element) → motive (.array elements))
    (object : ∀ members, (∀ member ∈ members, motive member.2) → motive (.object members)) :
    ∀ j, motive j
  | .object members => object members fun member _mem =>
      parts_induction null bool number string array object member.2
  | .array elements => array elements fun element _mem =>
      parts_induction null bool number string array object element
  | .string s => string s
  | .number n => number n
  | .bool b => bool b
  | .null => null
termination_by j => j
decreasing_by
  · have := List.sizeOf_lt_of_mem _mem
    obtain ⟨key, content⟩ := member
    simp_all
    omega
  · have := List.sizeOf_lt_of_mem _mem
    simp
    omega

lemma wellFormedElements_iff {elements : List Json} :
    WellFormedElements elements ↔ ∀ element ∈ elements, element.WellFormed := by
  induction elements with
  | nil => simp [WellFormedElements]
  | cons element rest ih => simp [WellFormedElements, ih]

lemma wellFormedMembers_iff {members : List (String × Json)} :
    WellFormedMembers members ↔ ∀ member ∈ members, member.2.WellFormed := by
  induction members with
  | nil => simp [WellFormedMembers]
  | cons member rest ih => simp only [WellFormedMembers, ih, List.forall_mem_cons]

lemma WellFormed.element {elements : List Json} (wellFormed : (array elements).WellFormed) :
    ∀ element ∈ elements, element.WellFormed :=
  wellFormedElements_iff.1 wellFormed

lemma WellFormed.member {members : List (String × Json)}
    (wellFormed : (object members).WellFormed) : ∀ member ∈ members, member.2.WellFormed :=
  wellFormedMembers_iff.1 wellFormed.2

end Conformance.Json
