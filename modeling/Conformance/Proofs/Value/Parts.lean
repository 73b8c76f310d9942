import Conformance.Proofs.Entries
import Conformance.Value.Basic

/-!
# The parts of values

A value has parts: the elements of an array and the contents of fields.  `Value.parts_induction` is
induction over them, and the lemmas after it turn what `Value.WellFormed` says of lists of parts into
what it says of each part.
-/

namespace Conformance.Value

/-- Induction over the parts of a value. -/
@[elab_as_elim]
theorem parts_induction {motive : Value → Prop} (undefined : motive .undefined)
    (null : motive .null) (bool : ∀ b, motive (.bool b)) (number : ∀ x, motive (.number x))
    (bigInt : ∀ n, motive (.bigInt n)) (string : ∀ s, motive (.string s))
    (array : ∀ elements, (∀ element ∈ elements, motive element) → motive (.array elements))
    (object : ∀ fields, (∀ field ∈ fields, motive field.2) → motive (.object fields)) :
    ∀ v, motive v
  | .undefined => undefined
  | .null => null
  | .bool b => bool b
  | .number x => number x
  | .bigInt n => bigInt n
  | .string s => string s
  | .array elements => array elements fun element _mem =>
      parts_induction undefined null bool number bigInt string array object element
  | .object fields => object fields fun field _mem =>
      parts_induction undefined null bool number bigInt string array object field.2
termination_by v => v
decreasing_by
  · have := List.sizeOf_lt_of_mem _mem
    simp
    omega
  · have := List.sizeOf_lt_of_mem _mem
    obtain ⟨name, content⟩ := field
    simp_all
    omega

lemma wellFormedElements_iff {elements : List Value} :
    WellFormedElements elements ↔ ∀ element ∈ elements, element.WellFormed := by
  induction elements with
  | nil => simp [WellFormedElements]
  | cons element rest ih => simp [WellFormedElements, ih]

lemma wellFormedFields_iff {fields : List (String × Value)} :
    WellFormedFields fields ↔ ∀ field ∈ fields, field.2.WellFormed := by
  induction fields with
  | nil => simp [WellFormedFields]
  | cons field rest ih => simp only [WellFormedFields, ih, List.forall_mem_cons]

lemma wellFormed_of_lookup {fields : List (String × Value)} {name : String} {field : Value}
    (wellFormed : WellFormedFields fields) (found : fields.lookup name = some field) :
    field.WellFormed :=
  wellFormedFields_iff.1 wellFormed (name, field) (Entries.mem_of_lookup found)

lemma wellFormed_of_mem {elements : List Value} {element : Value}
    (wellFormed : WellFormedElements elements) (mem : element ∈ elements) : element.WellFormed :=
  wellFormedElements_iff.1 wellFormed element mem

lemma wellFormed_of_present? {fields : List (String × Value)} {name : String} {field : Value}
    (wellFormed : WellFormedFields fields) (present : present? fields name = some field) :
    field.WellFormed :=
  wellFormed_of_lookup wellFormed (Option.filter_eq_some_iff.1 present).1

end Conformance.Value
