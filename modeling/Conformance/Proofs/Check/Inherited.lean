import Conformance.Proofs.Check.Demand
import Conformance.Proofs.Pointer.Following
import Conformance.Proofs.Schema.Reload

/-!
# What demands inherit

A demand is about a schema inside the schema that makes it, and about the value or one of its parts.  So
what holds of everything inside is **inherited by the demands**, which is how it comes along in an
induction over them: no member or field stands twice (`Schema.WellFormed.of_demand`,
`Value.WellFormed.of_demand`), no other keys are declared (`Schema.declared_subset_of_demand`), and
there is a wire form (`Schema.Spellable.of_demand`).
-/

namespace Conformance

/-! ## Distinct names -/

lemma Schema.WellFormed.of_demand {schema inner : Schema} {value part : Value} {step : Option Step}
    (wellFormed : schema.WellFormed) (wanted : .part step inner part ∈ schema.demands value) :
    inner.WellFormed := by
  cases wants_of_mem_demands wanted with
  | field declared present =>
    rw [WellFormed, wellFormedMembers_iff] at wellFormed
    exact wellFormed.2 _ declared
  | alternative value listed =>
    rw [WellFormed, wellFormedAll_iff] at wellFormed
    exact wellFormed _ listed
  | part value listed =>
    rw [WellFormed, wellFormedAll_iff] at wellFormed
    exact wellFormed _ listed
  | element found => exact wellFormed

lemma Value.WellFormed.of_demand {schema inner : Schema} {value part : Value} {step : Option Step}
    (wellFormed : value.WellFormed) (wanted : .part step inner part ∈ schema.demands value) :
    part.WellFormed := by
  cases Schema.wants_of_mem_demands wanted with
  | field declared present =>
    rw [WellFormed] at wellFormed
    exact wellFormed_of_present? wellFormed.2 present
  | alternative value listed => exact wellFormed
  | part value listed => exact wellFormed
  | element found =>
    rw [WellFormed] at wellFormed
    exact wellFormed_of_mem wellFormed (List.mem_of_getElem? found)

/-! ## Declared keys -/

namespace Schema

lemma declared_subset_declaredAll {schema : Schema} {schemas : List Schema}
    (mem : schema ∈ schemas) : schema.declared ⊆ declaredAll schemas := by
  induction schemas with
  | nil => cases mem
  | cons head rest ih =>
    rw [declaredAll]
    rcases List.mem_cons.1 mem with rfl | later
    · exact List.subset_append_left _ _
    · exact List.subset_append_of_subset_right _ (ih later)

lemma declared_subset_declaredMembers {member : String × Member Schema}
    {members : List (String × Member Schema)} (mem : member ∈ members) :
    member.2.schema.declared ⊆ declaredMembers members := by
  induction members with
  | nil => cases mem
  | cons head rest ih =>
    rw [declaredMembers]
    rcases List.mem_cons.1 mem with rfl | later
    · exact List.subset_append_left _ _
    · exact List.subset_append_of_subset_right _ (ih later)

/-- What a schema demands is about schemas that declare no other keys. -/
lemma declared_subset_of_demand {schema inner : Schema} {value part : Value} {step : Option Step}
    (wanted : .part step inner part ∈ schema.demands value) : inner.declared ⊆ schema.declared := by
  cases wants_of_mem_demands wanted with
  | field declared present =>
    rw [Schema.declared]
    exact List.subset_cons_of_subset _ (declared_subset_declaredMembers declared)
  | alternative value listed => exact declared_subset_declaredAll listed
  | part value listed => exact declared_subset_declaredAll listed
  | element found => exact List.Subset.refl _

/-! ## Wire forms -/

/-- What a schema with a wire form demands is about schemas with a wire form. -/
lemma Spellable.of_demand {schema inner : Schema} {value part : Value} {step : Option Step}
    (spellable : schema.Spellable) (wanted : .part step inner part ∈ schema.demands value) :
    inner.Spellable := by
  cases wants_of_mem_demands wanted with
  | field declared present => exact spellable.member _ declared
  | alternative value listed => exact spellable.alternative _ listed
  | part value listed => exact spellable.part _ listed
  | element found => exact spellable.element

end Schema

end Conformance
