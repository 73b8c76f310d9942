import Conformance.Proofs.Entries
import Conformance.Proofs.Schema.Refusal
import Conformance.Schema.Combinators

/-!
# What can be written of what is built

Not every schema has a wire form, but hardly anything can go wrong with a schema that is built with the
combinators (`Schema.Built`): `Schema.ofMembers` takes the mark off a name and makes the member
optional, so that **no required member is left with a key that looks marked**, however many marks the
name had and whatever the member was declared as (`Member.not_marked_of_unmark`).  A member that is
declared again replaces the earlier one as a whole, and adds nothing new to this.

`spellable_iff_unobstructed` says of all schemas when they have a wire form, and of those that were
built that only a number literal may stand in the way.
-/

namespace Conformance

/-! ## Schemas from combinators -/

namespace Schema

/-- A schema that is built with the combinators alone.  Each member may be declared as required or as
optional, under any name. -/
inductive Built : Schema → Prop
  | string : Built string
  | number : Built number
  | boolean : Built boolean
  | null : Built null
  | exactly (value : Scalar) : Built (exactly value)
  | matching (value : Scalar) : Built (matching value)
  | ofMembers {members : List (String × Member Schema)}
    (each : ∀ named ∈ members, Built named.2.schema) : Built (ofMembers members)
  | oneOf {schemas : List Schema} (each : ∀ schema ∈ schemas, Built schema) : Built (oneOf schemas)
  | allOf {schemas : List Schema} (each : ∀ schema ∈ schemas, Built schema) : Built (allOf schemas)
  | arrayOf {element : Schema} (inside : Built element) : Built (arrayOf element)

end Schema

namespace Member

lemma schema_unmark (name : String) (member : Member Schema) :
    (member.unmark name).2.schema = member.schema := by
  rw [unmark]
  split <;> rfl

/-- **What is still required has a key that does not look marked.** -/
lemma not_marked_of_unmark {name : String} {member : Member Schema}
    (required : (member.unmark name).2.required = true) :
    ¬ OptionalMark.Marked (member.unmark name).1 := by
  rw [unmark] at required ⊢
  split at required
  · cases required
  · rename_i unmarked
    exact OptionalMark.remove?_eq_none_iff.1 unmarked

end Member

namespace Schema

/-- The members of a built object schema are those that were declared, under their keys. -/
lemma exists_unmark_of_mem {declared : List (String × Member Schema)}
    {member : String × Member Schema}
    (mem : member ∈ Entries.ofList (declared.map fun (name, member) => member.unmark name)) :
    ∃ named ∈ declared, member = named.2.unmark named.1 := by
  obtain ⟨named, listed, rfl⟩ := List.mem_map.1 (Entries.mem_of_mem_ofList mem)
  exact ⟨named, listed, rfl⟩

/-- **A built schema contains no required member whose key looks marked.** -/
theorem Built.not_marked {schema : Schema} (built : schema.Built)
    {members : List (String × Member Schema)} (inside : schema.Contains (.object members))
    {member : String × Member Schema} (declared : member ∈ members)
    (required : member.2.required = true) : ¬ OptionalMark.Marked member.1 := by
  induction built with
  | string => cases inside
  | number => cases inside
  | boolean => cases inside
  | null => cases inside
  | exactly value => cases inside
  | matching value => cases inside
  | ofMembers each ih =>
    cases inside with
    | itself =>
      obtain ⟨named, -, rfl⟩ := exists_unmark_of_mem declared
      exact Member.not_marked_of_unmark required
    | member kept inside =>
      obtain ⟨named, listed, rfl⟩ := exists_unmark_of_mem kept
      rw [Member.schema_unmark] at inside
      exact ih named listed inside
  | oneOf each ih =>
    cases inside with
    | alternative listed inside => exact ih _ listed inside
  | allOf each ih =>
    cases inside with
    | part listed inside => exact ih _ listed inside
  | arrayOf _ ih =>
    cases inside with
    | element inside => exact ih inside

end Schema

/-! ## What the wire form can spell -/

/-- **Exactly which schemas have a wire form.**  A schema can be written if nothing inside it is a
required member whose key looks marked or a number literal that is not finite, and otherwise the first
of these obstacles is the error.  In a schema that was built with the combinators it can only be the
literal. -/
theorem spellable_iff_unobstructed (schema : Schema) :
    ((∃ wire, schema.toWire = .ok wire) ↔
      (∀ members, schema.Contains (.object members) → ∀ member ∈ members,
        member.2.required = true → ¬ OptionalMark.Marked member.1) ∧
      ∀ x spelling, schema.Contains (.literal (.number x) spelling) → x.isFinite = true) ∧
    (∀ error, schema.toWire = .error error ↔ schema.obstacles.head? = some error) ∧
    (schema.Built →
      (∀ members, schema.Contains (.object members) → ∀ member ∈ members,
        member.2.required = true → ¬ OptionalMark.Marked member.1) ∧
      ∀ error, schema.toWire = .error error → error = .invalidLiteral ∧
        ∃ x spelling, schema.Contains (.literal (.number x) spelling) ∧ x.isFinite = false) := by
  refine ⟨?_, fun error => ?_, fun built => ⟨?_, fun error failed => ?_⟩⟩
  · rw [Schema.exists_toWire_iff]
    constructor
    · intro silent
      refine ⟨fun members inside member declared required marked => ?_, fun x spelling inside => ?_⟩
      · exact silent _ _ inside (.member declared required marked)
      · rw [← Bool.not_eq_false]
        exact fun notFinite => silent _ _ inside (.literal notFinite)
    · rintro ⟨named, finite⟩ inner error inside raises
      cases raises with
      | literal notFinite => exact Bool.eq_false_iff.1 notFinite (finite _ _ inside)
      | member declared required marked => exact named _ inside _ declared required marked
  · rw [← Schema.errorOf?_toWire, errorOf?_eq_some_iff]
  · exact fun members inside member declared required => built.not_marked inside declared required
  · obtain ⟨inner, inside, raises⟩ := Schema.exists_raises_of_toWire failed
    cases raises with
    | literal notFinite => exact ⟨rfl, _, _, inside, notFinite⟩
    | member declared required marked =>
      exact absurd marked (built.not_marked inside declared required)

/-- A key that keeps a mark, and a member that is declared again, as not-a-number. -/
theorem spellable_iff_unobstructed_of_marks :
    let schema := Schema.ofMembers [("a??", .require .string), ("b", .require .null),
      ("b", .require (.exactly (.number .nan)))]
    schema.Built ∧
      (∀ members, schema.Contains (.object members) → ∀ member ∈ members,
        member.2.required = true → ¬ OptionalMark.Marked member.1) ∧
      schema.toWire = .error .invalidLiteral ∧
      ∃ x spelling, schema.Contains (.literal (.number x) spelling) ∧ x.isFinite = false := by
  intro schema
  have built : schema.Built := by
    refine .ofMembers fun named mem => ?_
    simp only [List.mem_cons, List.not_mem_nil, or_false] at mem
    rcases mem with rfl | rfl | rfl
    · exact .string
    · exact .null
    · exact .exactly (.number .nan)
  have failed : schema.toWire = .error .invalidLiteral := rfl
  obtain ⟨named, obstructed⟩ := (spellable_iff_unobstructed schema).2.2 built
  exact ⟨built, named, failed, (obstructed _ failed).2⟩

end Conformance
