import Conformance.Proofs.Check.Verdict
import Conformance.Proofs.Value.Parts

/-!
# Widening a schema

A schema is within another one if the other accepts everything that it accepts (`Schema.Within`).  No
schema rejects a value because something inside accepts it, so that **a wider schema in one place makes
the whole schema wider** (`SchemaContext.within_plug`).

* `within_object`, `within_oneOf`, `within_allOf` and `within_arrayOf` say of each form when one schema
  is within another, from what is inside.  A choice asks the reverse of what objects and intersections
  ask: each alternative has to be within one of the other choice, but each member and each part of the
  *other* schema has to be wider than one that there was.
* `Schema.Widening` lists edits that make a schema wider.  They may be made at any place, one after the
  other (`Schema.Widened.within_of_edits`).
-/

namespace Conformance

namespace Schema

/-- Every value that the schema accepts is accepted by the other. -/
def Within (schema other : Schema) : Prop :=
  ∀ value : Value, value.WellFormed → schema.accepts value = true → other.accepts value = true

lemma Within.refl (schema : Schema) : schema.Within schema :=
  fun _ _ accepted => accepted

lemma Within.trans {schema other last : Schema} (first : schema.Within other)
    (second : other.Within last) : schema.Within last :=
  fun value wellFormed accepted => second value wellFormed (first value wellFormed accepted)

/-- A member of the same key that may be absent if the first one may, with a wider schema. -/
structure MemberWithin (member other : String × Member Schema) : Prop where
  key : member.1 = other.1
  optional : member.2.required = false → other.2.required = false
  schema : member.2.schema.Within other.2.schema

lemma MemberWithin.refl (member : String × Member Schema) : MemberWithin member member :=
  ⟨rfl, id, .refl _⟩

/-! ## Form by form -/

lemma within_object {members others : List (String × Member Schema)}
    (each : ∀ other ∈ others, ∃ member ∈ members, MemberWithin member other) :
    (object members).Within (object others) := by
  intro value wellFormed accepted
  obtain ⟨fields, rfl, content⟩ := accepts_object_iff.1 accepted
  rw [Value.WellFormed] at wellFormed
  refine accepts_object_iff.2 ⟨fields, rfl, fun other mem => ?_⟩
  obtain ⟨member, mem, key, optional, inside⟩ := each other mem
  rw [← key]
  rcases content member mem with ⟨absent, notRequired⟩ | ⟨field, present, accepted⟩
  · exact .inl ⟨absent, optional notRequired⟩
  · have field_wellFormed := Value.wellFormed_of_present? wellFormed.2 present
    exact .inr ⟨field, present, inside field field_wellFormed accepted⟩

lemma within_oneOf {alternatives others : List Schema}
    (each : ∀ alternative ∈ alternatives, ∃ other ∈ others, alternative.Within other) :
    (oneOf alternatives).Within (oneOf others) := by
  intro value wellFormed accepted
  obtain ⟨alternative, mem, accepted⟩ := accepts_oneOf_iff.1 accepted
  obtain ⟨other, mem, inside⟩ := each alternative mem
  exact accepts_oneOf_iff.2 ⟨other, mem, inside value wellFormed accepted⟩

lemma within_allOf {parts others : List Schema}
    (each : ∀ other ∈ others, ∃ part ∈ parts, part.Within other) :
    (allOf parts).Within (allOf others) := by
  intro value wellFormed accepted
  refine accepts_allOf_iff.2 fun other mem => ?_
  obtain ⟨part, mem, inside⟩ := each other mem
  exact inside value wellFormed (accepts_allOf_iff.1 accepted part mem)

lemma within_arrayOf {element other : Schema} (inside : element.Within other) :
    (arrayOf element).Within (arrayOf other) := by
  intro value wellFormed accepted
  obtain ⟨elements, rfl, each⟩ := accepts_arrayOf_iff.1 accepted
  rw [Value.WellFormed] at wellFormed
  refine accepts_arrayOf_iff.2 ⟨elements, rfl, fun x mem => ?_⟩
  exact inside x (Value.wellFormed_of_mem wellFormed mem) (each x mem)

/-- A schema is within every choice that offers it. -/
lemma within_oneOf_of_mem {schema : Schema} {alternatives : List Schema}
    (mem : schema ∈ alternatives) : schema.Within (oneOf alternatives) :=
  fun _ _ accepted => accepts_oneOf_iff.2 ⟨schema, mem, accepted⟩

end Schema

/-! ## Lists that differ in one place -/

section Lists

variable {α : Type} {R : α → α → Prop}

lemma exists_of_replaced (refl : ∀ x, R x x) {a b : α} (related : R a b) (before after : List α) :
    ∀ x ∈ before ++ a :: after, ∃ y ∈ before ++ b :: after, R x y := by
  intro x mem
  rcases List.mem_append.1 mem with earlier | mem
  · exact ⟨x, List.mem_append_left _ earlier, refl x⟩
  · rcases List.mem_cons.1 mem with rfl | later
    · exact ⟨b, by simp, related⟩
    · exact ⟨x, by simp [later], refl x⟩

lemma exists_of_inserted (refl : ∀ x, R x x) (before after : List α) (a : α) :
    ∀ x ∈ before ++ after, ∃ y ∈ before ++ a :: after, R x y := by
  intro x mem
  have sublist := (List.sublist_cons_self a after).append_left before
  exact ⟨x, sublist.subset mem, refl x⟩

end Lists

/-! ## Contexts -/

/-- A schema with a hole, at any depth. -/
inductive SchemaContext where
  | hole
  | member (before : List (String × Member Schema)) (key : String) (inside : SchemaContext)
      (required : Bool) (after : List (String × Member Schema))
  | alternative (before : List Schema) (inside : SchemaContext) (after : List Schema)
  | part (before : List Schema) (inside : SchemaContext) (after : List Schema)
  | element (inside : SchemaContext)

namespace SchemaContext

/-- The schema with the hole filled. -/
def plug : SchemaContext → Schema → Schema
  | hole, schema => schema
  | member before key inside required after, schema =>
    .object (before ++ (key, ⟨inside.plug schema, required⟩) :: after)
  | alternative before inside after, schema => .oneOf (before ++ inside.plug schema :: after)
  | part before inside after, schema => .allOf (before ++ inside.plug schema :: after)
  | element inside, schema => .arrayOf (inside.plug schema)

/-- **A wider schema in the hole makes the whole schema wider.** -/
theorem within_plug (context : SchemaContext) {schema other : Schema}
    (narrower : schema.Within other) : (context.plug schema).Within (context.plug other) := by
  induction context with
  | hole => exact narrower
  | member before key inside required after ih =>
    have here : Schema.MemberWithin (key, ⟨inside.plug schema, required⟩)
        (key, ⟨inside.plug other, required⟩) := ⟨rfl, id, ih⟩
    -- Each member of the wider object needs a narrower one, hence the flipped relation.
    exact Schema.within_object
      (exists_of_replaced (R := flip Schema.MemberWithin) .refl here before after)
  | alternative before inside after ih =>
    exact Schema.within_oneOf (exists_of_replaced .refl ih before after)
  | part before inside after ih =>
    exact Schema.within_allOf (exists_of_replaced (R := flip Schema.Within) .refl ih before after)
  | element inside ih => exact Schema.within_arrayOf ih

end SchemaContext

/-! ## Edits -/

namespace Schema

/-- An edit of a schema that makes it wider. -/
inductive Widening : Schema → Schema → Prop
  /-- A required member becomes optional. -/
  | makeOptional (before : List (String × Member Schema)) (key : String) (schema : Schema)
      (after : List (String × Member Schema)) :
      Widening (object (before ++ (key, ⟨schema, true⟩) :: after))
        (object (before ++ (key, ⟨schema, false⟩) :: after))
  /-- A member is no longer mentioned. -/
  | dropMember (before : List (String × Member Schema)) (member : String × Member Schema)
      (after : List (String × Member Schema)) :
      Widening (object (before ++ member :: after)) (object (before ++ after))
  /-- A choice has an alternative more. -/
  | addAlternative (before : List Schema) (alternative : Schema) (after : List Schema) :
      Widening (oneOf (before ++ after)) (oneOf (before ++ alternative :: after))
  /-- An intersection has a part less. -/
  | dropPart (before : List Schema) (part : Schema) (after : List Schema) :
      Widening (allOf (before ++ part :: after)) (allOf (before ++ after))
  /-- A schema becomes one alternative of a choice. -/
  | offerAmong (before : List Schema) (schema : Schema) (after : List Schema) :
      Widening schema (oneOf (before ++ schema :: after))

/-- **An edit makes a schema wider.** -/
theorem Widening.within {schema other : Schema} (edit : schema.Widening other) :
    schema.Within other := by
  cases edit with
  | makeOptional before key schema after =>
    have here : MemberWithin (key, ⟨schema, true⟩) (key, ⟨schema, false⟩) :=
      ⟨rfl, fun _ => rfl, .refl schema⟩
    exact within_object (exists_of_replaced (R := flip MemberWithin) .refl here before after)
  | dropMember before member after =>
    exact within_object (exists_of_inserted (R := flip MemberWithin) .refl before after member)
  | addAlternative before alternative after =>
    exact within_oneOf (exists_of_inserted .refl before after alternative)
  | dropPart before part after =>
    exact within_allOf (exists_of_inserted (R := flip Within) .refl before after part)
  | offerAmong before schema after => exact within_oneOf_of_mem (by simp)

/-- One edit somewhere in a schema. -/
def Widened (schema other : Schema) : Prop :=
  ∃ (context : SchemaContext) (narrow wide : Schema), narrow.Widening wide ∧
    schema = context.plug narrow ∧ other = context.plug wide

lemma Widened.within {schema other : Schema} (widened : schema.Widened other) :
    schema.Within other := by
  obtain ⟨context, narrow, wide, edit, rfl, rfl⟩ := widened
  exact context.within_plug edit.within

/-- **Edits one after the other, each somewhere, make a schema wider.** -/
theorem Widened.within_of_edits {schema other : Schema}
    (edits : Relation.ReflTransGen Widened schema other) : schema.Within other := by
  induction edits with
  | refl => exact .refl schema
  | tail _ widened ih => exact ih.trans widened.within

end Schema

/-- **What is valid is monotone in every place of a schema.**  A wider schema in a hole makes the whole
schema wider, and so does each edit, wherever it is made. -/
theorem validity_is_monotone (context : SchemaContext) (schema other : Schema) :
    (schema.Within other → (context.plug schema).Within (context.plug other)) ∧
      (schema.Widening other → (context.plug schema).Within (context.plug other)) :=
  ⟨context.within_plug, fun edit => context.within_plug edit.within⟩

/-- A member that becomes optional, in a part of an intersection for elements. -/
theorem validity_is_monotone_in_elements :
    let schema := Schema.object [("a", ⟨.primitive .string, true⟩)]
    let other := Schema.object [("a", ⟨.primitive .string, false⟩)]
    let context := SchemaContext.element
      (.part [] .hole [.object [("b", ⟨.primitive .null, true⟩)]])
    let value := Value.array [.object [("a", .undefined), ("b", .null)]]
    (context.plug schema).accepts value = false ∧ (context.plug other).accepts value = true ∧
      schema.Within other ∧ (context.plug schema).Within (context.plug other) := by
  intro schema other context value
  have edit : schema.Widening other := .makeOptional [] "a" (.primitive .string) []
  have narrower : schema.Within other := (validity_is_monotone .hole schema other).2 edit
  exact ⟨rfl, rfl, narrower, (validity_is_monotone context schema other).1 narrower⟩

end Conformance
