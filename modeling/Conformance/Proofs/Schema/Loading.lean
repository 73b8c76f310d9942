import Conformance.Proofs.Json.Parts
import Conformance.Proofs.Schema.Document

/-!
# Which documents a schema is loaded from

`Schema.load` reads a wire form from a document and a schema from the wire form.  This file takes both
steps at once: **`load_eq_ok_iff` lists the documents that a schema is loaded from, form by form**
(`Schema.LoadedFrom`), for documents without repeated keys.

A schema other than a primitive comes from an object with one keyword.  What the keyword has to hold
is `Content.ReadFrom` for the shape and `Schema.MeantBy` for the meaning.  Both are about lists that
correspond entry by entry, so that the wire forms in the middle drop out (`forall₂_memberFrom_iff`,
`forall₂_load_iff`).
-/

namespace Conformance

/-! ## What a keyword holds -/

namespace Content

open WireSchema

lemma readFrom_literal_iff {spelling : LiteralSpelling} {i j : Json} (wellFormed : j.WellFormed) :
    (literal spelling i).ReadFrom j ↔ i = j := by
  rw [ReadFrom, Json.resolve_of_wellFormed j wellFormed]

/-- A named wire form is read from a member of a document. -/
def FieldRead (field : String × Json) (named : String × WireSchema) : Prop :=
  field.1 = named.1 ∧ ofJson? field.2 = some named.2

/-- Without repeated keys the wire forms are those of the members, one by one. -/
lemma readFrom_object_iff {wires : List (String × WireSchema)} {j : Json}
    (wellFormed : j.WellFormed) :
    (object wires).ReadFrom j ↔
      ∃ fields, j = .object fields ∧ List.Forall₂ FieldRead fields wires := by
  have kept {fields : List (String × Json)} {found : List (String × WireSchema)}
      (whole : j = .object fields) (each : List.Forall₂ FieldRead fields found) :
      Entries.ofList found = found := by
    subst whole
    refine Entries.ofList_of_distinct found ?_
    have keys : Entries.keys fields = Entries.keys found :=
      map_eq_map_of_forall₂ each fun _ _ related => related.1
    rw [Entries.Distinct, ← keys]
    exact wellFormed.1
  simp only [ReadFrom, membersOf?_eq_some_iff]
  constructor
  · rintro ⟨fields, found, whole, each, rfl⟩
    rw [kept whole each]
    exact ⟨fields, whole, each⟩
  · rintro ⟨fields, whole, each⟩
    exact ⟨fields, wires, whole, each, (kept whole each).symm⟩

end Content

/-- What stands beside other keywords is part of the document. -/
lemma Keyword.Alone.wellFormed {keyword : Keyword} {held : Json} {members : List (String × Json)}
    (alone : keyword.Alone held members) (wellFormed : (Json.object members).WellFormed) :
    held.WellFormed :=
  wellFormed.member _ alone.held

namespace Schema

open WireSchema

/-! ## One step of loading -/

lemma load_eq_ok_iff_ofWire {j : Json} {schema : Schema} :
    load j = .ok schema ↔ ∃ wire, ofJson? j = some wire ∧ ofWire wire = .ok schema := by
  rw [load, WireSchema.load]
  cases ofJson? j with
  | none => simp
  | some wire =>
    simp only [ok_bind, Option.some.injEq, exists_eq_left']
    cases ofWire wire <;> simp [Except.mapError]

/-- A member of a document gives a member of a schema: the name its key and requiredness, the content
its schema. -/
def MemberFrom (field : String × Json) (member : String × Member Schema) : Prop :=
  Member.ofName field.1 = (member.1, member.2.required) ∧ load field.2 = .ok member.2.schema

/-- The documents that a schema is loaded from. -/
def LoadedFrom : Schema → Json → Prop
  | primitive p, j => j = .string p.name
  | literal value spelling, j => ∃ members held, j = .object members ∧
      spelling.keyword.Alone held members ∧ value.MeantBy held
  | object declared, j => ∃ members fields, j = .object members ∧
      Keyword.object.Alone (.object fields) members ∧
        List.Forall₂ MemberFrom fields declared ∧ Entries.Distinct declared
  | oneOf schemas, j => ∃ members elements, j = .object members ∧
      Keyword.oneOf.Alone (.array elements) members ∧
        List.Forall₂ (fun element part => load element = .ok part) elements schemas
  | allOf schemas, j => ∃ members elements, j = .object members ∧
      Keyword.allOf.Alone (.array elements) members ∧
        List.Forall₂ (fun element part => load element = .ok part) elements schemas
  | arrayOf element, j => ∃ members held, j = .object members ∧
      Keyword.arrayOf.Alone held members ∧ load held = .ok element

/-- A schema is loaded from the keyword that its wire form holds. -/
lemma load_of_alone (content : Content) {members : List (String × Json)} {held : Json}
    {schema : Schema} (wellFormed : (Json.object members).WellFormed)
    (alone : content.keyword.Alone held members) (read : content.ReadFrom held)
    (meant : schema.MeantBy content.alone) : load (.object members) = .ok schema :=
  load_eq_ok_iff_ofWire.2
    ⟨_, (ofJson?_eq_some_alone_iff wellFormed.1).2 ⟨held, alone, read⟩, ofWire_eq_ok_iff.2 meant⟩

/-- The wire form of a keyword comes from an object with that keyword. -/
lemma exists_alone {j : Json} {content : Content} (wellFormed : j.WellFormed)
    (read : ofJson? j = some content.alone) :
    ∃ members held, j = .object members ∧ content.keyword.Alone held members ∧
      held.WellFormed ∧ content.ReadFrom held := by
  obtain ⟨members, rfl⟩ := exists_object_of_ofJson? read
  obtain ⟨held, alone, from_held⟩ := (ofJson?_eq_some_alone_iff wellFormed.1).1 read
  exact ⟨members, held, rfl, alone, alone.wellFormed wellFormed, from_held⟩

/-- The members in the middle drop out. -/
lemma forall₂_memberFrom_iff {fields : List (String × Json)}
    {declared : List (String × Member Schema)} :
    List.Forall₂ MemberFrom fields declared ↔
      ∃ wires, List.Forall₂ Content.FieldRead fields wires ∧
        List.Forall₂ MemberOf wires declared := by
  rw [← forall₂_comp_iff]
  refine forall₂_congr_of_mem fun field _ member _ => ?_
  rw [MemberFrom, load_eq_ok_iff_ofWire]
  constructor
  · rintro ⟨named, wire, read, meant⟩
    exact ⟨(field.1, wire), ⟨rfl, read⟩, named, meant⟩
  · rintro ⟨⟨name, wire⟩, ⟨rfl, read⟩, named, meant⟩
    exact ⟨named, wire, read, meant⟩

lemma forall₂_load_iff {elements : List Json} {schemas : List Schema} :
    List.Forall₂ (fun element part => load element = .ok part) elements schemas ↔
      ∃ wires, WireSchema.allOf? elements = some wires ∧
        List.Forall₂ (fun wire part => ofWire wire = .ok part) wires schemas := by
  simp only [allOf?_eq_some_iff, load_eq_ok_iff_ofWire, forall₂_comp_iff]

/-- **A schema is loaded from the documents that have its form**, and its parts from their parts. -/
theorem load_eq_ok_iff {j : Json} {schema : Schema} (wellFormed : j.WellFormed) :
    load j = .ok schema ↔ schema.LoadedFrom j := by
  constructor
  · intro loaded
    obtain ⟨wire, read, meant⟩ := load_eq_ok_iff_ofWire.1 loaded
    rw [ofWire_eq_ok_iff] at meant
    cases schema with
    | primitive p =>
      cases meant
      exact ofJson?_eq_some_bare_iff.1 read
    | literal value spelling =>
      obtain ⟨i, rfl, scalar⟩ := meant
      obtain ⟨members, held, rfl, alone, held_wellFormed, from_held⟩ := exists_alone wellFormed read
      rw [Content.readFrom_literal_iff held_wellFormed] at from_held
      subst from_held
      exact ⟨members, i, rfl, alone, Scalar.ofJson?_eq_some_iff.1 scalar⟩
    | object declared =>
      obtain ⟨wires, rfl, each, distinct⟩ := meant
      obtain ⟨members, held, rfl, alone, held_wellFormed, from_held⟩ := exists_alone wellFormed read
      obtain ⟨fields, rfl, reads⟩ := (Content.readFrom_object_iff held_wellFormed).1 from_held
      exact ⟨members, fields, rfl, alone, forall₂_memberFrom_iff.2 ⟨wires, reads, each⟩, distinct⟩
    | oneOf schemas =>
      obtain ⟨wires, rfl, each⟩ := meant
      obtain ⟨members, held, rfl, alone, -, elements, rfl, reads⟩ := exists_alone wellFormed read
      exact ⟨members, elements, rfl, alone, forall₂_load_iff.2 ⟨wires, reads, each⟩⟩
    | allOf schemas =>
      obtain ⟨wires, rfl, each⟩ := meant
      obtain ⟨members, held, rfl, alone, -, elements, rfl, reads⟩ := exists_alone wellFormed read
      exact ⟨members, elements, rfl, alone, forall₂_load_iff.2 ⟨wires, reads, each⟩⟩
    | arrayOf element =>
      obtain ⟨inner, rfl, meant⟩ := meant
      obtain ⟨members, held, rfl, alone, -, from_held⟩ := exists_alone wellFormed read
      exact ⟨members, held, rfl, alone, load_eq_ok_iff_ofWire.2 ⟨inner, from_held, meant⟩⟩
  · intro loaded
    cases schema with
    | primitive p =>
      cases loaded
      exact load_eq_ok_iff_ofWire.2
        ⟨_, ofJson?_eq_some_bare_iff.2 rfl, ofWire_eq_ok_iff.2 rfl⟩
    | literal value spelling =>
      obtain ⟨members, held, rfl, alone, scalar⟩ := loaded
      have from_held : (Content.literal spelling held).ReadFrom held :=
        (Content.readFrom_literal_iff (alone.wellFormed wellFormed)).2 rfl
      exact load_of_alone (.literal spelling held) wellFormed alone from_held
        ⟨held, rfl, Scalar.ofJson?_eq_some_iff.2 scalar⟩
    | object declared =>
      obtain ⟨members, fields, rfl, alone, each, distinct⟩ := loaded
      obtain ⟨wires, reads, each⟩ := forall₂_memberFrom_iff.1 each
      have from_held := (Content.readFrom_object_iff (alone.wellFormed wellFormed)).2
        ⟨fields, rfl, reads⟩
      exact load_of_alone (.object wires) wellFormed alone from_held ⟨wires, rfl, each, distinct⟩
    | oneOf schemas =>
      obtain ⟨members, elements, rfl, alone, each⟩ := loaded
      obtain ⟨wires, reads, each⟩ := forall₂_load_iff.1 each
      exact load_of_alone (.oneOf wires) wellFormed alone ⟨elements, rfl, reads⟩
        ⟨wires, rfl, each⟩
    | allOf schemas =>
      obtain ⟨members, elements, rfl, alone, each⟩ := loaded
      obtain ⟨wires, reads, each⟩ := forall₂_load_iff.1 each
      exact load_of_alone (.allOf wires) wellFormed alone ⟨elements, rfl, reads⟩
        ⟨wires, rfl, each⟩
    | arrayOf element =>
      obtain ⟨members, held, rfl, alone, inside⟩ := loaded
      obtain ⟨inner, read, meant⟩ := load_eq_ok_iff_ofWire.1 inside
      exact load_of_alone (.arrayOf inner) wellFormed alone read ⟨inner, rfl, meant⟩

end Schema

end Conformance
