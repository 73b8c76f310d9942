import Conformance.Proofs.Json.Same
import Conformance.Proofs.Schema.Alike
import Conformance.Proofs.Schema.Document

/-!
# Which document a schema is written in

`Schema.toJson` writes the wire form of a schema as a document.  This file takes both steps at once:
**`toJson_eq_ok_iff` says of each form of schema what its document is** (`Schema.WrittenIn`).  A
primitive is a string, and any other schema an object with one member, whose key is the schema's
keyword.

Nothing is lost on the way but the order of members and the signs of zeros: schemas whose documents are
the same are equal (`beq_of_same_toJson`).
-/

namespace Conformance

namespace Schema

/-! ## The documents of schemas -/

/-- A member is written under its name. -/
def MemberIn (member : String × Member Schema) (field : String × Json) : Prop :=
  Member.name? member.1 member.2.required = some field.1 ∧ member.2.schema.toJson = .ok field.2

/-- The document that a schema is written in. -/
def WrittenIn : Schema → Json → Prop
  | primitive p, j => j = .string p.name
  | literal value spelling, j => ∃ held, j = .object [(spelling.keyword.name, held)] ∧
      value.toJson? = some held
  | object members, j => ∃ fields, j = .object [(Keyword.object.name, .object fields)] ∧
      List.Forall₂ MemberIn members fields
  | oneOf schemas, j => ∃ elements, j = .object [(Keyword.oneOf.name, .array elements)] ∧
      List.Forall₂ (fun part element => part.toJson = .ok element) schemas elements
  | allOf schemas, j => ∃ elements, j = .object [(Keyword.allOf.name, .array elements)] ∧
      List.Forall₂ (fun part element => part.toJson = .ok element) schemas elements
  | arrayOf element, j => ∃ held, j = .object [(Keyword.arrayOf.name, held)] ∧
      element.toJson = .ok held

lemma toJson_eq_ok_iff_toWire {schema : Schema} {j : Json} :
    schema.toJson = .ok j ↔ ∃ wire, schema.toWire = .ok wire ∧ wire.toJson = j :=
  map_eq_ok_iff

/-- The wire forms in the middle drop out. -/
lemma forall₂_toJson_iff {schemas : List Schema} {elements : List Json} :
    List.Forall₂ (fun part element => part.toJson = .ok element) schemas elements ↔
      ∃ wires, List.Forall₂ (fun part inner => part.toWire = .ok inner) schemas wires ∧
        WireSchema.allToJson wires = elements := by
  simp only [toJson_eq_ok_iff_toWire, forall₂_comp_iff, forall₂_eq_iff_map_eq,
    WireSchema.allToJson_eq_map]

lemma forall₂_memberIn_iff {members : List (String × Member Schema)}
    {fields : List (String × Json)} :
    List.Forall₂ MemberIn members fields ↔
      ∃ wires, List.Forall₂ MemberTo members wires ∧ WireSchema.membersToJson wires = fields := by
  simp only [WireSchema.membersToJson_eq_map, ← forall₂_eq_iff_map_eq]
  rw [← forall₂_comp_iff]
  refine forall₂_congr_of_mem fun member _ field _ => ?_
  rw [MemberIn, toJson_eq_ok_iff_toWire]
  constructor
  · rintro ⟨named, wire, written, document⟩
    exact ⟨(field.1, wire), ⟨named, written⟩, by rw [document]⟩
  · rintro ⟨⟨name, wire⟩, ⟨named, written⟩, rfl⟩
    exact ⟨named, wire, written, rfl⟩

/-- **A schema is written in the document of its form**, and its parts in the parts of it. -/
theorem toJson_eq_ok_iff {schema : Schema} {j : Json} :
    schema.toJson = .ok j ↔ schema.WrittenIn j := by
  rw [toJson_eq_ok_iff_toWire]
  constructor
  · rintro ⟨wire, written, rfl⟩
    rw [toWire_eq_ok_iff] at written
    cases schema with
    | primitive p =>
      cases written
      rfl
    | literal value spelling =>
      obtain ⟨held, rfl, document⟩ := written
      exact ⟨held, Content.alone_toJson _, document⟩
    | object members =>
      obtain ⟨wires, rfl, each⟩ := written
      exact ⟨_, Content.alone_toJson _, forall₂_memberIn_iff.2 ⟨wires, each, rfl⟩⟩
    | oneOf schemas =>
      obtain ⟨wires, rfl, each⟩ := written
      exact ⟨_, Content.alone_toJson _, forall₂_toJson_iff.2 ⟨wires, each, rfl⟩⟩
    | allOf schemas =>
      obtain ⟨wires, rfl, each⟩ := written
      exact ⟨_, Content.alone_toJson _, forall₂_toJson_iff.2 ⟨wires, each, rfl⟩⟩
    | arrayOf element =>
      obtain ⟨inner, rfl, inside⟩ := written
      exact ⟨_, Content.alone_toJson _, toJson_eq_ok_iff_toWire.2 ⟨inner, inside, rfl⟩⟩
  · intro written
    simp only [toWire_eq_ok_iff]
    cases schema with
    | primitive p =>
      cases written
      exact ⟨_, rfl, rfl⟩
    | literal value spelling =>
      obtain ⟨held, rfl, document⟩ := written
      exact ⟨_, ⟨held, rfl, document⟩, Content.alone_toJson _⟩
    | object members =>
      obtain ⟨fields, rfl, each⟩ := written
      obtain ⟨wires, inside, rfl⟩ := forall₂_memberIn_iff.1 each
      exact ⟨_, ⟨wires, rfl, inside⟩, Content.alone_toJson _⟩
    | oneOf schemas =>
      obtain ⟨elements, rfl, each⟩ := written
      obtain ⟨wires, inside, rfl⟩ := forall₂_toJson_iff.1 each
      exact ⟨_, ⟨wires, rfl, inside⟩, Content.alone_toJson _⟩
    | allOf schemas =>
      obtain ⟨elements, rfl, each⟩ := written
      obtain ⟨wires, inside, rfl⟩ := forall₂_toJson_iff.1 each
      exact ⟨_, ⟨wires, rfl, inside⟩, Content.alone_toJson _⟩
    | arrayOf element =>
      obtain ⟨held, rfl, document⟩ := written
      obtain ⟨inner, inside, rfl⟩ := toJson_eq_ok_iff_toWire.1 document
      exact ⟨_, ⟨inner, rfl, inside⟩, Content.alone_toJson _⟩

end Schema

/-! ## Documents that are the same -/

/-- The document that a scalar is written in.  Only finite numbers have one. -/
inductive Scalar.WrittenIn : Scalar → Json → Prop
  | string (s : String) : WrittenIn (.string s) (.string s)
  | number (x : Binary64.Finite) : WrittenIn (.number (.finite x)) (.number (.ofFinite x))
  | bool (b : Bool) : WrittenIn (.bool b) (.bool b)
  | bigInt (n : Int64) : WrittenIn (.bigInt n) (.object [(bigIntKey, .number (.ofInt64 n))])

lemma Scalar.writtenIn_of_toJson? {value : Scalar} {j : Json} (written : value.toJson? = some j) :
    value.WrittenIn j := by
  cases value with
  | string s =>
    cases written
    exact .string s
  | number x =>
    cases x with
    | finite x =>
      cases written
      exact .number x
    | _ => cases written
  | bool b =>
    cases written
    exact .bool b
  | bigInt n =>
    cases written
    exact .bigInt n

/-- Scalars whose documents are the same are equal. -/
lemma Scalar.beq_of_same {a b : Scalar} {j k : Json} (written : a.WrittenIn j)
    (written' : b.WrittenIn k) (same : j.Same k) : (a == b) = true := by
  cases written with
  | string s =>
    cases written' with
    | string t =>
      cases same
      exact beq_self_eq_true s
    | _ => cases same
  | number x =>
    cases written' with
    | number y =>
      cases same with
      | number same =>
        have values := same.toRat_eq
        rw [Json.Number.toRat_ofFinite, Json.Number.toRat_ofFinite] at values
        exact Binary64.Finite.beq_iff_toRat_eq.2 values
    | _ => cases same
  | bool b =>
    cases written' with
    | bool c =>
      cases same
      exact beq_self_eq_true b
    | _ => cases same
  | bigInt m =>
    cases written' with
    | bigInt n =>
      cases same.of_singleton.2 with
      | number same =>
        have read := same.toInt64?_eq
        rw [Json.Number.toInt64?_ofInt64, Json.Number.toInt64?_ofInt64, Option.some.injEq] at read
        rw [read]
        exact beq_self_eq_true n
    | _ => cases same

namespace Schema

/-- The keyword of a schema's document.  A primitive has none. -/
def keyword? : Schema → Option Keyword
  | primitive _ => none
  | literal _ spelling => some spelling.keyword
  | object _ => some .object
  | oneOf _ => some .oneOf
  | allOf _ => some .allOf
  | arrayOf _ => some .arrayOf

/-- A document is a string, or an object with the keyword alone. -/
lemma WrittenIn.cases_keyword? {schema : Schema} {j : Json} (written : schema.WrittenIn j) :
    (schema.keyword? = none ∧ ∃ name, j = .string name) ∨
      ∃ keyword held, schema.keyword? = some keyword ∧ j = .object [(keyword.name, held)] := by
  cases schema with
  | primitive p => exact Or.inl ⟨rfl, p.name, written⟩
  | literal value spelling =>
    obtain ⟨held, rfl, -⟩ := written
    exact Or.inr ⟨_, held, rfl, rfl⟩
  | object members =>
    obtain ⟨fields, rfl, -⟩ := written
    exact Or.inr ⟨_, _, rfl, rfl⟩
  | oneOf schemas =>
    obtain ⟨elements, rfl, -⟩ := written
    exact Or.inr ⟨_, _, rfl, rfl⟩
  | allOf schemas =>
    obtain ⟨elements, rfl, -⟩ := written
    exact Or.inr ⟨_, _, rfl, rfl⟩
  | arrayOf element =>
    obtain ⟨held, rfl, -⟩ := written
    exact Or.inr ⟨_, held, rfl, rfl⟩

/-- Documents that are the same have the same keyword. -/
lemma keyword?_eq_of_same {schema other : Schema} {j k : Json} (written : schema.WrittenIn j)
    (written' : other.WrittenIn k) (same : j.Same k) : schema.keyword? = other.keyword? := by
  rcases written.cases_keyword? with ⟨none, name, rfl⟩ | ⟨keyword, held, found, rfl⟩
  · rcases written'.cases_keyword? with ⟨none', name', rfl⟩ | ⟨keyword', held', found', rfl⟩
    · rw [none, none']
    · cases same
  · rcases written'.cases_keyword? with ⟨none', name', rfl⟩ | ⟨keyword', held', found', rfl⟩
    · cases same
    · have names := Keyword.ofName?_eq_some_iff.2 same.of_singleton.1
      rw [Keyword.ofName?_eq_some_iff.2 rfl] at names
      rw [found, found', names]

/-- What `beq_of_same_toJson` says of one schema, for all documents and all others. -/
abbrev SameOnlyIfEqual (schema : Schema) : Prop :=
  ∀ {other : Schema} {j k : Json}, other.WellFormed → schema.toJson = .ok j →
    other.toJson = .ok k → j.Same k → schema.beq other = true

/-- Lists of schemas whose documents are the same are equal. -/
lemma beqAll_of_same {schemas others : List Schema} {elements elements' : List Json}
    (ih : ∀ schema ∈ schemas, schema.SameOnlyIfEqual) (wellFormed : WellFormedAll others)
    (each : List.Forall₂ (fun part element => part.toJson = .ok element) schemas elements)
    (each' : List.Forall₂ (fun part element => part.toJson = .ok element) others elements')
    (same : List.Forall₂ Json.Same elements elements') : beqAll schemas others = true := by
  rw [wellFormedAll_iff] at wellFormed
  have chain : List.Forall₂ (fun schema other => ∃ j, schema.toJson = .ok j ∧
      ∃ k, j.Same k ∧ other.toJson = .ok k) schemas others :=
    forall₂_comp_iff.2 ⟨elements, each, forall₂_comp_iff.2 ⟨elements', same, each'.flip⟩⟩
  rw [beqAll_iff]
  refine forall₂_imp_of_mem chain ?_
  rintro schema mem other mem' ⟨j, written, k, same, written'⟩
  exact ih schema mem (wellFormed other mem') written written' same

/-- Members whose documents are the same, in any order, are equal. -/
lemma matches_of_same {members others : List (String × Member Schema)}
    {fields fields' : List (String × Json)}
    (ih : ∀ member ∈ members, member.2.schema.SameOnlyIfEqual)
    (wellFormed : (object others).WellFormed) (each : List.Forall₂ MemberIn members fields)
    (each' : List.Forall₂ MemberIn others fields')
    (same : (Json.object fields).Same (.object fields')) :
    Entries.Matches MemberEqual members others := by
  rw [WellFormed, wellFormedMembers_iff] at wellFormed
  obtain ⟨ordered, corresponding, reordered⟩ := same.exists_perm
  refine ⟨?_, fun member mem => ?_⟩
  · rw [each.length_eq, corresponding.length_eq, reordered.length_eq, each'.length_eq]
  · obtain ⟨field, field_mem, name, written⟩ := exists_of_mem_forall₂ each member mem
    obtain ⟨field', field_mem', names, same⟩ := exists_of_mem_forall₂ corresponding field field_mem
    obtain ⟨other, mem', name', written'⟩ :=
      exists_of_mem_forall₂ each'.flip field' (reordered.mem_iff.1 field_mem')
    -- The name gives the key and whether the member is required.
    rw [names, Member.name?_eq_some_iff] at name
    rw [Member.name?_eq_some_iff, name, Prod.mk.injEq] at name'
    refine ⟨other.2, ?_, ih member mem (wellFormed.2 other mem') written written' same, name'.2⟩
    rw [name'.1]
    exact Entries.lookup_of_mem others wellFormed.1 mem'

/-- **Schemas whose documents are the same are equal.** -/
theorem beq_of_same_toJson (schema : Schema) : schema.SameOnlyIfEqual := by
  induction schema using parts_induction with
  | primitive p =>
    intro other j k wellFormed written written' same
    rw [toJson_eq_ok_iff] at written written'
    have keywords := keyword?_eq_of_same written written' same
    cases other with
    | primitive q =>
      cases written
      cases written'
      have named := Primitive.ofName?_eq_some_iff.2 same.of_string
      rw [Primitive.ofName?_eq_some_iff.2 rfl, Option.some.injEq] at named
      exact beq_iff_eq.2 named.symm
    | _ => cases keywords
  | literal value spelling =>
    intro other j k wellFormed written written' same
    rw [toJson_eq_ok_iff] at written written'
    have keywords := keyword?_eq_of_same written written' same
    cases other with
    | literal value' spelling' =>
      obtain ⟨held, rfl, document⟩ := written
      obtain ⟨held', rfl, document'⟩ := written'
      rw [beq, Scalar.beq_of_same (Scalar.writtenIn_of_toJson? document)
        (Scalar.writtenIn_of_toJson? document') same.of_singleton.2, Bool.true_and]
      cases spelling <;> cases spelling' <;> first | rfl | cases keywords
    | _ => cases spelling <;> cases keywords
  | object members ih =>
    intro other j k wellFormed written written' same
    rw [toJson_eq_ok_iff] at written written'
    have keywords := keyword?_eq_of_same written written' same
    cases other with
    | object others =>
      obtain ⟨fields, rfl, each⟩ := written
      obtain ⟨fields', rfl, each'⟩ := written'
      exact beq_object_iff.2 (matches_of_same ih wellFormed each each' same.of_singleton.2)
    | literal value spelling => cases spelling <;> cases keywords
    | _ => cases keywords
  | oneOf schemas ih =>
    intro other j k wellFormed written written' same
    rw [toJson_eq_ok_iff] at written written'
    have keywords := keyword?_eq_of_same written written' same
    cases other with
    | oneOf others =>
      obtain ⟨elements, rfl, each⟩ := written
      obtain ⟨elements', rfl, each'⟩ := written'
      cases same.of_singleton.2 with
      | array same => exact beqAll_of_same ih wellFormed each each' same
    | literal value spelling => cases spelling <;> cases keywords
    | _ => cases keywords
  | allOf schemas ih =>
    intro other j k wellFormed written written' same
    rw [toJson_eq_ok_iff] at written written'
    have keywords := keyword?_eq_of_same written written' same
    cases other with
    | allOf others =>
      obtain ⟨elements, rfl, each⟩ := written
      obtain ⟨elements', rfl, each'⟩ := written'
      cases same.of_singleton.2 with
      | array same => exact beqAll_of_same ih wellFormed each each' same
    | literal value spelling => cases spelling <;> cases keywords
    | _ => cases keywords
  | arrayOf element ih =>
    intro other j k wellFormed written written' same
    rw [toJson_eq_ok_iff] at written written'
    have keywords := keyword?_eq_of_same written written' same
    cases other with
    | arrayOf other =>
      obtain ⟨held, rfl, inside⟩ := written
      obtain ⟨held', rfl, inside'⟩ := written'
      exact ih wellFormed inside inside' same.of_singleton.2
    | literal value spelling => cases spelling <;> cases keywords
    | _ => cases keywords

end Schema

end Conformance
