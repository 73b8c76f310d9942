import Conformance.Proofs.Schema.Meaning
import Conformance.Proofs.Schema.Parts
import Conformance.Proofs.Wire.Reading
import Conformance.Schema.Document

/-!
# Documents of wire forms that mean a schema

`WireSchema.toJson` and `WireSchema.ofJson?` are not inverse to each other on all wire forms: a wire
form may repeat a name or hold a literal with repeated keys.  **For one that means a schema they are**
(`ofJson?_toJson`), as its names are distinct and its literals are scalars.
-/

namespace Conformance

/-! ## The document of a content -/

namespace Content

/-- The document that the keyword of the content holds. -/
def toJson : Content → Json
  | literal _ j => j
  | object members => .object (WireSchema.membersToJson members)
  | oneOf wires => .array (WireSchema.allToJson wires)
  | allOf wires => .array (WireSchema.allToJson wires)
  | arrayOf wire => wire.toJson

lemma alone_toJson (content : Content) :
    content.alone.toJson = .object [(content.keyword.name, content.toJson)] := by
  cases content with
  | literal spelling j => cases spelling <;> rfl
  | _ => rfl

/-- A content that is read from its own document is also read with its keyword. -/
lemma ofJson?_alone_toJson {content : Content} (notNull : content.toJson ≠ .null)
    (read : content.ReadFrom content.toJson) :
    WireSchema.ofJson? content.alone.toJson = some content.alone := by
  have alone : content.keyword.Alone content.toJson [(content.keyword.name, content.toJson)] := by
    refine ⟨?_, List.mem_cons_self, notNull, ?_⟩
    · simp
    · simp
  rw [alone_toJson, WireSchema.ofJson?_eq_some_alone_iff (by simp [Entries.Distinct])]
  exact ⟨_, alone, read⟩

end Content

namespace WireSchema

lemma toJson_ne_null (wire : WireSchema) : wire.toJson ≠ .null := by
  cases wire with
  | bare name => simp [toJson]
  | keywords keywords => simp [toJson]

lemma allToJson_eq_map (wires : List WireSchema) : allToJson wires = wires.map toJson := by
  induction wires with
  | nil => rfl
  | cons wire rest ih => rw [allToJson, List.map_cons, ih]

lemma membersToJson_eq_map (members : List (String × WireSchema)) :
    membersToJson members = members.map fun named => (named.1, named.2.toJson) := by
  induction members with
  | nil => rfl
  | cons named rest ih => rw [membersToJson, List.map_cons, ih]

/-- Forms are read back in a list if each of them is. -/
lemma allOf?_allToJson {wires : List WireSchema}
    (each : ∀ wire ∈ wires, ofJson? wire.toJson = some wire) :
    WireSchema.allOf? (allToJson wires) = some wires := by
  rw [allOf?_eq_some_iff, allToJson_eq_map, List.forall₂_map_left_iff, List.forall₂_same]
  exact each

lemma membersOf?_membersToJson {members : List (String × WireSchema)}
    (each : ∀ named ∈ members, ofJson? named.2.toJson = some named.2) :
    membersOf? (membersToJson members) = some members := by
  rw [membersOf?_eq_some_iff, membersToJson_eq_map, List.forall₂_map_left_iff, List.forall₂_same]
  exact fun named mem => ⟨rfl, each named mem⟩

end WireSchema

/-! ## Wire forms that mean a schema -/

namespace Scalar

/-- What is a scalar has no repeated keys. -/
lemma MeantBy.resolve_eq {j : Json} {scalar : Scalar} (meant : scalar.MeantBy j) :
    j.resolve = j := by
  cases meant <;> rfl

lemma MeantBy.ne_null {j : Json} {scalar : Scalar} (meant : scalar.MeantBy j) : j ≠ .null := by
  rintro rfl
  cases meant

end Scalar

namespace Schema

open WireSchema

/-- Different keys come from different names. -/
lemma distinct_of_memberOf {wires : List (String × WireSchema)}
    {members : List (String × Member Schema)} (each : List.Forall₂ MemberOf wires members)
    (distinct : Entries.Distinct members) : Entries.Distinct wires := by
  have keys : (Entries.keys wires).map (fun name => (Member.ofName name).1) =
      Entries.keys members := by
    rw [Entries.keys, List.map_map]
    refine map_eq_map_of_forall₂ each fun named member related => ?_
    rw [Function.comp_apply, related.1]
  rw [Entries.Distinct, ← keys] at distinct
  exact distinct.of_map _

/-- **What means a schema is read back from its document.** -/
theorem ofJson?_toJson (schema : Schema) :
    ∀ wire, ofWire wire = .ok schema → ofJson? wire.toJson = some wire := by
  have all (wires : List WireSchema) (schemas : List Schema)
      (ih : ∀ schema ∈ schemas, ∀ wire, ofWire wire = .ok schema →
        ofJson? wire.toJson = some wire)
      (each : List.Forall₂ (fun inner part => ofWire inner = .ok part) wires schemas) :
      WireSchema.allOf? (allToJson wires) = some wires := by
    refine allOf?_allToJson fun inner mem => ?_
    obtain ⟨part, mem', meant⟩ := exists_of_mem_forall₂ each inner mem
    exact ih part mem' inner meant
  induction schema using parts_induction with
  | primitive p =>
    intro wire meant
    rw [ofWire_eq_ok_iff] at meant
    cases meant
    rfl
  | literal value spelling =>
    intro wire meant
    obtain ⟨j, rfl, read⟩ := ofWire_eq_ok_iff.1 meant
    have scalar := Scalar.ofJson?_eq_some_iff.1 read
    exact Content.ofJson?_alone_toJson scalar.ne_null scalar.resolve_eq.symm
  | object members ih =>
    intro wire meant
    obtain ⟨wires, rfl, each, distinct⟩ := ofWire_eq_ok_iff.1 meant
    have read : ∀ named ∈ wires, ofJson? named.2.toJson = some named.2 := by
      intro named mem
      obtain ⟨member, mem', -, meant⟩ := exists_of_mem_forall₂ each named mem
      exact ih member mem' named.2 meant
    refine Content.ofJson?_alone_toJson (by simp [Content.toJson]) ?_
    exact ⟨_, wires, rfl, membersOf?_membersToJson read,
      (Entries.ofList_of_distinct wires (distinct_of_memberOf each distinct)).symm⟩
  | oneOf schemas ih =>
    intro wire meant
    obtain ⟨wires, rfl, each⟩ := ofWire_eq_ok_iff.1 meant
    have read := all wires schemas ih each
    exact Content.ofJson?_alone_toJson (by simp [Content.toJson]) ⟨_, rfl, read⟩
  | allOf schemas ih =>
    intro wire meant
    obtain ⟨wires, rfl, each⟩ := ofWire_eq_ok_iff.1 meant
    have read := all wires schemas ih each
    exact Content.ofJson?_alone_toJson (by simp [Content.toJson]) ⟨_, rfl, read⟩
  | arrayOf element ih =>
    intro wire meant
    obtain ⟨inner, rfl, inner_meant⟩ := ofWire_eq_ok_iff.1 meant
    exact Content.ofJson?_alone_toJson inner.toJson_ne_null (ih inner inner_meant)

end Schema

end Conformance
