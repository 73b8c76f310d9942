import Conformance.Proofs.Result
import Conformance.Proofs.Wire.Parts
import Conformance.Proofs.Wire.Shape
import Conformance.Schema.Document

/-!
# Defects of wire forms

What is wrong with a wire form may be listed without making a schema of it: `WireSchema.defects` goes
through the wire form and writes down every defect where it stands.  An object with an unknown keyword
or without a single keyword is one defect, whatever it holds.  **A member that is ambiguous comes
before what is wrong inside it, and after what is wrong inside the members before it.**

`Schema.ofWire` stops at the first of them (`errorOf?_ofWire`), so that a wire form means a schema
exactly if there is no defect.  A document is not looked at in this way before all of it has the
shape of a wire form: **a wrong shape is reported instead of any defect** (`first_defect_reported`).
-/

namespace Conformance

/-! ## The list of defects -/

/-- The defects of a document as a literal. -/
def Json.literalDefects (j : Json) : List SchemaError :=
  if Scalar.ofJson? j = none then [.invalidLiteral] else []

namespace WireSchema

mutual

/-- The defects of a wire form, in the order of the document. -/
def defects : WireSchema → List SchemaError
  | bare name => if Primitive.ofName? name = none then [.unknownPrimitive name] else []
  | keywords ⟨_, _, _, _, _, _, (keyword, _) :: _⟩ => [.unknownKeyword keyword]
  | keywords ⟨literal, matching, object, oneOf, allOf, arrayOf, []⟩ =>
    if Keywords.present ⟨literal, matching, object, oneOf, allOf, arrayOf, []⟩ = 1 then
      literal.toList.flatMap Json.literalDefects ++ matching.toList.flatMap Json.literalDefects ++
        objectDefects object ++ listDefects oneOf ++ listDefects allOf ++ schemaDefects arrayOf
    else
      [.invalidForm]
termination_by structural wire => wire

/-- The defects under the keyword `object`. -/
def objectDefects : Option (List (String × WireSchema)) → List SchemaError
  | none => []
  | some members => memberDefects [] members
termination_by structural content => content

/-- The defects under the keywords `oneOf` and `allOf`. -/
def listDefects : Option (List WireSchema) → List SchemaError
  | none => []
  | some wires => allDefects wires
termination_by structural content => content

/-- The defects under the keyword `arrayOf`. -/
def schemaDefects : Option WireSchema → List SchemaError
  | none => []
  | some wire => wire.defects
termination_by structural content => content

/-- The defects of members, after members with the `earlier` keys. -/
def memberDefects (earlier : List String) : List (String × WireSchema) → List SchemaError
  | [] => []
  | (name, wire) :: rest =>
    let key := OptionalMark.strip name
    (if key ∈ earlier then [.ambiguousMember key] else []) ++ wire.defects ++
      memberDefects (key :: earlier) rest
termination_by structural members => members

/-- The defects of wire forms, one after the other. -/
def allDefects : List WireSchema → List SchemaError
  | [] => []
  | wire :: rest => wire.defects ++ allDefects rest
termination_by structural wires => wires

end

end WireSchema

namespace Content

/-- The defects of a content. -/
def defects : Content → List SchemaError
  | literal _ j => j.literalDefects
  | object members => WireSchema.memberDefects [] members
  | oneOf wires => WireSchema.allDefects wires
  | allOf wires => WireSchema.allDefects wires
  | arrayOf wire => wire.defects

/-- A single keyword has the defects of its content. -/
lemma defects_alone (content : Content) : content.alone.defects = content.defects := by
  cases content with
  | literal spelling j =>
    cases spelling <;> simp [alone, addTo, defects, WireSchema.defects, Keywords.present,
      WireSchema.objectDefects, WireSchema.listDefects, WireSchema.schemaDefects]
  | _ =>
    simp [alone, addTo, defects, WireSchema.defects, Keywords.present,
      WireSchema.objectDefects, WireSchema.listDefects, WireSchema.schemaDefects]

end Content

/-! ## The first defect -/

namespace Schema

/-- The first defect of a wire form is the error in it. -/
def StopsAtFirst (wire : WireSchema) : Prop :=
  errorOf? (ofWire wire) = wire.defects.head?

lemma errorOf?_literalOfJson (spelling : LiteralSpelling) (j : Json) :
    errorOf? (literalOfJson spelling j) = j.literalDefects.head? := by
  rw [literalOfJson, Json.literalDefects]
  cases Scalar.ofJson? j <;> rfl

/-- Of several wire forms, the first one with a defect decides. -/
lemma errorOf?_ofWireAll {wires : List WireSchema} (each : ∀ wire ∈ wires, StopsAtFirst wire) :
    errorOf? (ofWireAll wires) = (WireSchema.allDefects wires).head? := by
  induction wires with
  | nil => rfl
  | cons wire rest ih =>
    obtain ⟨here, later⟩ := List.forall_mem_cons.1 each
    rw [ofWireAll, WireSchema.allDefects, List.head?_append, ← here, ← ih later]
    exact errorOf?_bind fun schema => errorOf?_bind_ok _ _

/-- The key of a member is compared with the earlier ones before its wire form is looked at. -/
lemma errorOf?_ofWireMembers {members : List (String × WireSchema)} {earlier : List String}
    (each : ∀ member ∈ members, StopsAtFirst member.2) :
    errorOf? (ofWireMembers earlier members) =
      (WireSchema.memberDefects earlier members).head? := by
  induction members generalizing earlier with
  | nil => rfl
  | cons member rest ih =>
    obtain ⟨name, wire⟩ := member
    obtain ⟨here, later⟩ := List.forall_mem_cons.1 each
    rw [ofWireMembers, WireSchema.memberDefects, Member.strip_eq_ofName]
    dsimp only
    split
    · rfl
    · rw [List.nil_append, List.head?_append, ← here, ← ih later]
      exact errorOf?_bind fun schema => errorOf?_bind_ok _ _

/-- Without a single keyword, and with nothing unknown, a form is invalid. -/
lemma ofWire_of_present {keywords : Keywords WireSchema} (known : keywords.extra = [])
    (several : keywords.present ≠ 1) : ofWire (.keywords keywords) = .error .invalidForm := by
  rw [ofWire.eq_def]
  split
  · rename_i bare
    cases bare
  · rename_i unknown
    cases unknown
    cases known
  -- There is a single keyword in the next six branches.
  iterate 6
    · rename_i alone
      cases alone
      exact absurd rfl several
  · rfl

/-- A content is refused for its first defect if its parts are. -/
lemma errorOf?_ofWire_alone (content : Content)
    (each : ∀ wire ∈ content.parts, StopsAtFirst wire) : StopsAtFirst content.alone := by
  rw [StopsAtFirst, content.defects_alone]
  cases content with
  | literal spelling j => cases spelling <;> exact errorOf?_literalOfJson _ j
  | object members =>
    exact (errorOf?_map _ _).trans (errorOf?_ofWireMembers (List.forall_mem_map.1 each))
  | oneOf wires => exact (errorOf?_map _ _).trans (errorOf?_ofWireAll each)
  | allOf wires => exact (errorOf?_map _ _).trans (errorOf?_ofWireAll each)
  | arrayOf wire =>
    have inside : StopsAtFirst wire := each _ (List.mem_singleton_self wire)
    exact (errorOf?_map _ _).trans inside

/-- **A wire form is refused for its first defect.** -/
theorem errorOf?_ofWire (wire : WireSchema) : errorOf? (ofWire wire) = wire.defects.head? := by
  induction wire using WireSchema.parts_induction with
  | bare name =>
    rw [ofWire, WireSchema.defects]
    cases Primitive.ofName? name <;> rfl
  | keywords keywords ih =>
    cases unknown : keywords.extra with
    | cons member rest =>
      obtain ⟨literal, matching, object, oneOf, allOf, arrayOf, extra⟩ := keywords
      obtain ⟨keyword, content⟩ := member
      cases unknown
      rfl
    | nil =>
      by_cases single : keywords.present = 1
      · obtain ⟨content, rfl⟩ := Keywords.exists_content unknown single
        exact errorOf?_ofWire_alone content (content.parts_addTo ▸ ih)
      · rw [ofWire_of_present unknown single]
        obtain ⟨literal, matching, object, oneOf, allOf, arrayOf, extra⟩ := keywords
        cases unknown
        rw [WireSchema.defects, if_neg single]
        rfl

/-! ## Loading a document -/

/-- A document has the shape of a wire form, or it is refused for its shape. -/
lemma load_eq_mismatch_iff {j : Json} : load j = .error .mismatch ↔ j.Misshapen := by
  rw [← Classical.not_not (a := j.Misshapen), ← WireSchema.exists_ofJson?_iff, load,
    WireSchema.load]
  cases WireSchema.ofJson? j with
  | none => simp
  | some wire =>
    simp only [ok_bind]
    cases ofWire wire <;> simp [Except.mapError]

/-- A document is refused for a defect of its wire form, if it has one. -/
lemma load_eq_defect_iff {j : Json} {error : SchemaError} :
    load j = .error (.defect error) ↔
      ∃ wire, WireSchema.ofJson? j = some wire ∧ wire.defects.head? = some error := by
  simp only [← errorOf?_ofWire, errorOf?_eq_some_iff]
  rw [load, WireSchema.load]
  cases WireSchema.ofJson? j with
  | none => simp
  | some wire =>
    simp only [ok_bind, Option.some.injEq, exists_eq_left']
    cases ofWire wire <;> simp [Except.mapError]

/-- **The first defect in the order of the document is reported.**  A wire form means a schema if it
has no defect, and otherwise its first defect is the error.  A document with a wrong shape anywhere is
refused for that, and for no defect. -/
theorem first_defect_reported :
    (∀ wire : WireSchema, (∃ schema, ofWire wire = .ok schema) ↔ wire.defects = []) ∧
    (∀ (wire : WireSchema) (error : SchemaError),
      ofWire wire = .error error ↔ wire.defects.head? = some error) ∧
    (∀ j : Json, load j = .error .mismatch ↔ j.Misshapen) ∧
    (∀ (j : Json) (error : SchemaError), load j = .error (.defect error) ↔
      ¬ j.Misshapen ∧
        ∃ wire, WireSchema.ofJson? j = some wire ∧ wire.defects.head? = some error) := by
  refine ⟨fun wire => ?_, fun wire error => ?_, fun j => load_eq_mismatch_iff, fun j error => ?_⟩
  · rw [← errorOf?_eq_none_iff, errorOf?_ofWire, List.head?_eq_none_iff]
  · rw [← errorOf?_eq_some_iff, errorOf?_ofWire]
  · rw [load_eq_defect_iff]
    refine (and_iff_right_of_imp ?_).symm
    rintro ⟨wire, read, -⟩
    exact (WireSchema.exists_ofJson?_iff j).1 ⟨wire, read⟩

/-- The name of no primitive, before a member that is no schema. -/
example : load (.object [("object", .object [("a", .string "x"), ("b", .null)])]) =
    .error .mismatch := by
  rfl

end Schema

end Conformance
