import Conformance.Proofs.Json.Number
import Conformance.Proofs.Schema.Document

/-!
# Schemas that are written and loaded again

A schema that has a wire form is read back from it.  **What comes back is the schema itself but for
the signs of zeros** in its number literals (`Schema.unsignZeros`), since `-0.0` is written as the
integer `0`.

* `ofWire_of_toWire`: the wire form of a schema means the schema without those signs.
* `toWire_unsignZeros`: the signs make no difference to the wire form, so that a second round changes
  nothing.
-/

namespace Conformance

/-! ## Schemas without the signs of zeros -/

/-- The scalar with the positive zero in place of the negative one. -/
def Scalar.unsignZero : Scalar → Scalar
  | number x => number x.unsignZero
  | string s => string s
  | bool b => bool b
  | bigInt n => bigInt n

namespace Schema

mutual

/-- The schema with the positive zero in place of the negative one in all of its literals. -/
def unsignZeros : Schema → Schema
  | primitive p => primitive p
  | literal value spelling => literal value.unsignZero spelling
  | object members => object (unsignZerosMembers members)
  | oneOf schemas => oneOf (unsignZerosAll schemas)
  | allOf schemas => allOf (unsignZerosAll schemas)
  | arrayOf element => arrayOf element.unsignZeros

/-- `unsignZeros` on all schemas of a list. -/
def unsignZerosAll : List Schema → List Schema
  | [] => []
  | schema :: rest => schema.unsignZeros :: unsignZerosAll rest

/-- `unsignZeros` on the schemas of members. -/
def unsignZerosMembers : List (String × Member Schema) → List (String × Member Schema)
  | [] => []
  | (key, member) :: rest =>
    (key, ⟨member.schema.unsignZeros, member.required⟩) :: unsignZerosMembers rest

end

mutual

/-- The keys that each object schema inside declares, in order, the outer schemas first. -/
def declared : Schema → List (List String)
  | primitive _ | literal _ _ => []
  | object members => Entries.keys members :: declaredMembers members
  | oneOf schemas | allOf schemas => declaredAll schemas
  | arrayOf element => element.declared

/-- `declared` for all schemas of a list. -/
def declaredAll : List Schema → List (List String)
  | [] => []
  | schema :: rest => schema.declared ++ declaredAll rest

/-- `declared` for the schemas of members. -/
def declaredMembers : List (String × Member Schema) → List (List String)
  | [] => []
  | (_, member) :: rest => member.schema.declared ++ declaredMembers rest

end

/-- The member with `unsignZeros` applied to its schema. -/
def unsignZerosMember (member : String × Member Schema) : String × Member Schema :=
  (member.1, ⟨member.2.schema.unsignZeros, member.2.required⟩)

lemma unsignZerosAll_eq_map (schemas : List Schema) :
    unsignZerosAll schemas = schemas.map unsignZeros := by
  induction schemas with
  | nil => rfl
  | cons schema rest ih => rw [unsignZerosAll, ih, List.map_cons]

lemma unsignZerosMembers_eq_map (members : List (String × Member Schema)) :
    unsignZerosMembers members = members.map unsignZerosMember := by
  induction members with
  | nil => rfl
  | cons member rest ih => rw [unsignZerosMembers, ih, List.map_cons, unsignZerosMember]

lemma keys_map_unsignZerosMember (members : List (String × Member Schema)) :
    Entries.keys (members.map unsignZerosMember) = Entries.keys members := by
  simp only [Entries.keys, List.map_map]
  rfl

end Schema

/-! ## Scalars -/

namespace Scalar

/-- **A scalar is read back from its document**, apart from the sign of a zero. -/
lemma ofJson?_of_toJson? {value : Scalar} {j : Json} (written : value.toJson? = some j) :
    ofJson? j = some value.unsignZero := by
  cases value with
  | string s =>
    cases written
    rfl
  | number x =>
    cases x with
    | finite x =>
      cases written
      rw [ofJson?, Json.Number.toBinary64_ofFinite]
      rfl
    | infinite negative => cases written
    | nan => cases written
  | bool b =>
    cases written
    rfl
  | bigInt n =>
    cases written
    rw [ofJson?, if_pos rfl, Json.Number.toInt64?_ofInt64]
    rfl

lemma toJson?_unsignZero (value : Scalar) : value.unsignZero.toJson? = value.toJson? := by
  cases value with
  | number x =>
    cases x with
    | finite x =>
      simp only [unsignZero, Binary64.unsignZero, toJson?, Json.Number.ofBinary64?,
        Json.Number.ofFinite_unsignZero]
    | infinite negative => rfl
    | nan => rfl
  | _ => rfl

/-- What has a document is equal to itself, so not-a-number is left out. -/
lemma unsignZero_beq_self {value : Scalar} {j : Json} (written : value.toJson? = some j) :
    (value.unsignZero == value) = true := by
  cases value with
  | string s => exact beq_self_eq_true s
  | number x =>
    cases x with
    | finite x =>
      have reflexive : x.beq x = true := Binary64.Finite.beq_iff_toRat_eq.2 rfl
      exact (Binary64.unsignZero_beq (.finite x) (.finite x)).trans reflexive
    | infinite negative => cases written
    | nan => cases written
  | bool b => exact beq_self_eq_true b
  | bigInt n => exact beq_self_eq_true n

end Scalar

namespace Schema

/-! ## Reading back -/

/-- **The wire form of a schema means the schema without the signs of zeros.** -/
theorem ofWire_of_toWire (schema : Schema) : ∀ wire, schema.WellFormed →
    schema.toWire = .ok wire → ofWire wire = .ok schema.unsignZeros := by
  -- A list is written from schemas to wire forms and read from wire forms to schemas.
  have all (schemas : List Schema) (wires : List WireSchema) (wellFormed : WellFormedAll schemas)
      (ih : ∀ schema ∈ schemas, ∀ wire, schema.WellFormed → schema.toWire = .ok wire →
        ofWire wire = .ok schema.unsignZeros)
      (each : List.Forall₂ (fun part inner => part.toWire = .ok inner) schemas wires) :
      List.Forall₂ (fun inner part => ofWire inner = .ok part) wires (unsignZerosAll schemas) := by
    rw [unsignZerosAll_eq_map, List.forall₂_map_right_iff]
    refine (forall₂_imp_of_mem each fun schema mem wire _ written => ?_).flip
    exact ih schema mem wire (wellFormedAll_iff.1 wellFormed schema mem) written
  induction schema using parts_induction with
  | primitive p =>
    intro wire _ written
    rw [toWire_eq_ok_iff] at written
    exact ofWire_eq_ok_iff.2 written
  | literal value spelling =>
    intro wire _ written
    obtain ⟨j, rfl, document⟩ := toWire_eq_ok_iff.1 written
    exact ofWire_eq_ok_iff.2 ⟨j, rfl, Scalar.ofJson?_of_toJson? document⟩
  | object members ih =>
    intro wire wellFormed written
    obtain ⟨wires, rfl, each⟩ := toWire_eq_ok_iff.1 written
    obtain ⟨distinct, wellFormed⟩ := wellFormed
    rw [wellFormedMembers_iff] at wellFormed
    rw [unsignZeros, unsignZerosMembers_eq_map]
    refine ofWire_eq_ok_iff.2 ⟨wires, rfl, ?_, ?_⟩
    · rw [List.forall₂_map_right_iff]
      refine (forall₂_imp_of_mem each fun member mem named _ ⟨name, written⟩ => ?_).flip
      exact ⟨Member.name?_eq_some_iff.1 name,
        ih member mem named.2 (wellFormed member mem) written⟩
    · rw [Entries.Distinct, keys_map_unsignZerosMember]
      exact distinct
  | oneOf schemas ih =>
    intro wire wellFormed written
    obtain ⟨wires, rfl, each⟩ := toWire_eq_ok_iff.1 written
    exact ofWire_eq_ok_iff.2 ⟨wires, rfl, all schemas wires wellFormed ih each⟩
  | allOf schemas ih =>
    intro wire wellFormed written
    obtain ⟨wires, rfl, each⟩ := toWire_eq_ok_iff.1 written
    exact ofWire_eq_ok_iff.2 ⟨wires, rfl, all schemas wires wellFormed ih each⟩
  | arrayOf element ih =>
    intro wire wellFormed written
    obtain ⟨inner, rfl, inside⟩ := toWire_eq_ok_iff.1 written
    exact ofWire_eq_ok_iff.2 ⟨inner, rfl, ih inner wellFormed inside⟩

/-! ## Writing again -/

lemma toWireAll_unsignZeros {schemas : List Schema}
    (ih : ∀ schema ∈ schemas, schema.unsignZeros.toWire = schema.toWire) :
    toWireAll (unsignZerosAll schemas) = toWireAll schemas := by
  induction schemas with
  | nil => rfl
  | cons schema rest ih_rest =>
    rw [List.forall_mem_cons] at ih
    rw [unsignZerosAll, toWireAll, toWireAll, ih.1, ih_rest ih.2]

/-- **The signs of zeros make no difference to the wire form**, also where there is none. -/
theorem toWire_unsignZeros (schema : Schema) : schema.unsignZeros.toWire = schema.toWire := by
  induction schema using parts_induction with
  | primitive p => rfl
  | literal value spelling => rw [unsignZeros, toWire, toWire, Scalar.toJson?_unsignZero]
  | object members ih =>
    rw [unsignZeros, toWire, toWire, unsignZerosMembers_eq_map]
    congr 1
    induction members with
    | nil => rfl
    | cons member rest ih_rest =>
      rw [List.forall_mem_cons] at ih
      rw [List.map_cons, unsignZerosMember, toWireMembers, toWireMembers, ih.1, ih_rest ih.2]
  | oneOf schemas ih =>
    rw [unsignZeros, toWire, toWire, toWireAll_unsignZeros ih]
  | allOf schemas ih =>
    rw [unsignZeros, toWire, toWire, toWireAll_unsignZeros ih]
  | arrayOf element ih => rw [unsignZeros, toWire, toWire, ih]

/-! ## Equality and order -/

lemma unsignZerosAll_beq {schemas : List Schema}
    (ih : ∀ schema ∈ schemas, schema.unsignZeros.beq schema = true) :
    beqAll (unsignZerosAll schemas) schemas = true := by
  induction schemas with
  | nil => rfl
  | cons schema rest ih_rest =>
    rw [List.forall_mem_cons] at ih
    rw [unsignZerosAll, beqAll, ih.1, ih_rest ih.2, Bool.true_and]

/-- **A schema with a wire form equals the schema without the signs of zeros.** -/
theorem unsignZeros_beq (schema : Schema) : schema.WellFormed → schema.Spellable →
    schema.unsignZeros.beq schema = true := by
  induction schema using parts_induction with
  | primitive p =>
    intro _ _
    rw [unsignZeros, beq, beq_self_eq_true]
  | literal value spelling =>
    rintro _ ⟨wire, written⟩
    obtain ⟨j, rfl, document⟩ := toWire_eq_ok_iff.1 written
    rw [unsignZeros, beq, Scalar.unsignZero_beq_self document, beq_self_eq_true, Bool.and_true]
  | object members ih =>
    intro wellFormed spellable
    rw [WellFormed, wellFormedMembers_iff] at wellFormed
    rw [unsignZeros, unsignZerosMembers_eq_map, beq, List.length_map, beq_self_eq_true,
      Bool.true_and, beqMembers_iff, List.forall_mem_map]
    intro member mem
    exact ⟨member.2, Entries.lookup_of_mem members wellFormed.1 mem,
      ih member mem (wellFormed.2 member mem) (spellable.member member mem), rfl⟩
  | oneOf schemas ih =>
    intro wellFormed spellable
    rw [WellFormed, wellFormedAll_iff] at wellFormed
    exact unsignZerosAll_beq fun schema mem =>
      ih schema mem (wellFormed schema mem) (spellable.alternative schema mem)
  | allOf schemas ih =>
    intro wellFormed spellable
    rw [WellFormed, wellFormedAll_iff] at wellFormed
    exact unsignZerosAll_beq fun schema mem =>
      ih schema mem (wellFormed schema mem) (spellable.part schema mem)
  | arrayOf element ih =>
    intro wellFormed spellable
    exact ih wellFormed spellable.element

lemma declaredAll_unsignZeros {schemas : List Schema}
    (ih : ∀ schema ∈ schemas, schema.unsignZeros.declared = schema.declared) :
    declaredAll (unsignZerosAll schemas) = declaredAll schemas := by
  induction schemas with
  | nil => rfl
  | cons schema rest ih_rest =>
    rw [List.forall_mem_cons] at ih
    rw [unsignZerosAll, declaredAll, declaredAll, ih.1, ih_rest ih.2]

/-- The keys are declared in the same order, at every depth. -/
theorem declared_unsignZeros (schema : Schema) : schema.unsignZeros.declared = schema.declared := by
  induction schema using parts_induction with
  | primitive p => rfl
  | literal value spelling => rfl
  | object members ih =>
    rw [unsignZeros, declared, declared, unsignZerosMembers_eq_map, keys_map_unsignZerosMember]
    congr 1
    induction members with
    | nil => rfl
    | cons member rest ih_rest =>
      rw [List.forall_mem_cons] at ih
      rw [List.map_cons, unsignZerosMember, declaredMembers, declaredMembers, ih.1, ih_rest ih.2]
  | oneOf schemas ih => rw [unsignZeros, declared, declared, declaredAll_unsignZeros ih]
  | allOf schemas ih => rw [unsignZeros, declared, declared, declaredAll_unsignZeros ih]
  | arrayOf element ih => rw [unsignZeros, declared, declared, ih]

/-! ## Once around -/

/-- What means a schema is loaded from its document. -/
lemma load_toJson {schema : Schema} {wire : WireSchema} (meant : ofWire wire = .ok schema) :
    load wire.toJson = .ok schema := by
  rw [load, WireSchema.load, ofJson?_toJson schema wire meant]
  exact congrArg (Except.mapError LoadError.defect) meant

/-- **The wire form loses nothing.**  From the wire form comes an equal schema, with all members in
their order, which has that wire form again, and the same happens to the document. -/
theorem reload_of_toWire {schema : Schema} (wellFormed : schema.WellFormed) {wire : WireSchema}
    (written : schema.toWire = .ok wire) :
    ∃ reloaded, ofWire wire = .ok reloaded ∧ (reloaded == schema) = true ∧
      reloaded.declared = schema.declared ∧ reloaded.toWire = .ok wire ∧
      schema.toJson = .ok wire.toJson ∧ load wire.toJson = .ok reloaded ∧
      reloaded.toJson = .ok wire.toJson := by
  have meant := ofWire_of_toWire schema wire wellFormed written
  have rewritten : schema.unsignZeros.toWire = .ok wire := by rw [toWire_unsignZeros, written]
  refine ⟨schema.unsignZeros, meant, ?_, declared_unsignZeros schema, rewritten, ?_,
    load_toJson meant, ?_⟩
  · exact unsignZeros_beq schema wellFormed ⟨wire, written⟩
  · rw [toJson, written, Except.map]
  · rw [toJson, rewritten, Except.map]

/-- A key that itself ends in a question mark, a negative zero and a `bigInt`. -/
theorem reload_of_toWire_marked :
    let schema := object [("a?", ⟨literal (.number (.finite (.zero true))) .matching, false⟩),
      ("a", ⟨arrayOf (literal (.bigInt 7) .literal), true⟩)]
    let wire := (Content.object [
      ("a??", (Content.literal .matching (.number (.integer 0 (by decide)))).alone),
      ("a", (Content.arrayOf (Content.literal .literal
        (.object [("bigint", .number (.ofInt64 7))])).alone).alone)]).alone
    schema.WellFormed ∧ schema.toWire = .ok wire ∧
      ∃ reloaded, ofWire wire = .ok reloaded ∧ (reloaded == schema) = true ∧
        reloaded.declared = schema.declared ∧ reloaded.toWire = .ok wire ∧
        schema.toJson = .ok wire.toJson ∧ load wire.toJson = .ok reloaded ∧
        reloaded.toJson = .ok wire.toJson := by
  intro schema wire
  have wellFormed : schema.WellFormed := ⟨by decide, trivial, trivial, trivial⟩
  have written : schema.toWire = .ok wire := rfl
  exact ⟨wellFormed, written, reload_of_toWire wellFormed written⟩

end Schema

end Conformance
