import Conformance.Proofs.Correspondence
import Conformance.Proofs.Result
import Conformance.Proofs.Wire.Content

/-!
# Which wire forms mean a schema

`Schema.ofWire` and `Schema.toWire` recurse into wire forms and schemas.  This file says what one step
of either does, form by form: **`ofWire_eq_ok_iff` lists the wire forms that mean a schema**
(`Schema.MeantBy`) **and `toWire_eq_ok_iff` those that it is written as** (`Schema.WrittenAs`).

Both are stated with the parts as lists that correspond entry by entry.  A member and its name
correspond by `Member.ofName` in one direction and by `Member.name?` in the other; that these are
inverse to each other is `Member.name?_eq_some_iff`.
-/

namespace Conformance

/-! ## Scalars in documents -/

/-- An integer of 64 bits has one JSON number. -/
lemma Json.Number.toInt64?_eq_some_iff {n : Json.Number} {k : Int64} :
    n.toInt64? = some k ↔ n = .ofInt64 k := by
  constructor
  · intro read
    cases n with
    | integer n inRange =>
      simp only [toInt64?, Option.dite_none_right_eq_some, Option.some.injEq] at read
      obtain ⟨small, rfl⟩ := read
      simp [ofInt64]
    | float x => cases read
  · rintro rfl
    exact toInt64?_ofInt64 k

/-- The documents that are a scalar. -/
inductive Scalar.MeantBy : Scalar → Json → Prop
  | string (s : String) : MeantBy (.string s) (.string s)
  | number (n : Json.Number) : MeantBy (.number n.toBinary64) (.number n)
  | bool (b : Bool) : MeantBy (.bool b) (.bool b)
  | bigInt (k : Int64) :
    MeantBy (.bigInt k) (.object [(Scalar.bigIntKey, .number (.ofInt64 k))])

lemma Scalar.ofJson?_eq_some_iff {j : Json} {scalar : Scalar} :
    ofJson? j = some scalar ↔ scalar.MeantBy j := by
  constructor
  · intro read
    rw [ofJson?.eq_def] at read
    split at read
    · cases read
      exact .string _
    · cases read
      exact .number _
    · cases read
      exact .bool _
    · split at read
      · rename_i key
        subst key
        obtain ⟨k, whole, rfl⟩ := Option.map_eq_some_iff.1 read
        rw [Json.Number.toInt64?_eq_some_iff.1 whole]
        exact .bigInt k
      · cases read
    · cases read
  · intro meant
    cases meant with
    | bigInt k => simp [ofJson?]
    | _ => rfl

namespace Schema

/-! ## Lists of wire forms -/

lemma ofWireAll_eq_ok_iff {wires : List WireSchema} {schemas : List Schema} :
    ofWireAll wires = .ok schemas ↔
      List.Forall₂ (fun wire schema => ofWire wire = .ok schema) wires schemas := by
  induction wires generalizing schemas with
  | nil => simp [ofWireAll, eq_comm]
  | cons wire rest ih =>
    simp only [ofWireAll, bind_eq_ok_iff, ih, List.forall₂_cons_left_iff]
    constructor
    · rintro ⟨schema, meant, schemas, others, ⟨⟩⟩
      exact ⟨schema, schemas, meant, others, rfl⟩
    · rintro ⟨schema, schemas, meant, others, rfl⟩
      exact ⟨schema, meant, schemas, others, rfl⟩

lemma toWireAll_eq_ok_iff {schemas : List Schema} {wires : List WireSchema} :
    toWireAll schemas = .ok wires ↔
      List.Forall₂ (fun schema wire => schema.toWire = .ok wire) schemas wires := by
  induction schemas generalizing wires with
  | nil => simp [toWireAll, eq_comm]
  | cons schema rest ih =>
    simp only [toWireAll, bind_eq_ok_iff, ih, List.forall₂_cons_left_iff]
    constructor
    · rintro ⟨wire, written, wires, others, ⟨⟩⟩
      exact ⟨wire, wires, written, others, rfl⟩
    · rintro ⟨wire, wires, written, others, rfl⟩
      exact ⟨wire, written, wires, others, rfl⟩

/-- A named wire form means a member: the name gives key and requiredness. -/
def MemberOf (named : String × WireSchema) (member : String × Member Schema) : Prop :=
  Member.ofName named.1 = (member.1, member.2.required) ∧ ofWire named.2 = .ok member.2.schema

/-- A member is written as a named wire form. -/
def MemberTo (member : String × Member Schema) (named : String × WireSchema) : Prop :=
  Member.name? member.1 member.2.required = some named.1 ∧ member.2.schema.toWire = .ok named.2

/-- Members are read one by one, and their keys are distinct, also from `earlier` ones. -/
lemma ofWireMembers_eq_ok_iff {earlier : List String} {wires : List (String × WireSchema)}
    {members : List (String × Member Schema)} :
    ofWireMembers earlier wires = .ok members ↔
      List.Forall₂ MemberOf wires members ∧ Entries.Distinct members ∧
        ∀ key ∈ Entries.keys members, key ∉ earlier := by
  induction wires generalizing earlier members with
  | nil =>
    simp only [ofWireMembers, List.forall₂_nil_left_iff, Except.ok.injEq]
    constructor
    · rintro rfl
      exact ⟨rfl, List.nodup_nil, by simp⟩
    · rintro ⟨rfl, -⟩
      rfl
  | cons named rest ih =>
    obtain ⟨name, wire⟩ := named
    obtain ⟨⟨key, required⟩, read⟩ : ∃ pair, Member.ofName name = pair := ⟨_, rfl⟩
    rw [ofWireMembers, read]
    dsimp only
    constructor
    · intro meant
      split at meant
      · cases meant
      · rename_i new
        simp only [bind_eq_ok_iff] at meant
        obtain ⟨schema, meant, members, others, ⟨⟩⟩ := meant
        obtain ⟨each, distinct, fresh⟩ := ih.1 others
        have new_keys : ∀ k ∈ Entries.keys members, k ≠ key ∧ k ∉ earlier := by
          intro k mem
          simpa using fresh k mem
        refine ⟨.cons ⟨read, meant⟩ each, ?_, ?_⟩
        · exact List.nodup_cons.2 ⟨fun mem => (new_keys key mem).1 rfl, distinct⟩
        · intro k mem
          rcases List.mem_cons.1 mem with rfl | later
          · exact new
          · exact (new_keys k later).2
    · rintro ⟨each, distinct, fresh⟩
      cases each with
      | @cons _ member _ members head others =>
        obtain ⟨key', schema, required'⟩ := member
        obtain ⟨same, meant⟩ := head
        obtain ⟨rfl, rfl⟩ := Prod.mk.inj (read.symm.trans same)
        obtain ⟨unlisted, distinct⟩ := List.nodup_cons.1 distinct
        have fresh_rest : ∀ k ∈ Entries.keys members, k ∉ key :: earlier := by
          intro k mem
          have := fresh k (List.mem_cons_of_mem _ mem)
          have : k ≠ key := fun same => unlisted (same ▸ mem)
          simp_all
        rw [if_neg (fresh key List.mem_cons_self), meant,
          ih.2 ⟨others, distinct, fresh_rest⟩]
        rfl

lemma toWireMembers_eq_ok_iff {members : List (String × Member Schema)}
    {wires : List (String × WireSchema)} :
    toWireMembers members = .ok wires ↔ List.Forall₂ MemberTo members wires := by
  induction members generalizing wires with
  | nil => simp [toWireMembers, eq_comm]
  | cons member rest ih =>
    obtain ⟨key, member⟩ := member
    rw [toWireMembers, List.forall₂_cons_left_iff]
    cases named : Member.name? key member.required with
    | none => simp [MemberTo, named]
    | some name =>
      simp only [bind_eq_ok_iff, ih, MemberTo, named]
      constructor
      · rintro ⟨wire, written, wires, others, ⟨⟩⟩
        exact ⟨(name, wire), wires, ⟨rfl, written⟩, others, rfl⟩
      · rintro ⟨⟨name, wire⟩, wires, ⟨⟨⟩, written⟩, others, rfl⟩
        exact ⟨wire, written, wires, others, rfl⟩

/-! ## One step of reading and writing -/

/-- The wire forms that mean a schema. -/
def MeantBy : Schema → WireSchema → Prop
  | primitive p, wire => wire = .bare p.name
  | literal value spelling, wire =>
    ∃ j, wire = (Content.literal spelling j).alone ∧ Scalar.ofJson? j = some value
  | object members, wire =>
    ∃ wires, wire = (Content.object wires).alone ∧
      List.Forall₂ MemberOf wires members ∧ Entries.Distinct members
  | oneOf schemas, wire =>
    ∃ wires, wire = (Content.oneOf wires).alone ∧
      List.Forall₂ (fun inner part => ofWire inner = .ok part) wires schemas
  | allOf schemas, wire =>
    ∃ wires, wire = (Content.allOf wires).alone ∧
      List.Forall₂ (fun inner part => ofWire inner = .ok part) wires schemas
  | arrayOf element, wire => ∃ inner, wire = (Content.arrayOf inner).alone ∧ ofWire inner = .ok element

/-- The wire forms that a schema is written as. -/
def WrittenAs : Schema → WireSchema → Prop
  | primitive p, wire => wire = .bare p.name
  | literal value spelling, wire =>
    ∃ j, wire = (Content.literal spelling j).alone ∧ value.toJson? = some j
  | object members, wire =>
    ∃ wires, wire = (Content.object wires).alone ∧ List.Forall₂ MemberTo members wires
  | oneOf schemas, wire =>
    ∃ wires, wire = (Content.oneOf wires).alone ∧
      List.Forall₂ (fun part inner => part.toWire = .ok inner) schemas wires
  | allOf schemas, wire =>
    ∃ wires, wire = (Content.allOf wires).alone ∧
      List.Forall₂ (fun part inner => part.toWire = .ok inner) schemas wires
  | arrayOf element, wire => ∃ inner, wire = (Content.arrayOf inner).alone ∧ element.toWire = .ok inner

lemma literalOfJson_eq_ok_iff {spelling : LiteralSpelling} {j : Json} {schema : Schema} :
    literalOfJson spelling j = .ok schema ↔
      ∃ value, Scalar.ofJson? j = some value ∧ schema = literal value spelling := by
  rw [literalOfJson]
  cases Scalar.ofJson? j <;> simp [eq_comm]

theorem toWire_eq_ok_iff {schema : Schema} {wire : WireSchema} :
    schema.toWire = .ok wire ↔ schema.WrittenAs wire := by
  cases schema with
  | primitive p => simp [toWire, WrittenAs, eq_comm]
  | literal value spelling =>
    rw [toWire, WrittenAs]
    cases value.toJson? with
    | none => simp
    | some j => cases spelling <;> simp [Content.alone, Content.addTo, literalKeywords, eq_comm]
  | object members =>
    simp only [toWire, WrittenAs, bind_eq_ok_iff, toWireMembers_eq_ok_iff, Except.ok.injEq]
    exact exists_congr fun wires => and_comm.trans (and_congr_left' eq_comm)
  | oneOf schemas =>
    simp only [toWire, WrittenAs, bind_eq_ok_iff, toWireAll_eq_ok_iff, Except.ok.injEq]
    exact exists_congr fun wires => and_comm.trans (and_congr_left' eq_comm)
  | allOf schemas =>
    simp only [toWire, WrittenAs, bind_eq_ok_iff, toWireAll_eq_ok_iff, Except.ok.injEq]
    exact exists_congr fun wires => and_comm.trans (and_congr_left' eq_comm)
  | arrayOf element =>
    simp only [toWire, WrittenAs, bind_eq_ok_iff, Except.ok.injEq]
    exact exists_congr fun wires => and_comm.trans (and_congr_left' eq_comm)

/-- **A wire form means a schema when it has the form of the schema.** -/
theorem ofWire_eq_ok_iff {wire : WireSchema} {schema : Schema} :
    ofWire wire = .ok schema ↔ schema.MeantBy wire := by
  constructor
  · intro meant
    rw [ofWire.eq_def] at meant
    split at meant
    · split at meant
      · rename_i p named
        cases meant
        exact congrArg _ (Primitive.ofName?_eq_some_iff.1 named).symm
      · cases meant
    · cases meant
    · obtain ⟨value, scalar, rfl⟩ := literalOfJson_eq_ok_iff.1 meant
      exact ⟨_, rfl, scalar⟩
    · obtain ⟨value, scalar, rfl⟩ := literalOfJson_eq_ok_iff.1 meant
      exact ⟨_, rfl, scalar⟩
    · obtain ⟨members, read, rfl⟩ := map_eq_ok_iff.1 meant
      obtain ⟨each, distinct, -⟩ := ofWireMembers_eq_ok_iff.1 read
      exact ⟨_, rfl, each, distinct⟩
    · obtain ⟨schemas, read, rfl⟩ := map_eq_ok_iff.1 meant
      exact ⟨_, rfl, ofWireAll_eq_ok_iff.1 read⟩
    · obtain ⟨schemas, read, rfl⟩ := map_eq_ok_iff.1 meant
      exact ⟨_, rfl, ofWireAll_eq_ok_iff.1 read⟩
    · obtain ⟨element, read, rfl⟩ := map_eq_ok_iff.1 meant
      exact ⟨_, rfl, read⟩
    · cases meant
  · intro meant
    cases schema with
    | primitive p =>
      cases meant
      rw [ofWire, Primitive.ofName?_eq_some_iff.2 rfl]
    | literal value spelling =>
      obtain ⟨j, rfl, scalar⟩ := meant
      cases spelling <;> exact literalOfJson_eq_ok_iff.2 ⟨value, scalar, rfl⟩
    | object members =>
      obtain ⟨wires, rfl, each, distinct⟩ := meant
      exact map_eq_ok_iff.2
        ⟨members, ofWireMembers_eq_ok_iff.2 ⟨each, distinct, by simp⟩, rfl⟩
    | oneOf schemas =>
      obtain ⟨wires, rfl, each⟩ := meant
      exact map_eq_ok_iff.2 ⟨schemas, ofWireAll_eq_ok_iff.2 each, rfl⟩
    | allOf schemas =>
      obtain ⟨wires, rfl, each⟩ := meant
      exact map_eq_ok_iff.2 ⟨schemas, ofWireAll_eq_ok_iff.2 each, rfl⟩
    | arrayOf element =>
      obtain ⟨inner, rfl, meant⟩ := meant
      exact map_eq_ok_iff.2 ⟨element, meant, rfl⟩

/-! ## Schemas with a wire form -/

/-- The schema has a wire form. -/
def Spellable (schema : Schema) : Prop :=
  ∃ wire, schema.toWire = .ok wire

lemma spellable_of_forall₂ {schemas : List Schema} {wires : List WireSchema}
    (each : List.Forall₂ (fun part inner => part.toWire = .ok inner) schemas wires) :
    ∀ schema ∈ schemas, schema.Spellable := by
  intro schema mem
  obtain ⟨inner, -, inside⟩ := exists_of_mem_forall₂ each schema mem
  exact ⟨inner, inside⟩

/-- **The parts of a schema with a wire form have wire forms.** -/
lemma Spellable.member {members : List (String × Member Schema)}
    (spellable : (object members).Spellable) :
    ∀ member ∈ members, member.2.schema.Spellable := by
  obtain ⟨wire, written⟩ := spellable
  obtain ⟨wires, -, each⟩ := toWire_eq_ok_iff.1 written
  intro member mem
  obtain ⟨named, -, -, inside⟩ := exists_of_mem_forall₂ each member mem
  exact ⟨named.2, inside⟩

lemma Spellable.alternative {schemas : List Schema} (spellable : (oneOf schemas).Spellable) :
    ∀ schema ∈ schemas, schema.Spellable := by
  obtain ⟨wire, written⟩ := spellable
  obtain ⟨wires, -, each⟩ := toWire_eq_ok_iff.1 written
  exact spellable_of_forall₂ each

lemma Spellable.part {schemas : List Schema} (spellable : (allOf schemas).Spellable) :
    ∀ schema ∈ schemas, schema.Spellable := by
  obtain ⟨wire, written⟩ := spellable
  obtain ⟨wires, -, each⟩ := toWire_eq_ok_iff.1 written
  exact spellable_of_forall₂ each

lemma Spellable.element {inner : Schema} (spellable : (arrayOf inner).Spellable) :
    inner.Spellable := by
  obtain ⟨wire, written⟩ := spellable
  obtain ⟨wire, -, inside⟩ := toWire_eq_ok_iff.1 written
  exact ⟨wire, inside⟩

end Schema

end Conformance
