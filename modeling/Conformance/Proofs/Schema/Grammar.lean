import Conformance.Proofs.Schema.Loading

/-!
# The grammar of schema documents

Which documents are schemas, and which schema is each of them?  This file answers both without the
wire form: `Json.IsSchema` is a grammar of documents and `Json.Denotes` what each of its phrases
denotes.

* **A primitive is its name, and every other schema an object in which one keyword stands alone**
  (`Keyword.Alone`): all keys are keywords, and all others of them hold `null`.
* The names of the members of an object schema are distinct without their marks, as otherwise two of
  them would be about the same key.

`Schema.load_iff_grammar` says that the grammar is what loading accepts, and that loading gives what
is denoted.  It is proved in two parts: a schema is loaded from the documents that denote it
(`load_eq_ok_iff_denotes`), and the documents of the grammar are those that denote something
(`isSchema_of_denotes`, `IsSchema.exists_denotes`).
-/

namespace Conformance

namespace Json

/-! ## The grammar -/

/-- The documents of scalars. -/
inductive IsScalar : Json → Prop
  | string (s : String) : IsScalar (.string s)
  | number (n : Number) : IsScalar (.number n)
  | bool (b : Bool) : IsScalar (.bool b)
  | bigInt (n : Int) (inRange : InIntegerRange n)
    (fits : -0x8000_0000_0000_0000 ≤ n ∧ n < 0x8000_0000_0000_0000) :
    IsScalar (.object [("bigint", .number (.integer n inRange))])

/-- The documents of schemas. -/
inductive IsSchema : Json → Prop
  | primitive (name : String) (known : name ∈ ["string", "number", "boolean", "null"]) :
    IsSchema (.string name)
  | literal {members : List (String × Json)} {held : Json} (spelling : LiteralSpelling)
    (alone : spelling.keyword.Alone held members) (scalar : held.IsScalar) :
    IsSchema (.object members)
  | object {members fields : List (String × Json)}
    (alone : Keyword.object.Alone (.object fields) members)
    (distinct : (fields.map fun field => OptionalMark.strip field.1).Nodup)
    (each : ∀ field ∈ fields, IsSchema field.2) : IsSchema (.object members)
  | oneOf {members : List (String × Json)} {elements : List Json}
    (alone : Keyword.oneOf.Alone (.array elements) members)
    (each : ∀ element ∈ elements, IsSchema element) : IsSchema (.object members)
  | allOf {members : List (String × Json)} {elements : List Json}
    (alone : Keyword.allOf.Alone (.array elements) members)
    (each : ∀ element ∈ elements, IsSchema element) : IsSchema (.object members)
  | arrayOf {members : List (String × Json)} {held : Json}
    (alone : Keyword.arrayOf.Alone held members) (inside : held.IsSchema) :
    IsSchema (.object members)

mutual

/-- A document denotes a schema. -/
inductive Denotes : Json → Schema → Prop
  | primitive (p : Primitive) : Denotes (.string p.name) (.primitive p)
  | literal {members : List (String × Json)} {held : Json} {value : Scalar}
    (spelling : LiteralSpelling) (alone : spelling.keyword.Alone held members)
    (scalar : value.MeantBy held) : Denotes (.object members) (.literal value spelling)
  | object {members fields : List (String × Json)} {declared : List (String × Member Schema)}
    (alone : Keyword.object.Alone (.object fields) members) (distinct : Entries.Distinct declared)
    (each : DenoteMembers fields declared) : Denotes (.object members) (.object declared)
  | oneOf {members : List (String × Json)} {elements : List Json} {schemas : List Schema}
    (alone : Keyword.oneOf.Alone (.array elements) members) (each : DenoteAll elements schemas) :
    Denotes (.object members) (.oneOf schemas)
  | allOf {members : List (String × Json)} {elements : List Json} {schemas : List Schema}
    (alone : Keyword.allOf.Alone (.array elements) members) (each : DenoteAll elements schemas) :
    Denotes (.object members) (.allOf schemas)
  | arrayOf {members : List (String × Json)} {held : Json} {element : Schema}
    (alone : Keyword.arrayOf.Alone held members) (inside : Denotes held element) :
    Denotes (.object members) (.arrayOf element)

/-- Documents denote schemas, in order. -/
inductive DenoteAll : List Json → List Schema → Prop
  | nil : DenoteAll [] []
  | cons {j : Json} {schema : Schema} {js : List Json} {schemas : List Schema}
    (head : Denotes j schema) (rest : DenoteAll js schemas) :
    DenoteAll (j :: js) (schema :: schemas)

/-- Named documents denote members, in order.  A name that ends in a question mark is that of a
member that may be absent, and the question mark is not part of the key. -/
inductive DenoteMembers : List (String × Json) → List (String × Member Schema) → Prop
  | nil : DenoteMembers [] []
  | optional {key : String} {j : Json} {schema : Schema} {fields : List (String × Json)}
    {declared : List (String × Member Schema)} (head : Denotes j schema)
    (rest : DenoteMembers fields declared) :
    DenoteMembers ((key ++ "?", j) :: fields) ((key, ⟨schema, false⟩) :: declared)
  | required {key : String} {j : Json} {schema : Schema} {fields : List (String × Json)}
    {declared : List (String × Member Schema)} (unmarked : ∀ shorter, key ≠ shorter ++ "?")
    (head : Denotes j schema) (rest : DenoteMembers fields declared) :
    DenoteMembers ((key, j) :: fields) ((key, ⟨schema, true⟩) :: declared)

end

/-! ## Denotations of lists -/

lemma denoteAll_iff {js : List Json} {schemas : List Schema} :
    DenoteAll js schemas ↔ List.Forall₂ Denotes js schemas := by
  constructor
  · intro each
    induction js generalizing schemas with
    | nil =>
      cases each
      exact .nil
    | cons j js ih =>
      cases each with
      | cons head rest => exact .cons head (ih rest)
  · intro each
    induction each with
    | nil => exact .nil
    | cons head _ ih => exact .cons head ih

/-- A named document denotes a member. -/
def DenotesMember (field : String × Json) (member : String × Member Schema) : Prop :=
  Member.ofName field.1 = (member.1, member.2.required) ∧ field.2.Denotes member.2.schema

end Json

namespace Member

lemma ofName_eq_optional_iff {name key : String} :
    ofName name = (key, false) ↔ name = key ++ "?" := by
  rw [← OptionalMark.add, ← OptionalMark.remove?_eq_some_iff, ofName]
  cases OptionalMark.remove? name <;> simp

lemma ofName_eq_required_iff {name key : String} :
    ofName name = (key, true) ↔ name = key ∧ ∀ shorter, key ≠ shorter ++ "?" := by
  cases marked : OptionalMark.remove? name with
  | none =>
    have unmarked : ∀ shorter, name ≠ shorter ++ "?" := by
      intro shorter whole
      rw [OptionalMark.remove?_eq_some_iff.2 whole] at marked
      cases marked
    simp only [ofName, marked, Prod.mk.injEq, and_true]
    constructor
    · rintro rfl
      exact ⟨rfl, unmarked⟩
    · exact fun same => same.1
  | some stripped =>
    simp only [ofName, marked, Prod.mk.injEq, Bool.false_eq_true, and_false, false_iff]
    rintro ⟨rfl, unmarked⟩
    exact unmarked stripped (OptionalMark.eq_add_of_remove? marked)

end Member

namespace Json

lemma denoteMembers_iff {fields : List (String × Json)}
    {declared : List (String × Member Schema)} :
    DenoteMembers fields declared ↔ List.Forall₂ DenotesMember fields declared := by
  constructor
  · intro each
    induction fields generalizing declared with
    | nil =>
      cases each
      exact .nil
    | cons field fields ih =>
      cases each with
      | optional head rest => exact .cons ⟨Member.ofName_eq_optional_iff.2 rfl, head⟩ (ih rest)
      | required unmarked head rest =>
        exact .cons ⟨Member.ofName_eq_required_iff.2 ⟨rfl, unmarked⟩, head⟩ (ih rest)
  · intro each
    induction each with
    | nil => exact .nil
    | @cons field member _ _ related _ ih =>
      obtain ⟨name, j⟩ := field
      obtain ⟨key, schema, required⟩ := member
      obtain ⟨named, head⟩ := related
      cases required with
      | false =>
        obtain rfl := Member.ofName_eq_optional_iff.1 named
        exact .optional head ih
      | true =>
        obtain ⟨rfl, unmarked⟩ := Member.ofName_eq_required_iff.1 named
        exact .required unmarked head ih

end Json

/-! ## Loading gives what is denoted -/

namespace Schema

open Json (Denotes DenotesMember denoteAll_iff denoteMembers_iff)

/-- The parts of a document are loaded as the schemas that they denote. -/
lemma forall₂_load_iff_denotes {elements : List Json} {schemas : List Schema}
    (wellFormed : (Json.array elements).WellFormed)
    (ih : ∀ schema ∈ schemas, ∀ j : Json, j.WellFormed → (load j = .ok schema ↔ j.Denotes schema)) :
    List.Forall₂ (fun element part => load element = .ok part) elements schemas ↔
      Json.DenoteAll elements schemas := by
  rw [denoteAll_iff]
  refine forall₂_congr_of_mem fun element mem schema mem' => ?_
  exact ih schema mem' element (wellFormed.element element mem)

/-- **A schema is loaded from the documents that denote it.** -/
theorem load_eq_ok_iff_denotes (schema : Schema) :
    ∀ j : Json, j.WellFormed → (load j = .ok schema ↔ j.Denotes schema) := by
  -- Schema and document have the same shape here; the schema is the one without `null` keywords.
  induction schema using parts_induction with
  | primitive p =>
    intro j wellFormed
    rw [load_eq_ok_iff wellFormed]
    constructor
    · rintro rfl
      exact .primitive p
    · rintro ⟨⟩
      rfl
  | literal value spelling =>
    intro j wellFormed
    rw [load_eq_ok_iff wellFormed]
    constructor
    · rintro ⟨members, held, rfl, alone, scalar⟩
      exact .literal spelling alone scalar
    · intro denotes
      cases denotes with
      | literal _ alone scalar => exact ⟨_, _, rfl, alone, scalar⟩
  | object declared ih =>
    intro j wellFormed
    rw [load_eq_ok_iff wellFormed]
    have members_iff {fields : List (String × Json)} (wellFormed : (Json.object fields).WellFormed) :
        List.Forall₂ MemberFrom fields declared ↔ Json.DenoteMembers fields declared := by
      rw [denoteMembers_iff]
      refine forall₂_congr_of_mem fun field mem member mem' => ?_
      exact and_congr_right' (ih member mem' field.2 (wellFormed.member field mem))
    constructor
    · rintro ⟨members, fields, rfl, alone, each, distinct⟩
      exact .object alone distinct ((members_iff (alone.wellFormed wellFormed)).1 each)
    · intro denotes
      cases denotes with
      | object alone distinct each =>
        exact ⟨_, _, rfl, alone, (members_iff (alone.wellFormed wellFormed)).2 each, distinct⟩
  | oneOf schemas ih =>
    intro j wellFormed
    rw [load_eq_ok_iff wellFormed]
    constructor
    · rintro ⟨members, elements, rfl, alone, each⟩
      exact .oneOf alone ((forall₂_load_iff_denotes (alone.wellFormed wellFormed) ih).1 each)
    · intro denotes
      cases denotes with
      | oneOf alone each =>
        exact ⟨_, _, rfl, alone,
          (forall₂_load_iff_denotes (alone.wellFormed wellFormed) ih).2 each⟩
  | allOf schemas ih =>
    intro j wellFormed
    rw [load_eq_ok_iff wellFormed]
    constructor
    · rintro ⟨members, elements, rfl, alone, each⟩
      exact .allOf alone ((forall₂_load_iff_denotes (alone.wellFormed wellFormed) ih).1 each)
    · intro denotes
      cases denotes with
      | allOf alone each =>
        exact ⟨_, _, rfl, alone,
          (forall₂_load_iff_denotes (alone.wellFormed wellFormed) ih).2 each⟩
  | arrayOf element ih =>
    intro j wellFormed
    rw [load_eq_ok_iff wellFormed]
    constructor
    · rintro ⟨members, held, rfl, alone, inside⟩
      exact .arrayOf alone ((ih held (alone.wellFormed wellFormed)).1 inside)
    · intro denotes
      cases denotes with
      | arrayOf alone inside =>
        exact ⟨_, _, rfl, alone, (ih _ (alone.wellFormed wellFormed)).2 inside⟩

end Schema

/-! ## The grammar is what denotes something -/

namespace Json

lemma isScalar_iff {j : Json} : j.IsScalar ↔ ∃ value : Scalar, value.MeantBy j := by
  constructor
  · intro scalar
    cases scalar with
    | string s => exact ⟨_, .string s⟩
    | number n => exact ⟨_, .number n⟩
    | bool b => exact ⟨_, .bool b⟩
    | bigInt n inRange fits =>
      obtain ⟨k, whole⟩ : ∃ k, (Number.integer n inRange).toInt64? = some k :=
        ⟨_, dif_pos fits.2⟩
      rw [Number.toInt64?_eq_some_iff.1 whole]
      exact ⟨_, .bigInt k⟩
  · rintro ⟨value, meant⟩
    cases meant with
    | string s => exact .string s
    | number n => exact .number n
    | bool b => exact .bool b
    | bigInt k => exact .bigInt k.toInt _ ⟨k.le_toInt, k.toInt_lt⟩

lemma exists_primitive_iff {name : String} :
    (∃ p : Primitive, p.name = name) ↔ name ∈ ["string", "number", "boolean", "null"] := by
  constructor
  · rintro ⟨p, rfl⟩
    cases p <;> decide
  · intro known
    simp only [List.mem_cons, List.not_mem_nil, or_false] at known
    rcases known with rfl | rfl | rfl | rfl
    · exact ⟨.string, rfl⟩
    · exact ⟨.number, rfl⟩
    · exact ⟨.boolean, rfl⟩
    · exact ⟨.null, rfl⟩

/-- The names of a document without their marks are the keys of the members that they denote. -/
lemma strip_eq_keys {fields : List (String × Json)} {declared : List (String × Member Schema)}
    (each : List.Forall₂ DenotesMember fields declared) :
    fields.map (fun field => OptionalMark.strip field.1) = Entries.keys declared := by
  refine map_eq_map_of_forall₂ each fun field member related => ?_
  rw [Member.strip_eq_ofName, related.1]

/-- What denotes a schema is in the grammar. -/
lemma isSchema_of_denotes (schema : Schema) : ∀ j : Json, j.Denotes schema → j.IsSchema := by
  induction schema using Schema.parts_induction with
  | primitive p =>
    rintro j ⟨⟩
    exact .primitive p.name (exists_primitive_iff.1 ⟨p, rfl⟩)
  | literal value spelling =>
    intro j denotes
    cases denotes with
    | literal _ alone scalar => exact .literal spelling alone (isScalar_iff.2 ⟨value, scalar⟩)
  | object declared ih =>
    intro j denotes
    cases denotes with
    | object alone distinct each =>
      rw [denoteMembers_iff] at each
      refine .object alone ?_ fun field mem => ?_
      · rw [strip_eq_keys each]
        exact distinct
      · obtain ⟨member, mem', -, inside⟩ := exists_of_mem_forall₂ each field mem
        exact ih member mem' field.2 inside
  | oneOf schemas ih =>
    intro j denotes
    cases denotes with
    | oneOf alone each =>
      refine .oneOf alone fun element mem => ?_
      obtain ⟨schema, mem', inside⟩ := exists_of_mem_forall₂ (denoteAll_iff.1 each) element mem
      exact ih schema mem' element inside
  | allOf schemas ih =>
    intro j denotes
    cases denotes with
    | allOf alone each =>
      refine .allOf alone fun element mem => ?_
      obtain ⟨schema, mem', inside⟩ := exists_of_mem_forall₂ (denoteAll_iff.1 each) element mem
      exact ih schema mem' element inside
  | arrayOf element ih =>
    intro j denotes
    cases denotes with
    | arrayOf alone inside => exact .arrayOf alone (ih _ inside)

/-- **What is in the grammar denotes a schema.** -/
lemma IsSchema.exists_denotes {j : Json} (schema : j.IsSchema) : ∃ S, j.Denotes S := by
  induction schema with
  | primitive name known =>
    obtain ⟨p, rfl⟩ := exists_primitive_iff.2 known
    exact ⟨_, .primitive p⟩
  | literal spelling alone scalar =>
    obtain ⟨value, scalar⟩ := isScalar_iff.1 scalar
    exact ⟨_, .literal spelling alone scalar⟩
  | @object members fields alone distinct _ ih =>
    obtain ⟨declared, each⟩ : ∃ declared, List.Forall₂ DenotesMember fields declared := by
      refine exists_forall₂ fun field mem => ?_
      obtain ⟨schema, inside⟩ := ih field mem
      exact ⟨((Member.ofName field.1).1, ⟨schema, (Member.ofName field.1).2⟩), rfl, inside⟩
    rw [strip_eq_keys each] at distinct
    exact ⟨_, .object alone distinct (denoteMembers_iff.2 each)⟩
  | oneOf alone _ ih =>
    obtain ⟨schemas, each⟩ := exists_forall₂ ih
    exact ⟨_, .oneOf alone (denoteAll_iff.2 each)⟩
  | allOf alone _ ih =>
    obtain ⟨schemas, each⟩ := exists_forall₂ ih
    exact ⟨_, .allOf alone (denoteAll_iff.2 each)⟩
  | arrayOf alone _ ih =>
    obtain ⟨element, inside⟩ := ih
    exact ⟨_, .arrayOf alone inside⟩

end Json

/-- **Loading accepts exactly the grammar, and gives what the document denotes.**  This is about
documents without repeated keys. -/
theorem Schema.load_iff_grammar (j : Json) (wellFormed : j.WellFormed) :
    ((∃ schema, load j = .ok schema) ↔ j.IsSchema) ∧
      ∀ schema, load j = .ok schema ↔ j.Denotes schema := by
  have denotes (schema : Schema) := load_eq_ok_iff_denotes schema j wellFormed
  refine ⟨⟨?_, ?_⟩, denotes⟩
  · rintro ⟨schema, loaded⟩
    exact Json.isSchema_of_denotes schema j ((denotes schema).1 loaded)
  · intro phrase
    obtain ⟨schema, denoted⟩ := phrase.exists_denotes
    exact ⟨schema, (denotes schema).2 denoted⟩

/-- A key that itself ends in a question mark, beside a keyword that holds `null`. -/
theorem Schema.load_iff_grammar_marked :
    let j : Json := .object [("oneOf", .null), ("object", .object [
      ("a??", .object [("match", .object [("bigint", .number (.ofInt64 7))])]),
      ("a", .string "null")])]
    let schema := object [("a?", ⟨literal (.bigInt 7) .matching, false⟩),
      ("a", ⟨primitive .null, true⟩)]
    j.WellFormed ∧ j.IsSchema ∧ j.Denotes schema := by
  intro j schema
  have wellFormed : j.WellFormed := by
    simp [j, Json.WellFormed, Json.WellFormedMembers, Entries.Distinct]
  have loaded : load j = .ok schema := rfl
  obtain ⟨accepts, denotes⟩ := load_iff_grammar j wellFormed
  exact ⟨wellFormed, accepts.1 ⟨schema, loaded⟩, (denotes schema).1 loaded⟩

end Conformance
