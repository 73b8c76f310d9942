import Conformance.Proofs.Wire.Reading

/-!
# Documents of the wrong shape

Reading a wire form fails without saying why.  `Json.Misshapen` says it of the document: somewhere in
it stands a schema that is neither a string nor an object, a keyword that is repeated, or one that
holds something of the wrong kind.  **What stands next to it does not matter**, as only the documents
of schemas are looked into (`Keyword.schemasIn`): a literal may hold anything, and so may what is
unknown.

`WireSchema.exists_ofJson?_iff`: all other documents are wire forms.
-/

namespace Conformance

namespace Keyword

/-- A keyword may hold a document of that kind.  What is `null` counts as absent. -/
def MayHold (keyword : Keyword) (j : Json) : Prop :=
  j = .null ∨
    match keyword with
    | object => ∃ members, j = .object members
    | oneOf | allOf => ∃ elements, j = .array elements
    | literal | matching | arrayOf => True

/-- The documents of schemas in what a keyword holds. -/
def schemasIn : Keyword → Json → List Json
  | object, .object members => members.map Prod.snd
  | oneOf, .array elements | allOf, .array elements => elements
  | arrayOf, .null => []
  | arrayOf, j => [j]
  | _, _ => []

/-- A keyword takes what it may hold if the schemas inside can be read. -/
def Takes (keyword : Keyword) (j : Json) : Prop :=
  keyword.MayHold j ∧ ∀ part ∈ keyword.schemasIn j, ∃ wire, WireSchema.ofJson? part = some wire

lemma schemasIn_null (keyword : Keyword) : keyword.schemasIn .null = [] := by
  cases keyword <;> rfl

lemma schemasIn_arrayOf {j : Json} (notNull : j ≠ .null) : schemasIn .arrayOf j = [j] := by
  cases j with
  | null => exact absurd rfl notNull
  | _ => rfl

lemma takes_null (keyword : Keyword) : keyword.Takes .null := by
  refine ⟨Or.inl rfl, ?_⟩
  rw [schemasIn_null]
  exact List.forall_mem_nil _

/-- The documents inside what a keyword holds are not larger. -/
lemma sizeOf_le_of_mem_schemasIn {keyword : Keyword} {j part : Json}
    (mem : part ∈ keyword.schemasIn j) : sizeOf part ≤ sizeOf j := by
  unfold schemasIn at mem
  split at mem
  · obtain ⟨⟨key, content⟩, listed, rfl⟩ := List.mem_map.1 mem
    have := List.sizeOf_lt_of_mem listed
    simp at this ⊢
    omega
  · have := List.sizeOf_lt_of_mem mem
    simp
    omega
  · have := List.sizeOf_lt_of_mem mem
    simp
    omega
  · cases mem
  · exact Nat.le_of_eq (congrArg sizeOf (List.mem_singleton.1 mem))
  · cases mem

end Keyword

/-- The schemas in an object are smaller than the object. -/
lemma Keyword.sizeOf_lt_of_mem_schemasIn {members : List (String × Json)} {member : String × Json}
    {keyword : Keyword} {part : Json} (held : member ∈ members)
    (mem : part ∈ keyword.schemasIn member.2) : sizeOf part < sizeOf (Json.object members) := by
  have member_lt := List.sizeOf_lt_of_mem held
  have part_le := sizeOf_le_of_mem_schemasIn mem
  obtain ⟨key, content⟩ := member
  simp at member_lt part_le ⊢
  omega

/-- Somewhere in a document that should be a schema, the shape is wrong. -/
inductive Json.Misshapen : Json → Prop
  /-- A schema is neither a string nor an object. -/
  | form {j : Json} (noString : ∀ s, j ≠ .string s) (noObject : ∀ members, j ≠ .object members) :
    Misshapen j
  /-- A keyword stands twice in an object. -/
  | repeated {members : List (String × Json)} {keyword : Keyword}
    (twice : 1 < (Entries.keys members).count keyword.name) : Misshapen (.object members)
  /-- A keyword holds something of the wrong kind. -/
  | kind {members : List (String × Json)} {keyword : Keyword} {content : Json}
    (held : (keyword.name, content) ∈ members) (wrong : ¬ keyword.MayHold content) :
    Misshapen (.object members)
  /-- The shape is wrong somewhere in what a keyword holds. -/
  | inside {members : List (String × Json)} {keyword : Keyword} {content part : Json}
    (held : (keyword.name, content) ∈ members) (mem : part ∈ keyword.schemasIn content)
    (misshapen : Misshapen part) : Misshapen (.object members)

/-! ## What keywords take -/

namespace WireSchema

/-- All elements are read if each of them can be. -/
lemma exists_allOf?_iff {elements : List Json} :
    (∃ wires, WireSchema.allOf? elements = some wires) ↔
      ∀ element ∈ elements, ∃ wire, ofJson? element = some wire := by
  simp only [allOf?_eq_some_iff]
  exact exists_forall₂_iff

/-- All members are read if the content of each of them can be. -/
lemma exists_membersOf?_iff {members : List (String × Json)} :
    (∃ wires, membersOf? members = some wires) ↔
      ∀ part ∈ members.map Prod.snd, ∃ wire, ofJson? part = some wire := by
  simp only [membersOf?_eq_some_iff, exists_forall₂_iff, List.forall_mem_map]
  refine forall₂_congr fun member _ => ⟨?_, ?_⟩
  · rintro ⟨named, -, inside⟩
    exact ⟨named.2, inside⟩
  · rintro ⟨wire, inside⟩
    exact ⟨(member.1, wire), rfl, inside⟩

end WireSchema

namespace Content

open WireSchema

/-- A keyword takes what is read as a content of it. -/
lemma exists_readFrom_iff {keyword : Keyword} {j : Json} (notNull : j ≠ .null) :
    (∃ content : Content, content.keyword = keyword ∧ content.ReadFrom j) ↔ keyword.Takes j := by
  constructor
  · rintro ⟨content, rfl, read⟩
    cases content with
    | literal spelling resolved =>
      cases spelling with
      | literal => exact ⟨Or.inr trivial, List.forall_mem_nil _⟩
      | matching => exact ⟨Or.inr trivial, List.forall_mem_nil _⟩
    | object wires =>
      obtain ⟨members, found, rfl, each, -⟩ := read
      exact ⟨Or.inr ⟨members, rfl⟩, exists_membersOf?_iff.1 ⟨found, each⟩⟩
    | oneOf wires =>
      obtain ⟨elements, rfl, each⟩ := read
      exact ⟨Or.inr ⟨elements, rfl⟩, exists_allOf?_iff.1 ⟨wires, each⟩⟩
    | allOf wires =>
      obtain ⟨elements, rfl, each⟩ := read
      exact ⟨Or.inr ⟨elements, rfl⟩, exists_allOf?_iff.1 ⟨wires, each⟩⟩
    | arrayOf wire =>
      refine ⟨Or.inr trivial, ?_⟩
      rw [keyword, Keyword.schemasIn_arrayOf notNull, List.forall_mem_singleton]
      exact ⟨wire, read⟩
  · rintro ⟨null | kind, each⟩
    · exact absurd null notNull
    · cases keyword with
      | literal => exact ⟨.literal .literal j.resolve, rfl, rfl⟩
      | matching => exact ⟨.literal .matching j.resolve, rfl, rfl⟩
      | object =>
        obtain ⟨members, rfl⟩ := kind
        obtain ⟨found, all⟩ := exists_membersOf?_iff.2 each
        exact ⟨.object _, rfl, members, found, rfl, all, rfl⟩
      | oneOf =>
        obtain ⟨elements, rfl⟩ := kind
        obtain ⟨wires, all⟩ := exists_allOf?_iff.2 each
        exact ⟨.oneOf wires, rfl, elements, rfl, all⟩
      | allOf =>
        obtain ⟨elements, rfl⟩ := kind
        obtain ⟨wires, all⟩ := exists_allOf?_iff.2 each
        exact ⟨.allOf wires, rfl, elements, rfl, all⟩
      | arrayOf =>
        rw [Keyword.schemasIn_arrayOf notNull, List.forall_mem_singleton] at each
        obtain ⟨wire, read⟩ := each
        exact ⟨.arrayOf wire, rfl, read⟩

/-- A member adds something if its keyword, should it be one, takes what it holds. -/
lemma exists_adds_iff {key : String} {j : Json} {others : Keywords WireSchema} :
    (∃ keywords, Adds key j others keywords) ↔
      ∀ keyword : Keyword, keyword.name = key → keyword.Takes j := by
  constructor
  · rintro ⟨keywords, adds⟩ keyword named'
    rw [← Keyword.ofName?_eq_some_iff] at named'
    cases adds with
    | unknown unnamed =>
      rw [unnamed] at named'
      cases named'
    | nothing named null =>
      rw [null]
      exact keyword.takes_null
    | content content named notNull read =>
      cases named.symm.trans named'
      exact (exists_readFrom_iff notNull).1 ⟨content, rfl, read⟩
  · intro takes
    cases named : Keyword.ofName? key with
    | none => exact ⟨_, .unknown named⟩
    | some keyword =>
      by_cases null : j = .null
      · exact ⟨others, .nothing named null⟩
      · obtain ⟨content, rfl, read⟩ := (exists_readFrom_iff null).2
          (takes keyword (Keyword.ofName?_eq_some_iff.1 named))
        exact ⟨_, .content content named null read⟩

end Content

/-! ## Which documents are read -/

namespace WireSchema

lemma exists_keywordsOf?_iff {members : List (String × Json)} :
    (∃ keywords, keywordsOf? members = some keywords) ↔
      ∀ member ∈ members, ∀ keyword : Keyword, keyword.name = member.1 →
        keyword.Takes member.2 := by
  induction members with
  | nil => simp [keywordsOf?]
  | cons member rest ih =>
    obtain ⟨key, content⟩ := member
    rw [List.forall_mem_cons, ← ih]
    simp only [keywordsOf?_cons_iff]
    constructor
    · rintro ⟨keywords, others, found, adds⟩
      exact ⟨Content.exists_adds_iff.1 ⟨keywords, adds⟩, others, found⟩
    · rintro ⟨takes, others, found⟩
      obtain ⟨keywords, adds⟩ := Content.exists_adds_iff.2 takes
      exact ⟨keywords, others, found, adds⟩

/-- As often as its name stands in an object, a keyword is found there. -/
lemma count_ofName? (members : List (String × Json)) (keyword : Keyword) :
    (members.filterMap fun member => Keyword.ofName? member.1).count keyword =
      (Entries.keys members).count keyword.name := by
  rw [List.count_eq_countP, List.countP_filterMap, Entries.keys, List.count_eq_countP,
    List.countP_map]
  refine List.countP_congr fun member _ => ?_
  rw [Function.comp_apply, beq_iff_eq, eq_comm (a := member.1), ← Keyword.ofName?_eq_some_iff]
  cases Keyword.ofName? member.1 with
  | none => simp only [Option.map_none, Option.getD_none, Bool.false_eq_true, reduceCtorEq]
  | some other => simp only [Option.map_some, Option.getD_some, beq_iff_eq, Option.some.injEq]

lemma repeatsKeyword_eq_false_iff {members : List (String × Json)} :
    repeatsKeyword members = false ↔
      ∀ keyword : Keyword, (Entries.keys members).count keyword.name ≤ 1 := by
  simp only [repeatsKeyword, Bool.not_eq_false', decide_eq_true_eq, List.nodup_iff_count_le_one,
    count_ofName?]

lemma exists_ofJson?_object_iff {members : List (String × Json)} :
    (∃ wire, ofJson? (.object members) = some wire) ↔
      repeatsKeyword members = false ∧ ∃ keywords, keywordsOf? members = some keywords := by
  simp only [ofJson?_object_eq_some_iff]
  constructor
  · rintro ⟨wire, once, found, read, -⟩
    exact ⟨once, found, read⟩
  · rintro ⟨once, found, read⟩
    exact ⟨_, once, found, read, rfl⟩

/-- **The documents that are wire forms are those without a wrong shape.** -/
theorem exists_ofJson?_iff : ∀ j : Json, (∃ wire, ofJson? j = some wire) ↔ ¬ j.Misshapen
  | .string s => by
    refine ⟨fun _ misshapen => ?_, fun _ => ⟨.bare s, rfl⟩⟩
    cases misshapen with
    | form noString noObject => exact noString s rfl
  | .object members => by
    -- The schemas that a keyword holds may lie one level below the content of the member.
    have inside : ∀ member ∈ members, ∀ keyword : Keyword, ∀ part ∈ keyword.schemasIn member.2,
        ((∃ wire, ofJson? part = some wire) ↔ ¬ part.Misshapen) :=
      fun member _held keyword part _mem => exists_ofJson?_iff part
    rw [exists_ofJson?_object_iff, repeatsKeyword_eq_false_iff, exists_keywordsOf?_iff]
    constructor
    · rintro ⟨once, takes⟩ misshapen
      cases misshapen with
      | form noString noObject => exact noObject members rfl
      | repeated twice => exact Nat.not_lt.2 (once _) twice
      | kind held wrong => exact wrong (takes _ held _ rfl).1
      | inside held mem misshapen =>
        exact (inside _ held _ _ mem).1 ((takes _ held _ rfl).2 _ mem) misshapen
    · intro shaped
      refine ⟨fun keyword => Nat.not_lt.1 fun twice => shaped (.repeated twice), ?_⟩
      rintro ⟨key, content⟩ held keyword rfl
      refine ⟨Classical.not_not.1 fun wrong => shaped (.kind held wrong), fun part mem => ?_⟩
      exact (inside _ held keyword part mem).2 fun misshapen => shaped (.inside held mem misshapen)
  | .null | .bool _ | .number _ | .array _ => by
    refine ⟨fun ⟨wire, read⟩ => ?_, fun shaped => (shaped (.form ?_ ?_)).elim⟩
    · cases read
    · simp
    · simp
termination_by j => sizeOf j
decreasing_by exact Keyword.sizeOf_lt_of_mem_schemasIn _held _mem

end WireSchema

end Conformance
