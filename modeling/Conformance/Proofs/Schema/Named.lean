import Conformance.Proofs.Schema.Redeclared
import Conformance.Proofs.Schema.Reload

/-!
# Declarations in documents

Members are declared in two ways: to `Schema.ofMembers`, with a flag and perhaps a mark, and in a document,
where the mark is all there is.  `Member.spelled` is the name that a document has for a declaration, and
**it says the same** (`Member.ofName_spelled`): the key is the same and so is the flag.

The two differ when a key comes up again.  `Schema.ofMembers` takes the last declaration, while
**a document is refused at the first key that repeats an earlier one** (`Schema.ofWireMembers_of_repeat`).
As long as no key does, a document means the schema that was declared, and this schema is written as the
document.
-/

namespace Conformance

namespace Member

/-- The name that a document has for a declaration.  An optional member gets the mark, unless it was
declared with one. -/
def spelled (name : String) (member : Member Schema) : String :=
  if OptionalMark.Marked name ∨ member.required = true then name else OptionalMark.add name

/-- **The name says what was declared**: it is read as the key and the flag of the declaration. -/
lemma ofName_spelled (name : String) (member : Member Schema) :
    ofName (member.spelled name) = ((member.unmark name).1, (member.unmark name).2.required) := by
  rw [spelled, unmark]
  cases mark : OptionalMark.remove? name with
  | none =>
    have unmarked : ¬ OptionalMark.Marked name := OptionalMark.remove?_eq_none_iff.1 mark
    cases required : member.required with
    | true => simp [ofName, mark]
    | false => simp [ofName, unmarked, OptionalMark.remove?_add]
  | some key =>
    have marked : OptionalMark.Marked name := by
      by_contra unmarked
      rw [OptionalMark.remove?_eq_none_iff.2 unmarked] at mark
      cases mark
    simp [ofName, marked, mark, allow]

lemma strip_spelled (name : String) (member : Member Schema) :
    OptionalMark.strip (member.spelled name) = OptionalMark.strip name := by
  rw [strip_eq_ofName, ofName_spelled, key_unmark]

end Member

namespace Schema

/-- A named wire form is what a document has for a declaration. -/
def SpelledAs (named : String × Member Schema) (wire : String × WireSchema) : Prop :=
  wire.1 = named.2.spelled named.1 ∧ named.2.schema.toWire = .ok wire.2

section Spelled

variable {declarations : List (String × Member Schema)} {wires : List (String × WireSchema)}

/-- The document has the keys of the declarations. -/
lemma declaredKeys_of_spelledAs (each : List.Forall₂ SpelledAs declarations wires) :
    declaredKeys declarations = wires.map fun wire => OptionalMark.strip wire.1 := by
  refine map_eq_map_of_forall₂ each fun named wire spelled => ?_
  rw [spelled.1, Member.strip_spelled]

/-! ## Every key once -/

/-- Declarations of different keys are kept as they are. -/
lemma ofMembers_of_nodup (distinct : (declaredKeys declarations).Nodup) :
    ofMembers declarations = object (unmarked declarations) := by
  rw [ofMembers_eq, Entries.ofList_of_distinct]
  rwa [Entries.Distinct, keys_map_unmark]

/-- **Declarations of different keys are written as the document has them.** -/
lemma toWire_ofMembers (each : List.Forall₂ SpelledAs declarations wires)
    (distinct : (declaredKeys declarations).Nodup) :
    (ofMembers declarations).toWire = .ok (Content.object wires).alone := by
  rw [ofMembers_of_nodup distinct]
  refine toWire_eq_ok_iff.2 ⟨wires, rfl, ?_⟩
  rw [unmarked, List.forall₂_map_left_iff]
  refine each.imp fun named wire spelled => ?_
  obtain ⟨name, written⟩ := spelled
  refine ⟨Member.name?_eq_some_iff.2 ?_, ?_⟩
  · rw [name, Member.ofName_spelled]
  · rwa [Member.schema_unmark]

/-- A schema of members is well formed if their schemas are, whatever keys come up again. -/
lemma wellFormed_ofMembers (wellFormed : ∀ named ∈ declarations, named.2.schema.WellFormed) :
    (ofMembers declarations).WellFormed := by
  refine ⟨Entries.distinct_ofList _, wellFormedMembers_iff.2 fun member mem => ?_⟩
  obtain ⟨named, listed, rfl⟩ := exists_unmark_of_mem mem
  rw [Member.schema_unmark]
  exact wellFormed named listed

/-! ## A key again -/

/-- **Reading stops at the first key that repeats an earlier one**, if nothing is wrong before. -/
lemma ofWireMembers_of_repeat {before after : List (String × WireSchema)}
    {wire : String × WireSchema} {earlier : List String}
    (sound : ∀ member ∈ before, ∃ schema, ofWire member.2 = .ok schema)
    (distinct : (before.map fun member => OptionalMark.strip member.1).Nodup)
    (new : ∀ member ∈ before, OptionalMark.strip member.1 ∉ earlier)
    (again : OptionalMark.strip wire.1 ∈ earlier ∨
      OptionalMark.strip wire.1 ∈ before.map fun member => OptionalMark.strip member.1) :
    ofWireMembers earlier (before ++ wire :: after) =
      .error (.ambiguousMember (OptionalMark.strip wire.1)) := by
  induction before generalizing earlier with
  | nil =>
    have again : OptionalMark.strip wire.1 ∈ earlier := by simpa using again
    rw [Member.strip_eq_ofName] at again
    rw [List.nil_append, ofWireMembers, Member.strip_eq_ofName]
    exact if_pos again
  | cons member rest ih =>
    obtain ⟨⟨schema, meant⟩, sound⟩ := List.forall_mem_cons.1 sound
    obtain ⟨new_here, new⟩ := List.forall_mem_cons.1 new
    rw [List.map_cons, List.nodup_cons] at distinct
    have later : ofWireMembers (OptionalMark.strip member.1 :: earlier) (rest ++ wire :: after) =
        .error (.ambiguousMember (OptionalMark.strip wire.1)) := by
      refine ih sound distinct.2 (fun other mem => ?_) ?_
      · have other_key : OptionalMark.strip other.1 ≠ OptionalMark.strip member.1 :=
          fun same => distinct.1 (same ▸ List.mem_map_of_mem mem)
        simp [other_key, new other mem]
      · rcases again with before | again
        · exact Or.inl (List.mem_cons_of_mem _ before)
        · rcases List.mem_cons.1 again with here | rest
          · exact Or.inl (here ▸ List.mem_cons_self)
          · exact Or.inr rest
    rw [Member.strip_eq_ofName member.1] at new_here later
    rw [List.cons_append, ofWireMembers]
    dsimp only
    rw [if_neg new_here, meant, ok_bind, later, error_bind]

/-- **A document with a key that comes up again is refused for the first such key.** -/
lemma ofWire_of_repeat {before after : List String} {key : String}
    (sound : ∀ wire ∈ wires, ∃ schema, ofWire wire.2 = .ok schema)
    (keys : (wires.map fun wire => OptionalMark.strip wire.1) = before ++ key :: after)
    (distinct : before.Nodup) (again : key ∈ before) :
    ofWire (Content.object wires).alone = .error (.ambiguousMember key) := by
  obtain ⟨first, others, rfl, rfl, rest⟩ := List.map_eq_append_iff.1 keys
  obtain ⟨wire, last, rfl, rfl, -⟩ := List.map_eq_cons_iff.1 rest
  refine map_eq_error_iff.2 (ofWireMembers_of_repeat (fun member mem => ?_) distinct ?_ (.inr again))
  · exact sound member (List.mem_append_left _ mem)
  · simp

end Spelled

end Schema

/-! ## Both ways to declare members -/

/-- **A document means what was declared.**  Let the declarations be spelled in a document, each under
its name.  If no key comes up twice, the document means a schema that is equal to the declared one, with
the members in the same order at every depth, and the declared schema is written as the document, in which
no name comes up twice either.  Otherwise the document is refused for the first key that repeats an earlier
one. -/
theorem document_of_declarations {declarations : List (String × Member Schema)}
    {wires : List (String × WireSchema)}
    (wellFormed : ∀ named ∈ declarations, named.2.schema.WellFormed)
    (each : List.Forall₂ Schema.SpelledAs declarations wires) :
    let keys := declarations.map fun named => OptionalMark.strip named.1
    let wire := (Content.object wires).alone
    (keys.Nodup → Entries.Distinct wires ∧
      (∃ schema, Schema.ofWire wire = .ok schema ∧ (schema == Schema.ofMembers declarations) = true ∧
        schema.declared = (Schema.ofMembers declarations).declared) ∧
      (Schema.ofMembers declarations).toWire = .ok wire) ∧
    (¬ keys.Nodup → ∃ before key after, keys = before ++ key :: after ∧ before.Nodup ∧ key ∈ before ∧
      Schema.ofWire wire = .error (.ambiguousMember key)) := by
  intro keys wire
  have documented : keys = wires.map fun wire => OptionalMark.strip wire.1 :=
    Schema.declaredKeys_of_spelledAs each
  refine ⟨fun distinct => ?_, fun repeated => ?_⟩
  · have built := Schema.wellFormed_ofMembers wellFormed
    have written := Schema.toWire_ofMembers each distinct
    refine ⟨?_, ⟨(Schema.ofMembers declarations).unsignZeros, ?_, ?_, ?_⟩, written⟩
    · rw [documented, ← Function.comp_def OptionalMark.strip Prod.fst, ← List.map_map] at distinct
      exact distinct.of_map _
    · exact Schema.ofWire_of_toWire _ wire built written
    · exact Schema.unsignZeros_beq _ built ⟨wire, written⟩
    · exact Schema.declared_unsignZeros _
  · obtain ⟨before, key, after, split, distinct, again⟩ := Entries.exists_first_repeat repeated
    have sound : ∀ wire ∈ wires, ∃ schema, Schema.ofWire wire.2 = .ok schema := by
      intro wire mem
      obtain ⟨named, listed, spelled⟩ := exists_of_mem_forall₂ each.flip wire mem
      exact ⟨_, Schema.ofWire_of_toWire _ wire.2 (wellFormed named listed) spelled.2⟩
    exact ⟨before, key, after, split, distinct, again,
      Schema.ofWire_of_repeat sound (documented.symm.trans split) distinct again⟩

/-- A key that itself ends in a question mark, beside the same key without, and then a key that is
declared with a mark and without. -/
theorem document_of_declarations_marked :
    let zero := Schema.matching (.number (.finite (.zero true)))
    let declarations := [("a??", Member.require Schema.string), ("a", .allow zero), ("", .require .null)]
    let wires := [("a??", WireSchema.bare "string"),
      ("a?", (Content.literal .matching (.number (.integer 0 (by decide)))).alone), ("", .bare "null")]
    let repeated := [("a?", Member.require Schema.string), ("", .allow zero), ("a", .require .null)]
    let repeatedWires := [("a?", WireSchema.bare "string"),
      ("?", (Content.literal .matching (.number (.integer 0 (by decide)))).alone), ("a", .bare "null")]
    ((∀ named ∈ declarations, named.2.schema.WellFormed) ∧
      List.Forall₂ Schema.SpelledAs declarations wires ∧
      (declarations.map fun named => OptionalMark.strip named.1).Nodup ∧
      (∃ schema, Schema.ofWire (Content.object wires).alone = .ok schema ∧
        (schema == Schema.ofMembers declarations) = true ∧
        schema.declared = (Schema.ofMembers declarations).declared) ∧
      (Schema.ofMembers declarations).toWire = .ok (Content.object wires).alone) ∧
    (∀ named ∈ repeated, named.2.schema.WellFormed) ∧
      List.Forall₂ Schema.SpelledAs repeated repeatedWires ∧
      ¬ (repeated.map fun named => OptionalMark.strip named.1).Nodup ∧
      ∃ before key after, ["a", "", "a"] = before ++ key :: after ∧ before.Nodup ∧ key ∈ before ∧
        Schema.ofWire (Content.object repeatedWires).alone = .error (.ambiguousMember key) := by
  intro zero declarations wires repeated repeatedWires
  have wellFormed : ∀ named ∈ declarations, named.2.schema.WellFormed := by
    simp [declarations, zero, Member.require, Member.allow, Schema.string, Schema.matching,
      Schema.null, Schema.WellFormed]
  have wellFormed' : ∀ named ∈ repeated, named.2.schema.WellFormed := by
    simp [repeated, zero, Member.require, Member.allow, Schema.string, Schema.matching,
      Schema.null, Schema.WellFormed]
  have each : List.Forall₂ Schema.SpelledAs declarations wires :=
    .cons ⟨rfl, rfl⟩ (.cons ⟨by decide, rfl⟩ (.cons ⟨rfl, rfl⟩ .nil))
  have each' : List.Forall₂ Schema.SpelledAs repeated repeatedWires :=
    .cons ⟨rfl, rfl⟩ (.cons ⟨by decide, rfl⟩ (.cons ⟨rfl, rfl⟩ .nil))
  have distinct : (declarations.map fun named => OptionalMark.strip named.1).Nodup := by decide
  have again : ¬ (repeated.map fun named => OptionalMark.strip named.1).Nodup := by decide
  exact ⟨⟨wellFormed, each, distinct, ((document_of_declarations wellFormed each).1 distinct).2⟩,
    wellFormed', each', again, (document_of_declarations wellFormed' each').2 again⟩

end Conformance
