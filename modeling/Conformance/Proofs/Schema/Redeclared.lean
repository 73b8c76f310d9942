import Conformance.Check.Validator
import Conformance.Proofs.Entries.Repetition
import Conformance.Proofs.Schema.Combinators

/-!
# Members that are declared again

`Schema.ofMembers` takes a list of declarations in which a key may come up many times, marked or not,
since `a` and `a?` are one key.  **The member of a key stands where the key was declared first and is
what it was declared as last** (`keys_unmarked`, `lookup_unmarked`): nothing of an overwritten declaration
is left, neither its schema nor that it was required.

So a list of declarations may be tidied up before it is used, in two ways that make no difference to the
schema.  `Schema.overwritten` puts the last declaration of a key in every place of the key, and
`Schema.merged` puts it in the first place and drops the others.
-/

namespace Conformance

namespace Member

/-- A declaration is kept under its name without the mark. -/
lemma key_unmark (name : String) (member : Member Schema) :
    (member.unmark name).1 = OptionalMark.strip name := by
  rw [unmark, OptionalMark.strip]
  cases OptionalMark.remove? name <;> rfl

/-- **It takes both for a member to be required**: the declaration says so, and its name has no mark. -/
lemma required_unmark {name : String} {member : Member Schema} :
    (member.unmark name).2.required = true ↔
      member.required = true ∧ ¬ OptionalMark.Marked name := by
  rw [← OptionalMark.remove?_eq_none_iff, unmark]
  cases OptionalMark.remove? name with
  | none => simp
  | some key => simp [allow]

end Member

namespace Schema

/-- The declarations under their keys. -/
def unmarked (declarations : List (String × Member Schema)) : List (String × Member Schema) :=
  declarations.map fun named => named.2.unmark named.1

/-- The keys of declarations, as often as they come up. -/
def declaredKeys (declarations : List (String × Member Schema)) : List String :=
  declarations.map fun named => OptionalMark.strip named.1

/-- The last declaration of a key. -/
def lastDeclared? (declarations : List (String × Member Schema)) (key : String) :
    Option (String × Member Schema) :=
  declarations.reverse.find? fun named => OptionalMark.strip named.1 = key

lemma ofMembers_eq (declarations : List (String × Member Schema)) :
    ofMembers declarations = object (Entries.ofList (unmarked declarations)) := rfl

/-! ## What is kept -/

section Kept

variable {declarations : List (String × Member Schema)}

lemma keys_map_unmark : Entries.keys (unmarked declarations) = declaredKeys declarations := by
  simp [Entries.keys, unmarked, declaredKeys, Member.key_unmark]

/-- **Each key is there once, where it was declared first.** -/
lemma keys_unmarked :
    Entries.keys (Entries.ofList (unmarked declarations)) = (declaredKeys declarations).eraseDups := by
  rw [Entries.keys_ofList, keys_map_unmark]

lemma lookup_map_unmark (key : String) :
    (unmarked declarations).lookup key =
      (declarations.find? fun named => OptionalMark.strip named.1 = key).map
        fun named => (named.2.unmark named.1).2 := by
  induction declarations with
  | nil => rfl
  | cons named rest ih =>
    have head : unmarked (named :: rest) =
        (OptionalMark.strip named.1, (named.2.unmark named.1).2) :: unmarked rest := by
      rw [← Member.key_unmark named.1 named.2]
      rfl
    rw [head, Entries.lookup_cons, ih]
    by_cases same : OptionalMark.strip named.1 = key
    · simp [same]
    · simp [same, Ne.symm same]

/-- **A key leads to its last declaration.** -/
lemma lookup_unmarked (key : String) :
    (Entries.ofList (unmarked declarations)).lookup key =
      (lastDeclared? declarations key).map fun named => (named.2.unmark named.1).2 := by
  rw [Entries.lookup_ofList, unmarked, ← List.map_reverse, lastDeclared?]
  exact lookup_map_unmark key

lemma strip_of_lastDeclared? {key : String} {named : String × Member Schema}
    (last : lastDeclared? declarations key = some named) : OptionalMark.strip named.1 = key := by
  simpa using List.find?_some last

/-- A declaration is the last one of its key if the key does not come up after it. -/
lemma lastDeclared?_append_cons {before after : List (String × Member Schema)} {name : String}
    {member : Member Schema}
    (last : ∀ later ∈ after, OptionalMark.strip later.1 ≠ OptionalMark.strip name) :
    lastDeclared? (before ++ (name, member) :: after) (OptionalMark.strip name) =
      some (name, member) := by
  have none_later : after.reverse.find?
      (fun later => OptionalMark.strip later.1 = OptionalMark.strip name) = none := by
    simpa [List.find?_eq_none] using last
  simp [lastDeclared?, none_later]

/-- The members are the last declarations of the keys. -/
lemma ofList_unmarked :
    Entries.ofList (unmarked declarations) =
      (declaredKeys declarations).eraseDups.filterMap fun key =>
        (lastDeclared? declarations key).map fun named => named.2.unmark named.1 := by
  rw [← Entries.filterMap_lookup_keys (Entries.distinct_ofList (unmarked declarations)),
    keys_unmarked]
  refine List.filterMap_congr fun key _ => ?_
  rw [lookup_unmarked]
  cases last : lastDeclared? declarations key with
  | none => rfl
  | some named =>
    rw [← strip_of_lastDeclared? last, ← Member.key_unmark named.1 named.2]
    rfl

end Kept

/-! ## Declarations tidied up -/

/-- The declarations, each of them overwritten by the last one of its key. -/
def overwritten (declarations : List (String × Member Schema)) : List (String × Member Schema) :=
  declarations.map fun named =>
    (lastDeclared? declarations (OptionalMark.strip named.1)).getD named

/-- The last declaration of each key, where the key was declared first. -/
def merged (declarations : List (String × Member Schema)) : List (String × Member Schema) :=
  (declaredKeys declarations).eraseDups.filterMap (lastDeclared? declarations)

section Tidied

variable (declarations : List (String × Member Schema))

lemma strip_overwriting (named : String × Member Schema) :
    OptionalMark.strip
      ((lastDeclared? declarations (OptionalMark.strip named.1)).getD named).1 =
        OptionalMark.strip named.1 := by
  cases last : lastDeclared? declarations (OptionalMark.strip named.1) with
  | none => rfl
  | some other => exact strip_of_lastDeclared? last

/-- Overwriting changes no key. -/
lemma declaredKeys_overwritten : declaredKeys (overwritten declarations) = declaredKeys declarations := by
  simp [declaredKeys, overwritten, strip_overwriting]

/-- The last declaration of a key is overwritten by itself. -/
lemma lastDeclared?_overwritten (key : String) :
    lastDeclared? (overwritten declarations) key = lastDeclared? declarations key := by
  have found : lastDeclared? (overwritten declarations) key =
      (lastDeclared? declarations key).map fun named =>
        (lastDeclared? declarations (OptionalMark.strip named.1)).getD named := by
    rw [lastDeclared?, overwritten, ← List.map_reverse, List.find?_map]
    simp only [Function.comp_def, strip_overwriting]
    rfl
  rw [found]
  cases last : lastDeclared? declarations key with
  | none => rfl
  | some named => simp [strip_of_lastDeclared? last, last]

/-- **Overwritten declarations are the same schema.** -/
theorem ofMembers_overwritten : ofMembers (overwritten declarations) = ofMembers declarations := by
  simp only [ofMembers_eq, ofList_unmarked, declaredKeys_overwritten, lastDeclared?_overwritten]

/-- **Merged declarations are the same schema.** -/
theorem ofMembers_merged : ofMembers (merged declarations) = ofMembers declarations := by
  have members : unmarked (merged declarations) = Entries.ofList (unmarked declarations) := by
    rw [ofList_unmarked, unmarked, merged, List.map_filterMap]
  rw [ofMembers_eq, ofMembers_eq, members, Entries.ofList_of_distinct _ (Entries.distinct_ofList _)]

end Tidied

end Schema

/-! ## The last declaration decides -/

/-- **Declarations are a map in which the last one of a key counts.**  The members have the keys of the
declarations, each once, in the order of their first places.  Under a key stands the schema of its last
declaration, required if that declaration is and has no mark.  It makes no difference to any check if the
earlier declarations of a key are replaced by the last one, each in its place or all of them in the
first. -/
theorem last_declaration_counts (declarations : List (String × Member Schema)) :
    (∃ members, Schema.ofMembers declarations = .object members ∧
      Entries.keys members = (declarations.map fun named => OptionalMark.strip named.1).eraseDups ∧
      ∀ before name member after, declarations = before ++ (name, member) :: after →
        (∀ later ∈ after, OptionalMark.strip later.1 ≠ OptionalMark.strip name) →
        ∃ kept, members.lookup (OptionalMark.strip name) = some kept ∧
          kept.schema = member.schema ∧
          (kept.required = true ↔ member.required = true ∧ ¬ OptionalMark.Marked name)) ∧
    ∀ (validator : Validator) (value : Value),
      (validator.accepts (Schema.ofMembers (Schema.overwritten declarations)) value =
          validator.accepts (Schema.ofMembers declarations) value ∧
        validator.explain (Schema.ofMembers (Schema.overwritten declarations)) value =
          validator.explain (Schema.ofMembers declarations) value) ∧
      validator.accepts (Schema.ofMembers (Schema.merged declarations)) value =
          validator.accepts (Schema.ofMembers declarations) value ∧
        validator.explain (Schema.ofMembers (Schema.merged declarations)) value =
          validator.explain (Schema.ofMembers declarations) value := by
  refine ⟨⟨_, Schema.ofMembers_eq declarations, Schema.keys_unmarked, ?_⟩,
    fun validator value => ?_⟩
  · rintro before name member after rfl last
    refine ⟨(member.unmark name).2, ?_, Member.schema_unmark name member, Member.required_unmark⟩
    rw [Schema.lookup_unmarked, Schema.lastDeclared?_append_cons last, Option.map_some]
  · rw [Schema.ofMembers_overwritten, Schema.ofMembers_merged]
    exact ⟨⟨rfl, rfl⟩, rfl, rfl⟩

/-- A key that is declared with a mark after it was declared without, among keys of which one ends in a
question mark. -/
theorem last_declaration_counts_with_mark :
    let after := [("b??", Member.require Schema.boolean)]
    let declarations := [("b", Member.require .number), ("a", .require .string)] ++
      ("a?", .require .null) :: after
    (∀ later ∈ after, OptionalMark.strip later.1 ≠ OptionalMark.strip "a?") ∧
      ∃ members, Schema.ofMembers declarations = .object members ∧
        Entries.keys members = ["b", "a", "b?"] ∧
        ∃ kept, members.lookup "a" = some kept ∧ kept.schema = .null ∧ kept.required = false := by
  intro after declarations
  have last : ∀ later ∈ after, OptionalMark.strip later.1 ≠ OptionalMark.strip "a?" := by decide
  obtain ⟨⟨members, built, keys, each⟩, -⟩ := last_declaration_counts declarations
  obtain ⟨kept, found, schema, required⟩ := each _ "a?" _ after rfl last
  have optional : ¬ kept.required = true := fun both => (required.1 both).2 (by decide)
  exact ⟨last, members, built, keys, kept, found, schema, Bool.eq_false_iff.2 optional⟩

end Conformance
