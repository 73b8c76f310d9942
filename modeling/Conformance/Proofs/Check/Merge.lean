import Conformance.Proofs.Entries.Repetition
import Conformance.Proofs.Explanation.Missing

/-!
# Merging object schemas

An intersection of object schemas comes to a single object schema: **under each key that one of them
declares stands the intersection of what they declare there, required if one of them requires it**
(`Schema.mergedMember`).  The order of the keys is free (`Schema.Merges`); `Schema.merge` takes them as
they are first declared.

An object schema asks of each member separately whether it admits what is found under its key, be it
nothing at all (`Member.Admits`).  So the two sides agree because the merged member admits what all the
declared ones admit (`Schema.admits_mergedMember_iff`).  The sides do not have the same failures: a key
that several schemas require is reported by each of them, and the merge reports it once.  The keys that
are reported are the same (`allOf_of_objects_is_their_merge`).
-/

namespace Conformance

/-- A member has no objection to what is found under its key. -/
def Member.Admits (member : Member Schema) : Option Value → Prop
  | none => member.required = false
  | some field => member.schema.accepts field = true

namespace Schema

/-- An object schema asks each of its members. -/
lemma accepts_object_iff_admits {members : List (String × Member Schema)} {value : Value} :
    (object members).accepts value = true ↔
      ∃ fields, value = .object fields ∧
        ∀ member ∈ members, member.2.Admits (Value.present? fields member.1) := by
  rw [accepts_object_iff]
  refine exists_congr fun fields => and_congr_right fun _ => forall₂_congr fun member _ => ?_
  cases Value.present? fields member.1 <;> simp [Member.Admits]

/-! ## Merged members -/

variable {maps : List (List (String × Member Schema))}

/-- What all that is declared under a key comes to. -/
def mergedMember (maps : List (List (String × Member Schema))) (key : String) : Member Schema :=
  let declared := maps.filterMap (List.lookup key)
  ⟨allOf (declared.map Member.schema), declared.any Member.required⟩

/-- A merged member is required if one of the declared ones is. -/
lemma required_mergedMember_iff {key : String} :
    (mergedMember maps key).required = true ↔
      ∃ members ∈ maps, ∃ member, members.lookup key = some member ∧ member.required = true := by
  rw [mergedMember, List.any_eq_true]
  simp only [List.mem_filterMap]
  constructor
  · rintro ⟨member, ⟨members, listed, found⟩, required⟩
    exact ⟨members, listed, member, found, required⟩
  · rintro ⟨members, listed, member, found, required⟩
    exact ⟨member, ⟨members, listed, found⟩, required⟩

/-- **A merged member admits what all the declared ones admit.** -/
lemma admits_mergedMember_iff {key : String} {found : Option Value} :
    (mergedMember maps key).Admits found ↔
      ∀ members ∈ maps, ∀ member, members.lookup key = some member → member.Admits found := by
  cases found with
  | none =>
    rw [Member.Admits, ← Bool.not_eq_true, required_mergedMember_iff]
    push Not
    simp only [Member.Admits, ne_eq, Bool.not_eq_true]
  | some field =>
    rw [Member.Admits, mergedMember, accepts_allOf_iff, List.forall_mem_map]
    simp only [List.mem_filterMap]
    constructor
    · intro all members listed member declared
      exact all member ⟨members, listed, declared⟩
    · rintro all member ⟨members, listed, declared⟩
      exact all members listed member declared

/-! ## Merges -/

/-- The members of an object schema that is the merge of others. -/
structure Merges (maps : List (List (String × Member Schema)))
    (merged : List (String × Member Schema)) : Prop where
  distinct : Entries.Distinct merged
  keys : ∀ key, key ∈ Entries.keys merged ↔ ∃ members ∈ maps, key ∈ Entries.keys members
  member : ∀ key member, (key, member) ∈ merged → member = mergedMember maps key

/-- The merge with the keys in the order in which they are first declared. -/
def merge (maps : List (List (String × Member Schema))) : List (String × Member Schema) :=
  (Entries.ofList maps.flatten).map fun entry => (entry.1, mergedMember maps entry.1)

lemma keys_merge (maps : List (List (String × Member Schema))) :
    Entries.keys (merge maps) = Entries.keys (Entries.ofList maps.flatten) := by
  rw [merge, Entries.keys, List.map_map]
  rfl

/-- **There is always a merge.** -/
theorem merges_merge (maps : List (List (String × Member Schema))) : Merges maps (merge maps) where
  distinct := by
    rw [Entries.Distinct, keys_merge]
    exact Entries.distinct_ofList maps.flatten
  keys key := by
    rw [keys_merge, Entries.keys_ofList, List.mem_eraseDups, Entries.keys, List.map_flatten,
      List.mem_flatten]
    simp only [List.mem_map, exists_exists_and_eq_and]
    simp [Entries.keys]
  member key member mem := by
    obtain ⟨-, -, ⟨⟩⟩ := List.mem_map.1 mem
    rfl

namespace Merges

variable {merged : List (String × Member Schema)}

/-- A key that is declared stands in the merge. -/
lemma mem_of_mem (merges : Merges maps merged) {members : List (String × Member Schema)}
    (listed : members ∈ maps) {entry : String × Member Schema} (declared : entry ∈ members) :
    (entry.1, mergedMember maps entry.1) ∈ merged := by
  have named := (merges.keys entry.1).2 ⟨members, listed, List.mem_map.2 ⟨entry, declared, rfl⟩⟩
  obtain ⟨⟨key, member⟩, mem, rfl⟩ := List.mem_map.1 named
  rw [← merges.member _ member mem]
  exact mem

/-- The merged members ask for what the declared ones ask for. -/
lemma admits_iff (merges : Merges maps merged)
    (distinct : ∀ members ∈ maps, Entries.Distinct members) (found : String → Option Value) :
    (∀ entry ∈ merged, entry.2.Admits (found entry.1)) ↔
      ∀ members ∈ maps, ∀ entry ∈ members, entry.2.Admits (found entry.1) := by
  constructor
  · intro all members listed entry declared
    have admitted := admits_mergedMember_iff.1 (all _ (merges.mem_of_mem listed declared))
    exact admitted members listed entry.2
      (Entries.lookup_of_mem members (distinct members listed) declared)
  · rintro all ⟨key, member⟩ mem
    rw [merges.member key member mem, admits_mergedMember_iff]
    intro members listed member declared
    exact all members listed _ (Entries.mem_of_lookup declared)

/-- A merged member is required under a key if a declared one is. -/
lemma exists_required_iff (merges : Merges maps merged)
    (distinct : ∀ members ∈ maps, Entries.Distinct members) (key : String) :
    (∃ member, (key, member) ∈ merged ∧ member.required = true) ↔
      ∃ members ∈ maps, ∃ member, (key, member) ∈ members ∧ member.required = true := by
  constructor
  · rintro ⟨member, mem, required⟩
    rw [merges.member key member mem, required_mergedMember_iff] at required
    obtain ⟨members, listed, member, declared, required⟩ := required
    exact ⟨members, listed, member, Entries.mem_of_lookup declared, required⟩
  · rintro ⟨members, listed, member, declared, required⟩
    refine ⟨_, merges.mem_of_mem listed declared, required_mergedMember_iff.2 ?_⟩
    exact ⟨members, listed, member,
      Entries.lookup_of_mem members (distinct members listed) declared, required⟩

lemma accepts_eq (merges : Merges maps merged) (nonempty : maps ≠ [])
    (distinct : ∀ members ∈ maps, Entries.Distinct members) (value : Value) :
    (allOf (maps.map object)).accepts value = (object merged).accepts value := by
  rw [Bool.eq_iff_iff, accepts_allOf_iff, List.forall_mem_map]
  simp only [accepts_object_iff_admits]
  cases value with
  | object fields =>
    simp only [Value.object.injEq, exists_eq_left']
    exact (merges.admits_iff distinct (Value.present? fields)).symm
  | _ =>
    obtain ⟨members, listed⟩ := List.exists_mem_of_ne_nil maps nonempty
    simp only [reduceCtorEq, false_and, exists_false, iff_false]
    exact fun all => all members listed

lemma mem_missingKeys_iff (merges : Merges maps merged)
    (distinct : ∀ members ∈ maps, Entries.Distinct members) (value : Value) (key : String) :
    key ∈ (allOf (maps.map object)).missingKeys value ↔ key ∈ (object merged).missingKeys value := by
  rw [mem_missingKeys_allOf_iff, mem_missingKeys_object_iff]
  simp only [List.mem_map, exists_exists_and_eq_and, mem_missingKeys_object_iff,
    merges.exists_required_iff distinct]
  constructor
  · rintro ⟨members, listed, fields, same, absent, required⟩
    exact ⟨fields, same, absent, members, listed, required⟩
  · rintro ⟨fields, same, absent, members, listed, required⟩
    exact ⟨members, listed, fields, same, absent, required⟩

end Merges

end Schema

/-- **An intersection of object schemas is their merge.**  Both accept the same values, and find the same
required keys missing in a value itself. -/
theorem allOf_of_objects_is_their_merge (maps : List (List (String × Member Schema)))
    (merged : List (String × Member Schema)) (nonempty : maps ≠ [])
    (distinct : ∀ members ∈ maps, Entries.Distinct members) (merges : Schema.Merges maps merged)
    (value : Value) :
    (Schema.allOf (maps.map .object)).accepts value = (Schema.object merged).accepts value ∧
      ∀ key, key ∈ (Schema.allOf (maps.map .object)).missingKeys value ↔
        key ∈ (Schema.object merged).missingKeys value :=
  ⟨merges.accepts_eq nonempty distinct value, merges.mem_missingKeys_iff distinct value⟩

/-- Keys declared differently, a field that holds `undefined`, and a key that is required twice. -/
theorem allOf_of_objects_is_their_merge_overlapping :
    let maps : List (List (String × Member Schema)) :=
      [[("a", ⟨.primitive .string, false⟩), ("b", ⟨.primitive .null, true⟩)],
        [("c", ⟨.primitive .number, true⟩), ("b", ⟨.primitive .string, true⟩),
          ("a", ⟨.primitive .boolean, true⟩)]]
    let value := Value.object [("b", .undefined), ("a", .string "x")]
    Schema.Merges maps (Schema.merge maps) ∧
      ((Schema.merge maps).map fun entry => (entry.1, entry.2.required)) =
        [("a", true), ("b", true), ("c", true)] ∧
      (Schema.object (Schema.merge maps)).accepts value = false ∧
      (Schema.allOf (maps.map .object)).accepts value = false ∧
      (Schema.allOf (maps.map .object)).missingKeys value = ["b", "c", "b"] ∧
      (Schema.object (Schema.merge maps)).missingKeys value = ["b", "c"] ∧
      ∀ key, key ∈ (Schema.allOf (maps.map .object)).missingKeys value ↔
        key ∈ (Schema.object (Schema.merge maps)).missingKeys value := by
  intro maps value
  have merges := Schema.merges_merge maps
  obtain ⟨verdict, keys⟩ :=
    allOf_of_objects_is_their_merge maps (Schema.merge maps) (by decide) (by decide) merges value
  have rejected : (Schema.object (Schema.merge maps)).accepts value = false := by decide
  exact ⟨merges, by decide, rejected, verdict.trans rejected, by decide, by decide, keys⟩

end Conformance
