import Conformance.Proofs.Explanation.Places

/-!
# Missing keys

An explanation may say of the value itself that keys are missing in it, through any number of schemas
that are about the same value, or it may say so of a part.  `Schema.missingKeys` lists the keys of the
first kind, in the order of the explanation.

* `Schema.mem_missingKeys_iff`: unless there is a choice, **these are the keys that a demand finds
  missing**, whether it asks for a key or hands the value to another schema.
* `Schema.mem_missingKeys_object_iff` and `Schema.mem_missingKeys_allOf_iff` say the same of object
  schemas and of intersections.
* `Schema.mem_missingKeys_iff_mem_diagnosesAt`: **they are the failures of the kind one token below the
  value**.  Those about a part are further below (`Schema.length_lt_of_missing`).
-/

namespace Conformance

mutual

/-- The keys that an explanation finds missing in the value itself. -/
def Explanation.missingKeys : Explanation → List String
  | .leaf _ _ => []
  | .node _ _ since => Cause.missingKeys since
termination_by structural e => e

/-- The keys that causes find missing in the value itself. -/
def Cause.missingKeys : List Cause → List String
  | [] => []
  | .within _ _ :: rest => Cause.missingKeys rest
  | .missing key :: rest => key :: Cause.missingKeys rest
  | .same why :: rest => why.missingKeys ++ Cause.missingKeys rest
termination_by structural causes => causes

end

/-- The keys that the explanation of a value finds missing in the value itself, none if the schema
accepts it. -/
def Schema.missingKeys (schema : Schema) (value : Value) : List String :=
  match schema.explain value with
  | some e => e.missingKeys
  | none => []

/-! ## By recursion on the schema -/

/-- The keys that a demand on a value finds missing in the value itself. -/
def Demand.missingKeys : Demand → List String
  | part none schema value => schema.missingKeys value
  | part (some _) _ _ => []
  | presence key => [key]

/-- The causes find missing what the demands do. -/
lemma Cause.missingKeys_of_demands (demands : List Demand) :
    missingKeys (demands.filterMap (Demand.cause? .exhaustive)) =
      demands.flatMap Demand.missingKeys := by
  induction demands with
  | nil => rfl
  | cons demand rest ih =>
    rw [List.filterMap_cons, List.flatMap_cons, ← ih]
    cases demand with
    | part step schema value =>
      rw [Demand.cause?, ← Schema.explain_eq_rejection?]
      cases step with
      | none =>
        rw [Demand.missingKeys, Schema.missingKeys]
        cases schema.explain value <;> rfl
      | some step => cases schema.explain value <;> rfl
    | presence key => rfl

namespace Schema

/-- **Missing keys by recursion on the schema.** -/
theorem missingKeys_eq (schema : Schema) (value : Value) :
    schema.missingKeys value =
      if schema.accepts value then []
      else (schema.demands value).flatMap Demand.missingKeys := by
  rw [accepts_eq_isNone_explain, missingKeys]
  cases explained : schema.explain value with
  | none => rfl
  | some e =>
    rw [Option.isNone_some, if_neg Bool.false_ne_true, ← Cause.missingKeys_of_demands]
    rcases cases_of_explain explained with ⟨outright, rfl⟩ | ⟨-, rfl, -⟩
    · rw [demands_of_not_looksInto outright]
      rfl
    · rfl

lemma missingKeys_of_accepts {schema : Schema} {value : Value}
    (accepted : schema.accepts value = true) : schema.missingKeys value = [] := by
  rw [missingKeys_eq, if_pos accepted]

end Schema

/-- A demand that is met finds nothing missing. -/
lemma Demand.missingKeys_of_met {demand : Demand} (met : demand.met = true) :
    demand.missingKeys = [] := by
  cases demand with
  | part step schema value =>
    cases step with
    | none => exact Schema.missingKeys_of_accepts met
    | some step => rfl
  | presence key => cases met

namespace Schema

/-- **Where there is no choice, the missing keys are those that the demands find missing.** -/
theorem mem_missingKeys_iff {schema : Schema} {value : Value} {key : String}
    (noChoice : schema.isChoice = false) :
    key ∈ schema.missingKeys value ↔
      ∃ demand ∈ schema.demands value, key ∈ demand.missingKeys := by
  rw [missingKeys_eq]
  split
  · rename_i accepted
    refine iff_of_false List.not_mem_nil ?_
    rintro ⟨demand, wanted, mem⟩
    rw [Demand.missingKeys_of_met (met_of_accepts accepted noChoice wanted)] at mem
    cases mem
  · exact List.mem_flatMap

/-- What an object lacks of a required member. -/
lemma mem_missingKeys_object_iff {members : List (String × Member Schema)} {value : Value}
    {key : String} :
    key ∈ (object members).missingKeys value ↔
      ∃ fields, value = .object fields ∧ Value.present? fields key = none ∧
        ∃ member, (key, member) ∈ members ∧ member.required = true := by
  rw [mem_missingKeys_iff rfl]
  constructor
  · rintro ⟨demand, wanted, mem⟩
    cases wants_of_mem_demands wanted with
    | field declared present => cases mem
    | missing declared required absent =>
      cases List.mem_singleton.1 mem
      exact ⟨_, rfl, absent, _, declared, required⟩
  · rintro ⟨fields, rfl, absent, member, declared, required⟩
    refine ⟨.presence key, List.mem_filterMap.2 ⟨_, declared, ?_⟩, List.mem_singleton_self key⟩
    simp [Demand.ofMember?, absent, required]

/-- What one of the parts of an intersection finds missing. -/
lemma mem_missingKeys_allOf_iff {parts : List Schema} {value : Value} {key : String} :
    key ∈ (allOf parts).missingKeys value ↔ ∃ part ∈ parts, key ∈ part.missingKeys value := by
  rw [mem_missingKeys_iff rfl, demands]
  simp only [List.mem_map, exists_exists_and_eq_and]
  rfl

end Schema

/-! ## As failures -/

namespace FailureKind

lemma ofSchema_ne_missingRequiredKey (schema : Schema) : ofSchema schema ≠ missingRequiredKey := by
  cases schema <;> simp [ofSchema]

/-- A node that was looked into is no missing key. -/
lemma missing_not_mem_ownDiagnoses (path place : Pointer) (kind : FailureKind) :
    (place, missingRequiredKey) ∉ kind.ownDiagnoses path := by
  cases kind <;> simp [ownDiagnoses]

end FailureKind

namespace Schema

/-- A missing key comes from a demand. -/
lemma missing_mem_diagnosesAt_iff {schema : Schema} {value : Value} {path place : Pointer} :
    (place, .missingRequiredKey) ∈ schema.diagnosesAt path value ↔
      schema.accepts value = false ∧
        ∃ demand ∈ schema.demands value, (place, .missingRequiredKey) ∈ demand.diagnosesAt path := by
  rw [diagnosesAt_eq]
  cases schema.accepts value with
  | true => simp
  | false =>
    rw [if_neg Bool.false_ne_true]
    split
    · rw [List.mem_append, List.mem_flatMap]
      have other := FailureKind.missing_not_mem_ownDiagnoses path place (.ofSchema schema)
      simp only [other, false_or, true_and]
    · rename_i outright
      rw [demands_of_not_looksInto (Bool.eq_false_iff.2 outright)]
      simp [(FailureKind.ofSchema_ne_missingRequiredKey schema).symm]

/-- A key that is missing is reported below the value that lacks it. -/
lemma length_lt_of_missing {schema : Schema} {value : Value} {path place : Pointer}
    (mem : (place, .missingRequiredKey) ∈ schema.diagnosesAt path value) :
    path.tokens.length < place.tokens.length := by
  induction schema, value using demand_induction generalizing path with
  | weigh schema value ih =>
    obtain ⟨-, demand, wanted, mem⟩ := missing_mem_diagnosesAt_iff.1 mem
    cases demand with
    | part step inner part =>
      exact (path.prefix_along step).length_le.trans_lt (ih step inner part wanted mem)
    | presence key =>
      cases List.mem_singleton.1 mem
      simp [Pointer.push]

/-- **The keys missing in the value itself are the failures of that kind one token below it.** -/
theorem mem_missingKeys_iff_mem_diagnosesAt {path : Pointer} {schema : Schema} {value : Value}
    {key : String} :
    key ∈ schema.missingKeys value ↔
      (path.push key, .missingRequiredKey) ∈ schema.diagnosesAt path value := by
  induction schema, value using demand_induction with
  | weigh schema value ih =>
    rw [missingKeys_eq, missing_mem_diagnosesAt_iff]
    cases schema.accepts value with
    | true => simp
    | false =>
      rw [if_neg Bool.false_ne_true, List.mem_flatMap, and_iff_right rfl]
      refine exists_congr fun demand => and_congr_right fun wanted => ?_
      cases demand with
      | part step inner part =>
        cases step with
        | none => exact ih none inner part wanted
        | some step =>
          -- Whatever is missing in the part is at least two tokens below the path.
          refine iff_of_false List.not_mem_nil fun mem => ?_
          have deeper := length_lt_of_missing mem
          simp [Pointer.along, Pointer.push] at deeper
      | presence other => simp [Demand.missingKeys, Demand.diagnosesAt, Pointer.push]

end Schema

end Conformance
