import Conformance.Proofs.Check.Verdict
import Conformance.Proofs.Explanation.Address

/-!
# Failures of checks

The failures of a value are listed by walking through its explanation.  This file says the same of the
schema and the value, without the explanation between them (`Schema.failuresAt_eq`): **a rejected value
that is not looked into is one failure, and any other one has the failures of its demands**, after its
own if it is rejected by a choice or an intersection.

The *diagnosis* of a failure is where something is wrong and of what kind it is, without the rejected
part and its schema.  `Schema.diagnosesAt_eq` is the recursion for diagnoses, in which only
`Schema.looksInto` and `FailureKind.ofSchema` are left of the schema.
-/

namespace Conformance

/-! ## Failures by recursion -/

/-- The failures of a value at a path, none if the schema accepts it. -/
def Schema.failuresAt (path : Pointer) (schema : Schema) (value : Value) : List Failure :=
  match schema.explain value with
  | some e => e.failuresAt path
  | none => []

/-- The failures at a demand of a schema for a value at a path. -/
def Demand.failuresAt (path : Pointer) (isNot : Schema) : Demand → List Failure
  | part step schema value => schema.failuresAt (path.along step) value
  | presence key => [⟨path.push key, .missingRequiredKey, none, isNot⟩]

lemma Demand.failuresAt_eq (path : Pointer) (isNot : Schema) (demand : Demand) :
    demand.failuresAt path isNot =
      ((demand.cause? .exhaustive).map (Cause.failures path isNot)).getD [] := by
  cases demand with
  | part step schema value =>
    rw [failuresAt, cause?, ← Schema.explain_eq_rejection?, Schema.failuresAt]
    cases schema.explain value with
    | none => rfl
    | some why => exact (Cause.failures_at path isNot step why).symm
  | presence key => rfl

/-- The failures of the causes are those of the demands. -/
lemma Cause.failuresAt_of_demands (path : Pointer) (isNot : Schema) (demands : List Demand) :
    failuresAt path isNot (demands.filterMap (Demand.cause? .exhaustive)) =
      demands.flatMap (Demand.failuresAt path isNot) := by
  rw [failuresAt_eq_flatMap]
  induction demands with
  | nil => rfl
  | cons demand rest ih =>
    rw [List.filterMap_cons, List.flatMap_cons, demand.failuresAt_eq, ← ih]
    cases demand.cause? .exhaustive <;> rfl

/-- **Failures by recursion on the schema.** -/
theorem Schema.failuresAt_eq (path : Pointer) (schema : Schema) (value : Value) :
    schema.failuresAt path value =
      if schema.accepts value then []
      else if schema.looksInto value then
        Failure.ofNode path value schema ++
          (schema.demands value).flatMap (Demand.failuresAt path schema)
      else [.ofRejection path value schema] := by
  rw [accepts_eq_isNone_explain, failuresAt]
  cases explained : schema.explain value with
  | none => rfl
  | some e =>
    rw [Option.isNone_some, if_neg Bool.false_ne_true]
    rcases cases_of_explain explained with ⟨outright, rfl⟩ | ⟨looks, rfl, -⟩
    · rw [outright, if_neg Bool.false_ne_true]
      rfl
    · rw [if_pos looks, ← Cause.failuresAt_of_demands]
      rfl

/-! ## Diagnoses -/

/-- Where something is wrong, and of what kind it is. -/
def Failure.diagnosis (failure : Failure) : Pointer × FailureKind :=
  (failure.path, failure.kind)

/-- The diagnoses of a value at a path, in the order of the failures. -/
def Schema.diagnosesAt (path : Pointer) (schema : Schema) (value : Value) :
    List (Pointer × FailureKind) :=
  (schema.failuresAt path value).map Failure.diagnosis

/-- The diagnoses of a value: where and how it fails, in the order of the failures of its
explanation. -/
def Schema.diagnoses (schema : Schema) (value : Value) : List (Pointer × FailureKind) :=
  schema.diagnosesAt .root value

/-- The diagnoses at a demand for a value at a path. -/
def Demand.diagnosesAt (path : Pointer) : Demand → List (Pointer × FailureKind)
  | part step schema value => schema.diagnosesAt (path.along step) value
  | presence key => [(path.push key, .missingRequiredKey)]

/-- The diagnosis of a node that was looked into, if it counts as a failure. -/
def FailureKind.ownDiagnoses (path : Pointer) : FailureKind → List (Pointer × FailureKind)
  | noAlternativeMatched => [(path, noAlternativeMatched)]
  | intersectionMemberFailed => [(path, intersectionMemberFailed)]
  | _ => []

lemma Failure.map_diagnosis_ofNode (path : Pointer) (value : Value) (schema : Schema) :
    (ofNode path value schema).map diagnosis = (FailureKind.ofSchema schema).ownDiagnoses path := by
  cases schema <;> rfl

lemma Demand.map_diagnosis_failuresAt (path : Pointer) (isNot : Schema) (demand : Demand) :
    (demand.failuresAt path isNot).map Failure.diagnosis = demand.diagnosesAt path := by
  cases demand <;> rfl

/-- **Diagnoses by recursion on the schema.** -/
theorem Schema.diagnosesAt_eq (path : Pointer) (schema : Schema) (value : Value) :
    schema.diagnosesAt path value =
      if schema.accepts value then []
      else if schema.looksInto value then
        (FailureKind.ofSchema schema).ownDiagnoses path ++
          (schema.demands value).flatMap (Demand.diagnosesAt path)
      else [(path, .ofSchema schema)] := by
  rw [diagnosesAt, failuresAt_eq]
  split
  · rfl
  · split
    · rw [List.map_append, List.map_flatMap, Failure.map_diagnosis_ofNode]
      simp only [Demand.map_diagnosis_failuresAt]
    · rfl

end Conformance
