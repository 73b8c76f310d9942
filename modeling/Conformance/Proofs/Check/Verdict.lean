import Conformance.Proofs.Check.Depth

/-!
# Verdicts

Whether a schema accepts a value is put together from the verdicts on its demands, with no mode, no
order and no early end left: **a choice wants one of its demands to be met and everything else wants
all of them** (`Schema.accepts_eq`).

* `accepts_object_iff`, `accepts_oneOf_iff`, `accepts_allOf_iff` and `accepts_arrayOf_iff` say the same
  form by form.
* `Validator.check_eq`: a validator has the result that there is without a limit, or none at all if the
  check does not fit its limit (`Validator.fits`).
-/

namespace Conformance

namespace Schema

/-- **The verdict of a schema follows from the verdicts on its demands.** -/
theorem accepts_eq (schema : Schema) (value : Value) :
    schema.accepts value =
      if schema.looksInto value then
        if schema.isChoice then (schema.demands value).any Demand.met
        else (schema.demands value).all Demand.met
      else schema.acceptsOutright value := by
  rw [accepts_eq_isNone_explain, explain_eq_rejection?, rejection?_eq, conclusion]
  split
  · split
    · have unmet : ((schema.demands value).all fun demand =>
          (demand.cause? .exhaustive).isSome) = !(schema.demands value).any Demand.met := by
        rw [List.not_any_eq_all_not]
        congr 1
        funext demand
        rw [demand.met_eq_isNone_cause? .exhaustive, Option.not_isNone]
      rw [unmet]
      cases (schema.demands value).any Demand.met <;> rfl
    · rw [Bool.eq_iff_iff, List.all_eq_true, Mode.keep]
      simp only [fun demand : Demand => demand.met_eq_isNone_cause? .exhaustive,
        Option.isNone_iff_eq_none]
      rw [← List.filterMap_eq_nil_iff]
      cases (schema.demands value).filterMap (Demand.cause? .exhaustive) with
      | nil => simp [conclude]
      | cons cause rest => simp [conclude]
  · cases schema.acceptsOutright value <;> rfl

/-- All demands of an accepted value are met, unless there is a choice between them. -/
lemma met_of_accepts {schema : Schema} {value : Value} {demand : Demand}
    (accepted : schema.accepts value = true) (noChoice : schema.isChoice = false)
    (wanted : demand ∈ schema.demands value) : demand.met = true := by
  rw [accepts_eq, noChoice] at accepted
  split at accepted
  · exact List.all_eq_true.1 accepted demand wanted
  · rename_i outright
    rw [demands_of_not_looksInto (Bool.eq_false_iff.2 outright)] at wanted
    cases wanted

/-! ## Form by form -/

lemma accepts_primitive (p : Primitive) (value : Value) :
    (primitive p).accepts value = p.accepts value :=
  accepts_eq _ _

lemma accepts_literal (scalar : Scalar) (spelling : LiteralSpelling) (value : Value) :
    (literal scalar spelling).accepts value = scalar.accepts value :=
  accepts_eq _ _

/-- An object schema accepts objects.  A member that is not required may be absent, and a field that
is present is to be accepted. -/
lemma accepts_object_iff {members : List (String × Member Schema)} {value : Value} :
    (object members).accepts value = true ↔
      ∃ fields, value = .object fields ∧ ∀ member ∈ members,
        (Value.present? fields member.1 = none ∧ member.2.required = false) ∨
          ∃ field, Value.present? fields member.1 = some field ∧
            member.2.schema.accepts field = true := by
  cases value with
  | object fields =>
    have verdict : (object members).accepts (.object fields) =
        (members.filterMap (Demand.ofMember? fields)).all Demand.met := accepts_eq _ _
    rw [verdict, List.all_filterMap, List.all_eq_true]
    simp only [Value.object.injEq, exists_eq_left']
    refine forall₂_congr fun member _ => ?_
    rw [Demand.ofMember?]
    cases Value.present? fields member.1 with
    | none => cases member.2.required <;> simp [Demand.met]
    | some field => simp [Demand.met]
  | _ => simp [accepts_eq, looksInto, acceptsOutright]

lemma accepts_oneOf_iff {alternatives : List Schema} {value : Value} :
    (oneOf alternatives).accepts value = true ↔
      ∃ alternative ∈ alternatives, alternative.accepts value = true := by
  have verdict : (oneOf alternatives).accepts value =
      (alternatives.map (Demand.ofSame value)).any Demand.met := accepts_eq _ _
  rw [verdict, List.any_map, List.any_eq_true]
  rfl

lemma accepts_allOf_iff {parts : List Schema} {value : Value} :
    (allOf parts).accepts value = true ↔ ∀ part ∈ parts, part.accepts value = true := by
  have verdict : (allOf parts).accepts value =
      (parts.map (Demand.ofSame value)).all Demand.met := accepts_eq _ _
  rw [verdict, List.all_map, List.all_eq_true]
  rfl

lemma accepts_arrayOf_iff {element : Schema} {value : Value} :
    (arrayOf element).accepts value = true ↔
      ∃ elements, value = .array elements ∧ ∀ x ∈ elements, element.accepts x = true := by
  cases value with
  | array elements =>
    have verdict : (arrayOf element).accepts (.array elements) =
        (elements.zipIdx.map (Demand.ofElement element)).all Demand.met := accepts_eq _ _
    have indices : elements.zipIdx.all (Demand.met ∘ Demand.ofElement element) =
        (elements.zipIdx.map Prod.fst).all element.accepts := by
      rw [List.all_map]
      rfl
    rw [verdict, List.all_map, indices, List.zipIdx_map_fst, List.all_eq_true]
    simp
  | _ => simp [accepts_eq, looksInto, acceptsOutright]

end Schema

/-! ## Under a limit -/

namespace Validator

/-- Whether a check stays within the validator's limit. -/
def fits (validator : Validator) (mode : Mode) (schema : Schema) (value : Value) : Bool :=
  match validator.maxDepth with
  | some n => decide (schema.visitedDepth mode value ≤ n)
  | none => true

/-- **A limit leaves the result of a check as it is, or there is none.** -/
theorem check_eq (validator : Validator) (mode : Mode) (schema : Schema) (value : Value) :
    validator.check mode schema value =
      if validator.fits mode schema value then .ok (schema.rejection? mode value)
      else .error .maxDepthExceeded := by
  rw [check, fits]
  cases validator.maxDepth with
  | some n =>
    dsimp only
    rw [schema.check_maxDepth, Nat.zero_add, within]
    simp only [decide_eq_true_eq]
  | none => rfl

lemma accepts_eq (validator : Validator) (schema : Schema) (value : Value) :
    validator.accepts schema value =
      if validator.fits .failFast schema value then .ok (schema.accepts value)
      else .error .maxDepthExceeded := by
  rw [accepts, check_eq]
  split <;> rfl

lemma explain_eq (validator : Validator) (schema : Schema) (value : Value) :
    validator.explain schema value =
      if validator.fits .exhaustive schema value then .ok (schema.explain value)
      else .error .maxDepthExceeded :=
  validator.check_eq .exhaustive schema value

end Validator

end Conformance
