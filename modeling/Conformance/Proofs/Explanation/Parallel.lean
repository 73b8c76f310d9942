import Conformance.Proofs.Check.Fields
import Conformance.Proofs.Explanation.Writable

/-!
# What is written for judgements side by side

Judgements that correspond in order (`ParallelInOrder`) have explanations of the same shape.  If besides
every two schemas and every two values that correspond are spelled alike (`SpelledAlike`), then
**nothing that is written for the explanations shows a difference**: neither the documents nor the
reports, nor the errors when there is none (`ParallelInOrder.map_written_eq`).

A value and its compact form are the example (`undefined_counts_as_absent`).  That a field holds
`undefined` and that it is absent comes to the same at four places: for a check, for the document of a
value, for the document of an explanation and for a report.
-/

namespace Conformance

/-- What is written for an explanation: the document and the report, or why there is none. -/
def Explanation.written (e : Explanation) : Except SchemaError Json × Except SchemaError String :=
  (e.toJson, e.report)

/-- Related judgements are about schemas and values that are spelled alike in explanations. -/
structure SpelledAlike (R : JudgementRel) : Prop where
  schemas : ∀ {schema value other otherValue}, R schema value other otherValue →
    schema.toJson = other.toJson
  values : ∀ {schema value other otherValue}, R schema value other otherValue →
    Explanation.valueMember value = Explanation.valueMember otherValue
  lines : ObservedAlike R Failure.line

/-! ## Documents -/

lemma Demand.map_toJson_cause? (step : Option Step) (schema : Schema) (value : Value) :
    ((part step schema value).cause? .exhaustive).map Cause.toJson =
      ((schema.explain value).map Explanation.members).map (Except.map (Cause.wrap step)) := by
  rw [cause?, ← Schema.explain_eq_rejection?, Option.map_map, Option.map_map]
  congr 1
  funext why
  exact Cause.toJson_at step why

section Parallel

variable {R : JudgementRel} {schema other : Schema} {value otherValue : Value}

/-- **Explanations of related judgements have the same members**, where schemas and values are spelled
alike. -/
theorem ParallelInOrder.map_members_eq (parallel : ParallelInOrder R) (alike : SpelledAlike R)
    (related : R schema value other otherValue) :
    (schema.explain value).map Explanation.members =
      (other.explain otherValue).map Explanation.members := by
  induction schema, value using Schema.demand_induction generalizing other otherValue with
  | weigh schema value ih =>
    have each : List.Forall₂
        (fun demand demand' => (demand.cause? .exhaustive).map Cause.toJson =
          (demand'.cause? .exhaustive).map Cause.toJson)
        (schema.demands value) (other.demands otherValue) := by
      refine forall₂_imp_of_mem (parallel.demands related) fun demand mem demand' _ corresponds => ?_
      cases corresponds with
      | part step inside =>
        rw [Demand.map_toJson_cause?, Demand.map_toJson_cause?, ih step _ _ mem inside]
      | presence key => rfl
    have since : Cause.allToJson ((schema.demands value).filterMap (Demand.cause? .exhaustive)) =
        Cause.allToJson ((other.demands otherValue).filterMap (Demand.cause? .exhaustive)) := by
      rw [Cause.allToJson_eq_mapM, Cause.allToJson_eq_mapM]
      apply mapM_eq_mapM_of_map_eq
      rw [List.map_filterMap, List.map_filterMap]
      exact filterMap_eq_filterMap_of_forall₂ each
    have verdict := parallel.parallel.accepts_eq related
    have looks := (parallel.outside related).looks
    rw [Schema.accepts_eq_isNone_explain, Schema.accepts_eq_isNone_explain] at verdict
    cases explained : schema.explain value <;> cases explained' : other.explain otherValue
    case none.none => rfl
    case some.some e f =>
      refine congrArg some ?_
      rcases Schema.cases_of_explain explained with ⟨outright, rfl⟩ | ⟨looked, rfl, -⟩ <;>
      rcases Schema.cases_of_explain explained' with ⟨outright', rfl⟩ | ⟨looked', rfl, -⟩
      · rw [Explanation.members, Explanation.members, alike.schemas related, alike.values related]
      · rw [looks, looked'] at outright
        cases outright
      · rw [looks, outright'] at looked
        cases looked
      · rw [Explanation.members, Explanation.members, alike.schemas related, alike.values related,
          since]
    all_goals
      rw [explained, explained'] at verdict
      cases verdict

/-! ## Reports -/

/-- **Nothing that is written tells related judgements apart**, where schemas and values are spelled
alike. -/
theorem ParallelInOrder.map_written_eq (parallel : ParallelInOrder R) (alike : SpelledAlike R)
    (related : R schema value other otherValue) :
    (schema.explain value).map Explanation.written =
      (other.explain otherValue).map Explanation.written := by
  have members := parallel.map_members_eq alike related
  have lines := parallel.map_failures_eq alike.lines related
  cases explained : schema.explain value <;> cases explained' : other.explain otherValue <;>
    rw [explained, explained'] at members lines
  case some.some e f =>
    have members := Option.some.inj members
    have lines := mapM_eq_mapM_of_map_eq (Option.some.inj lines)
    simp only [Option.map_some, Explanation.written, Explanation.toJson, Explanation.report,
      Failure.lines_eq_mapM, members, lines]
  all_goals cases members

end Parallel

/-! ## Fields without a value -/

lemma Explanation.valueMember_compact (value : Value) :
    valueMember value.compact = valueMember value := by
  rw [valueMember, valueMember, Value.isUndefined_compact, Value.toJson_compact]

/-- The compact form of a rejected value shows in no line of a report. -/
lemma Failure.line_compact (path : Pointer) (value : Value) (schema : Schema) :
    (ofRejection path value.compact schema).line = (ofRejection path value schema).line := by
  cases schema <;>
    simp only [line, complaint, ofRejection, FailureKind.ofSchema, Option.map_some,
      Option.getD_some, Value.typeName_compact, Value.display_compact]

/-- A value next to its compact form, before the same schema. -/
abbrev ForCompact : JudgementRel :=
  ForRestricted fun _ content => !content.isUndefined

lemma ForCompact.of_wellFormed (schema : Schema) {value : Value} (wellFormed : value.WellFormed) :
    ForCompact schema value schema value.compact := by
  refine ⟨rfl, wellFormed, ?_, rfl⟩
  intro name _ content held
  simp only [held, Bool.not_false]

lemma spelledAlike_forCompact : SpelledAlike ForCompact where
  schemas := by
    rintro schema value other otherValue ⟨rfl, -, -, -⟩
    rfl
  values := by
    rintro schema value other otherValue ⟨-, -, -, rfl⟩
    exact (Explanation.valueMember_compact value).symm
  lines := by
    constructor
    · rintro schema value other otherValue ⟨rfl, -, -, rfl⟩ path
      exact (Failure.line_compact path value schema).symm
    · rintro schema value other otherValue ⟨rfl, -, -, -⟩ path
      rfl

/-- **A field that holds `undefined` is not told from an absent one.**  If all such fields are dropped,
at every depth, then under every limit the verdict and the written explanation are the same, or the
check is given up as before; and a value that is returned is the one with the fields dropped. -/
theorem undefined_counts_as_absent (validator : Validator) (schema : Schema) (value : Value)
    (wellFormed : value.WellFormed) :
    validator.accepts schema value.compact = validator.accepts schema value ∧
      validator.coerce? schema value.compact =
        (validator.coerce? schema value).map (Option.map Value.compact) ∧
      (validator.explain schema value.compact).map (Option.map Explanation.written) =
        (validator.explain schema value).map (Option.map Explanation.written) := by
  have related := ForCompact.of_wellFormed schema wellFormed
  have parallel : ParallelInOrder ForCompact := parallelInOrder_forRestricted _
  have verdict : validator.accepts schema value.compact = validator.accepts schema value := by
    rw [validator.accepts_eq, validator.accepts_eq, parallel.fits_eq validator .failFast related,
      parallel.parallel.accepts_eq related]
  refine ⟨verdict, ?_, ?_⟩
  · rw [Validator.coerce?, Validator.coerce?, verdict]
    cases validator.accepts schema value with
    | error e => rfl
    | ok accepted => cases accepted <;> rfl
  · have written := parallel.map_written_eq spelledAlike_forCompact related
    rw [validator.explain_eq, validator.explain_eq, parallel.fits_eq validator .exhaustive related]
    split
    · exact congrArg Except.ok written.symm
    · rfl

/-- Inside an array, an object is compacted and a bare `undefined` stays.  A limit of three is enough
for the check, which rejects both. -/
theorem undefined_counts_as_absent_in_array :
    let validator : Validator := ⟨some 3⟩
    let schema := Schema.arrayOf (.object [("a", ⟨.primitive .string, true⟩)])
    let value := Value.array [.object [("b", .undefined), ("a", .object [("c", .undefined)])],
      .undefined]
    value.compact = .array [.object [("a", .object [])], .undefined] ∧
      validator.accepts schema value = .ok false ∧
      validator.accepts schema value.compact = validator.accepts schema value ∧
      validator.coerce? schema value.compact =
        (validator.coerce? schema value).map (Option.map Value.compact) ∧
      (validator.explain schema value.compact).map (Option.map Explanation.written) =
        (validator.explain schema value).map (Option.map Explanation.written) := by
  intro validator schema value
  have wellFormed : value.WellFormed := by
    simp [value, Value.WellFormed, Value.WellFormedFields, Value.WellFormedElements,
      Entries.Distinct]
  exact ⟨rfl, rfl, undefined_counts_as_absent validator schema value wellFormed⟩

end Conformance
