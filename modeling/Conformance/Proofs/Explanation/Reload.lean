import Conformance.Proofs.Check.Depth
import Conformance.Proofs.Check.Reload
import Conformance.Proofs.Explanation.Writable

/-!
# Explanations by reloaded schemas

The explanations of a schema and of the schema that is read back from its wire form differ in the
schemas that they name, and these differ in the signs of zeros.  **Nothing that is written from an
explanation shows the difference**, since a schema is written by its wire form (`toWire_unsignZeros`):
the documents are the same, the failures are the same but for their schemas, and so are the reports.

All of these can be written, since the schema that was checked has a wire form
(`Proofs/Explanation/Writable`).
-/

namespace Conformance

/-! ## The same documents -/

lemma Schema.toJson_unsignZeros (schema : Schema) : schema.unsignZeros.toJson = schema.toJson := by
  rw [toJson, toJson, toWire_unsignZeros]

mutual

theorem Explanation.members_unsignZeros : ∀ e : Explanation, e.unsignZeros.members = e.members
  | .leaf value isNot => by
    rw [Explanation.unsignZeros, Explanation.members, Explanation.members,
      Schema.toJson_unsignZeros]
  | .node value isNot since => by
    rw [Explanation.unsignZeros, Explanation.members, Explanation.members,
      Schema.toJson_unsignZeros, Cause.allToJson_unsignZeros since]

theorem Cause.allToJson_unsignZeros :
    ∀ causes : List Cause, Cause.allToJson (Cause.unsignZerosAll causes) = Cause.allToJson causes
  | [] => rfl
  | cause :: rest => by
    rw [Cause.unsignZerosAll, Cause.allToJson, Cause.allToJson, Cause.toJson_unsignZeros cause,
      Cause.allToJson_unsignZeros rest]

theorem Cause.toJson_unsignZeros : ∀ cause : Cause, cause.unsignZeros.toJson = cause.toJson
  | .within step why => by
    rw [Cause.unsignZeros, Cause.toJson, Cause.toJson, Explanation.members_unsignZeros why]
  | .missing key => rfl
  | .same why => by
    rw [Cause.unsignZeros, Cause.toJson, Cause.toJson, Explanation.members_unsignZeros why]

end

lemma Explanation.toJson_unsignZeros (e : Explanation) : e.unsignZeros.toJson = e.toJson := by
  rw [toJson, toJson, members_unsignZeros]

/-! ## The same failures -/

/-- The failure with `Schema.unsignZeros` applied to its schema. -/
def Failure.unsignZeros (failure : Failure) : Failure :=
  { failure with schema := failure.schema.unsignZeros }

lemma Failure.ofRejection_unsignZeros (path : Pointer) (value : Value) (schema : Schema) :
    ofRejection path value schema.unsignZeros = (ofRejection path value schema).unsignZeros := by
  cases schema <;> rfl

lemma Failure.ofNode_unsignZeros (path : Pointer) (value : Value) (schema : Schema) :
    ofNode path value schema.unsignZeros = (ofNode path value schema).map unsignZeros := by
  cases schema <;> rfl

mutual

theorem Explanation.failuresAt_unsignZeros : ∀ (e : Explanation) (path : Pointer),
    e.unsignZeros.failuresAt path = (e.failuresAt path).map Failure.unsignZeros
  | .leaf value isNot, path => by
    rw [Explanation.unsignZeros, Explanation.failuresAt, Explanation.failuresAt,
      Failure.ofRejection_unsignZeros, List.map_singleton]
  | .node value isNot since, path => by
    rw [Explanation.unsignZeros, Explanation.failuresAt, Explanation.failuresAt,
      Failure.ofNode_unsignZeros, Cause.failuresAt_unsignZeros since, List.map_append]

theorem Cause.failuresAt_unsignZeros : ∀ (causes : List Cause) (path : Pointer) (isNot : Schema),
    Cause.failuresAt path isNot.unsignZeros (Cause.unsignZerosAll causes) =
      (Cause.failuresAt path isNot causes).map Failure.unsignZeros
  | [], _, _ => rfl
  | .within step why :: rest, path, isNot => by
    rw [Cause.unsignZerosAll, Cause.unsignZeros, Cause.failuresAt, Cause.failuresAt,
      Explanation.failuresAt_unsignZeros why, Cause.failuresAt_unsignZeros rest, List.map_append]
  | .missing key :: rest, path, isNot => by
    rw [Cause.unsignZerosAll, Cause.unsignZeros, Cause.failuresAt, Cause.failuresAt,
      Cause.failuresAt_unsignZeros rest, List.map_cons, Failure.unsignZeros]
  | .same why :: rest, path, isNot => by
    rw [Cause.unsignZerosAll, Cause.unsignZeros, Cause.failuresAt, Cause.failuresAt,
      Explanation.failuresAt_unsignZeros why, Cause.failuresAt_unsignZeros rest, List.map_append]

end

lemma Explanation.failures_unsignZeros (e : Explanation) :
    e.unsignZeros.failures = e.failures.map Failure.unsignZeros :=
  e.failuresAt_unsignZeros .root

/-! ## The same reports -/

lemma Failure.line_unsignZeros (failure : Failure) : failure.unsignZeros.line = failure.line := by
  rw [line, line, complaint, complaint, Schema.text, Schema.text, unsignZeros,
    Schema.toJson_unsignZeros]

lemma Failure.lines_unsignZeros (failures : List Failure) :
    lines (failures.map unsignZeros) = lines failures := by
  induction failures with
  | nil => rfl
  | cons failure rest ih => rw [List.map_cons, lines, lines, line_unsignZeros, ih]

lemma Explanation.report_unsignZeros (e : Explanation) : e.unsignZeros.report = e.report := by
  rw [report, report, failures_unsignZeros, Failure.lines_unsignZeros]

/-! ## The same answers -/

/-- What a failure says apart from the schema that it names. -/
def Failure.finding (f : Failure) : Pointer × FailureKind × Option Value :=
  (f.path, f.kind, f.value)

/-- Two explanations that are written alike. -/
structure Explanation.ReadsLike (e e' : Explanation) : Prop where
  document : ∃ j, e.toJson = .ok j ∧ e'.toJson = .ok j
  findings : e.failures.map Failure.finding = e'.failures.map Failure.finding
  report : ∃ text, e.report = .ok text ∧ e'.report = .ok text

/-- Two answers of a validator: both are the same error, or no explanation, or explanations that are
written alike. -/
inductive SameAnswer : (answer answer' : Except CheckError (Option Explanation)) → Prop
  | error (e : CheckError) : SameAnswer (.error e) (.error e)
  | accepted : SameAnswer (.ok none) (.ok none)
  | rejected {e e' : Explanation} (alike : e.ReadsLike e') :
    SameAnswer (.ok (some e)) (.ok (some e'))

lemma Explanation.readsLike_unsignZeros {schema : Schema} {value : Value} {e : Explanation}
    (spellable : schema.Spellable) (explained : schema.explain value = some e) :
    e.unsignZeros.ReadsLike e where
  document := by
    obtain ⟨written, whole⟩ := exists_members spellable explained
    have document : e.toJson = .ok (.object written) := by rw [toJson, whole, ok_bind]
    exact ⟨_, by rw [toJson_unsignZeros, document], document⟩
  findings := by
    rw [failures_unsignZeros, List.map_map]
    rfl
  report := by
    obtain ⟨text, reported⟩ := exists_report_iff.2 fun f mem _ =>
      Failure.spellable_of_mem_failuresAt spellable explained mem
    exact ⟨text, by rw [report_unsignZeros, reported], reported⟩

/-- What a validator explains is explained without a limit. -/
lemma Validator.explain_of_explain {validator : Validator} {schema : Schema} {value : Value}
    {why : Option Explanation} (explained : validator.explain schema value = .ok why) :
    schema.explain value = why := by
  rw [explain, check] at explained
  split at explained
  · rw [schema.check_maxDepth, within] at explained
    split at explained
    · exact Except.ok.inj explained
    · cases explained
  · exact Except.ok.inj explained

/-- **Reloading a schema never changes what it says.**  Under every limit the schema that is read back
from the wire form gives the verdicts of the original, and explanations that are written alike. -/
theorem reload_keeps_answers {schema : Schema} (wellFormed : schema.WellFormed) {wire : WireSchema}
    (written : schema.toWire = .ok wire) :
    ∃ reloaded, Schema.ofWire wire = .ok reloaded ∧ ∀ (validator : Validator) (value : Value),
      validator.accepts reloaded value = validator.accepts schema value ∧
        SameAnswer (validator.explain reloaded value) (validator.explain schema value) := by
  refine ⟨schema.unsignZeros, Schema.ofWire_of_toWire schema wire wellFormed written, ?_⟩
  intro validator value
  refine ⟨validator.accepts_unsignZeros schema value, ?_⟩
  rw [validator.explain_unsignZeros]
  cases answer : validator.explain schema value with
  | error e => exact .error e
  | ok why =>
    cases why with
    | none => exact .accepted
    | some e =>
      have explained := Validator.explain_of_explain answer
      exact .rejected (Explanation.readsLike_unsignZeros ⟨wire, written⟩ explained)

/-- A choice of a negative zero, which comes back as the positive one, and of arrays. -/
theorem reload_keeps_answers_zero :
    let schema := Schema.oneOf [.literal (.number (.finite (.zero true))) .literal,
      .arrayOf (.arrayOf (.primitive .null))]
    let wire := (Content.oneOf [
      (Content.literal .literal (.number (.integer 0 (by decide)))).alone,
      (Content.arrayOf (Content.arrayOf (.bare "null")).alone).alone]).alone
    schema.WellFormed ∧ schema.toWire = .ok wire ∧
      ∃ reloaded, Schema.ofWire wire = .ok reloaded ∧ ∀ (validator : Validator) (value : Value),
        validator.accepts reloaded value = validator.accepts schema value ∧
          SameAnswer (validator.explain reloaded value) (validator.explain schema value) := by
  intro schema wire
  have wellFormed : schema.WellFormed := ⟨trivial, trivial, trivial⟩
  have written : schema.toWire = .ok wire := rfl
  exact ⟨wellFormed, written, reload_keeps_answers wellFormed written⟩

end Conformance
