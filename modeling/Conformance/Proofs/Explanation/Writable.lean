import Conformance.Explanation.Json
import Conformance.Proofs.Check.Inherited
import Conformance.Proofs.Explanation.Address
import Conformance.Proofs.Schema.Canonical
import Conformance.Proofs.Schema.Refusal

/-!
# When an explanation can be written

An explanation is written as a document or as a report, and the two fail for different reasons.

* A document names the schema of every node, that of the root first.  The parts of a schema with a wire
  form have wire forms, so that **the document fails where the schema that was checked cannot be
  written, with its error** (`Explanation.members_eq_error_iff`).
* A report names schemas in the lines about mismatches only, and these are primitives and literals.
  **It fails if one of them is a number literal that is not finite**, whatever else cannot be written
  (`Explanation.exists_report_eq_error_iff`).

A loaded schema has a wire form, so that neither fails (`explanation_writable_iff`).
-/

namespace Conformance

/-! ## Documents -/

lemma Cause.allToJson_eq_mapM (causes : List Cause) : allToJson causes = causes.mapM toJson := by
  induction causes with
  | nil => rfl
  | cons cause rest ih => rw [allToJson, ih, List.mapM_cons]; rfl

/-- The object for an explanation with those members, as a cause at a step or by itself. -/
def Cause.wrap (step : Option Step) (members : List (String × Json)) : Json :=
  .object ((step.map fun step => ("atKey", step.toJson)).toList ++ members)

lemma Cause.toJson_at (step : Option Step) (why : Explanation) :
    (Cause.at step why).toJson = why.members.map (wrap step) := by
  rw [map_eq_bind]
  cases step <;> rfl

lemma Schema.Spellable.exists_toJson {schema : Schema} (spellable : schema.Spellable) :
    ∃ j, schema.toJson = .ok j := by
  obtain ⟨wire, written⟩ := spellable
  exact ⟨wire.toJson, by rw [toJson, written, Except.map]⟩

/-- **An explanation by a schema with a wire form has a document.** -/
theorem Explanation.exists_members {schema : Schema} {value : Value} {e : Explanation}
    (spellable : schema.Spellable) (explained : schema.explain value = some e) :
    ∃ written, e.members = .ok written := by
  induction schema, value using Schema.demand_induction generalizing e with
  | weigh schema value ih =>
    obtain ⟨j, named⟩ := spellable.exists_toJson
    rcases Schema.cases_of_explain explained with ⟨-, rfl⟩ | ⟨-, rfl, -⟩
    · exact ⟨_, by rw [members, named]; rfl⟩
    · obtain ⟨js, causes⟩ : ∃ js, Cause.allToJson
          ((schema.demands value).filterMap (Demand.cause? .exhaustive)) = .ok js := by
        rw [Cause.allToJson_eq_mapM, exists_mapM_eq_ok_iff]
        intro cause mem
        rcases Cause.cases_of_mem mem with ⟨step, inner, part, why, wanted, inside, rfl⟩ | ⟨key, -, rfl⟩
        · obtain ⟨written, whole⟩ := ih step inner part wanted (spellable.of_demand wanted) inside
          exact ⟨_, by rw [Cause.toJson_at, whole]; rfl⟩
        · exact ⟨_, rfl⟩
      exact ⟨_, by rw [members, named, causes]; rfl⟩

/-- **A document fails where the schema that was checked cannot be written**, with the same error. -/
theorem Explanation.members_eq_error_iff {schema : Schema} {value : Value} {e : Explanation}
    {error : SchemaError} (explained : schema.explain value = some e) :
    e.members = .error error ↔ schema.toWire = .error error := by
  cases written : schema.toWire with
  | ok wire =>
    obtain ⟨members, whole⟩ := exists_members ⟨wire, written⟩ explained
    rw [whole]
    simp
  | error first =>
    -- The schema of the root stands before everything else that may fail.
    have named : schema.toJson = .error first := by rw [Schema.toJson, written, Except.map]
    have whole : e.members = .error first := by
      rcases Schema.cases_of_explain explained with ⟨-, rfl⟩ | ⟨-, rfl, -⟩ <;>
        rw [members, named, error_bind]
    rw [whole, Except.error.injEq, Except.error.injEq]

lemma Explanation.toJson_eq_map (e : Explanation) : e.toJson = e.members.map Json.object := by
  rw [toJson, map_eq_bind]

/-! ## Reports -/

lemma Failure.lines_eq_mapM (failures : List Failure) : lines failures = failures.mapM line := by
  induction failures with
  | nil => rfl
  | cons failure rest ih => rw [lines, ih, List.mapM_cons]; rfl

/-- A line can be written if it names no schema or one with a wire form. -/
lemma Failure.exists_line_iff {f : Failure} :
    (∃ text, f.line = .ok text) ↔ (f.kind = .typeMismatch → f.schema.Spellable) := by
  obtain ⟨path, kind, value, schema⟩ := f
  cases kind with
  | typeMismatch =>
    simp only [line, complaint, Schema.text, Schema.toJson, Schema.Spellable]
    cases schema.toWire <;> simp [Except.map]
  | _ => simp [line, complaint]

/-- The failures of an explanation by a schema with a wire form name schemas with wire forms. -/
theorem Failure.spellable_of_mem_failuresAt {schema : Schema} {value : Value} {e : Explanation}
    {path : Pointer} {f : Failure} (spellable : schema.Spellable)
    (explained : schema.explain value = some e) (mem : f ∈ e.failuresAt path) :
    f.schema.Spellable := by
  induction schema, value using Schema.demand_induction generalizing e path with
  | weigh schema value ih =>
    rcases cases_of_mem_failuresAt explained mem with
      ⟨rfl, -⟩ | ⟨key, -, rfl⟩ | ⟨step, inner, part, why, wanted, inside, mem⟩
    · exact spellable
    · exact spellable
    · exact ih step inner part wanted (spellable.of_demand wanted) inside mem

/-- A report can be written if all lines that name schemas can. -/
lemma Explanation.exists_report_iff {e : Explanation} :
    (∃ text, e.report = .ok text) ↔
      ∀ f ∈ e.failures, f.kind = .typeMismatch → f.schema.Spellable := by
  simp only [← Failure.exists_line_iff, ← exists_mapM_eq_ok_iff, ← Failure.lines_eq_mapM]
  rw [report, ← map_eq_bind]
  constructor
  · rintro ⟨text, reported⟩
    obtain ⟨lines, whole, -⟩ := map_eq_ok_iff.1 reported
    exact ⟨lines, whole⟩
  · rintro ⟨lines, whole⟩
    exact ⟨_, map_eq_ok_iff.2 ⟨lines, whole, rfl⟩⟩

/-- A mismatch of types is reported for primitives and literals only. -/
lemma Failure.form_of_mem {schema : Schema} {value : Value} {e : Explanation} {f : Failure}
    (explained : schema.explain value = some e) (mem : f ∈ e.failures)
    (kind : f.kind = .typeMismatch) :
    (∃ p, f.schema = .primitive p) ∨ ∃ scalar spelling, f.schema = .literal scalar spelling := by
  rcases holds_of_mem_failuresAt (Pointer.leads_root value) explained mem with
    ⟨part, rejects⟩ | ⟨parent, key, fields, misses⟩
  · have fits := rejects.fits
    rw [kind] at fits
    exact fits
  · rw [misses.kind] at kind
    cases kind

/-- Of primitives and literals only the numbers that are not finite have no wire form. -/
lemma Schema.not_spellable_iff_of_form {schema : Schema}
    (form : (∃ p, schema = primitive p) ∨ ∃ scalar spelling, schema = literal scalar spelling) :
    ¬ schema.Spellable ↔
      ∃ x spelling, schema = literal (.number x) spelling ∧ x.isFinite = false := by
  rcases form with ⟨p, rfl⟩ | ⟨scalar, spelling, rfl⟩
  · simp [Spellable, toWire]
  · have unwritten : ¬ (literal scalar spelling).Spellable ↔ scalar.toJson? = none := by
      rw [Spellable, toWire]
      cases scalar.toJson? <;> simp
    rw [unwritten, Scalar.toJson?_eq_none_iff]
    constructor
    · rintro ⟨x, rfl, notFinite⟩
      exact ⟨x, spelling, rfl, notFinite⟩
    · rintro ⟨x, _, ⟨⟩, notFinite⟩
      exact ⟨x, rfl, notFinite⟩

/-- The failure is that a value is not the number of a literal, and this number is infinite or
not-a-number. -/
def Failure.NamesNonFinite (f : Failure) : Prop :=
  f.kind = .typeMismatch ∧
    ∃ x spelling, f.schema = .literal (.number x) spelling ∧ x.isFinite = false

/-- **A report fails where a number literal that is not finite would have to be written.** -/
theorem Explanation.exists_report_eq_error_iff {schema : Schema} {value : Value} {e : Explanation}
    (explained : schema.explain value = some e) :
    (∃ error, e.report = .error error) ↔ ∃ f ∈ e.failures, f.NamesNonFinite := by
  rw [exists_eq_error_iff, exists_report_iff]
  push Not
  refine exists_congr fun f => and_congr_right fun mem => and_congr_right fun kind => ?_
  exact Schema.not_spellable_iff_of_form (Failure.form_of_mem explained mem kind)

/-! ## Both -/

/-- **When an explanation can be written.**  There is a document, as a value and as text, unless the
schema that was checked has no wire form, and then the error is the one of writing the schema, worded as
it is anywhere.  There is a report unless a failure names a number literal that is not finite.  A schema
that was loaded never stands in the way of either. -/
theorem explanation_writable_iff (schema : Schema) (value : Value) (e : Explanation)
    (explained : schema.explain value = some e) :
    (∀ error, (e.toJson = .error error ↔ schema.toWire = .error error) ∧
      (e.text = .error error ↔ schema.toWire = .error error)) ∧
    (∀ error, schema.toWire = .error error →
      (LoadError.defect error).message? = some error.message) ∧
    ((∃ error, e.report = .error error) ↔ ∃ f ∈ e.failures, f.NamesNonFinite) ∧
    (∀ wire, Schema.ofWire wire = .ok schema →
      (∃ text, e.text = .ok text) ∧ ∃ report, e.report = .ok report) := by
  have document (error : SchemaError) :
      e.toJson = .error error ↔ schema.toWire = .error error := by
    rw [e.toJson_eq_map, map_eq_error_iff, Explanation.members_eq_error_iff explained]
  refine ⟨fun error => ⟨document error, map_eq_error_iff.trans (document error)⟩,
    fun error failed => (schema.ofWriting_of_toWire error failed).message?_defect,
    Explanation.exists_report_eq_error_iff explained, fun wire meant => ?_⟩
  have spellable : schema.Spellable := ⟨_, Schema.toWire_of_ofWire schema wire meant⟩
  constructor
  · obtain ⟨members, whole⟩ := Explanation.exists_members spellable explained
    exact ⟨_, by rw [Explanation.text, e.toJson_eq_map, whole]; rfl⟩
  · refine Explanation.exists_report_iff.2 fun f mem _ => ?_
    exact Failure.spellable_of_mem_failuresAt spellable explained mem

/-- A required member whose key looks marked, with not-a-number for its literal: the document fails at
the key and the report at the literal. -/
theorem explanation_writable_iff_of_marked :
    let schema := Schema.object [("a?", ⟨.literal (.number .nan) .literal, true⟩)]
    ∃ e, schema.explain (.object [("a?", .null)]) = some e ∧
      e.toJson = .error (.ambiguousMember "a?") ∧ e.text = .error (.ambiguousMember "a?") ∧
      ∃ error, e.report = .error error := by
  intro schema
  have explained : schema.explain (.object [("a?", .null)]) = some _ := rfl
  refine ⟨_, explained, ?_⟩
  obtain ⟨documents, -, reports, -⟩ := explanation_writable_iff schema _ _ explained
  have unwritten : schema.toWire = .error (.ambiguousMember "a?") := rfl
  have failure : Failure.NamesNonFinite
      ⟨⟨["a?"]⟩, .typeMismatch, some .null, .literal (.number .nan) .literal⟩ :=
    ⟨rfl, .nan, .literal, rfl, rfl⟩
  exact ⟨(documents _).1.2 unwritten, (documents _).2.2 unwritten,
    reports.2 ⟨_, List.mem_cons_self, failure⟩⟩

end Conformance
