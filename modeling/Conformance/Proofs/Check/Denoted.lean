import Conformance.Proofs.Binary64.Value
import Conformance.Proofs.Check.Verdict
import Conformance.Proofs.Pointer.Following
import Conformance.Proofs.Schema.Parts
import Mathlib.Data.Set.Lattice

/-!
# What schemas denote

A schema denotes a set of values (`Schema.denoted`), by recursion on the schema alone: **a choice is
the union of its alternatives and an intersection that of its parts**; objects and arrays are described
by what holds of each member and each element.  Nothing in this has an order, an early end or a cause.

A check accepts what the schema denotes (`mem_denoted_iff`), form by form from the verdicts of
`Proofs/Check/Verdict`.  `accepts_iff_mem_denoted` puts this together with what is handed back for a
value, with and without a limit.
-/

namespace Conformance

/-- A value is of the scalar's kind and has an equal content. -/
inductive Scalar.Matches : Scalar → Value → Prop
  | string (s : String) : Matches (.string s) (.string s)
  | number {x y : Binary64} (equal : x.Equal y) : Matches (.number x) (.number y)
  | bool (b : Bool) : Matches (.bool b) (.bool b)
  | bigInt (n : Int64) : Matches (.bigInt n) (.bigInt n)

lemma Scalar.accepts_iff_matches {scalar : Scalar} {value : Value} :
    scalar.accepts value = true ↔ scalar.Matches value := by
  constructor
  · intro accepted
    cases scalar <;> cases value
    case string.string s t => rw [eq_of_beq (a := s) accepted]; exact .string t
    case number.number x y => exact .number (Binary64.beq_iff_equal.1 accepted)
    case bool.bool a b => rw [eq_of_beq (a := a) accepted]; exact .bool b
    case bigInt.bigInt m n => rw [eq_of_beq (a := m) accepted]; exact .bigInt n
    all_goals cases accepted
  · intro hit
    cases hit with
    | string s => exact beq_self_eq_true s
    | number equal => exact Binary64.beq_iff_equal.2 equal
    | bool b => exact beq_self_eq_true b
    | bigInt n => exact beq_self_eq_true n

/-- A key is absent from fields: there is no such field, or it holds `undefined`. -/
def Value.Absent (fields : List (String × Value)) (key : String) : Prop :=
  fields.lookup key = none ∨ fields.lookup key = some .undefined

/-- A key is present in fields with a content other than `undefined`. -/
def Value.Holds (fields : List (String × Value)) (key : String) (content : Value) : Prop :=
  fields.lookup key = some content ∧ content ≠ .undefined

lemma Value.present?_eq_some_iff {fields : List (String × Value)} {key : String}
    {content : Value} : present? fields key = some content ↔ Holds fields key content := by
  rw [present?, Option.filter_eq_some_iff, Holds]
  cases content <;> simp [isUndefined]

namespace Schema

/-- The set of values that a schema describes. -/
def denoted : Schema → Set Value
  | primitive p => {value | value.typeName = p.name}
  | literal scalar _ => {value | scalar.Matches value}
  | object members => {value | ∃ fields, value = .object fields ∧ ∀ member ∈ members,
      (Value.Absent fields member.1 ∧ member.2.required = false) ∨
        ∃ content, Value.Holds fields member.1 content ∧ content ∈ denoted member.2.schema}
  | oneOf alternatives => ⋃ alternative ∈ alternatives, denoted alternative
  | allOf parts => ⋂ part ∈ parts, denoted part
  | arrayOf element => {value | ∃ elements, value = .array elements ∧
      ∀ x ∈ elements, x ∈ denoted element}
termination_by schema => schema.height
decreasing_by
  · have := height_le_heightMembers ‹_ ∈ members›
    rw [height]
    omega
  · have := height_le_heightAll ‹_ ∈ alternatives›
    rw [height]
    omega
  · have := height_le_heightAll ‹_ ∈ parts›
    rw [height]
    omega
  · rw [height]
    omega

lemma mem_denoted_object_iff {members : List (String × Member Schema)} {value : Value} :
    value ∈ (object members).denoted ↔ ∃ fields, value = .object fields ∧ ∀ member ∈ members,
      (Value.Absent fields member.1 ∧ member.2.required = false) ∨
        ∃ content, Value.Holds fields member.1 content ∧ content ∈ member.2.schema.denoted := by
  rw [denoted, Set.mem_ofPred_eq]

lemma mem_denoted_oneOf_iff {alternatives : List Schema} {value : Value} :
    value ∈ (oneOf alternatives).denoted ↔
      ∃ alternative ∈ alternatives, value ∈ alternative.denoted := by
  rw [denoted]
  simp only [Set.mem_iUnion, exists_prop]

lemma mem_denoted_allOf_iff {parts : List Schema} {value : Value} :
    value ∈ (allOf parts).denoted ↔ ∀ part ∈ parts, value ∈ part.denoted := by
  rw [denoted]
  simp only [Set.mem_iInter]

lemma mem_denoted_arrayOf_iff {element : Schema} {value : Value} :
    value ∈ (arrayOf element).denoted ↔
      ∃ elements, value = .array elements ∧ ∀ x ∈ elements, x ∈ element.denoted := by
  rw [denoted, Set.mem_ofPred_eq]

/-- **A check accepts the values that the schema denotes.** -/
theorem mem_denoted_iff (schema : Schema) (value : Value) :
    value ∈ schema.denoted ↔ schema.accepts value = true := by
  induction schema using parts_induction generalizing value with
  | primitive p =>
    rw [denoted, accepts_primitive, p.accepts_iff_typeName, Set.mem_ofPred_eq]
  | literal scalar spelling =>
    rw [denoted, accepts_literal, Scalar.accepts_iff_matches, Set.mem_ofPred_eq]
  | object members ih =>
    rw [mem_denoted_object_iff, accepts_object_iff]
    refine exists_congr fun fields => and_congr_right fun _ => forall₂_congr fun member mem => ?_
    simp only [Value.present?_eq_none_iff, Value.present?_eq_some_iff, ih member mem, Value.Absent]
  | oneOf alternatives ih =>
    rw [mem_denoted_oneOf_iff, accepts_oneOf_iff]
    exact exists_congr fun alternative => and_congr_right fun mem => ih alternative mem value
  | allOf parts ih =>
    rw [mem_denoted_allOf_iff, accepts_allOf_iff]
    exact forall₂_congr fun part mem => ih part mem value
  | arrayOf element ih =>
    rw [mem_denoted_arrayOf_iff, accepts_arrayOf_iff]
    refine exists_congr fun elements => and_congr_right fun _ => forall₂_congr fun x _ => ih x

/-- What is handed back is the value, if the schema denotes it. -/
lemma ite_accepts_eq_iff {schema : Schema} {value : Value} {result : Option Value} :
    (if schema.accepts value then some value else none) = result ↔
      ∀ w, result = some w ↔ w = value ∧ value ∈ schema.denoted := by
  rw [mem_denoted_iff]
  split
  · rename_i accepted
    constructor
    · rintro rfl w
      simp [accepted, eq_comm]
    · intro each
      exact ((each value).2 ⟨rfl, accepted⟩).symm
  · rename_i rejected
    constructor
    · rintro rfl w
      simp [rejected]
    · intro each
      cases result with
      | none => rfl
      | some w => exact (rejected ((each w).1 rfl).2).elim

end Schema

/-- **Valid are the values that the schema denotes**, and exactly these are handed back, as they are.
A validator says the same of a value whenever the check fits its limit, and says nothing otherwise;
without a limit every check fits. -/
theorem accepts_iff_mem_denoted :
    (∀ (schema : Schema) (value : Value),
      schema.accepts value = true ↔ value ∈ schema.denoted) ∧
    (∀ (schema : Schema) (value w : Value),
      schema.coerce? value = some w ↔ w = value ∧ value ∈ schema.denoted) ∧
    (∀ (validator : Validator) (schema : Schema) (value : Value) (verdict : Bool),
      validator.accepts schema value = .ok verdict ↔
        validator.fits .failFast schema value = true ∧
          (verdict = true ↔ value ∈ schema.denoted)) ∧
    (∀ (validator : Validator) (schema : Schema) (value : Value) (result : Option Value),
      validator.coerce? schema value = .ok result ↔
        validator.fits .failFast schema value = true ∧
          ∀ w, result = some w ↔ w = value ∧ value ∈ schema.denoted) ∧
    (∀ (schema : Schema) (value : Value),
      Validator.fits { maxDepth := none } .failFast schema value = true) := by
  refine ⟨fun schema value => (schema.mem_denoted_iff value).symm, fun schema value => ?_,
    fun validator schema value verdict => ?_, fun validator schema value result => ?_,
    fun schema value => rfl⟩
  · exact Schema.ite_accepts_eq_iff.1 rfl
  · rw [validator.accepts_eq, schema.mem_denoted_iff]
    split
    · rename_i fits
      cases verdict <;> cases schema.accepts value <;> simp [fits]
    · rename_i unfit
      simp [unfit]
  · rw [Validator.coerce?, validator.accepts_eq]
    split
    · rename_i fits
      rw [ok_bind, Except.ok.injEq, Schema.ite_accepts_eq_iff]
      exact (and_iff_right fits).symm
    · rename_i unfit
      simp [unfit]

end Conformance
