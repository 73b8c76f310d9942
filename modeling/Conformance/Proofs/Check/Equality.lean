import Conformance.Proofs.Check.Parallel
import Conformance.Proofs.Schema.Alike
import Conformance.Proofs.Value.Equality

/-!
# Equal inputs

A check does not tell equal values from each other, nor schemas that are alike.  Both relations are
parallel (`Proofs/Check/Parallel`): equal values meet the demands of one schema in the same order
(`parallelInOrder_forEqualValues`), while schemas that are alike have the same demands on one value up
to the order of members (`parallel_forAlikeSchemas`).

**`equal_inputs_equal_answers`** takes the two after each other.  The verdict is the same and so are the
diagnoses, up to order in general and in order for one schema.  No case is made for not-a-number: it is
equal to nothing, so that a value that holds it has no equal and a schema that holds it is not alike to
any other, but equal values are still judged alike by such a schema.
-/

namespace Conformance

/-! ## Equal values -/

/-- The same schema with equal values. -/
def ForEqualValues : JudgementRel := fun schema value other otherValue =>
  schema = other ∧ value.WellFormed ∧ value.beq otherValue = true

section EqualValues

variable {value other : Value}

lemma Primitive.accepts_eq_of_beq (p : Primitive) (equal : value.beq other = true) :
    p.accepts value = p.accepts other := by
  cases Value.beq_iff_equalLayer.1 equal <;> cases p <;> rfl

lemma Scalar.accepts_eq_of_beq (scalar : Scalar) (equal : value.beq other = true) :
    scalar.accepts value = scalar.accepts other := by
  cases Value.beq_iff_equalLayer.1 equal with
  | number same =>
    cases scalar with
    | number x => exact same.beq_right x
    | _ => rfl
  | _ => cases scalar <;> rfl

lemma sameOutside_of_beq (schema : Schema) (equal : value.beq other = true) :
    SameOutside schema value schema other := by
  refine ⟨rfl, ?_, ?_⟩
  · cases Value.beq_iff_equalLayer.1 equal <;> cases schema <;> rfl
  · cases schema with
    | primitive p => exact p.accepts_eq_of_beq equal
    | literal scalar spelling => exact scalar.accepts_eq_of_beq equal
    | _ => rfl

/-- A member makes corresponding demands on equal objects. -/
lemma rel_ofMember?_of_matches {left right : List (String × Value)}
    (same : Entries.Matches (fun v w => v.beq w = true) left right)
    (wellFormed : (Value.object left).WellFormed) (member : String × Member Schema) :
    Option.Rel (Demand.Corresponds ForEqualValues) (Demand.ofMember? left member)
      (Demand.ofMember? right member) := by
  rw [Value.WellFormed] at wellFormed
  have related := Value.rel_present? same wellFormed.1 member.1
  have inside : ∀ field, Value.present? left member.1 = some field → field.WellFormed :=
    fun _ => Value.wellFormed_of_present? wellFormed.2
  rw [Demand.ofMember?, Demand.ofMember?]
  generalize Value.present? left member.1 = found at related inside ⊢
  generalize Value.present? right member.1 = found' at related ⊢
  cases related with
  | none =>
    cases member.2.required with
    | false => exact .none
    | true => exact .some (.presence member.1)
  | some equal => exact .some (.part _ ⟨rfl, inside _ rfl, equal⟩)

/-- Elements with their indices make corresponding demands on equal arrays. -/
lemma forall₂_ofElement_of_beq (element : Schema) {left right : List Value}
    (each : List.Forall₂ (fun v w => v.beq w = true) left right)
    (wellFormed : Value.WellFormedElements left) (index : Nat) :
    List.Forall₂ (Demand.Corresponds ForEqualValues)
      ((left.zipIdx index).map (Demand.ofElement element))
      ((right.zipIdx index).map (Demand.ofElement element)) := by
  induction each generalizing index with
  | nil => exact .nil
  | cons equal _ ih =>
    rw [Value.WellFormedElements] at wellFormed
    exact .cons (.part _ ⟨rfl, wellFormed.1, equal⟩) (ih wellFormed.2 (index + 1))

/-- **Equal values meet corresponding demands, in order.** -/
lemma parallelInOrder_forEqualValues : ParallelInOrder ForEqualValues where
  outside := by
    rintro schema value - other ⟨rfl, -, equal⟩
    exact sameOutside_of_beq schema equal
  demands := by
    rintro schema value - other ⟨rfl, wellFormed, equal⟩
    have same (schemas : List Schema) : List.Forall₂ (Demand.Corresponds ForEqualValues)
        (schemas.map (Demand.ofSame value)) (schemas.map (Demand.ofSame other)) := by
      rw [List.forall₂_map_left_iff, List.forall₂_map_right_iff, List.forall₂_same]
      exact fun schema _ => .part none ⟨rfl, wellFormed, equal⟩
    cases schema with
    | primitive p => exact .nil
    | literal scalar spelling => exact .nil
    | object members =>
      cases Value.beq_iff_equalLayer.1 equal with
      | object matched =>
        refine List.rel_filterMap ?_ ((List.forall₂_same).2 fun member _ => rfl)
        rintro member - rfl
        exact rel_ofMember?_of_matches matched wellFormed member
      | _ => exact .nil
    | oneOf alternatives => exact same alternatives
    | allOf parts => exact same parts
    | arrayOf element =>
      cases Value.beq_iff_equalLayer.1 equal with
      | array each => exact forall₂_ofElement_of_beq element each wellFormed 0
      | _ => exact .nil

end EqualValues

/-! ## Schemas that are alike -/

/-- Schemas that are alike, with the same value. -/
def ForAlikeSchemas : JudgementRel := fun schema value other otherValue =>
  schema.Alike other ∧ value = otherValue

section AlikeSchemas

variable {schema other : Schema}

/-- Equal scalars match the same values. -/
lemma Scalar.accepts_eq_accepts {a b : Scalar} (equal : (a == b) = true) (value : Value) :
    a.accepts value = b.accepts value := by
  cases a <;> cases b
  case string.string s t => rw [eq_of_beq (a := s) equal]
  case number.number x y =>
    cases value with
    | number z => exact (Binary64.beq_iff_equal.1 equal).beq_left z
    | _ => rfl
  case bool.bool a b => rw [eq_of_beq (a := a) equal]
  case bigInt.bigInt m n => rw [eq_of_beq (a := m) equal]
  all_goals cases equal

lemma sameOutside_of_alike (alike : schema.Alike other) (value : Value) :
    SameOutside schema value other value := by
  cases alike with
  | literal equal spelling spelling' => exact ⟨rfl, rfl, Scalar.accepts_eq_accepts equal value⟩
  | _ => exact ⟨rfl, by cases value <;> rfl, rfl⟩

/-- Members that are alike make corresponding demands on an object. -/
lemma rel_ofMember?_of_alike (fields : List (String × Value)) {member member' : String × Member Schema}
    (alike : Schema.MemberAlike member member') :
    Option.Rel (Demand.Corresponds ForAlikeSchemas) (Demand.ofMember? fields member)
      (Demand.ofMember? fields member') := by
  obtain ⟨key, required, inside⟩ := alike
  rw [Demand.ofMember?, Demand.ofMember?, key, required]
  cases Value.present? fields member'.1 with
  | none =>
    cases member'.2.required with
    | false => exact .none
    | true => exact .some (.presence member'.1)
  | some field => exact .some (.part _ ⟨inside, rfl⟩)

/-- **Schemas that are alike make corresponding demands on a value**, in the order of the members of
one or the other. -/
lemma parallel_forAlikeSchemas : Parallel ForAlikeSchemas where
  outside := by
    rintro schema value other - ⟨alike, rfl⟩
    exact sameOutside_of_alike alike value
  demands := by
    rintro schema value other - ⟨alike, rfl⟩
    have same {schemas others : List Schema} (each : Schema.AlikeAll schemas others) :
        List.Forall₂ (Demand.Corresponds ForAlikeSchemas)
          (schemas.map (Demand.ofSame value)) (others.map (Demand.ofSame value)) := by
      rw [List.forall₂_map_left_iff, List.forall₂_map_right_iff]
      exact (Schema.alikeAll_iff.1 each).imp fun _ _ alike => .part none ⟨alike, rfl⟩
    cases alike with
    | primitive p => exact ⟨_, .nil, .refl _⟩
    | literal equal spelling spelling' => exact ⟨_, .nil, .refl _⟩
    | object each reordered =>
      cases value with
      | object fields =>
        refine ⟨_, ?_, reordered.filterMap _⟩
        exact List.rel_filterMap (fun _ _ alike => rel_ofMember?_of_alike fields alike)
          (Schema.alikeMembers_iff.1 each)
      | _ => exact ⟨_, .nil, .refl _⟩
    | oneOf each => exact ⟨_, same each, .refl _⟩
    | allOf each => exact ⟨_, same each, .refl _⟩
    | arrayOf inside =>
      cases value with
      | array elements =>
        refine ⟨_, ?_, .refl _⟩
        simp only [Schema.demands, List.forall₂_map_left_iff, List.forall₂_map_right_iff,
          List.forall₂_same]
        exact fun element _ => .part _ ⟨inside, rfl⟩
      | _ => exact ⟨_, .nil, .refl _⟩

end AlikeSchemas

/-! ## Equal inputs, equal answers -/

/-- **Equal inputs get equal answers.**  Schemas that are alike give equal values the same verdict, and
the same diagnoses up to order.  One schema gives equal values the same diagnoses in the same order.
In particular, equal schemas accept the same values. -/
theorem equal_inputs_equal_answers :
    (∀ (schema other : Schema) (value otherValue : Value), schema.Alike other →
      value.WellFormed → (value == otherValue) = true →
        schema.accepts value = other.accepts otherValue ∧
          (schema.diagnoses value).Perm (other.diagnoses otherValue)) ∧
    (∀ (schema : Schema) (value otherValue : Value), value.WellFormed →
      (value == otherValue) = true →
        schema.accepts value = schema.accepts otherValue ∧
          schema.diagnoses value = schema.diagnoses otherValue) ∧
    (∀ schema other : Schema, schema.WellFormed → (schema == other) = true →
      ∀ value, schema.accepts value = other.accepts value) := by
  have oneSchema (schema : Schema) (value otherValue : Value) (wellFormed : value.WellFormed)
      (equal : (value == otherValue) = true) :
      schema.accepts value = schema.accepts otherValue ∧
        schema.diagnoses value = schema.diagnoses otherValue := by
    have related : ForEqualValues schema value schema otherValue := ⟨rfl, wellFormed, equal⟩
    exact ⟨parallelInOrder_forEqualValues.parallel.accepts_eq related,
      parallelInOrder_forEqualValues.diagnosesAt_eq related .root⟩
  have oneValue (schema other : Schema) (value : Value) (alike : schema.Alike other) :
      schema.accepts value = other.accepts value ∧
        (schema.diagnoses value).Perm (other.diagnoses value) := by
    have related : ForAlikeSchemas schema value other value := ⟨alike, rfl⟩
    exact ⟨parallel_forAlikeSchemas.accepts_eq related,
      parallel_forAlikeSchemas.diagnosesAt_perm related .root⟩
  refine ⟨fun schema other value otherValue alike wellFormed equal => ?_, oneSchema,
    fun schema other wellFormed equal value => ?_⟩
  · obtain ⟨verdict, diagnoses⟩ := oneSchema schema value otherValue wellFormed equal
    rw [verdict, diagnoses]
    exact oneValue schema other otherValue alike
  · exact (oneValue schema other value (Schema.alike_of_beq wellFormed equal)).1

/-- Both zeros, as literals in both spellings and as fields, with members and fields in any order. -/
theorem equal_inputs_equal_answers_of_zeros :
    let schema := Schema.object [("a", ⟨.literal (.number (.finite (.zero true))) .literal, true⟩),
      ("b", ⟨.primitive .string, true⟩), ("c", ⟨.primitive .null, true⟩)]
    let respelled := Schema.object [("c", ⟨.primitive .null, true⟩),
      ("a", ⟨.literal (.number (.finite (.zero false))) .matching, true⟩),
      ("b", ⟨.primitive .string, true⟩)]
    let reordered := Schema.object [("c", ⟨.primitive .null, true⟩),
      ("a", ⟨.literal (.number (.finite (.zero false))) .literal, true⟩),
      ("b", ⟨.primitive .string, true⟩)]
    let value := Value.object [("a", .number (.finite (.zero false))), ("b", .null)]
    let otherValue := Value.object [("b", .null), ("a", .number (.finite (.zero true)))]
    schema.diagnoses value = [(⟨["b"]⟩, .typeMismatch), (⟨["c"]⟩, .missingRequiredKey)] ∧
      schema.diagnoses otherValue = schema.diagnoses value ∧
      (schema.diagnoses value).Perm (respelled.diagnoses otherValue) ∧
      schema.accepts value = reordered.accepts value := by
  intro schema respelled reordered value otherValue
  have alike : schema.Alike respelled :=
    .object
      (.cons "a" true (.literal rfl _ _) (.cons "b" true (.primitive .string)
        (.cons "c" true (.primitive .null) .nil)))
      (@List.perm_append_comm _ [_, _] [_])
  have schema_wellFormed : schema.WellFormed := by
    simp [schema, Schema.WellFormed, Schema.WellFormedMembers, Entries.Distinct]
  have value_wellFormed : value.WellFormed := by
    simp [value, Value.WellFormed, Value.WellFormedFields, Entries.Distinct]
  exact ⟨rfl,
    (equal_inputs_equal_answers.2.1 schema value otherValue value_wellFormed rfl).2.symm,
    (equal_inputs_equal_answers.1 schema respelled value otherValue alike value_wellFormed rfl).2,
    equal_inputs_equal_answers.2.2 schema reordered schema_wellFormed rfl value⟩

end Conformance
