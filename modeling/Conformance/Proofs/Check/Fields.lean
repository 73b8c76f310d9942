import Conformance.Proofs.Check.Equality
import Conformance.Proofs.Check.Inherited
import Conformance.Proofs.Value.Fields

/-!
# Fields that a check does not look at

A check asks for the fields whose keys its schema mentions (`Schema.mentioned`), and takes a field that
holds `undefined` for absent.  All other fields may be dropped: **a value and its restriction are
judged alike** (`parallelInOrder_forRestricted`) whenever the restriction spares the fields that hold
something under a mentioned key (`Schema.SparedBy`).

`unmentioned_fields_have_no_influence` is about pairs of values.  Both are restricted to the mentioned
keys; what is left is compared as values are, and is judged alike if it is equal.
-/

namespace Conformance

/-! ## The keys that a schema mentions -/

namespace Schema

/-- The keys that an object schema declares, anywhere inside. -/
def mentioned (schema : Schema) : List String :=
  schema.declared.flatten

/-- A member's key is mentioned. -/
lemma mem_mentioned_of_mem {member : String × Member Schema}
    {members : List (String × Member Schema)} (mem : member ∈ members) :
    member.1 ∈ (object members).mentioned := by
  rw [mentioned, declared, List.flatten_cons]
  exact List.mem_append_left _ (List.mem_map_of_mem mem)

/-- What a schema demands is about schemas that mention no other keys. -/
lemma mentioned_subset_of_demand {schema inner : Schema} {value part : Value} {step : Option Step}
    (wanted : .part step inner part ∈ schema.demands value) : inner.mentioned ⊆ schema.mentioned := by
  intro name mem
  obtain ⟨keys, declared, mem⟩ := List.mem_flatten.1 mem
  exact List.mem_flatten.2 ⟨keys, declared_subset_of_demand wanted declared, mem⟩

/-- A test lets all fields pass that hold something under a mentioned key. -/
def SparedBy (keep : String → Value → Bool) (schema : Schema) : Prop :=
  ∀ name ∈ schema.mentioned, ∀ content : Value, content.isUndefined = false → keep name content = true

lemma SparedBy.of_demand {keep : String → Value → Bool} {schema inner : Schema}
    {value part : Value} {step : Option Step} (spared : schema.SparedBy keep)
    (wanted : .part step inner part ∈ schema.demands value) : inner.SparedBy keep := by
  exact fun name mem => spared name (mentioned_subset_of_demand wanted mem)

end Schema

/-! ## Restricted values -/

section Restricted

variable (keep : String → Value → Bool)

/-- The same schema with a value and the value restricted, where nothing is lost that the schema looks
at. -/
def ForRestricted : JudgementRel := fun schema value other otherValue =>
  schema = other ∧ value.WellFormed ∧ schema.SparedBy keep ∧ otherValue = value.restrict keep

/-- The demand with its part restricted. -/
def Demand.restrict : Demand → Demand
  | part step schema value => part step schema (value.restrict keep)
  | presence key => presence key

lemma Demand.ofMember?_restrict {fields : List (String × Value)}
    (distinct : Entries.Distinct fields) {member : String × Member Schema}
    (kept : ∀ content : Value, content.isUndefined = false → keep member.1 content = true) :
    ofMember? (Value.restrictFields keep fields) member =
      (ofMember? fields member).map (Demand.restrict keep) := by
  rw [ofMember?, ofMember?, Value.present?_restrict distinct kept]
  cases Value.present? fields member.1 with
  | none => cases member.2.required <;> rfl
  | some field => rfl

/-- **The demands on a restricted value are those on the value**, about restricted parts. -/
lemma Schema.demands_restrict {schema : Schema} {value : Value} (wellFormed : value.WellFormed)
    (spared : schema.SparedBy keep) :
    schema.demands (value.restrict keep) =
      (schema.demands value).map (Demand.restrict keep) := by
  cases schema with
  | primitive p => rfl
  | literal scalar spelling => rfl
  | object members =>
    cases value with
    | object fields =>
      rw [Value.WellFormed] at wellFormed
      rw [Value.restrict, demands, demands, List.map_filterMap]
      refine List.filterMap_congr fun member mem => ?_
      exact Demand.ofMember?_restrict keep wellFormed.1 (spared _ (mem_mentioned_of_mem mem))
    | _ => rfl
  | oneOf alternatives =>
    rw [demands, demands, List.map_map]
    rfl
  | allOf parts =>
    rw [demands, demands, List.map_map]
    rfl
  | arrayOf element =>
    cases value with
    | array elements =>
      rw [Value.restrict, Value.restrictElements_eq_map, demands, demands, List.zipIdx_map,
        List.map_map, List.map_map]
      rfl
    | _ => rfl

/-- **A value and its restriction are judged side by side.** -/
lemma parallelInOrder_forRestricted : ParallelInOrder (ForRestricted keep) where
  outside := by
    rintro schema value other otherValue ⟨rfl, -, -, rfl⟩
    refine ⟨rfl, ?_, ?_⟩
    · cases value <;> cases schema <;> rfl
    · cases schema with
      | primitive p => cases value <;> cases p <;> rfl
      | literal scalar spelling => cases value <;> cases scalar <;> rfl
      | _ => rfl
  demands := by
    rintro schema value other otherValue ⟨rfl, wellFormed, spared, rfl⟩
    rw [Schema.demands_restrict keep wellFormed spared, List.forall₂_map_right_iff,
      List.forall₂_same]
    intro demand wanted
    cases demand with
    | part step inner part =>
      exact .part step ⟨rfl, wellFormed.of_demand wanted, spared.of_demand wanted, rfl⟩
    | presence key => exact .presence key

end Restricted

/-! ## Pairs of values -/

/-- What a failure says apart from the rejected part: where something is wrong, of what kind it is, and
which schema says so. -/
def Failure.reason (failure : Failure) : Pointer × FailureKind × Schema :=
  (failure.path, failure.kind, failure.schema)

/-- Judgements by one and the same schema reject for the same reasons. -/
lemma observedAlike_reason {R : JudgementRel}
    (same : ∀ {schema value other otherValue}, R schema value other otherValue → schema = other) :
    ObservedAlike R Failure.reason := by
  constructor
  · intro schema value other otherValue related path
    rw [same related]
    rfl
  · intro schema value other otherValue related path
    rw [same related]

/-- The value without the fields that a schema does not mention, at every depth. -/
def Value.mentionedBy (schema : Schema) (value : Value) : Value :=
  value.restrict fun name _ => decide (name ∈ schema.mentioned)

/-- What a schema says of a value: the verdict, and the reasons for a rejection. -/
def Schema.findings (schema : Schema) (value : Value) :
    Bool × Option (List (Pointer × FailureKind × Schema)) :=
  (schema.accepts value, (schema.explain value).map fun e => e.failures.map Failure.reason)

lemma ParallelInOrder.findings_eq {R : JudgementRel} (parallel : ParallelInOrder R)
    (same : ∀ {schema value other otherValue}, R schema value other otherValue → schema = other)
    {schema other : Schema} {value otherValue : Value} (related : R schema value other otherValue) :
    schema.findings value = other.findings otherValue :=
  Prod.ext (parallel.parallel.accepts_eq related)
    (parallel.map_failures_eq (observedAlike_reason same) related)

/-- **Nothing is found out about unmentioned fields.** -/
lemma Schema.findings_mentionedBy (schema : Schema) {value : Value} (wellFormed : value.WellFormed) :
    schema.findings (value.mentionedBy schema) = schema.findings value := by
  have spared : schema.SparedBy fun name _ => decide (name ∈ schema.mentioned) := by
    intro name mem content _
    exact decide_eq_true mem
  exact ((parallelInOrder_forRestricted _).findings_eq And.left ⟨rfl, wellFormed, spared, rfl⟩).symm

/-- **Fields that a schema never mentions have no influence.**  Two values that are equal but for such
fields, at every depth, get the same verdict, and are rejected for the same reasons in the same
order. -/
theorem unmentioned_fields_have_no_influence (schema : Schema) (value otherValue : Value)
    (wellFormed : value.WellFormed) (wellFormed' : otherValue.WellFormed)
    (equal : (value.mentionedBy schema == otherValue.mentionedBy schema) = true) :
    schema.accepts value = schema.accepts otherValue ∧
      (schema.explain value).map (fun e => e.failures.map Failure.reason) =
        (schema.explain otherValue).map fun e => e.failures.map Failure.reason := by
  have related : ForEqualValues schema (value.mentionedBy schema) schema
      (otherValue.mentionedBy schema) :=
    ⟨rfl, Value.wellFormed_restrict wellFormed, equal⟩
  have findings : schema.findings value = schema.findings otherValue := by
    rw [← schema.findings_mentionedBy wellFormed, ← schema.findings_mentionedBy wellFormed']
    exact parallelInOrder_forEqualValues.findings_eq And.left related
  exact Prod.mk.inj findings

/-- A rejected field of an element is found at the same place beside other fields, whatever these
hold. -/
theorem unmentioned_fields_have_no_influence_nested :
    let inner := Schema.oneOf [.object [("b", ⟨.primitive .string, true⟩)]]
    let schema := Schema.object [("a", ⟨.arrayOf inner, true⟩)]
    let value := Value.object [("a", .array [.object [("b", .null), ("c", .number .nan)]]),
      ("d", .undefined)]
    let otherValue := Value.object [("e", .object [("c", .number .nan)]),
      ("a", .array [.object [("d", .undefined), ("b", .null)]])]
    (schema.explain otherValue).map (fun e => e.failures.map Failure.reason) =
        some [(⟨["a", "0"]⟩, .noAlternativeMatched, inner),
          (⟨["a", "0", "b"]⟩, .typeMismatch, .primitive .string)] ∧
      schema.accepts value = schema.accepts otherValue ∧
      (schema.explain value).map (fun e => e.failures.map Failure.reason) =
        (schema.explain otherValue).map fun e => e.failures.map Failure.reason := by
  intro inner schema value otherValue
  have wellFormed : value.WellFormed := by
    simp [value, Value.WellFormed, Value.WellFormedFields, Value.WellFormedElements,
      Entries.Distinct]
  have wellFormed' : otherValue.WellFormed := by
    simp [otherValue, Value.WellFormed, Value.WellFormedFields, Value.WellFormedElements,
      Entries.Distinct]
  exact ⟨rfl,
    unmentioned_fields_have_no_influence schema value otherValue wellFormed wellFormed' rfl⟩

end Conformance
