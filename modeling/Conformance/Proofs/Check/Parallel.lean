import Conformance.Proofs.Explanation.Failures

/-!
# Judgements side by side

Two judgements, of one value by one schema and of another value by another schema, have the same
outcome if they agree in what can be seen without their demands (`SameOutside`) and their demands
correspond one to one.  A relation between judgements that goes from each pair of them to the
corresponding demands is `Parallel`, and **related judgements then have the same verdict and, up to
order, the same diagnoses** (`Parallel.accepts_eq`, `Parallel.diagnosesAt_perm`).

If the demands correspond in order (`ParallelInOrder`), there is more to say.  The failures are the same
in order, as far as an observation of them goes that does not tell related judgements apart
(`map_failuresAt_eq`), and **the two checks go equally deep**, so that they fit the same limits
(`visitedDepth_eq`).

That a relation is parallel is a statement about one layer of schemas and values.  The induction over
all layers is done here.
-/

namespace Conformance

/-- A relation between judgements, each of a value by a schema. -/
abbrev JudgementRel :=
  Schema → Value → Schema → Value → Prop

/-- The same form of schemas, with values of which the schemas make the same use. -/
structure SameOutside (schema : Schema) (value : Value) (other : Schema) (otherValue : Value) :
    Prop where
  kind : FailureKind.ofSchema schema = FailureKind.ofSchema other
  looks : schema.looksInto value = other.looksInto otherValue
  outright : schema.acceptsOutright value = other.acceptsOutright otherValue

lemma Schema.isChoice_iff_ofSchema {schema : Schema} :
    schema.isChoice = true ↔ FailureKind.ofSchema schema = .noAlternativeMatched := by
  cases schema <;> simp [isChoice, FailureKind.ofSchema]

lemma SameOutside.choice {schema other : Schema} {value otherValue : Value}
    (outside : SameOutside schema value other otherValue) : schema.isChoice = other.isChoice := by
  rw [Bool.eq_iff_iff, Schema.isChoice_iff_ofSchema, outside.kind, Schema.isChoice_iff_ofSchema]

/-- Demands at the same step for related judgements, or for the same key. -/
inductive Demand.Corresponds (R : JudgementRel) : Demand → Demand → Prop
  | part (step : Option Step) {schema other : Schema} {value otherValue : Value}
      (related : R schema value other otherValue) :
      Corresponds R (.part step schema value) (.part step other otherValue)
  | presence (key : String) : Corresponds R (.presence key) (.presence key)

/-- Related judgements agree on the outside, and have related demands in some order. -/
structure Parallel (R : JudgementRel) : Prop where
  outside : ∀ {schema value other otherValue}, R schema value other otherValue →
    SameOutside schema value other otherValue
  demands : ∀ {schema value other otherValue}, R schema value other otherValue →
    ∃ ordered, List.Forall₂ (Demand.Corresponds R) (schema.demands value) ordered ∧
      ordered.Perm (other.demands otherValue)

/-- Related judgements agree on the outside, and have related demands in the same order. -/
structure ParallelInOrder (R : JudgementRel) : Prop where
  outside : ∀ {schema value other otherValue}, R schema value other otherValue →
    SameOutside schema value other otherValue
  demands : ∀ {schema value other otherValue}, R schema value other otherValue →
    List.Forall₂ (Demand.Corresponds R) (schema.demands value) (other.demands otherValue)

variable {R : JudgementRel} {schema other : Schema} {value otherValue : Value}

lemma ParallelInOrder.parallel (parallel : ParallelInOrder R) : Parallel R :=
  ⟨parallel.outside, fun related => ⟨_, parallel.demands related, .refl _⟩⟩

/-! ## Verdicts -/

/-- The verdict follows from what is seen outside and from the verdicts on the demands, in any
order. -/
lemma SameOutside.accepts_eq (outside : SameOutside schema value other otherValue)
    (met : ((schema.demands value).map Demand.met).Perm
      ((other.demands otherValue).map Demand.met)) :
    schema.accepts value = other.accepts otherValue := by
  have any_eq := met.any_eq (f := id)
  have all_eq := met.all_eq (f := id)
  rw [List.any_map, List.any_map] at any_eq
  rw [List.all_map, List.all_map] at all_eq
  rw [Schema.accepts_eq, Schema.accepts_eq, outside.looks, outside.choice, outside.outright]
  congr 2

/-- **Related judgements have the same verdict.** -/
theorem Parallel.accepts_eq (parallel : Parallel R)
    (related : R schema value other otherValue) :
    schema.accepts value = other.accepts otherValue := by
  induction schema, value using Schema.demand_induction generalizing other otherValue with
  | weigh schema value ih =>
    obtain ⟨ordered, each, reordered⟩ := parallel.demands related
    have met : List.Forall₂ (fun demand demand' => demand.met = demand'.met)
        (schema.demands value) ordered := by
      refine forall₂_imp_of_mem each fun demand mem demand' _ corresponds => ?_
      cases corresponds with
      | part step related => exact ih step _ _ mem related
      | presence key => rfl
    refine (parallel.outside related).accepts_eq ?_
    rw [map_eq_map_of_forall₂ met fun _ _ same => same]
    exact reordered.map Demand.met

/-! ## Diagnoses -/

/-- **Related judgements have the same diagnoses, up to their order.** -/
theorem Parallel.diagnosesAt_perm (parallel : Parallel R)
    (related : R schema value other otherValue) (path : Pointer) :
    (schema.diagnosesAt path value).Perm (other.diagnosesAt path otherValue) := by
  induction schema, value using Schema.demand_induction generalizing other otherValue path with
  | weigh schema value ih =>
    obtain ⟨ordered, each, reordered⟩ := parallel.demands related
    have below : List.Forall₂
        (fun demand demand' => (demand.diagnosesAt path).Perm (demand'.diagnosesAt path))
        (schema.demands value) ordered := by
      refine forall₂_imp_of_mem each fun demand mem demand' _ corresponds => ?_
      cases corresponds with
      | part step related => exact ih step _ _ mem related (path.along step)
      | presence key => exact .refl _
    have outside := parallel.outside related
    rw [Schema.diagnosesAt_eq, Schema.diagnosesAt_eq, parallel.accepts_eq related, outside.looks,
      outside.kind]
    split
    · exact .refl _
    · split
      · have together := flatMap_perm_flatMap_of_forall₂ below
        exact .append_left _ (together.trans (reordered.flatMap_right _))
      · exact .refl _

/-! ## Failures in order -/

/-- An observation of failures that does not tell related judgements from each other. -/
structure ObservedAlike {α : Type} (R : JudgementRel) (observe : Failure → α) : Prop where
  rejection : ∀ {schema value other otherValue}, R schema value other otherValue → ∀ path,
    observe (.ofRejection path value schema) = observe (.ofRejection path otherValue other)
  missing : ∀ {schema value other otherValue}, R schema value other otherValue → ∀ path,
    observe ⟨path, .missingRequiredKey, none, schema⟩ =
      observe ⟨path, .missingRequiredKey, none, other⟩

/-- Whether a node counts as a failure can be seen from the kind of failure that it would be. -/
lemma Failure.ofNode_eq (path : Pointer) (value : Value) (schema : Schema) :
    ofNode path value schema =
      if FailureKind.ofSchema schema ∈ [.noAlternativeMatched, .intersectionMemberFailed] then
        [.ofRejection path value schema]
      else [] := by
  cases schema <;> rfl

/-- **Where demands correspond in order, so do the failures**, as far as they are observed alike. -/
theorem ParallelInOrder.map_failuresAt_eq {α : Type} {observe : Failure → α}
    (parallel : ParallelInOrder R) (alike : ObservedAlike R observe)
    (related : R schema value other otherValue) (path : Pointer) :
    (schema.failuresAt path value).map observe =
      (other.failuresAt path otherValue).map observe := by
  induction schema, value using Schema.demand_induction generalizing other otherValue path with
  | weigh schema value ih =>
    have below : List.Forall₂
        (fun demand demand' => (demand.failuresAt path schema).map observe =
          (demand'.failuresAt path other).map observe)
        (schema.demands value) (other.demands otherValue) := by
      refine forall₂_imp_of_mem (parallel.demands related) fun demand mem demand' _ corresponds => ?_
      cases corresponds with
      | part step inside => exact ih step _ _ mem inside (path.along step)
      | presence key => exact congrArg (fun seen => [seen]) (alike.missing related (path.push key))
    have outside := parallel.outside related
    rw [Schema.failuresAt_eq, Schema.failuresAt_eq, parallel.parallel.accepts_eq related,
      outside.looks, Failure.ofNode_eq, Failure.ofNode_eq, outside.kind]
    split
    · rfl
    · split
      · rw [List.map_append, List.map_append, List.map_flatMap, List.map_flatMap, List.flatMap_def,
          List.flatMap_def, map_eq_map_of_forall₂ below fun _ _ same => same]
        congr 1
        split
        · exact congrArg (fun seen => [seen]) (alike.rejection related path)
        · rfl
      · exact congrArg (fun seen => [seen]) (alike.rejection related path)

/-- There is no explanation in both, or there are explanations whose failures are observed alike. -/
lemma ParallelInOrder.map_failures_eq {α : Type} {observe : Failure → α}
    (parallel : ParallelInOrder R) (alike : ObservedAlike R observe)
    (related : R schema value other otherValue) :
    (schema.explain value).map (fun e => e.failures.map observe) =
      (other.explain otherValue).map fun e => e.failures.map observe := by
  have verdict := parallel.parallel.accepts_eq related
  have failures := parallel.map_failuresAt_eq alike related .root
  rw [Schema.accepts_eq_isNone_explain, Schema.accepts_eq_isNone_explain] at verdict
  rw [Schema.failuresAt, Schema.failuresAt] at failures
  cases explained : schema.explain value <;> cases explained' : other.explain otherValue
  case none.none => rfl
  case some.some e f =>
    rw [explained, explained'] at failures
    exact congrArg some failures
  all_goals
    rw [explained, explained'] at verdict
    cases verdict

/-- **Where demands correspond in order, the diagnoses are the same in the same order.** -/
theorem ParallelInOrder.diagnosesAt_eq (parallel : ParallelInOrder R)
    (related : R schema value other otherValue) (path : Pointer) :
    schema.diagnosesAt path value = other.diagnosesAt path otherValue := by
  refine parallel.map_failuresAt_eq ⟨fun related path => ?_, fun _ _ => rfl⟩ related path
  exact congrArg (Prod.mk path) (parallel.outside related).kind

/-! ## Depths -/

/-- Demands that correspond are reached together, if the check stops at the same ones. -/
lemma forall₂_reached {S : Demand → Demand → Prop} {stops stops' : Demand → Bool}
    {demands others : List Demand} (each : List.Forall₂ S demands others)
    (same : ∀ demand ∈ demands, ∀ demand', S demand demand' → stops demand = stops' demand') :
    List.Forall₂ S (reached stops demands) (reached stops' others) := by
  induction each with
  | nil => exact .nil
  | @cons demand demand' rest others corresponds _ ih =>
    obtain ⟨head, tail⟩ := List.forall_mem_cons.1 same
    rw [reached, reached, head demand' corresponds]
    split
    · exact .cons corresponds .nil
    · exact .cons corresponds (ih tail)

/-- **Where demands correspond in order, a check goes equally deep**, in either mode. -/
theorem ParallelInOrder.visitedDepth_eq (parallel : ParallelInOrder R) (mode : Mode)
    (related : R schema value other otherValue) :
    schema.visitedDepth mode value = other.visitedDepth mode otherValue := by
  induction schema, value using Schema.demand_induction generalizing other otherValue with
  | weigh schema value ih =>
    have each := parallel.demands related
    have met : ∀ demand ∈ schema.demands value, ∀ demand',
        Demand.Corresponds R demand demand' → demand.met = demand'.met := by
      intro demand _ demand' corresponds
      cases corresponds with
      | part step inside => exact parallel.parallel.accepts_eq inside
      | presence key => rfl
    have stops : ∀ demand ∈ schema.demands value, ∀ demand', Demand.Corresponds R demand demand' →
        schema.stopsAt mode demand = other.stopsAt mode demand' := by
      intro demand mem demand' corresponds
      have met := met demand mem demand' corresponds
      rw [Schema.stopsAt, Schema.stopsAt, (parallel.outside related).choice]
      cases mode <;> split <;> simp [Mode.stopsAt, met]
    have deep : List.Forall₂
        (fun demand demand' => demand.visitedDepth mode = demand'.visitedDepth mode)
        (reached (schema.stopsAt mode) (schema.demands value))
        (reached (other.stopsAt mode) (other.demands otherValue)) := by
      refine forall₂_imp_of_mem (forall₂_reached each stops) fun demand mem demand' _ corresponds => ?_
      cases corresponds with
      | part step inside => exact ih step _ _ (mem_of_mem_reached mem) inside
      | presence key => rfl
    rw [Schema.visitedDepth_eq, Schema.visitedDepth_eq, deepest, deepest,
      map_eq_map_of_forall₂ deep fun _ _ same => same]

/-- Related judgements fit the same limits. -/
lemma ParallelInOrder.fits_eq (parallel : ParallelInOrder R) (validator : Validator) (mode : Mode)
    (related : R schema value other otherValue) :
    validator.fits mode schema value = validator.fits mode other otherValue := by
  rw [Validator.fits, Validator.fits, parallel.visitedDepth_eq mode related]

end Conformance
