import Conformance.Proofs.Check.Verdict

/-!
# Accepted values under a limit

A validator that accepts a value need not be able to say that there is nothing to explain.  Its verdict
comes from the check that stops at the first cause, and its explanation from the full check, which goes
deeper wherever something is rejected.  **In a value that is accepted this happens in one place only**:
a choice tries alternatives that reject the value before it comes to one that accepts.

* `Schema.Dismisses` names these alternatives, each with the depth at which it is entered.
* `Schema.visitedDepth_exhaustive_le_iff`: apart from them the two checks of an accepted value go
  equally deep.
* **`explain_of_accepted`**: an accepted value has no explanation, unless the full check of a dismissed
  alternative overruns the limit; then there is no answer.
* `accepted_without_explanation` is a value for which there is none.
-/

namespace Conformance

/-! ## Visits -/

/-- Demands that never end the check are all reached. -/
lemma reached_eq_self {stops : Demand → Bool} {demands : List Demand}
    (goesOn : ∀ demand ∈ demands, stops demand = false) : reached stops demands = demands := by
  induction demands with
  | nil => rfl
  | cons demand rest ih =>
    obtain ⟨head, tail⟩ := List.forall_mem_cons.1 goesOn
    rw [reached_of_goes_on head, ih tail]

lemma reached_exhaustive (demands : List Demand) :
    reached Mode.exhaustive.stopsAt demands = demands :=
  reached_eq_self fun _ _ => rfl

namespace Schema

/-- A check stays within a depth if there is room for the schema itself and for all its visits. -/
lemma visitedDepth_le_iff {mode : Mode} {schema : Schema} {value : Value} {n : Nat} :
    schema.visitedDepth mode value ≤ n ↔
      1 ≤ n ∧ ∀ visit ∈ schema.visits mode value, 1 + visit.1.visitedDepth mode visit.2 ≤ n := by
  rw [visitedDepth_eq, deepest_eq_of_entered, ← visits]
  induction schema.visits mode value with
  | nil => simp
  | cons visit rest ih =>
    have both (depth rest : Nat) : 1 + max depth rest ≤ n ↔ 1 + depth ≤ n ∧ 1 + rest ≤ n := by omega
    rw [List.map_cons, List.foldr_cons, List.forall_mem_cons, both, ih, and_left_comm]

/-- A visit is made for a demand. -/
lemma exists_demand_of_mem_visits {mode : Mode} {schema : Schema} {value : Value}
    {visit : Schema × Value} (mem : visit ∈ schema.visits mode value) :
    ∃ step, .part step visit.1 visit.2 ∈ schema.demands value := by
  obtain ⟨demand, demand_mem, entered⟩ := List.mem_filterMap.1 mem
  cases demand with
  | part step inner part =>
    cases entered
    exact ⟨step, mem_of_mem_reached demand_mem⟩
  | presence key => cases entered

/-- What the check that stops visits, the full check visits too. -/
lemma mem_visits_exhaustive {schema : Schema} {value : Value} {visit : Schema × Value}
    (mem : visit ∈ schema.visits .failFast value) : visit ∈ schema.visits .exhaustive value := by
  obtain ⟨demand, demand_mem, entered⟩ := List.mem_filterMap.1 mem
  refine List.mem_filterMap.2 ⟨demand, ?_, entered⟩
  rw [stopsAt] at demand_mem ⊢
  split at demand_mem
  · rename_i choice
    rwa [if_pos choice]
  · rename_i noChoice
    rw [if_neg noChoice, reached_exhaustive]
    exact mem_of_mem_reached demand_mem

/-- In an accepted value the check that stops has nothing to stop at. -/
lemma visits_of_accepts {schema : Schema} {value : Value}
    (accepted : schema.accepts value = true) :
    schema.visits .failFast value = schema.visits .exhaustive value := by
  rw [visits, visits, stopsAt, stopsAt]
  split
  · rfl
  · rename_i noChoice
    rw [reached_exhaustive, reached_eq_self]
    intro demand wanted
    rw [Mode.stopsAt, met_of_accepts accepted (Bool.eq_false_iff.2 noChoice) wanted]
    rfl

/-- Only a choice accepts a value after a visit that rejects. -/
lemma exists_oneOf_of_rejects {mode : Mode} {schema inner : Schema} {value part : Value}
    (accepted : schema.accepts value = true) (visited : (inner, part) ∈ schema.visits mode value)
    (rejected : inner.accepts part = false) : ∃ alternatives, schema = oneOf alternatives := by
  obtain ⟨step, wanted⟩ := exists_demand_of_mem_visits visited
  cases schema with
  | oneOf alternatives => exact ⟨alternatives, rfl⟩
  | _ =>
    have met : inner.accepts part = true := met_of_accepts accepted rfl wanted
    rw [rejected] at met
    cases met

/-- **The check that stops never goes deeper than the full check.** -/
theorem visitedDepth_failFast_le (schema : Schema) (value : Value) :
    schema.visitedDepth .failFast value ≤ schema.visitedDepth .exhaustive value := by
  induction schema, value using demand_induction with
  | weigh schema value ih =>
    obtain ⟨room, inside⟩ := visitedDepth_le_iff.1 (Nat.le_refl (schema.visitedDepth .exhaustive value))
    refine visitedDepth_le_iff.2 ⟨room, fun visit mem => ?_⟩
    obtain ⟨step, wanted⟩ := exists_demand_of_mem_visits mem
    have := ih step visit.1 visit.2 wanted
    have := inside visit (mem_visits_exhaustive mem)
    omega

/-! ## Dismissed alternatives -/

/-- On the way to accepting a value, an alternative that rejects its part of the value is tried at a
depth, and another one taken. -/
inductive Dismisses : Schema → Value → (depth : Nat) → Schema → Value → Prop
  | here {alternatives : List Schema} {alternative : Schema} {value part : Value}
      (visited : (alternative, part) ∈ (oneOf alternatives).visits .exhaustive value)
      (rejected : alternative.accepts part = false) :
      Dismisses (oneOf alternatives) value 1 alternative part
  | inside {schema inner alternative : Schema} {value x part : Value} {depth : Nat}
      (visited : (inner, x) ∈ schema.visits .exhaustive value) (accepted : inner.accepts x = true)
      (dismissed : Dismisses inner x depth alternative part) :
      Dismisses schema value (depth + 1) alternative part

/-- **The full check of an accepted value goes as deep as the check that stops, and as deep as it goes
in dismissed alternatives.** -/
theorem visitedDepth_exhaustive_le_iff {schema : Schema} {value : Value} {n : Nat}
    (accepted : schema.accepts value = true) :
    schema.visitedDepth .exhaustive value ≤ n ↔
      schema.visitedDepth .failFast value ≤ n ∧
        ∀ depth alternative part, schema.Dismisses value depth alternative part →
          depth + alternative.visitedDepth .exhaustive part ≤ n := by
  induction schema, value using demand_induction generalizing n with
  | weigh schema value ih =>
    constructor
    · intro fits
      refine ⟨Nat.le_trans (visitedDepth_failFast_le schema value) fits, ?_⟩
      intro depth alternative part dismissed
      obtain ⟨room, inside⟩ := visitedDepth_le_iff.1 fits
      cases dismissed with
      | here visited rejected => exact inside _ visited
      | @inside _ inner _ _ x _ depth visited inner_accepted dismissed =>
        obtain ⟨step, wanted⟩ := exists_demand_of_mem_visits visited
        have below : inner.visitedDepth .exhaustive x ≤ n - 1 := by
          have : 1 + inner.visitedDepth .exhaustive x ≤ n := inside _ visited
          omega
        have := ((ih step inner x wanted inner_accepted).1 below).2 depth alternative part dismissed
        omega
    · rintro ⟨fits, dismissals⟩
      obtain ⟨room, inside⟩ := visitedDepth_le_iff.1 fits
      refine visitedDepth_le_iff.2 ⟨room, fun ⟨inner, x⟩ visited => ?_⟩
      cases verdict : inner.accepts x with
      | true =>
        obtain ⟨step, wanted⟩ := exists_demand_of_mem_visits visited
        have below : inner.visitedDepth .exhaustive x ≤ n - 1 := by
          refine (ih step inner x wanted verdict).2 ⟨?_, fun depth alternative part dismissed => ?_⟩
          · have : 1 + inner.visitedDepth .failFast x ≤ n :=
              inside (inner, x) (visits_of_accepts accepted ▸ visited)
            omega
          · have := dismissals (depth + 1) alternative part (.inside visited verdict dismissed)
            omega
        show 1 + inner.visitedDepth .exhaustive x ≤ n
        omega
      | false =>
        obtain ⟨alternatives, rfl⟩ := exists_oneOf_of_rejects accepted visited verdict
        exact dismissals 1 inner x (.here visited verdict)

end Schema

/-! ## Answers of validators -/

/-- The full check of an alternative that is dismissed goes deeper than the validator's limit. -/
def Validator.Overruns (validator : Validator) (schema : Schema) (value : Value) : Prop :=
  ∃ n, validator.maxDepth = some n ∧ ∃ depth alternative part,
    schema.Dismisses value depth alternative part ∧
      n < depth + alternative.visitedDepth .exhaustive part

/-- The full check of an accepted value fits the limit unless it overruns it in an alternative. -/
lemma Validator.fits_exhaustive_iff {validator : Validator} {schema : Schema} {value : Value}
    (fits : validator.fits .failFast schema value = true)
    (accepted : schema.accepts value = true) :
    validator.fits .exhaustive schema value = true ↔ ¬ validator.Overruns schema value := by
  obtain ⟨maxDepth⟩ := validator
  cases maxDepth with
  | none => simp [Validator.fits, Overruns]
  | some n =>
    simp only [Validator.fits, decide_eq_true_eq] at fits ⊢
    rw [Schema.visitedDepth_exhaustive_le_iff accepted]
    simp [Overruns, fits]

/-- **A validator that accepts a value has nothing to explain**, or it gives up: this happens exactly
when there is a limit and the full check of an alternative that was dismissed goes beyond it.  There
never is an explanation. -/
theorem explain_of_accepted (validator : Validator) (schema : Schema) (value : Value)
    (accepted : validator.accepts schema value = .ok true) :
    (validator.explain schema value = .ok none ∧ ¬ validator.Overruns schema value) ∨
      (validator.explain schema value = .error .maxDepthExceeded ∧
        validator.Overruns schema value) := by
  rw [validator.accepts_eq] at accepted
  split at accepted
  · rename_i fits
    have verdict := Except.ok.inj accepted
    have explained : schema.explain value = none := by
      rwa [schema.accepts_eq_isNone_explain, Option.isNone_iff_eq_none] at verdict
    rw [validator.explain_eq]
    by_cases overruns : validator.Overruns schema value
    · have := (Validator.fits_exhaustive_iff fits verdict).not.2 (not_not.2 overruns)
      exact Or.inr ⟨if_neg this, overruns⟩
    · have := (Validator.fits_exhaustive_iff fits verdict).2 overruns
      exact Or.inl ⟨by rw [if_pos this, explained], overruns⟩
  · cases accepted

/-- Under a limit of two, an object without its required key is dismissed before its other field is
looked at, and accepted by the next alternative.  The full check goes into that field. -/
theorem accepted_without_explanation :
    Validator.accepts ⟨some 2⟩
        (.oneOf [.object [("a", ⟨.null, true⟩), ("b", ⟨.null, true⟩)], .object []])
        (.object [("b", .bool true)]) = .ok true ∧
      Validator.explain ⟨some 2⟩
        (.oneOf [.object [("a", ⟨.null, true⟩), ("b", ⟨.null, true⟩)], .object []])
        (.object [("b", .bool true)]) = .error .maxDepthExceeded :=
  ⟨rfl, rfl⟩

/-- The same object under a limit that has room for the field. -/
theorem explain_of_accepted_with_room :
    let schema := Schema.oneOf [.object [("a", ⟨.null, true⟩), ("b", ⟨.null, true⟩)], .object []]
    let value := Value.object [("b", .bool true)]
    Validator.accepts ⟨some 3⟩ schema value = .ok true ∧
      ((Validator.explain ⟨some 3⟩ schema value = .ok none ∧
          ¬ Validator.Overruns ⟨some 3⟩ schema value) ∨
        (Validator.explain ⟨some 3⟩ schema value = .error .maxDepthExceeded ∧
          Validator.Overruns ⟨some 3⟩ schema value)) := by
  intro schema value
  have accepted : Validator.accepts ⟨some 3⟩ schema value = .ok true := rfl
  exact ⟨accepted, explain_of_accepted _ _ _ accepted⟩

end Conformance
