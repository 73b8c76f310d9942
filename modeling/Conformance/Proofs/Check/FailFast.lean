import Conformance.Check.Validator
import Conformance.Proofs.Check.Rejection
import Conformance.Schema.Combinators

/-!
# Stopping at the first cause

A check that stops at the first cause says nothing that a full check does not say.  It gives the
explanation of the full check, cut down to the first cause wherever all demands are wanted
(`Explanation.prune`), and it gives it whenever the full check has a result at all.

**A choice is not cut down.**  It is rejected only after all of its alternatives, so that both modes
see all of them; only what is below them is cut.

* `Schema.check_failFast`: the step for all depths, by induction over demands.
* `Schema.rejection?_failFast` and `Schema.accepts_eq_isNone_explain`: without a limit there always
  is a full result, and the two verdicts agree.
-/

namespace Conformance

/-! ## Cutting down explanations -/

mutual

/-- An explanation with the first cause of each node alone, apart from choices, which keep all. -/
def Explanation.prune : Explanation → Explanation
  | .leaf value isNot => .leaf value isNot
  | .node value isNot since =>
    .node value isNot (if isNot.isChoice then Cause.pruneAll since else Cause.pruneFirst since)
termination_by structural e => e

/-- A cause with its explanation cut down, if it has one. -/
def Cause.prune : Cause → Cause
  | .within step why => .within step why.prune
  | .missing key => .missing key
  | .same why => .same why.prune
termination_by structural c => c

/-- All causes, each cut down. -/
def Cause.pruneAll : List Cause → List Cause
  | [] => []
  | cause :: rest => cause.prune :: Cause.pruneAll rest
termination_by structural causes => causes

/-- The first cause, cut down. -/
def Cause.pruneFirst : List Cause → List Cause
  | [] => []
  | cause :: _ => [cause.prune]
termination_by structural causes => causes

end

lemma Cause.prune_at (step : Option Step) (why : Explanation) :
    (Cause.at step why).prune = Cause.at step why.prune := by
  cases step <;> rfl

lemma Explanation.prune_conclude (value : Value) (schema : Schema) (causes : List Cause)
    (noChoice : schema.isChoice = false) :
    conclude value schema (Cause.pruneFirst causes) =
      (conclude value schema causes).map Explanation.prune := by
  cases causes with
  | nil => rfl
  | cons cause rest => simp [conclude, prune, noChoice, Cause.pruneFirst]

/-! ## The two modes side by side -/

section Modes

variable {ε : Type} {full fast : Demand → Except ε (Option Cause)}

/-- Judgements of the mode that stops agree with those of the full mode, where these exist. -/
def Refines (full fast : Demand → Except ε (Option Cause)) (demands : List Demand) : Prop :=
  ∀ demand ∈ demands, ∀ found, full demand = .ok found → fast demand = .ok (found.map Cause.prune)

lemma Refines.tail {demand : Demand} {rest : List Demand}
    (refines : Refines full fast (demand :: rest)) : Refines full fast rest :=
  fun other mem => refines other (List.mem_cons_of_mem _ mem)

lemma gather_failFast {demands : List Demand} {causes : List Cause}
    (refines : Refines full fast demands)
    (gathered : Mode.exhaustive.gather full demands = .ok causes) :
    Mode.failFast.gather fast demands = .ok (Cause.pruneFirst causes) := by
  induction demands generalizing causes with
  | nil =>
    cases gathered
    rfl
  | cons demand rest ih =>
    obtain ⟨found, judged, collected⟩ := bind_eq_ok_iff.1 gathered
    rw [Mode.gather, refines demand (by simp) found judged]
    cases found with
    | none => exact ih refines.tail collected
    | some cause =>
      obtain ⟨others, -, rfl⟩ := map_eq_ok_iff.1 collected
      rfl

lemma gatherChoice_failFast {demands : List Demand} {causes : Option (List Cause)}
    (refines : Refines full fast demands) (gathered : gatherChoice full demands = .ok causes) :
    gatherChoice fast demands = .ok (causes.map Cause.pruneAll) := by
  induction demands generalizing causes with
  | nil =>
    cases gathered
    rfl
  | cons demand rest ih =>
    obtain ⟨found, judged, chosen⟩ := bind_eq_ok_iff.1 gathered
    rw [gatherChoice, refines demand (by simp) found judged]
    cases found with
    | none =>
      cases chosen
      rfl
    | some cause =>
      obtain ⟨others, gathered_rest, ⟨⟩⟩ := bind_eq_ok_iff.1 chosen
      show (gatherChoice fast rest >>= _) = _
      rw [ih refines.tail gathered_rest]
      cases others <;> rfl

lemma Schema.weigh_failFast {schema : Schema} {value : Value} {result : Option Explanation}
    (refines : Refines full fast (schema.demands value))
    (weighed : schema.weigh .exhaustive full value = .ok result) :
    schema.weigh .failFast fast value = .ok (result.map Explanation.prune) := by
  rw [weigh] at weighed ⊢
  split at weighed
  · rename_i looks
    rw [if_pos looks]
    split at weighed
    · rename_i choice
      obtain ⟨causes, gathered, ⟨⟩⟩ := bind_eq_ok_iff.1 weighed
      rw [if_pos choice, gatherChoice_failFast refines gathered]
      cases causes with
      | none => rfl
      | some causes => simp [Explanation.prune, choice]
    · rename_i noChoice
      obtain ⟨causes, gathered, ⟨⟩⟩ := bind_eq_ok_iff.1 weighed
      rw [if_neg noChoice, gather_failFast refines gathered, ok_bind,
        Explanation.prune_conclude _ _ _ (Bool.eq_false_iff.2 noChoice)]
  · rename_i outright
    rw [if_neg outright]
    cases weighed
    split <;> rfl

/-- A full check that has a result, at any depth, is cut down by the check that stops. -/
theorem Schema.check_failFast (limit : Limit ε) (schema : Schema) (value : Value) :
    ∀ depth result, schema.check limit .exhaustive depth value = .ok result →
      schema.check limit .failFast depth value = .ok (result.map Explanation.prune) := by
  induction schema, value using demand_induction with
  | weigh schema value ih =>
    intro depth result checked
    rw [check_eq] at checked ⊢
    obtain ⟨⟨⟩, entered, weighed⟩ := bind_eq_ok_iff.1 checked
    rw [entered, ok_bind]
    refine weigh_failFast (fun demand mem found judged => ?_) weighed
    cases demand with
    | part step inner part =>
      obtain ⟨why, explained, ⟨⟩⟩ := bind_eq_ok_iff.1 judged
      rw [Demand.check, ih step inner part mem _ why explained]
      cases why with
      | none => rfl
      | some why => simp [Cause.prune_at]
    | presence key =>
      cases judged
      rfl

end Modes

/-! ## Verdicts -/

namespace Schema

lemma rejection?_failFast (schema : Schema) (value : Value) :
    schema.rejection? .failFast value = (schema.explain value).map Explanation.prune := by
  have full := check_unbounded .exhaustive 0 schema value
  have fast := check_failFast .unbounded schema value 0 _ full
  rw [check_unbounded] at fast
  exact Except.ok.inj fast

/-- A schema accepts what it has no explanation for. -/
lemma accepts_eq_isNone_explain (schema : Schema) (value : Value) :
    schema.accepts value = (schema.explain value).isNone := by
  rw [accepts_eq_isNone_rejection?, rejection?_failFast, Option.isNone_map]

/-- A schema rejects what it has an explanation for. -/
lemma accepts_eq_false_iff {schema : Schema} {value : Value} :
    schema.accepts value = false ↔ (schema.explain value).isSome = true := by
  rw [accepts_eq_isNone_explain]
  cases schema.explain value <;> simp

end Schema

/-- **The mode that stops at the first cause refines the full mode.**  Whenever the full check has a
result, under any limit, the other check has it too, cut down.  Hence a schema without a limit
accepts exactly what it has no explanation for, and a validator that can explain can also decide. -/
theorem failFast_refines_exhaustive :
    (∀ {ε : Type} (limit : Limit ε) (schema : Schema) (value : Value) (result : Option Explanation),
      schema.check limit .exhaustive 0 value = .ok result →
        schema.check limit .failFast 0 value = .ok (result.map Explanation.prune)) ∧
    (∀ (schema : Schema) (value : Value),
      schema.accepts value = true ↔ schema.explain value = none) ∧
    (∀ (validator : Validator) (schema : Schema) (value : Value) (e : Option Explanation),
      validator.explain schema value = .ok e → validator.accepts schema value = .ok e.isNone) := by
  refine ⟨fun limit schema value result => schema.check_failFast limit value 0 result,
    fun schema value => ?_, fun validator schema value e explained => ?_⟩
  · rw [schema.accepts_eq_isNone_explain, Option.isNone_iff_eq_none]
  · rw [Validator.explain, Validator.check] at explained
    rw [Validator.accepts, Validator.check]
    split at explained
    · rw [schema.check_failFast _ _ _ _ explained, ok_bind, Option.isNone_map]
    · cases explained
      rw [ok_bind]
      exact congrArg Except.ok (schema.accepts_eq_isNone_explain value)

/-- An integer of its own kind under an intersection of a choice and a primitive: the choice names
both alternatives in either mode, and what is inside them is cut down. -/
theorem failFast_refines_exhaustive_choice :
    ∃ why,
      Schema.check (.maxDepth 4) .exhaustive 0
          (.allOf [.oneOf [.allOf [.null, .string], .boolean], .number]) (.bigInt 1) =
        .ok (some why) ∧
      Schema.check (.maxDepth 4) .failFast 0
          (.allOf [.oneOf [.allOf [.null, .string], .boolean], .number]) (.bigInt 1) =
        .ok (some why.prune) ∧
      Validator.accepts ⟨some 4⟩
          (.allOf [.oneOf [.allOf [.null, .string], .boolean], .number]) (.bigInt 1) =
        .ok false := by
  have checked : Schema.check (.maxDepth 4) .exhaustive 0
      (.allOf [.oneOf [.allOf [.null, .string], .boolean], .number]) (.bigInt 1) =
    .ok (some _) := rfl
  have explained : Validator.explain ⟨some 4⟩
      (.allOf [.oneOf [.allOf [.null, .string], .boolean], .number]) (.bigInt 1) =
    .ok (some _) := checked
  exact ⟨_, checked, failFast_refines_exhaustive.1 _ _ _ _ checked,
    failFast_refines_exhaustive.2.2 _ _ _ _ explained⟩

end Conformance
