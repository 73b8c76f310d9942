import Conformance.Proofs.Check.Demand

/-!
# Checks without a limit

Without a limit a check cannot fail, and the depth at which it starts does not matter.  Its result
is `Schema.rejection?`, the explanation of a rejection if there is one, and it follows from the
rejections behind the demands alone.

* `Schema.check_unbounded`: the check at any depth is `rejection?`.
* **`Schema.rejection?_eq`**: `rejection?` is the `conclusion` from the causes of the demands.
* `Schema.cases_of_explain`: what an explanation can be, for all forms of schemas at once.
-/

namespace Conformance

/-- The causes that a mode keeps of those that there are. -/
def Mode.keep : Mode → List Cause → List Cause
  | .failFast, causes => causes.take 1
  | .exhaustive, causes => causes

/-- The judgement of a schema on a value if every demand has a cause or is met, and no judgement on
a demand fails. -/
def Schema.conclusion (mode : Mode) (cause? : Demand → Option Cause) (schema : Schema)
    (value : Value) : Option Explanation :=
  let causes := (schema.demands value).filterMap cause?
  if schema.looksInto value then
    if schema.isChoice then
      if (schema.demands value).all fun demand => (cause? demand).isSome then
        some (.node value schema causes)
      else
        none
    else
      conclude value schema (mode.keep causes)
  else if schema.acceptsOutright value then
    none
  else
    some (.leaf value schema)

/-! ## Weighing certain judgements -/

section Certain

variable {ε : Type} {mode : Mode} {judge judge' : Demand → Except ε (Option Cause)}

lemma gather_congr {demands : List Demand}
    (same : ∀ demand ∈ demands, judge demand = judge' demand) :
    mode.gather judge demands = mode.gather judge' demands := by
  induction demands with
  | nil => rfl
  | cons demand rest ih =>
    rw [Mode.gather, Mode.gather, same demand (by simp),
      ih fun other mem => same other (List.mem_cons_of_mem _ mem)]

lemma gatherChoice_congr {demands : List Demand}
    (same : ∀ demand ∈ demands, judge demand = judge' demand) :
    gatherChoice judge demands = gatherChoice judge' demands := by
  induction demands with
  | nil => rfl
  | cons demand rest ih =>
    rw [gatherChoice, gatherChoice, same demand (by simp),
      ih fun other mem => same other (List.mem_cons_of_mem _ mem)]

/-- Only the judgements on the demands of the schema matter. -/
lemma Schema.weigh_congr {schema : Schema} {value : Value}
    (same : ∀ demand ∈ schema.demands value, judge demand = judge' demand) :
    schema.weigh mode judge value = schema.weigh mode judge' value := by
  rw [weigh, weigh, gather_congr same, gatherChoice_congr same]

variable (mode) (cause? : Demand → Option Cause)

lemma gather_ok (demands : List Demand) :
    mode.gather (fun demand => (.ok (cause? demand) : Except ε _)) demands =
      .ok (mode.keep (demands.filterMap cause?)) := by
  induction demands with
  | nil => cases mode <;> rfl
  | cons demand rest ih =>
    rw [Mode.gather, ih, List.filterMap_cons]
    cases cause? demand with
    | none => rfl
    | some cause => cases mode <;> rfl

lemma gatherChoice_ok (demands : List Demand) :
    gatherChoice (fun demand => (.ok (cause? demand) : Except ε _)) demands =
      .ok (if demands.all fun demand => (cause? demand).isSome then
        some (demands.filterMap cause?) else none) := by
  induction demands with
  | nil => rfl
  | cons demand rest ih =>
    rw [gatherChoice, ih, List.filterMap_cons, List.all_cons]
    cases cause? demand with
    | none => rfl
    | some cause =>
      show Except.ok (Option.map _ _) = _
      rw [Option.isSome_some, Bool.true_and]
      split <;> rfl

/-- Certain judgements on the demands give a certain judgement on the value. -/
lemma Schema.weigh_ok (schema : Schema) (value : Value) :
    schema.weigh mode (fun demand => (.ok (cause? demand) : Except ε _)) value =
      .ok (schema.conclusion mode cause? value) := by
  rw [weigh, conclusion, gather_ok, gatherChoice_ok]
  by_cases looks : schema.looksInto value = true
  · rw [if_pos looks, if_pos looks]
    by_cases choice : schema.isChoice = true
    · rw [if_pos choice, if_pos choice]
      show Except.ok (Option.map _ _) = _
      split <;> rfl
    · rw [if_neg choice, if_neg choice]
      rfl
  · rw [if_neg looks, if_neg looks]

end Certain

/-! ## The result of a check without a limit -/

/-- Why a schema rejects a value, in a mode. -/
def Schema.rejection? (mode : Mode) (schema : Schema) (value : Value) : Option Explanation :=
  certain (schema.check .unbounded mode 0 value)

/-- The cause that a demand gives rise to without a limit, if it is not met. -/
def Demand.cause? (mode : Mode) : Demand → Option Cause
  | part step schema value => (schema.rejection? mode value).map (Cause.at step)
  | presence key => some (.missing key)

namespace Schema

lemma explain_eq_rejection? (schema : Schema) (value : Value) :
    schema.explain value = schema.rejection? .exhaustive value := rfl

lemma accepts_eq_isNone_rejection? (schema : Schema) (value : Value) :
    schema.accepts value = (schema.rejection? .failFast value).isNone := rfl

/-- Without a limit it does not matter at which depth a check starts. -/
theorem check_unbounded (mode : Mode) (depth : Nat) (schema : Schema) (value : Value) :
    schema.check .unbounded mode depth value = .ok (schema.rejection? mode value) := by
  have depth_free : ∀ depth, schema.check .unbounded mode depth value =
      schema.check .unbounded mode 0 value := by
    induction schema, value using demand_induction with
    | weigh schema value ih =>
      intro depth
      rw [check_eq, check_eq]
      refine weigh_congr fun demand mem => ?_
      cases demand with
      | part step inner part => rw [Demand.check, Demand.check, ih _ _ _ mem, ih _ _ _ mem (0 + 1)]
      | presence key => rfl
  rw [depth_free, rejection?, ok_certain]

lemma check_demand_unbounded (mode : Mode) (depth : Nat) (demand : Demand) :
    demand.check .unbounded mode depth = .ok (demand.cause? mode) := by
  cases demand with
  | part step schema value => rw [Demand.check, check_unbounded]; rfl
  | presence key => rfl

/-- **The result of a check is the conclusion from the causes of the demands.** -/
theorem rejection?_eq (mode : Mode) (schema : Schema) (value : Value) :
    schema.rejection? mode value = schema.conclusion mode (Demand.cause? mode) value := by
  have checked := check_unbounded mode 0 schema value
  rw [check_eq] at checked
  have weighed : schema.weigh mode (Demand.check .unbounded mode (0 + 1)) value =
      .ok (schema.conclusion mode (Demand.cause? mode) value) := by
    rw [← weigh_ok]
    exact weigh_congr fun demand _ => check_demand_unbounded mode (0 + 1) demand
  exact Except.ok.inj (checked.symm.trans weighed)

/-- **What an explanation can be.**  A value that is not looked into is a leaf.  A choice explains
the rejections of all its demands, and everything else those that there are, at least one. -/
lemma cases_of_explain {schema : Schema} {value : Value} {e : Explanation}
    (explained : schema.explain value = some e) :
    (schema.looksInto value = false ∧ e = .leaf value schema) ∨
    (schema.looksInto value = true ∧
      e = .node value schema ((schema.demands value).filterMap (Demand.cause? .exhaustive)) ∧
      (if schema.isChoice then
        ∀ demand ∈ schema.demands value, (demand.cause? .exhaustive).isSome = true
      else
        (schema.demands value).filterMap (Demand.cause? .exhaustive) ≠ [])) := by
  rw [explain_eq_rejection?, rejection?_eq, conclusion] at explained
  split at explained
  · rename_i looks
    refine Or.inr ⟨looks, ?_⟩
    split at explained
    · rename_i choice
      split at explained
      · rename_i all
        rw [if_pos choice]
        cases explained
        exact ⟨rfl, List.all_eq_true.1 all⟩
      · cases explained
    · rename_i noChoice
      rw [if_neg noChoice]
      simp only [Mode.keep] at explained
      generalize (schema.demands value).filterMap (Demand.cause? .exhaustive) = causes
        at explained ⊢
      cases causes with
      | nil => cases explained
      | cons cause rest =>
        cases explained
        exact ⟨rfl, List.cons_ne_nil _ _⟩
  · rename_i outright
    split at explained
    · cases explained
    · cases explained
      exact Or.inl ⟨Bool.eq_false_iff.2 outright, rfl⟩

/-- An explanation is about the schema and the value that were checked. -/
lemma subject_of_explain {schema : Schema} {value : Value} {e : Explanation}
    (explained : schema.explain value = some e) : e.value = value ∧ e.isNot = schema := by
  rcases cases_of_explain explained with ⟨-, rfl⟩ | ⟨-, rfl, -⟩
  · exact ⟨rfl, rfl⟩
  · exact ⟨rfl, rfl⟩

end Schema

end Conformance
