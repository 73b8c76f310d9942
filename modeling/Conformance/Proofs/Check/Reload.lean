import Conformance.Check.Validator
import Conformance.Proofs.Check.Demand
import Conformance.Proofs.Schema.Reload

/-!
# Checks by reloaded schemas

A schema that was written and loaded again differs from the original in the signs of zeros
(`Schema.unsignZeros`), and numbers are compared as numbers.  So **a check by one schema is a check by
the other**, under any limit, and their explanations differ in the schemas that they name
(`Schema.check_unsignZeros`).

The demands of a schema do not depend on its literals (`demands_unsignZeros`), so that the two checks
go through the same parts of a value side by side.
-/

namespace Conformance

/-! ## Explanations without the signs of zeros -/

mutual

/-- The explanation with `Schema.unsignZeros` applied to all schemas that it names. -/
def Explanation.unsignZeros : Explanation → Explanation
  | .leaf value isNot => .leaf value isNot.unsignZeros
  | .node value isNot since => .node value isNot.unsignZeros (Cause.unsignZerosAll since)
termination_by structural e => e

/-- `Explanation.unsignZeros` inside a cause. -/
def Cause.unsignZeros : Cause → Cause
  | .within step why => .within step why.unsignZeros
  | .missing key => .missing key
  | .same why => .same why.unsignZeros
termination_by structural c => c

/-- `Explanation.unsignZeros` inside all causes. -/
def Cause.unsignZerosAll : List Cause → List Cause
  | [] => []
  | cause :: rest => cause.unsignZeros :: Cause.unsignZerosAll rest
termination_by structural causes => causes

end

lemma Cause.unsignZerosAll_eq_map (causes : List Cause) :
    unsignZerosAll causes = causes.map unsignZeros := by
  induction causes with
  | nil => rfl
  | cons cause rest ih => rw [unsignZerosAll, ih, List.map_cons]

lemma Cause.unsignZeros_at (step : Option Step) (why : Explanation) :
    (Cause.at step why).unsignZeros = Cause.at step why.unsignZeros := by
  cases step <;> rfl

lemma conclude_unsignZeros (value : Value) (schema : Schema) (causes : List Cause) :
    conclude value schema.unsignZeros (causes.map Cause.unsignZeros) =
      (conclude value schema causes).map Explanation.unsignZeros := by
  cases causes with
  | nil => rfl
  | cons cause rest =>
    simp [conclude, Explanation.unsignZeros, Cause.unsignZerosAll_eq_map]

/-! ## The same demands -/

/-- The demand with `Schema.unsignZeros` applied to its schema. -/
def Demand.unsignZeros : Demand → Demand
  | part step schema value => part step schema.unsignZeros value
  | presence key => presence key

namespace Schema

lemma ofMember?_unsignZerosMember (fields : List (String × Value))
    (member : String × Member Schema) :
    Demand.ofMember? fields (unsignZerosMember member) =
      (Demand.ofMember? fields member).map Demand.unsignZeros := by
  rw [Demand.ofMember?, Demand.ofMember?, unsignZerosMember]
  cases Value.present? fields member.1 with
  | none => cases member.2.required <;> rfl
  | some field => rfl

/-- **The demands are the same, by schemas without the signs of zeros.** -/
lemma demands_unsignZeros (schema : Schema) (value : Value) :
    schema.unsignZeros.demands value = (schema.demands value).map Demand.unsignZeros := by
  cases schema with
  | primitive p => rfl
  | literal scalar spelling => rfl
  | object members =>
    cases value with
    | object fields =>
      rw [unsignZeros, demands, demands, unsignZerosMembers_eq_map, List.filterMap_map,
        List.map_filterMap]
      congr 1
      funext member
      exact ofMember?_unsignZerosMember fields member
    | _ => rfl
  | oneOf alternatives =>
    rw [unsignZeros, demands, demands, unsignZerosAll_eq_map, List.map_map, List.map_map]
    rfl
  | allOf parts =>
    rw [unsignZeros, demands, demands, unsignZerosAll_eq_map, List.map_map, List.map_map]
    rfl
  | arrayOf element =>
    cases value with
    | array elements =>
      rw [unsignZeros, demands, demands, List.map_map]
      rfl
    | _ => rfl

lemma looksInto_unsignZeros (schema : Schema) (value : Value) :
    schema.unsignZeros.looksInto value = schema.looksInto value := by
  cases schema with
  | object members => cases value <;> rfl
  | arrayOf element => cases value <;> rfl
  | _ => rfl

lemma isChoice_unsignZeros (schema : Schema) : schema.unsignZeros.isChoice = schema.isChoice := by
  cases schema <;> rfl

end Schema

/-- The sign of a zero makes no difference to what a scalar accepts. -/
lemma Scalar.accepts_unsignZero (scalar : Scalar) (value : Value) :
    scalar.unsignZero.accepts value = scalar.accepts value := by
  cases scalar with
  | number x =>
    cases value with
    | number y => exact Binary64.unsignZero_beq x y
    | _ => rfl
  | _ => rfl

lemma Schema.acceptsOutright_unsignZeros (schema : Schema) (value : Value) :
    schema.unsignZeros.acceptsOutright value = schema.acceptsOutright value := by
  cases schema with
  | literal scalar spelling => exact scalar.accepts_unsignZero value
  | _ => rfl

/-! ## The same checks -/

section Checks

variable {ε : Type} {judge : Demand → Except ε (Option Cause)}

/-- A judge gives the causes for a demand without the signs of zeros that it gives with them. -/
def IgnoresSigns (judge : Demand → Except ε (Option Cause)) (demand : Demand) : Prop :=
  judge demand.unsignZeros = (judge demand).map (Option.map Cause.unsignZeros)

lemma gather_unsignZeros {mode : Mode} {demands : List Demand}
    (same : ∀ demand ∈ demands, IgnoresSigns judge demand) :
    mode.gather judge (demands.map Demand.unsignZeros) =
      (mode.gather judge demands).map (List.map Cause.unsignZeros) := by
  induction demands with
  | nil => rfl
  | cons demand rest ih =>
    obtain ⟨head, tail⟩ := List.forall_mem_cons.1 same
    rw [List.map_cons, Mode.gather, Mode.gather, head, ih tail]
    cases judge demand with
    | error e => rfl
    | ok found =>
      cases found with
      | none => rfl
      | some cause =>
        cases mode with
        | failFast => rfl
        | exhaustive =>
          show Except.map _ _ = Except.map _ (Except.map _ _)
          cases Mode.exhaustive.gather judge rest <;> rfl

lemma gatherChoice_unsignZeros {demands : List Demand}
    (same : ∀ demand ∈ demands, IgnoresSigns judge demand) :
    gatherChoice judge (demands.map Demand.unsignZeros) =
      (gatherChoice judge demands).map (Option.map (List.map Cause.unsignZeros)) := by
  induction demands with
  | nil => rfl
  | cons demand rest ih =>
    obtain ⟨head, tail⟩ := List.forall_mem_cons.1 same
    rw [List.map_cons, gatherChoice, gatherChoice, head, ih tail]
    cases judge demand with
    | error e => rfl
    | ok found =>
      cases found with
      | none => rfl
      | some cause =>
        cases gatherChoice judge rest with
        | error e => rfl
        | ok causes => cases causes <;> rfl

lemma Schema.weigh_unsignZeros {mode : Mode} {schema : Schema} {value : Value}
    (same : ∀ demand ∈ schema.demands value, IgnoresSigns judge demand) :
    schema.unsignZeros.weigh mode judge value =
      (schema.weigh mode judge value).map (Option.map Explanation.unsignZeros) := by
  rw [weigh, weigh, looksInto_unsignZeros, isChoice_unsignZeros, acceptsOutright_unsignZeros,
    demands_unsignZeros, gather_unsignZeros same, gatherChoice_unsignZeros same]
  split
  · split
    · cases gatherChoice judge (schema.demands value) with
      | error e => rfl
      | ok causes =>
        cases causes with
        | none => rfl
        | some causes =>
          have node : Explanation.unsignZeros (.node value schema causes) =
              .node value schema.unsignZeros (causes.map Cause.unsignZeros) := by
            rw [Explanation.unsignZeros, Cause.unsignZerosAll_eq_map]
          exact congrArg (Except.ok ∘ some) node.symm
    · cases mode.gather judge (schema.demands value) with
      | error e => rfl
      | ok causes => exact congrArg Except.ok (conclude_unsignZeros value schema causes)
  · split <;> rfl

/-- **A check by the schema without the signs of zeros is the same check**, and its explanation the
same explanation. -/
theorem Schema.check_unsignZeros (limit : Limit ε) (mode : Mode) (schema : Schema) (value : Value) :
    ∀ depth, schema.unsignZeros.check limit mode depth value =
      (schema.check limit mode depth value).map (Option.map Explanation.unsignZeros) := by
  induction schema, value using demand_induction with
  | weigh schema value ih =>
    intro depth
    rw [check_eq, check_eq, weigh_unsignZeros]
    · cases limit.enter depth <;> rfl
    · intro demand mem
      cases demand with
      | part step inner part =>
        rw [IgnoresSigns, Demand.unsignZeros, Demand.check, Demand.check, ih step inner part mem]
        cases inner.check limit mode (depth + 1) part with
        | error e => rfl
        | ok why =>
          cases why with
          | none => rfl
          | some why => exact congrArg (Except.ok ∘ some) (Cause.unsignZeros_at step why).symm
      | presence key => rfl

end Checks

/-! ## The same answers -/

namespace Validator

lemma check_unsignZeros (validator : Validator) (mode : Mode) (schema : Schema) (value : Value) :
    validator.check mode schema.unsignZeros value =
      (validator.check mode schema value).map (Option.map Explanation.unsignZeros) := by
  rw [check, check]
  split
  · exact schema.check_unsignZeros _ mode value 0
  · rw [schema.check_unsignZeros]
    cases schema.check .unbounded mode 0 value with
    | ok why => rfl
    | error impossible => cases impossible

lemma accepts_unsignZeros (validator : Validator) (schema : Schema) (value : Value) :
    validator.accepts schema.unsignZeros value = validator.accepts schema value := by
  rw [accepts, accepts, check_unsignZeros]
  cases validator.check .failFast schema value with
  | error e => rfl
  | ok why => cases why <;> rfl

lemma explain_unsignZeros (validator : Validator) (schema : Schema) (value : Value) :
    validator.explain schema.unsignZeros value =
      (validator.explain schema value).map (Option.map Explanation.unsignZeros) :=
  validator.check_unsignZeros .exhaustive schema value

end Validator

end Conformance
