import Conformance.Proofs.Explanation.Address
import Mathlib.Algebra.Order.Ring.Nat

/-!
# Explanations do not blow up

Choices, intersections and arrays look at the same value, or use the same schema, many times over,
and they are nested without a limit.  Still **an explanation has no more nodes than there are pairs
of a schema inside the schema and a value inside the value** (`explanation_is_bounded`).  Demands
about the same value are about different schemas, and demands about the same schema are about
different elements, so that no such pair is paid for twice.

* `Value.size` counts the values inside a value, as `Schema.size` does for schemas.
* `Explanation.size` counts the nodes of an explanation, and with them the keys that it finds
  missing.  There are no more failures than that (`Explanation.length_failuresAt_le`).
* `Schema.sum_bound_lt` is the step: what the demands of a schema may cost is less than what the
  schema itself may.
-/

namespace Conformance

/-! ## The size of a value -/

namespace Value

mutual

/-- How many values there are, the outermost one included. -/
def size : Value → Nat
  | undefined | null | bool _ | number _ | bigInt _ | string _ => 1
  | array elements => 1 + sizeElements elements
  | object fields => 1 + sizeFields fields

/-- The sizes of elements, added up. -/
def sizeElements : List Value → Nat
  | [] => 0
  | element :: rest => element.size + sizeElements rest

/-- The sizes of the contents of fields, added up. -/
def sizeFields : List (String × Value) → Nat
  | [] => 0
  | (_, content) :: rest => content.size + sizeFields rest

end

lemma size_pos (v : Value) : 0 < v.size := by
  cases v <;> rw [size] <;> omega

lemma size_le_sizeFields {fields : List (String × Value)} {field : String × Value}
    (mem : field ∈ fields) : field.2.size ≤ sizeFields fields := by
  induction fields with
  | nil => cases mem
  | cons head rest ih =>
    rw [sizeFields]
    rcases List.mem_cons.1 mem with rfl | later
    · omega
    · have := ih later
      omega

/-- A field that is present is smaller than the object. -/
lemma size_lt_of_present? {fields : List (String × Value)} {name : String} {field : Value}
    (present : present? fields name = some field) : field.size < (object fields).size := by
  have mem : (name, field) ∈ fields :=
    Entries.mem_of_lookup (Option.filter_eq_some_iff.1 present).1
  have inside : field.size ≤ sizeFields fields := size_le_sizeFields mem
  rw [size]
  omega

end Value

lemma Schema.size_pos (schema : Schema) : 0 < schema.size := by
  cases schema <;> rw [size] <;> omega

/-! ## What demands may cost -/

/-- How large the cause of a demand may be. -/
def Demand.bound : Demand → Nat
  | part _ schema value => schema.size * value.size
  | presence _ => 1

namespace Schema

/-- Each member is about one field at most, and a field is smaller than the object. -/
lemma sum_bound_ofMember?_le (fields : List (String × Value))
    (members : List (String × Member Schema)) :
    ((members.filterMap (Demand.ofMember? fields)).map Demand.bound).sum ≤
      sizeMembers members * (Value.object fields).size := by
  induction members with
  | nil => simp
  | cons member rest ih =>
    obtain ⟨key, member⟩ := member
    have object_pos := (Value.object fields).size_pos
    have schema_pos := member.schema.size_pos
    rw [sizeMembers, Nat.add_mul, List.filterMap_cons, Demand.ofMember?]
    cases present : Value.present? fields key with
    | none =>
      have one_le : 1 ≤ member.schema.size * (Value.object fields).size :=
        Nat.mul_pos schema_pos object_pos
      cases member.required with
      | false => exact Nat.le_add_left_of_le ih
      | true => exact Nat.add_le_add one_le ih
    | some field =>
      have smaller := Nat.le_of_lt (Value.size_lt_of_present? present)
      exact Nat.add_le_add (Nat.mul_le_mul_left _ smaller) ih

/-- Alternatives and parts are about the same value. -/
lemma sum_bound_ofSame (value : Value) (schemas : List Schema) :
    ((schemas.map (Demand.ofSame value)).map Demand.bound).sum = sizeAll schemas * value.size := by
  induction schemas with
  | nil => simp [sizeAll]
  | cons schema rest ih =>
    rw [List.map_cons, List.map_cons, List.sum_cons, ih, sizeAll, Nat.add_mul]
    rfl

/-- Elements are about the same schema. -/
lemma sum_bound_ofElement (element : Schema) (elements : List Value) (index : Nat) :
    (((elements.zipIdx index).map (Demand.ofElement element)).map Demand.bound).sum =
      element.size * Value.sizeElements elements := by
  induction elements generalizing index with
  | nil => simp [Value.sizeElements]
  | cons head rest ih =>
    rw [List.zipIdx_cons, List.map_cons, List.map_cons, List.sum_cons, ih, Value.sizeElements,
      Nat.mul_add]
    rfl

/-- **What the demands may cost is less than what the schema may.** -/
lemma sum_bound_lt (schema : Schema) (value : Value) :
    ((schema.demands value).map Demand.bound).sum < schema.size * value.size := by
  have positive : 0 < schema.size * value.size := Nat.mul_pos schema.size_pos value.size_pos
  have value_pos := value.size_pos
  cases schema with
  | primitive p => exact positive
  | literal scalar spelling => exact positive
  | object members =>
    cases value with
    | object fields =>
      have members_le := sum_bound_ofMember?_le fields members
      rw [size, Nat.add_mul]
      exact Nat.lt_of_le_of_lt members_le (by omega)
    | _ => exact positive
  | oneOf alternatives =>
    rw [demands, sum_bound_ofSame, size, Nat.add_mul]
    omega
  | allOf parts =>
    rw [demands, sum_bound_ofSame, size, Nat.add_mul]
    omega
  | arrayOf element =>
    cases value with
    | array elements =>
      have rest_le : element.size * Value.sizeElements elements ≤
          element.size * (Value.array elements).size :=
        Nat.mul_le_mul_left _ (by rw [Value.size]; omega)
      rw [demands, sum_bound_ofElement, size, Nat.add_mul]
      omega
    | _ => exact positive

end Schema

/-! ## The size of an explanation -/

/-- The key that a cause finds missing. -/
def Cause.missingKey? : Cause → Option String
  | missing key => some key
  | _ => none

namespace Explanation

/-- The keys that a node itself finds missing. -/
def ownMissingKeys (e : Explanation) : List String :=
  (e.since?.getD []).filterMap Cause.missingKey?

/-- The keys that the nodes of an explanation find missing, one for each time. -/
def allMissingKeys (e : Explanation) : List String :=
  e.nodes.flatMap ownMissingKeys

/-- How many nodes there are in an explanation, with one for each missing key. -/
def size (e : Explanation) : Nat :=
  e.nodes.length + e.allMissingKeys.length

end Explanation

/-- How many nodes there are in a cause. -/
def Cause.size : Cause → Nat
  | within _ why => why.size
  | missing _ => 1
  | same why => why.size

/-- The sizes of causes count the nodes inside them, the keys that they find missing themselves, and
those that the nodes do. -/
lemma Cause.sum_size_eq (causes : List Cause) :
    (causes.map size).sum = (nodes causes).length + (causes.filterMap missingKey?).length +
      ((nodes causes).flatMap Explanation.ownMissingKeys).length := by
  induction causes with
  | nil => rfl
  | cons cause rest ih =>
    rw [List.map_cons, List.sum_cons, ih]
    cases cause with
    | missing key =>
      simp only [nodes, size, List.filterMap_cons, missingKey?, List.length_cons]
      omega
    | _ =>
      simp only [nodes, size, Explanation.size, Explanation.allMissingKeys, List.length_append,
        List.flatMap_append, List.filterMap_cons, missingKey?]
      omega

/-- **The size of a node is that of its causes and one more.** -/
lemma Explanation.size_node (value : Value) (isNot : Schema) (since : List Cause) :
    (node value isNot since).size = 1 + (since.map Cause.size).sum := by
  have own : (node value isNot since).ownMissingKeys = since.filterMap Cause.missingKey? := rfl
  rw [Cause.sum_size_eq, size, allMissingKeys, nodes, List.length_cons, List.flatMap_cons,
    List.length_append, own]
  omega

/-! ## Explanations against schemas and values -/

/-- The causes of demands are no larger than what the demands may cost. -/
lemma Cause.sum_size_le {demands : List Demand}
    (bounded : ∀ demand ∈ demands, ∀ cause, demand.cause? .exhaustive = some cause →
      cause.size ≤ demand.bound) :
    ((demands.filterMap (Demand.cause? .exhaustive)).map size).sum ≤
      (demands.map Demand.bound).sum := by
  induction demands with
  | nil => simp
  | cons demand rest ih =>
    obtain ⟨first, later⟩ := List.forall_mem_cons.1 bounded
    rw [List.filterMap_cons, List.map_cons, List.sum_cons]
    cases caused : demand.cause? .exhaustive with
    | none => exact Nat.le_add_left_of_le (ih later)
    | some cause => exact Nat.add_le_add (first cause caused) (ih later)

lemma Cause.size_at (step : Option Step) (why : Explanation) :
    (Cause.at step why).size = why.size := by
  cases step <;> rfl

/-- **An explanation is no larger than the schema times the value.** -/
lemma Explanation.size_le {schema : Schema} {value : Value} {e : Explanation}
    (explained : schema.explain value = some e) : e.size ≤ schema.size * value.size := by
  induction schema, value using Schema.demand_induction generalizing e with
  | weigh schema value ih =>
    have positive : 0 < schema.size * value.size := Nat.mul_pos schema.size_pos value.size_pos
    rcases Schema.cases_of_explain explained with ⟨-, rfl⟩ | ⟨-, rfl, -⟩
    · exact positive
    · have causes :
          (((schema.demands value).filterMap (Demand.cause? .exhaustive)).map Cause.size).sum ≤
            ((schema.demands value).map Demand.bound).sum := by
        refine Cause.sum_size_le fun demand mem cause caused => ?_
        cases demand with
        | part step inner part =>
          obtain ⟨why, explained, rfl⟩ := Option.map_eq_some_iff.1 caused
          rw [Cause.size_at]
          exact ih step inner part mem explained
        | presence key =>
          cases caused
          exact Nat.le_refl _
      have less := schema.sum_bound_lt value
      rw [size_node]
      omega

/-! ## Failures -/

lemma Failure.length_ofNode_le (path : Pointer) (value : Value) (schema : Schema) :
    (ofNode path value schema).length ≤ 1 := by
  cases schema <;> simp [ofNode]

mutual

/-- **Each failure is a node or a missing key.** -/
theorem Explanation.length_failuresAt_le (path : Pointer) :
    ∀ e : Explanation, (e.failuresAt path).length ≤ e.size
  | .leaf value isNot => Nat.le_refl _
  | .node value isNot since => by
    have own := Failure.length_ofNode_le path value isNot
    have below := Cause.length_failuresAt_le path isNot since
    rw [Explanation.failuresAt, List.length_append, Explanation.size_node]
    omega

theorem Cause.length_failuresAt_le (path : Pointer) (isNot : Schema) :
    ∀ causes : List Cause,
      (Cause.failuresAt path isNot causes).length ≤ (causes.map Cause.size).sum
  | [] => Nat.le_refl _
  | .within step why :: rest => by
    have first := why.length_failuresAt_le (path.push step.token)
    have later := Cause.length_failuresAt_le path isNot rest
    rw [Cause.failuresAt, List.length_append, List.map_cons, List.sum_cons]
    exact Nat.add_le_add first later
  | .missing key :: rest => by
    have later := Cause.length_failuresAt_le path isNot rest
    rw [Cause.failuresAt, List.length_cons, List.map_cons, List.sum_cons, Nat.add_comm]
    exact Nat.add_le_add_left later 1
  | .same why :: rest => by
    have first := why.length_failuresAt_le path
    have later := Cause.length_failuresAt_le path isNot rest
    rw [Cause.failuresAt, List.length_append, List.map_cons, List.sum_cons]
    exact Nat.add_le_add first later

end

/-- **Explanations do not blow up.**  The failures of an explanation, and its nodes together with
the keys that it finds missing, are at most as many as the schemas inside the schema times the
values inside the value. -/
theorem explanation_is_bounded {schema : Schema} {value : Value} {e : Explanation}
    (explained : schema.explain value = some e) :
    e.failures.length ≤ schema.size * value.size ∧
      e.nodes.length + e.allMissingKeys.length ≤ schema.size * value.size :=
  ⟨Nat.le_trans (e.length_failuresAt_le .root) (Explanation.size_le explained),
    Explanation.size_le explained⟩

/-- The bound is attained: each of the seven schemas has a node of its own or is that of a missing
member. -/
theorem explanation_is_bounded_by_itself :
    let schema := Schema.allOf
      [.object [("a", ⟨.primitive .string, true⟩), ("b", ⟨.primitive .null, true⟩)],
        .oneOf [.primitive .null, .primitive .boolean]]
    ∃ e, schema.explain (.object []) = some e ∧
      e.failures.length ≤ schema.size * (Value.object []).size ∧
      e.nodes.length + e.allMissingKeys.length ≤ schema.size * (Value.object []).size ∧
      e.failures.length = 6 ∧ e.nodes.length + e.allMissingKeys.length = 7 ∧
      schema.size * (Value.object []).size = 7 := by
  intro schema
  have explained : schema.explain (.object []) = some _ := rfl
  obtain ⟨failures, nodes⟩ := explanation_is_bounded explained
  exact ⟨_, explained, failures, nodes, rfl, rfl, rfl⟩

end Conformance
