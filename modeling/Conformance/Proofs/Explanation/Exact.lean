import Conformance.Proofs.Check.Rejection

/-!
# Explanations are exact

An explanation is made of the explanations of parts, and at each node **nothing is lost, nothing is
invented and everything stands in order**: the causes are those of the members, elements,
alternatives or parts that fail, each explained by itself.

* `Explanation.nodes` lists the nodes of an explanation, itself included, and
  `Explanation.Exact` says what a node has to hold, form by form.
* `exact_of_explain` is the step, for the explanation itself, and `explain_of_mem_nodes` says that
  each node is again the explanation of its own value by its own schema.
* **`explanation_exact`**: every node of every explanation is exact.
-/

namespace Conformance

/-! ## Nodes -/

/-- The explanation inside a cause.  A missing member has none. -/
def Cause.why? : Cause → Option Explanation
  | within _ why => some why
  | missing _ => none
  | same why => some why

/-- The index of the element that a cause is about. -/
def Cause.index? : Cause → Option Nat
  | within (.index i) _ => some i
  | _ => none

mutual

/-- All nodes of an explanation, each before those inside it. -/
def Explanation.nodes : Explanation → List Explanation
  | .leaf value isNot => [.leaf value isNot]
  | .node value isNot since => .node value isNot since :: Cause.nodes since
termination_by structural e => e

/-- All nodes inside causes. -/
def Cause.nodes : List Cause → List Explanation
  | [] => []
  | .within _ why :: rest => why.nodes ++ Cause.nodes rest
  | .missing _ :: rest => Cause.nodes rest
  | .same why :: rest => why.nodes ++ Cause.nodes rest
termination_by structural causes => causes

end

lemma Cause.nodes_eq_flatMap (causes : List Cause) :
    nodes causes = (causes.filterMap why?).flatMap Explanation.nodes := by
  induction causes with
  | nil => rfl
  | cons cause rest ih =>
    rw [List.filterMap_cons]
    cases cause with
    | within step why => rw [nodes, ih]; rfl
    | missing key => rw [nodes, ih]; rfl
    | same why => rw [nodes, ih]; rfl

/-- Causes of the right form only come from demands about parts, explained by themselves. -/
lemma Demand.explain_of_cause? {demand : Demand} {cause : Cause} {why : Explanation}
    (caused : demand.cause? .exhaustive = some cause) (inside : cause.why? = some why) :
    ∃ step schema value, demand = .part step schema value ∧ schema.explain value = some why := by
  cases demand with
  | part step schema value =>
    obtain ⟨whole, explained, rfl⟩ := Option.map_eq_some_iff.1 caused
    cases step <;> cases inside <;> exact ⟨_, schema, value, rfl, explained⟩
  | presence key =>
    cases caused
    cases inside

/-- **Each node is the explanation of its own value by its own schema.** -/
lemma explain_of_mem_nodes {schema : Schema} {value : Value} {e n : Explanation}
    (explained : schema.explain value = some e) (mem : n ∈ e.nodes) :
    n.isNot.explain n.value = some n := by
  induction schema, value using Schema.demand_induction generalizing e with
  | weigh schema value ih =>
    have root : e.isNot.explain e.value = some e := by
      obtain ⟨same_value, same_schema⟩ := Schema.subject_of_explain explained
      rw [same_value, same_schema, explained]
    rcases Schema.cases_of_explain explained with ⟨-, rfl⟩ | ⟨-, rfl, -⟩
    · rw [Explanation.nodes, List.mem_singleton] at mem
      rw [mem, root]
    · rw [Explanation.nodes, List.mem_cons] at mem
      rcases mem with rfl | below
      · exact root
      · rw [Cause.nodes_eq_flatMap] at below
        obtain ⟨why, why_mem, mem⟩ := List.mem_flatMap.1 below
        obtain ⟨cause, cause_mem, inside⟩ := List.mem_filterMap.1 why_mem
        obtain ⟨demand, wanted, caused⟩ := List.mem_filterMap.1 cause_mem
        obtain ⟨step, inner, part, rfl, explained⟩ := Demand.explain_of_cause? caused inside
        exact ih step inner part wanted explained mem

/-! ## What a node holds -/

/-- The cause at a member of an object schema: a missing key, or the explanation of the field. -/
def Cause.ofMember? (fields : List (String × Value)) (member : String × Member Schema) :
    Option Cause :=
  match Value.present? fields member.1 with
  | none => if member.2.required then some (.missing member.1) else none
  | some field => (member.2.schema.explain field).map (.within (.name member.1))

/-- The cause at an element of an array. -/
def Cause.ofElement? (schema : Schema) (element : Value × Nat) : Option Cause :=
  (schema.explain element.1).map (.within (.index element.2))

namespace Explanation

/-- What a node holds: the explanation of its value by its schema, without causes exactly for values
of the wrong kind, and otherwise with the causes that the form of the schema asks for. -/
structure Exact (n : Explanation) : Prop where
  explained : n.isNot.explain n.value = some n
  /-- No list of causes: primitives, literals, and containers of the wrong kind. -/
  leaf : n.since? = none ↔
    (∃ p, n.isNot = .primitive p) ∨ (∃ scalar spelling, n.isNot = .literal scalar spelling) ∨
      (∃ members, n.isNot = .object members ∧ n.value.fields? = none) ∨
      (∃ element, n.isNot = .arrayOf element ∧ n.value.elements? = none)
  /-- Missing keys and rejected fields, in the order in which the members are declared. -/
  object : ∀ members fields, n.isNot = .object members → n.value = .object fields →
    n.since? = some (members.filterMap (Cause.ofMember? fields))
  /-- Rejected elements, by increasing index. -/
  arrayOf : ∀ element elements, n.isNot = .arrayOf element → n.value = .array elements →
    ∃ since, n.since? = some since ∧
      since = elements.zipIdx.filterMap (Cause.ofElement? element) ∧
      (since.filterMap Cause.index?).Pairwise (· < ·)
  /-- The parts that reject the same value. -/
  allOf : ∀ parts, n.isNot = .allOf parts →
    n.since? = some (parts.filterMap fun part => (part.explain n.value).map .same)
  /-- All alternatives, each of which rejects the same value. -/
  oneOf : ∀ alternatives, n.isNot = .oneOf alternatives →
    ∃ whys : List Explanation,
      alternatives.map (fun alternative => alternative.explain n.value) = whys.map some ∧
        n.since? = some (whys.map .same)
  /-- An empty list of causes is that of an empty choice. -/
  nonempty : n.since? = some [] → n.isNot = .oneOf []

end Explanation

/-! ## The causes of demands, form by form -/

lemma filterMap_ofMember? (members : List (String × Member Schema))
    (fields : List (String × Value)) :
    (members.filterMap (Demand.ofMember? fields)).filterMap (Demand.cause? .exhaustive) =
      members.filterMap (Cause.ofMember? fields) := by
  rw [List.filterMap_filterMap]
  congr 1
  funext member
  rw [Demand.ofMember?, Cause.ofMember?]
  cases Value.present? fields member.1 with
  | none => cases member.2.required <;> rfl
  | some field => rfl

lemma filterMap_ofElement (element : Schema) (elements : List (Value × Nat)) :
    (elements.map (Demand.ofElement element)).filterMap (Demand.cause? .exhaustive) =
      elements.filterMap (Cause.ofElement? element) := by
  rw [List.filterMap_map]
  rfl

lemma filterMap_ofSame (value : Value) (schemas : List Schema) :
    (schemas.map (Demand.ofSame value)).filterMap (Demand.cause? .exhaustive) =
      schemas.filterMap fun schema => (schema.explain value).map .same := by
  rw [List.filterMap_map]
  rfl

lemma pairwise_zipIdx (elements : List Value) :
    elements.zipIdx.Pairwise fun first second => first.2 < second.2 := by
  have increasing : (elements.zipIdx.map Prod.snd).Pairwise (· < ·) := by
    rw [List.zipIdx_map_snd]
    exact List.pairwise_lt_range'
  exact List.pairwise_map.1 increasing

/-- The indices in the causes of an array increase. -/
lemma pairwise_index (element : Schema) (elements : List Value) :
    ((elements.zipIdx.filterMap (Cause.ofElement? element)).filterMap Cause.index?).Pairwise
      (· < ·) := by
  rw [List.filterMap_filterMap, List.pairwise_filterMap]
  refine (pairwise_zipIdx elements).imp fun {first second} before i found j found' => ?_
  simp only [Cause.ofElement?, Option.bind_map, Option.bind_eq_some_iff] at found found'
  obtain ⟨_, -, ⟨⟩⟩ := found
  obtain ⟨_, -, ⟨⟩⟩ := found'
  exact before

/-- If all alternatives reject a value, the rejections are all of their explanations. -/
lemma exists_whys {value : Value} {alternatives : List Schema}
    (all : ∀ alternative ∈ alternatives, (alternative.explain value).isSome = true) :
    ∃ whys : List Explanation,
      alternatives.map (fun alternative => alternative.explain value) = whys.map some ∧
        (alternatives.filterMap fun alternative => (alternative.explain value).map .same) =
          whys.map Cause.same := by
  refine ⟨alternatives.filterMap fun alternative => alternative.explain value, ?_, ?_⟩
  · rw [List.map_filterMap_some_eq_filter_map_isSome, List.filter_eq_self.2]
    intro result mem
    obtain ⟨alternative, alternative_mem, rfl⟩ := List.mem_map.1 mem
    exact all alternative alternative_mem
  · rw [List.map_filterMap]

lemma Schema.looksInto_eq_false_iff (schema : Schema) (value : Value) :
    schema.looksInto value = false ↔
      (∃ p, schema = .primitive p) ∨ (∃ scalar spelling, schema = .literal scalar spelling) ∨
        (∃ members, schema = .object members ∧ value.fields? = none) ∨
        (∃ element, schema = .arrayOf element ∧ value.elements? = none) := by
  cases schema with
  | object members => cases value <;> simp [looksInto, Value.fields?]
  | arrayOf element => cases value <;> simp [looksInto, Value.elements?]
  | _ => simp [looksInto]

/-! ## Every node is exact -/

/-- The causes of an explanation are those of the demands, if the value is looked into. -/
lemma since?_of_explain {schema : Schema} {value : Value} {e : Explanation}
    (explained : schema.explain value = some e) (looks : schema.looksInto value = true) :
    e.since? = some ((schema.demands value).filterMap (Demand.cause? .exhaustive)) := by
  rcases Schema.cases_of_explain explained with ⟨outright, -⟩ | ⟨-, rfl, -⟩
  · rw [outright] at looks
    cases looks
  · rfl

lemma since?_eq_none_iff_of_explain {schema : Schema} {value : Value} {e : Explanation}
    (explained : schema.explain value = some e) :
    e.since? = none ↔ schema.looksInto value = false := by
  rcases Schema.cases_of_explain explained with ⟨outright, rfl⟩ | ⟨looks, rfl, -⟩
  · simp [outright, Explanation.since?]
  · simp [looks, Explanation.since?]

/-- A choice that is explained has only alternatives that reject the value. -/
lemma isSome_of_explain_oneOf {alternatives : List Schema} {value : Value} {e : Explanation}
    (explained : (Schema.oneOf alternatives).explain value = some e) :
    ∀ alternative ∈ alternatives, (alternative.explain value).isSome = true := by
  intro alternative mem
  rcases Schema.cases_of_explain explained with ⟨outright, -⟩ | ⟨-, -, all⟩
  · cases outright
  · have unmet := all (Demand.ofSame value alternative) (List.mem_map_of_mem mem)
    rw [Demand.ofSame, Demand.cause?, Option.isSome_map] at unmet
    exact unmet

/-- Only a choice without alternatives is explained by no cause. -/
lemma eq_oneOf_nil_of_explain {schema : Schema} {value : Value} {e : Explanation}
    (explained : schema.explain value = some e) (empty : e.since? = some []) :
    schema = .oneOf [] := by
  rcases Schema.cases_of_explain explained with ⟨-, rfl⟩ | ⟨-, rfl, caused⟩
  · cases empty
  · have nothing := Option.some.inj empty
    cases schema with
    | oneOf alternatives =>
      cases alternatives with
      | nil => rfl
      | cons alternative rest =>
        have unmet := isSome_of_explain_oneOf explained alternative (by simp)
        obtain ⟨why, rejected⟩ := Option.isSome_iff_exists.1 unmet
        rw [Schema.demands, filterMap_ofSame, List.filterMap_cons, rejected] at nothing
        cases nothing
    | _ => exact absurd nothing caused

/-- An explanation is exact at its root. -/
lemma exact_of_explain {schema : Schema} {value : Value} {e : Explanation}
    (explained : schema.explain value = some e) : e.Exact := by
  obtain ⟨same_value, same_schema⟩ := Schema.subject_of_explain explained
  constructor
  case explained => rw [same_value, same_schema, explained]
  case leaf =>
    rw [same_value, same_schema, ← Schema.looksInto_eq_false_iff]
    exact since?_eq_none_iff_of_explain explained
  case object =>
    intro members fields form kind
    rw [same_schema] at form
    rw [same_value] at kind
    subst form kind
    rw [since?_of_explain explained rfl, Schema.demands, filterMap_ofMember?]
  case arrayOf =>
    intro element elements form kind
    rw [same_schema] at form
    rw [same_value] at kind
    subst form kind
    refine ⟨_, ?_, rfl, pairwise_index element elements⟩
    rw [since?_of_explain explained rfl, Schema.demands, filterMap_ofElement]
  case allOf =>
    intro parts form
    rw [same_schema] at form
    subst form
    rw [since?_of_explain explained rfl, same_value, Schema.demands, filterMap_ofSame]
  case oneOf =>
    intro alternatives form
    rw [same_schema] at form
    subst form
    obtain ⟨whys, explains, causes⟩ := exists_whys (isSome_of_explain_oneOf explained)
    refine ⟨whys, ?_, ?_⟩
    · rw [same_value, explains]
    · rw [since?_of_explain explained rfl, Schema.demands, filterMap_ofSame, causes]
  case nonempty =>
    intro empty
    rw [same_schema, eq_oneOf_nil_of_explain explained empty]

/-- **Every node of every explanation is exact.**  An explanation is about the value and the schema
that were checked; each node inside is the explanation of its own value by its own schema, and its
causes are those that the form of its schema asks for, all of them, in order. -/
theorem explanation_exact :
    (∀ (schema : Schema) (value : Value) (e : Explanation), schema.explain value = some e →
      e.value = value ∧ e.isNot = schema) ∧
    (∀ (schema : Schema) (value : Value) (e n : Explanation), schema.explain value = some e →
      n ∈ e.nodes → n.Exact) :=
  ⟨fun _ _ _ => Schema.subject_of_explain,
    fun _ _ _ _ explained mem => exact_of_explain (explain_of_mem_nodes explained mem)⟩

/-- A missing key beside a field with a rejected element and a field without any alternative. -/
theorem explanation_exact_of_object :
    ∃ e, (Schema.object [("a", ⟨.arrayOf (.primitive .string), true⟩),
          ("b", ⟨.primitive .null, true⟩), ("c", ⟨.oneOf [], false⟩)]).explain
        (.object [("c", .null), ("a", .array [.string "x", .undefined]), ("b", .undefined)]) =
      some e ∧ e.nodes.length = 4 ∧ ∀ n ∈ e.nodes, n.Exact := by
  have explained : (Schema.object [("a", ⟨.arrayOf (.primitive .string), true⟩),
        ("b", ⟨.primitive .null, true⟩), ("c", ⟨.oneOf [], false⟩)]).explain
      (.object [("c", .null), ("a", .array [.string "x", .undefined]), ("b", .undefined)]) =
    some _ := rfl
  exact ⟨_, explained, rfl, fun n => explanation_exact.2 _ _ _ n explained⟩

end Conformance
