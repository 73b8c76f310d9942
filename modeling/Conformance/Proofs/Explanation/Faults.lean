import Conformance.Proofs.Explanation.Failures
import Conformance.Proofs.Schema.Parts

/-!
# The faults of a value

What is wrong with a value may be listed without an explanation: `Schema.faults` goes through schema and
value side by side, with the path to the part of the value that is looked at.  **A combinator is a fault
of its own, before those of its parts, while objects and arrays only pass on what is found inside.**

An explanation says the same (`Schema.failuresAt_eq_faults`): a tree is built and flattened again, and
nothing is lost, added or moved on the way.  A rejected value has a fault
(`Explanation.failuresAt_ne_nil`), so that the list also says whether there is an explanation at all.
-/

namespace Conformance

mutual

/-- What is wrong with a value at a path, in the order in which the schema looks at it. -/
def Schema.faults (path : Pointer) (schema : Schema) (value : Value) : List Failure :=
  if schema.accepts value then
    []
  else
    match schema with
    | .primitive _ | .literal _ _ => [.ofRejection path value schema]
    | .object members =>
      match value with
      | .object fields => Schema.memberFaults path schema fields members
      | _ => [.ofRejection path value schema]
    | .oneOf schemas | .allOf schemas =>
      .ofRejection path value schema :: Schema.allFaults path value schemas
    | .arrayOf element =>
      match value with
      | .array elements =>
        elements.zipIdx.flatMap fun x => element.faults (path.push (Step.index x.2).token) x.1
      | _ => [.ofRejection path value schema]
termination_by structural schema

/-- The faults at the members of an object schema: a fault for each required key that is absent, and
the faults of the fields that are present. -/
def Schema.memberFaults (path : Pointer) (isNot : Schema) (fields : List (String × Value)) :
    List (String × Member Schema) → List Failure
  | [] => []
  | (key, member) :: rest =>
    (match Value.present? fields key with
      | none =>
        if member.required then [⟨path.push key, .missingRequiredKey, none, isNot⟩] else []
      | some field => member.schema.faults (path.push key) field) ++
        Schema.memberFaults path isNot fields rest
termination_by structural members => members

/-- The faults that all schemas of a list find in the same value. -/
def Schema.allFaults (path : Pointer) (value : Value) : List Schema → List Failure
  | [] => []
  | schema :: rest => schema.faults path value ++ Schema.allFaults path value rest
termination_by structural schemas => schemas

end

/-! ## The lists of parts -/

namespace Schema

variable {path : Pointer}

/-- The faults at the members are the failures at what the members want of the fields. -/
lemma flatMap_ofMember?_eq_memberFaults {isNot : Schema} {fields : List (String × Value)}
    {members : List (String × Member Schema)}
    (agree : ∀ member ∈ members, ∀ path value,
      member.2.schema.failuresAt path value = member.2.schema.faults path value) :
    (members.filterMap (Demand.ofMember? fields)).flatMap (Demand.failuresAt path isNot) =
      memberFaults path isNot fields members := by
  induction members with
  | nil => rfl
  | cons member rest ih =>
    obtain ⟨key, member⟩ := member
    obtain ⟨first, later⟩ := List.forall_mem_cons.1 agree
    rw [memberFaults, ← ih later, List.filterMap_cons, Demand.ofMember?]
    cases Value.present? fields key with
    | none => cases member.required <;> rfl
    | some field =>
      have below : Demand.failuresAt path isNot (.part (some (.name key)) member.schema field) =
          member.schema.faults (path.push key) field := first _ _
      dsimp only
      rw [List.flatMap_cons, below]

/-- The faults that several schemas find are the failures at what they want of the value. -/
lemma flatMap_ofSame_eq_allFaults {isNot : Schema} {value : Value} {schemas : List Schema}
    (agree : ∀ schema ∈ schemas, ∀ path value,
      schema.failuresAt path value = schema.faults path value) :
    (schemas.map (Demand.ofSame value)).flatMap (Demand.failuresAt path isNot) =
      allFaults path value schemas := by
  induction schemas with
  | nil => rfl
  | cons schema rest ih =>
    obtain ⟨first, later⟩ := List.forall_mem_cons.1 agree
    have here : Demand.failuresAt path isNot (Demand.ofSame value schema) =
        schema.faults path value := first _ _
    rw [allFaults, ← ih later, List.map_cons, List.flatMap_cons, here]

/-- The faults of the elements are the failures at what an array schema wants of them. -/
lemma flatMap_ofElement_eq_faults {isNot element : Schema} {elements : List Value}
    (agree : ∀ path value, element.failuresAt path value = element.faults path value) :
    (elements.zipIdx.map (Demand.ofElement element)).flatMap (Demand.failuresAt path isNot) =
      elements.zipIdx.flatMap fun x => element.faults (path.push (Step.index x.2).token) x.1 := by
  rw [List.flatMap_map]
  congr 1
  funext x
  exact agree _ _

/-! ## Faults and failures -/

/-- **The failures of an explanation are the faults of the value**, at every path. -/
theorem failuresAt_eq_faults (path : Pointer) (schema : Schema) (value : Value) :
    schema.failuresAt path value = schema.faults path value := by
  -- The schema is taken apart and not the demands: `faults` recurses into its parts.
  induction schema using parts_induction generalizing path value with
  | primitive p => rw [failuresAt_eq, faults]; rfl
  | literal scalar spelling => rw [failuresAt_eq, faults]; rfl
  | object members ih =>
    rw [failuresAt_eq]
    cases value with
    | object fields => rw [faults, ← flatMap_ofMember?_eq_memberFaults ih]; rfl
    | _ => rfl
  | oneOf alternatives ih =>
    rw [failuresAt_eq, faults, ← flatMap_ofSame_eq_allFaults ih]
    rfl
  | allOf parts ih =>
    rw [failuresAt_eq, faults, ← flatMap_ofSame_eq_allFaults ih]
    rfl
  | arrayOf element ih =>
    rw [failuresAt_eq]
    cases value with
    | array elements => rw [faults, ← flatMap_ofElement_eq_faults ih]; rfl
    | _ => rfl

end Schema

lemma Schema.failuresAt_of_explain {schema : Schema} {value : Value} {e : Explanation}
    (explained : schema.explain value = some e) (path : Pointer) :
    schema.failuresAt path value = e.failuresAt path := by
  rw [failuresAt, explained]

/-- The causes of a node that is no failure of its own are not empty. -/
lemma Failure.causes_ne_nil_of_ofNode {path : Pointer} {schema : Schema} {value : Value}
    {e : Explanation} (explained : schema.explain value = some e)
    (looks : schema.looksInto value = true) (silent : ofNode path value schema = []) :
    (schema.demands value).filterMap (Demand.cause? .exhaustive) ≠ [] := by
  rcases Schema.cases_of_explain explained with ⟨outright, -⟩ | ⟨-, -, caused⟩
  · rw [looks] at outright
    cases outright
  · cases schema with
    | oneOf alternatives => cases silent
    | _ => exact caused

/-- **Every explanation has a failure.** -/
theorem Explanation.failuresAt_ne_nil {schema : Schema} {value : Value} {e : Explanation}
    (explained : schema.explain value = some e) (path : Pointer) : e.failuresAt path ≠ [] := by
  induction schema, value using Schema.demand_induction generalizing e path with
  | weigh schema value ih =>
    rcases Schema.cases_of_explain explained with ⟨-, rfl⟩ | ⟨looks, rfl, -⟩
    · exact List.cons_ne_nil _ _
    · rw [failuresAt, Cause.failuresAt_eq_flatMap]
      intro nothing
      obtain ⟨silent, below⟩ := List.append_eq_nil_iff.1 nothing
      obtain ⟨cause, mem⟩ :=
        List.exists_mem_of_ne_nil _ (Failure.causes_ne_nil_of_ofNode explained looks silent)
      have noFailure := List.flatMap_eq_nil_iff.1 below cause mem
      rcases Cause.cases_of_mem mem with
        ⟨step, inner, part, why, wanted, inside, rfl⟩ | ⟨key, -, rfl⟩
      · rw [Cause.failures_at] at noFailure
        exact ih step inner part wanted inside _ noFailure
      · cases noFailure

/-- **The failures are exactly the faults.**  There is an explanation if and only if there are faults,
and its failures are then the faults, each once and in order. -/
theorem failures_eq_faults (schema : Schema) (value : Value) :
    ((∃ e, schema.explain value = some e) ↔ schema.faults .root value ≠ []) ∧
    ∀ e, schema.explain value = some e → e.failures = schema.faults .root value := by
  have agree : ∀ e, schema.explain value = some e → e.failures = schema.faults .root value := by
    intro e explained
    rw [← Schema.failuresAt_eq_faults, Schema.failuresAt_of_explain explained, Explanation.failures]
  refine ⟨⟨fun ⟨e, explained⟩ => ?_, fun faulty => ?_⟩, agree⟩
  · rw [← agree e explained]
    exact Explanation.failuresAt_ne_nil explained .root
  · rw [← Schema.failuresAt_eq_faults, Schema.failuresAt] at faulty
    cases explained : schema.explain value with
    | some e => exact ⟨e, rfl⟩
    | none =>
      rw [explained] at faulty
      exact absurd rfl faulty

/-- An element that no alternative accepts and a field that one part of an intersection rejects,
beside a key that holds `undefined`. -/
theorem failures_eq_faults_of_object :
    ∃ e, (Schema.object [("a", ⟨.arrayOf (.oneOf [.primitive .string]), true⟩),
          ("b", ⟨.primitive .null, true⟩),
          ("c", ⟨.allOf [.primitive .number, .primitive .boolean], false⟩)]).explain
        (.object [("c", .bool true), ("b", .undefined), ("a", .array [.string "x", .null])]) =
          some e ∧
      e.failures = (Schema.object [("a", ⟨.arrayOf (.oneOf [.primitive .string]), true⟩),
          ("b", ⟨.primitive .null, true⟩),
          ("c", ⟨.allOf [.primitive .number, .primitive .boolean], false⟩)]).faults .root
        (.object [("c", .bool true), ("b", .undefined), ("a", .array [.string "x", .null])]) ∧
      e.failures.map (fun f => (f.path.tokens, f.kind)) =
        [(["a", "1"], .noAlternativeMatched), (["a", "1"], .typeMismatch),
          (["b"], .missingRequiredKey), (["c"], .intersectionMemberFailed),
          (["c"], .typeMismatch)] := by
  have explained : (Schema.object [("a", ⟨.arrayOf (.oneOf [.primitive .string]), true⟩),
        ("b", ⟨.primitive .null, true⟩),
        ("c", ⟨.allOf [.primitive .number, .primitive .boolean], false⟩)]).explain
      (.object [("c", .bool true), ("b", .undefined), ("a", .array [.string "x", .null])]) =
    some _ := rfl
  exact ⟨_, explained, (failures_eq_faults _ _).2 _ explained, by decide⟩

end Conformance
