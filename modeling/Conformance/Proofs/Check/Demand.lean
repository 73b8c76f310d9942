import Conformance.Check.Basic
import Conformance.Proofs.Result

/-!
# The demands of a schema on a value

`Schema.check` recurses through members, alternatives, parts and elements, each with a loop of its
own.  What the four loops have in common is a list of *demands*: things that the schema wants of the
value, each met or not.  This file restates the check over that list, so that a fact about checks
needs one argument about demands instead of four about loops.

* `Schema.demands` lists the demands, in the order in which they are looked at, and
  `Schema.looksInto` says whether the schema makes any use of them.
* `Schema.Wants` says form by form what can be among the demands.
* `Schema.weigh` turns the judgements on the demands into the judgement on the value:
  **a choice is content with one demand that is met, everything else wants all of them**.
* **`Schema.check_eq`**: to check is to enter and to weigh the checks of the demands.
* `Schema.demand_induction` is the induction that goes with it.  A demand is always about a schema
  of smaller height (`height_lt_of_mem_demands`).
-/

namespace Conformance

/-- A cause at a part, or at the value itself if no step is needed. -/
def Cause.at : Option Step → Explanation → Cause
  | some step => .within step
  | none => .same

/-- One thing that a schema wants of a value. -/
inductive Demand where
  /-- A part, or the value itself, is to be accepted by a schema. -/
  | part (step : Option Step) (schema : Schema) (value : Value)
  /-- A key is to be present.  Only absent keys are listed, so this is never met. -/
  | presence (key : String)

namespace Demand

/-- What a member wants of an object with those fields, if anything. -/
def ofMember? (fields : List (String × Value)) (member : String × Member Schema) : Option Demand :=
  match Value.present? fields member.1 with
  | none => if member.2.required then some (.presence member.1) else none
  | some field => some (.part (some (.name member.1)) member.2.schema field)

/-- What an array schema wants of the element at an index. -/
def ofElement (schema : Schema) (element : Value × Nat) : Demand :=
  .part (some (.index element.2)) schema element.1

/-- What a schema of several schemas wants of a value, for one of them. -/
def ofSame (value : Value) (schema : Schema) : Demand :=
  .part none schema value

variable {ε : Type}

/-- The cause that a demand gives rise to, if it is not met. -/
def check (limit : Limit ε) (mode : Mode) (depth : Nat) : Demand → Except ε (Option Cause)
  | part step schema value => do
    let why ← schema.check limit mode depth value
    .ok (why.map (Cause.at step))
  | presence key => .ok (some (.missing key))

end Demand

namespace Schema

/-- The demands of a schema on a value, in order. -/
def demands : Schema → Value → List Demand
  | object members, .object fields => members.filterMap (Demand.ofMember? fields)
  | oneOf alternatives, value => alternatives.map (Demand.ofSame value)
  | allOf parts, value => parts.map (Demand.ofSame value)
  | arrayOf element, .array elements => elements.zipIdx.map (Demand.ofElement element)
  | _, _ => []

/-- Whether the judgement of a schema is about what is inside the value, or about other schemas. -/
def looksInto : Schema → Value → Bool
  | object _, .object _ => true
  | arrayOf _, .array _ => true
  | oneOf _, _ => true
  | allOf _, _ => true
  | _, _ => false

/-- The judgement of a schema that does not look into a value. -/
def acceptsOutright : Schema → Value → Bool
  | primitive p, value => p.accepts value
  | literal scalar _, value => scalar.accepts value
  | _, _ => false

/-- Choices are content with one demand that is met. -/
def isChoice : Schema → Bool
  | oneOf _ => true
  | _ => false

/-- Only what is looked into makes demands. -/
lemma demands_of_not_looksInto {schema : Schema} {value : Value}
    (outright : schema.looksInto value = false) : schema.demands value = [] := by
  cases schema with
  | primitive p => rfl
  | literal scalar spelling => rfl
  | object members =>
    cases value with
    | object fields => cases outright
    | _ => rfl
  | oneOf alternatives => cases outright
  | allOf parts => cases outright
  | arrayOf element =>
    cases value with
    | array elements => cases outright
    | _ => rfl

/-- What the forms of schemas can demand of a value. -/
inductive Wants : Schema → Value → Demand → Prop
  | field {members : List (String × Member Schema)} {fields : List (String × Value)} {key : String}
      {member : Member Schema} {content : Value} (declared : (key, member) ∈ members)
      (present : Value.present? fields key = some content) :
      Wants (object members) (.object fields) (.part (some (.name key)) member.schema content)
  | missing {members : List (String × Member Schema)} {fields : List (String × Value)}
      {key : String} {member : Member Schema} (declared : (key, member) ∈ members)
      (required : member.required = true) (absent : Value.present? fields key = none) :
      Wants (object members) (.object fields) (.presence key)
  | alternative {alternatives : List Schema} {inner : Schema} (value : Value)
      (listed : inner ∈ alternatives) : Wants (oneOf alternatives) value (.part none inner value)
  | part {parts : List Schema} {inner : Schema} (value : Value) (listed : inner ∈ parts) :
      Wants (allOf parts) value (.part none inner value)
  | element {inner : Schema} {elements : List Value} {i : Nat} {content : Value}
      (found : elements[i]? = some content) :
      Wants (arrayOf inner) (.array elements) (.part (some (.index i)) inner content)

/-- **Every demand is wanted by the form of its schema.** -/
lemma wants_of_mem_demands {schema : Schema} {value : Value} {demand : Demand}
    (mem : demand ∈ schema.demands value) : schema.Wants value demand := by
  cases schema with
  | primitive p => cases mem
  | literal scalar spelling => cases mem
  | object members =>
    cases value with
    | object fields =>
      obtain ⟨⟨key, member⟩, declared, wanted⟩ := List.mem_filterMap.1 mem
      rw [Demand.ofMember?] at wanted
      split at wanted
      · rename_i absent
        split at wanted
        · rename_i required
          cases wanted
          exact .missing declared required absent
        · cases wanted
      · rename_i present
        cases wanted
        exact .field declared present
    | _ => cases mem
  | oneOf alternatives =>
    obtain ⟨inner, listed, rfl⟩ := List.mem_map.1 mem
    exact .alternative value listed
  | allOf parts =>
    obtain ⟨inner, listed, rfl⟩ := List.mem_map.1 mem
    exact .part value listed
  | arrayOf inner =>
    cases value with
    | array elements =>
      obtain ⟨element, element_mem, rfl⟩ := List.mem_map.1 mem
      exact .element (List.mem_zipIdx_iff_getElem?.1 element_mem)
    | _ => cases mem

end Schema

/-! ## Weighing demands -/

section Weighing

variable {ε : Type}

/-- The causes of the demands that are not met, as many as the mode collects. -/
def Mode.gather (mode : Mode) (judge : Demand → Except ε (Option Cause)) :
    List Demand → Except ε (List Cause)
  | [] => .ok []
  | demand :: rest => do
    let found ← judge demand
    mode.collect found fun _ => mode.gather judge rest

/-- The causes of all demands, or nothing if one of them is met. -/
def gatherChoice (judge : Demand → Except ε (Option Cause)) :
    List Demand → Except ε (Option (List Cause))
  | [] => .ok (some [])
  | demand :: rest => do
    let found ← judge demand
    match found with
    | none => .ok none
    | some cause => do
      let others ← gatherChoice judge rest
      .ok (others.map (cause :: ·))

/-- The judgement of a schema on a value, from the judgements on its demands. -/
def Schema.weigh (mode : Mode) (judge : Demand → Except ε (Option Cause)) (schema : Schema)
    (value : Value) : Except ε (Option Explanation) :=
  if schema.looksInto value then
    if schema.isChoice then do
      let causes ← gatherChoice judge (schema.demands value)
      .ok (causes.map (.node value schema))
    else do
      let causes ← mode.gather judge (schema.demands value)
      .ok (conclude value schema causes)
  else
    .ok (if schema.acceptsOutright value then none else some (.leaf value schema))

/-! ## The four loops are one -/

lemma checkMembers_eq_gather (limit : Limit ε) (mode : Mode) (depth : Nat)
    (members : List (String × Member Schema)) (fields : List (String × Value)) :
    Schema.checkMembers limit mode depth members fields =
      mode.gather (Demand.check limit mode depth)
        (members.filterMap (Demand.ofMember? fields)) := by
  induction members with
  | nil => rfl
  | cons member rest ih =>
    obtain ⟨key, member⟩ := member
    rw [Schema.checkMembers, ih, checkMember]
    cases found : Value.present? fields key with
    | none =>
      cases needed : member.required with
      | false => simp [Demand.ofMember?, found, needed, Mode.collect, bind, Except.bind]
      | true => simp [Demand.ofMember?, found, needed, Mode.gather, Demand.check]
    | some field =>
      have wanted : Demand.ofMember? fields (key, member) =
          some (.part (some (.name key)) member.schema field) := by
        simp [Demand.ofMember?, found]
      rw [List.filterMap_cons, wanted]
      rfl

lemma checkElements_eq_gather (limit : Limit ε) (mode : Mode) (depth : Nat) (element : Schema)
    (elements : List Value) (index : Nat) :
    checkElements mode (element.check limit mode depth) index elements =
      mode.gather (Demand.check limit mode depth)
        ((elements.zipIdx index).map (Demand.ofElement element)) := by
  induction elements generalizing index with
  | nil => rfl
  | cons head rest ih =>
    rw [checkElements, ih, List.zipIdx_cons, List.map_cons, Mode.gather, Demand.ofElement,
      Demand.check]
    cases element.check limit mode depth head <;> rfl

lemma checkParts_eq_gather (limit : Limit ε) (mode : Mode) (depth : Nat) (parts : List Schema)
    (value : Value) :
    Schema.checkParts limit mode depth parts value =
      mode.gather (Demand.check limit mode depth) (parts.map (Demand.ofSame value)) := by
  induction parts with
  | nil => rfl
  | cons part rest ih =>
    rw [Schema.checkParts, ih, List.map_cons, Mode.gather, Demand.ofSame, Demand.check]
    cases part.check limit mode depth value <;> rfl

lemma checkAlternatives_eq_gatherChoice (limit : Limit ε) (mode : Mode) (depth : Nat)
    (alternatives : List Schema) (value : Value) :
    Schema.checkAlternatives limit mode depth alternatives value =
      gatherChoice (Demand.check limit mode depth) (alternatives.map (Demand.ofSame value)) := by
  induction alternatives with
  | nil => rfl
  | cons alternative rest ih =>
    rw [Schema.checkAlternatives, ih, List.map_cons, gatherChoice, Demand.ofSame, Demand.check]
    cases alternative.check limit mode depth value with
    | error e => rfl
    | ok why => cases why <;> rfl

/-- **To check a value is to enter the schema and to weigh the checks of its demands.** -/
theorem Schema.check_eq (limit : Limit ε) (mode : Mode) (depth : Nat) (schema : Schema)
    (value : Value) :
    schema.check limit mode depth value =
      limit.enter depth >>= fun _ =>
        schema.weigh mode (Demand.check limit mode (depth + 1)) value := by
  cases schema with
  | primitive p => rw [check]; rfl
  | literal scalar spelling => rw [check]; rfl
  | object members =>
    cases value with
    | object fields => rw [check, checkMembers_eq_gather]; rfl
    | _ => rfl
  | oneOf alternatives => rw [check, checkAlternatives_eq_gatherChoice]; rfl
  | allOf parts => rw [check, checkParts_eq_gather]; rfl
  | arrayOf element =>
    cases value with
    | array elements => rw [check, checkElements_eq_gather]; rfl
    | _ => rfl

end Weighing

/-! ## Induction over demands

A demand is about a schema inside, so a fact about a schema and a value may be proved from the same
fact about the schemas and values of the demands.
-/

lemma Schema.height_le_heightAll {schema : Schema} {schemas : List Schema}
    (mem : schema ∈ schemas) : schema.height ≤ heightAll schemas := by
  induction schemas with
  | nil => cases mem
  | cons head rest ih =>
    rw [heightAll]
    rcases List.mem_cons.1 mem with rfl | later
    · omega
    · have := ih later
      omega

lemma Schema.height_le_heightMembers {member : String × Member Schema}
    {members : List (String × Member Schema)} (mem : member ∈ members) :
    member.2.schema.height ≤ heightMembers members := by
  induction members with
  | nil => cases mem
  | cons head rest ih =>
    rw [heightMembers]
    rcases List.mem_cons.1 mem with rfl | later
    · omega
    · have := ih later
      omega

/-- **A demand is about a schema of smaller height.** -/
lemma Schema.height_lt_of_mem_demands {schema inner : Schema} {value part : Value}
    {step : Option Step} (mem : .part step inner part ∈ schema.demands value) :
    inner.height < schema.height := by
  cases wants_of_mem_demands mem with
  | field declared present =>
    have inside := height_le_heightMembers declared
    rw [height]
    exact Nat.lt_of_le_of_lt inside (by omega)
  | alternative value listed =>
    have inside := height_le_heightAll listed
    rw [height]
    omega
  | part value listed =>
    have inside := height_le_heightAll listed
    rw [height]
    omega
  | element found =>
    rw [height]
    omega

/-- Induction over demands: a fact holds of all schemas and values if it holds of a schema and a
value as soon as it holds of the schemas and values of the demands. -/
@[elab_as_elim]
theorem Schema.demand_induction {motive : Schema → Value → Prop}
    (weigh : ∀ schema value,
      (∀ step inner part, .part step inner part ∈ schema.demands value → motive inner part) →
        motive schema value)
    (schema : Schema) (value : Value) : motive schema value :=
  weigh schema value fun _ inner part mem =>
    have := height_lt_of_mem_demands mem
    demand_induction weigh inner part
termination_by schema.height

end Conformance
