import Conformance.Explanation.Json
import Conformance.Proofs.Check.Inherited
import Conformance.Proofs.Explanation.Exact
import Conformance.Proofs.Schema.Written
import Conformance.Proofs.Value.Normal

/-!
# Documents of explanations

One kind of object stands for three kinds of causes in the document of an explanation, and for
explanations themselves.  Which of them is meant follows from the members that are present: `atKey` for
a step, `missingKey` for a missing member, `since` for a node (`Cause.Held`, `Explanation.Held`).

**The document is unambiguous** (`agrees_of_same_toJson`): explanations with the same document are the
same tree, with the same steps, equal schemas and values that are equal as far as a document holds them
(`Explanation.Agrees`).  A rejected `undefined` is told from `null`, because it leaves the member `value`
out.
-/

namespace Conformance

/-! ## Agreement -/

/-- Values that are written alike in an explanation: both `undefined`, or neither and with equal normal
forms. -/
def Value.WrittenAlike (value other : Value) : Prop :=
  value.isUndefined = other.isUndefined ∧ (value.normalize == other.normalize) = true

mutual

/-- The same tree, with equal schemas and with values that are written alike. -/
inductive Explanation.Agrees : Explanation → Explanation → Prop
  | leaf {value other : Value} {isNot isNot' : Schema} (values : value.WrittenAlike other)
    (schemas : (isNot == isNot') = true) :
    Explanation.Agrees (.leaf value isNot) (.leaf other isNot')
  | node {value other : Value} {isNot isNot' : Schema} {since since' : List Cause}
    (values : value.WrittenAlike other) (schemas : (isNot == isNot') = true)
    (causes : List.Forall₂ Cause.Agrees since since') :
    Explanation.Agrees (.node value isNot since) (.node other isNot' since')

/-- Causes of one kind, with the same step or key, and with explanations that agree. -/
inductive Cause.Agrees : Cause → Cause → Prop
  | within (step : Step) {why why' : Explanation} (whys : Explanation.Agrees why why') :
    Cause.Agrees (.within step why) (.within step why')
  | missing (key : String) : Cause.Agrees (.missing key) (.missing key)
  | same {why why' : Explanation} (whys : Explanation.Agrees why why') :
    Cause.Agrees (.same why) (.same why')

end

/-! ## Steps -/

/-- **Different steps are written differently**, a name never as an index. -/
lemma Step.eq_of_same {step other : Step} (same : step.toJson.Same other.toJson) : step = other := by
  cases step with
  | name key =>
    cases other with
    | name key' => rw [same.of_string]
    | index j =>
      rw [toJson, toJson] at same
      split at same <;> cases same
  | index i =>
    cases other with
    | name key =>
      rw [toJson, toJson] at same
      split at same <;> cases same
    | index j =>
      rw [toJson, toJson] at same
      split at same <;> split at same
      · cases same with
        | number same =>
          have values := same.toRat_eq
          simp only [Json.Number.toRat, Int.cast_natCast, Nat.cast_inj] at values
          rw [values]
      · cases same
      · cases same
      · cases same with
        | array each =>
          cases each with
          | cons same _ =>
            have read := congrArg Pointer.index? same.of_string
            rw [Pointer.index?_digitsOf, Pointer.index?_digitsOf, Option.some.injEq] at read
            rw [read]

/-! ## The members of a document -/

/-- The document of a list of causes, which only nodes have. -/
inductive Cause.Listed : Option (List Cause) → Option Json → Prop
  | leaf : Cause.Listed none none
  | node {causes : List Cause} {js : List Json}
    (each : List.Forall₂ (fun cause j => cause.toJson = .ok j) causes js) :
    Cause.Listed (some causes) (some (.array js))

namespace Explanation

/-- The members of the document of an explanation. -/
def layout (value : Value) (isNot : Json) (since : Option Json) : List (String × Json) :=
  valueMember value ++ ("isNot", isNot) :: (since.map fun j => ("since", j)).toList

/-- The members of an object that describe an explanation. -/
structure Held (e : Explanation) (members : List (String × Json)) : Prop where
  value : members.lookup "value" = if e.value.isUndefined then none else some e.value.toJson
  isNot : ∃ j, members.lookup "isNot" = some j ∧ e.isNot.toJson = .ok j
  since : Cause.Listed e.since? (members.lookup "since")

end Explanation

lemma Cause.allToJson_eq_ok_iff {causes : List Cause} {js : List Json} :
    allToJson causes = .ok js ↔
      List.Forall₂ (fun cause j => cause.toJson = .ok j) causes js := by
  induction causes generalizing js with
  | nil => simp [allToJson, eq_comm]
  | cons cause rest ih =>
    simp only [allToJson, bind_eq_ok_iff, ih, List.forall₂_cons_left_iff]
    constructor
    · rintro ⟨j, written, js, others, ⟨⟩⟩
      exact ⟨j, js, written, others, rfl⟩
    · rintro ⟨j, js, written, others, rfl⟩
      exact ⟨j, written, js, others, rfl⟩

namespace Explanation

lemma exists_layout {e : Explanation} {written : List (String × Json)}
    (members : e.members = .ok written) :
    ∃ isNot since, e.isNot.toJson = .ok isNot ∧ Cause.Listed e.since? since ∧
      written = layout e.value isNot since := by
  cases e with
  | leaf value schema =>
    rw [Explanation.members] at members
    obtain ⟨isNot, named, ⟨⟩⟩ := bind_eq_ok_iff.1 members
    exact ⟨isNot, none, named, .leaf, rfl⟩
  | node value schema causes =>
    rw [Explanation.members] at members
    obtain ⟨isNot, named, members⟩ := bind_eq_ok_iff.1 members
    obtain ⟨js, listed, ⟨⟩⟩ := bind_eq_ok_iff.1 members
    exact ⟨isNot, some (.array js), named, .node (Cause.allToJson_eq_ok_iff.1 listed), rfl⟩

section Layout

variable (value : Value) (isNot : Json) (since : Option Json)

/-- What the members of an explanation hold under each key. -/
lemma lookup_layout (key : String) : (layout value isNot since).lookup key =
    if key = "value" then if value.isUndefined then none else some value.toJson
    else if key = "isNot" then some isNot
    else if key = "since" then since
    else none := by
  have others : List.lookup key (("isNot", isNot) :: (since.map fun j => ("since", j)).toList) =
      if key = "isNot" then some isNot else if key = "since" then since else none := by
    cases since <;> simp [Entries.lookup_cons]
  rw [layout, valueMember]
  cases value.isUndefined with
  | false =>
    rw [if_neg Bool.false_ne_true, List.singleton_append, Entries.lookup_cons, others]
    rfl
  | true =>
    by_cases first : key = "value"
    · subst first
      exact others
    · rw [if_neg first]
      exact others

/-- No explanation has a member that marks a cause. -/
lemma lookup_atKey_layout : (layout value isNot since).lookup "atKey" = none :=
  lookup_layout value isNot since "atKey"

lemma lookup_missingKey_layout : (layout value isNot since).lookup "missingKey" = none :=
  lookup_layout value isNot since "missingKey"

lemma distinct_layout : Entries.Distinct (layout value isNot since) := by
  rw [layout, valueMember]
  cases value.isUndefined <;> cases since <;> simp [Entries.Distinct]

end Layout

lemma held_layout {e : Explanation} {isNot : Json} {since : Option Json}
    (named : e.isNot.toJson = .ok isNot) (listed : Cause.Listed e.since? since) :
    e.Held (layout e.value isNot since) where
  value := lookup_layout e.value isNot since "value"
  isNot := ⟨isNot, lookup_layout e.value isNot since "isNot", named⟩
  since := by
    rw [lookup_layout]
    exact listed

/-- A step in front does not change what is held. -/
lemma Held.cons {e : Explanation} {members : List (String × Json)} (held : e.Held members)
    (step : Json) : e.Held (("atKey", step) :: members) where
  value := held.value
  isNot := held.isNot
  since := held.since

end Explanation

namespace Cause

/-- The step of a cause, if it is about a part. -/
def step? : Cause → Option Step
  | within step _ => some step
  | _ => none

/-- The key of a missing member. -/
def key? : Cause → Option String
  | missing key => some key
  | _ => none

/-- The members of an object that describe a cause. -/
structure Held (cause : Cause) (members : List (String × Json)) : Prop where
  distinct : Entries.Distinct members
  step : members.lookup "atKey" = cause.step?.map Step.toJson
  key : members.lookup "missingKey" = cause.key?.map Json.string
  why : ∀ why, cause.why? = some why → why.Held members

/-- **What is written for a cause is an object that describes it.** -/
lemma exists_held {cause : Cause} {j : Json} (written : cause.toJson = .ok j) :
    ∃ members, j = .object members ∧ cause.Held members := by
  cases cause with
  | within step why =>
    obtain ⟨members, whole, ⟨⟩⟩ := bind_eq_ok_iff.1 written
    obtain ⟨isNot, since, named, listed, rfl⟩ := Explanation.exists_layout whole
    have new := Explanation.lookup_atKey_layout why.value isNot since
    refine ⟨_, rfl, ?_, rfl, ?_, ?_⟩
    · exact List.nodup_cons.2
        ⟨Entries.lookup_eq_none_iff.1 new, Explanation.distinct_layout why.value isNot since⟩
    · exact Explanation.lookup_missingKey_layout why.value isNot since
    · rintro _ ⟨⟩
      exact (Explanation.held_layout named listed).cons step.toJson
  | missing key =>
    cases written
    refine ⟨_, rfl, by simp [Entries.Distinct], rfl, rfl, ?_⟩
    rintro why ⟨⟩
  | same why =>
    obtain ⟨members, whole, ⟨⟩⟩ := bind_eq_ok_iff.1 written
    obtain ⟨isNot, since, named, listed, rfl⟩ := Explanation.exists_layout whole
    refine ⟨_, rfl, Explanation.distinct_layout why.value isNot since,
      Explanation.lookup_atKey_layout why.value isNot since,
      Explanation.lookup_missingKey_layout why.value isNot since, ?_⟩
    rintro _ ⟨⟩
    exact Explanation.held_layout named listed

end Cause

/-! ## Documents that are the same -/

/-- The documents under each key are the same, or there is none in both. -/
def SameUnderKeys (members others : List (String × Json)) : Prop :=
  ∀ key, Option.Rel Json.Same (members.lookup key) (others.lookup key)

section Same

variable {members others : List (String × Json)}

lemma Explanation.Held.writtenAlike {e f : Explanation} (held : e.Held members)
    (held' : f.Held others) (same : SameUnderKeys members others)
    (wellFormed : e.value.WellFormed) : e.value.WrittenAlike f.value := by
  have values := same "value"
  rw [held.value, held'.value] at values
  cases undefined : e.value.isUndefined with
  | true =>
    cases undefined' : f.value.isUndefined with
    | true =>
      rw [Value.eq_undefined_of_isUndefined undefined, Value.eq_undefined_of_isUndefined undefined']
      exact ⟨rfl, rfl⟩
    | false =>
      rw [undefined, undefined'] at values
      cases values
  | false =>
    cases undefined' : f.value.isUndefined with
    | true =>
      rw [undefined, undefined'] at values
      cases values
    | false =>
      rw [undefined, undefined'] at values
      cases values with
      | some same =>
        exact ⟨undefined.trans undefined'.symm,
          Value.normalize_beq_of_same_toJson wellFormed same⟩

lemma Explanation.Held.isNot_beq {e f : Explanation} (held : e.Held members)
    (held' : f.Held others) (same : SameUnderKeys members others)
    (wellFormed : f.isNot.WellFormed) : (e.isNot == f.isNot) = true := by
  obtain ⟨j, found, written⟩ := held.isNot
  obtain ⟨k, found', written'⟩ := held'.isNot
  have schemas := same "isNot"
  rw [found, found'] at schemas
  cases schemas with
  | some same => exact Schema.beq_of_same_toJson e.isNot wellFormed written written' same

/-- Lists of causes whose documents are the same. -/
def Cause.AllSame (causes others : List Cause) : Prop :=
  List.Forall₂ (fun cause other => ∃ j, cause.toJson = .ok j ∧ ∃ k, j.Same k ∧ other.toJson = .ok k)
    causes others

/-- Nodes are told from leaves, and have lists of causes whose documents are the same. -/
lemma Cause.rel_of_listed {since since' : Option (List Cause)} {j k : Option Json}
    (listed : Cause.Listed since j) (listed' : Cause.Listed since' k)
    (same : Option.Rel Json.Same j k) : Option.Rel Cause.AllSame since since' := by
  cases listed with
  | leaf =>
    cases listed' with
    | leaf => exact .none
    | node each => cases same
  | node each =>
    cases listed' with
    | leaf => cases same
    | node each' =>
      cases same with
      | some same =>
        cases same with
        | array same =>
          exact .some (forall₂_comp_iff.2 ⟨_, each, forall₂_comp_iff.2 ⟨_, same, each'.flip⟩⟩)

/-- **Causes are of one kind if their documents are the same**, and agree if their explanations do. -/
lemma Cause.agrees_of_held {cause other : Cause} (held : cause.Held members)
    (held' : other.Held others) (same : SameUnderKeys members others)
    (whys : ∀ why why', cause.why? = some why → other.why? = some why' → why.Agrees why') :
    cause.Agrees other := by
  have steps := same "atKey"
  rw [held.step, held'.step] at steps
  have keys := same "missingKey"
  rw [held.key, held'.key] at keys
  cases cause with
  | within step why =>
    cases other with
    | within step' why' =>
      cases steps with
      | some same =>
        rw [Step.eq_of_same same]
        exact .within step' (whys why why' rfl rfl)
    | _ => cases steps
  | missing key =>
    cases other with
    | missing key' =>
      cases keys with
      | some same =>
        rw [same.of_string]
        exact .missing key'
    | _ => cases keys
  | same why =>
    cases other with
    | within step why' => cases steps
    | missing key => cases keys
    | same why' => exact .same (whys why why' rfl rfl)

end Same

/-! ## What causes explain -/

/-- What a cause explains was demanded. -/
lemma Cause.explain_of_mem {schema : Schema} {value : Value} {cause : Cause} {why : Explanation}
    (mem : cause ∈ (schema.demands value).filterMap (Demand.cause? .exhaustive))
    (inside : cause.why? = some why) :
    ∃ step inner part, .part step inner part ∈ schema.demands value ∧
      inner.explain part = some why := by
  obtain ⟨demand, wanted, caused⟩ := List.mem_filterMap.1 mem
  obtain ⟨step, inner, part, rfl, explained⟩ := Demand.explain_of_cause? caused inside
  exact ⟨step, inner, part, wanted, explained⟩

/-! ## The document is unambiguous -/

/-- **Explanations agree if the same documents describe them.** -/
theorem Explanation.agrees_of_held {schema other : Schema} {value otherValue : Value}
    {e f : Explanation} {members others : List (String × Json)} (wellFormed : value.WellFormed)
    (wellFormed' : other.WellFormed) (explained : schema.explain value = some e)
    (explained' : other.explain otherValue = some f) (held : e.Held members)
    (held' : f.Held others) (same : SameUnderKeys members others) : e.Agrees f := by
  induction schema, value using Schema.demand_induction
    generalizing other otherValue e f members others with
  | weigh schema value ih =>
    obtain ⟨subject, -⟩ := Schema.subject_of_explain explained
    obtain ⟨-, subject'⟩ := Schema.subject_of_explain explained'
    have values := held.writtenAlike held' same (subject ▸ wellFormed)
    have schemas := held.isNot_beq held' same (subject' ▸ wellFormed')
    have since := Cause.rel_of_listed held.since held'.since (same "since")
    rcases Schema.cases_of_explain explained with ⟨-, rfl⟩ | ⟨-, rfl, -⟩
    · rcases Schema.cases_of_explain explained' with ⟨-, rfl⟩ | ⟨-, rfl, -⟩
      · exact .leaf values schemas
      · cases since
    · rcases Schema.cases_of_explain explained' with ⟨-, rfl⟩ | ⟨-, rfl, -⟩
      · cases since
      · cases since with
        | some causes =>
          refine .node values schemas (forall₂_imp_of_mem causes ?_)
          rintro cause mem cause' mem' ⟨j, written, k, same, written'⟩
          obtain ⟨members, rfl, held⟩ := Cause.exists_held written
          obtain ⟨others, rfl, held'⟩ := Cause.exists_held written'
          have same : SameUnderKeys members others := same.rel_lookup held.distinct
          refine Cause.agrees_of_held held held' same fun why why' inside inside' => ?_
          obtain ⟨step, inner, part, wanted, explained⟩ := Cause.explain_of_mem mem inside
          obtain ⟨step', inner', part', wanted', explained'⟩ := Cause.explain_of_mem mem' inside'
          exact ih step inner part wanted (wellFormed.of_demand wanted)
            (wellFormed'.of_demand wanted') explained explained' (held.why why inside)
            (held'.why why' inside') same

/-- **The document of an explanation is unambiguous.**  Explanations whose documents are the same are
the same tree, node by node with the same step or missing key, with equal schemas, and with values that
are equal in normal form and alike in being `undefined`. -/
theorem agrees_of_same_toJson :
    ∀ (schema other : Schema) (value otherValue : Value) (e f : Explanation) (j k : Json),
      value.WellFormed → other.WellFormed → schema.explain value = some e →
        other.explain otherValue = some f → e.toJson = .ok j → f.toJson = .ok k → j.Same k →
          e.Agrees f := by
  intro schema other value otherValue e f j k wellFormed wellFormed' explained explained' written
    written' same
  -- An explanation by itself is written like a cause about the same value.
  obtain ⟨members, rfl, held⟩ := @Cause.exists_held (.same e) j written
  obtain ⟨others, rfl, held'⟩ := @Cause.exists_held (.same f) k written'
  exact Explanation.agrees_of_held wellFormed wellFormed' explained explained' (held.why e rfl)
    (held'.why f rfl) (same.rel_lookup held.distinct)

/-- A `bigInt` beside a field that holds `undefined`, and a number: the explanations have one document,
and agree. -/
theorem agrees_of_same_toJson_bigInt :
    let schema := Schema.object [("a", ⟨.arrayOf (.primitive .string), true⟩),
      ("b", ⟨.primitive .null, true⟩)]
    let value := Value.object [("b", .undefined), ("a", .array [.bigInt 1, .undefined])]
    let otherValue := Value.object [("a", .array [.number (.finite (.one false)), .undefined])]
    ∃ e f j, schema.explain value = some e ∧ schema.explain otherValue = some f ∧
      e.toJson = .ok j ∧ f.toJson = .ok j ∧ e.Agrees f := by
  intro schema value otherValue
  have explained : schema.explain value = some _ := rfl
  have explained' : schema.explain otherValue = some _ := rfl
  have value_wellFormed : value.WellFormed := by
    simp [value, Value.WellFormed, Value.WellFormedFields, Value.WellFormedElements,
      Entries.Distinct]
  have schema_wellFormed : schema.WellFormed := by
    simp [schema, Schema.WellFormed, Schema.WellFormedMembers, Entries.Distinct]
  exact ⟨_, _, _, explained, explained', rfl, rfl,
    agrees_of_same_toJson schema schema value otherValue _ _ _ _ value_wellFormed schema_wellFormed
      explained explained' rfl rfl (.refl _)⟩

end Conformance
