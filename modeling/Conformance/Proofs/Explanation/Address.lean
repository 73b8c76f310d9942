import Conformance.Proofs.Check.FailFast
import Conformance.Proofs.Explanation.Exact
import Conformance.Proofs.Pointer.Following

/-!
# Failures are true and addressed

A failure says that something is wrong at a place.  Both parts of that are facts about the value
that was checked: **the pointer leads to the rejected part, and the part is rejected in the way that
the failure says**.

* `FailureKind.Fits` says what each kind of failure means for a schema and a value.
* `Failure.Rejects` is the meaning of a failure with a rejected part and `Failure.Misses` that of a
  missing member, whose pointer leads to where it should have been.
* `Failure.cases_of_mem_failuresAt` says where a failure comes from, one step down an explanation.
* `holds_of_mem_failuresAt` walks down an explanation.  What goes with the walk is that the path so
  far leads to the part that is explained there (`Pointer.Leads`); `Pointer.Leads.follow` is the
  step along a demand.
* **`failures_hold`**: all failures of an explanation mean what they say, and their pointers may as
  well be followed in the document that is written for the value.
-/

namespace Conformance

/-! ## What failures say -/

/-- The part of a document that the text of a pointer leads to. -/
def Json.resolve? (j : Json) (text : String) : Option Json :=
  (Pointer.read? text).bind fun pointer => j.at? pointer.tokens

lemma Json.resolve?_write (j : Json) (pointer : Pointer) :
    j.resolve? pointer.write = j.at? pointer.tokens := by
  rw [resolve?, Pointer.read?_write, Option.bind_some]

/-- What a kind of failure says about the schema and the part that it rejects.  A missing member is
no part, so that its kind never fits one. -/
def FailureKind.Fits (schema : Schema) (part : Value) : FailureKind → Prop
  | typeMismatch =>
    (∃ p, schema = .primitive p) ∨ (∃ scalar spelling, schema = .literal scalar spelling)
  | notAnObject => ∃ members, schema = .object members ∧ part.fields? = none
  | notAnArray => ∃ element, schema = .arrayOf element ∧ part.elements? = none
  | missingRequiredKey => False
  | noAlternativeMatched => ∃ alternatives, schema = .oneOf alternatives ∧
      ∀ alternative ∈ alternatives, alternative.accepts part = false
  | intersectionMemberFailed => ∃ parts, schema = .allOf parts ∧
      ∃ inner ∈ parts, inner.accepts part = false

namespace Failure

/-- A failure with a rejected part of a value. -/
structure Rejects (f : Failure) (value part : Value) : Prop where
  reported : f.value = some part
  /-- The pointer leads to the part. -/
  inValue : value.at? f.path.tokens = some part
  /-- The text of the pointer leads to the document of the part. -/
  inDocument : value.toJson.resolve? f.path.write = some part.toJson
  rejected : f.schema.accepts part = false
  fits : f.kind.Fits f.schema part

/-- A failure about a key that is missing in an object inside a value, at the pointer `parent`. -/
structure Misses (f : Failure) (value : Value) (parent : Pointer) (key : String)
    (fields : List (String × Value)) : Prop where
  kind : f.kind = .missingRequiredKey
  reported : f.value = none
  path : f.path = parent.push key
  /-- The pointer to the parent leads to the object. -/
  inValue : value.at? parent.tokens = some (.object fields)
  /-- The text of that pointer leads to the document of the object. -/
  inDocument : value.toJson.resolve? parent.write = some (Value.object fields).toJson
  absent : fields.lookup key = none ∨ fields.lookup key = some .undefined
  /-- The document has nothing at all where the member should have been. -/
  absentInDocument : value.WellFormed → value.toJson.resolve? f.path.write = none
  required : ∃ members member, f.schema = .object members ∧ (key, member) ∈ members ∧
    member.required = true

/-- A failure means what it says of a value. -/
def Holds (f : Failure) (value : Value) : Prop :=
  (∃ part, f.Rejects value part) ∨ (∃ parent key fields, f.Misses value parent key fields)

end Failure

/-! ## The failure of a node -/

/-- A part that is not looked into is of the wrong kind. -/
lemma FailureKind.fits_of_leaf {schema : Schema} {part : Value}
    (outright : schema.looksInto part = false) : (ofSchema schema).Fits schema part := by
  rcases (schema.looksInto_eq_false_iff part).1 outright with
    ⟨p, rfl⟩ | ⟨scalar, spelling, rfl⟩ | ⟨members, rfl, noFields⟩ | ⟨element, rfl, noElements⟩
  · exact Or.inl ⟨p, rfl⟩
  · exact Or.inr ⟨scalar, spelling, rfl⟩
  · exact ⟨members, rfl, noFields⟩
  · exact ⟨element, rfl, noElements⟩

/-- An intersection that is explained has a part that rejects the value. -/
lemma exists_part_of_explain_allOf {parts : List Schema} {value : Value} {e : Explanation}
    (explained : (Schema.allOf parts).explain value = some e) :
    ∃ inner ∈ parts, inner.accepts value = false := by
  rcases Schema.cases_of_explain explained with ⟨outright, -⟩ | ⟨-, -, caused⟩
  · cases outright
  · obtain ⟨cause, mem⟩ := List.exists_mem_of_ne_nil _ caused
    rw [Schema.demands, filterMap_ofSame, List.mem_filterMap] at mem
    obtain ⟨inner, inner_mem, rejection⟩ := mem
    refine ⟨inner, inner_mem, Schema.accepts_eq_false_iff.2 ?_⟩
    rw [← Option.isSome_map, rejection, Option.isSome_some]

/-- A node that counts as a failure is a choice or an intersection, and fails as one. -/
lemma Failure.eq_of_mem_ofNode {path : Pointer} {schema : Schema} {part : Value} {e : Explanation}
    {f : Failure} (explained : schema.explain part = some e) (mem : f ∈ ofNode path part schema) :
    f = .ofRejection path part schema ∧ (FailureKind.ofSchema schema).Fits schema part := by
  cases schema with
  | oneOf alternatives =>
    refine ⟨List.mem_singleton.1 mem, alternatives, rfl, fun alternative alternative_mem => ?_⟩
    exact Schema.accepts_eq_false_iff.2 (isSome_of_explain_oneOf explained _ alternative_mem)
  | allOf parts =>
    exact ⟨List.mem_singleton.1 mem, parts, rfl, exists_part_of_explain_allOf explained⟩
  | _ => cases mem

/-- A rejection is a true failure where the path leads to the rejected part. -/
lemma Failure.rejects_ofRejection {path : Pointer} {schema : Schema} {value part : Value}
    {e : Explanation} (leads : path.Leads value part) (explained : schema.explain part = some e)
    (fits : (FailureKind.ofSchema schema).Fits schema part) :
    (ofRejection path part schema).Rejects value part where
  reported := rfl
  inValue := leads.inValue
  inDocument := by rw [Json.resolve?_write]; exact leads.inDocument
  rejected := Schema.accepts_eq_false_iff.2 (Option.isSome_iff_exists.2 ⟨e, explained⟩)
  fits := fits

/-! ## Along the demands -/

/-- The path of a demand about a part, from the path of the value. -/
def Pointer.along (path : Pointer) : Option Step → Pointer
  | some step => path.push step.token
  | none => path

/-- The failures of one cause of a node at a path. -/
def Cause.failures (path : Pointer) (isNot : Schema) : Cause → List Failure
  | within step why => why.failuresAt (path.push step.token)
  | missing key => [⟨path.push key, .missingRequiredKey, none, isNot⟩]
  | same why => why.failuresAt path

lemma Cause.failuresAt_eq_flatMap (path : Pointer) (isNot : Schema) (causes : List Cause) :
    failuresAt path isNot causes = causes.flatMap (failures path isNot) := by
  induction causes with
  | nil => rfl
  | cons cause rest ih => cases cause <;> rw [failuresAt, ih, List.flatMap_cons] <;> rfl

lemma Cause.failures_at (path : Pointer) (isNot : Schema) (step : Option Step)
    (why : Explanation) :
    (Cause.at step why).failures path isNot = why.failuresAt (path.along step) := by
  cases step <;> rfl

/-- **A path that leads to a value leads along the demands to their parts.**  The step to a field
needs the field to be present, as otherwise the document lacks it; a demand is only made then. -/
lemma Pointer.Leads.follow {path : Pointer} {value x part : Value} {schema inner : Schema}
    {step : Option Step} (leads : path.Leads value x)
    (wanted : .part step inner part ∈ schema.demands x) : (path.along step).Leads value part := by
  cases Schema.wants_of_mem_demands wanted with
  | field declared present => exact leads.push_name present
  | alternative value listed => exact leads
  | part value listed => exact leads
  | element found => exact leads.push_index found

/-- A demanded key is missing where the path leads to the object. -/
lemma Failure.misses_of_mem_demands {path : Pointer} {schema : Schema} {value x : Value}
    {key : String} (leads : path.Leads value x) (wanted : .presence key ∈ schema.demands x) :
    ∃ fields, Misses ⟨path.push key, .missingRequiredKey, none, schema⟩ value path key fields := by
  cases Schema.wants_of_mem_demands wanted with
  | @missing members fields key member declared required absent =>
    refine ⟨fields, ?_⟩
    constructor
    case kind => rfl
    case reported => rfl
    case path => rfl
    case inValue => exact leads.inValue
    case inDocument => rw [Json.resolve?_write, leads.inDocument]
    case absent => exact Value.present?_eq_none_iff.1 absent
    case absentInDocument =>
      intro wellFormed
      -- A field after one that holds `undefined` would turn up in its place.
      have distinct : (Value.object fields).WellFormed :=
        Value.wellFormed_at? wellFormed leads.inValue
      rw [Value.WellFormed] at distinct
      rw [Json.resolve?_write, Json.at?_push, leads.inDocument, Option.bind_some, Value.toJson,
        Json.child?]
      exact Value.lookup_toJsonFields_of_absent distinct.1 absent
    case required => exact ⟨members, member, rfl, declared, required⟩

/-! ## One step down -/

/-- A cause is the explanation of a demanded part, or a demanded key that is missing. -/
lemma Cause.cases_of_mem {schema : Schema} {value : Value} {cause : Cause}
    (mem : cause ∈ (schema.demands value).filterMap (Demand.cause? .exhaustive)) :
    (∃ step inner part why, .part step inner part ∈ schema.demands value ∧
      inner.explain part = some why ∧ cause = Cause.at step why) ∨
    ∃ key, .presence key ∈ schema.demands value ∧ cause = .missing key := by
  obtain ⟨demand, wanted, caused⟩ := List.mem_filterMap.1 mem
  cases demand with
  | part step inner part =>
    obtain ⟨why, explained, rfl⟩ := Option.map_eq_some_iff.1 caused
    exact Or.inl ⟨step, inner, part, why, wanted, explained, rfl⟩
  | presence key =>
    cases caused
    exact Or.inr ⟨key, wanted, rfl⟩

/-- **A failure is about the value itself, about a key that is missing, or about a demanded part.** -/
lemma Failure.cases_of_mem_failuresAt {schema : Schema} {value : Value} {path : Pointer}
    {e : Explanation} {f : Failure} (explained : schema.explain value = some e)
    (mem : f ∈ e.failuresAt path) :
    (f = .ofRejection path value schema ∧ (FailureKind.ofSchema schema).Fits schema value) ∨
    (∃ key, .presence key ∈ schema.demands value ∧
      f = ⟨path.push key, .missingRequiredKey, none, schema⟩) ∨
    ∃ step inner part why, .part step inner part ∈ schema.demands value ∧
      inner.explain part = some why ∧ f ∈ why.failuresAt (path.along step) := by
  rcases Schema.cases_of_explain explained with ⟨outright, rfl⟩ | ⟨-, rfl, -⟩
  · rw [Explanation.failuresAt, List.mem_singleton] at mem
    exact Or.inl ⟨mem, FailureKind.fits_of_leaf outright⟩
  · rw [Explanation.failuresAt, List.mem_append, Cause.failuresAt_eq_flatMap] at mem
    rcases mem with own | below
    · exact Or.inl (Failure.eq_of_mem_ofNode explained own)
    · obtain ⟨cause, cause_mem, mem⟩ := List.mem_flatMap.1 below
      rcases Cause.cases_of_mem cause_mem with
        ⟨step, inner, part, why, wanted, inside, rfl⟩ | ⟨key, wanted, rfl⟩
      · rw [Cause.failures_at] at mem
        exact Or.inr (Or.inr ⟨step, inner, part, why, wanted, inside, mem⟩)
      · rw [Cause.failures, List.mem_singleton] at mem
        exact Or.inr (Or.inl ⟨key, wanted, mem⟩)

/-! ## All failures hold -/

/-- **Where the path leads to the value explained, the failures of the explanation hold.** -/
lemma holds_of_mem_failuresAt {value x : Value} {schema : Schema} {path : Pointer}
    {e : Explanation} {f : Failure} (leads : path.Leads value x)
    (explained : schema.explain x = some e) (mem : f ∈ e.failuresAt path) : f.Holds value := by
  -- The path grows on the way down, so that `leads` has to go into the induction.
  induction schema, x using Schema.demand_induction generalizing e path with
  | weigh schema x ih =>
    rcases Failure.cases_of_mem_failuresAt explained mem with
      ⟨rfl, fits⟩ | ⟨key, wanted, rfl⟩ | ⟨step, inner, part, why, wanted, inside, mem⟩
    · exact Or.inl ⟨x, Failure.rejects_ofRejection leads explained fits⟩
    · exact Or.inr ⟨path, key, Failure.misses_of_mem_demands leads wanted⟩
    · exact ih step inner part wanted (leads.follow wanted) inside mem

/-- **Every failure is true and addressed.**  Unless it is about a missing member, its pointer leads
to the part that it reports, which its schema rejects in the way that its kind says.  If it is, the
pointer leads into an object that lacks a member required by the schema.  The texts of the pointers
do the same in the document. -/
theorem failures_hold (schema : Schema) (value : Value) (e : Explanation) (f : Failure)
    (explained : schema.explain value = some e) (mem : f ∈ e.failures) :
    (f.kind ≠ .missingRequiredKey → ∃ part, f.Rejects value part) ∧
    (f.kind = .missingRequiredKey →
      ∃ parent key fields, f.Misses value parent key fields) := by
  rcases holds_of_mem_failuresAt (Pointer.leads_root value) explained mem with
    ⟨part, rejects⟩ | ⟨parent, key, fields, misses⟩
  · refine ⟨fun _ => ⟨part, rejects⟩, fun missing => ?_⟩
    have fits := rejects.fits
    rw [missing] at fits
    exact fits.elim
  · exact ⟨fun other => (other misses.kind).elim, fun _ => ⟨parent, key, fields, misses⟩⟩

/-- An element that no alternative accepts, under a name with a slash, beside a key that holds
`undefined`. -/
theorem failures_hold_of_object :
    ∃ e, (Schema.object [("a/b", ⟨.arrayOf (.oneOf [.primitive .string]), true⟩),
          ("c", ⟨.primitive .null, true⟩)]).explain
        (.object [("c", .undefined), ("a/b", .array [.string "x", .undefined])]) = some e ∧
      (Value.object [("c", .undefined), ("a/b", .array [.string "x", .undefined])]).WellFormed ∧
      e.failures.map (fun f => (f.path.write, f.kind)) =
        [("/a~1b/1", .noAlternativeMatched), ("/a~1b/1", .typeMismatch),
          ("/c", .missingRequiredKey)] ∧
      ∀ f ∈ e.failures, f.Holds
        (.object [("c", .undefined), ("a/b", .array [.string "x", .undefined])]) := by
  have explained : (Schema.object [("a/b", ⟨.arrayOf (.oneOf [.primitive .string]), true⟩),
        ("c", ⟨.primitive .null, true⟩)]).explain
      (.object [("c", .undefined), ("a/b", .array [.string "x", .undefined])]) = some _ := rfl
  refine ⟨_, explained, ?_, by decide, fun f mem => ?_⟩
  · simp [Value.WellFormed, Value.WellFormedFields, Value.WellFormedElements, Entries.Distinct,
      Entries.keys]
  · obtain ⟨part, missing⟩ := failures_hold _ _ _ f explained mem
    by_cases kind : f.kind = .missingRequiredKey
    · exact Or.inr (missing kind)
    · exact Or.inl (part kind)

end Conformance
