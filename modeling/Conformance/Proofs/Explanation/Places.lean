import Conformance.Proofs.Check.Inherited
import Conformance.Proofs.Explanation.Faults

/-!
# Places of failures

A choice or an intersection looks at one value several times, so that there may be many failures at one
place.  Without such schemas (`Schema.Direct`) there cannot: **each demand is about another part of the
value**, behind a token that no other demand has (`Schema.pairwise_token?_demands`), and everything
below it is reported behind that token (`Failure.prefix_of_mem_failuresAt`).  As an object or an array
that was looked into is no failure of its own, no two failures are about the same part, nor is one about
a part inside the other's: their pointers are apart (`Pointer.Apart`).

For tokens this is `Schema.pairwise_apart_failuresAt`.  It carries over to the texts of the pointers,
whatever the tokens are, because a text has one reading (`Pointer.write_injective`).
-/

namespace Conformance

/-! ## Pointers that part -/

namespace Pointer

/-- **Different pointers have different texts.** -/
lemma write_injective : Function.Injective write := by
  intro p q same
  have read := read?_write p
  rw [same, read?_write] at read
  exact (Option.some.inj read).symm

/-- Neither of two pointers leads to the other's part, or to something inside it. -/
def Apart (p q : Pointer) : Prop :=
  ¬ p.tokens <+: q.tokens ∧ ¬ q.tokens <+: p.tokens

lemma Apart.ne {p q : Pointer} (apart : p.Apart q) : p ≠ q := by
  rintro rfl
  exact apart.1 List.prefix_rfl

lemma prefix_push (path : Pointer) (token : String) : path.tokens <+: (path.push token).tokens :=
  List.prefix_append _ _

lemma prefix_along (path : Pointer) (step : Option Step) :
    path.tokens <+: (path.along step).tokens := by
  cases step with
  | none => exact List.prefix_rfl
  | some step => exact path.prefix_push step.token

/-- There is one way to go on. -/
lemma token_unique {path : Pointer} {s t : String} {tokens : List String}
    (left : (path.push s).tokens <+: tokens) (right : (path.push t).tokens <+: tokens) : s = t := by
  have long : (path.push s).tokens.length = (path.push t).tokens.length := by simp [push]
  have same := (List.prefix_of_prefix_length_le left right long.le).eq_of_length long
  exact List.singleton_inj.1 (List.append_cancel_left same)

/-- Where the tokens differ, the pointers part. -/
lemma apart_of_push {path p q : Pointer} {s t : String} (other : s ≠ t)
    (left : (path.push s).tokens <+: p.tokens) (right : (path.push t).tokens <+: q.tokens) :
    p.Apart q :=
  ⟨fun inside => other (token_unique (left.trans inside) right),
    fun inside => other (token_unique left (right.trans inside))⟩

end Pointer

/-- Different indices are different tokens. -/
lemma Step.token_index_injective : Function.Injective fun i => (Step.index i).token := by
  intro i j same
  have read := Pointer.index?_digitsOf i
  rw [show String.ofList (Decimal.digitsOf i) = String.ofList (Decimal.digitsOf j) from same,
    Pointer.index?_digitsOf] at read
  exact (Option.some.inj read).symm

/-! ## Failures lie behind the path -/

/-- **The pointer of a failure goes on from the path of the value.** -/
lemma Failure.prefix_of_mem_failuresAt {schema : Schema} {value : Value} {path : Pointer}
    {e : Explanation} {f : Failure} (explained : schema.explain value = some e)
    (mem : f ∈ e.failuresAt path) : path.tokens <+: f.path.tokens := by
  induction schema, value using Schema.demand_induction generalizing e path with
  | weigh schema value ih =>
    rcases cases_of_mem_failuresAt explained mem with
      ⟨rfl, -⟩ | ⟨key, -, rfl⟩ | ⟨step, inner, part, why, wanted, inside, mem⟩
    · exact List.prefix_rfl
    · exact path.prefix_push key
    · exact (path.prefix_along step).trans (ih step inner part wanted inside mem)

namespace Demand

/-- The token of a demand, unless it is about the value itself. -/
def token? : Demand → Option String
  | part step _ _ => step.map Step.token
  | presence key => some key

/-- The failures at a demand are behind its token. -/
lemma prefix_of_mem_failuresAt {demand : Demand} {path : Pointer} {isNot : Schema} {f : Failure}
    {token : String} (named : demand.token? = some token) (mem : f ∈ demand.failuresAt path isNot) :
    (path.push token).tokens <+: f.path.tokens := by
  cases demand with
  | part step schema value =>
    obtain ⟨step, rfl, rfl⟩ := Option.map_eq_some_iff.1 named
    rw [failuresAt, Schema.failuresAt] at mem
    split at mem
    · rename_i explained
      exact Failure.prefix_of_mem_failuresAt explained mem
    · cases mem
  | presence key =>
    cases named
    rw [failuresAt, List.mem_singleton] at mem
    rw [mem]

/-- A member makes its demand under its own key. -/
lemma token?_of_ofMember? {fields : List (String × Value)} {member : String × Member Schema}
    {demand : Demand} (wanted : ofMember? fields member = some demand) :
    demand.token? = some member.1 := by
  rw [ofMember?] at wanted
  split at wanted
  · split at wanted <;> cases wanted
    rfl
  · cases wanted
    rfl

end Demand

/-! ## Direct schemas -/

namespace Schema

/-- A schema without choices and intersections, at any depth. -/
def Direct (schema : Schema) : Prop :=
  ∀ inner, schema.Contains inner →
    (∀ alternatives, inner ≠ .oneOf alternatives) ∧ ∀ parts, inner ≠ .allOf parts

lemma direct_primitive (p : Primitive) : (primitive p).Direct := by
  rintro inner ⟨⟩
  simp

lemma direct_object {members : List (String × Member Schema)}
    (each : ∀ member ∈ members, member.2.schema.Direct) : (object members).Direct := by
  intro inner inside
  cases inside with
  | itself => simp
  | member declared inside => exact each _ declared inner inside

lemma direct_arrayOf {element : Schema} (direct : element.Direct) : (arrayOf element).Direct := by
  intro inner inside
  cases inside with
  | itself => simp
  | element inside => exact direct inner inside

lemma Contains.of_demand {schema inner innermost : Schema} {value part : Value} {step : Option Step}
    (wanted : .part step inner part ∈ schema.demands value) (inside : inner.Contains innermost) :
    schema.Contains innermost := by
  cases wants_of_mem_demands wanted with
  | field declared present => exact .member declared inside
  | alternative value listed => exact .alternative listed inside
  | part value listed => exact .part listed inside
  | element found => exact .element inside

lemma Direct.of_demand {schema inner : Schema} {value part : Value} {step : Option Step}
    (direct : schema.Direct) (wanted : .part step inner part ∈ schema.demands value) :
    inner.Direct :=
  fun innermost inside => direct innermost (.of_demand wanted inside)

/-- No node of a direct schema is a failure of its own once it was looked into. -/
lemma Direct.ofNode_eq_nil {schema : Schema} (direct : schema.Direct) (path : Pointer)
    (value : Value) : Failure.ofNode path value schema = [] := by
  obtain ⟨noChoice, noIntersection⟩ := direct schema (.itself schema)
  cases schema with
  | oneOf alternatives => exact (noChoice alternatives rfl).elim
  | allOf parts => exact (noIntersection parts rfl).elim
  | _ => rfl

/-- **The demands of a direct schema are about different parts.** -/
lemma pairwise_token?_demands {schema : Schema} (wellFormed : schema.WellFormed)
    (direct : schema.Direct) (value : Value) :
    (schema.demands value).Pairwise fun a b =>
      ∃ s t, a.token? = some s ∧ b.token? = some t ∧ s ≠ t := by
  obtain ⟨noChoice, noIntersection⟩ := direct schema (.itself schema)
  cases schema with
  | primitive p => exact .nil
  | literal scalar spelling => exact .nil
  | oneOf alternatives => exact (noChoice alternatives rfl).elim
  | allOf parts => exact (noIntersection parts rfl).elim
  | object members =>
    cases value with
    | object fields =>
      rw [WellFormed] at wellFormed
      rw [demands, List.pairwise_filterMap]
      refine (List.pairwise_map.1 wellFormed.1).imp fun {member member'} other a wanted b wanted' => ?_
      exact ⟨_, _, Demand.token?_of_ofMember? wanted, Demand.token?_of_ofMember? wanted', other⟩
    | _ => exact .nil
  | arrayOf element =>
    cases value with
    | array elements =>
      rw [demands, List.pairwise_map]
      refine (pairwise_zipIdx elements).imp fun before => ⟨_, _, rfl, rfl, ?_⟩
      exact Step.token_index_injective.ne before.ne
    | _ => exact .nil

/-- **The failures of a direct schema are about places that are apart.** -/
theorem pairwise_apart_failuresAt (path : Pointer) (schema : Schema) (value : Value)
    (wellFormed : schema.WellFormed) (direct : schema.Direct) :
    (schema.failuresAt path value).Pairwise fun f g => f.path.Apart g.path := by
  induction schema, value using demand_induction generalizing path with
  | weigh schema value ih =>
    rw [failuresAt_eq, direct.ofNode_eq_nil, List.nil_append]
    split
    · exact .nil
    · split
      · rw [List.pairwise_flatMap]
        constructor
        · intro demand wanted
          cases demand with
          | part step inner part =>
            exact ih step inner part wanted _ (wellFormed.of_demand wanted) (direct.of_demand wanted)
          | presence key => exact List.pairwise_singleton _ _
        · refine (pairwise_token?_demands wellFormed direct value).imp ?_
          rintro a b ⟨s, t, named, named', other⟩ f mem g mem'
          exact Pointer.apart_of_push other (Demand.prefix_of_mem_failuresAt named mem)
            (Demand.prefix_of_mem_failuresAt named' mem')
      · exact List.pairwise_singleton _ _

end Schema

/-- **Without choices and intersections no place is reported twice.**  A value that is rejected has an
explanation; the texts of the pointers in it are all different, and no pointer is about a part of what
another one is about. -/
theorem no_place_is_reported_twice (schema : Schema) (value : Value)
    (wellFormed : schema.WellFormed) (direct : schema.Direct)
    (rejected : schema.accepts value = false) :
    ∃ e, schema.explain value = some e ∧
      (e.failures.map fun f => f.path.write).Nodup ∧
      e.failures.Pairwise fun f g =>
        ¬ f.path.tokens <+: g.path.tokens ∧ ¬ g.path.tokens <+: f.path.tokens := by
  obtain ⟨e, explained⟩ := Option.isSome_iff_exists.1 (Schema.accepts_eq_false_iff.1 rejected)
  have apart := Schema.pairwise_apart_failuresAt .root schema value wellFormed direct
  rw [Schema.failuresAt_of_explain explained] at apart
  refine ⟨e, explained, List.pairwise_map.2 (apart.imp fun different => ?_), apart⟩
  exact Pointer.write_injective.ne different.ne

/-- Keys with slashes and tildes, an empty one, and one that looks like the index beside it. -/
theorem no_place_is_reported_twice_escaped :
    let inner := Schema.object [("~1", ⟨.primitive .null, true⟩), ("/", ⟨.primitive .null, true⟩),
      ("", ⟨.arrayOf (.primitive .null), true⟩)]
    let schema := Schema.object [("0", ⟨inner, true⟩), ("0/~1", ⟨.primitive .null, true⟩)]
    let value := Value.object [("0", .object [("", .array [.bool true, .null, .undefined])])]
    schema.WellFormed ∧ schema.Direct ∧ schema.accepts value = false ∧
      ∃ e, schema.explain value = some e ∧
        (e.failures.map fun f => f.path.write) = ["/0/~01", "/0/~1", "/0//0", "/0//2", "/0~1~01"] ∧
        (e.failures.map fun f => f.path.write).Nodup := by
  intro inner schema value
  have wellFormed : schema.WellFormed := by
    simp [schema, inner, Schema.WellFormed, Schema.WellFormedMembers, Entries.Distinct]
  have direct_inner : inner.Direct := by
    refine Schema.direct_object fun member mem => ?_
    simp only [List.mem_cons, List.not_mem_nil, or_false] at mem
    rcases mem with rfl | rfl | rfl
    · exact Schema.direct_primitive .null
    · exact Schema.direct_primitive .null
    · exact Schema.direct_arrayOf (Schema.direct_primitive .null)
  have direct : schema.Direct := by
    refine Schema.direct_object fun member mem => ?_
    simp only [List.mem_cons, List.not_mem_nil, or_false] at mem
    rcases mem with rfl | rfl
    · exact direct_inner
    · exact Schema.direct_primitive .null
  have rejected : schema.accepts value = false := by decide
  obtain ⟨e, explained, distinct, -⟩ :=
    no_place_is_reported_twice schema value wellFormed direct rejected
  refine ⟨wellFormed, direct, rejected, e, explained, ?_, distinct⟩
  cases explained
  decide

end Conformance
