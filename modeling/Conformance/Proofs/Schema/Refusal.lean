import Conformance.Proofs.Result
import Conformance.Proofs.Schema.Parts
import Conformance.Schema.Document

/-!
# Schemas without a wire form

There are two reasons why a schema cannot be written: a number literal that is not finite, and a
required member whose key looks marked.  `Schema.obstacles` lists all of them where they stand, a member
before what is inside it, and **the first of them is reported** (`Schema.errorOf?_toWire`).

An error may travel inside a document, where the end of its wording would be taken for a place if it
looked like one.  **Neither wording does** (`SchemaError.OfWriting.message?_defect`): one ends in a word
and the other in the mark.
-/

namespace Conformance

/-! ## Obstacles -/

/-- A scalar has a JSON form unless it is a number that is not finite. -/
lemma Scalar.toJson?_eq_none_iff {scalar : Scalar} :
    scalar.toJson? = none ↔ ∃ x, scalar = .number x ∧ x.isFinite = false := by
  cases scalar with
  | number x => cases x <;> simp [toJson?, Json.Number.ofBinary64?, Binary64.isFinite]
  | _ => simp [toJson?]

/-- A key that ends in a question mark looks like the name of an optional member. -/
def OptionalMark.Marked (key : String) : Prop :=
  key.toList.getLast? = some '?'

instance (key : String) : Decidable (OptionalMark.Marked key) :=
  inferInstanceAs (Decidable (_ = _))

lemma OptionalMark.remove?_eq_none_iff {name : String} : remove? name = none ↔ ¬ Marked name := by
  rw [remove?, Marked]
  split <;> simp_all

lemma OptionalMark.Marked.exists_add {key : String} (marked : Marked key) :
    ∃ shorter, key = add shorter := by
  cases removed : remove? key with
  | none => exact absurd marked (remove?_eq_none_iff.1 removed)
  | some shorter => exact ⟨shorter, eq_add_of_remove? removed⟩

/-- A member without a name is required and has a key that looks marked. -/
lemma Member.name?_eq_none_iff {key : String} {required : Bool} :
    name? key required = none ↔ required = true ∧ OptionalMark.Marked key := by
  cases required with
  | false => simp [name?]
  | true =>
    rw [name?, if_pos rfl, ← Classical.not_not (a := OptionalMark.Marked key),
      ← OptionalMark.remove?_eq_none_iff]
    cases OptionalMark.remove? key <;> simp

namespace Schema

mutual

/-- Everything in a schema that cannot be written, in the order of the document. -/
def obstacles : Schema → List SchemaError
  | primitive _ => []
  | literal (.number x) _ => if x.isFinite then [] else [.invalidLiteral]
  | literal _ _ => []
  | object members => memberObstacles members
  | oneOf schemas | allOf schemas => allObstacles schemas
  | arrayOf element => element.obstacles
termination_by structural schema => schema

/-- The members that cannot be written, each before what cannot be written inside it. -/
def memberObstacles : List (String × Member Schema) → List SchemaError
  | [] => []
  | (key, member) :: rest =>
    (if member.required ∧ OptionalMark.Marked key then [.ambiguousMember key] else []) ++
      member.schema.obstacles ++ memberObstacles rest
termination_by structural members => members

/-- The obstacles in schemas, one after the other. -/
def allObstacles : List Schema → List SchemaError
  | [] => []
  | schema :: rest => schema.obstacles ++ allObstacles rest
termination_by structural schemas => schemas

end

/-- Writing a schema ends at the first obstacle. -/
def EndsAtFirst (schema : Schema) : Prop :=
  errorOf? schema.toWire = schema.obstacles.head?

lemma errorOf?_toWire_literal (scalar : Scalar) (spelling : LiteralSpelling) :
    EndsAtFirst (literal scalar spelling) := by
  rw [EndsAtFirst, toWire]
  cases written : scalar.toJson? with
  | none =>
    obtain ⟨x, rfl, notFinite⟩ := Scalar.toJson?_eq_none_iff.1 written
    rw [obstacles, notFinite]
    rfl
  | some j =>
    cases scalar with
    | number x => cases x <;> first | rfl | cases written
    | _ => rfl

lemma errorOf?_toWireAll {schemas : List Schema} (each : ∀ schema ∈ schemas, EndsAtFirst schema) :
    errorOf? (toWireAll schemas) = (allObstacles schemas).head? := by
  induction schemas with
  | nil => rfl
  | cons schema rest ih =>
    obtain ⟨here, later⟩ := List.forall_mem_cons.1 each
    rw [toWireAll, allObstacles, List.head?_append, ← here, ← ih later]
    exact errorOf?_bind fun wire => errorOf?_bind_ok _ _

/-- A member without a name is an obstacle before its schema is looked at. -/
lemma errorOf?_toWireMembers {members : List (String × Member Schema)}
    (each : ∀ member ∈ members, EndsAtFirst member.2.schema) :
    errorOf? (toWireMembers members) = (memberObstacles members).head? := by
  induction members with
  | nil => rfl
  | cons member rest ih =>
    obtain ⟨key, member⟩ := member
    obtain ⟨here, later⟩ := List.forall_mem_cons.1 each
    rw [toWireMembers, memberObstacles]
    cases named : Member.name? key member.required with
    | none =>
      rw [if_pos (Member.name?_eq_none_iff.1 named)]
      rfl
    | some name =>
      have unobstructed : ¬ (member.required = true ∧ OptionalMark.Marked key) := by
        rw [← Member.name?_eq_none_iff, named]
        simp
      rw [if_neg unobstructed, List.nil_append, List.head?_append, ← here, ← ih later]
      exact errorOf?_bind fun wire => errorOf?_bind_ok _ _

/-- **The first obstacle is the error in which writing a schema ends.** -/
theorem errorOf?_toWire (schema : Schema) :
    errorOf? schema.toWire = schema.obstacles.head? := by
  induction schema using parts_induction with
  | primitive p => rfl
  | literal value spelling => exact errorOf?_toWire_literal value spelling
  | object members ih =>
    rw [toWire, errorOf?_bind_ok, obstacles, errorOf?_toWireMembers ih]
  | oneOf schemas ih =>
    rw [toWire, errorOf?_bind_ok, obstacles, errorOf?_toWireAll ih]
  | allOf schemas ih =>
    rw [toWire, errorOf?_bind_ok, obstacles, errorOf?_toWireAll ih]
  | arrayOf element ih =>
    rw [toWire, errorOf?_bind_ok, obstacles, ih]

/-! ## Where the obstacles are -/

/-- A schema raises an error if it cannot be written even though all schemas inside it can. -/
inductive Raises : Schema → SchemaError → Prop
  | literal {x : Binary64} {spelling : LiteralSpelling} (notFinite : x.isFinite = false) :
    Raises (.literal (.number x) spelling) .invalidLiteral
  | member {members : List (String × Member Schema)} {member : String × Member Schema}
    (declared : member ∈ members) (required : member.2.required = true)
    (marked : OptionalMark.Marked member.1) : Raises (.object members) (.ambiguousMember member.1)

lemma mem_allObstacles_iff {schemas : List Schema} {error : SchemaError} :
    error ∈ allObstacles schemas ↔ ∃ schema ∈ schemas, error ∈ schema.obstacles := by
  induction schemas with
  | nil => simp [allObstacles]
  | cons schema rest ih => simp [allObstacles, ih]

lemma mem_memberObstacles_iff {members : List (String × Member Schema)} {error : SchemaError} :
    error ∈ memberObstacles members ↔
      (∃ member ∈ members, member.2.required = true ∧ OptionalMark.Marked member.1 ∧
        error = .ambiguousMember member.1) ∨
      ∃ member ∈ members, error ∈ member.2.schema.obstacles := by
  induction members with
  | nil => simp [memberObstacles]
  | cons member rest ih =>
    obtain ⟨key, member⟩ := member
    have here : error ∈ (if member.required ∧ OptionalMark.Marked key then
          [SchemaError.ambiguousMember key] else []) ↔
        member.required = true ∧ OptionalMark.Marked key ∧ error = .ambiguousMember key := by
      split <;> simp_all
    rw [memberObstacles, List.mem_append, List.mem_append, here, ih]
    simp only [List.mem_cons, exists_eq_or_imp]
    exact or_or_or_comm

/-- What is raised inside is an obstacle. -/
lemma mem_obstacles_of_raises {schema inner : Schema} {error : SchemaError}
    (inside : schema.Contains inner) (raises : inner.Raises error) : error ∈ schema.obstacles := by
  induction inside with
  | itself schema =>
    cases raises with
    | literal notFinite => simp [obstacles, notFinite]
    | member declared required marked =>
      rw [obstacles, mem_memberObstacles_iff]
      exact Or.inl ⟨_, declared, required, marked, rfl⟩
  | member declared _ ih =>
    rw [obstacles, mem_memberObstacles_iff]
    exact Or.inr ⟨_, declared, ih raises⟩
  | alternative listed _ ih =>
    rw [obstacles, mem_allObstacles_iff]
    exact ⟨_, listed, ih raises⟩
  | part listed _ ih =>
    rw [obstacles, mem_allObstacles_iff]
    exact ⟨_, listed, ih raises⟩
  | element _ ih => exact ih raises

/-- An obstacle is raised somewhere inside. -/
lemma exists_raises_of_mem_obstacles {schema : Schema} {error : SchemaError}
    (mem : error ∈ schema.obstacles) : ∃ inner, schema.Contains inner ∧ inner.Raises error := by
  induction schema using parts_induction with
  | primitive p => cases mem
  | literal value spelling =>
    cases value with
    | number x =>
      rw [obstacles] at mem
      split at mem
      · cases mem
      · rename_i notFinite
        cases List.mem_singleton.1 mem
        exact ⟨_, .itself _, .literal (Bool.eq_false_iff.2 notFinite)⟩
    | _ => cases mem
  | object members ih =>
    rw [obstacles, mem_memberObstacles_iff] at mem
    rcases mem with
      ⟨member, declared, required, marked, rfl⟩ | ⟨member, declared, mem⟩
    · exact ⟨_, .itself _, .member declared required marked⟩
    · obtain ⟨inner, inside, raises⟩ := ih member declared mem
      exact ⟨inner, .member declared inside, raises⟩
  | oneOf schemas ih =>
    rw [obstacles, mem_allObstacles_iff] at mem
    obtain ⟨schema, listed, mem⟩ := mem
    obtain ⟨inner, inside, raises⟩ := ih schema listed mem
    exact ⟨inner, .alternative listed inside, raises⟩
  | allOf schemas ih =>
    rw [obstacles, mem_allObstacles_iff] at mem
    obtain ⟨schema, listed, mem⟩ := mem
    obtain ⟨inner, inside, raises⟩ := ih schema listed mem
    exact ⟨inner, .part listed inside, raises⟩
  | arrayOf element ih =>
    obtain ⟨inner, inside, raises⟩ := ih mem
    exact ⟨inner, .element inside, raises⟩

/-- The error in which writing a schema ends is raised somewhere inside. -/
lemma exists_raises_of_toWire {schema : Schema} {error : SchemaError}
    (failed : schema.toWire = .error error) : ∃ inner, schema.Contains inner ∧ inner.Raises error := by
  rw [← errorOf?_eq_some_iff, errorOf?_toWire] at failed
  exact exists_raises_of_mem_obstacles (List.mem_of_mem_head? failed)

/-- **A schema has a wire form if nothing inside it raises an error.** -/
theorem exists_toWire_iff {schema : Schema} :
    (∃ wire, schema.toWire = .ok wire) ↔
      ∀ inner error, schema.Contains inner → ¬ inner.Raises error := by
  rw [← errorOf?_eq_none_iff, errorOf?_toWire, List.head?_eq_none_iff]
  constructor
  · intro none inner error inside raises
    have mem := mem_obstacles_of_raises inside raises
    rw [none] at mem
    cases mem
  · intro silent
    refine List.eq_nil_iff_forall_not_mem.2 fun error mem => ?_
    obtain ⟨inner, inside, raises⟩ := exists_raises_of_mem_obstacles mem
    exact silent inner error inside raises

end Schema

/-! ## The errors -/

/-- The errors in which writing a schema may end. -/
inductive SchemaError.OfWriting : SchemaError → Prop
  | invalidLiteral : OfWriting .invalidLiteral
  | ambiguousMember (key : String) : OfWriting (.ambiguousMember (OptionalMark.add key))

/-- **Writing a schema ends in one of two errors, if in any.** -/
theorem Schema.ofWriting_of_toWire (schema : Schema) :
    ∀ error, schema.toWire = .error error → error.OfWriting := by
  intro error failed
  obtain ⟨inner, -, raises⟩ := exists_raises_of_toWire failed
  cases raises with
  | literal notFinite => exact .invalidLiteral
  | @member members member declared required marked =>
    obtain ⟨shorter, whole⟩ := marked.exists_add
    rw [whole]
    exact .ambiguousMember shorter

/-! ## Their wordings -/

/-- A message that does not end in a digit does not end in a place. -/
lemma Text.Place.normalize_of_getLast? {message : String} {c : Char}
    (last : message.toList.getLast? = some c) (noDigit : c.isDigit = false) :
    normalize message = message := by
  obtain ⟨before, chars⟩ := List.getLast?_eq_some_iff.1 last
  have noNumber : numberBehind? columnWord message.toList.reverse = none := by
    rw [chars, List.reverse_append, List.reverse_singleton, List.singleton_append]
    simp [numberBehind?, noDigit]
  rw [normalize, split?, noNumber]
  rfl

lemma OptionalMark.getLast?_append_add (text key : String) :
    (text ++ add key).toList.getLast? = some '?' := by
  have marked : (add key).toList = key.toList ++ ['?'] := by simp [add]
  rw [String.toList_append, marked, ← List.append_assoc, List.getLast?_concat]

/-- **The wording of such an error is the same inside a document.** -/
theorem SchemaError.OfWriting.message?_defect {error : SchemaError} (written : error.OfWriting) :
    (LoadError.defect error).message? = some error.message := by
  refine congrArg some ?_
  cases written with
  | invalidLiteral =>
    have last : (message .invalidLiteral).toList.getLast? = some 's' := by
      decide +kernel
    exact Text.Place.normalize_of_getLast? last rfl
  | ambiguousMember key =>
    have last := OptionalMark.getLast?_append_add "ambiguous member: " key
    exact Text.Place.normalize_of_getLast? last rfl

end Conformance
