import Conformance.Proofs.Json.Number
import Conformance.Proofs.Schema.Meaning
import Conformance.Proofs.Schema.Parts

/-!
# Schemas that are loaded and written again

Every schema that was loaded can be written.  **What is written is the wire form that was loaded, with
its number literals respelled** (`toWire_of_ofWire`): `WireSchema.mapLiterals` changes the documents
under `literal` and `match` and nothing else, and `Json.respelled` changes numbers and nothing else.

So the wire form comes back unchanged exactly when all numbers among its literals are canonical
(`mapLiterals_eq_self_iff`).
-/

namespace Conformance

/-! ## The literals of a wire form -/

namespace WireSchema

mutual

/-- The documents under `literal` and `match`, at every depth. -/
def literals : WireSchema → List Json
  | bare _ => []
  | keywords ⟨literal, matching, object, oneOf, allOf, arrayOf, _⟩ =>
    literal.toList ++ matching.toList ++ objectLiterals object ++ listLiterals oneOf ++
      listLiterals allOf ++ schemaLiterals arrayOf
termination_by structural wire => wire

/-- `literals` for the keyword `object`. -/
def objectLiterals : Option (List (String × WireSchema)) → List Json
  | none => []
  | some members => membersLiterals members
termination_by structural content => content

/-- `literals` for the keywords `oneOf` and `allOf`. -/
def listLiterals : Option (List WireSchema) → List Json
  | none => []
  | some wires => allLiterals wires
termination_by structural content => content

/-- `literals` for the keyword `arrayOf`. -/
def schemaLiterals : Option WireSchema → List Json
  | none => []
  | some wire => wire.literals
termination_by structural content => content

/-- `literals` for members. -/
def membersLiterals : List (String × WireSchema) → List Json
  | [] => []
  | (_, wire) :: rest => wire.literals ++ membersLiterals rest
termination_by structural members => members

/-- `literals` for all wire forms of a list. -/
def allLiterals : List WireSchema → List Json
  | [] => []
  | wire :: rest => wire.literals ++ allLiterals rest
termination_by structural wires => wires

end

variable (change : Json → Json)

mutual

/-- The wire form with its literals changed and everything else as it is. -/
def mapLiterals : WireSchema → WireSchema
  | bare name => bare name
  | keywords ⟨literal, matching, object, oneOf, allOf, arrayOf, extra⟩ =>
    keywords ⟨literal.map change, matching.map change, mapObject object, mapList oneOf,
      mapList allOf, mapSchema arrayOf, extra⟩
termination_by structural wire => wire

/-- `mapLiterals` for the keyword `object`. -/
def mapObject : Option (List (String × WireSchema)) → Option (List (String × WireSchema))
  | none => none
  | some members => some (mapMembers members)
termination_by structural content => content

/-- `mapLiterals` for the keywords `oneOf` and `allOf`. -/
def mapList : Option (List WireSchema) → Option (List WireSchema)
  | none => none
  | some wires => some (mapAll wires)
termination_by structural content => content

/-- `mapLiterals` for the keyword `arrayOf`. -/
def mapSchema : Option WireSchema → Option WireSchema
  | none => none
  | some wire => some wire.mapLiterals
termination_by structural content => content

/-- `mapLiterals` for members. -/
def mapMembers : List (String × WireSchema) → List (String × WireSchema)
  | [] => []
  | (name, wire) :: rest => (name, wire.mapLiterals) :: mapMembers rest
termination_by structural members => members

/-- `mapLiterals` for all wire forms of a list. -/
def mapAll : List WireSchema → List WireSchema
  | [] => []
  | wire :: rest => wire.mapLiterals :: mapAll rest
termination_by structural wires => wires

end

variable {change}

lemma map_eq_self_iff {j : Option Json} : j.map change = j ↔ ∀ i ∈ j.toList, change i = i := by
  cases j <;> simp

mutual

/-- **A change of literals leaves a wire form as it is exactly when it leaves all its literals.** -/
theorem mapLiterals_eq_self_iff :
    ∀ wire, mapLiterals change wire = wire ↔ ∀ j ∈ wire.literals, change j = j
  | bare name => by simp [mapLiterals, literals]
  | keywords ⟨literal, matching, object, oneOf, allOf, arrayOf, extra⟩ => by
    simp only [mapLiterals, literals, keywords.injEq, Keywords.mk.injEq, map_eq_self_iff,
      mapObject_eq_self_iff object, mapList_eq_self_iff oneOf, mapList_eq_self_iff allOf,
      mapSchema_eq_self_iff arrayOf, List.forall_mem_append, and_true, and_assoc]

theorem mapObject_eq_self_iff :
    ∀ content, mapObject change content = content ↔ ∀ j ∈ objectLiterals content, change j = j
  | none => by simp [mapObject, objectLiterals]
  | some members => by
    rw [mapObject, objectLiterals, Option.some.injEq, mapMembers_eq_self_iff members]

theorem mapList_eq_self_iff :
    ∀ content, mapList change content = content ↔ ∀ j ∈ listLiterals content, change j = j
  | none => by simp [mapList, listLiterals]
  | some wires => by rw [mapList, listLiterals, Option.some.injEq, mapAll_eq_self_iff wires]

theorem mapSchema_eq_self_iff :
    ∀ content, mapSchema change content = content ↔ ∀ j ∈ schemaLiterals content, change j = j
  | none => by simp [mapSchema, schemaLiterals]
  | some wire => by rw [mapSchema, schemaLiterals, Option.some.injEq, mapLiterals_eq_self_iff wire]

theorem mapMembers_eq_self_iff :
    ∀ members, mapMembers change members = members ↔ ∀ j ∈ membersLiterals members, change j = j
  | [] => by simp [mapMembers, membersLiterals]
  | (name, wire) :: rest => by
    simp only [mapMembers, membersLiterals, List.cons.injEq, Prod.mk.injEq, true_and,
      mapLiterals_eq_self_iff wire, mapMembers_eq_self_iff rest, List.forall_mem_append]

theorem mapAll_eq_self_iff :
    ∀ wires, mapAll change wires = wires ↔ ∀ j ∈ allLiterals wires, change j = j
  | [] => by simp [mapAll, allLiterals]
  | wire :: rest => by
    simp only [mapAll, allLiterals, List.cons.injEq, mapLiterals_eq_self_iff wire,
      mapAll_eq_self_iff rest, List.forall_mem_append]

end

lemma mapAll_eq_map (wires : List WireSchema) :
    mapAll change wires = wires.map (mapLiterals change) := by
  induction wires with
  | nil => rfl
  | cons wire rest ih => rw [mapAll, ih, List.map_cons]

lemma mapMembers_eq_map (members : List (String × WireSchema)) :
    mapMembers change members = members.map fun named => (named.1, mapLiterals change named.2) := by
  induction members with
  | nil => rfl
  | cons named rest ih => rw [mapMembers, ih, List.map_cons]

end WireSchema

/-- `WireSchema.mapLiterals` on what a single keyword holds. -/
def Content.mapLiterals (change : Json → Json) : Content → Content
  | literal spelling j => literal spelling (change j)
  | object members => object (WireSchema.mapMembers change members)
  | oneOf wires => oneOf (WireSchema.mapAll change wires)
  | allOf wires => allOf (WireSchema.mapAll change wires)
  | arrayOf wire => arrayOf (wire.mapLiterals change)

lemma Content.alone_mapLiterals (change : Json → Json) (content : Content) :
    content.alone.mapLiterals change = (content.mapLiterals change).alone := by
  cases content with
  | literal spelling j => cases spelling <;> rfl
  | _ => rfl

/-! ## Numbers in their canonical spelling -/

/-- A number in its canonical spelling, and anything else as it is. -/
def Json.respelled : Json → Json
  | .number n => .number n.canonical
  | j => j

lemma Json.respelled_eq_self_iff {j : Json} :
    j.respelled = j ↔ ∀ n, j = .number n → n.Canonical := by
  cases j <;> simp [respelled, Number.canonical_eq_self_iff]

/-- **A scalar is written as the document that it was, with a number respelled.** -/
lemma Scalar.toJson?_of_meantBy {j : Json} {scalar : Scalar} (meant : scalar.MeantBy j) :
    scalar.toJson? = some j.respelled := by
  cases meant with
  | number n =>
    obtain ⟨x, read, -⟩ := n.exists_toBinary64_eq_finite
    rw [toJson?, Json.respelled, read, Json.Number.canonical_of_toBinary64 read]
    rfl
  | _ => rfl

namespace WireSchema

/-- The wire form with its number literals in their canonical spelling. -/
def canonical (wire : WireSchema) : WireSchema :=
  wire.mapLiterals Json.respelled

lemma canonical_eq_self_iff {wire : WireSchema} :
    wire.canonical = wire ↔ ∀ n, .number n ∈ wire.literals → n.Canonical := by
  simp only [canonical, mapLiterals_eq_self_iff, Json.respelled_eq_self_iff]
  constructor
  · intro all n mem
    exact all _ mem n rfl
  · rintro all j mem n rfl
    exact all n mem

end WireSchema

/-! ## Loading and writing -/

namespace Schema

/-- **What a wire form means can be written**, and it is written as that wire form with its numbers
respelled. -/
theorem toWire_of_ofWire (schema : Schema) : ∀ wire, ofWire wire = .ok schema →
    schema.toWire = .ok wire.canonical := by
  -- A list is read from wire forms to schemas and written from schemas to wire forms.
  have all (wires : List WireSchema) (schemas : List Schema)
      (ih : ∀ schema ∈ schemas, ∀ wire, ofWire wire = .ok schema →
        schema.toWire = .ok wire.canonical)
      (each : List.Forall₂ (fun inner part => ofWire inner = .ok part) wires schemas) :
      List.Forall₂ (fun part inner => part.toWire = .ok inner) schemas
        (WireSchema.mapAll Json.respelled wires) := by
    rw [WireSchema.mapAll_eq_map, List.forall₂_map_right_iff]
    refine (forall₂_imp_of_mem each fun wire _ schema mem meant => ?_).flip
    exact ih schema mem wire meant
  induction schema using parts_induction with
  | primitive p =>
    intro wire meant
    rw [ofWire_eq_ok_iff] at meant
    cases meant
    rfl
  | literal value spelling =>
    intro wire meant
    obtain ⟨j, rfl, read⟩ := ofWire_eq_ok_iff.1 meant
    rw [WireSchema.canonical, Content.alone_mapLiterals]
    have written := Scalar.toJson?_of_meantBy (Scalar.ofJson?_eq_some_iff.1 read)
    exact toWire_eq_ok_iff.2 ⟨_, rfl, written⟩
  | object members ih =>
    intro wire meant
    obtain ⟨wires, rfl, each, -⟩ := ofWire_eq_ok_iff.1 meant
    rw [WireSchema.canonical, Content.alone_mapLiterals]
    refine toWire_eq_ok_iff.2 ⟨_, rfl, ?_⟩
    rw [WireSchema.mapMembers_eq_map, List.forall₂_map_right_iff]
    refine (forall₂_imp_of_mem each fun named _ member mem ⟨name, inner⟩ => ?_).flip
    exact ⟨Member.name?_eq_some_iff.2 name, ih member mem named.2 inner⟩
  | oneOf schemas ih =>
    intro wire meant
    obtain ⟨wires, rfl, each⟩ := ofWire_eq_ok_iff.1 meant
    rw [WireSchema.canonical, Content.alone_mapLiterals]
    exact toWire_eq_ok_iff.2 ⟨_, rfl, all wires schemas ih each⟩
  | allOf schemas ih =>
    intro wire meant
    obtain ⟨wires, rfl, each⟩ := ofWire_eq_ok_iff.1 meant
    rw [WireSchema.canonical, Content.alone_mapLiterals]
    exact toWire_eq_ok_iff.2 ⟨_, rfl, all wires schemas ih each⟩
  | arrayOf element ih =>
    intro wire meant
    obtain ⟨inner, rfl, inner_meant⟩ := ofWire_eq_ok_iff.1 meant
    rw [WireSchema.canonical, Content.alone_mapLiterals]
    exact toWire_eq_ok_iff.2 ⟨_, rfl, ih inner inner_meant⟩

/-- **Loaded schemas can always be written back.**  Only number literals change, each to the canonical
spelling of the nearest binary64 number, so that nothing changes when they are canonical. -/
theorem rewrite_of_ofWire {wire : WireSchema} {schema : Schema} (meant : ofWire wire = .ok schema) :
    schema.toWire = .ok wire.canonical ∧
      (∀ n, .number n ∈ wire.literals → ∃ x : Binary64.Finite,
        x.Nearest n.toRat ∧ n.canonical.Spells x) ∧
      (schema.toWire = .ok wire ↔ ∀ n, .number n ∈ wire.literals → n.Canonical) := by
  have written := toWire_of_ofWire schema wire meant
  refine ⟨written, ?_, ?_⟩
  · intro n _
    obtain ⟨x, read, nearest⟩ := n.exists_toBinary64_eq_finite
    rw [Json.Number.canonical_of_toBinary64 read]
    exact ⟨x, nearest, Json.Number.spells_iff.2 rfl⟩
  · rw [written, Except.ok.injEq, WireSchema.canonical_eq_self_iff]

/-- An integer beyond 53 bits, as a number and as a `bigInt`. -/
theorem rewrite_of_ofWire_rounded :
    let large : Json := .number (.integer 0x20_0000_0000_0001 (by decide))
    let wire := (Content.object [("a?", (Content.literal .literal large).alone),
      ("b", (Content.literal .matching (.object [("bigint", large)])).alone)]).alone
    let schema := object [
      ("a", ⟨literal (.number (.ofInt 0x20_0000_0000_0001)) .literal, false⟩),
      ("b", ⟨literal (.bigInt 0x20_0000_0000_0001) .matching, true⟩)]
    ofWire wire = .ok schema ∧ schema.toWire = .ok wire.canonical ∧
      (∀ n, .number n ∈ wire.literals → ∃ x : Binary64.Finite,
        x.Nearest n.toRat ∧ n.canonical.Spells x) ∧
      (schema.toWire = .ok wire ↔ ∀ n, .number n ∈ wire.literals → n.Canonical) := by
  intro large wire schema
  have meant : ofWire wire = .ok schema := rfl
  exact ⟨meant, rewrite_of_ofWire meant⟩

end Schema

end Conformance
