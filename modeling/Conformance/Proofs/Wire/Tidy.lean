import Conformance.Proofs.Wire.Reread
import Mathlib.Data.List.Pairwise

/-!
# The normal form of documents

There are many documents of a wire form.  They differ in the order of their keywords, in where the unknown
members stand among them, and in keywords that hold `null`, which is as good as nothing.  `Json.tidy`
settles all of this, in a schema and in the schemas inside it: **keywords come first and in their order,
if they hold something, and the unknown members follow as they are**.  What a literal holds is no schema,
and neither is what is unknown; both are left alone.

The document that is written for a wire form is the tidy form of the document that it was read from
(`WireSchema.toJson_eq_tidy`), after repeated keys have been settled if there are any.  It is read as the
same wire form, so that nothing changes from there on (`wire_forms_have_a_normal_form`).
-/

namespace Conformance

/-! ## Tidy documents -/

namespace Json

/-- A document that holds nothing. -/
def isNull : Json → Bool
  | null => true
  | _ => false

lemma isNull_eq_false_iff {j : Json} : j.isNull = false ↔ j ≠ null := by
  cases j <;> simp [isNull]

end Json

namespace Keyword

/-- What a keyword holds among members, if that is something. -/
def held? (keyword : Keyword) (members : List (String × Json)) : Option Json :=
  (members.lookup keyword.name).filter fun content => !content.isNull

/-- Members without the keywords. -/
def unknown (members : List (String × Json)) : List (String × Json) :=
  members.filter fun member => (ofName? member.1).isNone

/-- The keywords that hold something, in their order, and the members that are unknown, in theirs. -/
def arrange (members : List (String × Json)) : List (String × Json) :=
  (order.filterMap fun keyword => (keyword.held? members).map (Prod.mk keyword.name)) ++
    unknown members

end Keyword

namespace Json

mutual

/-- The tidy form of the document of a schema. -/
def tidy : Json → Json
  | object members => object (Keyword.arrange (tidyMembers members))
  | j => j
termination_by structural j => j

/-- The members of a schema with tidy schemas in what the keywords hold. -/
def tidyMembers : List (String × Json) → List (String × Json)
  | [] => []
  | (key, content) :: rest =>
    (key,
      match Keyword.ofName? key, content with
      | some .object, object contents => object (tidyContents contents)
      | some .oneOf, array elements | some .allOf, array elements => array (tidyElements elements)
      | some .arrayOf, content => content.tidy
      | _, content => content) :: tidyMembers rest
termination_by structural members => members

/-- The members of an object that holds a schema under each name. -/
def tidyContents : List (String × Json) → List (String × Json)
  | [] => []
  | (name, content) :: rest => (name, content.tidy) :: tidyContents rest
termination_by structural members => members

/-- The elements of an array of schemas. -/
def tidyElements : List Json → List Json
  | [] => []
  | element :: rest => element.tidy :: tidyElements rest
termination_by structural elements => elements

end

lemma tidyContents_eq_mapContents (contents : List (String × Json)) :
    tidyContents contents = Entries.mapContents tidy contents := by
  induction contents with
  | nil => rfl
  | cons content rest ih => rw [tidyContents, ih]; rfl

lemma tidyElements_eq_map (elements : List Json) : tidyElements elements = elements.map tidy := by
  induction elements with
  | nil => rfl
  | cons element rest ih => rw [tidyElements, ih, List.map_cons]

end Json

namespace Keyword

/-- What a member holds, with tidy schemas in it if its name is a keyword for schemas. -/
def tidyHeld : Option Keyword → Json → Json
  | some object, .object contents => .object (Entries.mapContents Json.tidy contents)
  | some oneOf, .array elements | some allOf, .array elements => .array (elements.map Json.tidy)
  | some arrayOf, j => j.tidy
  | _, j => j

lemma tidyHeld_none (j : Json) : tidyHeld none j = j := by
  rw [tidyHeld]
  all_goals simp

lemma isNull_tidyHeld (keyword : Option Keyword) (j : Json) :
    (tidyHeld keyword j).isNull = j.isNull := by
  unfold tidyHeld
  split
  · rfl
  · rfl
  · rfl
  · cases j <;> rfl
  · rfl

end Keyword

namespace Json

lemma tidyMembers_cons (key : String) (content : Json) (rest : List (String × Json)) :
    tidyMembers ((key, content) :: rest) =
      (key, Keyword.tidyHeld (Keyword.ofName? key) content) :: tidyMembers rest := by
  conv_lhs => unfold tidyMembers
  simp only [tidyContents_eq_mapContents, tidyElements_eq_map]
  rfl

lemma lookup_tidyMembers (members : List (String × Json)) (name : String) :
    (tidyMembers members).lookup name =
      (members.lookup name).map (Keyword.tidyHeld (Keyword.ofName? name)) := by
  induction members with
  | nil => rfl
  | cons member rest ih =>
    obtain ⟨key, content⟩ := member
    rw [tidyMembers_cons, Entries.lookup_cons, Entries.lookup_cons, ih]
    split
    · rename_i same
      rw [same, Option.map_some]
    · rfl

lemma held?_tidyMembers (keyword : Keyword) (members : List (String × Json)) :
    keyword.held? (tidyMembers members) =
      (keyword.held? members).map (Keyword.tidyHeld (some keyword)) := by
  rw [Keyword.held?, Keyword.held?, lookup_tidyMembers, Keyword.ofName?_eq_some_iff.2 rfl]
  cases members.lookup keyword.name with
  | none => rfl
  | some content => simp [Option.filter, Keyword.isNull_tidyHeld]

/-- What is unknown is left alone. -/
lemma unknown_tidyMembers (members : List (String × Json)) :
    Keyword.unknown (tidyMembers members) = Keyword.unknown members := by
  rw [Keyword.unknown, Keyword.unknown]
  induction members with
  | nil => rfl
  | cons member rest ih =>
    obtain ⟨key, content⟩ := member
    rw [tidyMembers_cons, List.filter_cons, List.filter_cons, ih]
    cases named : Keyword.ofName? key with
    | none => rw [Keyword.tidyHeld_none]
    | some keyword => rfl

end Json

/-! ## Without repeated keys -/

namespace Json

lemma resolveMembers_eq_mapContents (members : List (String × Json)) :
    resolveMembers members = Entries.mapContents resolve members := by
  induction members with
  | nil => rfl
  | cons member rest ih => rw [resolveMembers, ih]; rfl

lemma resolveElements_eq_map (elements : List Json) :
    resolveElements elements = elements.map resolve := by
  induction elements with
  | nil => rfl
  | cons element rest ih => rw [resolveElements, ih, List.map_cons]

end Json

namespace WireSchema

/-- A keyword that stands once among members has one content. -/
lemma eq_of_repeatsKeyword {members : List (String × Json)} {keyword : Keyword} {i j : Json}
    (once : repeatsKeyword members = false) (mem : (keyword.name, i) ∈ members)
    (mem' : (keyword.name, j) ∈ members) : i = j := by
  simp only [repeatsKeyword, Bool.not_eq_false', decide_eq_true_eq] at once
  have named : Keyword.ofName? keyword.name = some keyword := Keyword.ofName?_eq_some_iff.2 rfl
  have apart := List.pairwise_filterMap.1 once
  have : Std.Symm fun a b : String × Json => ∀ k, Keyword.ofName? a.1 = some k →
      ∀ k', Keyword.ofName? b.1 = some k' → k ≠ k' :=
    ⟨fun a b differ k named k' named' => (differ k' named' k named).symm⟩
  by_contra different
  have others : (keyword.name, i) ≠ (keyword.name, j) := fun same => different (congrArg Prod.snd same)
  exact apart.forall mem mem' others keyword named keyword named rfl

/-- What stands under a name once repeated keys are settled has stood there before. -/
lemma exists_of_lookup_resolved {members : List (String × Json)} {name : String} {content : Json}
    (found : (Entries.ofList (Json.resolveMembers members)).lookup name = some content) :
    ∃ j, (name, j) ∈ members ∧ content = j.resolve := by
  have mem := Entries.mem_of_mem_ofList (Entries.mem_of_lookup found)
  rw [Json.resolveMembers_eq_mapContents] at mem
  obtain ⟨member, listed, ⟨⟩⟩ := List.mem_map.1 mem
  exact ⟨member.2, listed, rfl⟩

/-- What a keyword holds is still there once repeated keys are settled. -/
lemma lookup_resolved {members : List (String × Json)} {keyword : Keyword} {j : Json}
    (once : repeatsKeyword members = false) (mem : (keyword.name, j) ∈ members) :
    (Entries.ofList (Json.resolveMembers members)).lookup keyword.name = some j.resolve := by
  have listed : keyword.name ∈ Entries.keys (Json.resolveMembers members) := by
    rw [Json.keys_resolveMembers]
    exact List.mem_map.2 ⟨_, mem, rfl⟩
  cases found : (Entries.ofList (Json.resolveMembers members)).lookup keyword.name with
  | none =>
    rw [Entries.lookup_eq_none_iff, Entries.keys_ofList, List.mem_eraseDups] at found
    exact absurd listed found
  | some content =>
    obtain ⟨i, mem', rfl⟩ := exists_of_lookup_resolved found
    rw [eq_of_repeatsKeyword once mem mem']

end WireSchema

/-! ## Documents of what was read -/

/-- **The document of a content is the tidy form of the document that it was read from**, if this holds
of the schemas inside. -/
lemma Content.toJson_eq_tidyHeld {content : Content} {j : Json} (read : content.ReadFrom j)
    (notNull : j ≠ .null)
    (inside : ∀ part ∈ content.keyword.schemasIn j, ∀ wire, WireSchema.ofJson? part = some wire →
      wire.toJson = part.resolve.tidy) :
    content.toJson = Keyword.tidyHeld (some content.keyword) j.resolve := by
  -- Lists of schemas are tidied entry by entry.
  have all {elements : List Json} {wires : List WireSchema}
      (inside : ∀ part ∈ elements, ∀ wire, WireSchema.ofJson? part = some wire →
        wire.toJson = part.resolve.tidy)
      (each : WireSchema.allOf? elements = some wires) :
      WireSchema.allToJson wires = (Json.resolveElements elements).map Json.tidy := by
    rw [WireSchema.allOf?_eq_some_iff] at each
    rw [WireSchema.allToJson_eq_map, Json.resolveElements_eq_map, List.map_map]
    have same := forall₂_imp_of_mem each fun part mem wire _ read => inside part mem wire read
    exact (map_eq_map_of_forall₂ same fun _ _ written => written.symm).symm
  cases content with
  | literal spelling resolved =>
    cases read
    cases spelling <;> rfl
  | object wires =>
    obtain ⟨contents, found, rfl, each, rfl⟩ := read
    rw [WireSchema.membersOf?_eq_some_iff] at each
    have tidied : Entries.mapContents (fun part => part.resolve.tidy) contents =
        Entries.mapContents WireSchema.toJson found := by
      refine map_eq_map_of_forall₂ (forall₂_imp_of_mem each fun member mem named _ read => ?_)
        fun _ _ same => same
      have written := inside member.2 (List.mem_map.2 ⟨member, mem, rfl⟩) named.2 read.2
      rw [read.1, written]
    rw [toJson, keyword, Json.resolve, Keyword.tidyHeld, WireSchema.membersToJson_eq_map,
      ← Entries.mapContents, Json.resolveMembers_eq_mapContents, Entries.mapContents_ofList,
      Entries.mapContents_ofList, Entries.mapContents_mapContents, tidied]
  | oneOf wires =>
    obtain ⟨elements, rfl, each⟩ := read
    exact congrArg Json.array (all inside each)
  | allOf wires =>
    obtain ⟨elements, rfl, each⟩ := read
    exact congrArg Json.array (all inside each)
  | arrayOf wire =>
    rw [keyword, Keyword.schemasIn_arrayOf notNull, List.forall_mem_singleton] at inside
    exact inside wire read

namespace WireSchema

/-- What a keyword holds in the document, tidied, is what is written for it. -/
lemma held?_resolved {members : List (String × Json)} {found : Keywords WireSchema}
    (once : repeatsKeyword members = false) (read : keywordsOf? members = some found)
    (inside : ∀ member ∈ members, ∀ keyword : Keyword, ∀ part ∈ keyword.schemasIn member.2,
      ∀ wire, ofJson? part = some wire → wire.toJson = part.resolve.tidy)
    (keyword : Keyword) :
    keyword.held? (Json.tidyMembers (Entries.ofList (Json.resolveMembers members))) =
      (found.at? keyword).map Content.toJson := by
  have held := heldBy_of_keywordsOf? read keyword
  rw [Json.held?_tidyMembers, Keyword.held?]
  cases content? : found.at? keyword with
  | none =>
    rw [content?] at held
    cases stands : (Entries.ofList (Json.resolveMembers members)).lookup keyword.name with
    | none => rfl
    | some resolved =>
      obtain ⟨j, mem, rfl⟩ := exists_of_lookup_resolved stands
      rw [held j mem]
      rfl
  | some content =>
    rw [content?] at held
    obtain ⟨rfl, j, mem, notNull, readFrom⟩ := held
    have something : j.resolve.isNull = false :=
      Json.isNull_eq_false_iff.2 (Json.resolve_ne_null notNull)
    rw [lookup_resolved once mem, Option.map_some,
      Content.toJson_eq_tidyHeld readFrom notNull (inside _ mem _)]
    simp [Option.filter, something]

/-- **What is written for a wire form is the tidy form of the document that it was read from.** -/
theorem toJson_eq_tidy {j : Json} {wire : WireSchema} (read : ofJson? j = some wire) :
    wire.toJson = j.resolve.tidy := by
  refine read_induction ?bare ?keywords j wire read
  case bare => exact fun name => rfl
  case keywords =>
    intro members found once read inside
    have known : found.contents.map Content.entry = Keyword.order.filterMap fun keyword =>
        (keyword.held? (Json.tidyMembers (Entries.ofList (Json.resolveMembers members)))).map
          (Prod.mk keyword.name) := by
      rw [Keywords.contents, List.map_filterMap]
      refine List.filterMap_congr fun keyword _ => ?_
      rw [held?_resolved once read inside]
      cases content? : found.at? keyword with
      | none => rfl
      | some content => simp [Content.entry, Keywords.keyword_of_at? content?]
    have unknown : Entries.ofList found.extra = Keyword.unknown
        (Json.tidyMembers (Entries.ofList (Json.resolveMembers members))) := by
      rw [extra_of_keywordsOf? read, Json.unknown_tidyMembers]
      exact (Entries.filter_ofList (fun name => (Keyword.ofName? name).isNone) _).symm
    rw [Keywords.toJson_eq, Json.resolve, Json.tidy, Keyword.arrange, ← known, ← unknown]
    rfl

end WireSchema

/-- **Wire forms have a normal form in documents.**  What is written for a wire form is the tidy form of
the document that it was read from.  It is read as the same wire form and therefore written as it is, and
loading a schema from it has the same result. -/
theorem wire_forms_have_a_normal_form (j : Json) (wire : WireSchema)
    (read : WireSchema.ofJson? j = some wire) :
    WireSchema.ofJson? wire.toJson = some wire ∧
      (WireSchema.ofJson? wire.toJson).map WireSchema.toJson = some wire.toJson ∧
      wire.toJson.WellFormed ∧
      wire.toJson = j.resolve.tidy ∧ (j.WellFormed → wire.toJson = j.tidy) ∧
      wire.toJson.tidy = wire.toJson ∧
      Schema.load wire.toJson = Schema.load j := by
  have settled := WireSchema.settled_of_ofJson? read
  have tidied := WireSchema.toJson_eq_tidy read
  have again := WireSchema.toJson_eq_tidy settled.read
  rw [Json.resolve_of_wellFormed _ settled.wellFormed] at again
  refine ⟨settled.read, ?_, settled.wellFormed, tidied, fun wellFormed => ?_, again.symm, ?_⟩
  · rw [settled.read, Option.map_some]
  · rw [tidied, Json.resolve_of_wellFormed j wellFormed]
  · rw [Schema.load, Schema.load, WireSchema.load, WireSchema.load, settled.read, read]

/-- Keywords in the wrong order and among unknown members, some of them with `null`, at two levels. -/
theorem wire_forms_have_a_normal_form_nested :
    let inner := Json.object [("a", .null), ("arrayOf", .string "y"), ("literal", .null)]
    let j := Json.object [("z", .null), ("oneOf", .array [.string "x", inner]), ("match", .null),
      ("literal", .object [("arrayOf", .null)]), ("b", .bool true)]
    let tidied := Json.object [("literal", .object [("arrayOf", .null)]),
      ("oneOf", .array [.string "x", .object [("arrayOf", .string "y"), ("a", .null)]]),
      ("z", .null), ("b", .bool true)]
    j.WellFormed ∧ ∃ wire, WireSchema.ofJson? j = some wire ∧ wire.toJson = tidied ∧
      j.tidy = tidied ∧ WireSchema.ofJson? tidied = some wire ∧
      Schema.load j = .error (.defect (.unknownKeyword "z")) ∧
      Schema.load tidied = Schema.load j := by
  intro inner j tidied
  have wellFormed : j.WellFormed := by
    simp [j, inner, Json.WellFormed, Json.WellFormedMembers, Json.WellFormedElements,
      Entries.Distinct]
  have read : WireSchema.ofJson? j = some _ := rfl
  have written : j.tidy = tidied := rfl
  obtain ⟨back, -, -, -, normal, -, same⟩ := wire_forms_have_a_normal_form j _ read
  rw [normal wellFormed, written] at back same
  exact ⟨wellFormed, _, read, (normal wellFormed).trans written, written, back, rfl, same⟩

end Conformance
