import Conformance.Proofs.Entries.Repetition
import Conformance.Proofs.Json.Parts
import Conformance.Proofs.Schema.Document
import Conformance.Proofs.Wire.Shape

/-!
# Wire forms that were read

Not every wire form can be read back from its document: a name may stand twice in it, a literal may hold
an object with repeated keys, and a keyword may be among what is unknown.  A reader makes no such wire
form.  What it makes of a document is *settled* (`WireSchema.Settled`): **it is read back from the
document that is written for it, in which no key is repeated** (`settled_of_ofJson?`).

* `WireSchema.read_induction` is induction along a reader, from a document to the schemas that its
  keywords hold.
* `Keywords.contents` lists what the keywords hold in the order in which it is written.
* `Keywords.Settled` says what keywords have to hold for their wire form to be settled.
-/

namespace Conformance

/-! ## Induction along a reader -/

namespace WireSchema

/-- Induction along a reader: a fact holds of a document and its wire form if it holds of the documents
of schemas inside and of theirs. -/
@[elab_as_elim]
theorem read_induction {motive : Json → WireSchema → Prop}
    (bare : ∀ name, motive (.string name) (.bare name))
    (keywords : ∀ members found, repeatsKeyword members = false →
      keywordsOf? members = some found →
      (∀ member ∈ members, ∀ keyword : Keyword, ∀ part ∈ keyword.schemasIn member.2,
        ∀ wire, ofJson? part = some wire → motive part wire) →
      motive (.object members) (.keywords { found with extra := Entries.ofList found.extra })) :
    ∀ j wire, ofJson? j = some wire → motive j wire
  | .string s, wire, read => by
    cases read
    exact bare s
  | .object members, wire, read => by
    obtain ⟨once, found, collected, rfl⟩ := ofJson?_object_eq_some_iff.1 read
    exact keywords members found once collected fun member _held keyword part _mem =>
      read_induction bare keywords part
  | .null, _, read | .bool _, _, read | .number _, _, read | .array _, _, read => by cases read
termination_by j => sizeOf j
decreasing_by exact Keyword.sizeOf_lt_of_mem_schemasIn _held _mem

end WireSchema

/-! ## Contents in order -/

namespace Keyword

/-- The keywords in the order in which they are written. -/
def order : List Keyword :=
  [literal, matching, object, oneOf, allOf, arrayOf]

lemma mem_order (keyword : Keyword) : keyword ∈ order := by
  cases keyword <;> decide

lemma nodup_map_name_order : (order.map name).Nodup := by
  decide

end Keyword

namespace Content

/-- The keyword of a content with the document that it holds. -/
def entry (content : Content) : String × Json :=
  (content.keyword.name, content.toJson)

end Content

namespace Keywords

/-- What the keywords hold, in the order in which it is written. -/
def contents (held : Keywords WireSchema) : List Content :=
  Keyword.order.filterMap held.at?

lemma keyword_of_at? {held : Keywords WireSchema} {keyword : Keyword} {content : Content}
    (found : held.at? keyword = some content) : content.keyword = keyword := by
  cases keyword <;> obtain ⟨_, -, rfl⟩ := Option.map_eq_some_iff.1 found <;> rfl

lemma mem_contents_iff {held : Keywords WireSchema} {content : Content} :
    content ∈ held.contents ↔ held.at? content.keyword = some content := by
  rw [contents, List.mem_filterMap]
  constructor
  · rintro ⟨keyword, -, found⟩
    rw [keyword_of_at? found, found]
  · intro found
    exact ⟨_, Keyword.mem_order _, found⟩

/-- **A wire form is written as the contents of its keywords in order, and what is unknown.** -/
lemma toJson_eq (held : Keywords WireSchema) :
    (WireSchema.keywords held).toJson = .object (held.contents.map Content.entry ++ held.extra) := by
  obtain ⟨literal, matching, object, oneOf, allOf, arrayOf, extra⟩ := held
  rcases literal with _ | _ <;> rcases matching with _ | _ <;> rcases object with _ | _ <;>
    rcases oneOf with _ | _ <;> rcases allOf with _ | _ <;> rcases arrayOf with _ | _ <;> rfl

/-- The contents one after the other make up the keywords. -/
lemma foldr_addTo_contents (held : Keywords WireSchema) :
    held.contents.foldr (fun content others => content.addTo others) { extra := held.extra } =
      held := by
  obtain ⟨literal, matching, object, oneOf, allOf, arrayOf, extra⟩ := held
  rcases literal with _ | _ <;> rcases matching with _ | _ <;> rcases object with _ | _ <;>
    rcases oneOf with _ | _ <;> rcases allOf with _ | _ <;> rcases arrayOf with _ | _ <;> rfl

end Keywords

/-! ## Reading back -/

/-- A content that is read back from its document. -/
structure Content.Settled (content : Content) : Prop where
  notNull : content.toJson ≠ .null
  read : content.ReadFrom content.toJson
  wellFormed : content.toJson.WellFormed

/-- A wire form that is read back from its document. -/
structure WireSchema.Settled (wire : WireSchema) : Prop where
  read : WireSchema.ofJson? wire.toJson = some wire
  wellFormed : wire.toJson.WellFormed

/-- Keywords whose contents are read back, beside members that no reader takes for keywords. -/
structure Keywords.Settled (held : Keywords WireSchema) : Prop where
  contents : ∀ content ∈ held.contents, content.Settled
  unknown : ∀ entry ∈ held.extra, Keyword.ofName? entry.1 = none
  extra : (Json.object held.extra).WellFormed

namespace WireSchema

/-- Contents are found before whatever is found after them. -/
lemma keywordsOf?_map_entry_append {contents : List Content} {rest : List (String × Json)}
    {others : Keywords WireSchema} (settled : ∀ content ∈ contents, content.Settled)
    (found : keywordsOf? rest = some others) :
    keywordsOf? (contents.map Content.entry ++ rest) =
      some (contents.foldr (fun content others => content.addTo others) others) := by
  induction contents with
  | nil => exact found
  | cons content contents ih =>
    obtain ⟨first, settled⟩ := List.forall_mem_cons.1 settled
    exact keywordsOf?_cons_iff.2 ⟨_, ih settled, .content content
      (Keyword.ofName?_eq_some_iff.2 rfl) first.notNull first.read⟩

/-- What is unknown is collected as it is. -/
lemma keywordsOf?_of_unknown {members : List (String × Json)}
    (unknown : ∀ entry ∈ members, Keyword.ofName? entry.1 = none)
    (resolved : ∀ entry ∈ members, entry.2.WellFormed) :
    keywordsOf? members = some { extra := members } := by
  induction members with
  | nil => rfl
  | cons member rest ih =>
    obtain ⟨unnamed, unknown⟩ := List.forall_mem_cons.1 unknown
    obtain ⟨wellFormed, resolved⟩ := List.forall_mem_cons.1 resolved
    have adds : Content.Adds member.1 member.2 { extra := rest }
        { extra := (member.1, member.2.resolve) :: rest } := .unknown unnamed
    rw [Json.resolve_of_wellFormed _ wellFormed] at adds
    exact keywordsOf?_cons_iff.2 ⟨_, ih unknown resolved, adds⟩

end WireSchema

namespace Keywords

variable {held : Keywords WireSchema}

/-- The keywords that hold something are some of all, in order. -/
lemma map_keyword_contents (held : Keywords WireSchema) :
    (held.contents.map Content.keyword).Sublist Keyword.order := by
  have kept : held.contents.map Content.keyword =
      Keyword.order.filter fun keyword => (held.at? keyword).isSome := by
    rw [contents, List.map_filterMap, ← List.filterMap_eq_filter]
    refine List.filterMap_congr fun keyword _ => ?_
    cases found : held.at? keyword with
    | none => simp [Option.guard, found]
    | some content => simp [Option.guard, found, keyword_of_at? found]
  rw [kept]
  exact List.filter_sublist

namespace Settled

/-- No key is written twice. -/
lemma distinct (settled : held.Settled) :
    Entries.Distinct (held.contents.map Content.entry ++ held.extra) := by
  have names : Entries.keys (held.contents.map Content.entry) =
      (held.contents.map Content.keyword).map Keyword.name := by
    rw [Entries.keys, List.map_map, List.map_map]
    rfl
  rw [Entries.Distinct, Entries.keys_append, names, List.nodup_append']
  refine ⟨?_, settled.extra.1, ?_⟩
  · exact Keyword.nodup_map_name_order.sublist (held.map_keyword_contents.map Keyword.name)
  · intro name known mem
    obtain ⟨keyword, -, rfl⟩ := List.mem_map.1 known
    obtain ⟨entry, listed, same⟩ := List.mem_map.1 mem
    have unnamed := settled.unknown entry listed
    rw [Keyword.ofName?_eq_some_iff.2 same.symm] at unnamed
    cases unnamed

/-- **Settled keywords are read back from their document.** -/
theorem wireSchema (settled : held.Settled) : (WireSchema.keywords held).Settled where
  read := by
    have unknown := WireSchema.keywordsOf?_of_unknown settled.unknown settled.extra.member
    have found := WireSchema.keywordsOf?_map_entry_append settled.contents unknown
    rw [foldr_addTo_contents] at found
    rw [toJson_eq, WireSchema.ofJson?_object_eq_some_iff]
    refine ⟨WireSchema.repeatsKeyword_of_distinct settled.distinct, held, found, ?_⟩
    rw [Keywords.with_extra (Entries.ofList_of_distinct held.extra settled.extra.1)]
  wellFormed := by
    rw [toJson_eq]
    refine ⟨settled.distinct, Json.wellFormedMembers_iff.2 fun member mem => ?_⟩
    rcases List.mem_append.1 mem with known | unknown
    · obtain ⟨content, listed, rfl⟩ := List.mem_map.1 known
      exact (settled.contents content listed).wellFormed
    · exact settled.extra.member member unknown

end Settled

end Keywords

/-! ## What was read is settled -/

lemma Json.resolve_ne_null {j : Json} (notNull : j ≠ .null) : j.resolve ≠ .null := by
  cases j with
  | null => exact absurd rfl notNull
  | _ => simp [resolve]

/-- A list of settled wire forms is read back. -/
lemma WireSchema.allOf?_of_settled {wires : List WireSchema}
    (settled : ∀ wire ∈ wires, wire.Settled) :
    WireSchema.allOf? (allToJson wires) = some wires ∧ (Json.array (allToJson wires)).WellFormed := by
  refine ⟨allOf?_allToJson fun wire mem => (settled wire mem).read, ?_⟩
  rw [Json.WellFormed, Json.wellFormedElements_iff, allToJson_eq_map, List.forall_mem_map]
  exact fun wire mem => (settled wire mem).wellFormed

/-- **A content that was read is settled** if the schemas inside are. -/
lemma Content.settled_of_readFrom {content : Content} {j : Json} (read : content.ReadFrom j)
    (notNull : j ≠ .null)
    (inside : ∀ part ∈ content.keyword.schemasIn j, ∀ wire, WireSchema.ofJson? part = some wire →
      wire.Settled) :
    content.Settled := by
  -- A list is settled entry by entry.
  have all {elements : List Json} {wires : List WireSchema}
      (inside : ∀ part ∈ elements, ∀ wire, WireSchema.ofJson? part = some wire → wire.Settled)
      (each : WireSchema.allOf? elements = some wires) : ∀ wire ∈ wires, wire.Settled := by
    intro wire mem
    rw [WireSchema.allOf?_eq_some_iff] at each
    obtain ⟨element, listed, read⟩ := exists_of_mem_forall₂ each.flip wire mem
    exact inside element listed wire read
  cases content with
  | literal spelling resolved =>
    cases read
    have wellFormed := Json.wellFormed_resolve j
    exact ⟨Json.resolve_ne_null notNull, (Json.resolve_of_wellFormed _ wellFormed).symm, wellFormed⟩
  | object wires =>
    obtain ⟨contents, found, rfl, each, rfl⟩ := read
    rw [WireSchema.membersOf?_eq_some_iff] at each
    have settled : ∀ named ∈ Entries.ofList found, named.2.Settled := by
      intro named mem
      obtain ⟨member, listed, -, read⟩ :=
        exists_of_mem_forall₂ each.flip named (Entries.mem_of_mem_ofList mem)
      exact inside member.2 (List.mem_map.2 ⟨member, listed, rfl⟩) named.2 read
    have distinct := Entries.distinct_ofList found
    refine ⟨by simp [toJson], ?_, ?_⟩
    · exact ⟨_, _, rfl, WireSchema.membersOf?_membersToJson fun named mem => (settled named mem).read,
        (Entries.ofList_of_distinct _ distinct).symm⟩
    · rw [toJson, WireSchema.membersToJson_eq_map]
      refine ⟨?_, Json.wellFormedMembers_iff.2 (List.forall_mem_map.2 ?_)⟩
      · rw [Entries.Distinct, Entries.keys, List.map_map]
        exact distinct
      · exact fun named mem => (settled named mem).wellFormed
  | oneOf wires =>
    obtain ⟨elements, rfl, each⟩ := read
    obtain ⟨back, wellFormed⟩ := WireSchema.allOf?_of_settled (all inside each)
    exact ⟨by simp [toJson], ⟨_, rfl, back⟩, wellFormed⟩
  | allOf wires =>
    obtain ⟨elements, rfl, each⟩ := read
    obtain ⟨back, wellFormed⟩ := WireSchema.allOf?_of_settled (all inside each)
    exact ⟨by simp [toJson], ⟨_, rfl, back⟩, wellFormed⟩
  | arrayOf wire =>
    rw [keyword, Keyword.schemasIn_arrayOf notNull, List.forall_mem_singleton] at inside
    have settled := inside wire read
    exact ⟨wire.toJson_ne_null, settled.read, settled.wellFormed⟩

namespace WireSchema

/-- What is unknown is collected in order, with its repeats. -/
lemma extra_of_keywordsOf? {members : List (String × Json)} {found : Keywords WireSchema}
    (read : keywordsOf? members = some found) :
    found.extra = (Json.resolveMembers members).filter fun member =>
      (Keyword.ofName? member.1).isNone := by
  induction members generalizing found with
  | nil =>
    cases read
    rfl
  | cons member rest ih =>
    obtain ⟨others, rest_read, adds⟩ := keywordsOf?_cons_iff.1 read
    rw [Json.resolveMembers, List.filter_cons, ← ih rest_read]
    cases adds with
    | unknown unnamed => simp [unnamed]
    | nothing named null => simp [named]
    | content content named notNull read => simp [named, Content.extra_addTo]

/-- **A wire form that was read is read back from its document.** -/
theorem settled_of_ofJson? {j : Json} {wire : WireSchema} (read : ofJson? j = some wire) :
    wire.Settled := by
  refine read_induction ?bare ?keywords j wire read
  case bare => exact fun name => ⟨rfl, trivial⟩
  case keywords =>
    intro members found once read inside
    have among : ∀ entry ∈ Entries.ofList found.extra, entry ∈ Json.resolveMembers members ∧
        Keyword.ofName? entry.1 = none := by
      intro entry mem
      have kept := Entries.mem_of_mem_ofList mem
      rw [extra_of_keywordsOf? read, List.mem_filter, Option.isNone_iff_eq_none] at kept
      exact kept
    refine Keywords.Settled.wireSchema ⟨fun content mem => ?_, fun entry mem => (among entry mem).2,
      Entries.distinct_ofList _, Json.wellFormedMembers_iff.2 fun entry mem => ?_⟩
    · have held := heldBy_of_keywordsOf? read content.keyword
      rw [show found.at? content.keyword = some content from Keywords.mem_contents_iff.1 mem] at held
      obtain ⟨-, j, held, notNull, read⟩ := held
      exact Content.settled_of_readFrom read notNull (inside _ held content.keyword)
    · exact Json.wellFormedMembers_iff.1 (Json.wellFormed_resolveMembers members) entry
        (among entry mem).1

end WireSchema

end Conformance
