import Conformance.Proofs.Correspondence
import Conformance.Proofs.Wire.Content
import Conformance.Wire.Reader
import Mathlib.Data.List.Nodup

/-!
# Documents of wire forms with one keyword

`WireSchema.ofJson?` collects the keywords of an object in a record with a place for each.  This file
says when that record has a single place filled and nothing else: **the document holds one keyword,
beside known keywords with `null`** (`Keyword.Alone`), and the content of that keyword is read as the
content of the record (`Content.ReadFrom`).

`ofJson?_eq_some_alone_iff` is that statement.  It is about documents without repeated keys: a keyword
that stands twice makes the whole document unreadable, even if it holds `null`.
-/

namespace Conformance

open WireSchema

/-- All members are known keywords, and of these only one holds something. -/
structure Keyword.Alone (keyword : Keyword) (content : Json) (members : List (String × Json)) :
    Prop where
  known : ∀ member ∈ members, ∃ k : Keyword, k.name = member.1
  held : (keyword.name, content) ∈ members
  notNull : content ≠ .null
  others : ∀ member ∈ members, member.1 ≠ keyword.name → member.2 = .null

namespace Content

/-- The document that a keyword holds is read as that content. -/
def ReadFrom (j : Json) : Content → Prop
  | literal _ resolved => resolved = j.resolve
  | object wires =>
    ∃ contents found, j = .object contents ∧ membersOf? contents = some found ∧
      wires = Entries.ofList found
  | oneOf wires => ∃ elements, j = .array elements ∧ WireSchema.allOf? elements = some wires
  | allOf wires => ∃ elements, j = .array elements ∧ WireSchema.allOf? elements = some wires
  | arrayOf wire => ofJson? j = some wire

/-- What a member adds to the keywords after it. -/
inductive Adds (key : String) (j : Json) (others : Keywords WireSchema) :
    Keywords WireSchema → Prop
  | unknown (unnamed : Keyword.ofName? key = none) :
      Adds key j others { others with extra := (key, j.resolve) :: others.extra }
  | nothing {keyword : Keyword} (named : Keyword.ofName? key = some keyword) (null : j = .null) :
      Adds key j others others
  | content (content : Content) (named : Keyword.ofName? key = some content.keyword)
      (notNull : j ≠ .null) (read : content.ReadFrom j) : Adds key j others (content.addTo others)

end Content

namespace WireSchema

lemma keywordsOf?_cons_iff {key : String} {j : Json} {rest : List (String × Json)}
    {keywords : Keywords WireSchema} :
    keywordsOf? ((key, j) :: rest) = some keywords ↔
      ∃ others, keywordsOf? rest = some others ∧ Content.Adds key j others keywords := by
  rw [keywordsOf?]
  simp only [Option.bind_eq_bind, Option.bind_eq_some_iff]
  refine exists_congr fun others => and_congr_right fun _ => ?_
  constructor
  · intro added
    split at added
    · cases added
      exact .unknown ‹_›
    · cases added
      exact .nothing ‹_› rfl
    · cases added
      exact .content (.literal .literal _) ‹_› ‹_› rfl
    · cases added
      exact .content (.literal .matching _) ‹_› ‹_› rfl
    · obtain ⟨found, read, ⟨⟩⟩ := Option.bind_eq_some_iff.1 added
      exact .content (.object _) ‹_› (by simp) ⟨_, found, rfl, read, rfl⟩
    · obtain ⟨found, read, ⟨⟩⟩ := Option.bind_eq_some_iff.1 added
      exact .content (.oneOf _) ‹_› (by simp) ⟨_, rfl, read⟩
    · obtain ⟨found, read, ⟨⟩⟩ := Option.bind_eq_some_iff.1 added
      exact .content (.allOf _) ‹_› (by simp) ⟨_, rfl, read⟩
    · obtain ⟨found, read, ⟨⟩⟩ := Option.bind_eq_some_iff.1 added
      exact .content (.arrayOf _) ‹_› ‹_› read
    · cases added
  · intro adds
    cases adds with
    | unknown unnamed => rw [unnamed]
    | nothing named null => subst null; rw [named]
    | content content named notNull read =>
      rw [named]
      cases content with
      | literal spelling resolved =>
        cases read
        cases spelling <;> simp [Content.keyword, LiteralSpelling.keyword, Content.addTo]
      | object wires =>
        obtain ⟨contents, found, rfl, read, rfl⟩ := read
        simp only [Content.keyword, read]
        rfl
      | oneOf wires =>
        obtain ⟨elements, rfl, read⟩ := read
        simp only [Content.keyword, read]
        rfl
      | allOf wires =>
        obtain ⟨elements, rfl, read⟩ := read
        simp only [Content.keyword, read]
        rfl
      | arrayOf wire =>
        rw [Content.ReadFrom] at read
        simp only [Content.keyword, read]
        rfl

end WireSchema

/-! ## What is found under a keyword -/

/-- The content of a keyword. -/
def Keywords.at? (keywords : Keywords WireSchema) : Keyword → Option Content
  | .literal => keywords.literal.map (.literal .literal)
  | .matching => keywords.matching.map (.literal .matching)
  | .object => keywords.object.map .object
  | .oneOf => keywords.oneOf.map .oneOf
  | .allOf => keywords.allOf.map .allOf
  | .arrayOf => keywords.arrayOf.map .arrayOf

lemma Keywords.with_extra {keywords : Keywords WireSchema} {extra : List (String × Json)}
    (same : extra = keywords.extra) : { keywords with extra } = keywords := by
  rw [same]

lemma Keywords.at?_empty (keyword : Keyword) : ({} : Keywords WireSchema).at? keyword = none := by
  cases keyword <;> rfl

namespace Content

lemma at?_addTo (content : Content) (others : Keywords WireSchema) (keyword : Keyword) :
    (content.addTo others).at? keyword =
      if keyword = content.keyword then some content else others.at? keyword := by
  cases content with
  | literal spelling j => cases spelling <;> cases keyword <;> rfl
  | _ => cases keyword <;> rfl

lemma extra_addTo (content : Content) (others : Keywords WireSchema) :
    (content.addTo others).extra = others.extra := by
  cases content with
  | literal spelling j => cases spelling <;> rfl
  | _ => rfl

/-- Members hold that content under a keyword, or nothing. -/
def HeldBy (members : List (String × Json)) (keyword : Keyword) : Option Content → Prop
  | none => ∀ j, (keyword.name, j) ∈ members → j = .null
  | some content =>
    content.keyword = keyword ∧ ∃ j, (keyword.name, j) ∈ members ∧ j ≠ .null ∧ content.ReadFrom j

/-- A member of another name, or one that holds `null`, makes no difference. -/
lemma HeldBy.cons {members : List (String × Json)} {keyword : Keyword} {content : Option Content}
    (held : HeldBy members keyword content) {key : String} {j : Json}
    (irrelevant : key = keyword.name → j = .null) :
    HeldBy ((key, j) :: members) keyword content := by
  cases content with
  | none =>
    intro j' mem
    cases mem with
    | head => exact irrelevant rfl
    | tail _ later => exact held j' later
  | some content =>
    obtain ⟨named, j', mem, notNull, read⟩ := held
    exact ⟨named, j', List.mem_cons_of_mem _ mem, notNull, read⟩

end Content

namespace WireSchema

/-- **The record holds what the members hold.** -/
lemma heldBy_of_keywordsOf? {members : List (String × Json)} {keywords : Keywords WireSchema}
    (found : keywordsOf? members = some keywords) (keyword : Keyword) :
    Content.HeldBy members keyword (keywords.at? keyword) := by
  induction members generalizing keywords with
  | nil =>
    cases found
    cases keyword <;> simp [Keywords.at?, Content.HeldBy]
  | cons member rest ih =>
    obtain ⟨key, j⟩ := member
    obtain ⟨others, rest_found, adds⟩ := keywordsOf?_cons_iff.1 found
    cases adds with
    | unknown unnamed =>
      refine Content.HeldBy.cons (ih rest_found) fun same => ?_
      rw [Keyword.ofName?_eq_some_iff.2 same.symm] at unnamed
      cases unnamed
    | nothing named null => exact Content.HeldBy.cons (ih rest_found) fun _ => null
    | content content named notNull read =>
      have key_eq := Keyword.ofName?_eq_some_iff.1 named
      rw [Content.at?_addTo]
      split
      · rename_i same
        subst same
        exact ⟨rfl, j, key_eq ▸ List.mem_cons_self, notNull, read⟩
      · rename_i other
        refine Content.HeldBy.cons (ih rest_found) fun same => (other ?_).elim
        exact Option.some.inj ((Keyword.ofName?_eq_some_iff.2 same.symm).symm.trans named)

/-- Without unknown keywords in the record, all members are known. -/
lemma known_of_keywordsOf? {members : List (String × Json)} {keywords : Keywords WireSchema}
    (found : keywordsOf? members = some keywords) (noExtra : keywords.extra = []) :
    ∀ member ∈ members, ∃ k : Keyword, k.name = member.1 := by
  induction members generalizing keywords with
  | nil => simp
  | cons member rest ih =>
    obtain ⟨key, j⟩ := member
    obtain ⟨others, rest_found, adds⟩ := keywordsOf?_cons_iff.1 found
    rw [List.forall_mem_cons]
    cases adds with
    | unknown unnamed => cases noExtra
    | nothing named null =>
      exact ⟨⟨_, Keyword.ofName?_eq_some_iff.1 named⟩, ih rest_found noExtra⟩
    | content content named notNull read =>
      rw [Content.extra_addTo] at noExtra
      exact ⟨⟨_, Keyword.ofName?_eq_some_iff.1 named⟩, ih rest_found noExtra⟩

/-! ## One keyword alone -/

/-- Nothing is found among known keywords that all hold `null`. -/
lemma keywordsOf?_of_null {members : List (String × Json)}
    (silent : ∀ member ∈ members, (∃ k : Keyword, k.name = member.1) ∧ member.2 = .null) :
    keywordsOf? members = some {} := by
  induction members with
  | nil => rfl
  | cons member rest ih =>
    obtain ⟨⟨⟨keyword, named⟩, null⟩, silent⟩ := List.forall_mem_cons.1 silent
    exact keywordsOf?_cons_iff.2
      ⟨{}, ih silent, .nothing (Keyword.ofName?_eq_some_iff.2 named) null⟩

/-- **A single content is found when its keyword stands alone**, and when it is read there. -/
lemma keywordsOf?_eq_some_alone_iff {members : List (String × Json)} {content : Content}
    (distinct : Entries.Distinct members) :
    keywordsOf? members = some (content.addTo {}) ↔
      ∃ j, content.keyword.Alone j members ∧ content.ReadFrom j := by
  constructor
  · intro found
    have held := heldBy_of_keywordsOf? found
    have known := known_of_keywordsOf? found (content.extra_addTo {})
    have single := held content.keyword
    rw [Content.at?_addTo, if_pos rfl] at single
    obtain ⟨-, j, mem, notNull, read⟩ := single
    refine ⟨j, ⟨known, mem, notNull, fun member mem' other => ?_⟩, read⟩
    obtain ⟨keyword, named⟩ := known member mem'
    have another : keyword ≠ content.keyword := fun same => other (by rw [← named, same])
    have nothing := held keyword
    rw [Content.at?_addTo, if_neg another, Keywords.at?_empty] at nothing
    exact nothing member.2 (by rwa [named])
  · rintro ⟨j, alone, read⟩
    induction members with
    | nil => cases alone.held
    | cons member rest ih =>
      obtain ⟨unlisted, distinct⟩ := List.nodup_cons.1 distinct
      obtain ⟨⟨keyword, named⟩, known⟩ := List.forall_mem_cons.1 alone.known
      obtain ⟨null, others⟩ := List.forall_mem_cons.1 alone.others
      rcases List.mem_cons.1 alone.held with rfl | held
      · -- The key does not occur again, so that the rest is silent.
        have silent : ∀ member ∈ rest, (∃ k : Keyword, k.name = member.1) ∧ member.2 = .null := by
          intro member mem
          refine ⟨known member mem, others member mem fun same => unlisted ?_⟩
          exact List.mem_map.2 ⟨member, mem, same⟩
        exact keywordsOf?_cons_iff.2 ⟨{}, keywordsOf?_of_null silent,
          .content content (Keyword.ofName?_eq_some_iff.2 rfl) alone.notNull read⟩
      · have other : member.1 ≠ content.keyword.name := by
          intro same
          exact unlisted (List.mem_map.2 ⟨_, held, same.symm⟩)
        exact keywordsOf?_cons_iff.2 ⟨_, ih distinct ⟨known, held, alone.notNull, others⟩,
          .nothing (Keyword.ofName?_eq_some_iff.2 named) (null other)⟩

/-- Where no key is repeated, no keyword is. -/
lemma repeatsKeyword_of_distinct {members : List (String × Json)}
    (distinct : Entries.Distinct members) : repeatsKeyword members = false := by
  have once : (members.filterMap fun member => Keyword.ofName? member.1).Nodup := by
    have injective : ∀ name name' : String, ∀ keyword ∈ Keyword.ofName? name,
        keyword ∈ Keyword.ofName? name' → name = name' := by
      intro name name' keyword named named'
      rw [← Keyword.ofName?_eq_some_iff.1 named, Keyword.ofName?_eq_some_iff.1 named']
    have := List.Nodup.filterMap injective distinct
    rwa [Entries.keys, List.filterMap_map] at this
  simp [repeatsKeyword, once]

lemma membersOf?_eq_some_iff {members : List (String × Json)}
    {wires : List (String × WireSchema)} :
    membersOf? members = some wires ↔
      List.Forall₂ (fun member named => member.1 = named.1 ∧ ofJson? member.2 = some named.2)
        members wires := by
  induction members generalizing wires with
  | nil => simp [membersOf?, eq_comm]
  | cons member rest ih =>
    simp only [membersOf?, Option.bind_eq_bind, Option.bind_eq_some_iff, ih,
      List.forall₂_cons_left_iff]
    constructor
    · rintro ⟨wire, read, others, each, ⟨⟩⟩
      exact ⟨(member.1, wire), others, ⟨rfl, read⟩, each, rfl⟩
    · rintro ⟨⟨name, wire⟩, others, ⟨rfl, read⟩, each, rfl⟩
      exact ⟨wire, read, others, each, rfl⟩

lemma allOf?_eq_some_iff {elements : List Json} {wires : List WireSchema} :
    WireSchema.allOf? elements = some wires ↔
      List.Forall₂ (fun element wire => ofJson? element = some wire) elements wires := by
  induction elements generalizing wires with
  | nil => simp [WireSchema.allOf?, eq_comm]
  | cons element rest ih =>
    simp only [WireSchema.allOf?, Option.bind_eq_bind, Option.bind_eq_some_iff, ih,
      List.forall₂_cons_left_iff]
    constructor
    · rintro ⟨wire, read, others, each, ⟨⟩⟩
      exact ⟨wire, others, read, each, rfl⟩
    · rintro ⟨wire, others, read, each, rfl⟩
      exact ⟨wire, read, others, each, rfl⟩

/-- An object is read as its keywords, with the repeats among the unknown members settled. -/
lemma ofJson?_object_eq_some_iff {members : List (String × Json)} {wire : WireSchema} :
    ofJson? (.object members) = some wire ↔
      repeatsKeyword members = false ∧ ∃ found, keywordsOf? members = some found ∧
        wire = .keywords { found with extra := Entries.ofList found.extra } := by
  rw [ofJson?]
  cases repeatsKeyword members with
  | true => simp
  | false =>
    simp only [Bool.false_eq_true, if_false, Option.bind_eq_bind, Option.bind_eq_some_iff,
      Option.some.injEq, true_and, eq_comm (a := wire)]

/-- **A document is the wire form of a single content when it is an object in which the keyword
stands alone.** -/
theorem ofJson?_eq_some_alone_iff {members : List (String × Json)} {content : Content}
    (distinct : Entries.Distinct members) :
    ofJson? (.object members) = some content.alone ↔
      ∃ j, content.keyword.Alone j members ∧ content.ReadFrom j := by
  rw [← keywordsOf?_eq_some_alone_iff distinct, ofJson?_object_eq_some_iff,
    and_iff_right (repeatsKeyword_of_distinct distinct)]
  constructor
  · rintro ⟨found, read, same⟩
    rw [Content.alone, WireSchema.keywords.injEq] at same
    have extra : Entries.ofList found.extra = [] := by
      have := congrArg Keywords.extra same
      rwa [Content.extra_addTo, eq_comm] at this
    have kept : Entries.ofList found.extra = found.extra := by
      rw [extra, (Entries.ofList_eq_nil_iff _).1 extra]
    rw [Keywords.with_extra kept] at same
    rw [read, same]
  · intro read
    refine ⟨_, read, ?_⟩
    have kept : Entries.ofList (content.addTo {}).extra = (content.addTo {}).extra := by
      rw [Content.extra_addTo]
      rfl
    rw [Keywords.with_extra kept, Content.alone]

/-- Only an object is the wire form of a content. -/
lemma exists_object_of_ofJson? {j : Json} {keywords : Keywords WireSchema}
    (read : ofJson? j = some (.keywords keywords)) : ∃ members, j = .object members := by
  cases j with
  | object members => exact ⟨members, rfl⟩
  | _ => simp [ofJson?] at read

/-- A bare name is a string. -/
lemma ofJson?_eq_some_bare_iff {j : Json} {name : String} :
    ofJson? j = some (.bare name) ↔ j = .string name := by
  cases j with
  | object members =>
    rw [ofJson?]
    split <;> simp [Option.bind_eq_some_iff]
  | _ => simp [ofJson?]

end WireSchema

end Conformance
