import Conformance.Proofs.Wire.Content

/-!
# The parts of wire forms

An object in wire form may hold any number of keywords, and each of them has wire forms inside.
`WireSchema.parts_induction` is induction over all of these parts, of which it does not matter under
which keyword they stand.

**One keyword beside nothing unknown is a content** (`Keywords.exists_content`), so that what is said
of the keywords by counting them can be said by cases.
-/

namespace Conformance

namespace Keywords

/-- How many of the known keywords are there. -/
def present {σ : Type} (keywords : Keywords σ) : Nat :=
  [keywords.literal.isSome, keywords.matching.isSome, keywords.object.isSome,
    keywords.oneOf.isSome, keywords.allOf.isSome, keywords.arrayOf.isSome].count true

/-- The wire forms under all keywords. -/
def parts (keywords : Keywords WireSchema) : List WireSchema :=
  (keywords.object.getD []).map Prod.snd ++ keywords.oneOf.getD [] ++ keywords.allOf.getD [] ++
    keywords.arrayOf.toList

lemma sizeOf_lt_of_mem_parts {keywords : Keywords WireSchema} {wire : WireSchema}
    (mem : wire ∈ keywords.parts) : sizeOf wire < sizeOf (WireSchema.keywords keywords) := by
  obtain ⟨literal, matching, object, oneOf, allOf, arrayOf, extra⟩ := keywords
  simp only [parts, List.mem_append, List.mem_map, Option.mem_toList] at mem
  rcases mem with ((⟨⟨name, inner⟩, mem, rfl⟩ | mem) | mem) | rfl
  · cases object with
    | none => cases mem
    | some members =>
      have := List.sizeOf_lt_of_mem (Option.getD_some ▸ mem)
      simp at this ⊢
      omega
  · cases oneOf with
    | none => cases mem
    | some wires =>
      have := List.sizeOf_lt_of_mem (Option.getD_some ▸ mem)
      simp
      omega
  · cases allOf with
    | none => cases mem
    | some wires =>
      have := List.sizeOf_lt_of_mem (Option.getD_some ▸ mem)
      simp
      omega
  · simp
    omega

/-- **A single keyword with nothing unknown beside it is a content.** -/
lemma exists_content {keywords : Keywords WireSchema} (known : keywords.extra = [])
    (single : keywords.present = 1) : ∃ content : Content, keywords = content.addTo {} := by
  obtain ⟨literal, matching, object, oneOf, allOf, arrayOf, extra⟩ := keywords
  cases known
  rcases literal with _ | j <;> rcases matching with _ | j <;> rcases object with _ | members <;>
    rcases oneOf with _ | wires <;> rcases allOf with _ | wires <;> rcases arrayOf with _ | wire <;>
    simp [present] at single
  -- What is left has one keyword, the last one first.
  · exact ⟨.arrayOf wire, rfl⟩
  · exact ⟨.allOf wires, rfl⟩
  · exact ⟨.oneOf wires, rfl⟩
  · exact ⟨.object members, rfl⟩
  · exact ⟨.literal .matching j, rfl⟩
  · exact ⟨.literal .literal j, rfl⟩

end Keywords

/-- The wire forms in a content. -/
def Content.parts : Content → List WireSchema
  | literal _ _ => []
  | object members => members.map Prod.snd
  | oneOf wires | allOf wires => wires
  | arrayOf wire => [wire]

lemma Content.parts_addTo (content : Content) : (content.addTo {}).parts = content.parts := by
  cases content with
  | literal spelling j => cases spelling <;> rfl
  | _ => simp [addTo, Keywords.parts, parts]

/-- Induction over the parts of a wire form. -/
@[elab_as_elim]
theorem WireSchema.parts_induction {motive : WireSchema → Prop}
    (bare : ∀ name, motive (.bare name))
    (keywords : ∀ keywords : Keywords WireSchema,
      (∀ wire ∈ keywords.parts, motive wire) → motive (.keywords keywords)) :
    ∀ wire, motive wire
  | .bare name => bare name
  | .keywords held => keywords held fun wire _mem => parts_induction bare keywords wire
termination_by wire => sizeOf wire
decreasing_by exact Keywords.sizeOf_lt_of_mem_parts _mem

end Conformance
