import Conformance.Proofs.Binary64.Value
import Conformance.Proofs.Entries
import Conformance.Proofs.Schema.Parts
import Mathlib.Data.List.Forall2

/-!
# Schemas that are alike

Two schemas are alike (`Schema.Alike`) when they differ in nothing but **the order of members in object
schemas, at any depth, and the spelling of literals**, with numbers compared as numbers.

Equal schemas are alike (`alike_of_beq`): equality tests the members of one schema against those of the
other by their keys, which is a reordering because keys are distinct.
-/

namespace Conformance.Schema

mutual

/-- The same schema but for the order of members and the spelling of literals. -/
inductive Alike : Schema → Schema → Prop
  | primitive (p : Primitive) : Alike (.primitive p) (.primitive p)
  | literal {a b : Scalar} (equal : (a == b) = true) (spelling spelling' : LiteralSpelling) :
    Alike (.literal a spelling) (.literal b spelling')
  | object {members ordered others : List (String × Member Schema)}
    (each : AlikeMembers members ordered) (reordered : ordered.Perm others) :
    Alike (.object members) (.object others)
  | oneOf {schemas others : List Schema} (each : AlikeAll schemas others) :
    Alike (.oneOf schemas) (.oneOf others)
  | allOf {schemas others : List Schema} (each : AlikeAll schemas others) :
    Alike (.allOf schemas) (.allOf others)
  | arrayOf {element other : Schema} (inside : Alike element other) :
    Alike (.arrayOf element) (.arrayOf other)

/-- `Alike` for all schemas of two lists, place by place. -/
inductive AlikeAll : List Schema → List Schema → Prop
  | nil : AlikeAll [] []
  | cons {schema other : Schema} {schemas others : List Schema} (head : Alike schema other)
    (tail : AlikeAll schemas others) : AlikeAll (schema :: schemas) (other :: others)

/-- `Alike` for the schemas of members with the same keys, equally required, place by place. -/
inductive AlikeMembers : List (String × Member Schema) → List (String × Member Schema) → Prop
  | nil : AlikeMembers [] []
  | cons (key : String) (required : Bool) {schema other : Schema}
    {members others : List (String × Member Schema)} (head : Alike schema other)
    (tail : AlikeMembers members others) :
    AlikeMembers ((key, ⟨schema, required⟩) :: members) ((key, ⟨other, required⟩) :: others)

end

/-- Members are alike: the same key, equally required, and schemas that are. -/
def MemberAlike (member other : String × Member Schema) : Prop :=
  member.1 = other.1 ∧ member.2.required = other.2.required ∧ member.2.schema.Alike other.2.schema

lemma alikeAll_iff {schemas others : List Schema} :
    AlikeAll schemas others ↔ List.Forall₂ Alike schemas others := by
  constructor
  · intro each
    induction schemas generalizing others with
    | nil =>
      cases each
      exact .nil
    | cons schema rest ih =>
      cases each with
      | cons head tail => exact .cons head (ih tail)
  · intro each
    induction each with
    | nil => exact .nil
    | cons head _ ih => exact .cons head ih

lemma alikeMembers_iff {members others : List (String × Member Schema)} :
    AlikeMembers members others ↔ List.Forall₂ MemberAlike members others := by
  constructor
  · intro each
    induction members generalizing others with
    | nil =>
      cases each
      exact .nil
    | cons member rest ih =>
      cases each with
      | cons key required head tail => exact .cons ⟨rfl, rfl, head⟩ (ih tail)
  · intro each
    induction each with
    | nil => exact .nil
    | @cons member other _ _ related _ ih =>
      obtain ⟨key, schema, required⟩ := member
      obtain ⟨key', other, required'⟩ := other
      obtain ⟨rfl, rfl, head⟩ := related
      exact .cons key required head ih

/-! ## Equal schemas -/

lemma beqAll_iff {left right : List Schema} :
    beqAll left right = true ↔ List.Forall₂ (fun s t => s.beq t = true) left right := by
  induction left generalizing right with
  | nil => cases right <;> simp [beqAll]
  | cons s rest ih => cases right <;> simp [beqAll, ih]

/-- Members are equal: equal schemas, equally required. -/
def MemberEqual (member other : Member Schema) : Prop :=
  member.schema.beq other.schema = true ∧ member.required = other.required

lemma beq_object_iff {left right : List (String × Member Schema)} :
    (object left).beq (object right) = true ↔ Entries.Matches MemberEqual left right := by
  rw [beq, Bool.and_eq_true, beq_iff_eq, beqMembers_iff]
  rfl

/-- **Equal schemas are alike.** -/
theorem alike_of_beq {schema other : Schema} (wellFormed : schema.WellFormed)
    (equal : schema.beq other = true) : schema.Alike other := by
  induction schema using parts_induction generalizing other with
  | primitive p =>
    cases other with
    | primitive q =>
      rw [eq_of_beq (a := p) equal]
      exact .primitive q
    | _ => cases equal
  | literal a spelling =>
    cases other with
    | literal b spelling' =>
      rw [beq, Bool.and_eq_true] at equal
      exact .literal equal.1 spelling spelling'
    | _ => cases equal
  | object members ih =>
    cases other with
    | object others =>
      rw [WellFormed, wellFormedMembers_iff] at wellFormed
      obtain ⟨ordered, each, reordered⟩ := (beq_object_iff.1 equal).exists_perm wellFormed.1
      refine .object (alikeMembers_iff.2 ?_) reordered
      refine forall₂_imp_of_mem each fun member mem other _ ⟨key, same, required⟩ => ?_
      exact ⟨key, required, ih member mem (wellFormed.2 member mem) same⟩
    | _ => cases equal
  | oneOf schemas ih =>
    cases other with
    | oneOf others =>
      rw [WellFormed, wellFormedAll_iff] at wellFormed
      refine .oneOf (alikeAll_iff.2 ?_)
      exact forall₂_imp_of_mem (beqAll_iff.1 equal) fun schema mem other _ same =>
        ih schema mem (wellFormed schema mem) same
    | _ => cases equal
  | allOf schemas ih =>
    cases other with
    | allOf others =>
      rw [WellFormed, wellFormedAll_iff] at wellFormed
      refine .allOf (alikeAll_iff.2 ?_)
      exact forall₂_imp_of_mem (beqAll_iff.1 equal) fun schema mem other _ same =>
        ih schema mem (wellFormed schema mem) same
    | _ => cases equal
  | arrayOf element ih =>
    cases other with
    | arrayOf other => exact .arrayOf (ih wellFormed equal)
    | _ => cases equal

end Conformance.Schema
