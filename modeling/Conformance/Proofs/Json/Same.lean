import Conformance.Proofs.Entries
import Conformance.Proofs.Json.Number
import Conformance.Proofs.Json.Parts

/-!
# Documents up to the order of members

Two documents are the same (`Json.Same`) when they differ in nothing but **the order of members in
objects, at any depth**.  Numbers are the same if they are equal and of one kind: an integer is never
the same as a float.  Every document is the same as itself (`Same.refl`).

Where no key stands twice, objects that are the same have the same documents under the same keys
(`Same.rel_lookup`).
-/

namespace Conformance.Json

/-- The same number: one integer, or floats that are equal. -/
inductive Number.Same : Number → Number → Prop
  | integer (n : ℤ) (inRange : InIntegerRange n) : Same (.integer n inRange) (.integer n inRange)
  | float {x y : Binary64.Finite} (equal : x.toRat = y.toRat) : Same (.float x) (.float y)

/-- The same document but for the order of members in objects. -/
inductive Same : Json → Json → Prop
  | null : Same .null .null
  | bool (b : Bool) : Same (.bool b) (.bool b)
  | number {m n : Number} (same : m.Same n) : Same (.number m) (.number n)
  | string (s : String) : Same (.string s) (.string s)
  | array {left right : List Json} (each : List.Forall₂ Same left right) :
    Same (.array left) (.array right)
  | object {left ordered right : List (String × Json)}
    (names : left.map Prod.fst = ordered.map Prod.fst)
    (contents : List.Forall₂ Same (left.map Prod.snd) (ordered.map Prod.snd))
    (reordered : ordered.Perm right) : Same (.object left) (.object right)

lemma Number.Same.refl (n : Number) : n.Same n := by
  cases n with
  | integer n inRange => exact .integer n inRange
  | float x => exact .float rfl

/-- The same numbers have the same value. -/
lemma Number.Same.toRat_eq {m n : Number} (same : m.Same n) : m.toRat = n.toRat := by
  cases same with
  | integer n inRange => rfl
  | float equal => exact equal

lemma Number.Same.toInt64?_eq {m n : Number} (same : m.Same n) : m.toInt64? = n.toInt64? := by
  cases same <;> rfl

/-- The same numbers are read as equal numbers. -/
lemma Number.Same.equal_toBinary64 {m n : Number} (same : m.Same n) :
    m.toBinary64.Equal n.toBinary64 := by
  cases same with
  | integer n inRange =>
    obtain ⟨x, read, -⟩ := (Number.integer n inRange).exists_toBinary64_eq_finite
    rw [read]
    exact .finite rfl
  | float equal => exact .finite equal

/-- **Every document is the same as itself.** -/
theorem Same.refl (j : Json) : j.Same j := by
  induction j using parts_induction with
  | null => exact .null
  | bool b => exact .bool b
  | number n => exact .number (.refl n)
  | string s => exact .string s
  | array elements ih => exact .array (List.forall₂_same.2 ih)
  | object members ih =>
    refine .object rfl (List.forall₂_same.2 fun content mem => ?_) (.refl members)
    obtain ⟨member, declared, rfl⟩ := List.mem_map.1 mem
    exact ih member declared

lemma Same.of_string {s t : String} (same : (Json.string s).Same (.string t)) : s = t := by
  cases same
  rfl

/-- The members of objects that are the same correspond, in some order. -/
lemma Same.exists_perm {left right : List (String × Json)}
    (same : (Json.object left).Same (.object right)) :
    ∃ ordered : List (String × Json),
      List.Forall₂ (fun member other => member.1 = other.1 ∧ member.2.Same other.2) left ordered ∧
        ordered.Perm right := by
  cases same with
  | object names contents reordered =>
    exact ⟨_, Entries.forall₂_of_names_of_contents names contents, reordered⟩

/-- Objects with one member are the same if the members are. -/
lemma Same.of_singleton {key key' : String} {j k : Json}
    (same : (Json.object [(key, j)]).Same (.object [(key', k)])) : key = key' ∧ j.Same k := by
  obtain ⟨ordered, each, reordered⟩ := same.exists_perm
  rw [List.perm_singleton.1 reordered] at each
  cases each with
  | cons related _ => exact related

/-- Objects that are the same hold the same contents under the same keys. -/
lemma Same.matches {left right : List (String × Json)}
    (same : (Json.object left).Same (.object right)) (distinct : Entries.Distinct left) :
    Entries.Matches Same left right := by
  obtain ⟨ordered, each, reordered⟩ := same.exists_perm
  exact .of_perm each reordered distinct

/-- **A key leads to documents that are the same, or to nothing in both objects.** -/
lemma Same.rel_lookup {left right : List (String × Json)}
    (same : (Json.object left).Same (.object right)) (distinct : Entries.Distinct left) (key : String) :
    Option.Rel Same (left.lookup key) (right.lookup key) :=
  (same.matches distinct).rel_lookup distinct key

end Conformance.Json
