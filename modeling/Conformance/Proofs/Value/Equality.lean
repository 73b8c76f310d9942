import Conformance.Proofs.Binary64.Value
import Conformance.Proofs.Pointer.Following

/-!
# Equal values

Equality of values compares numbers as numbers and objects without regard to the order of their fields.
`Value.EqualLayer` says what it asks for, one layer at a time (`beq_iff_equalLayer`), and
**`rel_present?` what it means for fields**: a name leads to equal fields in both objects, or to none in
both, and the same holds of the fields that count as present.
-/

namespace Conformance.Value

lemma beqElements_iff {left right : List Value} :
    beqElements left right = true ↔ List.Forall₂ (fun v w => v.beq w = true) left right := by
  induction left generalizing right with
  | nil => cases right <;> simp [beqElements]
  | cons v rest ih => cases right <;> simp [beqElements, ih]

lemma beqFields_iff {left right : List (String × Value)} :
    beqFields left right = true ↔ ∀ field ∈ left, ∃ other,
      right.lookup field.1 = some other ∧ field.2.beq other = true := by
  induction left with
  | nil => simp [beqFields]
  | cons field rest ih =>
    obtain ⟨name, content⟩ := field
    rw [beqFields, List.forall_mem_cons, Bool.and_eq_true, ih]
    cases right.lookup name <;> simp

lemma beq_array_iff {left right : List Value} :
    (array left).beq (array right) = true ↔
      List.Forall₂ (fun v w => v.beq w = true) left right :=
  beqElements_iff

lemma beq_object_iff {left right : List (String × Value)} :
    (object left).beq (object right) = true ↔
      Entries.Matches (fun v w => v.beq w = true) left right := by
  rw [beq, Bool.and_eq_true, beq_iff_eq, beqFields_iff]
  rfl

/-- What equality asks for in the outermost layer of two values. -/
inductive EqualLayer : Value → Value → Prop
  | undefined : EqualLayer .undefined .undefined
  | null : EqualLayer .null .null
  | bool (b : Bool) : EqualLayer (.bool b) (.bool b)
  | number {x y : Binary64} (equal : x.Equal y) : EqualLayer (.number x) (.number y)
  | bigInt (n : Int64) : EqualLayer (.bigInt n) (.bigInt n)
  | string (s : String) : EqualLayer (.string s) (.string s)
  | array {left right : List Value}
      (each : List.Forall₂ (fun v w => v.beq w = true) left right) :
      EqualLayer (.array left) (.array right)
  | object {left right : List (String × Value)}
      (same : Entries.Matches (fun v w => v.beq w = true) left right) :
      EqualLayer (.object left) (.object right)

/-- **Equality of values, layer by layer.** -/
theorem beq_iff_equalLayer {v w : Value} : v.beq w = true ↔ v.EqualLayer w := by
  constructor
  · intro equal
    cases v <;> cases w
    case undefined.undefined => exact .undefined
    case null.null => exact .null
    case bool.bool a b => rw [eq_of_beq (a := a) equal]; exact .bool b
    case number.number x y => exact .number (Binary64.beq_iff_equal.1 equal)
    case bigInt.bigInt m n => rw [eq_of_beq (a := m) equal]; exact .bigInt n
    case string.string s t => rw [eq_of_beq (a := s) equal]; exact .string t
    case array.array left right => exact .array (beq_array_iff.1 equal)
    case object.object left right => exact .object (beq_object_iff.1 equal)
    all_goals cases equal
  · intro equal
    cases equal with
    | undefined => rfl
    | null => rfl
    | bool b => exact beq_self_eq_true b
    | number equal => exact Binary64.beq_iff_equal.2 equal
    | bigInt n => exact beq_self_eq_true n
    | string s => exact beq_self_eq_true s
    | array each => exact beq_array_iff.2 each
    | object same => exact beq_object_iff.2 same

lemma isUndefined_eq_of_beq {v w : Value} (equal : v.beq w = true) :
    v.isUndefined = w.isUndefined := by
  cases beq_iff_equalLayer.1 equal <;> rfl

/-- **Equal objects have equal fields present**, under the same names. -/
theorem rel_present? {left right : List (String × Value)}
    (same : Entries.Matches (fun v w => v.beq w = true) left right)
    (distinct : Entries.Distinct left) (name : String) :
    Option.Rel (fun v w => v.beq w = true) (present? left name) (present? right name) := by
  have related := same.rel_lookup distinct name
  rw [present?, present?]
  generalize left.lookup name = found at related ⊢
  generalize right.lookup name = found' at related ⊢
  cases related with
  | none => exact .none
  | some equal =>
    rw [Option.filter_some, Option.filter_some, isUndefined_eq_of_beq equal]
    split
    · exact .some equal
    · exact .none

end Conformance.Value
