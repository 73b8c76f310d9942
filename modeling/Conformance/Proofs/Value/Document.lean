import Conformance.Proofs.Value.Lossless

/-!
# Documents that are read and written again

Every document is a value, and a value that was a document is lossless (`lossless_ofJson`).  Written
again it is **the document with its numbers respelled and nothing else changed** (`toJson_ofJson`):
`Json.mapNumbers` changes the numbers of a document at every depth, and `Json.numbers` lists them.

So a document survives if all of its numbers do.  **An integer survives if it is a binary64 number, and a
float if it has no spelling as an integer** (`Number.canonical_iff_survives`).
-/

namespace Conformance

namespace Json

/-! ## The numbers of a document -/

mutual

/-- The numbers of a document, at every depth, in order. -/
def numbers : Json → List Number
  | number n => [n]
  | array elements => elementNumbers elements
  | object members => memberNumbers members
  | _ => []

/-- `numbers` for the elements of an array. -/
def elementNumbers : List Json → List Number
  | [] => []
  | element :: rest => element.numbers ++ elementNumbers rest

/-- `numbers` for the contents of members. -/
def memberNumbers : List (String × Json) → List Number
  | [] => []
  | (_, content) :: rest => content.numbers ++ memberNumbers rest

end

section MapNumbers

variable (change : Number → Number)

mutual

/-- The document with its numbers changed and everything else as it is. -/
def mapNumbers : Json → Json
  | number n => number (change n)
  | array elements => array (mapElements elements)
  | object members => object (mapMembers members)
  | other => other

/-- `mapNumbers` on the elements of an array. -/
def mapElements : List Json → List Json
  | [] => []
  | element :: rest => element.mapNumbers :: mapElements rest

/-- `mapNumbers` on the contents of members. -/
def mapMembers : List (String × Json) → List (String × Json)
  | [] => []
  | (key, content) :: rest => (key, content.mapNumbers) :: mapMembers rest

end

variable {change}

mutual

/-- **A change of numbers leaves a document as it is exactly when it leaves all its numbers.** -/
theorem mapNumbers_eq_self_iff :
    ∀ j, mapNumbers change j = j ↔ ∀ n ∈ j.numbers, change n = n
  | null => by simp [mapNumbers, numbers]
  | bool b => by simp [mapNumbers, numbers]
  | number n => by simp [mapNumbers, numbers]
  | string s => by simp [mapNumbers, numbers]
  | array elements => by
    rw [mapNumbers, numbers, array.injEq, mapElements_eq_self_iff elements]
  | object members => by
    rw [mapNumbers, numbers, object.injEq, mapMembers_eq_self_iff members]

theorem mapElements_eq_self_iff :
    ∀ elements, mapElements change elements = elements ↔ ∀ n ∈ elementNumbers elements, change n = n
  | [] => by simp [mapElements, elementNumbers]
  | element :: rest => by
    simp only [mapElements, elementNumbers, List.cons.injEq, mapNumbers_eq_self_iff element,
      mapElements_eq_self_iff rest, List.forall_mem_append]

theorem mapMembers_eq_self_iff :
    ∀ members, mapMembers change members = members ↔ ∀ n ∈ memberNumbers members, change n = n
  | [] => by simp [mapMembers, memberNumbers]
  | (key, content) :: rest => by
    simp only [mapMembers, memberNumbers, List.cons.injEq, Prod.mk.injEq, true_and,
      mapNumbers_eq_self_iff content, mapMembers_eq_self_iff rest, List.forall_mem_append]

end

end MapNumbers

/-! ## Numbers that survive -/

namespace Number

/-- The number is written again as it was: an integer that is a binary64 number, or a float that is no
integer in the integer range. -/
def Survives : Number → Prop
  | integer n _ => ∃ x : Binary64.Finite, x.toRat = n ∧ x.toRat < 2 ^ 64
  | float x => (∀ n : ℤ, x.toRat ≠ n) ∨ x.toRat < -2 ^ 63 ∨ 2 ^ 64 ≤ x.toRat

/-- The integer range in terms of rationals. -/
lemma inIntegerRange_iff {n : ℤ} : InIntegerRange n ↔ -2 ^ 63 ≤ (n : ℚ) ∧ (n : ℚ) < 2 ^ 64 := by
  rw [InIntegerRange]
  norm_cast

/-- **The numbers that survive are those in their canonical spelling.** -/
theorem canonical_iff_survives {n : Number} : n.Canonical ↔ n.Survives := by
  cases n with
  | integer n inRange =>
    constructor
    · rintro ⟨x, spells⟩
      cases spells with
      | integer inRange whole => exact ⟨x, whole, whole ▸ (inIntegerRange_iff.1 inRange).2⟩
    · rintro ⟨x, whole, -⟩
      exact ⟨x, .integer inRange whole⟩
  | float x =>
    constructor
    · rintro ⟨y, spells⟩
      cases spells with
      | float other =>
        by_contra kept
        simp only [Survives, not_or, not_forall, not_not, not_lt, not_le] at kept
        obtain ⟨⟨n, whole⟩, least, greatest⟩ := kept
        rw [whole] at least greatest
        exact other n (inIntegerRange_iff.2 ⟨least, greatest⟩) whole
    · intro survives
      refine ⟨x, .float fun n inRange whole => ?_⟩
      obtain ⟨least, greatest⟩ := inIntegerRange_iff.1 inRange
      rw [← whole] at least greatest
      rcases survives with broken | low | high
      · exact broken n whole
      · exact absurd least (not_le.2 low)
      · exact absurd greatest (not_lt.2 high)

end Number

end Json

namespace Value

/-! ## Values that were documents -/

lemma isUndefined_ofJson (j : Json) : (ofJson j).isUndefined = false := by
  cases j <;> rfl

/-- **A value that was a document is lossless.** -/
theorem lossless_ofJson (j : Json) : (ofJson j).Lossless := by
  induction j using Json.parts_induction with
  | number n =>
    obtain ⟨x, read, -⟩ := n.exists_toBinary64_eq_finite
    rw [ofJson, read]
    exact lossless_of_leaf rfl rfl
  | array elements ih =>
    rw [ofJson, lossless_array_iff, ofJsonElements_eq_map]
    exact List.forall_mem_map.2 ih
  | object members ih =>
    rw [ofJson, lossless_object_iff, ofJsonMembers_eq]
    exact List.forall_mem_map.2 ih
  | _ => exact lossless_of_leaf rfl trivial

/-- A number is written in its canonical spelling. -/
lemma numberToJson_toBinary64 (n : Json.Number) :
    numberToJson n.toBinary64 = .number n.canonical := by
  obtain ⟨x, read, -⟩ := n.exists_toBinary64_eq_finite
  rw [Json.Number.canonical_of_toBinary64 read, read]
  rfl

mutual

/-- **A document is written again with its numbers in their canonical spelling.** -/
theorem toJson_ofJson : ∀ j, (ofJson j).toJson = j.mapNumbers Json.Number.canonical
  | .null => rfl
  | .bool _ => rfl
  | .number n => numberToJson_toBinary64 n
  | .string _ => rfl
  | .array elements => congrArg Json.array (toJsonElements_ofJson elements)
  | .object members => congrArg Json.object (toJsonFields_ofJson members)

theorem toJsonElements_ofJson : ∀ elements,
    toJsonElements (ofJsonElements elements) = Json.mapElements Json.Number.canonical elements
  | [] => rfl
  | element :: rest => by
    rw [ofJsonElements, toJsonElements, Json.mapElements, toJson_ofJson element,
      toJsonElements_ofJson rest]

theorem toJsonFields_ofJson : ∀ members,
    toJsonFields (ofJsonMembers members) = Json.mapMembers Json.Number.canonical members
  | [] => rfl
  | (key, content) :: rest => by
    rw [ofJsonMembers, toJsonFields, isUndefined_ofJson, if_neg Bool.false_ne_true, Json.mapMembers,
      toJson_ofJson content, toJsonFields_ofJson rest]

end

/-- **A document survives but for the spelling of its numbers.**  Read as a value it has no `undefined`,
no `bigInt` and no number that is not finite.  Written again it is the document with each number
replaced by the canonical spelling of the binary64 number nearest to it, and so it is the same document
exactly if every integer in it is a binary64 number below `2 ^ 64` and every float is broken or out of
the integer range. -/
theorem document_is_respelled (j : Json) :
    (∀ part, (ofJson j).Contains part → part.Plain) ∧
      (ofJson j).toJson = j.mapNumbers Json.Number.canonical ∧
      (∀ n ∈ j.numbers, ∃ x : Binary64.Finite, x.Nearest n.toRat ∧ n.canonical.Spells x) ∧
      ((ofJson j).toJson = j ↔ ∀ n ∈ j.numbers, n.Survives) := by
  refine ⟨lossless_ofJson j, toJson_ofJson j, fun n _ => ?_, ?_⟩
  · obtain ⟨x, read, nearest⟩ := n.exists_toBinary64_eq_finite
    rw [Json.Number.canonical_of_toBinary64 read]
    exact ⟨x, nearest, Json.Number.spells_iff.2 rfl⟩
  · rw [toJson_ofJson, Json.mapNumbers_eq_self_iff]
    refine forall₂_congr fun n _ => ?_
    rw [Json.Number.canonical_eq_self_iff, Json.Number.canonical_iff_survives]

/-- A negative zero beside the first integer that is no binary64 number. -/
theorem document_is_respelled_zero :
    let odd := Json.Number.integer 9007199254740993 (by decide)
    let j := Json.object [("z", .array [.number (.float (.zero true))]), ("a", .number odd)]
    ((ofJson j).Contains (array [number (.finite (.zero true))]) ∧
      Plain (array [number (.finite (.zero true))])) ∧
    (ofJson j).toJson = .object [("z", .array [.number (.integer 0 (by decide))]),
      ("a", .number (.integer 9007199254740992 (by decide)))] ∧
    (odd ∈ j.numbers ∧ ∃ x : Binary64.Finite, x.Nearest odd.toRat ∧ odd.canonical.Spells x) ∧
    (ofJson j).toJson ≠ j ∧ ¬ ∀ n ∈ j.numbers, n.Survives := by
  intro odd j
  obtain ⟨plain, respelled, nearest, survives⟩ := document_is_respelled j
  have inside : (ofJson j).Contains (array [number (.finite (.zero true))]) :=
    .part (by simp [j, ofJson, ofJsonMembers, parts, ofJsonElements, Json.Number.toBinary64]) (.itself _)
  have listed : odd ∈ j.numbers := by
    simp [j, odd, Json.numbers, Json.memberNumbers, Json.elementNumbers]
  have written : j.mapNumbers Json.Number.canonical = .object
      [("z", .array [.number (.integer 0 (by decide))]),
        ("a", .number (.integer 9007199254740992 (by decide)))] := by
    rfl
  have changed : (ofJson j).toJson ≠ j := by
    rw [respelled, written]
    simp [j]
  exact ⟨⟨inside, plain _ inside⟩, respelled.trans written, ⟨listed, nearest odd listed⟩, changed,
    fun each => changed (survives.2 each)⟩

end Value

end Conformance
