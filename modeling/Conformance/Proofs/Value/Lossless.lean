import Conformance.Proofs.Value.Normal

/-!
# What a document loses of a value

A value that is written as a document and read back has become its normal form.  Three kinds of values
cannot come back, wherever they stand: `undefined`, a `bigInt` and a number that is not finite.  A value
without them inside is `Lossless`.

* **Normal forms are lossless** (`lossless_normalize`), and lossless values are normal already
  (`normalize_of_lossless`), so that normalizing twice is normalizing once.
* **What comes back is equal to the value if and only if the value is lossless** (`normalize_beq_iff`).
  One direction goes through the value: an element is compared with its own normal form, and a field that
  was dropped is missed in the number of fields.
-/

namespace Conformance

namespace Value

/-! ## Lossless values -/

/-- The elements of an array and the contents of an object. -/
def parts : Value → List Value
  | array elements => elements
  | object fields => fields.map Prod.snd
  | _ => []

/-- A value is, or has somewhere inside, another one. -/
inductive Contains : Value → Value → Prop
  | itself (v : Value) : Contains v v
  | part {v part inner : Value} (listed : part ∈ v.parts) (inside : Contains part inner) :
      Contains v inner

/-- The value is of a kind that documents have, and if it is a number, it is finite. -/
def Plain : Value → Prop
  | undefined => False
  | bigInt _ => False
  | number x => x.isFinite = true
  | _ => True

/-- Everything inside the value is plain. -/
def Lossless (v : Value) : Prop :=
  ∀ part, v.Contains part → part.Plain

/-- A value is lossless if it is plain itself and its parts are lossless. -/
lemma lossless_iff {v : Value} : v.Lossless ↔ v.Plain ∧ ∀ part ∈ v.parts, part.Lossless := by
  constructor
  · intro lossless
    refine ⟨lossless v (.itself v), fun part listed inner inside => ?_⟩
    exact lossless inner (.part listed inside)
  · rintro ⟨plain, each⟩ inner inside
    cases inside with
    | itself => exact plain
    | part listed inside => exact each _ listed inner inside

/-- A value without parts is lossless if it is plain. -/
lemma lossless_of_leaf {v : Value} (leaf : v.parts = []) (plain : v.Plain) : v.Lossless :=
  lossless_iff.2 ⟨plain, by simp [leaf]⟩

lemma lossless_array_iff {elements : List Value} :
    (array elements).Lossless ↔ ∀ element ∈ elements, element.Lossless := by
  rw [lossless_iff, parts]
  simp [Plain]

lemma lossless_object_iff {fields : List (String × Value)} :
    (object fields).Lossless ↔ ∀ field ∈ fields, field.2.Lossless := by
  rw [lossless_iff, parts, List.forall_mem_map]
  simp [Plain]

/-! ## Normal forms -/

/-- A `bigInt` becomes the number nearest to it. -/
lemma exists_normalize_bigInt (n : Int64) :
    ∃ x : Binary64.Finite, (bigInt n).normalize = number (.finite x) ∧ x.Nearest n.toInt := by
  obtain ⟨x, rounded, nearest⟩ := Binary64.exists_ofInt_eq_finite (abs_toInt_le n)
  exact ⟨x, by rw [normalize, rounded], nearest⟩

/-- **A normal form is lossless.** -/
theorem lossless_normalize (v : Value) : v.normalize.Lossless := by
  induction v using parts_induction with
  | number x => cases x <;> exact lossless_of_leaf rfl (by simp [normalize, Binary64.isFinite, Plain])
  | bigInt n =>
    obtain ⟨x, rounded, -⟩ := exists_normalize_bigInt n
    rw [rounded]
    exact lossless_of_leaf rfl rfl
  | array elements ih =>
    rw [normalize, lossless_array_iff, normalizeElements_eq_map]
    exact List.forall_mem_map.2 ih
  | object fields ih =>
    rw [normalize, lossless_object_iff, normalizeFields_eq, Entries.mapContents,
      List.forall_mem_map]
    intro field mem
    exact ih field (List.mem_of_mem_filter mem)
  | _ => exact lossless_of_leaf rfl trivial

/-- **A lossless value is its own normal form.** -/
theorem normalize_of_lossless {v : Value} : v.Lossless → v.normalize = v := by
  induction v using parts_induction with
  | undefined =>
    intro lossless
    exact (lossless_iff.1 lossless).1.elim
  | bigInt n =>
    intro lossless
    exact (lossless_iff.1 lossless).1.elim
  | number x =>
    intro lossless
    have finite : x.isFinite = true := (lossless_iff.1 lossless).1
    rw [normalize, if_pos finite]
  | array elements ih =>
    intro lossless
    rw [lossless_array_iff] at lossless
    have same : ∀ element ∈ elements, element.normalize = id element :=
      fun element mem => ih element mem (lossless element mem)
    rw [normalize, normalizeElements_eq_map, List.map_congr_left same, List.map_id]
  | object fields ih =>
    intro lossless
    rw [lossless_object_iff] at lossless
    have all_held : held fields = fields := by
      rw [held, List.filter_eq_self]
      intro field mem
      have plain := (lossless_iff.1 (lossless field mem)).1
      cases content : field.2 <;> simp_all [Plain, isUndefined]
    have same : ∀ field ∈ fields, field.2.normalize = id field.2 :=
      fun field mem => ih field mem (lossless field mem)
    rw [normalize, normalizeFields_eq, all_held, Entries.mapContents_congr same]
    simp [Entries.mapContents]
  | _ => exact fun _ => rfl

/-! ## What comes back -/

/-- A second pass finds no signs of zeros. -/
lemma unsignZeros_unsignZeros (v : Value) : v.unsignZeros.unsignZeros = v.unsignZeros := by
  induction v using parts_induction with
  | number x =>
    cases x with
    | finite x =>
      have same : x.unsignZero.unsignZero = x.unsignZero :=
        Binary64.Finite.unsignZero_eq_iff.2 x.toRat_unsignZero
      simp only [unsignZeros, Binary64.unsignZero, same]
    | _ => rfl
  | array elements ih =>
    simp only [unsignZeros, unsignZerosElements_eq_map, List.map_map]
    exact congrArg array (List.map_congr_left ih)
  | object fields ih =>
    simp only [unsignZeros, unsignZerosFields_eq, Entries.mapContents_mapContents]
    exact congrArg object (Entries.mapContents_congr ih)
  | _ => rfl

/-- What comes back is equal to the same values as the normal form. -/
lemma ofJson_toJson_beq (v w : Value) : (ofJson v.toJson).beq w = v.normalize.beq w := by
  rw [ofJson_toJson, ← unsignZeros_beq, unsignZeros_unsignZeros, unsignZeros_beq]

/-- A normal form is equal to itself. -/
lemma normalize_beq_self {v : Value} (wellFormed : v.WellFormed) :
    v.normalize.beq v.normalize = true :=
  normalize_beq_of_same_toJson wellFormed (.refl _)

lemma lossless_of_normalize_beq {v : Value} (wellFormed : v.WellFormed)
    (equal : v.normalize.beq v = true) : v.Lossless := by
  induction v using parts_induction with
  | undefined => cases equal
  | bigInt n => cases equal
  | number x =>
    cases x with
    | finite x => exact lossless_of_leaf rfl rfl
    | _ => cases equal
  | array elements ih =>
    rw [WellFormed, wellFormedElements_iff] at wellFormed
    rw [normalize, beq_array_iff, normalizeElements_eq_map, List.forall₂_map_left_iff,
      List.forall₂_same] at equal
    rw [lossless_array_iff]
    exact fun element mem => ih element mem (wellFormed element mem) (equal element mem)
  | object fields ih =>
    rw [WellFormed, wellFormedFields_iff] at wellFormed
    obtain ⟨distinct, wellFormed⟩ := wellFormed
    rw [normalize, beq_object_iff, normalizeFields_eq] at equal
    obtain ⟨many, each⟩ := equal
    -- A field that was dropped would be missing in the number of fields.
    have all_held : held fields = fields := by
      rw [Entries.mapContents, List.length_map] at many
      exact List.filter_sublist.eq_of_length many
    rw [all_held, Entries.mapContents, List.forall_mem_map] at each
    rw [lossless_object_iff]
    intro field mem
    obtain ⟨other, found, equal⟩ := each field mem
    rw [Entries.lookup_of_mem fields distinct mem, Option.some.injEq] at found
    exact ih field mem (wellFormed field mem) (found ▸ equal)
  | _ => exact lossless_of_leaf rfl trivial

/-- **A value is equal to its normal form if and only if it is lossless.** -/
theorem normalize_beq_iff {v : Value} (wellFormed : v.WellFormed) :
    v.normalize.beq v = true ↔ v.Lossless := by
  refine ⟨lossless_of_normalize_beq wellFormed, fun lossless => ?_⟩
  have equal := normalize_beq_self wellFormed
  rwa [normalize_of_lossless lossless] at equal ⊢

/-- **A document holds the normal form of a value.**  What is read back from the document of a value is
its normal form with the same order of elements and fields, and no number is any different but for the
sign of a zero.  In a normal form a `bigInt` is the number nearest to it, and normalizing again changes
nothing.  What is read back is equal to the value itself exactly if it has no `undefined`, no `bigInt` and
no number that is not finite, at any depth. -/
theorem document_holds_normal_form {v : Value} (wellFormed : v.WellFormed) :
    ofJson v.toJson = v.normalize.unsignZeros ∧ (ofJson v.toJson == v.normalize) = true ∧
      (∀ n : Int64, ∃ x : Binary64.Finite,
        (bigInt n).normalize = number (.finite x) ∧ x.Nearest n.toInt) ∧
      v.normalize.normalize = v.normalize ∧
      ((ofJson v.toJson == v) = true ↔ ∀ part, v.Contains part → part.Plain) := by
  refine ⟨ofJson_toJson v, ?_, exists_normalize_bigInt, ?_, ?_⟩
  · exact (ofJson_toJson_beq v v.normalize).trans (normalize_beq_self wellFormed)
  · exact normalize_of_lossless (lossless_normalize v)
  · exact (Bool.eq_iff_iff.1 (ofJson_toJson_beq v v)).trans (normalize_beq_iff wellFormed)

/-- A field and an element that hold `undefined`, a `bigInt`, not-a-number and a negative zero. -/
theorem document_holds_normal_form_of_object :
    let v := object [("gone", undefined), ("list", array [undefined, bigInt 7, number .nan]),
      ("zero", number (.finite (.zero true)))]
    v.WellFormed ∧
      v.normalize = object [("list", array [null, number (.ofInt 7), null]),
        ("zero", number (.finite (.zero true)))] ∧
      ofJson v.toJson = v.normalize.unsignZeros ∧ (ofJson v.toJson == v.normalize) = true ∧
      v.normalize.normalize = v.normalize ∧
      ((ofJson v.toJson == v) = true ↔ ∀ part, v.Contains part → part.Plain) := by
  intro v
  have wellFormed : v.WellFormed := by
    simp [v, WellFormed, WellFormedFields, WellFormedElements, Entries.Distinct]
  obtain ⟨read, equal, -, twice, back⟩ := document_holds_normal_form wellFormed
  exact ⟨wellFormed, rfl, read, equal, twice, back⟩

end Value

end Conformance
