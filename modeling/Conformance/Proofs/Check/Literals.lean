import Conformance.Proofs.Check.Denoted
import Conformance.Proofs.Json.Number
import Conformance.Proofs.Schema.Loading

/-!
# Literals and data from documents

The same document may stand in a schema, where it is read as a scalar, and in the data, where it is read
as a value.  The two readers share nothing but the reading of numbers, and yet **they agree on strings,
booleans and numbers**: the value is the scalar as a value (`Scalar.MeantBy.ofJson_eq`).  A `bigInt` is
what they do not agree on.  Its document is an object, which as data is read as an object, so that no
document is read as a value that a `bigInt` accepts (`Scalar.rejects_ofJson`).

`Json.SameScalar` is what a literal from a document asks of the documents in the data, and
`literals_read_like_data` puts this together with the loading of the literal.
-/

namespace Conformance

namespace Json

/-- The document of a `bigInt`: an object with the mark of a `bigInt` and a number, and nothing else. -/
def IsBigInt (j : Json) : Prop :=
  ∃ n, j = .object [(Scalar.bigIntKey, .number n)]

/-- A JSON number is read as the nearest binary64 number. -/
structure Number.ReadAs (n : Number) (x : Binary64.Finite) : Prop where
  read : n.toBinary64 = .finite x
  nearest : x.Nearest n.toRat

/-- Two documents denote the same scalar. -/
inductive SameScalar : Json → Json → Prop
  | string (s : String) : SameScalar (.string s) (.string s)
  | bool (b : Bool) : SameScalar (.bool b) (.bool b)
  /-- The numbers may be spelled differently, as long as they are rounded to the same value. -/
  | number {m n : Number} {x y : Binary64.Finite} (left : m.ReadAs x) (right : n.ReadAs y)
    (equal : x.toRat = y.toRat) : SameScalar (.number m) (.number n)

lemma Number.exists_readAs (n : Number) : ∃ x, n.ReadAs x := by
  obtain ⟨x, read, nearest⟩ := n.exists_toBinary64_eq_finite
  exact ⟨x, read, nearest⟩

/-- Numbers denote the same scalar if they are read as equal numbers. -/
lemma sameScalar_number_iff {m n : Number} :
    SameScalar (.number m) (.number n) ↔ m.toBinary64.Equal n.toBinary64 := by
  constructor
  · intro same
    cases same with
    | number left right equal =>
      rw [left.read, right.read]
      exact .finite equal
  · intro same
    obtain ⟨x, left⟩ := m.exists_readAs
    obtain ⟨y, right⟩ := n.exists_readAs
    rw [left.read, right.read] at same
    cases same with
    | finite equal => exact .number left right equal

end Json

namespace Scalar

variable {scalar : Scalar} {j : Json}

/-- **As data, the document of a scalar is the scalar as a value**, unless it is that of a `bigInt`. -/
lemma MeantBy.ofJson_eq (meant : scalar.MeantBy j) (noBigInt : ¬ j.IsBigInt) :
    Value.ofJson j = scalar.toValue := by
  cases meant with
  | string s => rfl
  | number n => rfl
  | bool b => rfl
  | bigInt k => exact (noBigInt ⟨_, rfl⟩).elim

/-- A `bigInt` accepts nothing that is read from a document. -/
lemma rejects_ofJson (n : Int64) (k : Json) : (bigInt n).accepts (.ofJson k) = false := by
  cases k <;> rfl

lemma MeantBy.rejects_of_isBigInt (meant : scalar.MeantBy j) (tagged : j.IsBigInt) (k : Json) :
    scalar.accepts (.ofJson k) = false := by
  obtain ⟨n, rfl⟩ := tagged
  cases meant with
  | bigInt m => exact rejects_ofJson m k

/-- **A scalar accepts the data that is equal to its own document, read as data.** -/
lemma MeantBy.accepts_iff (meant : scalar.MeantBy j) (k : Json) :
    scalar.accepts (.ofJson k) = true ↔
      ¬ j.IsBigInt ∧ (Value.ofJson j == Value.ofJson k) = true := by
  by_cases tagged : j.IsBigInt
  · simp [meant.rejects_of_isBigInt tagged k, tagged]
  · rw [accepts_eq_beq, meant.ofJson_eq tagged]
    exact (and_iff_right tagged).symm

/-- The same document by document. -/
lemma MeantBy.accepts_iff_sameScalar (meant : scalar.MeantBy j) (k : Json) :
    scalar.accepts (.ofJson k) = true ↔ j.SameScalar k := by
  rw [accepts_iff_matches]
  cases meant with
  | string s =>
    cases k with
    | string t => constructor <;> rintro ⟨⟩ <;> constructor
    | _ => constructor <;> rintro ⟨⟩
  | bool b =>
    cases k with
    | bool c => constructor <;> rintro ⟨⟩ <;> constructor
    | _ => constructor <;> rintro ⟨⟩
  | number m =>
    cases k with
    | number n =>
      rw [Json.sameScalar_number_iff]
      constructor
      · intro hit
        cases hit with
        | number equal => exact equal
      · exact .number
    | _ => constructor <;> rintro ⟨⟩
  | bigInt m =>
    cases k <;> constructor <;> rintro ⟨⟩

/-- The document of a scalar accepts itself as data. -/
lemma MeantBy.accepts_itself (meant : scalar.MeantBy j) (noBigInt : ¬ j.IsBigInt) :
    scalar.accepts (.ofJson j) = true := by
  rw [meant.accepts_iff_sameScalar]
  cases meant with
  | string s => exact .string s
  | bool b => exact .bool b
  | number n =>
    obtain ⟨x, read⟩ := n.exists_readAs
    exact .number read read rfl
  | bigInt k => exact (noBigInt ⟨_, rfl⟩).elim

/-- A literal is loaded from the document of its scalar under a keyword. -/
lemma MeantBy.load_literal (meant : scalar.MeantBy j) (spelling : LiteralSpelling) :
    Schema.load (.object [(spelling.keyword.name, j)]) = .ok (.literal scalar spelling) := by
  have read : WireSchema.ofJson? (Content.literal spelling j).alone.toJson =
      some (Content.literal spelling j).alone :=
    Content.ofJson?_alone_toJson meant.ne_null meant.resolve_eq.symm
  rw [Content.alone_toJson] at read
  have written : (Schema.literal scalar spelling).MeantBy (Content.literal spelling j).alone :=
    ⟨j, rfl, Scalar.ofJson?_eq_some_iff.2 meant⟩
  exact Schema.load_eq_ok_iff_ofWire.2 ⟨_, read, Schema.ofWire_eq_ok_iff.2 written⟩

end Scalar

/-- **Literals read documents like data.**  A document that is a scalar can be loaded as a literal, in
both spellings.  Unless it is the document of a `bigInt`, the literal accepts the data that is equal to
the document itself, read as data: the document first of all, and any other one just if both denote the
same string, the same boolean or numbers with the same nearest binary64 number.  A `bigInt` accepts
nothing that comes from a document. -/
theorem literals_read_like_data (j : Json) (scalar : Scalar)
    (read : Scalar.ofJson? j = some scalar) :
    (∀ spelling : LiteralSpelling,
      Schema.load (.object [(spelling.keyword.name, j)]) = .ok (.literal scalar spelling) ∧
      ∀ v, (Schema.literal scalar spelling).accepts v = scalar.accepts v) ∧
    (∀ k, scalar.accepts (.ofJson k) = true ↔
      ¬ j.IsBigInt ∧ (Value.ofJson j == Value.ofJson k) = true) ∧
    (∀ k, scalar.accepts (.ofJson k) = true ↔ j.SameScalar k) ∧
    (¬ j.IsBigInt → scalar.accepts (.ofJson j) = true) ∧
    (j.IsBigInt → ∀ k, scalar.accepts (.ofJson k) = false) := by
  have meant := Scalar.ofJson?_eq_some_iff.1 read
  exact ⟨fun spelling => ⟨meant.load_literal spelling, Schema.accepts_literal scalar spelling⟩,
    meant.accepts_iff, meant.accepts_iff_sameScalar, meant.accepts_itself,
    meant.rejects_of_isBigInt⟩

/-- The first integer that is no binary64 number, as a literal: it accepts the float next to it. -/
theorem literals_read_like_data_rounded :
    let odd := Json.number (.integer 9007199254740993 (by decide))
    let even := Json.number (.float ⟨false, 0x10_0000_0000_0000, 1, by decide⟩)
    ∃ scalar, Scalar.ofJson? odd = some scalar ∧ ¬ odd.IsBigInt ∧
      Schema.load (.object [("match", odd)]) = .ok (.literal scalar .matching) ∧
      scalar.accepts (.ofJson odd) = true ∧ scalar.accepts (.ofJson even) = true ∧
      odd.SameScalar even := by
  intro odd even
  have read : Scalar.ofJson? odd = some _ := rfl
  obtain ⟨loaded, equal, same, itself, -⟩ := literals_read_like_data odd _ read
  have noBigInt : ¬ odd.IsBigInt := by
    simp [odd, Json.IsBigInt]
  have agree : (Value.ofJson odd == Value.ofJson even) = true := by decide
  have accepted := (equal even).2 ⟨noBigInt, agree⟩
  exact ⟨_, read, noBigInt, (loaded .matching).1, itself noBigInt, accepted, (same even).1 accepted⟩

end Conformance
