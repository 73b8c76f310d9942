import Conformance.Proofs.Json.Same
import Conformance.Proofs.Value.Equality
import Conformance.Proofs.Value.Parts
import Conformance.Value.Json

/-!
# Normal values

A document does not hold all that a value holds.  What it does hold is the normal form of the value
(`Value.normalize`): **fields that hold `undefined` are gone, any other `undefined` and all numbers that
are not finite are `null`, and a `bigInt` is the number nearest to it**.  Everything else is kept, in
order.

* `ofJson_toJson`: the document of a value is read back as the normal form, apart from the signs of
  zeros (`Value.unsignZeros`), which no equality shows (`unsignZeros_beq`).
* **`normalize_beq_of_same_toJson`**: values whose documents are the same have equal normal forms.
-/

namespace Conformance

namespace Value

/-! ## The normal form -/

mutual

/-- What a document holds of a value. -/
def normalize : Value → Value
  | undefined => null
  | null => null
  | bool b => bool b
  | number x => if x.isFinite then number x else null
  | bigInt n => number (Binary64.ofInt n.toInt)
  | string s => string s
  | array elements => array (normalizeElements elements)
  | object fields => object (normalizeFields fields)

/-- `normalize` on the elements of an array. -/
def normalizeElements : List Value → List Value
  | [] => []
  | element :: rest => element.normalize :: normalizeElements rest

/-- `normalize` on the contents of fields, without those that hold `undefined`. -/
def normalizeFields : List (String × Value) → List (String × Value)
  | [] => []
  | (name, content) :: rest =>
    if content.isUndefined then normalizeFields rest
    else (name, content.normalize) :: normalizeFields rest

end

mutual

/-- The value with the positive zero in place of the negative one. -/
def unsignZeros : Value → Value
  | number x => number x.unsignZero
  | array elements => array (unsignZerosElements elements)
  | object fields => object (unsignZerosFields fields)
  | other => other

/-- `unsignZeros` on the elements of an array. -/
def unsignZerosElements : List Value → List Value
  | [] => []
  | element :: rest => element.unsignZeros :: unsignZerosElements rest

/-- `unsignZeros` on the contents of fields. -/
def unsignZerosFields : List (String × Value) → List (String × Value)
  | [] => []
  | (name, content) :: rest => (name, content.unsignZeros) :: unsignZerosFields rest

end

/-! ## Lists of parts -/

/-- The fields that hold something. -/
def held (fields : List (String × Value)) : List (String × Value) :=
  fields.filter fun field => !field.2.isUndefined

lemma eq_undefined_of_isUndefined {v : Value} (undefined : v.isUndefined = true) :
    v = .undefined := by
  cases v with
  | undefined => rfl
  | _ => cases undefined

lemma held_cons (name : String) (content : Value) (rest : List (String × Value)) :
    held ((name, content) :: rest) =
      if content.isUndefined then held rest else (name, content) :: held rest := by
  rw [held, List.filter_cons]
  cases content.isUndefined <;> rfl

lemma normalizeElements_eq_map (elements : List Value) :
    normalizeElements elements = elements.map normalize := by
  induction elements with
  | nil => rfl
  | cons element rest ih => rw [normalizeElements, ih, List.map_cons]

lemma normalizeFields_eq (fields : List (String × Value)) :
    normalizeFields fields = Entries.mapContents normalize (held fields) := by
  induction fields with
  | nil => rfl
  | cons field rest ih =>
    obtain ⟨name, content⟩ := field
    rw [normalizeFields, ih, held_cons]
    split <;> rfl

lemma toJsonFields_eq (fields : List (String × Value)) :
    toJsonFields fields = Entries.mapContents toJson (held fields) := by
  induction fields with
  | nil => rfl
  | cons field rest ih =>
    obtain ⟨name, content⟩ := field
    rw [toJsonFields, ih, held_cons]
    split <;> rfl

lemma unsignZerosElements_eq_map (elements : List Value) :
    unsignZerosElements elements = elements.map unsignZeros := by
  induction elements with
  | nil => rfl
  | cons element rest ih => rw [unsignZerosElements, ih, List.map_cons]

lemma unsignZerosFields_eq (fields : List (String × Value)) :
    unsignZerosFields fields = Entries.mapContents unsignZeros fields := by
  induction fields with
  | nil => rfl
  | cons field rest ih =>
    rw [unsignZerosFields, ih]
    rfl

lemma ofJsonElements_eq_map (elements : List Json) :
    ofJsonElements elements = elements.map ofJson := by
  induction elements with
  | nil => rfl
  | cons element rest ih => rw [ofJsonElements, ih, List.map_cons]

lemma ofJsonMembers_eq (members : List (String × Json)) :
    ofJsonMembers members = Entries.mapContents ofJson members := by
  induction members with
  | nil => rfl
  | cons member rest ih =>
    rw [ofJsonMembers, ih]
    rfl

/-! ## Signs of zeros -/

/-- **Signs of zeros make no difference to equality.** -/
theorem unsignZeros_beq (v w : Value) : v.unsignZeros.beq w.unsignZeros = v.beq w := by
  induction v using parts_induction generalizing w with
  | undefined => cases w <;> rfl
  | null => cases w <;> rfl
  | bool b => cases w <;> rfl
  | number x =>
    cases w with
    | number y =>
      show (x.unsignZero == y.unsignZero) = (x == y)
      rw [Binary64.unsignZero_beq, Binary64.beq_unsignZero]
    | _ => rfl
  | bigInt n => cases w <;> rfl
  | string s => cases w <;> rfl
  | array elements ih =>
    cases w with
    | array others =>
      rw [unsignZeros, unsignZeros, unsignZerosElements_eq_map, unsignZerosElements_eq_map,
        Bool.eq_iff_iff, beq_array_iff, beq_array_iff, List.forall₂_map_left_iff,
        List.forall₂_map_right_iff]
      refine forall₂_congr_of_mem fun element mem other _ => ?_
      rw [ih element mem]
    | _ => rfl
  | object fields ih =>
    cases w with
    | object others =>
      rw [unsignZeros, unsignZeros, unsignZerosFields_eq, unsignZerosFields_eq, Bool.eq_iff_iff,
        beq_object_iff, beq_object_iff, Entries.Matches.mapContents_iff]
      constructor
      · intro same
        refine same.imp_of_mem fun field mem other equal => ?_
        rwa [← ih field mem]
      · intro same
        refine same.imp_of_mem fun field mem other equal => ?_
        rwa [ih field mem]
    | _ => rfl

/-! ## Documents of values -/

/-- A `bigInt` is small enough to be rounded to a finite number. -/
lemma abs_toInt_le (n : Int64) : |n.toInt| ≤ 2 ^ 64 := by
  have least := n.le_toInt
  have greatest := n.toInt_lt
  rw [abs_le]
  omega

/-- **The document of a value is read back as the normal form of the value**, apart from the signs of
zeros. -/
theorem ofJson_toJson (v : Value) : ofJson v.toJson = v.normalize.unsignZeros := by
  induction v using parts_induction with
  | undefined => rfl
  | null => rfl
  | bool b => rfl
  | number x =>
    cases x with
    | finite x =>
      show ofJson (.number (.ofFinite x)) = number (.finite x.unsignZero)
      rw [ofJson, Json.Number.toBinary64_ofFinite]
    | _ => rfl
  | bigInt n =>
    show number (Binary64.ofInt n.toInt) = number (Binary64.ofInt n.toInt).unsignZero
    rw [Binary64.unsignZero_ofInt (abs_toInt_le n)]
  | string s => rfl
  | array elements ih =>
    rw [toJson, ofJson, normalize, unsignZeros, toJsonElements_eq_map, ofJsonElements_eq_map,
      normalizeElements_eq_map, unsignZerosElements_eq_map, List.map_map, List.map_map]
    exact congrArg array (List.map_congr_left ih)
  | object fields ih =>
    rw [toJson, ofJson, normalize, unsignZeros, toJsonFields_eq, ofJsonMembers_eq,
      normalizeFields_eq, unsignZerosFields_eq, Entries.mapContents_mapContents,
      Entries.mapContents_mapContents]
    refine congrArg object (Entries.mapContents_congr fun field mem => ?_)
    exact ih field (List.mem_of_mem_filter mem)

/-- The document of a value has no key twice if the value has no field twice. -/
theorem wellFormed_toJson {v : Value} (wellFormed : v.WellFormed) : v.toJson.WellFormed := by
  induction v using parts_induction with
  | number x =>
    rw [toJson, numberToJson]
    split <;> trivial
  | array elements ih =>
    rw [WellFormed, wellFormedElements_iff] at wellFormed
    rw [toJson, Json.WellFormed, Json.wellFormedElements_iff, toJsonElements_eq_map,
      List.forall_mem_map]
    exact fun element mem => ih element mem (wellFormed element mem)
  | object fields ih =>
    rw [WellFormed, wellFormedFields_iff] at wellFormed
    rw [toJson, Json.WellFormed, Json.wellFormedMembers_iff, toJsonFields_eq]
    have names : (Entries.keys (held fields)).Sublist (Entries.keys fields) :=
      List.filter_sublist.map Prod.fst
    refine ⟨?_, ?_⟩
    · rw [Entries.Distinct, Entries.keys_mapContents]
      exact wellFormed.1.sublist names
    · rw [Entries.mapContents, List.forall_mem_map]
      intro field mem
      have mem := List.mem_of_mem_filter mem
      exact ih field mem (wellFormed.2 field mem)
  | _ => trivial

/-! ## Documents that are the same -/

/-- Documents that are the same are equal values. -/
theorem ofJson_beq_of_same {j k : Json} (wellFormed : j.WellFormed) (same : j.Same k) :
    (ofJson j).beq (ofJson k) = true := by
  induction j using Json.parts_induction generalizing k with
  | null =>
    cases same
    rfl
  | bool b =>
    cases same
    exact beq_self_eq_true b
  | number n =>
    cases same with
    | number same => exact Binary64.beq_iff_equal.2 same.equal_toBinary64
  | string s =>
    cases same
    exact beq_self_eq_true s
  | array elements ih =>
    cases same with
    | array each =>
      rw [ofJson, ofJson, ofJsonElements_eq_map, ofJsonElements_eq_map, beq_array_iff,
        List.forall₂_map_left_iff, List.forall₂_map_right_iff]
      exact forall₂_imp_of_mem each fun element mem other _ same =>
        ih element mem (wellFormed.element element mem) same
  | object members ih =>
    cases same with
    | @object _ _ others names contents reordered =>
      have matched := (Json.Same.object names contents reordered).matches wellFormed.1
      rw [ofJson, ofJson, ofJsonMembers_eq, ofJsonMembers_eq, beq_object_iff,
        Entries.Matches.mapContents_iff]
      exact matched.imp_of_mem fun member mem other same =>
        ih member mem (wellFormed.member member mem) same

/-- **Values with the same document have equal normal forms.** -/
theorem normalize_beq_of_same_toJson {v w : Value} (wellFormed : v.WellFormed)
    (same : v.toJson.Same w.toJson) : v.normalize.beq w.normalize = true := by
  rw [← unsignZeros_beq, ← ofJson_toJson, ← ofJson_toJson]
  exact ofJson_beq_of_same (wellFormed_toJson wellFormed) same

end Value

end Conformance
