import Conformance.Explanation.Failure
import Conformance.Proofs.Entries
import Conformance.Proofs.Pointer.Reading
import Conformance.Proofs.Value.Parts

/-!
# Following pointers

The tokens of a pointer are followed one after the other, either in a value (`Value.at?`) or in the
document that was written for the value (`Json.at?`).

**The two do not agree on all tokens**: the document lacks the fields that hold `undefined`, and
what is behind them.  `Pointer.Leads` says of one pointer that they agree, and `push_name` and
`push_index` that they still do one step further, as long as the step is to an element or to a field
that is present.  In the other direction `Value.lookup_toJsonFields_of_absent` says that the
document has nothing under the name of a field that is not present; this needs the fields to be
distinct.
-/

namespace Conformance

/-- The part of a value that a token names: a field, or the element at an index. -/
def Value.child? : Value → String → Option Value
  | object fields, token => fields.lookup token
  | array elements, token => (Pointer.index? token).bind (elements[·]?)
  | _, _ => none

/-- The part of a value that tokens lead to, one after the other. -/
def Value.at? (value : Value) (tokens : List String) : Option Value :=
  tokens.foldlM Value.child? value

/-- The part of a document that a token names: a member, or the element at an index. -/
def Json.child? : Json → String → Option Json
  | object members, token => members.lookup token
  | array elements, token => (Pointer.index? token).bind (elements[·]?)
  | _, _ => none

/-- The part of a document that tokens lead to, one after the other. -/
def Json.at? (j : Json) (tokens : List String) : Option Json :=
  tokens.foldlM Json.child? j

lemma Value.at?_push (value : Value) (path : Pointer) (token : String) :
    value.at? (path.push token).tokens = (value.at? path.tokens).bind (·.child? token) := by
  rw [Pointer.push, at?, at?, List.foldlM_append]
  simp

lemma Json.at?_push (j : Json) (path : Pointer) (token : String) :
    j.at? (path.push token).tokens = (j.at? path.tokens).bind (·.child? token) := by
  rw [Pointer.push, at?, at?, List.foldlM_append]
  simp

/-! ## The document of a value -/

namespace Value

lemma present?_eq_none_iff {fields : List (String × Value)} {name : String} :
    present? fields name = none ↔
      fields.lookup name = none ∨ fields.lookup name = some .undefined := by
  rw [present?]
  cases fields.lookup name with
  | none => simp
  | some field => cases field <;> simp [isUndefined, Option.filter_some]

lemma toJsonElements_eq_map (elements : List Value) :
    toJsonElements elements = elements.map toJson := by
  induction elements with
  | nil => rfl
  | cons element rest ih => rw [toJsonElements, ih, List.map_cons]

/-- A present field is the first one of its name in the document too. -/
lemma lookup_toJsonFields {fields : List (String × Value)} {name : String} {field : Value}
    (present : present? fields name = some field) :
    (toJsonFields fields).lookup name = some field.toJson := by
  induction fields with
  | nil => cases present
  | cons first rest ih =>
    obtain ⟨key, content⟩ := first
    rw [present?, Entries.lookup_cons] at present
    rw [toJsonFields]
    by_cases same : name = key
    · rw [if_pos same, Option.filter_some] at present
      split at present
      · rename_i holds
        cases present
        rw [if_neg (by simpa using holds), Entries.lookup_cons, if_pos same]
      · cases present
    · rw [if_neg same] at present
      split
      · exact ih present
      · rw [Entries.lookup_cons, if_neg same]
        exact ih present

lemma mem_keys_of_mem_keys_toJsonFields {fields : List (String × Value)} {name : String}
    (mem : name ∈ Entries.keys (toJsonFields fields)) : name ∈ Entries.keys fields := by
  induction fields with
  | nil => exact mem
  | cons first rest ih =>
    obtain ⟨key, content⟩ := first
    rw [toJsonFields] at mem
    rw [Entries.keys_cons, List.mem_cons]
    split at mem
    · exact Or.inr (ih mem)
    · rw [Entries.keys_cons, List.mem_cons] at mem
      exact mem.imp_right ih

/-- **A field that is not present is not in the document**, as no other field has its name. -/
lemma lookup_toJsonFields_of_absent {fields : List (String × Value)} {name : String}
    (distinct : Entries.Distinct fields) (absent : present? fields name = none) :
    (toJsonFields fields).lookup name = none := by
  induction fields with
  | nil => rfl
  | cons first rest ih =>
    obtain ⟨key, content⟩ := first
    obtain ⟨new, distinct_rest⟩ := List.nodup_cons.1 distinct
    rw [present?, Entries.lookup_cons] at absent
    rw [toJsonFields]
    by_cases same : name = key
    · rw [if_pos same, Option.filter_some] at absent
      split at absent
      · cases absent
      · rename_i undefined
        rw [if_pos (by simpa using undefined), Entries.lookup_eq_none_iff]
        intro mem
        exact new (same ▸ mem_keys_of_mem_keys_toJsonFields mem)
    · rw [if_neg same] at absent
      split
      · exact ih distinct_rest absent
      · rw [Entries.lookup_cons, if_neg same]
        exact ih distinct_rest absent

/-! ## Distinct fields along a pointer -/

lemma wellFormed_child? {value part : Value} {token : String} (wellFormed : value.WellFormed)
    (found : value.child? token = some part) : part.WellFormed := by
  cases value with
  | object fields =>
    rw [WellFormed] at wellFormed
    exact wellFormed_of_lookup wellFormed.2 found
  | array elements =>
    rw [WellFormed] at wellFormed
    obtain ⟨i, -, found⟩ := Option.bind_eq_some_iff.1 found
    exact wellFormed_of_mem wellFormed (List.mem_of_getElem? found)
  | _ => cases found

/-- Where tokens lead, no field stands twice if none does in the whole value. -/
lemma wellFormed_at? {value part : Value} {tokens : List String} (wellFormed : value.WellFormed)
    (found : value.at? tokens = some part) : part.WellFormed := by
  induction tokens generalizing value with
  | nil =>
    cases found
    exact wellFormed
  | cons token rest ih =>
    rw [at?, List.foldlM_cons] at found
    obtain ⟨child, child_found, found⟩ := Option.bind_eq_some_iff.1 found
    exact ih (wellFormed_child? wellFormed child_found) found

end Value

/-! ## Pointers that lead to the same part in both -/

/-- A pointer leads to a part of a value, and in the document of the value to the document of the
part. -/
structure Pointer.Leads (path : Pointer) (value part : Value) : Prop where
  inValue : value.at? path.tokens = some part
  inDocument : value.toJson.at? path.tokens = some part.toJson

lemma Pointer.leads_root (value : Value) : Pointer.root.Leads value value :=
  ⟨rfl, rfl⟩

/-- A present field is one name further. -/
lemma Pointer.Leads.push_name {path : Pointer} {value field : Value} {name : String}
    {fields : List (String × Value)} (leads : path.Leads value (.object fields))
    (present : Value.present? fields name = some field) : (path.push name).Leads value field := by
  constructor
  · rw [Value.at?_push, leads.inValue, Option.bind_some, Value.child?]
    exact (Option.filter_eq_some_iff.1 present).1
  · rw [Json.at?_push, leads.inDocument, Option.bind_some, Value.toJson, Json.child?]
    exact Value.lookup_toJsonFields present

/-- An element is one index further. -/
lemma Pointer.Leads.push_index {path : Pointer} {value element : Value} {i : Nat}
    {elements : List Value} (leads : path.Leads value (.array elements))
    (found : elements[i]? = some element) :
    (path.push (Step.index i).token).Leads value element := by
  constructor
  · rw [Value.at?_push, leads.inValue, Option.bind_some, Value.child?, Step.token,
      Pointer.index?_digitsOf]
    exact found
  · rw [Json.at?_push, leads.inDocument, Option.bind_some, Value.toJson, Json.child?, Step.token,
      Pointer.index?_digitsOf, Value.toJsonElements_eq_map]
    simp [found]

end Conformance
