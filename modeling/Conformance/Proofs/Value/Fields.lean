import Conformance.Proofs.Value.Normal

/-!
# Values with some of their fields

`Value.restrict` keeps the fields that pass a test and drops all others, in every object at every depth.
Nothing but fields is ever dropped: the elements of an array keep their places, whatever they are.

* `present?_restrict`: a field that is present stays present if its name passes the test with any
  content.  Fields that hold `undefined` are not present, and **it does not matter whether they pass**.
* `Value.compact` is the restriction to fields that hold something.  **The document of a value is that
  of its compact form** (`toJson_compact`), and so is its text in messages.
-/

namespace Conformance

/-- With distinct names, what is found among the entries that pass a test is what is found among all
of them, if it passes. -/
lemma Entries.lookup_filter {α : Type} {entries : Entries α} (distinct : Distinct entries)
    (keep : String → α → Bool) (name : String) :
    (entries.filter fun entry => keep entry.1 entry.2).lookup name =
      (entries.lookup name).filter (keep name) := by
  induction entries with
  | nil => rfl
  | cons entry rest ih =>
    obtain ⟨key, a⟩ := entry
    obtain ⟨new, distinct_rest⟩ := List.nodup_cons.1 distinct
    rw [List.filter_cons, lookup_cons]
    by_cases same : name = key
    · subst same
      have others : rest.lookup name = none := lookup_eq_none_iff.2 new
      rw [if_pos rfl, Option.filter_some]
      split
      · rw [lookup_cons, if_pos rfl]
      · rw [ih distinct_rest, others, Option.filter_none]
    · rw [if_neg same]
      split
      · rw [lookup_cons, if_neg same, ih distinct_rest]
      · exact ih distinct_rest

namespace Value

mutual

/-- The value with those fields only that pass a test, at every depth. -/
def restrict (keep : String → Value → Bool) : Value → Value
  | array elements => array (restrictElements keep elements)
  | object fields => object (restrictFields keep fields)
  | other => other

/-- `restrict` on the elements of an array. -/
def restrictElements (keep : String → Value → Bool) : List Value → List Value
  | [] => []
  | element :: rest => element.restrict keep :: restrictElements keep rest

/-- The fields that pass the test, with `restrict` on their contents. -/
def restrictFields (keep : String → Value → Bool) :
    List (String × Value) → List (String × Value)
  | [] => []
  | (name, content) :: rest =>
    if keep name content then (name, content.restrict keep) :: restrictFields keep rest
    else restrictFields keep rest

end

section Restrict

variable {keep : String → Value → Bool}

lemma restrictElements_eq_map (elements : List Value) :
    restrictElements keep elements = elements.map (restrict keep) := by
  induction elements with
  | nil => rfl
  | cons element rest ih => rw [restrictElements, ih, List.map_cons]

lemma restrictFields_eq (fields : List (String × Value)) :
    restrictFields keep fields =
      Entries.mapContents (restrict keep) (fields.filter fun field => keep field.1 field.2) := by
  induction fields with
  | nil => rfl
  | cons field rest ih =>
    obtain ⟨name, content⟩ := field
    rw [restrictFields, ih, List.filter_cons]
    split <;> rfl

@[simp] lemma isUndefined_restrict (value : Value) :
    (value.restrict keep).isUndefined = value.isUndefined := by
  cases value <;> rfl

@[simp] lemma typeName_restrict (value : Value) :
    (value.restrict keep).typeName = value.typeName := by
  cases value <;> rfl

/-- **A present field stays present**, restricted itself, if its name passes with any content. -/
lemma present?_restrict {fields : List (String × Value)} (distinct : Entries.Distinct fields)
    {name : String} (kept : ∀ content : Value, content.isUndefined = false → keep name content) :
    present? (restrictFields keep fields) name = (present? fields name).map (restrict keep) := by
  rw [present?, present?, restrictFields_eq, Entries.lookup_mapContents,
    Entries.lookup_filter distinct]
  cases fields.lookup name with
  | none => rfl
  | some content =>
    cases undefined : content.isUndefined with
    | false => simp [Option.filter_some, undefined, kept content undefined]
    | true =>
      rw [Option.filter_some, Option.filter_some]
      split <;> simp [undefined]

/-- No field stands twice if none did before. -/
lemma wellFormed_restrict {value : Value} (wellFormed : value.WellFormed) :
    (value.restrict keep).WellFormed := by
  induction value using parts_induction with
  | array elements ih =>
    rw [WellFormed, wellFormedElements_iff] at wellFormed
    rw [restrict, WellFormed, wellFormedElements_iff, restrictElements_eq_map, List.forall_mem_map]
    intro element mem
    exact ih element mem (wellFormed element mem)
  | object fields ih =>
    rw [WellFormed, wellFormedFields_iff] at wellFormed
    rw [restrict, WellFormed, wellFormedFields_iff, restrictFields_eq]
    refine ⟨?_, ?_⟩
    · rw [Entries.Distinct, Entries.keys_mapContents]
      exact wellFormed.1.sublist (List.filter_sublist.map Prod.fst)
    · rw [Entries.mapContents, List.forall_mem_map]
      intro field mem
      have mem := List.mem_of_mem_filter mem
      exact ih field mem (wellFormed.2 field mem)
  | _ => exact wellFormed

end Restrict

/-! ## The compact form -/

/-- The value without the fields that hold `undefined`, at every depth.  An `undefined` that is no
field stays where it is. -/
def compact (value : Value) : Value :=
  value.restrict fun _ content => !content.isUndefined

@[simp] lemma isUndefined_compact (value : Value) : value.compact.isUndefined = value.isUndefined :=
  value.isUndefined_restrict

@[simp] lemma typeName_compact (value : Value) : value.compact.typeName = value.typeName :=
  value.typeName_restrict

/-- The fields of a compact object hold something already. -/
lemma held_mapContents_held {f : Value → Value} (same : ∀ value, (f value).isUndefined = value.isUndefined)
    (fields : List (String × Value)) :
    held (Entries.mapContents f (held fields)) = Entries.mapContents f (held fields) := by
  rw [held, List.filter_eq_self, Entries.mapContents, List.forall_mem_map]
  intro field mem
  rw [same]
  exact (List.mem_filter.1 mem).2

/-- **The document of a value does not show the fields that hold `undefined`.** -/
theorem toJson_compact (value : Value) : value.compact.toJson = value.toJson := by
  induction value using parts_induction with
  | array elements ih =>
    rw [compact, restrict, toJson, toJson, restrictElements_eq_map, toJsonElements_eq_map,
      toJsonElements_eq_map, List.map_map]
    exact congrArg Json.array (List.map_congr_left ih)
  | object fields ih =>
    have kept : restrictFields (fun _ content => !content.isUndefined) fields =
        Entries.mapContents compact (held fields) := restrictFields_eq fields
    rw [compact, restrict, toJson, toJson, kept, toJsonFields_eq, toJsonFields_eq,
      held_mapContents_held isUndefined_compact, Entries.mapContents_mapContents]
    refine congrArg Json.object (Entries.mapContents_congr ?_)
    intro field mem
    exact ih field (List.mem_of_mem_filter mem)
  | _ => rfl

/-- The text of a value in messages does not show them either. -/
lemma display_compact (value : Value) : value.compact.display = value.display := by
  rw [display, display, isUndefined_compact, text, text, toJson_compact]

end Value

end Conformance
