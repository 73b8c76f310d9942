import Conformance.Schema.Basic

/-!
# The mark of optional members

In a document the name of a member says whether the member may be absent: it then ends in a question
mark, which is not part of the member's key.  **At most one mark is taken off**, so that a key may
itself end in question marks as long as its member is optional.

`Member.ofName` reads such a name, and `Member.name?` writes it.  A required member whose key ends in
a question mark has no name: it would be read as optional.
-/

namespace Conformance

namespace OptionalMark

/-- A key with the mark. -/
def add (key : String) : String :=
  key ++ "?"

/-- A name without its mark, if it has one. -/
def remove? (name : String) : Option String :=
  if name.toList.getLast? = some '?' then some (String.ofList name.toList.dropLast) else none

/-- A name without its mark, or as it is. -/
def strip (name : String) : String :=
  (remove? name).getD name

theorem remove?_add (key : String) : remove? (add key) = some key := by
  have chars : (add key).toList = key.toList ++ ['?'] := by simp [add]
  simp [remove?, chars]

theorem eq_add_of_remove? {name key : String} (h : remove? name = some key) : name = add key := by
  unfold remove? at h
  split at h
  · rename_i last
    obtain ⟨before, whole⟩ := List.getLast?_eq_some_iff.1 last
    cases h
    apply String.toList_inj.1
    simp [add, whole]
  · cases h

/-- **Taking the mark off undoes adding it, and nothing else.** -/
theorem remove?_eq_some_iff {name key : String} : remove? name = some key ↔ name = add key :=
  ⟨eq_add_of_remove?, fun h => h ▸ remove?_add key⟩

end OptionalMark

namespace Member

/-- The key of a member with that name, and whether the member is required. -/
def ofName (name : String) : String × Bool :=
  match OptionalMark.remove? name with
  | some key => (key, false)
  | none => (name, true)

/-- The key of a name is the name without its mark. -/
theorem strip_eq_ofName (name : String) : OptionalMark.strip name = (ofName name).1 := by
  rw [OptionalMark.strip, ofName]
  cases OptionalMark.remove? name <;> rfl

/-- The name of a member with that key.  There is none if the member is required and its key looks
marked. -/
def name? (key : String) (required : Bool) : Option String :=
  if required then
    if (OptionalMark.remove? key).isSome then none else some key
  else
    some (OptionalMark.add key)

/-- **Names and keyed members correspond one to one.** -/
theorem name?_eq_some_iff {key name : String} {required : Bool} :
    name? key required = some name ↔ ofName name = (key, required) := by
  unfold name? ofName
  cases required with
  | false =>
    cases h : OptionalMark.remove? name with
    | none =>
      simp only [Bool.false_eq_true, if_false, Option.some.injEq, Prod.mk.injEq]
      constructor
      · rintro rfl
        rw [OptionalMark.remove?_add] at h
        cases h
      · rintro ⟨-, ⟨⟩⟩
    | some stripped =>
      have := OptionalMark.eq_add_of_remove? h
      subst this
      simp only [Bool.false_eq_true, if_false, Option.some.injEq, Prod.mk.injEq, and_true]
      constructor
      · intro same
        have := congrArg OptionalMark.remove? same
        simpa [OptionalMark.remove?_add] using this.symm
      · rintro rfl
        rfl
  | true =>
    cases h : OptionalMark.remove? name with
    | none =>
      simp only [if_true, Prod.mk.injEq, and_true]
      constructor
      · intro same
        split at same
        · cases same
        · exact (Option.some.inj same).symm
      · rintro rfl
        simp [h]
    | some stripped =>
      simp only [if_true, Prod.mk.injEq, Bool.false_eq_true, and_false, iff_false]
      intro same
      split at same
      · cases same
      · rename_i unmarked
        cases same
        simp [h] at unmarked

end Member

end Conformance
