import Conformance.Proofs.Entries
import Mathlib.Data.List.Induction

/-!
# Repeated names

Pairs that are inserted one after the other may repeat a name.  This file says what `Entries.ofList`
makes of them: **each name is there once, where it stood first** (`keys_ofList`), **with the content that
stood last** (`lookup_ofList`).  That is all there is to say, since entries with distinct names are given
by their names and by what is found under them (`filterMap_lookup_keys`).

What is done to every content or with some of the names may as well be done to the pairs
(`mapContents_ofList`, `filter_ofList`).

A list of names that is not free of repetition has a first repeated name (`exists_first_repeat`).
-/

namespace Conformance.Entries

variable {α : Type}

/-- The last pair is inserted last. -/
lemma ofList_append_singleton (pairs : List (String × α)) (pair : String × α) :
    ofList (pairs ++ [pair]) = insert (ofList pairs) pair.1 pair.2 := by
  simp [ofList]

/-- **The names are those of the pairs, each once, in the order of their first places.** -/
theorem keys_ofList (pairs : List (String × α)) :
    keys (ofList pairs) = (keys pairs).eraseDups := by
  induction pairs using List.reverseRecOn with
  | nil => rfl
  | append_singleton pairs pair ih =>
    rw [ofList_append_singleton, keys_insert, ih, keys_append, List.eraseDups_append]
    by_cases listed : pair.1 ∈ keys pairs
    · simp [listed, List.removeAll]
    · simp [listed, List.removeAll, List.eraseDups_cons]

/-- **Under a name stands the content that was inserted last.** -/
theorem lookup_ofList (pairs : List (String × α)) (name : String) :
    (ofList pairs).lookup name = pairs.reverse.lookup name := by
  induction pairs using List.reverseRecOn with
  | nil => rfl
  | append_singleton pairs pair ih =>
    rw [ofList_append_singleton, lookup_insert, ih, List.reverse_append, List.reverse_singleton,
      List.singleton_append, lookup_cons]

lemma mapContents_insert {β : Type} (f : α → β) (entries : Entries α) (key : String) (a : α) :
    mapContents f (insert entries key a) = insert (mapContents f entries) key (f a) := by
  induction entries with
  | nil => rfl
  | cons entry rest ih =>
    rw [mapContents] at ih
    rw [mapContents, mapContents, insert, List.map_cons, insert]
    split
    · rfl
    · rw [List.map_cons, ih]
      rfl

/-- Contents may be changed before they are inserted or afterwards. -/
lemma mapContents_ofList {β : Type} (f : α → β) (pairs : List (String × α)) :
    mapContents f (ofList pairs) = ofList (mapContents f pairs) := by
  induction pairs using List.reverseRecOn with
  | nil => rfl
  | append_singleton pairs pair ih =>
    rw [ofList_append_singleton, mapContents_insert, ih, mapContents, mapContents, List.map_append]
    exact (ofList_append_singleton _ (pair.1, f pair.2)).symm

lemma filter_insert (keep : String → Bool) (entries : Entries α) (key : String) (a : α) :
    (insert entries key a).filter (fun entry => keep entry.1) =
      if keep key then insert (entries.filter fun entry => keep entry.1) key a
      else entries.filter fun entry => keep entry.1 := by
  induction entries with
  | nil => cases kept : keep key <;> simp [insert, kept]
  | cons entry rest ih =>
    obtain ⟨k, b⟩ := entry
    by_cases same : k = key
    · subst same
      cases kept : keep k <;> simp [insert, kept]
    · rw [insert, if_neg same, List.filter_cons, List.filter_cons, ih]
      split <;> split <;> simp [insert, same]

/-- Names may be left out before they are inserted or afterwards. -/
lemma filter_ofList (keep : String → Bool) (pairs : List (String × α)) :
    (ofList pairs).filter (fun entry => keep entry.1) =
      ofList (pairs.filter fun entry => keep entry.1) := by
  induction pairs using List.reverseRecOn with
  | nil => rfl
  | append_singleton pairs pair ih =>
    rw [ofList_append_singleton, filter_insert, ih, List.filter_append]
    cases kept : keep pair.1 with
    | true => simp [kept, ofList_append_singleton]
    | false => simp [kept]

/-- **Entries with distinct names are what is found under their names.** -/
lemma filterMap_lookup_keys {entries : Entries α} (distinct : Distinct entries) :
    (keys entries).filterMap (fun name => (entries.lookup name).map (Prod.mk name)) = entries := by
  have found : ∀ entry ∈ entries,
      (entries.lookup entry.1).map (Prod.mk entry.1) = some entry := by
    intro entry mem
    rw [lookup_of_mem entries distinct mem, Option.map_some]
  rw [keys, List.filterMap_map]
  calc entries.filterMap (fun entry => (entries.lookup entry.1).map (Prod.mk entry.1))
      = entries.filterMap some := List.filterMap_congr found
    _ = entries := List.filterMap_some

/-- If names are repeated, one of them is the first to stand for the second time. -/
lemma exists_first_repeat {names : List String} (repeated : ¬ names.Nodup) :
    ∃ before name after, names = before ++ name :: after ∧ before.Nodup ∧ name ∈ before := by
  induction names using List.reverseRecOn with
  | nil => exact absurd List.nodup_nil repeated
  | append_singleton names last ih =>
    by_cases distinct : names.Nodup
    · refine ⟨names, last, [], rfl, distinct, ?_⟩
      by_contra new
      exact repeated (List.concat_eq_append ▸ distinct.concat new)
    · obtain ⟨before, name, after, rfl, nodup, mem⟩ := ih distinct
      exact ⟨before, name, after ++ [last], by simp, nodup, mem⟩

end Conformance.Entries
