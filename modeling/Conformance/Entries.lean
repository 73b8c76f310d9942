/-!
# Named entries in order

The members of a JSON document, the fields of a value and the members of an object schema are lists
of named entries.  Their order is what was written, and `List.lookup` finds the first entry of a
name.

* `Entries.insert` sets the entry of a name.  **A name that is there already keeps its place and
  takes the new content**; a new name goes to the end.
* `Entries.ofList` inserts pairs one after the other, so that a repeated name counts once, at its
  first place, with its last content.
* `Entries.Distinct` says that no name occurs twice.  `distinct_ofList` gives it for what was
  inserted, and `ofList_of_distinct` says that inserting changes nothing else.
-/

namespace Conformance

/-- A list of named entries. -/
abbrev Entries (α : Type) := List (String × α)

namespace Entries

variable {α : Type}

/-- The names, in order. -/
def keys (entries : Entries α) : List String :=
  entries.map Prod.fst

/-- No name occurs twice. -/
def Distinct (entries : Entries α) : Prop :=
  (keys entries).Nodup

instance (entries : Entries α) : Decidable (Distinct entries) :=
  inferInstanceAs (Decidable (List.Nodup _))

/-- Sets the entry of a name, in place if the name is there. -/
def insert : Entries α → String → α → Entries α
  | [], key, a => [(key, a)]
  | (k, b) :: rest, key, a => if k = key then (k, a) :: rest else (k, b) :: insert rest key a

/-- The pairs inserted one after the other. -/
def ofList (pairs : List (String × α)) : Entries α :=
  pairs.foldl (fun entries pair => insert entries pair.1 pair.2) []

/-! ## Names after an insertion -/

@[simp] theorem keys_nil : keys ([] : Entries α) = [] := rfl

@[simp] theorem keys_cons (pair : String × α) (rest : Entries α) :
    keys (pair :: rest) = pair.1 :: keys rest := rfl

@[simp] theorem keys_append (left right : Entries α) :
    keys (left ++ right) = keys left ++ keys right := by
  simp [keys]

/-- An insertion adds the name at the end, unless it is there already. -/
theorem keys_insert (entries : Entries α) (key : String) (a : α) :
    keys (insert entries key a) =
      if key ∈ keys entries then keys entries else keys entries ++ [key] := by
  induction entries with
  | nil => simp [insert]
  | cons pair rest ih =>
    obtain ⟨k, b⟩ := pair
    by_cases h : k = key
    · simp [insert, h]
    · have hne : ¬ key = k := fun e => h e.symm
      simp only [insert, h, if_false, keys_cons, ih, List.mem_cons, hne, false_or]
      split <;> simp

/-- A new name goes to the end. -/
theorem insert_of_not_mem (entries : Entries α) (key : String) (a : α)
    (new : key ∉ keys entries) : insert entries key a = entries ++ [(key, a)] := by
  induction entries with
  | nil => rfl
  | cons pair rest ih =>
    obtain ⟨k, b⟩ := pair
    simp only [keys_cons, List.mem_cons, not_or] at new
    simp [insert, Ne.symm new.1, ih new.2]

theorem distinct_insert (entries : Entries α) (key : String) (a : α)
    (distinct : Distinct entries) : Distinct (insert entries key a) := by
  unfold Distinct at *
  rw [keys_insert]
  split
  · exact distinct
  · rename_i new
    rw [List.nodup_append]
    refine ⟨distinct, by simp, fun k hk k' hk' => ?_⟩
    rintro rfl
    rw [List.mem_singleton] at hk'
    exact new (hk' ▸ hk)

/-! ## What is found after an insertion -/

/-- The first entry is looked at before the others. -/
theorem lookup_cons (entries : Entries α) (key name : String) (a : α) :
    List.lookup name ((key, a) :: entries) =
      if name = key then some a else List.lookup name entries := by
  rw [List.lookup_cons]
  cases same : name == key <;> simp_all

/-- What was inserted is found under its name, and every other name finds what it found before. -/
theorem lookup_insert (entries : Entries α) (key name : String) (a : α) :
    List.lookup name (insert entries key a) =
      if name = key then some a else List.lookup name entries := by
  induction entries with
  | nil => rw [insert, lookup_cons]
  | cons pair rest ih =>
    obtain ⟨k, b⟩ := pair
    rw [insert, lookup_cons]
    split <;> rw [lookup_cons] <;> grind

/-- With distinct names every entry is found under its name. -/
theorem lookup_of_mem (entries : Entries α) (distinct : Distinct entries) {key : String} {a : α}
    (mem : (key, a) ∈ entries) : List.lookup key entries = some a := by
  induction entries with
  | nil => cases mem
  | cons pair rest ih =>
    obtain ⟨k, b⟩ := pair
    obtain ⟨unlisted, distinct⟩ := List.nodup_cons.1 distinct
    rw [lookup_cons]
    cases mem with
    | head => rw [if_pos rfl]
    | tail _ later =>
      have listed : key ∈ keys rest := List.mem_map.2 ⟨(key, a), later, rfl⟩
      have other : key ≠ k := fun same => unlisted (same ▸ listed)
      rw [if_neg other, ih distinct later]

/-! ## Inserting a whole list -/

theorem distinct_foldl_insert (pairs : List (String × α)) (entries : Entries α)
    (distinct : Distinct entries) :
    Distinct (pairs.foldl (fun entries pair => insert entries pair.1 pair.2) entries) := by
  induction pairs generalizing entries with
  | nil => exact distinct
  | cons pair rest ih => exact ih _ (distinct_insert entries pair.1 pair.2 distinct)

/-- **Inserting leaves no name twice**, whatever the pairs are. -/
theorem distinct_ofList (pairs : List (String × α)) : Distinct (ofList pairs) :=
  distinct_foldl_insert pairs [] List.nodup_nil

theorem foldl_insert_of_distinct (pairs : List (String × α)) (entries : Entries α)
    (distinct : Distinct (entries ++ pairs)) :
    pairs.foldl (fun entries pair => insert entries pair.1 pair.2) entries = entries ++ pairs := by
  induction pairs generalizing entries with
  | nil => simp
  | cons pair rest ih =>
    have moved : entries ++ pair :: rest = (entries ++ [pair]) ++ rest := by simp
    have new : pair.1 ∉ keys entries := by
      unfold Distinct at distinct
      rw [keys_append, List.nodup_append] at distinct
      intro mem
      exact distinct.2.2 _ mem pair.1 (by simp) rfl
    rw [List.foldl_cons, insert_of_not_mem _ _ _ new, ih _ (moved ▸ distinct), moved]

/-- Distinct names are kept as they are. -/
theorem ofList_of_distinct (pairs : List (String × α)) (distinct : Distinct pairs) :
    ofList pairs = pairs := by
  simpa [ofList] using foldl_insert_of_distinct pairs [] (by simpa using distinct)

theorem foldl_insert_eq_nil_iff (pairs : List (String × α)) (entries : Entries α) :
    pairs.foldl (fun entries pair => insert entries pair.1 pair.2) entries = [] ↔
      entries = [] ∧ pairs = [] := by
  induction pairs generalizing entries with
  | nil => simp
  | cons pair rest ih =>
    have inserted : insert entries pair.1 pair.2 ≠ [] := by
      cases entries with
      | nil => simp [insert]
      | cons first others =>
        rw [insert]
        split <;> simp
    simp [ih, inserted]

/-- Inserting makes no entries out of none, and loses not all of them. -/
theorem ofList_eq_nil_iff (pairs : List (String × α)) : ofList pairs = [] ↔ pairs = [] := by
  simp [ofList, foldl_insert_eq_nil_iff]

end Entries

end Conformance
