import Conformance.Entries
import Conformance.Proofs.Correspondence
import Mathlib.Data.List.Nodup
import Mathlib.Data.List.Perm.Subperm

/-!
# Entries up to their order

Objects are equal when they hold the same names with equal contents, in any order.  `Entries.Matches`
is what the equalities of the library test: as many entries on both sides, and for each entry of the
first ones a related content under the same name.

**With distinct names this is a one-to-one correspondence** (`Matches.exists_perm`), so that a name
leads to related contents on both sides or to nothing on both sides (`Matches.rel_lookup`).
-/

namespace Conformance.Entries

variable {α β γ δ : Type}

/-! ## Looking up -/

lemma lookup_eq_none_iff {entries : Entries α} {name : String} :
    entries.lookup name = none ↔ name ∉ keys entries := by
  rw [List.lookup_eq_none_iff, keys, List.mem_map]
  constructor
  · rintro unequal ⟨pair, mem, rfl⟩
    simpa using unequal pair mem
  · intro not_mem pair mem
    rw [bne_iff_ne]
    rintro rfl
    exact not_mem ⟨pair, mem, rfl⟩

/-- What is found under a name is an entry. -/
lemma mem_of_lookup {entries : Entries α} {name : String} {a : α}
    (found : entries.lookup name = some a) : (name, a) ∈ entries := by
  obtain ⟨before, after, rfl, -⟩ := List.lookup_eq_some_iff.1 found
  exact List.mem_append_right before List.mem_cons_self

/-- An insertion adds no entry but its own. -/
lemma eq_or_mem_of_mem_insert {entries : Entries α} {key : String} {a : α} {entry : String × α}
    (mem : entry ∈ insert entries key a) : entry = (key, a) ∨ entry ∈ entries := by
  induction entries with
  | nil => exact Or.inl (List.mem_singleton.1 mem)
  | cons head rest ih =>
    obtain ⟨k, b⟩ := head
    rw [insert] at mem
    split at mem
    · rename_i same
      rcases List.mem_cons.1 mem with rfl | later
      · exact Or.inl (by rw [same])
      · exact Or.inr (List.mem_cons_of_mem _ later)
    · rcases List.mem_cons.1 mem with rfl | later
      · exact Or.inr List.mem_cons_self
      · exact (ih later).imp_right (List.mem_cons_of_mem _)

lemma mem_or_mem_of_mem_foldl_insert {pairs : List (String × α)} {entries : Entries α}
    {entry : String × α}
    (mem : entry ∈ pairs.foldl (fun entries pair => insert entries pair.1 pair.2) entries) :
    entry ∈ entries ∨ entry ∈ pairs := by
  induction pairs generalizing entries with
  | nil => exact Or.inl mem
  | cons pair rest ih =>
    rcases ih mem with inserted | later
    · rcases eq_or_mem_of_mem_insert inserted with rfl | before
      · exact Or.inr List.mem_cons_self
      · exact Or.inl before
    · exact Or.inr (List.mem_cons_of_mem _ later)

/-- All entries come from the pairs that were inserted. -/
lemma mem_of_mem_ofList {pairs : List (String × α)} {entry : String × α}
    (mem : entry ∈ ofList pairs) : entry ∈ pairs :=
  (mem_or_mem_of_mem_foldl_insert mem).resolve_left List.not_mem_nil

/-- Entries with all contents changed in the same way. -/
def mapContents (f : α → β) (entries : Entries α) : Entries β :=
  entries.map fun entry => (entry.1, f entry.2)

@[simp] lemma keys_mapContents (f : α → β) (entries : Entries α) :
    keys (mapContents f entries) = keys entries := by
  rw [keys, mapContents, List.map_map]
  rfl

lemma mapContents_mapContents (g : β → γ) (f : α → β) (entries : Entries α) :
    mapContents g (mapContents f entries) = mapContents (fun a => g (f a)) entries := by
  rw [mapContents, mapContents, List.map_map]
  rfl

lemma mapContents_congr {f g : α → β} {entries : Entries α}
    (same : ∀ entry ∈ entries, f entry.2 = g entry.2) :
    mapContents f entries = mapContents g entries :=
  List.map_congr_left fun entry mem => congrArg (Prod.mk entry.1) (same entry mem)

lemma lookup_mapContents (f : α → β) (entries : Entries α) (name : String) :
    (mapContents f entries).lookup name = (entries.lookup name).map f := by
  induction entries with
  | nil => rfl
  | cons entry rest ih =>
    rw [mapContents] at ih
    rw [mapContents, List.map_cons, lookup_cons, ih, lookup_cons]
    split <;> rfl

/-- Entries correspond if their names are the same and their contents correspond. -/
lemma forall₂_of_names_of_contents {R : α → β → Prop} {left : Entries α} {right : Entries β}
    (names : keys left = keys right)
    (contents : List.Forall₂ R (left.map Prod.snd) (right.map Prod.snd)) :
    List.Forall₂ (fun entry other => entry.1 = other.1 ∧ R entry.2 other.2) left right := by
  induction left generalizing right with
  | nil =>
    cases right with
    | nil => exact .nil
    | cons other right => cases names
  | cons entry left ih =>
    cases right with
    | nil => cases names
    | cons other right =>
      obtain ⟨name, names⟩ := List.cons.inj names
      cases contents with
      | cons related contents => exact .cons ⟨name, related⟩ (ih names contents)

/-! ## Matching entries -/

/-- As many entries on both sides, and for each of the first ones a related content under its name. -/
def Matches (R : α → β → Prop) (left : Entries α) (right : Entries β) : Prop :=
  left.length = right.length ∧
    ∀ entry ∈ left, ∃ b, right.lookup entry.1 = some b ∧ R entry.2 b

namespace Matches

variable {R : α → β → Prop} {S : γ → δ → Prop} {left : Entries α} {right : Entries β}

lemma mapContents_iff {f : γ → α} {g : δ → β} {left : Entries γ} {right : Entries δ} :
    Matches R (mapContents f left) (mapContents g right) ↔
      Matches (fun c d => R (f c) (g d)) left right := by
  rw [Matches, Matches, mapContents, List.forall_mem_map, List.length_map]
  simp only [lookup_mapContents, Option.map_eq_some_iff]
  simp [mapContents]

lemma imp_of_mem {R' : α → β → Prop} (same : Matches R left right)
    (imp : ∀ entry ∈ left, ∀ b, R entry.2 b → R' entry.2 b) : Matches R' left right := by
  refine ⟨same.1, fun entry mem => ?_⟩
  obtain ⟨b, found, related⟩ := same.2 entry mem
  exact ⟨b, found, imp entry mem b related⟩

/-- **Matching entries correspond one to one**, in some order of the second ones. -/
lemma exists_perm (same : Matches R left right) (distinct : Distinct left) :
    ∃ ordered, List.Forall₂ (fun entry other => entry.1 = other.1 ∧ R entry.2 other.2) left ordered ∧
      ordered.Perm right := by
  have found : ∀ entry ∈ left, ∃ other : String × β,
      other ∈ right ∧ entry.1 = other.1 ∧ R entry.2 other.2 := by
    intro entry mem
    obtain ⟨b, found, related⟩ := same.2 entry mem
    exact ⟨(entry.1, b), mem_of_lookup found, rfl, related⟩
  obtain ⟨ordered, each⟩ := exists_forall₂ found
  have names : keys left = keys ordered :=
    map_eq_map_of_forall₂ each fun entry other related => related.2.1
  have nodup : ordered.Nodup := by
    rw [Distinct, names] at distinct
    exact List.Nodup.of_map Prod.fst distinct
  have among : ordered ⊆ right := by
    intro other mem
    obtain ⟨entry, -, related⟩ := exists_of_mem_forall₂ each.flip other mem
    exact related.1
  have long : right.length ≤ ordered.length :=
    Nat.le_of_eq (same.1.symm.trans each.length_eq)
  exact ⟨ordered, each.imp fun entry other related => related.2,
    (List.subperm_of_subset nodup among).perm_of_length_le long⟩

/-- Entries that correspond one to one, in some order, are matching. -/
lemma of_perm {ordered : Entries β}
    (each : List.Forall₂ (fun entry other => entry.1 = other.1 ∧ R entry.2 other.2) left ordered)
    (reordered : ordered.Perm right) (distinct : Distinct left) : Matches R left right := by
  have names : keys left = keys ordered :=
    map_eq_map_of_forall₂ each fun entry other related => related.1
  rw [Distinct, names] at distinct
  have distinct' : Distinct right := (reordered.map Prod.fst).nodup_iff.1 distinct
  refine ⟨each.length_eq.trans reordered.length_eq, fun entry mem => ?_⟩
  obtain ⟨other, mem, name, related⟩ := exists_of_mem_forall₂ each entry mem
  exact ⟨other.2, name ▸ lookup_of_mem right distinct' (reordered.mem_iff.1 mem), related⟩

/-- The same names on both sides. -/
lemma perm_keys (same : Matches R left right) (distinct : Distinct left) :
    (keys left).Perm (keys right) := by
  obtain ⟨ordered, each, reordered⟩ := same.exists_perm distinct
  have names : keys left = keys ordered :=
    map_eq_map_of_forall₂ each fun entry other related => related.1
  rw [names]
  exact reordered.map Prod.fst

/-- **A name leads to related contents on both sides, or to nothing on both sides.** -/
lemma rel_lookup (same : Matches R left right) (distinct : Distinct left) (name : String) :
    Option.Rel R (left.lookup name) (right.lookup name) := by
  cases found : left.lookup name with
  | none =>
    rw [lookup_eq_none_iff, (same.perm_keys distinct).mem_iff, ← lookup_eq_none_iff] at found
    rw [found]
    exact .none
  | some a =>
    obtain ⟨b, found', related⟩ := same.2 (name, a) (mem_of_lookup found)
    rw [found']
    exact .some related

end Matches

end Conformance.Entries
