import Mathlib.Data.List.Forall2
import Mathlib.Tactic.Common

/-!
# Lists that correspond entry by entry

Readers and writers turn lists into lists, entry by entry, so that what they do to a list is
`List.Forall₂` of what they do to an entry.  The lemmas here change the relation of the entries
(`forall₂_imp_of_mem`), find a counterpart (`exists_of_mem_forall₂`) or counterparts for all
(`exists_forall₂`), carry over what entries have in common (`map_eq_map_of_forall₂`, and
`flatMap_perm_flatMap_of_forall₂` for lists in common) and take two correspondences one after the other
for one (`forall₂_comp_iff`).
-/

namespace Conformance

variable {α β γ : Type} {R S : α → β → Prop}

/-- Entries may be related in another way if it follows for those that are in the lists. -/
lemma forall₂_imp_of_mem {as : List α} {bs : List β} (each : List.Forall₂ R as bs)
    (imp : ∀ a ∈ as, ∀ b ∈ bs, R a b → S a b) : List.Forall₂ S as bs := by
  induction each with
  | nil => exact .nil
  | @cons a b as bs related _ ih =>
    refine .cons (imp a List.mem_cons_self b List.mem_cons_self related) (ih ?_)
    intro a mem b mem'
    exact imp a (List.mem_cons_of_mem _ mem) b (List.mem_cons_of_mem _ mem')

lemma forall₂_congr_of_mem {as : List α} {bs : List β}
    (same : ∀ a ∈ as, ∀ b ∈ bs, (R a b ↔ S a b)) :
    List.Forall₂ R as bs ↔ List.Forall₂ S as bs :=
  ⟨fun each => forall₂_imp_of_mem each fun a mem b mem' => (same a mem b mem').1,
    fun each => forall₂_imp_of_mem each fun a mem b mem' => (same a mem b mem').2⟩

/-- What is in the first list corresponds to something. -/
lemma exists_of_mem_forall₂ {as : List α} {bs : List β} (each : List.Forall₂ R as bs) :
    ∀ a ∈ as, ∃ b ∈ bs, R a b := by
  induction each with
  | nil => simp
  | @cons a b as bs related _ ih =>
    rw [List.forall_mem_cons]
    refine ⟨⟨b, List.mem_cons_self, related⟩, fun a mem => ?_⟩
    obtain ⟨b, mem, related⟩ := ih a mem
    exact ⟨b, List.mem_cons_of_mem _ mem, related⟩

/-- A list corresponds to another one if each of its entries corresponds to something. -/
lemma exists_forall₂ {as : List α} (each : ∀ a ∈ as, ∃ b, R a b) :
    ∃ bs, List.Forall₂ R as bs := by
  induction as with
  | nil => exact ⟨[], .nil⟩
  | cons a as ih =>
    obtain ⟨⟨b, related⟩, rest⟩ := List.forall_mem_cons.1 each
    obtain ⟨bs, rest⟩ := ih rest
    exact ⟨b :: bs, .cons related rest⟩

lemma exists_forall₂_iff {as : List α} :
    (∃ bs, List.Forall₂ R as bs) ↔ ∀ a ∈ as, ∃ b, R a b := by
  refine ⟨fun ⟨bs, each⟩ a mem => ?_, exists_forall₂⟩
  obtain ⟨b, -, related⟩ := exists_of_mem_forall₂ each a mem
  exact ⟨b, related⟩

/-- What corresponding entries have in common, the lists have in common. -/
lemma map_eq_map_of_forall₂ {f : α → γ} {g : β → γ} {as : List α} {bs : List β}
    (each : List.Forall₂ R as bs) (same : ∀ a b, R a b → f a = g b) : as.map f = bs.map g := by
  induction each with
  | nil => rfl
  | cons related _ ih => rw [List.map_cons, List.map_cons, same _ _ related, ih]

lemma filterMap_eq_filterMap_of_forall₂ {f : α → Option γ} {g : β → Option γ} {as : List α}
    {bs : List β} (each : List.Forall₂ (fun a b => f a = g b) as bs) :
    as.filterMap f = bs.filterMap g := by
  induction each with
  | nil => rfl
  | cons related _ ih => rw [List.filterMap_cons, List.filterMap_cons, related, ih]

/-- Entries that correspond to what a function makes of them are the list mapped. -/
lemma forall₂_eq_iff_map_eq {f : α → β} {as : List α} {bs : List β} :
    List.Forall₂ (fun a b => f a = b) as bs ↔ as.map f = bs := by
  rw [← List.forall₂_eq_eq_eq, List.forall₂_map_left_iff]

/-- Lists that are the same for corresponding entries, up to order, are the same taken together. -/
lemma flatMap_perm_flatMap_of_forall₂ {f : α → List γ} {g : β → List γ} {as : List α}
    {bs : List β} (each : List.Forall₂ (fun a b => (f a).Perm (g b)) as bs) :
    (as.flatMap f).Perm (bs.flatMap g) := by
  induction each with
  | nil => exact .nil
  | cons related _ ih =>
    rw [List.flatMap_cons, List.flatMap_cons]
    exact related.append ih

/-- **Two correspondences one after the other are one**, with something in the middle of each
entry. -/
lemma forall₂_comp_iff {T : β → γ → Prop} {as : List α} {cs : List γ} :
    List.Forall₂ (fun a c => ∃ b, R a b ∧ T b c) as cs ↔
      ∃ bs, List.Forall₂ R as bs ∧ List.Forall₂ T bs cs := by
  constructor
  · intro each
    induction each with
    | nil => exact ⟨[], .nil, .nil⟩
    | cons related _ ih =>
      obtain ⟨b, first, second⟩ := related
      obtain ⟨bs, firsts, seconds⟩ := ih
      exact ⟨b :: bs, .cons first firsts, .cons second seconds⟩
  · rintro ⟨bs, firsts, seconds⟩
    induction firsts generalizing cs with
    | nil =>
      cases seconds
      exact .nil
    | cons first _ ih =>
      cases seconds with
      | cons second seconds => exact .cons ⟨_, first, second⟩ (ih seconds)

end Conformance
