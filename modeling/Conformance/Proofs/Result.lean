import Conformance.Check.Limit
import Conformance.Proofs.Correspondence

/-!
# Results that may fail

A step of a computation that may fail is opened from its outcome: `bind_eq_ok_iff` and
`map_eq_ok_iff` say what was computed before when the outcome is a success, `map_eq_error_iff` where
the error comes from when it is none.  A result that cannot fail is a success (`ok_certain`).

The error of a result (`errorOf?`) may be followed instead of the result: **of two steps the first one
has the error, unless there is none** (`errorOf?_bind`).

A list that is computed entry by entry holds the results at the entries (`mapM_eq_ok_iff`) and depends
on them alone (`mapM_eq_mapM_of_map_eq`).  It **is there if all of them are** (`exists_mapM_eq_ok_iff`).
-/

namespace Conformance

variable {ε α β : Type}

@[simp] lemma ok_bind (a : α) (next : α → Except ε β) : (Except.ok a >>= next) = next a := rfl

@[simp] lemma error_bind (e : ε) (next : α → Except ε β) :
    (Except.error e >>= next) = Except.error e := rfl

/-- Two steps succeed when the first one does and the second one does on its result. -/
lemma bind_eq_ok_iff {first : Except ε α} {next : α → Except ε β} {b : β} :
    first >>= next = .ok b ↔ ∃ a, first = .ok a ∧ next a = .ok b := by
  cases first with
  | error e => simp
  | ok a => simp

lemma map_eq_ok_iff {first : Except ε α} {f : α → β} {b : β} :
    first.map f = .ok b ↔ ∃ a, first = .ok a ∧ f a = b := by
  cases first with
  | error e => simp [Except.map]
  | ok a => simp [Except.map]

lemma map_eq_error_iff {first : Except ε α} {f : α → β} {e : ε} :
    first.map f = .error e ↔ first = .error e := by
  cases first with
  | error e => simp [Except.map]
  | ok a => simp [Except.map]

lemma map_eq_bind (first : Except ε α) (f : α → β) :
    first.map f = first >>= fun a => .ok (f a) := by
  cases first <;> rfl

/-- What fails has no result. -/
lemma exists_eq_error_iff {result : Except ε α} :
    (∃ e, result = .error e) ↔ ¬ ∃ a, result = .ok a := by
  cases result with
  | error e => simp
  | ok a => simp

lemma ok_certain (result : Except Empty α) : .ok (certain result) = result := by
  cases result with
  | ok a => rfl
  | error impossible => cases impossible

/-! ## The error of a result -/

/-- The error of a result, if it is one. -/
def errorOf? : Except ε α → Option ε
  | .ok _ => none
  | .error e => some e

lemma errorOf?_eq_some_iff {result : Except ε α} {e : ε} :
    errorOf? result = some e ↔ result = .error e := by
  cases result with
  | error e => simp [errorOf?]
  | ok a => simp [errorOf?]

lemma errorOf?_eq_none_iff {result : Except ε α} :
    errorOf? result = none ↔ ∃ a, result = .ok a := by
  cases result with
  | error e => simp [errorOf?]
  | ok a => simp [errorOf?]

@[simp] lemma errorOf?_map (result : Except ε α) (f : α → β) :
    errorOf? (result.map f) = errorOf? result := by
  cases result <;> rfl

@[simp] lemma errorOf?_bind_ok (first : Except ε α) (f : α → β) :
    (errorOf? (first >>= fun a => .ok (f a))) = errorOf? first := by
  cases first <;> rfl

/-- **The second step has a say if the first one has no error**, here with the same error whatever
the first one results in. -/
lemma errorOf?_bind {first : Except ε α} {next : α → Except ε β} {later : Option ε}
    (after : ∀ a, errorOf? (next a) = later) :
    errorOf? (first >>= next) = (errorOf? first).or later := by
  cases first with
  | error e => rfl
  | ok a => exact after a

/-! ## Lists -/

section Lists

variable {γ : Type}

lemma mapM_eq_mapM_of_map_eq {f : α → Except ε γ} {g : β → Except ε γ} {as : List α} {bs : List β}
    (same : as.map f = bs.map g) : as.mapM f = bs.mapM g := by
  have results := congrArg (List.mapM id) same
  rwa [List.mapM_map, List.mapM_map] at results

/-- A list is computed by computing all of its entries. -/
lemma mapM_eq_ok_iff {f : α → Except ε β} {as : List α} {bs : List β} :
    as.mapM f = .ok bs ↔ List.Forall₂ (fun a b => f a = .ok b) as bs := by
  induction as generalizing bs with
  | nil => simp [pure, Except.pure, eq_comm]
  | cons a as ih =>
    simp only [List.mapM_cons, bind_eq_ok_iff, ih, List.forall₂_cons_left_iff]
    constructor
    · rintro ⟨b, head, bs, tail, ⟨⟩⟩
      exact ⟨b, bs, head, tail, rfl⟩
    · rintro ⟨b, bs, head, tail, rfl⟩
      exact ⟨b, head, bs, tail, rfl⟩

/-- **A list is computed if there is a result at every entry.** -/
lemma exists_mapM_eq_ok_iff {f : α → Except ε β} {as : List α} :
    (∃ bs, as.mapM f = .ok bs) ↔ ∀ a ∈ as, ∃ b, f a = .ok b := by
  simp only [mapM_eq_ok_iff]
  exact exists_forall₂_iff

end Lists

end Conformance
