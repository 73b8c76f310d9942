import Conformance.Decimal.Basic
import Conformance.Pointer
import Mathlib.Tactic.Common

/-!
# Reading pointers

A pointer travels as text.  Who receives the text splits it at the slashes, takes the escapes back
and has the tokens.

* `Pointer.read?` reads the text of a pointer, and **`Pointer.read?_write` says that nothing is lost
  on the way**.
* `Pointer.index?` reads a token as the index of an element, written without zeros in front;
  `Pointer.index?_digitsOf` is the same fact for it.
-/

namespace Conformance

/-! ## The text of a pointer -/

namespace Pointer

/-- The characters that a written token stands for.  A tilde stands for nothing by itself. -/
def unescape? : List Char → Option (List Char)
  | [] => some []
  | '~' :: '0' :: rest => (unescape? rest).map ('~' :: ·)
  | '~' :: '1' :: rest => (unescape? rest).map ('/' :: ·)
  | c :: rest => if c = '~' then none else (unescape? rest).map (c :: ·)

/-- The pointer that a text is: empty, or with a slash before each token. -/
def read? (text : String) : Option Pointer :=
  match text.toList.splitOn '/' with
  | [] :: tokens => (tokens.mapM unescape?).map fun tokens => ⟨tokens.map String.ofList⟩
  | _ => none

lemma unescape?_flatMap_escape (token : List Char) :
    unescape? (token.flatMap escape) = some token := by
  induction token with
  | nil => rfl
  | cons c rest ih =>
    rw [List.flatMap_cons, escape]
    split
    · rename_i tilde
      rw [tilde, List.cons_append, List.cons_append, List.nil_append, unescape?, ih]
      rfl
    · split
      · rename_i slash
        rw [slash, List.cons_append, List.cons_append, List.nil_append, unescape?, ih]
        rfl
      · rename_i notTilde notSlash
        rw [List.singleton_append, unescape?, if_neg notTilde, ih]
        · rfl
        all_goals
          rintro other ⟨⟩
          exact absurd rfl notTilde

lemma slash_not_mem_flatMap_escape (token : List Char) : '/' ∉ token.flatMap escape := by
  intro mem
  obtain ⟨c, -, written⟩ := List.mem_flatMap.1 mem
  rw [escape] at written
  split at written
  · simp at written
  · split at written
    · simp at written
    · rename_i notSlash
      exact notSlash (List.mem_singleton.1 written).symm

/-- Tokens with a slash before each are pieces with slashes between, the first piece empty. -/
lemma intercalate_slash (first : List Char) (pieces : List (List Char)) :
    ['/'].intercalate (first :: pieces) = first ++ pieces.flatMap ('/' :: ·) := by
  induction pieces generalizing first with
  | nil => simp [List.intercalate]
  | cons piece rest ih =>
    rw [List.intercalate_cons_cons, ih, List.flatMap_cons, List.append_assoc]
    rfl

lemma mapM_unescape? (tokens : List String) :
    (tokens.map fun token => token.toList.flatMap escape).mapM unescape? =
      some (tokens.map String.toList) := by
  induction tokens with
  | nil => rfl
  | cons token rest ih =>
    rw [List.map_cons, List.mapM_cons, unescape?_flatMap_escape, ih]
    rfl

/-- **A pointer is read back from its text.** -/
theorem read?_write (pointer : Pointer) : read? pointer.write = some pointer := by
  let pieces := pointer.tokens.map fun token => token.toList.flatMap escape
  have whole : pointer.tokens.flatMap writeToken = ['/'].intercalate ([] :: pieces) := by
    rw [intercalate_slash, List.nil_append, List.flatMap_map]
    rfl
  have split : pointer.write.toList.splitOn '/' = [] :: pieces := by
    rw [write, String.toList_ofList, whole]
    refine List.splitOn_intercalate '/' (fun piece mem => ?_) (List.cons_ne_nil _ _)
    rcases List.mem_cons.1 mem with rfl | later
    · exact List.not_mem_nil
    · obtain ⟨token, -, rfl⟩ := List.mem_map.1 later
      exact slash_not_mem_flatMap_escape _
  rw [read?, split]
  show ((pieces.mapM unescape?).map _) = _
  rw [mapM_unescape?]
  simp

/-! ## Indices as tokens -/

/-- The index that a token is, without zeros in front. -/
def index? (token : String) : Option Nat :=
  match token.toList with
  | [] => none
  | ['0'] => some 0
  | '0' :: _ => none
  | digits => if digits.all Char.isDigit then some (Decimal.ofDigits digits) else none

lemma head?_toDigits_ne_zero (n : Nat) (pos : 0 < n) : (Nat.toDigits 10 n).head? ≠ some '0' := by
  induction n using Nat.strongRecOn with
  | ind n ih =>
    rw [Nat.toDigits_eq_if (by decide)]
    split
    · rename_i small
      have single : ∀ digit < 10, 0 < digit → [Nat.digitChar digit].head? ≠ some '0' := by decide
      exact single n small pos
    · rename_i large
      obtain ⟨first, rest, digits⟩ :=
        List.exists_cons_of_ne_nil (Nat.toDigits_ne_nil (n := n / 10) (b := 10))
      have not_zero := ih (n / 10) (by omega) (by omega)
      rw [digits] at not_zero ⊢
      exact not_zero

/-- **An index is read back from its digits.** -/
lemma index?_digitsOf (i : Nat) : index? (String.ofList (Decimal.digitsOf i)) = some i := by
  rw [index?, String.toList_ofList, Decimal.digitsOf]
  split
  · rename_i empty
    exact absurd empty Nat.toDigits_ne_nil
  · rename_i zero
    have read := Nat.ofDigitChars_ten_toDigits (n := i)
    rw [zero] at read
    rw [← read]
    rfl
  · rename_i rest more zeroInFront
    have pos : 0 < i := by
      rcases Nat.eq_zero_or_pos i with rfl | pos
      · rw [Nat.toDigits_zero] at zeroInFront
        exact (more (List.cons.inj zeroInFront).2.symm).elim
      · exact pos
    refine absurd ?_ (head?_toDigits_ne_zero i pos)
    rw [zeroInFront, List.head?_cons]
  · have all_digits : (Nat.toDigits 10 i).all Char.isDigit = true :=
      List.all_eq_true.2 fun c mem => Nat.isDigit_of_mem_toDigits (by decide) (by decide) mem
    rw [if_pos all_digits]
    exact congrArg some Nat.ofDigitChars_ten_toDigits

end Pointer

end Conformance
