import Mathlib.Algebra.GroupWithZero.Nat
import Mathlib.Tactic.Common

/-!
# Lines of texts

A text is taken apart at its line feeds (`Text.lines`): **it has one line more than it has line feeds**
(`Text.length_lines`).  When texts are joined by line feeds, the lines of the whole are those of the
texts one after the other (`Text.lines_intercalate`).  So the texts can be told apart again exactly if
none of them has a line feed of its own (`Text.flatMap_lines_eq_iff`).
-/

namespace Conformance.Text

/-- The lines of a text, which line feeds stand between. -/
def lines (text : String) : List String :=
  (text.toList.splitOn '\n').map String.ofList

/-- How many line feeds a text has. -/
def lineFeeds (text : String) : Nat :=
  text.toList.count '\n'

@[simp] lemma lineFeeds_append (left right : String) :
    lineFeeds (left ++ right) = lineFeeds left + lineFeeds right := by
  simp [lineFeeds]

/-! ## How many lines there are -/

lemma length_splitOn (c : Char) (cs : List Char) : (cs.splitOn c).length = cs.count c + 1 := by
  induction cs with
  | nil => simp
  | cons head rest ih =>
    rw [List.splitOn_cons_eq_if_modifyHead, List.count_cons]
    split
    · rw [List.length_cons, ih]
    · rw [List.length_modifyHead, ih, Nat.add_zero]

/-- **There is one line more than there are line feeds.** -/
lemma length_lines (text : String) : (lines text).length = lineFeeds text + 1 := by
  rw [lines, List.length_map, length_splitOn, lineFeeds]

lemma lines_of_lineFeeds_eq_zero {text : String} (none : lineFeeds text = 0) :
    lines text = [text] := by
  rw [lines, List.splitOn_eq_singleton (List.count_eq_zero.1 none), List.map_singleton,
    String.ofList_toList]

/-! ## Joined texts -/

lemma splitOn_intercalate {c : Char} {texts : List (List Char)} (nonempty : texts ≠ []) :
    ([c].intercalate texts).splitOn c = texts.flatMap (List.splitOn c) := by
  induction texts with
  | nil => exact absurd rfl nonempty
  | cons text rest ih =>
    cases rest with
    | nil => simp
    | cons next rest =>
      have split (left right : List Char) :
          (left ++ c :: right).splitOn c = left.splitOn c ++ right.splitOn c := by
        simp only [List.splitOn_eq_splitOnP]
        exact List.splitOnP_append_cons left right (beq_self_eq_true c)
      rw [List.intercalate_cons_cons, List.append_assoc, List.singleton_append, split,
        ih (List.cons_ne_nil _ _), List.flatMap_cons (x := text)]

/-- **The lines of texts that are joined by line feeds are the lines of each of them.** -/
lemma lines_intercalate {texts : List String} (nonempty : texts ≠ []) :
    lines ("\n".intercalate texts) = texts.flatMap lines := by
  have chars : texts.map String.toList ≠ [] := by simpa using nonempty
  rw [lines, String.toList_intercalate]
  show ((['\n'].intercalate (texts.map String.toList)).splitOn '\n').map String.ofList = _
  rw [splitOn_intercalate chars, List.flatMap_map, List.map_flatMap]
  rfl

lemma length_flatMap_lines (texts : List String) :
    (texts.flatMap lines).length = texts.length + (texts.map lineFeeds).sum := by
  induction texts with
  | nil => rfl
  | cons text rest ih =>
    rw [List.flatMap_cons, List.length_append, ih, length_lines, List.length_cons, List.map_cons,
      List.sum_cons]
    omega

/-- **Texts are their own lines if they have no line feeds**, and only then. -/
lemma flatMap_lines_eq_iff {texts : List String} :
    texts.flatMap lines = texts ↔ ∀ text ∈ texts, lineFeeds text = 0 := by
  constructor
  · intro same
    have count := length_flatMap_lines texts
    rw [same] at count
    have none : (texts.map lineFeeds).sum = 0 := by omega
    exact List.forall_mem_map.1 (List.sum_eq_zero_iff_forall_eq_nat.1 none)
  · intro none
    have own : texts.map lines = texts.map fun text => [text] :=
      List.map_congr_left fun text mem => lines_of_lineFeeds_eq_zero (none text mem)
    rw [List.flatMap_def, own, ← List.flatMap_def, List.flatMap_singleton']

end Conformance.Text
