import Conformance.Json.Writer
import Conformance.Proofs.Json.Parts

/-!
# The characters of JSON text

Compact JSON text is in one line: **no control character is left in it** (`Json.noControls_write`), and
so no line feed, whatever the strings and keys of the document hold.  Strings have their control
characters escaped, and everything else is digits and punctuation.
-/

namespace Conformance

/-! ## Texts without control characters -/

/-- There is no control character below U+0020. -/
def Text.NoControls (cs : List Char) : Prop :=
  ∀ c ∈ cs, 0x20 ≤ c.toNat

instance (cs : List Char) : Decidable (Text.NoControls cs) :=
  List.decidableBAll _ cs

namespace Text.NoControls

lemma append {left right : List Char} (first : NoControls left) (second : NoControls right) :
    NoControls (left ++ right) :=
  List.forall_mem_append.2 ⟨first, second⟩

lemma cons {c : Char} {cs : List Char} (first : 0x20 ≤ c.toNat) (rest : NoControls cs) :
    NoControls (c :: cs) :=
  List.forall_mem_cons.2 ⟨first, rest⟩

lemma replicate {c : Char} (visible : 0x20 ≤ c.toNat) (n : Nat) :
    NoControls (List.replicate n c) := by
  intro d mem
  rwa [List.eq_of_mem_replicate mem]

lemma flatMap {f : Char → List Char} {cs : List Char} (each : ∀ c ∈ cs, NoControls (f c)) :
    NoControls (cs.flatMap f) := by
  intro d mem
  obtain ⟨c, mem, inside⟩ := List.mem_flatMap.1 mem
  exact each c mem d inside

lemma intercalate (separator : String) {texts : List String}
    (between : NoControls separator.toList) (each : ∀ text ∈ texts, NoControls text.toList) :
    NoControls (separator.intercalate texts).toList := by
  rw [String.toList_intercalate]
  induction texts with
  | nil => exact fun c mem => absurd mem List.not_mem_nil
  | cons text rest ih =>
    obtain ⟨here, later⟩ := List.forall_mem_cons.1 each
    cases rest with
    | nil => simpa using here
    | cons next rest =>
      rw [List.map_cons, List.map_cons, List.intercalate_cons_cons]
      exact (here.append between).append (ih later)

/-- A line feed is a control character. -/
lemma count_lineFeed {cs : List Char} (none : NoControls cs) : cs.count '\n' = 0 :=
  List.count_eq_zero.2 fun mem => absurd (none _ mem) (by decide)

end Text.NoControls

open Text

/-! ## Strings -/

lemma Text.Quoted.hexDigit_toNat {n : Nat} (small : n < 16) : 0x20 ≤ (hexDigit n).toNat := by
  decide +revert

lemma Text.Quoted.noControls_escape (c : Char) : NoControls (escape c) := by
  unfold escape
  split
  iterate 7 decide
  split
  · rename_i control
    have high := hexDigit_toNat (n := c.toNat / 16) (by omega)
    have low := hexDigit_toNat (n := c.toNat % 16) (by omega)
    simp [NoControls, high, low]
  · rename_i visible
    exact .cons (Nat.not_lt.1 visible) (by decide)

/-- A quoted string has no control characters, whatever the string holds. -/
lemma Text.Quoted.noControls_write (s : String) : NoControls (write s).toList := by
  rw [write, String.toList_ofList]
  exact ((NoControls.flatMap fun c _ => noControls_escape c).cons (by decide)).append (by decide)

/-! ## Numbers -/

namespace Decimal

lemma noControls_digitsOf (n : Nat) : NoControls (digitsOf n) := by
  intro c mem
  have digit : c.isDigit = true := Nat.isDigit_of_mem_toDigits (by decide : 0 < 10) (by decide) mem
  exact Nat.le_trans (by decide) (Char.isDigit_iff_toNat.1 digit).1

lemma noControls_plain {digits : List Char} (visible : NoControls digits) (place : Int) :
    NoControls (plain digits place) := by
  rw [plain]
  split
  · exact (((NoControls.replicate (by decide) _).cons (by decide)).cons (by decide)).append visible
  · split
    · exact (visible.append (.replicate (by decide) _)).append (by decide)
    · have before : NoControls (digits.take place.toNat) := fun c mem =>
        visible c (List.mem_of_mem_take mem)
      have after : NoControls (digits.drop place.toNat) := fun c mem =>
        visible c (List.mem_of_mem_drop mem)
      exact before.append (after.cons (by decide))

lemma noControls_scientific {digits : List Char} (visible : NoControls digits) (plusSign : Bool)
    (exponent : Int) : NoControls (scientific plusSign digits exponent) := by
  have sign : NoControls (if exponent < 0 then ['-'] else if plusSign then ['+'] else []) := by
    split
    · decide
    · split <;> decide
  have behind {mantissa : List Char} (visible : NoControls mantissa) :=
    (visible.append (sign.cons (c := 'e') (by decide))).append (noControls_digitsOf exponent.natAbs)
  rcases digits with _ | ⟨first, _ | ⟨second, rest⟩⟩
  · exact behind visible
  · exact behind visible
  · obtain ⟨here, later⟩ := List.forall_mem_cons.1 visible
    exact behind ((NoControls.cons (c := '.') (by decide) later).cons here)

/-- The text of a finite number has no control characters, in any layout. -/
lemma Layout.noControls_write (layout : Layout) (x : Binary64.Finite) :
    NoControls (layout.write x).toList := by
  have digits := noControls_digitsOf (shortest layout.tie x).coefficient
  have magnitude : NoControls
      (if layout.plainFrom ≤ (shortest layout.tie x).place - 1 ∧
          (shortest layout.tie x).place - 1 ≤ layout.plainUpTo then
        plain (digitsOf (shortest layout.tie x).coefficient) (shortest layout.tie x).place
      else
        scientific layout.plusSign (digitsOf (shortest layout.tie x).coefficient)
          ((shortest layout.tie x).place - 1)) := by
    split
    · exact noControls_plain digits _
    · exact noControls_scientific digits _ _
  rw [write, String.toList_ofList]
  split
  · exact magnitude.cons (by decide)
  · exact magnitude

end Decimal

namespace Json

lemma Number.noControls_write (n : Number) : NoControls n.write.toList := by
  cases n with
  | integer n inRange =>
    have digits := Decimal.noControls_digitsOf n.natAbs
    rw [write, writeInteger, String.toList_ofList]
    split
    · exact digits.cons (by decide)
    · exact digits
  | float x => exact floatLayout.noControls_write x

/-! ## Documents -/

lemma writeElements_eq_map (elements : List Json) : writeElements elements = elements.map write := by
  induction elements with
  | nil => rfl
  | cons element rest ih => rw [writeElements, ih, List.map_cons]

lemma writeMembers_eq_map (members : List (String × Json)) :
    writeMembers members =
      members.map fun member => Text.Quoted.write member.1 ++ ":" ++ member.2.write := by
  induction members with
  | nil => rfl
  | cons member rest ih => rw [writeMembers, ih, List.map_cons]

/-- **JSON text has no control characters.** -/
theorem noControls_write (j : Json) : NoControls j.write.toList := by
  induction j using parts_induction with
  | null => decide
  | bool b => cases b <;> decide
  | number n => exact n.noControls_write
  | string s => exact Text.Quoted.noControls_write s
  | array elements ih =>
    have inside := NoControls.intercalate "," (by decide) (List.forall_mem_map.2 ih)
    rw [write, bracketed, writeElements_eq_map, String.toList_append, String.toList_append]
    exact ((show NoControls "[".toList by decide).append inside).append (by decide)
  | object members ih =>
    have each : ∀ text ∈ members.map fun member =>
        Text.Quoted.write member.1 ++ ":" ++ member.2.write, NoControls text.toList := by
      refine List.forall_mem_map.2 fun member mem => ?_
      rw [String.toList_append, String.toList_append]
      exact ((Text.Quoted.noControls_write member.1).append (by decide)).append (ih member mem)
    have inside := NoControls.intercalate "," (by decide) each
    rw [write, braced, writeMembers_eq_map, String.toList_append, String.toList_append]
    exact ((show NoControls "\x7b".toList by decide).append inside).append (by decide)

end Json

end Conformance
