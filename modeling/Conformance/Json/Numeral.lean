import Conformance.Json.Basic

/-!
# Numerals

The numbers of JSON text.  A `Json.Numeral` is a number as it is spelled: a sign, digits, perhaps a
fraction and perhaps an exponent.  `Numeral.scan` takes the numeral at the front of a text and
`Numeral.toNumber?` says which number it is.

**The spelling decides the kind.**  A numeral with neither fraction nor exponent is an integer if it
is in the integer range, with one exception: `-0` is the float, so that its sign is kept.  All others
are rounded to binary64 once, and those that would be infinite are no numbers.
-/

namespace Conformance.Json

/-- A number as it is spelled, in runs of digits. -/
structure Numeral where
  negative : Bool
  whole : List Char
  fraction : Option (List Char)
  /-- The sign of the exponent and its digits. -/
  exponent : Option (Bool × List Char)

namespace Numeral

/-! ## Scanning -/

/-- The digits at the front of a text. -/
def digits (cs : List Char) : List Char :=
  cs.takeWhile Char.isDigit

/-- What follows the digits at the front of a text. -/
def afterDigits (cs : List Char) : List Char :=
  cs.dropWhile Char.isDigit

theorem length_afterDigits_le (cs : List Char) : (afterDigits cs).length ≤ cs.length :=
  (List.dropWhile_sublist _).length_le

/-- At least one digit, and no zero before others. -/
def scanWhole (cs : List Char) : Option (List Char × List Char) :=
  match digits cs with
  | [] | '0' :: _ :: _ => none
  | whole => some (whole, afterDigits cs)

/-- A point needs a digit after it.  Without a point there is no fraction. -/
def scanFraction : List Char → Option (Option (List Char) × List Char)
  | '.' :: cs => if digits cs = [] then none else some (some (digits cs), afterDigits cs)
  | cs => some (none, cs)

/-- The digits of an exponent, of which there must be one, behind its sign. -/
def scanExponentDigits (negative : Bool) (cs : List Char) :
    Option (Option (Bool × List Char) × List Char) :=
  if digits cs = [] then none else some (some (negative, digits cs), afterDigits cs)

/-- An exponent is marked by `e` or `E` and may have a sign. -/
def scanExponent : List Char → Option (Option (Bool × List Char) × List Char)
  | [] => some (none, [])
  | c :: cs =>
    if c = 'e' ∨ c = 'E' then
      match cs with
      | '+' :: cs => scanExponentDigits false cs
      | '-' :: cs => scanExponentDigits true cs
      | cs => scanExponentDigits false cs
    else
      some (none, c :: cs)

/-- The numeral without its sign at the front of a text, and what follows it. -/
def scanUnsigned (negative : Bool) (cs : List Char) : Option (Numeral × List Char) := do
  let (whole, cs) ← scanWhole cs
  let (fraction, cs) ← scanFraction cs
  let (exponent, cs) ← scanExponent cs
  some (⟨negative, whole, fraction, exponent⟩, cs)

/-- The numeral at the front of a text, and what follows it. -/
def scan : List Char → Option (Numeral × List Char)
  | '-' :: cs => scanUnsigned true cs
  | cs => scanUnsigned false cs

/-! A numeral takes at least one character: the whole part takes one, and the other parts none or
more. -/

theorem length_lt_of_scanWhole {cs rest whole : List Char}
    (h : scanWhole cs = some (whole, rest)) : rest.length < cs.length := by
  unfold scanWhole at h
  split at h
  · cases h
  · cases h
  · rename_i nonempty _
    obtain ⟨_, rfl⟩ := Prod.mk.inj (Option.some.inj h)
    cases cs with
    | nil => exact absurd rfl nonempty
    | cons c cs =>
      by_cases digit : c.isDigit
      · rw [afterDigits, List.dropWhile_cons_of_pos digit]
        exact Nat.lt_succ_of_le (length_afterDigits_le cs)
      · exact absurd (List.takeWhile_cons_of_neg digit) nonempty

theorem length_le_of_scanFraction {cs rest : List Char} {fraction : Option (List Char)}
    (h : scanFraction cs = some (fraction, rest)) : rest.length ≤ cs.length := by
  unfold scanFraction at h
  split at h
  · split at h
    · cases h
    · obtain ⟨_, rfl⟩ := Prod.mk.inj (Option.some.inj h)
      exact Nat.le_succ_of_le (length_afterDigits_le _)
  · obtain ⟨_, rfl⟩ := Prod.mk.inj (Option.some.inj h)
    exact Nat.le_refl _

theorem length_le_of_scanExponentDigits {negative : Bool} {cs rest : List Char}
    {exponent : Option (Bool × List Char)}
    (h : scanExponentDigits negative cs = some (exponent, rest)) : rest.length ≤ cs.length := by
  unfold scanExponentDigits at h
  split at h
  · cases h
  · obtain ⟨_, rfl⟩ := Prod.mk.inj (Option.some.inj h)
    exact length_afterDigits_le _

theorem length_le_of_scanExponent {cs rest : List Char} {exponent : Option (Bool × List Char)}
    (h : scanExponent cs = some (exponent, rest)) : rest.length ≤ cs.length := by
  unfold scanExponent at h
  split at h
  · obtain ⟨_, rfl⟩ := Prod.mk.inj (Option.some.inj h)
    exact Nat.le_refl _
  · split at h
    · split at h <;> have := length_le_of_scanExponentDigits h <;> simp at * <;> omega
    · obtain ⟨_, rfl⟩ := Prod.mk.inj (Option.some.inj h)
      exact Nat.le_refl _

theorem length_lt_of_scanUnsigned {negative : Bool} {cs rest : List Char} {numeral : Numeral}
    (h : scanUnsigned negative cs = some (numeral, rest)) : rest.length < cs.length := by
  simp only [scanUnsigned, Option.bind_eq_bind, Option.bind_eq_some_iff] at h
  obtain ⟨⟨_, cs₁⟩, h₁, ⟨_, cs₂⟩, h₂, ⟨_, cs₃⟩, h₃, h⟩ := h
  obtain ⟨_, rfl⟩ := Prod.mk.inj (Option.some.inj h)
  exact Nat.lt_of_le_of_lt (length_le_of_scanExponent h₃)
    (Nat.lt_of_le_of_lt (length_le_of_scanFraction h₂) (length_lt_of_scanWhole h₁))

theorem length_lt_of_scan {cs rest : List Char} {numeral : Numeral}
    (h : scan cs = some (numeral, rest)) : rest.length < cs.length := by
  unfold scan at h
  split at h
  · exact Nat.lt_succ_of_lt (length_lt_of_scanUnsigned h)
  · exact length_lt_of_scanUnsigned h

/-! ## Meaning -/

/-- The magnitude of a numeral, exactly. -/
def magnitude (n : Numeral) : Decimal :=
  let fraction := n.fraction.getD []
  let exponent : Int := match n.exponent with
    | none => 0
    | some (negative, digits) =>
      if negative then -↑(Decimal.ofDigits digits) else ↑(Decimal.ofDigits digits)
  ⟨Decimal.ofDigits (n.whole ++ fraction), exponent - fraction.length⟩

/-- The float nearest to a numeral, if it is finite. -/
def toFloat? (n : Numeral) : Option Number :=
  match Binary64.ofDecimal n.negative n.magnitude with
  | .finite x => some (.float x)
  | _ => none

/-- The number that a numeral spells. -/
def toNumber? (n : Numeral) : Option Number :=
  match n.fraction, n.exponent with
  | none, none =>
    let whole : Int := Decimal.ofDigits n.whole
    let value := if n.negative then -whole else whole
    if n.negative ∧ whole = 0 then
      some (.float (.zero true))
    else if inRange : InIntegerRange value then
      some (.integer value inRange)
    else
      n.toFloat?
  | _, _ => n.toFloat?

end Numeral

end Conformance.Json
