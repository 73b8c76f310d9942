import Conformance.Json.Numeral
import Conformance.Text.Quoted

/-!
# Reading JSON text

`Json.readFirst?` reads the value at the front of a text and gives back what follows it;
`Json.read?` wants nothing but blanks to follow.  The tree is the text as it stands: **repeated keys
are all there**, in order, for those who must see them, and `Json.parse?` is the reader for everyone
else, with the repeats resolved.

Arrays and objects may be nested in each other `maxNesting` deep.

Every reader gives back a rest that is shorter than its text (`Rest`), which is why reading ends.
-/

namespace Conformance.Json

/-- How many arrays and objects may be open at once. -/
def maxNesting : Nat := 127

/-- What follows a reader that took at least one character of `cs`. -/
abbrev Rest (cs : List Char) := { rest : List Char // rest.length < cs.length }

/-- The characters that may stand between the parts of a document. -/
def isBlank (c : Char) : Bool :=
  c == ' ' || c == '\n' || c == '\t' || c == '\r'

/-- A text without the blanks at its front. -/
def skipBlanks (cs : List Char) : List Char :=
  cs.dropWhile isBlank

theorem length_skipBlanks_le (cs : List Char) : (skipBlanks cs).length ≤ cs.length :=
  (List.dropWhile_sublist _).length_le

theorem length_lt_of_skipBlanks {cs rest : List Char} {c : Char}
    (h : skipBlanks cs = c :: rest) : rest.length < cs.length :=
  Nat.lt_of_lt_of_le (by rw [h]; exact Nat.lt_succ_self _) (length_skipBlanks_le cs)

/-- Reads a value that is neither an array nor an object. -/
def readScalar? : List Char → Option (Json × List Char)
  | '"' :: inside => do
    let (s, rest) ← Text.Quoted.read inside
    some (string s, rest)
  | 'n' :: 'u' :: 'l' :: 'l' :: rest => some (null, rest)
  | 't' :: 'r' :: 'u' :: 'e' :: rest => some (bool true, rest)
  | 'f' :: 'a' :: 'l' :: 's' :: 'e' :: rest => some (bool false, rest)
  | cs => do
    let (numeral, rest) ← Numeral.scan cs
    let n ← numeral.toNumber?
    some (number n, rest)

theorem length_lt_of_readScalar {cs rest : List Char} {j : Json}
    (h : readScalar? cs = some (j, rest)) : rest.length < cs.length := by
  unfold readScalar? at h
  split at h
  · simp only [Option.bind_eq_bind, Option.bind_eq_some_iff] at h
    obtain ⟨⟨_, _⟩, read, h⟩ := h
    obtain ⟨_, rfl⟩ := Prod.mk.inj (Option.some.inj h)
    exact Nat.lt_succ_of_lt (Text.Quoted.length_lt_of_read read)
  all_goals first
    | obtain ⟨_, rfl⟩ := Prod.mk.inj (Option.some.inj h)
      simp only [List.length_cons]
      omega
    | simp only [Option.bind_eq_bind, Option.bind_eq_some_iff] at h
      obtain ⟨⟨_, _⟩, scanned, _, _, h⟩ := h
      obtain ⟨_, rfl⟩ := Prod.mk.inj (Option.some.inj h)
      exact Numeral.length_lt_of_scan scanned

mutual

/-- Reads a value behind blanks, with room for `nesting` more open arrays and objects. -/
def readValue (nesting : Nat) (cs : List Char) : Option (Json × Rest cs) :=
  match front : skipBlanks cs with
  | '[' :: inside =>
    have opened := length_lt_of_skipBlanks front
    match nesting with
    | 0 => none
    | nesting + 1 =>
      match close : skipBlanks inside with
      | ']' :: rest =>
        some (array [], ⟨rest, Nat.lt_trans (length_lt_of_skipBlanks close) opened⟩)
      | _ => do
        let (elements, ⟨rest, taken⟩) ← readElements nesting [] inside
        some (array elements, ⟨rest, Nat.lt_trans taken opened⟩)
  | '\x7b' :: inside =>
    have opened := length_lt_of_skipBlanks front
    match nesting with
    | 0 => none
    | nesting + 1 =>
      match close : skipBlanks inside with
      | '\x7d' :: rest =>
        some (object [], ⟨rest, Nat.lt_trans (length_lt_of_skipBlanks close) opened⟩)
      | _ => do
        let (members, ⟨rest, taken⟩) ← readMembers nesting [] inside
        some (object members, ⟨rest, Nat.lt_trans taken opened⟩)
  | text =>
    match read : readScalar? text with
    | none => none
    | some (j, rest) =>
      some (j, ⟨rest, Nat.lt_of_lt_of_le (length_lt_of_readScalar read)
        (front ▸ length_skipBlanks_le cs)⟩)
termination_by 2 * cs.length

/-- Reads elements up to the closing bracket, after the elements `done` (last first). -/
def readElements (nesting : Nat) (done : List Json) (cs : List Char) :
    Option (List Json × Rest cs) := do
  let (element, ⟨rest, taken⟩) ← readValue nesting cs
  match next : skipBlanks rest with
  | ',' :: more =>
    have passed := Nat.lt_trans (length_lt_of_skipBlanks next) taken
    let (elements, ⟨rest, taken⟩) ← readElements nesting (element :: done) more
    some (elements, ⟨rest, Nat.lt_trans taken passed⟩)
  | ']' :: rest =>
    some ((element :: done).reverse, ⟨rest, Nat.lt_trans (length_lt_of_skipBlanks next) taken⟩)
  | _ => none
termination_by 2 * cs.length + 1

/-- Reads members up to the closing brace, after the members `done` (last first). -/
def readMembers (nesting : Nat) (done : List (String × Json)) (cs : List Char) :
    Option (List (String × Json) × Rest cs) :=
  match front : skipBlanks cs with
  | '"' :: inside =>
    match read : Text.Quoted.read inside with
    | none => none
    | some (key, afterKey) =>
      have named := Nat.lt_trans (Text.Quoted.length_lt_of_read read) (length_lt_of_skipBlanks front)
      match colon : skipBlanks afterKey with
      | ':' :: afterColon => do
        have marked := Nat.lt_trans (length_lt_of_skipBlanks colon) named
        let (content, ⟨rest, taken⟩) ← readValue nesting afterColon
        have taken := Nat.lt_trans taken marked
        match next : skipBlanks rest with
        | ',' :: more =>
          have passed := Nat.lt_trans (length_lt_of_skipBlanks next) taken
          let (members, ⟨rest, taken⟩) ← readMembers nesting ((key, content) :: done) more
          some (members, ⟨rest, Nat.lt_trans taken passed⟩)
        | '\x7d' :: rest =>
          some (((key, content) :: done).reverse,
            ⟨rest, Nat.lt_trans (length_lt_of_skipBlanks next) taken⟩)
        | _ => none
      | _ => none
  | _ => none
termination_by 2 * cs.length + 1

end

/-- The value at the front of a text, and what follows it. -/
def readFirst? (text : String) : Option (Json × List Char) :=
  (readValue maxNesting text.toList).map fun (j, rest) => (j, rest.1)

/-- The value that a text is, repeated keys and all. -/
def read? (text : String) : Option Json :=
  match readFirst? text with
  | some (j, rest) => if rest.all isBlank then some j else none
  | none => none

/-- The document that a text is. -/
def parse? (text : String) : Option Json :=
  (read? text).map resolve

end Conformance.Json
