/-!
# Quoted strings

The strings of JSON text: characters between double quotes, with backslash escapes.

* `Quoted.write` escapes what must be escaped and nothing else: the quote, the backslash and the
  control characters below U+0020.  **Every other character stands for itself**, U+007F and all
  characters beyond ASCII included.
* `Quoted.read` takes the text after an opening quote, up to the closing one.  It accepts more than
  is written: `\/`, and any character as `\u` and four hexadecimal digits, where a character beyond
  U+FFFF is a pair of surrogates.  **A surrogate on its own is refused**, and so is a raw control
  character.
-/

namespace Conformance.Text.Quoted

/-! ## Writing -/

/-- The hexadecimal digit of a number below sixteen, in lower case. -/
def hexDigit (n : Nat) : Char :=
  if n < 10 then Char.ofNat ('0'.toNat + n) else Char.ofNat ('a'.toNat + (n - 10))

/-- A character as it is written inside quotes. -/
def escape (c : Char) : List Char :=
  match c with
  | '"' => ['\\', '"']
  | '\\' => ['\\', '\\']
  | '\x08' => ['\\', 'b']
  | '\x0c' => ['\\', 'f']
  | '\n' => ['\\', 'n']
  | '\r' => ['\\', 'r']
  | '\t' => ['\\', 't']
  | c =>
    if c.toNat < 0x20 then ['\\', 'u', '0', '0', hexDigit (c.toNat / 16), hexDigit (c.toNat % 16)]
    else [c]

/-- A string in quotes. -/
def write (s : String) : String :=
  String.ofList ('"' :: s.toList.flatMap escape ++ ['"'])

/-! ## Reading -/

/-- The value of a hexadecimal digit of either case. -/
def hexValue? (c : Char) : Option Nat :=
  if '0' ≤ c ∧ c ≤ '9' then some (c.toNat - '0'.toNat)
  else if 'a' ≤ c ∧ c ≤ 'f' then some (c.toNat - 'a'.toNat + 10)
  else if 'A' ≤ c ∧ c ≤ 'F' then some (c.toNat - 'A'.toNat + 10)
  else none

/-- The code unit that four hexadecimal digits stand for. -/
def codeUnit? (a b c d : Char) : Option Nat := do
  let a ← hexValue? a
  let b ← hexValue? b
  let c ← hexValue? c
  let d ← hexValue? d
  some (((a * 16 + b) * 16 + c) * 16 + d)

/-- Code units that open a pair of surrogates. -/
def isHighSurrogate (unit : Nat) : Bool :=
  0xD800 ≤ unit && unit ≤ 0xDBFF

/-- Code units that close a pair of surrogates. -/
def isLowSurrogate (unit : Nat) : Bool :=
  0xDC00 ≤ unit && unit ≤ 0xDFFF

/-- The character that a pair of surrogates stands for. -/
def ofSurrogates (high low : Nat) : Char :=
  Char.ofNat (0x10000 + (high - 0xD800) * 0x400 + (low - 0xDC00))

/-- The character of a one-letter escape. -/
def unescape? : Char → Option Char
  | '"' => some '"'
  | '\\' => some '\\'
  | '/' => some '/'
  | 'b' => some '\x08'
  | 'f' => some '\x0c'
  | 'n' => some '\n'
  | 'r' => some '\r'
  | 't' => some '\t'
  | _ => none

/-- Reads up to the closing quote, after the characters `done` (last first).  Gives the string and
what follows the quote. -/
def readAfter (done : List Char) : List Char → Option (String × List Char)
  | [] => none
  | '"' :: rest => some (String.ofList done.reverse, rest)
  | '\\' :: 'u' :: a :: b :: c :: d :: rest =>
    match codeUnit? a b c d with
    | none => none
    | some unit =>
      if isHighSurrogate unit then
        match rest with
        | '\\' :: 'u' :: e :: f :: g :: h :: rest =>
          match codeUnit? e f g h with
          | none => none
          | some low =>
            if isLowSurrogate low then readAfter (ofSurrogates unit low :: done) rest else none
        | _ => none
      else if isLowSurrogate unit then
        none
      else
        readAfter (Char.ofNat unit :: done) rest
  | '\\' :: letter :: rest =>
    match unescape? letter with
    | none => none
    | some c => readAfter (c :: done) rest
  | c :: rest => if c.toNat < 0x20 then none else readAfter (c :: done) rest

/-- Reads the text after an opening quote. -/
def read (cs : List Char) : Option (String × List Char) :=
  readAfter [] cs

/-- A string takes at least its closing quote. -/
theorem length_lt_of_readAfter {done cs rest : List Char} {s : String}
    (h : readAfter done cs = some (s, rest)) : rest.length < cs.length := by
  fun_induction readAfter done cs <;> simp_all <;> omega

theorem length_lt_of_read {cs rest : List Char} {s : String}
    (h : read cs = some (s, rest)) : rest.length < cs.length :=
  length_lt_of_readAfter h

end Conformance.Text.Quoted
