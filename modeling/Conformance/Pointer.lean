/-!
# Pointers

A `Pointer` leads from a value to one of its parts, by the names of fields and the indices of
elements, all of them as text (`tokens`).  Its own text has a slash before each token.

**The text is unambiguous**, because a tilde inside a token is written as `~0` and a slash as `~1`.
The text of the pointer to the whole value is empty.
-/

namespace Conformance

/-- A path of tokens into a value. -/
structure Pointer where
  tokens : List String
deriving DecidableEq

namespace Pointer

/-- The pointer to the whole value. -/
def root : Pointer := ⟨[]⟩

/-- A pointer one step further. -/
def push (pointer : Pointer) (token : String) : Pointer :=
  ⟨pointer.tokens ++ [token]⟩

/-- A character of a token as it is written. -/
def escape (c : Char) : List Char :=
  if c = '~' then ['~', '0'] else if c = '/' then ['~', '1'] else [c]

/-- A token as it is written, behind its slash. -/
def writeToken (token : String) : List Char :=
  '/' :: token.toList.flatMap escape

/-- The text of a pointer. -/
def write (pointer : Pointer) : String :=
  String.ofList (pointer.tokens.flatMap writeToken)

end Pointer

end Conformance
