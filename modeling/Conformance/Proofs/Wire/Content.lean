import Conformance.Schema.Wire
import Mathlib.Tactic.Common

/-!
# Wire forms with one keyword

A wire form that means anything but a primitive holds one keyword and nothing else.  `Content` is what
such a keyword holds and `Content.alone` the wire form.
-/

namespace Conformance

/-- The keyword of a literal in that spelling. -/
def LiteralSpelling.keyword : LiteralSpelling → Keyword
  | literal => .literal
  | matching => .matching

/-- What a keyword holds. -/
inductive Content where
  | literal (spelling : LiteralSpelling) (j : Json)
  | object (members : List (String × WireSchema))
  | oneOf (wires : List WireSchema)
  | allOf (wires : List WireSchema)
  | arrayOf (wire : WireSchema)

namespace Content

/-- The keyword that holds the content. -/
def keyword : Content → Keyword
  | literal spelling _ => spelling.keyword
  | object _ => .object
  | oneOf _ => .oneOf
  | allOf _ => .allOf
  | arrayOf _ => .arrayOf

/-- Keywords with the content added or replaced. -/
def addTo (keywords : Keywords WireSchema) : Content → Keywords WireSchema
  | literal .literal j => { keywords with literal := some j }
  | literal .matching j => { keywords with matching := some j }
  | object members => { keywords with object := some members }
  | oneOf wires => { keywords with oneOf := some wires }
  | allOf wires => { keywords with allOf := some wires }
  | arrayOf wire => { keywords with arrayOf := some wire }

/-- The wire form with that content and nothing else. -/
def alone (content : Content) : WireSchema :=
  .keywords (content.addTo {})

end Content

end Conformance
