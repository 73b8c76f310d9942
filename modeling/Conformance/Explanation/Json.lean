import Conformance.Explanation.Basic
import Conformance.Schema.Document
import Conformance.Value.Json

/-!
# Explanations as JSON documents

An explanation is written as an object with the rejected `value`, the schema that it `isNot`, and
`since` when it is a node.  Causes stand in the list `since`: a rejected part starts with the step
`atKey`, a name or an index; a missing member is an object with the one member `missingKey`; and a
cause about the same value is written like an explanation by itself.

**A rejected `undefined` has no member `value`**, so that it is not taken for `null`.  Writing fails
if one of the schemas has no wire form.
-/

namespace Conformance

/-- A step in a document: a string for a name and a number for an index.  An index that no JSON
integer holds, which only an array beyond all memory has, is its digits in a list, so that **different
steps are always written differently**. -/
def Step.toJson : Step → Json
  | name key => .string key
  | index i =>
    if inRange : Json.InIntegerRange i then .number (.integer i inRange)
    else .array [.string (String.ofList (Decimal.digitsOf i))]

namespace Explanation

/-- The member that holds the rejected value. -/
def valueMember (value : Value) : List (String × Json) :=
  if value.isUndefined then [] else [("value", value.toJson)]

end Explanation

mutual

/-- The members of an explanation's object. -/
def Explanation.members : Explanation → Except SchemaError (List (String × Json))
  | .leaf value isNot => do
    let isNot ← isNot.toJson
    .ok (Explanation.valueMember value ++ [("isNot", isNot)])
  | .node value isNot since => do
    let isNot ← isNot.toJson
    let since ← Cause.allToJson since
    .ok (Explanation.valueMember value ++ [("isNot", isNot), ("since", .array since)])
termination_by structural e => e

/-- The documents of causes, in order. -/
def Cause.allToJson : List Cause → Except SchemaError (List Json)
  | [] => .ok []
  | cause :: rest => do
    let j ← cause.toJson
    let js ← Cause.allToJson rest
    .ok (j :: js)
termination_by structural causes => causes

/-- The document of a cause. -/
def Cause.toJson : Cause → Except SchemaError Json
  | .within step why => do
    let members ← why.members
    .ok (.object (("atKey", step.toJson) :: members))
  | .missing key => .ok (.object [("missingKey", .string key)])
  | .same why => do
    let members ← why.members
    .ok (.object members)
termination_by structural c => c

end

namespace Explanation

/-- The JSON document of an explanation. -/
def toJson (e : Explanation) : Except SchemaError Json := do
  let members ← e.members
  .ok (.object members)

/-- The compact JSON text of an explanation. -/
def text (e : Explanation) : Except SchemaError String :=
  e.toJson.map Json.write

end Explanation

end Conformance
