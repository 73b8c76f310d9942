import Conformance.Explanation.Basic
import Conformance.Pointer
import Conformance.Schema.Document
import Conformance.Value.Json

/-!
# Failures

An explanation is flattened into a list of failures (`Explanation.failures`), each with a pointer to
the part of the value that is rejected, in the order of the tree.

**Not every node is a failure of its own.**  A leaf is one, and so is a choice or an intersection,
which comes before the failures of its parts; an object or an array that was looked into only passes
on what was found inside.  A missing member is a failure at the place where it should have been.

A failure is reported in one line (`Failure.line`) and an explanation in one line for each failure
(`Explanation.report`).  A line that names a schema cannot be written if the schema has no wire form.
-/

namespace Conformance

/-- The kinds of failures. -/
inductive FailureKind where
  | typeMismatch
  | notAnObject
  | notAnArray
  | missingRequiredKey
  | noAlternativeMatched
  | intersectionMemberFailed
deriving DecidableEq

/-- How a value fails a schema that rejects it. -/
def FailureKind.ofSchema : Schema → FailureKind
  | .primitive _ => typeMismatch
  | .literal _ _ => typeMismatch
  | .object _ => notAnObject
  | .oneOf _ => noAlternativeMatched
  | .allOf _ => intersectionMemberFailed
  | .arrayOf _ => notAnArray

/-- A single thing that is wrong with a value. -/
structure Failure where
  /-- Where it is wrong. -/
  path : Pointer
  kind : FailureKind
  /-- The rejected part, unless it is a member that is missing. -/
  value : Option Value
  /-- The schema that rejects the part, or asks for the member. -/
  schema : Schema

/-- The token of a step. -/
def Step.token : Step → String
  | name key => key
  | index i => String.ofList (Decimal.digitsOf i)

/-- The failure of a whole value at a schema. -/
def Failure.ofRejection (path : Pointer) (value : Value) (schema : Schema) : Failure :=
  ⟨path, .ofSchema schema, some value, schema⟩

/-- The failure of a node that was looked into, if it counts as one. -/
def Failure.ofNode (path : Pointer) (value : Value) (schema : Schema) : List Failure :=
  match schema with
  | .oneOf _ | .allOf _ => [.ofRejection path value schema]
  | _ => []

mutual

/-- The failures of an explanation for the part of a value at a path. -/
def Explanation.failuresAt (path : Pointer) : Explanation → List Failure
  | .leaf value isNot => [.ofRejection path value isNot]
  | .node value isNot since => Failure.ofNode path value isNot ++ Cause.failuresAt path isNot since
termination_by structural e => e

/-- The failures of the causes of a node at a path. -/
def Cause.failuresAt (path : Pointer) (isNot : Schema) : List Cause → List Failure
  | [] => []
  | .within step why :: rest =>
    why.failuresAt (path.push step.token) ++ Cause.failuresAt path isNot rest
  | .missing key :: rest =>
    ⟨path.push key, .missingRequiredKey, none, isNot⟩ :: Cause.failuresAt path isNot rest
  | .same why :: rest => why.failuresAt path ++ Cause.failuresAt path isNot rest
termination_by structural causes => causes

end

/-- All failures of an explanation, in order. -/
def Explanation.failures (e : Explanation) : List Failure :=
  e.failuresAt .root

/-! ## Reports -/

namespace Failure

/-- The text of a path in reports, where the empty one is called the root. -/
def place (path : Pointer) : String :=
  if path.tokens.isEmpty then "(root)" else path.write

/-- What is wrong, in words. -/
def complaint (failure : Failure) : Except SchemaError String :=
  let found := (failure.value.map Value.typeName).getD "nothing"
  match failure.kind with
  | .typeMismatch => do
    let expected ← failure.schema.text
    .ok ("expected " ++ expected ++
      (failure.value.map fun value => ", found " ++ value.display).getD "")
  | .notAnObject => .ok ("expected an object, found " ++ found)
  | .notAnArray => .ok ("expected an array, found " ++ found)
  | .missingRequiredKey => .ok "missing required key"
  | .noAlternativeMatched => .ok "no alternative matched"
  | .intersectionMemberFailed => .ok "not every member of the intersection matched"

/-- The line of a failure in a report. -/
def line (failure : Failure) : Except SchemaError String := do
  let complaint ← failure.complaint
  .ok (place failure.path ++ ": " ++ complaint)

end Failure

/-- The lines of failures, in order. -/
def Failure.lines : List Failure → Except SchemaError (List String)
  | [] => .ok []
  | failure :: rest => do
    let line ← failure.line
    let lines ← lines rest
    .ok (line :: lines)

/-- The report of an explanation, a line for each failure. -/
def Explanation.report (e : Explanation) : Except SchemaError String := do
  let lines ← Failure.lines e.failures
  .ok ("\n".intercalate lines)

end Conformance
