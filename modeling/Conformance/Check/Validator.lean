import Conformance.Check.Basic

/-!
# Validators

A `Validator` checks values under a configured limit on nesting, if there is one.  Its answers are
those of `Schema.accepts`, `Schema.coerce?` and `Schema.explain`, unless the check was given up.  **A
check that was given up has no answer**: neither a verdict nor an explanation.
-/

namespace Conformance

/-- A configuration for checks. -/
structure Validator where
  /-- The depths that a check may enter, all of them if there is no number. -/
  maxDepth : Option Nat := none

namespace Validator

/-- The same validator with another limit. -/
def withMaxDepth (_ : Validator) (n : Nat) : Validator :=
  { maxDepth := some n }

/-- Why a schema rejects a value, as far as the limit allows to say. -/
def check (validator : Validator) (mode : Mode) (schema : Schema) (value : Value) :
    Except CheckError (Option Explanation) :=
  match validator.maxDepth with
  | some n => schema.check (.maxDepth n) mode 0 value
  | none => .ok (certain (schema.check .unbounded mode 0 value))

/-- Whether a schema accepts a value. -/
def accepts (validator : Validator) (schema : Schema) (value : Value) : Except CheckError Bool := do
  let why ← validator.check .failFast schema value
  .ok why.isNone

/-- The value itself, if the schema accepts it. -/
def coerce? (validator : Validator) (schema : Schema) (value : Value) :
    Except CheckError (Option Value) := do
  let accepted ← validator.accepts schema value
  .ok (if accepted then some value else none)

/-- All the reasons why a schema rejects a value, or nothing if it accepts it. -/
def explain (validator : Validator) (schema : Schema) (value : Value) :
    Except CheckError (Option Explanation) :=
  validator.check .exhaustive schema value

end Validator

end Conformance
