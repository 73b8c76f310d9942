/-!
# What can be wrong with a schema

A `SchemaError` is a reason why a wire form is no schema, or why a schema has no wire form.  None of
them is about values: a value that a schema rejects is explained, not an error.
-/

namespace Conformance

/-- What is wrong with a schema. -/
inductive SchemaError where
  /-- An object holds no keyword, or several. -/
  | invalidForm
  /-- A bare string names no primitive. -/
  | unknownPrimitive (name : String)
  /-- An object holds something beside the known keywords. -/
  | unknownKeyword (keyword : String)
  /-- A literal is no scalar, or a number without a JSON form. -/
  | invalidLiteral
  /-- Two members have the same key, or a required member has a key that looks marked. -/
  | ambiguousMember (key : String)
deriving DecidableEq

namespace SchemaError

/-- The wording of an error. -/
def message : SchemaError → String
  | invalidForm => "invalid schema form"
  | unknownPrimitive name => "unknown primitive: " ++ name
  | unknownKeyword keyword => "unknown schema keyword: " ++ keyword
  | invalidLiteral => "literal schemas may only hold strings, numbers or booleans"
  | ambiguousMember key => "ambiguous member: " ++ key

end SchemaError

end Conformance
