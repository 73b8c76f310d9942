import Conformance.Decimal.Layout
import Conformance.Json.Writer
import Conformance.Schema.Basic
import Conformance.Text.Visible

/-!
# Schemas in constructor notation

`Schema.dump` writes a schema as the constructors that it is made of, for people who look for a
mistake.  **Every schema has such a text**, also one without a wire form, and it tells apart what the
wire form does not: the kind of a literal and whether a member is required.

Strings stand in quotes here too, but in quotes of their own (`Schema.dumpString`): a character
without a glyph is written by its number, whatever else it is.
-/

namespace Conformance.Schema

/-- Floats are plain from `0.0001` up to sixteen digits before the point; other exponents have no
sign unless they are negative.  Of two equally near texts the greater one is written. -/
def dumpLayout : Decimal.Layout where
  plainFrom := -4
  plainUpTo := 15
  plusSign := false
  tie := .up

/-- The text of a number, finite or not. -/
def dumpNumber : Binary64 → String
  | .nan => "NaN"
  | .infinite true => "-inf"
  | .infinite false => "inf"
  | .finite x => dumpLayout.write x

/-- A character inside quotes. -/
def dumpChar (c : Char) : List Char :=
  match c with
  | '\x00' => ['\\', '0']
  | '\t' => ['\\', 't']
  | '\r' => ['\\', 'r']
  | '\n' => ['\\', 'n']
  | '"' => ['\\', '"']
  | '\\' => ['\\', '\\']
  | c =>
    if Text.isVisible c then [c]
    else '\\' :: 'u' :: '\x7b' :: Nat.toDigits 16 c.toNat ++ ['\x7d']

/-- A string in quotes. -/
def dumpString (s : String) : String :=
  String.ofList ('"' :: s.toList.flatMap dumpChar ++ ['"'])

/-- A constructor with its argument. -/
def applied (constructor argument : String) : String :=
  constructor ++ "(" ++ argument ++ ")"

/-- A constructor with two arguments that have names. -/
def labelled (constructor name argument name' argument' : String) : String :=
  constructor ++ " \x7b " ++ name ++ ": " ++ argument ++ ", " ++ name' ++ ": " ++ argument' ++ " \x7d"

def dumpBool (b : Bool) : String :=
  if b then "true" else "false"

def dumpPrimitive : Primitive → String
  | .string => "String"
  | .boolean => "Boolean"
  | .number => "Number"
  | .null => "Null"

def dumpScalar : Scalar → String
  | .string s => applied "String" (dumpString s)
  | .number x => applied "Number" (dumpNumber x)
  | .bool b => applied "Bool" (dumpBool b)
  | .bigInt n => applied "BigInt" (Json.writeInteger n.toInt)

def dumpSpelling : LiteralSpelling → String
  | .literal => "Literal"
  | .matching => "Match"

mutual

/-- The constructors of a schema. -/
def dumpForm : Schema → String
  | primitive p => applied "Primitive" (dumpPrimitive p)
  | literal value spelling =>
    labelled "Literal" "value" (dumpScalar value) "keyword" (dumpSpelling spelling)
  | object members =>
    applied "Object" ("\x7b" ++ ", ".intercalate (dumpMembers members) ++ "\x7d")
  | oneOf schemas => applied "OneOf" ("[" ++ ", ".intercalate (dumpAll schemas) ++ "]")
  | allOf schemas => applied "AllOf" ("[" ++ ", ".intercalate (dumpAll schemas) ++ "]")
  | arrayOf element => applied "ArrayOf" element.dumpForm

/-- The constructors of all schemas of a list. -/
def dumpAll : List Schema → List String
  | [] => []
  | schema :: rest => schema.dumpForm :: dumpAll rest

/-- The constructors of members, each behind its key. -/
def dumpMembers : List (String × Member Schema) → List String
  | [] => []
  | (key, member) :: rest =>
    (dumpString key ++ ": " ++ labelled "Member" "schema" member.schema.dumpForm
      "required" (dumpBool member.required)) :: dumpMembers rest

end

/-- A schema in constructor notation. -/
def dump (schema : Schema) : String :=
  applied "Type" schema.dumpForm

end Conformance.Schema
