import Conformance.Json.Reader
import Conformance.Json.Writer
import Conformance.Value.Basic

/-!
# Values and JSON documents

Every JSON document is a value (`Value.ofJson`) and every value is written as a JSON document
(`Value.toJson`), but a document cannot hold all that a value holds.  **What has no JSON form is
written as `null`**: `undefined`, infinities and not-a-number; a field that holds `undefined` is left
out altogether; and a `bigInt` is written as the integer it is, which reads back as a number.

`Value.text` is the compact JSON text of a value and `Value.display` the text in messages, where a
bare `undefined` is called by its name.
-/

namespace Conformance.Value

/-! ## From documents -/

mutual

/-- The value that a JSON document is.  Numbers become the nearest binary64 numbers. -/
def ofJson : Json → Value
  | .null => null
  | .bool b => bool b
  | .number n => number n.toBinary64
  | .string s => string s
  | .array elements => array (ofJsonElements elements)
  | .object members => object (ofJsonMembers members)

/-- `ofJson` on the elements of an array. -/
def ofJsonElements : List Json → List Value
  | [] => []
  | element :: rest => ofJson element :: ofJsonElements rest

/-- `ofJson` on the contents of members. -/
def ofJsonMembers : List (String × Json) → List (String × Value)
  | [] => []
  | (key, content) :: rest => (key, ofJson content) :: ofJsonMembers rest

end

/-- The value that a JSON text is. -/
def parse? (text : String) : Option Value :=
  (Json.parse? text).map ofJson

/-! ## To documents -/

/-- The JSON form of a number, `null` if it is not finite. -/
def numberToJson (x : Binary64) : Json :=
  match Json.Number.ofBinary64? x with
  | some n => .number n
  | none => .null

mutual

/-- The JSON document that a value is written as. -/
def toJson : Value → Json
  | undefined => .null
  | null => .null
  | bool b => .bool b
  | number x => numberToJson x
  | bigInt n => .number (.ofInt64 n)
  | string s => .string s
  | array elements => .array (toJsonElements elements)
  | object fields => .object (toJsonFields fields)

/-- `toJson` on the elements of an array. -/
def toJsonElements : List Value → List Json
  | [] => []
  | element :: rest => element.toJson :: toJsonElements rest

/-- `toJson` on the contents of fields, without those that hold `undefined`. -/
def toJsonFields : List (String × Value) → List (String × Json)
  | [] => []
  | (name, content) :: rest =>
    if content.isUndefined then toJsonFields rest
    else (name, content.toJson) :: toJsonFields rest

end

/-- The compact JSON text of a value. -/
def text (v : Value) : String :=
  v.toJson.write

/-- The text of a value in messages. -/
def display (v : Value) : String :=
  if v.isUndefined then "undefined" else v.text

end Conformance.Value
