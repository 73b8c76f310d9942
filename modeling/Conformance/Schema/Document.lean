import Conformance.Json.Reader
import Conformance.Json.Writer
import Conformance.Schema.Wire
import Conformance.Text.Place
import Conformance.Wire.Reader

/-!
# Schemas in JSON documents

A schema is loaded from a document in two steps: the document must have the shape of a wire form, and
the wire form must mean a schema.  **A wrong shape anywhere is found first**, however early another
defect stands.  `Schema.load` does both, and `Schema.loadText` reads the document from text
(`Json.loadText`), where **what follows the document is looked at last**.

`Schema.toJson` and `Schema.text` write a schema, if it has a wire form.
-/

namespace Conformance

/-- Why no schema could be loaded. -/
inductive LoadError where
  /-- The text is no JSON document. -/
  | notJson
  /-- The document does not have the shape of a schema. -/
  | mismatch
  /-- The document has the shape and means no schema. -/
  | defect (error : SchemaError)
deriving DecidableEq

namespace LoadError

/-- The wording of an error; there is none for text that is no JSON.  A defect is worded as a message
about a document. -/
def message? : LoadError → Option String
  | notJson => none
  | mismatch => some "data did not match any variant of untagged enum SerdeSchema"
  | defect error => some (Text.Place.normalize error.message)

end LoadError

/-- What `load` makes of the document at the front of a text.  Only when it has made something of it
is the text refused for what follows the document. -/
def Json.loadText {α : Type} (load : Json → Except LoadError α) (text : String) :
    Except LoadError α :=
  match Json.readFirst? text with
  | none => .error .notJson
  | some (j, rest) => do
    let loaded ← load j
    if rest.all Json.isBlank then .ok loaded else .error .notJson

namespace WireSchema

/-- The wire form that a document is. -/
def load (j : Json) : Except LoadError WireSchema :=
  match ofJson? j with
  | some wire => .ok wire
  | none => .error .mismatch

/-- The wire form that a text is. -/
def loadText (text : String) : Except LoadError WireSchema :=
  Json.loadText load text

/-- The compact JSON text of a wire form. -/
def text (wire : WireSchema) : String :=
  wire.toJson.write

end WireSchema

namespace Schema

/-- The schema that a document means. -/
def load (j : Json) : Except LoadError Schema := do
  let wire ← WireSchema.load j
  (ofWire wire).mapError .defect

/-- The schema that a text means. -/
def loadText (text : String) : Except LoadError Schema :=
  Json.loadText load text

/-- The JSON document of a schema. -/
def toJson (schema : Schema) : Except SchemaError Json :=
  schema.toWire.map WireSchema.toJson

/-- The compact JSON text of a schema. -/
def text (schema : Schema) : Except SchemaError String :=
  schema.toJson.map Json.write

end Schema

end Conformance
