import Conformance.Check.Limit
import Conformance.Explanation.Basic

/-!
# Checking values

`Schema.check` looks for the reasons why a schema rejects a value, and finds none exactly when the
schema accepts it.  It enters the schemas one after the other under a `Limit`.

Object schemas, intersections and arrays collect a cause for each part that is rejected.  How many
they collect is the `Mode`: **`failFast` ends a node with its first cause**, `exhaustive` visits
everything.  A choice is the same in both modes: it is over with the first alternative that accepts,
and otherwise all alternatives are named.

Two parts of a schema are passed over in silence: a member that is not required and not present, and
whatever lies inside a value of the wrong kind.  A field that holds `undefined` is not present.
-/

namespace Conformance

/-- How many causes a check collects. -/
inductive Mode where
  | failFast
  | exhaustive
deriving DecidableEq

/-- The causes found at one part and at the `others` after it, which are not looked at if the mode
is content with what was found. -/
def Mode.collect {ε : Type} (mode : Mode) (found : Option Cause)
    (others : Unit → Except ε (List Cause)) : Except ε (List Cause) :=
  match found with
  | none => others ()
  | some cause =>
    match mode with
    | .failFast => .ok [cause]
    | .exhaustive => (others ()).map (cause :: ·)

/-- A value that was looked into is rejected if there are causes. -/
def conclude (value : Value) (schema : Schema) : List Cause → Option Explanation
  | [] => none
  | causes => some (.node value schema causes)

/-- The cause at one member, whose field is judged if it is present. -/
def checkMember {ε : Type} (judge : Value → Except ε (Option Explanation)) (key : String)
    (required : Bool) (fields : List (String × Value)) : Except ε (Option Cause) :=
  match Value.present? fields key with
  | none => .ok (if required then some (.missing key) else none)
  | some field => do
    let why ← judge field
    .ok (why.map (.within (.name key)))

/-- The causes at the elements of an array from an index on, each judged by itself. -/
def checkElements {ε : Type} (mode : Mode) (judge : Value → Except ε (Option Explanation)) :
    (index : Nat) → List Value → Except ε (List Cause)
  | _, [] => .ok []
  | index, element :: rest => do
    let why ← judge element
    mode.collect (why.map (.within (.index index)))
      fun _ => checkElements mode judge (index + 1) rest

namespace Schema

variable {ε : Type}

mutual

/-- Why a schema at a depth rejects a value. -/
def check (limit : Limit ε) (mode : Mode) (depth : Nat) (schema : Schema) (value : Value) :
    Except ε (Option Explanation) := do
  limit.enter depth
  match schema with
  | primitive p => .ok (if p.accepts value then none else some (.leaf value schema))
  | literal scalar _ => .ok (if scalar.accepts value then none else some (.leaf value schema))
  | object members =>
    match value with
    | .object fields => do
      let causes ← checkMembers limit mode (depth + 1) members fields
      .ok (conclude value schema causes)
    | _ => .ok (some (.leaf value schema))
  | oneOf alternatives => do
    let causes ← checkAlternatives limit mode (depth + 1) alternatives value
    .ok (causes.map (.node value schema))
  | allOf parts => do
    let causes ← checkParts limit mode (depth + 1) parts value
    .ok (conclude value schema causes)
  | arrayOf element =>
    match value with
    | .array elements => do
      let causes ← checkElements mode (element.check limit mode (depth + 1)) 0 elements
      .ok (conclude value schema causes)
    | _ => .ok (some (.leaf value schema))
termination_by structural schema

/-- The causes at the members of an object schema. -/
def checkMembers (limit : Limit ε) (mode : Mode) (depth : Nat)
    (members : List (String × Member Schema)) (fields : List (String × Value)) :
    Except ε (List Cause) :=
  match members with
  | [] => .ok []
  | (key, member) :: rest => do
    let found ← checkMember (member.schema.check limit mode depth) key member.required fields
    mode.collect found fun _ => checkMembers limit mode depth rest fields
termination_by structural members

/-- The causes at all alternatives of a choice, or nothing if one of them accepts the value. -/
def checkAlternatives (limit : Limit ε) (mode : Mode) (depth : Nat) (alternatives : List Schema)
    (value : Value) : Except ε (Option (List Cause)) :=
  match alternatives with
  | [] => .ok (some [])
  | alternative :: rest => do
    let why ← alternative.check limit mode depth value
    match why with
    | none => .ok none
    | some why => do
      let others ← checkAlternatives limit mode depth rest value
      .ok (others.map (.same why :: ·))
termination_by structural alternatives

/-- The causes at the parts of an intersection. -/
def checkParts (limit : Limit ε) (mode : Mode) (depth : Nat) (parts : List Schema)
    (value : Value) : Except ε (List Cause) :=
  match parts with
  | [] => .ok []
  | part :: rest => do
    let why ← part.check limit mode depth value
    mode.collect (why.map .same) fun _ => checkParts limit mode depth rest value
termination_by structural parts

end

/-! ## Without a limit -/

/-- Whether a schema accepts a value.  Looks no further than the first cause. -/
def accepts (schema : Schema) (value : Value) : Bool :=
  (certain (schema.check .unbounded .failFast 0 value)).isNone

/-- The value itself, if the schema accepts it.  **Nothing is ever converted.** -/
def coerce? (schema : Schema) (value : Value) : Option Value :=
  if schema.accepts value then some value else none

/-- All the reasons why a schema rejects a value, or nothing if it accepts it. -/
def explain (schema : Schema) (value : Value) : Option Explanation :=
  certain (schema.check .unbounded .exhaustive 0 value)

end Schema

end Conformance
