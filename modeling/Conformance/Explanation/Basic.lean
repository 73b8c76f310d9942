import Conformance.Schema.Basic

/-!
# Explanations

An `Explanation` says why a schema rejects a value.  It is a tree that follows the schema: each node
names a value and the schema that rejected it.

* A `leaf` is a value of the wrong kind: nothing inside it was looked at.
* A `node` was looked into, and its causes say what was found there: a part of the value that is
  rejected (`Cause.within`), a member that is missing, or the same value rejected by one of several
  schemas.

`==` compares values and schemas with their own equality.
-/

namespace Conformance

/-- A step from a value into one of its parts. -/
inductive Step where
  | name (key : String)
  | index (i : Nat)
deriving DecidableEq

mutual

/-- Why a value is rejected. -/
inductive Explanation where
  | leaf (value : Value) (isNot : Schema)
  | node (value : Value) (isNot : Schema) (since : List Cause)

/-- One reason for a rejection. -/
inductive Cause where
  | within (step : Step) (why : Explanation)
  | missing (key : String)
  | same (why : Explanation)

end

namespace Explanation

/-- The value that is rejected. -/
def value : Explanation → Value
  | leaf value _ => value
  | node value _ _ => value

/-- The schema that rejects the value. -/
def isNot : Explanation → Schema
  | leaf _ isNot => isNot
  | node _ isNot _ => isNot

/-- The causes, if the value was looked into. -/
def since? : Explanation → Option (List Cause)
  | leaf _ _ => none
  | node _ _ since => some since

end Explanation

mutual

/-- Equality of explanations.  Not reflexive, since neither values nor literals are. -/
def Explanation.beq : Explanation → Explanation → Bool
  | .leaf v s, .leaf w t => v == w && s == t
  | .node v s left, .node w t right => v == w && s == t && Cause.beqAll left right
  | _, _ => false
termination_by structural e => e

/-- Equality of causes. -/
def Cause.beq : Cause → Cause → Bool
  | .within i e, .within j f => i == j && e.beq f
  | .missing k, .missing l => k == l
  | .same e, .same f => e.beq f
  | _, _ => false
termination_by structural c => c

/-- Equality of causes, place by place. -/
def Cause.beqAll : List Cause → List Cause → Bool
  | [], [] => true
  | c :: left, d :: right => c.beq d && Cause.beqAll left right
  | _, _ => false
termination_by structural causes => causes

end

instance : BEq Explanation := ⟨Explanation.beq⟩

end Conformance
