/-!
# Limits on nesting

A check enters one schema after the other, each at its depth: the outermost schema at depth 0, the
schemas inside it at depth 1.  A `Limit` says at which depths a check may go on, and with which error
it ends otherwise.

* `Limit.unbounded` never ends a check.  **It has no errors at all**, so that a check without a limit
  has a plain result (`certain`).
* `Limit.maxDepth n` lets a check enter schemas at the depths below `n`.
-/

namespace Conformance

/-- Why a check was given up. -/
inductive CheckError where
  | maxDepthExceeded
deriving DecidableEq

/-- The wording of an error. -/
def CheckError.message : CheckError → String
  | maxDepthExceeded => "maximum schema depth exceeded during validation"

/-- A rule on the depths that a check may enter, with errors from `ε`. -/
structure Limit (ε : Type) where
  enter : (depth : Nat) → Except ε Unit

namespace Limit

/-- No limit. -/
def unbounded : Limit Empty :=
  ⟨fun _ => .ok ()⟩

/-- Depths below `n` only. -/
def maxDepth (n : Nat) : Limit CheckError :=
  ⟨fun depth => if depth < n then .ok () else .error .maxDepthExceeded⟩

end Limit

/-- The result of what cannot fail. -/
def certain {α : Type} : Except Empty α → α
  | .ok a => a
  | .error impossible => nomatch impossible

end Conformance
